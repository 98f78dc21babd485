import Orbital.Foundation.Hex

/-! # The three verifiers of a webhook

`verifyWebhookRaw` runs on Node, `verifyWebhookEdgeRaw` and `verifyWebhookEdgeStream`
on the Web Crypto API. Each checks size, time and signature in its own order and with
its own reading of the signature. HMAC is a function of key and message, and numbers
are whatever the language has: of their order only that a body does not get shorter by
growing is used.
-/

namespace Orbital.PulseWebhooks

open Foundation

abbrev Text := List CodeUnit

class Numbers (Number : Type) where
  ofNat : Nat → Number
  /-- `Number(text)` of a string of decimal digits. -/
  ofDigits : Text → Number
  isFinite : Number → Bool
  add : Number → Number → Number
  sub : Number → Number → Number
  lt : Number → Number → Bool
  lt_of_le : ∀ {limit : Number} {small large : Nat}, small ≤ large →
    lt limit (ofNat small) → lt limit (ofNat large)

/-- What the verifiers are given by the platform: HMAC-SHA256 of a key and a message,
`JSON.parse`, which fails on the empty string, and the clock at the time of the call. -/
structure Platform (Number Event : Type) where
  hmac : Bytes → Bytes → { digest : Bytes // digest.length = 32 }
  parseJson : Text → Option Event
  parseJson_nil : parseJson [] = none
  now : Number

/-- `schema` answers `none` where the hook throws. -/
structure VerifyWebhookOptions (Number Event : Type) where
  maxAgeMs : Option Number
  clockSkewMs : Option Number
  nowMs : Option Number
  maxBodyBytes : Option Number
  schema : Option (Event → Option Bool)

variable {Number Event : Type} [Numbers Number]

def defaultMaxAgeMs : Number :=
  Numbers.ofNat 300000

def defaultClockSkewMs : Number :=
  Numbers.ofNat 30000

def defaultMaxBodyBytes : Number :=
  Numbers.ofNat 100000

def isDigits (timestamp : Text) : Bool :=
  !timestamp.isEmpty && timestamp.all fun unit => 0x30 ≤ unit.toNat && unit.toNat ≤ 0x39

def signedPayload (timestamp payload : Text) : Text :=
  timestamp ++ 0x2E :: payload

def signWebhookPayload (platform : Platform Number Event) (payload timestamp secret : Text) :
    Text :=
  toHex (platform.hmac (utf8 secret) (utf8 (signedPayload timestamp payload))).val

def verifyWebhookRaw (platform : Platform Number Event) (payload signature secret timestamp : Text)
    (options : VerifyWebhookOptions Number Event) : Bool :=
  let maxBodyBytes := options.maxBodyBytes.getD defaultMaxBodyBytes
  if Numbers.lt maxBodyBytes (Numbers.ofNat (utf8 payload).length) then false
  else if !isDigits timestamp then false
  else
    let timestampMs : Number := Numbers.ofDigits timestamp
    if !Numbers.isFinite timestampMs then false
    else
      let maxAgeMs := options.maxAgeMs.getD defaultMaxAgeMs
      let clockSkewMs := options.clockSkewMs.getD defaultClockSkewMs
      let nowMs := options.nowMs.getD platform.now
      if Numbers.lt (Numbers.add nowMs clockSkewMs) timestampMs then false
      else if Numbers.lt timestampMs (Numbers.sub (Numbers.sub nowMs maxAgeMs) clockSkewMs) then
        false
      else
        let expected := signWebhookPayload platform payload timestamp secret
        -- `Buffer.from(text, "hex")` stops at the first pair that is not hexadecimal
        let expectedBuffer := leadingHex expected
        let signatureBuffer := leadingHex signature
        if expectedBuffer.length ≠ signatureBuffer.length then false
        else expectedBuffer == signatureBuffer

/-! ## Web Crypto -/

/-- `signature.match(/.{2}/g)` -/
def pairsOf : Text → List (CodeUnit × CodeUnit)
  | [] | [_] => []
  | high :: low :: rest => (high, low) :: pairsOf rest

/-- `parseInt(byte, 16)` of two hexadecimal digits. -/
def parsePair (pair : CodeUnit × CodeUnit) : UInt8 :=
  (hexPair pair.1 pair.2).getD 0

def parseSignatureHex (signature : Text) : Option Bytes :=
  if signature.length = 0 ∨ signature.length % 2 ≠ 0 ∨
      ¬ signature.all fun unit => (hexDigit unit).isSome then none
  else some ((pairsOf signature).map parsePair)

/-- `crypto.subtle.importKey` of a raw HMAC key: a key without a bit is a `DataError`. -/
def importKey (keyData : Bytes) : Option Bytes :=
  if keyData.length = 0 then none else some keyData

/-- The comparison loop: the bits in which the two differ, collected in `result`. -/
def difference (expectedBytes signatureBytes : Bytes) : UInt8 :=
  (List.range expectedBytes.length).foldl
    (fun result index =>
      result ||| (expectedBytes.getD index 0 ^^^ signatureBytes.getD index 0)) 0

def verifyWebhookEdgeRaw (platform : Platform Number Event)
    (payload signature secret timestamp : Text) (options : VerifyWebhookOptions Number Event) :
    Bool :=
  let maxBodyBytes := options.maxBodyBytes.getD defaultMaxBodyBytes
  if Numbers.lt maxBodyBytes (Numbers.ofNat (utf8 payload).length) then false
  else if !isDigits timestamp then false
  else
    let timestampMs : Number := Numbers.ofDigits timestamp
    if !Numbers.isFinite timestampMs then false
    else
      let clockSkewMs := options.clockSkewMs.getD defaultClockSkewMs
      let nowMs := options.nowMs.getD platform.now
      if Numbers.lt (Numbers.add nowMs clockSkewMs) timestampMs then false
      else
        let maxAgeMs := options.maxAgeMs.getD defaultMaxAgeMs
        if Numbers.lt timestampMs (Numbers.sub (Numbers.sub nowMs maxAgeMs) clockSkewMs) then
          false
        else
          match parseSignatureHex signature with
          | none => false
          | some signatureBytes =>
              match importKey (utf8 secret) with
              | none => false
              | some key =>
                  let expectedBytes :=
                    (platform.hmac key (utf8 (signedPayload timestamp payload))).val
                  if expectedBytes.length ≠ signatureBytes.length then false
                  else difference expectedBytes signatureBytes == 0

/-- The reading loop: the chunks read before, their length, and the chunks to come. It
gives up as soon as the limit is passed. -/
def readChunks (maxBodyBytes : Number) (chunks : List Bytes) (totalLength : Nat) :
    List Bytes → Option (List Bytes)
  | [] => some chunks
  | value :: rest =>
      if Numbers.lt maxBodyBytes (Numbers.ofNat (totalLength + value.length)) then none
      else readChunks maxBodyBytes (chunks ++ [value]) (totalLength + value.length) rest

/-- `JSON.parse` and the schema hook. -/
def parseEvent (platform : Platform Number Event) (options : VerifyWebhookOptions Number Event)
    (body : Text) : Option Event := do
  let evt ← platform.parseJson body
  match options.schema with
  | none => return evt
  | some schema =>
      match schema evt with
      | none | some false => none
      | some true => return evt

def verifyWebhookEdgeStream (platform : Platform Number Event) (stream : List Bytes)
    (signature secret timestamp : Text) (options : VerifyWebhookOptions Number Event) :
    Option (Event × Text) :=
  if !isDigits timestamp then none
  else
    let timestampMs : Number := Numbers.ofDigits timestamp
    if !Numbers.isFinite timestampMs then none
    else
      let clockSkewMs := options.clockSkewMs.getD defaultClockSkewMs
      let nowMs := options.nowMs.getD platform.now
      if Numbers.lt (Numbers.add nowMs clockSkewMs) timestampMs then none
      else
        let maxAgeMs := options.maxAgeMs.getD defaultMaxAgeMs
        if Numbers.lt timestampMs (Numbers.sub (Numbers.sub nowMs maxAgeMs) clockSkewMs) then none
        else
          match parseSignatureHex signature with
          | none => none
          | some signatureBytes =>
              let maxBodyBytes := options.maxBodyBytes.getD defaultMaxBodyBytes
              match importKey (utf8 secret) with
              | none => none
              | some key =>
                  match readChunks maxBodyBytes [] 0 stream with
                  | none => none
                  | some chunks =>
                      let bodyBytes := chunks.flatten
                      let body := units (decode bodyBytes)
                      let expectedBytes :=
                        (platform.hmac key (utf8 (signedPayload timestamp body))).val
                      if expectedBytes.length ≠ signatureBytes.length then none
                      else if difference expectedBytes signatureBytes ≠ 0 then none
                      else (parseEvent platform options body).map fun evt => (evt, body)

end Orbital.PulseWebhooks

/-! ## What the verifiers accept

Each verifier is reduced to the same three questions: whether the body is within its
limit, whether the timestamp is within the window, and whether the signature stands for
the expected bytes. They part ways only where the signature is read.
-/

namespace Orbital.PulseWebhooks

open Foundation

variable {Number Event : Type} [Numbers Number]

def withinLimit (options : VerifyWebhookOptions Number Event) (length : Nat) : Bool :=
  !Numbers.lt (options.maxBodyBytes.getD defaultMaxBodyBytes) (Numbers.ofNat length)

def withinWindow (platform : Platform Number Event) (options : VerifyWebhookOptions Number Event)
    (timestamp : Text) : Bool :=
  let timestampMs : Number := Numbers.ofDigits timestamp
  let nowMs := options.nowMs.getD platform.now
  let clockSkewMs := options.clockSkewMs.getD defaultClockSkewMs
  let maxAgeMs := options.maxAgeMs.getD defaultMaxAgeMs
  isDigits timestamp && Numbers.isFinite timestampMs &&
    !Numbers.lt (Numbers.add nowMs clockSkewMs) timestampMs &&
    !Numbers.lt timestampMs (Numbers.sub (Numbers.sub nowMs maxAgeMs) clockSkewMs)

def expectedBytes (platform : Platform Number Event) (payload secret timestamp : Text) : Bytes :=
  (platform.hmac (utf8 secret) (utf8 (signedPayload timestamp payload))).val

/-- The payload as a reader of its bytes gets it, with no half of a pair left alone. -/
def wellFormed (payload : Text) : Text :=
  units (scalars payload)

variable (platform : Platform Number Event) (payload : Text)

omit [Numbers Number] in
theorem length_expectedBytes (secret timestamp : Text) :
    (expectedBytes platform payload secret timestamp).length = 32 :=
  (platform.hmac _ _).property

/-! ## Reading a signature -/

variable {signature timestamp : Text} {bytes expected : Bytes} {stream : List Bytes}

theorem pairsOf_parsePair (pairs : HexPairs signature) :
    (pairsOf signature).map parsePair = leadingHex signature := by
  induction signature using pairsOf.induct with
  | case1 | case2 unit => rfl
  | case3 high low rest induction =>
      rcases hexPairs_cons_cons.mp pairs with ⟨isLeft, isRight, inRest⟩
      rcases Option.isSome_iff_exists.mp isLeft with ⟨left, leftDigit⟩
      rcases Option.isSome_iff_exists.mp isRight with ⟨right, rightDigit⟩
      have pair := hexPair_eq leftDigit rightDigit
      have parsed : parsePair (high, low) = UInt8.ofNat (left * 16 + right) := by
        rw [parsePair, pair]
        rfl
      rw [leadingHex_cons_cons pair, pairsOf, List.map_cons, parsed, induction inRest]

theorem parseSignatureHex_eq_some :
    parseSignatureHex signature = some bytes ↔ signature ≠ [] ∧ Spells signature bytes := by
  rw [parseSignatureHex, Spells, HexPairs]
  simp only [List.length_eq_zero_iff, List.all_eq_true]
  constructor
  · intro parsed
    split at parsed
    · cases parsed
    · rename_i accepted
      rw [not_or, not_or, not_not, not_not] at accepted
      have pairs : HexPairs signature := accepted.2
      cases parsed
      exact ⟨accepted.1, accepted.2, (pairsOf_parsePair pairs).symm⟩
  · rintro ⟨some, pairs, bytesRead⟩
    rw [if_neg (by rw [not_or, not_or, not_not, not_not]; exact ⟨some, pairs⟩),
      pairsOf_parsePair pairs, bytesRead]

/-- Comparing lengths first makes no difference to comparing. -/
theorem bytes_beq (expected signature : Bytes) :
    (if expected.length ≠ signature.length then false else expected == signature) =
      decide (signature = expected) := by
  split
  · rename_i different
    refine (decide_eq_false ?_).symm
    intro same
    exact different (congrArg List.length same.symm)
  · rw [Bool.eq_iff_iff, beq_iff_eq, decide_eq_true_eq, eq_comm]

private theorem foldl_or_eq_zero {indices : List Nat} {bit : Nat → UInt8} {start : UInt8} :
    indices.foldl (fun result index => result ||| bit index) start = 0 ↔
      start = 0 ∧ ∀ index ∈ indices, bit index = 0 := by
  induction indices generalizing start with
  | nil => simp
  | cons index rest induction =>
      rw [List.foldl_cons, induction, UInt8.or_eq_zero_iff, List.forall_mem_cons, and_assoc]

theorem difference_eq_zero {signature : Bytes} (length : expected.length = signature.length) :
    difference expected signature = 0 ↔ signature = expected := by
  rw [difference, foldl_or_eq_zero]
  constructor
  · rintro ⟨-, equal⟩
    refine List.ext_getElem length.symm ?_
    intro index inside alsoInside
    have here := equal index (List.mem_range.mpr alsoInside)
    rw [UInt8.xor_eq_zero_iff, List.getD_eq_getElem?_getD, List.getD_eq_getElem?_getD,
      List.getElem?_eq_getElem alsoInside, List.getElem?_eq_getElem inside] at here
    exact here.symm
  · intro same
    subst same
    exact ⟨rfl, fun index _ => UInt8.xor_self⟩

theorem bytes_difference (expected signature : Bytes) :
    (if expected.length ≠ signature.length then false
      else difference expected signature == 0) = decide (signature = expected) := by
  split
  · rename_i different
    refine (decide_eq_false ?_).symm
    intro same
    exact different (congrArg List.length same.symm)
  · rename_i length
    rw [Bool.eq_iff_iff, beq_iff_eq, decide_eq_true_eq,
      difference_eq_zero (not_not.mp length)]

theorem guarded_difference (expected signature : Bytes) (accepted : Option Result) :
    (if expected.length ≠ signature.length then none
      else if difference expected signature ≠ 0 then none else accepted) =
      if signature = expected then accepted else none := by
  split
  · rename_i different
    refine (if_neg ?_).symm
    intro same
    exact different (congrArg List.length same.symm)
  · rename_i length
    rw [ite_not]
    exact if_congr (difference_eq_zero (not_not.mp length)) rfl rfl

/-! ## Each verifier by the same three questions -/

theorem verifyWebhookRaw_eq (signature secret timestamp : Text)
    (options : VerifyWebhookOptions Number Event) :
    verifyWebhookRaw platform payload signature secret timestamp options =
      (withinLimit options (utf8 payload).length && withinWindow platform options timestamp &&
        decide (leadingHex signature = expectedBytes platform payload secret timestamp)) := by
  rw [verifyWebhookRaw, withinLimit, withinWindow]
  dsimp only
  rw [signWebhookPayload, leadingHex_toHex, bytes_beq]
  simp only [Bool.if_false_left, Bool.decide_eq_true, Bool.not_not, Bool.and_assoc]
  rfl

theorem importKey_utf8 (secret : Text) :
    importKey (utf8 secret) = if secret = [] then none else some (utf8 secret) := by
  rw [importKey]
  exact if_congr (List.length_eq_zero_iff.trans utf8_eq_nil) rfl rfl

theorem Spells.ne_nil (spells : Spells signature bytes) (length : bytes.length = 32) :
    signature ≠ [] := by
  intro empty
  subst empty
  have none : bytes = [] := spells.2.symm
  rw [none] at length
  cases length

theorem accepted_iff {secret : Text} {signatureBytes : Bytes} (some : secret ≠ [])
    (spelled : Spells signature signatureBytes) :
    secret ≠ [] ∧ Spells signature expected ↔ signatureBytes = expected := by
  constructor
  · rintro ⟨-, spells⟩
    exact spelled.2.symm.trans spells.2
  · intro same
    exact ⟨some, spelled.1, spelled.2.trans same⟩

/-- The key of an empty secret is not imported, and a signature that is read at all is
read as pairs of digits. -/
theorem verifyWebhookEdgeRaw_eq (signature secret timestamp : Text)
    (options : VerifyWebhookOptions Number Event) :
    verifyWebhookEdgeRaw platform payload signature secret timestamp options =
      (withinLimit options (utf8 payload).length && withinWindow platform options timestamp &&
        decide (secret ≠ [] ∧
          Spells signature (expectedBytes platform payload secret timestamp))) := by
  have length := length_expectedBytes platform payload secret timestamp
  rw [verifyWebhookEdgeRaw, withinLimit, withinWindow, importKey_utf8]
  simp only [Bool.if_false_left, Bool.decide_eq_true, Bool.not_not, Bool.and_assoc]
  congr 5
  cases parsed : parseSignatureHex signature with
  | none =>
      refine (decide_eq_false ?_).symm
      rintro ⟨-, spells⟩
      have taken := parseSignatureHex_eq_some.mpr ⟨Spells.ne_nil spells length, spells⟩
      rw [parsed] at taken
      cases taken
  | some signatureBytes =>
      have spelled := (parseSignatureHex_eq_some.mp parsed).2
      by_cases empty : secret = []
      · rw [if_pos empty]
        exact (decide_eq_false fun both => both.1 empty).symm
      · rw [if_neg empty]
        dsimp only
        rw [← Bool.if_false_left, bytes_difference, decide_eq_decide]
        exact (accepted_iff empty spelled).symm

/-! ## The stream -/

theorem readChunks_eq_some {limit : Number} {chunks read : List Bytes} {total : Nat}
    (taken : readChunks limit chunks total stream = some read) : read = chunks ++ stream := by
  induction stream generalizing chunks total with
  | nil =>
      rw [List.append_nil]
      exact (Option.some.inj taken).symm
  | cons value rest induction =>
      rw [readChunks] at taken
      split at taken
      · cases taken
      · rw [induction taken, List.append_assoc]
        rfl

/-- The limit is asked for after every chunk; the last time decides. -/
theorem readChunks_isSome (limit : Number) (chunks : List Bytes) (total : Nat)
    (some : stream ≠ []) :
    (readChunks limit chunks total stream).isSome =
      !Numbers.lt limit (Numbers.ofNat (total + stream.flatten.length)) := by
  induction stream generalizing chunks total with
  | nil => exact absurd rfl some
  | cons value rest induction =>
      have longer : total + value.length ≤ total + (value :: rest).flatten.length := by
        rw [List.flatten_cons, List.length_append]
        omega
      rw [readChunks]
      split
      · rename_i exceeded
        rw [Numbers.lt_of_le longer exceeded]
        rfl
      · rename_i allowed
        cases rest with
        | nil =>
            rw [List.flatten_singleton, Bool.not_eq_true] at *
            rw [allowed]
            rfl
        | cons next rest =>
            rw [induction _ _ (List.cons_ne_nil next rest), List.flatten_cons (l := value),
              List.length_append, Nat.add_assoc]

omit [Numbers Number] in
/-- No event is the empty body. -/
theorem parseEvent_nil (options : VerifyWebhookOptions Number Event) :
    parseEvent platform options [] = none := by
  rw [parseEvent, platform.parseJson_nil]
  rfl

theorem verifyWebhookEdgeStream_eq (stream : List Bytes) (signature secret timestamp : Text)
    (options : VerifyWebhookOptions Number Event) :
    verifyWebhookEdgeStream platform stream signature secret timestamp options =
      if withinLimit options stream.flatten.length && withinWindow platform options timestamp &&
          decide (secret ≠ [] ∧ Spells signature
            (expectedBytes platform (units (decode stream.flatten)) secret timestamp)) then
        (parseEvent platform options (units (decode stream.flatten))).map
          fun evt => (evt, units (decode stream.flatten))
      else none := by
  have length := length_expectedBytes platform (units (decode stream.flatten)) secret timestamp
  rw [verifyWebhookEdgeStream, importKey_utf8]
  by_cases window : withinWindow platform options timestamp
  · rw [window, Bool.and_true]
    simp only [withinWindow, Bool.and_eq_true, Bool.not_eq_true'] at window
    rcases window with ⟨⟨⟨digits, finite⟩, future⟩, past⟩
    simp only [digits, finite, future, past, Bool.not_true, Bool.false_eq_true, if_false]
    cases parsed : parseSignatureHex signature with
    | none =>
        refine (if_neg ?_).symm
        intro accepted
        have spells := (of_decide_eq_true (Bool.and_eq_true_iff.mp accepted).2).2
        have taken := parseSignatureHex_eq_some.mpr ⟨Spells.ne_nil spells length, spells⟩
        rw [parsed] at taken
        cases taken
    | some signatureBytes =>
        have spelled := (parseSignatureHex_eq_some.mp parsed).2
        by_cases empty : secret = []
        · rw [if_pos empty]
          refine (if_neg ?_).symm
          intro accepted
          exact (of_decide_eq_true (Bool.and_eq_true_iff.mp accepted).2).1 empty
        · have same : decide (secret ≠ [] ∧ Spells signature
              (expectedBytes platform (units (decode stream.flatten)) secret timestamp)) =
              decide (signatureBytes =
                expectedBytes platform (units (decode stream.flatten)) secret timestamp) :=
            decide_eq_decide.mpr (accepted_iff empty spelled)
          rw [if_neg empty, same]
          dsimp only
          cases read : readChunks (options.maxBodyBytes.getD defaultMaxBodyBytes) [] 0
            stream with
          | none =>
              have nonempty : stream ≠ [] := by
                intro none
                rw [none] at read
                cases read
              have exceeded := readChunks_isSome
                (options.maxBodyBytes.getD defaultMaxBodyBytes) [] 0 nonempty
              rw [read, Nat.zero_add] at exceeded
              rw [withinLimit, ← exceeded]
              rfl
          | some chunks =>
              have all : chunks = stream := readChunks_eq_some read
              subst all
              dsimp only
              cases chunks with
              | nil =>
                  have unparsed : parseEvent platform options
                      (units (decode ([] : List Bytes).flatten)) = none :=
                    parseEvent_nil platform options
                  rw [unparsed, Option.map_none, ite_self, ite_self, ite_self]
              | cons value rest =>
                  have allowed := readChunks_isSome
                    (options.maxBodyBytes.getD defaultMaxBodyBytes) [] 0
                    (List.cons_ne_nil value rest)
                  rw [read, Nat.zero_add] at allowed
                  rw [withinLimit, ← allowed, Option.isSome_some, Bool.true_and]
                  refine (guarded_difference _ _ _).trans (if_congr ?_ rfl rfl)
                  exact decide_eq_true_iff.symm
  · have closed : withinWindow platform options timestamp = false := Bool.eq_false_iff.mpr window
    rw [closed, Bool.and_false, Bool.false_and, if_neg Bool.false_ne_true]
    simp only [withinWindow, Bool.and_eq_true, Bool.not_eq_true', not_and_or,
      Bool.not_eq_true, Bool.not_eq_false] at window
    rcases window with ((no | no) | no) | no <;>
      simp only [no, Bool.not_false, if_true, ite_self]

/-! ## Agreement -/

theorem below_surrogates (digits : isDigits timestamp) :
    ∀ unit ∈ timestamp, unit.isHighSurrogate = false := by
  intro unit member
  rw [isDigits, Bool.and_eq_true, List.all_eq_true] at digits
  have digit := digits.2 unit member
  rw [Bool.and_eq_true, decide_eq_true_eq, decide_eq_true_eq] at digit
  rw [CodeUnit.isHighSurrogate, Bool.and_eq_false_iff, decide_eq_false_iff_not]
  omega

omit [Numbers Number] in
/-- Halves of pairs that stand alone are signed as the replacement character, which is
what a reader of the bytes finds in their place. -/
theorem expectedBytes_wellFormed (digits : isDigits timestamp) (payload secret : Text) :
    expectedBytes platform (wellFormed payload) secret timestamp =
      expectedBytes platform payload secret timestamp := by
  have dot : CodeUnit.isHighSurrogate 0x2E = false := rfl
  have message : utf8 (signedPayload timestamp (wellFormed payload)) =
      utf8 (signedPayload timestamp payload) := by
    rw [signedPayload, signedPayload, utf8, utf8, scalars_append (below_surrogates digits),
      scalars_append (below_surrogates digits), scalars_cons dot, scalars_cons dot, wellFormed,
      scalars_units]
  rw [expectedBytes, message, expectedBytes]

theorem withinWindow_digits {platform : Platform Number Event}
    {options : VerifyWebhookOptions Number Event}
    (within : withinWindow platform options timestamp) : isDigits timestamp := by
  simp only [withinWindow, Bool.and_eq_true] at within
  exact within.1.1.1

theorem stream_body {payload : Text} (no : payload.head? ≠ some 0xFEFF)
    (bytes : stream.flatten = utf8 payload) :
    units (decode stream.flatten) = wellFormed payload := by
  rw [bytes, utf8, decode_encode, dropByteOrderMark_eq_self (head?_scalars_ne no), wellFormed]

/-- Node and the edge agree on strings of hexadecimal digits, the stream agrees with the
edge and then asks for an event, and what is accepted is the expected bytes in
hexadecimal. -/
theorem verifiers_agree (platform : Platform Number Event)
    (payload signature secret timestamp : Text) (options : VerifyWebhookOptions Number Event) :
    (secret ≠ [] → HexPairs signature →
      verifyWebhookRaw platform payload signature secret timestamp options =
        verifyWebhookEdgeRaw platform payload signature secret timestamp options) ∧
    (∀ stream : List Bytes, stream.flatten = utf8 payload → payload.head? ≠ some 0xFEFF →
      verifyWebhookEdgeStream platform stream signature secret timestamp options =
        if verifyWebhookEdgeRaw platform payload signature secret timestamp options then
          (parseEvent platform options (wellFormed payload)).map
            fun evt => (evt, wellFormed payload)
        else none) ∧
    (secret ≠ [] →
      (verifyWebhookEdgeRaw platform payload signature secret timestamp options ↔
        withinLimit options (utf8 payload).length ∧ withinWindow platform options timestamp ∧
          Spells signature (expectedBytes platform payload secret timestamp))) := by
  refine ⟨?_, ?_, ?_⟩
  · intro some pairs
    rw [verifyWebhookRaw_eq, verifyWebhookEdgeRaw_eq]
    refine congrArg _ (decide_eq_decide.mpr ?_)
    exact ⟨fun same => ⟨some, pairs, same⟩, fun spells => spells.2.2⟩
  · intro stream bytes no
    have body := stream_body no bytes
    rw [verifyWebhookEdgeStream_eq, verifyWebhookEdgeRaw_eq, body, bytes]
    by_cases within : withinWindow platform options timestamp
    · rw [expectedBytes_wellFormed platform (withinWindow_digits within)]
    · rw [Bool.not_eq_true] at within
      rw [within, Bool.and_false, Bool.false_and, Bool.false_and]
  · intro some
    rw [verifyWebhookEdgeRaw_eq, Bool.and_eq_true, Bool.and_eq_true, decide_eq_true_eq, and_assoc]
    exact and_congr_right fun _ => and_congr_right fun _ => and_iff_right some

/-! ## Signatures of two bodies -/

def decimal (timestamp : Text) : Int :=
  timestamp.foldl (fun value unit => value * 10 + (unit.toNat - 0x30)) 0

/-- Whole numbers, as the language has them below `2 ^ 53`. -/
instance : Numbers Int where
  ofNat := Int.ofNat
  ofDigits := decimal
  isFinite := fun _ => true
  add := (· + ·)
  sub := (· - ·)
  lt := fun left right => left < right
  lt_of_le := by
    intro limit small large le exceeded
    rw [decide_eq_true_eq] at exceeded ⊢
    exact Int.lt_of_lt_of_le exceeded (Int.ofNat_le.mpr le)

def platformOf (digest : { digest : Bytes // digest.length = 32 }) (json : Text) :
    Platform Int Unit where
  hmac := fun _ _ => digest
  parseJson := fun text => if text ≠ [] ∧ text = json then some () else none
  parseJson_nil := rfl
  now := 1714176000000

def defaults : VerifyWebhookOptions Int Unit where
  maxAgeMs := none
  clockSkewMs := none
  nowMs := none
  maxBodyBytes := none
  schema := none

def secretText : Text :=
  units ['s', 'e', 'c', 'r', 'e', 't']

def timestampText : Text :=
  units ['1', '7', '1', '4', '1', '7', '6', '0', '0', '0', '0', '0', '0']

/-- HMAC-SHA256 under `secret` of `1714176000000.hello`, which is not JSON. -/
def helloDigest : { digest : Bytes // digest.length = 32 } :=
  ⟨[224, 185, 176, 17, 198, 217, 190, 55, 171, 93, 38, 169, 254, 198, 142, 165,
    247, 233, 122, 16, 168, 55, 70, 130, 173, 87, 26, 127, 45, 139, 232, 142], rfl⟩

/-- HMAC-SHA256 under `secret` of `1714176000000.{}`. -/
def objectDigest : { digest : Bytes // digest.length = 32 } :=
  ⟨[139, 206, 67, 27, 187, 201, 197, 240, 220, 178, 124, 122, 141, 254, 115, 149,
    251, 17, 215, 255, 122, 95, 241, 222, 92, 163, 114, 86, 155, 43, 12, 13], rfl⟩

def hello : Text :=
  units ['h', 'e', 'l', 'l', 'o']

def object : Text :=
  [0x7B, 0x7D]

/-- A signed body that is not JSON passes the raw verifiers and not the stream. -/
theorem stream_wants_json :
    verifyWebhookRaw (platformOf helloDigest []) hello (toHex helloDigest.val) secretText
        timestampText defaults = true ∧
      verifyWebhookEdgeRaw (platformOf helloDigest []) hello (toHex helloDigest.val) secretText
        timestampText defaults = true ∧
      [utf8 hello].flatten = utf8 hello ∧
      verifyWebhookEdgeStream (platformOf helloDigest []) [utf8 hello] (toHex helloDigest.val)
        secretText timestampText defaults = none := by
  decide

theorem object_agrees :
    verifyWebhookRaw (platformOf objectDigest object) object (toHex objectDigest.val) secretText
        timestampText defaults =
      verifyWebhookEdgeRaw (platformOf objectDigest object) object (toHex objectDigest.val)
        secretText timestampText defaults ∧
    verifyWebhookEdgeStream (platformOf objectDigest object) [[0x7B], [0x7D]]
        (toHex objectDigest.val) secretText timestampText defaults =
      some ((), object) := by
  have agree := verifiers_agree (platformOf objectDigest object) object (toHex objectDigest.val)
    secretText timestampText defaults
  refine ⟨agree.1 (by decide) (hexPairs_toHex _), (agree.2.1 _ rfl (by decide)).trans ?_⟩
  decide

/-! ## What is signed is accepted -/

/-- Within its limits a signed payload passes all three, the stream if it is an event. -/
theorem signed_is_accepted (timestamp secret : Text) (options : VerifyWebhookOptions Number Event)
    (keyed : secret ≠ []) (within : withinLimit options (utf8 payload).length)
    (inTime : withinWindow platform options timestamp) :
    let signature := signWebhookPayload platform payload timestamp secret
    verifyWebhookRaw platform payload signature secret timestamp options ∧
      verifyWebhookEdgeRaw platform payload signature secret timestamp options ∧
      ∀ stream : List Bytes, stream.flatten = utf8 payload → payload.head? ≠ some 0xFEFF →
        verifyWebhookEdgeStream platform stream signature secret timestamp options =
          (parseEvent platform options (wellFormed payload)).map
            fun evt => (evt, wellFormed payload) := by
  have spelled : Spells (signWebhookPayload platform payload timestamp secret)
      (expectedBytes platform payload secret timestamp) := ⟨hexPairs_toHex _, leadingHex_toHex _⟩
  refine ⟨?_, ?_, ?_⟩
  · simp [verifyWebhookRaw_eq, within, inTime, spelled.2]
  · simp [verifyWebhookEdgeRaw_eq, within, inTime, keyed, spelled]
  · intro stream bytes no
    have signed := expectedBytes_wellFormed platform (withinWindow_digits inTime) payload secret
    rw [verifyWebhookEdgeStream_eq, stream_body no bytes, signed, bytes]
    simp [within, inTime, keyed, spelled]

theorem object_is_accepted :
    verifyWebhookEdgeStream (platformOf objectDigest object) [[0x7B], [0x7D]]
      (toHex objectDigest.val) secretText timestampText defaults = some ((), object) := by
  have accepted := signed_is_accepted (platformOf objectDigest object) object timestampText
    secretText defaults (by decide) (by decide) (by decide)
  exact accepted.2.2 _ rfl (by decide)

end Orbital.PulseWebhooks
