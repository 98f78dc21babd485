import Orbital.AbiRegistry.CanonicalJson

/-! # `abi-registry/src/attestation.ts`

A signed document and what a verifier checks of it. The host says which addresses are
well formed, which signatures are valid and which instant a timestamp names.
-/

namespace Orbital.AbiRegistry

open Foundation

/-- An envelope by its members; the payload is an object. -/
structure AttestationEnvelope where
  v : JsValue
  payload : List (JsString × JsValue)
  publicKey : JsString
  signature : JsString

namespace Attestation

/-- What the verifier takes from its libraries. -/
structure Host where
  /-- `StrKey.isValidEd25519PublicKey` -/
  isValidEd25519PublicKey : JsString → Bool
  sha256 : Bytes → Bytes
  /-- `Keypair.fromPublicKey` and `verify` with the decoded signature; no exception -/
  verifies : JsString → Bytes → JsString → Bool
  /-- `Date.parse`, none for `NaN` -/
  dateParse : JsString → Option Int

def attestationEnvelopeVersion : JsNumber :=
  NumberLiteral.toNumber ⟨false, 1, [], none⟩

def isNumber (value : JsValue) (number : JsNumber) : Bool :=
  match value with
  | .leaf (.number found) => found == number
  | _ => false

def isText (value : Option JsValue) (text : JsString) : Bool :=
  match value with
  | some (.leaf (.string found)) => found == text
  | _ => false

def sep53MessagePrefix : JsString :=
  js "Stellar Signed Message:\n"

def isDigit (unit : CodeUnit) : Bool :=
  (Digits.digit? unit).isSome

/-- `DOMAIN_RE` behind its first letter -/
def domainTail : JsString → Bool
  | [] => false
  | unit :: rest =>
      (match unit :: rest with
        | dash :: version :: first :: digits =>
            dash == 0x2D && version == 0x76 && isDigit first && first != 0x30 &&
              digits.all isDigit
        | _ => false) ||
      (((0x61 ≤ unit && unit ≤ 0x7A) || isDigit unit || unit == 0x2D) && domainTail rest)

/-- `DOMAIN_RE` -/
def isDomain : JsString → Bool
  | [] => false
  | first :: rest => 0x61 ≤ first && first ≤ 0x7A && domainTail rest

def afterDigits : Nat → JsString → Option JsString
  | 0, text => some text
  | count + 1, unit :: rest => if isDigit unit then afterDigits count rest else none
  | _ + 1, [] => none

def afterUnit (expected : CodeUnit) : JsString → Option JsString
  | unit :: rest => if unit = expected then some rest else none
  | [] => none

def isOffset : JsString → Bool
  | [unit] => unit == 0x5A
  | sign :: rest =>
      (sign == 0x2B || sign == 0x2D) &&
        ((afterDigits 2 rest).bind (afterUnit 0x3A)).bind (afterDigits 2) == some []
  | [] => false

def isFractionAndOffset (text : JsString) : Bool :=
  match text with
  | unit :: rest =>
      if unit == 0x2E then
        rest.takeWhile isDigit != [] && isOffset (rest.dropWhile isDigit)
      else isOffset text
  | [] => false

/-- `TIMESTAMP_RE` -/
def isTimestamp (text : JsString) : Bool :=
  let date := do
    let month ← (afterDigits 4 text).bind (afterUnit 0x2D)
    let day ← (afterDigits 2 month).bind (afterUnit 0x2D)
    let hour ← (afterDigits 2 day).bind (afterUnit 0x54)
    let minute ← (afterDigits 2 hour).bind (afterUnit 0x3A)
    let second ← (afterDigits 2 minute).bind (afterUnit 0x3A)
    afterDigits 2 second
  match date with
  | some rest => isFractionAndOffset rest
  | none => false

section Verify

variable (host : Host)

def attestationSigningDigest (document : List (JsString × JsValue)) (domain : JsString) :
    Option Bytes :=
  if isDomain domain then
    match canonicalizeJson (.object document) with
    | .ok text => some (host.sha256 (utf8 (sep53MessagePrefix ++ domain ++ js "\n" ++ text)))
    | .error _ => none
  else none

inductive AttestationInvalidCode
  | unsupportedVersion
  | badPublicKey
  | attesterMismatch
  | badSignature
  | malformedExpiry
  | expired
  | notAWasmAttestation
  | wasmHashMismatch
  deriving DecidableEq

def expiryInstant : JsValue → Option Int
  | .leaf (.string text) => if isTimestamp text then host.dateParse text else none
  | _ => none

def attestationExpiryProblem (payload : List (JsString × JsValue)) (now : Int) :
    Option AttestationInvalidCode :=
  match JsValue.member? payload (js "expiresAt") with
  | none => none
  | some value =>
      match expiryInstant host value with
      | none => some .malformedExpiry
      | some instant => if instant ≤ now then some .expired else none

def signatureProblem (envelope : AttestationEnvelope) (domain : JsString) :
    Option AttestationInvalidCode :=
  if !isNumber envelope.v attestationEnvelopeVersion then some .unsupportedVersion
  else if !host.isValidEd25519PublicKey envelope.publicKey then some .badPublicKey
  else if !isText (JsValue.member? envelope.payload (js "attester")) envelope.publicKey then
    some .attesterMismatch
  else
    match attestationSigningDigest host envelope.payload domain with
    | none => some .badSignature
    | some digest =>
        if host.verifies envelope.publicKey digest envelope.signature then none
        else some .badSignature

def Signed (envelope : AttestationEnvelope) (domain : JsString) : Prop :=
  ∃ digest, attestationSigningDigest host envelope.payload domain = some digest ∧
    host.verifies envelope.publicKey digest envelope.signature = true

variable {host}

variable {envelope : AttestationEnvelope} {domain : JsString}

theorem canonicalizeJson_of_signed (signed : Signed host envelope domain) :
    ∃ text, canonicalizeJson (.object envelope.payload) = .ok text := by
  rcases signed with ⟨digest, digests, -⟩
  rw [attestationSigningDigest] at digests
  split at digests
  · split at digests
    · rename_i text written
      exact ⟨text, written⟩
    · cases digests
  · cases digests

theorem signed_of_signatureProblem (verified : signatureProblem host envelope domain = none) :
    isText (JsValue.member? envelope.payload (js "attester")) envelope.publicKey = true ∧
      Signed host envelope domain := by
  rw [signatureProblem] at verified
  split at verified
  · cases verified
  · split at verified
    · cases verified
    · split at verified
      · cases verified
      · rename_i isAttester
        split at verified
        · cases verified
        · rename_i digest digests
          split at verified
          · rename_i valid
            exact ⟨by simpa using isAttester, digest, digests, valid⟩
          · cases verified

theorem signatureProblem_of_signed
    (version : isNumber envelope.v attestationEnvelopeVersion = true)
    (valid : host.isValidEd25519PublicKey envelope.publicKey = true)
    (attester : isText (JsValue.member? envelope.payload (js "attester")) envelope.publicKey = true)
    (signed : Signed host envelope domain) : signatureProblem host envelope domain = none := by
  rcases signed with ⟨digest, digests, verified⟩
  rw [signatureProblem, version, valid, attester, digests]
  exact if_pos verified

end Verify

end Attestation

end Orbital.AbiRegistry
