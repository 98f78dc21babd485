import Mathlib.Data.List.Basic
import Mathlib.Data.Char

/-! # Text in two encodings

The strings of the source language are lists of 16-bit code units, in which a
surrogate may stand alone. They are written as UTF-8 with the replacement
character in the place of every lone surrogate. The decoder reads UTF-8 byte by
byte, as the Encoding Standard describes it: what is malformed becomes
replacement characters, and a byte-order mark at the start is dropped.
-/

namespace Orbital.Foundation

abbrev CodeUnit := UInt16

abbrev Bytes := List UInt8

def replacementCharacter : Char :=
  Char.ofNat 0xFFFD

def byteOrderMark : Char :=
  Char.ofNat 0xFEFF

/-! ## Code units -/

namespace CodeUnit

def isHighSurrogate (unit : CodeUnit) : Bool :=
  0xD800 ≤ unit.toNat && unit.toNat ≤ 0xDBFF

def isLowSurrogate (unit : CodeUnit) : Bool :=
  0xDC00 ≤ unit.toNat && unit.toNat ≤ 0xDFFF

def alone (unit : CodeUnit) : Char :=
  if unit.isHighSurrogate || unit.isLowSurrogate then replacementCharacter
  else Char.ofNat unit.toNat

def pair (high low : CodeUnit) : Char :=
  Char.ofNat (0x10000 + (high.toNat - 0xD800) * 0x400 + (low.toNat - 0xDC00))

end CodeUnit

def scalars : List CodeUnit → List Char
  | [] => []
  | [unit] => [unit.alone]
  | high :: low :: rest =>
      if high.isHighSurrogate && low.isLowSurrogate then CodeUnit.pair high low :: scalars rest
      else high.alone :: scalars (low :: rest)

def encode (text : List Char) : Bytes :=
  text.flatMap String.utf8EncodeChar

@[simp] theorem encode_cons (char : Char) (text : List Char) :
    encode (char :: text) = String.utf8EncodeChar char ++ encode text :=
  rfl

@[simp] theorem encode_append (first second : List Char) :
    encode (first ++ second) = encode first ++ encode second :=
  List.flatMap_append

def utf8 (text : List CodeUnit) : Bytes :=
  encode (scalars text)

variable {unit : CodeUnit} {code : Nat} {text : List CodeUnit}

theorem scalars_cons (below : unit.isHighSurrogate = false) (text : List CodeUnit) :
    scalars (unit :: text) = unit.alone :: scalars text := by
  cases text with
  | nil => rfl
  | cons next rest =>
      rw [scalars, below]
      rfl

private theorem toNat_ofNat (valid : code < 0xD800 ∨ 0xDFFF < code ∧ code < 0x110000) :
    (Char.ofNat code).toNat = code := by
  rw [Char.ofNat, dif_pos valid]
  rfl

theorem alone_eq_byteOrderMark (mark : unit.alone = byteOrderMark) : unit = 0xFEFF := by
  have code := congrArg Char.toNat mark
  rw [CodeUnit.alone] at code
  split at code
  · cases code
  · rename_i half
    have small := UInt16.toNat_lt unit
    simp only [CodeUnit.isHighSurrogate, CodeUnit.isLowSurrogate, Bool.or_eq_true,
      Bool.and_eq_true, decide_eq_true_eq] at half
    rw [toNat_ofNat (by omega), byteOrderMark, toNat_ofNat (by omega)] at code
    exact UInt16.toNat_inj.mp code

theorem pair_ne_byteOrderMark {high low : CodeUnit} (isHigh : high.isHighSurrogate)
    (isLow : low.isLowSurrogate) : CodeUnit.pair high low ≠ byteOrderMark := by
  intro mark
  have code := congrArg Char.toNat mark
  rw [CodeUnit.isHighSurrogate, Bool.and_eq_true, decide_eq_true_eq, decide_eq_true_eq] at isHigh
  rw [CodeUnit.isLowSurrogate, Bool.and_eq_true, decide_eq_true_eq, decide_eq_true_eq] at isLow
  rw [CodeUnit.pair, byteOrderMark, toNat_ofNat (by omega), toNat_ofNat (by omega)] at code
  omega

/-- A string that does not start with the mark has no characters that do. -/
theorem head?_scalars_ne (no : text.head? ≠ some 0xFEFF) :
    (scalars text).head? ≠ some byteOrderMark := by
  intro mark
  fun_cases scalars text with
  | case1 => cases mark
  | case2 unit =>
      have alone : unit.alone = byteOrderMark := Option.some.inj mark
      exact no (congrArg some (alone_eq_byteOrderMark alone))
  | case3 high low rest halves =>
      rw [scalars, if_pos halves] at mark
      rw [Bool.and_eq_true] at halves
      exact pair_ne_byteOrderMark halves.1 halves.2 (Option.some.inj mark)
  | case4 high low rest halves =>
      rw [scalars, if_neg halves] at mark
      exact no (congrArg some (alone_eq_byteOrderMark (Option.some.inj mark)))

theorem utf8_eq_nil : utf8 text = [] ↔ text = [] := by
  constructor
  · intro none
    cases text with
    | nil => rfl
    | cons unit rest =>
        have some : scalars (unit :: rest) ≠ [] := by
          cases rest with
          | nil => exact List.cons_ne_nil _ _
          | cons next rest =>
              rw [scalars]
              split <;> exact List.cons_ne_nil _ _
        rcases List.exists_cons_of_ne_nil some with ⟨char, chars, characters⟩
        rw [utf8, characters, encode_cons, List.append_eq_nil_iff] at none
        exact absurd none.1 String.utf8EncodeChar_ne_nil
  · intro empty
    rw [empty]
    rfl

theorem scalars_append {first : List CodeUnit}
    (below : ∀ unit ∈ first, unit.isHighSurrogate = false) (second : List CodeUnit) :
    scalars (first ++ second) = scalars first ++ scalars second := by
  induction first with
  | nil => rfl
  | cons unit rest induction =>
      have unitBelow := below unit List.mem_cons_self
      rw [List.cons_append, scalars_cons unitBelow, scalars_cons unitBelow, List.cons_append,
        induction fun other member => below other (List.mem_cons_of_mem unit member)]

/-! ## The decoder -/

structure Decoder where
  codePoint : Nat
  needed : Nat
  lower : Nat
  upper : Nat
  deriving DecidableEq

namespace Decoder

def idle : Decoder where
  codePoint := 0
  needed := 0
  lower := 0x80
  upper := 0xBF

def lead (byte : Nat) : List Char × Decoder :=
  if byte ≤ 0x7F then ([Char.ofNat byte], idle)
  else if 0xC2 ≤ byte ∧ byte ≤ 0xDF then
    ([], { codePoint := byte - 0xC0, needed := 1, lower := 0x80, upper := 0xBF })
  else if 0xE0 ≤ byte ∧ byte ≤ 0xEF then
    ([], {
      codePoint := byte - 0xE0
      needed := 2
      lower := if byte = 0xE0 then 0xA0 else 0x80
      upper := if byte = 0xED then 0x9F else 0xBF })
  else if 0xF0 ≤ byte ∧ byte ≤ 0xF4 then
    ([], {
      codePoint := byte - 0xF0
      needed := 3
      lower := if byte = 0xF0 then 0x90 else 0x80
      upper := if byte = 0xF4 then 0x8F else 0xBF })
  else ([replacementCharacter], idle)

/-- A byte that does not go on with a character is looked at again as a first one. -/
def next (decoder : Decoder) (byte : Nat) : List Char × Decoder :=
  if decoder.needed = 0 then lead byte
  else if decoder.lower ≤ byte ∧ byte ≤ decoder.upper then
    if decoder.needed = 1 then ([Char.ofNat (decoder.codePoint * 64 + (byte - 0x80))], idle)
    else ([], {
      codePoint := decoder.codePoint * 64 + (byte - 0x80)
      needed := decoder.needed - 1
      lower := 0x80
      upper := 0xBF })
  else (replacementCharacter :: (lead byte).1, (lead byte).2)

def run (decoder : Decoder) : Bytes → List Char
  | [] => if decoder.needed = 0 then [] else [replacementCharacter]
  | byte :: rest => (decoder.next byte.toNat).1 ++ run (decoder.next byte.toNat).2 rest

/-! ### Reading what was written -/

variable {decoder : Decoder} {byte : Nat}

theorem next_between {rest : Nat} (needed : decoder.needed ≠ 0)
    (above : decoder.lower ≤ rest + 0x80) (below : rest + 0x80 ≤ decoder.upper) :
    decoder.next (rest + 0x80) =
      if decoder.needed = 1 then ([Char.ofNat (decoder.codePoint * 64 + rest)], idle)
      else ([], {
        codePoint := decoder.codePoint * 64 + rest
        needed := decoder.needed - 1
        lower := 0x80
        upper := 0xBF }) := by
  rw [next, if_neg needed, if_pos ⟨above, below⟩, Nat.add_sub_cancel]

theorem run_cons (small : byte < 256) (rest : Bytes) :
    decoder.run (UInt8.ofNat byte :: rest) =
      (decoder.next byte).1 ++ (decoder.next byte).2.run rest := by
  have value : (UInt8.ofNat byte).toNat = byte := UInt8.toNat_ofNat_of_lt' small
  rw [run, value]

theorem run_first (small : byte < 256) (rest : Bytes) :
    idle.run (UInt8.ofNat byte :: rest) = (lead byte).1 ++ (lead byte).2.run rest :=
  run_cons small rest

theorem run_last (needed : decoder.needed = 1) {last : Nat} (above : decoder.lower ≤ last + 0x80)
    (below : last + 0x80 ≤ decoder.upper) (small : last < 64) (rest : Bytes) :
    decoder.run (UInt8.ofNat (last + 0x80) :: rest) =
      Char.ofNat (decoder.codePoint * 64 + last) :: idle.run rest := by
  rw [run_cons (by omega), next_between (by omega) above below, if_pos needed]
  rfl

theorem run_between (needed : 1 < decoder.needed) {middle : Nat}
    (above : decoder.lower ≤ middle + 0x80) (below : middle + 0x80 ≤ decoder.upper)
    (small : middle < 64) (rest : Bytes) :
    decoder.run (UInt8.ofNat (middle + 0x80) :: rest) =
      run {
        codePoint := decoder.codePoint * 64 + middle
        needed := decoder.needed - 1
        lower := 0x80
        upper := 0xBF } rest := by
  rw [run_cons (by omega), next_between (by omega) above below, if_neg (by omega)]
  rfl

theorem run_character (char : Char) (rest : Bytes) :
    idle.run (String.utf8EncodeChar char ++ rest) = char :: idle.run rest := by
  have valid : char.toNat < 0xD800 ∨ 0xDFFF < char.toNat ∧ char.toNat < 0x110000 := char.valid
  have same : Char.ofNat char.toNat = char := Char.ofNat_toNat char
  have value : char.val.toNat = char.toNat := rfl
  rw [String.utf8EncodeChar, value]
  generalize char.toNat = code at valid same
  subst same
  split
  · -- one byte
    rename_i small
    rw [List.cons_append, run_first (by omega), lead, if_pos small]
    rfl
  · split
    · -- two bytes
      rw [List.cons_append, run_first (by omega), lead, if_neg (by omega),
        if_pos (by omega), List.nil_append, List.cons_append,
        run_last rfl (by dsimp only; omega) (by dsimp only; omega) (by omega)]
      congr 2
      dsimp only
      omega
    · split
      · -- three bytes
        rw [List.cons_append, run_first (by omega), lead, if_neg (by omega),
          if_neg (by omega), if_pos (by omega), List.nil_append, List.cons_append,
          run_between (by dsimp only; omega) (by dsimp only; split <;> omega)
            (by dsimp only; split <;> omega) (by omega), List.cons_append,
          run_last rfl (by dsimp only; omega) (by dsimp only; omega) (by omega)]
        congr 2
        dsimp only
        omega
      · -- four bytes
        rw [List.cons_append, run_first (by omega), lead, if_neg (by omega),
          if_neg (by omega), if_neg (by omega), if_pos (by omega), List.nil_append,
          List.cons_append,
          run_between (by dsimp only; omega) (by dsimp only; split <;> omega)
            (by dsimp only; split <;> omega) (by omega), List.cons_append,
          run_between (by dsimp only; omega) (by dsimp only; omega) (by dsimp only; omega)
            (by omega), List.cons_append,
          run_last rfl (by dsimp only; omega) (by dsimp only; omega) (by omega)]
        congr 2
        dsimp only
        omega

theorem run_encode (text : List Char) : idle.run (encode text) = text := by
  induction text with
  | nil => rfl
  | cons char rest induction => rw [encode_cons, run_character, induction]

end Decoder

def dropByteOrderMark : List Char → List Char
  | [] => []
  | char :: rest => if char = byteOrderMark then rest else char :: rest

theorem dropByteOrderMark_eq_self {text : List Char} (no : text.head? ≠ some byteOrderMark) :
    dropByteOrderMark text = text := by
  cases text with
  | nil => rfl
  | cons char rest =>
      refine if_neg ?_
      intro mark
      exact no (congrArg some mark)

/-- The characters `new TextDecoder().decode(bytes)` returns. -/
def decode (bytes : Bytes) : List Char :=
  dropByteOrderMark (Decoder.idle.run bytes)

theorem decode_encode (text : List Char) : decode (encode text) = dropByteOrderMark text := by
  rw [decode, Decoder.run_encode]

/-! ## Back to code units -/

def unitsOf (char : Char) : List CodeUnit :=
  if char.toNat < 0x10000 then [UInt16.ofNat char.toNat]
  else
    [UInt16.ofNat (0xD800 + (char.toNat - 0x10000) / 0x400),
      UInt16.ofNat (0xDC00 + (char.toNat - 0x10000) % 0x400)]

def units (text : List Char) : List CodeUnit :=
  text.flatMap unitsOf

private theorem toNat_unit (small : code < 0x10000) : (UInt16.ofNat code).toNat = code :=
  UInt16.toNat_ofNat_of_lt' small

theorem scalars_unitsOf (char : Char) (rest : List CodeUnit) :
    scalars (unitsOf char ++ rest) = char :: scalars rest := by
  have valid : char.toNat < 0xD800 ∨ 0xDFFF < char.toNat ∧ char.toNat < 0x110000 := char.valid
  have same : Char.ofNat char.toNat = char := Char.ofNat_toNat char
  rw [unitsOf]
  generalize char.toNat = code at valid same
  subst same
  split
  · rename_i small
    have high : CodeUnit.isHighSurrogate (UInt16.ofNat code) = false := by
      rw [CodeUnit.isHighSurrogate, toNat_unit small, Bool.and_eq_false_iff,
        decide_eq_false_iff_not, decide_eq_false_iff_not]
      omega
    have low : CodeUnit.isLowSurrogate (UInt16.ofNat code) = false := by
      rw [CodeUnit.isLowSurrogate, toNat_unit small, Bool.and_eq_false_iff,
        decide_eq_false_iff_not, decide_eq_false_iff_not]
      omega
    rw [List.singleton_append, scalars_cons high, CodeUnit.alone, high, low, toNat_unit small]
    rfl
  · have upper : 0xD800 + (code - 0x10000) / 0x400 < 0x10000 := by omega
    have lower : 0xDC00 + (code - 0x10000) % 0x400 < 0x10000 := by omega
    have high :
        CodeUnit.isHighSurrogate (UInt16.ofNat (0xD800 + (code - 0x10000) / 0x400)) = true := by
      rw [CodeUnit.isHighSurrogate, toNat_unit upper, Bool.and_eq_true, decide_eq_true_eq,
        decide_eq_true_eq]
      omega
    have low :
        CodeUnit.isLowSurrogate (UInt16.ofNat (0xDC00 + (code - 0x10000) % 0x400)) = true := by
      rw [CodeUnit.isLowSurrogate, toNat_unit lower, Bool.and_eq_true, decide_eq_true_eq,
        decide_eq_true_eq]
      omega
    have joined : 0x10000 + (0xD800 + (code - 0x10000) / 0x400 - 0xD800) * 0x400 +
        (0xDC00 + (code - 0x10000) % 0x400 - 0xDC00) = code := by
      omega
    rw [List.cons_append, List.singleton_append, scalars, high, low, CodeUnit.pair,
      toNat_unit upper, toNat_unit lower, Bool.and_self, if_pos rfl, joined]

theorem scalars_units (text : List Char) : scalars (units text) = text := by
  induction text with
  | nil => rfl
  | cons char rest induction =>
      rw [units, List.flatMap_cons, scalars_unitsOf]
      exact congrArg (char :: ·) induction

end Orbital.Foundation
