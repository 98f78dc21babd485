import Orbital.Foundation.Text

/-! # Bytes as hexadecimal digits

A byte is written as two digits, the high half first. A reader takes both cases of a
letter, so several strings spell the same bytes; the writer uses lower case.
-/

namespace Orbital.Foundation

def hexDigit (unit : CodeUnit) : Option Nat :=
  if 0x30 ≤ unit.toNat ∧ unit.toNat ≤ 0x39 then some (unit.toNat - 0x30)
  else if 0x41 ≤ unit.toNat ∧ unit.toNat ≤ 0x46 then some (unit.toNat - 0x41 + 10)
  else if 0x61 ≤ unit.toNat ∧ unit.toNat ≤ 0x66 then some (unit.toNat - 0x61 + 10)
  else none

def hexUnit (value : Nat) : CodeUnit :=
  UInt16.ofNat (if value < 10 then 0x30 + value else 0x61 + (value - 10))

def hexPair (high low : CodeUnit) : Option UInt8 := do
  return UInt8.ofNat ((← hexDigit high) * 16 + (← hexDigit low))

def toHex (bytes : Bytes) : List CodeUnit :=
  bytes.flatMap fun byte => [hexUnit (byte.toNat / 16), hexUnit (byte.toNat % 16)]

/-- A unit as the decoder takes it, by its low byte. -/
def lowByte (unit : CodeUnit) : CodeUnit :=
  UInt16.ofNat (unit.toNat % 0x100)

/-- `Buffer.from(text, "hex")`: the bytes of the pairs of digits a string starts with. -/
def leadingHex : List CodeUnit → Bytes
  | [] | [_] => []
  | high :: low :: rest =>
      match hexPair (lowByte high) (lowByte low) with
      | none => []
      | some byte => byte :: leadingHex rest

def HexPairs (text : List CodeUnit) : Prop :=
  text.length % 2 = 0 ∧ ∀ unit ∈ text, (hexDigit unit).isSome

instance (text : List CodeUnit) : Decidable (HexPairs text) :=
  inferInstanceAs (Decidable (_ ∧ _))

def Spells (text : List CodeUnit) (bytes : Bytes) : Prop :=
  HexPairs text ∧ leadingHex text = bytes

instance (text : List CodeUnit) (bytes : Bytes) : Decidable (Spells text bytes) :=
  inferInstanceAs (Decidable (_ ∧ _))

theorem HexPairs.nil : HexPairs [] :=
  ⟨rfl, fun _ member => absurd member List.not_mem_nil⟩

theorem hexPairs_cons_cons {high low : CodeUnit} {rest : List CodeUnit} :
    HexPairs (high :: low :: rest) ↔
      (hexDigit high).isSome ∧ (hexDigit low).isSome ∧ HexPairs rest := by
  simp only [HexPairs, List.length_cons, List.forall_mem_cons]
  have even : (rest.length + 1 + 1) % 2 = rest.length % 2 := by omega
  rw [even]
  exact ⟨fun ⟨even, left, right, digits⟩ => ⟨left, right, even, digits⟩,
    fun ⟨left, right, even, digits⟩ => ⟨even, left, right, digits⟩⟩

theorem hexPair_eq {high low : CodeUnit} {left right : Nat}
    (isLeft : hexDigit high = some left) (isRight : hexDigit low = some right) :
    hexPair high low = some (UInt8.ofNat (left * 16 + right)) := by
  rw [hexPair, isLeft, isRight]
  rfl

theorem lowByte_of_hexDigit {unit : CodeUnit} {value : Nat} (digit : hexDigit unit = some value) :
    lowByte unit = unit := by
  have small : unit.toNat < 0x100 := by
    simp only [hexDigit] at digit
    split_ifs at digit <;> omega
  rw [lowByte, Nat.mod_eq_of_lt small, UInt16.ofNat_toNat]

theorem leadingHex_cons_cons {high low : CodeUnit} {byte : UInt8}
    (pair : hexPair high low = some byte) (rest : List CodeUnit) :
    leadingHex (high :: low :: rest) = byte :: leadingHex rest := by
  have digits := pair
  simp only [hexPair, Option.bind_eq_bind, Option.bind_eq_some_iff] at digits
  rcases digits with ⟨left, isLeft, right, isRight, -⟩
  rw [leadingHex, lowByte_of_hexDigit isLeft, lowByte_of_hexDigit isRight, pair]

/-! ## Reading what was written -/

theorem hexDigit_hexUnit {value : Nat} (small : value < 16) :
    hexDigit (hexUnit value) = some value := by
  have digits : ∀ digit : Fin 16, hexDigit (hexUnit digit) = some digit.val := by decide
  exact digits ⟨value, small⟩

theorem hexPair_hexUnit (byte : UInt8) :
    hexPair (hexUnit (byte.toNat / 16)) (hexUnit (byte.toNat % 16)) = some byte := by
  have small := UInt8.toNat_lt byte
  have halves : byte.toNat / 16 * 16 + byte.toNat % 16 = byte.toNat := by omega
  rw [hexPair_eq (hexDigit_hexUnit (by omega)) (hexDigit_hexUnit (by omega)), halves,
    UInt8.ofNat_toNat]

theorem toHex_cons (byte : UInt8) (rest : Bytes) :
    toHex (byte :: rest) =
      hexUnit (byte.toNat / 16) :: hexUnit (byte.toNat % 16) :: toHex rest :=
  rfl

theorem leadingHex_toHex (bytes : Bytes) : leadingHex (toHex bytes) = bytes := by
  induction bytes with
  | nil => rfl
  | cons byte rest induction =>
      rw [toHex_cons, leadingHex_cons_cons (hexPair_hexUnit byte), induction]

theorem hexPairs_toHex (bytes : Bytes) : HexPairs (toHex bytes) := by
  induction bytes with
  | nil => exact HexPairs.nil
  | cons byte rest induction =>
      have small := UInt8.toNat_lt byte
      rw [toHex_cons, hexPairs_cons_cons, hexDigit_hexUnit (by omega),
        hexDigit_hexUnit (by omega)]
      exact ⟨rfl, rfl, induction⟩

end Orbital.Foundation
