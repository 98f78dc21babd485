import Mathlib.Data.Rat.Floor
import Mathlib.Tactic.Positivity
import Mathlib.Tactic.Ring
import Orbital.Foundation.NumberText

/-! # Decimals with a fixed number of places

A decimal is written with a sign, whole digits, and digits behind a point. Cut off behind a
number of places it is a whole number of the smallest units.
-/

namespace Orbital.Foundation

/-! ## Rows of digits -/

namespace Digits

theorem value_lt (digits : List Digit) : value digits < 10 ^ digits.length := by
  induction digits using List.reverseRecOn with
  | nil => exact Nat.one_pos
  | append_singleton digits digit induction =>
      have small := digit.isLt
      rw [value_append_singleton, List.length_append, List.length_singleton, Nat.pow_succ]
      omega

theorem value_replicate_zero (count : Nat) : value (List.replicate count 0) = 0 := by
  induction count with
  | zero => rfl
  | succ count induction =>
      rw [List.replicate_succ', value_append_singleton, induction]
      rfl

theorem value_take (count : Nat) (digits : List Digit) :
    value ((digits ++ List.replicate count 0).take count) =
      value digits * 10 ^ count / 10 ^ digits.length := by
  have power (exponent : Nat) : 0 < 10 ^ exponent := Nat.pow_pos (by decide)
  rcases Nat.le_total count digits.length with short | long
  · have split := value_append (digits.take count) (digits.drop count)
    have rest := value_lt (digits.drop count)
    have scale : 10 ^ digits.length = 10 ^ (digits.drop count).length * 10 ^ count := by
      rw [← Nat.pow_add, List.length_drop, Nat.sub_add_cancel short]
    rw [List.take_append_drop] at split
    rw [List.take_append_of_le_length short, scale,
      Nat.mul_div_mul_right _ _ (power count), split, Nat.add_comm,
      Nat.add_mul_div_right _ _ (power _), Nat.div_eq_of_lt rest, Nat.zero_add]
  · have scale : 10 ^ count = 10 ^ (count - digits.length) * 10 ^ digits.length := by
      rw [← Nat.pow_add, Nat.sub_add_cancel long]
    rw [List.take_append, List.take_of_length_le long, List.take_replicate, value_append,
      value_replicate_zero, Nat.add_zero, List.length_replicate,
      Nat.min_eq_left (Nat.sub_le _ _), scale, ← Nat.mul_assoc, Nat.mul_div_cancel _ (power _)]

theorem padded_zero (count : Nat) : padded count 0 = List.replicate count 0 := by
  induction count with
  | zero => rfl
  | succ count induction =>
      rw [padded, Nat.zero_div, induction, List.replicate_succ']
      rfl

variable {count number : Nat} {digits : List Digit}

theorem padded_add (small : number < 10 ^ count) (more : Nat) :
    padded (more + count) number = List.replicate more 0 ++ padded count number := by
  induction count generalizing number with
  | zero =>
      have zero : number = 0 := by omega
      rw [zero, Nat.add_zero, padded_zero, padded, List.append_nil]
  | succ count induction =>
      have smaller : number / 10 < 10 ^ count := by
        rw [Nat.pow_succ] at small
        omega
      rw [← Nat.add_assoc, padded, induction smaller, padded, List.append_assoc]

theorem padStart_ofNat (small : number < 10 ^ count) (some : 0 < count) :
    List.replicate (count - (ofNat number).length) 0 ++ ofNat number = padded count number := by
  have fits : Nat.log 10 number + 1 ≤ count := by
    rcases Nat.eq_zero_or_pos number with rfl | positive
    · rw [Nat.log_zero_right]
      omega
    · exact Nat.log_lt_of_lt_pow (by omega) small
  have digits : number < 10 ^ (Nat.log 10 number + 1) :=
    Nat.lt_pow_succ_log_self (by decide) number
  rw [ofNat, length_padded, ← padded_add digits, Nat.sub_add_cancel fits]

theorem exists_of_all {text : JsString} (all : ∀ unit ∈ text, (digit? unit).isSome) :
    ∃ digits, text = Digits.text digits := by
  induction text with
  | nil => exact ⟨[], rfl⟩
  | cons unit text induction =>
      have both := List.forall_mem_cons.mp all
      rcases induction both.2 with ⟨digits, isText⟩
      rcases Option.isSome_iff_exists.mp both.1 with ⟨digit, isDigit⟩
      have isUnit : unit = Digits.unit digit := by
        rw [digit?] at isDigit
        split at isDigit
        · rename_i within
          cases isDigit
          rw [Digits.unit, ← UInt16.toNat_inj, UInt16.toNat_ofNat_of_lt'] <;> dsimp only
          · omega
          · rw [UInt16.size]
            omega
        · cases isDigit
      exact ⟨digit :: digits, by rw [isText, isUnit]; rfl⟩

theorem isSome_of_mem_text {unit : CodeUnit} (member : unit ∈ text digits) :
    (digit? unit).isSome := by
  rcases List.mem_map.mp member with ⟨digit, -, rfl⟩
  rw [digit?_unit]
  rfl

theorem trimStart_text (digits : List Digit) : trimStart (text digits) = text digits := by
  have solid : ∀ digit, ¬ isWhiteSpace (unit digit) = true := by decide
  cases digits with
  | nil => rfl
  | cons digit digits => exact List.dropWhile_cons_of_neg (solid digit)

theorem trim_text (digits : List Digit) : trim (text digits) = text digits := by
  have backwards : (text digits).reverse = text digits.reverse := List.map_reverse.symm
  rw [trim, trimStart_text, backwards, trimStart_text, ← backwards, List.reverse_reverse]

theorem readDecimal_text (nonempty : digits ≠ []) :
    readDecimal (text digits) = some (value digits) := by
  have row : read (text digits ++ []) = (digits, []) :=
    read_text digits fun unit none => nomatch none
  rw [List.append_nil] at row
  rw [readDecimal, row]
  exact if_pos ⟨nonempty, rfl⟩

theorem readInteger_text (nonempty : digits ≠ []) :
    readInteger (text digits) = some (value digits : Int) := by
  have others : ∀ unit, digit? unit = none → unit ∉ text digits :=
    fun unit noDigit => not_mem_text noDigit digits
  have decimal := readDecimal_text nonempty
  rw [readInteger, trim_text]
  split
  · rename_i empty
    exact absurd (List.map_eq_nil_iff.mp empty) nonempty
  · rename_i rest isText
    exact absurd (isText ▸ List.mem_cons_self) (others 0x2D (by decide))
  · rename_i rest isText
    exact absurd (isText ▸ List.mem_cons_self) (others 0x2B (by decide))
  · rename_i second rest isText
    have member : second ∈ text digits := isText ▸ List.mem_cons_of_mem _ List.mem_cons_self
    split
    · exact absurd member (others 0x78 (by decide))
    · exact absurd member (others 0x58 (by decide))
    · exact absurd member (others 0x6F (by decide))
    · exact absurd member (others 0x4F (by decide))
    · exact absurd member (others 0x62 (by decide))
    · exact absurd member (others 0x42 (by decide))
    · rw [← isText, decimal]
      rfl
  · rw [decimal]
    rfl

end Digits

/-! ## Decimals -/

/-- Where there is no point there are no digits behind it. -/
structure DecimalNumeral where
  negative : Bool
  whole : List Digit
  fraction : Option (List Digit)

namespace DecimalNumeral

def signText (negative : Bool) : JsString :=
  if negative then [0x2D] else []

def fractionText : Option (List Digit) → JsString
  | none => []
  | some digits => 0x2E :: Digits.text digits

def unsignedText (numeral : DecimalNumeral) : JsString :=
  Digits.text numeral.whole ++ fractionText numeral.fraction

def text (numeral : DecimalNumeral) : JsString :=
  signText numeral.negative ++ numeral.unsignedText

def fractionDigits (numeral : DecimalNumeral) : List Digit :=
  numeral.fraction.getD []

def signed (negative : Bool) (value : ℚ) : ℚ :=
  if negative then -value else value

def value (numeral : DecimalNumeral) : ℚ :=
  signed numeral.negative (Digits.value numeral.whole +
    Digits.value numeral.fractionDigits / 10 ^ numeral.fractionDigits.length)

def units (numeral : DecimalNumeral) (places : Nat) : Nat :=
  Digits.value numeral.whole * 10 ^ places +
    Digits.value ((numeral.fractionDigits ++ List.replicate places 0).take places)

variable {numeral other : DecimalNumeral}

theorem minus_not_mem_unsignedText (numeral : DecimalNumeral) : 0x2D ∉ numeral.unsignedText := by
  intro member
  rcases List.mem_append.mp member with whole | fraction
  · exact Digits.not_mem_text (by decide) _ whole
  · cases isFraction : numeral.fraction with
    | none =>
        rw [isFraction] at fraction
        cases fraction
    | some digits =>
        rw [isFraction] at fraction
        rcases List.mem_cons.mp fraction with point | digit
        · exact absurd point (by decide)
        · exact Digits.not_mem_text (by decide) _ digit

theorem unsignedText_injective (same : numeral.unsignedText = other.unsignedText) :
    numeral.whole = other.whole ∧ numeral.fraction = other.fraction := by
  have row (numeral : DecimalNumeral) :
      Digits.read numeral.unsignedText = (numeral.whole, fractionText numeral.fraction) := by
    apply Digits.read_text
    cases numeral.fraction with
    | none => exact nofun
    | some digits =>
        rintro unit ⟨⟩
        decide
  have parts := Prod.mk.inj ((row numeral).symm.trans (same ▸ row other))
  refine ⟨parts.1, ?_⟩
  cases mine : numeral.fraction <;> cases others : other.fraction <;>
    rw [mine, others] at parts
  · cases parts.2
  · cases parts.2
  · rw [Digits.text_injective (List.cons.inj parts.2).2]

theorem text_injective (same : numeral.text = other.text) : numeral = other := by
  have minus := minus_not_mem_unsignedText
  rcases numeral with ⟨_ | _, whole, fraction⟩ <;> rcases other with ⟨_ | _, whole', fraction'⟩
  · rcases unsignedText_injective same with ⟨rfl, rfl⟩
    rfl
  · exact absurd ((congrArg (0x2D ∈ ·) same).mpr List.mem_cons_self)
      (minus ⟨false, whole, fraction⟩)
  · exact absurd ((congrArg (0x2D ∈ ·) same).mp List.mem_cons_self)
      (minus ⟨false, whole', fraction'⟩)
  · rcases unsignedText_injective (List.cons.inj same).2 with ⟨rfl, rfl⟩
    rfl

end DecimalNumeral

def Denotes (text : JsString) (number : ℚ) : Prop :=
  ∃ numeral : DecimalNumeral, numeral.text = text ∧ numeral.value = number

/-- A text denotes at most one number. -/
theorem Denotes.unique {text : JsString} {number other : ℚ} (denotes : Denotes text number)
    (denotesToo : Denotes text other) : number = other := by
  rcases denotes with ⟨numeral, rfl, rfl⟩
  rcases denotesToo with ⟨numeralToo, same, rfl⟩
  rw [DecimalNumeral.text_injective same]

/-! ## Cutting off -/

def truncate (places : Nat) (number : ℚ) : ℚ :=
  DecimalNumeral.signed (number < 0) (⌊|number| * 10 ^ places⌋ / 10 ^ places)

namespace DecimalNumeral

theorem truncate_signed (places : Nat) (negative : Bool) {number : ℚ} (nonneg : 0 ≤ number) :
    truncate places (signed negative number) =
      signed negative (⌊number * 10 ^ places⌋ / 10 ^ places) := by
  cases negative with
  | false =>
      have notNegative : decide (number < 0) = false := decide_eq_false (not_lt.mpr nonneg)
      simp only [truncate, signed, notNegative, abs_of_nonneg nonneg, if_false, Bool.false_eq_true]
  | true =>
      rcases nonneg.lt_or_eq with positive | rfl
      · have negative : decide (-number < 0) = true := decide_eq_true (neg_neg_of_pos positive)
        simp only [truncate, signed, negative, abs_neg, abs_of_nonneg nonneg, if_true]
      · simp [truncate, signed]

theorem truncate_value (numeral : DecimalNumeral) (places : Nat) :
    truncate places numeral.value =
      signed numeral.negative (numeral.units places / 10 ^ places) := by
  have floor : ⌊((Digits.value numeral.whole : ℚ) + Digits.value numeral.fractionDigits /
      10 ^ numeral.fractionDigits.length) * 10 ^ places⌋ = numeral.units places := by
    have terms : ((Digits.value numeral.whole : ℚ) + Digits.value numeral.fractionDigits /
        10 ^ numeral.fractionDigits.length) * 10 ^ places =
        ((Digits.value numeral.fractionDigits * 10 ^ places : Nat) : ℚ) /
          ((10 ^ numeral.fractionDigits.length : Nat) : ℚ) +
          ((Digits.value numeral.whole * 10 ^ places : Nat) : ℚ) := by
      push_cast
      ring
    rw [terms, Int.floor_add_natCast, Rat.floor_natCast_div_natCast, units, Digits.value_take]
    push_cast
    ring
  have nonneg : (0 : ℚ) ≤ Digits.value numeral.whole + Digits.value numeral.fractionDigits /
      10 ^ numeral.fractionDigits.length := by
    positivity
  rw [value, truncate_signed places _ nonneg, floor, Int.cast_natCast]

end DecimalNumeral

end Orbital.Foundation
