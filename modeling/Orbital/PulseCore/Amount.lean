import Orbital.Foundation.FixedPoint

/-! # `pulse-core/src/amount.ts`

Amounts as decimal texts and as whole numbers of stroops, of which ten million make one.
-/

namespace Orbital.PulseCore.Amount

open Foundation

abbrev StellarAmount := JsString

def toStellarAmount (s : JsString) : StellarAmount :=
  s

inductive AmountError
  | invalidStellarAmount
  deriving DecidableEq

def AmountError.message : AmountError → JsString
  | .invalidStellarAmount => js "Invalid StellarAmount"

def isDigits (text : JsString) : Bool :=
  !text.isEmpty && text.all fun unit => (Digits.digit? unit).isSome

/-- `BigInt` of a text that is an integer. -/
def bigInt (text : JsString) : Int :=
  (readInteger text).getD 0

def padStart (text : JsString) (length : Nat) : JsString :=
  List.replicate (length - text.length) 0x30 ++ text

/-- `integer.toString()` for an integer that is not negative. -/
def integerText (integer : Int) : JsString :=
  Digits.text (Digits.ofNat integer.toNat)

def toBigInt (amount : StellarAmount) : Except AmountError Int :=
  let negative := [0x2D].isPrefixOf amount
  let abs := if negative then amount.drop 1 else amount
  if abs = [] then .error .invalidStellarAmount
  else
    let parts := abs.splitOn 0x2E
    if 2 < parts.length then .error .invalidStellarAmount
    else
      let first := parts.head?.getD []
      let whole := if first = [] then js "0" else first
      let frac := parts[1]?.getD []
      if !isDigits whole || (frac ≠ [] && !isDigits frac) then .error .invalidStellarAmount
      else
        let padded := (frac ++ js "0000000").take 7
        let combined := bigInt whole * 10000000 + bigInt padded
        .ok (if negative then -combined else combined)

def fromBigInt (amount : Int) : StellarAmount :=
  let negative := decide (amount < 0)
  let abs := if negative then -amount else amount
  let whole := abs.tdiv 10000000
  let frac := abs.tmod 10000000
  toStellarAmount ((if negative then js "-" else []) ++ integerText whole ++ js "." ++
    padStart (integerText frac) 7)

/-! ## What is read -/

section Read

variable {numeral : DecimalNumeral}

theorem isDigits_iff {text : JsString} :
    isDigits text = true ↔ ∃ digits, digits ≠ [] ∧ text = Digits.text digits := by
  rw [isDigits, Bool.and_eq_true, Bool.not_eq_true', List.isEmpty_eq_false_iff, List.all_eq_true]
  constructor
  · rintro ⟨nonempty, all⟩
    rcases Digits.exists_of_all all with ⟨digits, isText⟩
    refine ⟨digits, ?_, isText⟩
    rintro rfl
    exact nonempty isText
  · rintro ⟨digits, nonempty, rfl⟩
    exact ⟨fun empty => nonempty (List.map_eq_nil_iff.mp empty),
      fun unit member => Digits.isSome_of_mem_text member⟩

variable {digits : List Digit} {amount : StellarAmount} {stroops : Int}

theorem bigInt_text (nonempty : digits ≠ []) :
    bigInt (Digits.text digits) = Digits.value digits := by
  rw [bigInt, Digits.readInteger_text nonempty, Option.getD_some]

def wholeDigits (digits : List Digit) : List Digit :=
  if digits = [] then [0] else digits

theorem wholeDigits_ne_nil (digits : List Digit) : wholeDigits digits ≠ [] := by
  rw [wholeDigits]
  split
  · exact List.cons_ne_nil _ _
  · assumption

theorem value_wholeDigits (digits : List Digit) :
    Digits.value (wholeDigits digits) = Digits.value digits := by
  rw [wholeDigits]
  split
  · rename_i empty
    rw [empty]
    rfl
  · rfl

theorem text_wholeDigits (digits : List Digit) :
    (if Digits.text digits = [] then js "0" else Digits.text digits) =
      Digits.text (wholeDigits digits) := by
  rw [wholeDigits]
  cases digits with
  | nil | cons digit digits => rfl

theorem splitOn_unsignedText (numeral : DecimalNumeral) :
    numeral.unsignedText.splitOn 0x2E =
      Digits.text numeral.whole :: (numeral.fraction.map Digits.text).toList := by
  have noPoint (digits : List Digit) : 0x2E ∉ Digits.text digits :=
    Digits.not_mem_text (by decide) digits
  rw [DecimalNumeral.unsignedText]
  cases numeral.fraction with
  | none =>
      rw [DecimalNumeral.fractionText, List.append_nil,
        List.splitOn_eq_singleton (noPoint numeral.whole)]
      rfl
  | some digits =>
      rw [DecimalNumeral.fractionText,
        List.splitOn_append_cons_self_of_not_mem (noPoint numeral.whole),
        List.splitOn_eq_singleton (noPoint digits)]
      rfl

theorem padded_text (digits : List Digit) :
    (Digits.text digits ++ js "0000000").take 7 =
      Digits.text ((digits ++ List.replicate 7 0).take 7) := by
  rw [Digits.text, Digits.text, List.map_take, List.map_append]
  rfl

theorem sign_text (numeral : DecimalNumeral) :
    [0x2D].isPrefixOf numeral.text = numeral.negative := by
  have noSign := numeral.minus_not_mem_unsignedText
  rw [DecimalNumeral.text]
  cases numeral.negative with
  | true => rfl
  | false =>
      rw [DecimalNumeral.signText]
      cases isText : numeral.unsignedText with
      | nil => rfl
      | cons unit rest =>
          rw [isText] at noSign
          have other : 0x2D ≠ unit := fun same => noSign (same ▸ List.mem_cons_self)
          simp [List.isPrefixOf, other]

theorem abs_text (numeral : DecimalNumeral) :
    (if numeral.negative then numeral.text.drop 1 else numeral.text) = numeral.unsignedText := by
  rw [DecimalNumeral.text]
  cases numeral.negative <;> rfl

theorem isDigits_text (nonempty : digits ≠ []) : isDigits (Digits.text digits) = true :=
  isDigits_iff.mpr ⟨digits, nonempty, rfl⟩

theorem fraction_passes (digits : List Digit) :
    (decide (Digits.text digits ≠ []) && !isDigits (Digits.text digits)) = false := by
  cases digits with
  | nil => rfl
  | cons digit digits => simp [isDigits_text]

theorem fraction_part (numeral : DecimalNumeral) :
    (Digits.text numeral.whole :: (numeral.fraction.map Digits.text).toList)[1]?.getD [] =
      Digits.text numeral.fractionDigits := by
  rw [DecimalNumeral.fractionDigits]
  cases numeral.fraction <;> rfl

/-- A decimal with anything behind its sign is read as the stroops that it is cut off to. -/
theorem toBigInt_text (nonempty : numeral.unsignedText ≠ []) :
    toBigInt numeral.text =
      .ok (if numeral.negative then -(numeral.units 7 : Int) else numeral.units 7) := by
  have parts : ¬ 2 < (Digits.text numeral.whole ::
      (numeral.fraction.map Digits.text).toList).length := by
    cases numeral.fraction <;> simp
  have padded : (numeral.fractionDigits ++ List.replicate 7 0).take 7 ≠ [] := by
    simp [← List.length_eq_zero_iff]
  simp only [toBigInt, sign_text, abs_text, splitOn_unsignedText, if_neg nonempty, if_neg parts,
    List.head?_cons, Option.getD_some, text_wholeDigits, fraction_part,
    isDigits_text (wholeDigits_ne_nil _), fraction_passes, padded_text, bigInt_text padded,
    bigInt_text (wholeDigits_ne_nil _), value_wholeDigits, DecimalNumeral.units]
  simp

theorem exists_digits {part : JsString} (passes : part = [] ∨ isDigits part = true) :
    ∃ digits, Digits.text digits = part := by
  rcases passes with rfl | digits
  · exact ⟨[], rfl⟩
  · rcases isDigits_iff.mp digits with ⟨digits, -, isText⟩
    exact ⟨digits, isText.symm⟩

structure Passes (abs : JsString) : Prop where
  nonempty : abs ≠ []
  parts : (abs.splitOn 0x2E).length ≤ 2
  whole : (abs.splitOn 0x2E).head?.getD [] = [] ∨
    isDigits ((abs.splitOn 0x2E).head?.getD []) = true
  frac : (abs.splitOn 0x2E)[1]?.getD [] = [] ∨ isDigits ((abs.splitOn 0x2E)[1]?.getD []) = true

theorem passes_of_toBigInt (accepted : toBigInt amount = .ok stroops) :
    Passes (if [0x2D].isPrefixOf amount then amount.drop 1 else amount) := by
  dsimp only [toBigInt] at accepted
  generalize (if [0x2D].isPrefixOf amount then amount.drop 1 else amount) = abs at accepted ⊢
  generalize isWhole : (if (abs.splitOn 0x2E).head?.getD [] = [] then js "0"
    else (abs.splitOn 0x2E).head?.getD []) = whole at accepted
  split at accepted
  · cases accepted
  · rename_i nonempty
    split at accepted
    · cases accepted
    · rename_i parts
      split at accepted
      · cases accepted
      · rename_i digits
        simp only [Bool.or_eq_true, Bool.not_eq_true', Bool.and_eq_true, decide_eq_true_eq,
          not_or, not_and, Bool.not_eq_false] at digits
        refine ⟨nonempty, not_lt.mp parts, ?_, or_iff_not_imp_left.mpr digits.2⟩
        by_cases empty : (abs.splitOn 0x2E).head?.getD [] = []
        · exact .inl empty
        · rw [if_neg empty] at isWhole
          exact .inr (isWhole ▸ digits.1)

theorem exists_unsignedText {abs : JsString} (passes : Passes abs) (negative : Bool) :
    ∃ numeral : DecimalNumeral, numeral.negative = negative ∧ numeral.unsignedText = abs := by
  rcases exists_digits passes.whole with ⟨whole, isWhole⟩
  rcases exists_digits passes.frac with ⟨digits, isFraction⟩
  have joined : [0x2E].intercalate (abs.splitOn 0x2E) = abs := List.intercalate_splitOn 0x2E
  have few := passes.parts
  cases parts : abs.splitOn 0x2E with
  | nil =>
      rw [parts] at joined
      exact absurd joined.symm passes.nonempty
  | cons first rest =>
      rw [parts] at joined isWhole isFraction few
      cases rest with
      | nil =>
          have isAbs : first = abs := by simpa using joined
          exact ⟨⟨negative, whole, none⟩, rfl, by
            rw [DecimalNumeral.unsignedText, DecimalNumeral.fractionText, List.append_nil,
              isWhole, ← isAbs]
            rfl⟩
      | cons second rest =>
          have none : rest = [] := by simpa using few
          cases none
          have isAbs : first ++ 0x2E :: second = abs := by
            simpa [List.intercalate] using joined
          exact ⟨⟨negative, whole, some digits⟩, rfl, by
            rw [DecimalNumeral.unsignedText, DecimalNumeral.fractionText, isWhole, isFraction,
              ← isAbs]
            rfl⟩

theorem exists_numeral (accepted : toBigInt amount = .ok stroops) :
    ∃ numeral : DecimalNumeral, numeral.text = amount ∧ numeral.unsignedText ≠ [] := by
  have passes := passes_of_toBigInt accepted
  rcases exists_unsignedText passes ([0x2D].isPrefixOf amount) with ⟨numeral, sign, isAbs⟩
  refine ⟨numeral, ?_, isAbs ▸ passes.nonempty⟩
  rw [DecimalNumeral.text, sign, isAbs]
  cases amount with
  | nil => rfl
  | cons unit rest =>
      by_cases minus : 0x2D = unit
      · rw [← minus]
        rfl
      · simp [List.isPrefixOf, minus, DecimalNumeral.signText]

end Read

/-! ## What is written -/

section Written

def written (amount : Int) : DecimalNumeral where
  negative := decide (amount < 0)
  whole := Digits.ofNat (amount.natAbs / 10000000)
  fraction := some (Digits.padded 7 (amount.natAbs % 10000000))

theorem padStart_integerText {number : Nat} (small : number < 10 ^ 7) :
    padStart (integerText number) 7 = Digits.text (Digits.padded 7 number) := by
  rw [← Digits.padStart_ofNat small (by decide), padStart, integerText, Int.toNat_natCast,
    Digits.text, Digits.text, List.map_append, List.map_replicate, List.length_map]
  rfl

theorem fromBigInt_eq (amount : Int) : fromBigInt amount = (written amount).text := by
  have abs : (if decide (amount < 0) = true then -amount else amount) = amount.natAbs := by
    simp only [decide_eq_true_eq]
    omega
  have small : amount.natAbs % 10000000 < 10 ^ 7 := Nat.mod_lt _ (by decide)
  have quotient : (amount.natAbs : Int).tdiv 10000000 = (amount.natAbs / 10000000 : Nat) := rfl
  have remainder : (amount.natAbs : Int).tmod 10000000 = (amount.natAbs % 10000000 : Nat) := rfl
  simp only [fromBigInt, toStellarAmount, abs, quotient, remainder, padStart_integerText small]
  rw [integerText, Int.toNat_natCast, List.append_assoc, List.append_assoc]
  rfl

theorem unsignedText_written (amount : Int) : (written amount).unsignedText ≠ [] := by
  simp [written, DecimalNumeral.unsignedText, DecimalNumeral.fractionText]

theorem fractionDigits_written (amount : Int) :
    (written amount).fractionDigits = Digits.padded 7 (amount.natAbs % 10000000) :=
  rfl

theorem units_written (amount : Int) : (written amount).units 7 = amount.natAbs := by
  have small : amount.natAbs % 10000000 < 10 ^ 7 := Nat.mod_lt _ (by decide)
  have length : (Digits.padded 7 (amount.natAbs % 10000000)).length = 7 :=
    Digits.length_padded 7 _
  rw [DecimalNumeral.units, fractionDigits_written, List.take_append_of_le_length (by omega),
    List.take_of_length_le (by omega), Digits.value_padded, Nat.mod_eq_of_lt small, written,
    Digits.value_ofNat]
  omega

theorem toBigInt_fromBigInt (amount : Int) : toBigInt (fromBigInt amount) = .ok amount := by
  rw [fromBigInt_eq, toBigInt_text (unsignedText_written amount), units_written, written]
  simp only [decide_eq_true_eq]
  congr
  omega

theorem signed_natAbs (amount : Int) (scale : ℚ) :
    DecimalNumeral.signed (decide (amount < 0)) (amount.natAbs / scale) = amount / scale := by
  rw [DecimalNumeral.signed, Nat.cast_natAbs]
  rcases lt_or_ge amount 0 with negative | nonneg
  · rw [if_pos (decide_eq_true negative), abs_of_neg negative, Int.cast_neg, neg_div, neg_neg]
  · rw [if_neg (by simpa using nonneg), abs_of_nonneg nonneg]

theorem value_written (amount : Int) : (written amount).value = amount / 10 ^ 7 := by
  have length : (Digits.padded 7 (amount.natAbs % 10000000)).length = 7 :=
    Digits.length_padded 7 _
  have small : amount.natAbs % 10000000 < 10 ^ 7 := Nat.mod_lt _ (by decide)
  have whole : ((amount.natAbs / 10000000 : Nat) : ℚ) * 10 ^ 7 +
      (amount.natAbs % 10000000 : Nat) = amount.natAbs := by
    exact_mod_cast Nat.div_add_mod' amount.natAbs 10000000
  rw [DecimalNumeral.value, fractionDigits_written, length, Digits.value_padded,
    Nat.mod_eq_of_lt small, ← signed_natAbs amount, ← whole]
  simp only [written, Digits.value_ofNat]
  congr 1
  ring

/-- A decimal that is read is written again without what stands behind its seventh place. -/
theorem denotes_truncated {amount : StellarAmount} {stroops : Int}
    (accepted : toBigInt amount = .ok stroops) :
    ∃ number, Denotes amount number ∧ Denotes (fromBigInt stroops) (truncate 7 number) := by
  rcases exists_numeral accepted with ⟨numeral, rfl, nonempty⟩
  rw [toBigInt_text nonempty, Except.ok.injEq] at accepted
  refine ⟨numeral.value, ⟨numeral, rfl, rfl⟩, written stroops, (fromBigInt_eq stroops).symm, ?_⟩
  rw [value_written, DecimalNumeral.truncate_value, ← accepted]
  cases numeral.negative <;> simp [DecimalNumeral.signed, neg_div]

/-- Stroops are written as the amount that they are read from, and an amount that is read is
written again as it is, cut off towards zero behind its seventh place. -/
theorem amount_codec :
    (∀ amount : Int, toBigInt (fromBigInt amount) = .ok amount) ∧
      ∀ (amount : StellarAmount) (stroops : Int), toBigInt amount = .ok stroops →
        ∃ number, Denotes amount number ∧ Denotes (fromBigInt stroops) (truncate 7 number) :=
  ⟨toBigInt_fromBigInt, fun _ _ accepted => denotes_truncated accepted⟩

theorem amount_codec_small_negative :
    toBigInt (js "-.12345678") = .ok (-1234567) ∧
      ∃ number, Denotes (js "-.12345678") number ∧
        Denotes (fromBigInt (-1234567)) (truncate 7 number) :=
  ⟨by rfl, amount_codec.2 (js "-.12345678") (-1234567) (by rfl)⟩

end Written

end Orbital.PulseCore.Amount
