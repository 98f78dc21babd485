import Mathlib.Data.Nat.Digits.Lemmas

/-! # Numbers of 64 bits and their rounding

The finite numbers of the binary format are multiples of `2 ^ -1074`. A decimal is read
as the nearest of them, an even significand being taken between two that are equally
near, and as no finite number where that is beyond the largest.
-/

namespace Orbital.Foundation

@[irreducible] def places : Nat :=
  1074

/-- A finite number without its sign, in units of `2 ^ -places`. -/
structure Magnitude where
  significand : Nat
  exponent : Nat
  significand_lt : significand < 2 ^ 53
  exponent_le : exponent ≤ 2045
  normal : exponent = 0 ∨ 2 ^ 52 ≤ significand
  deriving DecidableEq

namespace Magnitude

def units (magnitude : Magnitude) : Nat :=
  magnitude.significand * 2 ^ magnitude.exponent

def zero : Magnitude where
  significand := 0
  exponent := 0
  significand_lt := by decide
  exponent_le := by decide
  normal := .inl rfl

end Magnitude

/-! ## Rounding -/

def roundHalfEven (numerator denominator : Nat) : Nat :=
  let below := numerator / denominator
  let rest := numerator % denominator
  if rest * 2 < denominator ∨ rest * 2 = denominator ∧ below % 2 = 0 then below
  else below + 1

theorem le_roundHalfEven (numerator denominator : Nat) :
    numerator / denominator ≤ roundHalfEven numerator denominator := by
  rw [roundHalfEven]
  split
  · exact Nat.le_refl _
  · exact Nat.le_succ _

theorem roundHalfEven_scale {factor : Nat} (positive : 0 < factor)
    (numerator denominator : Nat) :
    roundHalfEven (factor * numerator) (factor * denominator) =
      roundHalfEven numerator denominator := by
  have below : factor * numerator / (factor * denominator) = numerator / denominator :=
    Nat.mul_div_mul_left numerator denominator positive
  have rest : factor * numerator % (factor * denominator) =
      factor * (numerator % denominator) :=
    Nat.mul_mod_mul_left factor numerator denominator
  rw [roundHalfEven, roundHalfEven, below, rest, Nat.mul_assoc]
  simp only [Nat.mul_lt_mul_left positive, Nat.mul_right_inj (Nat.ne_of_gt positive)]

theorem roundHalfEven_exact {denominator : Nat} (positive : 0 < denominator) (whole : Nat) :
    roundHalfEven (whole * denominator) denominator = whole := by
  have below : whole * denominator / denominator = whole :=
    Nat.mul_div_cancel whole positive
  have rest : whole * denominator % denominator = 0 := Nat.mul_mod_left whole denominator
  rw [roundHalfEven, below, rest, if_pos (.inl (by omega))]

def lastPlace (numerator denominator : Nat) : Nat :=
  Nat.log2 (numerator / denominator) - 52

def rounded (numerator denominator : Nat) : Nat × Nat :=
  let exponent := lastPlace numerator denominator
  let significand := roundHalfEven numerator (denominator * 2 ^ exponent)
  if significand < 2 ^ 53 then (significand, exponent) else (2 ^ 52, exponent + 1)

theorem rounded_lt (numerator denominator : Nat) : (rounded numerator denominator).1 < 2 ^ 53 := by
  rw [rounded]
  split
  · assumption
  · show 2 ^ 52 < 2 ^ 53
    decide

theorem rounded_normal (numerator denominator : Nat) :
    (rounded numerator denominator).2 = 0 ∨ 2 ^ 52 ≤ (rounded numerator denominator).1 := by
  rw [rounded]
  split
  · by_cases zero : lastPlace numerator denominator = 0
    · exact .inl zero
    · right
      have large : 52 ≤ Nat.log2 (numerator / denominator) := by
        rw [lastPlace] at zero
        omega
      have whole : numerator / denominator ≠ 0 := by
        intro empty
        rw [empty] at large
        exact absurd large (by decide)
      have power : 2 ^ 52 * 2 ^ lastPlace numerator denominator ≤ numerator / denominator := by
        rw [← Nat.pow_add, lastPlace, Nat.add_sub_cancel' large]
        exact Nat.log2_self_le whole
      calc 2 ^ 52 ≤ numerator / denominator / 2 ^ lastPlace numerator denominator :=
            (Nat.le_div_iff_mul_le (Nat.two_pow_pos _)).mpr power
        _ = numerator / (denominator * 2 ^ lastPlace numerator denominator) :=
            Nat.div_div_eq_div_mul _ _ _
        _ ≤ _ := le_roundHalfEven _ _
  · exact .inr (Nat.le_refl _)

def nearest (numerator denominator : Nat) : Option Magnitude :=
  if fits : (rounded numerator denominator).2 ≤ 2045 then
    some {
      significand := (rounded numerator denominator).1
      exponent := (rounded numerator denominator).2
      significand_lt := rounded_lt numerator denominator
      exponent_le := fits
      normal := rounded_normal numerator denominator }
  else none

theorem rounded_scale {factor : Nat} (positive : 0 < factor) (numerator denominator : Nat) :
    rounded (factor * numerator) (factor * denominator) = rounded numerator denominator := by
  have place : lastPlace (factor * numerator) (factor * denominator) =
      lastPlace numerator denominator := by
    rw [lastPlace, Nat.mul_div_mul_left numerator denominator positive, lastPlace]
  rw [rounded, place, Nat.mul_assoc, roundHalfEven_scale positive, rounded]

/-- Rounding looks at the value of a quotient and not at its terms. -/
theorem nearest_congr {numerator denominator numerator' denominator' : Nat}
    (positive : 0 < denominator) (positive' : 0 < denominator')
    (same : numerator * denominator' = numerator' * denominator) :
    nearest numerator denominator = nearest numerator' denominator' := by
  have equal : rounded numerator denominator = rounded numerator' denominator' := by
    rw [← rounded_scale positive' numerator, ← rounded_scale positive numerator',
      Nat.mul_comm denominator', same, Nat.mul_comm numerator',
      Nat.mul_comm denominator' denominator]
  simp only [nearest, equal]

theorem log2_units (magnitude : Magnitude) :
    Nat.log2 magnitude.units - 52 = magnitude.exponent := by
  have small := magnitude.significand_lt
  rcases magnitude.normal with zero | large
  · have units : magnitude.units = magnitude.significand := by
      rw [Magnitude.units, zero, Nat.pow_zero, Nat.mul_one]
    rw [units, zero]
    by_cases empty : magnitude.significand = 0
    · rw [empty]
      decide
    · have log := (Nat.log2_lt empty).mpr small
      omega
  · have positive := Nat.two_pow_pos magnitude.exponent
    have some : magnitude.units ≠ 0 := Nat.mul_ne_zero (by omega) (by omega)
    have log : Nat.log2 magnitude.units = 52 + magnitude.exponent := by
      apply (Nat.log2_eq_iff some).mpr
      rw [Magnitude.units, Nat.pow_add, Nat.add_right_comm, Nat.pow_add]
      exact ⟨Nat.mul_le_mul_right _ large, Nat.mul_lt_mul_of_pos_right small positive⟩
    rw [log, Nat.add_sub_cancel_left]

theorem nearest_exact {denominator : Nat} (positive : 0 < denominator) (magnitude : Magnitude) :
    nearest (magnitude.units * denominator) denominator = some magnitude := by
  have place : lastPlace (magnitude.units * denominator) denominator = magnitude.exponent := by
    rw [lastPlace, Nat.mul_div_cancel _ positive, log2_units]
  have terms : magnitude.units * denominator =
      magnitude.significand * (denominator * 2 ^ magnitude.exponent) := by
    rw [Magnitude.units, Nat.mul_assoc, Nat.mul_comm denominator]
  have round : roundHalfEven (magnitude.units * denominator)
      (denominator * 2 ^ magnitude.exponent) = magnitude.significand := by
    rw [terms]
    exact roundHalfEven_exact (Nat.mul_pos positive (Nat.two_pow_pos _)) _
  have result : rounded (magnitude.units * denominator) denominator =
      (magnitude.significand, magnitude.exponent) := by
    rw [rounded, place, round]
    exact if_pos magnitude.significand_lt
  simp only [nearest, result, dif_pos magnitude.exponent_le]

/-! ## Rounding keeps between numbers of the format -/

theorem roundHalfEven_le {numerator denominator whole : Nat} (positive : 0 < denominator)
    (bound : numerator ≤ whole * denominator) : roundHalfEven numerator denominator ≤ whole := by
  have below : numerator / denominator ≤ whole := Nat.div_le_of_le_mul (by rwa [Nat.mul_comm])
  rcases Nat.lt_or_eq_of_le below with less | same
  · rw [roundHalfEven]
    split
    · exact below
    · exact less
  · have rest : numerator % denominator = 0 := by
      have parts := Nat.div_add_mod numerator denominator
      rw [same, Nat.mul_comm] at parts
      omega
    rw [roundHalfEven, rest, if_pos (.inl (by omega)), same]

theorem lt_of_lastPlace (numerator denominator : Nat) :
    numerator / denominator < 2 ^ (53 + lastPlace numerator denominator) := by
  by_cases zero : numerator / denominator = 0
  · rw [zero]
    exact Nat.two_pow_pos _
  · apply (Nat.log2_lt zero).mp
    rw [lastPlace]
    omega

theorem le_of_lastPlace (numerator denominator : Nat)
    (large : 0 < lastPlace numerator denominator) :
    2 ^ (52 + lastPlace numerator denominator) ≤ numerator / denominator := by
  rw [lastPlace] at large ⊢
  have whole : numerator / denominator ≠ 0 := by
    intro zero
    rw [zero, Nat.log2_zero] at large
    omega
  rw [Nat.add_sub_cancel' (by omega)]
  exact Nat.log2_self_le whole

namespace Magnitude

theorem units_lt (magnitude : Magnitude) : magnitude.units < 2 ^ (53 + magnitude.exponent) := by
  rw [units, Nat.pow_add]
  exact Nat.mul_lt_mul_of_pos_right magnitude.significand_lt (Nat.two_pow_pos _)

theorem units_eq (magnitude : Magnitude) {place : Nat} (le : place ≤ magnitude.exponent) :
    magnitude.units =
      magnitude.significand * 2 ^ (magnitude.exponent - place) * 2 ^ place := by
  rw [units, Nat.mul_assoc, ← Nat.pow_add, Nat.sub_add_cancel le]

end Magnitude

section Between

variable {numerator denominator : Nat} {result : Magnitude}

theorem units_of_nearest (isNearest : nearest numerator denominator = some result) :
    result.units =
      (rounded numerator denominator).1 * 2 ^ (rounded numerator denominator).2 := by
  rw [nearest] at isNearest
  split at isNearest
  · cases isNearest
    rfl
  · cases isNearest

theorem le_of_nearest (magnitude : Magnitude) (positive : 0 < denominator)
    (bound : magnitude.units * denominator ≤ numerator)
    (isNearest : nearest numerator denominator = some result) :
    magnitude.units ≤ result.units := by
  have whole : magnitude.units ≤ numerator / denominator :=
    (Nat.le_div_iff_mul_le positive).mpr bound
  have below := le_roundHalfEven numerator (denominator * 2 ^ lastPlace numerator denominator)
  have room := lt_of_lastPlace numerator denominator
  have full := le_of_lastPlace numerator denominator
  rw [← Nat.div_div_eq_div_mul] at below
  rw [units_of_nearest isNearest, rounded]
  generalize lastPlace numerator denominator = place at below room full ⊢
  split
  · apply le_trans _ (Nat.mul_le_mul_right _ below)
    by_cases le : place ≤ magnitude.exponent
    · -- The bound is a number of units of the last place.
      rw [magnitude.units_eq le] at whole ⊢
      exact Nat.mul_le_mul_right _ ((Nat.le_div_iff_mul_le (Nat.two_pow_pos _)).mpr whole)
    · -- The significand of the result is a full one.
      have enough : 2 ^ 52 * 2 ^ place ≤ numerator / denominator := by
        rw [← Nat.pow_add]
        exact full (by omega)
      calc magnitude.units ≤ 2 ^ (53 + magnitude.exponent) := magnitude.units_lt.le
        _ ≤ 2 ^ (52 + place) := Nat.pow_le_pow_right (by decide) (by omega)
        _ = 2 ^ 52 * 2 ^ place := Nat.pow_add _ _ _
        _ ≤ _ := Nat.mul_le_mul_right _ ((Nat.le_div_iff_mul_le (Nat.two_pow_pos _)).mpr enough)
  · rw [← Nat.pow_add, Nat.add_comm place, ← Nat.add_assoc]
    exact whole.trans room.le

theorem exists_nearest_le (magnitude : Magnitude) (numerator : Nat) (positive : 0 < denominator)
    (bound : numerator ≤ magnitude.units * denominator) :
    ∃ result, nearest numerator denominator = some result ∧ result.units ≤ magnitude.units := by
  have whole : numerator / denominator ≤ magnitude.units :=
    Nat.div_le_of_le_mul (by rwa [Nat.mul_comm])
  have room := magnitude.units_lt
  have reached : lastPlace numerator denominator ≤ magnitude.exponent := by
    by_contra beyond
    have full := le_of_lastPlace _ _ (Nat.zero_lt_of_lt (not_le.mp beyond))
    have order := (Nat.pow_lt_pow_iff_right (by decide)).mp ((full.trans whole).trans_lt room)
    omega
  have above : roundHalfEven numerator (denominator * 2 ^ lastPlace numerator denominator) *
      2 ^ lastPlace numerator denominator ≤ magnitude.units := by
    rw [magnitude.units_eq reached] at bound ⊢
    apply Nat.mul_le_mul_right
    apply roundHalfEven_le (Nat.mul_pos positive (Nat.two_pow_pos _))
    rwa [Nat.mul_comm denominator, ← Nat.mul_assoc]
  have fits : (rounded numerator denominator).2 ≤ magnitude.exponent ∧
      (rounded numerator denominator).1 * 2 ^ (rounded numerator denominator).2 ≤
        magnitude.units := by
    rw [rounded]
    generalize lastPlace numerator denominator = place at reached above ⊢
    split
    · exact ⟨reached, above⟩
    · rename_i carried
      have carry : 2 ^ 53 * 2 ^ place ≤ magnitude.units :=
        (Nat.mul_le_mul_right _ (not_lt.mp carried)).trans above
      have order := (Nat.pow_lt_pow_iff_right (by decide)).mp
        ((Nat.pow_add 2 53 place).trans_le carry |>.trans_lt room)
      refine ⟨by omega, ?_⟩
      change 2 ^ 52 * 2 ^ (place + 1) ≤ magnitude.units
      exact (congrArg (2 ^ 52 * ·) (Nat.pow_succ' ..)).trans_le (by rwa [← Nat.mul_assoc])
  have exponent := fits.1.trans magnitude.exponent_le
  refine ⟨_, dif_pos exponent, ?_⟩
  exact fits.2

end Between

theorem exists_units {number : Nat} (small : number < 2 ^ 53) :
    ∃ magnitude : Magnitude, magnitude.units = number * 2 ^ places := by
  by_cases zero : number = 0
  · exact ⟨.zero, by rw [Magnitude.units, Magnitude.zero, zero, Nat.zero_mul, Nat.zero_mul]⟩
  · have digits := (Nat.log2_lt zero).mpr small
    have above := Nat.log2_self_le zero
    have below := (Nat.log2_lt zero).mp (Nat.lt_succ_self _)
    have power : 2 ^ (number.log2 + 1) * 2 ^ (52 - number.log2) = 2 ^ 53 := by
      rw [← Nat.pow_add]
      exact congrArg (2 ^ ·) (by omega)
    have power' : 2 ^ number.log2 * 2 ^ (52 - number.log2) = 2 ^ 52 := by
      rw [← Nat.pow_add]
      exact congrArg (2 ^ ·) (by omega)
    refine ⟨⟨number * 2 ^ (52 - number.log2), 1022 + number.log2, ?_, by omega, .inr ?_⟩, ?_⟩
    · rw [← power]
      exact Nat.mul_lt_mul_of_pos_right below (Nat.two_pow_pos _)
    · rw [← power']
      exact Nat.mul_le_mul_right _ above
    · change number * 2 ^ (52 - number.log2) * 2 ^ (1022 + number.log2) = _
      rw [Nat.mul_assoc, ← Nat.pow_add]
      unfold places
      exact congrArg (number * 2 ^ ·) (by omega)

theorem Magnitude.pow_dvd_units {magnitude : Magnitude} {place : Nat}
    (large : 2 ^ (place + 52) ≤ magnitude.units) : 2 ^ place ∣ magnitude.units := by
  have order := (Nat.pow_lt_pow_iff_right (by decide)).mp (large.trans_lt magnitude.units_lt)
  exact Nat.dvd_mul_left_of_dvd (Nat.pow_dvd_pow 2 (by omega)) _

/-! ## Decimals -/

structure Decimal where
  coefficient : Nat
  exponent : Int

namespace Decimal

def numerator (decimal : Decimal) : Nat :=
  decimal.coefficient * 10 ^ decimal.exponent.toNat

def denominator (decimal : Decimal) : Nat :=
  10 ^ (-decimal.exponent).toNat

theorem denominator_pos (decimal : Decimal) : 0 < decimal.denominator :=
  Nat.pow_pos (by decide)

def toMagnitude (decimal : Decimal) : Option Magnitude :=
  nearest (decimal.numerator * 2 ^ places) decimal.denominator

theorem toMagnitude_shift (coefficient zeros : Nat) (exponent : Int) :
    toMagnitude ⟨coefficient * 10 ^ zeros, exponent⟩ =
      toMagnitude ⟨coefficient, exponent + zeros⟩ := by
  apply nearest_congr (denominator_pos _) (denominator_pos _)
  have powers : zeros + exponent.toNat + (-(exponent + zeros)).toNat =
      (exponent + zeros).toNat + (-exponent).toNat := by
    omega
  have ten : 10 ^ zeros * 10 ^ exponent.toNat * 10 ^ (-(exponent + zeros)).toNat =
      10 ^ (exponent + zeros).toNat * 10 ^ (-exponent).toNat := by
    rw [← Nat.pow_add, ← Nat.pow_add, powers, Nat.pow_add]
  simp only [numerator, denominator]
  generalize 2 ^ places = scale
  calc coefficient * 10 ^ zeros * 10 ^ exponent.toNat * scale *
        10 ^ (-(exponent + zeros)).toNat
      = coefficient * (10 ^ zeros * 10 ^ exponent.toNat *
          10 ^ (-(exponent + zeros)).toNat) * scale := by ac_rfl
    _ = coefficient * (10 ^ (exponent + zeros).toNat * 10 ^ (-exponent).toNat) * scale := by
          rw [ten]
    _ = coefficient * 10 ^ (exponent + zeros).toNat * scale * 10 ^ (-exponent).toNat := by
          ac_rfl

theorem toMagnitude_zero (exponent : Int) : toMagnitude ⟨0, exponent⟩ = some .zero := by
  have exact := nearest_exact (denominator_pos ⟨0, exponent⟩) .zero
  rw [Magnitude.units, Magnitude.zero, Nat.zero_mul, Nat.zero_mul] at exact
  rw [toMagnitude, numerator, Nat.zero_mul, Nat.zero_mul]
  exact exact

end Decimal

namespace Magnitude

/-- The digits of a finite number are exactly those of a whole number of `10 ^ -places`. -/
def expansion (magnitude : Magnitude) : Decimal where
  coefficient := magnitude.units * 5 ^ places
  exponent := -places

theorem toMagnitude_expansion (magnitude : Magnitude) :
    magnitude.expansion.toMagnitude = some magnitude := by
  have denominator : magnitude.expansion.denominator = 5 ^ places * 2 ^ places :=
    by
    rw [Decimal.denominator, expansion, Int.neg_neg, Int.toNat_natCast, ← Nat.mul_pow]
  have numerator : magnitude.expansion.numerator * 2 ^ places =
      magnitude.units * magnitude.expansion.denominator := by
    have zero : magnitude.expansion.exponent.toNat = 0 := Int.toNat_neg_natCast places
    rw [denominator, Decimal.numerator, zero, Nat.pow_zero, Nat.mul_one, expansion,
      Nat.mul_assoc]
  rw [Decimal.toMagnitude, numerator]
  exact nearest_exact (Decimal.denominator_pos _) magnitude

end Magnitude

end Orbital.Foundation
