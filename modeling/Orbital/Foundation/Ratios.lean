import Mathlib.Algebra.BigOperators.Ring.List
import Mathlib.Algebra.Order.BigOperators.Group.List
import Mathlib.Algebra.Order.Field.Basic
import Mathlib.Algebra.Order.Group.Unbundled.Abs
import Mathlib.Algebra.Order.Ring.Abs
import Mathlib.Data.Int.Cast.Lemmas
import Mathlib.Tactic.Linarith
import Mathlib.Tactic.Ring

/-! # Ratios

How far two quantities are apart in proportion to the smaller one, what a quotient that is cut
off to a whole number says about a bound, and shares of a whole in proportion to weights.
-/

namespace Orbital.Foundation

variable {K : Type*} [Field K] [LinearOrder K]

/-! ## Deviations -/

def deviation (first second : K) : K :=
  |first - second| / min first second

variable [IsStrictOrderedRing K]

/-- The unit in which both quantities are measured does not matter. -/
theorem deviation_mul {scale : K} (positive : 0 < scale) (first second : K) :
    deviation (scale * first) (scale * second) = deviation first second := by
  rw [deviation, deviation, ← mul_sub, abs_mul, abs_of_pos positive,
    ← mul_min_of_nonneg _ _ (le_of_lt positive), mul_div_mul_left _ _ (ne_of_gt positive)]

variable {first second quantity other : K} {numerator denominator : Int} {Item : Type*}
  {items : List Item}

theorem deviation_of_le (le : first ≤ second) :
    deviation first second = (second - first) / first := by
  rw [deviation, abs_sub_comm, abs_of_nonneg (sub_nonneg.mpr le), min_eq_left le]

/-! ## Quotients that are cut off -/

/-- A quotient that is cut off is at most a bound where the exact one is below the next. -/
theorem tdiv_le_iff (nonneg : 0 ≤ numerator) (positive : 0 < denominator) (bound : Int) :
    numerator.tdiv denominator ≤ bound ↔ (numerator : K) / denominator < bound + 1 := by
  have positive' : (0 : K) < denominator := Int.cast_pos.mpr positive
  rw [Int.tdiv_eq_ediv_of_nonneg nonneg, ← Int.lt_add_one_iff,
    Int.ediv_lt_iff_lt_mul positive, div_lt_iff₀ positive']
  exact_mod_cast Iff.rfl

/-- A bound on the cut off quotient is the bound on the exact one, unless the exact one is just
above. -/
theorem tdiv_le_iff_div_le_iff (nonneg : 0 ≤ numerator) (positive : 0 < denominator) (bound : Int) :
    (numerator.tdiv denominator ≤ bound ↔ (numerator : K) / denominator ≤ bound) ↔
      ¬ ((bound : K) < numerator / denominator ∧
        (numerator : K) / denominator < bound + 1) := by
  rw [tdiv_le_iff (K := K) nonneg positive]
  constructor
  · rintro same ⟨above, below⟩
    exact absurd (same.mp below) (not_le.mpr above)
  · intro apart
    constructor
    · intro below
      by_contra above
      exact apart ⟨not_le.mp above, below⟩
    · intro within
      linarith

/-! ## Shares -/

def share (quantity other : K) : K :=
  quantity / (quantity + other)

theorem share_nonneg (nonneg : 0 ≤ quantity) (nonnegToo : 0 ≤ other) : 0 ≤ share quantity other :=
  div_nonneg nonneg (add_nonneg nonneg nonnegToo)

theorem share_le_one (nonneg : 0 ≤ quantity) (nonnegToo : 0 ≤ other) : share quantity other ≤ 1 :=
  div_le_one_of_le₀ (le_add_of_nonneg_right nonnegToo) (add_nonneg nonneg nonnegToo)

omit [LinearOrder K] [IsStrictOrderedRing K] in
theorem share_zero_left (other : K) : share 0 other = 0 := by
  rw [share, zero_div]

omit [LinearOrder K] [IsStrictOrderedRing K] in
theorem share_zero_right (nonzero : quantity ≠ 0) : share quantity 0 = 1 := by
  rw [share, add_zero, div_self nonzero]

omit [LinearOrder K] [IsStrictOrderedRing K] in
theorem share_add_share (nonzero : first + second ≠ 0) :
    share first second + share second first = 1 := by
  rw [share, share, add_comm second, ← add_div, div_self nonzero]

theorem share_le_share {more : K} (nonneg : 0 ≤ quantity) (nonnegToo : 0 ≤ other)
    (grows : other ≤ more) : share quantity more ≤ share quantity other := by
  rcases nonneg.eq_or_lt with rfl | positive
  · rw [share_zero_left, share_zero_left]
  · have total : 0 < quantity + other := add_pos_of_pos_of_nonneg positive nonnegToo
    rw [share, share]
    gcongr

omit [LinearOrder K] [IsStrictOrderedRing K] in
theorem sum_shares (items : List Item) (weight : Item → K) (nonzero : (items.map weight).sum ≠ 0)
    (whole : K) :
    (items.map fun item => weight item / (items.map weight).sum * whole).sum = whole := by
  have factors : (items.map fun item => weight item / (items.map weight).sum * whole) =
      items.map fun item => weight item * (whole / (items.map weight).sum) :=
    List.map_congr_left fun item _ => by rw [div_mul_eq_mul_div, mul_div_assoc]
  rw [factors, List.sum_map_mul_right, mul_div_cancel₀ _ nonzero]

omit [LinearOrder K] [IsStrictOrderedRing K] in
theorem sum_even_shares [CharZero K] (nonempty : items ≠ []) (whole : K) :
    (items.map fun _ => whole / (items.length : K)).sum = whole := by
  have nonzero : (items.length : K) ≠ 0 := by
    simpa using nonempty
  rw [List.map_const', List.sum_replicate, nsmul_eq_mul, mul_div_cancel₀ _ nonzero]

theorem sum_pos_of_ne_nil {weight : Item → K} (positive : ∀ item ∈ items, 0 < weight item)
    (nonempty : items ≠ []) : 0 < (items.map weight).sum := by
  apply List.sum_pos
  · intro value member
    rcases List.mem_map.mp member with ⟨item, isItem, rfl⟩
    exact positive item isItem
  · simpa using nonempty

/-! ## Interpolation -/

theorem interpolate_le {low high fraction bound : K} (isLow : low ≤ bound) (isHigh : high ≤ bound)
    (nonneg : 0 ≤ fraction) (atMost : fraction ≤ 1) :
    low + fraction * (high - low) ≤ bound := by
  have combined : low + fraction * (high - low) = (1 - fraction) * low + fraction * high := by
    ring
  rw [combined]
  calc (1 - fraction) * low + fraction * high
      ≤ (1 - fraction) * bound + fraction * bound :=
        add_le_add (mul_le_mul_of_nonneg_left isLow (sub_nonneg.mpr atMost))
          (mul_le_mul_of_nonneg_left isHigh nonneg)
    _ = bound := by ring

end Orbital.Foundation
