import Mathlib.Data.Int.Bitwise
import Mathlib.Tactic.Ring

/-! # Limbs of whole numbers

The low bits of a number in two's complement, and the number that is joined from disjoint bits.
-/

namespace Orbital.Foundation

theorem exists_bit (value : Int) : ∃ last rest, value = Int.bit last rest :=
  ⟨_, _, (Int.bit_decomp value).symm⟩

theorem land_mask (value : Int) (width : Nat) : value.land (2 ^ width - 1) = value % 2 ^ width := by
  induction width generalizing value with
  | zero =>
      rw [pow_zero, sub_self, Int.emod_one]
      cases value with
      | ofNat value => exact congrArg Int.ofNat (Nat.and_zero value)
      | negSucc value => exact congrArg Int.ofNat (by simp [Nat.ldiff])
  | succ width induction =>
      rcases exists_bit value with ⟨last, rest, rfl⟩
      have mask : (2 ^ (width + 1) - 1 : Int) = Int.bit true (2 ^ width - 1) := by
        rw [Int.bit_val, Bool.cond_true]
        ring
      have power : (2 : Int) ^ (width + 1) = 2 * 2 ^ width := by ring
      have positive : (0 : Int) < 2 ^ width := Int.pow_pos (by decide)
      rw [mask, Int.land_bit, induction, Bool.and_true, power, Int.bit_val, Int.bit_val]
      generalize (2 : Int) ^ width = modulus at positive
      have nonnegative := Int.emod_nonneg rest (ne_of_gt positive)
      have below := Int.emod_lt_of_pos rest positive
      have digit : 0 ≤ (cond last 1 0 : Int) ∧ (cond last 1 0 : Int) ≤ 1 := by
        cases last <;> decide
      calc 2 * (rest % modulus) + cond last 1 0
          = (2 * (rest % modulus) + cond last 1 0) % (2 * modulus) :=
            (Int.emod_eq_of_lt (by omega) (by omega)).symm
        _ = (2 * (rest % modulus) + cond last 1 0 + 2 * modulus * (rest / modulus)) %
              (2 * modulus) := (Int.add_mul_emod_self_left _ _ _).symm
        _ = (2 * (rest % modulus + modulus * (rest / modulus)) + cond last 1 0) %
              (2 * modulus) := by ring_nf
        _ = (2 * rest + cond last 1 0) % (2 * modulus) := by rw [Int.emod_add_mul_ediv]

theorem lor_shift (high : Int) {width : Nat} {low : Int} (nonnegative : 0 ≤ low)
    (below : low < 2 ^ width) : (high * 2 ^ width).lor low = high * 2 ^ width + low := by
  induction width generalizing low with
  | zero =>
      have zero : low = 0 := by omega
      rw [zero, add_zero]
      cases high * 2 ^ 0 with
      | ofNat value => exact congrArg Int.ofNat (Nat.or_zero value)
      | negSucc value => exact congrArg Int.negSucc (by simp [Nat.ldiff])
  | succ width induction =>
      rcases exists_bit low with ⟨last, rest, rfl⟩
      have shifted : high * 2 ^ (width + 1) = Int.bit false (high * 2 ^ width) := by
        rw [Int.bit_val, Bool.cond_false]
        ring
      have power : (2 : Int) ^ (width + 1) = 2 * 2 ^ width := by ring
      have digit : 0 ≤ (cond last 1 0 : Int) ∧ (cond last 1 0 : Int) ≤ 1 := by
        cases last <;> decide
      rw [Int.bit_val] at nonnegative below
      rw [power] at below
      rw [shifted, Int.lor_bit, Bool.false_or, induction (by omega) (by omega)]
      simp only [Int.bit_val, Bool.cond_false]
      ring

end Orbital.Foundation
