import Mathlib.Data.List.Nodup

/-! # Callbacks called one after the other

A loop calls a list of callbacks. When one throws, the loop ends with it and the
callbacks behind it are never called.
-/

namespace Orbital.Foundation

variable {Call : Type}

def untilThrow (throws : Call → Bool) : List Call → List Call
  | [] => []
  | call :: rest => if throws call then [call] else call :: untilThrow throws rest

theorem untilThrow_isPrefix (throws : Call → Bool) (calls : List Call) :
    untilThrow throws calls <+: calls := by
  induction calls with
  | nil => exact List.prefix_refl _
  | cons call rest induction =>
      rw [untilThrow]
      split
      · exact ⟨rest, rfl⟩
      · exact (List.prefix_cons_inj call).mpr induction

theorem untilThrow_eq_self_iff (throws : Call → Bool) (calls : List Call) :
    untilThrow throws calls = calls ↔ ∀ call ∈ calls.dropLast, throws call = false := by
  induction calls with
  | nil => simp [untilThrow]
  | cons call rest induction =>
      rw [untilThrow]
      cases rest with
      | nil =>
          split
          · simp
          · simp [untilThrow]
      | cons next others =>
          cases thrown : throws call with
          | true => simp [thrown]
          | false =>
              rw [if_neg Bool.false_ne_true, List.cons.injEq, induction]
              simp [thrown]

theorem untilThrow_eq_self_of_mem {throws : Call → Bool} {calls : List Call}
    (distinct : calls.Nodup) (called : ∀ call ∈ calls, call ∈ untilThrow throws calls) :
    untilThrow throws calls = calls := by
  rcases untilThrow_isPrefix throws calls with ⟨missed, whole⟩
  have nothingMissed : missed = [] := by
    apply List.eq_nil_iff_forall_not_mem.mpr
    intro call isMissed
    have made := called call (whole ▸ List.mem_append_right _ isMissed)
    rw [← whole] at distinct
    exact (List.nodup_append.mp distinct).2.2 call made call isMissed rfl
  rw [nothingMissed, List.append_nil] at whole
  exact whole

end Orbital.Foundation
