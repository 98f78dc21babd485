import Mathlib.Data.List.Basic

/-! # Computations that may fail

The first failure ends a computation.
-/

namespace Orbital.Foundation

variable {Failure Value Result : Type}

variable {first : Except Failure Value} {rest : Value → Except Failure Result}

theorem pure_eq_ok {value value' : Value} :
    (pure value : Except Failure Value) = .ok value' ↔ value = value' :=
  Except.ok.injEq value value' ▸ Iff.rfl

theorem bind_eq_ok {result : Result} :
    (first >>= rest) = .ok result ↔ ∃ value, first = .ok value ∧ rest value = .ok result := by
  cases first with
  | error failure =>
      constructor
      · intro failed
        cases failed
      · rintro ⟨value, succeeded, -⟩
        cases succeeded
  | ok value =>
      constructor
      · exact fun succeeded => ⟨value, rfl, succeeded⟩
      · rintro ⟨same, equal, succeeded⟩
        cases equal
        exact succeeded

theorem bind_ne_error {failure : Failure} :
    (first >>= rest) ≠ .error failure ↔
      first ≠ .error failure ∧ ∀ value, first = .ok value → rest value ≠ .error failure := by
  cases first with
  | error other =>
      constructor
      · intro ends
        exact ⟨fun same => ends (congrArg Except.error (Except.error.inj same)),
          fun value succeeded => by cases succeeded⟩
      · exact fun both same => both.1 (congrArg Except.error (Except.error.inj same))
  | ok value =>
      constructor
      · intro ends
        exact ⟨fun failed => (by cases failed), fun same succeeded => by cases succeeded; exact ends⟩
      · exact fun both => both.2 value rfl

theorem mapM_eq_ok {Item : Type} {step : Item → Except Failure Value} {items : List Item}
    (each : ∀ item ∈ items, ∃ value, step item = .ok value) :
    ∃ values, items.mapM step = .ok values := by
  induction items with
  | nil => exact ⟨[], rfl⟩
  | cons item rest induction =>
      have both := List.forall_mem_cons.mp each
      rcases both.1 with ⟨value, isValue⟩
      rcases induction both.2 with ⟨values, areValues⟩
      exact ⟨value :: values, by rw [List.mapM_cons, isValue, areValues]; rfl⟩

theorem mapError_eq_ok {Wrapped : Type} {wrap : Failure → Wrapped} {value : Value} :
    first.mapError wrap = .ok value ↔ first = .ok value := by
  cases first with
  | error failure =>
      constructor
      · intro returned
        cases returned
      · intro returned
        cases returned
  | ok returned => exact iff_of_eq (by rw [Except.mapError, Except.ok.injEq, Except.ok.injEq])

end Orbital.Foundation
