import Mathlib.Data.List.Nodup
import Mathlib.Data.List.Perm.Subperm

/-! # Names in a scope

Names are kept apart by a number behind them, and constants are initialised one after the
other. A constant must not use another one before that one has a value.
-/

namespace Orbital.Foundation

namespace Scope

universe u v

variable {Name : Type u}

/-! ## A free name -/

section Free

variable [DecidableEq Name] (candidate : Nat → Name) (used : List Name)

def firstFree : Nat → Nat → Nat
  | 0, start => start
  | fuel + 1, start =>
      if candidate start ∈ used then firstFree fuel (start + 1) else start

theorem firstFree_spec (fuel start : Nat) :
    candidate (firstFree candidate used fuel start) ∉ used ∨
      ∀ number, start ≤ number → number < start + fuel → candidate number ∈ used := by
  induction fuel generalizing start with
  | zero =>
      right
      intro number low high
      omega
  | succ fuel induction =>
      rw [firstFree]
      split
      · rename_i taken
        rcases induction (start + 1) with free | all
        · exact .inl free
        · right
          intro number low high
          rcases Nat.eq_or_lt_of_le low with rfl | later
          · exact taken
          · exact all number later (by omega)
      · rename_i free
        exact .inl free

theorem firstFree_not_mem (injective : Function.Injective candidate) (start : Nat) :
    candidate (firstFree candidate used (used.length + 1) start) ∉ used := by
  rcases firstFree_spec candidate used (used.length + 1) start with free | all
  · exact free
  · have tried : ((List.range' start (used.length + 1)).map candidate).Nodup :=
      List.Nodup.map injective List.nodup_range'
    have inside : (List.range' start (used.length + 1)).map candidate ⊆ used := by
      intro name member
      rcases List.mem_map.mp member with ⟨number, within, rfl⟩
      rcases List.mem_range'_1.mp within with ⟨low, high⟩
      exact all number low high
    have few := (List.subperm_of_subset tried inside).length_le
    rw [List.length_map, List.length_range'] at few
    omega

end Free

/-! ## Constants in a row -/

structure Constant (Name : Type u) where
  name : Name
  uses : List Name

def initialise [DecidableEq Name] : List Name → List (Constant Name) → Option (List Name)
  | known, [] => some known
  | known, constant :: rest =>
      if ∀ use ∈ constant.uses, use ∈ known then initialise (constant.name :: known) rest
      else none

variable [DecidableEq Name]

theorem initialise_append (known : List Name) (first second : List (Constant Name)) :
    initialise known (first ++ second) =
      (initialise known first).bind fun known => initialise known second := by
  induction first generalizing known with
  | nil => rfl
  | cons constant first induction =>
      rw [List.cons_append, initialise, initialise]
      split
      · exact induction _
      · rfl

theorem mem_initialise {known result : List Name} {constants : List (Constant Name)}
    (initialised : initialise known constants = some result) (name : Name) :
    name ∈ result ↔ name ∈ constants.map Constant.name ∨ name ∈ known := by
  induction constants generalizing known with
  | nil =>
      cases initialised
      simp
  | cons constant rest induction =>
      rw [initialise] at initialised
      split at initialised
      · rw [induction initialised, List.map_cons, List.mem_cons, List.mem_cons]
        tauto
      · cases initialised

theorem initialise_map_iff {Item : Type v} (constant : Item → Constant Name)
    (known : List Name) (items : List Item) :
    (∃ result, initialise known (items.map constant) = some result) ↔
      ∀ front item back, items = front ++ item :: back → ∀ use ∈ (constant item).uses,
        use ∈ known ∨ use ∈ front.map fun item => (constant item).name := by
  induction items generalizing known with
  | nil =>
      refine iff_of_true ⟨known, rfl⟩ ?_
      intro front item back same
      exact absurd same.symm (List.append_ne_nil_of_right_ne_nil _ (List.cons_ne_nil _ _))
  | cons first rest induction =>
      rw [List.map_cons, initialise]
      constructor
      · rintro ⟨result, initialised⟩ front item back same use member
        split at initialised
        · rename_i ready
          cases front with
          | nil =>
              rw [List.nil_append] at same
              cases same
              exact .inl (ready use member)
          | cons head front =>
              cases same
              rcases (induction _).mp ⟨result, initialised⟩ front item back rfl use member with
                early | within
              · rcases List.mem_cons.mp early with rfl | early
                · exact .inr List.mem_cons_self
                · exact .inl early
              · exact .inr (List.mem_cons_of_mem _ within)
        · cases initialised
      · intro before
        have ready : ∀ use ∈ (constant first).uses, use ∈ known := by
          intro use member
          rcases before [] first rest rfl use member with early | within
          · exact early
          · cases within
        rw [if_pos ready]
        refine (induction _).mpr ?_
        rintro front item back rfl use member
        rcases before (first :: front) item back rfl use member with early | within
        · exact .inl (List.mem_cons_of_mem _ early)
        · rcases List.mem_cons.mp within with rfl | within
          · exact .inl List.mem_cons_self
          · exact .inr within

end Scope

end Orbital.Foundation
