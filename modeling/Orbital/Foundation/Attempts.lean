import Mathlib.Data.List.Nodup
import Mathlib.Data.List.Perm.Basic

/-! # Account of accepted items

Items that wait in one place after the other, and items that are tried several times.
-/

/-! ## Conservation of accepted items

A component accepts items, lets them wait in one place after the other and is
done with each at some point. Nothing is lost or done twice when the items it
has accepted are those that wait and those it is done with.
-/

namespace Orbital.Foundation

variable {Item : Type}

def Conserved (accepted waiting done : List Item) : Prop :=
  (done ++ waiting).Perm accepted

namespace Conserved

variable {accepted waiting done : List Item}

theorem nil : Conserved ([] : List Item) [] [] := List.Perm.refl _

theorem accept (holds : Conserved accepted waiting done) (item : Item) :
    Conserved (accepted ++ [item]) (waiting ++ [item]) done := by
  have appended := List.Perm.append_right [item] holds
  rwa [List.append_assoc] at appended

theorem rearrange {moved : List Item} (holds : Conserved accepted waiting done)
    (same : moved.Perm waiting) : Conserved accepted moved done :=
  (same.append_left done).trans holds

theorem finish {item : Item} {rest : List Item} (holds : Conserved accepted waiting done)
    (taken : waiting.Perm (item :: rest)) : Conserved accepted rest (done ++ [item]) := by
  refine List.Perm.trans ?_ (holds.rearrange taken.symm)
  rw [List.append_assoc]
  exact List.Perm.refl _

end Conserved

end Orbital.Foundation

/-! ## Items that are tried several times

A component accepts items and tries each of them some number of times. It keeps account
of them when every accepted item is held in exactly one place, together with the number
of tries it has had, and the log of tries has these for the item in their order.
-/

namespace Orbital.Foundation

variable {Item : Type} {number : Item → Nat} {limit : Nat}

def triesOf (number : Item → Nat) (log : List (Item × Nat)) (id : Nat) : List Nat :=
  (log.filter fun entry => number entry.1 = id).map Prod.snd

theorem triesOf_append (log : List (Item × Nat)) (item : Item) (count id : Nat) :
    triesOf number (log ++ [(item, count)]) id =
      if number item = id then triesOf number log id ++ [count] else triesOf number log id := by
  rw [triesOf, triesOf, List.filter_append, List.map_append]
  by_cases same : number item = id
  · rw [if_pos same, List.filter_cons_of_pos (by simp [same])]
    rfl
  · rw [if_neg same, List.filter_cons_of_neg (by simp [same])]
    exact List.append_nil _

structure Accounted (number : Item → Nat) (limit : Nat) (accepted : List Item)
    (log : List (Item × Nat)) (held : List (Item × Nat)) : Prop where
  perm : (held.map Prod.fst).Perm accepted
  distinct : (accepted.map number).Nodup
  logged : ∀ entry ∈ log, number entry.1 ∈ accepted.map number
  tried : ∀ entry ∈ held, triesOf number log (number entry.1) = List.range' 1 entry.2
  bounded : ∀ entry ∈ held, entry.2 ≤ limit

namespace Accounted

variable {accepted : List Item} {log held : List (Item × Nat)}

theorem nil (number : Item → Nat) (limit : Nat) : Accounted number limit [] [] [] where
  perm := List.Perm.refl _
  distinct := List.nodup_nil
  logged := fun _ none => absurd none List.not_mem_nil
  tried := fun _ none => absurd none List.not_mem_nil
  bounded := fun _ none => absurd none List.not_mem_nil

theorem rearrange {moved : List (Item × Nat)} (accounted : Accounted number limit accepted log held)
    (same : moved.Perm held) : Accounted number limit accepted log moved where
  perm := (same.map Prod.fst).trans accounted.perm
  distinct := accounted.distinct
  logged := accounted.logged
  tried := fun entry member => accounted.tried entry (same.mem_iff.mp member)
  bounded := fun entry member => accounted.bounded entry (same.mem_iff.mp member)

theorem triesOf_fresh (accounted : Accounted number limit accepted log held) {item : Item}
    (fresh : number item ∉ accepted.map number) : triesOf number log (number item) = [] := by
  rw [triesOf, List.map_eq_nil_iff, List.filter_eq_nil_iff]
  intro entry member same
  exact fresh (of_decide_eq_true same ▸ accounted.logged entry member)

theorem accept (accounted : Accounted number limit accepted log held) {item : Item}
    (fresh : number item ∉ accepted.map number) :
    Accounted number limit (accepted ++ [item]) log ((item, 0) :: held) where
  perm := by
    rw [List.map_cons]
    exact (accounted.perm.cons item).trans (List.perm_append_singleton item accepted).symm
  distinct := by
    rw [List.map_append, List.map_singleton]
    refine accounted.distinct.append (List.nodup_singleton _) ?_
    intro id old new
    rw [List.mem_singleton.mp new] at old
    exact fresh old
  logged := by
    intro entry member
    rw [List.map_append]
    exact List.mem_append_left _ (accounted.logged entry member)
  tried := by
    intro entry member
    rcases List.mem_cons.mp member with rfl | old
    · exact accounted.triesOf_fresh fresh
    · exact accounted.tried entry old
  bounded := by
    intro entry member
    rcases List.mem_cons.mp member with rfl | old
    · exact Nat.zero_le _
    · exact accounted.bounded entry old

theorem numbers (accounted : Accounted number limit accepted log held) :
    (held.map fun entry => number entry.1).Nodup := by
  have same := (accounted.perm.map number).nodup_iff.mpr accounted.distinct
  rwa [List.map_map] at same

theorem attempt {item : Item} {count : Nat} {rest : List (Item × Nat)}
    (accounted : Accounted number limit accepted log ((item, count) :: rest))
    (room : count + 1 ≤ limit) :
    Accounted number limit accepted (log ++ [(item, count + 1)]) ((item, count + 1) :: rest) where
  perm := accounted.perm
  distinct := accounted.distinct
  logged := by
    intro entry member
    rcases List.mem_append.mp member with old | new
    · exact accounted.logged entry old
    · rw [List.mem_singleton.mp new]
      have held : item ∈ accepted := accounted.perm.mem_iff.mp List.mem_cons_self
      exact List.mem_map_of_mem held
  tried := by
    intro entry member
    rw [triesOf_append]
    rcases List.mem_cons.mp member with rfl | other
    · rw [if_pos rfl, accounted.tried _ List.mem_cons_self, List.range'_1_concat, Nat.add_comm]
    · have different : number item ≠ number entry.1 := by
        intro same
        apply (List.nodup_cons.mp accounted.numbers).1
        exact List.mem_map.mpr ⟨entry, other, same.symm⟩
      rw [if_neg different]
      exact accounted.tried entry (List.mem_cons_of_mem _ other)
  bounded := by
    intro entry member
    rcases List.mem_cons.mp member with rfl | other
    · exact room
    · exact accounted.bounded entry (List.mem_cons_of_mem _ other)

theorem tries (accounted : Accounted number limit accepted log held) {item : Item}
    (member : item ∈ accepted) :
    ∃ count ≤ limit, (item, count) ∈ held ∧
      triesOf number log (number item) = List.range' 1 count := by
  rcases List.mem_map.mp (accounted.perm.mem_iff.mpr member) with ⟨⟨item, count⟩, inside, rfl⟩
  exact ⟨count, accounted.bounded _ inside, inside, accounted.tried _ inside⟩

end Accounted

end Orbital.Foundation
