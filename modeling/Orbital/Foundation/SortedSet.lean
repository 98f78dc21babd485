import Mathlib.Data.List.Sort
import Mathlib.Data.List.Nodup

/-! # Sorted sets

The members of a sorted set have a score each and stand in the order of their scores,
members of one score in their own order. What is stored is sorted and has no member
twice, so the first of the list is the least.
-/

namespace Orbital.Foundation

variable {Member Score : Type} [LinearOrder Member] [LinearOrder Score]

def Precedes (left right : Member × Score) : Prop :=
  left.2 < right.2 ∨ left.2 = right.2 ∧ left.1 ≤ right.1

instance (left right : Member × Score) : Decidable (Precedes left right) :=
  inferInstanceAs (Decidable (_ ∨ _))

theorem Precedes.refl (item : Member × Score) : Precedes item item :=
  .inr ⟨rfl, le_refl _⟩

instance : Std.Total fun left right : Member × Score => Precedes left right where
  total := by
    intro left right
    rcases lt_trichotomy left.2 right.2 with lower | same | higher
    · exact .inl (.inl lower)
    · rcases le_total left.1 right.1 with smaller | larger
      · exact .inl (.inr ⟨same, smaller⟩)
      · exact .inr (.inr ⟨same.symm, larger⟩)
    · exact .inr (.inl higher)

instance : IsTrans (Member × Score) Precedes where
  trans := by
    rintro first second third (lower | ⟨same, smaller⟩) (lowerToo | ⟨sameToo, smallerToo⟩)
    · exact .inl (lower.trans lowerToo)
    · exact .inl (sameToo ▸ lower)
    · exact .inl (same.symm ▸ lowerToo)
    · exact .inr ⟨same.trans sameToo, smaller.trans smallerToo⟩

structure SortedSet (Member Score : Type) [LinearOrder Member] [LinearOrder Score] where
  entries : List (Member × Score)
  sorted : entries.Pairwise Precedes
  nodup : (entries.map Prod.fst).Nodup

namespace SortedSet

variable (set : SortedSet Member Score)

def empty : SortedSet Member Score where
  entries := []
  sorted := .nil
  nodup := .nil

def members : List Member :=
  set.entries.map Prod.fst

def remove (member : Member) : SortedSet Member Score where
  entries := set.entries.filter fun entry => entry.1 ≠ member
  sorted := set.sorted.filter _
  nodup := set.nodup.sublist (List.filter_sublist.map Prod.fst)

variable {member : Member} {most : Score} {limit : Nat}

theorem mem_remove {entry : Member × Score} :
    entry ∈ (set.remove member).entries ↔ entry ∈ set.entries ∧ entry.1 ≠ member := by
  rw [remove, List.mem_filter, decide_eq_true_eq]

def add (member : Member) (score : Score) : SortedSet Member Score where
  entries := (set.remove member).entries.orderedInsert Precedes (member, score)
  sorted := List.Pairwise.orderedInsert (member, score) _ (set.remove member).sorted
  nodup := by
    have perm := (List.perm_orderedInsert Precedes (member, score)
      (set.remove member).entries).map Prod.fst
    refine perm.nodup_iff.mpr (List.nodup_cons.mpr ⟨?_, (set.remove member).nodup⟩)
    intro inside
    rcases List.mem_map.mp inside with ⟨entry, found, same⟩
    exact (set.mem_remove.mp found).2 same

theorem mem_add {score : Score} {entry : Member × Score} :
    entry ∈ (set.add member score).entries ↔
      entry = (member, score) ∨ entry ∈ set.entries ∧ entry.1 ≠ member := by
  rw [add, List.mem_orderedInsert, mem_remove]

/-- Members within the score, lowest first, at most `limit` of them. -/
def rangeByScore (most : Score) (limit : Nat) : List Member :=
  ((set.entries.filter fun entry => entry.2 ≤ most).map Prod.fst).take limit

def last : Option Member :=
  set.entries.getLast?.map Prod.fst

def card : Nat :=
  set.entries.length

variable {set}

theorem mem_members : member ∈ set.members ↔ ∃ score, (member, score) ∈ set.entries := by
  rw [members, List.mem_map]
  constructor
  · rintro ⟨⟨found, score⟩, inside, same⟩
    cases same
    exact ⟨score, inside⟩
  · rintro ⟨score, inside⟩
    exact ⟨_, inside, rfl⟩

theorem card_remove_lt (inside : member ∈ set.members) : (set.remove member).card < set.card := by
  rcases mem_members.mp inside with ⟨score, entry⟩
  refine List.length_filter_lt_length_iff_exists.mpr ⟨(member, score), entry, ?_⟩
  rw [decide_eq_true_eq]
  exact fun different => different rfl

/-! ## Reading from the ends -/

theorem mem_rangeByScore (found : member ∈ set.rangeByScore most limit) :
    ∃ score, (member, score) ∈ set.entries ∧ score ≤ most := by
  rcases List.mem_map.mp (List.mem_of_mem_take found) with ⟨⟨same, score⟩, inside, rfl⟩
  rw [List.mem_filter, decide_eq_true_eq] at inside
  exact ⟨score, inside⟩

theorem nodup_rangeByScore (most : Score) (limit : Nat) : (set.rangeByScore most limit).Nodup :=
  (set.nodup.sublist (List.filter_sublist.map Prod.fst)).sublist (List.take_sublist _ _)

theorem rangeByScore_eq_nil (some : 0 < limit) :
    set.rangeByScore most limit = [] ↔ ∀ entry ∈ set.entries, most < entry.2 := by
  have taken : ∀ list : List Member, list.take limit = [] ↔ list = [] := by
    intro list
    rw [List.take_eq_nil_iff]
    exact ⟨fun either => either.resolve_left (Nat.pos_iff_ne_zero.mp some), .inr⟩
  rw [rangeByScore, taken, List.map_eq_nil_iff, List.filter_eq_nil_iff]
  simp only [decide_eq_true_eq, not_le]

theorem head_rangeByScore {rest : List Member}
    (range : set.rangeByScore most limit = member :: rest) :
    ∃ score, (member, score) ∈ set.entries ∧ score ≤ most ∧
      ∀ entry ∈ set.entries, entry.2 ≤ most → Precedes (member, score) entry := by
  have sorted : (set.entries.filter fun entry => entry.2 ≤ most).Pairwise Precedes :=
    set.sorted.filter _
  rw [rangeByScore] at range
  cases within : set.entries.filter fun entry => entry.2 ≤ most with
  | nil =>
      rw [within, List.map_nil, List.take_nil] at range
      cases range
  | cons first others =>
      have inside : first ∈ set.entries.filter fun entry => entry.2 ≤ most := by
        rw [within]
        exact List.mem_cons_self
      rw [List.mem_filter, decide_eq_true_eq] at inside
      cases limit with
      | zero => cases range
      | succ limit =>
          rw [within, List.map_cons, List.take_succ_cons] at range
          cases range
          refine ⟨first.2, inside.1, inside.2, ?_⟩
          intro entry present low
          have member : entry ∈ set.entries.filter fun entry => entry.2 ≤ most :=
            List.mem_filter.mpr ⟨present, decide_eq_true low⟩
          rw [within] at member sorted
          rcases List.mem_cons.mp member with same | later
          · rw [same]
            exact Precedes.refl first
          · exact (List.pairwise_cons.mp sorted).1 entry later

theorem last_eq_none : set.last = none ↔ set.entries = [] := by
  rw [last, Option.map_eq_none_iff, List.getLast?_eq_none_iff]

theorem last_eq_some (last : set.last = some member) :
    ∃ score, (member, score) ∈ set.entries ∧
      ∀ entry ∈ set.entries, Precedes entry (member, score) := by
  rcases Option.map_eq_some_iff.mp last with ⟨entry, isLast, rfl⟩
  rcases List.getLast?_eq_some_iff.mp isLast with ⟨front, split⟩
  have sorted := set.sorted
  rw [split, List.pairwise_append] at sorted
  refine ⟨entry.2, List.mem_of_getLast? isLast, ?_⟩
  intro other inside
  rw [split] at inside
  rcases List.mem_append.mp inside with before | same
  · exact sorted.2.2 other before entry List.mem_cons_self
  · rw [List.mem_singleton.mp same]
    exact Precedes.refl entry

end SortedSet

end Orbital.Foundation
