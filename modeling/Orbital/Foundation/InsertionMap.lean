import Mathlib.Algebra.BigOperators.Group.List.Basic
import Mathlib.Data.List.Nodup
import Mathlib.Tactic.Abel

/-! # Maps that remember insertion order

The keyed collection of the source language: writing a present key keeps its
position, a new key goes last, and iteration follows that order. Keys are
distinct by construction.
-/

namespace Orbital.Foundation

structure InsertionMap (Key : Type u) (Value : Type v) where
  entries : List (Key × Value)
  nodup : (entries.map Prod.fst).Nodup

namespace InsertionMap

variable {Key : Type u} {Value : Type v}

def empty : InsertionMap Key Value where
  entries := []
  nodup := .nil

def keys (map : InsertionMap Key Value) : List Key :=
  map.entries.map Prod.fst

def values (map : InsertionMap Key Value) : List Value :=
  map.entries.map Prod.snd

def size (map : InsertionMap Key Value) : Nat :=
  map.entries.length

variable {map : InsertionMap Key Value} {entries : List (Key × Value)} {key : Key}
  {value old : Value}

theorem eq_of_entries {other : InsertionMap Key Value} (same : map.entries = other.entries) :
    map = other := by
  rcases map with ⟨entries, nodup⟩
  rcases other with ⟨others, nodupToo⟩
  cases same
  rfl

variable [DecidableEq Key]

/-! ## Entry lists -/

def setEntry (key : Key) (value : Value) : List (Key × Value) → List (Key × Value)
  | [] => [(key, value)]
  | entry :: rest =>
      if entry.1 = key then (key, value) :: rest
      else entry :: setEntry key value rest

def getEntry (key : Key) : List (Key × Value) → Option Value
  | [] => none
  | entry :: rest => if entry.1 = key then some entry.2 else getEntry key rest

private theorem mem_setEntry_keys (key other : Key) (value : Value)
    (entries : List (Key × Value)) :
    other ∈ (setEntry key value entries).map Prod.fst ↔
      other = key ∨ other ∈ entries.map Prod.fst := by
  induction entries with
  | nil => simp [setEntry]
  | cons entry rest induction =>
      by_cases same : entry.1 = key
      · simp [setEntry, same]
      · simp only [setEntry, if_neg same, List.map_cons, List.mem_cons, induction]
        tauto

private theorem setEntry_nodup (key : Key) (value : Value) (nodup : (entries.map Prod.fst).Nodup) :
    ((setEntry key value entries).map Prod.fst).Nodup := by
  induction entries with
  | nil => simp [setEntry]
  | cons entry rest induction =>
      have parts := List.nodup_cons.mp nodup
      by_cases same : entry.1 = key
      · rw [setEntry, if_pos same]
        simpa [← same] using nodup
      · rw [setEntry, if_neg same]
        apply List.nodup_cons.mpr
        refine ⟨?_, induction parts.2⟩
        rw [mem_setEntry_keys]
        exact not_or.mpr ⟨same, parts.1⟩

private theorem getEntry_setEntry (key other : Key) (value : Value)
    (entries : List (Key × Value)) :
    getEntry other (setEntry key value entries) =
      if other = key then some value else getEntry other entries := by
  induction entries with
  | nil => simp [setEntry, getEntry, eq_comm]
  | cons entry rest induction =>
      by_cases same : entry.1 = key
      · by_cases hit : other = key
        · simp [setEntry, getEntry, same, hit]
        · simp [setEntry, getEntry, same, hit, Ne.symm hit]
      · rw [setEntry, if_neg same, getEntry, getEntry, induction]
        by_cases found : entry.1 = other
        · have different : other ≠ key := fun equal => same (found.trans equal)
          simp [found, different]
        · simp [found]

private theorem getEntry_filter (key other : Key)
    (entries : List (Key × Value)) :
    getEntry other (entries.filter fun entry => entry.1 ≠ key) =
      if other = key then none else getEntry other entries := by
  induction entries with
  | nil => simp [getEntry]
  | cons entry rest induction =>
      by_cases same : entry.1 = key
      · by_cases hit : other = key
        · simpa [List.filter_cons, same, hit] using induction
        · simpa [List.filter_cons, getEntry, same, hit, Ne.symm hit] using induction
      · rw [List.filter_cons_of_pos (by simpa using same), getEntry, induction, getEntry]
        by_cases found : entry.1 = other
        · have different : other ≠ key := fun equal => same (found.trans equal)
          simp [found, different]
        · simp [found]

private theorem getEntry_eq_some_iff (nodup : (entries.map Prod.fst).Nodup) :
    getEntry key entries = some value ↔ (key, value) ∈ entries := by
  induction entries with
  | nil => simp [getEntry]
  | cons entry rest induction =>
      have parts := List.nodup_cons.mp nodup
      by_cases same : entry.1 = key
      · have absent : (key, value) ∉ rest := fun member =>
          parts.1 (same ▸ List.mem_map_of_mem (f := Prod.fst) member)
        simp [getEntry, same, absent, Prod.ext_iff, eq_comm]
      · have different : (key, value) ≠ entry := fun equal => same (by simp [← equal])
        simp [getEntry, same, different, induction parts.2]

private theorem setEntry_of_getEntry_none (absent : getEntry key entries = none) :
    setEntry key value entries = entries ++ [(key, value)] := by
  induction entries with
  | nil => rfl
  | cons entry rest induction =>
      by_cases same : entry.1 = key
      · simp [getEntry, same] at absent
      · have absentTail : getEntry key rest = none := by
          simpa [getEntry, same] using absent
        rw [setEntry, if_neg same, induction absentTail, List.cons_append]

private theorem keys_setEntry (present : getEntry key entries = some old) :
    (setEntry key value entries).map Prod.fst = entries.map Prod.fst := by
  induction entries with
  | nil => cases present
  | cons entry rest induction =>
      by_cases same : entry.1 = key
      · simp [setEntry, same]
      · have later : getEntry key rest = some old := by
          simpa [getEntry, same] using present
        rw [setEntry, if_neg same, List.map_cons, List.map_cons, induction later]

/-! ## Operations -/

def get? (map : InsertionMap Key Value) (key : Key) : Option Value :=
  getEntry key map.entries

def has (map : InsertionMap Key Value) (key : Key) : Bool :=
  (map.get? key).isSome

def set (map : InsertionMap Key Value) (key : Key) (value : Value) : InsertionMap Key Value where
  entries := setEntry key value map.entries
  nodup := setEntry_nodup key value map.nodup

def delete (map : InsertionMap Key Value) (key : Key) : InsertionMap Key Value where
  entries := map.entries.filter fun entry => entry.1 ≠ key
  nodup := map.nodup.sublist ((List.filter_sublist).map Prod.fst)

def setAll (map : InsertionMap Key Value) (entries : List (Key × Value)) : InsertionMap Key Value :=
  entries.foldl (fun current entry => current.set entry.1 entry.2) map

@[simp] theorem get?_empty (key : Key) : (empty : InsertionMap Key Value).get? key = none := rfl

theorem get?_set (map : InsertionMap Key Value) (key other : Key) (value : Value) :
    (map.set key value).get? other =
      if other = key then some value else map.get? other :=
  getEntry_setEntry key other value map.entries

@[simp] theorem get?_set_same (map : InsertionMap Key Value) (key : Key)
    (value : Value) : (map.set key value).get? key = some value := by
  simp [get?_set]

theorem get?_set_other (map : InsertionMap Key Value) {other : Key} (value : Value)
    (different : other ≠ key) : (map.set key value).get? other = map.get? other := by
  simp [get?_set, different]

theorem get?_delete (map : InsertionMap Key Value) (key other : Key) :
    (map.delete key).get? other = if other = key then none else map.get? other :=
  getEntry_filter key other map.entries

theorem get?_eq_some_iff : map.get? key = some value ↔ (key, value) ∈ map.entries :=
  getEntry_eq_some_iff map.nodup

theorem mem_keys_iff : key ∈ map.keys ↔ ∃ value, map.get? key = some value := by
  simp [keys, get?_eq_some_iff]

theorem mem_values_iff : value ∈ map.values ↔ ∃ key, map.get? key = some value := by
  simp [values, get?_eq_some_iff]

theorem nodup_names {name : Value → Key}
    (named : ∀ {key value}, map.get? key = some value → name value = key) :
    (map.values.map name).Nodup := by
  have keys : map.values.map name = map.keys := by
    rw [values, InsertionMap.keys, List.map_map]
    apply List.map_congr_left
    intro entry member
    exact named (get?_eq_some_iff.mpr member)
  rw [keys]
  exact map.nodup

theorem has_iff : map.has key = true ↔ ∃ value, map.get? key = some value :=
  Option.isSome_iff_exists

theorem size_eq_zero_iff : map.size = 0 ↔ ∀ key, map.get? key = none := by
  constructor
  · intro empty key
    have noEntries : map.entries = [] := List.length_eq_zero_iff.mp empty
    simp [get?, noEntries, getEntry]
  · intro absent
    apply List.length_eq_zero_iff.mpr
    apply List.eq_nil_iff_forall_not_mem.mpr
    intro entry member
    have present : map.get? entry.1 = some entry.2 := get?_eq_some_iff.mpr member
    simp [absent] at present

theorem entries_set_of_absent (absent : map.get? key = none) :
    (map.set key value).entries = map.entries ++ [(key, value)] :=
  setEntry_of_getEntry_none absent

theorem values_set_of_absent (absent : map.get? key = none) :
    (map.set key value).values = map.values ++ [value] := by
  rw [values, entries_set_of_absent absent]
  simp [values]

private theorem perm_filter (nodup : (entries.map Prod.fst).Nodup)
    (member : (key, value) ∈ entries) :
    entries.Perm ((key, value) :: entries.filter fun entry => entry.1 ≠ key) := by
  induction entries with
  | nil => cases member
  | cons head tail induction =>
      rcases List.nodup_cons.mp nodup with ⟨headNew, tailNodup⟩
      rcases List.mem_cons.mp member with atHead | inTail
      · have untouched : tail.filter (fun entry => decide (entry.1 ≠ key)) = tail := by
          apply List.filter_eq_self.mpr
          intro entry later
          apply decide_eq_true
          rintro rfl
          apply headNew
          rw [← atHead]
          exact List.mem_map.mpr ⟨entry, later, rfl⟩
        rw [← atHead, List.filter_cons_of_neg (by simp), untouched]
      · have headOther : head.1 ≠ key := by
          rintro rfl
          exact headNew (List.mem_map.mpr ⟨_, inTail, rfl⟩)
        rw [List.filter_cons_of_pos (by simpa using headOther)]
        exact ((induction tailNodup inTail).cons head).trans (.swap _ _ _)

theorem perm_delete (present : map.get? key = some value) :
    map.entries.Perm ((key, value) :: (map.delete key).entries) :=
  perm_filter map.nodup (get?_eq_some_iff.mp present)

theorem size_set_of_absent (absent : map.get? key = none) :
    (map.set key value).size = map.size + 1 := by
  rw [size, entries_set_of_absent absent, List.length_append]
  rfl

theorem size_delete_of_present (present : map.get? key = some value) :
    (map.delete key).size + 1 = map.size :=
  (perm_delete present).length_eq.symm

theorem keys_set_of_present (present : map.get? key = some old) :
    (map.set key value).keys = map.keys :=
  keys_setEntry present

theorem size_set_of_present (present : map.get? key = some old) :
    (map.set key value).size = map.size := by
  simpa [keys, size] using congrArg List.length (keys_set_of_present present)

theorem setAll_cons (map : InsertionMap Key Value) (entry : Key × Value)
    (entries : List (Key × Value)) :
    map.setAll (entry :: entries) = (map.set entry.1 entry.2).setAll entries := rfl

theorem get?_setAll (found : (map.setAll entries).get? key = some value) :
    map.get? key = some value ∨ (key, value) ∈ entries := by
  induction entries generalizing map with
  | nil => exact .inl found
  | cons entry entries induction =>
      rw [setAll_cons] at found
      rcases induction found with before | later
      · rw [get?_set] at before
        split at before
        · rename_i same
          cases before
          exact .inr (by simp [same])
        · exact .inl before
      · exact .inr (List.mem_cons_of_mem _ later)

theorem get?_setAll_isSome (written : (map.get? key).isSome ∨ key ∈ entries.map Prod.fst) :
    ((map.setAll entries).get? key).isSome := by
  induction entries generalizing map with
  | nil => simpa [setAll] using written
  | cons entry entries induction =>
      rw [setAll_cons]
      apply induction
      rw [get?_set]
      by_cases same : key = entry.1
      · simp [same]
      · simpa [same] using written

theorem get?_setAll_eq (map : InsertionMap Key Value) (entries : List (Key × Value)) (key : Key) :
    (map.setAll entries).get? key =
      ((entries.reverse.find? fun entry => entry.1 = key).map Prod.snd).or (map.get? key) := by
  induction entries generalizing map with
  | nil => rfl
  | cons entry entries induction =>
      rw [setAll_cons, induction, get?_set, List.reverse_cons, List.find?_append]
      by_cases same : key = entry.1
      · cases entries.reverse.find? fun entry => entry.1 = key <;> simp [same]
      · have other : ¬ entry.1 = key := fun equal => same equal.symm
        cases entries.reverse.find? fun entry => entry.1 = key <;> simp [same, other]

theorem entries_setAll (nodup : ((map.entries ++ entries).map Prod.fst).Nodup) :
    (map.setAll entries).entries = map.entries ++ entries := by
  induction entries generalizing map with
  | nil => simp [setAll]
  | cons entry entries induction =>
      have absent : map.get? entry.1 = none := by
        cases found : map.get? entry.1 with
        | none => rfl
        | some value =>
            rw [List.map_append, List.nodup_append] at nodup
            have member := List.mem_map_of_mem (f := Prod.fst) (get?_eq_some_iff.mp found)
            exact absurd rfl (nodup.2.2 _ member entry.1 (by simp))
      have appended : (map.set entry.1 entry.2).entries = map.entries ++ [entry] :=
        entries_set_of_absent absent
      rw [setAll_cons, induction, appended]
      · simp
      · rw [appended]
        simpa using nodup

/-! ## Equal maps -/

theorem eq_of_keys {other : InsertionMap Key Value} (keys : map.keys = other.keys)
    (same : ∀ key, map.get? key = other.get? key) : map = other := by
  have found (map : InsertionMap Key Value) :
      map.entries.map (fun entry => (entry.1, some entry.2)) =
        map.keys.map fun key => (key, map.get? key) := by
    rw [InsertionMap.keys, List.map_map]
    apply List.map_congr_left
    intro entry member
    rw [Function.comp_apply, get?_eq_some_iff.mpr member]
  have equal : map.entries.map (fun entry => (entry.1, some entry.2)) =
      other.entries.map fun entry => (entry.1, some entry.2) := by
    rw [found, found, keys]
    exact List.map_congr_left fun key _ => by rw [same]
  apply eq_of_entries
  apply List.map_injective_iff.mpr _ equal
  intro entry otherEntry pair
  cases entry
  cases otherEntry
  cases pair
  rfl

theorem delete_set_of_ne {other : Key} (different : key ≠ other) (map : InsertionMap Key Value)
    (value : Value) : (map.set key value).delete other = (map.delete other).set key value := by
  apply eq_of_entries
  show (setEntry key value map.entries).filter _ = setEntry key value (map.entries.filter _)
  induction map.entries with
  | nil => simp [setEntry, different]
  | cons entry rest induction =>
      by_cases same : entry.1 = key
      · simp [setEntry, same, different]
      · by_cases deleted : entry.1 = other
        · simpa [setEntry, deleted, Ne.symm different] using induction
        · simpa [setEntry, same, deleted] using induction

theorem set_set_same (map : InsertionMap Key Value) (key : Key) (value later : Value) :
    (map.set key value).set key later = map.set key later := by
  apply eq_of_entries
  show setEntry key later (setEntry key value map.entries) = setEntry key later map.entries
  induction map.entries with
  | nil => simp [setEntry]
  | cons entry rest induction =>
      by_cases same : entry.1 = key
      · simp [setEntry, same]
      · simpa [setEntry, same] using induction

theorem keys_setAll_of_present (present : ∀ entry ∈ entries, (map.get? entry.1).isSome) :
    (map.setAll entries).keys = map.keys := by
  induction entries generalizing map with
  | nil => rfl
  | cons entry entries induction =>
      rcases Option.isSome_iff_exists.mp (present entry List.mem_cons_self) with ⟨old, isOld⟩
      rw [setAll_cons, induction, keys_set_of_present isOld]
      intro later member
      rw [get?_set]
      split
      · rfl
      · exact present later (List.mem_cons_of_mem _ member)

theorem setAll_setAll (map : InsertionMap Key Value) (entries : List (Key × Value)) :
    (map.setAll entries).setAll entries = map.setAll entries := by
  apply eq_of_keys
  · apply keys_setAll_of_present
    intro entry member
    exact get?_setAll_isSome (.inr (List.mem_map_of_mem member))
  · intro key
    rw [get?_setAll_eq, get?_setAll_eq]
    cases (entries.reverse.find? fun entry => entry.1 = key).map Prod.snd with
    | none | some value => rfl

end InsertionMap

end Orbital.Foundation

/-! ## Totals over a map

Every value of a map has a measure, and the map has the sum of the measures.
-/

namespace Orbital.Foundation.InsertionMap

variable {Key Value Amount : Type} [AddCommMonoid Amount]

def total (measure : Value → Amount) (map : InsertionMap Key Value) : Amount :=
  (map.values.map measure).sum

variable {measure : Value → Amount}

theorem total_eq_of_perm {map other : InsertionMap Key Value}
    (same : map.entries.Perm other.entries) : map.total measure = other.total measure :=
  ((same.map Prod.snd).map measure).sum_eq

variable [DecidableEq Key]

def part (measure : Value → Amount) (map : InsertionMap Key Value) (key : Key) : Amount :=
  (map.get? key).elim 0 measure

theorem part_add_total_delete (map : InsertionMap Key Value) (key : Key) :
    map.part measure key + (map.delete key).total measure = map.total measure := by
  cases found : map.get? key with
  | none =>
      have untouched : (map.delete key).entries = map.entries := by
        apply List.filter_eq_self.mpr
        intro entry member
        apply decide_eq_true
        rintro rfl
        rw [get?_eq_some_iff.mpr member] at found
        cases found
      rw [part, found, Option.elim_none, zero_add]
      exact total_eq_of_perm (.of_eq untouched)
  | some value =>
      have sums := ((perm_delete found).map fun entry => measure entry.2).sum_eq
      rw [List.map_cons, List.sum_cons] at sums
      rw [part, found, Option.elim_some, total, total, values, values, List.map_map, List.map_map]
      exact sums.symm

theorem delete_set (map : InsertionMap Key Value) (key : Key) (value : Value) :
    ((map.set key value).delete key).entries.Perm (map.delete key).entries := by
  have nodup (map : InsertionMap Key Value) : map.entries.Nodup := map.nodup.of_map
  apply (List.perm_ext_iff_of_nodup (nodup _) (nodup _)).mpr
  rintro ⟨other, held⟩
  rw [← get?_eq_some_iff, ← get?_eq_some_iff, get?_delete, get?_delete]
  by_cases same : other = key
  · rw [if_pos same, if_pos same]
  · rw [if_neg same, if_neg same, get?_set_other map value same]

theorem total_set_add (map : InsertionMap Key Value) (key : Key) (value : Value) :
    (map.set key value).total measure + map.part measure key =
      map.total measure + measure value := by
  have after : (map.set key value).part measure key +
      ((map.set key value).delete key).total measure = (map.set key value).total measure :=
    part_add_total_delete _ key
  have before : map.part measure key + (map.delete key).total measure = map.total measure :=
    part_add_total_delete map key
  rw [part, get?_set_same, Option.elim_some, total_eq_of_perm (delete_set map key value)] at after
  rw [← after, ← before]
  abel

theorem sum_parts (map : InsertionMap Key Value) {keys : List Key} (nodup : keys.Nodup)
    (all : ∀ key ∈ map.keys, key ∈ keys) : (keys.map (map.part measure)).sum = map.total measure := by
  have others : ∀ list : List Key, (∀ key ∈ list, key ∉ map.keys) →
      (list.map (map.part measure)).sum = 0 := by
    intro list outside
    apply List.sum_eq_zero
    intro amount member
    rcases List.mem_map.mp member with ⟨key, inside, rfl⟩
    cases found : map.get? key with
    | none => rw [part, found, Option.elim_none]
    | some value => exact absurd (mem_keys_iff.mpr ⟨value, found⟩) (outside key inside)
  have split : keys.Perm (map.keys ++ keys.filter fun key => key ∉ map.keys) := by
    apply (List.perm_ext_iff_of_nodup nodup ?_).mpr
    · intro key
      rw [List.mem_append, List.mem_filter, decide_eq_true_eq]
      by_cases inside : key ∈ map.keys
      · exact ⟨fun _ => .inl inside, fun _ => all key inside⟩
      · exact ⟨fun member => .inr ⟨member, inside⟩, fun either => (either.resolve_left inside).1⟩
    · apply List.Nodup.append map.nodup (nodup.filter _)
      intro key inside outside
      exact of_decide_eq_true (List.mem_filter.mp outside).2 inside
  have held : map.keys.map (map.part measure) = map.values.map measure := by
    rw [InsertionMap.keys, values, List.map_map, List.map_map]
    apply List.map_congr_left
    intro entry member
    rw [Function.comp_apply, part, get?_eq_some_iff.mpr member, Option.elim_some]
    rfl
  rw [(split.map _).sum_eq, List.map_append, List.sum_append, held, others, add_zero, total]
  intro key member
  exact of_decide_eq_true (List.mem_filter.mp member).2

end Orbital.Foundation.InsertionMap

/-! ## Reference counts

How many holders share the value of a key. A key without holders has no entry.
-/

namespace Orbital.Foundation

abbrev RefCounts (Key : Type u) := InsertionMap Key Nat

namespace RefCounts

variable {Key : Type u} [DecidableEq Key]

def retain (counts : RefCounts Key) (key : Key) : RefCounts Key :=
  counts.set key ((counts.get? key).getD 0 + 1)

/-- One holder less, and whether that was the last one. A key that no one holds counts
as released for the last time. -/
def release (counts : RefCounts Key) (key : Key) : RefCounts Key × Bool :=
  match counts.get? key with
  | none => (counts, true)
  | some count =>
      if count ≤ 1 then (counts.delete key, true)
      else (counts.set key (count - 1), false)

variable {counts : RefCounts Key} {key : Key} {count : Nat}

theorem retain_absent (absent : counts.get? key = none) : retain counts key = counts.set key 1 := by
  rw [retain, absent]
  rfl

theorem retain_present (present : counts.get? key = some count) :
    retain counts key = counts.set key (count + 1) := by
  rw [retain, present]
  rfl

theorem release_shared (present : counts.get? key = some count) (shared : 1 < count) :
    release counts key = (counts.set key (count - 1), false) := by
  rw [release, present]
  exact if_neg (Nat.not_le_of_lt shared)

theorem release_last (present : counts.get? key = some count) (last : count ≤ 1) :
    release counts key = (counts.delete key, true) := by
  rw [release, present]
  exact if_pos last

end RefCounts

end Orbital.Foundation
