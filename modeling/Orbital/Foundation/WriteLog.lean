import Mathlib.Data.List.Basic

/-! # Logs of keyed writes

A log lists writes `(key, value)` in the order they happened. `contents` is
the plain store such a log describes: a key holds the value of the last write
to it, or what the store held at the start.
-/

namespace Orbital.Foundation

variable {Key : Type u} {Value : Type v} [DecidableEq Key]

def writesTo (key : Key) (log : List (Key × Value)) : List Value :=
  log.filterMap fun entry => if entry.1 = key then some entry.2 else none

def lastWrite (key : Key) (log : List (Key × Value)) : Option Value :=
  (writesTo key log).getLast?

def contents (origin : Key → Option Value) (log : List (Key × Value)) (key : Key) : Option Value :=
  (lastWrite key log).or (origin key)

@[simp] theorem writesTo_nil (key : Key) : writesTo key ([] : List (Key × Value)) = [] := rfl

@[simp] theorem writesTo_append (key : Key) (first second : List (Key × Value)) :
    writesTo key (first ++ second) = writesTo key first ++ writesTo key second := by
  simp [writesTo]

@[simp] theorem writesTo_single_same (key : Key) (value : Value) :
    writesTo key [(key, value)] = [value] := by
  simp [writesTo]

variable {key other : Key} {value : Value} {log : List (Key × Value)} {origin : Key → Option Value}

theorem writesTo_single_other (value : Value) (different : other ≠ key) :
    writesTo other [(key, value)] = [] := by
  simp [writesTo, Ne.symm different]

@[simp] theorem mem_writesTo : value ∈ writesTo key log ↔ (key, value) ∈ log := by
  simp only [writesTo, List.mem_filterMap]
  constructor
  · rintro ⟨⟨other, stored⟩, member, selected⟩
    by_cases same : other = key
    · subst same
      simp only [if_true, Option.some.injEq] at selected
      exact selected ▸ member
    · simp [same] at selected
  · intro member
    exact ⟨(key, value), member, by simp⟩

theorem writesTo_eq_singleton (nodup : (log.map Prod.fst).Nodup) (member : (key, value) ∈ log) :
    writesTo key log = [value] := by
  induction log with
  | nil => cases member
  | cons entry rest induction =>
      have parts := List.nodup_cons.mp nodup
      rcases List.mem_cons.mp member with equal | inRest
      · subst equal
        have noMore : writesTo key rest = [] := by
          apply List.eq_nil_iff_forall_not_mem.mpr
          intro other written
          have inRest : (key, other) ∈ rest := mem_writesTo.mp written
          exact parts.1 (List.mem_map.mpr ⟨(key, other), inRest, rfl⟩)
        have split := writesTo_append key [(key, value)] rest
        rw [noMore, writesTo_single_same] at split
        simpa using split
      · have different : entry.1 ≠ key := fun same =>
          parts.1 (same ▸ List.mem_map_of_mem (f := Prod.fst) inRest)
        have split := writesTo_append key [entry] rest
        rw [induction parts.2 inRest, writesTo_single_other entry.2 different.symm] at split
        simpa using split

theorem writesTo_filter_same (key : Key) (log : List (Key × Value)) :
    writesTo key (log.filter fun entry => entry.1 ≠ key) = [] := by
  apply List.eq_nil_iff_forall_not_mem.mpr
  intro value written
  simpa using List.of_mem_filter (mem_writesTo.mp written)

theorem writesTo_filter_other (log : List (Key × Value)) (different : other ≠ key) :
    writesTo other (log.filter fun entry => entry.1 ≠ key) = writesTo other log := by
  rw [writesTo, writesTo, List.filterMap_filter]
  congr 1
  funext entry
  by_cases hit : entry.1 = other
  · simp [hit, different]
  · by_cases removed : entry.1 = key <;> simp [hit, removed, different.symm]

theorem contents_of_lastWrite (last : lastWrite key log = some value) :
    contents origin log key = some value := by
  simp [contents, last]

theorem contents_congr {left right : List (Key × Value)}
    (same : lastWrite key left = lastWrite key right) :
    contents origin left key = contents origin right key := by
  rw [contents, contents, same]

@[simp] theorem contents_append_same (origin : Key → Option Value)
    (log : List (Key × Value)) (key : Key) (value : Value) :
    contents origin (log ++ [(key, value)]) key = some value := by
  simp [contents, lastWrite]

theorem contents_append_other (origin : Key → Option Value) (log : List (Key × Value))
    (value : Value) (different : other ≠ key) :
    contents origin (log ++ [(key, value)]) other = contents origin log other := by
  simp [contents, lastWrite, writesTo_single_other value different]

/-! ## Values held from some write on -/

/-- A value the key held after at least the first `since` writes of the log. -/
def HeldSince (origin : Key → Option Value) (log : List (Key × Value))
    (since : Nat) (key : Key) (value : Option Value) : Prop :=
  ∃ position, since ≤ position ∧ position ≤ log.length ∧
    value = contents origin (log.take position) key

theorem heldSince_now (origin : Key → Option Value) {since : Nat} (inside : since ≤ log.length)
    (key : Key) : HeldSince origin log since key (contents origin log key) :=
  ⟨log.length, inside, Nat.le_refl _, by rw [List.take_length]⟩

theorem HeldSince.append {since : Nat} {value : Option Value}
    (held : HeldSince origin log since key value) (more : List (Key × Value)) :
    HeldSince origin (log ++ more) since key value := by
  rcases held with ⟨position, later, inside, equal⟩
  refine ⟨position, later, ?_, ?_⟩
  · rw [List.length_append]
    omega
  · rw [List.take_append_of_le_length inside]
    exact equal

theorem HeldSince.eq_contents {value : Option Value}
    (held : HeldSince origin log log.length key value) : value = contents origin log key := by
  rcases held with ⟨position, later, inside, equal⟩
  rw [equal, List.take_of_length_le later]

end Orbital.Foundation
