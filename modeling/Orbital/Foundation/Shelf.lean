import Mathlib.Data.List.Nodup
import Mathlib.Logic.Function.Basic

/-! # Shelves of labelled records

A shelf keeps the records of many places. The records of a place have labels; the shelf
lists the labels of a place in the order in which they came and points to the newest.
A record is added in three writes, under a label that the place does not have yet.
-/

namespace Orbital.Foundation

structure Shelf (Place Label Record : Type) where
  records : Place → Label → Option Record
  labels : Place → Option (List Label)
  latest : Place → Option Label

namespace Shelf

variable {Place Label Record Failure : Type}

def empty : Shelf Place Label Record where
  records := fun _ _ => none
  labels := fun _ => none
  latest := fun _ => none

def listed (shelf : Shelf Place Label Record) (place : Place) : List Label :=
  (shelf.labels place).getD []

def newest (shelf : Shelf Place Label Record) (place : Place) : Option Record := do
  let label ← shelf.latest place
  shelf.records place label

structure Consistent (Keyed : Place → Label → Record → Prop)
    (shelf : Shelf Place Label Record) : Prop where
  latest : ∀ place, shelf.latest place = (shelf.listed place).getLast?
  nodup : ∀ place, (shelf.listed place).Nodup
  recorded : ∀ place, ∀ label ∈ shelf.listed place, ∃ record,
    shelf.records place label = some record ∧ Keyed place label record
  listed : ∀ place label record, shelf.records place label = some record →
    label ∈ shelf.listed place

structure AgreesAt (place : Place) (first second : Shelf Place Label Record) : Prop where
  records : first.records place = second.records place
  labels : first.labels place = second.labels place
  latest : first.latest place = second.latest place

theorem AgreesAt.refl (place : Place) (shelf : Shelf Place Label Record) :
    shelf.AgreesAt place shelf :=
  ⟨rfl, rfl, rfl⟩

structure KeptBy (first second : Shelf Place Label Record) : Prop where
  records : ∀ place label record, first.records place label = some record →
    second.records place label = some record
  listed : ∀ place, first.listed place <+: second.listed place

theorem KeptBy.refl (shelf : Shelf Place Label Record) : shelf.KeptBy shelf :=
  ⟨fun _ _ _ stored => stored, fun _ => List.prefix_refl _⟩

theorem KeptBy.trans {first second third : Shelf Place Label Record}
    (front : first.KeptBy second) (back : second.KeptBy third) : first.KeptBy third := by
  constructor
  · intro place label record stored
    exact back.records place label record (front.records place label record stored)
  · intro place
    exact (front.listed place).trans (back.listed place)

theorem Consistent.empty (Keyed : Place → Label → Record → Prop) :
    (empty : Shelf Place Label Record).Consistent Keyed := by
  constructor
  · exact fun place => rfl
  · exact fun place => List.nodup_nil
  · intro place label member
    cases member
  · intro place label record stored
    cases stored

variable [DecidableEq Place] [DecidableEq Label]

def putRecord (place : Place) (label : Label) (record : Record)
    (shelf : Shelf Place Label Record) : Shelf Place Label Record :=
  { shelf with
    records := Function.update shelf.records place
      (Function.update (shelf.records place) label (some record)) }

def putLabels (place : Place) (labels : List Label) (shelf : Shelf Place Label Record) :
    Shelf Place Label Record :=
  { shelf with labels := Function.update shelf.labels place (some labels) }

def putLatest (place : Place) (label : Label) (shelf : Shelf Place Label Record) :
    Shelf Place Label Record :=
  { shelf with latest := Function.update shelf.latest place (some label) }

def add (taken : Failure) (place : Place) (label : Label) (record : Record) :
    EStateM Failure (Shelf Place Label Record) Unit := do
  let shelf ← get
  if (shelf.records place label).isSome then
    throw taken
  else
    modify (putRecord place label record)
    let shelf ← get
    modify (putLabels place (shelf.listed place ++ [label]))
    modify (putLatest place label)

def filed (place : Place) (label : Label) (record : Record) (shelf : Shelf Place Label Record) :
    Shelf Place Label Record where
  records := Function.update shelf.records place
    (Function.update (shelf.records place) label (some record))
  labels := Function.update shelf.labels place (some (shelf.listed place ++ [label]))
  latest := Function.update shelf.latest place (some label)

variable {taken : Failure} {place : Place} {label : Label} {record : Record}
  {shelf : Shelf Place Label Record}

theorem add_of_absent (absent : shelf.records place label = none) :
    (add taken place label record).run shelf = .ok () (shelf.filed place label record) := by
  have unclaimed : ¬ (shelf.records place label).isSome = true := by simp [absent]
  change (if (shelf.records place label).isSome then _ else _ : EStateM Failure _ Unit) shelf = _
  rw [if_neg unclaimed]
  rfl

theorem add_of_taken (present : shelf.records place label ≠ none) :
    (add taken place label record).run shelf = .error taken shelf := by
  have claimed : (shelf.records place label).isSome = true :=
    Option.isSome_iff_ne_none.mpr present
  change (if (shelf.records place label).isSome then _ else _ : EStateM Failure _ Unit) shelf = _
  rw [if_pos claimed]
  rfl

section Filed

variable {place other : Place} {label : Label} {record : Record}
  {shelf : Shelf Place Label Record}

theorem agreesAt_filed (different : other ≠ place) :
    shelf.AgreesAt other (shelf.filed place label record) := by
  constructor
  · exact (Function.update_of_ne different _ _).symm
  · exact (Function.update_of_ne different _ _).symm
  · exact (Function.update_of_ne different _ _).symm

theorem listed_filed_self :
    (shelf.filed place label record).listed place = shelf.listed place ++ [label] := by
  change (Function.update shelf.labels place _ place).getD [] = _
  rw [Function.update_self]
  rfl

theorem listed_filed_other (different : other ≠ place) :
    (shelf.filed place label record).listed other = shelf.listed other := by
  rw [listed, ← (agreesAt_filed different).labels, listed]

theorem records_filed_self :
    (shelf.filed place label record).records place =
      Function.update (shelf.records place) label (some record) :=
  Function.update_self ..

theorem keptBy_filed (absent : shelf.records place label = none) :
    shelf.KeptBy (shelf.filed place label record) := by
  constructor
  · intro other name kept stored
    by_cases same : other = place
    · subst same
      have different : name ≠ label := by
        intro equal
        rw [equal, absent] at stored
        cases stored
      rw [records_filed_self, Function.update_of_ne different]
      exact stored
    · rw [← (agreesAt_filed same).records]
      exact stored
  · intro other
    by_cases same : other = place
    · subst same
      rw [listed_filed_self]
      exact List.prefix_append _ _
    · have unchanged := @listed_filed_other _ _ _ _ _ _ _ label record shelf same
      exact unchanged ▸ List.prefix_refl _

theorem Consistent.filed {Keyed : Place → Label → Record → Prop}
    (consistent : shelf.Consistent Keyed) (absent : shelf.records place label = none)
    (keyed : Keyed place label record) : (shelf.filed place label record).Consistent Keyed := by
  have isNew : label ∉ shelf.listed place := by
    intro member
    rcases consistent.recorded place label member with ⟨old, stored, -⟩
    rw [absent] at stored
    cases stored
  constructor
  · intro other
    by_cases same : other = place
    · subst same
      rw [listed_filed_self, List.getLast?_concat]
      exact Function.update_self ..
    · rw [listed_filed_other same, ← (agreesAt_filed same).latest]
      exact consistent.latest other
  · intro other
    by_cases same : other = place
    · subst same
      rw [listed_filed_self]
      exact List.nodup_append.mpr ⟨consistent.nodup other, List.nodup_singleton _, by
        intro first inside last atEnd equal
        rw [equal, List.mem_singleton.mp atEnd] at inside
        exact isNew inside⟩
    · rw [listed_filed_other same]
      exact consistent.nodup other
  · intro other name member
    by_cases same : other = place
    · subst same
      rw [listed_filed_self, List.mem_append, List.mem_singleton] at member
      rw [records_filed_self]
      by_cases current : name = label
      · subst current
        exact ⟨record, Function.update_self .., keyed⟩
      · rw [Function.update_of_ne current]
        exact consistent.recorded other name (member.resolve_right current)
    · rw [listed_filed_other same] at member
      rw [← (agreesAt_filed same).records]
      exact consistent.recorded other name member
  · intro other name kept stored
    by_cases same : other = place
    · subst same
      rw [listed_filed_self, List.mem_append, List.mem_singleton]
      rw [records_filed_self] at stored
      by_cases current : name = label
      · exact Or.inr current
      · rw [Function.update_of_ne current] at stored
        exact Or.inl (consistent.listed other name kept stored)
    · rw [listed_filed_other same]
      rw [← (agreesAt_filed same).records] at stored
      exact consistent.listed other name kept stored

end Filed

theorem add_cases (taken : Failure) (place : Place) (label : Label) (record : Record)
    (shelf : Shelf Place Label Record) :
    (shelf.records place label = none ∧
      (add taken place label record).run shelf = .ok () (shelf.filed place label record)) ∨
    (shelf.records place label ≠ none ∧
      (add taken place label record).run shelf = .error taken shelf) := by
  by_cases absent : shelf.records place label = none
  · exact Or.inl ⟨absent, add_of_absent absent⟩
  · exact Or.inr ⟨absent, add_of_taken absent⟩

end Shelf

end Orbital.Foundation
