import Mathlib.Data.Fintype.EquivFin
import Mathlib.Data.Set.Finite.Basic
import Mathlib.Logic.Relation
import Mathlib.Order.WellFounded

/-! # Records that link to one another

Each record of a list has an id and may link to one other id. The links have no cycle as long
as no record that is added closes one.
-/

namespace Orbital.Foundation.Links

open Relation (TransGen ReflTransGen)

variable {Record Id : Type}

section Definitions

variable (id : Record → Id) (link : Record → Option Id) (records : List Record)

def Points (first second : Record) : Prop :=
  first ∈ records ∧ second ∈ records ∧ link first = some (id second)

def Acyclic : Prop :=
  ∀ record, ¬ TransGen (Points id link records) record record

/-- A new id links to itself, or to a record from which links lead back to the new id. -/
def Closes (newId : Id) (target : Option Id) : Prop :=
  target = some newId ∨
    ∃ first ∈ records, target = some (id first) ∧
      ∃ last, ReflTransGen (Points id link records) first last ∧ link last = some newId

end Definitions

variable {id : Record → Id} {link : Record → Option Id} {records : List Record}
variable {new first last : Record}

theorem acyclic_nil : Acyclic id link [] := by
  intro record cycle
  rcases TransGen.head'_iff.mp cycle with ⟨next, points, -⟩
  cases points.1

theorem Acyclic.exists_unlinked (acyclic : Acyclic id link records) (nonempty : records ≠ []) :
    ∃ record ∈ records, ∀ other ∈ records, link other ≠ some (id record) := by
  have finite : Finite {record // record ∈ records} :=
    (List.finite_toSet records).to_subtype
  have step {first second : {record // record ∈ records}}
      (path : TransGen (fun first second : {record // record ∈ records} =>
        link first = some (id second)) first second) :
      TransGen (Points id link records) first second :=
    path.lift Subtype.val fun first second links => ⟨first.property, second.property, links⟩
  have irreflexive : Std.Irrefl (TransGen fun first second : {record // record ∈ records} =>
      link first = some (id second)) :=
    ⟨fun record cycle => acyclic record (step cycle)⟩
  have wellFounded := Finite.wellFounded_of_trans_of_irrefl
    (TransGen fun first second : {record // record ∈ records} => link first = some (id second))
  rcases List.exists_mem_of_ne_nil records nonempty with ⟨start, member⟩
  rcases wellFounded.has_min Set.univ ⟨⟨start, member⟩, trivial⟩ with ⟨least, -, isLeast⟩
  refine ⟨least, least.property, fun other member links => ?_⟩
  exact isLeast ⟨other, member⟩ trivial (.single links)

theorem Points.mono {others : List Record} (subset : records ⊆ others)
    (points : Points id link records first last) : Points id link others first last :=
  ⟨subset points.1, subset points.2.1, points.2.2⟩

theorem Acyclic.mono {others : List Record} (acyclic : Acyclic id link others)
    (subset : records ⊆ others) : Acyclic id link records :=
  fun record cycle =>
    acyclic record (TransGen.mono (fun _ _ points => points.mono subset) _ _ cycle)

theorem path_until_new
    (path : ReflTransGen (Points id link (records ++ [new])) first last) (old : first ∈ records) :
    (ReflTransGen (Points id link records) first last ∧ last ∈ records) ∨
      ∃ middle, ReflTransGen (Points id link records) first middle ∧
        link middle = some (id new) := by
  induction path with
  | refl => exact .inl ⟨.refl, old⟩
  | @tail middle next _ points induction =>
      rcases induction with ⟨before, member⟩ | reached
      · rcases List.mem_append.mp points.2.1 with memberToo | isNew
        · exact .inl ⟨before.tail ⟨member, memberToo, points.2.2⟩, memberToo⟩
        · rw [List.mem_singleton.mp isNew] at points
          exact .inr ⟨middle, before, points.2.2⟩
      · exact .inr reached

theorem path_through_new (path : TransGen (Points id link (records ++ [new])) first last) :
    TransGen (Points id link records) first last ∨
      ReflTransGen (Points id link (records ++ [new])) first new ∧
        ReflTransGen (Points id link (records ++ [new])) new last := by
  have either {first last : Record} (points : Points id link (records ++ [new]) first last) :
      Points id link records first last ∨ first = new ∨ last = new := by
    rcases List.mem_append.mp points.1 with member | isNew
    · rcases List.mem_append.mp points.2.1 with memberToo | isNew
      · exact .inl ⟨member, memberToo, points.2.2⟩
      · exact .inr (.inr (List.mem_singleton.mp isNew))
    · exact .inr (.inl (List.mem_singleton.mp isNew))
  induction path with
  | single points =>
      rcases either points with old | rfl | rfl
      · exact .inl (.single old)
      · exact .inr ⟨.refl, .single points⟩
      · exact .inr ⟨.single points, .refl⟩
  | tail path points induction =>
      rcases induction with old | ⟨before, behind⟩
      · rcases either points with more | rfl | rfl
        · exact .inl (old.tail more)
        · exact .inr ⟨path.to_reflTransGen, .single points⟩
        · exact .inr ⟨path.to_reflTransGen.tail points, .refl⟩
      · exact .inr ⟨before, behind.tail points⟩

theorem acyclic_append_iff (fresh : new ∉ records) :
    Acyclic id link (records ++ [new]) ↔
      Acyclic id link records ∧ ¬ Closes id link records (id new) (link new) := by
  have isNew : new ∈ records ++ [new] := List.mem_append_right _ List.mem_cons_self
  have subset : records ⊆ records ++ [new] := List.subset_append_left _ _
  constructor
  · intro acyclic
    refine ⟨acyclic.mono subset, fun closes => ?_⟩
    rcases closes with toItself | ⟨first, member, links, last, path, linksBack⟩
    · exact acyclic new (.single ⟨isNew, isNew, toItself⟩)
    · have memberToo : last ∈ records := by
        rcases ReflTransGen.cases_tail path with same | ⟨before, -, points⟩
        · exact same ▸ member
        · exact points.2.1
      have back : ReflTransGen (Points id link (records ++ [new])) first new :=
        (ReflTransGen.mono (fun _ _ points => points.mono subset) _ _ path).tail
          ⟨subset memberToo, isNew, linksBack⟩
      exact acyclic new (.head' ⟨isNew, subset member, links⟩ back)
  · rintro ⟨acyclic, closesNone⟩ record cycle
    -- a cycle with a new record is one from the new record to itself
    have atNew : TransGen (Points id link (records ++ [new])) new new := by
      rcases path_through_new cycle with old | ⟨before, behind⟩
      · exact absurd old (acyclic record)
      · rcases ReflTransGen.cases_head before with rfl | ⟨next, points, rest⟩
        · exact cycle
        · exact .trans_right behind (.head' points rest)
    rcases TransGen.head'_iff.mp atNew with ⟨next, points, path⟩
    rcases List.mem_append.mp points.2.1 with member | same
    · rcases path_until_new path member with old | ⟨middle, reached, linksBack⟩
      · exact fresh old.2
      · exact closesNone (.inr ⟨next, member, points.2.2, middle, reached, linksBack⟩)
    · rw [List.mem_singleton.mp same] at points
      exact closesNone (.inl points.2.2)

end Orbital.Foundation.Links
