import Mathlib.Data.List.MinMax
import Mathlib.Order.Lattice

/-! # The best of a list

A loop goes through a list and keeps the best item it has seen. It ends with an item
that no other is better than.
-/

namespace Orbital.Foundation

variable {Item : Type}

def keepBetter (better : Item → Item → Bool) (best : Option Item) (item : Item) : Option Item :=
  match best with
  | none => some item
  | some kept => if better item kept then some item else some kept

def pick (better : Item → Item → Bool) (items : List Item) : Option Item :=
  items.foldl (keepBetter better) none

section Preorder

variable {better : Item → Item → Bool} {AtLeast : Item → Item → Prop}

/-- Being at least as good as another item is reflexive and transitive, and of two items
one is, as the loop's comparison tells. -/
structure Compares (better : Item → Item → Bool) (AtLeast : Item → Item → Prop) : Prop where
  refl : ∀ item, AtLeast item item
  trans : ∀ {first second third}, AtLeast first second → AtLeast second third →
    AtLeast first third
  taken : ∀ {item kept}, better item kept = true → AtLeast item kept
  passed : ∀ {item kept}, better item kept = false → AtLeast kept item

theorem keepBetter_spec (compares : Compares better AtLeast) (best : Option Item) (item : Item) :
    ∃ kept, keepBetter better best item = some kept ∧ (kept = item ∨ best = some kept) ∧
      AtLeast kept item ∧ ∀ previous, best = some previous → AtLeast kept previous := by
  cases best with
  | none => exact ⟨item, rfl, .inl rfl, compares.refl item, fun _ none => by cases none⟩
  | some kept =>
      rw [keepBetter]
      split
      · rename_i taken
        refine ⟨item, rfl, .inl rfl, compares.refl item, ?_⟩
        intro previous same
        cases same
        exact compares.taken taken
      · rename_i passed
        refine ⟨kept, rfl, .inr rfl, compares.passed (Bool.eq_false_iff.mpr passed), ?_⟩
        intro previous same
        cases same
        exact compares.refl kept

variable {items : List Item} {found : Item}

private theorem foldl_keepBetter (compares : Compares better AtLeast) {start : Option Item}
    (picked : items.foldl (keepBetter better) start = some found) :
    (found ∈ items ∨ start = some found) ∧ (∀ item ∈ items, AtLeast found item) ∧
      ∀ previous, start = some previous → AtLeast found previous := by
  induction items generalizing start with
  | nil =>
      refine ⟨.inr picked, fun _ member => absurd member List.not_mem_nil, ?_⟩
      intro previous same
      cases picked.symm.trans same
      exact compares.refl _
  | cons item rest induction =>
      rcases keepBetter_spec compares start item with ⟨kept, isKept, from_, atItem, atStart⟩
      rw [List.foldl_cons, isKept] at picked
      rcases induction picked with ⟨place, best, bestKept⟩
      have atKept := bestKept kept rfl
      refine ⟨?_, ?_, ?_⟩
      · rcases place with member | same
        · exact .inl (List.mem_cons_of_mem item member)
        · cases same
          rcases from_ with first | earlier
          · exact .inl (first ▸ List.mem_cons_self)
          · exact .inr earlier
      · intro other member
        rcases List.mem_cons.mp member with rfl | later
        · exact compares.trans atKept atItem
        · exact best other later
      · intro previous same
        exact compares.trans atKept (atStart previous same)

theorem pick_spec (compares : Compares better AtLeast) (picked : pick better items = some found) :
    found ∈ items ∧ ∀ item ∈ items, AtLeast found item := by
  rcases foldl_keepBetter compares picked with ⟨place, best, -⟩
  rcases place with member | none
  · exact ⟨member, best⟩
  · cases none

theorem mem_of_pick {better : Item → Item → Bool} (picked : pick better items = some found) :
    found ∈ items := by
  have compares : Compares better fun _ _ => True :=
    ⟨fun _ => trivial, fun _ _ => trivial, fun _ => trivial, fun _ => trivial⟩
  exact (pick_spec compares picked).1

theorem pick_middle {better : Item → Item → Bool} {front back : List Item} {item : Item}
    (beats : ∀ other ∈ front, better item other = true)
    (stays : ∀ other ∈ back, better other item = false) :
    pick better (front ++ item :: back) = some item := by
  have taken : keepBetter better (pick better front) item = some item := by
    cases best : pick better front with
    | none => rfl
    | some found => rw [keepBetter, if_pos (beats found (mem_of_pick best))]
  rw [pick, List.foldl_append, List.foldl_cons]
  change back.foldl (keepBetter better) (keepBetter better (pick better front) item) = some item
  rw [taken]
  induction back with
  | nil => rfl
  | cons other rest induction =>
      rw [List.foldl_cons, keepBetter, stays other List.mem_cons_self, if_neg Bool.false_ne_true]
      exact induction fun later inside => stays later (List.mem_cons_of_mem other inside)

end Preorder

private theorem foldl_keepBetter_isSome (better : Item → Item → Bool) (items : List Item)
    (start : Item) : (items.foldl (keepBetter better) (some start)).isSome := by
  induction items generalizing start with
  | nil => rfl
  | cons item rest induction =>
      rw [List.foldl_cons, keepBetter]
      split <;> exact induction _

theorem pick_eq_none {better : Item → Item → Bool} {items : List Item} :
    pick better items = none ↔ items = [] := by
  cases items with
  | nil => exact ⟨fun _ => rfl, fun _ => rfl⟩
  | cons item rest =>
      have found := foldl_keepBetter_isSome better rest item
      constructor
      · intro none
        rw [pick, List.foldl_cons, keepBetter] at none
        rw [none] at found
        cases found
      · intro empty
        cases empty

section Kept

variable {better : Item → Item → Bool} {keep : Item → Bool}

/-- A kept item wins against every other that is not kept. -/
def Wins (better : Item → Item → Bool) (keep : Item → Bool) : Prop :=
  ∀ first second, keep first = true → keep second = false →
    better first second = true ∧ better second first = false

private theorem foldl_filter_of_kept (wins : Wins better keep) (items : List Item) {best : Item}
    (kept : keep best = true) :
    items.foldl (keepBetter better) (some best) =
      (items.filter keep).foldl (keepBetter better) (some best) := by
  induction items generalizing best with
  | nil => rfl
  | cons item rest induction =>
      rw [List.foldl_cons, keepBetter]
      by_cases isKept : keep item = true
      · rw [List.filter_cons_of_pos isKept, List.foldl_cons, keepBetter]
        split
        · exact induction isKept
        · exact induction kept
      · have loses := (wins best item kept (Bool.eq_false_iff.mpr isKept)).2
        rw [List.filter_cons_of_neg isKept, loses]
        exact induction kept

private theorem foldl_filter_of_member (wins : Wins better keep) {items : List Item}
    (member : ∃ item ∈ items, keep item = true) {best : Option Item}
    (unkept : ∀ item ∈ best, keep item = false) :
    items.foldl (keepBetter better) best = (items.filter keep).foldl (keepBetter better) none := by
  induction items generalizing best with
  | nil =>
      rcases member with ⟨item, inside, _⟩
      cases inside
  | cons item rest induction =>
      rw [List.foldl_cons]
      by_cases isKept : keep item = true
      · have taken : keepBetter better best item = some item := by
          cases best with
          | none => rfl
          | some old =>
              have beats := (wins item old isKept (unkept old rfl)).1
              rw [keepBetter, beats, if_pos rfl]
        rw [List.filter_cons_of_pos isKept, List.foldl_cons, taken,
          foldl_filter_of_kept wins rest isKept]
        rfl
      · rw [List.filter_cons_of_neg isKept]
        apply induction
        · rcases member with ⟨other, inside, otherKept⟩
          rcases List.mem_cons.mp inside with rfl | later
          · exact absurd otherKept isKept
          · exact ⟨other, later, otherKept⟩
        · intro next isNext
          cases best with
          | none =>
              cases isNext
              exact Bool.eq_false_iff.mpr isKept
          | some old =>
              rw [keepBetter] at isNext
              split at isNext
              · cases isNext
                exact Bool.eq_false_iff.mpr isKept
              · cases isNext
                exact unkept _ rfl

theorem pick_filter (wins : Wins better keep) {items : List Item}
    (member : ∃ item ∈ items, keep item = true) :
    pick better items = pick better (items.filter keep) :=
  foldl_filter_of_member wins member fun _ none => by cases none

end Kept

/-! ## The place of the best -/

section Places

variable {Key : Type} [LinearOrder Key] {key : Item → Option Key} {items : List Item}

def Leads (key : Item → Option Key) (items : List Item) (place : Nat) : Prop :=
  ∃ item value, items[place]? = some item ∧ key item = some value ∧
    ∀ (other : Nat) (found : Item) (foundKey : Key), items[other]? = some found →
      key found = some foundKey → value ≤ foundKey ∧ (other < place → value < foundKey)

theorem leads_unique {first second : Nat} (leads : Leads key items first)
    (leadsToo : Leads key items second) : first = second := by
  rcases leads with ⟨item, value, atFirst, keyed, least⟩
  rcases leadsToo with ⟨other, otherValue, atSecond, otherKeyed, otherLeast⟩
  rcases least second other otherValue atSecond otherKeyed with ⟨below, before⟩
  rcases otherLeast first item value atFirst keyed with ⟨above, behind⟩
  rcases Nat.lt_trichotomy first second with earlier | same | later
  · exact absurd (behind earlier) (not_lt.mpr below)
  · exact same
  · exact absurd (before later) (not_lt.mpr above)

theorem exists_leads {item : Item} {value : Key} (member : item ∈ items)
    (keyed : key item = some value) : ∃ place, Leads key items place := by
  induction items generalizing item value with
  | nil => cases member
  | cons head rest induction =>
      by_cases another : ∃ other ∈ rest, (key other).isSome
      · rcases another with ⟨other, inside, present⟩
        rcases Option.isSome_iff_exists.mp present with ⟨otherValue, otherKeyed⟩
        rcases induction inside otherKeyed with ⟨place, leader, least, atPlace, isLeast, below⟩
        by_cases first : ∃ headKey, key head = some headKey ∧ headKey ≤ least
        · -- the head comes first and no key of the rest is less
          rcases first with ⟨headKey, headKeyed, atMost⟩
          refine ⟨0, head, headKey, rfl, headKeyed, ?_⟩
          intro number found foundKey atNumber foundKeyed
          refine ⟨?_, fun before => absurd before (Nat.not_lt_zero _)⟩
          cases number with
          | zero =>
              cases atNumber
              cases headKeyed.symm.trans foundKeyed
              exact le_refl _
          | succ number => exact le_trans atMost (below number found foundKey atNumber foundKeyed).1
        · refine ⟨place + 1, leader, least, atPlace, isLeast, ?_⟩
          intro number found foundKey atNumber foundKeyed
          cases number with
          | zero =>
              cases atNumber
              have less : least < foundKey :=
                not_le.mp fun atMost => first ⟨foundKey, foundKeyed, atMost⟩
              exact ⟨le_of_lt less, fun _ => less⟩
          | succ number =>
              rcases below number found foundKey atNumber foundKeyed with ⟨atMost, before⟩
              exact ⟨atMost, fun earlier => before (Nat.lt_of_succ_lt_succ earlier)⟩
      · have noOther : ∀ other ∈ rest, key other = none := fun other inside =>
          Option.not_isSome_iff_eq_none.mp fun present => another ⟨other, inside, present⟩
        rcases List.mem_cons.mp member with rfl | inside
        · refine ⟨0, item, value, rfl, keyed, ?_⟩
          intro number found foundKey atNumber foundKeyed
          refine ⟨?_, fun before => absurd before (Nat.not_lt_zero _)⟩
          cases number with
          | zero =>
              cases atNumber
              cases keyed.symm.trans foundKeyed
              exact le_refl _
          | succ number =>
              rw [noOther found (List.mem_of_getElem? atNumber)] at foundKeyed
              cases foundKeyed
        · rw [noOther item inside] at keyed
          cases keyed

theorem Leads.narrow {narrow : Item → Option Key} {place : Nat} {item : Item}
    (leads : Leads key items place) (atPlace : items[place]? = some item)
    (kept : narrow item = key item)
    (fewer : ∀ item value, narrow item = some value → key item = some value) :
    Leads narrow items place := by
  rcases leads with ⟨leader, value, isLeader, keyed, least⟩
  cases atPlace.symm.trans isLeader
  refine ⟨item, value, atPlace, kept.trans keyed, ?_⟩
  exact fun other found foundKey atOther foundKeyed =>
    least other found foundKey atOther (fewer found foundKey foundKeyed)

end Places

/-! ## The first of the highest -/

section Highest

variable {Key : Type} [LinearOrder Key] {key : Item → Key} {items : List Item} {item : Item}

theorem find?_of_argmax (highest : items.argmax key = some item) :
    items.find? (fun other => key other = key item) = some item := by
  induction items generalizing item with
  | nil => cases highest
  | cons head rest induction =>
      rw [List.argmax_cons] at highest
      cases best : rest.argmax key with
      | none =>
          rw [best] at highest
          cases highest
          simp
      | some found =>
          rw [best] at highest
          dsimp only at highest
          split at highest
          · rename_i below
            cases highest
            rw [List.find?_cons_of_neg (by simp [below.ne])]
            exact induction best
          · cases highest
            simp

theorem argmax_iff_find? :
    items.argmax key = some item ↔ (∀ other ∈ items, key other ≤ key item) ∧
      items.find? (fun other => key other = key item) = some item := by
  constructor
  · intro highest
    exact ⟨fun other member => List.le_of_mem_argmax member highest, find?_of_argmax highest⟩
  · rintro ⟨atMost, found⟩
    have member := List.mem_of_find?_eq_some found
    cases highest : items.argmax key with
    | none => exact absurd (List.argmax_eq_none.mp highest) (List.ne_nil_of_mem member)
    | some other =>
        have same : key other = key item :=
          le_antisymm (atMost other (List.argmax_mem highest))
            (List.le_of_mem_argmax member highest)
        have first := find?_of_argmax highest
        rw [same, found] at first
        exact first.symm

end Highest

end Orbital.Foundation
