import Mathlib.Data.List.Nodup
import Mathlib.Data.List.Pairwise
import Mathlib.Data.List.Sort

/-! # Orders of lists

What a sort by insertion keeps, and what is made of a list that comes in any order.
-/

/-! ## Sorting by insertion

A sort that tells items apart by their level keeps what it makes of the lower levels when
items of higher levels are added. A sort of indexed items is a sort of what is read from
them.
-/

namespace Orbital.Foundation.StableSort

variable {Item Part : Type} {relation : Item → Item → Prop} [DecidableRel relation]

section Levels

variable {Level : Type} [LinearOrder Level]

structure ByLevel (relation : Item → Item → Prop) (level : Item → Level) : Prop where
  below : ∀ {first second}, level first < level second → relation first second
  above : ∀ {first second}, level second < level first → ¬relation first second

variable {level : Item → Level}

variable {item : Item} {front back : List Item}

theorem orderedInsert_append_low (byLevel : ByLevel relation level)
    (low : ∀ other ∈ back, level item < level other) :
    (front ++ back).orderedInsert relation item = front.orderedInsert relation item ++ back := by
  induction front with
  | nil =>
      cases back with
      | nil => rfl
      | cons head rest =>
          have before := byLevel.below (low head List.mem_cons_self)
          rw [List.nil_append, List.orderedInsert_cons_of_le relation rest before]
          rfl
  | cons head rest induction =>
      by_cases before : relation item head
      · rw [List.cons_append, List.orderedInsert_cons_of_le relation _ before,
          List.orderedInsert_cons_of_le relation _ before]
        rfl
      · rw [List.cons_append, List.orderedInsert_of_not_le relation _ before,
          List.orderedInsert_of_not_le relation _ before, induction]
        rfl

theorem orderedInsert_append_high (byLevel : ByLevel relation level)
    (high : ∀ other ∈ front, level other < level item) :
    (front ++ back).orderedInsert relation item = front ++ back.orderedInsert relation item := by
  induction front with
  | nil => rfl
  | cons head rest induction =>
      have behind := byLevel.above (high head List.mem_cons_self)
      rw [List.cons_append, List.orderedInsert_of_not_le relation _ behind, induction]
      · rfl
      · exact fun other inside => high other (List.mem_cons_of_mem head inside)

theorem insertionSort_upTo (byLevel : ByLevel relation level) (bound : Level)
    (items : List Item) :
    ∃ rest, items.insertionSort relation =
        (items.filter fun item => level item ≤ bound).insertionSort relation ++ rest ∧
      ∀ item ∈ rest, bound < level item := by
  induction items with
  | nil => exact ⟨[], rfl, fun _ none => by cases none⟩
  | cons item items induction =>
      rcases induction with ⟨rest, sorted, behind⟩
      rw [List.insertionSort_cons, sorted]
      by_cases within : level item ≤ bound
      · refine ⟨rest, ?_, behind⟩
        rw [List.filter_cons_of_pos (by simpa using within), List.insertionSort_cons]
        exact orderedInsert_append_low byLevel fun other inside =>
          lt_of_le_of_lt within (behind other inside)
      · refine ⟨rest.orderedInsert relation item, ?_, ?_⟩
        · rw [List.filter_cons_of_neg (by simpa using within)]
          apply orderedInsert_append_high byLevel
          intro other inside
          have kept := (List.mem_filter.mp ((List.mem_insertionSort relation).mp inside)).2
          exact lt_of_le_of_lt (of_decide_eq_true kept) (not_le.mp within)
        · intro other inside
          rcases (List.mem_orderedInsert relation).mp inside with rfl | old
          · exact not_le.mp within
          · exact behind other old

end Levels

section Parts

variable {target : Part → Part → Prop} [DecidableRel target] {part : Item → Option Part}

theorem orderedInsert_front {relation : Part → Part → Prop} [DecidableRel relation] {item : Part}
    {items : List Part} (first : ∀ other ∈ items, relation item other) :
    items.orderedInsert relation item = item :: items := by
  cases items with
  | nil => rfl
  | cons head rest =>
      exact List.orderedInsert_cons_of_le relation rest (first head List.mem_cons_self)

variable {item : Item} {items : List Item}

theorem filterMap_orderedInsert_none (none : part item = none) (items : List Item) :
    (items.orderedInsert relation item).filterMap part = items.filterMap part := by
  rw [List.orderedInsert_eq_take_drop, List.filterMap_append, List.filterMap_cons, none,
    ← List.filterMap_append, List.takeWhile_append_dropWhile]

theorem filterMap_orderedInsert_some [IsTrans Item relation] {value : Part}
    (some : part item = some value) (sorted : items.Pairwise relation)
    (agree : ∀ other ∈ items, ∀ found ∈ part other, (relation item other ↔ target value found)) :
    (items.orderedInsert relation item).filterMap part =
      (items.filterMap part).orderedInsert target value := by
  induction items with
  | nil =>
      rw [List.orderedInsert_nil, List.filterMap_cons, some]
      rfl
  | cons head rest induction =>
      rcases List.pairwise_cons.mp sorted with ⟨fromHead, inRest⟩
      by_cases before : relation item head
      · -- the item comes before all others, so its part does
        rw [List.orderedInsert_cons_of_le relation rest before, List.filterMap_cons, some]
        symm
        apply orderedInsert_front
        intro found inside
        rcases List.mem_filterMap.mp inside with ⟨other, member, isFound⟩
        apply (agree other member found isFound).mp
        rcases List.mem_cons.mp member with rfl | later
        · exact before
        · exact IsTrans.trans _ _ _ before (fromHead other later)
      · have rest := induction inRest fun other inside =>
          agree other (List.mem_cons_of_mem head inside)
        rw [List.orderedInsert_of_not_le relation _ before, List.filterMap_cons,
          List.filterMap_cons]
        cases found : part head with
        | none => exact rest
        | some value' =>
            have behind : ¬target value value' := fun related =>
              before ((agree head List.mem_cons_self value' found).mpr related)
            dsimp only
            rw [rest, List.orderedInsert_of_not_le target _ behind]

theorem filterMap_insertionSort [Std.Total relation] [IsTrans Item relation]
    (agree : items.Pairwise fun first second =>
      ∀ value ∈ part first, ∀ found ∈ part second, (relation first second ↔ target value found)) :
    (items.insertionSort relation).filterMap part =
      (items.filterMap part).insertionSort target := by
  induction items with
  | nil => rfl
  | cons item rest induction =>
      rcases List.pairwise_cons.mp agree with ⟨fromItem, inRest⟩
      rw [List.insertionSort_cons, List.filterMap_cons]
      cases found : part item with
      | none => rw [filterMap_orderedInsert_none found, induction inRest]
      | some value =>
          have sorted := List.pairwise_insertionSort relation rest
          have agreeRest : ∀ other ∈ rest.insertionSort relation, ∀ found ∈ part other,
              (relation item other ↔ target value found) := fun other inside =>
            fromItem other ((List.mem_insertionSort relation).mp inside) value found
          rw [filterMap_orderedInsert_some found sorted agreeRest, induction inRest]
          rfl

theorem filter_insertionSort [Std.Total relation] [IsTrans Item relation] (keep : Item → Bool)
    (items : List Item) :
    (items.insertionSort relation).filter keep = (items.filter keep).insertionSort relation := by
  rw [← List.filterMap_eq_filter]
  apply filterMap_insertionSort
  apply List.pairwise_of_forall
  intro first second value isValue found isFound
  rw [(Option.guard_eq_some_iff.mp isValue).1, (Option.guard_eq_some_iff.mp isFound).1]

end Parts

section Orders

/-- Where no two items stand both ways to each other, the sorted list depends on what is in the
list only. -/
theorem insertionSort_congr [Std.Total relation] [IsTrans Item relation] {items others : List Item}
    (same : items.Perm others)
    (antisymm : ∀ first ∈ items, ∀ second ∈ items, relation first second → relation second first →
      first = second) :
    items.insertionSort relation = others.insertionSort relation := by
  apply List.Perm.eq_of_pairwise
  · intro first second inFirst inSecond
    apply antisymm first ((List.mem_insertionSort relation).mp inFirst) second
    exact same.mem_iff.mpr ((List.mem_insertionSort relation).mp inSecond)
  · exact List.pairwise_insertionSort relation items
  · exact List.pairwise_insertionSort relation others
  · exact (List.perm_insertionSort relation items).trans
      (same.trans (List.perm_insertionSort relation others).symm)

theorem getLast?_orderedInsert {item : Item} {items : List Item}
    (before : ∃ other ∈ items, relation item other) :
    (items.orderedInsert relation item).getLast? = items.getLast? := by
  induction items with
  | nil =>
      rcases before with ⟨other, never, _⟩
      cases never
  | cons head rest induction =>
      rw [List.orderedInsert]
      split
      · rw [List.getLast?_cons_cons]
      · rename_i behind
        rcases before with ⟨other, member, isBefore⟩
        rcases List.mem_cons.mp member with rfl | inRest
        · exact absurd isBefore behind
        · have later := induction ⟨other, inRest, isBefore⟩
          rw [List.getLast?_cons, List.getLast?_cons, later]

end Orders

section Times

variable {Row Time : Type} [LinearOrder Time] {time : Row → Time}

theorem pairwise_byTime (rows : List Row) :
    (rows.insertionSort fun row later => time row ≤ time later).Pairwise fun row later =>
      time row ≤ time later := by
  have total : Std.Total fun row later : Row => time row ≤ time later :=
    ⟨fun row later => le_total (time row) (time later)⟩
  have trans : IsTrans Row fun row later => time row ≤ time later :=
    ⟨fun _ _ _ lower upper => le_trans lower upper⟩
  exact List.pairwise_insertionSort _ rows

theorem arranged_eq {rows arranged : List Row}
    (ordered : rows.Pairwise fun row later => row = later ∨ time row < time later)
    (sorted : arranged.Pairwise fun row later => time row ≤ time later)
    (perm : arranged.Perm rows) : arranged = rows := by
  have symmetric : Std.Symm fun row other : Row => time row = time other → row = other :=
    ⟨fun _ _ same equal => (same equal.symm).symm⟩
  have apart : rows.Pairwise fun row other => time row = time other → row = other := by
    apply ordered.imp
    rintro row later (rfl | earlier) equal
    · rfl
    · exact absurd equal earlier.ne
  have alone : ∀ row ∈ rows, ∀ other ∈ rows, time row = time other → row = other :=
    fun _ member _ otherMember => apart.forall_of_forall (fun _ _ _ => rfl) member otherMember
  apply List.Perm.eq_of_pairwise _ sorted (ordered.imp _) perm
  · intro row other member otherMember lower upper
    exact alone row (perm.mem_iff.mp member) other otherMember (le_antisymm lower upper)
  · rintro row later (rfl | earlier)
    · exact le_refl _
    · exact earlier.le

end Times

end Orbital.Foundation.StableSort

/-! ## Lists that come in any order

What is made of a list whose order is left open. A list of different items has one order only
when it has one item at most.
-/

namespace Orbital.Foundation.AnyOrder

variable {Item Key Value : Type}

theorem nodup_eraseDups [BEq Key] [LawfulBEq Key] (keys : List Key) : keys.eraseDups.Nodup := by
  induction size : keys.length using Nat.strongRecOn generalizing keys with
  | _ size induction =>
      cases keys with
      | nil => exact List.nodup_nil
      | cons key rest =>
          have shorter := List.length_filter_le (fun other => !other == key) rest
          rw [List.length_cons] at size
          rw [List.eraseDups_cons]
          apply List.nodup_cons.mpr
          constructor
          · intro member
            rw [List.mem_eraseDups, List.mem_filter] at member
            simp at member
          · exact induction _ (by omega) (rest.filter fun other => !other == key) rfl

theorem perm_eraseDups [BEq Key] [LawfulBEq Key] {keys others : List Key}
    (perm : keys.Perm others) : keys.eraseDups.Perm others.eraseDups := by
  apply (List.perm_ext_iff_of_nodup (nodup_eraseDups _) (nodup_eraseDups _)).mpr
  intro key
  rw [List.mem_eraseDups, List.mem_eraseDups, perm.mem_iff]

theorem forall_map_eq_iff {read : Item → Value} {items : List Item}
    (different : (items.map read).Nodup) :
    (∀ order : List Item, order.Perm items → order.map read = items.map read) ↔
      items.length ≤ 1 := by
  constructor
  · intro same
    rcases items with - | ⟨first, - | ⟨second, rest⟩⟩
    · simp
    · simp
    · have swapped := same (second :: first :: rest) (List.Perm.swap _ _ _)
      simp only [List.map_cons] at swapped different
      have equal := (List.cons.inj swapped).1
      rw [equal] at different
      exact absurd List.mem_cons_self (List.nodup_cons.mp different).1
  · intro short order perm
    rcases items with - | ⟨first, - | ⟨second, rest⟩⟩
    · rw [perm.eq_nil]
    · rw [List.perm_singleton.mp perm]
    · rw [List.length_cons, List.length_cons] at short
      omega

section Groups

variable [BEq Key] (key : Item → Key) (latest : Key → Option Value)

def latestEach (items : List Item) : List Value :=
  (items.map key).eraseDups.filterMap latest

/-- What is let through can be picked for each key already. -/
theorem filterMap_filter (keep : Value → Bool) (items : List Item) :
    ((items.map key).eraseDups.filterMap fun key => (latest key).filter keep) =
      (latestEach key latest items).filter keep := by
  rw [latestEach, List.filter_filterMap]

variable {key latest} {keyOf : Value → Key} [LawfulBEq Key]

theorem latestEach_perm {items others : List Item} (perm : items.Perm others) :
    (latestEach key latest items).Perm (latestEach key latest others) :=
  (perm_eraseDups (perm.map key)).filterMap latest

theorem mem_latestEach {items : List Item} {value : Value} :
    value ∈ latestEach key latest items ↔ ∃ item ∈ items, latest (key item) = some value := by
  rw [latestEach, List.mem_filterMap]
  constructor
  · rintro ⟨found, member, isLatest⟩
    rcases List.mem_map.mp (List.mem_eraseDups.mp member) with ⟨item, inside, rfl⟩
    exact ⟨item, inside, isLatest⟩
  · rintro ⟨item, inside, isLatest⟩
    exact ⟨key item, List.mem_eraseDups.mpr (List.mem_map_of_mem inside), isLatest⟩

theorem nodup_latestEach (ofKey : ∀ key value, latest key = some value → keyOf value = key)
    (items : List Item) : (latestEach key latest items).Nodup := by
  apply (nodup_eraseDups _).filterMap
  intro first second value isLatest isLatestToo
  rw [← ofKey first value isLatest, ofKey second value isLatestToo]

/-- The values come in one order only, and are those of a filter, when there is one at most and
the filter lets it through. -/
theorem forall_latestEach_iff (ofKey : ∀ key value, latest key = some value → keyOf value = key)
    (keep : Value → Bool) (items : List Item) :
    (∀ order : List Item, order.Perm items →
      latestEach key latest order = (latestEach key latest items).filter keep) ↔
      (latestEach key latest items).length ≤ 1 ∧
        ∀ value ∈ latestEach key latest items, keep value = true := by
  constructor
  · intro same
    have whole := same items (List.Perm.refl _)
    have kept := List.filter_eq_self.mp whole.symm
    refine ⟨?_, kept⟩
    have different : (latestEach key latest items).Nodup := nodup_latestEach ofKey items
    cases values : latestEach key latest items with
    | nil => simp
    | cons first rest =>
        cases rest with
        | nil => simp
        | cons second rest =>
            have inside : second ∈ latestEach key latest items := by
              rw [values]
              exact List.mem_cons_of_mem _ List.mem_cons_self
            rcases mem_latestEach.mp inside with ⟨item, member, isLatest⟩
            -- The order that puts the item of the second value in front.
            rcases List.append_of_mem member with ⟨front, back, rfl⟩
            have moved := same (item :: (front ++ back)) List.perm_middle.symm
            rw [← whole, values, latestEach, List.map_cons, List.eraseDups_cons,
              List.filterMap_cons_some isLatest] at moved
            rw [values, (List.cons.inj moved).1] at different
            exact absurd List.mem_cons_self (List.nodup_cons.mp different).1
  · rintro ⟨short, kept⟩ order perm
    rw [List.filter_eq_self.mpr kept]
    have same : (latestEach key latest order).Perm (latestEach key latest items) :=
      latestEach_perm perm
    rcases values : latestEach key latest items with - | ⟨first, - | ⟨second, rest⟩⟩
    · rw [values] at same
      exact same.eq_nil
    · rw [values] at same
      exact List.perm_singleton.mp same
    · rw [values, List.length_cons, List.length_cons] at short
      omega

end Groups

end Orbital.Foundation.AnyOrder
