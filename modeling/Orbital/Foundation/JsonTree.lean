import Mathlib.Data.List.Lex
import Mathlib.Data.List.Nodup
import Orbital.Foundation.NumberText
import Orbital.Foundation.StableSort

/-! # Trees of arrays and objects

The shape that JSON texts and the values read from them share. The members of an object
are a list; an assignment keeps the keys distinct and in the order in which the source
language enumerates them: array indices by size, then other keys by age.
-/

namespace Orbital.Foundation

/-! ## Strings in order -/

namespace JsString

def Le (first second : JsString) : Prop :=
  first.map UInt16.toNat ≤ second.map UInt16.toNat

instance : DecidableRel Le := fun first second =>
  inferInstanceAs (Decidable (first.map UInt16.toNat ≤ second.map UInt16.toNat))

instance : Std.Total Le :=
  ⟨fun first second => le_total (first.map UInt16.toNat) (second.map UInt16.toNat)⟩

instance : IsTrans JsString Le :=
  ⟨fun _ _ _ lower upper => le_trans lower upper⟩

theorem Le.antisymm {first second : JsString} (lower : Le first second)
    (upper : Le second first) : first = second :=
  List.map_injective_iff.mpr (fun _ _ => UInt16.toNat_inj.mp) (le_antisymm lower upper)

def sort (strings : List JsString) : List JsString :=
  strings.insertionSort Le

theorem sort_perm (strings : List JsString) : (sort strings).Perm strings :=
  List.perm_insertionSort Le strings

theorem sort_congr {first second : List JsString} (same : first.Perm second) :
    sort first = sort second :=
  StableSort.insertionSort_congr same fun _ _ _ _ => Le.antisymm

theorem sort_filter (keep : JsString → Bool) (strings : List JsString) :
    (sort strings).filter keep = sort (strings.filter keep) :=
  StableSort.filter_insertionSort keep strings

end JsString

/-! ## Properties in order -/

namespace Property

variable {Value : Type u}

/-- `key` as an array index: a number below `2 ^ 32 - 1`, written without further zeros. -/
def arrayIndex? (key : JsString) : Option Nat :=
  let number := Digits.value (Digits.read key).1
  if key = Digits.text (Digits.ofNat number) ∧ number < 2 ^ 32 - 1 then some number else none

/-- Whether a new key is enumerated ahead of one that is there. -/
def precedes (key other : JsString) : Bool :=
  match arrayIndex? key, arrayIndex? other with
  | some index, some present => index < present
  | some _, none => true
  | none, _ => false

def insert (key : JsString) (value : Value) : List (JsString × Value) → List (JsString × Value)
  | [] => [(key, value)]
  | entry :: rest =>
      if precedes key entry.1 then (key, value) :: entry :: rest
      else entry :: insert key value rest

def replace (key : JsString) (value : Value) (entries : List (JsString × Value)) :
    List (JsString × Value) :=
  entries.map fun entry => if entry.1 = key then (key, value) else entry

def assign (key : JsString) (value : Value) (entries : List (JsString × Value)) :
    List (JsString × Value) :=
  if key ∈ entries.map Prod.fst then replace key value entries else insert key value entries

theorem insert_perm (key : JsString) (value : Value) (entries : List (JsString × Value)) :
    (insert key value entries).Perm ((key, value) :: entries) := by
  induction entries with
  | nil => exact .refl _
  | cons entry rest induction =>
      rw [insert]
      split
      · exact .refl _
      · exact (induction.cons entry).trans (.swap (key, value) entry rest)

theorem keys_replace (key : JsString) (value : Value) (entries : List (JsString × Value)) :
    (replace key value entries).map Prod.fst = entries.map Prod.fst := by
  rw [replace, List.map_map]
  apply List.map_congr_left
  intro entry _
  by_cases same : entry.1 = key
  · rw [Function.comp_apply, if_pos same]
    exact same.symm
  · simp only [Function.comp_apply, if_neg same]

variable {entries : List (JsString × Value)}

theorem nodup_assign (key : JsString) (value : Value) (nodup : (entries.map Prod.fst).Nodup) :
    ((assign key value entries).map Prod.fst).Nodup := by
  rw [assign]
  split
  · rw [keys_replace]
    exact nodup
  · rename_i outside
    rw [((insert_perm key value entries).map Prod.fst).nodup_iff]
    exact nodup.cons outside

variable {key : JsString} {value : Value} {entry : JsString × Value}

theorem lookup_eq_some_iff (nodup : (entries.map Prod.fst).Nodup) :
    entries.lookup key = some value ↔ (key, value) ∈ entries := by
  induction entries with
  | nil => simp
  | cons entry rest induction =>
      have parts := List.nodup_cons.mp nodup
      rcases entry with ⟨first, held⟩
      rw [List.lookup_cons, List.mem_cons, Prod.mk.injEq]
      by_cases same : key = first
      · subst same
        have outside : (key, value) ∉ rest := by
          intro inside
          exact parts.1 (List.mem_map.mpr ⟨_, inside, rfl⟩)
        simp only [beq_self_eq_true, outside, or_false, Option.some.injEq, true_and, eq_comm]
      · have different : (key == first) = false := beq_eq_false_iff_ne.mpr same
        simp only [different, induction parts.2, same, false_and, false_or]

theorem mem_assign {other : JsString} {found : Value} :
    (other, found) ∈ assign key value entries ↔
      other = key ∧ found = value ∨ other ≠ key ∧ (other, found) ∈ entries := by
  rw [assign]
  split
  · rename_i inside
    rcases List.mem_map.mp inside with ⟨entry, member, isKey⟩
    rw [replace, List.mem_map]
    constructor
    · rintro ⟨entry, member, result⟩
      by_cases same : entry.1 = key
      · rw [if_pos same] at result
        cases result
        exact .inl ⟨rfl, rfl⟩
      · rw [if_neg same] at result
        subst result
        exact .inr ⟨same, member⟩
    · rintro (⟨rfl, rfl⟩ | ⟨different, member⟩)
      · exact ⟨entry, member, if_pos isKey⟩
      · exact ⟨_, member, if_neg different⟩
  · rename_i outside
    rw [(insert_perm key value entries).mem_iff, List.mem_cons, Prod.ext_iff]
    constructor
    · rintro (⟨same, value⟩ | member)
      · exact .inl ⟨same, value⟩
      · refine .inr ⟨?_, member⟩
        intro same
        rw [same] at member
        exact outside (List.mem_map_of_mem member)
    · rintro (⟨same, value⟩ | ⟨-, member⟩)
      · exact .inl ⟨same, value⟩
      · exact .inr member

theorem lookup_assign (key other : JsString) (value : Value)
    (nodup : (entries.map Prod.fst).Nodup) :
    (assign key value entries).lookup other =
      if other = key then some value else entries.lookup other := by
  apply Option.ext
  intro found
  rw [lookup_eq_some_iff (nodup_assign key value nodup), mem_assign]
  by_cases same : other = key
  · rw [if_pos same]
    simp only [same, ne_eq, not_true_eq_false, true_and, false_and, or_false,
      Option.some.injEq, eq_comm]
  · rw [if_neg same, lookup_eq_some_iff nodup]
    simp only [same, false_and, ne_eq, not_false_eq_true, true_and, false_or]

def assignAll (entries : List (JsString × Value)) : List (JsString × Value) :=
  entries.foldl (fun object entry => assign entry.1 entry.2 object) []

theorem mem_assignAll (inside : entry ∈ assignAll entries) : entry ∈ entries := by
  have run : ∀ object : List (JsString × Value),
      entry ∈ entries.foldl (fun object entry => assign entry.1 entry.2 object) object →
        entry ∈ object ∨ entry ∈ entries := by
    clear inside
    induction entries with
    | nil => exact fun object inside => .inl inside
    | cons first rest induction =>
        intro object inside
        rcases induction _ inside with assigned | inside
        · rcases mem_assign.mp assigned with ⟨key, value⟩ | ⟨-, member⟩
          · exact .inr (Prod.ext key value ▸ List.mem_cons_self)
          · exact .inl member
        · exact .inr (List.mem_cons_of_mem first inside)
  exact (run [] inside).resolve_left List.not_mem_nil

theorem nodup_assignAll (entries : List (JsString × Value)) :
    ((assignAll entries).map Prod.fst).Nodup := by
  have run : ∀ object : List (JsString × Value), (object.map Prod.fst).Nodup →
      ((entries.foldl (fun object entry => assign entry.1 entry.2 object) object).map
        Prod.fst).Nodup := by
    induction entries with
    | nil => exact fun object nodup => nodup
    | cons entry rest induction =>
        exact fun object nodup => induction _ (nodup_assign entry.1 entry.2 nodup)
  exact run [] .nil

theorem assignAll_perm (nodup : (entries.map Prod.fst).Nodup) :
    (assignAll entries).Perm entries := by
  have run : ∀ object : List (JsString × Value),
      ((object ++ entries).map Prod.fst).Nodup →
        (entries.foldl (fun object entry => assign entry.1 entry.2 object) object).Perm
          (object ++ entries) := by
    clear nodup
    induction entries with
    | nil =>
        intro object _
        rw [List.append_nil]
        exact .refl _
    | cons entry rest induction =>
        intro object nodup
        have outside : entry.1 ∉ object.map Prod.fst := by
          rw [List.map_append, List.map_cons] at nodup
          intro inside
          exact (List.nodup_append.mp nodup).2.2 _ inside _ List.mem_cons_self rfl
        have step : (assign entry.1 entry.2 object).Perm (object ++ [entry]) := by
          rw [assign, if_neg outside]
          exact (insert_perm entry.1 entry.2 object).trans
            (List.perm_append_singleton entry object).symm
        have whole : (assign entry.1 entry.2 object ++ rest).Perm (object ++ entry :: rest) := by
          have moved := step.append_right rest
          rw [List.append_assoc, List.singleton_append] at moved
          exact moved
        rw [List.foldl_cons]
        refine (induction _ ?_).trans whole
        rw [(whole.map Prod.fst).nodup_iff]
        exact nodup
  exact run [] nodup

/-! ### Values under a function -/

def mapValues {Result : Type v} (function : Value → Result)
    (entries : List (JsString × Value)) : List (JsString × Result) :=
  entries.map fun entry => (entry.1, function entry.2)

variable {Result : Type v} (function : Value → Result)

@[simp] theorem mapValues_cons (entry : JsString × Value) (rest : List (JsString × Value)) :
    mapValues function (entry :: rest) = (entry.1, function entry.2) :: mapValues function rest :=
  rfl

theorem mem_mapValues {entry : JsString × Result} :
    entry ∈ mapValues function entries ↔
      ∃ value, (entry.1, value) ∈ entries ∧ function value = entry.2 := by
  rw [mapValues, List.mem_map]
  constructor
  · rintro ⟨⟨key, value⟩, inside, rfl⟩
    exact ⟨value, inside, rfl⟩
  · rintro ⟨value, inside, result⟩
    exact ⟨(entry.1, value), inside, Prod.ext rfl result⟩

theorem keys_mapValues (entries : List (JsString × Value)) :
    (mapValues function entries).map Prod.fst = entries.map Prod.fst := by
  rw [mapValues, List.map_map]
  rfl

theorem lookup_mapValues (entries : List (JsString × Value)) (key : JsString) :
    (mapValues function entries).lookup key = (entries.lookup key).map function := by
  induction entries with
  | nil => rfl
  | cons entry rest induction =>
      rw [mapValues_cons, List.lookup_cons, List.lookup_cons]
      cases key == entry.1 with
      | true => rfl
      | false => exact induction

theorem assign_mapValues (key : JsString) (value : Value) (entries : List (JsString × Value)) :
    assign key (function value) (mapValues function entries) =
      mapValues function (assign key value entries) := by
  have inserted : ∀ entries : List (JsString × Value),
      insert key (function value) (mapValues function entries) =
        mapValues function (insert key value entries) := by
    intro entries
    induction entries with
    | nil => rfl
    | cons entry rest induction =>
        rw [mapValues_cons, insert, insert]
        by_cases ahead : precedes key entry.1 = true
        · rw [if_pos ahead, if_pos ahead, mapValues_cons, mapValues_cons]
        · rw [if_neg ahead, if_neg ahead, mapValues_cons, induction]
  have replaced : replace key (function value) (mapValues function entries) =
      mapValues function (replace key value entries) := by
    rw [replace, replace, mapValues, mapValues, List.map_map, List.map_map]
    apply List.map_congr_left
    intro entry _
    by_cases same : entry.1 = key
    · simp only [Function.comp_apply, if_pos same]
    · simp only [Function.comp_apply, if_neg same]
  rw [assign, assign, keys_mapValues]
  split
  · exact replaced
  · exact inserted entries

theorem assignAll_mapValues (entries : List (JsString × Value)) :
    assignAll (mapValues function entries) = mapValues function (assignAll entries) := by
  have run : ∀ object : List (JsString × Value),
      (mapValues function entries).foldl (fun object entry => assign entry.1 entry.2 object)
          (mapValues function object) =
        mapValues function
          (entries.foldl (fun object entry => assign entry.1 entry.2 object) object) := by
    induction entries with
    | nil => exact fun object => rfl
    | cons entry rest induction =>
        intro object
        have step := assign_mapValues function entry.1 entry.2 object
        rw [mapValues_cons, List.foldl_cons, List.foldl_cons, step]
        exact induction _
  exact run []

/-! ### Entries in the order of their keys -/

def inKeyOrder (entries : List (JsString × Value)) : List (JsString × Value) :=
  (JsString.sort (entries.map Prod.fst)).filterMap fun key =>
    (entries.lookup key).map (key, ·)

theorem inKeyOrder_mapValues (entries : List (JsString × Value)) :
    inKeyOrder (mapValues function entries) = mapValues function (inKeyOrder entries) := by
  have values : mapValues function (inKeyOrder entries) =
      (JsString.sort (entries.map Prod.fst)).filterMap fun key =>
        ((entries.lookup key).map (key, ·)).map fun entry => (entry.1, function entry.2) :=
    List.map_filterMap
  rw [values, inKeyOrder, keys_mapValues]
  apply List.filterMap_congr
  intro key _
  rw [lookup_mapValues]
  cases entries.lookup key <;> rfl

theorem mem_inKeyOrder (nodup : (entries.map Prod.fst).Nodup) :
    entry ∈ inKeyOrder entries ↔ entry ∈ entries := by
  rw [inKeyOrder, List.mem_filterMap]
  constructor
  · rintro ⟨key, -, found⟩
    rw [Option.map_eq_some_iff] at found
    rcases found with ⟨value, found, rfl⟩
    exact (lookup_eq_some_iff nodup).mp found
  · intro inside
    refine ⟨entry.1, ?_, ?_⟩
    · rw [(JsString.sort_perm _).mem_iff]
      exact List.mem_map.mpr ⟨entry, inside, rfl⟩
    · rw [(lookup_eq_some_iff nodup).mpr inside]
      rfl

theorem keys_inKeyOrder (entries : List (JsString × Value)) :
    (inKeyOrder entries).map Prod.fst =
      (JsString.sort (entries.map Prod.fst)).filter fun key => (entries.lookup key).isSome := by
  rw [inKeyOrder, List.map_filterMap, ← List.filterMap_eq_filter]
  apply List.filterMap_congr
  intro key _
  cases found : entries.lookup key with
  | none | some value => rw [Option.guard, found]; rfl

theorem nodup_inKeyOrder (nodup : (entries.map Prod.fst).Nodup) :
    ((inKeyOrder entries).map Prod.fst).Nodup := by
  rw [keys_inKeyOrder]
  exact ((JsString.sort_perm _).nodup_iff.mpr nodup).filter _

end Property

/-! ## Trees -/

inductive JsonTree (Leaf : Type u)
  | leaf (value : Leaf)
  | array (items : List (JsonTree Leaf))
  | object (members : List (JsString × JsonTree Leaf))

namespace JsonTree

variable {Leaf : Type u}

theorem sizeOf_member_lt {members : List (JsString × JsonTree Leaf)}
    {member : JsString × JsonTree Leaf} (inside : member ∈ members) :
    sizeOf member.2 < sizeOf (object members) := by
  have pair : sizeOf member.2 < sizeOf member := by
    rcases member with ⟨key, value⟩
    simp only [Prod.mk.sizeOf_spec]
    omega
  have list := List.sizeOf_lt_of_mem inside
  rw [object.sizeOf_spec]
  omega

theorem sizeOf_item_lt {items : List (JsonTree Leaf)} {item : JsonTree Leaf}
    (inside : item ∈ items) : sizeOf item < sizeOf (array items) := by
  have list := List.sizeOf_lt_of_mem inside
  rw [array.sizeOf_spec]
  omega

/-- Induction over a tree: a list of parts is given with what holds of each part. -/
@[elab_as_elim, induction_eliminator]
theorem induction {motive : JsonTree Leaf → Prop} (leaf : ∀ value, motive (leaf value))
    (array : ∀ items, (∀ item ∈ items, motive item) → motive (array items))
    (object : ∀ members, (∀ member ∈ members, motive member.2) → motive (object members))
    (tree : JsonTree Leaf) : motive tree :=
  match tree with
  | .leaf value => leaf value
  | .array items => array items fun item _ => induction leaf array object item
  | .object members => object members fun member _ => induction leaf array object member.2
termination_by sizeOf tree
decreasing_by
  · exact sizeOf_item_lt ‹_›
  · exact sizeOf_member_lt ‹_›

mutual
def depth : JsonTree Leaf → Nat
  | .leaf _ => 0
  | .array items => depthItems items + 1
  | .object members => depthMembers members + 1

def depthItems : List (JsonTree Leaf) → Nat
  | [] => 0
  | item :: rest => max (depth item) (depthItems rest)

def depthMembers : List (JsString × JsonTree Leaf) → Nat
  | [] => 0
  | (_, value) :: rest => max (depth value) (depthMembers rest)
end

variable {items : List (JsonTree Leaf)} {item : JsonTree Leaf}
  {members : List (JsString × JsonTree Leaf)} {Condition : Leaf → Prop}

theorem depth_item_lt (inside : item ∈ items) : item.depth < (array items).depth := by
  rw [depth.eq_2, Nat.lt_succ_iff]
  induction items with
  | nil => cases inside
  | cons first rest induction =>
      rw [depthItems]
      rcases List.mem_cons.mp inside with same | inside
      · rw [same]
        exact Nat.le_max_left _ _
      · exact Nat.le_trans (induction inside) (Nat.le_max_right _ _)

theorem depth_member_lt {member : JsString × JsonTree Leaf} (inside : member ∈ members) :
    member.2.depth < (object members).depth := by
  rw [depth.eq_3, Nat.lt_succ_iff]
  induction members with
  | nil => cases inside
  | cons first rest induction =>
      rcases first with ⟨key, value⟩
      rw [depthMembers]
      rcases List.mem_cons.mp inside with same | inside
      · rw [same]
        exact Nat.le_max_left _ _
      · exact Nat.le_trans (induction inside) (Nat.le_max_right _ _)

inductive DistinctKeys : JsonTree Leaf → Prop
  | leaf (value : Leaf) : DistinctKeys (leaf value)
  | array {items : List (JsonTree Leaf)} (parts : ∀ item ∈ items, DistinctKeys item) :
      DistinctKeys (array items)
  | object {members : List (JsString × JsonTree Leaf)} (nodup : (members.map Prod.fst).Nodup)
      (parts : ∀ member ∈ members, DistinctKeys member.2) : DistinctKeys (object members)

variable {index : Nat} {key : JsString} {value : JsonTree Leaf}

theorem DistinctKeys.of_item (distinct : (JsonTree.array items).DistinctKeys)
    (at' : items[index]? = some item) : item.DistinctKeys := by
  cases distinct with
  | array parts => exact parts item (List.mem_of_getElem? at')

theorem DistinctKeys.nodup (distinct : (JsonTree.object members).DistinctKeys) :
    (members.map Prod.fst).Nodup := by
  cases distinct with
  | object nodup parts => exact nodup

theorem DistinctKeys.of_member (distinct : (JsonTree.object members).DistinctKeys)
    (inside : (key, value) ∈ members) : value.DistinctKeys := by
  cases distinct with
  | object nodup parts => exact parts _ inside

inductive Leaves (Condition : Leaf → Prop) : JsonTree Leaf → Prop
  | leaf {value : Leaf} (holds : Condition value) : Leaves Condition (leaf value)
  | array {items : List (JsonTree Leaf)} (parts : ∀ item ∈ items, Leaves Condition item) :
      Leaves Condition (array items)
  | object {members : List (JsString × JsonTree Leaf)}
      (parts : ∀ member ∈ members, Leaves Condition member.2) : Leaves Condition (object members)

theorem Leaves.holds {value : Leaf} (leaves : (JsonTree.leaf value).Leaves Condition) :
    Condition value := by
  cases leaves with
  | leaf holds => exact holds

theorem Leaves.of_item (leaves : (JsonTree.array items).Leaves Condition)
    (at' : items[index]? = some item) : Leaves Condition item := by
  cases leaves with
  | array parts => exact parts item (List.mem_of_getElem? at')

theorem Leaves.of_member (leaves : (JsonTree.object members).Leaves Condition)
    (inside : (key, value) ∈ members) : Leaves Condition value := by
  cases leaves with
  | object parts => exact parts _ inside

theorem Leaves.mono {Weaker : Leaf → Prop} (weaker : ∀ value, Condition value → Weaker value)
    {tree : JsonTree Leaf} (leaves : Leaves Condition tree) : Leaves Weaker tree := by
  induction leaves with
  | leaf holds => exact .leaf (weaker _ holds)
  | array parts induction => exact .array induction
  | object parts induction => exact .object induction

end JsonTree

end Orbital.Foundation
