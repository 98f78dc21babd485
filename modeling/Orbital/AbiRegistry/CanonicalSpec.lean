import Orbital.AbiRegistry.Spec

/-! # What the canonical text of a spec shows

The text determines a value up to the order of members, with two exceptions: the members
named `__proto__` and numbers beyond the largest one are not in it. Values that agree
there are the same data when their texts are equal.
-/

namespace Orbital.AbiRegistry

open Foundation
open JsValue (SameData member? HasLiteral IsLiteral)

def canonicalTree (value : JsValue) : JsonSyntax :=
  (JsValue.toSyntax? (sortKeysDeep value)).getD (.leaf .null)

def canonicalMembers (members : List (JsString × JsValue)) : List (JsString × JsonSyntax) :=
  ((Property.inKeyOrder (Property.mapValues canonicalTree members)).filter fun member =>
    member.1 ≠ protoKey)

theorem sortItems_eq (items : List JsValue) : sortItems items = items.map sortKeysDeep := by
  induction items with
  | nil => rfl
  | cons item rest induction => rw [sortItems, induction, List.map_cons]

theorem sortMembers_eq (members : List (JsString × JsValue)) :
    sortMembers members = Property.mapValues sortKeysDeep members := by
  induction members with
  | nil => rfl
  | cons member rest induction =>
      rcases member with ⟨key, value⟩
      rw [sortMembers, induction, Property.mapValues_cons]

theorem foldl_setMember (members : List (JsString × JsValue)) :
    members.foldl setMember [] =
      Property.assignAll (members.filter fun member => member.1 ≠ protoKey) := by
  rw [Property.assignAll, List.foldl_filter]
  apply List.foldl_ext
  intro object member _
  rw [setMember]
  by_cases proto : member.1 = protoKey
  · rw [if_pos proto, if_neg]
    exact fun kept => of_decide_eq_true kept proto
  · rw [if_neg proto, if_pos]
    exact decide_eq_true proto

variable {value first second : JsValue} {members : List (JsString × JsValue)} {key : JsString}

theorem leaves_sortKeysDeep (leaves : value.Leaves HasLiteral) :
    (JsValue.toSyntax? (sortKeysDeep value)).isSome := by
  cases leaves with
  | leaf holds =>
      rw [sortKeysDeep, JsValue.toSyntax?, Option.isSome_map]
      exact holds
  | array parts | object parts =>
      rw [sortKeysDeep, JsValue.toSyntax?]
      rfl

theorem toSyntax?_sortKeysDeep (leaves : value.Leaves HasLiteral) :
    JsValue.toSyntax? (sortKeysDeep value) = some (canonicalTree value) := by
  rcases Option.isSome_iff_exists.mp (leaves_sortKeysDeep leaves) with ⟨tree, written⟩
  rw [canonicalTree, written]
  rfl

theorem canonicalizeSpec_eq (leaves : value.Leaves HasLiteral) :
    canonicalizeSpec value = some (JsonSyntax.print (canonicalTree value)) := by
  rw [canonicalizeSpec, JsValue.stringify, toSyntax?_sortKeysDeep leaves]
  rfl

theorem canonicalTree_array (items : List JsValue) :
    canonicalTree (.array items) = .array (items.map canonicalTree) := by
  rw [canonicalTree, sortKeysDeep, JsValue.toSyntax?, sortItems_eq, JsValue.itemSyntaxes_eq,
    List.map_map]
  rfl

theorem memberSyntaxes_sorted (leaves : ∀ member ∈ members, member.2.Leaves HasLiteral) :
    JsValue.memberSyntaxes (Property.mapValues sortKeysDeep members) =
      Property.mapValues canonicalTree members := by
  induction members with
  | nil => rfl
  | cons member rest induction =>
      have parts := List.forall_mem_cons.mp leaves
      rw [Property.mapValues_cons, JsValue.memberSyntaxes, toSyntax?_sortKeysDeep parts.1,
        induction parts.2]
      rfl

theorem canonicalTree_object (nodup : (members.map Prod.fst).Nodup)
    (leaves : ∀ member ∈ members, member.2.Leaves HasLiteral) :
    canonicalTree (.object members) = .object (Property.assignAll (canonicalMembers members)) := by
  have kept : ∀ member ∈ Property.assignAll ((Property.inKeyOrder members).filter fun member =>
      member.1 ≠ protoKey), member.2.Leaves HasLiteral := by
    intro member inside
    have source := (List.mem_filter.mp (Property.mem_assignAll inside)).1
    exact leaves member ((Property.mem_inKeyOrder nodup).mp source)
  have shape : (Property.inKeyOrder (Property.mapValues sortKeysDeep members)).foldl setMember []
      = Property.mapValues sortKeysDeep
          (Property.assignAll ((Property.inKeyOrder members).filter fun member =>
            member.1 ≠ protoKey)) := by
    rw [foldl_setMember, Property.inKeyOrder_mapValues, ← Property.assignAll_mapValues,
      Property.mapValues, Property.mapValues, List.filter_map]
    rfl
  rw [canonicalTree, sortKeysDeep, JsValue.toSyntax?, sortMembers_eq, shape,
    memberSyntaxes_sorted kept, ← Property.assignAll_mapValues, canonicalMembers,
    Property.inKeyOrder_mapValues]
  simp only [Property.mapValues, List.filter_map]
  rfl

theorem mem_canonicalMembers (nodup : (members.map Prod.fst).Nodup) {tree : JsonSyntax} :
    (key, tree) ∈ Property.assignAll (canonicalMembers members) ↔
      key ≠ protoKey ∧ ∃ value, (key, value) ∈ members ∧ canonicalTree value = tree := by
  have distinct : ((Property.mapValues canonicalTree members).map Prod.fst).Nodup := by
    rw [Property.keys_mapValues]
    exact nodup
  have kept : ((canonicalMembers members).map Prod.fst).Nodup :=
    (List.filter_sublist.map Prod.fst).nodup (Property.nodup_inKeyOrder distinct)
  rw [(Property.assignAll_perm kept).mem_iff, canonicalMembers, List.mem_filter,
    Property.mem_inKeyOrder distinct, Property.mem_mapValues, decide_eq_true_eq, and_comm]

/-! ## The same text, the same data -/

/-- Agreement on what the canonical text leaves out: no number of the first value is
beyond the largest one, and objects in one place have the same member `__proto__`. -/
inductive SameHidden : JsValue → JsValue → Prop
  | leaf {first second : Primitive}
      (finite : ∀ value, first = .number value → value.isFinite) :
      SameHidden (.leaf first) (.leaf second)
  | array {first second : List JsValue}
      (items : ∀ (index : Nat) (left right : JsValue), first[index]? = some left →
        second[index]? = some right → SameHidden left right) :
      SameHidden (.array first) (.array second)
  | object {first second : List (JsString × JsValue)}
      (present : (member? first protoKey).isSome = (member? second protoKey).isSome)
      (proto : ∀ left right : JsValue, member? first protoKey = some left →
        member? second protoKey = some right → SameData left right)
      (members : ∀ (key : JsString) (left right : JsValue), key ≠ protoKey →
        member? first key = some left → member? second key = some right →
          SameHidden left right) :
      SameHidden (.object first) (.object second)

theorem hasLiteral_of_isLiteral (leaves : value.Leaves IsLiteral) : value.Leaves HasLiteral :=
  leaves.mono fun _ literal => literal.1

theorem ofLeaf_leafSyntax? {primitive : Primitive} (literal : IsLiteral primitive) :
    (JsValue.leafSyntax? primitive).map JsValue.ofLeaf =
      some (JsValue.unsignedZero primitive) := by
  rcases literal with ⟨written, finite⟩
  cases primitive with
  | undefined | foreign kind => cases written
  | null | boolean value | string text => rfl
  | number value =>
      cases value with
      | nan | infinite negative => exact absurd (finite _ rfl) Bool.false_ne_true
      | finite negative magnitude =>
          exact congrArg (fun number => some (Primitive.number number))
            (NumberLiteral.toNumber_ofFinite negative magnitude)

theorem leaf_of_leafSyntax? {first second : Primitive} (literal : IsLiteral first)
    (literal' : IsLiteral second)
    (same : JsValue.leafSyntax? first = JsValue.leafSyntax? second) :
    JsValue.unsignedZero first = JsValue.unsignedZero second := by
  have equal := ofLeaf_leafSyntax? literal
  rw [same, ofLeaf_leafSyntax? literal'] at equal
  exact (Option.some.inj equal).symm

theorem member?_eq_some_iff (nodup : (members.map Prod.fst).Nodup)
    (leaves : ∀ member ∈ members, member.2.Leaves HasLiteral) :
    member? members key = some value ↔ (key, value) ∈ members := by
  constructor
  · exact JsValue.mem_of_member?
  · intro inside
    apply JsValue.member?_eq_some ((Property.lookup_eq_some_iff nodup).mpr inside)
    intro undefined
    have written := leaves _ inside
    simp only [undefined] at written
    cases written with
    | leaf holds => cases holds

theorem unique_member (nodup : (members.map Prod.fst).Nodup) (inside : (key, first) ∈ members)
    (inside' : (key, second) ∈ members) : first = second := by
  have found := (Property.lookup_eq_some_iff nodup).mpr inside
  rw [(Property.lookup_eq_some_iff nodup).mpr inside'] at found
  exact (Option.some.inj found).symm

theorem sameData_of_canonicalTree (hidden : SameHidden first second) (distinct : first.DistinctKeys)
    (distinct' : second.DistinctKeys) (leaves : first.Leaves HasLiteral)
    (leaves' : second.Leaves IsLiteral) (same : canonicalTree first = canonicalTree second) :
    SameData first second := by
  induction hidden with
  | @leaf first second finite =>
      refine .leaf (leaf_of_leafSyntax? ⟨leaves.holds, finite⟩ leaves'.holds ?_)
      rcases Option.isSome_iff_exists.mp leaves.holds with ⟨literal, written⟩
      rcases Option.isSome_iff_exists.mp leaves'.holds.1 with ⟨literal', written'⟩
      simp only [canonicalTree, sortKeysDeep, JsValue.toSyntax?, written, written',
        Option.map_some, Option.getD_some, JsonTree.leaf.injEq] at same
      rw [written, written', same]
  | @array first second items induction =>
      rw [canonicalTree_array, canonicalTree_array, JsonTree.array.injEq] at same
      have length := congrArg List.length same
      rw [List.length_map, List.length_map] at length
      refine .array length fun index left right atLeft atRight => ?_
      have trees := congrArg (·[index]?) same
      simp only [List.getElem?_map, atLeft, atRight, Option.map_some, Option.some.injEq]
        at trees
      exact induction index left right atLeft atRight (distinct.of_item atLeft)
        (distinct'.of_item atRight) (leaves.of_item atLeft) (leaves'.of_item atRight) trees
  | @object first second present proto members induction =>
      have written : ∀ member ∈ first, member.2.Leaves HasLiteral :=
        fun member => leaves.of_member
      have written' : ∀ member ∈ second, member.2.Leaves HasLiteral :=
        fun member inside => hasLiteral_of_isLiteral (leaves'.of_member inside)
      rw [canonicalTree_object distinct.nodup written,
        canonicalTree_object distinct'.nodup written', JsonTree.object.injEq] at same
      have inFirst : ∀ key value, member? first key = some value ↔ (key, value) ∈ first :=
        fun key value => member?_eq_some_iff distinct.nodup written
      have inSecond : ∀ key value, member? second key = some value ↔ (key, value) ∈ second :=
        fun key value => member?_eq_some_iff distinct'.nodup written'
      -- the members of the text are those of both values
      have across : ∀ key, key ≠ protoKey → ∀ tree,
          (∃ value, (key, value) ∈ first ∧ canonicalTree value = tree) ↔
            ∃ value, (key, value) ∈ second ∧ canonicalTree value = tree := by
        intro key other tree
        have both := @mem_canonicalMembers first key distinct.nodup tree
        rw [same, mem_canonicalMembers distinct'.nodup] at both
        simp only [ne_eq, other, not_false_eq_true, true_and] at both
        exact both.symm
      refine .object (fun key => ?_) fun key left right atLeft atRight => ?_
      · by_cases isProto : key = protoKey
        · rw [isProto]
          exact present
        · rw [Bool.eq_iff_iff, Option.isSome_iff_exists, Option.isSome_iff_exists]
          simp only [inFirst, inSecond]
          constructor
          · rintro ⟨value, inside⟩
            rcases (across key isProto _).mp ⟨value, inside, rfl⟩ with ⟨value', inside', -⟩
            exact ⟨value', inside'⟩
          · rintro ⟨value, inside⟩
            rcases (across key isProto _).mpr ⟨value, inside, rfl⟩ with ⟨value', inside', -⟩
            exact ⟨value', inside'⟩
      · by_cases isProto : key = protoKey
        · rw [isProto] at atLeft atRight
          exact proto left right atLeft atRight
        · have inside := (inFirst key left).mp atLeft
          have inside' := (inSecond key right).mp atRight
          rcases (across key isProto _).mp ⟨left, inside, rfl⟩ with ⟨value, held, tree⟩
          rw [unique_member distinct'.nodup held inside'] at tree
          exact induction key left right isProto atLeft atRight (distinct.of_member inside)
            (distinct'.of_member inside') (leaves.of_member inside)
            (leaves'.of_member inside') tree.symm

theorem sameHidden_of_sameData (same : SameData first second) (leaves : second.Leaves IsLiteral) :
    SameHidden first second := by
  induction same with
  | @leaf first second same =>
      refine .leaf fun value number => ?_
      subst number
      have finite := leaves.holds.2
      cases second with
      | number value' =>
          have equal : value.unsignedZero = value'.unsignedZero := Primitive.number.inj same
          have isFinite := finite value' rfl
          cases value with
          | finite negative magnitude => rfl
          | nan =>
              cases value' with
              | finite negative magnitude => cases equal
              | nan | infinite negative => exact isFinite
          | infinite negative =>
              cases value' with
              | finite negative magnitude => cases equal
              | nan | infinite negative => exact isFinite
      | undefined | null | boolean value | string text | foreign kind => cases same
  | array length items induction =>
      exact .array fun index left right atLeft atRight =>
        induction index left right atLeft atRight (leaves.of_item atRight)
  | object keys members induction =>
      refine .object (keys protoKey) (members protoKey) ?_
      intro key left right _ atLeft atRight
      exact induction key left right atLeft atRight
        (leaves.of_member (JsValue.mem_of_member? atRight))

/-- Values with one canonical text are the same data exactly if they agree on what it
leaves out. -/
theorem sameData_iff_sameHidden (distinct : first.DistinctKeys) (distinct' : second.DistinctKeys)
    (leaves : first.Leaves HasLiteral) (leaves' : second.Leaves IsLiteral)
    (same : canonicalizeSpec first = canonicalizeSpec second) :
    SameData first second ↔ SameHidden first second := by
  rw [canonicalizeSpec_eq leaves, canonicalizeSpec_eq (hasLiteral_of_isLiteral leaves'), Option.some.injEq] at same
  constructor
  · exact fun data => sameHidden_of_sameData data leaves'
  · intro hidden
    exact sameData_of_canonicalTree hidden distinct distinct' leaves leaves'
      (JsonSyntax.print_injective same)

end Orbital.AbiRegistry

/-! ## Reading a canonical text back

The canonical text of a plain value is read back as the same data. Values that are the
same data have one canonical text, and the validator accepts both of them or none.
-/

namespace Orbital.AbiRegistry

open Foundation
open JsValue (SameData member? HasLiteral IsLiteral)

/-- A value of JSON whose objects have no member named `__proto__`. -/
inductive Plain : JsValue → Prop
  | leaf {value : Primitive} (literal : IsLiteral value) : Plain (.leaf value)
  | array {items : List JsValue} (parts : ∀ item ∈ items, Plain item) : Plain (.array items)
  | object {members : List (JsString × JsValue)} (nodup : (members.map Prod.fst).Nodup)
      (noProto : ∀ member ∈ members, member.1 ≠ protoKey)
      (parts : ∀ member ∈ members, Plain member.2) : Plain (.object members)

namespace Plain

theorem distinctKeys {value : JsValue} (plain : Plain value) : value.DistinctKeys := by
  induction plain with
  | leaf literal => exact .leaf _
  | array parts induction => exact .array induction
  | object nodup noProto parts induction => exact .object nodup induction

theorem leaves {value : JsValue} (plain : Plain value) : value.Leaves IsLiteral := by
  induction plain with
  | leaf literal => exact .leaf literal
  | array parts induction => exact .array induction
  | object nodup noProto parts induction => exact .object induction

end Plain

/-! ## One text for the same data -/

theorem inKeyOrder_congr {Value : Type u} {first second : List (JsString × Value)}
    (nodup : (first.map Prod.fst).Nodup) (nodup' : (second.map Prod.fst).Nodup)
    (same : ∀ entry, entry ∈ first ↔ entry ∈ second) :
    Property.inKeyOrder first = Property.inKeyOrder second := by
  have perm : first.Perm second :=
    (List.perm_ext_iff_of_nodup (List.Nodup.of_map _ nodup) (List.Nodup.of_map _ nodup')).mpr same
  have lookups : ∀ key, first.lookup key = second.lookup key := by
    intro key
    apply Option.ext
    intro value
    rw [Property.lookup_eq_some_iff nodup, Property.lookup_eq_some_iff nodup', same]
  rw [Property.inKeyOrder, Property.inKeyOrder, JsString.sort_congr (perm.map Prod.fst)]
  apply List.filterMap_congr
  intro key _
  rw [lookups]

theorem leafSyntax?_unsignedZero (primitive : Primitive) :
    JsValue.leafSyntax? (JsValue.unsignedZero primitive) = JsValue.leafSyntax? primitive := by
  cases primitive with
  | number value =>
      cases value with
      | finite negative magnitude =>
          rw [JsValue.unsignedZero, JsNumber.unsignedZero, JsValue.leafSyntax?,
            JsValue.leafSyntax?]
          by_cases zero : magnitude = .zero
          · rw [NumberLiteral.ofFinite, if_pos zero, NumberLiteral.ofFinite, if_pos zero]
          · have sign : (magnitude != .zero) = true := bne_iff_ne.mpr zero
            rw [sign, Bool.and_true]
      | nan | infinite negative => rfl
  | undefined | null | boolean value | string text | foreign kind => rfl

variable {first second value : JsValue} {members : List (JsString × JsValue)}

theorem canonicalTree_congr (same : SameData first second) (distinct : first.DistinctKeys)
    (distinct' : second.DistinctKeys) (leaves : first.Leaves HasLiteral)
    (leaves' : second.Leaves HasLiteral) : canonicalTree first = canonicalTree second := by
  induction same with
  | @leaf first second same =>
      rw [canonicalTree, canonicalTree, sortKeysDeep, sortKeysDeep, JsValue.toSyntax?,
        JsValue.toSyntax?, ← leafSyntax?_unsignedZero first, same, leafSyntax?_unsignedZero]
  | @array first second length items induction =>
      rw [canonicalTree_array, canonicalTree_array]
      apply congrArg
      apply List.ext_getElem
      · rw [List.length_map, List.length_map, length]
      · intro index within within'
        rw [List.length_map] at within within'
        rw [List.getElem_map, List.getElem_map]
        have atLeft := List.getElem?_eq_getElem within
        have atRight := List.getElem?_eq_getElem within'
        exact induction index _ _ atLeft atRight (distinct.of_item atLeft)
          (distinct'.of_item atRight) (leaves.of_item atLeft) (leaves'.of_item atRight)
  | @object first second keys members induction =>
      have written : ∀ member ∈ first, member.2.Leaves HasLiteral :=
        fun member => leaves.of_member
      have written' : ∀ member ∈ second, member.2.Leaves HasLiteral :=
        fun member => leaves'.of_member
      rw [canonicalTree_object distinct.nodup written,
        canonicalTree_object distinct'.nodup written', canonicalMembers, canonicalMembers]
      have sorted : Property.inKeyOrder (Property.mapValues canonicalTree first) =
          Property.inKeyOrder (Property.mapValues canonicalTree second) := by
        apply inKeyOrder_congr
        · rw [Property.keys_mapValues]
          exact distinct.nodup
        · rw [Property.keys_mapValues]
          exact distinct'.nodup
        · intro entry
          rw [Property.mem_mapValues, Property.mem_mapValues]
          constructor
          · rintro ⟨value, inside, tree⟩
            have found := (member?_eq_some_iff distinct.nodup written).mpr inside
            have present := keys entry.1
            rw [found, Option.isSome_some] at present
            rcases Option.isSome_iff_exists.mp present.symm with ⟨value', found'⟩
            have inside' := (member?_eq_some_iff distinct'.nodup written').mp found'
            refine ⟨value', inside', ?_⟩
            rw [← tree]
            exact (induction entry.1 value value' found found' (distinct.of_member inside)
              (distinct'.of_member inside') (leaves.of_member inside)
              (leaves'.of_member inside')).symm
          · rintro ⟨value, inside, tree⟩
            have found := (member?_eq_some_iff distinct'.nodup written').mpr inside
            have present := keys entry.1
            rw [found, Option.isSome_some] at present
            rcases Option.isSome_iff_exists.mp present with ⟨value', found'⟩
            have inside' := (member?_eq_some_iff distinct.nodup written).mp found'
            refine ⟨value', inside', ?_⟩
            rw [← tree]
            exact induction entry.1 value' value found' found (distinct.of_member inside')
              (distinct'.of_member inside) (leaves.of_member inside')
              (leaves'.of_member inside)
      rw [sorted]

theorem canonicalizeSpec_congr (same : SameData first second) (distinct : first.DistinctKeys)
    (distinct' : second.DistinctKeys) (leaves : first.Leaves HasLiteral)
    (leaves' : second.Leaves HasLiteral) : canonicalizeSpec first = canonicalizeSpec second := by
  rw [canonicalizeSpec_eq leaves, canonicalizeSpec_eq leaves',
    canonicalTree_congr same distinct distinct' leaves leaves']

/-! ## Reading back -/

def reread (value : JsValue) : JsValue :=
  JsValue.ofSyntax (canonicalTree value)

theorem parse_canonicalizeSpec (leaves : value.Leaves HasLiteral) {text : JsString}
    (written : canonicalizeSpec value = some text) : JsValue.parse text = some (reread value) := by
  rw [canonicalizeSpec_eq leaves, Option.some.injEq] at written
  rw [JsValue.parse, ← written, JsonSyntax.parse_print]
  rfl

theorem reread_leaf {value : Primitive} (literal : IsLiteral value) :
    reread (.leaf value) = .leaf (JsValue.unsignedZero value) := by
  have read := ofLeaf_leafSyntax? literal
  rcases Option.isSome_iff_exists.mp literal.1 with ⟨leaf, written⟩
  rw [written, Option.map_some, Option.some.injEq] at read
  rw [reread, canonicalTree, sortKeysDeep, JsValue.toSyntax?, written, Option.map_some,
    Option.getD_some, JsValue.ofSyntax, read]

theorem reread_array (items : List JsValue) :
    reread (.array items) = .array (items.map reread) := by
  rw [reread, canonicalTree_array, JsValue.ofSyntax, JsValue.ofItems_eq, List.map_map]
  rfl

def rereadMembers (members : List (JsString × JsValue)) : List (JsString × JsValue) :=
  Property.assignAll
    (Property.mapValues JsValue.ofSyntax (Property.assignAll (canonicalMembers members)))

theorem reread_object (nodup : (members.map Prod.fst).Nodup)
    (leaves : ∀ member ∈ members, member.2.Leaves HasLiteral) :
    reread (.object members) = .object (rereadMembers members) := by
  rw [reread, canonicalTree_object nodup leaves, JsValue.ofSyntax, JsValue.ofMembers_eq]
  rfl

theorem mem_rereadMembers (nodup : (members.map Prod.fst).Nodup) {key : JsString} {read : JsValue} :
    (key, read) ∈ rereadMembers members ↔
      key ≠ protoKey ∧ ∃ value, (key, value) ∈ members ∧ reread value = read := by
  have distinct : ((Property.mapValues JsValue.ofSyntax
      (Property.assignAll (canonicalMembers members))).map Prod.fst).Nodup := by
    rw [Property.keys_mapValues]
    exact Property.nodup_assignAll _
  rw [rereadMembers, (Property.assignAll_perm distinct).mem_iff, Property.mem_mapValues]
  constructor
  · rintro ⟨tree, inside, isRead⟩
    rcases (mem_canonicalMembers nodup).mp inside with ⟨other, value, held, isTree⟩
    refine ⟨other, value, held, ?_⟩
    rw [reread, isTree]
    exact isRead
  · rintro ⟨other, value, held, isRead⟩
    exact ⟨canonicalTree value, (mem_canonicalMembers nodup).mpr ⟨other, value, held, rfl⟩, isRead⟩

theorem leaves_reread (value : JsValue) : (reread value).Leaves HasLiteral :=
  JsValue.ofSyntax_leaves (canonicalTree value)

theorem distinctKeys_reread (value : JsValue) : (reread value).DistinctKeys :=
  JsValue.ofSyntax_distinctKeys (canonicalTree value)

theorem sameData_reread (plain : Plain value) : SameData (reread value) value := by
  induction plain with
  | @leaf value literal =>
      rw [reread_leaf literal]
      apply SameData.leaf
      cases value with
      | number number => exact congrArg Primitive.number number.unsignedZero_unsignedZero
      | _ => rfl
  | @array items parts induction =>
      rw [reread_array]
      refine .array (List.length_map _) ?_
      intro index left right atLeft atRight
      rw [List.getElem?_map, atRight, Option.map_some, Option.some.injEq] at atLeft
      exact atLeft ▸ induction right (List.mem_of_getElem? atRight)
  | @object members nodup noProto parts induction =>
      have written : ∀ member ∈ members, member.2.Leaves HasLiteral :=
        fun member inside => hasLiteral_of_isLiteral (parts member inside).leaves
      have whole := reread_object nodup written
      have distinct := distinctKeys_reread (.object members)
      have leaves := leaves_reread (.object members)
      rw [whole] at distinct leaves ⊢
      have inFirst : ∀ key read, member? (rereadMembers members) key = some read ↔
          (key, read) ∈ rereadMembers members :=
        fun key read => member?_eq_some_iff distinct.nodup fun member => leaves.of_member
      have inSecond : ∀ key value, member? members key = some value ↔ (key, value) ∈ members :=
        fun key value => member?_eq_some_iff nodup written
      apply SameData.object
      · intro key
        rw [Bool.eq_iff_iff, Option.isSome_iff_exists, Option.isSome_iff_exists]
        simp only [inFirst, inSecond, mem_rereadMembers nodup]
        constructor
        · rintro ⟨read, -, value, held, -⟩
          exact ⟨value, held⟩
        · rintro ⟨value, held⟩
          exact ⟨reread value, noProto _ held, value, held, rfl⟩
      · intro key left right atLeft atRight
        have held := (inSecond key right).mp atRight
        rcases (mem_rereadMembers nodup).mp ((inFirst key left).mp atLeft) with
          ⟨-, value, inside, isRead⟩
        rw [← isRead, unique_member nodup inside held]
        exact induction _ held

end Orbital.AbiRegistry
