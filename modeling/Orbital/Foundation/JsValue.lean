import Orbital.Foundation.JsonText

/-! # Values of the source language as JSON data

A value is a tree whose leaves are the primitives and what JSON has no text for. Two
values are the same data when they differ in the order of members, in members that are
`undefined` and in the sign of a zero only. `JSON.parse` reads a tree of literals into a
value: of members with one key the last one counts.
-/

namespace Orbital.Foundation

/-- Values outside the JSON data model. -/
inductive Foreign
  | bigint
  | symbol
  | function
  | classInstance
  deriving DecidableEq

inductive Primitive
  | undefined
  | null
  | boolean (value : Bool)
  | number (value : JsNumber)
  | string (text : JsString)
  | foreign (kind : Foreign)
  deriving DecidableEq

abbrev JsValue := JsonTree Primitive

namespace JsValue

/-! ## Members -/

/-- A member that is there and not `undefined`. -/
def member? (members : List (JsString × JsValue)) (key : JsString) : Option JsValue :=
  match members.lookup key with
  | some (.leaf .undefined) => none
  | found => found

variable {members : List (JsString × JsValue)} {key : JsString} {value : JsValue}

theorem lookup_of_member? (found : member? members key = some value) :
    members.lookup key = some value := by
  rw [member?] at found
  split at found
  · cases found
  · exact found

theorem member?_eq_some (found : members.lookup key = some value)
    (defined : value ≠ .leaf .undefined) : member? members key = some value := by
  rw [member?]
  split
  · rename_i undefined
    rw [found] at undefined
    exact absurd (Option.some.inj undefined) defined
  · exact found

theorem mem_of_member? (found : member? members key = some value) : (key, value) ∈ members := by
  rcases List.lookup_eq_some_iff.mp (lookup_of_member? found) with ⟨front, back, list, -⟩
  rw [list]
  exact List.mem_append_right front List.mem_cons_self

theorem key_of_member? (present : (member? members key).isSome) : key ∈ members.map Prod.fst := by
  rcases Option.isSome_iff_exists.mp present with ⟨value, found⟩
  exact List.mem_map.mpr ⟨_, mem_of_member? found, rfl⟩

/-! ## The same data -/

def unsignedZero : Primitive → Primitive
  | .number value => .number value.unsignedZero
  | primitive => primitive

inductive SameData : JsValue → JsValue → Prop
  | leaf {first second : Primitive} (same : unsignedZero first = unsignedZero second) :
      SameData (.leaf first) (.leaf second)
  | array {first second : List JsValue} (length : first.length = second.length)
      (items : ∀ (index : Nat) (left right : JsValue), first[index]? = some left →
        second[index]? = some right → SameData left right) :
      SameData (.array first) (.array second)
  | object {first second : List (JsString × JsValue)}
      (keys : ∀ key, (member? first key).isSome = (member? second key).isSome)
      (members : ∀ (key : JsString) (left right : JsValue), member? first key = some left →
        member? second key = some right → SameData left right) :
      SameData (.object first) (.object second)

theorem SameData.refl (value : JsValue) : SameData value value := by
  induction value using JsonTree.induction with
  | leaf primitive => exact .leaf rfl
  | array items induction =>
      refine .array rfl fun index left right atLeft atRight => ?_
      rw [atLeft] at atRight
      cases atRight
      exact induction left (List.mem_of_getElem? atLeft)
  | object members induction =>
      refine .object (fun key => rfl) fun key left right atLeft atRight => ?_
      rw [atLeft] at atRight
      cases atRight
      exact induction _ (mem_of_member? atLeft)

theorem SameData.symm {first second : JsValue} (same : SameData first second) :
    SameData second first := by
  induction same with
  | leaf same => exact .leaf same.symm
  | array length items induction =>
      exact .array length.symm fun index left right atLeft atRight =>
        induction index right left atRight atLeft
  | object keys members induction =>
      exact .object (fun key => (keys key).symm) fun key left right atLeft atRight =>
        induction key right left atRight atLeft

theorem SameData.trans {first second third : JsValue} (front : SameData first second)
    (back : SameData second third) : SameData first third := by
  induction front generalizing third with
  | leaf same =>
      cases back with
      | leaf other => exact .leaf (same.trans other)
  | array length items induction =>
      cases back with
      | array length' items' =>
          refine .array (length.trans length') fun index left right atLeft atRight => ?_
          have within := List.getElem?_eq_some_iff.mp atLeft
          have middle := List.getElem?_eq_getElem (length ▸ within.1)
          exact induction index left _ atLeft middle (items' index _ right middle atRight)
  | object keys members induction =>
      cases back with
      | object keys' members' =>
          refine .object (fun key => (keys key).trans (keys' key)) ?_
          intro key left right atLeft atRight
          have present := keys key
          rw [atLeft, Option.isSome_some] at present
          rcases Option.isSome_iff_exists.mp present.symm with ⟨middle, atMiddle⟩
          exact induction key left middle atLeft atMiddle
            (members' key middle right atMiddle atRight)

/-! ## `JSON.parse` -/

def ofLeaf : JsonLeaf → Primitive
  | .null => .null
  | .boolean value => .boolean value
  | .number literal => .number literal.toNumber
  | .string text => .string text

mutual
def ofSyntax : JsonSyntax → JsValue
  | .leaf leaf => .leaf (ofLeaf leaf)
  | .array items => .array (ofItems items)
  | .object members => .object (Property.assignAll (ofMembers members))

def ofItems : List JsonSyntax → List JsValue
  | [] => []
  | item :: rest => ofSyntax item :: ofItems rest

def ofMembers : List (JsString × JsonSyntax) → List (JsString × JsValue)
  | [] => []
  | (key, value) :: rest => (key, ofSyntax value) :: ofMembers rest
end

theorem ofItems_eq (items : List JsonSyntax) : ofItems items = items.map ofSyntax := by
  induction items with
  | nil => rfl
  | cons item rest induction => rw [ofItems, induction, List.map_cons]

theorem ofMembers_eq (members : List (JsString × JsonSyntax)) :
    ofMembers members = Property.mapValues ofSyntax members := by
  induction members with
  | nil => rfl
  | cons member rest induction =>
      rcases member with ⟨key, value⟩
      rw [ofMembers, induction, Property.mapValues_cons]

def parse (text : JsString) : Option JsValue :=
  (JsonSyntax.parse text).map ofSyntax

theorem ofSyntax_ne_undefined (tree : JsonSyntax) : ofSyntax tree ≠ .leaf .undefined := by
  cases tree with
  | leaf leaf =>
      rw [ofSyntax]
      cases leaf <;> exact fun same => nomatch same
  | array items | object members =>
      rw [ofSyntax]
      exact fun same => nomatch same

theorem ofSyntax_distinctKeys (tree : JsonSyntax) : (ofSyntax tree).DistinctKeys := by
  induction tree using JsonTree.induction with
  | leaf leaf =>
      rw [ofSyntax]
      exact .leaf _
  | array items induction =>
      rw [ofSyntax, ofItems_eq]
      refine .array fun item inside => ?_
      rcases List.mem_map.mp inside with ⟨tree, member, rfl⟩
      exact induction tree member
  | object members induction =>
      rw [ofSyntax, ofMembers_eq]
      refine .object (Property.nodup_assignAll _) fun entry inside => ?_
      rcases (Property.mem_mapValues _).mp (Property.mem_assignAll inside) with
        ⟨tree, source, value⟩
      rw [← value]
      exact induction _ source

/-! ## `JSON.stringify` -/

/-- The literal of a primitive. Functions and symbols have none; other foreign values are
not written. -/
def leafSyntax? : Primitive → Option JsonLeaf
  | .undefined => none
  | .null => some .null
  | .boolean value => some (.boolean value)
  | .number (.finite negative magnitude) => some (.number (.ofFinite negative magnitude))
  | .number _ => some .null
  | .string text => some (.string text)
  | .foreign _ => none

mutual
/-- What is written for a value. Items without a text are `null`, members without one
are left out. -/
def toSyntax? : JsValue → Option JsonSyntax
  | .leaf primitive => (leafSyntax? primitive).map .leaf
  | .array items => some (.array (itemSyntaxes items))
  | .object members => some (.object (memberSyntaxes members))

def itemSyntaxes : List JsValue → List JsonSyntax
  | [] => []
  | item :: rest => (toSyntax? item).getD (.leaf .null) :: itemSyntaxes rest

def memberSyntaxes : List (JsString × JsValue) → List (JsString × JsonSyntax)
  | [] => []
  | (key, value) :: rest =>
      match toSyntax? value with
      | none => memberSyntaxes rest
      | some tree => (key, tree) :: memberSyntaxes rest
end

def stringify (value : JsValue) : Option JsString :=
  (toSyntax? value).map JsonSyntax.print

theorem itemSyntaxes_eq (items : List JsValue) :
    itemSyntaxes items = items.map fun item => (toSyntax? item).getD (.leaf .null) := by
  induction items with
  | nil => rfl
  | cons item rest induction => rw [itemSyntaxes, induction, List.map_cons]

theorem memberSyntaxes_eq (members : List (JsString × JsValue)) :
    memberSyntaxes members =
      members.filterMap fun member => (toSyntax? member.2).map (member.1, ·) := by
  induction members with
  | nil => rfl
  | cons member rest induction =>
      rcases member with ⟨key, value⟩
      rw [memberSyntaxes, List.filterMap_cons]
      cases toSyntax? value with
      | none => exact induction
      | some tree => exact congrArg ((key, tree) :: ·) induction

def HasLiteral (primitive : Primitive) : Prop :=
  (leafSyntax? primitive).isSome

def IsLiteral (primitive : Primitive) : Prop :=
  HasLiteral primitive ∧ ∀ value, primitive = .number value → value.isFinite

theorem hasLiteral_ofLeaf (leaf : JsonLeaf) : HasLiteral (ofLeaf leaf) := by
  cases leaf with
  | null | boolean value | string text => rfl
  | number literal =>
      rw [ofLeaf, NumberLiteral.toNumber]
      cases literal.decimal.toMagnitude <;> rfl

theorem ofSyntax_leaves (tree : JsonSyntax) : (ofSyntax tree).Leaves HasLiteral := by
  induction tree using JsonTree.induction with
  | leaf leaf =>
      rw [ofSyntax]
      exact .leaf (hasLiteral_ofLeaf leaf)
  | array items induction =>
      rw [ofSyntax, ofItems_eq]
      refine .array fun item inside => ?_
      rcases List.mem_map.mp inside with ⟨tree, member, rfl⟩
      exact induction tree member
  | object members induction =>
      rw [ofSyntax, ofMembers_eq]
      refine .object fun entry inside => ?_
      rcases (Property.mem_mapValues _).mp (Property.mem_assignAll inside) with
        ⟨tree, source, value⟩
      rw [← value]
      exact induction _ source

end JsValue

def JsData :=
  { value : JsValue // value.DistinctKeys }

def JsData.ofSyntax (tree : JsonSyntax) : JsData :=
  ⟨JsValue.ofSyntax tree, JsValue.ofSyntax_distinctKeys tree⟩

end Orbital.Foundation
