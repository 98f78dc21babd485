import Orbital.Foundation.Fallible
import Orbital.Foundation.JsValue

/-! # `canonicalJson.ts`

Values are written as JSON with the members of every object sorted. The source recurses
with a depth and stops beyond `maxDepth`; here `room` counts what is left of it.
-/

namespace Orbital.AbiRegistry

open Foundation

structure CanonicalJsonError where
  path : JsString
  reason : JsString
  deriving DecidableEq

def CanonicalJsonError.message (error : CanonicalJsonError) : JsString :=
  js "[abi-registry] cannot canonicalize " ++ error.path ++ js ": " ++ error.reason

def maxDepth : Nat :=
  64

/-- `LONE_SURROGATE.test(text)`, from a unit whose predecessor may be a high surrogate. -/
def loneSurrogateAfter (afterHigh : Bool) : JsString → Bool
  | [] => false
  | unit :: rest =>
      (unit.isHighSurrogate && !rest.head?.any CodeUnit.isLowSurrogate) ||
        (!afterHigh && unit.isLowSurrogate) ||
          loneSurrogateAfter unit.isHighSurrogate rest

def hasLoneSurrogate (text : JsString) : Bool :=
  loneSurrogateAfter false text

/-- `typeof value`, for a value that is not an object. -/
def typeName : Foreign → JsString
  | .bigint => js "bigint"
  | .symbol => js "symbol"
  | .function => js "function"
  | .classInstance => js "object"

namespace CanonicalJson

abbrev Serialized (Value : Type) := Except CanonicalJsonError Value

def serializeLeaf (path : JsString) : Primitive → Serialized JsString
  | .null => .ok (js "null")
  | .boolean true => .ok (js "true")
  | .boolean false => .ok (js "false")
  | .string text =>
      if hasLoneSurrogate text then .error ⟨path, js "string contains a lone surrogate"⟩
      else .ok (JsonString.quote text)
  | .number (.finite negative magnitude) => .ok (JsNumber.finite negative magnitude).text
  | .number value => .error ⟨path, value.text ++ js " is not representable in JSON"⟩
  | .undefined => .error ⟨path, js "undefined is not part of the JSON data model"⟩
  | .foreign .classInstance =>
      .error ⟨path, js "only plain objects are part of the JSON data model"⟩
  | .foreign kind => .error ⟨path, typeName kind ++ js " is not part of the JSON data model"⟩

def serializeArray (serialize : JsValue → JsString → Serialized JsString) (path : JsString) :
    Nat → List JsValue → Serialized (List JsString)
  | _, [] => .ok []
  | index, item :: rest => do
      let part ← serialize item
        (path ++ js "[" ++ Digits.text (Digits.ofNat index) ++ js "]")
      let parts ← serializeArray serialize path (index + 1) rest
      return part :: parts

def serializeObject (serialize : JsValue → JsString → Serialized JsString) (path : JsString)
    (members : List (JsString × JsValue)) : List JsString → Serialized (List JsString)
  | [] => .ok []
  | key :: keys =>
      match JsValue.member? members key with
      | none => serializeObject serialize path members keys
      | some member =>
          if hasLoneSurrogate key then
            .error ⟨path ++ js "." ++ key, js "key contains a lone surrogate"⟩
          else do
            let text ← serialize member (path ++ js "." ++ key)
            let parts ← serializeObject serialize path members keys
            return (JsonString.quote key ++ 0x3A :: text) :: parts

def serialize : Nat → JsValue → JsString → Serialized JsString
  | 0, _, path =>
      .error ⟨path, js "nesting deeper than " ++ Digits.text (Digits.ofNat maxDepth) ++
        js " levels"⟩
  | _ + 1, .leaf primitive, path => serializeLeaf path primitive
  | room + 1, .array items, path => do
      let parts ← serializeArray (serialize room) path 0 items
      return 0x5B :: (JsonSyntax.separated parts ++ [0x5D])
  | room + 1, .object members, path => do
      let keys := JsString.sort (members.map Prod.fst)
      let parts ← serializeObject (serialize room) path members keys
      return 0x7B :: (JsonSyntax.separated parts ++ [0x7D])

end CanonicalJson

def canonicalizeJson (value : JsValue) : Except CanonicalJsonError JsString :=
  CanonicalJson.serialize (maxDepth + 1) value (js "$")

namespace CanonicalJson

/-! ## The text is read back as the same data -/

def TextOf (text : JsString) (value : JsValue) : Prop :=
  ∃ tree, text = JsonSyntax.print tree ∧ JsValue.SameData (JsValue.ofSyntax tree) value

variable {path text : JsString} {parts : List JsString} {members : List (JsString × JsValue)}
  {room : Nat}

variable {primitive : Primitive} {items : List JsValue} {keys : List JsString} {value : JsValue}

section Accepted

variable {serialize : JsValue → JsString → Serialized JsString}

theorem serializeArray_cons_eq_ok {item : JsValue} {index : Nat} :
    serializeArray serialize path index (item :: items) = .ok parts ↔
      ∃ part more, serialize item
          (path ++ js "[" ++ Digits.text (Digits.ofNat index) ++ js "]") = .ok part ∧
        serializeArray serialize path (index + 1) items = .ok more ∧ part :: more = parts := by
  simp only [serializeArray, bind_eq_ok, pure_eq_ok, exists_and_left]

theorem serializeObject_cons_eq_ok {key : JsString} :
    serializeObject serialize path members (key :: keys) = .ok parts ↔
      (JsValue.member? members key = none ∧
          serializeObject serialize path members keys = .ok parts) ∨
        ∃ member text more, JsValue.member? members key = some member ∧
          ¬hasLoneSurrogate key = true ∧ serialize member (path ++ js "." ++ key) = .ok text ∧
          serializeObject serialize path members keys = .ok more ∧
            (JsonString.quote key ++ 0x3A :: text) :: more = parts := by
  rw [serializeObject]
  cases JsValue.member? members key with
  | none => simp
  | some member =>
      by_cases surrogate : hasLoneSurrogate key = true
      · simp [surrogate]
      · simp only [if_neg surrogate, bind_eq_ok, pure_eq_ok]
        simp [surrogate]

end Accepted

theorem serialize_array_eq_ok : serialize (room + 1) (.array items) path = .ok text ↔
    ∃ parts, serializeArray (serialize room) path 0 items = .ok parts ∧
      0x5B :: (JsonSyntax.separated parts ++ [0x5D]) = text := by
  simp only [serialize, bind_eq_ok, pure_eq_ok]

theorem serialize_object_eq_ok : serialize (room + 1) (.object members) path = .ok text ↔
    ∃ parts, serializeObject (serialize room) path members
        (JsString.sort (members.map Prod.fst)) = .ok parts ∧
      0x7B :: (JsonSyntax.separated parts ++ [0x7D]) = text := by
  simp only [serialize, bind_eq_ok, pure_eq_ok]

theorem textOf_leaf (serialized : serializeLeaf path primitive = .ok text) :
    TextOf text (.leaf primitive) := by
  cases primitive with
  | undefined => cases serialized
  | null =>
      cases serialized
      exact ⟨.leaf .null, rfl, .leaf rfl⟩
  | boolean value =>
      cases value <;> cases serialized
      · exact ⟨.leaf (.boolean false), rfl, .leaf rfl⟩
      · exact ⟨.leaf (.boolean true), rfl, .leaf rfl⟩
  | number value =>
      cases value with
      | nan | infinite negative => cases serialized
      | finite negative magnitude =>
          cases serialized
          refine ⟨.leaf (.number (.ofFinite negative magnitude)), rfl, ?_⟩
          rw [JsValue.ofSyntax, JsValue.ofLeaf, NumberLiteral.toNumber_ofFinite]
          exact .leaf (congrArg Primitive.number (JsNumber.unsignedZero_unsignedZero _))
  | string content =>
      rw [serializeLeaf] at serialized
      split at serialized
      · cases serialized
      · cases serialized
        exact ⟨.leaf (.string content), rfl, .leaf rfl⟩
  | foreign kind => cases kind <;> cases serialized

theorem textOf_items {serialize : JsValue → JsString → Serialized JsString} {index : Nat}
    (texts : ∀ item ∈ items, ∀ path text, serialize item path = .ok text → TextOf text item)
    (serialized : serializeArray serialize path index items = .ok parts) :
    ∃ trees : List JsonSyntax, parts = trees.map JsonSyntax.print ∧
      List.Forall₂ (fun tree item => JsValue.SameData (JsValue.ofSyntax tree) item) trees items := by
  induction items generalizing index parts with
  | nil =>
      cases serialized
      exact ⟨[], rfl, .nil⟩
  | cons item rest induction =>
      rcases serializeArray_cons_eq_ok.mp serialized with ⟨part, more, first, others, rfl⟩
      have texts := List.forall_mem_cons.mp texts
      rcases texts.1 _ part first with ⟨tree, rfl, same⟩
      rcases induction texts.2 others with ⟨trees, rfl, sames⟩
      exact ⟨tree :: trees, rfl, .cons same sames⟩

theorem textOf_members {serialize : JsValue → JsString → Serialized JsString}
    (texts : ∀ member ∈ members, ∀ path text,
      serialize member.2 path = .ok text → TextOf text member.2)
    (serialized : serializeObject serialize path members keys = .ok parts) :
    ∃ trees : List (JsString × JsonSyntax), parts = trees.map JsonSyntax.memberText ∧
      trees.map Prod.fst = keys.filter (fun key => (JsValue.member? members key).isSome) ∧
        ∀ tree ∈ trees, ∀ value, JsValue.member? members tree.1 = some value →
          JsValue.SameData (JsValue.ofSyntax tree.2) value := by
  induction keys generalizing parts with
  | nil =>
      cases serialized
      exact ⟨[], rfl, rfl, fun tree inside => absurd inside List.not_mem_nil⟩
  | cons key keys induction =>
      rcases serializeObject_cons_eq_ok.mp serialized with ⟨found, serialized⟩ |
        ⟨member, text, more, found, -, first, others, rfl⟩
      · rcases induction serialized with ⟨trees, parts, order, same⟩
        refine ⟨trees, parts, ?_, same⟩
        rw [List.filter_cons, found, order]
        rfl
      · rcases texts _ (JsValue.mem_of_member? found) _ text first with ⟨tree, rfl, same⟩
        rcases induction others with ⟨trees, rfl, order, sames⟩
        refine ⟨(key, tree) :: trees, rfl, ?_, ?_⟩
        · rw [List.filter_cons, found, List.map_cons, order]
          rfl
        · intro entry inside value holds
          rcases List.mem_cons.mp inside with rfl | inside
          · rw [found] at holds
            cases holds
            exact same
          · exact sames entry inside value holds

theorem sameData_array {trees : List JsonSyntax}
    (same : List.Forall₂ (fun tree item => JsValue.SameData (JsValue.ofSyntax tree) item)
      trees items) : JsValue.SameData (JsValue.ofSyntax (.array trees)) (.array items) := by
  rw [JsValue.ofSyntax, JsValue.ofItems_eq]
  refine .array ((List.length_map _).trans same.length_eq) ?_
  intro index left right atLeft atRight
  rw [List.getElem?_map, Option.map_eq_some_iff] at atLeft
  rcases atLeft with ⟨tree, atTree, rfl⟩
  rcases List.getElem?_eq_some_iff.mp atTree with ⟨treeWithin, rfl⟩
  rcases List.getElem?_eq_some_iff.mp atRight with ⟨itemWithin, rfl⟩
  exact (List.forall₂_iff_get.mp same).2 index treeWithin itemWithin

theorem sameData_object {trees : List (JsString × JsonSyntax)} (nodup : (trees.map Prod.fst).Nodup)
    (order : ∀ key, key ∈ trees.map Prod.fst ↔ (JsValue.member? members key).isSome)
    (same : ∀ tree ∈ trees, ∀ value, JsValue.member? members tree.1 = some value →
      JsValue.SameData (JsValue.ofSyntax tree.2) value) :
    JsValue.SameData (JsValue.ofSyntax (.object trees)) (.object members) := by
  have keys : (JsValue.ofMembers trees).map Prod.fst = trees.map Prod.fst := by
    rw [JsValue.ofMembers_eq, Property.keys_mapValues]
  have distinct : ((JsValue.ofMembers trees).map Prod.fst).Nodup := keys ▸ nodup
  have perm := Property.assignAll_perm distinct
  have found : ∀ key value,
      JsValue.member? (Property.assignAll (JsValue.ofMembers trees)) key = some value →
        ∃ tree, (key, tree) ∈ trees ∧ value = JsValue.ofSyntax tree := by
    intro key value holds
    have inside := perm.mem_iff.mp (JsValue.mem_of_member? holds)
    rw [JsValue.ofMembers_eq] at inside
    rcases (Property.mem_mapValues _).mp inside with ⟨tree, source, isValue⟩
    exact ⟨tree, source, isValue.symm⟩
  have present : ∀ key tree, (key, tree) ∈ trees →
      JsValue.member? (Property.assignAll (JsValue.ofMembers trees)) key =
        some (JsValue.ofSyntax tree) := by
    intro key tree inside
    apply JsValue.member?_eq_some _ (JsValue.ofSyntax_ne_undefined tree)
    apply (Property.lookup_eq_some_iff (Property.nodup_assignAll _)).mpr
    rw [perm.mem_iff, JsValue.ofMembers_eq]
    exact (Property.mem_mapValues _).mpr ⟨tree, inside, rfl⟩
  rw [JsValue.ofSyntax]
  refine .object ?_ ?_
  · intro key
    rw [Bool.eq_iff_iff, ← order key]
    constructor
    · intro holds
      rcases Option.isSome_iff_exists.mp holds with ⟨value, holds⟩
      rcases found key value holds with ⟨tree, inside, -⟩
      exact List.mem_map.mpr ⟨_, inside, rfl⟩
    · intro inside
      rcases List.mem_map.mp inside with ⟨⟨key', tree⟩, source, rfl⟩
      rw [present key' tree source]
      rfl
  · intro key left right atLeft atRight
    rcases found key left atLeft with ⟨tree, inside, rfl⟩
    exact same _ inside right atRight

theorem textOf_serialize (distinct : value.DistinctKeys)
    (serialized : serialize room value path = .ok text) : TextOf text value := by
  induction room generalizing value path text with
  | zero => cases serialized
  | succ room induction =>
      cases distinct with
      | leaf primitive => exact textOf_leaf serialized
      | @array items distinct =>
          rcases serialize_array_eq_ok.mp serialized with ⟨parts, written, rfl⟩
          rcases textOf_items (fun item inside path text => induction (distinct item inside))
            written with ⟨trees, rfl, same⟩
          refine ⟨.array trees, ?_, sameData_array same⟩
          rw [JsonSyntax.print, JsonSyntax.printItems_eq]
      | @object members nodup distinct =>
          rcases serialize_object_eq_ok.mp serialized with ⟨parts, written, rfl⟩
          rcases textOf_members (fun member inside path text => induction (distinct member inside))
            written with ⟨trees, rfl, order, same⟩
          have sorted := JsString.sort_perm (members.map Prod.fst)
          refine ⟨.object trees, ?_, sameData_object ?_ ?_ same⟩
          · rw [JsonSyntax.print, JsonSyntax.printMembers_eq]
          · rw [order]
            exact (sorted.nodup_iff.mpr nodup).filter _
          · intro key
            rw [order, List.mem_filter, sorted.mem_iff]
            exact and_iff_right_of_imp JsValue.key_of_member?

/-! ## The same data has the same text -/

theorem serializeLeaf_unsignedZero (path : JsString) (primitive : Primitive) :
    serializeLeaf path (JsValue.unsignedZero primitive) = serializeLeaf path primitive := by
  cases primitive with
  | number value =>
      cases value with
      | finite negative magnitude =>
          exact congrArg Except.ok
            (JsNumber.text_unsignedZero (.finite negative magnitude))
      | nan | infinite negative => rfl
  | undefined | null | boolean value | string text | foreign kind => rfl

theorem serializeArray_congr {serialize : JsValue → JsString → Serialized JsString}
    {first second : List JsValue} (length : first.length = second.length)
    (same : ∀ (index : Nat) (left right : JsValue), first[index]? = some left →
      second[index]? = some right → ∀ path, serialize left path = serialize right path)
    (path : JsString) (index : Nat) :
    serializeArray serialize path index first = serializeArray serialize path index second := by
  induction first generalizing second index with
  | nil =>
      cases second with
      | nil => rfl
      | cons item rest => cases length
  | cons item rest induction =>
      cases second with
      | nil => cases length
      | cons item' rest' =>
          have head := same 0 item item' rfl rfl
          have tail := induction (Nat.succ.inj length)
            (fun index left right atLeft atRight => same (index + 1) left right atLeft atRight)
            (index + 1)
          rw [serializeArray, serializeArray, head, tail]

theorem serializeObject_filter (serialize : JsValue → JsString → Serialized JsString)
    (path : JsString) (members : List (JsString × JsValue)) (keys : List JsString) :
    serializeObject serialize path members
        (keys.filter fun key => (JsValue.member? members key).isSome) =
      serializeObject serialize path members keys := by
  induction keys with
  | nil => rfl
  | cons key keys induction =>
      cases found : JsValue.member? members key with
      | none =>
          have skipped : (JsValue.member? members key).isSome = false := by
            rw [found]
            rfl
          rw [List.filter_cons, skipped, serializeObject]
          simp only [found, Bool.false_eq_true, if_false, induction]
      | some member =>
          have kept : (JsValue.member? members key).isSome = true := by
            rw [found]
            rfl
          rw [List.filter_cons, if_pos kept, serializeObject, serializeObject]
          simp only [found, induction]

theorem serializeObject_congr {serialize : JsValue → JsString → Serialized JsString}
    {first second : List (JsString × JsValue)}
    (present : ∀ key, (JsValue.member? first key).isSome = (JsValue.member? second key).isSome)
    (same : ∀ (key : JsString) (left right : JsValue), JsValue.member? first key = some left →
      JsValue.member? second key = some right → ∀ path, serialize left path = serialize right path)
    (path : JsString) (keys : List JsString) :
    serializeObject serialize path first keys = serializeObject serialize path second keys := by
  induction keys with
  | nil => rfl
  | cons key keys induction =>
      have both := present key
      cases found : JsValue.member? first key with
      | none =>
          rw [found, Option.isSome_none] at both
          have missing : JsValue.member? second key = none :=
            Option.isNone_iff_eq_none.mp (Option.isSome_eq_false_iff.mp both.symm)
          rw [serializeObject, serializeObject]
          simp only [found, missing, induction]
      | some left =>
          rw [found, Option.isSome_some] at both
          rcases Option.isSome_iff_exists.mp both.symm with ⟨right, held⟩
          have member := same key left right found held
          rw [serializeObject, serializeObject]
          simp only [found, held, member, induction]

theorem serialize_congr {first second : JsValue} (distinct : first.DistinctKeys)
    (distinct' : second.DistinctKeys) (same : JsValue.SameData first second) (path : JsString) :
    serialize room first path = serialize room second path := by
  induction room generalizing first second path with
  | zero => rfl
  | succ room induction =>
      cases same with
      | @leaf first second same =>
          rw [serialize, serialize, ← serializeLeaf_unsignedZero path first, same,
            serializeLeaf_unsignedZero]
      | array length items =>
          cases distinct with
          | array parts =>
              cases distinct' with
              | array parts' =>
                  rw [serialize, serialize, serializeArray_congr length]
                  intro index left right atLeft atRight path
                  exact induction (parts left (List.mem_of_getElem? atLeft))
                    (parts' right (List.mem_of_getElem? atRight))
                    (items index left right atLeft atRight) path
      | @object first second keys members =>
          cases distinct with
          | object nodup parts =>
              cases distinct' with
              | object nodup' parts' =>
                  have perm : ((first.map Prod.fst).filter fun key =>
                      (JsValue.member? first key).isSome).Perm
                        ((second.map Prod.fst).filter fun key =>
                          (JsValue.member? first key).isSome) := by
                    apply (List.perm_ext_iff_of_nodup (nodup.filter _) (nodup'.filter _)).mpr
                    intro key
                    rw [List.mem_filter, List.mem_filter,
                      and_iff_right_of_imp JsValue.key_of_member?, keys key,
                      and_iff_right_of_imp JsValue.key_of_member?]
                  have sorted := JsString.sort_congr perm
                  rw [← JsString.sort_filter, ← JsString.sort_filter] at sorted
                  have texts := serializeObject_congr keys
                    (fun key left right atLeft atRight path =>
                      induction (parts _ (JsValue.mem_of_member? atLeft))
                        (parts' _ (JsValue.mem_of_member? atRight))
                        (members key left right atLeft atRight) path) path
                  have order : serializeObject (serialize room) path first
                      (JsString.sort (first.map Prod.fst)) =
                        serializeObject (serialize room) path second
                          (JsString.sort (second.map Prod.fst)) := by
                    rw [← serializeObject_filter, sorted, texts]
                    simp only [keys]
                    exact serializeObject_filter _ _ _ _
                  rw [serialize, serialize, order]

/-! ## Parts of what is accepted -/

theorem serializeLeaf_anywhere (serialized : serializeLeaf path primitive = .ok text)
    (path' : JsString) : serializeLeaf path' primitive = .ok text := by
  cases primitive with
  | undefined => cases serialized
  | null => exact serialized
  | boolean value => cases value <;> exact serialized
  | number value =>
      cases value with
      | nan | infinite negative => cases serialized
      | finite negative magnitude => exact serialized
  | string content =>
      rw [serializeLeaf] at serialized
      split at serialized
      · cases serialized
      · rename_i whole
        rw [serializeLeaf, if_neg whole]
        exact serialized
  | foreign kind => cases kind <;> cases serialized

section Elsewhere

variable {serialize serialize' : JsValue → JsString → Serialized JsString}

/-- What one writer accepts is written the same way by the other, at every place. -/
def WritesAs (serialize serialize' : JsValue → JsString → Serialized JsString)
    (value : JsValue) : Prop :=
  ∀ path text, serialize value path = .ok text → ∀ path', serialize' value path' = .ok text

variable {parts : List JsString} {path : JsString}

theorem serializeArray_anywhere {items : List JsValue} {index : Nat}
    (each : ∀ item ∈ items, WritesAs serialize serialize' item)
    (serialized : serializeArray serialize path index items = .ok parts) (path' : JsString)
    (index' : Nat) : serializeArray serialize' path' index' items = .ok parts := by
  induction items generalizing index index' parts with
  | nil => exact serialized
  | cons item rest induction =>
      have both := List.forall_mem_cons.mp each
      rcases serializeArray_cons_eq_ok.mp serialized with ⟨part, more, first, others, rfl⟩
      exact serializeArray_cons_eq_ok.mpr
        ⟨part, more, both.1 _ _ first _, induction both.2 others _, rfl⟩

theorem serializeObject_anywhere {members : List (JsString × JsValue)} {keys : List JsString}
    (each : ∀ member ∈ members, WritesAs serialize serialize' member.2)
    (serialized : serializeObject serialize path members keys = .ok parts) (path' : JsString) :
    serializeObject serialize' path' members keys = .ok parts := by
  induction keys generalizing parts with
  | nil => exact serialized
  | cons key keys induction =>
      apply serializeObject_cons_eq_ok.mpr
      rcases serializeObject_cons_eq_ok.mp serialized with ⟨found, serialized⟩ |
        ⟨member, text, more, found, whole, first, others, rfl⟩
      · exact .inl ⟨found, induction serialized⟩
      · have written := each _ (JsValue.mem_of_member? found) _ _ first
        exact .inr ⟨member, text, more, found, whole, written _, induction others, rfl⟩

end Elsewhere

theorem serialize_anywhere {room' : Nat} (more : room ≤ room') (value : JsValue) :
    WritesAs (serialize room) (serialize room') value := by
  induction room generalizing room' value with
  | zero =>
      intro path text serialized
      cases serialized
  | succ room induction =>
      rcases Nat.exists_eq_add_of_le' more with ⟨further, rfl⟩
      have inner : ∀ value, WritesAs (serialize room) (serialize (further + room)) value :=
        fun value => induction (Nat.le_add_left room further) value
      intro path text serialized path'
      rw [← Nat.add_assoc]
      cases value with
      | leaf primitive => exact serializeLeaf_anywhere serialized path'
      | array items =>
          rcases serialize_array_eq_ok.mp serialized with ⟨parts, written, rfl⟩
          exact serialize_array_eq_ok.mpr
            ⟨parts, serializeArray_anywhere (fun item _ => inner item) written _ _, rfl⟩
      | object members =>
          rcases serialize_object_eq_ok.mp serialized with ⟨parts, written, rfl⟩
          exact serialize_object_eq_ok.mpr
            ⟨parts, serializeObject_anywhere (fun member _ => inner member.2) written _, rfl⟩

theorem serializeObject_member {serialize : JsValue → JsString → Serialized JsString}
    (serialized : serializeObject serialize path members keys = .ok parts) {key : JsString}
    (inside : key ∈ keys) (found : JsValue.member? members key = some value) :
    ∃ place text, serialize value place = .ok text := by
  induction keys generalizing parts with
  | nil => cases inside
  | cons head keys induction =>
      rcases serializeObject_cons_eq_ok.mp serialized with ⟨present, serialized⟩ |
        ⟨member, text, more, present, -, first, others, rfl⟩
      · apply induction serialized
        refine (List.mem_cons.mp inside).resolve_left ?_
        rintro rfl
        rw [found] at present
        cases present
      · rcases List.mem_cons.mp inside with rfl | later
        · rw [found] at present
          cases present
          exact ⟨_, text, first⟩
        · exact induction others later

end CanonicalJson

variable {text : JsString} {value : JsValue} {first second : JsData}

theorem canonicalizeJson_member {members : List (JsString × JsValue)}
    (accepted : canonicalizeJson (.object members) = .ok text) {key : JsString}
    (found : JsValue.member? members key = some value) :
    ∃ part, canonicalizeJson value = .ok part := by
  rcases CanonicalJson.serialize_object_eq_ok.mp accepted with ⟨parts, written, -⟩
  have key_inside : key ∈ JsString.sort (members.map Prod.fst) := by
    rw [(JsString.sort_perm _).mem_iff]
    apply JsValue.key_of_member?
    rw [found]
    rfl
  rcases CanonicalJson.serializeObject_member written key_inside found with
    ⟨place, part, accepted'⟩
  exact ⟨part, CanonicalJson.serialize_anywhere (Nat.le_succ maxDepth) value place part
    accepted' (js "$")⟩

/-! ## A canonical form -/

theorem sameData_of_canonicalizeJson (distinct : value.DistinctKeys)
    (canonical : canonicalizeJson value = .ok text) :
    ∃ parsed, JsValue.parse text = some parsed ∧ parsed.DistinctKeys ∧
      JsValue.SameData parsed value := by
  rcases CanonicalJson.textOf_serialize distinct canonical with ⟨tree, rfl, same⟩
  refine ⟨JsValue.ofSyntax tree, ?_, JsValue.ofSyntax_distinctKeys tree, same⟩
  rw [JsValue.parse, JsonSyntax.parse_print]
  rfl

theorem canonicalizeJson_congr (same : JsValue.SameData first.val second.val) :
    canonicalizeJson first.val = canonicalizeJson second.val :=
  CanonicalJson.serialize_congr first.property second.property same (js "$")

theorem sameData_of_canonicalizeJson_eq (accepted : canonicalizeJson first.val = .ok text)
    (accepted' : canonicalizeJson second.val = .ok text) :
    JsValue.SameData first.val second.val := by
  rcases sameData_of_canonicalizeJson first.property accepted with ⟨parsed, read, -, same⟩
  rcases sameData_of_canonicalizeJson second.property accepted' with ⟨parsed', read', -, same'⟩
  rw [read] at read'
  cases read'
  exact same.symm.trans same'

/-- A value that is accepted has the text of another one exactly if they are the same
data, and its text is that of the value read from it. -/
theorem canonicalizeJson_canonical {first : JsData} {text : JsString}
    (accepted : canonicalizeJson first.val = .ok text) (second : JsData) :
    (canonicalizeJson first.val = canonicalizeJson second.val ↔
        JsValue.SameData first.val second.val) ∧
      ∃ parsed, JsValue.parse text = some parsed ∧ canonicalizeJson parsed = .ok text := by
  constructor
  · constructor
    · intro equal
      exact sameData_of_canonicalizeJson_eq accepted (equal.symm.trans accepted)
    · exact canonicalizeJson_congr
  · rcases sameData_of_canonicalizeJson first.property accepted with
      ⟨parsed, read, distinct, same⟩
    exact ⟨parsed, read,
      (CanonicalJson.serialize_congr distinct first.property same _).trans accepted⟩

/-- Members in another order, a member that holds nothing and the number `-0`. -/
def nestedData : JsData where
  val := .object [(js "b", .array [.leaf .null]),
    (js "a", .object [(js "y", .leaf (.number (.finite true .zero))), (js "x", .leaf .undefined)])]
  property := by
    refine .object (by decide) (List.forall_mem_cons.mpr ⟨.array ?_, List.forall_mem_singleton.mpr
      (.object (by decide) ?_)⟩)
    · exact List.forall_mem_singleton.mpr (.leaf _)
    · exact List.forall_mem_cons.mpr ⟨.leaf _, List.forall_mem_singleton.mpr (.leaf _)⟩

theorem canonicalizeJson_canonical_nested :
    let text := js "\x7b\"a\":\x7b\"y\":0\x7d,\"b\":[null]\x7d"
    let second := JsData.ofSyntax (.object [(js "a", .object [(js "y",
      .leaf (.number ⟨false, 0, [], none⟩))]), (js "b", .array [.leaf .null])])
    (canonicalizeJson nestedData.val = canonicalizeJson second.val ↔
        JsValue.SameData nestedData.val second.val) ∧
      ∃ parsed, JsValue.parse text = some parsed ∧ canonicalizeJson parsed = .ok text :=
  canonicalizeJson_canonical (by decide) _

end Orbital.AbiRegistry
