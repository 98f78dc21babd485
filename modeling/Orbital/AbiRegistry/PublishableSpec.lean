import Orbital.AbiRegistry.Discovery
import Orbital.AbiRegistry.ValidSpec
import Orbital.Foundation.FixedPoint

/-! # Discovered specs that can be published

The mapping lets through what `validateSpec` refuses: tuples of one element, bytes of size
zero, empty names and names that are no identifiers. Types of users are not looked into.
-/

namespace Orbital.AbiRegistry

open Foundation
open JsValue (SameData)

structure Supplied where
  version : JsString
  name : JsString
  contractId : JsString
  semver : isSemver version = true
  named : name ≠ [] ∧ name.length ≤ 100
  isContract : isContractId contractId = true

def Supplied.spec (supplied : Supplied) (mapped : MappedEntries) : JsValue :=
  .object [(js "version", jsText supplied.version), (js "name", jsText supplied.name),
    (js "contractId", jsText supplied.contractId),
    (js "functions", .array (mapped.functions.map FunctionSpec.toJs)),
    (js "events", .array (mapped.events.map EventSpec.toJs)),
    (js "types", .object mapped.types)]

mutual
def Expressible : ScSpecTypeDef → Prop
  | .option valueType => Expressible valueType
  | .result okType errorType => Expressible okType ∧ Expressible errorType
  | .vec elementType => Expressible elementType
  | .map keyType valueType => Expressible keyType ∧ Expressible valueType
  | .tuple valueTypes => valueTypes.length ≠ 1 ∧ AllExpressible valueTypes
  | .bytesN n => 0 < n.toNat
  | .udt name => name ≠ []
  | _ => True

def AllExpressible : List ScSpecTypeDef → Prop
  | [] => True
  | type :: rest => Expressible type ∧ AllExpressible rest
end

def PublishableField (field : ScSpecField) : Prop :=
  isIdentifier field.name = true ∧ Expressible field.type

def Publishable : ScSpecEntry → Prop
  | .functionV0 name _ inputs outputs =>
      isIdentifier name = true ∧ (∀ input ∈ inputs, PublishableField input) ∧
        AllExpressible outputs
  | .eventV0 name _ _ params => name ≠ [] ∧ ∀ param ∈ params, PublishableField param.field
  | _ => True

/-! ## Types -/

theorem isPositiveInteger_jsNat {number : Nat} (small : number < 2 ^ 32) :
    isPositiveInteger (jsNat number) = true ↔ 0 < number := by
  rcases jsNat_eq small with ⟨magnitude, units, equal⟩
  rw [equal]
  change (magnitude.units % 2 ^ places == 0 && decide (2 ^ places ≤ magnitude.units)) = true ↔ _
  rw [units, Nat.mul_mod_left]
  have positive := Nat.two_pow_pos places
  simp only [beq_self_eq_true, Bool.true_and, decide_eq_true_eq]
  exact le_mul_iff_one_le_left positive

def Valid (type : TypeSpec) : Prop :=
  validateType type.toJs [] = []

theorem valid_iff {type : TypeSpec} {room : Nat} (fits : type.toJs.depth < room)
    (path : JsString) : validateTypeSpec room type.toJs path = [] ↔ Valid type :=
  ⟨validateTypeSpec_congr (SameData.refl _) fits,
    validateTypeSpec_congr (SameData.refl _) (Nat.lt_succ_self _)⟩

theorem depth_lt {members : List (JsString × JsValue)} {key : JsString} {value : JsValue}
    (inside : (key, value) ∈ members) : value.depth < (JsonTree.object members).depth :=
  JsonTree.depth_member_lt inside

section Arrays

variable {Spec : Type} {toJs : Spec → JsValue} {Accepts : Spec → Prop} {specs : List Spec}
  {check : JsValue → JsString → List JsString}

theorem indexed_iff (same : ∀ spec ∈ specs, ∀ path, check (toJs spec) path = [] ↔ Accepts spec)
    (path : JsString) (start : Nat) :
    indexed check path start (specs.map toJs) = [] ↔ ∀ spec ∈ specs, Accepts spec := by
  induction specs generalizing start with
  | nil => simp [indexed]
  | cons spec rest induction =>
      rw [List.forall_mem_cons] at same
      rw [List.map_cons, indexed, List.append_eq_nil_iff, List.forall_mem_cons, same.1,
        induction same.2]

theorem arrayErrors_iff {members : List (JsString × JsValue)} {key : JsString}
    (same : ∀ spec ∈ specs, ∀ path, check (toJs spec) path = [] ↔ Accepts spec)
    (isArray : get members key = .array (specs.map toJs)) (path : JsString) :
    arrayErrors check members key path = [] ↔ ∀ spec ∈ specs, Accepts spec := by
  rw [arrayErrors, isArray]
  exact indexed_iff same path 0

end Arrays

section Types

variable {left right : TypeSpec} {elements : List TypeSpec}

theorem valid_primitive (type : PrimitiveType) : Valid (.primitive type) := by
  cases type <;> rfl

theorem valid_option : Valid (.option left) ↔ Valid left :=
  valid_iff (depth_lt (List.mem_cons_of_mem _ List.mem_cons_self)) _

theorem valid_vec : Valid (.vec left) ↔ Valid left :=
  valid_iff (depth_lt (List.mem_cons_of_mem _ List.mem_cons_self)) _

theorem valid_result : Valid (.result left right) ↔ Valid left ∧ Valid right := by
  apply List.append_eq_nil_iff.trans
  apply and_congr
  · exact valid_iff (depth_lt (List.mem_cons_of_mem _ List.mem_cons_self)) _
  · exact valid_iff (depth_lt (List.mem_cons_of_mem _ (List.mem_cons_of_mem _
      List.mem_cons_self))) _

theorem valid_map : Valid (.map left right) ↔ Valid left ∧ Valid right := by
  apply List.append_eq_nil_iff.trans
  apply and_congr
  · exact valid_iff (depth_lt (List.mem_cons_of_mem _ List.mem_cons_self)) _
  · exact valid_iff (depth_lt (List.mem_cons_of_mem _ (List.mem_cons_of_mem _
      List.mem_cons_self))) _

theorem valid_tuple :
    Valid (.tuple elements) ↔ 2 ≤ elements.length ∧ ∀ element ∈ elements, Valid element := by
  have list : (js "elements", JsonTree.array (TypeSpec.toJsAll elements)) ∈
      [(js "type", jsText (js "tuple")), (js "elements", .array (TypeSpec.toJsAll elements))] :=
    List.mem_cons_of_mem _ List.mem_cons_self
  have errors : validateType (TypeSpec.tuple elements).toJs [] =
      if (TypeSpec.toJsAll elements).length < 2 then
        [js ".elements: tuple requires at least 2 elements"]
      else indexed (validateTypeSpec (TypeSpec.tuple elements).toJs.depth) (js ".elements") 0
        (TypeSpec.toJsAll elements) := rfl
  have fits : ∀ element ∈ elements,
      element.toJs.depth < (TypeSpec.tuple elements).toJs.depth := by
    intro element inside
    refine (JsonTree.depth_item_lt ?_).trans (depth_lt list)
    rw [TypeSpec.toJsAll_eq]
    exact List.mem_map_of_mem inside
  rw [Valid, errors, TypeSpec.toJsAll_eq, List.length_map]
  split
  · rename_i few
    simp [not_le.mpr few]
  · rename_i enough
    exact (indexed_iff (fun element inside => valid_iff (fits element inside)) _ 0).trans
      (and_iff_right (not_lt.mp enough)).symm

theorem valid_bytesN {size : Nat} (small : size < 2 ^ 32) : Valid (.bytesN size) ↔ 0 < size := by
  have errors : ∀ value, validateType (.object [(js "type", jsText (js "bytes_n")),
      (js "size", value)]) [] = if isPositiveInteger value then []
        else [js ".size: must be a positive integer"] := fun _ => rfl
  rw [← isPositiveInteger_jsNat small, Valid, TypeSpec.toJs, errors]
  split <;> simp [*]

theorem valid_named {name : JsString} : Valid (.named name) ↔ name ≠ [] := by
  have errors : validateType (TypeSpec.named name).toJs [] =
      if (some name).any (· ≠ []) then [] else [js ".name: must be a non-empty string"] := rfl
  rw [Valid, errors]
  simp

end Types

mutual
theorem valid_mapTypeDef : (type : ScSpecTypeDef) → (Valid (mapTypeDef type) ↔ Expressible type)
  | .option valueType => valid_option.trans (valid_mapTypeDef valueType)
  | .vec elementType => valid_vec.trans (valid_mapTypeDef elementType)
  | .result okType errorType =>
      valid_result.trans (and_congr (valid_mapTypeDef okType) (valid_mapTypeDef errorType))
  | .map keyType valueType =>
      valid_map.trans (and_congr (valid_mapTypeDef keyType) (valid_mapTypeDef valueType))
  | .tuple [] => by simp [mapTypeDef, Expressible, AllExpressible, valid_primitive]
  | .tuple (first :: rest) => by
      have parts := valid_mapTypeDefs rest
      rw [mapTypeDef, valid_tuple, List.forall_mem_cons, valid_mapTypeDef first, parts.1, Expressible,
        AllExpressible, List.length_cons, List.length_cons, parts.2]
      exact and_congr_left fun _ => by omega
  | .bytesN n => valid_bytesN n.toNat_lt
  | .udt name => valid_named
  | .val | .bool | .void | .error | .u32 | .i32 | .u64 | .i64 | .timepoint | .duration | .u128
  | .i128 | .u256 | .i256 | .bytes | .string | .symbol | .address | .muxedAddress =>
      iff_of_true (valid_primitive _) trivial

theorem valid_mapTypeDefs : (types : List ScSpecTypeDef) →
    ((∀ type ∈ mapTypeDefs types, Valid type) ↔ AllExpressible types) ∧
      (mapTypeDefs types).length = types.length
  | [] => by simp [mapTypeDefs, AllExpressible]
  | first :: rest => by
      have parts := valid_mapTypeDefs rest
      rw [mapTypeDefs, List.forall_mem_cons, valid_mapTypeDef first, parts.1, AllExpressible,
        List.length_cons, parts.2]
      exact ⟨Iff.rfl, rfl⟩
end

/-! ## Entries -/

def ValidFunction (function : FunctionSpec) : Prop :=
  isIdentifier function.name = true ∧
    (∀ param ∈ function.params, isIdentifier param.name = true ∧ Valid param.type) ∧
    Valid function.returns

def ValidEvent (event : EventSpec) : Prop :=
  event.name ≠ [] ∧ ∀ field ∈ event.topics ++ event.data,
    isIdentifier field.name = true ∧ Valid field.type

theorem ite_singleton_eq_nil {Item : Type} {condition : Bool} {item : Item} :
    (if condition then [] else [item]) = [] ↔ condition = true := by
  cases condition <;> simp

theorem any_ne_nil {name : JsString} : (some name).any (· ≠ []) = true ↔ name ≠ [] := by
  simp

theorem validateFieldSpec_iff (field : FieldSpec) (path : JsString) :
    validateFieldSpec field.toJs path = [] ↔
      isIdentifier field.name = true ∧ Valid field.type := by
  apply List.append_eq_nil_iff.trans
  apply and_congr
  · exact ite_singleton_eq_nil
  · exact valid_iff (Nat.lt_succ_self _) _

theorem fields_iff {members : List (JsString × JsValue)} {key : JsString}
    {fields : List FieldSpec} (isArray : get members key = .array (fields.map FieldSpec.toJs))
    (path : JsString) : arrayErrors validateFieldSpec members key path = [] ↔
      ∀ field ∈ fields, isIdentifier field.name = true ∧ Valid field.type :=
  arrayErrors_iff (fun field _ => validateFieldSpec_iff field) isArray path

theorem validateFunctionSpec_iff (function : FunctionSpec) (path : JsString) :
    validateFunctionSpec function.toJs path = [] ↔ ValidFunction function := by
  rcases function with ⟨name, doc, params, returns⟩
  cases doc <;>
    exact List.append_eq_nil_iff.trans (and_congr ite_singleton_eq_nil
      (List.append_eq_nil_iff.trans (and_congr (fields_iff rfl _)
        (valid_iff (Nat.lt_succ_self _) _))))

theorem validateEventSpec_iff (event : EventSpec) (path : JsString) :
    validateEventSpec event.toJs path = [] ↔ ValidEvent event := by
  rcases event with ⟨name, doc, topics, data⟩
  rw [ValidEvent, List.forall_mem_append]
  cases doc <;>
    exact List.append_eq_nil_iff.trans (and_congr (ite_singleton_eq_nil.trans any_ne_nil)
      (List.append_eq_nil_iff.trans (and_congr (fields_iff rfl _) (fields_iff rfl _))))

theorem validFields_map (fields : List ScSpecField) :
    (∀ field ∈ fields.map mapField, isIdentifier field.name = true ∧ Valid field.type) ↔
      ∀ field ∈ fields, PublishableField field := by
  rw [List.forall_mem_map]
  exact forall₂_congr fun field _ => and_congr_right' (valid_mapTypeDef field.type)

theorem validFunction_map (name doc : JsString) (inputs : List ScSpecField)
    (outputs : List ScSpecTypeDef) : ValidFunction (mapFunctionV0 name doc inputs outputs) ↔
      Publishable (.functionV0 name doc inputs outputs) := by
  apply and_congr_right'
  apply and_congr (validFields_map inputs)
  rcases outputs with _ | ⟨first, _ | ⟨second, rest⟩⟩
  · exact iff_of_true (valid_primitive _) trivial
  · exact (valid_mapTypeDef first).trans (and_iff_left trivial).symm
  · have parts := valid_mapTypeDefs (first :: second :: rest)
    refine valid_tuple.trans ?_
    rw [parts.1, parts.2]
    exact and_iff_right (by simp)

theorem isIdentifier_append {name : JsString} (identifier : isIdentifier name = true)
    (digits : List Digit) : isIdentifier (name ++ Digits.text digits) = true := by
  cases name with
  | nil => cases identifier
  | cons first rest =>
      rw [isIdentifier, Bool.and_eq_true] at identifier
      rw [List.cons_append, isIdentifier, identifier.1, Bool.true_and, List.all_append,
        identifier.2, Bool.true_and, List.all_eq_true]
      intro unit inside
      rw [Digits.isSome_of_mem_text inside, Bool.or_true]

theorem isIdentifier_prefixTopicField (index : Nat) (raw : JsString) :
    isIdentifier (prefixTopicField index raw).name = true := by
  rw [prefixTopicField]
  dsimp only
  split
  · decide
  · exact isIdentifier_append (by decide) _

theorem validEvent_map (name doc : JsString) (prefixTopics : List JsString)
    (params : List ScSpecEventParam) : ValidEvent (mapEventV0 name doc prefixTopics params) ↔
      Publishable (.eventV0 name doc prefixTopics params) := by
  apply and_congr_right'
  rw [mapEventV0, List.forall_mem_append, List.forall_mem_append, List.forall_mem_map,
    List.forall_mem_map]
  have prefixed : ∀ field ∈ prefixTopics.mapIdx prefixTopicField,
      isIdentifier field.name = true ∧ Valid field.type := by
    intro field inside
    rcases List.mem_mapIdx.mp inside with ⟨index, within, rfl⟩
    exact ⟨isIdentifier_prefixTopicField index _, valid_primitive _⟩
  have same : ∀ param : ScSpecEventParam, isIdentifier (mapField param.field).name = true ∧
      Valid (mapField param.field).type ↔ PublishableField param.field :=
    fun param => and_congr_right' (valid_mapTypeDef param.field.type)
  simp only [and_iff_right prefixed, same, List.mem_filter, decide_eq_true_eq]
  constructor
  · intro both param inside
    cases located : param.location with
    | data => exact both.2 param ⟨inside, located⟩
    | topicList => exact both.1 param ⟨inside, located⟩
  · intro all
    exact ⟨fun param kept => all param kept.1, fun param kept => all param kept.1⟩

theorem valid_foldl (entries : List ScSpecEntry) (mapped : MappedEntries) :
    ((∀ function ∈ (entries.foldl .add mapped).functions, ValidFunction function) ∧
        ∀ event ∈ (entries.foldl .add mapped).events, ValidEvent event) ↔
      ((∀ function ∈ mapped.functions, ValidFunction function) ∧
        ∀ event ∈ mapped.events, ValidEvent event) ∧ ∀ entry ∈ entries, Publishable entry := by
  induction entries generalizing mapped with
  | nil => simp
  | cons entry rest induction =>
      rw [List.foldl_cons, induction, List.forall_mem_cons, ← and_assoc]
      apply and_congr_left'
      cases entry with
      | functionV0 name doc inputs outputs =>
          rw [MappedEntries.add, List.forall_mem_append, List.forall_mem_singleton,
            validFunction_map]
          exact and_right_comm
      | eventV0 name doc prefixTopics params =>
          rw [MappedEntries.add, List.forall_mem_append, List.forall_mem_singleton,
            validEvent_map, and_assoc]
      | _ => exact (and_iff_left trivial).symm

/-- A discovered spec is valid exactly when its functions and events can be published. -/
theorem validateSpec_discovered_iff (supplied : Supplied) (entries : List ScSpecEntry) :
    validateSpec (supplied.spec (mapSpecEntries entries)) = [] ↔
      ∀ entry ∈ entries, Publishable entry := by
  rw [Supplied.spec, validateSpec]
  simp only [List.append_eq_nil_iff]
  constructor
  · rintro ⟨-, -, -, -, -, functions, events, -⟩
    exact ((valid_foldl entries ⟨[], [], []⟩).mp
      ⟨(arrayErrors_iff (fun function _ => validateFunctionSpec_iff function) rfl _).mp functions,
        (arrayErrors_iff (fun event _ => validateEventSpec_iff event) rfl _).mp events⟩).2
  · intro publishable
    have valid := (valid_foldl entries ⟨[], [], []⟩).mpr ⟨⟨by simp, by simp⟩, publishable⟩
    exact ⟨ite_singleton_eq_nil.mpr supplied.semver,
      ite_singleton_eq_nil.mpr (Bool.and_eq_true_iff.mpr
        ⟨decide_eq_true supplied.named.1, decide_eq_true supplied.named.2⟩), rfl,
      ite_singleton_eq_nil.mpr supplied.isContract, rfl,
      (arrayErrors_iff (fun function _ => validateFunctionSpec_iff function) rfl _).mpr valid.1,
      (arrayErrors_iff (fun event _ => validateEventSpec_iff event) rfl _).mpr valid.2, rfl, rfl,
      rfl⟩

/-- A function that takes a tuple of one element. -/
theorem singleton_tuple_not_valid :
    validateSpec (Supplied.spec ⟨js "1.0.0", js "token", js "C" ++ List.replicate 55 0x41, by decide,
      by decide, by decide⟩ (mapSpecEntries
        [.functionV0 (js "pay") [] [⟨js "to", .tuple [.address], []⟩] []])) ≠ [] := by
  decide

end Orbital.AbiRegistry
