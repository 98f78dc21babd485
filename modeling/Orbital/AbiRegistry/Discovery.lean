import Orbital.AbiRegistry.CanonicalSpec
import Orbital.AbiRegistry.RegistryContract

/-! # `discovery/xdrToSpec.ts` and `discovery/discoverContract.ts`

The entries of a contract's spec section as they are mapped to a spec. Strings of an entry
are given as the text that `toString("utf-8")` makes of their bytes.
-/

namespace Orbital.AbiRegistry

open Foundation

inductive ScSpecTypeDef
  | val
  | bool
  | void
  | error
  | u32
  | i32
  | u64
  | i64
  | timepoint
  | duration
  | u128
  | i128
  | u256
  | i256
  | bytes
  | string
  | symbol
  | address
  | muxedAddress
  | option (valueType : ScSpecTypeDef)
  | result (okType errorType : ScSpecTypeDef)
  | vec (elementType : ScSpecTypeDef)
  | map (keyType valueType : ScSpecTypeDef)
  | tuple (valueTypes : List ScSpecTypeDef)
  | bytesN (n : UInt32)
  | udt (name : JsString)

structure ScSpecField where
  name : JsString
  type : ScSpecTypeDef
  doc : JsString

inductive ScSpecUdtUnionCase
  | void (name doc : JsString)
  | tuple (name doc : JsString) (type : List ScSpecTypeDef)

structure ScSpecUdtEnumCase where
  name : JsString
  doc : JsString
  value : UInt32

inductive ScSpecEventParamLocation
  | data
  | topicList
  deriving DecidableEq

structure ScSpecEventParam where
  field : ScSpecField
  location : ScSpecEventParamLocation

inductive ScSpecEntry
  | functionV0 (name doc : JsString) (inputs : List ScSpecField) (outputs : List ScSpecTypeDef)
  | udtStructV0 (name doc : JsString) (fields : List ScSpecField)
  | udtUnionV0 (name doc : JsString) (cases : List ScSpecUdtUnionCase)
  | udtEnumV0 (name doc : JsString) (cases : List ScSpecUdtEnumCase)
  | udtErrorEnumV0 (name doc : JsString) (cases : List ScSpecUdtEnumCase)
  | eventV0 (name doc : JsString) (prefixTopics : List JsString) (params : List ScSpecEventParam)

def optionalDoc (doc : JsString) : Doc :=
  if doc = [] then none else some doc

mutual
def mapTypeDef : ScSpecTypeDef → TypeSpec
  | .val => .primitive .val
  | .bool => .primitive .bool
  | .void => .primitive .void
  | .error => .primitive .error
  | .u32 => .primitive .u32
  | .i32 => .primitive .i32
  | .u64 => .primitive .u64
  | .i64 => .primitive .i64
  | .timepoint | .duration => .primitive .u64
  | .u128 => .primitive .u128
  | .i128 => .primitive .i128
  | .u256 => .primitive .u256
  | .i256 => .primitive .i256
  | .bytes => .primitive .bytes
  | .string => .primitive .string
  | .symbol => .primitive .symbol
  | .address | .muxedAddress => .primitive .address
  | .option valueType => .option (mapTypeDef valueType)
  | .result okType errorType => .result (mapTypeDef okType) (mapTypeDef errorType)
  | .vec elementType => .vec (mapTypeDef elementType)
  | .map keyType valueType => .map (mapTypeDef keyType) (mapTypeDef valueType)
  | .tuple [] => .primitive .void
  | .tuple (first :: rest) => .tuple (mapTypeDef first :: mapTypeDefs rest)
  | .bytesN n => .bytesN n.toNat
  | .udt name => .named name

def mapTypeDefs : List ScSpecTypeDef → List TypeSpec
  | [] => []
  | type :: rest => mapTypeDef type :: mapTypeDefs rest
end

def mapField (field : ScSpecField) : FieldSpec where
  name := field.name
  type := mapTypeDef field.type
  doc := optionalDoc field.doc

def mapFunctionV0 (name doc : JsString) (inputs : List ScSpecField)
    (outputs : List ScSpecTypeDef) : FunctionSpec where
  name
  doc := optionalDoc doc
  params := inputs.map mapField
  returns :=
    match outputs with
    | [] => .primitive .void
    | [output] => mapTypeDef output
    | outputs => .tuple (mapTypeDefs outputs)

def mapUdtStructV0 (name doc : JsString) (fields : List ScSpecField) : UserDefinedType :=
  .struct name (optionalDoc doc) (fields.map mapField)

def mapEnumCase (enumCase : ScSpecUdtEnumCase) : EnumVariantSpec where
  name := enumCase.name
  doc := optionalDoc enumCase.doc
  discriminant := enumCase.value.toNat

def mapUdtEnumV0 (name doc : JsString) (cases : List ScSpecUdtEnumCase) : UserDefinedType :=
  .enum name (optionalDoc doc) (cases.map mapEnumCase)

def mapUdtErrorEnumV0 (name doc : JsString) (cases : List ScSpecUdtEnumCase) : UserDefinedType :=
  .enum name (optionalDoc doc) (cases.map mapEnumCase)

def positionalField (position : JsString) (index : Nat) (type : ScSpecTypeDef) : FieldSpec where
  name := position ++ Digits.text (Digits.ofNat index)
  type := mapTypeDef type
  doc := none

def mapUnionCase : ScSpecUdtUnionCase → UnionCaseSpec
  | .void name doc => { name, doc := optionalDoc doc, fields := [] }
  | .tuple name doc type =>
      { name, doc := optionalDoc doc, fields := type.mapIdx (positionalField (js "_")) }

def mapUdtUnionV0 (name doc : JsString) (cases : List ScSpecUdtUnionCase) : UserDefinedType :=
  .union name (optionalDoc doc) (cases.map mapUnionCase)

def prefixTopicField (index : Nat) (raw : JsString) : FieldSpec where
  name :=
    if index = 0 then js "event_name"
    else js "prefix_topic_" ++ Digits.text (Digits.ofNat index)
  type := .primitive .symbol
  doc := some (js "Fixed prefix topic, always \"" ++ raw ++ js "\".")

def mapEventV0 (name doc : JsString) (prefixTopics : List JsString)
    (params : List ScSpecEventParam) : EventSpec where
  name
  doc := optionalDoc doc
  topics := prefixTopics.mapIdx prefixTopicField ++
    (params.filter fun param => param.location = .topicList).map (mapField ·.field)
  data := (params.filter fun param => param.location = .data).map (mapField ·.field)

structure MappedEntries where
  functions : List FunctionSpec
  events : List EventSpec
  types : List (JsString × JsValue)

namespace MappedEntries

/-- `types[udt.name] = udt` on an object literal. -/
def addType (mapped : MappedEntries) (udt : UserDefinedType) : MappedEntries :=
  { mapped with types := setMember mapped.types (udt.name, udt.toJs) }

def add (mapped : MappedEntries) : ScSpecEntry → MappedEntries
  | .functionV0 name doc inputs outputs =>
      { mapped with functions := mapped.functions ++ [mapFunctionV0 name doc inputs outputs] }
  | .eventV0 name doc prefixTopics params =>
      { mapped with events := mapped.events ++ [mapEventV0 name doc prefixTopics params] }
  | .udtStructV0 name doc fields => mapped.addType (mapUdtStructV0 name doc fields)
  | .udtEnumV0 name doc cases => mapped.addType (mapUdtEnumV0 name doc cases)
  | .udtErrorEnumV0 name doc cases => mapped.addType (mapUdtErrorEnumV0 name doc cases)
  | .udtUnionV0 name doc cases => mapped.addType (mapUdtUnionV0 name doc cases)

end MappedEntries

def mapSpecEntries (entries : List ScSpecEntry) : MappedEntries :=
  entries.foldl MappedEntries.add { functions := [], events := [], types := [] }

/-- The spec of a contract whose section has the entries. The texts of the entries are what
`toXDR("base64")` makes of them. -/
def discoverContractSpec (toXdr : ScSpecEntry → JsString) (contractId : Address)
    (network : Option JsString) (entries : List ScSpecEntry) : JsValue :=
  .object ([(js "version", jsText (js "0.0.0")), (js "name", jsText contractId.text),
    (js "contractId", jsText contractId.text)] ++ optionalMember (js "network") network ++
    [(js "functions", .array ((mapSpecEntries entries).functions.map FunctionSpec.toJs)),
      (js "events", .array ((mapSpecEntries entries).events.map EventSpec.toJs)),
      (js "types", .object (mapSpecEntries entries).types),
      (js "xdrEntries", .array (entries.map fun entry => jsText (toXdr entry)))])

end Orbital.AbiRegistry

/-! ## A discovered spec is a plain value

The objects of a discovered spec have fixed keys, apart from the table of its types, and
the numbers in it have 32 bits.
-/

namespace Orbital.AbiRegistry

open Foundation

/-! ## Leaves -/

theorem plain_jsText (text : JsString) : Plain (jsText text) :=
  .leaf ⟨rfl, fun _ same => nomatch same⟩

theorem jsNat_eq {number : Nat} (small : number < 2 ^ 32) :
    ∃ magnitude : Magnitude, magnitude.units = number * 2 ^ places ∧
      jsNat number = .leaf (.number (.finite false magnitude)) := by
  rcases exists_units (small.trans (by decide)) with ⟨magnitude, units⟩
  have exact := nearest_exact Nat.one_pos magnitude
  rw [Nat.mul_one, units] at exact
  exact ⟨magnitude, units, by rw [jsNat, exact]; rfl⟩

theorem plain_jsNat {number : Nat} (small : number < 2 ^ 32) : Plain (jsNat number) := by
  rcases jsNat_eq small with ⟨magnitude, _, equal⟩
  rw [equal]
  refine .leaf ⟨rfl, ?_⟩
  intro value same
  cases same
  rfl

/-! ## Objects with fixed keys -/

theorem Plain.record {members : List (JsString × JsValue)} (keys : List JsString)
    (named : members.map Prod.fst = keys) (nodup : keys.Nodup) (noProto : protoKey ∉ keys)
    (parts : ∀ member ∈ members, Plain member.2) : Plain (.object members) := by
  subst named
  refine .object nodup ?_ parts
  intro member inside proto
  exact noProto (List.mem_map.mpr ⟨member, inside, proto⟩)

theorem plain_optionalMember (key : JsString) (value : Option JsString) :
    ∀ member ∈ optionalMember key value, Plain member.2 := by
  intro member inside
  rw [optionalMember] at inside
  rcases List.mem_map.mp inside with ⟨text, -, rfl⟩
  exact plain_jsText text

theorem plain_arrayOf {Item : Type} (toJs : Item → JsValue) (items : List Item)
    (parts : ∀ item ∈ items, Plain (toJs item)) : Plain (.array (items.map toJs)) := by
  refine .array fun value inside => ?_
  rcases List.mem_map.mp inside with ⟨item, member, rfl⟩
  exact parts item member

/-! ## Types -/

inductive SmallSizes : TypeSpec → Prop
  | primitive (type : PrimitiveType) : SmallSizes (.primitive type)
  | bytesN {size : Nat} (small : size < 2 ^ 32) : SmallSizes (.bytesN size)
  | option {inner : TypeSpec} (part : SmallSizes inner) : SmallSizes (.option inner)
  | result {ok err : TypeSpec} (left : SmallSizes ok) (right : SmallSizes err) :
      SmallSizes (.result ok err)
  | vec {item : TypeSpec} (part : SmallSizes item) : SmallSizes (.vec item)
  | map {key value : TypeSpec} (left : SmallSizes key) (right : SmallSizes value) :
      SmallSizes (.map key value)
  | tuple {elements : List TypeSpec} (parts : ∀ element ∈ elements, SmallSizes element) :
      SmallSizes (.tuple elements)
  | named (name : JsString) : SmallSizes (.named name)

theorem TypeSpec.toJsAll_eq (types : List TypeSpec) : toJsAll types = types.map toJs := by
  induction types with
  | nil => rfl
  | cons type rest induction => rw [toJsAll, induction, List.map_cons]

theorem plain_type {type : TypeSpec} (small : SmallSizes type) : Plain type.toJs := by
  induction small with
  | primitive type => exact plain_jsText _
  | bytesN small =>
      rw [TypeSpec.toJs]
      refine .record [js "type", js "size"] rfl (by decide) (by decide) ?_
      exact List.forall_mem_cons.mpr ⟨plain_jsText _, List.forall_mem_singleton.mpr
        (plain_jsNat small)⟩
  | option part induction =>
      rw [TypeSpec.toJs]
      refine .record [js "type", js "inner"] rfl (by decide) (by decide) ?_
      exact List.forall_mem_cons.mpr ⟨plain_jsText _, List.forall_mem_singleton.mpr induction⟩
  | result left right onLeft onRight =>
      rw [TypeSpec.toJs]
      refine .record [js "type", js "ok", js "err"] rfl (by decide) (by decide) ?_
      exact List.forall_mem_cons.mpr ⟨plain_jsText _, List.forall_mem_cons.mpr
        ⟨onLeft, List.forall_mem_singleton.mpr onRight⟩⟩
  | vec part induction =>
      rw [TypeSpec.toJs]
      refine .record [js "type", js "item"] rfl (by decide) (by decide) ?_
      exact List.forall_mem_cons.mpr ⟨plain_jsText _, List.forall_mem_singleton.mpr induction⟩
  | map left right onLeft onRight =>
      rw [TypeSpec.toJs]
      refine .record [js "type", js "key", js "value"] rfl (by decide) (by decide) ?_
      exact List.forall_mem_cons.mpr ⟨plain_jsText _, List.forall_mem_cons.mpr
        ⟨onLeft, List.forall_mem_singleton.mpr onRight⟩⟩
  | tuple parts induction =>
      rw [TypeSpec.toJs, TypeSpec.toJsAll_eq]
      refine .record [js "type", js "elements"] rfl (by decide) (by decide) ?_
      exact List.forall_mem_cons.mpr ⟨plain_jsText _, List.forall_mem_singleton.mpr
        (plain_arrayOf TypeSpec.toJs _ induction)⟩
  | named name =>
      rw [TypeSpec.toJs]
      refine .record [js "type", js "name"] rfl (by decide) (by decide) ?_
      exact List.forall_mem_cons.mpr ⟨plain_jsText _, List.forall_mem_singleton.mpr
        (plain_jsText name)⟩

mutual
theorem smallSizes_mapTypeDef : (type : ScSpecTypeDef) → SmallSizes (mapTypeDef type)
  | .val | .bool | .void | .error | .u32 | .i32 | .u64 | .i64 | .timepoint | .duration | .u128
  | .i128 | .u256 | .i256 | .bytes | .string | .symbol | .address | .muxedAddress => .primitive _
  | .option valueType => .option (smallSizes_mapTypeDef valueType)
  | .result okType errorType =>
      .result (smallSizes_mapTypeDef okType) (smallSizes_mapTypeDef errorType)
  | .vec elementType => .vec (smallSizes_mapTypeDef elementType)
  | .map keyType valueType =>
      .map (smallSizes_mapTypeDef keyType) (smallSizes_mapTypeDef valueType)
  | .tuple [] => .primitive _
  | .tuple (first :: rest) =>
      .tuple (List.forall_mem_cons.mpr ⟨smallSizes_mapTypeDef first, smallSizes_mapTypeDefs rest⟩)
  | .bytesN n => .bytesN n.toNat_lt
  | .udt name => .named name

theorem smallSizes_mapTypeDefs :
    (types : List ScSpecTypeDef) → ∀ type ∈ mapTypeDefs types, SmallSizes type
  | [] => fun _ inside => nomatch inside
  | first :: rest =>
      List.forall_mem_cons.mpr ⟨smallSizes_mapTypeDef first, smallSizes_mapTypeDefs rest⟩
end

/-! ## Declarations -/

theorem Plain.recordWith {front back : List (JsString × JsValue)} {key : JsString}
    {value : Option JsString} (keys keys' : List JsString) (front' : front.map Prod.fst = keys)
    (back' : back.map Prod.fst = keys') (nodup : (keys ++ [key] ++ keys').Nodup)
    (noProto : protoKey ∉ keys ++ [key] ++ keys') (parts : ∀ member ∈ front, Plain member.2)
    (parts' : ∀ member ∈ back, Plain member.2) :
    Plain (.object (front ++ optionalMember key value ++ back)) := by
  have within : ((front ++ optionalMember key value ++ back).map Prod.fst).Sublist
      (keys ++ [key] ++ keys') := by
    rw [List.map_append, List.map_append, front', back']
    apply List.Sublist.append _ (List.Sublist.refl _)
    apply List.Sublist.append (List.Sublist.refl _)
    cases value with
    | none => exact List.nil_sublist _
    | some text => exact List.Sublist.refl _
  refine .record _ rfl (within.nodup nodup) (fun inside => noProto (within.subset inside)) ?_
  rw [List.forall_mem_append, List.forall_mem_append]
  exact ⟨⟨parts, plain_optionalMember key value⟩, parts'⟩

theorem plain_field {field : FieldSpec} (small : SmallSizes field.type) : Plain field.toJs := by
  rw [FieldSpec.toJs, ← List.append_nil (_ ++ _)]
  refine .recordWith [js "name", js "type"] [] rfl rfl (by decide) (by decide) ?_
    (List.forall_mem_nil _)
  exact List.forall_mem_cons.mpr ⟨plain_jsText _, List.forall_mem_singleton.mpr
    (plain_type small)⟩

theorem plain_fields {fields : List FieldSpec}
    (small : ∀ field ∈ fields, SmallSizes field.type) :
    Plain (.array (fields.map FieldSpec.toJs)) :=
  plain_arrayOf FieldSpec.toJs fields fun field inside => plain_field (small field inside)

theorem plain_function {function : FunctionSpec}
    (params : ∀ field ∈ function.params, SmallSizes field.type)
    (returns : SmallSizes function.returns) : Plain function.toJs := by
  rw [FunctionSpec.toJs]
  refine .recordWith [js "name"] [js "params", js "returns"] rfl rfl (by decide) (by decide)
    (List.forall_mem_singleton.mpr (plain_jsText _)) ?_
  exact List.forall_mem_cons.mpr ⟨plain_fields params, List.forall_mem_singleton.mpr
    (plain_type returns)⟩

theorem plain_event {event : EventSpec}
    (topics : ∀ field ∈ event.topics, SmallSizes field.type)
    (data : ∀ field ∈ event.data, SmallSizes field.type) : Plain event.toJs := by
  rw [EventSpec.toJs]
  refine .recordWith [js "name"] [js "topics", js "data"] rfl rfl (by decide) (by decide)
    (List.forall_mem_singleton.mpr (plain_jsText _)) ?_
  exact List.forall_mem_cons.mpr ⟨plain_fields topics, List.forall_mem_singleton.mpr
    (plain_fields data)⟩

theorem plain_variant {variant : EnumVariantSpec} (small : variant.discriminant < 2 ^ 32) :
    Plain (UserDefinedType.variantToJs variant) := by
  rw [UserDefinedType.variantToJs]
  exact .recordWith [js "name"] [js "discriminant"] rfl rfl (by decide) (by decide)
    (List.forall_mem_singleton.mpr (plain_jsText _))
    (List.forall_mem_singleton.mpr (plain_jsNat small))

theorem plain_case {unionCase : UnionCaseSpec}
    (fields : ∀ field ∈ unionCase.fields, SmallSizes field.type) :
    Plain (UserDefinedType.caseToJs unionCase) := by
  rw [UserDefinedType.caseToJs]
  exact .recordWith [js "name"] [js "fields"] rfl rfl (by decide) (by decide)
    (List.forall_mem_singleton.mpr (plain_jsText _))
    (List.forall_mem_singleton.mpr (plain_fields fields))

theorem plain_declared {kind name : JsString} {doc : Doc} {key : JsString} {parts : JsValue}
    (fixed : key ∈ [js "fields", js "variants", js "cases"]) (plain : Plain parts) :
    Plain (.object ([(js "kind", jsText kind), (js "name", jsText name)] ++
      optionalMember (js "doc") doc ++ [(key, parts)])) := by
  have front : ∀ member ∈ [(js "kind", jsText kind), (js "name", jsText name)],
      Plain member.2 :=
    List.forall_mem_cons.mpr ⟨plain_jsText _, List.forall_mem_singleton.mpr (plain_jsText _)⟩
  have back : ∀ member ∈ [(key, parts)], Plain member.2 := List.forall_mem_singleton.mpr plain
  refine .recordWith [js "kind", js "name"] [key] rfl rfl ?_ ?_ front back
  · simp only [List.mem_cons, List.not_mem_nil, or_false] at fixed
    rcases fixed with rfl | rfl | rfl <;> decide
  · simp only [List.mem_cons, List.not_mem_nil, or_false] at fixed
    rcases fixed with rfl | rfl | rfl <;> decide

/-! ## Entries -/

theorem small_mapField (fields : List ScSpecField) :
    ∀ field ∈ fields.map mapField, SmallSizes field.type := by
  intro field inside
  rcases List.mem_map.mp inside with ⟨source, -, rfl⟩
  exact smallSizes_mapTypeDef source.type

variable (name doc : JsString)

theorem plain_mapFunctionV0 (inputs : List ScSpecField) (outputs : List ScSpecTypeDef) :
    Plain (mapFunctionV0 name doc inputs outputs).toJs := by
  refine plain_function (small_mapField inputs) ?_
  rcases outputs with _ | ⟨first, _ | ⟨second, rest⟩⟩
  · exact .primitive _
  · exact smallSizes_mapTypeDef first
  · exact .tuple (smallSizes_mapTypeDefs (first :: second :: rest))

theorem plain_mapEventV0 (prefixTopics : List JsString) (params : List ScSpecEventParam) :
    Plain (mapEventV0 name doc prefixTopics params).toJs := by
  apply plain_event
  · rw [mapEventV0, List.forall_mem_append]
    constructor
    · intro field inside
      rcases List.mem_mapIdx.mp inside with ⟨index, within, rfl⟩
      exact .primitive _
    · intro field inside
      rcases List.mem_map.mp inside with ⟨param, -, rfl⟩
      exact smallSizes_mapTypeDef _
  · intro field inside
    rcases List.mem_map.mp inside with ⟨param, -, rfl⟩
    exact smallSizes_mapTypeDef _

theorem plain_mapUdtStructV0 (fields : List ScSpecField) :
    Plain (mapUdtStructV0 name doc fields).toJs :=
  plain_declared (by decide) (plain_fields (small_mapField fields))

theorem plain_mapUdtEnumV0 (cases : List ScSpecUdtEnumCase) :
    Plain (mapUdtEnumV0 name doc cases).toJs := by
  refine plain_declared (by decide) (plain_arrayOf _ _ ?_)
  intro variant inside
  rcases List.mem_map.mp inside with ⟨source, -, rfl⟩
  exact plain_variant source.value.toNat_lt

theorem plain_mapUdtUnionV0 (cases : List ScSpecUdtUnionCase) :
    Plain (mapUdtUnionV0 name doc cases).toJs := by
  refine plain_declared (by decide) (plain_arrayOf _ _ ?_)
  intro unionCase inside
  rcases List.mem_map.mp inside with ⟨source, -, rfl⟩
  apply plain_case
  cases source with
  | void name doc => exact List.forall_mem_nil _
  | tuple name doc type =>
      intro field member
      rcases List.mem_mapIdx.mp member with ⟨index, within, rfl⟩
      exact smallSizes_mapTypeDef _

/-! ## The spec -/

structure MappedEntries.IsPlain (mapped : MappedEntries) : Prop where
  functions : ∀ function ∈ mapped.functions, Plain function.toJs
  events : ∀ event ∈ mapped.events, Plain event.toJs
  types : Plain (.object mapped.types)

theorem plain_setMember {members : List (JsString × JsValue)} {member : JsString × JsValue}
    (plain : Plain (.object members)) (value : Plain member.2) :
    Plain (.object (setMember members member)) := by
  cases plain with
  | object nodup noProto parts =>
      rw [setMember]
      split
      · exact .object nodup noProto parts
      · rename_i named
        refine .object (Property.nodup_assign _ _ nodup) ?_ ?_
        · intro entry inside
          rcases Property.mem_assign.mp inside with ⟨same, -⟩ | ⟨-, inside⟩
          · rw [same]
            exact named
          · exact noProto entry inside
        · intro entry inside
          rcases Property.mem_assign.mp inside with ⟨-, same⟩ | ⟨-, inside⟩
          · rw [same]
            exact value
          · exact parts entry inside

theorem MappedEntries.IsPlain.addType {mapped : MappedEntries} (plain : mapped.IsPlain)
    {udt : UserDefinedType} (value : Plain udt.toJs) : (mapped.addType udt).IsPlain where
  functions := plain.functions
  events := plain.events
  types := plain_setMember plain.types value

theorem MappedEntries.IsPlain.add {mapped : MappedEntries} (plain : mapped.IsPlain)
    (entry : ScSpecEntry) : (mapped.add entry).IsPlain := by
  cases entry with
  | functionV0 name doc inputs outputs =>
      refine ⟨?_, plain.events, plain.types⟩
      rw [MappedEntries.add, List.forall_mem_append]
      exact ⟨plain.functions, List.forall_mem_singleton.mpr
        (plain_mapFunctionV0 name doc inputs outputs)⟩
  | eventV0 name doc prefixTopics params =>
      refine ⟨plain.functions, ?_, plain.types⟩
      rw [MappedEntries.add, List.forall_mem_append]
      exact ⟨plain.events, List.forall_mem_singleton.mpr
        (plain_mapEventV0 name doc prefixTopics params)⟩
  | udtStructV0 name doc fields => exact plain.addType (plain_mapUdtStructV0 name doc fields)
  | udtUnionV0 name doc cases => exact plain.addType (plain_mapUdtUnionV0 name doc cases)
  | udtEnumV0 name doc cases => exact plain.addType (plain_mapUdtEnumV0 name doc cases)
  | udtErrorEnumV0 name doc cases => exact plain.addType (plain_mapUdtEnumV0 name doc cases)

theorem isPlain_mapSpecEntries (entries : List ScSpecEntry) : (mapSpecEntries entries).IsPlain := by
  have run : ∀ mapped : MappedEntries, mapped.IsPlain →
      (entries.foldl MappedEntries.add mapped).IsPlain := by
    induction entries with
    | nil => exact fun mapped plain => plain
    | cons entry rest induction => exact fun mapped plain => induction _ (plain.add entry)
  apply run
  refine ⟨List.forall_mem_nil _, List.forall_mem_nil _, ?_⟩
  exact .object List.nodup_nil (List.forall_mem_nil _) (List.forall_mem_nil _)

theorem plain_discoverContractSpec (toXdr : ScSpecEntry → JsString) (contractId : Address)
    (network : Option JsString) (entries : List ScSpecEntry) :
    Plain (discoverContractSpec toXdr contractId network entries) := by
  have mapped := isPlain_mapSpecEntries entries
  rw [discoverContractSpec]
  refine .recordWith [js "version", js "name", js "contractId"]
    [js "functions", js "events", js "types", js "xdrEntries"] rfl rfl (by decide) (by decide)
    ?_ ?_
  · exact List.forall_mem_cons.mpr ⟨plain_jsText _, List.forall_mem_cons.mpr
      ⟨plain_jsText _, List.forall_mem_singleton.mpr (plain_jsText _)⟩⟩
  · exact List.forall_mem_cons.mpr ⟨plain_arrayOf _ _ mapped.functions,
      List.forall_mem_cons.mpr ⟨plain_arrayOf _ _ mapped.events,
        List.forall_mem_cons.mpr ⟨mapped.types, List.forall_mem_singleton.mpr
          (plain_arrayOf _ _ fun entry _ => plain_jsText _)⟩⟩⟩

end Orbital.AbiRegistry
