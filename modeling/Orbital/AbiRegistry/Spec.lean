import Orbital.Foundation.JsValue

/-! # The types of `spec.ts`

A contract spec as its type declares it, and the object of the source language that it is.
-/

namespace Orbital.AbiRegistry

open Foundation

inductive PrimitiveType
  | bool
  | u32
  | i32
  | u64
  | i64
  | u128
  | i128
  | u256
  | i256
  | bytes
  | string
  | symbol
  | address
  | void
  | error
  | val
  deriving DecidableEq

inductive TypeSpec
  | primitive (type : PrimitiveType)
  | bytesN (size : Nat)
  | option (inner : TypeSpec)
  | result (ok err : TypeSpec)
  | vec (item : TypeSpec)
  | map (key value : TypeSpec)
  | tuple (elements : List TypeSpec)
  | named (name : JsString)

abbrev Doc :=
  Option JsString

structure FieldSpec where
  name : JsString
  type : TypeSpec
  doc : Doc

structure FunctionSpec where
  name : JsString
  doc : Doc
  params : List FieldSpec
  returns : TypeSpec

structure EventSpec where
  name : JsString
  doc : Doc
  topics : List FieldSpec
  data : List FieldSpec

structure EnumVariantSpec where
  name : JsString
  doc : Doc
  discriminant : Nat

structure UnionCaseSpec where
  name : JsString
  doc : Doc
  fields : List FieldSpec

inductive UserDefinedType
  | struct (name : JsString) (doc : Doc) (fields : List FieldSpec)
  | enum (name : JsString) (doc : Doc) (variants : List EnumVariantSpec)
  | union (name : JsString) (doc : Doc) (cases : List UnionCaseSpec)

def UserDefinedType.name : UserDefinedType → JsString
  | struct name _ _ => name
  | enum name _ _ => name
  | union name _ _ => name

structure ContractSpec where
  name : JsString
  contractId : Option JsString
  network : Option JsString
  functions : List FunctionSpec
  events : List EventSpec
  types : List (JsString × UserDefinedType)

/-! ## As objects -/

def jsText (text : JsString) : JsValue :=
  .leaf (.string text)

/-- A whole number; it is exact below `2 ^ 53`. -/
def jsNat (number : Nat) : JsValue :=
  .leaf (.number (.ofRounded false (nearest (number * 2 ^ places) 1)))

def optionalMember (key : JsString) (value : Option JsString) : List (JsString × JsValue) :=
  value.toList.map fun text => (key, jsText text)

namespace PrimitiveType

def text : PrimitiveType → JsString
  | bool => js "bool"
  | u32 => js "u32"
  | i32 => js "i32"
  | u64 => js "u64"
  | i64 => js "i64"
  | u128 => js "u128"
  | i128 => js "i128"
  | u256 => js "u256"
  | i256 => js "i256"
  | bytes => js "bytes"
  | string => js "string"
  | symbol => js "symbol"
  | address => js "address"
  | void => js "void"
  | error => js "error"
  | val => js "val"

end PrimitiveType

mutual
def TypeSpec.toJs : TypeSpec → JsValue
  | .primitive type => jsText type.text
  | .bytesN size => .object [(js "type", jsText (js "bytes_n")), (js "size", jsNat size)]
  | .option inner => .object [(js "type", jsText (js "option")), (js "inner", inner.toJs)]
  | .result ok err =>
      .object [(js "type", jsText (js "result")), (js "ok", ok.toJs), (js "err", err.toJs)]
  | .vec item => .object [(js "type", jsText (js "vec")), (js "item", item.toJs)]
  | .map key value =>
      .object [(js "type", jsText (js "map")), (js "key", key.toJs), (js "value", value.toJs)]
  | .tuple elements =>
      .object [(js "type", jsText (js "tuple")), (js "elements", .array (TypeSpec.toJsAll elements))]
  | .named name => .object [(js "type", jsText (js "named")), (js "name", jsText name)]

def TypeSpec.toJsAll : List TypeSpec → List JsValue
  | [] => []
  | type :: rest => type.toJs :: TypeSpec.toJsAll rest
end

namespace FieldSpec

def toJs (field : FieldSpec) : JsValue :=
  .object ([(js "name", jsText field.name), (js "type", field.type.toJs)] ++
    optionalMember (js "doc") field.doc)

end FieldSpec

namespace FunctionSpec

def toJs (function : FunctionSpec) : JsValue :=
  .object ([(js "name", jsText function.name)] ++ optionalMember (js "doc") function.doc ++
    [(js "params", .array (function.params.map FieldSpec.toJs)),
      (js "returns", function.returns.toJs)])

end FunctionSpec

namespace EventSpec

def toJs (event : EventSpec) : JsValue :=
  .object ([(js "name", jsText event.name)] ++ optionalMember (js "doc") event.doc ++
    [(js "topics", .array (event.topics.map FieldSpec.toJs)),
      (js "data", .array (event.data.map FieldSpec.toJs))])

end EventSpec

namespace UserDefinedType

def variantToJs (variant : EnumVariantSpec) : JsValue :=
  .object ([(js "name", jsText variant.name)] ++ optionalMember (js "doc") variant.doc ++
    [(js "discriminant", jsNat variant.discriminant)])

def caseToJs (unionCase : UnionCaseSpec) : JsValue :=
  .object ([(js "name", jsText unionCase.name)] ++ optionalMember (js "doc") unionCase.doc ++
    [(js "fields", .array (unionCase.fields.map FieldSpec.toJs))])

def toJs : UserDefinedType → JsValue
  | struct name doc fields =>
      .object ([(js "kind", jsText (js "struct")), (js "name", jsText name)] ++
        optionalMember (js "doc") doc ++ [(js "fields", .array (fields.map FieldSpec.toJs))])
  | enum name doc variants =>
      .object ([(js "kind", jsText (js "enum")), (js "name", jsText name)] ++
        optionalMember (js "doc") doc ++ [(js "variants", .array (variants.map variantToJs))])
  | union name doc cases =>
      .object ([(js "kind", jsText (js "union")), (js "name", jsText name)] ++
        optionalMember (js "doc") doc ++ [(js "cases", .array (cases.map caseToJs))])

end UserDefinedType

namespace ContractSpec

def toJs (version : JsString) (spec : ContractSpec) : JsValue :=
  .object ([(js "version", jsText version), (js "name", jsText spec.name)] ++
    optionalMember (js "contractId") spec.contractId ++
    optionalMember (js "network") spec.network ++
    [(js "functions", .array (spec.functions.map FunctionSpec.toJs)),
      (js "events", .array (spec.events.map EventSpec.toJs)),
      (js "types", .object (spec.types.map fun entry => (entry.1, entry.2.toJs)))])

end ContractSpec

end Orbital.AbiRegistry

/-! ## `validateSpec` and `canonicalizeSpec` of `spec.ts`

A spec is looked at as a value of JSON. The validator collects a text for every problem;
the canonical text is `JSON.stringify` of a copy whose keys were assigned in sorted order.
-/

namespace Orbital.AbiRegistry

open Foundation

/-! ## Validation -/

def primitiveTypes : List JsString :=
  [js "bool", js "u32", js "i32", js "u64", js "i64", js "u128", js "i128", js "u256",
    js "i256", js "bytes", js "string", js "symbol", js "address", js "void", js "error",
    js "val"]

def compositeTypeTags : List JsString :=
  [js "bytes_n", js "option", js "result", js "vec", js "map", js "tuple", js "named"]

def isUpper (unit : CodeUnit) : Bool :=
  0x41 ≤ unit.toNat && unit.toNat ≤ 0x5A

def isLower (unit : CodeUnit) : Bool :=
  0x61 ≤ unit.toNat && unit.toNat ≤ 0x7A

/-- `/^\d+\.\d+\.\d+$/` -/
def isSemver (text : JsString) : Bool :=
  let major := Digits.read text
  let minor := Digits.read (major.2.drop 1)
  let patch := Digits.read (minor.2.drop 1)
  major.1 ≠ [] && major.2.head? == some 0x2E && minor.1 ≠ [] && minor.2.head? == some 0x2E &&
    patch.1 ≠ [] && patch.2 == []

/-- `/^C[A-Z2-7]{55}$/` -/
def isContractId (text : JsString) : Bool :=
  text.head? == some 0x43 && text.length == 56 &&
    (text.drop 1).all fun unit => isUpper unit || (0x32 ≤ unit.toNat && unit.toNat ≤ 0x37)

/-- `/^[a-zA-Z_][a-zA-Z0-9_]*$/` -/
def isIdentifier (text : JsString) : Bool :=
  match text with
  | [] => false
  | first :: rest =>
      (isUpper first || isLower first || first == 0x5F) &&
        rest.all fun unit =>
          isUpper unit || isLower unit || unit == 0x5F || (Digits.digit? unit).isSome

/-- `value[key]` of an object. None of the keys read is inherited. -/
def get (members : List (JsString × JsValue)) (key : JsString) : JsValue :=
  (members.lookup key).getD (.leaf .undefined)

def isUndefined : JsValue → Bool
  | .leaf .undefined => true
  | _ => false

def text? : JsValue → Option JsString
  | .leaf (.string text) => some text
  | _ => none

def array? : JsValue → Option (List JsValue)
  | .array items => some items
  | _ => none

/-- `Number.isInteger(size) && size >= 1` -/
def isPositiveInteger : JsValue → Bool
  | .leaf (.number (.finite false magnitude)) =>
      magnitude.units % 2 ^ places == 0 && 2 ^ places ≤ magnitude.units
  | _ => false

/-- Errors of the items of an array, under `path[0]`, `path[1]`, … -/
def indexed (check : JsValue → JsString → List JsString) (path : JsString) :
    Nat → List JsValue → List JsString
  | _, [] => []
  | index, item :: rest =>
      check item (path ++ js "[" ++ Digits.text (Digits.ofNat index) ++ js "]") ++
        indexed check path (index + 1) rest

def validateTypeSpec : Nat → JsValue → JsString → List JsString
  | 0, _, _ => []
  | fuel + 1, value, path =>
      match value with
      | .leaf (.string name) =>
          if name ∈ primitiveTypes then []
          else [path ++ js ": unknown primitive type \"" ++ name ++ js "\""]
      | .object members =>
          match text? (get members (js "type")) with
          | some tag =>
              if tag = js "bytes_n" then
                if isPositiveInteger (get members (js "size")) then []
                else [path ++ js ".size: must be a positive integer"]
              else if tag = js "option" then
                validateTypeSpec fuel (get members (js "inner")) (path ++ js ".inner")
              else if tag = js "result" then
                validateTypeSpec fuel (get members (js "ok")) (path ++ js ".ok") ++
                  validateTypeSpec fuel (get members (js "err")) (path ++ js ".err")
              else if tag = js "vec" then
                validateTypeSpec fuel (get members (js "item")) (path ++ js ".item")
              else if tag = js "map" then
                validateTypeSpec fuel (get members (js "key")) (path ++ js ".key") ++
                  validateTypeSpec fuel (get members (js "value")) (path ++ js ".value")
              else if tag = js "tuple" then
                match array? (get members (js "elements")) with
                | some elements =>
                    if elements.length < 2 then
                      [path ++ js ".elements: tuple requires at least 2 elements"]
                    else indexed (validateTypeSpec fuel) (path ++ js ".elements") 0 elements
                | none => [path ++ js ".elements: tuple requires at least 2 elements"]
              else if tag = js "named" then
                if (text? (get members (js "name"))).any (· ≠ []) then []
                else [path ++ js ".name: must be a non-empty string"]
              else [tagError path (get members (js "type"))]
          | none => [tagError path (get members (js "type"))]
      | _ => [path ++ js ": TypeSpec must be a string or object"]
where
  /-- `COMPOSITE_TYPE_TAGS` does not have the tag. -/
  tagError (path : JsString) (tag : JsValue) : JsString :=
    path ++ js ".type: expected one of " ++
      List.intercalate (js ", ") compositeTypeTags ++ js ", got " ++
        (JsValue.stringify tag).getD (js "undefined")

def validateType (value : JsValue) (path : JsString) : List JsString :=
  validateTypeSpec (value.depth + 1) value path

def identifierErrors (members : List (JsString × JsValue)) (path : JsString) : List JsString :=
  if (text? (get members (js "name"))).any isIdentifier then []
  else [path ++ js ".name: must be a valid identifier"]

def validateFieldSpec (field : JsValue) (path : JsString) : List JsString :=
  match field with
  | .object members =>
      identifierErrors members path ++ validateType (get members (js "type")) (path ++ js ".type")
  | _ => [path ++ js ": must be an object"]

def arrayErrors (check : JsValue → JsString → List JsString)
    (members : List (JsString × JsValue)) (key : JsString) (path : JsString) : List JsString :=
  match array? (get members key) with
  | some items => indexed check path 0 items
  | none => [path ++ js ": must be an array"]

def validateFunctionSpec (function : JsValue) (path : JsString) : List JsString :=
  match function with
  | .object members =>
      identifierErrors members path ++
        (arrayErrors validateFieldSpec members (js "params") (path ++ js ".params") ++
          validateType (get members (js "returns")) (path ++ js ".returns"))
  | _ => [path ++ js ": must be an object"]

def validateEventSpec (event : JsValue) (path : JsString) : List JsString :=
  match event with
  | .object members =>
      (if (text? (get members (js "name"))).any (· ≠ []) then []
        else [path ++ js ".name: must be a non-empty string"]) ++
        (arrayErrors validateFieldSpec members (js "topics") (path ++ js ".topics") ++
          arrayErrors validateFieldSpec members (js "data") (path ++ js ".data"))
  | _ => [path ++ js ": must be an object"]

def optionalErrors (check : JsValue → Bool) (members : List (JsString × JsValue))
    (key error : JsString) : List JsString :=
  if isUndefined (get members key) || check (get members key) then [] else [error]

def validateSpec (spec : JsValue) : List JsString :=
  match spec with
  | .object members =>
      (if (text? (get members (js "version"))).any isSemver then []
        else [js "version: must be a semver string (e.g. \"1.0.0\")"]) ++
      ((if (text? (get members (js "name"))).any fun name => name ≠ [] && name.length ≤ 100
        then [] else [js "name: must be a non-empty string of at most 100 characters"]) ++
      (optionalErrors (fun value => (text? value).isSome) members (js "description")
        (js "description: must be a string") ++
      (optionalErrors (fun value => (text? value).any isContractId) members (js "contractId")
        (js "contractId: must be a C-prefixed 56-character Stellar strkey") ++
      (optionalErrors
        (fun value =>
          (text? value).any [js "mainnet", js "testnet", js "futurenet"].contains)
        members (js "network") (js "network: must be \"mainnet\", \"testnet\", or \"futurenet\"") ++
      (arrayErrors validateFunctionSpec members (js "functions") (js "functions") ++
      (arrayErrors validateEventSpec members (js "events") (js "events") ++
      ((match get members (js "types") with
        | .object _ => []
        | _ => [js "types: must be an object"]) ++
      (optionalErrors
        (fun value => (array? value).any fun entries => entries.all fun entry =>
          (text? entry).isSome)
        members (js "xdrEntries") (js "xdrEntries: must be an array of strings") ++
      optionalErrors (fun value => (text? value).any (· ≠ [])) members (js "pointer")
        (js "pointer: must be a non-empty string")))))))))
  | _ => [js "root: ContractSpec must be an object"]

/-! ## The canonical text -/

def protoKey : JsString :=
  js "__proto__"

/-- `sorted[key] = value` on an object literal: the key `__proto__` sets its prototype and
adds no member. -/
def setMember (sorted : List (JsString × JsValue)) (member : JsString × JsValue) :
    List (JsString × JsValue) :=
  if member.1 = protoKey then sorted else Property.assign member.1 member.2 sorted

mutual
def sortKeysDeep : JsValue → JsValue
  | .leaf primitive => .leaf primitive
  | .array items => .array (sortItems items)
  | .object members => .object ((Property.inKeyOrder (sortMembers members)).foldl setMember [])

def sortItems : List JsValue → List JsValue
  | [] => []
  | item :: rest => sortKeysDeep item :: sortItems rest

def sortMembers : List (JsString × JsValue) → List (JsString × JsValue)
  | [] => []
  | (key, value) :: rest => (key, sortKeysDeep value) :: sortMembers rest
end

def canonicalizeSpec (spec : JsValue) : Option JsString :=
  JsValue.stringify (sortKeysDeep spec)

end Orbital.AbiRegistry
