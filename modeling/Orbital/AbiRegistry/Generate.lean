import Orbital.AbiRegistry.Spec
import Orbital.Foundation.Scope
import Orbital.Foundation.StringLiteral

/-! # `generateContractTypes` of `generate.ts`

The module that is generated for a contract spec, as a list of statements. A statement is a
list of lines, and a line a list of pieces: the code of the template, and the names that the
template puts between quotes. Braces of the template are written by their numbers.
-/

namespace Orbital.AbiRegistry

open Foundation

/-! ## Names -/

def isDigit (unit : CodeUnit) : Bool :=
  (Digits.digit? unit).isSome

def isAlphanumeric (unit : CodeUnit) : Bool :=
  isUpper unit || isLower unit || isDigit unit

def toUpperCase (unit : CodeUnit) : CodeUnit :=
  if isLower unit then UInt16.ofNat (unit.toNat - 0x20) else unit

def toLowerCase (unit : CodeUnit) : CodeUnit :=
  if isUpper unit then UInt16.ofNat (unit.toNat + 0x20) else unit

def capitalize : Bool → JsString → JsString
  | _, [] => []
  | start, unit :: rest =>
      if isAlphanumeric unit then
        (if start then toUpperCase unit else unit) :: capitalize false rest
      else capitalize true rest

/-- What the four replacements leave of a name. The digits in front are dropped last, so what
follows them keeps its case. -/
def toPascalCase (value : JsString) : JsString :=
  (capitalize true value).dropWhile isDigit

/-- A name of which nothing is left is kept as it is. -/
def toCamelCase (value : JsString) : JsString :=
  match toPascalCase value with
  | [] => value
  | first :: rest => toLowerCase first :: rest

def suffixed (base : JsString) (suffix : Nat) : JsString :=
  base ++ Digits.text (Digits.ofNat suffix)

/-- The name, and the names that are used with it. Suffixes are tried from two on, and one
more of them than there are used names. -/
def ensureUniqueName (base : JsString) (used : List JsString) : JsString × List JsString :=
  if base ∈ used then
    let unique := suffixed base (Scope.firstFree (suffixed base) used (used.length + 1) 2)
    (unique, unique :: used)
  else (base, base :: used)

theorem isAlphanumeric_toUpperCase {unit : CodeUnit} (known : isAlphanumeric unit) :
    isAlphanumeric (toUpperCase unit) := by
  rw [toUpperCase]
  split
  · rename_i lower
    simp only [isLower, Bool.and_eq_true, decide_eq_true_eq] at lower
    have upper : isUpper (UInt16.ofNat (unit.toNat - 0x20)) := by
      simp only [isUpper, UInt16.toNat_ofNat', Bool.and_eq_true, decide_eq_true_eq]
      omega
    rw [isAlphanumeric, upper]
    rfl
  · exact known

theorem isAlphanumeric_toLowerCase {unit : CodeUnit} (known : isAlphanumeric unit) :
    isAlphanumeric (toLowerCase unit) := by
  rw [toLowerCase]
  split
  · rename_i upper
    simp only [isUpper, Bool.and_eq_true, decide_eq_true_eq] at upper
    have lower : isLower (UInt16.ofNat (unit.toNat + 0x20)) := by
      simp only [isLower, UInt16.toNat_ofNat', Bool.and_eq_true, decide_eq_true_eq]
      omega
    rw [isAlphanumeric, lower, Bool.or_true]
    rfl
  · exact known

theorem isAlphanumeric_capitalize {start : Bool} {value : JsString} :
    ∀ unit ∈ capitalize start value, isAlphanumeric unit := by
  induction value generalizing start with
  | nil => exact fun _ inside => absurd inside List.not_mem_nil
  | cons first rest induction =>
      rw [capitalize]
      split
      · rename_i known
        refine List.forall_mem_cons.mpr ⟨?_, induction⟩
        split
        · exact isAlphanumeric_toUpperCase known
        · exact known
      · exact induction

theorem isAlphanumeric_toPascalCase {value : JsString} :
    ∀ unit ∈ toPascalCase value, isAlphanumeric unit := by
  intro unit inside
  exact isAlphanumeric_capitalize unit ((List.dropWhile_sublist _).subset inside)

theorem isDigit_text {digits : List Digit} : ∀ unit ∈ Digits.text digits, isDigit unit := by
  intro unit inside
  rcases List.mem_map.mp inside with ⟨digit, -, rfl⟩
  rw [isDigit, Digits.digit?_unit]
  rfl

theorem isAlphanumeric_ensureUniqueName {base : JsString} {used : List JsString}
    (known : ∀ unit ∈ base, isAlphanumeric unit) :
    ∀ unit ∈ (ensureUniqueName base used).1, isAlphanumeric unit := by
  rw [ensureUniqueName]
  split
  · rw [suffixed]
    refine List.forall_mem_append.mpr ⟨known, ?_⟩
    intro unit inside
    rw [isAlphanumeric, isDigit_text unit inside, Bool.or_true]
  · exact known

/-! ## Types -/

/-- What the generated module keeps of a type. Of a result it keeps the type of success. -/
inductive Shape
  | boolean
  | number
  | void
  | string
  | unknown
  | nullable (inner : Shape)
  | array (item : Shape)
  | entries (key value : Shape)
  | tuple (elements : List Shape)
  | named (name : JsString)

namespace PrimitiveType

def shape : PrimitiveType → Shape
  | bool => .boolean
  | u32 | i32 => .number
  | void => .void
  | u64 | i64 | u128 | i128 | u256 | i256 | bytes | string | symbol | address => .string
  | error | val => .unknown

end PrimitiveType

mutual
def TypeSpec.shape : TypeSpec → Shape
  | .primitive type => type.shape
  | .bytesN _ => .string
  | .option inner => .nullable inner.shape
  | .result ok _ => ok.shape
  | .vec item => .array item.shape
  | .map key value => .entries key.shape value.shape
  | .tuple elements => .tuple (TypeSpec.shapes elements)
  | .named name => .named (toPascalCase name)

def TypeSpec.shapes : List TypeSpec → List Shape
  | [] => []
  | type :: rest => type.shape :: TypeSpec.shapes rest
end

def schemaOf (name : JsString) : JsString :=
  name ++ js "Schema"

def commaSeparated (parts : List JsString) : JsString :=
  List.intercalate (js ", ") parts

namespace Shape

mutual
def ts : Shape → JsString
  | boolean => js "boolean"
  | number => js "number"
  | void => js "void"
  | string => js "string"
  | unknown => js "unknown"
  | nullable inner => inner.ts ++ js " | null"
  | array item => js "Array<" ++ item.ts ++ js ">"
  | entries key value =>
      js "Array<\x7b key: " ++ key.ts ++ js "; value: " ++ value.ts ++ js " \x7d>"
  | tuple elements => js "[" ++ commaSeparated (tsAll elements) ++ js "]"
  | named name => name

def tsAll : List Shape → List JsString
  | [] => []
  | shape :: rest => shape.ts :: tsAll rest
end

mutual
def zod : Shape → JsString
  | boolean => js "z.boolean()"
  | number => js "z.number()"
  | void => js "z.void()"
  | string => js "z.string()"
  | unknown => js "z.unknown()"
  | nullable inner => inner.zod ++ js ".nullable()"
  | array item => js "z.array(" ++ item.zod ++ js ")"
  | entries key value =>
      js "z.array(z.object(\x7b key: " ++ key.zod ++ js ", value: " ++ value.zod ++ js " \x7d))"
  | tuple elements => js "z.tuple([" ++ commaSeparated (zodAll elements) ++ js "])"
  | named name => schemaOf name

def zodAll : List Shape → List JsString
  | [] => []
  | shape :: rest => shape.zod :: zodAll rest
end

mutual
def names : Shape → List JsString
  | nullable inner => inner.names
  | array item => item.names
  | entries key value => key.names ++ value.names
  | tuple elements => namesAll elements
  | named name => [name]
  | _ => []

def namesAll : List Shape → List JsString
  | [] => []
  | shape :: rest => shape.names ++ namesAll rest
end

theorem mem_namesAll {shapes : List Shape} {name : JsString} :
    name ∈ namesAll shapes ↔ ∃ shape ∈ shapes, name ∈ shape.names := by
  induction shapes with
  | nil => simp [namesAll]
  | cons shape rest induction => simp [namesAll, induction]

end Shape

mutual
theorem TypeSpec.isAlphanumeric_shape : (type : TypeSpec) →
    ∀ name ∈ type.shape.names, ∀ unit ∈ name, isAlphanumeric unit
  | .primitive type => by
      cases type <;> exact fun _ inside => absurd inside List.not_mem_nil
  | .bytesN _ => fun _ inside => absurd inside List.not_mem_nil
  | .option inner => isAlphanumeric_shape inner
  | .result ok _ => isAlphanumeric_shape ok
  | .vec item => isAlphanumeric_shape item
  | .map key value =>
      List.forall_mem_append.mpr ⟨isAlphanumeric_shape key, isAlphanumeric_shape value⟩
  | .tuple elements => isAlphanumeric_shapes elements
  | .named _ => List.forall_mem_singleton.mpr isAlphanumeric_toPascalCase

theorem TypeSpec.isAlphanumeric_shapes : (types : List TypeSpec) →
    ∀ name ∈ Shape.namesAll (TypeSpec.shapes types), ∀ unit ∈ name, isAlphanumeric unit
  | [] => fun _ inside => absurd inside List.not_mem_nil
  | type :: rest =>
      List.forall_mem_append.mpr ⟨isAlphanumeric_shape type, isAlphanumeric_shapes rest⟩
end

def mapContractSpecTypeToTs (type : TypeSpec) : JsString :=
  type.shape.ts

def mapContractSpecTypeToZod (type : TypeSpec) : JsString :=
  type.shape.zod

/-! ## Statements -/

inductive Statement
  | blank
  | importZod
  | importContractEmittedEvent
  | interface (name : JsString) (properties : List (JsString × Shape))
  | enumType (name : JsString) (variants : List JsString)
  | unionType (name : JsString) (cases : List (JsString × List Shape))
  | emptyParams (name : JsString)
  | typeAlias (name : JsString) (type : Shape)
  | objectSchema (name : JsString) (properties : List (JsString × Shape))
  | enumSchema (name : JsString) (variants : List JsString)
  | unionSchema (name : JsString) (cases : List (JsString × List Shape))
  | eventGuard (event interfaceName : JsString)
  | contractEventUnion (events : List (JsString × JsString))
  | assertExhaustiveContractEvent (events : List JsString)

namespace Statement

/-- Alternatives with a sign between them. No alternative is `never`. -/
def alternatives (parts : List (List Piece)) : List Piece :=
  if parts = [] then [.code (js "never")] else List.intercalate [.code (js " | ")] parts

/-- `{ case: "name"; values: […] }` -/
def caseType (unionCase : JsString × List Shape) : List Piece :=
  if unionCase.2.length = 0 then
    [.code (js "\x7b case: "), .literal unionCase.1, .code (js " \x7d")]
  else
    [.code (js "\x7b case: "), .literal unionCase.1,
      .code (js "; values: [" ++ commaSeparated (Shape.tsAll unionCase.2) ++ js "] \x7d")]

/-- `z.object({ case: z.literal("name"), values: z.tuple([…]) })` -/
def caseSchema (unionCase : JsString × List Shape) : List Piece :=
  if unionCase.2.length = 0 then
    [.code (js "z.object(\x7b case: z.literal("), .literal unionCase.1, .code (js ") \x7d)")]
  else
    [.code (js "z.object(\x7b case: z.literal("), .literal unionCase.1,
      .code (js "), values: z.tuple([" ++ commaSeparated (Shape.zodAll unionCase.2) ++
        js "]) \x7d)")]

/-- The schema of a union. One case needs no `z.union`. -/
def unionOf : List (JsString × List Shape) → List Piece
  | [] => [.code (js "z.never()")]
  | [unionCase] => caseSchema unionCase
  | cases =>
      [.code (js "z.union([")] ++
        List.intercalate [.code (js ", ")] (cases.map caseSchema) ++ [.code (js "])")]

/-- `ContractEmittedEvent & { topics: ["event", ...string[]]; decodedData: Interface }` -/
def eventType (event : JsString × JsString) : List Piece :=
  [.code (js "ContractEmittedEvent & \x7b topics: ["), .literal event.1,
    .code (js ", ...string[]]; decodedData: " ++ event.2 ++ js " \x7d")]

def lines : Statement → List (List Piece)
  | blank => [[]]
  | importZod => [[.code (js "import { z } from "), .literal (js "zod"), .code (js ";")]]
  | importContractEmittedEvent =>
      [[.code (js "import type { ContractEmittedEvent } from "),
        .literal (js "@orbital-stellar/pulse-core"), .code (js ";")]]
  | interface name properties =>
      [.code (js "export interface " ++ name ++ js " \x7b")] ::
        (properties.map fun property =>
          [.code (js "  " ++ property.1 ++ js ": " ++ property.2.ts ++ js ";")]) ++
        [[.code (js "\x7d")]]
  | enumType name variants =>
      [[.code (js "export type " ++ name ++ js " = ")] ++
        alternatives (variants.map fun variant => [.literal variant]) ++ [.code (js ";")]]
  | unionType name cases =>
      [[.code (js "export type " ++ name ++ js " = ")] ++ alternatives (cases.map caseType) ++
        [.code (js ";")]]
  | emptyParams name => [[.code (js "export type " ++ name ++ js " = Record<string, never>;")]]
  | typeAlias name type => [[.code (js "export type " ++ name ++ js " = " ++ type.ts ++ js ";")]]
  | objectSchema name properties =>
      [.code (js "export const " ++ schemaOf name ++ js " = z.object(\x7b")] ::
        (properties.map fun property =>
          [.code (js "  " ++ property.1 ++ js ": " ++ property.2.zod ++ js ",")]) ++
        [[.code (js "\x7d);")]]
  | enumSchema name variants =>
      [[.code (js "export const " ++ schemaOf name ++ js " = z.enum([")] ++
        List.intercalate [.code (js ", ")] (variants.map fun variant => [.literal variant]) ++
        [.code (js "]);")]]
  | unionSchema name cases =>
      [[.code (js "export const " ++ schemaOf name ++ js " = ")] ++ unionOf cases ++
        [.code (js ";")]]
  | eventGuard event interfaceName =>
      [[.code (js "export function is" ++ interfaceName ++
          js "(event: ContractEmittedEvent): event is ContractEmittedEvent & \x7b decodedData: " ++
          interfaceName ++ js " \x7d \x7b")],
        [.code (js "  return event.topics[0] === "), .literal event,
          .code (js " && " ++ schemaOf interfaceName ++
            js ".safeParse(event.decodedData).success;")],
        [.code (js "\x7d")]]
  | contractEventUnion events =>
      [[.code (js "export type ContractEventUnion = ")] ++
        alternatives (events.map eventType) ++ [.code (js ";")]]
  | assertExhaustiveContractEvent events =>
      [[.code (js "export function assertExhaustiveContractEvent(event: " ++
          js "ContractEventUnion): string \x7b")],
        [.code (js "  switch (event.topics[0]) \x7b")]] ++
      (events.flatMap fun event =>
        [[.code (js "    case "), .literal event, .code (js ":")],
          [.code (js "      return event.topics[0];")]]) ++
      (if events.length > 0 then
        [[.code (js "    default: \x7b")],
          [.code (js "      const _exhaustive: never = event.topics[0];")],
          [.code (js "      return _exhaustive;")], [.code (js "    \x7d")]]
      else []) ++
      [[.code (js "  \x7d")], [.code (js "\x7d")]]

end Statement

/-! ## Declarations -/

def toProperty (field : FieldSpec) : JsString × Shape :=
  (toCamelCase field.name, field.type.shape)

def toCase (unionCase : UnionCaseSpec) : JsString × List Shape :=
  (unionCase.name, unionCase.fields.map fun field => field.type.shape)

namespace UserDefinedType

def declaration : UserDefinedType → Statement
  | struct name _ fields => .interface (toPascalCase name) (fields.map toProperty)
  | enum name _ variants => .enumType (toPascalCase name) (variants.map EnumVariantSpec.name)
  | union name _ cases => .unionType (toPascalCase name) (cases.map toCase)

def schema : UserDefinedType → Statement
  | struct name _ fields => .objectSchema (toPascalCase name) (fields.map toProperty)
  | enum name _ variants => .enumSchema (toPascalCase name) (variants.map EnumVariantSpec.name)
  | union name _ cases => .unionSchema (toPascalCase name) (cases.map toCase)

end UserDefinedType

structure GeneratedContractArtifacts where
  declarations : List Statement
  schemas : List Statement
  guards : List Statement

def generateUdtDeclarations (types : List UserDefinedType) : GeneratedContractArtifacts where
  declarations := types.flatMap fun type => [type.declaration, .blank]
  schemas := types.flatMap fun type => [type.schema, .blank]
  guards := []

def paramsDeclaration (name : JsString) (params : List FieldSpec) : Statement :=
  if params.length = 0 then .emptyParams name else .interface name (params.map toProperty)

def functionDeclarations : List JsString → List FunctionSpec → List Statement
  | _, [] => []
  | used, function :: rest =>
      let baseName := toPascalCase function.name
      let params := ensureUniqueName (baseName ++ js "Params") used
      let returns := ensureUniqueName (baseName ++ js "Returns") params.2
      [paramsDeclaration params.1 function.params, .typeAlias returns.1 function.returns.shape,
        .blank] ++ functionDeclarations returns.2 rest

def generateFunctionDeclarations (functions : List FunctionSpec) : List Statement :=
  functionDeclarations [] functions

def nameEvents : List JsString → List EventSpec → List (EventSpec × JsString)
  | _, [] => []
  | used, event :: rest =>
      let interfaceName := ensureUniqueName (toPascalCase event.name ++ js "Event") used
      (event, interfaceName.1) :: nameEvents interfaceName.2 rest

theorem fst_nameEvents (used : List JsString) (events : List EventSpec) :
    (nameEvents used events).map Prod.fst = events := by
  induction events generalizing used with
  | nil => rfl
  | cons event rest induction => rw [nameEvents, List.map_cons, induction]

def generateEventDeclarations (events : List EventSpec) : GeneratedContractArtifacts where
  declarations := (nameEvents [] events).flatMap fun event =>
    [.interface event.2 (event.1.data.map toProperty), .blank]
  schemas := (nameEvents [] events).flatMap fun event =>
    [.objectSchema event.2 (event.1.data.map toProperty), .blank]
  guards := ((nameEvents [] events).flatMap fun event =>
      [.eventGuard event.1.name event.2, .blank]) ++
    [.contractEventUnion ((nameEvents [] events).map fun event => (event.1.name, event.2)),
      .blank, .assertExhaustiveContractEvent (events.map EventSpec.name), .blank]

def generateFromContractSpec (spec : ContractSpec) : GeneratedContractArtifacts :=
  let udts := generateUdtDeclarations (spec.types.map Prod.snd)
  let events := generateEventDeclarations spec.events
  { declarations := (if spec.events.length > 0 then [.importContractEmittedEvent] else []) ++
      [.importZod, .blank] ++ udts.declarations ++
      generateFunctionDeclarations spec.functions ++ events.declarations
    schemas := udts.schemas ++ events.schemas
    guards := events.guards }

/-! ## The text -/

def sectionPieces (statements : List Statement) : List Piece :=
  List.intercalate [.code (js "\n")] (statements.flatMap Statement.lines)

def modulePieces (artifacts : GeneratedContractArtifacts) : List Piece :=
  List.intercalate [.code (js "\n\n")]
    (([artifacts.declarations, artifacts.schemas, artifacts.guards].map sectionPieces).filter
      fun pieces => Piece.render pieces ≠ [])

def generateContractTypes (spec : ContractSpec) : JsString :=
  Piece.render (modulePieces (generateFromContractSpec spec))

end Orbital.AbiRegistry
