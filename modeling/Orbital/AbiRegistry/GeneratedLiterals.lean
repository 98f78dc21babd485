import Orbital.AbiRegistry.Generate

/-! # The literals of a generated module

The template puts names between quotes as they are. A generated module is read as it is
meant exactly if none of these names needs an escape, and if no field name that is kept as
it is opens a literal of its own.
-/

namespace Orbital.AbiRegistry

open Foundation
open StringLiteral (CleanText)
open Token (PlainText plainText_append)

/-! ## Code -/

theorem plainText_of_alphanumeric {text : JsString} (known : ∀ unit ∈ text, isAlphanumeric unit) :
    PlainText text := by
  intro unit inside
  have alphanumeric := known unit inside
  constructor
  · rintro rfl
    exact absurd alphanumeric (by decide)
  · intro opens
    have signs : ([0x27, 0x60, 0x2F, 0x5C] : JsString).all (fun sign => !isAlphanumeric sign) =
        true := by
      decide
    have none := List.all_eq_true.mp signs unit opens
    rw [alphanumeric] at none
    cases none

theorem plainText_toPascalCase (value : JsString) : PlainText (toPascalCase value) :=
  plainText_of_alphanumeric isAlphanumeric_toPascalCase

theorem plainText_toCamelCase_iff (value : JsString) :
    PlainText (toCamelCase value) ↔ (toPascalCase value = [] → PlainText value) := by
  rw [toCamelCase]
  split
  · rename_i empty
    exact ⟨fun plain _ => plain, fun plain => plain empty⟩
  · rename_i first rest nonempty
    have known : ∀ unit ∈ toPascalCase value, isAlphanumeric unit := isAlphanumeric_toPascalCase
    rw [nonempty] at known ⊢
    rcases List.forall_mem_cons.mp known with ⟨letter, others⟩
    constructor
    · intro _ empty
      cases empty
    · intro _
      apply plainText_of_alphanumeric
      exact List.forall_mem_cons.mpr ⟨isAlphanumeric_toLowerCase letter, others⟩

theorem plainText_schemaOf {name : JsString} : PlainText (schemaOf name) ↔ PlainText name := by
  rw [schemaOf, plainText_append]
  exact and_iff_left (by decide)

theorem plainText_commaSeparated {parts : List JsString} :
    PlainText (commaSeparated parts) ↔ ∀ part ∈ parts, PlainText part := by
  have separator : PlainText (js ", ") := by
    decide
  exact Piece.forall_mem_intercalate separator parts

namespace Shape

mutual
theorem plainText_ts : (shape : Shape) → (PlainText shape.ts ↔ ∀ name ∈ shape.names, PlainText name)
  | boolean | number | void | string | unknown =>
      iff_of_true (by decide) (fun _ inside => absurd inside List.not_mem_nil)
  | nullable inner => by
      rw [ts, plainText_append, plainText_ts inner]
      exact and_iff_left (by decide)
  | array item => by
      rw [ts, plainText_append, plainText_append, plainText_ts item]
      exact (and_iff_left (by decide)).trans (and_iff_right (by decide))
  | entries key value => by
      rw [ts, plainText_append, plainText_append, plainText_append, plainText_append,
        plainText_ts key, plainText_ts value, names, List.forall_mem_append]
      exact (and_iff_left (by decide)).trans
        (and_congr_left' ((and_iff_left (by decide)).trans (and_iff_right (by decide))))
  | tuple elements => by
      rw [ts, plainText_append, plainText_append, plainText_commaSeparated, plainText_tsAll]
      exact (and_iff_left (by decide)).trans (and_iff_right (by decide))
  | named name => List.forall_mem_singleton.symm

theorem plainText_tsAll : (shapes : List Shape) →
    ((∀ part ∈ tsAll shapes, PlainText part) ↔ ∀ name ∈ namesAll shapes, PlainText name)
  | [] => Iff.rfl
  | shape :: rest => by
      rw [tsAll, namesAll, List.forall_mem_cons, List.forall_mem_append, plainText_ts shape,
        plainText_tsAll rest]
end

mutual
theorem plainText_zod : (shape : Shape) →
    (PlainText shape.zod ↔ ∀ name ∈ shape.names, PlainText name)
  | boolean | number | void | string | unknown =>
      iff_of_true (by decide) (fun _ inside => absurd inside List.not_mem_nil)
  | nullable inner => by
      rw [zod, plainText_append, plainText_zod inner]
      exact and_iff_left (by decide)
  | array item => by
      rw [zod, plainText_append, plainText_append, plainText_zod item]
      exact (and_iff_left (by decide)).trans (and_iff_right (by decide))
  | entries key value => by
      rw [zod, plainText_append, plainText_append, plainText_append, plainText_append,
        plainText_zod key, plainText_zod value, names, List.forall_mem_append]
      exact (and_iff_left (by decide)).trans
        (and_congr_left' ((and_iff_left (by decide)).trans (and_iff_right (by decide))))
  | tuple elements => by
      rw [zod, plainText_append, plainText_append, plainText_commaSeparated, plainText_zodAll]
      exact (and_iff_left (by decide)).trans (and_iff_right (by decide))
  | named name => plainText_schemaOf.trans List.forall_mem_singleton.symm

theorem plainText_zodAll : (shapes : List Shape) →
    ((∀ part ∈ zodAll shapes, PlainText part) ↔ ∀ name ∈ namesAll shapes, PlainText name)
  | [] => Iff.rfl
  | shape :: rest => by
      rw [zodAll, namesAll, List.forall_mem_cons, List.forall_mem_append, plainText_zod shape,
        plainText_zodAll rest]
end

end Shape

/-! ## Statements -/

namespace Statement

def literals : Statement → List JsString
  | enumType _ variants => variants
  | unionType _ cases => cases.map Prod.fst
  | enumSchema _ variants => variants
  | unionSchema _ cases => cases.map Prod.fst
  | eventGuard event _ => [event]
  | contractEventUnion events => events.map Prod.fst
  | assertExhaustiveContractEvent events => events
  | _ => []

def placed : Statement → List JsString
  | interface name properties =>
      name :: properties.flatMap fun property => property.1 :: property.2.names
  | enumType name _ => [name]
  | unionType name cases => name :: cases.flatMap fun unionCase => Shape.namesAll unionCase.2
  | emptyParams name => [name]
  | typeAlias name type => name :: type.names
  | objectSchema name properties =>
      name :: properties.flatMap fun property => property.1 :: property.2.names
  | enumSchema name _ => [name]
  | unionSchema name cases => name :: cases.flatMap fun unionCase => Shape.namesAll unionCase.2
  | eventGuard _ interfaceName => [interfaceName]
  | contractEventUnion events => events.map Prod.snd
  | _ => []

def Faithful (statement : Statement) : Prop :=
  ∀ line ∈ statement.lines, ∀ piece ∈ line, piece.Faithful

instance : DecidablePred Faithful := fun statement =>
  inferInstanceAs (Decidable (∀ line ∈ statement.lines, ∀ piece ∈ line, piece.Faithful))

theorem faithful_code {text : JsString} : (Piece.code text).Faithful ↔ PlainText text :=
  Iff.rfl

theorem faithful_literal {value : JsString} : (Piece.literal value).Faithful ↔ CleanText value :=
  Iff.rfl

theorem faithful_alternatives (parts : List (List Piece)) :
    (∀ piece ∈ alternatives parts, piece.Faithful) ↔
      ∀ part ∈ parts, ∀ piece ∈ part, piece.Faithful := by
  rw [alternatives]
  split
  · rename_i empty
    rw [empty]
    exact iff_of_true (by decide) (fun _ inside => absurd inside List.not_mem_nil)
  · exact Piece.forall_mem_intercalate (by decide) parts

theorem faithful_caseType (unionCase : JsString × List Shape) :
    (∀ piece ∈ caseType unionCase, piece.Faithful) ↔
      CleanText unionCase.1 ∧ ∀ name ∈ Shape.namesAll unionCase.2, PlainText name := by
  rw [caseType]
  split
  · rename_i empty
    rw [List.eq_nil_of_length_eq_zero empty]
    simp +decide only [List.forall_mem_cons, faithful_literal, true_and, and_true]
  · simp +decide only [List.forall_mem_cons, faithful_code, faithful_literal, plainText_append,
      plainText_commaSeparated, Shape.plainText_tsAll, true_and, and_true]

theorem faithful_caseSchema (unionCase : JsString × List Shape) :
    (∀ piece ∈ caseSchema unionCase, piece.Faithful) ↔
      CleanText unionCase.1 ∧ ∀ name ∈ Shape.namesAll unionCase.2, PlainText name := by
  rw [caseSchema]
  split
  · rename_i empty
    rw [List.eq_nil_of_length_eq_zero empty]
    simp +decide only [List.forall_mem_cons, faithful_literal, true_and, and_true]
  · simp +decide only [List.forall_mem_cons, faithful_code, faithful_literal, plainText_append,
      plainText_commaSeparated, Shape.plainText_zodAll, true_and, and_true]

theorem faithful_unionOf (cases : List (JsString × List Shape)) :
    (∀ piece ∈ unionOf cases, piece.Faithful) ↔
      ∀ unionCase ∈ cases, ∀ piece ∈ caseSchema unionCase, piece.Faithful := by
  rcases cases with _ | ⟨first, _ | ⟨second, rest⟩⟩
  · exact iff_of_true (by decide) (fun _ inside => absurd inside List.not_mem_nil)
  · rw [List.forall_mem_singleton, unionOf]
  · have several : unionOf (first :: second :: rest) = [.code (js "z.union([")] ++
        List.intercalate [.code (js ", ")] ((first :: second :: rest).map caseSchema) ++
          [.code (js "])")] := rfl
    rw [several, List.forall_mem_append, List.forall_mem_append,
      Piece.forall_mem_intercalate (by decide), List.forall_mem_map]
    exact (and_iff_left (by decide)).trans (and_iff_right (by decide))

theorem faithful_eventType (event : JsString × JsString) :
    (∀ piece ∈ eventType event, piece.Faithful) ↔ CleanText event.1 ∧ PlainText event.2 := by
  simp +decide only [eventType, List.forall_mem_cons, faithful_code, faithful_literal,
    plainText_append, true_and, and_true]

theorem faithful_iff (statement : Statement) :
    statement.Faithful ↔ (∀ name ∈ statement.literals, CleanText name) ∧
      ∀ name ∈ statement.placed, PlainText name := by
  cases statement with
  | blank | importZod | importContractEmittedEvent => exact iff_of_true (by decide) (by decide)
  | interface name properties =>
      simp only [Faithful, lines, literals, placed]
      repeat rw [js_ofList]
      simp +decide only [faithful_code, plainText_append,
        Shape.plainText_ts, List.forall_mem_cons, List.forall_mem_append, List.forall_mem_map,
        List.forall_mem_flatMap, true_and, and_true]
  | enumType name variants =>
      simp only [Faithful, lines, literals, placed]
      repeat rw [js_ofList]
      simp +decide only [faithful_code, faithful_literal,
        faithful_alternatives, plainText_append, List.forall_mem_cons, List.forall_mem_append,
        List.forall_mem_map, true_and, and_true]
      exact and_comm
  | unionType name cases =>
      simp only [Faithful, lines, literals, placed]
      repeat rw [js_ofList]
      simp +decide only [faithful_code, faithful_alternatives,
        faithful_caseType, plainText_append, List.forall_mem_cons, List.forall_mem_append,
        List.forall_mem_map, List.forall_mem_flatMap, forall_and, true_and, and_true]
      exact and_left_comm
  | emptyParams name =>
      simp only [Faithful, lines, literals, placed]
      repeat rw [js_ofList]
      simp +decide only [faithful_code, plainText_append,
        List.forall_mem_cons, true_and, and_true]
  | typeAlias name type =>
      simp only [Faithful, lines, literals, placed]
      repeat rw [js_ofList]
      simp +decide only [faithful_code, plainText_append,
        Shape.plainText_ts, List.forall_mem_cons, true_and, and_true]
  | objectSchema name properties =>
      simp only [Faithful, lines, literals, placed]
      repeat rw [js_ofList]
      simp +decide only [faithful_code, plainText_append,
        plainText_schemaOf, Shape.plainText_zod, List.forall_mem_cons, List.forall_mem_append,
        List.forall_mem_map, List.forall_mem_flatMap, true_and, and_true]
  | enumSchema name variants =>
      have separated : ∀ rows,
          (∀ piece ∈ List.intercalate [.code (units [',', ' '])] rows, Piece.Faithful piece) ↔
            ∀ row ∈ rows, ∀ piece ∈ row, piece.Faithful :=
        Piece.forall_mem_intercalate (by decide)
      simp only [Faithful, lines, literals, placed]
      repeat rw [js_ofList]
      simp +decide only [faithful_code, faithful_literal,
        separated, plainText_append, plainText_schemaOf, List.forall_mem_cons,
        List.forall_mem_append, List.forall_mem_map, true_and, and_true]
      exact and_comm
  | unionSchema name cases =>
      simp only [Faithful, lines, literals, placed]
      repeat rw [js_ofList]
      simp +decide only [faithful_code, faithful_unionOf,
        faithful_caseSchema, plainText_append, plainText_schemaOf, List.forall_mem_cons,
        List.forall_mem_append, List.forall_mem_map, List.forall_mem_flatMap, forall_and,
        true_and, and_true]
      exact and_left_comm
  | eventGuard event interfaceName =>
      simp only [Faithful, lines, literals, placed]
      repeat rw [js_ofList]
      simp +decide only [faithful_code, faithful_literal,
        plainText_append, plainText_schemaOf, List.forall_mem_cons, true_and, and_true]
      tauto
  | contractEventUnion events =>
      simp only [Faithful, lines, literals, placed]
      repeat rw [js_ofList]
      simp +decide only [faithful_alternatives,
        faithful_eventType, List.forall_mem_cons, List.forall_mem_append, List.forall_mem_map,
        forall_and, true_and, and_true]
  | assertExhaustiveContractEvent events =>
      simp only [Faithful, lines, literals, placed]
      repeat rw [js_ofList]
      simp +decide only [faithful_literal,
        List.forall_mem_cons, List.forall_mem_append, List.forall_mem_flatMap, true_and, and_true]
      split
      · exact and_iff_left (by decide)
      · exact and_iff_left (by decide)

end Statement

/-! ## Names of a spec -/

namespace UserDefinedType

def literals : UserDefinedType → List JsString
  | struct _ _ _ => []
  | enum _ _ variants => variants.map EnumVariantSpec.name
  | union _ _ cases => cases.map UnionCaseSpec.name

def fieldNames : UserDefinedType → List JsString
  | struct _ _ fields => fields.map FieldSpec.name
  | _ => []

end UserDefinedType

namespace ContractSpec

def literals (spec : ContractSpec) : List JsString :=
  spec.types.flatMap (fun entry => entry.2.literals) ++ spec.events.map EventSpec.name

def fieldNames (spec : ContractSpec) : List JsString :=
  spec.types.flatMap (fun entry => entry.2.fieldNames) ++
    spec.functions.flatMap (fun function => function.params.map FieldSpec.name) ++
      spec.events.flatMap fun event => event.data.map FieldSpec.name

end ContractSpec

/-! ## The statements of a spec -/

theorem plainText_toProperty (fields : List FieldSpec) :
    (∀ name ∈ (fields.map toProperty).flatMap fun property => property.1 :: property.2.names,
        PlainText name) ↔
      ∀ name ∈ fields.map FieldSpec.name, PlainText (toCamelCase name) := by
  rw [List.forall_mem_flatMap, List.forall_mem_map, List.forall_mem_map]
  refine forall₂_congr fun field _ => ?_
  rw [List.forall_mem_cons]
  exact and_iff_left fun name inside =>
    plainText_of_alphanumeric (field.type.isAlphanumeric_shape name inside)

theorem plainText_toCase (cases : List UnionCaseSpec) :
    ∀ name ∈ (cases.map toCase).flatMap fun unionCase => Shape.namesAll unionCase.2,
      PlainText name := by
  rw [List.forall_mem_flatMap, List.forall_mem_map]
  intro unionCase _ name inside
  rcases Shape.mem_namesAll.mp inside with ⟨shape, member, inside⟩
  rcases List.mem_map.mp member with ⟨field, -, rfl⟩
  exact plainText_of_alphanumeric (field.type.isAlphanumeric_shape name inside)

namespace UserDefinedType

theorem faithful_declaration (type : UserDefinedType) :
    type.declaration.Faithful ↔ (∀ name ∈ type.literals, CleanText name) ∧
      ∀ name ∈ type.fieldNames, PlainText (toCamelCase name) := by
  rw [Statement.faithful_iff]
  cases type with
  | struct name doc fields =>
      rw [declaration, Statement.placed, List.forall_mem_cons, plainText_toProperty]
      exact and_congr_right fun _ => and_iff_right (plainText_toPascalCase name)
  | enum name doc variants =>
      refine and_congr_right fun _ =>
        iff_of_true ?_ (fun _ inside => absurd inside List.not_mem_nil)
      exact List.forall_mem_singleton.mpr (plainText_toPascalCase name)
  | union name doc cases =>
      rw [declaration, Statement.literals, List.map_map]
      refine and_congr_right fun _ =>
        iff_of_true ?_ (fun _ inside => absurd inside List.not_mem_nil)
      exact List.forall_mem_cons.mpr ⟨plainText_toPascalCase name, plainText_toCase cases⟩

theorem faithful_schema (type : UserDefinedType) :
    type.schema.Faithful ↔ (∀ name ∈ type.literals, CleanText name) ∧
      ∀ name ∈ type.fieldNames, PlainText (toCamelCase name) := by
  rw [← faithful_declaration, Statement.faithful_iff, Statement.faithful_iff]
  cases type <;> rfl

end UserDefinedType

theorem plainText_ensureUniqueName (value suffix : JsString) (used : List JsString)
    (known : suffix.all isAlphanumeric = true) :
    PlainText (ensureUniqueName (toPascalCase value ++ suffix) used).1 := by
  apply plainText_of_alphanumeric
  apply isAlphanumeric_ensureUniqueName
  exact List.forall_mem_append.mpr ⟨isAlphanumeric_toPascalCase, List.all_eq_true.mp known⟩

theorem faithful_paramsDeclaration {name : JsString} (plain : PlainText name)
    (params : List FieldSpec) :
    (paramsDeclaration name params).Faithful ↔
      ∀ name ∈ params.map FieldSpec.name, PlainText (toCamelCase name) := by
  rw [paramsDeclaration]
  split
  · rename_i empty
    rw [List.eq_nil_of_length_eq_zero empty, Statement.faithful_iff]
    refine iff_of_true ⟨?_, List.forall_mem_singleton.mpr plain⟩ ?_
    · exact fun _ inside => absurd inside List.not_mem_nil
    · exact fun _ inside => absurd inside List.not_mem_nil
  · rw [Statement.faithful_iff, Statement.placed, List.forall_mem_cons, plainText_toProperty,
      and_iff_right plain]
    exact and_iff_right fun _ inside => absurd inside List.not_mem_nil

theorem faithful_functionDeclarations (used : List JsString) (functions : List FunctionSpec) :
    (∀ statement ∈ functionDeclarations used functions, statement.Faithful) ↔
      ∀ name ∈ functions.flatMap fun function => function.params.map FieldSpec.name,
        PlainText (toCamelCase name) := by
  induction functions generalizing used with
  | nil => simp [functionDeclarations]
  | cons function rest induction =>
      rw [functionDeclarations, List.forall_mem_append, induction, List.flatMap_cons,
        List.forall_mem_append, List.forall_mem_cons, faithful_paramsDeclaration]
      · refine and_congr_left' (and_iff_left ?_)
        refine List.forall_mem_cons.mpr ⟨?_, by decide⟩
        rw [Statement.faithful_iff]
        refine ⟨fun _ inside => absurd inside List.not_mem_nil, List.forall_mem_cons.mpr ⟨?_, ?_⟩⟩
        · exact plainText_ensureUniqueName _ _ _ (by decide)
        · exact fun name inside =>
            plainText_of_alphanumeric (function.returns.isAlphanumeric_shape name inside)
      · exact plainText_ensureUniqueName _ _ _ (by decide)

theorem plainText_nameEvents (used : List JsString) (events : List EventSpec) :
    ∀ event ∈ nameEvents used events, PlainText event.2 := by
  induction events generalizing used with
  | nil => exact fun _ inside => absurd inside List.not_mem_nil
  | cons event rest induction =>
      rw [nameEvents]
      refine List.forall_mem_cons.mpr ⟨?_, induction _⟩
      exact plainText_ensureUniqueName _ _ _ (by decide)

theorem faithful_eventDeclarations (events : List EventSpec) :
    (∀ statement ∈ (generateEventDeclarations events).declarations, statement.Faithful) ↔
      ∀ name ∈ events.flatMap fun event => event.data.map FieldSpec.name,
        PlainText (toCamelCase name) := by
  have each : ∀ event ∈ nameEvents [] events,
      ((∀ statement ∈ [Statement.interface event.2 (event.1.data.map toProperty), .blank],
        statement.Faithful) ↔
      ∀ name ∈ event.1.data.map FieldSpec.name, PlainText (toCamelCase name)) := by
    intro event inside
    rw [List.forall_mem_cons, Statement.faithful_iff, Statement.placed, List.forall_mem_cons,
      plainText_toProperty, and_iff_right (plainText_nameEvents [] events event inside)]
    refine (and_iff_left (by decide)).trans (and_iff_right ?_)
    exact fun _ inside => absurd inside List.not_mem_nil
  rw [generateEventDeclarations, List.forall_mem_flatMap, forall₂_congr each,
    List.forall_mem_flatMap]
  have named := fst_nameEvents [] events
  constructor
  · intro plain event inside
    rw [← named] at inside
    rcases List.mem_map.mp inside with ⟨entry, member, rfl⟩
    exact plain entry member
  · intro plain entry member
    refine plain entry.1 ?_
    rw [← named]
    exact List.mem_map_of_mem member

theorem faithful_eventSchemas (events : List EventSpec) :
    (∀ statement ∈ (generateEventDeclarations events).schemas, statement.Faithful) ↔
      ∀ statement ∈ (generateEventDeclarations events).declarations, statement.Faithful := by
  rw [generateEventDeclarations, List.forall_mem_flatMap, List.forall_mem_flatMap]
  refine forall₂_congr fun event _ => ?_
  have same : (Statement.objectSchema event.2 (event.1.data.map toProperty)).Faithful ↔
      (Statement.interface event.2 (event.1.data.map toProperty)).Faithful := by
    rw [Statement.faithful_iff, Statement.faithful_iff]
    rfl
  exact (List.forall_mem_cons.trans (and_congr_left' same)).trans List.forall_mem_cons.symm

theorem faithful_eventGuards (events : List EventSpec) :
    (∀ statement ∈ (generateEventDeclarations events).guards, statement.Faithful) ↔
      ∀ name ∈ events.map EventSpec.name, CleanText name := by
  have plain := plainText_nameEvents [] events
  have names : ∀ entry ∈ nameEvents [] events, entry.1 ∈ events := by
    intro entry member
    rw [← fst_nameEvents [] events]
    exact List.mem_map_of_mem member
  rw [generateEventDeclarations, List.forall_mem_append, List.forall_mem_flatMap]
  constructor
  · rintro ⟨-, last⟩
    have exhaustive : (Statement.assertExhaustiveContractEvent
        (events.map EventSpec.name)).Faithful :=
      last _ (List.mem_cons_of_mem _ (List.mem_cons_of_mem _ List.mem_cons_self))
    exact ((Statement.faithful_iff _).mp exhaustive).1
  · intro clean
    have cleanEvent : ∀ event ∈ events, CleanText event.name := List.forall_mem_map.mp clean
    constructor
    · intro entry member
      refine List.forall_mem_cons.mpr ⟨?_, by decide⟩
      rw [Statement.faithful_iff]
      exact ⟨List.forall_mem_singleton.mpr (cleanEvent _ (names entry member)),
        List.forall_mem_singleton.mpr (plain entry member)⟩
    · refine List.forall_mem_cons.mpr ⟨?_, List.forall_mem_cons.mpr ⟨by decide,
        List.forall_mem_cons.mpr ⟨?_, by decide⟩⟩⟩
      · rw [Statement.faithful_iff, Statement.literals, Statement.placed, List.map_map,
          List.map_map, List.forall_mem_map, List.forall_mem_map]
        exact ⟨fun entry member => cleanEvent _ (names entry member), plain⟩
      · rw [Statement.faithful_iff]
        exact ⟨clean, fun _ inside => absurd inside List.not_mem_nil⟩

/-! ## The module -/

theorem faithful_sectionPieces (statements : List Statement) :
    (∀ piece ∈ sectionPieces statements, piece.Faithful) ↔
      ∀ statement ∈ statements, statement.Faithful := by
  rw [sectionPieces, Piece.forall_mem_intercalate (by decide), List.forall_mem_flatMap]
  rfl

theorem faithful_of_render_eq_nil {pieces : List Piece} (empty : Piece.render pieces = []) :
    ∀ piece ∈ pieces, piece.Faithful := by
  intro piece inside
  have none := List.flatMap_eq_nil_iff.mp empty piece inside
  cases piece with
  | code text =>
      rw [Piece.text] at none
      rw [none]
      exact fun _ inside => absurd inside List.not_mem_nil
  | literal value => cases none

theorem faithful_modulePieces (artifacts : GeneratedContractArtifacts) :
    (∀ piece ∈ modulePieces artifacts, piece.Faithful) ↔
      (∀ statement ∈ artifacts.declarations, statement.Faithful) ∧
        (∀ statement ∈ artifacts.schemas, statement.Faithful) ∧
          ∀ statement ∈ artifacts.guards, statement.Faithful := by
  have kept : ∀ pieces : List (List Piece),
      (∀ row ∈ pieces.filter (fun pieces => Piece.render pieces ≠ []),
        ∀ piece ∈ row, piece.Faithful) ↔ ∀ row ∈ pieces, ∀ piece ∈ row, piece.Faithful := by
    intro pieces
    constructor
    · intro faithful row inside
      by_cases empty : Piece.render row = []
      · exact faithful_of_render_eq_nil empty
      · exact faithful row (List.mem_filter.mpr ⟨inside, decide_eq_true empty⟩)
    · intro faithful row inside
      exact faithful row (List.mem_of_mem_filter inside)
  rw [modulePieces, Piece.forall_mem_intercalate (by decide), kept, List.forall_mem_map,
    List.forall_mem_cons, List.forall_mem_cons, List.forall_mem_singleton,
    faithful_sectionPieces, faithful_sectionPieces, faithful_sectionPieces]

theorem faithful_types (types : List (JsString × UserDefinedType))
    (statement : UserDefinedType → Statement)
    (each : ∀ type, (statement type).Faithful ↔ (∀ name ∈ type.literals, CleanText name) ∧
      ∀ name ∈ type.fieldNames, PlainText (toCamelCase name)) :
    (∀ part ∈ (types.map Prod.snd).flatMap fun type => [statement type, .blank],
        part.Faithful) ↔
      (∀ name ∈ types.flatMap fun entry => entry.2.literals, CleanText name) ∧
        ∀ name ∈ types.flatMap fun entry => entry.2.fieldNames,
          PlainText (toCamelCase name) := by
  rw [List.forall_mem_flatMap, List.forall_mem_map, List.forall_mem_flatMap,
    List.forall_mem_flatMap, ← forall₂_and]
  refine forall₂_congr fun entry _ => ?_
  rw [List.forall_mem_cons, each]
  exact and_iff_left (by decide)

def ContractSpec.pieces (spec : ContractSpec) : List Piece :=
  modulePieces (generateFromContractSpec spec)

theorem ContractSpec.faithful_pieces (spec : ContractSpec) :
    (∀ piece ∈ spec.pieces, piece.Faithful) ↔
      (∀ name ∈ spec.literals, CleanText name) ∧
        ∀ name ∈ spec.fieldNames, PlainText (toCamelCase name) := by
  have imports : ∀ statement ∈
      (if spec.events.length > 0 then [Statement.importContractEmittedEvent] else []) ++
        [.importZod, .blank], statement.Faithful := by
    split <;> decide
  rcases List.forall_mem_append.mp imports with ⟨emitted, zod⟩
  rw [pieces, faithful_modulePieces, generateFromContractSpec]
  simp only [List.forall_mem_append, iff_true_intro emitted, iff_true_intro zod, true_and]
  rw [generateUdtDeclarations, generateFunctionDeclarations, faithful_functionDeclarations,
    faithful_types _ _ UserDefinedType.faithful_declaration,
    faithful_types _ _ UserDefinedType.faithful_schema, faithful_eventSchemas,
    faithful_eventDeclarations, faithful_eventGuards]
  rw [literals, fieldNames, List.forall_mem_append, List.forall_mem_append,
    List.forall_mem_append]
  tauto

/-- Every name that the generated module has between quotes is the value of its literal, and
nothing else in the module is read as a literal. -/
def ContractSpec.ReadAsMeant (spec : ContractSpec) : Prop :=
  Token.lex (generateContractTypes spec) = some (spec.pieces.flatMap Piece.tokens)

/-- A generated module is read as it is meant exactly if its literals need no escape, and the
field names that have no letter open no literal. -/
theorem ContractSpec.readAsMeant_iff (spec : ContractSpec) :
    spec.ReadAsMeant ↔ (∀ name ∈ spec.literals, CleanText name) ∧
      ∀ name ∈ spec.fieldNames, toPascalCase name = [] → PlainText name := by
  rw [ReadAsMeant, generateContractTypes, ← pieces, Piece.lex_render_iff, faithful_pieces]
  exact and_congr_right fun _ => forall₂_congr fun name _ => plainText_toCamelCase_iff name

def injectingSpec : ContractSpec where
  name := js "token"
  contractId := none
  network := none
  functions := []
  events := [{ name := js "*/; evil(); \x7b//", doc := none, topics := [], data := [] }]
  types := [(js "E", .enum (js "E") none
    [{ name := js "a\"/*", doc := none, discriminant := 0 }])]

theorem injectingSpec_breaks_out :
    validateSpec (injectingSpec.toJs (js "1.0.0")) = [] ∧ ¬ injectingSpec.ReadAsMeant := by
  constructor
  · decide
  · rw [ContractSpec.ReadAsMeant, generateContractTypes, ← ContractSpec.pieces,
      Piece.lex_render_iff, ContractSpec.faithful_pieces]
    decide

end Orbital.AbiRegistry
