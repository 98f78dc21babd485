import Orbital.AbiRegistry.Generate

/-! # The scope of a generated module

What the statements of a generated module declare and refer to, and the order in which the
schemas get their values.
-/

namespace Orbital.AbiRegistry

open Foundation

/-! ## What a statement declares -/

def reservedWords : List JsString :=
  [js "await", js "break", js "case", js "catch", js "class", js "const", js "continue",
    js "debugger", js "default", js "delete", js "do", js "else", js "enum", js "export",
    js "extends", js "false", js "finally", js "for", js "function", js "if", js "implements",
    js "import", js "in", js "instanceof", js "interface", js "let", js "new", js "null",
    js "package", js "private", js "protected", js "public", js "return", js "static",
    js "super", js "switch", js "this", js "throw", js "true", js "try", js "typeof", js "var",
    js "void", js "while", js "with", js "yield"]

def zodName : JsString :=
  js "z"

def contractEmittedEvent : JsString :=
  js "ContractEmittedEvent"

def contractEventUnion : JsString :=
  js "ContractEventUnion"

def assertExhaustive : JsString :=
  js "assertExhaustiveContractEvent"

def guardOf (name : JsString) : JsString :=
  js "is" ++ name

namespace Statement

def declares : Statement → List JsString
  | blank => []
  | importZod => [zodName]
  | importContractEmittedEvent => [AbiRegistry.contractEmittedEvent]
  | interface name _ => [name]
  | enumType name _ => [name]
  | unionType name _ => [name]
  | emptyParams name => [name]
  | typeAlias name _ => [name]
  | objectSchema name _ => [schemaOf name]
  | enumSchema name _ => [schemaOf name]
  | unionSchema name _ => [schemaOf name]
  | eventGuard _ interfaceName => [guardOf interfaceName]
  | contractEventUnion _ => [AbiRegistry.contractEventUnion]
  | assertExhaustiveContractEvent _ => [assertExhaustive]

def declaresTypes : Statement → List JsString
  | importContractEmittedEvent => [AbiRegistry.contractEmittedEvent]
  | interface name _ => [name]
  | enumType name _ => [name]
  | unionType name _ => [name]
  | emptyParams name => [name]
  | typeAlias name _ => [name]
  | contractEventUnion _ => [AbiRegistry.contractEventUnion]
  | _ => []

def refersToTypes : Statement → List JsString
  | interface _ properties => properties.flatMap fun property => property.2.names
  | unionType _ cases => cases.flatMap fun unionCase => Shape.namesAll unionCase.2
  | typeAlias _ type => type.names
  | eventGuard _ interfaceName => [AbiRegistry.contractEmittedEvent, interfaceName]
  | contractEventUnion events =>
      events.flatMap fun event => [AbiRegistry.contractEmittedEvent, event.2]
  | assertExhaustiveContractEvent _ => [AbiRegistry.contractEventUnion]
  | _ => []

def constant? : Statement → Option (Scope.Constant JsString)
  | objectSchema name properties =>
      some ⟨schemaOf name, (properties.flatMap fun property => property.2.names).map schemaOf⟩
  | enumSchema name _ => some ⟨schemaOf name, []⟩
  | unionSchema name cases =>
      some ⟨schemaOf name,
        (cases.flatMap fun unionCase => Shape.namesAll unionCase.2).map schemaOf⟩
  | _ => none

def refersToSchemas : Statement → List JsString
  | eventGuard _ interfaceName => [schemaOf interfaceName]
  | statement => (statement.constant?.map Scope.Constant.uses).getD []

end Statement

def constants (statements : List Statement) : List (Scope.Constant JsString) :=
  statements.filterMap Statement.constant?

/-- A module whose names are declared once, are names, and are known where they are needed. -/
structure WellScoped (statements : List Statement) : Prop where
  distinct : (statements.flatMap Statement.declares).Nodup
  valid : ∀ name ∈ statements.flatMap Statement.declares,
    isIdentifier name = true ∧ name ∉ reservedWords
  types : ∀ name ∈ statements.flatMap Statement.refersToTypes,
    name ∈ statements.flatMap Statement.declaresTypes
  schemas : ∀ name ∈ statements.flatMap Statement.refersToSchemas,
    name ∈ (constants statements).map Scope.Constant.name
  initialised : (Scope.initialise [] (constants statements)).isSome

namespace ContractSpec

def statements (spec : ContractSpec) : List Statement :=
  (generateFromContractSpec spec).declarations ++ (generateFromContractSpec spec).schemas ++
    (generateFromContractSpec spec).guards

end ContractSpec

/-! ## Unique names -/

variable (base : JsString) (used : List JsString) (functions : List FunctionSpec)

theorem suffixed_injective : Function.Injective (suffixed base) := by
  intro first second same
  have texts := List.append_cancel_left same
  have ends : ∀ unit, ([] : JsString).head? = some unit → Digits.digit? unit = none := by
    intro unit none
    cases none
  have left := Digits.read_text (Digits.ofNat first) ends
  have right := Digits.read_text (Digits.ofNat second) ends
  rw [texts, right] at left
  have digits := (Prod.mk.inj left).1
  rw [← Digits.value_ofNat first, ← digits, Digits.value_ofNat]

theorem ensureUniqueName_not_mem : (ensureUniqueName base used).1 ∉ used := by
  rw [ensureUniqueName]
  split
  · exact Scope.firstFree_not_mem (suffixed base) used (suffixed_injective base) 2
  · rename_i free
    exact free

theorem ensureUniqueName_used :
    (ensureUniqueName base used).2 = (ensureUniqueName base used).1 :: used := by
  rw [ensureUniqueName]
  split <;> rfl

theorem ensureUniqueName_eq :
    ∃ digits, (ensureUniqueName base used).1 = base ++ Digits.text digits := by
  rw [ensureUniqueName]
  split
  · exact ⟨_, rfl⟩
  · exact ⟨[], (List.append_nil base).symm⟩

def uniqueNames : List JsString → List JsString → List JsString
  | _, [] => []
  | used, base :: rest =>
      (ensureUniqueName base used).1 :: uniqueNames (ensureUniqueName base used).2 rest

theorem uniqueNames_not_mem (bases : List JsString) :
    ∀ name ∈ uniqueNames used bases, name ∉ used := by
  induction bases generalizing used with
  | nil => exact fun _ inside => absurd inside List.not_mem_nil
  | cons base rest induction =>
      rw [uniqueNames]
      refine List.forall_mem_cons.mpr ⟨ensureUniqueName_not_mem base used, ?_⟩
      intro name inside taken
      apply induction _ name inside
      rw [ensureUniqueName_used]
      exact List.mem_cons_of_mem _ taken

theorem nodup_uniqueNames (bases : List JsString) : (uniqueNames used bases).Nodup := by
  induction bases generalizing used with
  | nil => exact List.nodup_nil
  | cons base rest induction =>
      rw [uniqueNames]
      refine List.nodup_cons.mpr ⟨?_, induction _⟩
      intro inside
      apply uniqueNames_not_mem _ _ _ inside
      rw [ensureUniqueName_used]
      exact List.mem_cons_self

theorem mem_uniqueNames {used bases : List JsString} :
    ∀ name ∈ uniqueNames used bases, ∃ base ∈ bases, ∃ digits,
      name = base ++ Digits.text digits := by
  induction bases generalizing used with
  | nil => exact fun _ inside => absurd inside List.not_mem_nil
  | cons base rest induction =>
      rw [uniqueNames]
      refine List.forall_mem_cons.mpr ⟨⟨base, List.mem_cons_self, ?_⟩, ?_⟩
      · exact ensureUniqueName_eq base used
      · intro name inside
        rcases induction name inside with ⟨other, member, shape⟩
        exact ⟨other, List.mem_cons_of_mem _ member, shape⟩

/-! ## The end of a name -/

def ending (name : JsString) : JsString :=
  (name.reverse.dropWhile isDigit).take 3

theorem ending_digits (name : JsString) (digits : List Digit) :
    ending (name ++ Digits.text digits) = ending name := by
  have all : ∀ unit ∈ (Digits.text digits).reverse, isDigit unit := by
    intro unit inside
    exact isDigit_text unit (List.mem_reverse.mp inside)
  rw [ending, List.reverse_append, List.dropWhile_append_of_pos all, ending]

variable {tail name : JsString}

theorem ending_append (letters : 3 ≤ (tail.reverse.dropWhile isDigit).length) (front : JsString) :
    ending (front ++ tail) = ending tail := by
  have nonempty : (tail.reverse.dropWhile isDigit).isEmpty = false := by
    rw [List.isEmpty_eq_false_iff]
    exact List.ne_nil_of_length_pos (by omega)
  rw [ending, ending, List.reverse_append, List.dropWhile_append, nonempty, if_neg (by decide),
    List.take_append_of_le_length letters]

theorem ending_schemaOf (name : JsString) : ending (schemaOf name) = ending (js "Schema") :=
  ending_append (by decide) name

/-! ## Names of a spec -/

def fieldRefs (fields : List FieldSpec) : List JsString :=
  fields.flatMap fun field => field.type.shape.names

namespace UserDefinedType

def refs : UserDefinedType → List JsString
  | struct _ _ fields => fieldRefs fields
  | enum _ _ _ => []
  | union _ _ cases => cases.flatMap fun unionCase => fieldRefs unionCase.fields

def declaredName (type : UserDefinedType) : JsString :=
  toPascalCase type.name

end UserDefinedType

def FunctionSpec.refs (function : FunctionSpec) : List JsString :=
  fieldRefs function.params ++ function.returns.shape.names

def functionBases (functions : List FunctionSpec) : List JsString :=
  functions.flatMap fun function =>
    [toPascalCase function.name ++ js "Params", toPascalCase function.name ++ js "Returns"]

def eventBases (events : List EventSpec) : List JsString :=
  events.map fun event => toPascalCase event.name ++ js "Event"

namespace ContractSpec

def udts (spec : ContractSpec) : List UserDefinedType :=
  spec.types.map Prod.snd

def typeNames (spec : ContractSpec) : List JsString :=
  spec.udts.map UserDefinedType.declaredName

def functionNames (spec : ContractSpec) : List JsString :=
  uniqueNames [] (functionBases spec.functions)

def eventNames (spec : ContractSpec) : List JsString :=
  uniqueNames [] (eventBases spec.events)

def imported (spec : ContractSpec) : List JsString :=
  if spec.events.length > 0 then [contractEmittedEvent] else []

end ContractSpec

theorem refs_toProperty (fields : List FieldSpec) :
    ((fields.map toProperty).flatMap fun property => property.2.names) = fieldRefs fields := by
  rw [List.flatMap_map]
  rfl

theorem refs_toCase (cases : List UnionCaseSpec) :
    ((cases.map toCase).flatMap fun unionCase => Shape.namesAll unionCase.2) =
      cases.flatMap fun unionCase => fieldRefs unionCase.fields := by
  rw [List.flatMap_map]
  congr 1
  funext unionCase
  rw [toCase, fieldRefs]
  induction unionCase.fields with
  | nil => rfl
  | cons field rest induction => rw [List.map_cons, Shape.namesAll, induction, List.flatMap_cons]

namespace UserDefinedType

variable (type : UserDefinedType)

theorem declares_declaration : type.declaration.declares = [type.declaredName] := by
  cases type <;> rfl

theorem declaresTypes_declaration : type.declaration.declaresTypes = [type.declaredName] := by
  cases type <;> rfl

theorem refersToTypes_declaration : type.declaration.refersToTypes = type.refs := by
  cases type with
  | struct name doc fields => exact refs_toProperty fields
  | enum name doc variants => rfl
  | union name doc cases => exact refs_toCase cases

theorem declares_schema : type.schema.declares = [schemaOf type.declaredName] := by
  cases type <;> rfl

theorem declaresTypes_schema : type.schema.declaresTypes = [] := by
  cases type <;> rfl

theorem refersToTypes_schema : type.schema.refersToTypes = [] := by
  cases type <;> rfl

theorem refersToSchemas_schema : type.schema.refersToSchemas = type.refs.map schemaOf := by
  cases type with
  | struct name doc fields => exact congrArg (List.map schemaOf) (refs_toProperty fields)
  | enum name doc variants => rfl
  | union name doc cases => exact congrArg (List.map schemaOf) (refs_toCase cases)

theorem constant?_schema :
    type.schema.constant? = some ⟨schemaOf type.declaredName, type.refs.map schemaOf⟩ := by
  cases type with
  | struct name doc fields =>
      rw [schema, Statement.constant?, refs_toProperty]
      rfl
  | enum name doc variants => rfl
  | union name doc cases =>
      rw [schema, Statement.constant?, refs_toCase]
      rfl

end UserDefinedType

/-! ## The names of the statements -/

theorem snd_nameEvents (events : List EventSpec) :
    (nameEvents used events).map Prod.snd = uniqueNames used (eventBases events) := by
  induction events generalizing used with
  | nil => rfl
  | cons event rest induction =>
      rw [nameEvents, List.map_cons, induction]
      rfl

theorem declares_paramsDeclaration (name : JsString) (params : List FieldSpec) :
    (paramsDeclaration name params).declares = [name] := by
  rw [paramsDeclaration]
  split <;> rfl

theorem declaresTypes_paramsDeclaration (name : JsString) (params : List FieldSpec) :
    (paramsDeclaration name params).declaresTypes = [name] := by
  rw [paramsDeclaration]
  split <;> rfl

theorem refersToTypes_paramsDeclaration (name : JsString) (params : List FieldSpec) :
    (paramsDeclaration name params).refersToTypes = fieldRefs params := by
  rw [paramsDeclaration]
  split
  · rename_i empty
    rw [List.eq_nil_of_length_eq_zero empty]
    rfl
  · exact refs_toProperty params

theorem constant?_paramsDeclaration (name : JsString) (params : List FieldSpec) :
    (paramsDeclaration name params).constant? = none := by
  rw [paramsDeclaration]
  split <;> rfl

theorem declares_functionDeclarations :
    (functionDeclarations used functions).flatMap Statement.declares =
      uniqueNames used (functionBases functions) := by
  induction functions generalizing used with
  | nil => rfl
  | cons function rest induction =>
      rw [functionDeclarations, List.flatMap_append, induction, List.flatMap_cons,
        declares_paramsDeclaration, functionBases, List.flatMap_cons]
      rfl

theorem declaresTypes_functionDeclarations :
    (functionDeclarations used functions).flatMap Statement.declaresTypes =
      uniqueNames used (functionBases functions) := by
  induction functions generalizing used with
  | nil => rfl
  | cons function rest induction =>
      rw [functionDeclarations, List.flatMap_append, induction, List.flatMap_cons,
        declaresTypes_paramsDeclaration, functionBases, List.flatMap_cons]
      rfl

theorem refersToTypes_functionDeclarations :
    (functionDeclarations used functions).flatMap Statement.refersToTypes =
      functions.flatMap FunctionSpec.refs := by
  induction functions generalizing used with
  | nil => rfl
  | cons function rest induction =>
      rw [functionDeclarations, List.flatMap_append, induction, List.flatMap_cons,
        refersToTypes_paramsDeclaration, List.flatMap_cons]
      have returns : ∀ name, (Statement.typeAlias name function.returns.shape).refersToTypes ++
          [Statement.blank].flatMap Statement.refersToTypes = function.returns.shape.names :=
        fun name => List.append_nil _
      rw [returns]
      rfl

theorem constants_functionDeclarations : constants (functionDeclarations used functions) = [] := by
  rw [constants, List.filterMap_eq_nil_iff]
  induction functions generalizing used with
  | nil => exact fun _ inside => absurd inside List.not_mem_nil
  | cons function rest induction =>
      rw [functionDeclarations]
      refine List.forall_mem_append.mpr ⟨?_, induction _⟩
      exact List.forall_mem_cons.mpr ⟨constant?_paramsDeclaration _ _,
        List.forall_mem_cons.mpr ⟨rfl, List.forall_mem_singleton.mpr rfl⟩⟩

theorem refersToSchemas_functionDeclarations :
    (functionDeclarations used functions).flatMap Statement.refersToSchemas = [] := by
  induction functions generalizing used with
  | nil => rfl
  | cons function rest induction =>
      rw [functionDeclarations, List.flatMap_append, induction, List.flatMap_cons,
        paramsDeclaration]
      split <;> rfl

theorem flatMap_blank {Name : Type} (read : Statement → List Name) (blank : read .blank = [])
    {Item : Type} (statement : Item → Statement) (items : List Item) :
    (items.flatMap fun item => [statement item, .blank]).flatMap read =
      items.flatMap fun item => read (statement item) := by
  rw [List.flatMap_assoc]
  congr 1
  funext item
  rw [List.flatMap_cons, List.flatMap_cons, blank, List.flatMap_nil, List.append_nil,
    List.append_nil]

namespace ContractSpec

variable (spec : ContractSpec)

variable {Part : Type}

theorem flatMap_statements (read : Statement → List Part) (blank : read .blank = []) :
    spec.statements.flatMap read =
      (if spec.events.length > 0 then
          [Statement.importContractEmittedEvent] else []).flatMap read ++ read .importZod ++
        spec.udts.flatMap (fun type => read type.declaration) ++
        (functionDeclarations [] spec.functions).flatMap read ++
        (nameEvents [] spec.events).flatMap
          (fun event => read (.interface event.2 (event.1.data.map toProperty))) ++
        spec.udts.flatMap (fun type => read type.schema) ++
        (nameEvents [] spec.events).flatMap
          (fun event => read (.objectSchema event.2 (event.1.data.map toProperty))) ++
        (nameEvents [] spec.events).flatMap
          (fun event => read (.eventGuard event.1.name event.2)) ++
        read (.contractEventUnion
          ((nameEvents [] spec.events).map fun event => (event.1.name, event.2))) ++
        read (.assertExhaustiveContractEvent (spec.events.map EventSpec.name)) := by
  rw [statements, generateFromContractSpec, generateUdtDeclarations, generateEventDeclarations,
    generateFunctionDeclarations, ← udts]
  simp only [List.flatMap_append, flatMap_blank read blank, List.flatMap_cons, List.flatMap_nil,
    blank, List.append_nil, List.nil_append, List.append_assoc]

theorem flatMap_nameEvents (read : JsString → List Part) :
    (nameEvents [] spec.events).flatMap (fun event => read event.2) =
      spec.eventNames.flatMap read := by
  rw [eventNames, ← snd_nameEvents, List.flatMap_map]

theorem flatMap_imports (read : Statement → List Part) :
    (if spec.events.length > 0 then [Statement.importContractEmittedEvent] else []).flatMap read =
      if spec.events.length > 0 then read .importContractEmittedEvent else [] := by
  split
  · exact List.flatMap_singleton ..
  · rfl

theorem declares_statements :
    spec.statements.flatMap Statement.declares =
      spec.imported ++ [zodName] ++ spec.typeNames ++ spec.functionNames ++ spec.eventNames ++
        spec.typeNames.map schemaOf ++ spec.eventNames.map schemaOf ++
        spec.eventNames.map guardOf ++ [contractEventUnion] ++ [assertExhaustive] := by
  rw [flatMap_statements spec _ rfl, flatMap_imports, declares_functionDeclarations]
  have types : spec.udts.flatMap (fun type => type.declaration.declares) = spec.typeNames := by
    simp only [UserDefinedType.declares_declaration]
    exact List.map_eq_flatMap.symm
  have schemas : spec.udts.flatMap (fun type => type.schema.declares) =
      spec.typeNames.map schemaOf := by
    simp only [UserDefinedType.declares_schema]
    rw [typeNames, List.map_map]
    exact List.map_eq_flatMap.symm
  rw [types, schemas]
  simp only [Statement.declares]
  rw [flatMap_nameEvents spec fun name => [name], flatMap_nameEvents spec fun name =>
    [schemaOf name], flatMap_nameEvents spec fun name => [guardOf name], List.flatMap_singleton',
    ← List.map_eq_flatMap, ← List.map_eq_flatMap]
  rfl

def knownTypes : List JsString :=
  spec.imported ++ spec.typeNames ++ spec.functionNames ++ spec.eventNames ++
    [contractEventUnion]

theorem declaresTypes_statements :
    spec.statements.flatMap Statement.declaresTypes = spec.knownTypes := by
  rw [flatMap_statements spec _ rfl, flatMap_imports, declaresTypes_functionDeclarations]
  have types : spec.udts.flatMap (fun type => type.declaration.declaresTypes) =
      spec.typeNames := by
    simp only [UserDefinedType.declaresTypes_declaration]
    exact List.map_eq_flatMap.symm
  have schemas : spec.udts.flatMap (fun type => type.schema.declaresTypes) = [] := by
    simp only [UserDefinedType.declaresTypes_schema]
    exact List.flatMap_eq_nil_iff.mpr fun _ _ => rfl
  have none : (nameEvents [] spec.events).flatMap (fun _ => ([] : List JsString)) = [] :=
    List.flatMap_eq_nil_iff.mpr fun _ _ => rfl
  rw [types, schemas]
  simp only [none, Statement.declaresTypes, List.append_nil]
  rw [flatMap_nameEvents spec fun name => [name], List.flatMap_singleton']
  rfl

theorem refersToTypes_statements :
    spec.statements.flatMap Statement.refersToTypes =
      spec.udts.flatMap UserDefinedType.refs ++ spec.functions.flatMap FunctionSpec.refs ++
        (nameEvents [] spec.events).flatMap (fun event => fieldRefs event.1.data) ++
        spec.eventNames.flatMap (fun name => [contractEmittedEvent, name]) ++
        spec.eventNames.flatMap (fun name => [contractEmittedEvent, name]) ++
        [contractEventUnion] := by
  rw [flatMap_statements spec _ rfl, flatMap_imports, refersToTypes_functionDeclarations]
  have schemas : spec.udts.flatMap (fun type => type.schema.refersToTypes) = [] := by
    simp only [UserDefinedType.refersToTypes_schema]
    exact List.flatMap_eq_nil_iff.mpr fun _ _ => rfl
  have none : (nameEvents [] spec.events).flatMap (fun _ => ([] : List JsString)) = [] :=
    List.flatMap_eq_nil_iff.mpr fun _ _ => rfl
  rw [schemas]
  simp only [UserDefinedType.refersToTypes_declaration]
  simp only [none, Statement.refersToTypes, refs_toProperty, ite_self, List.nil_append,
    List.append_nil]
  rw [List.flatMap_map, flatMap_nameEvents spec fun name => [contractEmittedEvent, name]]

theorem refersToSchemas_statements :
    spec.statements.flatMap Statement.refersToSchemas =
      spec.udts.flatMap (fun type => type.refs.map schemaOf) ++
        (nameEvents [] spec.events).flatMap
          (fun event => (fieldRefs event.1.data).map schemaOf) ++
        spec.eventNames.map schemaOf := by
  rw [flatMap_statements spec _ rfl, flatMap_imports, refersToSchemas_functionDeclarations]
  have declarations : spec.udts.flatMap (fun type => type.declaration.refersToSchemas) = [] :=
    List.flatMap_eq_nil_iff.mpr fun type _ => by cases type <;> rfl
  have none : (nameEvents [] spec.events).flatMap (fun _ => ([] : List JsString)) = [] :=
    List.flatMap_eq_nil_iff.mpr fun _ _ => rfl
  rw [declarations]
  simp only [UserDefinedType.refersToSchemas_schema]
  simp only [none, Statement.refersToSchemas, Statement.constant?, refs_toProperty, ite_self,
    Option.map_none, Option.map_some, Option.getD_none, Option.getD_some, List.nil_append,
    List.append_nil]
  rw [flatMap_nameEvents spec fun name => [schemaOf name], ← List.map_eq_flatMap]

def typeConstant (type : UserDefinedType) : Scope.Constant JsString :=
  ⟨schemaOf type.declaredName, type.refs.map schemaOf⟩

def eventConstant (event : EventSpec × JsString) : Scope.Constant JsString :=
  ⟨schemaOf event.2, (fieldRefs event.1.data).map schemaOf⟩

theorem constants_statements :
    constants spec.statements =
      spec.udts.map typeConstant ++ (nameEvents [] spec.events).map eventConstant := by
  have functions := constants_functionDeclarations [] spec.functions
  rw [constants, List.filterMap_eq_flatMap_toList] at functions ⊢
  rw [flatMap_statements spec _ rfl, flatMap_imports, functions]
  have declarations : spec.udts.flatMap (fun type => type.declaration.constant?.toList) = [] :=
    List.flatMap_eq_nil_iff.mpr fun type _ => by cases type <;> rfl
  have none : (nameEvents [] spec.events).flatMap
      (fun _ => ([] : List (Scope.Constant JsString))) = [] :=
    List.flatMap_eq_nil_iff.mpr fun _ _ => rfl
  rw [declarations]
  simp only [UserDefinedType.constant?_schema]
  simp only [none, Statement.constant?, refs_toProperty, Option.toList_none,
    Option.toList_some, ite_self, List.nil_append, List.append_nil, ← List.map_eq_flatMap]
  rfl

end ContractSpec

/-! ## Valid names -/

structure Wordlike (name : JsString) : Prop where
  alphanumeric : name.all isAlphanumeric = true
  letter : name.head?.any isDigit = false

theorem Wordlike.append (word : Wordlike name) (last : Wordlike tail) :
    Wordlike (name ++ tail) where
  alphanumeric := by
    rw [List.all_append, word.alphanumeric, last.alphanumeric]
    rfl
  letter := by
    cases name with
    | nil => exact last.letter
    | cons unit name => exact word.letter

theorem Wordlike.append_of_ne_nil (word : Wordlike name) (nonempty : name ≠ [])
    (alphanumeric : tail.all isAlphanumeric = true) : Wordlike (name ++ tail) where
  alphanumeric := by
    rw [List.all_append, word.alphanumeric, alphanumeric]
    rfl
  letter := by
    cases name with
    | nil => exact absurd rfl nonempty
    | cons unit name => exact word.letter

theorem Wordlike.isIdentifier (word : Wordlike name) (nonempty : name ≠ []) :
    isIdentifier name = true := by
  cases name with
  | nil => exact absurd rfl nonempty
  | cons first rest =>
      have alphanumeric := word.alphanumeric
      rw [List.all_cons, Bool.and_eq_true] at alphanumeric
      rcases alphanumeric with ⟨known, others⟩
      have letter : isDigit first = false := word.letter
      rw [isAlphanumeric, letter, Bool.or_false] at known
      rw [AbiRegistry.isIdentifier, known, Bool.true_or, Bool.true_and, List.all_eq_true]
      intro unit inside
      have alphanumeric := List.all_eq_true.mp others unit inside
      rw [isAlphanumeric, isDigit, Bool.or_eq_true] at alphanumeric
      rcases alphanumeric with letter | digit
      · rw [letter, Bool.true_or, Bool.true_or]
      · rw [digit, Bool.or_true]

theorem wordlike_toPascalCase (value : JsString) : Wordlike (toPascalCase value) where
  alphanumeric := List.all_eq_true.mpr isAlphanumeric_toPascalCase
  letter := by
    have kept := List.head?_dropWhile_not isDigit (capitalize true value)
    rw [toPascalCase]
    cases head : ((capitalize true value).dropWhile isDigit).head? with
    | none => rfl
    | some first =>
        rw [head] at kept
        exact kept

theorem all_isAlphanumeric_text (digits : List Digit) :
    (Digits.text digits).all isAlphanumeric = true := by
  rw [List.all_eq_true]
  intro unit inside
  rw [isAlphanumeric, isDigit_text unit inside, Bool.or_true]

namespace ContractSpec

variable (spec : ContractSpec)

variable {name : JsString}

theorem mem_typeNames (inside : name ∈ spec.typeNames) : ∃ value, name = toPascalCase value := by
  rcases List.mem_map.mp inside with ⟨type, -, rfl⟩
  exact ⟨type.name, rfl⟩

theorem mem_functionNames (inside : name ∈ spec.functionNames) :
    ∃ value tail digits, tail ∈ [js "Params", js "Returns"] ∧
      name = toPascalCase value ++ tail ++ Digits.text digits := by
  rcases mem_uniqueNames name inside with ⟨base, member, digits, rfl⟩
  rcases List.mem_flatMap.mp member with ⟨function, -, either⟩
  rcases List.mem_cons.mp either with rfl | last
  · exact ⟨function.name, js "Params", digits, by decide, rfl⟩
  · rw [List.mem_singleton.mp last]
    exact ⟨function.name, js "Returns", digits, by decide, rfl⟩

theorem mem_eventNames (inside : name ∈ spec.eventNames) :
    ∃ value digits, name = toPascalCase value ++ js "Event" ++ Digits.text digits := by
  rcases mem_uniqueNames name inside with ⟨base, member, digits, rfl⟩
  rcases List.mem_map.mp member with ⟨event, -, rfl⟩
  exact ⟨event.name, digits, rfl⟩

theorem ending_functionNames (inside : name ∈ spec.functionNames) :
    ending name ∈ [ending (js "Params"), ending (js "Returns")] := by
  rcases spec.mem_functionNames inside with ⟨value, tail, digits, known, rfl⟩
  have letters : ∀ tail ∈ [js "Params", js "Returns"],
      3 ≤ (tail.reverse.dropWhile isDigit).length := by
    decide
  rw [ending_digits, ending_append (letters tail known)]
  exact List.mem_map_of_mem (f := ending) known

theorem ending_eventNames (inside : name ∈ spec.eventNames) :
    ending name = ending (js "Event") := by
  rcases spec.mem_eventNames inside with ⟨value, digits, rfl⟩
  rw [ending_digits, ending_append (by decide)]

theorem ending_guardOf (inside : name ∈ spec.eventNames) :
    ending (guardOf name) = ending (js "Event") := by
  rcases spec.mem_eventNames inside with ⟨value, digits, rfl⟩
  rw [guardOf, ← List.append_assoc, ending_digits, ← List.append_assoc,
    ending_append (by decide)]

theorem wordlike_functionNames (inside : name ∈ spec.functionNames) :
    Wordlike name ∧ name ≠ [] := by
  rcases spec.mem_functionNames inside with ⟨value, tail, digits, known, rfl⟩
  have tails : Wordlike tail ∧ tail ≠ [] := by
    rcases List.mem_cons.mp known with rfl | last
    · exact ⟨⟨by decide, by decide⟩, by decide⟩
    · rw [List.mem_singleton.mp last]
      exact ⟨⟨by decide, by decide⟩, by decide⟩
  have some : toPascalCase value ++ tail ≠ [] := List.append_ne_nil_of_right_ne_nil _ tails.2
  exact ⟨((wordlike_toPascalCase value).append tails.1).append_of_ne_nil some
    (all_isAlphanumeric_text digits), List.append_ne_nil_of_left_ne_nil some _⟩

theorem wordlike_eventNames (inside : name ∈ spec.eventNames) : Wordlike name ∧ name ≠ [] := by
  rcases spec.mem_eventNames inside with ⟨value, digits, rfl⟩
  have tail : Wordlike (js "Event") := ⟨by decide, by decide⟩
  have some : toPascalCase value ++ js "Event" ≠ [] :=
    List.append_ne_nil_of_right_ne_nil _ (by decide)
  exact ⟨((wordlike_toPascalCase value).append tail).append_of_ne_nil some
    (all_isAlphanumeric_text digits), List.append_ne_nil_of_left_ne_nil some _⟩

theorem wordlike_schemaOf (word : Wordlike name) : Wordlike (schemaOf name) :=
  word.append ⟨by decide, by decide⟩

theorem wordlike_guardOf (word : Wordlike name) : Wordlike (guardOf name) :=
  Wordlike.append ⟨by decide, by decide⟩ word

theorem not_reserved
    (known : ending name ∈ [js "Params", js "Returns", js "Schema", js "Event"].map ending) :
    name ∉ reservedWords := by
  have endings : ∀ word ∈ reservedWords,
      ending word ∉ [js "Params", js "Returns", js "Schema", js "Event"].map ending := by
    decide
  exact fun reserved => endings name reserved known

/-! ## The condition -/

def otherNames : List JsString :=
  spec.functionNames ++ ((spec.typeNames.map schemaOf ++ spec.eventNames.map schemaOf) ++
    ([zodName, contractEventUnion] ++ (spec.eventNames ++
      (spec.eventNames.map guardOf ++ (spec.imported ++ [assertExhaustive])))))

structure WellNamed : Prop where
  distinct : spec.typeNames.Nodup
  valid : ∀ name ∈ spec.typeNames, name ≠ [] ∧ name ∉ reservedWords
  apart : ∀ name ∈ spec.typeNames, name ∉ spec.otherNames
  eventsApart : ∀ name ∈ spec.eventNames, name ∉ spec.eventNames.map guardOf ∧
    name ≠ contractEmittedEvent ∧ name ≠ assertExhaustive
  functionRefs : ∀ function ∈ spec.functions, ∀ name ∈ function.refs, name ∈ spec.knownTypes
  typeRefs : ∀ front type back, spec.udts = front ++ type :: back →
    ∀ name ∈ type.refs, name ∈ front.map UserDefinedType.declaredName
  eventRefs : ∀ front event back, nameEvents [] spec.events = front ++ event :: back →
    ∀ name ∈ fieldRefs event.1.data, name ∈ spec.typeNames ∨ name ∈ front.map Prod.snd

theorem schemaOf_injective : Function.Injective schemaOf :=
  fun _ _ same => List.append_cancel_right same

theorem guardOf_injective : Function.Injective guardOf :=
  fun _ _ same => List.append_cancel_left same

theorem mem_imported (inside : name ∈ spec.imported) : name = contractEmittedEvent := by
  rw [imported] at inside
  split at inside
  · exact List.mem_singleton.mp inside
  · cases inside

theorem ne_of_ending {first second : List JsString} (endings : List JsString)
    (left : ∀ name ∈ first, ending name ∈ endings)
    (right : ∀ name ∈ second, ending name ∉ endings) :
    ∀ one ∈ first, ∀ other ∈ second, one ≠ other := by
  intro one inFirst other inSecond same
  exact right other inSecond (same ▸ left one inFirst)

theorem ending_besides : ∀ name ∈ spec.eventNames ++
    (spec.eventNames.map guardOf ++ (spec.imported ++ [assertExhaustive])),
    ending name = ending (js "Event") := by
  refine List.forall_mem_append.mpr ⟨fun _ => spec.ending_eventNames,
    List.forall_mem_append.mpr ⟨?_, List.forall_mem_append.mpr ⟨?_, by decide⟩⟩⟩
  · exact List.forall_mem_map.mpr fun _ => spec.ending_guardOf
  · intro name inside
    rw [spec.mem_imported inside]
    rfl

theorem ending_schemas : ∀ name ∈ spec.typeNames.map schemaOf ++ spec.eventNames.map schemaOf,
    ending name = ending (js "Schema") :=
  List.forall_mem_append.mpr ⟨List.forall_mem_map.mpr fun name _ => ending_schemaOf name,
    List.forall_mem_map.mpr fun name _ => ending_schemaOf name⟩

theorem nodup_besides :
    (spec.eventNames.map guardOf ++ (spec.imported ++ [assertExhaustive])).Nodup := by
  have fixed : (spec.imported ++ [assertExhaustive]).Nodup := by
    rw [imported]
    split <;> decide
  refine List.nodup_append.mpr ⟨(nodup_uniqueNames _ _).map guardOf_injective, fixed, ?_⟩
  have first : ∀ name ∈ spec.imported ++ [assertExhaustive], name.head? ≠ some 0x69 := by
    refine List.forall_mem_append.mpr ⟨?_, by decide⟩
    intro name inside
    rw [spec.mem_imported inside]
    decide
  intro guard isGuard name inside same
  rcases List.mem_map.mp isGuard with ⟨event, -, rfl⟩
  exact first name inside (same ▸ rfl)

theorem nodup_otherNames_iff (distinct : spec.typeNames.Nodup)
    (apart : ∀ name ∈ spec.typeNames, name ∉ spec.eventNames) :
    spec.otherNames.Nodup ↔ ∀ one ∈ spec.eventNames,
      ∀ other ∈ spec.eventNames.map guardOf ++ (spec.imported ++ [assertExhaustive]),
        one ≠ other := by
  have events : spec.eventNames.Nodup := nodup_uniqueNames _ _
  have besides := spec.ending_besides
  have schemas := spec.ending_schemas
  have fixed : ∀ name ∈ [zodName, contractEventUnion], ending name ∉
      [js "Params", js "Returns", js "Schema", js "Event"].map ending := by
    decide
  have nodupSchemas :
      (spec.typeNames.map schemaOf ++ spec.eventNames.map schemaOf).Nodup := by
    refine List.nodup_append.mpr ⟨distinct.map schemaOf_injective,
      events.map schemaOf_injective, ?_⟩
    intro one isType other isEvent same
    rcases List.mem_map.mp isType with ⟨type, inTypes, rfl⟩
    rcases List.mem_map.mp isEvent with ⟨event, inEvents, rfl⟩
    exact apart type inTypes (schemaOf_injective same ▸ inEvents)
  have fixedApart : ∀ one ∈ [zodName, contractEventUnion], ∀ other ∈ spec.eventNames ++
      (spec.eventNames.map guardOf ++ (spec.imported ++ [assertExhaustive])), one ≠ other := by
    intro one inFixed other inside same
    apply fixed one inFixed
    rw [same, besides other inside]
    decide
  have schemasApart : ∀ one ∈ spec.typeNames.map schemaOf ++ spec.eventNames.map schemaOf,
      ∀ other ∈ [zodName, contractEventUnion] ++ (spec.eventNames ++
        (spec.eventNames.map guardOf ++ (spec.imported ++ [assertExhaustive]))),
      one ≠ other := by
    apply ne_of_ending [ending (js "Schema")]
    · intro name inside
      rw [schemas name inside]
      exact List.mem_singleton_self _
    · refine List.forall_mem_append.mpr ⟨by decide, ?_⟩
      intro name inside
      rw [besides name inside]
      decide
  have functionsApart : ∀ one ∈ spec.functionNames,
      ∀ other ∈ (spec.typeNames.map schemaOf ++ spec.eventNames.map schemaOf) ++
        ([zodName, contractEventUnion] ++ (spec.eventNames ++
          (spec.eventNames.map guardOf ++ (spec.imported ++ [assertExhaustive])))),
      one ≠ other := by
    apply ne_of_ending [ending (js "Params"), ending (js "Returns")]
    · exact fun _ => spec.ending_functionNames
    · refine List.forall_mem_append.mpr ⟨?_, List.forall_mem_append.mpr ⟨by decide, ?_⟩⟩
      · intro name inside
        rw [schemas name inside]
        decide
      · intro name inside
        rw [besides name inside]
        decide
  constructor
  · intro nodup
    have behindFunctions := (List.nodup_append.mp nodup).2.1
    have behindSchemas := (List.nodup_append.mp behindFunctions).2.1
    have behindFixed := (List.nodup_append.mp behindSchemas).2.1
    exact (List.nodup_append.mp behindFixed).2.2
  · intro eventsApart
    exact List.nodup_append.mpr ⟨nodup_uniqueNames _ _, List.nodup_append.mpr ⟨nodupSchemas,
      List.nodup_append.mpr ⟨by decide, List.nodup_append.mpr ⟨events, spec.nodup_besides,
        eventsApart⟩, fixedApart⟩, schemasApart⟩, functionsApart⟩

theorem declares_perm :
    (spec.statements.flatMap Statement.declares).Perm (spec.typeNames ++ spec.otherNames) := by
  rw [declares_statements, otherNames, List.perm_iff_count]
  intro name
  simp only [List.count_append, List.count_cons, List.count_nil]
  omega

theorem events_nonempty (inside : name ∈ spec.eventNames) :
    spec.imported = [contractEmittedEvent] := by
  have some : spec.events.length > 0 := by
    cases empty : spec.events with
    | nil =>
        rw [eventNames, empty] at inside
        cases inside
    | cons event rest => exact Nat.zero_lt_succ _
  rw [imported, if_pos some]

theorem nodup_declares_iff :
    (spec.statements.flatMap Statement.declares).Nodup ↔
      spec.typeNames.Nodup ∧ (∀ name ∈ spec.typeNames, name ∉ spec.otherNames) ∧
        ∀ name ∈ spec.eventNames, name ∉ spec.eventNames.map guardOf ∧
          name ≠ contractEmittedEvent ∧ name ≠ assertExhaustive := by
  have eventsOther : ∀ name ∈ spec.eventNames, name ∈ spec.otherNames := by
    intro name inside
    rw [otherNames]
    simp only [List.mem_append]
    tauto
  have besides : (∀ one ∈ spec.eventNames,
      ∀ other ∈ spec.eventNames.map guardOf ++ (spec.imported ++ [assertExhaustive]),
        one ≠ other) ↔
      ∀ name ∈ spec.eventNames, name ∉ spec.eventNames.map guardOf ∧
        name ≠ contractEmittedEvent ∧ name ≠ assertExhaustive := by
    refine forall₂_congr fun name inside => ?_
    rw [spec.events_nonempty inside, List.forall_mem_append, List.forall_mem_append,
      List.forall_mem_singleton, List.forall_mem_singleton]
    refine and_congr_left' ⟨fun all member => all name member rfl, ?_⟩
    intro free other member same
    exact free (same ▸ member)
  rw [spec.declares_perm.nodup_iff, List.nodup_append]
  constructor
  · rintro ⟨distinct, others, apart⟩
    have free : ∀ name ∈ spec.typeNames, name ∉ spec.otherNames :=
      fun name inside member => apart name inside name member rfl
    refine ⟨distinct, free, besides.mp ?_⟩
    exact (spec.nodup_otherNames_iff distinct fun name inside member =>
      free name inside (eventsOther name member)).mp others
  · rintro ⟨distinct, free, events⟩
    refine ⟨distinct, ?_, fun one inside other member same => free one inside (same ▸ member)⟩
    exact (spec.nodup_otherNames_iff distinct fun name inside member =>
      free name inside (eventsOther name member)).mpr (besides.mpr events)

theorem valid_declares_iff :
    (∀ name ∈ spec.statements.flatMap Statement.declares,
      isIdentifier name = true ∧ name ∉ reservedWords) ↔
      ∀ name ∈ spec.typeNames, name ≠ [] ∧ name ∉ reservedWords := by
  have perm := spec.declares_perm
  constructor
  · intro valid name inside
    rcases valid name (perm.mem_iff.mpr (List.mem_append_left _ inside)) with ⟨identifier, free⟩
    refine ⟨?_, free⟩
    rintro rfl
    cases identifier
  · intro types
    have typesValid : ∀ name ∈ spec.typeNames, Wordlike name ∧ name ≠ [] := by
      intro name inside
      rcases spec.mem_typeNames inside with ⟨value, rfl⟩
      exact ⟨wordlike_toPascalCase value, (types _ inside).1⟩
    have valid : ∀ name ∈ spec.otherNames, isIdentifier name = true ∧ name ∉ reservedWords := by
      refine List.forall_mem_append.mpr ⟨?functions, List.forall_mem_append.mpr ⟨?schemas,
        List.forall_mem_append.mpr ⟨?fixed, List.forall_mem_append.mpr ⟨?events,
          List.forall_mem_append.mpr ⟨?guards, ?brought⟩⟩⟩⟩⟩
      case functions =>
        intro name inside
        rcases spec.wordlike_functionNames inside with ⟨word, nonempty⟩
        refine ⟨word.isIdentifier nonempty, not_reserved ?_⟩
        rcases List.mem_cons.mp (spec.ending_functionNames inside) with params | returns
        · rw [params]
          decide
        · rw [List.mem_singleton.mp returns]
          decide
      case schemas =>
        have all : ∀ name, Wordlike name → name ≠ [] →
            isIdentifier (schemaOf name) = true ∧ schemaOf name ∉ reservedWords := by
          intro name word nonempty
          refine ⟨(wordlike_schemaOf word).isIdentifier
            (List.append_ne_nil_of_left_ne_nil nonempty _), not_reserved ?_⟩
          rw [ending_schemaOf]
          decide
        refine List.forall_mem_append.mpr ⟨List.forall_mem_map.mpr ?_,
          List.forall_mem_map.mpr ?_⟩
        · exact fun name inside => all name (typesValid name inside).1 (typesValid name inside).2
        · exact fun name inside => all name (spec.wordlike_eventNames inside).1
            (spec.wordlike_eventNames inside).2
      case fixed => decide
      case events =>
        intro name inside
        rcases spec.wordlike_eventNames inside with ⟨word, nonempty⟩
        refine ⟨word.isIdentifier nonempty, not_reserved ?_⟩
        rw [spec.ending_eventNames inside]
        decide
      case guards =>
        refine List.forall_mem_map.mpr fun name inside => ?_
        rcases spec.wordlike_eventNames inside with ⟨word, -⟩
        refine ⟨(wordlike_guardOf word).isIdentifier (List.cons_ne_nil _ _), not_reserved ?_⟩
        rw [spec.ending_guardOf inside]
        decide
      case brought =>
        refine List.forall_mem_append.mpr ⟨?_, by decide⟩
        intro name inside
        rw [spec.mem_imported inside]
        decide
    intro name inside
    rcases List.mem_append.mp (perm.mem_iff.mp inside) with type | other
    · exact ⟨(typesValid name type).1.isIdentifier (typesValid name type).2, (types name type).2⟩
    · exact valid name other

/-! ## References -/

theorem mem_map_schemaOf {names : List JsString} :
    schemaOf name ∈ names.map schemaOf ↔ name ∈ names :=
  List.mem_map_of_injective schemaOf_injective

/-- The constants of the types get their values if types refer to earlier types. -/
theorem types_initialised_iff :
    (∃ known, Scope.initialise [] (spec.udts.map typeConstant) = some known) ↔
      ∀ front type back, spec.udts = front ++ type :: back →
        ∀ name ∈ type.refs, name ∈ front.map UserDefinedType.declaredName := by
  rw [Scope.initialise_map_iff]
  refine forall_congr' fun front => forall_congr' fun type => forall_congr' fun back =>
    forall_congr' fun _ => ?_
  have names : (front.map fun type => (typeConstant type).name) =
      (front.map UserDefinedType.declaredName).map schemaOf := by
    rw [List.map_map]
    rfl
  rw [names, typeConstant, List.forall_mem_map]
  refine forall₂_congr fun name _ => ?_
  rw [mem_map_schemaOf, or_iff_right List.not_mem_nil]

variable {known : List JsString}

theorem events_initialised_iff (types : ∀ name, schemaOf name ∈ known ↔ name ∈ spec.typeNames) :
    (∃ result, Scope.initialise known ((nameEvents [] spec.events).map eventConstant) =
        some result) ↔
      ∀ front event back, nameEvents [] spec.events = front ++ event :: back →
        ∀ name ∈ fieldRefs event.1.data,
          name ∈ spec.typeNames ∨ name ∈ front.map Prod.snd := by
  rw [Scope.initialise_map_iff]
  refine forall_congr' fun front => forall_congr' fun event => forall_congr' fun back =>
    forall_congr' fun _ => ?_
  have names : (front.map fun event => (eventConstant event).name) =
      (front.map Prod.snd).map schemaOf := by
    rw [List.map_map]
    rfl
  rw [names, eventConstant, List.forall_mem_map]
  refine forall₂_congr fun name _ => ?_
  rw [mem_map_schemaOf, types]

theorem mem_known_types
    (initialised : Scope.initialise [] (spec.udts.map typeConstant) = some known)
    (name : JsString) : schemaOf name ∈ known ↔ name ∈ spec.typeNames := by
  have names : (spec.udts.map typeConstant).map Scope.Constant.name =
      spec.typeNames.map schemaOf := by
    rw [typeNames, List.map_map, List.map_map]
    rfl
  rw [Scope.mem_initialise initialised, names, mem_map_schemaOf,
    or_iff_left List.not_mem_nil]

theorem initialised_iff :
    (Scope.initialise [] (constants spec.statements)).isSome ↔
      (∀ front type back, spec.udts = front ++ type :: back →
        ∀ name ∈ type.refs, name ∈ front.map UserDefinedType.declaredName) ∧
      ∀ front event back, nameEvents [] spec.events = front ++ event :: back →
        ∀ name ∈ fieldRefs event.1.data,
          name ∈ spec.typeNames ∨ name ∈ front.map Prod.snd := by
  rw [constants_statements, Scope.initialise_append, Option.isSome_iff_exists,
    ← types_initialised_iff]
  constructor
  · rintro ⟨result, initialised⟩
    rcases Option.bind_eq_some_iff.mp initialised with ⟨known, types, events⟩
    exact ⟨⟨known, types⟩,
      (spec.events_initialised_iff (spec.mem_known_types types)).mp ⟨result, events⟩⟩
  · rintro ⟨⟨known, types⟩, refs⟩
    rcases (spec.events_initialised_iff (spec.mem_known_types types)).mpr refs with
      ⟨result, events⟩
    exact ⟨result, Option.bind_eq_some_iff.mpr ⟨known, types, events⟩⟩

theorem refs_of_before {Item : Type} {items : List Item} {refs : Item → List JsString}
    {name : Item → JsString} {known : JsString → Prop}
    (before : ∀ front item back, items = front ++ item :: back →
      ∀ ref ∈ refs item, known ref ∨ ref ∈ front.map name) :
    ∀ item ∈ items, ∀ ref ∈ refs item, known ref ∨ ref ∈ items.map name := by
  intro item inside ref member
  rcases List.append_of_mem inside with ⟨front, back, same⟩
  refine (before front item back same ref member).imp_right fun within => ?_
  rw [same, List.map_append]
  exact List.mem_append_left _ within

section References

variable (typeRefs : ∀ front type back, spec.udts = front ++ type :: back →
    ∀ name ∈ type.refs, name ∈ front.map UserDefinedType.declaredName)
  (eventRefs : ∀ front event back, nameEvents [] spec.events = front ++ event :: back →
    ∀ name ∈ fieldRefs event.1.data, name ∈ spec.typeNames ∨ name ∈ front.map Prod.snd)

include typeRefs in
theorem typeRefs_known : ∀ type ∈ spec.udts, ∀ name ∈ type.refs, name ∈ spec.typeNames := by
  intro type inside name member
  have before : ∀ front type back, spec.udts = front ++ type :: back → ∀ name ∈ type.refs,
      False ∨ name ∈ front.map UserDefinedType.declaredName :=
    fun front type back same name member => .inr (typeRefs front type back same name member)
  exact (refs_of_before before type inside name member).resolve_left id

include eventRefs in
theorem eventRefs_known : ∀ event ∈ nameEvents [] spec.events,
    ∀ name ∈ fieldRefs event.1.data, name ∈ spec.typeNames ∨ name ∈ spec.eventNames := by
  rw [eventNames, ← snd_nameEvents]
  exact refs_of_before eventRefs

include typeRefs eventRefs

theorem types_iff :
    (∀ name ∈ spec.statements.flatMap Statement.refersToTypes,
      name ∈ spec.statements.flatMap Statement.declaresTypes) ↔
      ∀ function ∈ spec.functions, ∀ name ∈ function.refs, name ∈ spec.knownTypes := by
  have types : ∀ name ∈ spec.typeNames, name ∈ spec.knownTypes := by
    intro name inside
    simp only [knownTypes, List.mem_append]
    tauto
  have events : ∀ name ∈ spec.eventNames, name ∈ spec.knownTypes := by
    intro name inside
    simp only [knownTypes, List.mem_append]
    tauto
  rw [refersToTypes_statements, declaresTypes_statements]
  simp only [List.forall_mem_append, List.forall_mem_flatMap, List.forall_mem_cons]
  constructor
  · intro all function inside
    exact all.1.1.1.1.2 function inside
  · intro functions
    have emitted : ∀ name ∈ spec.eventNames, contractEmittedEvent ∈ spec.knownTypes := by
      intro name inside
      rw [knownTypes, spec.events_nonempty inside]
      exact List.mem_append_left _ (List.mem_append_left _ (List.mem_append_left _
        (List.mem_append_left _ List.mem_cons_self)))
    have imported : ∀ name ∈ spec.eventNames, contractEmittedEvent ∈ spec.knownTypes ∧
        name ∈ spec.knownTypes ∧ ∀ other ∈ ([] : List JsString), other ∈ spec.knownTypes :=
      fun name inside => ⟨emitted name inside, events name inside,
        fun _ none => absurd none List.not_mem_nil⟩
    refine ⟨⟨⟨⟨⟨?_, functions⟩, ?_⟩, imported⟩, imported⟩, ?_, ?_⟩
    · exact fun type inside name member =>
        types name (spec.typeRefs_known typeRefs type inside name member)
    · intro event inside name member
      rcases spec.eventRefs_known eventRefs event inside name member with isType | isEvent
      · exact types name isType
      · exact events name isEvent
    · exact List.mem_append_right _ List.mem_cons_self
    · exact fun _ none => absurd none List.not_mem_nil

theorem schemas_known :
    ∀ name ∈ spec.statements.flatMap Statement.refersToSchemas,
      name ∈ (constants spec.statements).map Scope.Constant.name := by
  have names : (constants spec.statements).map Scope.Constant.name =
      spec.typeNames.map schemaOf ++ spec.eventNames.map schemaOf := by
    rw [constants_statements, typeNames, eventNames, ← snd_nameEvents, List.map_append,
      List.map_map, List.map_map, List.map_map, List.map_map]
    rfl
  rw [names, refersToSchemas_statements]
  rw [List.forall_mem_append, List.forall_mem_append]
  simp only [List.forall_mem_flatMap, List.forall_mem_map]
  simp only [List.mem_append, mem_map_schemaOf]
  refine ⟨⟨?_, ?_⟩, fun name inside => .inr inside⟩
  · exact fun type inside name member =>
      .inl (spec.typeRefs_known typeRefs type inside name member)
  · exact fun event inside => spec.eventRefs_known eventRefs event inside

end References

/-- A generated module is well scoped exactly if the names of its spec fit. -/
theorem wellScoped_iff : WellScoped spec.statements ↔ spec.WellNamed := by
  constructor
  · intro wellScoped
    rcases spec.nodup_declares_iff.mp wellScoped.distinct with ⟨distinct, apart, eventsApart⟩
    rcases spec.initialised_iff.mp wellScoped.initialised with ⟨typeRefs, eventRefs⟩
    exact ⟨distinct, spec.valid_declares_iff.mp wellScoped.valid, apart, eventsApart,
      (spec.types_iff typeRefs eventRefs).mp wellScoped.types, typeRefs, eventRefs⟩
  · intro named
    exact ⟨spec.nodup_declares_iff.mpr ⟨named.distinct, named.apart, named.eventsApart⟩,
      spec.valid_declares_iff.mpr named.valid,
      (spec.types_iff named.typeRefs named.eventRefs).mpr named.functionRefs,
      spec.schemas_known named.typeRefs named.eventRefs,
      spec.initialised_iff.mpr ⟨named.typeRefs, named.eventRefs⟩⟩

end ContractSpec

def recursiveSpec : ContractSpec where
  name := js "list"
  contractId := none
  network := none
  functions := []
  events := []
  types := [(js "Node", .struct (js "Node") none
    [{ name := js "next", type := .option (.named (js "Node")), doc := none }])]

theorem recursiveSpec_uses_itself :
    validateSpec (recursiveSpec.toJs (js "1.0.0")) = [] ∧
      ¬ WellScoped recursiveSpec.statements := by
  constructor
  · decide
  · intro wellScoped
    exact absurd wellScoped.initialised (by decide)

end Orbital.AbiRegistry
