import Orbital.AbiRegistry.Spec
import Orbital.Foundation.InsertionMap
import Orbital.Foundation.WellFormedText

/-! # `lockFile.ts`

A lock file keeps a hash of each contract's spec. Drift is what has changed since: a
contract is looked up by its id, or else by its name, and its hash is compared.
-/

namespace Orbital.AbiRegistry

open Foundation

/-! ## `JSON.stringify` with a list of keys -/

mutual
def withKeys (keys : List JsString) : JsValue → JsValue
  | .leaf primitive => .leaf primitive
  | .array items => .array (itemsWithKeys keys items)
  | .object members =>
      .object (keys.filterMap fun key =>
        ((membersWithKeys keys members).lookup key).map (key, ·))

def itemsWithKeys (keys : List JsString) : List JsValue → List JsValue
  | [] => []
  | item :: rest => withKeys keys item :: itemsWithKeys keys rest

def membersWithKeys (keys : List JsString) : List (JsString × JsValue) → List (JsString × JsValue)
  | [] => []
  | (key, value) :: rest => (key, withKeys keys value) :: membersWithKeys keys rest
end

/-- `JSON.stringify(value, keys)` -/
def stringifyWith (keys : List JsString) (value : JsValue) : Option JsString :=
  JsValue.stringify (withKeys keys value)

/-! ## The lock file -/

structure ContractConfig where
  contractId : JsString
  name : Option JsString

inductive ContractSource
  | registry
  | wellKnown
  | wasm
  deriving DecidableEq

structure ResolvedContract where
  config : ContractConfig
  spec : ContractSpec
  source : ContractSource

/-- `config.name || config.contractId` -/
def ContractConfig.label (config : ContractConfig) : JsString :=
  (config.name.filter (· ≠ [])).getD config.contractId

structure LockFileContract where
  contractId : JsString
  name : JsString
  specHash : JsString
  resolvedAt : JsString
  source : ContractSource
  deriving DecidableEq

structure LockFile where
  version : JsString
  configHash : JsString
  contracts : List LockFileContract
  generatedAt : JsString

namespace LockFile

/-- A member that is `undefined` when there is no value. -/
def orUndefined (value : Option JsString) : JsValue :=
  match value with
  | none => .leaf .undefined
  | some text => jsText text

def typesToJs (types : List (JsString × UserDefinedType)) : JsValue :=
  .object (Property.mapValues UserDefinedType.toJs types)

def normalizedSpec (spec : ContractSpec) : List (JsString × JsValue) :=
  [(js "name", jsText spec.name), (js "contractId", orUndefined spec.contractId),
    (js "network", orUndefined spec.network),
    (js "functions", .array (spec.functions.map FunctionSpec.toJs)),
    (js "events", .array (spec.events.map EventSpec.toJs)), (js "types", typesToJs spec.types)]

def specString (spec : ContractSpec) : Option JsString :=
  stringifyWith (JsString.sort ((normalizedSpec spec).map Prod.fst))
    (.object (normalizedSpec spec))

def generateSpecHash (sha256 : Bytes → Bytes) (spec : ContractSpec) : JsString :=
  toHex (sha256 (utf8 ((specString spec).getD [])))

def createLockFile (sha256 : Bytes → Bytes) (now configHash : JsString)
    (contracts : List ResolvedContract) : LockFile where
  version := js "1.0.0"
  configHash
  contracts := contracts.map fun contract => {
    contractId := contract.config.contractId
    name := contract.config.label
    specHash := generateSpecHash sha256 contract.spec
    resolvedAt := now
    source := contract.source }
  generatedAt := now

/-! ## Drift -/

inductive Change
  | added
  | removed
  | modified
  deriving DecidableEq

structure ContractChange where
  contractId : JsString
  name : JsString
  change : Change
  oldHash : Option JsString
  newHash : Option JsString
  deriving DecidableEq

structure Drift where
  hasChanges : Bool
  configChanged : Bool
  contractChanges : List ContractChange

structure Current where
  name : JsString
  specHash : JsString
  source : ContractSource

abbrev Locked :=
  LockFileContract × Nat

def lockedContracts (lockFile : LockFile) : List Locked :=
  lockFile.contracts.zipIdx

def lockContractById (lockFile : LockFile) : InsertionMap JsString Locked :=
  InsertionMap.empty.setAll ((lockedContracts lockFile).map fun locked =>
    (locked.1.contractId, locked))

def lockContractByName (lockFile : LockFile) : InsertionMap JsString Locked :=
  InsertionMap.empty.setAll ((lockedContracts lockFile).map fun locked =>
    (locked.1.name, locked))

def currentContractMap (sha256 : Bytes → Bytes) (contracts : List ResolvedContract) :
    InsertionMap JsString Current :=
  InsertionMap.empty.setAll (contracts.map fun contract =>
    (contract.config.contractId, {
      name := contract.config.label
      specHash := generateSpecHash sha256 contract.spec
      source := contract.source }))

def currentContractNames (contracts : List ResolvedContract) : List JsString :=
  contracts.map fun contract => contract.config.label

/-- `lockContractById.get(contractId) ?? lockContractByName.get(current.name)` -/
def locked? (lockFile : LockFile) (contractId : JsString) (current : Current) : Option Locked :=
  ((lockContractById lockFile).get? contractId).or
    ((lockContractByName lockFile).get? current.name)

structure Progress where
  changes : List ContractChange
  matched : List Nat

def compare (lockFile : LockFile) (progress : Progress) (entry : JsString × Current) : Progress :=
  match locked? lockFile entry.1 entry.2 with
  | none =>
      { progress with
        changes := progress.changes ++ [{
          contractId := entry.1
          name := entry.2.name
          change := .added
          oldHash := none
          newHash := some entry.2.specHash }] }
  | some locked =>
      if locked.1.specHash ≠ entry.2.specHash then
        { progress with
          changes := progress.changes ++ [{
            contractId := entry.1
            name := entry.2.name
            change := .modified
            oldHash := some locked.1.specHash
            newHash := some entry.2.specHash }] }
      else { progress with matched := locked.2 :: progress.matched }

def compareAll (sha256 : Bytes → Bytes) (lockFile : LockFile)
    (contracts : List ResolvedContract) : Progress :=
  (currentContractMap sha256 contracts).entries.foldl (compare lockFile)
    { changes := [], matched := [] }

def isRemoved (sha256 : Bytes → Bytes) (contracts : List ResolvedContract) (progress : Progress)
    (locked : Locked) : Bool :=
  !progress.matched.contains locked.2 &&
    !(currentContractMap sha256 contracts).has locked.1.contractId &&
      !(currentContractNames contracts).contains locked.1.name

def removed (sha256 : Bytes → Bytes) (lockFile : LockFile) (contracts : List ResolvedContract)
    (progress : Progress) : List ContractChange :=
  ((lockedContracts lockFile).filter (isRemoved sha256 contracts progress)).map fun locked => {
    contractId := locked.1.contractId
    name := locked.1.name
    change := .removed
    oldHash := some locked.1.specHash
    newHash := none }

def detectDrift (sha256 : Bytes → Bytes) (lockFile : LockFile) (configHash : JsString)
    (contracts : List ResolvedContract) : Drift :=
  let progress := compareAll sha256 lockFile contracts
  let contractChanges := progress.changes ++ removed sha256 lockFile contracts progress
  { hasChanges := lockFile.configHash ≠ configHash || !contractChanges.isEmpty
    configChanged := lockFile.configHash ≠ configHash
    contractChanges }

/-! ## What reaches the hash -/

def hashedKeys : List JsString :=
  [js "contractId", js "events", js "functions", js "name", js "network", js "types"]

theorem sort_normalizedSpec (spec : ContractSpec) :
    JsString.sort ((normalizedSpec spec).map Prod.fst) = hashedKeys := by
  show JsString.sort [js "name", js "contractId", js "network", js "functions", js "events",
    js "types"] = hashedKeys
  decide

theorem itemsWithKeys_eq (keys : List JsString) (items : List JsValue) :
    itemsWithKeys keys items = items.map (withKeys keys) := by
  induction items with
  | nil => rfl
  | cons item rest induction => rw [itemsWithKeys, induction, List.map_cons]

theorem membersWithKeys_eq (keys : List JsString) (members : List (JsString × JsValue)) :
    membersWithKeys keys members = Property.mapValues (withKeys keys) members := by
  induction members with
  | nil => rfl
  | cons member rest induction =>
      rcases member with ⟨key, value⟩
      rw [membersWithKeys, induction, Property.mapValues_cons]

def named (name : JsString) : JsValue :=
  .object [(js "name", jsText name)]

theorem withKeys_function (function : FunctionSpec) :
    withKeys hashedKeys function.toJs = named function.name := by
  rcases function with ⟨name, _ | doc, params, returns⟩
  · rfl
  · rfl

theorem withKeys_event (event : EventSpec) : withKeys hashedKeys event.toJs = named event.name := by
  rcases event with ⟨name, _ | doc, topics, data⟩
  · rfl
  · rfl

theorem withKeys_type (udt : UserDefinedType) : withKeys hashedKeys udt.toJs = named udt.name := by
  rcases udt with ⟨name, _ | doc, fields⟩ | ⟨name, _ | doc, variants⟩ | ⟨name, _ | doc, cases⟩
  all_goals rfl

end LockFile

end Orbital.AbiRegistry

/-! ## What drift detection tells

Two specs with the same hash agree in their names, and specs that are the same have the
same hash. No change is reported exactly when every contract is found with its hash and
none is missing.
-/

namespace Orbital.AbiRegistry

open Foundation

/-! ## Specs without their documentation -/

def FieldSpec.undocumented (field : FieldSpec) : FieldSpec :=
  { field with doc := none }

def FunctionSpec.undocumented (function : FunctionSpec) : FunctionSpec where
  name := function.name
  doc := none
  params := function.params.map FieldSpec.undocumented
  returns := function.returns

def EventSpec.undocumented (event : EventSpec) : EventSpec where
  name := event.name
  doc := none
  topics := event.topics.map FieldSpec.undocumented
  data := event.data.map FieldSpec.undocumented

def UserDefinedType.undocumented : UserDefinedType → UserDefinedType
  | struct name _ fields => struct name none (fields.map FieldSpec.undocumented)
  | enum name _ variants =>
      enum name none (variants.map fun variant => { variant with doc := none })
  | union name _ cases =>
      union name none (cases.map fun unionCase =>
        { unionCase with doc := none, fields := unionCase.fields.map FieldSpec.undocumented })

theorem UserDefinedType.name_undocumented (udt : UserDefinedType) :
    udt.undocumented.name = udt.name := by
  cases udt with
  | struct name doc fields | enum name doc variants | union name doc cases => rfl

namespace LockFile

/-- Two specs are the same but for their documentation. -/
structure SameSpec (first second : ContractSpec) : Prop where
  name : first.name = second.name
  contractId : first.contractId = second.contractId
  network : first.network = second.network
  functions : first.functions.map FunctionSpec.undocumented =
    second.functions.map FunctionSpec.undocumented
  events : first.events.map EventSpec.undocumented = second.events.map EventSpec.undocumented
  types : ∀ key, (first.types.lookup key).map UserDefinedType.undocumented =
    (second.types.lookup key).map UserDefinedType.undocumented

structure SameNames (first second : ContractSpec) : Prop where
  name : first.name = second.name
  contractId : first.contractId = second.contractId
  network : first.network = second.network
  functions : first.functions.map FunctionSpec.name = second.functions.map FunctionSpec.name
  events : first.events.map EventSpec.name = second.events.map EventSpec.name

/-! ## The hashed tree -/

def hashedPart (spec : ContractSpec) (key : JsString) : Option JsonSyntax :=
  ((normalizedSpec spec).lookup key).bind fun value => JsValue.toSyntax? (withKeys hashedKeys value)

theorem lookup_filterMap_keys {Value : Type} {part : JsString → Option Value}
    {keys : List JsString} {key : JsString} (member : key ∈ keys) :
    (keys.filterMap fun key => (part key).map (key, ·)).lookup key = part key := by
  induction keys with
  | nil => cases member
  | cons head rest induction =>
      rw [List.filterMap_cons]
      by_cases same : key = head
      · rw [same]
        cases found : part head with
        | some value =>
            rw [Option.map_some]
            exact List.lookup_cons_self
        | none =>
            rw [Option.map_none]
            apply List.lookup_eq_none_iff.mpr
            intro entry inside
            rcases List.mem_filterMap.mp inside with ⟨other, _, isEntry⟩
            rcases Option.map_eq_some_iff.mp isEntry with ⟨value, present, rfl⟩
            apply bne_iff_ne.mpr
            rintro rfl
            rw [found] at present
            cases present
      · have later := induction ((List.mem_cons.mp member).resolve_left same)
        cases part head with
        | none => exact later
        | some value =>
            rw [Option.map_some]
            dsimp only
            rw [List.lookup_cons, beq_false_of_ne same]
            exact later

theorem toSyntax?_normalized (spec : ContractSpec) :
    JsValue.toSyntax? (withKeys hashedKeys (.object (normalizedSpec spec))) =
      some (.object (hashedKeys.filterMap fun key => (hashedPart spec key).map (key, ·))) := by
  rw [withKeys, JsValue.toSyntax?, JsValue.memberSyntaxes_eq, List.filterMap_filterMap,
    membersWithKeys_eq]
  apply congrArg fun members => some (JsonTree.object members)
  apply List.filterMap_congr
  intro key _
  rw [Property.lookup_mapValues, hashedPart]
  cases (normalizedSpec spec).lookup key with
  | none | some value => rfl

theorem specString_eq (spec : ContractSpec) :
    specString spec = some (JsonSyntax.print
      (.object (hashedKeys.filterMap fun key => (hashedPart spec key).map (key, ·)))) := by
  rw [specString, sort_normalizedSpec, stringifyWith, JsValue.stringify, toSyntax?_normalized]
  rfl

theorem generateSpecHash_eq_iff {sha256 : Bytes → Bytes} (injective : Function.Injective sha256)
    {first second : ContractSpec} :
    generateSpecHash sha256 first = generateSpecHash sha256 second ↔
      ∀ key ∈ hashedKeys, hashedPart first key = hashedPart second key := by
  constructor
  · intro same key member
    rw [generateSpecHash, generateSpecHash, specString_eq, specString_eq] at same
    have digests := congrArg leadingHex same
    rw [leadingHex_toHex, leadingHex_toHex] at digests
    have texts := WellFormed.utf8_inj (WellFormed.print _) (WellFormed.print _) (injective digests)
    have trees := JsonSyntax.print_injective texts
    have members := JsonTree.object.inj trees
    have part : (hashedKeys.filterMap fun key => (hashedPart first key).map (key, ·)).lookup key =
        hashedPart first key := lookup_filterMap_keys member
    rw [← part, members, lookup_filterMap_keys member]
  · intro same
    have members : (hashedKeys.filterMap fun key => (hashedPart first key).map (key, ·)) =
        hashedKeys.filterMap fun key => (hashedPart second key).map (key, ·) := by
      apply List.filterMap_congr
      intro key member
      rw [same key member]
    rw [generateSpecHash, generateSpecHash, specString_eq, specString_eq, members]

/-! ### What the parts tell -/

def namedTree (name : JsString) : JsonSyntax :=
  .object [(js "name", .leaf (.string name))]

theorem namedTree_injective : Function.Injective namedTree := by
  intro first second same
  have members := JsonTree.object.inj same
  have leaf := (Prod.mk.inj (List.cons.inj members).1).2
  exact JsonLeaf.string.inj (JsonTree.leaf.inj leaf)

theorem itemSyntaxes_named {Item : Type} {toJs : Item → JsValue} {name : Item → JsString}
    (keepsName : ∀ item, withKeys hashedKeys (toJs item) = named (name item)) (items : List Item) :
    JsValue.toSyntax? (withKeys hashedKeys (.array (items.map toJs))) =
      some (.array ((items.map name).map namedTree)) := by
  rw [withKeys, itemsWithKeys_eq, JsValue.toSyntax?, JsValue.itemSyntaxes_eq, List.map_map,
    List.map_map, List.map_map]
  congr 3
  funext item
  rw [Function.comp_apply, Function.comp_apply, keepsName]
  rfl

section Parts

variable (spec : ContractSpec)

theorem hashedPart_name : hashedPart spec (js "name") = some (.leaf (.string spec.name)) := by
  rfl

theorem hashedPart_contractId :
    hashedPart spec (js "contractId") = spec.contractId.map fun text => .leaf (.string text) := by
  have part : hashedPart spec (js "contractId") =
      JsValue.toSyntax? (withKeys hashedKeys (orUndefined spec.contractId)) := rfl
  rw [part]
  cases spec.contractId with
  | none | some text => rfl

theorem hashedPart_network :
    hashedPart spec (js "network") = spec.network.map fun text => .leaf (.string text) := by
  have part : hashedPart spec (js "network") =
      JsValue.toSyntax? (withKeys hashedKeys (orUndefined spec.network)) := rfl
  rw [part]
  cases spec.network with
  | none | some text => rfl

theorem hashedPart_functions :
    hashedPart spec (js "functions") =
      some (.array ((spec.functions.map FunctionSpec.name).map namedTree)) :=
  itemSyntaxes_named withKeys_function spec.functions

theorem hashedPart_events :
    hashedPart spec (js "events") =
      some (.array ((spec.events.map EventSpec.name).map namedTree)) :=
  itemSyntaxes_named withKeys_event spec.events

theorem hashedPart_types :
    hashedPart spec (js "types") =
      some (.object (hashedKeys.filterMap fun key =>
        ((spec.types.lookup key).map fun udt => namedTree udt.name).map (key, ·))) := by
  have part : hashedPart spec (js "types") =
      JsValue.toSyntax? (withKeys hashedKeys (typesToJs spec.types)) := rfl
  rw [part, typesToJs, withKeys, JsValue.toSyntax?, JsValue.memberSyntaxes_eq,
    List.filterMap_filterMap, membersWithKeys_eq]
  apply congrArg fun members => some (JsonTree.object members)
  apply List.filterMap_congr
  intro key _
  rw [Property.lookup_mapValues, Property.lookup_mapValues]
  cases spec.types.lookup key with
  | none => rfl
  | some udt =>
      rw [Option.map_some, Option.map_some, withKeys_type]
      rfl

end Parts

section Hash

variable {sha256 : Bytes → Bytes} {first second : ContractSpec}

theorem SameSpec.hash (injective : Function.Injective sha256) (same : SameSpec first second) :
    generateSpecHash sha256 first = generateSpecHash sha256 second := by
  have functions : first.functions.map FunctionSpec.name =
      second.functions.map FunctionSpec.name := by
    have names := congrArg (List.map FunctionSpec.name) same.functions
    rw [List.map_map, List.map_map] at names
    exact names
  have events : first.events.map EventSpec.name = second.events.map EventSpec.name := by
    have names := congrArg (List.map EventSpec.name) same.events
    rw [List.map_map, List.map_map] at names
    exact names
  have types : ∀ key, (first.types.lookup key).map (fun udt => namedTree udt.name) =
      (second.types.lookup key).map fun udt => namedTree udt.name := by
    intro key
    have undocumented : (fun udt : UserDefinedType => namedTree udt.name) =
        (fun udt => namedTree udt.name) ∘ UserDefinedType.undocumented := by
      funext udt
      rw [Function.comp_apply, udt.name_undocumented]
    have names := congrArg (Option.map fun udt => namedTree udt.name) (same.types key)
    rw [Option.map_map, Option.map_map, ← undocumented] at names
    exact names
  apply (generateSpecHash_eq_iff injective).mpr
  intro key member
  rw [hashedKeys] at member
  simp only [List.mem_cons, List.not_mem_nil, or_false] at member
  rcases member with rfl | rfl | rfl | rfl | rfl | rfl
  · rw [hashedPart_contractId, hashedPart_contractId, same.contractId]
  · rw [hashedPart_events, hashedPart_events, events]
  · rw [hashedPart_functions, hashedPart_functions, functions]
  · rw [hashedPart_name, hashedPart_name, same.name]
  · rw [hashedPart_network, hashedPart_network, same.network]
  · rw [hashedPart_types, hashedPart_types]
    simp only [types]

theorem sameNames_of_hash (injective : Function.Injective sha256)
    (same : generateSpecHash sha256 first = generateSpecHash sha256 second) :
    SameNames first second := by
  have parts := (generateSpecHash_eq_iff injective).mp same
  have texts : ∀ {text other : JsString},
      (JsonTree.leaf (.string text) : JsonSyntax) = .leaf (.string other) → text = other :=
    fun same => JsonLeaf.string.inj (JsonTree.leaf.inj same)
  constructor
  · have part := parts (js "name") (by decide)
    rw [hashedPart_name, hashedPart_name] at part
    exact texts (Option.some.inj part)
  · have part := parts (js "contractId") (by decide)
    rw [hashedPart_contractId, hashedPart_contractId] at part
    exact Option.map_injective (fun _ _ => texts) part
  · have part := parts (js "network") (by decide)
    rw [hashedPart_network, hashedPart_network] at part
    exact Option.map_injective (fun _ _ => texts) part
  · have part := parts (js "functions") (by decide)
    rw [hashedPart_functions, hashedPart_functions] at part
    exact List.map_injective_iff.mpr namedTree_injective
      (JsonTree.array.inj (Option.some.inj part))
  · have part := parts (js "events") (by decide)
    rw [hashedPart_events, hashedPart_events] at part
    exact List.map_injective_iff.mpr namedTree_injective
      (JsonTree.array.inj (Option.some.inj part))

end Hash

/-! ## What is compared -/

def previous? (contracts : List ResolvedContract) (contract : ResolvedContract) :
    Option ResolvedContract :=
  (contracts.find? fun old => old.config.contractId = contract.config.contractId).or
    (contracts.find? fun old => old.config.label = contract.config.label)

/-- Of several contracts with one id the last counts. -/
def IsCurrent (later : List ResolvedContract) (contract : ResolvedContract) : Prop :=
  ∃ front back, later = front ++ contract :: back ∧
    ∀ other ∈ back, other.config.contractId ≠ contract.config.contractId

structure Kept (Related : ContractSpec → ContractSpec → Prop)
    (contracts later : List ResolvedContract) : Prop where
  found : ∀ contract, IsCurrent later contract →
    ∃ old, previous? contracts contract = some old ∧ Related old.spec contract.spec
  there : ∀ old ∈ contracts, ∃ contract ∈ later,
    contract.config.contractId = old.config.contractId ∨ contract.config.label = old.config.label

theorem Kept.mono {Related Weaker : ContractSpec → ContractSpec → Prop}
    {contracts later : List ResolvedContract} (kept : Kept Related contracts later)
    (weaker : ∀ {first second}, Related first second → Weaker first second) :
    Kept Weaker contracts later where
  found := by
    intro contract current
    rcases kept.found contract current with ⟨old, isOld, related⟩
    exact ⟨old, isOld, weaker related⟩
  there := kept.there

section Compare

variable {sha256 : Bytes → Bytes} {now configHash : JsString}
  {contracts later : List ResolvedContract}

def lockedOf (sha256 : Bytes → Bytes) (now : JsString) (contract : ResolvedContract) :
    LockFileContract where
  contractId := contract.config.contractId
  name := contract.config.label
  specHash := generateSpecHash sha256 contract.spec
  resolvedAt := now
  source := contract.source

def currentOf (sha256 : Bytes → Bytes) (contract : ResolvedContract) : Current where
  name := contract.config.label
  specHash := generateSpecHash sha256 contract.spec
  source := contract.source

theorem getEntry_eq {Key Value : Type} [DecidableEq Key] (key : Key)
    (entries : List (Key × Value)) :
    InsertionMap.getEntry key entries =
      (entries.find? fun entry => entry.1 = key).map Prod.snd := by
  induction entries with
  | nil => rfl
  | cons entry rest induction =>
      rw [InsertionMap.getEntry, List.find?_cons]
      by_cases same : entry.1 = key
      · simp [same]
      · simpa [same] using induction

theorem get?_locked (configHash : JsString) {member : LockFileContract → JsString}
    (nodup : ((contracts.map (lockedOf sha256 now)).map member).Nodup) (key : JsString) :
    ((InsertionMap.empty.setAll ((lockedContracts (createLockFile sha256 now configHash
        contracts)).map fun locked => (member locked.1, locked))).get? key).map Prod.fst =
      (contracts.find? fun old => member (lockedOf sha256 now old) = key).map
        (lockedOf sha256 now) := by
  have locked : (lockedContracts (createLockFile sha256 now configHash contracts)) =
      (contracts.map (lockedOf sha256 now)).zipIdx := rfl
  have keys : (((InsertionMap.empty : InsertionMap JsString Locked).entries ++
      (contracts.map (lockedOf sha256 now)).zipIdx.map fun locked =>
        (member locked.1, locked)).map Prod.fst).Nodup := by
    have same : ((contracts.map (lockedOf sha256 now)).zipIdx.map fun locked =>
        (member locked.1, locked)).map Prod.fst =
          (contracts.map (lockedOf sha256 now)).map member := by
      rw [List.map_map]
      conv_rhs => rw [← List.zipIdx_map_fst 0 (contracts.map (lockedOf sha256 now)), List.map_map]
      rfl
    rw [List.map_append, same]
    exact nodup
  have direct : (contracts.map (lockedOf sha256 now)).find? (fun old => member old = key) =
      (contracts.find? fun old => member (lockedOf sha256 now old) = key).map
        (lockedOf sha256 now) := List.find?_map
  have indexed : (contracts.map (lockedOf sha256 now)).find? (fun old => member old = key) =
      ((contracts.map (lockedOf sha256 now)).zipIdx.find? fun locked =>
        member locked.1 = key).map Prod.fst := by
    conv_lhs => rw [← List.zipIdx_map_fst 0 (contracts.map (lockedOf sha256 now)), List.find?_map]
    rfl
  have keyed : (((contracts.map (lockedOf sha256 now)).zipIdx.map fun locked =>
      (member locked.1, locked)).find? fun entry => entry.1 = key) =
        ((contracts.map (lockedOf sha256 now)).zipIdx.find? fun locked =>
          member locked.1 = key).map fun locked => (member locked.1, locked) := List.find?_map
  rw [locked, InsertionMap.get?, InsertionMap.entries_setAll keys, getEntry_eq, ← direct, indexed]
  change (((List.map _ _).find? _).map Prod.snd).map Prod.fst = _
  rw [keyed, Option.map_map, Option.map_map]
  rfl

theorem locked?_eq (sha256 : Bytes → Bytes) (now configHash : JsString)
    (distinctIds : (contracts.map fun old => old.config.contractId).Nodup)
    (distinctLabels : (contracts.map fun old => old.config.label).Nodup)
    (contract : ResolvedContract) :
    (locked? (createLockFile sha256 now configHash contracts) contract.config.contractId
        (currentOf sha256 contract)).map Prod.fst =
      (previous? contracts contract).map (lockedOf sha256 now) := by
  have ids : ((contracts.map (lockedOf sha256 now)).map LockFileContract.contractId).Nodup := by
    rw [List.map_map]
    exact distinctIds
  have labels : ((contracts.map (lockedOf sha256 now)).map LockFileContract.name).Nodup := by
    rw [List.map_map]
    exact distinctLabels
  have byId := get?_locked configHash ids contract.config.contractId
  have byName := get?_locked configHash labels contract.config.label
  rw [locked?, previous?, Option.map_or, Option.map_or, lockContractById, lockContractByName]
  exact congr (congrArg Option.or byId) byName

variable {lockFile : LockFile} {contractId : JsString} {current : Current} {locked : Locked}
  {progress : Progress} {entry : JsString × Current} {place : Nat}

theorem mem_of_locked? (found : locked? lockFile contractId current = some locked) :
    locked ∈ lockedContracts lockFile ∧
      (locked.1.contractId = contractId ∨ locked.1.name = current.name) := by
  rw [locked?, Option.or_eq_some_iff] at found
  rcases found with byId | ⟨_, byName⟩
  · rw [lockContractById] at byId
    rcases InsertionMap.get?_setAll byId with none | member
    · cases none
    · rcases List.mem_map.mp member with ⟨other, inside, same⟩
      cases same
      exact ⟨inside, Or.inl rfl⟩
  · rw [lockContractByName] at byName
    rcases InsertionMap.get?_setAll byName with none | member
    · cases none
    · rcases List.mem_map.mp member with ⟨other, inside, same⟩
      rcases Prod.mk.inj same with ⟨isName, rfl⟩
      exact ⟨inside, Or.inr isName⟩

theorem get?_current :
    (currentContractMap sha256 later).get? contractId = some current ↔
      ∃ contract, IsCurrent later contract ∧ contract.config.contractId = contractId ∧
        currentOf sha256 contract = current := by
  rw [currentContractMap, InsertionMap.get?_setAll_eq, InsertionMap.get?_empty, Option.or_none,
    ← List.map_reverse, List.find?_map, Option.map_map, Option.map_eq_some_iff]
  apply exists_congr
  intro contract
  rw [List.find?_eq_some_iff_append]
  constructor
  · rintro ⟨⟨isId, back, front, split, others⟩, rfl⟩
    have id : contract.config.contractId = contractId := of_decide_eq_true isId
    refine ⟨⟨front.reverse, back.reverse, ?_, ?_⟩, id, rfl⟩
    · rw [← List.reverse_reverse later, split]
      simp
    · intro other inside
      have different := others other (List.mem_reverse.mp inside)
      rw [id]
      simpa using different
  · rintro ⟨⟨front, back, rfl, others⟩, rfl, rfl⟩
    refine ⟨⟨decide_eq_true rfl, back.reverse, front.reverse, by simp, ?_⟩, rfl⟩
    intro other inside
    have different := others other (List.mem_reverse.mp inside)
    simpa using different

/-! ## The comparison as a loop -/

def Matches (lockFile : LockFile) (entry : JsString × Current) : Prop :=
  ∃ locked, locked? lockFile entry.1 entry.2 = some locked ∧
    locked.1.specHash = entry.2.specHash

theorem compare_of_matches (found : locked? lockFile entry.1 entry.2 = some locked)
    (same : locked.1.specHash = entry.2.specHash) :
    compare lockFile progress entry =
      { progress with matched := locked.2 :: progress.matched } := by
  rw [compare, found]
  exact if_neg (not_not_intro same)

theorem compare_of_not_matches (progress : Progress) (differs : ¬Matches lockFile entry) :
    ∃ change, compare lockFile progress entry =
      { progress with changes := progress.changes ++ [change] } := by
  rw [compare]
  cases found : locked? lockFile entry.1 entry.2 with
  | none => exact ⟨_, rfl⟩
  | some locked =>
      have hashes : locked.1.specHash ≠ entry.2.specHash :=
        fun same => differs ⟨locked, found, same⟩
      exact ⟨_, if_pos hashes⟩

theorem foldl_compare (lockFile : LockFile) (entries : List (JsString × Current))
    (progress : Progress) :
    (entries.foldl (compare lockFile) progress).changes = [] ↔
      progress.changes = [] ∧ ∀ entry ∈ entries, Matches lockFile entry := by
  induction entries generalizing progress with
  | nil => simp
  | cons entry rest induction =>
      rw [List.foldl_cons, induction, List.forall_mem_cons]
      by_cases isMatch : Matches lockFile entry
      · rcases isMatch with ⟨locked, found, same⟩
        rw [compare_of_matches found same]
        exact and_congr_right fun _ => (and_iff_right ⟨locked, found, same⟩).symm
      · rcases compare_of_not_matches progress isMatch with ⟨change, compared⟩
        rw [compared]
        apply iff_of_false
        · rintro ⟨empty, _⟩
          simp at empty
        · exact fun all => isMatch all.2.1

theorem mem_matched {entries : List (JsString × Current)}
    (member : place ∈ (entries.foldl (compare lockFile) progress).matched) :
    place ∈ progress.matched ∨
      ∃ entry ∈ entries, ∃ locked, locked? lockFile entry.1 entry.2 = some locked ∧
        locked.2 = place := by
  induction entries generalizing progress with
  | nil => exact Or.inl member
  | cons entry rest induction =>
      rw [List.foldl_cons] at member
      rcases induction member with earlier | ⟨other, inside, locked, found, isPlace⟩
      · by_cases isMatch : Matches lockFile entry
        · rcases isMatch with ⟨locked, found, same⟩
          rw [compare_of_matches found same] at earlier
          rcases List.mem_cons.mp earlier with isPlace | before
          · exact Or.inr ⟨entry, List.mem_cons_self, locked, found, isPlace.symm⟩
          · exact Or.inl before
        · rcases compare_of_not_matches progress isMatch with ⟨change, compared⟩
          rw [compared] at earlier
          exact Or.inl earlier
      · exact Or.inr ⟨other, List.mem_cons_of_mem _ inside, locked, found, isPlace⟩

theorem IsCurrent.mem {contract : ResolvedContract} (current : IsCurrent later contract) :
    contract ∈ later := by
  rcases current with ⟨front, back, rfl, _⟩
  exact List.mem_append_right front List.mem_cons_self

theorem mem_lockedContracts :
    locked ∈ lockedContracts (createLockFile sha256 now configHash contracts) ↔
      ∃ old, contracts[locked.2]? = some old ∧ lockedOf sha256 now old = locked.1 := by
  have indexed : lockedContracts (createLockFile sha256 now configHash contracts) =
      (contracts.map (lockedOf sha256 now)).zipIdx := rfl
  rw [indexed, List.mem_zipIdx_iff_getElem?, List.getElem?_map, Option.map_eq_some_iff]

theorem there_of_matched {old : ResolvedContract} (atPlace : contracts[place]? = some old)
    (matched : place ∈ (compareAll sha256 (createLockFile sha256 now configHash contracts)
      later).matched) :
    ∃ contract ∈ later, contract.config.contractId = old.config.contractId ∨
      contract.config.label = old.config.label := by
  rcases mem_matched matched with none | ⟨entry, inside, locked, found, rfl⟩
  · cases none
  · rcases mem_of_locked? found with ⟨member, same⟩
    rcases mem_lockedContracts.mp member with ⟨other, atOther, isLocked⟩
    cases atPlace.symm.trans atOther
    rcases get?_current.mp (InsertionMap.get?_eq_some_iff.mpr inside) with
      ⟨contract, current, isId, isCurrent⟩
    refine ⟨contract, current.mem, ?_⟩
    rw [← isLocked, ← isId, ← isCurrent] at same
    exact same.imp Eq.symm Eq.symm

theorem removed_eq_nil_iff :
    removed sha256 (createLockFile sha256 now configHash contracts) later
        (compareAll sha256 (createLockFile sha256 now configHash contracts) later) = [] ↔
      ∀ old ∈ contracts, ∃ contract ∈ later,
        contract.config.contractId = old.config.contractId ∨
          contract.config.label = old.config.label := by
  rw [removed, List.map_eq_nil_iff, List.filter_eq_nil_iff]
  constructor
  · intro kept old member
    rcases List.mem_iff_getElem?.mp member with ⟨place, atPlace⟩
    have stays := kept (lockedOf sha256 now old, place)
      (mem_lockedContracts.mpr ⟨old, atPlace, rfl⟩)
    rw [isRemoved, Bool.and_eq_true, Bool.and_eq_true, Bool.not_eq_true', Bool.not_eq_true',
      Bool.not_eq_true'] at stays
    by_cases matched : place ∈ (compareAll sha256
        (createLockFile sha256 now configHash contracts) later).matched
    · exact there_of_matched atPlace matched
    · by_cases byId : ∃ current, (currentContractMap sha256 later).get?
          old.config.contractId = some current
      · rcases byId with ⟨current, found⟩
        rcases get?_current.mp found with ⟨contract, isCurrent, isId, _⟩
        exact ⟨contract, isCurrent.mem, Or.inl isId⟩
      · by_cases byName : old.config.label ∈ currentContractNames later
        · rcases List.mem_map.mp byName with ⟨contract, inside, isLabel⟩
          exact ⟨contract, inside, Or.inr isLabel⟩
        · exfalso
          apply stays
          refine ⟨⟨?_, ?_⟩, ?_⟩
          · simpa using matched
          · rw [InsertionMap.has, Option.isSome_eq_false_iff, Option.isNone_iff_eq_none]
            exact Option.eq_none_iff_forall_ne_some.mpr fun current found =>
              byId ⟨current, found⟩
          · rw [List.contains_eq_mem]
            exact decide_eq_false byName
  · intro there locked member removed'
    rcases mem_lockedContracts.mp member with ⟨old, atPlace, isLocked⟩
    rw [isRemoved, Bool.and_eq_true, Bool.and_eq_true, Bool.not_eq_true', Bool.not_eq_true',
      Bool.not_eq_true'] at removed'
    rcases there old (List.mem_of_getElem? atPlace) with ⟨contract, inside, sameId | sameLabel⟩
    · have present : ((currentContractMap sha256 later).get? locked.1.contractId).isSome := by
        apply InsertionMap.get?_setAll_isSome
        rw [List.map_map]
        exact Or.inr (List.mem_map.mpr ⟨contract, inside, by rw [← isLocked]; exact sameId⟩)
      rw [InsertionMap.has, present] at removed'
      cases removed'.1.2
    · have present : locked.1.name ∈ currentContractNames later :=
        List.mem_map.mpr ⟨contract, inside, by rw [← isLocked]; exact sameLabel⟩
      have absent := removed'.2
      rw [List.contains_iff_mem.mpr present] at absent
      cases absent

theorem contractChanges_eq_nil_iff
    (distinctIds : (contracts.map fun old => old.config.contractId).Nodup)
    (distinctLabels : (contracts.map fun old => old.config.label).Nodup) :
    (detectDrift sha256 (createLockFile sha256 now configHash contracts) configHash
        later).contractChanges = [] ↔
      Kept (fun first second => generateSpecHash sha256 first = generateSpecHash sha256 second)
        contracts later := by
  have changes : (detectDrift sha256 (createLockFile sha256 now configHash contracts) configHash
      later).contractChanges =
        (compareAll sha256 (createLockFile sha256 now configHash contracts) later).changes ++
          removed sha256 (createLockFile sha256 now configHash contracts) later
            (compareAll sha256 (createLockFile sha256 now configHash contracts) later) := rfl
  have isMatch : ∀ contract, Matches (createLockFile sha256 now configHash contracts)
      (contract.config.contractId, currentOf sha256 contract) ↔
        ∃ old, previous? contracts contract = some old ∧
          generateSpecHash sha256 old.spec = generateSpecHash sha256 contract.spec := by
    intro contract
    have lookedUp := locked?_eq sha256 now configHash distinctIds distinctLabels contract
    constructor
    · rintro ⟨locked, found, same⟩
      dsimp only at found
      rw [found, Option.map_some, eq_comm, Option.map_eq_some_iff] at lookedUp
      rcases lookedUp with ⟨old, isOld, isLocked⟩
      rw [← isLocked] at same
      exact ⟨old, isOld, same⟩
    · rintro ⟨old, isOld, same⟩
      rw [isOld, Option.map_some, Option.map_eq_some_iff] at lookedUp
      rcases lookedUp with ⟨locked, found, isLocked⟩
      refine ⟨locked, found, ?_⟩
      rw [isLocked]
      exact same
  rw [changes, List.append_eq_nil_iff, removed_eq_nil_iff, compareAll, foldl_compare,
    and_iff_right rfl]
  constructor
  · rintro ⟨found, there⟩
    refine ⟨?_, there⟩
    intro contract current
    apply (isMatch contract).mp
    apply found
    exact InsertionMap.get?_eq_some_iff.mp (get?_current.mpr ⟨contract, current, rfl, rfl⟩)
  · rintro ⟨found, there⟩
    refine ⟨?_, there⟩
    intro entry inside
    rcases get?_current.mp (InsertionMap.get?_eq_some_iff.mpr inside) with
      ⟨contract, current, isId, isCurrent⟩
    have matches' := (isMatch contract).mpr (found contract current)
    rw [isId, isCurrent] at matches'
    exact matches'

/-- When no change is reported, every contract is found by its id or else by its name, with
the same names in its spec, and none is missing; and when each is found with the same spec
and none is missing, no change is reported. -/
theorem contractChanges_bounds (injective : Function.Injective sha256)
    (distinctIds : (contracts.map fun old => old.config.contractId).Nodup)
    (distinctLabels : (contracts.map fun old => old.config.label).Nodup) :
    ((detectDrift sha256 (createLockFile sha256 now configHash contracts) configHash
        later).contractChanges = [] → Kept SameNames contracts later) ∧
      (Kept SameSpec contracts later →
        (detectDrift sha256 (createLockFile sha256 now configHash contracts) configHash
          later).contractChanges = []) := by
  rw [contractChanges_eq_nil_iff distinctIds distinctLabels]
  constructor
  · exact fun kept => kept.mono (sameNames_of_hash injective)
  · exact fun kept => kept.mono fun same => SameSpec.hash injective same

end Compare

/-! ## A contract with another id, and a spec with another name -/

structure SameContracts (contracts later : List ResolvedContract) : Prop where
  ids : ∀ contractId, (∃ contract ∈ contracts, contract.config.contractId = contractId) ↔
    ∃ contract ∈ later, contract.config.contractId = contractId
  specs : ∀ old ∈ contracts, ∀ contract ∈ later,
    old.config.contractId = contract.config.contractId →
      old.spec.functions = contract.spec.functions ∧ old.spec.events = contract.spec.events ∧
        old.spec.types = contract.spec.types

def exampleSpec (name : JsString) : ContractSpec where
  name
  contractId := none
  network := none
  functions := [⟨js "f", none, [⟨js "x", .primitive .symbol, none⟩], .primitive .void⟩]
  events := [⟨js "e", none, [], [⟨js "x", .primitive .symbol, none⟩]⟩]
  types := []

def exampleContract (contractId specName : JsString) : ResolvedContract where
  config := ⟨contractId, some specName⟩
  spec := exampleSpec specName
  source := .registry

def exampleText (name : JsString) : JsString :=
  js "\x7b\"events\":[\x7b\"name\":\"e\"\x7d],\"functions\":[\x7b\"name\":\"f\"\x7d]," ++
    js "\"name\":\"" ++ name ++ js "\",\"types\":\x7b\x7d\x7d"

def firstDigest : Bytes :=
  [0x77, 0x04, 0xd7, 0xbc, 0xd6, 0xcd, 0x10, 0x5e, 0xdb, 0x1b, 0x35, 0x5f, 0xac, 0x01, 0x99, 0xf9,
    0xd1, 0x31, 0x4c, 0x65, 0x4c, 0xd0, 0x75, 0xc5, 0x82, 0x18, 0xf8, 0x39, 0xa0, 0xb6, 0xc3, 0xfe]

def secondDigest : Bytes :=
  [0xe4, 0x81, 0x77, 0x05, 0xc7, 0x31, 0x98, 0xf1, 0xd5, 0x55, 0x04, 0xaa, 0xc6, 0xa2, 0xe9, 0xd5,
    0xd2, 0xce, 0x8e, 0x6c, 0xc1, 0xe7, 0x20, 0x9c, 0x2b, 0x6f, 0x51, 0xc5, 0x1d, 0x8c, 0x4c, 0xf9]

def exampleSha256 : Bytes → Bytes :=
  (Equiv.swap (utf8 (exampleText (js "n"))) firstDigest).trans
    (Equiv.swap (utf8 (exampleText (js "m"))) secondDigest)

theorem hash_exampleSpec :
    generateSpecHash exampleSha256 (exampleSpec (js "n")) = toHex firstDigest ∧
      generateSpecHash exampleSha256 (exampleSpec (js "m")) = toHex secondDigest := by
  have first : specString (exampleSpec (js "n")) = some (exampleText (js "n")) := by
    rw [specString_eq]
    decide +kernel
  have second : specString (exampleSpec (js "m")) = some (exampleText (js "m")) := by
    rw [specString_eq]
    decide +kernel
  have firstBytes : exampleSha256 (utf8 (exampleText (js "n"))) = firstDigest := by
    decide +kernel
  have secondBytes : exampleSha256 (utf8 (exampleText (js "m"))) = secondDigest := by
    decide +kernel
  rw [generateSpecHash, generateSpecHash, first, second, Option.getD_some, Option.getD_some,
    firstBytes, secondBytes]
  exact ⟨rfl, rfl⟩

/-- A contract with another id is found by its name and not reported; a spec with another
name is reported. -/
theorem not_sameContracts :
    (¬ ∀ (sha256 : Bytes → Bytes) (now configHash : JsString)
      (contracts later : List ResolvedContract), Function.Injective sha256 →
        (contracts.map fun old => old.config.contractId).Nodup →
          (contracts.map fun old => old.config.label).Nodup →
            (detectDrift sha256 (createLockFile sha256 now configHash contracts) configHash
              later).contractChanges = [] → SameContracts contracts later) ∧
    ¬ ∀ (sha256 : Bytes → Bytes) (now configHash : JsString)
      (contracts later : List ResolvedContract), Function.Injective sha256 →
        (contracts.map fun old => old.config.contractId).Nodup →
          (contracts.map fun old => old.config.label).Nodup → SameContracts contracts later →
            (detectDrift sha256 (createLockFile sha256 now configHash contracts) configHash
              later).contractChanges = [] := by
  have alone : ∀ {contract other : ResolvedContract}, IsCurrent [other] contract →
      contract = other := fun current => List.mem_singleton.mp current.mem
  have ids : ∀ contract : ResolvedContract,
      ([contract].map fun old => old.config.contractId).Nodup := fun _ => List.nodup_singleton _
  have labels : ∀ contract : ResolvedContract,
      ([contract].map fun old => old.config.label).Nodup := fun _ => List.nodup_singleton _
  constructor
  · intro same
    have kept : Kept (fun first second => generateSpecHash id first = generateSpecHash id second)
        [exampleContract (js "A") (js "n")] [exampleContract (js "B") (js "n")] := by
      constructor
      · intro contract current
        rw [alone current]
        exact ⟨exampleContract (js "A") (js "n"), rfl, rfl⟩
      · intro old member
        rw [List.mem_singleton.mp member]
        exact ⟨_, List.mem_cons_self, Or.inr rfl⟩
    have unchanged := same id [] [] _ _ Function.injective_id (ids _) (labels _)
      ((contractChanges_eq_nil_iff (ids _) (labels _)).mpr kept)
    have sameIds := unchanged.ids (js "A")
    rcases sameIds.mp ⟨_, List.mem_cons_self, rfl⟩ with ⟨contract, member, isId⟩
    rw [List.mem_singleton.mp member] at isId
    revert isId
    decide
  · intro quiet
    have same : SameContracts [exampleContract (js "A") (js "n")]
        [exampleContract (js "A") (js "m")] := by
      constructor
      · intro contractId
        simp [exampleContract]
      · intro old member contract memberToo _
        rw [List.mem_singleton.mp member, List.mem_singleton.mp memberToo]
        exact ⟨rfl, rfl, rfl⟩
    have none' := quiet id [] [] _ _ Function.injective_id (ids _) (labels _) same
    have kept := (contractChanges_eq_nil_iff (ids _) (labels _)).mp none'
    rcases kept.found (exampleContract (js "A") (js "m")) ⟨[], [], rfl, fun _ none => by cases none⟩
      with ⟨old, isOld, hashes⟩
    have isFirst : previous? [exampleContract (js "A") (js "n")]
        (exampleContract (js "A") (js "m")) = some (exampleContract (js "A") (js "n")) := rfl
    cases isFirst.symm.trans isOld
    have names := (sameNames_of_hash Function.injective_id hashes).name
    revert names
    decide

/-- Two contracts come in another order, and one of them has another id. -/
theorem unchanged_example :
    (generateSpecHash exampleSha256 (exampleSpec (js "n")) = toHex firstDigest ∧
        generateSpecHash exampleSha256 (exampleSpec (js "m")) = toHex secondDigest) ∧
      (detectDrift exampleSha256 (createLockFile exampleSha256 [] []
        [exampleContract (js "A") (js "n"), exampleContract (js "B") (js "m")]) []
          [exampleContract (js "C") (js "m"), exampleContract (js "A") (js "n")]).contractChanges =
            [] := by
  have kept : Kept SameSpec [exampleContract (js "A") (js "n"), exampleContract (js "B") (js "m")]
      [exampleContract (js "C") (js "m"), exampleContract (js "A") (js "n")] := by
    constructor
    · intro contract current
      rcases List.mem_pair.mp current.mem with rfl | rfl
      · exact ⟨exampleContract (js "B") (js "m"), rfl, ⟨rfl, rfl, rfl, rfl, rfl, fun _ => rfl⟩⟩
      · exact ⟨exampleContract (js "A") (js "n"), rfl, ⟨rfl, rfl, rfl, rfl, rfl, fun _ => rfl⟩⟩
    · intro old member
      rcases List.mem_pair.mp member with rfl | rfl
      · exact ⟨_, List.mem_cons_of_mem _ List.mem_cons_self, .inl rfl⟩
      · exact ⟨_, List.mem_cons_self, .inr rfl⟩
  have injective : Function.Injective exampleSha256 := Equiv.injective _
  exact ⟨hash_exampleSpec, (contractChanges_bounds injective (by decide) (by decide)).2 kept⟩

end LockFile

end Orbital.AbiRegistry
