import Mathlib.Logic.Function.Basic
import Orbital.AbiRegistry.Spec

/-! # `contracts/registry/src/lib.rs`

The storage of the registry contract and its entry points for specs. A version is a
string of bytes; a spec that is published is never written again. The ghost log lists
what was published in order, and the storage shows exactly the log.
-/

namespace Orbital.AbiRegistry

open Foundation

/-- `A` to `Z` and `2` to `7` -/
def isBase32 (unit : CodeUnit) : Bool :=
  (0x41 ≤ unit.toNat && unit.toNat ≤ 0x5A) || (0x32 ≤ unit.toNat && unit.toNat ≤ 0x37)

structure Address where
  text : JsString
  base32 : text.all isBase32 = true
  deriving DecidableEq

namespace RegistryContract

def maxPageSize : Nat :=
  25

inductive Error
  | alreadyPublished
  | emptyVersion
  | emptyPointer
  | emptyDisplayName
  | emptyTriggerClass
  deriving DecidableEq

structure SpecRecord where
  version : Bytes
  specHash : Bytes
  pointer : Bytes
  publisher : Address
  publishedAt : Nat
  publishedAtLedger : Nat
  deriving DecidableEq

/-- `DataKey::Versions` and `DataKey::Latest` -/
structure PairKey where
  contractId : Address
  publisher : Address
  deriving DecidableEq

/-- `DataKey::Spec` -/
structure SpecKey where
  contractId : Address
  publisher : Address
  version : Bytes
  deriving DecidableEq

structure Storage where
  specs : SpecKey → Option SpecRecord
  versions : PairKey → Option (List Bytes)
  latest : PairKey → Option Bytes

def Storage.empty : Storage where
  specs := fun _ => none
  versions := fun _ => none
  latest := fun _ => none

structure Publish where
  publisher : Address
  contractId : Address
  version : Bytes
  specHash : Bytes
  pointer : Bytes
  timestamp : Nat
  sequence : Nat
  deriving DecidableEq

namespace Publish

def specKey (call : Publish) : SpecKey where
  contractId := call.contractId
  publisher := call.publisher
  version := call.version

def pairKey (call : Publish) : PairKey where
  contractId := call.contractId
  publisher := call.publisher

def record (call : Publish) : SpecRecord where
  version := call.version
  specHash := call.specHash
  pointer := call.pointer
  publisher := call.publisher
  publishedAt := call.timestamp
  publishedAtLedger := call.sequence

end Publish

def publish (storage : Storage) (call : Publish) : Except Error Storage :=
  if call.version = [] then .error .emptyVersion
  else if call.pointer = [] then .error .emptyPointer
  else if (storage.specs call.specKey).isSome then .error .alreadyPublished
  else
    let versions := (storage.versions call.pairKey).getD []
    .ok {
      specs := Function.update storage.specs call.specKey (some call.record)
      versions :=
        Function.update storage.versions call.pairKey (some (versions ++ [call.version]))
      latest := Function.update storage.latest call.pairKey (some call.version) }

def getVersion (storage : Storage) (contractId publisher : Address) (version : Bytes) :
    Option SpecRecord :=
  storage.specs ⟨contractId, publisher, version⟩

def latest (storage : Storage) (contractId publisher : Address) : Option SpecRecord := do
  let version ← storage.latest ⟨contractId, publisher⟩
  getVersion storage contractId publisher version

/-- A page of the versions and the start of the next one. The sum of two numbers of 32
bits traps when it needs more. -/
def listVersionsPaged (storage : Storage) (contractId publisher : Address)
    (start limit : Nat) : Option (List Bytes × Option Nat) :=
  let all := (storage.versions ⟨contractId, publisher⟩).getD []
  let total := all.length
  if total ≤ start then some ([], none)
  else
    let effectiveLimit := min limit maxPageSize
    if 2 ^ 32 ≤ start + effectiveLimit then none
    else
      let until' := min (start + effectiveLimit) total
      some ((all.take until').drop start, if until' < total then some until' else none)

/-! ## Runs -/

/-- The storage and the log of what was published for each contract. -/
structure Chain where
  storage : Storage
  log : List (Address × SpecRecord)

def Chain.empty : Chain where
  storage := .empty
  log := []

/-- A transaction that fails leaves everything as it was. -/
def Chain.step (chain : Chain) (call : Publish) : Chain :=
  match publish chain.storage call with
  | .error _ => chain
  | .ok storage => { storage, log := chain.log ++ [(call.contractId, call.record)] }

def Chain.after (calls : List Publish) : Chain :=
  calls.foldl Chain.step .empty

def Chain.published (chain : Chain) (contractId publisher : Address) : List SpecRecord :=
  (chain.log.filter fun entry =>
    entry.1 = contractId ∧ entry.2.publisher = publisher).map Prod.snd

structure Chain.Shows (chain : Chain) (contractId publisher : Address) : Prop where
  versions : (chain.storage.versions ⟨contractId, publisher⟩).getD [] =
    (chain.published contractId publisher).map SpecRecord.version
  nodup : ((chain.published contractId publisher).map SpecRecord.version).Nodup
  specs : ∀ version record, chain.storage.specs ⟨contractId, publisher, version⟩ = some record ↔
    record ∈ chain.published contractId publisher ∧ record.version = version

variable {next : Storage} {call : Publish} {chain : Chain} {contractId publisher : Address}

theorem publish_eq_ok {storage : Storage} (published : publish storage call = .ok next) :
    storage.specs call.specKey = none ∧
      next.specs = Function.update storage.specs call.specKey (some call.record) ∧
      next.versions = Function.update storage.versions call.pairKey
        (some ((storage.versions call.pairKey).getD [] ++ [call.version])) := by
  rw [publish] at published
  split at published
  · cases published
  · split at published
    · cases published
    · split at published
      · cases published
      · rename_i absent
        cases published
        exact ⟨Option.isNone_iff_eq_none.mp (Option.not_isSome_iff_eq_none.mp absent ▸ rfl),
          rfl, rfl⟩

theorem published_append_other (storage : Storage)
    (other : ¬ (call.contractId = contractId ∧ call.publisher = publisher)) :
    Chain.published ⟨storage, chain.log ++ [(call.contractId, call.record)]⟩ contractId publisher =
      chain.published contractId publisher := by
  have skipped : decide (call.contractId = contractId ∧ call.record.publisher = publisher) =
      false := decide_eq_false other
  simp only [Chain.published, List.filter_append, List.filter_singleton, skipped, cond_false,
    List.append_nil]

theorem published_append_own (storage : Storage) :
    Chain.published ⟨storage, chain.log ++ [(call.contractId, call.record)]⟩ call.contractId
        call.publisher =
      chain.published call.contractId call.publisher ++ [call.record] := by
  have kept : call.record.publisher = call.publisher := rfl
  simp only [Chain.published, List.filter_append, List.filter_singleton, kept, true_and,
    decide_true, cond_true, List.map_append, List.map_cons, List.map_nil]

theorem Chain.Shows.step_own (shows : chain.Shows call.contractId call.publisher)
    (result : publish chain.storage call = .ok next) :
    Chain.Shows ⟨next, chain.log ++ [(call.contractId, call.record)]⟩ call.contractId
      call.publisher := by
  rcases publish_eq_ok result with ⟨absent, specs, versions⟩
  have isNew : ∀ record ∈ chain.published call.contractId call.publisher,
      record.version ≠ call.version := by
    intro record member same
    have stored := (shows.specs call.version record).mpr ⟨member, same⟩
    change chain.storage.specs call.specKey = some record at stored
    rw [absent] at stored
    cases stored
  constructor
  · change (next.versions call.pairKey).getD [] = _
    rw [published_append_own, List.map_append, versions, Function.update_self, ← shows.versions]
    rfl
  · rw [published_append_own, List.map_append]
    apply List.Nodup.append shows.nodup (List.nodup_singleton _)
    intro version inside last
    rcases List.mem_map.mp inside with ⟨record, member, rfl⟩
    exact isNew record member (List.mem_singleton.mp last)
  · intro version record
    rw [published_append_own, List.mem_append, List.mem_singleton, specs]
    by_cases current : call.version = version
    · subst current
      change Function.update chain.storage.specs call.specKey _ call.specKey = _ ↔ _
      rw [Function.update_self]
      constructor
      · intro same
        cases same
        exact ⟨Or.inr rfl, rfl⟩
      · rintro ⟨member | rfl, same⟩
        · exact absurd same (isNew record member)
        · rfl
    · rw [Function.update_of_ne (fun same => current (congrArg SpecKey.version same).symm),
        shows.specs]
      constructor
      · rintro ⟨member, same⟩
        exact ⟨Or.inl member, same⟩
      · rintro ⟨member | rfl, same⟩
        · exact ⟨member, same⟩
        · exact absurd same current

theorem Chain.Shows.step_other (shows : chain.Shows contractId publisher)
    (result : publish chain.storage call = .ok next)
    (other : ¬ (call.contractId = contractId ∧ call.publisher = publisher)) :
    Chain.Shows ⟨next, chain.log ++ [(call.contractId, call.record)]⟩ contractId publisher := by
  rcases publish_eq_ok result with ⟨-, specs, versions⟩
  constructor
  · rw [published_append_other next other, versions, ← shows.versions, Function.update_of_ne]
    intro same
    exact other ⟨(congrArg PairKey.contractId same).symm, (congrArg PairKey.publisher same).symm⟩
  · rw [published_append_other next other]
    exact shows.nodup
  · intro version record
    rw [published_append_other next other, specs, ← shows.specs, Function.update_of_ne]
    intro same
    exact other ⟨(congrArg SpecKey.contractId same).symm, (congrArg SpecKey.publisher same).symm⟩

theorem Chain.Shows.step (shows : chain.Shows contractId publisher) (call : Publish) :
    (chain.step call).Shows contractId publisher := by
  rw [Chain.step]
  cases result : publish chain.storage call with
  | error error => exact shows
  | ok next =>
      by_cases own : call.contractId = contractId ∧ call.publisher = publisher
      · rcases own with ⟨rfl, rfl⟩
        exact shows.step_own result
      · exact shows.step_other result own

theorem Chain.Shows.empty (contractId publisher : Address) :
    Chain.empty.Shows contractId publisher := by
  constructor
  · rfl
  · exact List.nodup_nil
  · intro version record
    simp [Chain.empty, Storage.empty, Chain.published]

theorem Chain.shows_after (calls : List Publish) (contractId publisher : Address) :
    (Chain.after calls).Shows contractId publisher := by
  have run : ∀ (calls : List Publish) (chain : Chain), chain.Shows contractId publisher →
      (calls.foldl Chain.step chain).Shows contractId publisher := by
    intro calls
    induction calls with
    | nil => exact fun chain shows => shows
    | cons call calls induction => exact fun chain shows => induction _ (shows.step call)
  exact run calls .empty (.empty contractId publisher)

end RegistryContract

end Orbital.AbiRegistry

/-! ## `publish` of `OnChainRegistryPublisher.ts`

A spec that is valid and has a contract and a pointer becomes a call of the registry
contract with the hash of its canonical text.
-/

namespace Orbital.AbiRegistry

open Foundation

namespace OnChainRegistryPublisher

inductive Failure
  | invalid (errors : List JsString)
  | contractIdRequired
  | pointerRequired
  | unsupportedAddress (text : JsString)
  deriving DecidableEq

def Failure.message : Failure → JsString
  | .invalid errors =>
      js "OnChainRegistryPublisher.publish: spec validation failed:\n" ++
        List.intercalate (js "\n") (errors.map (js "  - " ++ ·))
  | .contractIdRequired => js "OnChainRegistryPublisher.publish: spec.contractId is required"
  | .pointerRequired =>
      js "OnChainRegistryPublisher.publish: spec.pointer is required - " ++
        js "set it to where the spec blob will be hosted before publishing"
  | .unsupportedAddress text => js "Unsupported address type: " ++ text

def filled? (value : JsValue) : Option JsString :=
  (text? value).filter (· ≠ [])

def address? (text : JsString) : Option Address :=
  if base32 : text.all isBase32 = true then some ⟨text, base32⟩ else none

structure Config where
  publisherAddress : Address
  sha256 : Bytes → Bytes

def canonicalText (spec : JsValue) : JsString :=
  (canonicalizeSpec spec).getD []

def specHash (config : Config) (spec : JsValue) : Bytes :=
  config.sha256 (utf8 (canonicalText spec))

def publish (config : Config) (spec : JsValue) (timestamp sequence : Nat) :
    Except Failure RegistryContract.Publish :=
  match spec with
  | .object members =>
      if validateSpec spec ≠ [] then .error (.invalid (validateSpec spec))
      else
        match filled? (get members (js "contractId")) with
        | none => .error .contractIdRequired
        | some contractId =>
            match filled? (get members (js "pointer")) with
            | none => .error .pointerRequired
            | some pointer =>
                match address? contractId with
                | none => .error (.unsupportedAddress contractId)
                | some address =>
                    .ok {
                      publisher := config.publisherAddress
                      contractId := address
                      version := utf8 ((text? (get members (js "version"))).getD [])
                      specHash := specHash config spec
                      pointer := utf8 pointer
                      timestamp
                      sequence }
  | _ => .error (.invalid (validateSpec spec))

variable {config : Config} {members : List (JsString × JsValue)} {timestamp sequence : Nat}

theorem publish_eq_ok {version pointer : JsString} {contractId : Address}
    (valid : validateSpec (.object members) = [])
    (hasVersion : text? (get members (js "version")) = some version)
    (hasContract : filled? (get members (js "contractId")) = some contractId.text)
    (hasPointer : filled? (get members (js "pointer")) = some pointer) :
    publish config (.object members) timestamp sequence =
      .ok {
        publisher := config.publisherAddress
        contractId
        version := utf8 version
        specHash := specHash config (.object members)
        pointer := utf8 pointer
        timestamp
        sequence } := by
  have address : address? contractId.text = some contractId := dif_pos contractId.base32
  rw [publish, if_neg (fun invalid => invalid valid), hasContract]
  dsimp only
  rw [hasPointer]
  dsimp only
  rw [address, hasVersion]
  rfl

theorem call_of_publish {call : RegistryContract.Publish}
    (planned : publish config (.object members) timestamp sequence = .ok call) :
    call.version = utf8 ((text? (get members (js "version"))).getD []) ∧
      call.specHash = specHash config (.object members) := by
  rw [publish] at planned
  split at planned
  · cases planned
  · split at planned
    · cases planned
    · split at planned
      · cases planned
      · split at planned
        · cases planned
        · cases planned
          exact ⟨rfl, rfl⟩

end OnChainRegistryPublisher

end Orbital.AbiRegistry
