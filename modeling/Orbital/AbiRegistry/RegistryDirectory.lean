import Orbital.AbiRegistry.RegistryContract
import Orbital.Foundation.Paging
import Orbital.Foundation.Shelf

/-! # The whole storage of `contracts/registry/src/lib.rs`

Specs, operators and offerings are three shelves of one storage. Each entry point checks
its arguments in the order of the source and adds one record to its shelf. A call that
fails leaves the state it has written so far: that this is nothing follows from the order
of the checks and the writes, not from the host.
-/

namespace Orbital.AbiRegistry.RegistryContract

open Foundation

structure OperatorRecord where
  version : Bytes
  operator : Address
  displayName : Bytes
  contact : Bytes
  triggerClasses : List Bytes
  networks : List Bytes
  price : Int
  denomination : Bytes
  latencyTier : Bytes
  pointer : Bytes
  registeredAt : Nat
  registeredAtLedger : Nat
  deriving DecidableEq

structure OfferingRecord where
  version : Bytes
  operator : Address
  targetContract : Address
  function : Bytes
  triggerClass : Bytes
  price : Int
  denomination : Bytes
  pointer : Bytes
  registeredAt : Nat
  registeredAtLedger : Nat
  deriving DecidableEq

structure Directory where
  specs : Shelf PairKey Bytes SpecRecord
  operators : Shelf Address Bytes OperatorRecord
  offerings : Shelf Address Bytes OfferingRecord

/-- The host stops a call, or the call returns an error. -/
inductive Failure
  | trap
  | returned (error : Error)
  deriving DecidableEq

abbrev Entrypoint :=
  EStateM Failure Directory Unit

structure Env where
  signers : List Address
  timestamp : Nat
  sequence : Nat

namespace Directory

def empty : Directory where
  specs := .empty
  operators := .empty
  offerings := .empty

def onSpecs (write : EStateM Failure (Shelf PairKey Bytes SpecRecord) Unit) : Entrypoint :=
  fun directory =>
  match write.run directory.specs with
  | .ok value specs => .ok value { directory with specs }
  | .error failure specs => .error failure { directory with specs }

def onOperators (write : EStateM Failure (Shelf Address Bytes OperatorRecord) Unit) :
    Entrypoint := fun directory =>
  match write.run directory.operators with
  | .ok value operators => .ok value { directory with operators }
  | .error failure operators => .error failure { directory with operators }

def onOfferings (write : EStateM Failure (Shelf Address Bytes OfferingRecord) Unit) :
    Entrypoint := fun directory =>
  match write.run directory.offerings with
  | .ok value offerings => .ok value { directory with offerings }
  | .error failure offerings => .error failure { directory with offerings }

def requireAuth (env : Env) (address : Address) (body : Entrypoint) : Entrypoint :=
  if address ∈ env.signers then body else throw .trap

/-- A check of an argument: its failure is returned and the rest does not run. -/
def rejectIf (refused : Prop) [Decidable refused] (error : Error) (body : Entrypoint) :
    Entrypoint :=
  if refused then throw (.returned error) else body

def publish (env : Env) (publisher contractId : Address) (version specHash pointer : Bytes) :
    Entrypoint :=
  requireAuth env publisher <|
  rejectIf (version = []) .emptyVersion <|
  rejectIf (pointer = []) .emptyPointer <|
  onSpecs <| Shelf.add (.returned .alreadyPublished) ⟨contractId, publisher⟩ version {
    version
    specHash
    pointer
    publisher
    publishedAt := env.timestamp
    publishedAtLedger := env.sequence }

def registerOperator (env : Env) (operator : Address) (version displayName contact : Bytes)
    (triggerClasses networks : List Bytes) (price : Int)
    (denomination latencyTier pointer : Bytes) : Entrypoint :=
  requireAuth env operator <|
  rejectIf (version = []) .emptyVersion <|
  rejectIf (displayName = []) .emptyDisplayName <|
  rejectIf (pointer = []) .emptyPointer <|
  onOperators <| Shelf.add (.returned .alreadyPublished) operator version {
    version
    operator
    displayName
    contact
    triggerClasses
    networks
    price
    denomination
    latencyTier
    pointer
    registeredAt := env.timestamp
    registeredAtLedger := env.sequence }

def registerOffering (env : Env) (operator : Address) (version : Bytes)
    (targetContract : Address) (function triggerClass : Bytes) (price : Int)
    (denomination pointer : Bytes) : Entrypoint :=
  requireAuth env operator <|
  rejectIf (version = []) .emptyVersion <|
  rejectIf (triggerClass = []) .emptyTriggerClass <|
  rejectIf (pointer = []) .emptyPointer <|
  onOfferings <| Shelf.add (.returned .alreadyPublished) operator version {
    version
    operator
    targetContract
    function
    triggerClass
    price
    denomination
    pointer
    registeredAt := env.timestamp
    registeredAtLedger := env.sequence }

def getVersion (directory : Directory) (contractId publisher : Address) (version : Bytes) :
    Option SpecRecord :=
  directory.specs.records ⟨contractId, publisher⟩ version

def latest (directory : Directory) (contractId publisher : Address) : Option SpecRecord :=
  directory.specs.newest ⟨contractId, publisher⟩

def getOperator (directory : Directory) (operator : Address) (version : Bytes) :
    Option OperatorRecord :=
  directory.operators.records operator version

def latestOperator (directory : Directory) (operator : Address) : Option OperatorRecord :=
  directory.operators.newest operator

def getOffering (directory : Directory) (operator : Address) (version : Bytes) :
    Option OfferingRecord :=
  directory.offerings.records operator version

def latestOffering (directory : Directory) (operator : Address) : Option OfferingRecord :=
  directory.offerings.newest operator

end Directory

inductive Call
  | publish (publisher contractId : Address) (version specHash pointer : Bytes)
  | registerOperator (operator : Address) (version displayName contact : Bytes)
      (triggerClasses networks : List Bytes) (price : Int)
      (denomination latencyTier pointer : Bytes)
  | registerOffering (operator : Address) (version : Bytes) (targetContract : Address)
      (function triggerClass : Bytes) (price : Int) (denomination pointer : Bytes)

def Call.run (env : Env) : Call → Entrypoint
  | .publish publisher contractId version specHash pointer =>
      Directory.publish env publisher contractId version specHash pointer
  | .registerOperator operator version displayName contact triggerClasses networks price
      denomination latencyTier pointer =>
      Directory.registerOperator env operator version displayName contact triggerClasses networks
        price denomination latencyTier pointer
  | .registerOffering operator version targetContract function triggerClass price denomination
      pointer =>
      Directory.registerOffering env operator version targetContract function triggerClass price
        denomination pointer

namespace Directory

def step (directory : Directory) (invocation : Env × Call) : Directory :=
  match (invocation.2.run invocation.1).run directory with
  | .ok _ next => next
  | .error _ next => next

def after (invocations : List (Env × Call)) : Directory :=
  invocations.foldl step empty

structure Consistent (directory : Directory) : Prop where
  specs : directory.specs.Consistent fun pair version record =>
    record.version = version ∧ record.publisher = pair.publisher
  operators : directory.operators.Consistent fun operator version record =>
    record.version = version ∧ record.operator = operator
  offerings : directory.offerings.Consistent fun operator version record =>
    record.version = version ∧ record.operator = operator

structure KeptBy (first second : Directory) : Prop where
  specs : first.specs.KeptBy second.specs
  operators : first.operators.KeptBy second.operators
  offerings : first.offerings.KeptBy second.offerings

def ChangesOnly : Call → Directory → Directory → Prop
  | .publish publisher contractId .., before, after =>
      (∀ pair, pair ≠ ⟨contractId, publisher⟩ → before.specs.AgreesAt pair after.specs) ∧
        before.operators = after.operators ∧ before.offerings = after.offerings
  | .registerOperator operator .., before, after =>
      (∀ other, other ≠ operator → before.operators.AgreesAt other after.operators) ∧
        before.specs = after.specs ∧ before.offerings = after.offerings
  | .registerOffering operator .., before, after =>
      (∀ other, other ≠ operator → before.offerings.AgreesAt other after.offerings) ∧
        before.specs = after.specs ∧ before.operators = after.operators

/-! ## What a call does -/

def FilesOrFails (files : Directory → Prop) (directory : Directory)
    (result : EStateM.Result Failure Directory Unit) : Prop :=
  (∃ next, result = .ok () next ∧ files next) ∨ ∃ failure, result = .error failure directory

section Checks

variable {files : Directory → Prop} {directory : Directory} {body : Entrypoint}

theorem requireAuth_filesOrFails (env : Env) (address : Address)
    (rest : FilesOrFails files directory (body.run directory)) :
    FilesOrFails files directory ((requireAuth env address body).run directory) := by
  rw [requireAuth]
  split
  · exact rest
  · exact Or.inr ⟨.trap, rfl⟩

theorem rejectIf_filesOrFails (refused : Prop) [Decidable refused] (error : Error)
    (rest : FilesOrFails files directory (body.run directory)) :
    FilesOrFails files directory ((rejectIf refused error body).run directory) := by
  rw [rejectIf]
  split
  · exact Or.inr ⟨.returned error, rfl⟩
  · exact rest

end Checks

section Families

variable (directory : Directory) (failure : Failure) (version : Bytes)

theorem onSpecs_filesOrFails (pair : PairKey) (record : SpecRecord) :
    FilesOrFails (fun next => directory.specs.records pair version = none ∧
        next = { directory with specs := directory.specs.filed pair version record })
      directory ((onSpecs (Shelf.add failure pair version record)).run directory) := by
  change FilesOrFails _ _ (onSpecs _ directory)
  rw [onSpecs]
  rcases directory.specs.add_cases failure pair version record with
    ⟨absent, result⟩ | ⟨-, result⟩
  · rw [result]
    exact Or.inl ⟨_, rfl, absent, rfl⟩
  · rw [result]
    exact Or.inr ⟨failure, rfl⟩

theorem onOperators_filesOrFails (operator : Address) (record : OperatorRecord) :
    FilesOrFails (fun next => directory.operators.records operator version = none ∧
        next = { directory with operators := directory.operators.filed operator version record })
      directory ((onOperators (Shelf.add failure operator version record)).run directory) := by
  change FilesOrFails _ _ (onOperators _ directory)
  rw [onOperators]
  rcases directory.operators.add_cases failure operator version record with
    ⟨absent, result⟩ | ⟨-, result⟩
  · rw [result]
    exact Or.inl ⟨_, rfl, absent, rfl⟩
  · rw [result]
    exact Or.inr ⟨failure, rfl⟩

theorem onOfferings_filesOrFails (operator : Address) (record : OfferingRecord) :
    FilesOrFails (fun next => directory.offerings.records operator version = none ∧
        next = { directory with offerings := directory.offerings.filed operator version record })
      directory ((onOfferings (Shelf.add failure operator version record)).run directory) := by
  change FilesOrFails _ _ (onOfferings _ directory)
  rw [onOfferings]
  rcases directory.offerings.add_cases failure operator version record with
    ⟨absent, result⟩ | ⟨-, result⟩
  · rw [result]
    exact Or.inl ⟨_, rfl, absent, rfl⟩
  · rw [result]
    exact Or.inr ⟨failure, rfl⟩

end Families

inductive Files (directory : Directory) : Call → Directory → Prop
  | spec {publisher contractId version specHash pointer} (record : SpecRecord)
      (absent : directory.specs.records ⟨contractId, publisher⟩ version = none)
      (keyed : record.version = version ∧ record.publisher = publisher) :
      Files directory (.publish publisher contractId version specHash pointer)
        { directory with
          specs := directory.specs.filed ⟨contractId, publisher⟩ version record }
  | operator {operator version displayName contact triggerClasses networks price denomination
      latencyTier pointer} (record : OperatorRecord)
      (absent : directory.operators.records operator version = none)
      (keyed : record.version = version ∧ record.operator = operator) :
      Files directory
        (.registerOperator operator version displayName contact triggerClasses networks price
          denomination latencyTier pointer)
        { directory with operators := directory.operators.filed operator version record }
  | offering {operator version targetContract function triggerClass price denomination pointer}
      (record : OfferingRecord)
      (absent : directory.offerings.records operator version = none)
      (keyed : record.version = version ∧ record.operator = operator) :
      Files directory
        (.registerOffering operator version targetContract function triggerClass price
          denomination pointer)
        { directory with offerings := directory.offerings.filed operator version record }

variable {directory : Directory}

theorem FilesOrFails.imp {files filesToo : Directory → Prop}
    {result : EStateM.Result Failure Directory Unit} (outcome : FilesOrFails files directory result)
    (also : ∀ next, files next → filesToo next) : FilesOrFails filesToo directory result := by
  rcases outcome with ⟨next, succeeded, holds⟩ | failed
  · exact Or.inl ⟨next, succeeded, also next holds⟩
  · exact Or.inr failed

theorem run_filesOrFails (directory : Directory) (env : Env) (call : Call) :
    FilesOrFails (directory.Files call) directory ((call.run env).run directory) := by
  cases call with
  | publish publisher contractId version specHash pointer =>
      apply requireAuth_filesOrFails
      apply rejectIf_filesOrFails
      apply rejectIf_filesOrFails
      apply (onSpecs_filesOrFails directory _ version ⟨contractId, publisher⟩ _).imp
      rintro next ⟨absent, rfl⟩
      exact .spec _ absent ⟨rfl, rfl⟩
  | registerOperator operator version displayName contact triggerClasses networks price
      denomination latencyTier pointer =>
      apply requireAuth_filesOrFails
      apply rejectIf_filesOrFails
      apply rejectIf_filesOrFails
      apply rejectIf_filesOrFails
      apply (onOperators_filesOrFails directory _ version operator _).imp
      rintro next ⟨absent, rfl⟩
      exact .operator _ absent ⟨rfl, rfl⟩
  | registerOffering operator version targetContract function triggerClass price denomination
      pointer =>
      apply requireAuth_filesOrFails
      apply rejectIf_filesOrFails
      apply rejectIf_filesOrFails
      apply rejectIf_filesOrFails
      apply (onOfferings_filesOrFails directory _ version operator _).imp
      rintro next ⟨absent, rfl⟩
      exact .offering _ absent ⟨rfl, rfl⟩

theorem run_error {next : Directory} {env : Env} {call : Call} {failure : Failure}
    (failed : (call.run env).run directory = .error failure next) : next = directory := by
  rcases run_filesOrFails directory env call with ⟨filed, succeeded, -⟩ | ⟨reason, same⟩
  · rw [succeeded] at failed
    cases failed
  · rw [same] at failed
    cases failed
    rfl

theorem step_cases (directory : Directory) (invocation : Env × Call) :
    directory.Files invocation.2 (directory.step invocation) ∨
      directory.step invocation = directory := by
  rw [step]
  rcases run_filesOrFails directory invocation.1 invocation.2 with
    ⟨next, succeeded, filed⟩ | ⟨failure, failed⟩
  · rw [succeeded]
    exact Or.inl filed
  · rw [failed]
    exact Or.inr rfl

def specStorage (directory : Directory) : Storage where
  specs := fun key => directory.specs.records ⟨key.contractId, key.publisher⟩ key.version
  versions := directory.specs.labels
  latest := directory.specs.latest

/-! ## What every run keeps -/

theorem KeptBy.refl (directory : Directory) : directory.KeptBy directory :=
  ⟨.refl _, .refl _, .refl _⟩

theorem KeptBy.trans {first second third : Directory} (front : first.KeptBy second)
    (back : second.KeptBy third) : first.KeptBy third :=
  ⟨front.specs.trans back.specs, front.operators.trans back.operators,
    front.offerings.trans back.offerings⟩

section Step

variable {directory next : Directory} {call : Call}

theorem Files.keptBy (files : directory.Files call next) : directory.KeptBy next := by
  cases files with
  | spec record absent keyed => exact ⟨Shelf.keptBy_filed absent, .refl _, .refl _⟩
  | operator record absent keyed => exact ⟨.refl _, Shelf.keptBy_filed absent, .refl _⟩
  | offering record absent keyed => exact ⟨.refl _, .refl _, Shelf.keptBy_filed absent⟩

theorem Files.consistent (files : directory.Files call next) (consistent : directory.Consistent) :
    next.Consistent := by
  cases files with
  | spec record absent keyed =>
      exact ⟨consistent.specs.filed absent keyed, consistent.operators, consistent.offerings⟩
  | operator record absent keyed =>
      exact ⟨consistent.specs, consistent.operators.filed absent keyed, consistent.offerings⟩
  | offering record absent keyed =>
      exact ⟨consistent.specs, consistent.operators, consistent.offerings.filed absent keyed⟩

theorem Files.changesOnly (files : directory.Files call next) :
    ChangesOnly call directory next := by
  cases files with
  | spec record absent keyed | operator record absent keyed | offering record absent keyed =>
      exact ⟨fun other => Shelf.agreesAt_filed, rfl, rfl⟩

theorem ChangesOnly.refl (call : Call) (directory : Directory) :
    ChangesOnly call directory directory := by
  cases call with
  | publish | registerOperator | registerOffering => exact ⟨fun other _ => .refl _ _, rfl, rfl⟩

end Step

theorem keptBy_step (directory : Directory) (invocation : Env × Call) :
    directory.KeptBy (directory.step invocation) := by
  rcases directory.step_cases invocation with files | same
  · exact files.keptBy
  · rw [same]
    exact .refl directory

theorem Consistent.step (consistent : directory.Consistent) (invocation : Env × Call) :
    (directory.step invocation).Consistent := by
  rcases directory.step_cases invocation with files | same
  · exact files.consistent consistent
  · rw [same]
    exact consistent

theorem changesOnly_step (directory : Directory) (invocation : Env × Call) :
    ChangesOnly invocation.2 directory (directory.step invocation) := by
  rcases directory.step_cases invocation with files | same
  · exact files.changesOnly
  · rw [same]
    exact .refl _ directory

theorem Consistent.empty : Directory.empty.Consistent :=
  ⟨.empty _, .empty _, .empty _⟩

theorem consistent_foldl (invocations : List (Env × Call)) (consistent : directory.Consistent) :
    (invocations.foldl Directory.step directory).Consistent := by
  induction invocations generalizing directory with
  | nil => exact consistent
  | cons invocation invocations induction => exact induction (consistent.step invocation)

theorem keptBy_foldl (directory : Directory) (invocations : List (Env × Call)) :
    directory.KeptBy (invocations.foldl Directory.step directory) := by
  induction invocations generalizing directory with
  | nil => exact .refl directory
  | cons invocation invocations induction =>
      exact (directory.keptBy_step invocation).trans (induction _)

/-- After every run the pointer of every pair is the last version of its list, the list
has no version twice, and every version of it has its record, which stays; a call that
fails changes nothing, and no call changes what another publisher or operator has. -/
theorem registry_invariant (invocations : List (Env × Call)) :
    (after invocations).Consistent ∧
      (∀ more, (after invocations).KeptBy (after (invocations ++ more))) ∧
      (∀ (env : Env) (call : Call) failure next,
        (call.run env).run (after invocations) = .error failure next →
          next = after invocations) ∧
      ∀ (env : Env) (call : Call),
        ChangesOnly call (after invocations) (after (invocations ++ [(env, call)])) := by
  constructor
  · exact consistent_foldl invocations .empty
  · constructor
    · intro more
      rw [after, after, List.foldl_append]
      exact keptBy_foldl _ more
    · constructor
      · intro env call failure next failed
        exact run_error failed
      · intro env call
        rw [after, after, List.foldl_append]
        exact changesOnly_step _ (env, call)

end Directory

end Orbital.AbiRegistry.RegistryContract

/-! ## Paging through the lists of the registry

The three paged reads are one function of the stored list. It cuts its pages from the list
at positions of 32 bits; a limit of 0 gives a page of nothing whose next page begins where
it began.
-/

namespace Orbital.AbiRegistry.RegistryContract

open Foundation

/-- The reply that `list_versions` marks as cut off. -/
def truncationMarker : Bytes :=
  [0x5F, 0x5F, 0x74, 0x72, 0x75, 0x6E, 0x63, 0x61, 0x74, 0x65, 0x64, 0x5F, 0x5F]

namespace Directory

def capped (all : List Bytes) : List Bytes :=
  if maxPageSize < all.length then all.take maxPageSize ++ [truncationMarker] else all

/-- A page of a stored list and the start of the next one. The sum of two numbers of 32
bits traps when it needs more. -/
def paged (all : List Bytes) (start limit : Nat) : Option (List Bytes × Option Nat) :=
  let total := all.length
  if total ≤ start then some ([], none)
  else
    let effectiveLimit := min limit maxPageSize
    if 2 ^ 32 ≤ start + effectiveLimit then none
    else
      let until' := min (start + effectiveLimit) total
      some ((all.take until').drop start, if until' < total then some until' else none)

section Reads

variable (directory : Directory)

def listVersions (contractId publisher : Address) : List Bytes :=
  capped (directory.specs.listed ⟨contractId, publisher⟩)

def listVersionsPaged (contractId publisher : Address) (start limit : Nat) :
    Option (List Bytes × Option Nat) :=
  paged (directory.specs.listed ⟨contractId, publisher⟩) start limit

def listOperatorVersions (operator : Address) : List Bytes :=
  capped (directory.operators.listed operator)

def listOperatorVersionsPaged (operator : Address) (start limit : Nat) :
    Option (List Bytes × Option Nat) :=
  paged (directory.operators.listed operator) start limit

def listOfferingVersions (operator : Address) : List Bytes :=
  capped (directory.offerings.listed operator)

def listOfferingVersionsPaged (operator : Address) (start limit : Nat) :
    Option (List Bytes × Option Nat) :=
  paged (directory.offerings.listed operator) start limit

end Reads

theorem paged_eq_pageOf (all : List Bytes) (start limit : Nat) :
    paged all start limit = pageOf (2 ^ 32) all (min limit maxPageSize) start := by
  rw [paged, pageOf]
  generalize min limit maxPageSize = size
  dsimp only
  by_cases past : all.length ≤ start
  · rw [if_pos past, if_pos past]
  · rw [if_neg past, if_neg past]
    by_cases trap : 2 ^ 32 ≤ start + size
    · rw [if_pos trap, if_pos trap]
    · rw [if_neg trap, if_neg trap]
      have first : all.take (min (start + size) all.length) = all.take (start + size) := by
        rw [← List.take_take, List.take_length]
      have page : (all.take (start + size)).drop start = (all.drop start).take size := by
        rw [List.drop_take, Nat.add_sub_cancel_left]
      by_cases more : start + size < all.length
      · rw [first, page, Nat.min_eq_left (Nat.le_of_lt more), if_pos more]
      · rw [first, page, if_neg (by omega), if_neg more]

/-- The list is walked to its end: it is empty when the limit is 0, and otherwise it does
not reach past the last whole page below `2 ^ 32`. -/
def Walkable (all : List Bytes) (limit : Nat) : Prop :=
  all.length ≤ min limit maxPageSize * ((2 ^ 32 - 1) / min limit maxPageSize)

instance (all : List Bytes) (limit : Nat) : Decidable (Walkable all limit) :=
  inferInstanceAs (Decidable (_ ≤ _))

theorem complete_paged_iff (all : List Bytes) (limit : Nat) :
    Complete (paged all · limit) all ↔ Walkable all limit := by
  have cut : (paged all · limit) = pageOf (2 ^ 32) all (min limit maxPageSize) := by
    funext start
    exact paged_eq_pageOf all start limit
  rw [cut]
  exact complete_iff

/-- A limit of 0 walks through the empty list only. -/
theorem walkable_zero (all : List Bytes) : Walkable all 0 ↔ all = [] := by
  rw [Walkable, Nat.zero_min, Nat.zero_mul, Nat.le_zero, List.length_eq_zero_iff]

/-- In every storage the pages of each list, read from 0 along the cursors, come to an end
and make up the list exactly when the list is walkable under the limit. -/
theorem paging_complete_iff (directory : Directory) (limit : Nat) :
    (∀ contractId publisher,
      Complete (directory.listVersionsPaged contractId publisher · limit)
          (directory.specs.listed ⟨contractId, publisher⟩) ↔
        Walkable (directory.specs.listed ⟨contractId, publisher⟩) limit) ∧
    (∀ operator,
      Complete (directory.listOperatorVersionsPaged operator · limit)
          (directory.operators.listed operator) ↔
        Walkable (directory.operators.listed operator) limit) ∧
    ∀ operator,
      Complete (directory.listOfferingVersionsPaged operator · limit)
          (directory.offerings.listed operator) ↔
        Walkable (directory.offerings.listed operator) limit := by
  constructor
  · intro contractId publisher
    exact complete_paged_iff _ limit
  · constructor
    · intro operator
      exact complete_paged_iff _ limit
    · intro operator
      exact complete_paged_iff _ limit

def exampleAccount : Address where
  text := js "GA"
  base32 := by decide

def oneVersion : Directory :=
  after [(⟨[exampleAccount], 1, 1⟩,
    .publish exampleAccount exampleAccount [0x31] [] [0x70])]

/-- A reader of one version with limit 0 does not come to an end. -/
theorem limit_zero_stuck :
    ¬ ∀ (directory : Directory) (limit : Nat) (contractId publisher : Address),
      Complete (directory.listVersionsPaged contractId publisher · limit)
        (directory.specs.listed ⟨contractId, publisher⟩) := by
  intro always
  have read := always oneVersion 0 exampleAccount exampleAccount
  have empty := (walkable_zero _).mp ((complete_paged_iff _ 0).mp read)
  revert empty
  decide

end Directory

end Orbital.AbiRegistry.RegistryContract
