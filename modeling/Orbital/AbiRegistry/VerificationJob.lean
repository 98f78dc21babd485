import Orbital.Foundation.Callbacks
import Orbital.Foundation.InsertionMap
import Orbital.Foundation.JsValue

/-! # `verificationJob.ts`

A verdict is stored and counted before the callback, the issue reporter and the alert manager
are told of it. The first of them to throw ends the item: what was stored stays stored, and the
item is counted once more as an error.
-/

namespace Orbital.AbiRegistry

open Foundation

inductive VerdictStatus
  | verified
  | mismatch
  | unverifiable
  deriving DecidableEq

structure SchemaFieldDiff where
  path : JsString
  submitted : Option JsValue
  onChain : Option JsValue

structure VerdictRecord where
  contractId : JsString
  status : VerdictStatus
  verifiedAt : JsString
  previousStatus : Option VerdictStatus := none
  diffs : Option (List SchemaFieldDiff) := none
  reason : Option JsString := none
  attestedBy : Option (List JsString) := none
  specVersion : Option JsString := none

abbrev InMemoryVerdictStore :=
  InsertionMap JsString (List VerdictRecord)

namespace InMemoryVerdictStore

def record (store : InMemoryVerdictStore) (verdict : VerdictRecord) : InMemoryVerdictStore :=
  store.set verdict.contractId ((store.get? verdict.contractId).getD [] ++ [verdict])

def getLatest (store : InMemoryVerdictStore) (contractId : JsString) : Option VerdictRecord :=
  (store.get? contractId).bind List.getLast?

end InMemoryVerdictStore

namespace VerificationJob

structure RegisteredSpec where
  contractId : JsString
  name : JsString
  version : JsString
  attestedBy : Option (List JsString)

inductive SchemaVerdict
  | matched
  | mismatch (diffs : List SchemaFieldDiff)
  | unverifiable (reason : JsString)

def verdictToStatus : SchemaVerdict → VerdictStatus
  | .matched => .verified
  | .mismatch _ => .mismatch
  | .unverifiable _ => .unverifiable

structure MismatchReportParams where
  contractId : JsString
  contractName : JsString
  diffs : List SchemaFieldDiff
  submittedVersion : JsString
  previousStatus : Option VerdictStatus

structure Reaction where
  verifySchema : Except JsString SchemaVerdict
  verifiedAt : JsString
  onVerdict : Except JsString Unit
  reportMismatch : Except JsString JsString
  alertTransition : Except JsString Unit

abbrev Item :=
  RegisteredSpec × Reaction

structure VerificationJobConfig where
  specs : List Item
  onVerdict : Bool
  issueReporter : Bool
  alertManager : Bool

structure JobResult where
  total : Nat
  verified : Nat := 0
  mismatch : Nat := 0
  unverifiable : Nat := 0
  errors : List (JsString × JsString) := []
  issuesCreated : List JsString := []

namespace JobResult

def count (result : JobResult) : VerdictStatus → JobResult
  | .verified => { result with verified := result.verified + 1 }
  | .mismatch => { result with mismatch := result.mismatch + 1 }
  | .unverifiable => { result with unverifiable := result.unverifiable + 1 }

def fail (result : JobResult) (contractId error : JsString) : JobResult :=
  { result with errors := result.errors ++ [(contractId, error)] }

def settled (result : JobResult) : Nat :=
  result.verified + result.mismatch + result.unverifiable + result.errors.length

end JobResult

inductive SideEffect
  | onVerdict (record : VerdictRecord)
  | reportMismatch (params : MismatchReportParams)
  | alertTransition (previous current : VerdictRecord)

abbrev Turn :=
  SideEffect × Option JsString

def thrown {Value : Type} : Except JsString Value → Option JsString
  | .ok _ => none
  | .error message => some message

structure Change where
  previous : VerdictStatus
  record : VerdictRecord

structure Progress where
  store : InMemoryVerdictStore
  result : JobResult
  changes : List Change
  effects : List SideEffect

section Item

variable (config : VerificationJobConfig) (store : InMemoryVerdictStore)
  (registered : RegisteredSpec) (reaction : Reaction)

/-- The record that `verifySingleContract` stores and returns. -/
def recordOf (verdict : SchemaVerdict) : VerdictRecord where
  contractId := registered.contractId
  status := verdictToStatus verdict
  verifiedAt := reaction.verifiedAt
  previousStatus := (store.getLatest registered.contractId).map VerdictRecord.status
  diffs := match verdict with
    | .mismatch diffs => some diffs
    | _ => none
  reason := match verdict with
    | .unverifiable reason => some reason
    | _ => none
  attestedBy := match verdict with
    | .unverifiable _ => registered.attestedBy
    | _ => none
  specVersion := some registered.version

def verifySingleContract : Except JsString (VerdictRecord × InMemoryVerdictStore) :=
  reaction.verifySchema.map fun verdict =>
    let record := recordOf store registered reaction verdict
    (record, InMemoryVerdictStore.record store record)

variable (record : VerdictRecord)

def alert : List Turn :=
  match record.previousStatus with
  | none => []
  | some previous =>
      if previous ≠ record.status ∧ config.alertManager then
        [(.alertTransition ⟨record.contractId, previous, [], none, none, none, none, none⟩ record,
          thrown reaction.alertTransition)]
      else []

def turns : List Turn :=
  (if config.onVerdict then [(.onVerdict record, thrown reaction.onVerdict)] else []) ++
    (if record.status = .mismatch ∧ config.issueReporter then
      [(.reportMismatch ⟨record.contractId, registered.name, record.diffs.getD [],
        registered.version, record.previousStatus⟩, thrown reaction.reportMismatch)]
    else []) ++ alert config reaction record

def issue? : SideEffect → Option JsString
  | .reportMismatch _ =>
      match reaction.reportMismatch with
      | .ok url => if url = [] then none else some url
      | .error _ => none
  | _ => none

def change? : Option Change :=
  (store.getLatest record.contractId).bind fun latest =>
    if latest.status ≠ record.status then some ⟨latest.status, record⟩ else none

end Item

section Job

variable (config : VerificationJobConfig) (progress : Progress) (item : Item)

def turnsFor (verdict : SchemaVerdict) : List Turn :=
  turns config item.1 item.2 (recordOf progress.store item.1 item.2 verdict)

def Undisturbed : Prop :=
  ∀ verdict, item.2.verifySchema = .ok verdict →
    ∀ turn ∈ turnsFor config progress item verdict, turn.2 = none

def conclude (record : VerdictRecord) (store : InMemoryVerdictStore) (all : List Turn) : Progress :=
  let made := (untilThrow (·.2.isSome) all).map Prod.fst
  let counted := progress.result.count record.status
  let reported := { counted with
    issuesCreated := counted.issuesCreated ++ made.filterMap (issue? item.2) }
  { store
    result := match all.findSome? Prod.snd with
      | none => reported
      | some error => reported.fail item.1.contractId error
    changes := progress.changes ++ (change? progress.store record).toList
    effects := progress.effects ++ made }

def verify : Progress :=
  match verifySingleContract progress.store item.1 item.2 with
  | .error error =>
      { progress with result := progress.result.fail item.1.contractId error }
  | .ok (record, store) =>
      conclude progress item record store (turns config item.1 item.2 record)

def runVerificationJob (store : InMemoryVerdictStore) : Progress :=
  config.specs.foldl (verify config)
    { store, result := { total := config.specs.length }, changes := [], effects := [] }

def UndisturbedFrom : Progress → List Item → Prop
  | _, [] => True
  | progress, item :: rest =>
      Undisturbed config progress item ∧ UndisturbedFrom (verify config progress item) rest

/-! ## One item -/

theorem settled_count (result : JobResult) (status : VerdictStatus) :
    (result.count status).settled = result.settled + 1 := by
  cases status <;> simp only [JobResult.count, JobResult.settled] <;> omega

theorem settled_fail (result : JobResult) (contractId error : JsString) :
    (result.fail contractId error).settled = result.settled + 1 := by
  simp [JobResult.fail, JobResult.settled]
  omega

theorem settled_verify :
    Undisturbed config progress item ∧
        (verify config progress item).result.settled = progress.result.settled + 1 ∨
      ¬ Undisturbed config progress item ∧
        (verify config progress item).result.settled = progress.result.settled + 2 := by
  rw [verify, verifySingleContract]
  cases verdict : item.2.verifySchema with
  | error message =>
      left
      constructor
      · intro other isOther
        rw [verdict] at isOther
        cases isOther
      · exact settled_fail _ _ _
  | ok found =>
      have only : Undisturbed config progress item ↔
          (turnsFor config progress item found).findSome? Prod.snd = none := by
        rw [List.findSome?_eq_none_iff, Undisturbed, verdict]
        simp
      rw [only]
      change _ ∧ (conclude progress item _ _ (turnsFor config progress item found)).result.settled =
        _ ∨ _ ∧ (conclude progress item _ _ (turnsFor config progress item found)).result.settled = _
      rw [conclude]
      cases (turnsFor config progress item found).findSome? Prod.snd with
      | none => exact .inl ⟨rfl, settled_count _ _⟩
      | some message =>
          right
          constructor
          · simp
          · apply (settled_fail _ _ _).trans
            exact congrArg (· + 1) (settled_count _ _)

theorem total_verify : (verify config progress item).result.total = progress.result.total := by
  rw [verify]
  split
  · rfl
  · rename_i record store _
    rw [conclude]
    dsimp only
    split <;> cases record.status <;> rfl

def Passed (effects : List SideEffect) (change : Change) : Prop :=
  ∃ previous, previous.status = change.previous ∧
    SideEffect.alertTransition previous change.record ∈ effects

variable {config progress item}

theorem passed_verify (manages : config.alertManager = true)
    (undisturbed : Undisturbed config progress item)
    (passed : ∀ change ∈ progress.changes, Passed progress.effects change) :
    ∀ change ∈ (verify config progress item).changes,
      Passed (verify config progress item).effects change := by
  rw [verify, verifySingleContract]
  cases verdict : item.2.verifySchema with
  | error message => exact passed
  | ok found =>
      intro change recorded
      rcases List.mem_append.mp recorded with before | new
      · rcases passed change before with ⟨previous, same, called⟩
        exact ⟨previous, same, List.mem_append_left _ called⟩
      · rw [Option.mem_toList, change?, Option.bind_eq_some_iff] at new
        rcases new with ⟨latest, isLatest, changes⟩
        split at changes
        · rename_i differs
          cases changes
          have all : untilThrow (·.2.isSome) (turnsFor config progress item found) =
              turnsFor config progress item found := by
            apply (untilThrow_eq_self_iff _ _).mpr
            intro turn behind
            rw [undisturbed found verdict turn (List.dropLast_subset _ behind)]
            rfl
          have known : (recordOf progress.store item.1 item.2 found).previousStatus =
              some latest.status := congrArg (Option.map VerdictRecord.status) isLatest
          refine ⟨⟨item.1.contractId, latest.status, [], none, none, none, none, none⟩, rfl,
            List.mem_append_right _ ?_⟩
          change _ ∈ (untilThrow (·.2.isSome) (turnsFor config progress item found)).map Prod.fst
          rw [all, List.mem_map]
          refine ⟨(_, thrown item.2.alertTransition), List.mem_append_right _ ?_, rfl⟩
          rw [alert, known]
          dsimp only
          rw [if_pos ⟨differs, manages⟩]
          exact List.mem_singleton.mpr rfl
        · cases changes

/-! ## Runs -/

variable (config progress) in
theorem settled_foldl (items : List Item) :
    progress.result.settled + items.length ≤
        (items.foldl (verify config) progress).result.settled ∧
      ((items.foldl (verify config) progress).result.settled =
          progress.result.settled + items.length ↔ UndisturbedFrom config progress items) := by
  induction items generalizing progress with
  | nil => simp [UndisturbedFrom]
  | cons item rest induction =>
      rcases induction (verify config progress item) with ⟨atLeast, exactly⟩
      rw [List.foldl_cons, List.length_cons, UndisturbedFrom, ← exactly]
      rcases settled_verify config progress item with ⟨undisturbed, once⟩ | ⟨disturbed, twice⟩
      · rw [once] at atLeast ⊢
        simp only [undisturbed, true_and]
        omega
      · rw [twice] at atLeast ⊢
        simp only [disturbed, false_and, iff_false]
        omega

variable (config progress) in
theorem total_foldl (items : List Item) :
    (items.foldl (verify config) progress).result.total = progress.result.total := by
  induction items generalizing progress with
  | nil => rfl
  | cons item rest induction => exact (induction _).trans (total_verify config progress item)

theorem passed_foldl {items : List Item} (manages : config.alertManager = true)
    (undisturbed : UndisturbedFrom config progress items)
    (passed : ∀ change ∈ progress.changes, Passed progress.effects change) :
    ∀ change ∈ (items.foldl (verify config) progress).changes,
      Passed (items.foldl (verify config) progress).effects change := by
  induction items generalizing progress with
  | nil => exact passed
  | cons item rest induction =>
      exact induction undisturbed.2 (passed_verify manages undisturbed.1 passed)

def runs : InMemoryVerdictStore → List VerificationJobConfig →
    List (VerificationJobConfig × Progress)
  | _, [] => []
  | store, config :: rest =>
      (config, runVerificationJob config store) ::
        runs (runVerificationJob config store).store rest

def Alerted (history : List (VerificationJobConfig × Progress)) : Prop :=
  ∀ front run back, history = front ++ run :: back → run.1.alertManager = true →
    ∀ change ∈ run.2.changes, ∃ later ∈ run :: back, Passed later.2.effects change

def Accounted (history : List (VerificationJobConfig × Progress)) : Prop :=
  ∀ run ∈ history, run.2.result.settled = run.2.result.total

def UndisturbedRuns : InMemoryVerdictStore → List VerificationJobConfig → Prop
  | _, [] => True
  | store, config :: rest =>
      UndisturbedFrom config ⟨store, { total := config.specs.length }, [], []⟩ config.specs ∧
        UndisturbedRuns (runVerificationJob config store).store rest

theorem accounted_iff (store : InMemoryVerdictStore) (configs : List VerificationJobConfig) :
    Accounted (runs store configs) ↔ UndisturbedRuns store configs := by
  induction configs generalizing store with
  | nil => simp [Accounted, runs, UndisturbedRuns]
  | cons config rest induction =>
      have counted := (settled_foldl config
        ⟨store, { total := config.specs.length }, [], []⟩ config.specs).2
      have total := total_foldl config
        ⟨store, { total := config.specs.length }, [], []⟩ config.specs
      rw [UndisturbedRuns, ← induction, ← counted, Accounted, runs, List.forall_mem_cons,
        runVerificationJob, total]
      simp [JobResult.settled, Accounted]

theorem alerted_of_undisturbed {store : InMemoryVerdictStore}
    {configs : List VerificationJobConfig} (undisturbed : UndisturbedRuns store configs) :
    Alerted (runs store configs) := by
  induction configs generalizing store with
  | nil =>
      intro front run back split
      cases front <;> cases split
  | cons config rest induction =>
      intro front run back split manages change changed
      cases front with
      | nil =>
          cases split
          refine ⟨_, List.mem_cons_self, ?_⟩
          exact passed_foldl manages undisturbed.1 (by simp) change changed
      | cons first front =>
          exact induction undisturbed.2 front run back (List.cons.inj split).2 manages change
            changed

theorem alerted_and_accounted_iff (store : InMemoryVerdictStore)
    (configs : List VerificationJobConfig) :
    Alerted (runs store configs) ∧ Accounted (runs store configs) ↔
      UndisturbedRuns store configs := by
  rw [accounted_iff]
  exact and_iff_right_of_imp alerted_of_undisturbed

def single (verdict : SchemaVerdict) (onVerdict : Except JsString Unit) :
    VerificationJobConfig where
  specs :=
    [(⟨js "C", js "token", js "1.0.0", none⟩, ⟨.ok verdict, js "noon", onVerdict, .ok [], .ok ()⟩)]
  onVerdict := true
  issueReporter := false
  alertManager := true

/-- The callback throws when the contract no longer matches, and not in the run behind. -/
theorem thrown_callback_not_alerted :
    let history := runs .empty [single .matched (.ok ()), single (.mismatch []) (.error (js "down")),
      single (.mismatch []) (.ok ())]
    ¬ Alerted history ∧ ¬ Accounted history := by
  constructor
  · intro alerted
    rcases alerted [_] _ [_] rfl rfl _ (List.mem_singleton.mpr rfl) with ⟨later, isLater, passed⟩
    rcases passed with ⟨previous, _, called⟩
    rcases List.mem_cons.mp isLater with rfl | last
    · cases List.mem_singleton.mp called
    · cases List.mem_singleton.mp last
      cases List.mem_singleton.mp called
  · intro accounted
    have twice := accounted _ (List.mem_cons_of_mem _ List.mem_cons_self)
    exact absurd twice (by decide)

end Job

end VerificationJob

end Orbital.AbiRegistry
