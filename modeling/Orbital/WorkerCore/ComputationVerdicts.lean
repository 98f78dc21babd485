import Orbital.WorkerCore.ComputationTrigger
import Orbital.WorkerCore.EventTrigger

/-! # `verifyComputationTrigger` of `WorkerVerificationEngine.ts`

A window is matched with the invocations of the worker. The time of the run decides
whether an attestation has expired, and so whether there is a window at all.
-/

namespace Orbital.WorkerCore.ComputationTrigger

open Foundation
open AbiRegistry (AttestationEnvelope)
open AbiRegistry.Attestation
open EventTrigger (LedgerField)

inductive TriggerKind
  | time
  | event
  | computation
  deriving DecidableEq

def TriggerKind.text : TriggerKind → JsString
  | .time => js "time"
  | .event => js "event"
  | .computation => js "computation"

structure WorkerDefinition where
  trigger : TriggerKind
  targetContractId : JsString
  functionName : JsString

structure InvocationEvent where
  type : JsString
  contractId : Option JsString
  function : Option JsString
  ledger : LedgerField
  inSuccessfulContractCall : Option Bool
  txHash : Option JsString

inductive WorkerFireVerdictStatus
  | pending
  | notDue
  | fired
  | late
  | missed
  | unverifiable
  deriving DecidableEq

structure WorkerFireVerdict where
  window : Window
  status : WorkerFireVerdictStatus
  reason : Option WorkerVerdictReason
  invocationLedger : Option Int
  invocationTxHash : Option JsString
  latencyLedgers : Option Int
  deriving DecidableEq

section Match

variable (worker : WorkerDefinition)

def isInvocationOf (event : InvocationEvent) : Bool :=
  event.type == js "contract.invoked" && event.contractId == some worker.targetContractId &&
    event.function == some worker.functionName

structure Search where
  best : Option (Int × Option JsString)
  sawRejectedAttempt : Bool

def Search.consider (window : Window) (search : Search) (event : InvocationEvent) : Search :=
  if isInvocationOf worker event then
    match event.ledger with
    | .finite ledger =>
        if ledger < window.conditionLedger then search
        else if event.inSuccessfulContractCall = some false then
          { search with sawRejectedAttempt := true }
        else
          match search.best with
          | some (best, _) =>
              if ledger < best then { search with best := some (ledger, event.txHash) }
              else search
          | none => { search with best := some (ledger, event.txHash) }
    | _ => search
  else search

def resolveWindow (events : List InvocationEvent) (toLedger horizon : Int) (window : Window) :
    WorkerFireVerdict :=
  if toLedger - window.deadlineLedger < horizon then
    ⟨window, .pending, none, none, none, none⟩
  else
    let search := events.foldl (Search.consider worker window) ⟨none, false⟩
    match search.best with
    | some (ledger, txHash) =>
        if ledger ≤ window.deadlineLedger then
          ⟨window, .fired, none, some ledger, txHash, none⟩
        else
          ⟨window, .late, none, some ledger, txHash, some (ledger - window.deadlineLedger)⟩
    | none =>
        if search.sawRejectedAttempt then
          ⟨window, .notDue, some .rejectedEarlyCall, none, none, none⟩
        else ⟨window, .missed, none, none, none, none⟩

theorem resolveWindow_window (events : List InvocationEvent) (toLedger horizon : Int)
    (window : Window) : (resolveWindow worker events toLedger horizon window).window = window := by
  rw [resolveWindow]
  split
  · rfl
  · dsimp only
    split
    · split
      · rfl
      · rfl
    · split
      · rfl
      · rfl

theorem resolveWindow_status (events : List InvocationEvent) (toLedger horizon : Int)
    (window : Window) :
    (resolveWindow worker events toLedger horizon window).status ≠ .unverifiable := by
  rw [resolveWindow]
  split
  · simp
  · dsimp only
    split
    · split
      · simp
      · simp
    · split
      · simp
      · simp

end Match

def unverifiableVerdict (entry : Window × WorkerVerdictReason) : WorkerFireVerdict :=
  ⟨entry.1, .unverifiable, some entry.2, none, none, none⟩

section Verify

variable (host : Runtime) (worker : WorkerDefinition) (definition : ComputationTriggerDefinition)
  (occurrences : List ComputationConditionOccurrence) (events : List InvocationEvent)
  (toLedger horizon : Int)

def verifyComputationTrigger (now : Option Int) (clock : Clock) :
    Except JsString (List WorkerFireVerdict) :=
  if worker.trigger ≠ .computation then
    .error (js "verifyComputationTrigger called with a \"" ++ worker.trigger.text ++
      js "\" trigger")
  else
    let plan := definition.plan host now clock occurrences
    .ok (plan.windows.map (resolveWindow worker events toLedger horizon) ++
      plan.unverifiable.map unverifiableVerdict)

/-- Two runs give the same verdicts, or fail in the same way. A verdict names its window. -/
def SameVerdicts : Except JsString (List WorkerFireVerdict) →
    Except JsString (List WorkerFireVerdict) → Prop
  | .ok first, .ok second => ∀ verdict, verdict ∈ first ↔ verdict ∈ second
  | .error first, .error second => first = second
  | _, _ => False

def expiryOf (envelope : AttestationEnvelope) : Option Int :=
  (JsValue.member? envelope.payload (js "expiresAt")).bind (expiryInstant host.toHost)

/-- No attestation that passes the other checks names the instant of its expiry. -/
def Timeless : Prop :=
  worker.trigger = .computation →
    ∀ occurrence ∈ ComputationTriggerDefinition.considered host occurrences,
      definition.activationLedger ≤ occurrence.ledger →
        ∀ envelope, occurrence.attestation = some envelope →
          definition.bindingOf host occurrence envelope = none → expiryOf host envelope = none

def verdictOf (now : Int) (occurrence : ComputationConditionOccurrence) :
    Option WorkerFireVerdict :=
  match definition.resolve host now occurrence with
  | .skipped => none
  | .window =>
      some (resolveWindow worker events toLedger horizon (definition.windowOf occurrence))
  | .unverifiable reason =>
      some (unverifiableVerdict (definition.windowOf occurrence, reason))

variable {host worker definition occurrences events toLedger horizon}

theorem expiryProblem_of_none {envelope : AttestationEnvelope}
    (never : expiryOf host envelope = none) (now later : Int) :
    attestationExpiryProblem host.toHost envelope.payload now =
      attestationExpiryProblem host.toHost envelope.payload later := by
  rw [expiryOf] at never
  rw [attestationExpiryProblem, attestationExpiryProblem]
  cases stated : JsValue.member? envelope.payload (js "expiresAt") with
  | none => rfl
  | some value =>
      rw [stated, Option.bind_some] at never
      dsimp only
      rw [never]

theorem expiryProblem_of_some {envelope : AttestationEnvelope} {instant : Int}
    (expires : expiryOf host envelope = some instant) (now : Int) :
    attestationExpiryProblem host.toHost envelope.payload now =
      if instant ≤ now then some .expired else none := by
  rw [expiryOf] at expires
  rw [attestationExpiryProblem]
  cases stated : JsValue.member? envelope.payload (js "expiresAt") with
  | none =>
      rw [stated] at expires
      cases expires
  | some value =>
      rw [stated, Option.bind_some] at expires
      dsimp only
      rw [expires]

theorem verify_attestation_timeless {envelope : AttestationEnvelope} {sources : List JsString}
    {windowId conditionId : JsString}
    (timeless : bindingProblem host envelope sources windowId conditionId = none →
      expiryOf host envelope = none) (now later : Int) :
    verifyComputationAttestation host envelope sources windowId conditionId now =
      verifyComputationAttestation host envelope sources windowId conditionId later := by
  rw [verifyComputationAttestation, verifyComputationAttestation]
  cases bound : bindingProblem host envelope sources windowId conditionId with
  | some reason => rfl
  | none =>
      dsimp only
      rw [expiryProblem_of_none (timeless bound) now later]

theorem resolve_timeless {occurrence : ComputationConditionOccurrence}
    (timeless : definition.activationLedger ≤ occurrence.ledger →
      ∀ envelope, occurrence.attestation = some envelope →
        definition.bindingOf host occurrence envelope = none → expiryOf host envelope = none)
    (now later : Int) :
    definition.resolve host now occurrence = definition.resolve host later occurrence := by
  rw [ComputationTriggerDefinition.resolve, ComputationTriggerDefinition.resolve]
  by_cases early : occurrence.ledger < definition.activationLedger
  · rw [if_pos early, if_pos early]
  · rw [if_neg early, if_neg early]
    cases attested : occurrence.attestation with
    | none => rfl
    | some envelope =>
        dsimp only
        rw [verify_attestation_timeless (timeless (Int.not_lt.mp early) envelope attested) now
          later]

theorem resolve_expiring {occurrence : ComputationConditionOccurrence}
    {envelope : AttestationEnvelope} {instant : Int}
    (active : definition.activationLedger ≤ occurrence.ledger)
    (attested : occurrence.attestation = some envelope)
    (bound : definition.bindingOf host occurrence envelope = none)
    (expires : expiryOf host envelope = some instant) :
    definition.resolve host (instant - 1) occurrence = .window ∧
      definition.resolve host instant occurrence = .unverifiable .attestationInvalid := by
  rw [ComputationTriggerDefinition.bindingOf] at bound
  rw [ComputationTriggerDefinition.resolve, ComputationTriggerDefinition.resolve,
    if_neg (Int.not_lt.mpr active), if_neg (Int.not_lt.mpr active), attested]
  dsimp only
  rw [verifyComputationAttestation, verifyComputationAttestation, bound]
  dsimp only
  have ahead : ¬ instant ≤ instant - 1 := by omega
  rw [expiryProblem_of_some expires, expiryProblem_of_some expires, if_neg ahead,
    if_pos (le_refl instant)]
  exact ⟨rfl, rfl⟩

theorem mem_verdicts (isComputation : worker.trigger = .computation) (now : Option Int)
    (clock : Clock) :
    ∃ verdicts, verifyComputationTrigger host worker definition occurrences events toLedger
        horizon now clock = .ok verdicts ∧
      ∀ verdict, verdict ∈ verdicts ↔
        ∃ occurrence ∈ ComputationTriggerDefinition.considered host occurrences,
          verdictOf host worker definition events toLedger horizon (now.getD (clock occurrence))
            occurrence = some verdict := by
  rw [verifyComputationTrigger, if_neg (not_not_intro isComputation), definition.plan_eq]
  refine ⟨_, rfl, ?_⟩
  intro verdict
  rw [List.mem_append, List.map_filterMap, List.map_filterMap, List.mem_filterMap,
    List.mem_filterMap, ← exists_or]
  apply exists_congr
  intro occurrence
  rw [← and_or_left]
  apply and_congr_right
  intro _
  rw [verdictOf, ComputationTriggerDefinition.asWindow,
    ComputationTriggerDefinition.asUnverifiable]
  cases definition.resolve host (now.getD (clock occurrence)) occurrence with
  | skipped | window | unverifiable reason => simp

theorem verdictOf_window {now : Int} {occurrence : ComputationConditionOccurrence}
    {verdict : WorkerFireVerdict}
    (judged : verdictOf host worker definition events toLedger horizon now occurrence =
      some verdict) : verdict.window = definition.windowOf occurrence := by
  rw [verdictOf] at judged
  split at judged
  · cases judged
  · cases judged
    exact resolveWindow_window ..
  · cases judged
    rfl

variable (host worker definition occurrences events toLedger horizon)

/-- All runs that read the time from the clock give the same verdicts exactly when no
attestation that passes the other checks names the instant of its expiry. -/
theorem verdicts_same_iff_timeless :
    (∀ clock clockToo,
      SameVerdicts
        (verifyComputationTrigger host worker definition occurrences events toLedger horizon none
          clock)
        (verifyComputationTrigger host worker definition occurrences events toLedger horizon none
          clockToo)) ↔
      Timeless host worker definition occurrences := by
  have runVerdicts :=
    @mem_verdicts host worker definition occurrences events toLedger horizon
  by_cases isComputation : worker.trigger = .computation
  · constructor
    · intro same _ occurrence considered active envelope attested bound
      cases expires : expiryOf host envelope with
      | none => rfl
      | some instant =>
          rcases resolve_expiring active attested bound expires with ⟨before, after⟩
          have runs := same (fun _ => instant - 1) (fun _ => instant)
          rcases runVerdicts isComputation none (fun _ => instant - 1) with
            ⟨verdicts, run, members⟩
          rcases runVerdicts isComputation none (fun _ => instant) with
            ⟨verdictsToo, runToo, membersToo⟩
          rw [run, runToo] at runs
          have judged : verdictOf host worker definition events toLedger horizon instant
              occurrence = some (unverifiableVerdict
                (definition.windowOf occurrence, .attestationInvalid)) := by
            rw [verdictOf, after]
          rcases (members _).mp ((runs _).mpr ((membersToo _).mpr
            ⟨occurrence, considered, judged⟩)) with ⟨other, consideredToo, judgedToo⟩
          have sameWindow := verdictOf_window judgedToo
          have sameOccurrence : other = occurrence :=
            ComputationTriggerDefinition.considered_inj host consideredToo considered
              (definition.windowId_inj (congrArg Window.windowId sameWindow.symm))
          subst sameOccurrence
          change verdictOf host worker definition events toLedger horizon (instant - 1) other =
            _ at judgedToo
          rw [verdictOf, before] at judgedToo
          have status := congrArg WorkerFireVerdict.status (Option.some.inj judgedToo)
          exact absurd status (resolveWindow_status worker events toLedger horizon _)
    · intro timeless clock clockToo
      rcases runVerdicts isComputation none clock with ⟨verdicts, run, members⟩
      rcases runVerdicts isComputation none clockToo with ⟨verdictsToo, runToo, membersToo⟩
      rw [run, runToo]
      intro verdict
      rw [members, membersToo]
      apply exists_congr
      intro occurrence
      apply and_congr_right
      intro considered
      rw [verdictOf, verdictOf, resolve_timeless (timeless isComputation occurrence considered)]
  · have fails : ∀ clock, verifyComputationTrigger host worker definition occurrences events
        toLedger horizon none clock = .error (js "verifyComputationTrigger called with a \"" ++
          worker.trigger.text ++ js "\" trigger") := by
      intro clock
      rw [verifyComputationTrigger, if_pos isComputation]
    constructor
    · intro _ other
      exact absurd other isComputation
    · intro _ clock clockToo
      rw [fails, fails]
      rfl

end Verify

/-! ## An attestation that expires between two runs -/

namespace Example

def host : Runtime where
  isValidEd25519PublicKey := fun _ => true
  sha256 := id
  verifies := fun _ _ _ => true
  dateParse := fun text =>
    if text = js "2026-01-01T00:00:00Z" then some 1767225600000 else none
  localeCompare := fun _ _ => 0

def source : JsString :=
  js "GAAZI4TCR3TY5OJHCTJC2A4QSY6CJWJH5IAJTGKIN2ER7LBNVKOCCWN7"

def definition : ComputationTriggerDefinition where
  workerId := js "w"
  conditionId := js "price"
  declaredSources := [source]
  latencyBoundLedgers := 12
  activationLedger := 0
  bounded := by decide

def envelope : AttestationEnvelope where
  v := .leaf (.number attestationEnvelopeVersion)
  payload := [
    (js "attester", .leaf (.string source)),
    (js "workerId", .leaf (.string (js "w"))),
    (js "windowId", .leaf (.string (js "w:c:o"))),
    (js "conditionId", .leaf (.string (js "price"))),
    (js "observedAt", .leaf (.string (js "2025-12-31T00:00:00Z"))),
    (js "result", .leaf (.string (js "r"))),
    (js "resultHash", .leaf (.string (js "00"))),
    (js "expiresAt", .leaf (.string (js "2026-01-01T00:00:00Z")))]
  publicKey := source
  signature := js "AA=="

def occurrence : ComputationConditionOccurrence where
  attestation := some envelope
  ledger := 5
  occurrenceId := js "o"

def worker : WorkerDefinition where
  trigger := .computation
  targetContractId := js "C"
  functionName := js "run"

def invocation : InvocationEvent where
  type := js "contract.invoked"
  contractId := some (js "C")
  function := some (js "run")
  ledger := .finite 6
  inSuccessfulContractCall := some true
  txHash := some (js "t")

def fired : WorkerFireVerdict :=
  ⟨definition.windowOf occurrence, .fired, none, some 6, some (js "t"), none⟩

theorem run_before : verifyComputationTrigger host worker definition [occurrence] [invocation]
    100 0 none (fun _ => 1767225599999) = .ok [fired] := by
  decide +kernel

theorem run_after : verifyComputationTrigger host worker definition [occurrence] [invocation]
    100 0 none (fun _ => 1767225600000) =
      .ok [unverifiableVerdict (definition.windowOf occurrence, .attestationInvalid)] := by
  decide +kernel

/-- The window of an attestation is fired before it expires and unverifiable after. -/
theorem fired_then_unverifiable :
    ¬ ∀ (host : Runtime) (worker : WorkerDefinition) (definition : ComputationTriggerDefinition)
      (occurrences : List ComputationConditionOccurrence) (events : List InvocationEvent)
      (toLedger horizon : Int) (clock clockToo : Clock),
      SameVerdicts
        (verifyComputationTrigger host worker definition occurrences events toLedger horizon none
          clock)
        (verifyComputationTrigger host worker definition occurrences events toLedger horizon none
          clockToo) := by
  intro same
  have runs := same host worker definition [occurrence] [invocation] 100 0
    (fun _ => 1767225599999) (fun _ => 1767225600000)
  rw [run_before, run_after] at runs
  have still := (runs fired).mp List.mem_cons_self
  revert still
  decide +kernel

end Example

end Orbital.WorkerCore.ComputationTrigger
