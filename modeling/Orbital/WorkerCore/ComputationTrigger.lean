import Orbital.AbiRegistry.Attestation
import Orbital.Foundation.Cooldown

/-! # `worker-core/src/triggers/computationTrigger.ts`

The planner of computation triggers and the check of an attestation in `attestation.ts`.
An occurrence of a condition opens a window when its attestation is valid, and is
unverifiable otherwise.
-/

namespace Orbital.WorkerCore.ComputationTrigger

open Foundation
open AbiRegistry (AttestationEnvelope)
open AbiRegistry.Attestation

structure Runtime extends Host where
  localeCompare : JsString → JsString → Int

def computationAttestationDomain : JsString :=
  js "orbital-computation-attestation-v1"

structure ComputationTriggerDefinition where
  workerId : JsString
  conditionId : JsString
  declaredSources : List JsString
  latencyBoundLedgers : Nat
  activationLedger : Nat
  bounded : 0 < latencyBoundLedgers

structure ComputationConditionOccurrence where
  attestation : Option AttestationEnvelope
  ledger : Int
  occurrenceId : JsString

inductive ComputationAttestationInvalidReason
  | badSignature
  | signerNotDeclared
  | windowMismatch
  | conditionMismatch
  | expired
  deriving DecidableEq

section Check

variable (host : Runtime)

/-- The checks of `verifyComputationAttestation` before the expiry. -/
def bindingProblem (envelope : AttestationEnvelope) (declaredSources : List JsString)
    (expectedWindowId expectedConditionId : JsString) :
    Option ComputationAttestationInvalidReason :=
  if (signatureProblem host.toHost envelope computationAttestationDomain).isSome then
    some .badSignature
  else if envelope.publicKey ∉ declaredSources then some .signerNotDeclared
  else if !isText (JsValue.member? envelope.payload (js "windowId")) expectedWindowId then
    some .windowMismatch
  else if !isText (JsValue.member? envelope.payload (js "conditionId")) expectedConditionId then
    some .conditionMismatch
  else none

def verifyComputationAttestation (envelope : AttestationEnvelope)
    (declaredSources : List JsString) (expectedWindowId expectedConditionId : JsString)
    (now : Int) : Option ComputationAttestationInvalidReason :=
  match bindingProblem host envelope declaredSources expectedWindowId expectedConditionId with
  | some reason => some reason
  | none =>
      if (attestationExpiryProblem host.toHost envelope.payload now).isSome then some .expired
      else none

end Check

/-- `WorkerVerdictWindow` -/
structure Window where
  windowId : JsString
  workerId : JsString
  conditionLedger : Int
  deadlineLedger : Int
  deriving DecidableEq

inductive WorkerVerdictReason
  | rejectedEarlyCall
  | attestationInvalid
  | attestationWindowMismatch
  | attestationUnretrievable
  deriving DecidableEq

structure ComputationPlanResult where
  windows : List Window
  unverifiable : List (Window × WorkerVerdictReason)

inductive Resolution
  | skipped
  | window
  | unverifiable (reason : WorkerVerdictReason)
  deriving DecidableEq

def precedes (host : Runtime) (first second : ComputationConditionOccurrence) : Bool :=
  first.ledger < second.ledger ||
    (first.ledger == second.ledger &&
      host.localeCompare first.occurrenceId second.occurrenceId ≤ 0)

abbrev Clock :=
  ComputationConditionOccurrence → Int

namespace ComputationTriggerDefinition

variable (definition : ComputationTriggerDefinition) (host : Runtime)

def windowOf (occurrence : ComputationConditionOccurrence) : Window where
  windowId := definition.workerId ++ js ":c:" ++ occurrence.occurrenceId
  workerId := definition.workerId
  conditionLedger := occurrence.ledger
  deadlineLedger := occurrence.ledger + definition.latencyBoundLedgers

def reasonFor : ComputationAttestationInvalidReason → WorkerVerdictReason
  | .windowMismatch => .attestationWindowMismatch
  | _ => .attestationInvalid

/-- The checks of an attestation that no clock is read for. -/
def bindingOf (occurrence : ComputationConditionOccurrence) (envelope : AttestationEnvelope) :
    Option ComputationAttestationInvalidReason :=
  bindingProblem host envelope definition.declaredSources
    (definition.windowOf occurrence).windowId definition.conditionId

def resolve (now : Int) (occurrence : ComputationConditionOccurrence) : Resolution :=
  if occurrence.ledger < definition.activationLedger then .skipped
  else
    match occurrence.attestation with
    | none => .unverifiable .attestationUnretrievable
    | some envelope =>
        match verifyComputationAttestation host envelope definition.declaredSources
          (definition.windowOf occurrence).windowId definition.conditionId now with
        | some reason => .unverifiable (reasonFor reason)
        | none => .window

structure PlanState where
  windows : List Window
  unverifiable : List (Window × WorkerVerdictReason)
  seen : List JsString

def consider (now : Option Int) (clock : Clock) (state : PlanState)
    (occurrence : ComputationConditionOccurrence) : PlanState :=
  if occurrence.occurrenceId ∈ state.seen then state
  else
    let state := { state with seen := occurrence.occurrenceId :: state.seen }
    let window := definition.windowOf occurrence
    match definition.resolve host (now.getD (clock occurrence)) occurrence with
    | .skipped => state
    | .window => { state with windows := state.windows ++ [window] }
    | .unverifiable reason =>
        { state with unverifiable := state.unverifiable ++ [(window, reason)] }

def ordered (occurrences : List ComputationConditionOccurrence) :
    List ComputationConditionOccurrence :=
  occurrences.insertionSort (precedes host · ·)

def plan (now : Option Int) (clock : Clock) (occurrences : List ComputationConditionOccurrence) :
    ComputationPlanResult :=
  let final := (ordered host occurrences).foldl (definition.consider host now clock) ⟨[], [], []⟩
  { windows := final.windows, unverifiable := final.unverifiable }

/-! ## What the loop makes of the occurrences -/

def considered (occurrences : List ComputationConditionOccurrence) :
    List ComputationConditionOccurrence :=
  (Cooldown.firsts [] ((ordered host occurrences).map fun occurrence =>
    (occurrence.occurrenceId, occurrence))).map Prod.snd

def asWindow (now : Option Int) (clock : Clock) (occurrence : ComputationConditionOccurrence) :
    Option Window :=
  match definition.resolve host (now.getD (clock occurrence)) occurrence with
  | .window => some (definition.windowOf occurrence)
  | _ => none

def asUnverifiable (now : Option Int) (clock : Clock)
    (occurrence : ComputationConditionOccurrence) : Option (Window × WorkerVerdictReason) :=
  match definition.resolve host (now.getD (clock occurrence)) occurrence with
  | .unverifiable reason => some (definition.windowOf occurrence, reason)
  | _ => none

theorem foldl_consider (now : Option Int) (clock : Clock)
    (occurrences : List ComputationConditionOccurrence) (state : PlanState) :
    (occurrences.foldl (definition.consider host now clock) state).windows =
        state.windows ++ ((Cooldown.firsts state.seen (occurrences.map fun occurrence =>
          (occurrence.occurrenceId, occurrence))).map Prod.snd).filterMap
            (definition.asWindow host now clock) ∧
      (occurrences.foldl (definition.consider host now clock) state).unverifiable =
        state.unverifiable ++ ((Cooldown.firsts state.seen (occurrences.map fun occurrence =>
          (occurrence.occurrenceId, occurrence))).map Prod.snd).filterMap
            (definition.asUnverifiable host now clock) := by
  induction occurrences generalizing state with
  | nil => exact ⟨(List.append_nil _).symm, (List.append_nil _).symm⟩
  | cons occurrence rest induction =>
      rw [List.foldl_cons, List.map_cons, Cooldown.firsts, consider]
      by_cases old : occurrence.occurrenceId ∈ state.seen
      · rw [if_pos old, if_pos old]
        exact induction state
      · rw [if_neg old, if_neg old, List.map_cons, List.filterMap_cons, List.filterMap_cons,
          asWindow, asUnverifiable]
        cases resolved : definition.resolve host (now.getD (clock occurrence)) occurrence with
        | skipped => exact induction _
        | window =>
            rcases induction {
              state with
              seen := occurrence.occurrenceId :: state.seen
              windows := state.windows ++ [definition.windowOf occurrence] } with
              ⟨windows, unverifiable⟩
            refine ⟨?_, unverifiable⟩
            rw [windows, List.append_assoc]
            rfl
        | unverifiable reason =>
            rcases induction {
              state with
              seen := occurrence.occurrenceId :: state.seen
              unverifiable := state.unverifiable ++
                [(definition.windowOf occurrence, reason)] } with ⟨windows, unverifiable⟩
            refine ⟨windows, ?_⟩
            rw [unverifiable, List.append_assoc]
            rfl

theorem plan_eq (now : Option Int) (clock : Clock)
    (occurrences : List ComputationConditionOccurrence) :
    definition.plan host now clock occurrences = {
      windows := (considered host occurrences).filterMap (definition.asWindow host now clock)
      unverifiable :=
        (considered host occurrences).filterMap (definition.asUnverifiable host now clock) } := by
  rcases definition.foldl_consider host now clock (ordered host occurrences) ⟨[], [], []⟩ with
    ⟨windows, unverifiable⟩
  rw [plan, windows, unverifiable]
  rfl

theorem considered_inj {occurrences : List ComputationConditionOccurrence}
    {first second : ComputationConditionOccurrence} (member : first ∈ considered host occurrences)
    (memberToo : second ∈ considered host occurrences)
    (same : first.occurrenceId = second.occurrenceId) : first = second := by
  rcases List.mem_map.mp member with ⟨⟨key, occurrence⟩, inside, rfl⟩
  rcases List.mem_map.mp memberToo with ⟨⟨keyToo, other⟩, insideToo, rfl⟩
  have keyed : ∀ {entry}, entry ∈ Cooldown.firsts [] ((ordered host occurrences).map
      fun occurrence => (occurrence.occurrenceId, occurrence)) →
        entry.1 = entry.2.occurrenceId := by
    intro entry inside
    rcases List.mem_map.mp ((Cooldown.firsts_sublist _ _).subset inside) with
      ⟨occurrence, -, rfl⟩
    rfl
  have keys : key = keyToo := (keyed inside).trans (same.trans (keyed insideToo).symm)
  exact congrArg Prod.snd
    (List.inj_on_of_nodup_map (Cooldown.nodup_keys_firsts _ _) inside insideToo keys)

theorem windowId_inj {first second : ComputationConditionOccurrence}
    (same : (definition.windowOf first).windowId = (definition.windowOf second).windowId) :
    first.occurrenceId = second.occurrenceId :=
  List.append_cancel_left same

end ComputationTriggerDefinition

end Orbital.WorkerCore.ComputationTrigger
