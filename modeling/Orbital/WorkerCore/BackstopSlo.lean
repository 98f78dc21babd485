import Orbital.AbiRegistry.VerificationJob

/-! # `worker-core/src/backstop/slo.ts`

All of the input but the windows is checked before anything is stored. The windows are checked
and recorded one by one: the ones in front of an invalid window stay recorded.
-/

namespace Orbital.WorkerCore.BackstopSlo

open Foundation
open AbiRegistry (InMemoryVerdictStore VerdictRecord VerdictStatus)

def backstopOperatorId : JsString :=
  js "orbital"

def maxLedger : Int :=
  1000000

def maxStroops : Int :=
  9223372036854775807

def windowStatuses : List JsString :=
  [js "fired", js "missed", js "late", js "not-due"]

/-- A number; none when it is not whole. -/
abbrev Number :=
  Option Int

structure WorkerWindowVerdict where
  workerId : JsString
  operatorId : JsString
  windowId : JsString
  status : JsString
  ledgerStart : Number
  ledgerEnd : Number

structure BackstopSloBounds where
  latencyBoundLedgers : Number
  gracePeriodLedgers : Number
  xlmFloatMinStroops : Int
  monitoringLagGraceLedgers : Number

inductive SloStatus
  | meeting
  | breached
  | unverifiable

structure OperatorScore where
  operatorId : JsString
  formulaVersion : JsString
  insufficientData : Bool

inductive BackstopSloErrorCode
  | missingDependency
  | invalidOperator
  | ledgerOutOfRange
  | stroopsOutOfRange
  | boundsOutOfRange
  | unknownVerdict

structure BackstopSloError where
  code : BackstopSloErrorCode
  message : JsString

abbrev Refusal :=
  List WorkerWindowVerdict → WorkerWindowVerdict → Option JsString

/-- The input; a dependency that is missing is none, and so are stroops that are no `bigint`. -/
structure EvaluateBackstopSloInput where
  windows : Option (List WorkerWindowVerdict)
  bounds : Option BackstopSloBounds
  xlmFloatStroops : Option Int
  chainHeadLedger : Number
  lastProcessedLedger : Number
  store : Option Refusal
  scorer : Option (List WorkerWindowVerdict → Except JsString OperatorScore)
  alertManager : Option (VerdictRecord → VerdictRecord → Except JsString Unit)
  sloVerdictStore : Option Unit

structure BackstopSloResult where
  status : SloStatus
  operatorScore : OperatorScore
  abiRecord : VerdictRecord

structure World where
  rows : List WorkerWindowVerdict
  verdicts : InMemoryVerdictStore
  alerts : List (VerdictRecord × VerdictRecord)

inductive Failure
  | slo (error : BackstopSloError)
  | dependency (message : JsString)

/-! ## Checks -/

def requireDep {Value : Type} (value : Option Value) (name : String) :
    Except BackstopSloError Value :=
  match value with
  | some value => .ok value
  | none => .error ⟨.missingDependency, js "Missing " ++ js name⟩

def assertLedger (value : Number) (label : String) : Except BackstopSloError Int :=
  match value.filter fun whole => 0 ≤ whole ∧ whole ≤ maxLedger with
  | some whole => .ok whole
  | none => .error ⟨.ledgerOutOfRange, js label ++ js " must be an integer in 0..1000000"⟩

def assertBoundLedger (value : Number) (label : String) : Except BackstopSloError Int :=
  match value.filter fun whole => 1 ≤ whole ∧ whole ≤ maxLedger with
  | some whole => .ok whole
  | none => .error ⟨.boundsOutOfRange, js label ++ js " must be an integer in 1..1000000"⟩

def sloToAbi : SloStatus → VerdictStatus
  | .meeting => .verified
  | .breached => .mismatch
  | .unverifiable => .unverifiable

def assertOperatorId (id : JsString) : Except BackstopSloError Unit :=
  if id.length = 0 ∨ 128 < id.length then
    .error ⟨.invalidOperator, js "operatorId must be 1..128 characters"⟩
  else .ok ()

structure Checked where
  windows : List WorkerWindowVerdict
  refuses : Refusal
  score : List WorkerWindowVerdict → Except JsString OperatorScore
  alertTransition : VerdictRecord → VerdictRecord → Except JsString Unit
  lag : Int
  lagGrace : Int
  floatLow : Bool

def validate (input : EvaluateBackstopSloInput) : Except BackstopSloError Checked := do
  let refuses ← requireDep input.store "store"
  let score ← requireDep input.scorer "scorer"
  let alertTransition ← requireDep input.alertManager "alertManager"
  requireDep input.sloVerdictStore "sloVerdictStore"
  let windows ← requireDep input.windows "windows"
  let bounds ← requireDep input.bounds "bounds"
  let _ ← assertBoundLedger bounds.latencyBoundLedgers "latencyBoundLedgers"
  let _ ← assertBoundLedger bounds.gracePeriodLedgers "gracePeriodLedgers"
  let lagGrace ← assertBoundLedger bounds.monitoringLagGraceLedgers "monitoringLagGraceLedgers"
  if bounds.xlmFloatMinStroops < 0 ∨ maxStroops < bounds.xlmFloatMinStroops then
    throw ⟨.boundsOutOfRange, js "xlmFloatMinStroops out of range"⟩
  let chainHead ← assertLedger input.chainHeadLedger "chainHeadLedger"
  let lastProcessed ← assertLedger input.lastProcessedLedger "lastProcessedLedger"
  if chainHead < lastProcessed then
    throw ⟨.ledgerOutOfRange, js "lastProcessedLedger exceeds chainHeadLedger"⟩
  match input.xlmFloatStroops.filter fun stroops => 0 ≤ stroops ∧ stroops ≤ maxStroops with
  | none => throw ⟨.stroopsOutOfRange, js "xlmFloatStroops must be in 0..2^63-1"⟩
  | some stroops =>
      return { windows, refuses, score, alertTransition, lagGrace
               lag := chainHead - lastProcessed
               floatLow := stroops < bounds.xlmFloatMinStroops }

def checkWindow (window : WorkerWindowVerdict) : Except BackstopSloError Unit := do
  assertOperatorId window.operatorId
  if window.operatorId ≠ backstopOperatorId then
    throw ⟨.invalidOperator, js "evaluateBackstopSlo only publishes Orbital windows"⟩
  if window.status ∉ windowStatuses then
    throw ⟨.unknownVerdict, js "Unknown window status: " ++ window.status⟩
  let _ ← assertLedger window.ledgerStart "ledgerStart"
  let _ ← assertLedger window.ledgerEnd "ledgerEnd"

/-! ## The call -/

def recordWindows (refuses : Refusal) :
    List WorkerWindowVerdict → List WorkerWindowVerdict →
      Except Failure Unit × List WorkerWindowVerdict
  | [], rows => (.ok (), rows)
  | window :: rest, rows =>
      match checkWindow window with
      | .error error => (.error (.slo error), rows)
      | .ok () =>
          match refuses rows window with
          | some message => (.error (.dependency message), rows)
          | none => recordWindows refuses rest (rows ++ [window])

def sloStatus (checked : Checked) : SloStatus :=
  let missed := checked.windows.any (·.status = js "missed")
  if missed ∨ checked.floatLow ∨ checked.lagGrace < checked.lag then .breached
  else if checked.windows = [] then .unverifiable
  else .meeting

def scoreFor (rows : List WorkerWindowVerdict) (score : OperatorScore) : OperatorScore :=
  if rows.any (·.operatorId = backstopOperatorId) then score
  else ⟨backstopOperatorId, score.formulaVersion, true⟩

def publish (checked : Checked) (now : JsString) (world : World) :
    Except Failure BackstopSloResult × World :=
  match checked.score world.rows with
  | .error message => (.error (.dependency message), world)
  | .ok score =>
      let status := sloStatus checked
      let contractId := js "backstop:" ++ backstopOperatorId
      let abiStatus := sloToAbi status
      let previous := world.verdicts.getLatest contractId
      let abiRecord : VerdictRecord :=
        { contractId, status := abiStatus, verifiedAt := now
          previousStatus := previous.map VerdictRecord.status }
      let stored := { world with verdicts := world.verdicts.record abiRecord }
      let result : BackstopSloResult := { status, operatorScore := scoreFor world.rows score, abiRecord }
      let isRepeat := previous.map VerdictRecord.status = some abiStatus
      let isFirstNonBreach := previous.isNone ∧ abiStatus ≠ .mismatch
      if ¬ isRepeat ∧ ¬ isFirstNonBreach then
        let prevRecord := previous.getD { contractId, status := .verified, verifiedAt := [] }
        let alerted := { stored with alerts := stored.alerts ++ [(prevRecord, abiRecord)] }
        match checked.alertTransition prevRecord abiRecord with
        | .error message => (.error (.dependency message), alerted)
        | .ok () => (.ok result, alerted)
      else (.ok result, stored)

def evaluateBackstopSlo (input : EvaluateBackstopSloInput) (now : JsString) (world : World) :
    Except Failure BackstopSloResult × World :=
  match validate input with
  | .error error => (.error (.slo error), world)
  | .ok checked =>
      match recordWindows checked.refuses checked.windows world.rows with
      | (.error failure, rows) => (.error failure, { world with rows })
      | (.ok (), rows) => publish checked now { world with rows }

/-- A call that throws an error of its own leaves the stores and the alerts as they were. -/
def Atomic (input : EvaluateBackstopSloInput) (now : JsString) (world : World) : Prop :=
  ∀ error, (evaluateBackstopSlo input now world).1 = .error (.slo error) →
    (evaluateBackstopSlo input now world).2 = world

def Recordable (refuses : Refusal) : List WorkerWindowVerdict → List WorkerWindowVerdict → Prop
  | [], _ => True
  | window :: rest, rows =>
      checkWindow window = .ok () ∧ refuses rows window = none ∧
        Recordable refuses rest (rows ++ [window])

/-- When the rest of the input is valid, no invalid window is the next one behind windows that
can be recorded. -/
def ChecksFirst (input : EvaluateBackstopSloInput) (world : World) : Prop :=
  ∀ checked, validate input = .ok checked →
    ∀ front window back, checked.windows = front ++ window :: back → front ≠ [] →
      Recordable checked.refuses front world.rows → checkWindow window = .ok ()

section Atomicity

variable {refuses : Refusal} {rows front back : List WorkerWindowVerdict}
  {window : WorkerWindowVerdict} {error : BackstopSloError} {checked : Checked}
  {now : JsString} {world : World}

theorem recordWindows_of_invalid (recordable : Recordable refuses front rows)
    (invalid : checkWindow window = .error error) :
    recordWindows refuses (front ++ window :: back) rows =
      (.error (.slo error), rows ++ front) := by
  induction front generalizing rows with
  | nil => simp [recordWindows, invalid]
  | cons first rest induction =>
      rw [List.cons_append, recordWindows, recordable.1]
      dsimp only
      rw [recordable.2.1]
      simpa using induction recordable.2.2

/-- An error of the call's own comes from an invalid window; the ones in front are recorded. -/
theorem invalid_of_recordWindows {windows : List WorkerWindowVerdict}
    (thrown : (recordWindows refuses windows rows).1 = .error (.slo error)) :
    ∃ front window back, windows = front ++ window :: back ∧ Recordable refuses front rows ∧
      checkWindow window = .error error ∧
      (recordWindows refuses windows rows).2 = rows ++ front := by
  induction windows generalizing rows with
  | nil => cases thrown
  | cons first rest induction =>
      rw [recordWindows] at thrown ⊢
      cases valid : checkWindow first with
      | error other =>
          rw [valid] at thrown
          cases thrown
          exact ⟨[], first, rest, rfl, trivial, valid, (List.append_nil rows).symm⟩
      | ok _ =>
          cases taken : refuses rows first with
          | some message =>
              simp only [valid, taken] at thrown
              cases thrown
          | none =>
              simp only [valid, taken] at thrown ⊢
              rcases induction thrown with ⟨front, window, back, rfl, recordable, invalid, behind⟩
              refine ⟨first :: front, window, back, rfl, ⟨valid, taken, recordable⟩, invalid, ?_⟩
              rw [behind, List.append_assoc]
              rfl

theorem publish_ne_slo : (publish checked now world).1 ≠ .error (.slo error) := by
  intro thrown
  rw [publish] at thrown
  cases scored : checked.score world.rows with
  | error message =>
      rw [scored] at thrown
      cases thrown
  | ok score =>
      simp only [scored] at thrown
      split at thrown
      · split at thrown
        · cases thrown
        · cases thrown
      · cases thrown

/-- The call is atomic exactly when no invalid window is behind recorded ones. -/
theorem atomic_iff (input : EvaluateBackstopSloInput) (now : JsString) (world : World) :
    Atomic input now world ↔ ChecksFirst input world := by
  rw [Atomic, ChecksFirst, evaluateBackstopSlo]
  cases validated : validate input with
  | error error => simp
  | ok checked =>
      constructor
      · intro atomic same isSame front window back windows behind recordable
        cases isSame
        cases valid : checkWindow window with
        | ok _ => rfl
        | error error =>
            dsimp only at atomic
            rw [windows, recordWindows_of_invalid recordable valid] at atomic
            have unchanged := congrArg World.rows (atomic error rfl)
            exact absurd (List.append_right_eq_self.mp unchanged) behind
      · intro first error thrown
        dsimp only at thrown ⊢
        rcases recorded : recordWindows checked.refuses checked.windows world.rows with
          ⟨outcome, rows⟩
        rw [recorded] at thrown
        cases outcome with
        | ok _ => exact absurd thrown publish_ne_slo
        | error failure =>
            cases thrown
            rcases invalid_of_recordWindows (congrArg Prod.fst recorded) with
              ⟨front, window, back, windows, recordable, invalid, behind⟩
            rw [recorded] at behind
            cases front with
            | nil =>
                rw [List.append_nil] at behind
                cases behind
                rfl
            | cons earlier front =>
                have valid := first checked rfl (earlier :: front) window back windows
                  (List.cons_ne_nil _ _) recordable
                rw [valid] at invalid
                cases invalid

end Atomicity

def exampleWindow (status : String) : WorkerWindowVerdict :=
  ⟨js "backstop-1", backstopOperatorId, js "w1", js status, some 100, some 110⟩

def exampleInput : EvaluateBackstopSloInput where
  windows := some [exampleWindow "fired", exampleWindow "nope"]
  bounds := some ⟨some 12, some 6, 1000000, some 10⟩
  xlmFloatStroops := some 1000000
  chainHeadLedger := some 200
  lastProcessedLedger := some 190
  store := some fun _ _ => none
  scorer := some fun _ => .ok ⟨backstopOperatorId, js "test-1", false⟩
  alertManager := some fun _ _ => .ok ()
  sloVerdictStore := some ()

/-- The second window has an unknown status; the first one is in the store. -/
theorem unknown_status_not_atomic : ¬ Atomic exampleInput (js "noon") ⟨[], .empty, []⟩ := by
  intro atomic
  have unchanged := atomic ⟨.unknownVerdict, js "Unknown window status: nope"⟩ rfl
  exact absurd (congrArg (fun world => world.rows.length) unchanged) (by decide)

end Orbital.WorkerCore.BackstopSlo
