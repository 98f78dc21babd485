import Orbital.WorkerCore.TimeRanges
import Orbital.WorkerCore.VerdictStability

/-! # Verification over a longer range

The three methods of `WorkerVerificationEngine.ts` give each window of a range a verdict.
When the range goes on to a later ledger, with all that the chain has added, a window may
lose the verdict that it had.
-/

namespace Orbital.WorkerCore.Verification

open Foundation ComputationTrigger
open ComputationTriggerDefinition (considered ordered)
open EventTrigger (SourceEvent EventTriggerPlanner eventsUpTo verifyEventTrigger)
open Fires (timeWindow)
open TimeTrigger

/-! ## What the chain has up to a ledger -/

section UpTo

variable {index : ArrayLedgerCloseTimeIndex} {toLedger : Int}

def closeTimesUpTo (toLedger : Int) (index : ArrayLedgerCloseTimeIndex) :
    ArrayLedgerCloseTimeIndex where
  sorted := index.sorted.filter fun entry => entry.1 ≤ toLedger
  ordered := index.ordered.filter _

def occurrencesUpTo (toLedger : Int) (occurrences : List ComputationConditionOccurrence) :
    List ComputationConditionOccurrence :=
  occurrences.filter fun occurrence => occurrence.ledger ≤ toLedger

theorem precedes_byLevel (host : Runtime) :
    StableSort.ByLevel (fun first second => precedes host first second = true)
      ComputationConditionOccurrence.ledger where
  below := by
    intro first second before
    rw [precedes, decide_eq_true before, Bool.true_or]
  above := by
    intro first second behind
    have notBefore : ¬first.ledger < second.ledger := by omega
    have different : first.ledger ≠ second.ledger := by omega
    simp [precedes, notBefore, different]

theorem considered_upTo (host : Runtime) (toLedger : Int)
    (occurrences : List ComputationConditionOccurrence) :
    ∃ more, considered host occurrences =
      considered host (occurrencesUpTo toLedger occurrences) ++ more := by
  rcases StableSort.insertionSort_upTo (precedes_byLevel host) toLedger occurrences with
    ⟨rest, sorted, _⟩
  rw [considered, considered, ordered, ordered, occurrencesUpTo, sorted, List.map_append,
    Cooldown.firsts_append_keys, List.map_append]
  exact ⟨_, rfl⟩

end UpTo

/-! ## Runs of the engine -/

variable {Payload : Type}

inductive Inputs (Payload : Type)
  | time (parser : CronParser) (definition : TimeTriggerDefinition)
      (ledgerCloseTimes : ArrayLedgerCloseTimeIndex) (latencyBoundLedgers fromLedger : Int)
  | event (worker : WorkerDefinition) (planner : EventTriggerPlanner Payload)
      (conditionEvents : List (SourceEvent Payload))
  | computation (host : Runtime) (worker : WorkerDefinition)
      (definition : ComputationTriggerDefinition)
      (occurrences : List ComputationConditionOccurrence) (now : Option Int)

namespace Inputs

def worker : Inputs Payload → WorkerDefinition
  | .time _ definition _ _ _ => definition.worker
  | .event worker _ _ => worker
  | .computation _ worker _ _ _ => worker

def verify (clock : Clock) (events : List InvocationEvent) (toLedger horizon : Int) :
    Inputs Payload → Except JsString (List WorkerFireVerdict)
  | .time parser definition ledgerCloseTimes latencyBoundLedgers fromLedger =>
      verifyTimeTrigger parser definition ledgerCloseTimes latencyBoundLedgers events fromLedger
        toLedger horizon
  | .event worker planner conditionEvents =>
      verifyEventTrigger worker planner conditionEvents events toLedger horizon
  | .computation host worker definition occurrences now =>
      verifyComputationTrigger host worker definition occurrences events toLedger horizon now
        clock

def upTo (toLedger : Int) : Inputs Payload → Inputs Payload
  | .time parser definition ledgerCloseTimes latencyBoundLedgers fromLedger =>
      .time parser definition (closeTimesUpTo toLedger ledgerCloseTimes) latencyBoundLedgers
        fromLedger
  | .event worker planner conditionEvents =>
      .event worker planner (eventsUpTo toLedger conditionEvents)
  | .computation host worker definition occurrences now =>
      .computation host worker definition (occurrencesUpTo toLedger occurrences) now

/-- The close times have come to a due time of the window by the end of a run. -/
def Reached (toLedger : Int) (window : Window) : Inputs Payload → Prop
  | .time parser definition ledgerCloseTimes _ fromLedger =>
      ∃ fromClose ∈ ledgerCloseTimes.closeTimeOfLedger fromLedger,
        ∃ toClose ∈ ledgerCloseTimes.closeTimeOfLedger toLedger,
          ∃ time ≤ toClose, IsDue parser definition.schedule fromClose time ∧
            ledgerCloseTimes.firstLedgerAtOrAfter time = some window.conditionLedger
  | _ => True

def JudgedAlike (clock clockToo : Clock) (window : Window) : Inputs Payload → Prop
  | .computation host _ definition occurrences now =>
      ∀ occurrence ∈ considered host occurrences, definition.windowOf occurrence = window →
        definition.resolve host (now.getD (clockToo occurrence)) occurrence =
          definition.resolve host (now.getD (clock occurrence)) occurrence
  | _ => True

def Verifiable (clock : Clock) (window : Window) : Inputs Payload → Prop
  | .computation host _ definition occurrences now =>
      ∀ occurrence ∈ considered host occurrences, definition.windowOf occurrence = window →
        definition.resolve host (now.getD (clock occurrence)) occurrence = .window
  | _ => True

/-! ## The windows of a run -/

def resolutionOf : Option WorkerVerdictReason → Resolution
  | none => .window
  | some reason => .unverifiable reason

def Obliges (clock : Clock) (toLedger : Int) (window : Window)
    (reason : Option WorkerVerdictReason) : Inputs Payload → Prop
  | .time parser definition ledgerCloseTimes latencyBoundLedgers fromLedger =>
      reason = none ∧
        ∃ fromClose ∈ ledgerCloseTimes.closeTimeOfLedger fromLedger,
          ∃ toClose ∈ ledgerCloseTimes.closeTimeOfLedger toLedger,
            window ∈ windowsBetween parser definition ledgerCloseTimes latencyBoundLedgers
              fromClose toClose toLedger
  | .event _ planner conditionEvents =>
      reason = none ∧ ∃ decision ∈ (planner.plan conditionEvents).decisions,
        decision.window = window
  | .computation host _ definition occurrences now =>
      ∃ occurrence ∈ considered host occurrences, definition.windowOf occurrence = window ∧
        definition.resolve host (now.getD (clock occurrence)) occurrence = resolutionOf reason

def judge (worker : WorkerDefinition) (events : List InvocationEvent) (toLedger horizon : Int)
    (window : Window) : Option WorkerVerdictReason → WorkerFireVerdict
  | none => resolveWindow worker events toLedger horizon window
  | some reason => unverifiableVerdict (window, reason)

theorem judge_window (worker : WorkerDefinition) (events : List InvocationEvent)
    (toLedger horizon : Int) (window : Window) (reason : Option WorkerVerdictReason) :
    (judge worker events toLedger horizon window reason).window = window := by
  cases reason with
  | none => exact resolveWindow_window ..
  | some reason => rfl

variable {inputs : Inputs Payload} {clock clockToo : Clock} {events : List InvocationEvent}
  {toLedger later horizon : Int} {verdicts : List WorkerFireVerdict} {window : Window}
  {reason : Option WorkerVerdictReason}

theorem mem_verify (run : inputs.verify clock events toLedger horizon = .ok verdicts)
    (verdict : WorkerFireVerdict) :
    verdict ∈ verdicts ↔ ∃ window reason, inputs.Obliges clock toLedger window reason ∧
      judge inputs.worker events toLedger horizon window reason = verdict := by
  cases inputs with
  | time parser definition ledgerCloseTimes latencyBoundLedgers fromLedger =>
      rw [verify, verifyTimeTrigger] at run
      split at run
      · cases run
      · split at run
        · rename_i fromClose toClose isFrom isTo
          cases run
          rw [List.mem_map]
          constructor
          · rintro ⟨window, inside, rfl⟩
            exact ⟨window, none, ⟨rfl, fromClose, isFrom, toClose, isTo, inside⟩, rfl⟩
          · rintro ⟨window, reason, ⟨rfl, start, isStart, stop, isStop, inside⟩, rfl⟩
            cases isFrom.symm.trans isStart
            cases isTo.symm.trans isStop
            exact ⟨window, inside, rfl⟩
        · cases run
  | event worker planner conditionEvents =>
      rw [verify, verifyEventTrigger] at run
      split at run
      · cases run
      · cases run
        rw [List.mem_map]
        constructor
        · rintro ⟨decision, inside, rfl⟩
          exact ⟨decision.window, none, ⟨rfl, decision, inside, rfl⟩, rfl⟩
        · rintro ⟨window, reason, ⟨rfl, decision, inside, rfl⟩, rfl⟩
          exact ⟨decision, inside, rfl⟩
  | computation host worker definition occurrences now =>
      by_cases isComputation : worker.trigger = .computation
      · have verdictsOf := @mem_verdicts host worker definition occurrences events toLedger horizon
        rcases verdictsOf isComputation now clock with ⟨all, ran, mem_all⟩
        rw [verify, ran] at run
        cases run
        rw [mem_all]
        constructor
        · rintro ⟨occurrence, inside, isVerdict⟩
          rw [verdictOf] at isVerdict
          split at isVerdict
          · cases isVerdict
          · rename_i resolved
            cases isVerdict
            exact ⟨_, none, ⟨occurrence, inside, rfl, resolved⟩, rfl⟩
          · rename_i reason resolved
            cases isVerdict
            exact ⟨_, some reason, ⟨occurrence, inside, rfl, resolved⟩, rfl⟩
        · rintro ⟨window, reason, ⟨occurrence, inside, rfl, resolved⟩, rfl⟩
          refine ⟨occurrence, inside, ?_⟩
          rw [verdictOf, resolved]
          cases reason with
          | none | some reason => rfl
      · rw [verify, verifyComputationTrigger, if_pos isComputation] at run
        cases run

theorem resolutionOf_injective {first second : Option WorkerVerdictReason}
    (same : resolutionOf first = resolutionOf second) : first = second := by
  cases first with
  | none =>
      cases second with
      | none => rfl
      | some reason => cases same
  | some reason =>
      cases second with
      | none => cases same
      | some other =>
          cases same
          rfl

theorem obliges_unique {other : Window} {otherReason : Option WorkerVerdictReason}
    (obliges : inputs.Obliges clock toLedger window reason)
    (obligesToo : inputs.Obliges clock toLedger other otherReason)
    (same : window.windowId = other.windowId) : window = other ∧ reason = otherReason := by
  cases inputs with
  | time parser definition ledgerCloseTimes latencyBoundLedgers fromLedger =>
      rcases obliges with ⟨rfl, _, _, _, _, inside⟩
      rcases obligesToo with ⟨rfl, _, _, _, _, insideToo⟩
      rw [windowsBetween] at inside insideToo
      rcases List.mem_map.mp inside with ⟨ledger, _, rfl⟩
      rcases List.mem_map.mp insideToo with ⟨ledgerToo, _, rfl⟩
      rw [timeWindow_injective same]
      exact ⟨rfl, rfl⟩
  | event worker planner conditionEvents =>
      rcases obliges with ⟨rfl, decision, inside, rfl⟩
      rcases obligesToo with ⟨rfl, decisionToo, insideToo, rfl⟩
      rw [planner.eq_of_windowId inside insideToo same]
      exact ⟨rfl, rfl⟩
  | computation host worker definition occurrences now =>
      rcases obliges with ⟨occurrence, inside, rfl, resolved⟩
      rcases obligesToo with ⟨occurrenceToo, insideToo, rfl, resolvedToo⟩
      have sameId := definition.windowId_inj same
      have equal := ComputationTriggerDefinition.considered_inj host inside insideToo sameId
      subst equal
      exact ⟨rfl, resolutionOf_injective (resolved.symm.trans resolvedToo)⟩

/-! ## A window of a run in a longer one -/

theorem considered_of_upTo {host : Runtime} {occurrences : List ComputationConditionOccurrence}
    {occurrence : ComputationConditionOccurrence}
    (inside : occurrence ∈ considered host (occurrencesUpTo toLedger occurrences)) :
    occurrence ∈ considered host occurrences := by
  rcases considered_upTo host toLedger occurrences with ⟨more, split⟩
  rw [split]
  exact List.mem_append_left more inside

/-- The clock does not decide whether an occurrence is skipped. -/
theorem resolve_of_not_skipped {host : Runtime} {definition : ComputationTriggerDefinition}
    {occurrence : ComputationConditionOccurrence} {now : Int}
    (resolved : definition.resolve host now occurrence = resolutionOf reason) (nowToo : Int) :
    ∃ reasonToo, definition.resolve host nowToo occurrence = resolutionOf reasonToo := by
  have active : ¬occurrence.ledger < definition.activationLedger := by
    intro early
    rw [ComputationTriggerDefinition.resolve, if_pos early] at resolved
    cases reason with
    | none | some reason => cases resolved
  rw [ComputationTriggerDefinition.resolve, if_neg active]
  split
  · exact ⟨some .attestationUnretrievable, rfl⟩
  · split
    · exact ⟨some _, rfl⟩
    · exact ⟨none, rfl⟩

theorem reached_iff (obliges : (inputs.upTo toLedger).Obliges clock toLedger window reason) :
    inputs.Reached later window ↔ ∃ reasonToo, inputs.Obliges clockToo later window reasonToo := by
  cases inputs with
  | time parser definition ledgerCloseTimes latencyBoundLedgers fromLedger =>
      rcases obliges with ⟨rfl, fromClose, isFrom, toClose, isTo, inside⟩
      rcases (mem_windowsBetween isTo).mp inside with ⟨_, ledger, _, _, _, rfl⟩
      constructor
      · rintro ⟨start, isStart, stop, isStop, time, within, due, isFirst⟩
        exact ⟨none, rfl, start, isStart, stop, isStop,
          (mem_windowsBetween isStop).mpr ⟨time, ledger, due, within, isFirst, rfl⟩⟩
      · rintro ⟨_, _, start, isStart, stop, isStop, insideToo⟩
        rcases (mem_windowsBetween isStop).mp insideToo with
          ⟨time, ledgerToo, due, within, isFirst, same⟩
        have ledgers : ledger = ledgerToo := congrArg Window.conditionLedger same
        rw [← ledgers] at isFirst
        exact ⟨start, isStart, stop, isStop, time, within, due, isFirst⟩
  | event worker planner conditionEvents =>
      rcases obliges with ⟨rfl, decision, inside, rfl⟩
      rcases planner.decisions_upTo toLedger conditionEvents with ⟨more, split⟩
      apply iff_of_true trivial
      refine ⟨none, rfl, decision, ?_, rfl⟩
      rw [split]
      exact List.mem_append_left more inside
  | computation host worker definition occurrences now =>
      rcases obliges with ⟨occurrence, inside, isWindow, resolved⟩
      apply iff_of_true trivial
      rcases resolve_of_not_skipped resolved (now.getD (clockToo occurrence)) with
        ⟨reasonToo, resolvedToo⟩
      exact ⟨reasonToo, occurrence, considered_of_upTo inside, isWindow, resolvedToo⟩

theorem verifiable_iff (obliges : (inputs.upTo toLedger).Obliges clock toLedger window reason) :
    inputs.Verifiable clock window ↔ reason = none := by
  cases inputs with
  | time parser definition ledgerCloseTimes latencyBoundLedgers fromLedger =>
      exact iff_of_true trivial obliges.1
  | event worker planner conditionEvents => exact iff_of_true trivial obliges.1
  | computation host worker definition occurrences now =>
      rcases obliges with ⟨occurrence, inside, rfl, resolved⟩
      have known := considered_of_upTo inside
      constructor
      · intro verifiable
        have valid := verifiable occurrence known rfl
        exact resolutionOf_injective (resolved.symm.trans valid)
      · rintro rfl other otherKnown same
        have equal := ComputationTriggerDefinition.considered_inj host otherKnown known
          (definition.windowId_inj (congrArg Window.windowId same))
        rw [equal]
        exact resolved

theorem judgedAlike_iff {reasonToo : Option WorkerVerdictReason}
    (obliges : (inputs.upTo toLedger).Obliges clock toLedger window reason)
    (obligesToo : inputs.Obliges clockToo later window reasonToo) :
    inputs.JudgedAlike clock clockToo window ↔ reasonToo = reason := by
  cases inputs with
  | time parser definition ledgerCloseTimes latencyBoundLedgers fromLedger
  | event worker planner conditionEvents =>
      exact iff_of_true trivial (obligesToo.1.trans obliges.1.symm)
  | computation host worker definition occurrences now =>
      rcases obliges with ⟨occurrence, inside, rfl, resolved⟩
      rcases obligesToo with ⟨again, known, same, resolvedToo⟩
      have equal := ComputationTriggerDefinition.considered_inj host known (considered_of_upTo inside)
        (definition.windowId_inj (congrArg Window.windowId same))
      subst equal
      constructor
      · intro alike
        have both := alike again known rfl
        rw [resolved, resolvedToo] at both
        exact resolutionOf_injective both
      · rintro rfl other otherKnown otherSame
        have equal := ComputationTriggerDefinition.considered_inj host otherKnown known
          (definition.windowId_inj (congrArg Window.windowId otherSame))
        rw [equal, resolved, resolvedToo]

/-! ## The verdict of a window in a longer run -/

def Keeps (verdict : WorkerFireVerdict) (verdicts : List WorkerFireVerdict) : Prop :=
  verdict ∈ verdicts ∧
    ∀ other ∈ verdicts, other.window.windowId = verdict.window.windowId → other = verdict

theorem worker_upTo (toLedger : Int) (inputs : Inputs Payload) :
    (inputs.upTo toLedger).worker = inputs.worker := by
  cases inputs with
  | time parser definition ledgerCloseTimes latencyBoundLedgers fromLedger
  | event worker planner conditionEvents | computation host worker definition occurrences now => rfl

theorem keeps_iff_judged (run : inputs.verify clock events toLedger horizon = .ok verdicts)
    (verdict : WorkerFireVerdict) :
    Keeps verdict verdicts ↔ ∃ reason, inputs.Obliges clock toLedger verdict.window reason ∧
      judge inputs.worker events toLedger horizon verdict.window reason = verdict := by
  rw [Keeps, mem_verify run]
  constructor
  · rintro ⟨⟨window, reason, obliges, isVerdict⟩, _⟩
    have isWindow : window = verdict.window := by
      rw [← isVerdict, judge_window]
    rw [← isWindow]
    exact ⟨reason, obliges, isVerdict⟩
  · rintro ⟨reason, obliges, isVerdict⟩
    refine ⟨⟨verdict.window, reason, obliges, isVerdict⟩, ?_⟩
    intro other member same
    rcases (mem_verify run other).mp member with ⟨window, otherReason, obligesToo, rfl⟩
    rw [judge_window] at same
    rcases obliges_unique obligesToo obliges same with ⟨rfl, rfl⟩
    exact isVerdict

theorem decided_of_status {worker : WorkerDefinition} {window : Window}
    (decided : (resolveWindow worker events toLedger horizon window).status ≠ .pending) :
    horizon ≤ toLedger - window.deadlineLedger := by
  apply not_lt.mp
  intro pending
  rw [resolveWindow, if_pos pending] at decided
  exact decided rfl

theorem judge_upTo_iff {worker : WorkerDefinition} (longer : toLedger ≤ later)
    {reasonToo : Option WorkerVerdictReason}
    (decided : (judge worker (invocationsUpTo toLedger events) toLedger horizon window
      reason).status ≠ .pending) :
    judge worker events later horizon window reasonToo =
        judge worker (invocationsUpTo toLedger events) toLedger horizon window reason ↔
      reasonToo = reason ∧ (reason = none → Settled worker window events toLedger) := by
  cases reason with
  | none =>
      rw [judge] at decided ⊢
      cases reasonToo with
      | none =>
          rw [judge, resolveWindow_upTo_iff longer (decided_of_status decided)]
          constructor
          · exact fun settled => ⟨rfl, fun _ => settled⟩
          · exact fun both => both.2 rfl
      | some other =>
          apply iff_of_false
          · intro same
            apply resolveWindow_status worker (invocationsUpTo toLedger events) toLedger horizon
              window
            rw [← same]
            rfl
          · exact fun both => Option.some_ne_none _ both.1
  | some found =>
      cases reasonToo with
      | none =>
          apply iff_of_false
          · intro same
            apply resolveWindow_status worker events later horizon window
            rw [judge] at same
            rw [same]
            rfl
          · exact fun both => Option.some_ne_none _ both.1.symm
      | some other =>
          constructor
          · intro same
            have reasons : some other = some found := congrArg WorkerFireVerdict.reason same
            exact ⟨reasons, fun none => absurd none (Option.some_ne_none _)⟩
          · rintro ⟨reasons, _⟩
            rw [reasons]
            rfl

/-- A window that is not pending keeps its verdict in a longer run if and only if the longer
run reaches it, finds its attestation the same and, where that is valid, no later invocation
matters for the window. -/
theorem keeps_iff (longer : toLedger ≤ later)
    (run : (inputs.upTo toLedger).verify clock (invocationsUpTo toLedger events) toLedger horizon =
      .ok verdicts)
    {verdictsToo : List WorkerFireVerdict}
    (runToo : inputs.verify clockToo events later horizon = .ok verdictsToo)
    {verdict : WorkerFireVerdict} (given : verdict ∈ verdicts)
    (decided : verdict.status ≠ .pending) :
    Keeps verdict verdictsToo ↔
      inputs.Reached later verdict.window ∧ inputs.JudgedAlike clock clockToo verdict.window ∧
        (inputs.Verifiable clock verdict.window →
          Settled inputs.worker verdict.window events toLedger) := by
  rcases (mem_verify run verdict).mp given with ⟨window, reason, obliges, isVerdict⟩
  have isWindow : verdict.window = window := by
    rw [← isVerdict, judge_window]
  subst isWindow
  rw [worker_upTo] at isVerdict
  have stays {reasonToo} := @judge_upTo_iff events toLedger later horizon verdict.window reason
    inputs.worker longer reasonToo (by rw [isVerdict]; exact decided)
  rw [isVerdict] at stays
  rw [keeps_iff_judged runToo, reached_iff obliges, verifiable_iff obliges]
  constructor
  · rintro ⟨reasonToo, obligesToo, isJudged⟩
    rcases stays.mp isJudged with ⟨same, settled⟩
    exact ⟨⟨reasonToo, obligesToo⟩, (judgedAlike_iff obliges obligesToo).mpr same, settled⟩
  · rintro ⟨⟨reasonToo, obligesToo⟩, alike, settled⟩
    have same := (judgedAlike_iff obliges obligesToo).mp alike
    exact ⟨reasonToo, obligesToo, stays.mpr ⟨same, settled⟩⟩

/-! ## An invocation behind the end of a run -/

def exampleWorker : WorkerDefinition where
  trigger := .event
  targetContractId := js "C"
  functionName := js "run"

def exampleInvocation (ledger : Int) : InvocationEvent where
  type := js "contract.invoked"
  contractId := some (js "C")
  function := some (js "run")
  ledger := .finite ledger
  inSuccessfulContractCall := some true
  txHash := some (js "t")

def exampleInputs : Inputs Unit :=
  .event exampleWorker EventTriggerPlanner.exampleTrigger
    [EventTriggerPlanner.exampleEvent "a" 5]

def exampleWindow : Window :=
  ⟨js "w:a", js "w", 5, 15⟩

/-- Up to ledger 20 the window is missed. With an invocation at ledger 25 it is late. -/
theorem missed_then_late :
    ¬ ∀ (inputs : Inputs Unit) (clock : Clock) (events : List InvocationEvent)
      (toLedger later horizon : Int) (verdicts verdictsToo : List WorkerFireVerdict),
      toLedger ≤ later →
        (inputs.upTo toLedger).verify clock (invocationsUpTo toLedger events) toLedger horizon =
          .ok verdicts →
        inputs.verify clock events later horizon = .ok verdictsToo →
          ∀ verdict ∈ verdicts, verdict.status ≠ .pending → Keeps verdict verdictsToo := by
  intro keeps
  have kept := keeps exampleInputs (fun _ => 0) [exampleInvocation 25] 20 30 0
    [⟨exampleWindow, .missed, none, none, none, none⟩]
    [⟨exampleWindow, .late, none, some 25, some (js "t"), some 10⟩] (by omega) rfl rfl
    _ List.mem_cons_self (by decide)
  have still := kept.1
  revert still
  decide

/-- A window that is fired stays so, whatever comes later. -/
theorem fired_stays :
    Keeps ⟨exampleWindow, .fired, none, some 10, some (js "t"), none⟩
      [⟨exampleWindow, .fired, none, some 10, some (js "t"), none⟩] := by
  have run : (exampleInputs.upTo 20).verify (fun _ => 0)
      (invocationsUpTo 20 [exampleInvocation 10, exampleInvocation 25]) 20 0 =
        .ok [⟨exampleWindow, .fired, none, some 10, some (js "t"), none⟩] := rfl
  have runToo : exampleInputs.verify (fun _ => 0)
      [exampleInvocation 10, exampleInvocation 25] 30 0 =
        .ok [⟨exampleWindow, .fired, none, some 10, some (js "t"), none⟩] := rfl
  apply (keeps_iff (by omega) run runToo List.mem_cons_self (by decide)).mpr
  refine ⟨trivial, trivial, fun _ => Or.inl ?_⟩
  exact ⟨exampleInvocation 10, List.mem_cons_self, 10, rfl, by omega⟩

end Inputs

end Orbital.WorkerCore.Verification
