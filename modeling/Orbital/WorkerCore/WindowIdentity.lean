import Orbital.WorkerCore.ComputationTrigger
import Orbital.WorkerCore.FireParties

/-! # The identity of a time window

The manager claims a time window under the text of its fire key. Verification and the
watcher know the window by another text, so that a watcher does not see what the primary
has claimed.
-/

namespace Orbital.WorkerCore.Fires

open Foundation Foundation.Async
open EventTrigger (FireDecision)
open Idempotency
open Backstop

/-- The window of `verifyTimeTrigger` that is due at a ledger. -/
def timeWindow (workerId : JsString) (conditionLedger latencyBoundLedgers : Int) :
    ComputationTrigger.Window where
  windowId := workerId ++ js ":t:" ++ ledgerText conditionLedger
  workerId
  conditionLedger
  deadlineLedger := conditionLedger + latencyBoundLedgers

theorem head?_ledgerText (ledger : Int) : (ledgerText ledger).head? ≠ (js "t").head? := by
  rw [ledgerText, EventTrigger.LedgerField.text]
  split
  · intro same
    have units : (0x2D : CodeUnit) = 0x74 := Option.some.inj same
    revert units
    decide
  · rcases Digits.ofNat_eq_cons ledger.natAbs with ⟨digit, rest, digits, _⟩
    rw [digits]
    intro same
    have isLetter : Digits.unit digit = 0x74 := Option.some.inj same
    have isDigit := Digits.digit?_unit digit
    rw [isLetter] at isDigit
    cases isDigit

theorem fireKeyToString_ne (key : FireKey) (workerId : JsString) (same : key.workerId = workerId)
    (conditionLedger latencyBoundLedgers : Int) :
    fireKeyToString key ≠ (timeWindow workerId conditionLedger latencyBoundLedgers).windowId := by
  intro equal
  rw [fireKeyToString, timeWindow, same, List.append_assoc, List.append_assoc,
    List.append_cancel_left_eq] at equal
  have tails : ledgerText key.windowStartLedger = js "t:" ++ ledgerText conditionLedger :=
    (List.cons.inj equal).2
  apply head?_ledgerText key.windowStartLedger
  rw [tails]
  rfl

structure Watch where
  this : Nat
  subscription : WatchedSubscription
  notifies : Bool
  ownerId : JsString
  claimTtlMs : Nat
  positive : 0 < claimTtlMs
  owned : ownerId ≠ []

def Watch.party (watch : Watch) (decision : FireDecision) (currentLedger : Int) : Party :=
  .watcher watch.this watch.subscription watch.notifies
    (.expiring watch.ownerId watch.claimTtlMs watch.positive watch.owned) decision currentLedger

def timeDecision (window : ComputationTrigger.Window) (conditionEventId : JsString) :
    FireDecision where
  windowId := window.windowId
  workerId := window.workerId
  conditionEventId
  conditionLedger := window.conditionLedger
  deadlineLedger := window.deadlineLedger

/-- Any step may be taken. -/
def Anyhow (_ : World) (_ : Step) : Prop :=
  True

instance (world : World) (step : Step) : Decidable (Anyhow world step) :=
  isTrue trivial

def PrimaryAndWatcher (caller : Caller) (watch : Watch) (decision : FireDecision)
    (events : List Event) : Prop :=
  ∀ program, .call program ∈ events → program = caller.program ∨
    ∃ currentLedger, program = (watch.party decision currentLedger).program

/-! ## A late fire of the primary -/

def missedReply (decision : FireDecision) : Reply where
  carriedOut := true
  respond := fun request =>
    match request with
    | .claim _ _ _ | .add _ => .ok true
    | .chainCheck _ => .ok false
    | .verdictFor _ _ =>
        .ok (some { BackstopWatcher.unknownVerdict decision with verdict := .missed })
    | .release _ _ => .ok ()
    | .submit _ => .ok ()
    | .record _ => .ok ()
    | .notify _ => .ok ()

def lateFire (caller : Caller) (watch : Watch) (decision : FireDecision) (currentLedger : Int) :
    List Event :=
  let reply := missedReply decision
  [.call (watch.party decision currentLedger).program, .resume 0, .answer 0 reply, .resume 0,
    .call caller.program, .resume 1, .answer 1 reply, .resume 1, .answer 1 reply, .resume 1,
    .answer 1 reply, .resume 1]

theorem evaluate_late (watcher : BackstopWatcher Response Failure) (decision : FireDecision)
    {currentLedger : Int}
    (late : decision.deadlineLedger + watcher.subscription.graceLedgers < currentLedger) :
    watcher.evaluate decision currentLedger =
      (watcher.count fun stats => { stats with windowsWatched := stats.windowsWatched + 1 }).bind
        fun _ => (watcher.deps.verdictFor decision.windowId currentLedger).bind fun
          | none => watcher.standDown decision (BackstopWatcher.unknownVerdict decision)
          | some verdict =>
              if verdict.verdict = .missed then
                watcher.claimAndIntervene decision verdict currentLedger
              else watcher.standDown decision verdict := by
  rw [BackstopWatcher.evaluate]
  simp only [if_neg (not_le.mpr late)]
  rfl

theorem runs_lateFire (caller : Caller) (watch : Watch) (decision : FireDecision)
    {currentLedger : Int}
    (late : decision.deadlineLedger + watch.subscription.graceLedgers < currentLedger)
    (now : Int) :
    ∃ middle resume,
      runEvents (Ensemble.guardedStep setting Anyhow) (Parties.initial now)
        (lateFire caller watch decision currentLedger) = some middle ∧
      middle.world.claims = InMemoryClaimStore.empty.put (fireKeyToString caller.key)
        ⟨caller.ownerId, now + caller.claimTtlMs⟩ ∧
      middle.world.submissions = [⟨1, .fire caller.key, false⟩] ∧
      middle.processes[0]? =
        some ⟨.await (.claim decision.windowId watch.ownerId watch.claimTtlMs) resume, true⟩ ∧
      ∀ state, ((resume (.ok true)).advance state).2.request? =
        some (.submit (.window decision)) := by
  rw [lateFire, Watch.party, Party.program, evaluate_late _ decision late]
  exact ⟨_, _, rfl, rfl, rfl, rfl, fun _ => rfl⟩

theorem claims_and_submits {system : Parties} {key owner : JsString} {ttlMs : Nat}
    {resume : Except Failure Bool → Program Result} {submission : Submission} (reply : Reply)
    (waits : system.processes[0]? = some ⟨.await (.claim key owner ttlMs) resume, true⟩)
    (free : system.world.claims.map.get? key = none)
    (answers : reply.respond (.claim key owner ttlMs) = .ok true)
    (submits : ∀ state, ((resume (.ok true)).advance state).2.request? =
      some (.submit submission)) :
    ∃ final, Trace (Ensemble.Moves setting Anyhow) system [.answer 0 reply, .resume 0] final ∧
      final.world.submissions = system.world.submissions ++ [⟨0, submission, false⟩] := by
  have noRecord : ¬ (system.world.claims.get system.world.now key).isSome := by
    simp [InMemoryClaimStore.get, free]
  have wins : (setting.answer system.world 0 (.claim key owner ttlMs) reply).2 = .ok true ∧
      (setting.answer system.world 0 (.claim key owner ttlMs) reply).1.submissions =
        system.world.submissions := by
    change (system.world.stored _ _ _ _).2 = _ ∧ (system.world.stored _ _ _ _).1.submissions = _
    rw [answers, World.stored, World.claim, InMemoryClaimStore.claim_eq, if_neg noRecord]
    exact ⟨rfl, rfl⟩
  have answered := Ensemble.step_answer setting waits reply
  rw [wins.1] at answered
  have inside : 0 < system.processes.length := (List.getElem?_eq_some_iff.mp waits).1
  have runs : (system.processes.set 0 ⟨resume (.ok true), false⟩)[0]? =
      some ⟨resume (.ok true), false⟩ := List.getElem?_set_self inside
  have resumed : Ensemble.step setting ({
      world := (setting.answer system.world 0 (.claim key owner ttlMs) reply).1
      state := system.state
      processes := system.processes.set 0 ⟨resume (.ok true), false⟩ } : Parties) (.resume 0) =
        some (.made 0 (.submit submission), _) :=
    Ensemble.step_resume setting runs (submits system.state)
  refine ⟨_, .cons ⟨_, answered, trivial⟩ (.single ⟨_, resumed, trivial⟩), ?_⟩
  exact congrArg (· ++ [⟨0, submission, false⟩]) wins.2

/-- For every worker and window the two identities differ, and a watcher submits the window
in some run in which the primary has fired it. -/
theorem fires_twice (caller : Caller) (latencyBoundLedgers : Int) (watch : Watch)
    (conditionEventId : JsString) (now : Int) :
    let window := timeWindow caller.key.workerId caller.key.windowStartLedger latencyBoundLedgers
    let decision := timeDecision window conditionEventId
    fireKeyToString caller.key ≠ window.windowId ∧
      ∃ events final, PrimaryAndWatcher caller watch decision events ∧
        Trace (Ensemble.Moves setting Anyhow) (Parties.initial now) events final ∧
        final.world.submissions =
          [⟨1, .fire caller.key, false⟩, ⟨0, .window decision, false⟩] := by
  intro window decision
  have different : fireKeyToString caller.key ≠ window.windowId :=
    fireKeyToString_ne caller.key caller.key.workerId rfl _ _
  refine ⟨different, ?_⟩
  have late := Int.lt_succ (decision.deadlineLedger + watch.subscription.graceLedgers)
  rcases runs_lateFire caller watch decision late now with
    ⟨middle, resume, run, claims, submissions, waits, submits⟩
  have free : middle.world.claims.map.get? decision.windowId = none := by
    have other : decision.windowId ≠ fireKeyToString caller.key := different.symm
    rw [claims, InMemoryClaimStore.get?_put, if_neg other]
    exact InsertionMap.get?_empty _
  rcases claims_and_submits (missedReply decision) waits free rfl submits with
    ⟨final, back, submitted⟩
  refine ⟨_, final, ?_, (Ensemble.trace_of_run setting run).append back, ?_⟩
  · intro program member
    simp only [lateFire, List.cons_append, List.nil_append, List.mem_cons, List.not_mem_nil,
      or_false, false_or, Ensemble.Event.call.injEq, reduceCtorEq] at member
    rcases member with rfl | rfl
    · exact Or.inr ⟨_, rfl⟩
    · exact Or.inl rfl
  · rw [submitted, submissions]
    rfl

def exampleCaller : Caller where
  key := ⟨js "w", 5⟩
  ownerId := js "primary"
  claimTtlMs := 300000
  positive := Nat.succ_pos 299999

def exampleWatch : Watch where
  this := 0
  subscription := ⟨js "s", 2⟩
  notifies := true
  ownerId := js "backstop"
  claimTtlMs := 300000
  positive := Nat.succ_pos 299999
  owned := List.cons_ne_nil _ _

/-- The worker `w` at ledger 5. -/
theorem window_without_identity :
    ¬ ∀ (caller : Caller) (latencyBoundLedgers : Int) (watch : Watch)
      (conditionEventId : JsString) (now : Int),
      let window := timeWindow caller.key.workerId caller.key.windowStartLedger latencyBoundLedgers
      let decision := timeDecision window conditionEventId
      fireKeyToString caller.key = window.windowId ∧
        ∀ events final, PrimaryAndWatcher caller watch decision events →
          Trace (Ensemble.Moves setting Anyhow) (Parties.initial now) events final →
            final.world.submissions.length ≤ 1 := by
  intro holds
  have same := (holds exampleCaller 5 exampleWatch (js "5") 0).1
  revert same
  decide

end Orbital.WorkerCore.Fires
