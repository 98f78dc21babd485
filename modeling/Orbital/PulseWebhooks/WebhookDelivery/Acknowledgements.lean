import Orbital.PulseWebhooks.WebhookDelivery.History
import Orbital.PulseWebhooks.WebhookDelivery.ReliableQueue

/-! # Which records are acknowledged

A record is done with when its delivery got through, it was dead-lettered, or its next
attempt was enqueued. A record that `drainDueRetries` took is acknowledged behind its
attempt also where the stop of the watcher cut it short, and the poller acknowledges a
record in front of its dead letter.
-/

namespace Orbital.PulseWebhooks

open Foundation

variable {Event Queue : Type}

def Driver.record : Driver Event → Option (Record Event)
  | .first | .retryTimer => none
  | .drain _ record | .poller record => some record

def Driver.Drives (driver : Driver Event) (job : Job Event) (attempt : Nat) : Prop :=
  ∀ record ∈ driver.record, record.job = job ∧ record.attempt = attempt

namespace WebhookDelivery

def Settled (state : WebhookDelivery Event Queue) (record : Record Event) : Prop :=
  (record.job, record.attempt) ∈ state.delivered ∨
  (∃ letter ∈ state.deadLetters, letter.job = record.job ∧ letter.attempts = record.attempt) ∨
  (record.job, record.attempt + 1) ∈ state.enqueued

instance [DecidableEq Event] (state : WebhookDelivery Event Queue) (record : Record Event) :
    Decidable (Settled state record) :=
  inferInstanceAs (Decidable (_ ∈ _ ∨ (∃ _ ∈ _, _ = _ ∧ _ = _) ∨ _ ∈ _))

/-- A call under way works on the record of its driver, and what got through is among the
delivered. -/
def Follows (state : WebhookDelivery Event Queue) : Task Event → Prop
  | .attempting driver job attempt stage => driver.Drives job attempt ∧
      (stage = .returned (.ok ()) → (job, attempt) ∈ state.delivered)
  | .sizing driver job attempt _ _ | .evicting driver job attempt _ _
  | .enqueueing driver job attempt _ => ∃ tried, attempt = tried + 1 ∧ driver.Drives job tried
  | _ => True

structure Traced (state : WebhookDelivery Event Queue) : Prop where
  acknowledged : ∀ record ∈ state.acknowledged, Settled state record
  tasks : ∀ task ∈ state.tasks, Follows state task

variable {config : WebhookConfig Event Queue} {machine : QueueMachine Event Queue}
  {state next : WebhookDelivery Event Queue}

theorem drives_first (job : Job Event) (attempt : Nat) :
    (Driver.first : Driver Event).Drives job attempt := by
  intro record isRecord
  cases isRecord

theorem Settled.onward {record : Record Event} (settled : Settled state record)
    (onward : Onward state next) : Settled next record := by
  rcases settled with delivered | ⟨letter, isDead, same⟩ | enqueued
  · exact .inl (onward.delivered delivered)
  · exact .inr (.inl ⟨letter, onward.deadLetters isDead, same⟩)
  · exact .inr (.inr (onward.enqueued enqueued))

theorem Follows.onward {task : Task Event} (follows : Follows state task)
    (onward : Onward state next) : Follows next task := by
  cases task with
  | attempting driver job attempt stage =>
      exact ⟨follows.1, fun returned => onward.delivered (follows.2 returned)⟩
  | _ => exact follows

theorem settled_of_drives {driver : Driver Event} {job : Job Event} {attempt : Nat}
    {record : Record Event} (drives : driver.Drives job attempt)
    (isRecord : record ∈ driver.record)
    (done : (job, attempt) ∈ state.delivered ∨
      (∃ letter ∈ state.deadLetters, letter.job = job ∧ letter.attempts = attempt) ∨
      (job, attempt + 1) ∈ state.enqueued) : Settled state record := by
  rcases drives record isRecord with ⟨rfl, rfl⟩
  exact done

namespace Traced

theorem onward (traced : Traced state) (onward : Onward state next)
    (acknowledged : next.acknowledged = state.acknowledged) (tasks : next.tasks = state.tasks) :
    Traced next where
  acknowledged := by
    rw [acknowledged]
    intro record member
    exact (traced.acknowledged record member).onward onward
  tasks := by
    rw [tasks]
    intro task member
    exact (traced.tasks task member).onward onward

theorem push {task : Task Event} (follows : Follows state task) (traced : Traced state) :
    Traced (state.push task) where
  acknowledged := traced.acknowledged
  tasks := by
    intro other member
    rcases List.mem_append.mp member with old | new
    · exact traced.tasks other old
    · rw [List.mem_singleton.mp new]
      exact follows

theorem ask (call : Call (Dispatched Event) Unit) (traced : Traced state) :
    Traced (state.ask config call).2 := by
  rw [WebhookDelivery.ask]
  split
  · exact traced
  · exact ⟨traced.acknowledged, traced.tasks⟩

theorem acknowledge {record : Record Event} (settled : Settled state record)
    (traced : Traced state) :
    Traced { (state.ask config (.ack record.id)).2 with
      acknowledged := state.acknowledged ++ [record] } where
  acknowledged := by
    have onward : Onward state { (state.ask config (.ack record.id)).2 with
        acknowledged := state.acknowledged ++ [record] } :=
      { (Onward.refl state).ask (.ack record.id) with }
    intro other member
    rcases List.mem_append.mp member with old | new
    · exact (traced.acknowledged other old).onward onward
    · rw [List.mem_singleton.mp new]
      exact settled.onward onward
  tasks := (traced.ask (.ack record.id)).tasks

variable {driver : Driver Event} {job : Job Event} {attempt tried : Nat}

theorem doAttempt (drives : driver.Drives job attempt) (traced : Traced state) :
    Traced (state.doAttempt config driver job attempt) := by
  rw [WebhookDelivery.doAttempt]
  split
  · exact push ⟨drives, fun returned => by cases returned⟩ traced
  · have logged : Traced { state with attempts := state.attempts ++ [(job, attempt)] } :=
      ⟨traced.acknowledged, traced.tasks⟩
    dsimp only
    split
    · exact push ⟨drives, fun returned => by cases returned⟩ logged
    · refine push ⟨drives, ?_⟩ logged
      intro returned
      split at returned <;> cases returned

theorem continueAttempt {stage : Stage} {continued : WebhookDelivery Event Queue × Stage}
    (traced : Traced state) (drives : driver.Drives job attempt)
    (continues : Continues state job attempt stage continued) :
    Traced (continued.1.push (.attempting driver job attempt continued.2)) := by
  cases continues with
  | resolves | fails failure waits => exact push ⟨drives, fun returned => by cases returned⟩ traced
  | sends =>
      have sent : Traced (state.sendRequest job attempt) := by
        rw [WebhookDelivery.sendRequest]
        split
        · exact ⟨traced.acknowledged, traced.tasks⟩
        · exact ⟨traced.acknowledged, traced.tasks⟩
      exact push ⟨drives, fun returned => by cases returned⟩ sent
  | delivers =>
      refine push ⟨drives, fun _ => ?_⟩
        (traced.onward ((Onward.refl state).deliver job attempt) rfl rfl)
      exact List.mem_append_right _ List.mem_cons_self

/-! ### Behind an attempt -/

theorem finishDelivery (done : ∀ nowMs record, driver = .drain nowMs record → Settled state record)
    (traced : Traced state) : Traced (state.finishDelivery config driver) := by
  cases driver with
  | first => exact push trivial traced
  | retryTimer => exact traced
  | drain nowMs record => exact push trivial (traced.acknowledge (done nowMs record rfl))
  | poller record => exact traced

theorem throwDelivery (driver : Driver Event) (traced : Traced state) :
    Traced (state.throwDelivery driver) := by
  cases driver with
  | first => exact push trivial traced
  | _ => exact traced

theorem cut (job : Job Event) (made : Nat) (traced : Traced state) : Traced (state.cut job made) :=
  traced.onward ((Onward.refl state).cut job made) rfl rfl

theorem emitFailure (job : Job Event) (error : String) (attempt : Nat) (traced : Traced state) :
    Traced (state.emitFailure job error attempt) :=
  traced.onward ((Onward.refl state).emitFailure job error attempt) rfl rfl

theorem emitDropped (job : Job Event) (made : Nat) (traced : Traced state) :
    Traced (state.emitDropped job made) :=
  traced.onward ((Onward.refl state).emitDropped job made) rfl rfl

variable {now : Nat} {result : Except AttemptFailure Unit}

theorem afterAttempt (uses : config.retryQueue = some machine) (drives : driver.Drives job attempt)
    (delivered : result = .ok () → (job, attempt) ∈ state.delivered)
    (heeded : ∀ nowMs record failure, driver = .drain nowMs record → result = .error failure →
      state.watcherStopped = false) (traced : Traced state) :
    Traced (state.afterAttempt config driver job attempt now result) := by
  cases result with
  | ok done =>
      apply traced.finishDelivery
      intro nowMs record same
      subst same
      exact settled_of_drives drives rfl (.inl (delivered rfl))
  | error failure =>
      rw [WebhookDelivery.afterAttempt]
      split
      · rename_i stopped
        apply (traced.cut job attempt).finishDelivery
        intro nowMs record same
        rw [heeded nowMs record failure same rfl] at stopped
        cases stopped
      · split
        · rw [uses]
          exact push ⟨attempt, rfl, drives⟩ (traced.ask (.size now))
        · apply (traced.emitFailure job failure.error attempt).finishDelivery
          intro nowMs record same
          subst same
          have announced : ({ job, error := failure.error, attempts := attempt, made := attempt } :
              DeadLetter Event) ∈ (state.emitFailure job failure.error attempt).deadLetters :=
            List.mem_append_right _ List.mem_cons_self
          exact settled_of_drives drives rfl (.inr (.inl ⟨_, announced, rfl, rfl⟩))

theorem afterPolledAttempt {record : Record Event} {delay : Option Millis}
    (delivered : result = .ok () → (record.job, record.attempt) ∈ state.delivered)
    (heeded : ∀ failure, result = .error failure → state.watcherStopped = true ∨
      failure.terminal = false ∧ record.attempt < config.retries) (traced : Traced state) :
    Traced (state.afterPolledAttempt config record delay now result) := by
  cases result with
  | ok done =>
      rw [WebhookDelivery.afterPolledAttempt]
      split
      · exact traced
      · exact push trivial (traced.acknowledge (.inl (delivered rfl)))
  | error failure =>
      rw [WebhookDelivery.afterPolledAttempt]
      split
      · exact traced.cut record.job record.attempt
      · rename_i running
        split
        · exact push trivial (traced.ask (.nack record.id delay now))
        · rename_i final
          rcases heeded failure rfl with stopped | ⟨retryable, more⟩
          · exact absurd stopped running
          · apply absurd _ final
            rw [retryable, decide_eq_true more]
            rfl

/-! ### Persisting a retry -/

theorem enqueueRetry (drives : driver.Drives job tried) (lastError : String) (now : Nat)
    (delay : Option Millis) (traced : Traced state) :
    Traced (state.enqueueRetry config driver job (tried + 1) lastError now delay) := by
  have counted : Traced { state with retrySeq := state.retrySeq + 1 } :=
    ⟨traced.acknowledged, traced.tasks⟩
  exact push ⟨tried, rfl, drives⟩
    (counted.ask (.enqueue (state.retryRecord job (tried + 1) lastError now delay)))

theorem afterSize (drives : driver.Drives job tried) (lastError : String) (now : Nat)
    (delay : Option Millis) (answer : Answer (Dispatched Event) Unit) (traced : Traced state) :
    Traced (state.afterSize config driver job (tried + 1) lastError now delay answer) := by
  rw [WebhookDelivery.afterSize.eq_def]
  split
  · split
    · exact push ⟨tried, rfl, drives⟩ (traced.ask .evictNewest)
    · exact traced.enqueueRetry drives lastError now delay
  · exact traced.throwDelivery driver

theorem afterEvict (drives : driver.Drives job tried) (lastError : String) (now : Nat)
    (delay : Option Millis) (answer : Answer (Dispatched Event) Unit) (traced : Traced state) :
    Traced (state.afterEvict config driver job (tried + 1) lastError now delay answer) := by
  rw [WebhookDelivery.afterEvict.eq_def]
  split
  · exact (traced.emitDropped _ _).enqueueRetry drives lastError now delay
  · exact traced.enqueueRetry drives lastError now delay
  · exact traced.throwDelivery driver

theorem afterEnqueue (drives : driver.Drives job tried) (answer : Answer (Dispatched Event) Unit)
    (traced : Traced state) : Traced (state.afterEnqueue config driver job (tried + 1) answer) := by
  rw [WebhookDelivery.afterEnqueue.eq_def]
  split
  · have onward : Onward state
        { state with
          enqueued := state.enqueued ++ [(job, tried + 1)]
          queueDrainTimers := state.queueDrainTimers ++ [state.timerSeq]
          timerSeq := state.timerSeq + 1 } :=
      { Onward.refl state with enqueued := List.subset_append_left _ _ }
    apply (traced.onward onward rfl rfl).finishDelivery
    intro nowMs record same
    subst same
    refine settled_of_drives drives rfl (.inr (.inr ?_))
    exact List.mem_append_right _ List.mem_cons_self
  · exact traced.throwDelivery driver

theorem drainDueRetries (nowMs : Millis) (traced : Traced state) :
    Traced (state.drainDueRetries config nowMs) := by
  rw [WebhookDelivery.drainDueRetries]
  split
  · exact traced
  · exact push trivial (traced.ask (.dequeue nowMs))

/-! ### Dispatching -/

theorem dispatchDelivery (job : Job Event) (traced : Traced state) :
    Traced (state.dispatchDelivery config job) := by
  have logs : state.dispatched ⊆ state.dispatched ++ [job] := List.subset_append_left _ _
  rw [WebhookDelivery.dispatchDelivery]
  split
  · exact traced
  · dsimp only
    split
    · exact traced.onward { Onward.refl state with dispatched := logs } rfl rfl
    · apply doAttempt (drives_first job 1)
      exact traced.onward { Onward.refl state with dispatched := logs } rfl rfl

theorem dispatchAll (object : Nat) (event : Event) (urls : List String) (traced : Traced state) :
    Traced (dispatchAll config object event urls state) := by
  induction urls generalizing state with
  | nil => exact traced
  | cons url urls induction => exact induction (traced.dispatchDelivery _)

theorem handleWatcherEvent (object : Nat) (event : Event) (traced : Traced state) :
    Traced (state.handleWatcherEvent config object event) := by
  rw [WebhookDelivery.handleWatcherEvent]
  split
  · exact traced
  · exact traced.dispatchAll object event config.urls

theorem drainOverflow (overflow : List (Job Event)) (traced : Traced state) :
    Traced (drainOverflow config overflow state) := by
  induction overflow generalizing state with
  | nil => exact traced
  | cons job rest induction =>
      rw [WebhookDelivery.drainOverflow]
      split
      · apply induction
        apply doAttempt (drives_first job 1)
        exact ⟨traced.acknowledged, traced.tasks⟩
      · exact traced

end Traced

/-! ## Steps -/

/-- The watcher is not stopped behind the failed attempt for a drained record, and the
attempt for a polled record does not fail for good. -/
def SettlesFirst (config : WebhookConfig Event Queue) (watcherStopped : Bool) : Task Event → Prop
  | .attempting (.drain _ _) _ _ .refused => False
  | .attempting (.drain _ _) _ _ (.returned (.error _)) => watcherStopped = false
  | .attempting (.poller record) _ _ (.returned (.error failure)) =>
      watcherStopped = true ∨ failure.terminal = false ∧ record.attempt < config.retries
  | _ => True

def AcknowledgesSettled (config : WebhookConfig Event Queue)
    (state : WebhookDelivery Event Queue) : DeliveryEvent Event → Prop
  | .resume index (.proceed _ _) =>
      ∀ task ∈ state.tasks[index]?, SettlesFirst config state.watcherStopped task
  | _ => True

instance (config : WebhookConfig Event Queue) (watcherStopped : Bool) (task : Task Event) :
    Decidable (SettlesFirst config watcherStopped task) :=
  match task with
  | .attempting (.drain _ _) _ _ .refused => .isFalse id
  | .attempting (.drain _ _) _ _ (.returned (.error _)) => inferInstanceAs (Decidable (_ = false))
  | .attempting (.drain _ _) _ _ (.returned (.ok _)) | .attempting (.drain _ _) _ _ .validating
  | .attempting (.drain _ _) _ _ .resolving | .attempting (.drain _ _) _ _ .fetching =>
      .isTrue trivial
  | .attempting (.poller _) _ _ (.returned (.error _)) =>
      inferInstanceAs (Decidable (_ = true ∨ _ = false ∧ _ < _))
  | .attempting (.poller _) _ _ (.returned (.ok _)) | .attempting (.poller _) _ _ .refused
  | .attempting (.poller _) _ _ .validating | .attempting (.poller _) _ _ .resolving
  | .attempting (.poller _) _ _ .fetching | .attempting .first _ _ _
  | .attempting .retryTimer _ _ _ | .sizing _ _ _ _ _ | .evicting _ _ _ _ _ | .enqueueing _ _ _ _
  | .settled | .dequeuing _ _ | .drained _ _ | .polling _ | .polled _ _ | .putBack _ =>
      .isTrue trivial

instance (config : WebhookConfig Event Queue) (state : WebhookDelivery Event Queue)
    (event : DeliveryEvent Event) : Decidable (AcknowledgesSettled config state event) :=
  match event with
  | .resume _ (.proceed _ _) => inferInstanceAs (Decidable (∀ task ∈ _, SettlesFirst _ _ task))
  | .resume _ (.validated _) | .resume _ (.resolved _) | .resume _ (.responded _) | .emitted _ _
  | .retryTimerFired _ | .drainTimerFired _ _ | .pollerTicked _ | .drainCalled _ | .stopCalled
  | .watcherStopped | .restarted => .isTrue trivial

namespace Traced

theorem resume (uses : config.retryQueue = some machine) {task : Task Event} {input : Input}
    (follows : Follows state task)
    (settles : ∀ now delay, input = .proceed now delay →
      SettlesFirst config state.watcherStopped task)
    (traced : Traced state) (resumes : state.resume config task input = some next) :
    Traced next := by
  rw [WebhookDelivery.resume.eq_def] at resumes
  split at resumes
  · cases resumes
    exact traced.cut _ _
  · cases resumes
    apply (traced.cut _ _).finishDelivery
    intro nowMs record same
    subst same
    exact absurd (settles _ _ rfl) id
  · cases resumes
    rcases follows with ⟨drives, delivered⟩
    rcases drives _ rfl with ⟨rfl, rfl⟩
    apply traced.afterPolledAttempt
    · intro same
      exact delivered (congrArg Stage.returned same)
    · intro failure same
      subst same
      exact settles _ _ rfl
  · cases resumes
    apply traced.afterAttempt uses follows.1
    · intro same
      exact follows.2 (congrArg Stage.returned same)
    · intro nowMs record failure drained same
      subst drained same
      exact settles _ _ rfl
  · rcases Option.map_eq_some_iff.mp resumes with ⟨continued, continues, rfl⟩
    exact traced.continueAttempt follows.1 (continues_of_continueAttempt continues)
  · cases resumes
    rcases follows with ⟨tried, rfl, drives⟩
    exact traced.afterSize drives _ _ _ _
  · cases resumes
    rcases follows with ⟨tried, rfl, drives⟩
    exact traced.afterEvict drives _ _ _ _
  · cases resumes
    rcases follows with ⟨tried, rfl, drives⟩
    exact traced.afterEnqueue drives _
  · cases resumes
    apply drainOverflow
    exact ⟨traced.acknowledged, traced.tasks⟩
  · cases resumes
    apply traced.doAttempt
    intro record isRecord
    cases isRecord
    exact ⟨rfl, rfl⟩
  · cases resumes
    exact traced
  · cases resumes
    exact traced.drainDueRetries _
  · cases resumes
    exact traced
  · split at resumes
    · cases resumes
      exact traced.cut _ _
    · cases resumes
      apply traced.doAttempt
      intro record isRecord
      cases isRecord
      exact ⟨rfl, rfl⟩
  · cases resumes
    exact traced
  · cases resumes
    exact traced.emitFailure _ _ _
  · cases resumes
    exact traced
  · cases resumes
    exact traced
  · cases resumes

theorem stop (traced : Traced state) : Traced state.stop := by
  rw [WebhookDelivery.stop]
  split
  · exact traced
  · exact ⟨traced.acknowledged, traced.tasks⟩

theorem step (uses : config.retryQueue = some machine) {event : DeliveryEvent Event}
    (settles : AcknowledgesSettled config state event) (traced : Traced state)
    (taken : state.step config event = some next) : Traced next := by
  cases event with
  | emitted object event =>
      cases taken
      exact traced.handleWatcherEvent object event
  | resume index input =>
      rcases step_resume taken with ⟨task, found, resumes⟩
      have follows : Follows { state with tasks := state.tasks.eraseIdx index } task :=
        traced.tasks task (List.mem_of_getElem? found)
      have without : Traced { state with tasks := state.tasks.eraseIdx index } :=
        { acknowledged := traced.acknowledged
          tasks := fun other member => traced.tasks other (List.mem_of_mem_eraseIdx member) }
      refine without.resume uses follows ?_ resumes
      intro now delay same
      subst same
      exact settles task found
  | retryTimerFired timer =>
      rcases step_retryTimerFired taken with ⟨job, attempt, -, rfl⟩
      apply doAttempt
      · intro record isRecord
        cases isRecord
      · exact ⟨traced.acknowledged, traced.tasks⟩
  | drainTimerFired timer nowMs =>
      rcases step_drainTimerFired taken with ⟨-, rfl⟩
      apply drainDueRetries
      exact ⟨traced.acknowledged, traced.tasks⟩
  | pollerTicked nowMs =>
      rcases step_pollerTicked taken with ⟨-, rfl⟩
      exact push trivial (traced.ask (.dequeue nowMs))
  | drainCalled nowMs =>
      cases taken
      exact traced.drainDueRetries nowMs
  | stopCalled =>
      cases taken
      exact traced.stop
  | watcherStopped =>
      cases taken
      apply stop
      exact ⟨traced.acknowledged, traced.tasks⟩
  | restarted =>
      cases taken
      exact ⟨traced.acknowledged, fun task member => absurd member List.not_mem_nil⟩

end Traced

/-- In every run in which the watcher is not stopped behind a drained attempt that failed
and the poller meets no final failure, only records that are done with are acknowledged. -/
theorem acknowledged_is_settled (machine : QueueMachine Event Queue)
    (config : WebhookConfig Event Queue) (uses : config.retryQueue = some machine)
    (queue : Queue) {events : List (DeliveryEvent Event)} {final : WebhookDelivery Event Queue}
    (trace : Trace (Guarded (AcknowledgesSettled config) (Steps config)) (initial config queue)
      events final) :
    ∀ record ∈ final.acknowledged, Settled final record := by
  have start : Traced (initial config queue) :=
    ⟨fun _ none => absurd none List.not_mem_nil, fun _ none => absurd none List.not_mem_nil⟩
  have traced := trace.invariant (motive := Traced)
    (fun _ _ _ traced guarded => traced.step uses guarded.1 guarded.2) start
  exact traced.acknowledged

/-- Two attempts fail behind a record, and the second record is dead-lettered. -/
theorem drained_is_settled :
    ∃ final : WebhookDelivery Unit (MemoryRetryQueue (Dispatched Unit) Unit),
      Trace (Guarded (AcknowledgesSettled threeAttempts) (Steps threeAttempts))
        (initial threeAttempts .empty) drainedToTheEnd final ∧
      final.acknowledged.map RetryRecord.attempt = [2, 3] ∧
      ∀ record ∈ final.acknowledged, Settled final record := by
  have ran : ∃ final ∈ runEvents (fun state event =>
      if AcknowledgesSettled threeAttempts state event then step threeAttempts state event
      else none) (initial threeAttempts .empty) drainedToTheEnd,
      final.acknowledged.map RetryRecord.attempt = [2, 3] := by
    decide +kernel
  rcases ran with ⟨final, isRun, acknowledged⟩
  have trace := trace_of_runGuarded isRun
  exact ⟨final, trace, acknowledged,
    acknowledged_is_settled overMemory.machine threeAttempts rfl .empty trace⟩

def stoppedWhileDrained : List (DeliveryEvent Unit) :=
  .emitted 0 () :: failsAndPersists 0 1000 ++
    [.drainTimerFired 0 1000, .resume 0 (.proceed 1000 none),
      .resume 0 (.resolved (some ["203.0.113.1"])), .watcherStopped,
      .resume 0 (.responded (some "HTTP 500")), .resume 0 (.proceed 1000 none)]

/-- The record is acknowledged and nothing is left of the delivery. -/
theorem stopped_while_drained_is_lost :
    ∃ final : WebhookDelivery Unit (MemoryRetryQueue (Dispatched Unit) Unit),
      Trace (Steps threeAttempts) (initial threeAttempts .empty) stoppedWhileDrained final ∧
      (∃ record ∈ final.acknowledged, ¬ Settled final record) ∧
      final.queue.queued.size = 0 ∧ final.queue.inFlight.size = 0 := by
  have ran : ∃ final ∈ runEvents (step threeAttempts) (initial threeAttempts .empty)
      stoppedWhileDrained,
      (∃ record ∈ final.acknowledged, ¬ Settled final record) ∧
        final.queue.queued.size = 0 ∧ final.queue.inFlight.size = 0 := by
    decide +kernel
  rcases ran with ⟨final, isRun, lost⟩
  exact ⟨final, trace_of_runEvents isRun, lost⟩

end WebhookDelivery

end Orbital.PulseWebhooks
