import Orbital.PulseWebhooks.WebhookDelivery.Delivery

/-! # What the operations of a delivery keep

An operation is made of few changes of the state. A property that each of them keeps is kept
by the operation.
-/

namespace Orbital.PulseWebhooks

open Foundation

variable {Event Queue : Type}

def Task.job : Task Event → Option (Job Event)
  | .attempting _ job _ _ | .sizing _ job _ _ _ | .evicting _ job _ _ _
  | .enqueueing _ job _ _ => some job
  | _ => none

def Task.isAttempt : Task Event → Bool
  | .attempting _ _ _ _ => true
  | _ => false

namespace WebhookDelivery

variable {config : WebhookConfig Event Queue} {state next : WebhookDelivery Event Queue}
  {job : Job Event} {attempt : Nat}

/-! ## Steps -/

variable {input : Input} {timer : Nat} {nowMs : Millis}

theorem step_resume {index : Nat} (taken : state.step config (.resume index input) = some next) :
    ∃ task, state.tasks[index]? = some task ∧
      resume config { state with tasks := state.tasks.eraseIdx index } task input = some next := by
  rw [step] at taken
  split at taken
  · cases taken
  · rename_i task found
    exact ⟨task, found, taken⟩

theorem step_retryTimerFired (taken : state.step config (.retryTimerFired timer) = some next) :
    ∃ job attempt, state.retryTimers.get? timer = some (job, attempt) ∧
      next = ({ state with retryTimers := state.retryTimers.delete timer } :
        WebhookDelivery Event Queue).doAttempt config .retryTimer job attempt := by
  rw [step] at taken
  split at taken
  · cases taken
  · rename_i job attempt found
    cases taken
    exact ⟨job, attempt, found, rfl⟩

theorem step_drainTimerFired
    (taken : state.step config (.drainTimerFired timer nowMs) = some next) :
    timer ∈ state.queueDrainTimers ∧
      next = ({ state with queueDrainTimers := state.queueDrainTimers.erase timer } :
        WebhookDelivery Event Queue).drainDueRetries config nowMs := by
  rw [step] at taken
  split at taken
  · rename_i armed
    cases taken
    exact ⟨armed, rfl⟩
  · cases taken

theorem step_pollerTicked (taken : state.step config (.pollerTicked nowMs) = some next) :
    state.pollerTimer = true ∧ next = (state.ask config (.dequeue nowMs)).2.push
      (.polling (state.ask config (.dequeue nowMs)).1) := by
  rw [step] at taken
  split at taken
  · rename_i armed
    cases taken
    exact ⟨armed, rfl⟩
  · cases taken

/-! ## From one `await` of an attempt to the next -/

inductive Continues (state : WebhookDelivery Event Queue) (job : Job Event) (attempt : Nat) :
    Stage → WebhookDelivery Event Queue × Stage → Prop
  | resolves : Continues state job attempt .validating (state, .resolving)
  | fails {stage : Stage} (failure : AttemptFailure)
      (waits : stage = .validating ∨ stage = .resolving ∨ stage = .fetching) :
      Continues state job attempt stage (state, .returned (.error failure))
  | sends : Continues state job attempt .resolving (state.sendRequest job attempt, .fetching)
  | delivers : Continues state job attempt .fetching
      ({ state with delivered := state.delivered ++ [(job, attempt)] }, .returned (.ok ()))

theorem continues_of_continueAttempt {stage : Stage}
    {continued : WebhookDelivery Event Queue × Stage}
    (continues : state.continueAttempt config job attempt stage input = some continued) :
    Continues state job attempt stage continued := by
  rw [continueAttempt.eq_def] at continues
  split at continues
  · split at continues
    · cases continues
      exact .fails _ (.inl rfl)
    · split at continues
      · cases continues
        exact .fails _ (.inl rfl)
      · cases continues
        exact .fails _ (.inl rfl)
      · cases continues
        exact .resolves
  · split at continues
    · cases continues
      exact .fails _ (.inr (.inl rfl))
    · split at continues
      · cases continues
        exact .fails _ (.inr (.inl rfl))
      · cases continues
        exact .sends
  · cases continues
    exact .delivers
  · cases continues
    exact .fails _ (.inr (.inr rfl))
  · cases continues

/-! ## Operations that begin no attempt and set no timer -/

def Known (Held : Task Event → Prop) (job : Job Event) : Prop :=
  ∀ task : Task Event, task.isAttempt = false → task.job = some job → Held task

structure Calm (config : WebhookConfig Event Queue) (Held : Task Event → Prop)
    (Holds : WebhookDelivery Event Queue → Prop) : Prop where
  jobless : ∀ {task}, task.job = none → Held task
  known : ∀ {task job}, task.job = some job → Held task → Known Held job
  push : ∀ {state task}, Held task → Holds state → Holds (state.push task)
  ask : ∀ {state} call, Holds state → Holds (state.ask config call).2
  emitDropped : ∀ {state} job made, Holds state → Holds (state.emitDropped job made)
  count : ∀ {state}, Holds state → Holds { state with retrySeq := state.retrySeq + 1 }

section Calm

variable {Held : Task Event → Prop} {Holds : WebhookDelivery Event Queue → Prop}

namespace Calm

theorem throwDelivery (calm : Calm config Held Holds) (driver : Driver Event)
    (holds : Holds state) : Holds (state.throwDelivery driver) := by
  cases driver with
  | first => exact calm.push (calm.jobless rfl) holds
  | _ => exact holds

theorem enqueueRetry (calm : Calm config Held Holds) (known : Known Held job)
    (driver : Driver Event) (attempt : Nat) (lastError : String) (now : Nat)
    (delay : Option Millis) (holds : Holds state) :
    Holds (state.enqueueRetry config driver job attempt lastError now delay) :=
  calm.push (known _ rfl rfl) (calm.ask _ (calm.count holds))

theorem afterSize (calm : Calm config Held Holds) (known : Known Held job)
    (driver : Driver Event) (attempt : Nat) (lastError : String) (now : Nat)
    (delay : Option Millis) (answer : Answer (Dispatched Event) Unit) (holds : Holds state) :
    Holds (state.afterSize config driver job attempt lastError now delay answer) := by
  rw [WebhookDelivery.afterSize.eq_def]
  split
  · split
    · exact calm.push (known _ rfl rfl) (calm.ask .evictNewest holds)
    · exact calm.enqueueRetry known driver attempt lastError now delay holds
  · exact calm.throwDelivery driver holds

theorem afterEvict (calm : Calm config Held Holds) (known : Known Held job)
    (driver : Driver Event) (attempt : Nat) (lastError : String) (now : Nat)
    (delay : Option Millis) (answer : Answer (Dispatched Event) Unit) (holds : Holds state) :
    Holds (state.afterEvict config driver job attempt lastError now delay answer) := by
  rw [WebhookDelivery.afterEvict.eq_def]
  split
  · apply calm.enqueueRetry known driver attempt lastError now delay
    exact calm.emitDropped _ _ holds
  · exact calm.enqueueRetry known driver attempt lastError now delay holds
  · exact calm.throwDelivery driver holds

theorem drainDueRetries (calm : Calm config Held Holds) (nowMs : Millis) (holds : Holds state) :
    Holds (state.drainDueRetries config nowMs) := by
  rw [WebhookDelivery.drainDueRetries]
  split
  · exact holds
  · exact calm.push (calm.jobless rfl) (calm.ask (.dequeue nowMs) holds)

end Calm

/-! ## Behind an attempt -/

structure Finishes (config : WebhookConfig Event Queue) (Held : Task Event → Prop)
    (Holds : WebhookDelivery Event Queue → Prop) : Prop extends Calm config Held Holds where
  acknowledge : ∀ {state} records, Holds state → Holds { state with acknowledged := records }
  cut : ∀ {state} job made, Holds state → Holds (state.cut job made)
  continueAttempt : ∀ {state driver job attempt stage continued},
    Held (.attempting driver job attempt stage) → Holds state →
    Continues state job attempt stage continued →
    Holds (continued.1.push (.attempting driver job attempt continued.2))

namespace Finishes

theorem finishDelivery (finishes : Finishes config Held Holds) (driver : Driver Event)
    (holds : Holds state) : Holds (state.finishDelivery config driver) := by
  cases driver with
  | first => exact finishes.push (finishes.jobless rfl) holds
  | retryTimer => exact holds
  | drain nowMs record =>
      exact finishes.push (finishes.jobless rfl)
        (finishes.acknowledge _ (finishes.ask (.ack record.id) holds))
  | poller record => exact holds

theorem afterPolledAttempt (finishes : Finishes config Held Holds) (record : Record Event)
    (delay : Option Millis) (now : Nat) (result : Except AttemptFailure Unit)
    (holds : Holds state) :
    Holds (state.afterPolledAttempt config record delay now result) := by
  cases result with
  | ok done =>
      rw [WebhookDelivery.afterPolledAttempt]
      split
      · exact holds
      · exact finishes.push (finishes.jobless rfl)
          (finishes.acknowledge _ (finishes.ask (.ack record.id) holds))
  | error failure =>
      rw [WebhookDelivery.afterPolledAttempt]
      split
      · exact finishes.cut _ _ holds
      · split
        · exact finishes.push (finishes.jobless rfl) (finishes.ask _ holds)
        · exact finishes.push (finishes.jobless rfl)
            (finishes.acknowledge _ (finishes.ask (.ack record.id) holds))

end Finishes

/-! ## Timers -/

structure Times (config : WebhookConfig Event Queue) (Held : Task Event → Prop)
    (Holds : WebhookDelivery Event Queue → Prop) : Prop extends Finishes config Held Holds where
  emitFailure : ∀ {state} job error attempt, Holds state →
    Holds (state.emitFailure job error attempt)
  deleteTimer : ∀ {state} timer, Holds state →
    Holds { state with retryTimers := state.retryTimers.delete timer }
  setRetryTimer : ∀ {state job} attempt, Known Held job → Holds state →
    Holds (state.setRetryTimer job attempt)
  enqueued : ∀ {state} entry, Holds state → Holds { state with
    enqueued := state.enqueued ++ [entry]
    queueDrainTimers := state.queueDrainTimers ++ [state.timerSeq]
    timerSeq := state.timerSeq + 1 }

namespace Times

theorem makeRoom (times : Times config Held Holds) (holds : Holds state) :
    Holds (state.makeRoom config) := by
  rw [WebhookDelivery.makeRoom]
  split
  · split
    · exact holds
    · exact times.emitDropped _ _ (times.deleteTimer _ holds)
  · exact holds

theorem afterAttempt (times : Times config Held Holds) (known : Known Held job)
    (driver : Driver Event) (attempt now : Nat) (result : Except AttemptFailure Unit)
    (holds : Holds state) :
    Holds (state.afterAttempt config driver job attempt now result) := by
  cases result with
  | ok done => exact times.finishDelivery driver holds
  | error failure =>
      rw [WebhookDelivery.afterAttempt]
      split
      · exact times.finishDelivery driver (times.cut job attempt holds)
      · split
        · split
          · exact times.push (known _ rfl rfl) (times.ask (.size now) holds)
          · apply times.finishDelivery
            exact times.setRetryTimer _ known (times.makeRoom holds)
        · exact times.finishDelivery driver (times.emitFailure job failure.error attempt holds)

theorem afterEnqueue (times : Times config Held Holds) (driver : Driver Event) (job : Job Event)
    (attempt : Nat) (answer : Answer (Dispatched Event) Unit) (holds : Holds state) :
    Holds (state.afterEnqueue config driver job attempt answer) := by
  rw [WebhookDelivery.afterEnqueue.eq_def]
  split
  · exact times.finishDelivery driver (times.enqueued _ holds)
  · exact times.throwDelivery driver holds

end Times

/-! ## All operations -/

structure Steady (config : WebhookConfig Event Queue) (Held : Task Event → Prop)
    (Holds : WebhookDelivery Event Queue → Prop) : Prop extends Times config Held Holds where
  doAttempt : ∀ {state} driver job attempt, Holds state →
    Holds (state.doAttempt config driver job attempt)
  dispatched : ∀ {state} job, Holds state →
    Holds { state with dispatched := state.dispatched ++ [job] }
  waits : ∀ {state} jobs count, Holds state →
    Holds { state with overflowQueue := jobs, activeDeliveries := count }
  take : ∀ {state} index, Holds state → Holds { state with tasks := state.tasks.eraseIdx index }
  drainTimers : ∀ {state} timers, Holds state → Holds { state with queueDrainTimers := timers }

namespace Steady

theorem dispatchDelivery (steady : Steady config Held Holds) (job : Job Event)
    (holds : Holds state) : Holds (state.dispatchDelivery config job) := by
  rw [WebhookDelivery.dispatchDelivery]
  split
  · exact holds
  · dsimp only
    split
    · exact steady.waits _ _ (steady.dispatched job holds)
    · exact steady.doAttempt .first job 1 (steady.waits _ _ (steady.dispatched job holds))

theorem dispatchAll (steady : Steady config Held Holds) (object : Nat) (event : Event)
    (urls : List String) (holds : Holds state) :
    Holds (dispatchAll config object event urls state) := by
  induction urls generalizing state with
  | nil => exact holds
  | cons url urls induction => exact induction (steady.dispatchDelivery _ holds)

theorem drainOverflow (steady : Steady config Held Holds) (overflow : List (Job Event))
    (holds : Holds state) : Holds (drainOverflow config overflow state) := by
  induction overflow generalizing state with
  | nil => exact holds
  | cons job rest induction =>
      rw [WebhookDelivery.drainOverflow]
      split
      · exact induction (steady.doAttempt .first job 1 (steady.waits _ _ holds))
      · exact holds

theorem resume (steady : Steady config Held Holds) {task : Task Event} {input : Input}
    (held : Held task) (holds : Holds state)
    (resumes : state.resume config task input = some next) : Holds next := by
  rw [WebhookDelivery.resume.eq_def] at resumes
  split at resumes
  · cases resumes
    exact steady.cut _ _ holds
  · cases resumes
    exact steady.finishDelivery _ (steady.cut _ _ holds)
  · cases resumes
    exact steady.afterPolledAttempt _ _ _ _ holds
  · cases resumes
    exact steady.afterAttempt (steady.known rfl held) _ _ _ _ holds
  · rcases Option.map_eq_some_iff.mp resumes with ⟨continued, continues, rfl⟩
    exact steady.continueAttempt held holds (continues_of_continueAttempt continues)
  · cases resumes
    exact steady.afterSize (steady.known rfl held) _ _ _ _ _ _ holds
  · cases resumes
    exact steady.afterEvict (steady.known rfl held) _ _ _ _ _ _ holds
  · cases resumes
    exact steady.afterEnqueue _ _ _ _ holds
  · cases resumes
    exact steady.drainOverflow _ (steady.waits _ _ holds)
  · cases resumes
    exact steady.doAttempt _ _ _ holds
  · cases resumes
    exact holds
  · cases resumes
    exact steady.drainDueRetries _ holds
  · cases resumes
    exact holds
  · split at resumes
    · cases resumes
      exact steady.cut _ _ holds
    · cases resumes
      exact steady.doAttempt _ _ _ holds
  · cases resumes
    exact holds
  · cases resumes
    exact steady.emitFailure _ _ _ holds
  · cases resumes
    exact holds
  · cases resumes
    exact holds
  · cases resumes

end Steady

end Calm

def DeliveryEvent.Halts : DeliveryEvent Event → Prop
  | .stopCalled | .watcherStopped | .restarted => True
  | _ => False

instance (event : DeliveryEvent Event) : Decidable event.Halts :=
  match event with
  | .stopCalled | .watcherStopped | .restarted => isTrue trivial
  | .emitted _ _ | .resume _ _ | .retryTimerFired _ | .drainTimerFired _ _ | .pollerTicked _
  | .drainCalled _ => isFalse id

theorem Steady.step {Held : Task Event → Prop} {Holds : WebhookDelivery Event Queue → Prop}
    (steady : Steady config Held Holds) {event : DeliveryEvent Event} (runs : ¬event.Halts)
    (held : ∀ task ∈ state.tasks, Held task) (holds : Holds state)
    (taken : state.step config event = some next) : Holds next := by
  cases event with
  | emitted object event =>
      cases taken
      rw [handleWatcherEvent]
      split
      · exact holds
      · exact steady.dispatchAll object event config.urls holds
  | resume index input =>
      rcases step_resume taken with ⟨task, found, resumes⟩
      exact steady.resume (held task (List.mem_of_getElem? found)) (steady.take index holds) resumes
  | retryTimerFired timer =>
      rcases step_retryTimerFired taken with ⟨job, attempt, -, rfl⟩
      exact steady.doAttempt _ _ _ (steady.deleteTimer timer holds)
  | drainTimerFired timer nowMs =>
      rcases step_drainTimerFired taken with ⟨-, rfl⟩
      exact steady.drainDueRetries nowMs (steady.drainTimers _ holds)
  | pollerTicked nowMs =>
      rcases step_pollerTicked taken with ⟨-, rfl⟩
      exact steady.push (steady.jobless rfl) (steady.ask (.dequeue nowMs) holds)
  | drainCalled nowMs =>
      cases taken
      exact steady.drainDueRetries nowMs holds
  | stopCalled | watcherStopped | restarted => exact absurd trivial runs

end WebhookDelivery

end Orbital.PulseWebhooks
