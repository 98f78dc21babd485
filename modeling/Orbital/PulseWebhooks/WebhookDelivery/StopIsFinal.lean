import Orbital.PulseWebhooks.WebhookDelivery.Operations
import Orbital.PulseWebhooks.WebhookDelivery.ReliableQueue

/-! # Behind `stop()`

`stop()` clears the timers and detaches the listener. The calls under way go on, and what
they do looks at the watcher only: they set timers, take the next delivery from the overflow
queue and the next record from the retry queue.
-/

namespace Orbital.PulseWebhooks

open Foundation

variable {Event Queue : Type}

def Driver.polls : Driver Event → Bool
  | .poller _ => true
  | _ => false

namespace WebhookDelivery

structure Quiet (attempts : List (Job Event × Nat)) (state : WebhookDelivery Event Queue) :
    Prop where
  stopped : state.stopped = true
  attempts : state.attempts = attempts
  retryTimers : state.retryTimers.entries = []
  queueDrainTimers : state.queueDrainTimers = []
  pollerTimer : state.pollerTimer = false

/-- A call under way that sets no timer and starts no attempt when it goes on. -/
def StartsNothing (config : WebhookConfig Event Queue) (state : WebhookDelivery Event Queue) :
    Task Event → Prop
  | .attempting driver _ attempt (.returned (.error failure)) => driver.polls = true ∨
      state.watcherStopped = true ∨ failure.terminal = true ∨ config.retries ≤ attempt ∨
      config.retryQueue.isSome = true
  | .enqueueing _ _ _ .settled => False
  | .settled => state.watcherStopped = true ∨ state.overflowQueue = []
  | .dequeuing _ (.record (some _)) | .polling (.record (some _)) => state.watcherStopped = true
  | _ => True

def StaysQuiet (config : WebhookConfig Event Queue) (state : WebhookDelivery Event Queue) :
    DeliveryEvent Event → Prop
  | .resume index (.proceed _ _) => ∀ task ∈ state.tasks[index]?, StartsNothing config state task
  | .restarted => False
  | _ => True

instance (config : WebhookConfig Event Queue) (state : WebhookDelivery Event Queue)
    (task : Task Event) : Decidable (StartsNothing config state task) :=
  match task with
  | .attempting _ _ _ (.returned (.error _)) =>
      inferInstanceAs (Decidable (_ = true ∨ _ = true ∨ _ = true ∨ _ ≤ _ ∨ _ = true))
  | .attempting _ _ _ (.returned (.ok _)) | .attempting _ _ _ .refused
  | .attempting _ _ _ .validating | .attempting _ _ _ .resolving | .attempting _ _ _ .fetching
  | .sizing _ _ _ _ _ | .evicting _ _ _ _ _ => .isTrue trivial
  | .enqueueing _ _ _ .settled => .isFalse id
  | .enqueueing _ _ _ (.rejected _) | .enqueueing _ _ _ (.record _) | .enqueueing _ _ _ (.count _) =>
      .isTrue trivial
  | .settled => if stopped : state.watcherStopped = true then .isTrue (.inl stopped)
      else if none : state.overflowQueue.isEmpty then .isTrue (.inr (List.isEmpty_iff.mp none))
      else .isFalse fun quietly => quietly.elim stopped fun empty =>
        none (List.isEmpty_iff.mpr empty)
  | .dequeuing _ (.record (some _)) => inferInstanceAs (Decidable (_ = true))
  | .dequeuing _ (.record none) => .isTrue trivial
  | .dequeuing _ .settled => .isTrue trivial
  | .dequeuing _ (.rejected _) => .isTrue trivial
  | .dequeuing _ (.count _) => .isTrue trivial
  | .drained _ _ => .isTrue trivial
  | .polling (.record (some _)) => inferInstanceAs (Decidable (_ = true))
  | .polling (.record none) => .isTrue trivial
  | .polling .settled => .isTrue trivial
  | .polling (.rejected _) => .isTrue trivial
  | .polling (.count _) => .isTrue trivial
  | .polled _ _ => .isTrue trivial
  | .putBack _ => .isTrue trivial

instance (config : WebhookConfig Event Queue) (state : WebhookDelivery Event Queue)
    (event : DeliveryEvent Event) : Decidable (StaysQuiet config state event) :=
  match event with
  | .resume _ (.proceed _ _) => inferInstanceAs (Decidable (∀ task ∈ _, StartsNothing _ _ task))
  | .resume _ (.validated _) | .resume _ (.resolved _) | .resume _ (.responded _) | .emitted _ _
  | .retryTimerFired _ | .drainTimerFired _ _ | .pollerTicked _ | .drainCalled _ | .stopCalled
  | .watcherStopped => .isTrue trivial
  | .restarted => .isFalse id

namespace Quiet

variable {config : WebhookConfig Event Queue} {state next : WebhookDelivery Event Queue}
  {attempts : List (Job Event × Nat)}

theorem ask (call : Call (Dispatched Event) Unit) (quiet : Quiet attempts state) :
    Quiet attempts (state.ask config call).2 := by
  rw [WebhookDelivery.ask]
  split
  · exact quiet
  · exact { quiet with }

theorem sendRequest (job : Job Event) (attempt : Nat) (quiet : Quiet attempts state) :
    Quiet attempts (state.sendRequest job attempt) := by
  rw [WebhookDelivery.sendRequest]
  split
  · exact { quiet with }
  · exact { quiet with }

theorem finishes (config : WebhookConfig Event Queue) (attempts : List (Job Event × Nat)) :
    Finishes config (fun _ => True) (Quiet attempts) where
  jobless _ := trivial
  known _ _ _ _ _ := trivial
  push _ quiet := { quiet with }
  ask call quiet := quiet.ask call
  emitDropped _ _ quiet := { quiet with }
  count quiet := { quiet with }
  acknowledge _ quiet := { quiet with }
  cut _ _ quiet := { quiet with }
  continueAttempt := by
    intro state driver job attempt stage continued _ quiet continues
    cases continues with
    | resolves | fails failure waits => exact { quiet with }
    | sends => exact { quiet.sendRequest job attempt with }
    | delivers => exact { quiet with }

theorem doAttempt (driver : Driver Event) (job : Job Event) (attempt : Nat)
    (stopped : state.watcherStopped = true) (quiet : Quiet attempts state) :
    Quiet attempts (state.doAttempt config driver job attempt) := by
  rw [WebhookDelivery.doAttempt, if_pos stopped]
  exact { quiet with }

theorem afterAttempt {driver : Driver Event} {job : Job Event} {attempt now : Nat}
    {result : Except AttemptFailure Unit}
    (starts : ∀ failure, result = .error failure → state.watcherStopped = true ∨
      failure.terminal = true ∨ config.retries ≤ attempt ∨ config.retryQueue.isSome = true)
    (quiet : Quiet attempts state) :
    Quiet attempts (state.afterAttempt config driver job attempt now result) := by
  cases result with
  | ok done => exact (finishes config attempts).finishDelivery driver quiet
  | error failure =>
      rw [WebhookDelivery.afterAttempt]
      split
      · exact (finishes config attempts).finishDelivery driver { quiet with }
      · rename_i running
        split
        · rename_i retried
          have more := Bool.and_eq_true_iff.mp retried
          split
          · exact { quiet.ask (.size now) with }
          · rename_i unused
            -- Without a queue a retry timer would be set.
            rcases starts failure rfl with stopped | terminal | last | used
            · exact absurd stopped running
            · rw [terminal] at more
              cases more.1
            · exact absurd (of_decide_eq_true more.2) (not_lt.mpr last)
            · rw [unused] at used
              cases used
        · exact (finishes config attempts).finishDelivery driver { quiet with }

theorem drainOverflow (overflow : List (Job Event)) (stopped : state.watcherStopped = true)
    (quiet : Quiet attempts state) : Quiet attempts (drainOverflow config overflow state) := by
  induction overflow generalizing state with
  | nil => exact quiet
  | cons job rest induction =>
      rw [WebhookDelivery.drainOverflow]
      split
      · apply induction
        · rw [WebhookDelivery.doAttempt, if_pos stopped]
          exact stopped
        · exact doAttempt .first job 1 stopped { quiet with }
      · exact quiet

/-! ### Steps -/

theorem resume {task : Task Event} {input : Input}
    (starts : ∀ now delay, input = .proceed now delay → StartsNothing config state task)
    (quiet : Quiet attempts state) (resumes : state.resume config task input = some next) :
    Quiet attempts next := by
  rw [WebhookDelivery.resume.eq_def] at resumes
  split at resumes
  · cases resumes
    exact { quiet with }
  · cases resumes
    exact (finishes config attempts).finishDelivery _ { quiet with }
  · cases resumes
    exact (finishes config attempts).afterPolledAttempt _ _ _ _ quiet
  · rename_i unpolled
    cases resumes
    apply quiet.afterAttempt
    intro failure same
    subst same
    rcases starts _ _ rfl with polled | quietly
    · rename_i driver _ _ _ _
      cases driver with
      | poller record => exact (unpolled record rfl).elim
      | _ => cases polled
    · exact quietly
  · rcases Option.map_eq_some_iff.mp resumes with ⟨continued, continues, rfl⟩
    exact (finishes config attempts).continueAttempt trivial quiet
      (continues_of_continueAttempt continues)
  · cases resumes
    exact (finishes config attempts).afterSize (fun _ _ _ => trivial) _ _ _ _ _ _ quiet
  · cases resumes
    exact (finishes config attempts).afterEvict (fun _ _ _ => trivial) _ _ _ _ _ _ quiet
  · rename_i answer _ _
    cases resumes
    cases answer with
    | settled => exact absurd (starts _ _ rfl) id
    | _ => exact (finishes config attempts).throwDelivery _ quiet
  · cases resumes
    rw [drainOverflowQueue]
    rcases starts _ _ rfl with stopped | none
    · exact drainOverflow _ stopped { quiet with }
    · dsimp only
      rw [none]
      exact { quiet with }
  · cases resumes
    exact quiet.doAttempt _ _ _ (starts _ _ rfl)
  · cases resumes
    exact quiet
  · cases resumes
    exact (finishes config attempts).drainDueRetries _ quiet
  · cases resumes
    exact quiet
  · have stopped : state.watcherStopped = true := starts _ _ rfl
    rw [if_pos stopped] at resumes
    cases resumes
    exact { quiet with }
  · cases resumes
    exact quiet
  · cases resumes
    exact { quiet with }
  · cases resumes
    exact quiet
  · cases resumes
    exact quiet
  · cases resumes

theorem step {event : DeliveryEvent Event} (stays : StaysQuiet config state event)
    (quiet : Quiet attempts state) (taken : state.step config event = some next) :
    Quiet attempts next := by
  cases event with
  | emitted object event =>
      rw [WebhookDelivery.step, handleWatcherEvent, quiet.stopped] at taken
      cases taken
      exact quiet
  | resume index input =>
      rcases step_resume taken with ⟨task, found, resumes⟩
      have without : Quiet attempts { state with tasks := state.tasks.eraseIdx index } :=
        { quiet with }
      refine without.resume ?_ resumes
      intro now delay same
      subst same
      exact stays task found
  | retryTimerFired timer =>
      rcases step_retryTimerFired taken with ⟨job, attempt, found, -⟩
      have member := InsertionMap.get?_eq_some_iff.mp found
      rw [quiet.retryTimers] at member
      cases member
  | drainTimerFired timer nowMs =>
      rw [WebhookDelivery.step, quiet.queueDrainTimers] at taken
      cases taken
  | pollerTicked nowMs =>
      rw [WebhookDelivery.step, quiet.pollerTimer] at taken
      cases taken
  | drainCalled nowMs =>
      cases taken
      exact (finishes config attempts).drainDueRetries nowMs quiet
  | stopCalled =>
      rw [WebhookDelivery.step, stop, if_pos quiet.stopped] at taken
      cases taken
      exact quiet
  | watcherStopped =>
      rw [WebhookDelivery.step, stop, if_pos quiet.stopped] at taken
      cases taken
      exact { quiet with }
  | restarted => exact absurd stays id

theorem stop (running : state.stopped = false) : Quiet state.attempts state.stop := by
  rw [WebhookDelivery.stop, running]
  exact ⟨rfl, rfl, rfl, rfl, rfl⟩

end Quiet

/-- From any state in which `stop()` is called: as long as the calls under way go on in the
harmless ways, no attempt is started and no timer is left armed. -/
theorem stop_is_final (config : WebhookConfig Event Queue)
    {state final : WebhookDelivery Event Queue} (running : state.stopped = false)
    {events : List (DeliveryEvent Event)}
    (trace : Trace (Guarded (StaysQuiet config) (Steps config)) state.stop events final) :
    final.attempts = state.attempts ∧ final.retryTimers.entries = [] ∧
      final.queueDrainTimers = [] ∧ final.pollerTimer = false := by
  have quiet := trace.invariant (motive := Quiet state.attempts)
    (fun _ _ _ quiet guarded => quiet.step guarded.1 guarded.2) (Quiet.stop running)
  exact ⟨quiet.attempts, quiet.retryTimers, quiet.queueDrainTimers, quiet.pollerTimer⟩

/-- An attempt is in flight when `stop()` is called, and it is the last one. -/
theorem last_attempt_is_final :
    ∃ final : WebhookDelivery Unit Unit,
      Trace (Guarded (StaysQuiet (WebhookConfig.withDefaults ["hook"] 1 none))
        (Steps (WebhookConfig.withDefaults ["hook"] 1 none)))
        ((initial (WebhookConfig.withDefaults ["hook"] 1 none) ()).handleWatcherEvent
          (WebhookConfig.withDefaults ["hook"] 1 none) 0 ()).stop
        (fails 0 1000 ++ [.resume 0 (.proceed 0 none), .emitted 1 ()]) final ∧
      final.attempts.map Prod.snd = [1] ∧ final.retryTimers.entries = [] := by
  have trace : Trace (Guarded (StaysQuiet (WebhookConfig.withDefaults ["hook"] 1 none))
      (Steps (WebhookConfig.withDefaults ["hook"] 1 none)))
      ((initial (WebhookConfig.withDefaults ["hook"] 1 none) ()).handleWatcherEvent
        (WebhookConfig.withDefaults ["hook"] 1 none) 0 ()).stop
      (fails 0 1000 ++ [.resume 0 (.proceed 0 none), .emitted 1 ()]) _ := trace_of_runGuarded rfl
  rcases stop_is_final _ rfl trace with ⟨attempts, retryTimers, -, -⟩
  exact ⟨_, trace, congrArg (List.map Prod.snd) attempts, retryTimers⟩

/-- One delivery is in flight and one waits for its slot when `stop()` is called. The first
one fails and sets a retry timer, and the other one is started. -/
theorem stop_starts_and_arms :
    ∃ final : WebhookDelivery Unit Unit,
      Trace (Steps .oneSlot) ((initial .oneSlot ()).handleWatcherEvent .oneSlot 0 ()).stop
        (fails 0 1000 ++ [.resume 0 (.proceed 0 none)]) final ∧
      final.stopped = true ∧ final.watcherStopped = false ∧
      ((initial .oneSlot ()).handleWatcherEvent .oneSlot 0 ()).stop.attempts.length = 1 ∧
      final.attempts.length = 2 ∧ final.retryTimers.size = 1 :=
  ⟨_, trace_of_runEvents rfl, rfl, rfl, rfl, rfl, rfl⟩

end WebhookDelivery

end Orbital.PulseWebhooks
