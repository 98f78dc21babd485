import Orbital.PulseWebhooks.WebhookDelivery.Operations

/-! # Delivery slots

`activeDeliveries` counts the first deliveries under way, up to their `.finally`. Within a
step some of them can be between two calls.
-/

namespace Orbital.PulseWebhooks

open Foundation

variable {Event Queue : Type}

def Driver.isFirst : Driver Event → Bool
  | .first => true
  | _ => false

def Task.isFirst : Task Event → Bool
  | .attempting driver _ _ _ | .sizing driver _ _ _ _ | .evicting driver _ _ _ _
  | .enqueueing driver _ _ _ => driver.isFirst
  | .settled => true
  | _ => false

namespace WebhookDelivery

def firstCalls (state : WebhookDelivery Event Queue) : Nat :=
  state.tasks.countP Task.isFirst

/-- The slots are counted, a delivery waits for one only while none is free, and the retry
timers are within their cap. -/
structure Slots (config : WebhookConfig Event Queue) (state : WebhookDelivery Event Queue)
    (between : Nat) : Prop where
  counted : state.activeDeliveries = state.firstCalls + between
  capped : state.activeDeliveries ≤ config.deliveryCap
  busy : state.overflowQueue ≠ [] → config.deliveryCap ≤ state.activeDeliveries
  timers : state.retryTimers.size ≤ config.retryCap

variable {config : WebhookConfig Event Queue} {state : WebhookDelivery Event Queue}
  {between : Nat}

theorem one_le_retryCap (config : WebhookConfig Event Queue) : 1 ≤ config.retryCap := by
  rw [WebhookConfig.retryCap]
  omega

namespace Slots

abbrev slot (isFirst : Bool) : Nat :=
  isFirst.toNat

theorem firstCalls_push (task : Task Event) :
    (state.push task).firstCalls = slot task.isFirst + state.firstCalls := by
  rw [firstCalls, firstCalls, WebhookDelivery.push]
  dsimp only
  rw [List.countP_append, List.countP_singleton, Nat.add_comm]
  cases task.isFirst with
  | true | false => rfl

theorem firstCalls_doAttempt (driver : Driver Event) (job : Job Event) (attempt : Nat) :
    (state.doAttempt config driver job attempt).firstCalls =
      slot driver.isFirst + state.firstCalls := by
  rw [WebhookDelivery.doAttempt]
  split
  · exact firstCalls_push (.attempting driver job attempt .refused)
  · dsimp only
    split
    · exact firstCalls_push (.attempting driver job attempt (.returned (.error _)))
    · exact firstCalls_push (.attempting driver job attempt _)

theorem push (task : Task Event) (slots : Slots config state (slot task.isFirst + between)) :
    Slots config (state.push task) between :=
  { slots with
    counted := by
      have counted : state.activeDeliveries = _ := slots.counted
      rw [firstCalls_push, Nat.add_assoc, Nat.add_left_comm]
      exact counted }

variable {driver : Driver Event}

theorem doAttempt (job : Job Event) (attempt : Nat)
    (slots : Slots config state (slot driver.isFirst + between)) :
    Slots config (state.doAttempt config driver job attempt) between where
  counted := by
    rw [doAttempt_activeDeliveries, firstCalls_doAttempt, Nat.add_assoc, Nat.add_left_comm]
    exact slots.counted
  capped := by
    rw [doAttempt_activeDeliveries]
    exact slots.capped
  busy := by
    rw [doAttempt_activeDeliveries, doAttempt_overflowQueue]
    exact slots.busy
  timers := by
    rw [doAttempt_retryTimers]
    exact slots.timers

theorem sendRequest (job : Job Event) (attempt : Nat) (slots : Slots config state between) :
    Slots config (state.sendRequest job attempt) between := by
  rw [WebhookDelivery.sendRequest]
  split
  · exact { slots with }
  · exact { slots with }

variable {job : Job Event} {attempt : Nat} {task : Task Event} {next : WebhookDelivery Event Queue}

theorem continueAttempt {stage : Stage} {next : WebhookDelivery Event Queue × Stage}
    (slots : Slots config state between) (continues : Continues state job attempt stage next) :
    Slots config next.1 between := by
  cases continues with
  | sends => exact slots.sendRequest job attempt
  | delivers => exact { slots with }
  | _ => exact slots

theorem ask (call : Call (Dispatched Event) Unit) (slots : Slots config state between) :
    Slots config (state.ask config call).2 between := by
  rw [WebhookDelivery.ask]
  split
  · exact slots
  · exact { slots with }

theorem finishDelivery (slots : Slots config state (slot driver.isFirst + between)) :
    Slots config (state.finishDelivery config driver) between := by
  cases driver with
  | first => exact push .settled slots
  | retryTimer => exact (Nat.zero_add between ▸ slots : Slots config state between)
  | drain nowMs record =>
      exact push (.drained nowMs _) { slots.ask (.ack record.id) with }
  | poller record => exact (Nat.zero_add between ▸ slots : Slots config state between)

theorem throwDelivery (slots : Slots config state (slot driver.isFirst + between)) :
    Slots config (state.throwDelivery driver) between := by
  have others : driver.isFirst = false → Slots config state between := by
    intro other
    rw [other] at slots
    exact (Nat.zero_add between ▸ slots : Slots config state between)
  cases driver with
  | first => exact push .settled slots
  | retryTimer | drain nowMs record | poller record => exact others rfl

theorem makeRoom (slots : Slots config state between) :
    Slots config (state.makeRoom config) between ∧
      (state.makeRoom config).retryTimers.size < config.retryCap := by
  rw [WebhookDelivery.makeRoom]
  split
  · rename_i full
    cases last : state.retryTimers.entries.getLast? with
    | none =>
        have empty : state.retryTimers.size = 0 :=
          congrArg List.length (List.getLast?_eq_none_iff.mp last)
        have room := one_le_retryCap config
        omega
    | some entry =>
        rcases entry with ⟨timer, job, attempt⟩
        have found := InsertionMap.get?_eq_some_iff.mpr (List.mem_of_getLast? last)
        have smaller := InsertionMap.size_delete_of_present found
        have within := slots.timers
        have room : (state.retryTimers.delete timer).size < config.retryCap := by omega
        exact ⟨{ slots with timers := room.le }, room⟩
  · rename_i room
    exact ⟨slots, Nat.lt_of_not_le room⟩

theorem setRetryTimer (job : Job Event) (attempt : Nat)
    (room : state.retryTimers.size < config.retryCap) (slots : Slots config state between) :
    Slots config (state.setRetryTimer job attempt) between :=
  { slots with
    timers := by
      have grown : (state.retryTimers.set state.timerSeq (job, attempt)).size ≤
          state.retryTimers.size + 1 := by
        cases found : state.retryTimers.get? state.timerSeq with
        | none => exact (InsertionMap.size_set_of_absent found).le
        | some old => exact (InsertionMap.size_set_of_present found).le.trans (Nat.le_succ _)
      exact grown.trans room }

theorem emitFailure (job : Job Event) (error : String) (attempt : Nat)
    (slots : Slots config state between) :
    Slots config (state.emitFailure job error attempt) between :=
  { slots with }

theorem emitDropped (job : Job Event) (made : Nat) (slots : Slots config state between) :
    Slots config (state.emitDropped job made) between :=
  { slots with }

theorem cut (job : Job Event) (made : Nat) (slots : Slots config state between) :
    Slots config (state.cut job made) between :=
  { slots with }

theorem afterAttempt {now : Nat} {result : Except AttemptFailure Unit}
    (slots : Slots config state (slot driver.isFirst + between)) :
    Slots config (state.afterAttempt config driver job attempt now result) between := by
  cases result with
  | ok done => exact slots.finishDelivery
  | error failure =>
      rw [WebhookDelivery.afterAttempt]
      split
      · exact (slots.cut job attempt).finishDelivery
      · split
        · split
          · exact push (.sizing driver job (attempt + 1) failure.error _) (slots.ask (.size now))
          · rcases slots.makeRoom with ⟨roomy, room⟩
            exact (roomy.setRetryTimer job (attempt + 1) room).finishDelivery
        · exact (slots.emitFailure job failure.error attempt).finishDelivery

theorem afterPolledAttempt (record : Record Event) (delay : Option Millis) (now : Nat)
    (result : Except AttemptFailure Unit) (slots : Slots config state between) :
    Slots config (state.afterPolledAttempt config record delay now result) between := by
  have acknowledged : ∀ failure : Option (Job Event × String × Nat),
      Slots config ({ (state.ask config (.ack record.id)).2 with
        acknowledged := state.acknowledged ++ [record] }.push
          (.polled (state.ask config (.ack record.id)).1 failure)) between := by
    intro failure
    have asked := slots.ask (.ack record.id)
    rw [← Nat.zero_add between] at asked
    exact push (.polled _ failure) { asked with }
  cases result with
  | ok done =>
      rw [WebhookDelivery.afterPolledAttempt]
      split
      · exact slots
      · exact acknowledged none
  | error failure =>
      rw [WebhookDelivery.afterPolledAttempt]
      split
      · exact slots.cut record.job record.attempt
      · split
        · have asked := slots.ask (.nack record.id delay now)
          rw [← Nat.zero_add between] at asked
          exact push (.putBack _) asked
        · exact acknowledged (some (record.job, failure.error, record.attempt))

/-! ### Persisting a retry -/

theorem enqueueRetry (job : Job Event) (attempt : Nat) (lastError : String) (now : Nat)
    (delay : Option Millis) (slots : Slots config state (slot driver.isFirst + between)) :
    Slots config (state.enqueueRetry config driver job attempt lastError now delay) between := by
  have counted : Slots config { state with retrySeq := state.retrySeq + 1 }
      (slot driver.isFirst + between) := { slots with }
  exact push (.enqueueing driver job attempt _)
    (counted.ask (.enqueue (state.retryRecord job attempt lastError now delay)))

theorem afterSize (job : Job Event) (attempt : Nat) (lastError : String) (now : Nat)
    (delay : Option Millis) (answer : Answer (Dispatched Event) Unit)
    (slots : Slots config state (slot driver.isFirst + between)) :
    Slots config (state.afterSize config driver job attempt lastError now delay answer)
      between := by
  rw [WebhookDelivery.afterSize.eq_def]
  split
  · split
    · exact push (.evicting driver job attempt lastError _) (slots.ask .evictNewest)
    · exact slots.enqueueRetry job attempt lastError now delay
  · exact slots.throwDelivery

theorem afterEvict (job : Job Event) (attempt : Nat) (lastError : String) (now : Nat)
    (delay : Option Millis) (answer : Answer (Dispatched Event) Unit)
    (slots : Slots config state (slot driver.isFirst + between)) :
    Slots config (state.afterEvict config driver job attempt lastError now delay answer)
      between := by
  rw [WebhookDelivery.afterEvict.eq_def]
  split
  · exact (slots.emitDropped _ _).enqueueRetry job attempt lastError now delay
  · exact slots.enqueueRetry job attempt lastError now delay
  · exact slots.throwDelivery

theorem afterEnqueue (job : Job Event) (attempt : Nat) (answer : Answer (Dispatched Event) Unit)
    (slots : Slots config state (slot driver.isFirst + between)) :
    Slots config (state.afterEnqueue config driver job attempt answer) between := by
  rw [WebhookDelivery.afterEnqueue.eq_def]
  split
  · exact finishDelivery { slots with }
  · exact slots.throwDelivery

theorem drainDueRetries (nowMs : Millis) (slots : Slots config state between) :
    Slots config (state.drainDueRetries config nowMs) between := by
  rw [WebhookDelivery.drainDueRetries]
  split
  · exact slots
  · have asked := slots.ask (.dequeue nowMs)
    rw [← Nat.zero_add between] at asked
    exact push (.dequeuing nowMs _) asked

/-! ### Dispatching -/

theorem dispatchDelivery (job : Job Event) (slots : Slots config state between) :
    Slots config (state.dispatchDelivery config job) between := by
  rw [WebhookDelivery.dispatchDelivery]
  split
  · exact slots
  · dsimp only
    split
    · rename_i full
      exact { slots with busy := fun _ => full }
    · rename_i free
      apply doAttempt job 1
      exact { slots with
        counted := by
          have counted := slots.counted
          simp only [slot, Driver.isFirst, firstCalls, Bool.toNat_true] at counted ⊢
          omega
        capped := Nat.lt_of_not_le free
        busy := fun waits => (slots.busy waits).trans (Nat.le_succ _) }

theorem dispatchAll (object : Nat) (event : Event) (urls : List String)
    (slots : Slots config state between) :
    Slots config (dispatchAll config object event urls state) between := by
  induction urls generalizing state with
  | nil => exact slots
  | cons url urls induction => exact induction (slots.dispatchDelivery _)

theorem handleWatcherEvent (object : Nat) (event : Event) (slots : Slots config state between) :
    Slots config (state.handleWatcherEvent config object event) between := by
  rw [WebhookDelivery.handleWatcherEvent]
  split
  · exact slots
  · exact slots.dispatchAll object event config.urls

theorem drainOverflow {overflow : List (Job Event)} (same : state.overflowQueue = overflow)
    (counted : state.activeDeliveries = state.firstCalls + between)
    (capped : state.activeDeliveries ≤ config.deliveryCap)
    (timers : state.retryTimers.size ≤ config.retryCap) :
    Slots config (drainOverflow config overflow state) between := by
  induction overflow generalizing state with
  | nil => exact ⟨counted, capped, fun waits => absurd same waits, timers⟩
  | cons job rest induction =>
      rw [WebhookDelivery.drainOverflow]
      split
      · rename_i free
        apply induction
        · exact doAttempt_overflowQueue _ _ _ _ _
        · rw [doAttempt_activeDeliveries, firstCalls_doAttempt, Nat.add_assoc]
          exact (congrArg (· + 1) counted).trans (Nat.add_comm _ 1)
        · rw [doAttempt_activeDeliveries]
          exact free
        · rw [doAttempt_retryTimers]
          exact timers
      · rename_i full
        exact ⟨counted, capped, fun _ => Nat.le_of_not_lt full, timers⟩

/-! ### Steps -/

theorem stop (slots : Slots config state between) : Slots config state.stop between := by
  rw [WebhookDelivery.stop]
  split
  · exact slots
  · exact { slots with timers := Nat.zero_le _ }

theorem take {index : Nat} (found : state.tasks[index]? = some task)
    (slots : Slots config state between) :
    Slots config { state with tasks := state.tasks.eraseIdx index }
      (slot task.isFirst + between) :=
  { slots with
    counted := by
      rcases List.getElem?_eq_some_iff.mp found with ⟨inside, rfl⟩
      have taken := (List.getElem_cons_eraseIdx_perm inside).countP_eq Task.isFirst
      have counted := slots.counted
      rw [firstCalls, ← taken, List.countP_cons] at counted
      rw [firstCalls, counted]
      dsimp only
      cases Task.isFirst state.tasks[index] with
      | true =>
          simp only [slot, Bool.toNat_true, if_true]
          omega
      | false =>
          simp only [slot, Bool.toNat_false, Bool.false_eq_true, if_false]
          omega }

theorem resume {input : Input} (slots : Slots config state (slot task.isFirst + between))
    (resumes : state.resume config task input = some next) : Slots config next between := by
  have other : slot task.isFirst = 0 → Slots config state between := by
    intro none
    rw [none, Nat.zero_add] at slots
    exact slots
  rw [WebhookDelivery.resume.eq_def] at resumes
  split at resumes
  · cases resumes
    exact (other rfl).cut _ _
  · cases resumes
    exact (slots.cut _ _).finishDelivery
  · cases resumes
    exact (other rfl).afterPolledAttempt _ _ _ _
  · cases resumes
    exact slots.afterAttempt
  · rcases Option.map_eq_some_iff.mp resumes with ⟨continued, continues, rfl⟩
    exact push (.attempting _ _ _ _) (slots.continueAttempt (continues_of_continueAttempt continues))
  · cases resumes
    exact slots.afterSize _ _ _ _ _ _
  · cases resumes
    exact slots.afterEvict _ _ _ _ _ _
  · cases resumes
    exact slots.afterEnqueue _ _ _
  · cases resumes
    apply drainOverflow rfl
    · have counted := slots.counted
      simp only [slot, Task.isFirst, firstCalls, Bool.toNat_true] at counted ⊢
      omega
    · exact (Nat.sub_le _ _).trans slots.capped
    · exact slots.timers
  · cases resumes
    apply doAttempt
    exact slots
  · cases resumes
    exact other rfl
  · cases resumes
    exact (other rfl).drainDueRetries _
  · cases resumes
    exact other rfl
  · split at resumes
    · cases resumes
      exact (other rfl).cut _ _
    · cases resumes
      apply doAttempt
      exact slots
  · cases resumes
    exact other rfl
  · cases resumes
    exact (other rfl).emitFailure _ _ _
  · cases resumes
    exact other rfl
  · cases resumes
    exact other rfl
  · cases resumes

theorem step {event : DeliveryEvent Event} (slots : Slots config state 0)
    (taken : state.step config event = some next) : Slots config next 0 := by
  cases event with
  | emitted object event =>
      cases taken
      exact slots.handleWatcherEvent object event
  | resume index input =>
      rcases step_resume taken with ⟨task, found, resumes⟩
      exact (slots.take found).resume resumes
  | retryTimerFired timer =>
      rcases step_retryTimerFired taken with ⟨job, attempt, found, rfl⟩
      apply doAttempt
      have fewer := InsertionMap.size_delete_of_present found
      have within := slots.timers
      have fits : (state.retryTimers.delete timer).size ≤ config.retryCap := by omega
      exact { slots with timers := fits }
  | drainTimerFired timer nowMs =>
      rcases step_drainTimerFired taken with ⟨-, rfl⟩
      exact drainDueRetries nowMs { slots with }
  | pollerTicked nowMs =>
      rcases step_pollerTicked taken with ⟨-, rfl⟩
      exact push (.polling _) (slots.ask (.dequeue nowMs))
  | drainCalled nowMs =>
      cases taken
      exact slots.drainDueRetries nowMs
  | stopCalled =>
      cases taken
      exact slots.stop
  | watcherStopped =>
      cases taken
      exact stop { slots with }
  | restarted =>
      cases taken
      exact ⟨rfl, Nat.zero_le _, fun waits => absurd rfl waits, Nat.zero_le _⟩

theorem initial (config : WebhookConfig Event Queue) (queue : Queue) :
    Slots config (WebhookDelivery.initial config queue) 0 :=
  ⟨rfl, Nat.zero_le _, fun waits => absurd rfl waits, Nat.zero_le _⟩

end Slots

end WebhookDelivery

end Orbital.PulseWebhooks
