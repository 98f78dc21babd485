import Orbital.PulseWebhooks.RedisRefinement
import Orbital.PulseWebhooks.WebhookDelivery.Operations
import Orbital.PulseWebhooks.WebhookDelivery.ReliableQueue

/-! # `x-orbital-delivery-id`

The ids are kept by the event object and the URL. As long as a retry carries the object
that was dispatched, every request for it has the same id and no other request has it.
-/

namespace Orbital.PulseWebhooks

open Foundation

variable {Event Queue : Type}

namespace WebhookDelivery

structure Identified (state : WebhookDelivery Event Queue) : Prop where
  overflow : ∀ job ∈ state.overflowQueue, job ∈ state.dispatched
  timers : ∀ timer ∈ state.retryTimers.values, timer.1 ∈ state.dispatched
  tasks : ∀ task ∈ state.tasks, ∀ job ∈ task.job, job ∈ state.dispatched
  numbered : ∀ job ∈ state.dispatched, state.dispatched[job.number]? = some job
  drawn : ∀ {key id}, state.deliveryIds.get? key = some id → id < state.uuids
  distinct : ∀ {key key' id}, state.deliveryIds.get? key = some id →
    state.deliveryIds.get? key' = some id → key = key'
  requests : ∀ request ∈ state.requests, request.job ∈ state.dispatched ∧
    state.deliveryIds.get? request.job.key = some request.deliveryId

variable {config : WebhookConfig Event Queue} {state next : WebhookDelivery Event Queue}

namespace Identified

theorem push {task : Task Event} (known : ∀ job ∈ task.job, job ∈ state.dispatched)
    (identified : Identified state) : Identified (state.push task) :=
  { identified with
    tasks := by
      intro other member
      rcases List.mem_append.mp member with old | new
      · exact identified.tasks other old
      · rw [List.mem_singleton.mp new]
        exact known }

theorem ask (call : Call (Dispatched Event) Unit) (identified : Identified state) :
    Identified (state.ask config call).2 := by
  rw [WebhookDelivery.ask]
  split
  · exact identified
  · exact { identified with }

variable {job : Job Event} {attempt : Nat}

theorem doAttempt {driver : Driver Event} (known : job ∈ state.dispatched)
    (identified : Identified state) : Identified (state.doAttempt config driver job attempt) := by
  have ofTask : ∀ other ∈ some job, other ∈ state.dispatched := by
    intro other same
    cases same
    exact known
  rw [WebhookDelivery.doAttempt]
  split
  · exact push ofTask identified
  · dsimp only
    split
    · exact push ofTask { identified with }
    · exact push ofTask { identified with }

theorem sendRequest (known : job ∈ state.dispatched) (identified : Identified state) :
    Identified (state.sendRequest job attempt) := by
  rw [WebhookDelivery.sendRequest]
  cases found : state.deliveryIds.get? job.key with
  | some deliveryId =>
      exact { identified with
        requests := by
          intro request member
          rcases List.mem_append.mp member with old | new
          · exact identified.requests request old
          · rw [List.mem_singleton.mp new]
            exact ⟨known, found⟩ }
  | none =>
      have kept : ∀ {key id}, state.deliveryIds.get? key = some id →
          (state.deliveryIds.set job.key state.uuids).get? key = some id := by
        intro key id isFound
        have other : key ≠ job.key := by
          intro same
          rw [same, found] at isFound
          cases isFound
        rw [InsertionMap.get?_set, if_neg other]
        exact isFound
      have newOrOld : ∀ {key id},
          (state.deliveryIds.set job.key state.uuids).get? key = some id →
          key = job.key ∧ id = state.uuids ∨ state.deliveryIds.get? key = some id := by
        intro key id isFound
        rw [InsertionMap.get?_set] at isFound
        split at isFound
        · rename_i same
          cases isFound
          exact .inl ⟨same, rfl⟩
        · exact .inr isFound
      exact { identified with
        drawn := by
          intro key id isFound
          rcases newOrOld isFound with ⟨-, rfl⟩ | old
          · exact Nat.lt_succ_self _
          · exact Nat.lt_succ_of_lt (identified.drawn old)
        distinct := by
          intro key key' id isFound isFound'
          rcases newOrOld isFound with ⟨rfl, rfl⟩ | old
          · rcases newOrOld isFound' with ⟨rfl, -⟩ | old'
            · rfl
            · exact absurd (identified.drawn old') (Nat.lt_irrefl _)
          · rcases newOrOld isFound' with ⟨rfl, rfl⟩ | old'
            · exact absurd (identified.drawn old) (Nat.lt_irrefl _)
            · exact identified.distinct old old'
        requests := by
          intro request member
          rcases List.mem_append.mp member with old | new
          · rcases identified.requests request old with ⟨isKnown, isFound⟩
            exact ⟨isKnown, kept isFound⟩
          · rw [List.mem_singleton.mp new]
            exact ⟨known, InsertionMap.get?_set_same _ _ _⟩ }

/-! ### Retry timers -/

theorem deleteTimer (timer : Nat) (identified : Identified state) :
    Identified { state with retryTimers := state.retryTimers.delete timer } :=
  { identified with
    timers := by
      intro other member
      rcases InsertionMap.mem_values_iff.mp member with ⟨key, isFound⟩
      rw [InsertionMap.get?_delete] at isFound
      split at isFound
      · cases isFound
      · exact identified.timers other (InsertionMap.mem_values_iff.mpr ⟨key, isFound⟩) }

theorem setRetryTimer (known : job ∈ state.dispatched) (identified : Identified state) :
    Identified (state.setRetryTimer job attempt) :=
  { identified with
    timers := by
      intro other member
      rcases InsertionMap.mem_values_iff.mp member with ⟨key, isFound⟩
      have isSet : (state.retryTimers.set state.timerSeq (job, attempt)).get? key = some other :=
        isFound
      rw [InsertionMap.get?_set] at isSet
      split at isSet
      · cases isSet
        exact known
      · exact identified.timers other (InsertionMap.mem_values_iff.mpr ⟨key, isSet⟩) }

/-! ### Behind an attempt -/

theorem times (config : WebhookConfig Event Queue) (jobs : List (Job Event)) :
    Times config (fun task => ∀ job ∈ task.job, job ∈ jobs)
      (fun state => Identified state ∧ state.dispatched = jobs) where
  jobless := by
    intro task none job isJob
    rw [none] at isJob
    cases isJob
  known := by
    intro task job works held other _ worksToo job' isJob
    rw [worksToo] at isJob
    cases isJob
    exact held job works
  push known holds := ⟨holds.1.push (holds.2 ▸ known), holds.2⟩
  ask := by
    intro state call holds
    refine ⟨holds.1.ask call, ?_⟩
    rw [WebhookDelivery.ask]
    split
    · exact holds.2
    · exact holds.2
  emitDropped _ _ holds := ⟨{ holds.1 with }, holds.2⟩
  count holds := ⟨{ holds.1 with }, holds.2⟩
  acknowledge _ holds := ⟨{ holds.1 with }, holds.2⟩
  cut _ _ holds := ⟨{ holds.1 with }, holds.2⟩
  continueAttempt := by
    rintro state driver job attempt stage continued known ⟨identified, rfl⟩ continues
    have isKnown : job ∈ state.dispatched := known job rfl
    cases continues with
    | resolves | fails failure waits => exact ⟨identified.push known, rfl⟩
    | sends =>
        have same : (state.sendRequest job attempt).dispatched = state.dispatched := by
          rw [WebhookDelivery.sendRequest]
          split <;> rfl
        exact ⟨push (same ▸ known) (identified.sendRequest isKnown), same⟩
    | delivers => exact ⟨push known { identified with }, rfl⟩
  emitFailure _ _ _ holds := ⟨{ holds.1 with }, holds.2⟩
  deleteTimer timer holds := ⟨holds.1.deleteTimer timer, holds.2⟩
  setRetryTimer := by
    rintro state job attempt known ⟨identified, rfl⟩
    exact ⟨identified.setRetryTimer (known (.enqueueing .first job attempt .settled) rfl rfl job rfl),
      rfl⟩
  enqueued _ holds := ⟨{ holds.1 with }, holds.2⟩

/-! ### Dispatching -/

theorem dispatchDelivery (numbered : job.number = state.dispatched.length)
    (identified : Identified state) : Identified (state.dispatchDelivery config job) := by
  have grows : state.dispatched ⊆ state.dispatched ++ [job] := List.subset_append_left _ _
  have isLast : job ∈ state.dispatched ++ [job] := List.mem_append_right _ List.mem_cons_self
  have accepted : Identified { state with dispatched := state.dispatched ++ [job] } :=
    { identified with
      overflow := fun other member => grows (identified.overflow other member)
      timers := fun timer member => grows (identified.timers timer member)
      tasks := fun task member other isJob => grows (identified.tasks task member other isJob)
      numbered := by
        intro other member
        rcases List.mem_append.mp member with old | new
        · have there := identified.numbered other old
          rw [List.getElem?_append_left (List.getElem?_eq_some_iff.mp there).1]
          exact there
        · rw [List.mem_singleton.mp new, numbered, List.getElem?_concat_length]
      requests := fun request member =>
        ⟨grows (identified.requests request member).1, (identified.requests request member).2⟩ }
  rw [WebhookDelivery.dispatchDelivery]
  split
  · exact identified
  · dsimp only
    split
    · exact { accepted with
        overflow := by
          intro other member
          rcases List.mem_append.mp member with old | new
          · exact accepted.overflow other old
          · rw [List.mem_singleton.mp new]
            exact isLast }
    · exact doAttempt isLast { accepted with }

theorem dispatchAll (object : Nat) (event : Event) (urls : List String)
    (identified : Identified state) : Identified (dispatchAll config object event urls state) := by
  induction urls generalizing state with
  | nil => exact identified
  | cons url urls induction => exact induction (identified.dispatchDelivery rfl)

theorem handleWatcherEvent (object : Nat) (event : Event) (identified : Identified state) :
    Identified (state.handleWatcherEvent config object event) := by
  rw [WebhookDelivery.handleWatcherEvent]
  split
  · exact identified
  · exact identified.dispatchAll object event config.urls

theorem drainOverflow {overflow : List (Job Event)} (same : state.overflowQueue = overflow)
    (identified : Identified state) : Identified (drainOverflow config overflow state) := by
  induction overflow generalizing state with
  | nil => exact identified
  | cons job rest induction =>
      rw [WebhookDelivery.drainOverflow]
      split
      · have waits := identified.overflow
        rw [same] at waits
        apply induction
        · exact doAttempt_overflowQueue _ _ _ _ _
        · have taken : Identified { state with
              overflowQueue := rest
              activeDeliveries := state.activeDeliveries + 1 } :=
            { identified with
              overflow := fun other member => waits other (List.mem_cons_of_mem _ member) }
          exact taken.doAttempt (waits job List.mem_cons_self)
      · exact identified

theorem drainDueRetries (config : WebhookConfig Event Queue) (nowMs : Millis)
    (identified : Identified state) : Identified (state.drainDueRetries config nowMs) :=
  ((times config state.dispatched).drainDueRetries nowMs ⟨identified, rfl⟩).1

end Identified

/-! ## Steps -/

def KeepsObject (state : WebhookDelivery Event Queue) : Task Event → Prop
  | .dequeuing _ (.record (some record)) | .polling (.record (some record)) =>
      record.job ∈ state.dispatched
  | _ => True

instance [DecidableEq Event] (state : WebhookDelivery Event Queue) (task : Task Event) :
    Decidable (KeepsObject state task) :=
  match task with
  | .dequeuing _ (.record (some _)) => inferInstanceAs (Decidable (_ ∈ _))
  | .dequeuing _ (.record none) => .isTrue trivial
  | .dequeuing _ .settled => .isTrue trivial
  | .dequeuing _ (.rejected _) => .isTrue trivial
  | .dequeuing _ (.count _) => .isTrue trivial
  | .polling (.record (some _)) => inferInstanceAs (Decidable (_ ∈ _))
  | .polling (.record none) => .isTrue trivial
  | .polling .settled => .isTrue trivial
  | .polling (.rejected _) => .isTrue trivial
  | .polling (.count _) => .isTrue trivial
  | .attempting _ _ _ _ => .isTrue trivial
  | .sizing _ _ _ _ _ => .isTrue trivial
  | .evicting _ _ _ _ _ => .isTrue trivial
  | .enqueueing _ _ _ _ => .isTrue trivial
  | .settled => .isTrue trivial
  | .drained _ _ => .isTrue trivial
  | .polled _ _ => .isTrue trivial
  | .putBack _ => .isTrue trivial

def KeepsObjects (state : WebhookDelivery Event Queue) : DeliveryEvent Event → Prop
  | .resume index (.proceed _ _) => ∀ task ∈ state.tasks[index]?, KeepsObject state task
  | .restarted => False
  | _ => True

instance [DecidableEq Event] (state : WebhookDelivery Event Queue) (event : DeliveryEvent Event) :
    Decidable (KeepsObjects state event) :=
  match event with
  | .resume _ (.proceed _ _) => inferInstanceAs (Decidable (∀ task ∈ _, KeepsObject _ task))
  | .resume _ (.validated _) | .resume _ (.resolved _) | .resume _ (.responded _) | .emitted _ _
  | .retryTimerFired _ | .drainTimerFired _ _ | .pollerTicked _ | .drainCalled _ | .stopCalled
  | .watcherStopped => .isTrue trivial
  | .restarted => .isFalse id

namespace Identified

theorem resume {task : Task Event} {input : Input}
    (known : ∀ job ∈ task.job, job ∈ state.dispatched)
    (keeps : ∀ now delay, input = .proceed now delay → KeepsObject state task)
    (identified : Identified state) (resumes : state.resume config task input = some next) :
    Identified next := by
  have times := times config state.dispatched
  have holds : Identified state ∧ state.dispatched = state.dispatched := ⟨identified, rfl⟩
  rw [WebhookDelivery.resume.eq_def] at resumes
  split at resumes
  · cases resumes
    exact { identified with }
  · cases resumes
    exact (times.finishDelivery _ (times.cut _ _ holds)).1
  · cases resumes
    exact (times.afterPolledAttempt _ _ _ _ holds).1
  · cases resumes
    exact (times.afterAttempt (times.known rfl known) _ _ _ _ holds).1
  · rcases Option.map_eq_some_iff.mp resumes with ⟨continued, continues, rfl⟩
    exact (times.continueAttempt known holds (continues_of_continueAttempt continues)).1
  · cases resumes
    exact (times.afterSize (times.known rfl known) _ _ _ _ _ _ holds).1
  · cases resumes
    exact (times.afterEvict (times.known rfl known) _ _ _ _ _ _ holds).1
  · cases resumes
    exact (times.afterEnqueue _ _ _ _ holds).1
  · cases resumes
    exact drainOverflow rfl { identified with }
  · cases resumes
    exact identified.doAttempt (keeps _ _ rfl)
  · cases resumes
    exact identified
  · cases resumes
    exact identified.drainDueRetries config _
  · cases resumes
    exact identified
  · split at resumes
    · cases resumes
      exact { identified with }
    · cases resumes
      exact identified.doAttempt (keeps _ _ rfl)
  · cases resumes
    exact identified
  · cases resumes
    exact { identified with }
  · cases resumes
    exact identified
  · cases resumes
    exact identified
  · cases resumes

theorem stop (identified : Identified state) : Identified state.stop := by
  rw [WebhookDelivery.stop]
  split
  · exact identified
  · exact { identified with timers := fun timer member => absurd member List.not_mem_nil }

theorem step {event : DeliveryEvent Event} (keeps : KeepsObjects state event)
    (identified : Identified state) (taken : state.step config event = some next) :
    Identified next := by
  cases event with
  | emitted object event =>
      cases taken
      exact identified.handleWatcherEvent object event
  | resume index input =>
      rcases step_resume taken with ⟨task, found, resumes⟩
      have without : Identified { state with tasks := state.tasks.eraseIdx index } :=
        { identified with
          tasks := fun other member => identified.tasks other (List.mem_of_mem_eraseIdx member) }
      refine without.resume ?_ ?_ resumes
      · exact identified.tasks task (List.mem_of_getElem? found)
      · intro now delay same
        subst same
        exact keeps task found
  | retryTimerFired timer =>
      rcases step_retryTimerFired taken with ⟨job, attempt, found, rfl⟩
      have known := identified.timers _ (InsertionMap.mem_values_iff.mpr ⟨timer, found⟩)
      exact (identified.deleteTimer timer).doAttempt known
  | drainTimerFired timer nowMs =>
      rcases step_drainTimerFired taken with ⟨-, rfl⟩
      exact drainDueRetries config nowMs { identified with }
  | pollerTicked nowMs =>
      rcases step_pollerTicked taken with ⟨-, rfl⟩
      exact push (fun job isJob => by cases isJob) (identified.ask (.dequeue nowMs))
  | drainCalled nowMs =>
      cases taken
      exact identified.drainDueRetries config nowMs
  | stopCalled =>
      cases taken
      exact identified.stop
  | watcherStopped =>
      cases taken
      exact stop { identified with }
  | restarted => exact absurd keeps id

theorem initial (config : WebhookConfig Event Queue) (queue : Queue) :
    Identified (WebhookDelivery.initial config queue) where
  overflow := fun _ none => absurd none List.not_mem_nil
  timers := fun _ none => absurd none List.not_mem_nil
  tasks := fun _ none => absurd none List.not_mem_nil
  numbered := fun _ none => absurd none List.not_mem_nil
  drawn := fun isFound => by cases isFound
  distinct := fun isFound => by cases isFound
  requests := fun _ none => absurd none List.not_mem_nil

end Identified

/-- In every run in which the records of the queue carry the event object that was
dispatched, and without a restart, all requests for one dispatched event and URL have the
same id, and requests for different ones have different ids. -/
theorem delivery_id_is_stable (config : WebhookConfig Event Queue) (queue : Queue)
    {events : List (DeliveryEvent Event)} {final : WebhookDelivery Event Queue}
    (trace : Trace (Guarded KeepsObjects (Steps config)) (initial config queue) events final) :
    ∀ request ∈ final.requests, request.job ∈ final.dispatched ∧
      ∀ other ∈ final.requests,
        (request.job.number = other.job.number → request.job = other.job) ∧
        (request.deliveryId = other.deliveryId ↔ request.job.key = other.job.key) := by
  have identified := trace.invariant (motive := Identified)
    (fun _ _ _ identified guarded => identified.step guarded.1 guarded.2)
    (Identified.initial config queue)
  intro request member
  rcases identified.requests request member with ⟨known, kept⟩
  refine ⟨known, ?_⟩
  intro other otherMember
  rcases identified.requests other otherMember with ⟨otherKnown, otherKept⟩
  refine ⟨?_, ?_, ?_⟩
  · intro same
    have first := identified.numbered request.job known
    rw [same, identified.numbered other.job otherKnown] at first
    exact (Option.some.inj first).symm
  · intro same
    rw [same] at kept
    exact identified.distinct kept otherKept
  · intro same
    rw [same, otherKept] at kept
    exact (Option.some.inj kept).symm

/-- `MemoryRetryQueue` copies the record and keeps the event object in it. -/
theorem in_memory_id_is_stable :
    ∃ final : WebhookDelivery Unit (MemoryRetryQueue (Dispatched Unit) Unit),
      Trace (Guarded KeepsObjects (Steps threeAttempts)) (initial threeAttempts .empty)
        drainedToTheEnd final ∧
      final.requests.map HttpRequest.attempt = [1, 2, 3] ∧
      ∀ request ∈ final.requests, ∀ other ∈ final.requests,
        request.deliveryId = other.deliveryId ↔ request.job.key = other.job.key := by
  have ran : ∃ final ∈ runEvents (fun state event =>
      if KeepsObjects state event then step threeAttempts state event else none)
      (initial threeAttempts .empty) drainedToTheEnd,
      final.requests.map HttpRequest.attempt = [1, 2, 3] := by
    decide +kernel
  rcases ran with ⟨final, isRun, sent⟩
  have trace := trace_of_runGuarded isRun
  refine ⟨final, trace, sent, ?_⟩
  intro request member other otherMember
  exact ((delivery_id_is_stable threeAttempts .empty trace request member).2 other otherMember).2

end WebhookDelivery

/-! ## A queue that writes its records -/

section Written

variable {Event' Metadata Time Member : Type} [LinearOrder Member]

def RetryRecord.withEvent (record : RetryRecord Event Metadata Time) (change : Event → Event') :
    RetryRecord Event' Metadata Time where
  id := record.id
  event := change record.event
  url := record.url
  attempt := record.attempt
  nextRetryAt := record.nextRetryAt
  lastError := record.lastError
  createdAt := record.createdAt
  metadata := record.metadata

def Call.withEvent (change : Event → Event') : Call Event Metadata → Call Event' Metadata
  | .enqueue record => .enqueue (record.withEvent change)
  | .dequeue nowMs => .dequeue nowMs
  | .ack recordId => .ack recordId
  | .nack recordId requeueDelayMs now => .nack recordId requeueDelayMs now
  | .evictNewest => .evictNewest
  | .size now => .size now

def Answer.withEvent (change : Event → Event') : Answer Event Metadata → Answer Event' Metadata
  | .settled => .settled
  | .rejected error => .rejected error
  | .record found => .record (found.map fun found => found.withEvent change)
  | .count size => .count size

/-- `RedisRetryQueue` as the queue of a delivery. Its records are written without the
identity of the event and read as new objects, the next of which comes with the queue. -/
def RedisRetryQueue.writing (codec : RecordCodec (Nat × Event) Unit Member)
    (visibilityTimeoutMs : Millis) : QueueMachine Event (RedisRetryQueue Member × Nat) where
  step := fun queue call =>
    let asked := (machine codec visibilityTimeoutMs).step queue.1
      (call.withEvent fun dispatched => (dispatched.number, dispatched.event))
    (asked.1.withEvent fun written =>
        { number := written.1, object := queue.2, event := written.2 },
      asked.2, queue.2 + 1)

end Written

namespace WebhookDelivery

abbrev WrittenFields :=
  String ×ₗ ℕ ×ₗ String ×ₗ ℕ ×ₗ Millis ×ₗ WithBot String ×ₗ WithBot Millis ×ₗ WithBot Unit

def writtenCodec : RecordCodec (Nat × Unit) Unit WrittenFields where
  stringify := fun record => toLex (record.id, toLex (record.event.1, toLex (record.url,
    toLex (record.attempt, toLex (record.nextRetryAt, toLex (record.lastError,
      toLex (record.createdAt, record.metadata)))))))
  parse := fun fields => some {
    id := fields.1
    event := (fields.2.1, ())
    url := fields.2.2.1
    attempt := fields.2.2.2.1
    nextRetryAt := fields.2.2.2.2.1
    lastError := fields.2.2.2.2.2.1
    createdAt := fields.2.2.2.2.2.2.1
    metadata := fields.2.2.2.2.2.2.2 }
  parse_stringify := fun _ => rfl

def overRedis : WebhookConfig Unit (RedisRetryQueue WrittenFields × Nat) :=
  WebhookConfig.withDefaults ["hook"] 3 (some (RedisRetryQueue.writing writtenCodec 30000))

def retriedFromRedis : List (DeliveryEvent Unit) :=
  .emitted 0 () :: failsAndPersists 0 1000 ++
    [.drainTimerFired 0 1000, .resume 0 (.proceed 1000 none),
      .resume 0 (.resolved (some ["203.0.113.1"]))]

/-- Both requests are for the one event and URL that was dispatched. -/
theorem retried_from_redis_changes_id :
    ∃ final : WebhookDelivery Unit (RedisRetryQueue WrittenFields × Nat),
      Trace (Steps overRedis) (initial overRedis (.empty, 1)) retriedFromRedis final ∧
      final.dispatched.map Job.number = [0] ∧
      final.requests.map (fun request => (request.job.number, request.attempt)) =
        [(0, 1), (0, 2)] ∧
      final.requests.map HttpRequest.deliveryId = [0, 1] := by
  have ran : ∃ final ∈ runEvents (step overRedis) (initial overRedis (.empty, 1))
      retriedFromRedis,
      final.dispatched.map Job.number = [0] ∧
      final.requests.map (fun request => (request.job.number, request.attempt)) =
        [(0, 1), (0, 2)] ∧
      final.requests.map HttpRequest.deliveryId = [0, 1] := by
    decide +kernel
  rcases ran with ⟨final, isRun, differs⟩
  exact ⟨final, trace_of_runEvents isRun, differs⟩

end WebhookDelivery

end Orbital.PulseWebhooks
