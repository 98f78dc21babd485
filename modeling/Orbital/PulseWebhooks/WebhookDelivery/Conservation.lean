import Orbital.PulseWebhooks.WebhookDelivery.Accounting
import Orbital.PulseWebhooks.WebhookDelivery.History
import Orbital.PulseWebhooks.WebhookDelivery.Slots

/-! # Deliveries, with a retry queue and without one -/

/-! ## Attempts with a retry queue

Each dispatched event and URL is tried up to `retries` times, one attempt after the other,
and the last failure is dead-lettered. The poller breaks this: it puts a record back with
the attempt that has just failed.
-/

namespace Orbital.PulseWebhooks

open Foundation

variable {Event Queue : Type}

namespace WebhookDelivery

instance (config : WebhookConfig Event Queue) (reliable : Option (ReliableQueue Event Queue))
    (state : WebhookDelivery Event Queue) (delay : Option Millis) (task : Task Event) :
    Decidable (RegularTask config reliable state delay task) :=
  match task with
  | .attempting (.poller _) _ _ (.returned (.error _)) => inferInstanceAs (Decidable (_ ∨ _ ∨ _))
  | .attempting (.poller _) _ _ (.returned (.ok _)) | .attempting (.poller _) _ _ .refused
  | .attempting (.poller _) _ _ .validating | .attempting (.poller _) _ _ .resolving
  | .attempting (.poller _) _ _ .fetching | .attempting .first _ _ _
  | .attempting .retryTimer _ _ _ | .attempting (.drain _ _) _ _ _ => .isTrue trivial
  | .sizing _ _ _ _ _ => inferInstanceAs (Decidable (_ = true))
  | .evicting _ _ _ _ _ => inferInstanceAs (Decidable (_ = true))
  | .drained nowMs _ => inferInstanceAs (Decidable (InTime reliable state.queue nowMs))
  | .enqueueing _ _ _ _ | .settled | .dequeuing _ _ | .polling _ | .polled _ _ | .putBack _ =>
      .isTrue trivial

instance (config : WebhookConfig Event Queue) (reliable : Option (ReliableQueue Event Queue))
    (state : WebhookDelivery Event Queue) (event : DeliveryEvent Event) :
    Decidable (Regular config reliable state event) :=
  match event with
  | .resume _ (.proceed _ _) => inferInstanceAs (Decidable (∀ task ∈ _, RegularTask _ _ _ _ task))
  | .resume _ (.validated _) | .resume _ (.resolved _) | .resume _ (.responded _) => .isTrue trivial
  | .drainTimerFired _ nowMs => inferInstanceAs (Decidable (InTime reliable state.queue nowMs))
  | .pollerTicked nowMs => inferInstanceAs (Decidable (InTime reliable state.queue nowMs))
  | .drainCalled nowMs => inferInstanceAs (Decidable (InTime reliable state.queue nowMs))
  | .stopCalled => inferInstanceAs (Decidable (_ = true))
  | .watcherStopped => inferInstanceAs (Decidable (_ = true))
  | .restarted => .isFalse id
  | .emitted _ _ | .retryTimerFired _ => .isTrue trivial

variable {config : WebhookConfig Event Queue} {queueIs : ReliableQueue Event Queue}
  {state : WebhookDelivery Event Queue}

theorem attemptLimit_of_retried (retried : 1 ≤ config.retries) :
    (config.attemptLimit : Int) = config.retries := by
  rw [WebhookConfig.attemptLimit]
  omega

theorem lt_attemptLimit {attempt : Nat} (allowed : config.Allows attempt) :
    attempt - 1 < config.attemptLimit := by
  have first := allowed.1
  have last := allowed.2
  omega

theorem Sound.exhausted {job : Job Event} {count : Nat}
    (sound : Sound config (some queueIs) state [])
    (held : (job, count) ∈ state.held (some queueIs)) (all : config.attemptLimit ≤ count) :
    (job, count) ∈ state.tasks.flatMap Task.held ∨ (job, count) ∈ state.delivered ∨
      (∃ letter ∈ state.deadLetters, letter.job = job ∧ letter.made = count) ∨
      (state.watcherStopped = true ∧ (job, count) ∈ state.cutShort) := by
  have positive : 1 ≤ config.attemptLimit := (allows_one config).2
  rcases List.mem_append.mp held with held | isCut
  · rcases List.mem_append.mp held with held | isDead
    · rcases List.mem_append.mp held with held | isDelivered
      · rcases List.mem_append.mp held with held | waits
        · rcases List.mem_append.mp held with held | isTimed
          · rcases List.mem_append.mp held with overflows | underWay
            · rcases List.mem_map.mp overflows with ⟨other, -, same⟩
              cases same
              omega
            · exact .inl underWay
          · rcases List.mem_map.mp isTimed with ⟨timer, member, same⟩
            cases same
            have left := lt_attemptLimit (sound.timers timer member)
            omega
        · rcases List.mem_map.mp waits with ⟨record, member, same⟩
          cases same
          have left := lt_attemptLimit (sound.records record member).1
          omega
      · exact .inr (.inl isDelivered)
    · rcases List.mem_map.mp isDead with ⟨letter, member, same⟩
      cases same
      exact .inr (.inr (.inl ⟨letter, member, rfl, rfl⟩))
  · cases stopped : state.watcherStopped with
    | false =>
        rw [sound.uncut stopped] at isCut
        cases isCut
    | true => exact .inr (.inr (.inr ⟨rfl, isCut⟩))

/-- In every run in which the poller puts no record back, the backoffs are finite and no
record runs out of its time, an event and URL is attempted at most `retries` times, with
the attempts counted from 1, and a delivery all of whose attempts failed is dead-lettered. -/
theorem attempts_are_bounded (queueIs : ReliableQueue Event Queue)
    (config : WebhookConfig Event Queue) (uses : config.retryQueue = some queueIs.machine)
    (retried : 1 ≤ config.retries) {queue : Queue} (valid : queueIs.Valid queue)
    (empty : queueIs.queued queue = []) {events : List (DeliveryEvent Event)}
    {final : WebhookDelivery Event Queue}
    (trace : Trace (Guarded (Regular config (some queueIs)) (Steps config))
      (initial config queue) events final) :
    (∀ entry ∈ final.attempts, entry.1.number ∈ final.dispatched.map Job.number) ∧
    ∀ job ∈ final.dispatched, ∃ count : Nat, count ≤ config.retries ∧
      triesOf Job.number final.attempts job.number = List.range' 1 count ∧
      (count = config.retries →
        (job, count) ∈ final.tasks.flatMap Task.held ∨ (job, count) ∈ final.delivered ∨
        (∃ letter ∈ final.deadLetters, letter.job = job ∧ letter.made = count) ∨
        (final.watcherStopped = true ∧ (job, count) ∈ final.cutShort)) := by
  have start : Sound config (some queueIs) (initial config queue) [] := by
    apply Sound.initial
    · intro used same
      cases same
      exact valid
    · exact empty
  have sound := start.run uses trace
  have limit := attemptLimit_of_retried retried
  refine ⟨sound.accounted.logged, ?_⟩
  intro job member
  rcases sound.accounted.tries member with ⟨count, within, held, tried⟩
  refine ⟨count, ?_, tried, ?_⟩
  · rw [← limit]
    exact Int.ofNat_le.mpr within
  · intro all
    apply sound.exhausted held
    rw [← limit] at all
    exact (Int.ofNat.inj all).ge

/-! ## A drained and a polled delivery -/

theorem drained_is_dead_lettered :
    ∃ final : WebhookDelivery Unit (MemoryRetryQueue (Dispatched Unit) Unit),
      Trace (Guarded (Regular threeAttempts (some overMemory)) (Steps threeAttempts))
        (initial threeAttempts .empty) drainedToTheEnd final ∧
      final.deadLetters.map DeadLetter.made = [3] ∧
      ∀ job ∈ final.dispatched, ∃ count : Nat, count ≤ threeAttempts.retries ∧
        triesOf Job.number final.attempts job.number = List.range' 1 count := by
  have ran : ∃ final ∈ runEvents (fun state event =>
      if Regular threeAttempts (some overMemory) state event then step threeAttempts state event
      else none) (initial threeAttempts .empty) drainedToTheEnd,
      final.deadLetters.map DeadLetter.made = [3] := by
    decide +kernel
  rcases ran with ⟨final, isRun, dead⟩
  have trace := trace_of_runGuarded isRun
  refine ⟨final, trace, dead, ?_⟩
  intro job member
  have valid : overMemory.Valid .empty := MemoryRetryQueue.contents_empty
  rcases (attempts_are_bounded overMemory threeAttempts rfl (by decide) valid rfl trace).2 job
    member with ⟨count, within, tried, -⟩
  exact ⟨count, within, tried⟩

def polledAndPutBack (now : Nat) : List (DeliveryEvent Unit) :=
  .pollerTicked now :: .resume 0 (.proceed now none) :: fails now 1000 ++
    [.resume 0 (.proceed now none)]

/-- The poller makes the second attempt three times. With the first one there are more than
`retries` attempts, and the delivery waits for yet another. -/
theorem polled_is_tried_again :
    ∃ final : WebhookDelivery Unit (MemoryRetryQueue (Dispatched Unit) Unit),
      Trace (Steps threeAttempts) (initial threeAttempts .empty)
        (.emitted 0 () :: failsAndPersists 0 1000 ++ polledAndPutBack 1000 ++
          polledAndPutBack 2000 ++ polledAndPutBack 3000) final ∧
      triesOf Job.number final.attempts 0 = [1, 2, 2, 2] ∧
      threeAttempts.retries < (triesOf Job.number final.attempts 0).length ∧
      final.deadLetters.map DeadLetter.made = [] := by
  have ran : ∃ final ∈ runEvents (step threeAttempts) (initial threeAttempts .empty)
      (.emitted 0 () :: failsAndPersists 0 1000 ++ polledAndPutBack 1000 ++
        polledAndPutBack 2000 ++ polledAndPutBack 3000),
      triesOf Job.number final.attempts 0 = [1, 2, 2, 2] ∧
        final.deadLetters.map DeadLetter.made = [] := by
    decide +kernel
  rcases ran with ⟨final, isRun, tried, none⟩
  refine ⟨final, trace_of_runEvents isRun, tried, ?_, none⟩
  rw [tried]
  decide

end WebhookDelivery

end Orbital.PulseWebhooks

/-! ## Deliveries without a retry queue

While such a delivery is not stopped, every dispatched event and URL is in one place, and
the two caps hold.
-/

namespace Orbital.PulseWebhooks

open Foundation

variable {Event Queue : Type}

namespace WebhookDelivery

def places (state : WebhookDelivery Event Queue) : List (Job Event) :=
  state.overflowQueue ++ (state.tasks.flatMap Task.held).map Prod.fst ++
    state.retryTimers.values.map Prod.fst ++ state.delivered.map Prod.fst ++
    state.deadLetters.map DeadLetter.job

structure Conserved (config : WebhookConfig Event Queue) (state : WebhookDelivery Event Queue) :
    Prop where
  once : state.places.Perm state.dispatched
  distinct : (state.dispatched.map Job.number).Nodup
  tried : ∀ job ∈ state.dispatched, ∃ count ≤ config.attemptLimit,
    triesOf Job.number state.attempts job.number = List.range' 1 count
  timers : state.retryTimers.size ≤ config.retryCap
  active : state.activeDeliveries = state.firstCalls
  capped : state.activeDeliveries ≤ config.deliveryCap
  busy : state.overflowQueue ≠ [] → state.activeDeliveries = config.deliveryCap

variable {config : WebhookConfig Event Queue} {state : WebhookDelivery Event Queue}

/-- Without a queue every step is a regular one, up to the stops. -/
theorem regular_of_unqueued {event : DeliveryEvent Event}
    (unqueued : config.retryQueue = none) (runs : ¬ event.Halts)
    (sound : Sound config none state []) : Regular config none state event := by
  have unused : ¬ config.retryQueue.isSome = true := by
    rw [unqueued]
    exact Bool.false_ne_true
  have inTime : ∀ nowMs, InTime (none : Option (ReliableQueue Event Queue)) state.queue nowMs := by
    intro nowMs queueIs member
    cases member
  cases event with
  | emitted object event => trivial
  | resume index input =>
      cases input with
      | validated outcome | resolved addresses | responded error => trivial
      | proceed now delay =>
          intro task member
          have sane := sound.tasks task (List.mem_of_getElem? (Option.mem_def.mp member))
          rw [RegularTask.eq_def]
          split
          · exact absurd (sane.2.1 _ rfl).1 unused
          · exact absurd sane.2.1 unused
          · exact absurd sane.2.1 unused
          · exact inTime _
          · trivial
  | retryTimerFired timer => trivial
  | drainTimerFired timer nowMs => exact inTime nowMs
  | pollerTicked nowMs => exact inTime nowMs
  | drainCalled nowMs => exact inTime nowMs
  | stopCalled | watcherStopped | restarted => exact absurd trivial runs

theorem held_places (nothingCut : state.cutShort = []) :
    (state.held none).map Prod.fst = state.places := by
  rw [held, places, nothingCut]
  simp [waiting, queuedRecords, Function.comp_def]

structure Kept (config : WebhookConfig Event Queue) (state : WebhookDelivery Event Queue) :
    Prop where
  sound : Sound config none state []
  slots : Slots config state 0
  running : state.watcherStopped = false

theorem Kept.step {event : DeliveryEvent Event} {next : WebhookDelivery Event Queue}
    (unqueued : config.retryQueue = none) (kept : Kept config state) (runs : ¬ event.Halts)
    (taken : state.step config event = some next) : Kept config next where
  sound := kept.sound.step unqueued (regular_of_unqueued unqueued runs kept.sound) taken
  slots := kept.slots.step taken
  running := (onward_of_step runs taken).watcherStopped.trans kept.running

theorem Kept.conserved (kept : Kept config state) : Conserved config state where
  once := by
    have perm := kept.sound.accounted.perm
    rw [List.nil_append, held_places (kept.sound.uncut kept.running)] at perm
    exact perm
  distinct := kept.sound.accounted.distinct
  tried := by
    intro job member
    rcases kept.sound.accounted.tries member with ⟨count, within, -, tried⟩
    exact ⟨count, within, tried⟩
  timers := kept.slots.timers
  active := kept.slots.counted
  capped := kept.slots.capped
  busy := fun waits => le_antisymm kept.slots.capped (kept.slots.busy waits)

/-- Every run of a delivery without a retry queue that is not stopped keeps each dispatched
event and URL in one place, tries it at most `retries` times and at least once, and stays
within the caps. -/
theorem dispatched_is_conserved (config : WebhookConfig Event Queue) (queue : Queue)
    (unqueued : config.retryQueue = none) {events : List (DeliveryEvent Event)}
    {final : WebhookDelivery Event Queue}
    (trace : Trace (Guarded (fun _ event => ¬ event.Halts) (Steps config))
      (initial config queue) events final) :
    Conserved config final := by
  have start : Kept config (initial config queue) :=
    { sound := .initial config none (fun _ none => by cases none) rfl
      slots := .initial config queue
      running := rfl }
  have kept := trace.invariant (motive := Kept config)
    (fun _ _ _ kept guarded => kept.step unqueued guarded.1 guarded.2) start
  exact kept.conserved

def retried : List (DeliveryEvent Unit) :=
  [.emitted 0 (), .resume 0 (.resolved (some ["203.0.113.1"])),
    .resume 0 (.responded (some "HTTP 500")), .resume 0 (.proceed 0 (some 1000)),
    .resume 0 (.proceed 0 none), .retryTimerFired 0,
    .resume 1 (.resolved (some ["203.0.113.1"])), .resume 1 (.responded none)]

theorem retried_is_conserved :
    ∃ final : WebhookDelivery Unit Unit,
      Trace (Guarded (fun _ event => ¬ event.Halts) (Steps .oneSlot)) (initial .oneSlot ()) retried
        final ∧
      Conserved .oneSlot final ∧ final.attempts.map Prod.snd = [1, 1, 2] := by
  have trace : Trace (Guarded (fun _ event => ¬ event.Halts) (Steps .oneSlot)) (initial .oneSlot ())
      retried _ := trace_of_runGuarded rfl
  exact ⟨_, trace, dispatched_is_conserved .oneSlot () rfl trace, rfl⟩

/-- Without retries there is one attempt nevertheless. -/
theorem tried_without_retries :
    ∃ final : WebhookDelivery Unit Unit,
      Trace (Guarded (fun _ event => ¬ event.Halts)
        (Steps (WebhookConfig.withDefaults ["first"] 0 none)))
        (initial (WebhookConfig.withDefaults ["first"] 0 none) ()) [.emitted 0 ()] final ∧
      final.dispatched.map Job.number = [0] ∧
      (WebhookConfig.withDefaults ["first"] 0 none : WebhookConfig Unit Unit).retries <
        (triesOf Job.number final.attempts 0).length :=
  ⟨_, trace_of_runGuarded rfl, rfl, by decide⟩

end WebhookDelivery

end Orbital.PulseWebhooks
