import Orbital.PulseCore.EventEngine.Subscriptions

/-! # When the Soroban subscriber runs

The engine starts its subscriber when it starts itself, once the network probe
has ended, and when a contract is subscribed to by id; it stops it when it stops
itself and with the last subscription by id.
-/

namespace Orbital.PulseCore.EventEngine

open Orbital.Foundation
open Orbital.PulseCore.SorobanSubscriber

variable {Value : Type}

namespace Engine

/-- The subscriber, if there is one, is started, with its poll timer armed, or
it is stopped, without one. -/
def PollerIs (running : Bool) (engine : Engine Value) : Prop :=
  ∀ poller, engine.sorobanSubscriber = some poller →
    poller.isRunning = running ∧ poller.pollTimer = running

/-- The `start` that started the engine still waits for the network probe. -/
def awaitsProbe (engine : Engine Value) : Bool :=
  engine.waitingStarts.contains engine.stopGeneration

def removesLast (engine : Engine Value) : Event Value → Bool
  | .unsubscribeContractId id =>
      engine.contractRegistry.size ≠ 0 &&
        (engine.unsubscribeContractId id).contractRegistry.size = 0
  | _ => false

/-- The subscriber is started while there is a subscription by id, and before
the last one was removed also without. -/
structure Lifecycle (lasting : Bool) (engine : Engine Value) : Prop where
  settled : ∃ running, PollerIs running engine
  stopped : engine.isRunning = false → PollerIs false engine
  started : engine.isRunning = true → engine.awaitsProbe = false →
    lasting = true ∨ engine.contractRegistry.size ≠ 0 → PollerIs true engine
  waiting : ∀ generation ∈ engine.waitingStarts, generation ≤ engine.stopGeneration
  current : engine.awaitsProbe = true → engine.isRunning = true

variable {lasting : Bool}

variable {engine next : Engine Value} {options : Options}

theorem Lifecycle.weaken (holds : Lifecycle true engine) : Lifecycle false engine :=
  { holds with started := fun running probed _ => holds.started running probed (.inl rfl) }

theorem initial_lifecycle (subscriber : Option (Subscriber Value)) :
    Lifecycle true (initial subscriber) := by
  have idle : PollerIs false (initial subscriber) := by
    intro poller configured
    rcases Option.map_eq_some_iff.mp configured with ⟨_, _, rfl⟩
    exact ⟨rfl, rfl⟩
  exact {
    settled := ⟨false, idle⟩
    stopped := fun _ => idle
    started := by
      intro running
      cases running
    waiting := by simp [initial]
    current := by simp [initial, awaitsProbe] }

/-! ## Starting and stopping the subscriber -/

theorem startSubscriber_pollerIs (settled : ∃ running, PollerIs running engine) :
    PollerIs true engine.startSubscriber := by
  intro poller configured
  rcases Option.map_eq_some_iff.mp configured with ⟨before, wasConfigured, rfl⟩
  rcases settled with ⟨running, isRunning⟩
  rcases isRunning before wasConfigured with ⟨flag, timer⟩
  rw [PollLoop.start]
  split
  · rename_i alreadyRunning
    rw [flag] at alreadyRunning
    subst alreadyRunning
    exact ⟨flag, timer⟩
  · exact ⟨rfl, rfl⟩

theorem stopSubscriber_pollerIs (engine : Engine Value) : PollerIs false engine.stopSubscriber := by
  intro poller configured
  rcases Option.map_eq_some_iff.mp configured with ⟨_, _, rfl⟩
  exact ⟨rfl, rfl⟩

theorem step_keeps_timer {poller next : PollLoop Value} {event : PollLoop.Event Value}
    (own : isOwnStep event = true) (taken : poller.step options event = some next) :
    next.isRunning = poller.isRunning ∧ next.pollTimer = poller.pollTimer := by
  cases event with
  | start | stop => cases own
  | tick =>
      cases PollLoop.tick_cases taken
      exact ⟨rfl, rfl⟩
  | retryFires timer =>
      rcases PollLoop.retryFires_cases taken with ⟨timers, ⟨_, rfl⟩ | ⟨_, rfl⟩⟩
      · exact ⟨rfl, rfl⟩
      · exact ⟨rfl, rfl⟩
  | respond index answer =>
      rcases PollLoop.respond_cases taken with ⟨_, _, _, rfl⟩
      exact ⟨rfl, rfl⟩
  | cleanUp index =>
      rcases PollLoop.cleanUp_cases taken with ⟨_, _, _, rfl⟩
      exact ⟨rfl, rfl⟩
  | callLink index =>
      rcases PollLoop.callLink_cases taken with ⟨_, _, ⟨_, rfl⟩ | ⟨_, rfl⟩⟩
      · rw [PollLoop.pollOnce]
        split
        · exact ⟨rfl, rfl⟩
        · exact ⟨rfl, rfl⟩
      · exact ⟨rfl, rfl⟩
  | settleLink index =>
      rcases PollLoop.settleLink_cases taken with ⟨_, _, _, _, _, rfl, _⟩
      exact ⟨rfl, rfl⟩

/-! ## Steps of the engine -/

theorem Lifecycle.of_same (holds : Lifecycle lasting engine)
    (sameRunning : next.isRunning = engine.isRunning)
    (sameGeneration : next.stopGeneration = engine.stopGeneration)
    (sameWaiting : next.waitingStarts = engine.waitingStarts)
    (sameSubscriber : next.sorobanSubscriber = engine.sorobanSubscriber)
    (noFirst : next.contractRegistry.size ≠ 0 → engine.contractRegistry.size ≠ 0) :
    Lifecycle lasting next := by
  have samePoller : ∀ running, PollerIs running next ↔ PollerIs running engine := by
    intro running
    rw [PollerIs, PollerIs, sameSubscriber]
  have sameProbe : next.awaitsProbe = engine.awaitsProbe := by
    rw [awaitsProbe, awaitsProbe, sameWaiting, sameGeneration]
  exact {
    settled := by
      rcases holds.settled with ⟨running, isRunning⟩
      exact ⟨running, (samePoller running).mpr isRunning⟩
    stopped := by
      rw [sameRunning, samePoller]
      exact holds.stopped
    started := by
      rw [sameRunning, sameProbe, samePoller]
      exact fun running probed needed => holds.started running probed (needed.imp_right noFirst)
    waiting := by
      rw [sameWaiting, sameGeneration]
      exact holds.waiting
    current := by
      rw [sameProbe, sameRunning]
      exact holds.current }

theorem Lifecycle.stopSubscriber (holds : Lifecycle false engine)
    (none : engine.contractRegistry.size = 0) : Lifecycle false engine.stopSubscriber where
  settled := ⟨false, stopSubscriber_pollerIs engine⟩
  stopped := fun _ => stopSubscriber_pollerIs engine
  started := by
    rintro _ _ (impossible | some)
    · cases impossible
    · exact absurd none some
  waiting := holds.waiting
  current := holds.current

theorem stop_lifecycle
    (waiting : ∀ generation ∈ engine.waitingStarts, generation ≤ engine.stopGeneration) :
    Lifecycle lasting engine.stop := by
  have notAwaiting : engine.stop.awaitsProbe = false := by
    apply Bool.eq_false_of_not_eq_true
    intro awaits
    have old := waiting _ (List.contains_iff_mem.mp awaits)
    exact absurd old (Nat.not_succ_le_self _)
  exact {
    settled := ⟨false, stopSubscriber_pollerIs _⟩
    stopped := fun _ => stopSubscriber_pollerIs _
    started := by
      intro running
      cases running
    waiting := fun generation waits => Nat.le_succ_of_le (waiting generation waits)
    current := by
      rw [notAwaiting]
      intro awaits
      cases awaits }

theorem Lifecycle.start (holds : Lifecycle lasting engine) (cachedNetwork : NetworkInfo)
    (strict : Bool) : Lifecycle lasting (engine.start cachedNetwork strict).1 := by
  unfold Engine.start
  split
  · exact holds
  · rename_i notRunning
    have idle : PollerIs false engine := holds.stopped (by simpa using notRunning)
    split
    · exact holds
    · exact {
        settled := ⟨true, startSubscriber_pollerIs ⟨false, idle⟩⟩
        stopped := by
          intro stopped
          cases stopped
        started := fun _ _ _ => startSubscriber_pollerIs ⟨false, idle⟩
        waiting := holds.waiting
        current := fun _ => rfl }
    · split
      · exact {
          settled := ⟨false, idle⟩
          stopped := fun _ => idle
          started := by
            intro _ probed
            simp [awaitsProbe] at probed
          waiting := by
            intro generation waits
            rcases List.mem_append.mp waits with old | new
            · exact holds.waiting generation old
            · exact le_of_eq (List.mem_singleton.mp new)
          current := fun _ => rfl }
      · rename_i notConfigured
        have nothing : ∀ running, PollerIs running { engine with isRunning := true } := by
          intro running poller configured
          simp [show engine.sorobanSubscriber = some poller from configured] at notConfigured
        exact ⟨⟨true, nothing true⟩, fun _ => nothing false, fun _ _ _ => nothing true,
          holds.waiting, fun _ => rfl⟩

theorem Lifecycle.verified (holds : Lifecycle lasting engine) {index : Nat}
    (taken : engine.verified index = some next) : Lifecycle lasting next := by
  unfold Engine.verified at taken
  split at taken
  · rename_i info startGeneration settled atIndex
    have waited : startGeneration ∈ engine.waitingStarts := List.mem_of_getElem? atIndex
    have fewer : ∀ generation ∈ engine.waitingStarts.eraseIdx index,
        generation ∈ engine.waitingStarts := fun _ => List.mem_of_mem_eraseIdx
    have resumedWaiting : ∀ generation ∈ engine.waitingStarts.eraseIdx index,
        generation ≤ engine.stopGeneration := fun generation waits =>
      holds.waiting generation (fewer generation waits)
    have resumedCurrent : (engine.waitingStarts.eraseIdx index).contains
        engine.stopGeneration = true → engine.isRunning = true := by
      intro awaits
      apply holds.current
      exact List.contains_iff_mem.mpr (fewer _ (List.contains_iff_mem.mp awaits))
    cases taken
    split
    · rename_i stale
      exact {
        settled := holds.settled
        stopped := holds.stopped
        started := by
          intro running probed some
          apply holds.started running _ some
          apply Bool.eq_false_of_not_eq_true
          intro awaits
          -- Only a stale generation is taken off the list.
          have kept : engine.stopGeneration ∈ engine.waitingStarts.eraseIdx index := by
            rcases List.getElem?_of_mem (List.contains_iff_mem.mp awaits) with ⟨other, atOther⟩
            apply List.mem_eraseIdx_iff_getElem?.mpr
            refine ⟨other, ?_, atOther⟩
            rintro rfl
            rw [atIndex] at atOther
            exact stale (Option.some.inj atOther).symm
          have stillAwaits := List.contains_iff_mem.mpr kept
          rw [awaitsProbe, stillAwaits] at probed
          cases probed
        waiting := resumedWaiting
        current := resumedCurrent }
    · rename_i notStale
      have running : engine.isRunning = true := by
        apply holds.current
        apply List.contains_iff_mem.mpr
        have same : engine.stopGeneration = startGeneration := by
          simpa using notStale
        rw [same]
        exact waited
      split
      · exact stop_lifecycle resumedWaiting
      · exact {
          settled := ⟨true, startSubscriber_pollerIs holds.settled⟩
          stopped := by
            intro notRunning
            rw [Engine.startSubscriber, running] at notRunning
            cases notRunning
          started := fun _ _ _ => startSubscriber_pollerIs holds.settled
          waiting := resumedWaiting
          current := resumedCurrent }
  · cases taken

/-! ## Subscriptions -/

theorem Lifecycle.retain (holds : Lifecycle lasting engine) (key : RefKey) :
    Lifecycle lasting (engine.retain key) :=
  holds.of_same rfl rfl rfl rfl fun some => some

theorem Lifecycle.release (holds : Lifecycle lasting engine) (key : RefKey) :
    Lifecycle lasting (engine.release key).1 := by
  rw [Engine.release]
  split
  · exact holds
  · split
    · exact holds.of_same rfl rfl rfl rfl fun some => some
    · exact holds.of_same rfl rfl rfl rfl fun some => some

theorem Lifecycle.subscribeContractConfig (holds : Lifecycle lasting engine)
    (filters : List ContractFilter) :
    Lifecycle lasting (engine.subscribeContractConfig filters).1 := by
  unfold Engine.subscribeContractConfig
  split
  · exact holds
  · split
    · exact holds.retain _
    · exact holds.of_same rfl rfl rfl rfl fun some => some

theorem Lifecycle.subscribeContractId (holds : Lifecycle lasting engine) (id : String)
    (options : Option (ContractSubscribeOptions Value)) :
    Lifecycle lasting (engine.subscribeContractId id options).1 := by
  unfold Engine.subscribeContractId
  split
  · exact holds.retain _
  · cases running : engine.isRunning with
    | true =>
        rw [if_pos rfl]
        have started := startSubscriber_pollerIs holds.settled
        exact {
          settled := ⟨true, started⟩
          stopped := by
            intro stopped
            rw [Engine.startSubscriber, registerContract, Engine.retain, running] at stopped
            cases stopped
          started := fun _ _ _ => started
          waiting := holds.waiting
          current := fun _ => running }
    | false =>
        exact {
          settled := holds.settled
          stopped := fun _ => holds.stopped running
          started := by
            intro isRunning
            rw [if_neg Bool.false_ne_true, registerContract, Engine.retain, running] at isRunning
            cases isRunning
          waiting := holds.waiting
          current := holds.current }

theorem Lifecycle.unsubscribeContractId {id : String} (holds : Lifecycle lasting engine)
    (lasts : lasting = true → engine.removesLast (.unsubscribeContractId id) = false) :
    Lifecycle lasting (engine.unsubscribeContractId id) := by
  have some : ∀ entry, engine.contractRegistry.get? id = some entry →
      engine.contractRegistry.size ≠ 0 := by
    intro entry registered none
    simp [InsertionMap.size_eq_zero_iff.mp none id] at registered
  rw [removesLast, Engine.unsubscribeContractId] at lasts
  unfold Engine.unsubscribeContractId
  split
  · exact holds
  · rename_i entry registered
    have released := holds.release (.contract id)
    have sameRegistry := (release_registries engine (.contract id)).1
    split
    · rename_i after last
      rw [last] at released sameRegistry
      have removed : Lifecycle lasting (after.removeContract id entry) := by
        refine released.of_same rfl rfl rfl rfl ?_
        intro _
        change after.contractRegistry.size ≠ 0
        rw [sameRegistry]
        exact some entry registered
      simp only [registered, last] at lasts
      unfold Engine.stopContractWatcher at lasts ⊢
      split
      · rename_i none
        cases lasting with
        | true =>
            have kept := lasts rfl
            rw [if_pos none] at kept
            simp [some entry registered] at kept
            exact absurd none kept
        | false => exact removed.stopSubscriber none
      · exact removed
    · rename_i after shared
      rw [shared] at released
      exact released

theorem Lifecycle.unsubscribeContractConfig (holds : Lifecycle lasting engine)
    (filters : List ContractFilter) :
    Lifecycle lasting (engine.unsubscribeContractConfig filters) := by
  unfold Engine.unsubscribeContractConfig
  split
  · exact holds
  · have released := holds.release (.config (stableFilterKey filters))
    split
    · rename_i after last
      rw [last] at released
      exact released.of_same rfl rfl rfl rfl fun some => some
    · rename_i after shared
      rw [shared] at released
      exact released

/-! ## Runs -/

theorem Lifecycle.poller (holds : Lifecycle lasting engine) {poller next : PollLoop Value}
    {event : PollLoop.Event Value} (configured : engine.sorobanSubscriber = some poller)
    (own : isOwnStep event = true) (taken : poller.step options event = some next) :
    Lifecycle lasting { engine with sorobanSubscriber := some next } := by
  rcases step_keeps_timer own taken with ⟨sameFlag, sameTimer⟩
  have samePoller : ∀ running, PollerIs running engine →
      PollerIs running { engine with sorobanSubscriber := some next } := by
    intro running isRunning found isNext
    cases isNext
    rw [sameFlag, sameTimer]
    exact isRunning poller configured
  exact {
    settled := by
      rcases holds.settled with ⟨running, isRunning⟩
      exact ⟨running, samePoller running isRunning⟩
    stopped := fun stopped => samePoller false (holds.stopped stopped)
    started := fun running probed some => samePoller true (holds.started running probed some)
    waiting := holds.waiting
    current := holds.current }

theorem Lifecycle.step {event : Event Value} (holds : Lifecycle lasting engine)
    (lasts : lasting = true → engine.removesLast event = false)
    (taken : engine.step options event = some next) : Lifecycle lasting next := by
  cases event with
  | start cachedNetwork strict =>
      cases taken
      exact holds.start cachedNetwork strict
  | stop =>
      cases taken
      exact stop_lifecycle holds.waiting
  | probeSettles info =>
      simp only [Engine.step] at taken
      split at taken
      · cases taken
        exact holds.of_same rfl rfl rfl rfl fun some => some
      · cases taken
  | verified index => exact holds.verified taken
  | subscribeContractId id options =>
      cases taken
      exact holds.subscribeContractId id options
  | subscribeContractConfig filters =>
      cases taken
      exact holds.subscribeContractConfig filters
  | unsubscribeContractId id =>
      cases taken
      exact holds.unsubscribeContractId lasts
  | unsubscribeContractConfig filters =>
      cases taken
      exact holds.unsubscribeContractConfig filters
  | poller event =>
      simp only [Engine.step] at taken
      split at taken
      · rename_i own
        rcases Option.bind_eq_some_iff.mp taken with ⟨poller, configured, stepped⟩
        rcases Option.map_eq_some_iff.mp stepped with ⟨after, pollerTaken, rfl⟩
        exact holds.poller configured own pollerTaken
      · cases taken

/-- Whenever the engine runs and does not wait for its network probe, the Soroban
subscriber is started and its timer armed, as long as there is a watcher
subscribed to by id or the last of those was never removed; it is stopped
whenever the engine is. -/
theorem subscriber_runs (options : Options) (subscriber : Option (Subscriber Value))
    (events : List (Event Value)) (final : Engine Value)
    (run : Run options (initial subscriber) events final) :
    (final.isRunning = true → final.awaitsProbe = false → final.contractRegistry.size ≠ 0 →
        PollerIs true final) ∧
      (Trace (Guarded (fun engine event => engine.removesLast event = false)
          (Takes (step options))) (initial subscriber) events final →
        final.isRunning = true → final.awaitsProbe = false → PollerIs true final) ∧
      (final.isRunning = false → PollerIs false final) := by
  have lifecycle : Lifecycle false final := by
    refine run.invariant (motive := Lifecycle false) ?_ (initial_lifecycle subscriber).weaken
    exact fun _ _ _ holds taken => holds.step (fun impossible => by cases impossible) taken
  refine ⟨fun running probed some => lifecycle.started running probed (.inr some), ?_,
    lifecycle.stopped⟩
  intro lastingRun running probed
  have lastingLifecycle : Lifecycle true final := by
    refine lastingRun.invariant (motive := Lifecycle true) ?_ (initial_lifecycle subscriber)
    exact fun _ _ _ holds guarded => holds.step (fun _ => guarded.1) guarded.2
  exact lastingLifecycle.started running probed (.inl rfl)

/-- A start that waits for the probe and then starts the subscriber. -/
theorem subscriber_runs_after_probe :
    ∃ final : Engine Unit, ∃ poller,
      Run .default (initial (some (.new none)))
        [.subscribeContractId "transfers" none, .start none false, .probeSettles (some true),
          .verified 0] final ∧
      final.sorobanSubscriber = some poller ∧ poller.isRunning = true ∧
        poller.pollTimer = true := by
  have run : Run .default (initial (some (.new none)) : Engine Unit)
      [.subscribeContractId "transfers" none, .start none false, .probeSettles (some true),
        .verified 0] _ := trace_of_runEvents rfl
  exact ⟨_, _, run, rfl,
    (subscriber_runs .default (some (.new none)) _ _ run).1 rfl rfl (by decide) _ rfl⟩

/-- Until the network probe ends, a running engine with a watcher has not started
its subscriber. -/
theorem start_waits_for_probe :
    ∃ final : Engine Unit, ∃ poller,
      Run .default (initial (some (.new none)))
        [.subscribeContractId "transfers" none, .start none false] final ∧
      final.isRunning = true ∧ final.contractRegistry.size = 1 ∧
      final.sorobanSubscriber = some poller ∧ poller.isRunning = false ∧
      poller.pollTimer = false :=
  ⟨_, _, trace_of_runEvents rfl, rfl, rfl, rfl, rfl, rfl⟩

end Engine

end Orbital.PulseCore.EventEngine
