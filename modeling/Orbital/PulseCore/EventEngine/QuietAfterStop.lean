import Orbital.PulseCore.EventEngine.LiveEngine
import Orbital.PulseCore.SorobanSubscriber.SingleHandler

/-! # What contract watchers get behind `stop`

`stop` stops the subscriber and the streams, but it leaves the contract watchers
subscribed and knows nothing of the lookups of ABI specs. An event whose lookup is
pending is dispatched when the lookup settles, whether or not the engine is stopped.
-/

namespace Orbital.PulseCore.EventEngine

open Orbital.Foundation
open Orbital.PulseCore.SorobanSubscriber (Options PollLoop Stopped Quietly)

variable {Value : Type}

/-! ## A stopped engine's own part -/

namespace Engine

structure Halting (engine : Engine Value) (stopped : Bool) : Prop where
  oneHandler : ∀ poller ∈ engine.sorobanSubscriber, poller.OneHandler
  waiting : ∀ generation ∈ engine.waitingStarts, generation ≤ engine.stopGeneration
  outdated : stopped = true →
    ∀ generation ∈ engine.waitingStarts, generation < engine.stopGeneration
  subscriber : stopped = true → ∀ poller ∈ engine.sorobanSubscriber, Stopped poller.subscriber
  notRunning : stopped = true → engine.isRunning = false

variable {engine next : Engine Value} {stopped : Bool}

theorem Halting.startSubscriber (holds : Halting engine false) :
    Halting engine.startSubscriber false where
  oneHandler poller configured := by
    rcases Option.map_eq_some_iff.mp configured with ⟨before, wasConfigured, rfl⟩
    exact (holds.oneHandler before wasConfigured).start
  waiting := holds.waiting
  outdated isStopped := by cases isStopped
  subscriber isStopped := by cases isStopped
  notRunning isStopped := by cases isStopped

theorem Halting.stopSubscriber (holds : Halting engine stopped) :
    Halting engine.stopSubscriber stopped where
  oneHandler poller configured := by
    rcases Option.map_eq_some_iff.mp configured with ⟨before, wasConfigured, rfl⟩
    exact (holds.oneHandler before wasConfigured).stop
  waiting := holds.waiting
  outdated := holds.outdated
  subscriber _ poller configured := by
    rcases Option.map_eq_some_iff.mp configured with ⟨before, _, rfl⟩
    rfl
  notRunning := holds.notRunning

theorem Halting.stop (holds : Halting engine stopped) : Halting engine.stop true where
  oneHandler := holds.stopSubscriber.oneHandler
  waiting generation member := Nat.le_succ_of_le (holds.waiting generation member)
  outdated _ generation member := Nat.lt_succ_of_le (holds.waiting generation member)
  subscriber _ poller configured := by
    rcases Option.map_eq_some_iff.mp configured with ⟨before, _, rfl⟩
    rfl
  notRunning _ := rfl

theorem Halting.resume (holds : Halting engine stopped) (isRunning : Bool) :
    Halting { engine with isRunning } false where
  oneHandler := holds.oneHandler
  waiting := holds.waiting
  outdated isStopped := by cases isStopped
  subscriber isStopped := by cases isStopped
  notRunning isStopped := by cases isStopped

theorem Halting.start (holds : Halting engine stopped) (cachedNetwork : NetworkInfo)
    (strict : Bool) : Halting (engine.start cachedNetwork strict).1 false := by
  have running := holds.resume true
  unfold Engine.start
  split
  · exact holds.resume engine.isRunning
  · split
    · exact holds.resume engine.isRunning
    · exact running.startSubscriber
    · split
      · refine ⟨running.oneHandler, ?_, ?_, ?_, ?_⟩
        · intro generation member
          rcases List.mem_append.mp member with before | isNew
          · exact holds.waiting generation before
          · exact (List.mem_singleton.mp isNew).le
        · intro isStopped
          cases isStopped
        · intro isStopped
          cases isStopped
        · intro isStopped
          cases isStopped
      · exact running

theorem Halting.withRunning (holds : Halting engine stopped) {isRunning : Bool}
    (atRest : stopped = true → isRunning = false) : Halting { engine with isRunning } stopped where
  oneHandler := holds.oneHandler
  waiting := holds.waiting
  outdated := holds.outdated
  subscriber := holds.subscriber
  notRunning := atRest

structure Subscribes (engine next : Engine Value) : Prop where
  isRunning : next.isRunning = engine.isRunning
  stopGeneration : next.stopGeneration = engine.stopGeneration
  waitingStarts : next.waitingStarts = engine.waitingStarts
  subscriber : next.sorobanSubscriber = engine.sorobanSubscriber ∨
    next.sorobanSubscriber = engine.stopSubscriber.sorobanSubscriber ∨
    engine.isRunning = true ∧
      next.sorobanSubscriber = engine.startSubscriber.sorobanSubscriber

theorem Subscribes.release (engine : Engine Value) (key : RefKey) :
    Subscribes engine (engine.release key).1 := by
  rw [Engine.release]
  split
  · exact ⟨rfl, rfl, rfl, .inl rfl⟩
  · split
    · exact ⟨rfl, rfl, rfl, .inl rfl⟩
    · exact ⟨rfl, rfl, rfl, .inl rfl⟩

theorem release_subscriber (engine : Engine Value) (key : RefKey) :
    (engine.release key).1.sorobanSubscriber = engine.sorobanSubscriber := by
  rw [Engine.release]
  split
  · rfl
  · split
    · rfl
    · rfl

variable {options : Options} {event : PollLoop.Event Value}

theorem subscribes_of_step {event : Event Value} (isCall : LiveEngine.isSubscription event = true)
    (taken : engine.step options event = some next) : Subscribes engine next := by
  cases event with
  | start | stop | probeSettles | verified | poller => cases isCall
  | subscribeContractConfig filters =>
      cases taken
      unfold Engine.subscribeContractConfig
      split
      · exact ⟨rfl, rfl, rfl, .inl rfl⟩
      · split
        · exact ⟨rfl, rfl, rfl, .inl rfl⟩
        · exact ⟨rfl, rfl, rfl, .inl rfl⟩
  | subscribeContractId id given =>
      cases taken
      unfold Engine.subscribeContractId
      split
      · exact ⟨rfl, rfl, rfl, .inl rfl⟩
      · split
        · rename_i running
          exact ⟨rfl, rfl, rfl, .inr (.inr ⟨running, rfl⟩)⟩
        · exact ⟨rfl, rfl, rfl, .inl rfl⟩
  | unsubscribeContractConfig filters =>
      cases taken
      unfold Engine.unsubscribeContractConfig
      split
      · exact ⟨rfl, rfl, rfl, .inl rfl⟩
      · have released := Subscribes.release engine (.config (stableFilterKey filters))
        split
        · rename_i after last
          rw [last] at released
          exact ⟨released.isRunning, released.stopGeneration, released.waitingStarts,
            released.subscriber⟩
        · rename_i after shared
          rw [shared] at released
          exact released
  | unsubscribeContractId id =>
      cases taken
      unfold Engine.unsubscribeContractId
      split
      · exact ⟨rfl, rfl, rfl, .inl rfl⟩
      · rename_i entry _
        have released := Subscribes.release engine (.contract id)
        have sameSubscriber := release_subscriber engine (.contract id)
        split
        · rename_i after last
          rw [last] at released sameSubscriber
          unfold stopContractWatcher
          split
          · refine ⟨released.isRunning, released.stopGeneration, released.waitingStarts, ?_⟩
            exact .inr (.inl (congrArg (Option.map PollLoop.stop) sameSubscriber))
          · exact ⟨released.isRunning, released.stopGeneration, released.waitingStarts,
              released.subscriber⟩
        · rename_i after shared
          rw [shared] at released
          exact released

theorem Halting.subscribes (holds : Halting engine stopped) (changed : Subscribes engine next) :
    Halting next stopped := by
  have atRest : ∀ {middle : Engine Value}, Halting middle stopped →
      middle.sorobanSubscriber = next.sorobanSubscriber → Halting next stopped := by
    intro middle kept same
    exact {
      oneHandler := same ▸ kept.oneHandler
      waiting := by
        rw [changed.waitingStarts, changed.stopGeneration]
        exact holds.waiting
      outdated := by
        rw [changed.waitingStarts, changed.stopGeneration]
        exact holds.outdated
      subscriber := same ▸ kept.subscriber
      notRunning := by
        rw [changed.isRunning]
        exact holds.notRunning }
  rcases changed.subscriber with same | isStopped | ⟨running, isStarted⟩
  · exact atRest holds same.symm
  · exact atRest holds.stopSubscriber isStopped.symm
  · cases stopped with
    | true =>
        rw [holds.notRunning rfl] at running
        cases running
    | false => exact atRest holds.startSubscriber isStarted.symm

/-- A `start` that goes on behind a later `stop` does nothing. -/
theorem Halting.verified {index : Nat} (holds : Halting engine stopped)
    (taken : engine.verified index = some next) :
    next.stopGeneration = engine.stopGeneration ∧ Halting next stopped ∨
      next.stopGeneration ≠ engine.stopGeneration ∧ Halting next true := by
  simp only [Engine.verified] at taken
  split at taken
  · rename_i info generation _ atIndex
    cases taken
    have isWaiting := List.mem_of_getElem? atIndex
    have resumed : Halting { engine with
        waitingStarts := engine.waitingStarts.eraseIdx index } stopped := {
      oneHandler := holds.oneHandler
      waiting := fun other member => holds.waiting other (List.mem_of_mem_eraseIdx member)
      outdated := fun isStopped other member =>
        holds.outdated isStopped other (List.mem_of_mem_eraseIdx member)
      subscriber := holds.subscriber
      notRunning := holds.notRunning }
    split
    · exact .inl ⟨rfl, resumed⟩
    · rename_i isCurrent
      have notStopped : stopped = false := by
        by_contra isStopped
        have isOld := holds.outdated (Bool.of_not_eq_false isStopped) generation isWaiting
        omega
      subst notStopped
      split
      · exact .inr ⟨Nat.succ_ne_self _, resumed.stop⟩
      · exact .inl ⟨rfl, resumed.startSubscriber⟩
  · cases taken

theorem poller_cases (taken : engine.step options (.poller event) = some next) :
    isOwnStep event = true ∧ ∃ poller after, engine.sorobanSubscriber = some poller ∧
      poller.step options event = some after ∧
      next = { engine with sorobanSubscriber := some after } := by
  simp only [Engine.step] at taken
  split at taken
  · rename_i own
    rcases Option.bind_eq_some_iff.mp taken with ⟨poller, configured, stepped⟩
    rcases Option.map_eq_some_iff.mp stepped with ⟨after, polled, rfl⟩
    exact ⟨own, poller, after, configured, polled, rfl⟩
  · cases taken

theorem Halting.poller (holds : Halting engine stopped)
    (taken : engine.step options (.poller event) = some next) : Halting next stopped := by
  rcases poller_cases taken with ⟨own, poller, after, configured, polled, rfl⟩
  have oneHandler := holds.oneHandler poller configured
  have noStart : event ≠ .start := by
    rintro rfl
    cases own
  exact {
    oneHandler := by
      intro found isNext
      cases isNext
      exact oneHandler.step polled
    waiting := holds.waiting
    outdated := holds.outdated
    subscriber := by
      intro isStopped found isNext
      cases isNext
      have wasStopped := holds.subscriber isStopped poller configured
      exact (oneHandler.quietly_step noStart polled).stopped wasStopped
    notRunning := holds.notRunning }

theorem Halting.handles_nothing (holds : Halting engine true)
    (taken : engine.step options (.poller event) = some next) :
    handledMeanwhile engine next = [] := by
  rcases poller_cases taken with ⟨own, poller, after, configured, polled, rfl⟩
  have noStart : event ≠ .start := by
    rintro rfl
    cases own
  have quietly := (holds.oneHandler poller configured).quietly_step noStart polled
  have sameCalls : after.handlerCalls = poller.handlerCalls :=
    quietly.calls (holds.subscriber rfl poller configured)
  simp [handledMeanwhile, configured, sameCalls]

end Engine

namespace LiveEngine

/-! ## What the claim is about -/

def contractDispatches (live : LiveEngine Value) : List (Dispatch Value) :=
  live.transports.queue.dispatched.filter fun dispatch =>
    decide (sourceOf dispatch.event = .soroban)

/-- A call of `start` that does not throw for the wrong network. -/
def restarts : Event Value → Bool
  | .start cachedNetwork _ => decide (cachedNetwork ≠ some false)
  | _ => false

/-- Once a call of `stop` has resolved no contract watcher is given an event or a notice
that one could not be decoded, as long as `start` is not called. -/
def QuietAfterStop (options : LiveOptions) (events : List (Event Value)) : Prop :=
  ∀ front later back stopped final, events = front ++ (later ++ back) →
    Run options (initial options) front stopped → stopped.stopResolved = true →
    (∀ event ∈ later, restarts event = false) → Run options stopped later final →
    final.contractDispatches = stopped.contractDispatches ∧
      final.decodeFailed = stopped.decodeFailed

/-- No lookup of an ABI spec settles behind a resolved `stop`, and no listener of a
reconnect notice leaves the engine stopped. -/
def isClean (live : LiveEngine Value) : Event Value → Bool
  | .lookupSettles _ _ _ => !live.stopResolved
  | .noticeEnds false => !live.stream.stopped
  | _ => true

variable {options : LiveOptions} {live next : LiveEngine Value} {event : Event Value}

/-! ## What holds in every run -/

structure Sound (live : LiveEngine Value) : Prop where
  tracked : HorizonStream.Tracked live.stream
  silent : live.stream.stopped = true → HorizonStream.Silent live.stream
  engine : live.engine.Halting live.stream.stopped
  stopping : live.stopping ≠ [] ∨ live.stopResolved = true → live.stream.stopped = true
  free : live.stopResolved = true → live.isBusy = false

theorem isBusy_eq_false {live : LiveEngine Value} :
    live.isBusy = false ↔ live.arriving = false ∧ live.stream.notice = none ∧
      live.transports.queue.phase = .idle := by
  simp [isBusy, and_assoc]

theorem initial_sound (options : LiveOptions) : Sound (initial options : LiveEngine Value) where
  tracked := HorizonStream.new_tracked _ _
  silent stopped := by cases stopped
  engine := {
    oneHandler := by
      intro poller configured
      rcases Option.map_eq_some_iff.mp configured with ⟨subscriber, isConfigured, rfl⟩
      split at isConfigured
      · cases isConfigured
        exact PollLoop.initial_oneHandler none
      · cases isConfigured
    waiting := by simp [initial, Engine.initial]
    outdated := by simp [initial, Engine.initial]
    subscriber := by simp [initial, HorizonStream.new]
    notRunning := by simp [initial, Engine.initial] }
  stopping called := by simp [initial] at called
  free resolved := by cases resolved

variable {engine : Engine Value} {stream : HorizonStream} {final : LiveEngine Value}
  {events : List (Event Value)}

theorem Sound.of_engine (holds : Sound live) (halting : engine.Halting live.stream.stopped) :
    Sound { live with engine } where
  tracked := holds.tracked
  silent := holds.silent
  engine := halting
  stopping := holds.stopping
  free := holds.free

theorem Sound.of_transports (holds : Sound live) {transports : Transports Value}
    (phase : live.stopResolved = true →
      transports.queue.phase = live.transports.queue.phase) :
    Sound { live with transports } where
  tracked := holds.tracked
  silent := holds.silent
  engine := holds.engine
  stopping := holds.stopping
  free resolved := by
    have free := isBusy_eq_false.mp (holds.free resolved)
    exact isBusy_eq_false.mpr ⟨free.1, free.2.1, (phase resolved).trans free.2.2⟩

theorem Sound.start (holds : Sound live) (cachedNetwork : NetworkInfo) (strict : Bool) :
    Sound (live.start cachedNetwork strict) := by
  have running := HorizonStream.start_stopped live.stream
  unfold LiveEngine.start
  split
  · exact {
      tracked := holds.tracked.start
      silent := fun stopped => by cases running.symm.trans stopped
      engine := by
        change live.engine.Halting live.stream.start.stopped
        rw [running]
        exact holds.engine.resume live.engine.isRunning
      stopping := fun called => by simp at called
      free := fun resolved => by cases resolved }
  · split
    · exact holds
    · exact {
        tracked := holds.tracked.start
        silent := fun stopped => by cases running.symm.trans stopped
        engine := by
          change (live.engine.start cachedNetwork strict).1.Halting live.stream.start.stopped
          rw [running]
          exact holds.engine.start cachedNetwork strict
        stopping := fun called => by simp at called
        free := fun resolved => by cases resolved }

theorem Sound.stopped (holds : Sound live) (halting : engine.Halting true)
    (stopping : List (Option SorobanSubscriber.Source)) :
    Sound { live with
      engine
      stream := live.stream.stop
      transports := live.transports.stop
      stopping } where
  tracked := holds.tracked.stop
  silent _ := HorizonStream.stop_silent live.stream
  engine := halting
  stopping _ := rfl
  free resolved := by
    have free := isBusy_eq_false.mp (holds.free resolved)
    have noNotice := (HorizonStream.stop_notice live.stream).trans free.2.1
    exact isBusy_eq_false.mpr ⟨free.1, noNotice, free.2.2⟩

theorem Sound.withStream (holds : Sound live) {event : HorizonStream.Event}
    (noStart : event ≠ .start) (noStop : event ≠ .stop)
    (leaves : HorizonStream.LeavesRunning live.stream event)
    (taken : live.stream.step event = some stream) : Sound (live.withStream stream) := by
  have sameStopped : stream.stopped = live.stream.stopped := by
    rw [HorizonStream.stopped_step taken]
    cases event with
    | start => exact absurd rfl noStart
    | stop => exact absurd rfl noStop
    | _ => rfl
  have silent := HorizonStream.Silent.step holds.tracked holds.silent leaves taken
  exact {
    tracked := holds.tracked.step taken
    silent := silent
    engine := by
      have halting : live.engine.Halting stream.stopped := sameStopped ▸ holds.engine
      exact halting.withRunning fun stopped => (silent stopped).notRunning
    stopping := fun called => sameStopped.trans (holds.stopping called)
    free := by
      intro resolved
      have free := isBusy_eq_false.mp (holds.free resolved)
      have wasSilent := holds.silent (holds.stopping (.inr resolved))
      have noNotice := HorizonStream.Silent.notice_step holds.tracked wasSilent noStart taken
        free.2.1
      exact isBusy_eq_false.mpr ⟨free.1, noNotice, free.2.2⟩ }

theorem Sound.no_message (holds : Sound live) (resolved : live.stopResolved = true) {epoch : Nat} :
    live.stream.step (.message epoch) ≠ some stream := by
  have silent := holds.silent (holds.stopping (.inr resolved))
  simp [HorizonStream.step, silent.no_streams holds.tracked]

theorem Sound.no_drain (holds : Sound live) (resolved : live.stopResolved = true)
    {event : EventQueue.Event Value} {queue : EventQueue Value} (isDrain : isDrain event = true) :
    ¬ EventQueue.GoesOn options.queue (live.router options) live.transports.queue event queue := by
  have idle := (isBusy_eq_false.mp (holds.free resolved)).2.2
  intro moved
  cases moved with
  | routeNext isDraining queued => cases idle.symm.trans isDraining
  | routed isRouting => cases idle.symm.trans isRouting
  | notified isNotifying => cases idle.symm.trans isNotifying
  | drained isDraining isEmpty => cases idle.symm.trans isDraining
  | specFailed found | specSettled found => cases isDrain

theorem Sound.step (holds : Sound live) (clean : live.isClean event = true)
    (taken : LiveEngine.step options live event = some next) : Sound next := by
  have noNotice : ∀ {other : HorizonStream.Event}, other ≠ .noticeReturns →
      HorizonStream.LeavesRunning live.stream other := fun different same => absurd same different
  cases moves_of_step taken with
  | start => exact holds.start _ _
  | stop => exact holds.stopped holds.engine.stop _
  | stopResolves free atIndex =>
      have called : live.stream.stopped = true := by
        refine holds.stopping (.inl ?_)
        exact List.ne_nil_of_mem (List.mem_of_getElem? atIndex)
      exact ⟨holds.tracked, holds.silent, holds.engine, fun _ => called, fun _ => free⟩
  | subscription isCall moved =>
      exact holds.of_engine (holds.engine.subscribes (Engine.subscribes_of_step isCall moved))
  | accounts =>
      exact ⟨holds.tracked, holds.silent, holds.engine, holds.stopping, holds.free⟩
  | pauseSource | resumeSource => exact holds.of_transports fun _ => rfl
  | probeSettles =>
      refine holds.of_engine ?_
      exact ⟨holds.engine.oneHandler, holds.engine.waiting, holds.engine.outdated,
        holds.engine.subscriber, holds.engine.notRunning⟩
  | verified moved =>
      rcases holds.engine.verified moved with ⟨same, halting⟩ | ⟨different, halting⟩
      · rw [if_pos same]
        exact holds.of_engine halting
      · rw [if_neg different]
        exact holds.stopped halting live.stopping
  | @stream event stream transports isTask moved queue =>
      have kept : Sound (live.withStream stream) := by
        refine holds.withStream ?_ ?_ (noNotice ?_) moved
        · rintro rfl
          cases isTask
        · rintro rfl
          cases isTask
        · rintro rfl
          cases isTask
      exact kept.of_transports fun _ => congrArg EventQueue.phase queue
  | @noticeEnds throws stream moved =>
      cases throws with
      | true => exact holds.withStream (by simp) (by simp) (noNotice (by simp)) moved
      | false =>
          refine holds.withStream (by simp) (by simp) ?_ moved
          intro _
          simpa [isClean] using clean
  | cursorResolved moved queue =>
      have kept := holds.withStream (by simp) (by simp) (noNotice (by simp)) moved
      exact kept.of_transports fun _ => congrArg EventQueue.phase queue
  | message moved =>
      have kept := holds.withStream (by simp) (by simp) (noNotice (by simp)) moved
      refine ⟨kept.tracked, kept.silent, kept.engine, kept.stopping, ?_⟩
      intro resolved
      exact absurd moved (holds.no_message resolved)
  | record arriving =>
      refine ⟨holds.tracked, holds.silent, holds.engine, holds.stopping, ?_⟩
      intro resolved
      cases arriving.symm.trans (isBusy_eq_false.mp (holds.free resolved)).1
  | messageThrows =>
      refine ⟨holds.tracked, holds.silent, holds.engine, holds.stopping, ?_⟩
      intro resolved
      have free := isBusy_eq_false.mp (holds.free resolved)
      exact isBusy_eq_false.mpr ⟨rfl, free.2⟩
  | dispatchUnifiedEvent keyed =>
      refine holds.of_transports fun _ => ?_
      exact (EventQueue.route_frame _ _ _ _).2.1
  | poller moved =>
      have halting := holds.engine.poller moved
      refine (holds.of_engine halting).of_transports ?_
      intro resolved
      have stopped := holds.stopping (.inr resolved)
      rw [Engine.Halting.handles_nothing (stopped ▸ holds.engine) moved]
      rfl
  | drain isDrain moved =>
      refine holds.of_transports fun resolved => ?_
      exact absurd moved (holds.no_drain resolved isDrain)
  | lookupSettles =>
      refine ⟨holds.tracked, holds.silent, holds.engine, holds.stopping, ?_⟩
      intro resolved
      change live.stopResolved = true at resolved
      simp [isClean, resolved] at clean

/-! ## Behind a resolved call -/

theorem source_of_keyed {event : NormalizedEvent Value}
    (keyed : NormalizedEvent.mayHaveKey event = true) : sourceOf event = .horizon := by
  cases event with
  | classic event payload => rfl
  | contract event => cases keyed

theorem contractDispatches_route (router : EventQueue.Router Value) (throws : Emission → Bool)
    (queue : EventQueue Value) {item : QueuedEvent Value}
    (classic : sourceOf item.event = .horizon) :
    ((queue.route router throws item).dispatched.filter fun dispatch =>
      decide (sourceOf dispatch.event = .soroban)) =
    queue.dispatched.filter fun dispatch => decide (sourceOf dispatch.event = .soroban) := by
  rw [EventQueue.route]
  split
  · rfl
  · split
    · rfl
    · rw [EventQueue.fanOut]
      split
      · rfl
      · simp [EventQueue.dispatch, classic]

theorem Sound.start_rejected (holds : Sound live) (stopped : live.stream.stopped = true)
    (strict : Bool) : live.start (some false) strict = live := by
  have silent := holds.silent stopped
  rw [LiveEngine.start, silent.notRunning, silent.clear]
  rfl

theorem Sound.quiet_step (holds : Sound live) (resolved : live.stopResolved = true)
    (clean : live.isClean event = true) (noRestart : restarts event = false)
    (taken : LiveEngine.step options live event = some next) :
    next.stopResolved = true ∧ next.contractDispatches = live.contractDispatches ∧
      next.decodeFailed = live.decodeFailed := by
  have stopped := holds.stopping (.inr resolved)
  have same : live.stopResolved = true ∧ live.contractDispatches = live.contractDispatches ∧
      live.decodeFailed = live.decodeFailed := ⟨resolved, rfl, rfl⟩
  cases moves_of_step taken with
  | @start cachedNetwork strict =>
      have rejected : cachedNetwork = some false := by simpa [restarts] using noRestart
      rw [rejected, holds.start_rejected stopped strict]
      exact same
  | stop => exact same
  | stopResolves free atIndex => exact ⟨rfl, rfl, rfl⟩
  | subscription isCall moved | accounts | pauseSource | resumeSource | probeSettles => exact same
  | verified moved =>
      split
      · exact same
      · exact same
  | stream isTask moved queue =>
      refine ⟨resolved, ?_, rfl⟩
      simp only [contractDispatches, queue]
  | noticeEnds moved => exact same
  | cursorResolved moved queue =>
      refine ⟨resolved, ?_, rfl⟩
      simp only [contractDispatches, queue]
  | message moved => exact absurd moved (holds.no_message resolved)
  | record arriving => cases arriving.symm.trans (isBusy_eq_false.mp (holds.free resolved)).1
  | messageThrows => exact same
  | dispatchUnifiedEvent keyed =>
      refine ⟨resolved, ?_, rfl⟩
      exact contractDispatches_route _ _ _ (source_of_keyed keyed)
  | poller moved =>
      rw [Engine.Halting.handles_nothing (stopped ▸ holds.engine) moved]
      exact same
  | drain isDrain moved => exact absurd moved (holds.no_drain resolved isDrain)
  | lookupSettles => simp [isClean, resolved] at clean

/-! ## Runs -/

abbrev CleanRun (options : LiveOptions) (start : LiveEngine Value) (events : List (Event Value))
    (final : LiveEngine Value) : Prop :=
  Trace (Guarded (fun live event => live.isClean event = true) (Takes (step options)))
    start events final

theorem Sound.run {start : LiveEngine Value} (run : CleanRun options start events final)
    (holds : Sound start) : Sound final :=
  run.invariant (motive := Sound) (fun _ _ _ sound taken => sound.step taken.1 taken.2) holds

theorem Sound.quiet_run {start : LiveEngine Value} (run : CleanRun options start events final)
    (holds : Sound start) (resolved : start.stopResolved = true)
    (noRestart : ∀ event ∈ events, restarts event = false) :
    final.contractDispatches = start.contractDispatches ∧
      final.decodeFailed = start.decodeFailed := by
  induction run with
  | nil => exact ⟨rfl, rfl⟩
  | @cons current middle final event events taken _ induction =>
      have quiet := holds.quiet_step resolved taken.1 (noRestart event List.mem_cons_self) taken.2
      have later := induction (holds.step taken.1 taken.2) quiet.1 fun other member =>
        noRestart other (List.mem_cons_of_mem event member)
      exact ⟨later.1.trans quiet.2.1, later.2.trans quiet.2.2⟩

theorem stopped_engine_is_quiet (options : LiveOptions) (events : List (Event Value))
    (final : LiveEngine Value) (run : CleanRun options (initial options) events final) :
    QuietAfterStop options events := by
  rintro front later back stopped last rfl reached resolved noRestart ran
  rcases run.split with ⟨middle, toStop, behind⟩
  have same : middle = stopped :=
    (toStop.mono fun _ _ _ guarded => guarded.2).unique reached
  subst same
  rcases behind.split with ⟨after, through, _⟩
  have sameToo : after = last :=
    (through.mono fun _ _ _ guarded => guarded.2).unique ran
  subst sameToo
  exact (Sound.run toStop (initial_sound options)).quiet_run through resolved noRestart

def liveOptions : LiveOptions where
  queue := QueueConfig.resolve { highWaterMark := none, lowWaterMark := none, policy := none }
  soroban := { Options.default with onEvent := some "handleSorobanEvent" }
  hasSoroban := true
  hasCursorStore := false
  maxRetries := none
  abiRegistry := true

def recordComesIn : List (Event Unit) :=
  [.start none false, .subscription (.subscribeContractId "first" none), .message 1,
    .record (some "5") (some (.contract Engine.transfer)) none false,
    .drain (.routeNext fun _ => false), .drain .routed, .drain .drained]

def noSpecFound : Event Unit :=
  .lookupSettles 0 (.failed () "No ABI spec found" fun _ => false) fun _ => false

def pollerGoesOn (event : PollLoop.Event Unit) : Event Unit :=
  .poller event fun _ => false

/-- A call of `stop` that finds a poll at its request for events, which is aborted. -/
def pollInterrupted : List (Event Unit) :=
  [pollerGoesOn (.callLink 0), pollerGoesOn (.respond 0 PollLoop.oneEventAnswer), .stop,
    pollerGoesOn (.respond 0 fun _ => .error .abort), pollerGoesOn (.cleanUp 0),
    pollerGoesOn (.settleLink 0), .stopResolves 0]

/-- The lookup settles before `stop` is called. A `start` that waits for the network probe
goes on behind it. -/
theorem settled_lookup_is_quiet :
    ∃ final, Run liveOptions (initial liveOptions)
        (recordComesIn ++ ([noSpecFound] ++ pollInterrupted ++ [.probeSettles none, .verified 0]))
        final ∧
      final.stopResolved = true ∧ final.contractDispatches.length = 1 ∧
      QuietAfterStop liveOptions
        (recordComesIn ++
          ([noSpecFound] ++ pollInterrupted ++ [.probeSettles none, .verified 0])) := by
  have run : CleanRun liveOptions (initial liveOptions)
      (recordComesIn ++ ([noSpecFound] ++ pollInterrupted ++ [.probeSettles none, .verified 0]))
      _ := trace_of_runGuarded rfl
  exact ⟨_, run.mono fun _ _ _ guarded => guarded.2, rfl, rfl,
    stopped_engine_is_quiet liveOptions _ _ run⟩

/-- The lookup settles behind the `stop`, which has resolved. -/
theorem pending_lookup_reaches_watcher :
    ¬ QuietAfterStop liveOptions
      (recordComesIn ++ [.stop, pollerGoesOn (.callLink 0), pollerGoesOn (.settleLink 0),
        .stopResolves 0] ++ [noSpecFound]) := by
  intro quiet
  have noRestart : ∀ event ∈ [noSpecFound], restarts event = false := by
    simp [noSpecFound, restarts]
  have nothing := quiet
    (recordComesIn ++ [.stop, pollerGoesOn (.callLink 0), pollerGoesOn (.settleLink 0),
      .stopResolves 0]) [noSpecFound] [] _ _ rfl (trace_of_runEvents rfl) rfl noRestart
    (trace_of_runEvents rfl)
  exact absurd (congrArg List.length nothing.1) (by decide)

end LiveEngine

end Orbital.PulseCore.EventEngine
