import Orbital.Foundation.Attempts
import Orbital.PulseCore.EventEngine.EventQueue

/-! # Backpressure by pausing the sources

At the high-water mark the policy `pause` pauses both sources and still accepts
the event. `route` discards events of a paused source, so what is queued when the
sources are paused is lost, unless backpressure is over again before the drain
takes the next event.
-/

namespace Orbital.PulseCore.EventEngine

open Orbital.Foundation

variable {Value : Type}

def IsEnriched (event delivered : NormalizedEvent Value) : Prop :=
  delivered = event ∨ ∃ contractEvent payload, event = .contract contractEvent ∧
    delivered = .contract { contractEvent with payload }

def Dispatch.Complete (router : EventQueue.Router Value) (dispatch : Dispatch Value) : Prop :=
  dispatch.emissions = router.registrations.fanOut dispatch.delivered ∧
    IsEnriched dispatch.event dispatch.delivered

namespace EventQueue

/-! ## Nothing is lost -/

def waiting (queue : EventQueue Value) : List (NormalizedEvent Value) :=
  queue.eventQueue.map QueuedEvent.event ++ queue.lookups.map .contract

structure KeepsAccepted (router : Router Value) (queue : EventQueue Value) : Prop where
  conserved : Conserved queue.accepted queue.waiting (queue.dispatched.map Dispatch.event)
  complete : ∀ dispatch ∈ queue.dispatched, dispatch.Complete router

structure RoutedAll (router : Router Value) (queue : EventQueue Value) : Prop where
  conserved : Conserved queue.accepted [] (queue.dispatched.map Dispatch.event)
  complete : ∀ dispatch ∈ queue.dispatched, dispatch.Complete router

/-! ## When an accepted event is kept -/

/-- No listener throws that another one comes after. -/
def callsAll (throws : Emission → Bool) (emissions : List Emission) : Bool :=
  emissions.dropLast.all fun emission => !throws emission

variable {throws : Emission → Bool} {item : QueuedEvent Value}

theorem callsAll_iff {emissions : List Emission} :
    callsAll throws emissions = true ↔ untilThrow throws emissions = emissions := by
  simp [callsAll, untilThrow_eq_self_iff]

/-- The record finds its source paused, or the queue below the high-water mark, or
leaves the queue at the low-water mark while an event is being routed. -/
def hasRoom (options : QueueOptions) (queue : EventQueue Value) (event : NormalizedEvent Value) :
    Bool :=
  decide (sourceOf event ∈ queue.pausedSources) ||
    decide (queue.eventQueue.length < options.highWaterMark) ||
    (decide (queue.phase = .routing) &&
      decide (queue.eventQueue.length + 1 ≤ options.lowWaterMark))

/-- The condition on the state before a step and on the step. -/
def keeps (options : QueueOptions) (router : Router Value) (queue : EventQueue Value) :
    Event Value → Bool
  | .record event _ _ => queue.hasRoom options event
  | .pauseSource source => queue.eventQueue.all fun item => sourceOf item.event ≠ source
  | .routeNext throws => queue.eventQueue.head?.all fun item =>
      (looksUp router item.event).isSome ||
        callsAll throws (router.registrations.fanOut item.event)
  | .notified throws => !throws || queue.eventQueue.isEmpty
  | .specSettled index answer throws => queue.lookups[index]?.all fun event =>
      !answer.noticeThrows && callsAll throws
        (router.registrations.fanOut (.contract { event with payload := answer.payload }))
  | .resumeSource _ | .routed | .drained => true

/-! ## The invariant -/

/-- No queued event comes from a paused source; or backpressure, which has paused
the sources while an event is being routed, ends behind it. -/
def OpenFor (options : QueueOptions) (queue : EventQueue Value) : Prop :=
  (∀ item ∈ queue.eventQueue, sourceOf item.event ∉ queue.pausedSources) ∨
    (queue.phase = .routing ∧ queue.inBackpressure = true ∧
      queue.wePausedSourcesForBackpressure = true ∧
      options.highWaterMark ≤ queue.eventQueue.length ∧
      queue.eventQueue.length ≤ options.lowWaterMark)

structure Lossless (options : QueueOptions) (router : Router Value) (queue : EventQueue Value) :
    Prop where
  keepsAccepted : KeepsAccepted router queue
  openFor : OpenFor options queue
  idle : queue.phase = .idle → queue.eventQueue = []
  window : queue.dedupeWindow.SeenOn .horizon
  transports : ∀ item ∈ queue.eventQueue, ∀ dedupe ∈ item.dedupe, dedupe.transport = .horizon

variable {options : QueueOptions} {router : Router Value} {queue next : EventQueue Value}

theorem initial_lossless : Lossless options router (initial : EventQueue Value) where
  keepsAccepted := ⟨.nil, fun _ member => absurd member List.not_mem_nil⟩
  openFor := .inl fun _ member => absurd member List.not_mem_nil
  idle := fun _ => rfl
  window := DedupeWindow.initial_seenOn .horizon
  transports := fun _ member => absurd member List.not_mem_nil

/-! ### Accepting an event -/

theorem KeepsAccepted.of_same (holds : KeepsAccepted router queue)
    (sameQueue : next.eventQueue = queue.eventQueue) (sameLookups : next.lookups = queue.lookups)
    (sameAccepted : next.accepted = queue.accepted)
    (sameDispatched : next.dispatched = queue.dispatched) : KeepsAccepted router next where
  conserved := by
    rw [waiting, sameQueue, sameLookups, sameAccepted, sameDispatched]
    exact holds.conserved
  complete := by
    rw [sameDispatched]
    exact holds.complete

theorem KeepsAccepted.push (holds : KeepsAccepted router queue) (item : QueuedEvent Value) :
    KeepsAccepted router (queue.push item) where
  conserved := by
    refine (holds.conserved.accept item.event).rearrange ?_
    rw [waiting, waiting, EventQueue.push, List.map_append, List.append_assoc, List.append_assoc]
    exact List.perm_append_comm.append_left _
  complete := holds.complete

theorem Lossless.accept (holds : Lossless options router queue)
    (transport : ∀ dedupe ∈ item.dedupe, dedupe.transport = .horizon)
    (openFor : OpenFor options (queue.push item).processQueue) :
    Lossless options router (queue.push item).processQueue where
  keepsAccepted := (holds.keepsAccepted.push item).of_same rfl rfl rfl rfl
  openFor := openFor
  idle := by
    intro isIdle
    simp only [processQueue] at isIdle
    split at isIdle
    · cases isIdle
    · contradiction
  window := holds.window
  transports := by
    intro other member
    rcases List.mem_append.mp member with before | isNew
    · exact holds.transports other before
    · rw [List.mem_singleton.mp isNew]
      exact transport

theorem phase_processQueue (isRouting : queue.phase = .routing) :
    queue.processQueue.phase = .routing := by
  simp [processQueue, isRouting]

theorem OpenFor.push (holds : OpenFor options queue)
    (unpaused : sourceOf item.event ∉ queue.pausedSources)
    (hasRoom : queue.hasRoom options item.event = true) :
    OpenFor options (queue.push item).processQueue := by
  rcases holds with isOpen | ⟨isRouting, inBackpressure, wePaused, high, low⟩
  · left
    intro other member
    rcases List.mem_append.mp member with before | isNew
    · exact isOpen other before
    · rw [List.mem_singleton.mp isNew]
      exact unpaused
  · right
    have fits : queue.eventQueue.length + 1 ≤ options.lowWaterMark := by
      simp only [EventQueue.hasRoom, unpaused, decide_false, Bool.false_or, Bool.or_eq_true,
        Bool.and_eq_true, decide_eq_true_eq] at hasRoom
      omega
    refine ⟨phase_processQueue isRouting, inBackpressure, wePaused, ?_, ?_⟩
    · simp only [processQueue, EventQueue.push, List.length_append, List.length_singleton]
      omega
    · simpa [processQueue, EventQueue.push] using fits

theorem Lossless.enterBackpressure (holds : Lossless options router queue)
    (isRouting : queue.phase = .routing)
    (high : options.highWaterMark ≤ queue.eventQueue.length)
    (low : queue.eventQueue.length + 1 ≤ options.lowWaterMark) :
    Lossless options router (queue.enterBackpressure .pause) where
  keepsAccepted := holds.keepsAccepted.of_same rfl rfl rfl rfl
  openFor := by
    right
    have within : queue.eventQueue.length ≤ options.lowWaterMark := by omega
    exact ⟨isRouting, rfl, rfl, high, within⟩
  idle := holds.idle
  window := holds.window
  transports := holds.transports

theorem OpenFor.pushEntered (isRouting : queue.phase = .routing) (item : QueuedEvent Value)
    (high : options.highWaterMark ≤ queue.eventQueue.length)
    (low : queue.eventQueue.length + 1 ≤ options.lowWaterMark) :
    OpenFor options ((queue.enterBackpressure .pause).push item).processQueue := by
  right
  refine ⟨phase_processQueue isRouting, rfl, rfl, ?_, ?_⟩
  · change options.highWaterMark ≤ (queue.eventQueue ++ [item]).length
    rw [List.length_append]
    omega
  · change (queue.eventQueue ++ [item]).length ≤ options.lowWaterMark
    rw [List.length_append]
    exact low

theorem Lossless.enqueueEvent (holds : Lossless options router queue)
    (isPause : options.policy = .pause)
    (transport : ∀ dedupe ∈ item.dedupe, dedupe.transport = .horizon)
    (hasRoom : queue.hasRoom options item.event = true) (noticeThrows : Bool) :
    Lossless options router (queue.enqueueEvent options item noticeThrows) := by
  rw [EventQueue.enqueueEvent]
  split
  · exact holds
  · rename_i unpaused
    have accepted := holds.accept transport (holds.openFor.push unpaused hasRoom)
    split
    · rename_i high
      have inRoute : queue.phase = .routing ∧
          queue.eventQueue.length + 1 ≤ options.lowWaterMark := by
        simp only [EventQueue.hasRoom, unpaused, decide_false, Bool.false_or, Bool.or_eq_true,
          Bool.and_eq_true, decide_eq_true_eq] at hasRoom
        rcases hasRoom with below | inRoute
        · omega
        · exact inRoute
      have entered := holds.enterBackpressure inRoute.1 high inRoute.2
      simp only [enqueueOver, isPause]
      split
      · exact accepted
      · split
        · exact entered
        · exact entered.accept transport (.pushEntered inRoute.1 item high inRoute.2)
    · exact accepted

/-! ### Routing an event -/

theorem Lossless.notSeen (holds : Lossless options router queue)
    (member : item ∈ queue.eventQueue) :
    (queue.seen item).1 = false ∧ (queue.seen item).2.SeenOn .horizon := by
  rw [seen]
  cases ref : item.dedupe with
  | none => exact ⟨rfl, holds.window⟩
  | some dedupe =>
      have transport := holds.transports item member dedupe ref
      simp only [transport]
      exact holds.window.seenFrom dedupe.key

variable {event : NormalizedEvent Value} {rest : EventQueue Value} {source : Source}

theorem KeepsAccepted.dispatch (holds : KeepsAccepted router queue)
    {delivered : NormalizedEvent Value} (enriched : IsEnriched event delivered)
    (allCalled : callsAll throws (router.registrations.fanOut delivered) = true)
    (sameAccepted : rest.accepted = queue.accepted)
    (sameDispatched : rest.dispatched = queue.dispatched)
    (taken : queue.waiting.Perm (event :: rest.waiting)) :
    KeepsAccepted router (rest.dispatch router throws event delivered) where
  conserved := by
    have finished := holds.conserved.finish taken
    rw [← sameAccepted, ← sameDispatched] at finished
    rw [EventQueue.dispatch, List.map_append]
    exact finished
  complete := by
    intro dispatch member
    rw [EventQueue.dispatch] at member
    rcases List.mem_append.mp member with before | isNew
    · exact holds.complete dispatch (sameDispatched ▸ before)
    · rw [List.mem_singleton.mp isNew]
      exact ⟨callsAll_iff.mp allCalled, enriched⟩

theorem looksUp_eq_some {held : ContractEvent Value} (found : looksUp router event = some held) :
    event = .contract held := by
  cases event with
  | classic event payload => cases found
  | contract event =>
      simp only [looksUp] at found
      split at found
      · cases found
        rfl
      · cases found

theorem KeepsAccepted.fanOut (holds : KeepsAccepted router queue)
    (allCalled : ((looksUp router item.event).isSome ||
      callsAll throws (router.registrations.fanOut item.event)) = true)
    (sameAccepted : rest.accepted = queue.accepted)
    (sameDispatched : rest.dispatched = queue.dispatched)
    (sameLookups : rest.lookups = queue.lookups)
    (taken : queue.eventQueue = item :: rest.eventQueue) :
    KeepsAccepted router (rest.fanOut router throws item.event) := by
  have first : queue.waiting = item.event :: rest.waiting := by
    rw [waiting, waiting, taken, sameLookups]
    rfl
  rw [EventQueue.fanOut]
  split
  · rename_i held found
    have moved : (rest.waiting ++ [NormalizedEvent.contract held]).Perm queue.waiting := by
      rw [first, looksUp_eq_some found]
      exact List.perm_append_singleton _ _
    exact {
      conserved := by
        have rearranged := holds.conserved.rearrange moved
        rw [← sameAccepted, ← sameDispatched] at rearranged
        rw [waiting, List.map_append, ← List.append_assoc]
        exact rearranged
      complete := fun dispatch member => holds.complete dispatch (sameDispatched ▸ member) }
  · rename_i isDispatched
    rw [isDispatched, Option.isSome_none, Bool.false_or] at allCalled
    exact holds.dispatch (.inl rfl) allCalled sameAccepted sameDispatched (.of_eq first)

theorem fanOut_frame (router : Router Value) (throws : Emission → Bool)
    (queue : EventQueue Value) (event : NormalizedEvent Value) :
    (queue.fanOut router throws event).pausedSources = queue.pausedSources ∧
      (queue.fanOut router throws event).eventQueue = queue.eventQueue ∧
      (queue.fanOut router throws event).phase = queue.phase ∧
      (queue.fanOut router throws event).dedupeWindow = queue.dedupeWindow := by
  rw [EventQueue.fanOut]
  split
  · exact ⟨rfl, rfl, rfl, rfl⟩
  · exact ⟨rfl, rfl, rfl, rfl⟩

theorem Lossless.routeNext (holds : Lossless options router queue)
    (kept : queue.keeps options router (.routeNext throws) = true)
    (taken : queue.routeNext router throws = some next) : Lossless options router next := by
  rw [EventQueue.routeNext] at taken
  split at taken
  · rename_i item rest isDraining queued
    cases taken
    have member : item ∈ queue.eventQueue := queued ▸ List.mem_cons_self
    have isOpen : ∀ other ∈ queue.eventQueue, sourceOf other.event ∉ queue.pausedSources := by
      rcases holds.openFor with isOpen | ⟨isRouting, _⟩
      · exact isOpen
      · rw [isDraining] at isRouting
        cases isRouting
    have notSeen := holds.notSeen member
    have allCalled : ((looksUp router item.event).isSome ||
        callsAll throws (router.registrations.fanOut item.event)) = true := by
      simpa [keeps, queued] using kept
    have routes : ({ queue with eventQueue := rest, phase := .routing }).route router throws item =
        { queue with
          eventQueue := rest
          phase := .routing
          dedupeWindow := (queue.seen item).2 }.fanOut router throws item.event := by
      rw [route]
      exact (if_neg (ne_true_of_eq_false notSeen.1)).trans (if_neg (isOpen item member))
    rw [routes]
    rcases fanOut_frame router throws { queue with
      eventQueue := rest
      phase := .routing
      dedupeWindow := (queue.seen item).2 } item.event with
      ⟨samePaused, sameQueue, samePhase, sameWindow⟩
    exact {
      keepsAccepted := holds.keepsAccepted.fanOut allCalled rfl rfl rfl queued
      openFor := by
        left
        rw [samePaused, sameQueue]
        exact fun other isLeft => isOpen other (queued ▸ List.mem_cons_of_mem _ isLeft)
      idle := by
        rw [samePhase]
        intro isIdle
        cases isIdle
      window := by
        rw [sameWindow]
        exact notSeen.2
      transports := by
        rw [sameQueue]
        exact fun other isLeft => holds.transports other (queued ▸ List.mem_cons_of_mem _ isLeft) }
  · cases taken

/-! ### The other steps -/

theorem leaveBackpressure_pausedSources (queue : EventQueue Value) (policy : QueuePolicy)
    (paused : source ∈ (queue.leaveBackpressure policy).pausedSources) :
    source ∈ queue.pausedSources ∧ queue.wePausedSourcesForBackpressure = false := by
  rw [leaveBackpressure, notifyBackpressure, resumeAfterBackpressure] at paused
  split at paused
  · simp only [resumeSource, Finset.mem_erase] at paused
    cases source with
    | horizon => exact absurd rfl paused.2.1
    | soroban => exact absurd rfl paused.1
  · rename_i notByUs
    exact ⟨paused, Bool.eq_false_of_not_eq_true notByUs⟩

theorem leaveBackpressure_frame (queue : EventQueue Value) (policy : QueuePolicy) :
    (queue.leaveBackpressure policy).eventQueue = queue.eventQueue ∧
      (queue.leaveBackpressure policy).dedupeWindow = queue.dedupeWindow ∧
      (queue.leaveBackpressure policy).lookups = queue.lookups ∧
      (queue.leaveBackpressure policy).accepted = queue.accepted ∧
      (queue.leaveBackpressure policy).dispatched = queue.dispatched := by
  rw [leaveBackpressure, notifyBackpressure, resumeAfterBackpressure]
  split
  · exact ⟨rfl, rfl, rfl, rfl, rfl⟩
  · exact ⟨rfl, rfl, rfl, rfl, rfl⟩

theorem Lossless.routed (holds : Lossless options router queue) :
    Lossless options router (queue.routed options) := by
  rw [EventQueue.routed]
  split
  · rcases leaveBackpressure_frame queue options.policy with
      ⟨sameQueue, sameWindow, sameLookups, sameAccepted, sameDispatched⟩
    exact {
      keepsAccepted :=
        holds.keepsAccepted.of_same sameQueue sameLookups sameAccepted sameDispatched
      openFor := by
        left
        intro item member paused
        rcases leaveBackpressure_pausedSources queue options.policy paused with ⟨wasPaused, notByUs⟩
        rcases holds.openFor with isOpen | ⟨_, _, wePaused, _⟩
        · exact isOpen item (sameQueue ▸ member) wasPaused
        · rw [wePaused] at notByUs
          cases notByUs
      idle := fun isIdle => nomatch isIdle
      window := sameWindow ▸ holds.window
      transports := fun item member => holds.transports item (sameQueue ▸ member) }
  · rename_i notOver
    exact {
      keepsAccepted := holds.keepsAccepted.of_same rfl rfl rfl rfl
      openFor := by
        left
        rcases holds.openFor with isOpen | ⟨_, inBackpressure, _, _, low⟩
        · exact isOpen
        · exact absurd (by simp [inBackpressure, low]) notOver
      idle := fun isIdle => nomatch isIdle
      window := holds.window
      transports := holds.transports }

theorem Lossless.moveOn (holds : Lossless options router queue)
    (notRouting : queue.phase ≠ .routing) {phase : Phase}
    (idle : phase = .idle → queue.eventQueue = []) :
    Lossless options router { queue with phase } where
  keepsAccepted := holds.keepsAccepted.of_same rfl rfl rfl rfl
  openFor := .inl (holds.openFor.resolve_right fun inRoute => notRouting inRoute.1)
  idle := idle
  window := holds.window
  transports := holds.transports

theorem Lossless.pauseSource (holds : Lossless options router queue)
    (noneQueued : ∀ item ∈ queue.eventQueue, sourceOf item.event ≠ source) :
    Lossless options router (queue.pauseSource source) where
  keepsAccepted := holds.keepsAccepted.of_same rfl rfl rfl rfl
  openFor := by
    rcases holds.openFor with isOpen | inRoute
    · left
      intro item member paused
      rcases Finset.mem_insert.mp paused with isSource | before
      · exact noneQueued item member isSource
      · exact isOpen item member before
    · exact .inr inRoute
  idle := holds.idle
  window := holds.window
  transports := holds.transports

theorem Lossless.resumeSource (holds : Lossless options router queue) (source : Source) :
    Lossless options router (queue.resumeSource source) where
  keepsAccepted := holds.keepsAccepted.of_same rfl rfl rfl rfl
  openFor := by
    rcases holds.openFor with isOpen | inRoute
    · left
      intro item member paused
      exact isOpen item member (Finset.mem_of_mem_erase paused)
    · exact .inr inRoute
  idle := holds.idle
  window := holds.window
  transports := holds.transports

theorem Lossless.specSettled (holds : Lossless options router queue) {index : Nat}
    {answer : SpecAnswer Value}
    (kept : queue.keeps options router (.specSettled index answer throws) = true)
    (taken : queue.specSettled router throws index answer = some next) :
    Lossless options router next := by
  rw [EventQueue.specSettled] at taken
  split at taken
  · cases taken
  · rename_i event found
    cases taken
    rw [keeps, found, Option.all_some, Bool.and_eq_true, Bool.not_eq_true'] at kept
    have settles : queue.waiting.Perm (NormalizedEvent.contract event ::
        { queue with lookups := queue.lookups.eraseIdx index }.waiting) := by
      rcases List.getElem?_eq_some_iff.mp found with ⟨inside, rfl⟩
      have held := (List.getElem_cons_eraseIdx_perm inside).symm.map NormalizedEvent.contract
      exact (held.append_left _).trans List.perm_middle
    rw [kept.1]
    exact {
      keepsAccepted := holds.keepsAccepted.dispatch
        (.inr ⟨event, answer.payload, rfl, rfl⟩) kept.2 rfl rfl settles
      openFor := holds.openFor
      idle := holds.idle
      window := holds.window
      transports := holds.transports }

theorem Lossless.step (holds : Lossless options router queue) (isPause : options.policy = .pause)
    {event : Event Value} (kept : queue.keeps options router event = true)
    (taken : queue.step options router event = some next) : Lossless options router next := by
  cases event with
  | record event dedupeKey noticeThrows =>
      simp only [EventQueue.step] at taken
      split at taken
      · cases taken
      · cases taken
        have transport : ∀ dedupe ∈ (recordOf event dedupeKey).dedupe,
            dedupe.transport = .horizon := by
          intro dedupe member
          rcases Option.map_eq_some_iff.mp member with ⟨key, _, rfl⟩
          rfl
        exact holds.enqueueEvent isPause transport kept noticeThrows
  | pauseSource source =>
      simp only [EventQueue.step] at taken
      split at taken
      · cases taken
      · cases taken
        exact holds.pauseSource (by simpa [keeps] using kept)
  | resumeSource source =>
      simp only [EventQueue.step] at taken
      split at taken
      · cases taken
      · cases taken
        exact holds.resumeSource source
  | routeNext throws => exact holds.routeNext kept taken
  | routed =>
      simp only [EventQueue.step] at taken
      split at taken
      · cases taken
        exact holds.routed
      · cases taken
  | notified throws =>
      simp only [EventQueue.step] at taken
      split at taken
      · rename_i isNotifying
        cases taken
        apply holds.moveOn (by simp [isNotifying])
        intro isIdle
        split at isIdle
        · rename_i thrown
          simpa [keeps, thrown] using kept
        · cases isIdle
      · cases taken
  | drained =>
      simp only [EventQueue.step] at taken
      split at taken
      · rename_i atEnd
        cases taken
        exact holds.moveOn (by simp [atEnd.1]) fun _ => atEnd.2
      · cases taken
  | specSettled index answer throws =>
      simp only [EventQueue.step] at taken
      split at taken
      · exact holds.specSettled kept taken
      · cases taken

/-! ## The drain comes to its end -/

def Event.goesOn : Event Value → Bool
  | .record _ _ _ | .pauseSource _ | .resumeSource _ => false
  | .routeNext _ | .routed | .notified _ | .drained | .specSettled _ _ _ => true

def Phase.rank : Phase → Nat
  | .idle => 0
  | .draining => 1
  | .notifying => 2
  | .routing => 3

/-- Each step that the engine takes by itself makes this smaller. -/
def work (queue : EventQueue Value) : Nat :=
  4 * queue.eventQueue.length + Phase.rank queue.phase + queue.lookups.length

theorem route_frame (router : Router Value) (throws : Emission → Bool)
    (queue : EventQueue Value) (item : QueuedEvent Value) :
    (queue.route router throws item).eventQueue = queue.eventQueue ∧
      (queue.route router throws item).phase = queue.phase ∧
      (queue.route router throws item).accepted = queue.accepted ∧
      (queue.route router throws item).lookups.length ≤ queue.lookups.length + 1 := by
  rw [route]
  split
  · exact ⟨rfl, rfl, rfl, Nat.le_succ _⟩
  · split
    · exact ⟨rfl, rfl, rfl, Nat.le_succ _⟩
    · rw [EventQueue.fanOut]
      split
      · exact ⟨rfl, rfl, rfl, by simp⟩
      · exact ⟨rfl, rfl, rfl, Nat.le_succ _⟩

theorem callsAll_of_never (emissions : List Emission) :
    callsAll (fun _ => false) emissions = true := by
  simp [callsAll]

theorem goes_on (options : QueueOptions) (router : Router Value) (queue : EventQueue Value) :
    (queue.phase = .idle ∧ queue.lookups = []) ∨
      ∃ event next, Event.goesOn event = true ∧ queue.keeps options router event = true ∧
        queue.step options router event = some next ∧ next.work < queue.work ∧
        next.accepted = queue.accepted := by
  cases isAt : queue.phase with
  | idle =>
      cases held : queue.lookups with
      | nil => exact .inl ⟨rfl, rfl⟩
      | cons event rest =>
          have settles : queue.step options router
              (.specSettled 0 (.decoded event.payload) fun _ => false) =
              some ({ queue with lookups := rest }.dispatch router (fun _ => false)
                (.contract event) (.contract event)) := by
            simp [EventQueue.step, isAt, EventQueue.specSettled, held,
              SpecAnswer.noticeThrows, SpecAnswer.payload]
          refine .inr ⟨_, _, rfl, ?_, settles, ?_, rfl⟩
          · simp [keeps, held, SpecAnswer.noticeThrows, callsAll_of_never]
          · simp [work, EventQueue.dispatch, held]
  | draining =>
      right
      cases queued : queue.eventQueue with
      | nil =>
          refine ⟨.drained, _, rfl, rfl, if_pos ⟨isAt, queued⟩, ?_, rfl⟩
          simp [work, isAt, Phase.rank]
      | cons item rest =>
          rcases route_frame router (fun _ => false)
            { queue with eventQueue := rest, phase := .routing } item with
            ⟨sameQueue, samePhase, sameAccepted, fewLookups⟩
          refine ⟨.routeNext fun _ => false, _, rfl, ?_, ?_, ?_, sameAccepted⟩
          · simp [keeps, queued, callsAll_of_never]
          · simp only [EventQueue.step, EventQueue.routeNext, isAt, queued]
          · simp only [work, sameQueue, samePhase, isAt, queued, Phase.rank, List.length_cons]
            simp only at fewLookups
            omega
  | routing =>
      right
      refine ⟨.routed, _, rfl, rfl, if_pos isAt, ?_, ?_⟩
      · rw [EventQueue.routed]
        split
        · rcases leaveBackpressure_frame queue options.policy with ⟨sameQueue, _, sameLookups, _, _⟩
          simp only [work, sameQueue, sameLookups, isAt, Phase.rank]
          omega
        · simp [work, isAt, Phase.rank]
      · rw [EventQueue.routed]
        split
        · exact (leaveBackpressure_frame queue options.policy).2.2.2.1
        · rfl
  | notifying =>
      right
      refine ⟨.notified false, _, rfl, rfl, if_pos isAt, ?_, rfl⟩
      simp [work, isAt, Phase.rank]

theorem Lossless.finishes (holds : Lossless options router queue)
    (isPause : options.policy = .pause) :
    ∃ rest after, (∀ event ∈ rest, Event.goesOn event = true) ∧
      Trace (Guarded (fun queue event => queue.keeps options router event = true)
        (Takes (EventQueue.step options router))) queue rest after ∧
      after.accepted = queue.accepted ∧ RoutedAll router after := by
  induction left : queue.work using Nat.strong_induction_on generalizing queue with
  | _ work induction =>
      rcases goes_on options router queue with ⟨isIdle, noLookups⟩ | goesOn
      · refine ⟨[], queue, fun _ member => absurd member List.not_mem_nil, .nil _, rfl, ?_⟩
        have nothingWaits : queue.waiting = [] := by
          rw [waiting, holds.idle isIdle, noLookups]
          rfl
        exact ⟨nothingWaits ▸ holds.keepsAccepted.conserved, holds.keepsAccepted.complete⟩
      · rcases goesOn with ⟨event, next, isOwn, kept, taken, less, sameAccepted⟩
        rcases induction next.work (left ▸ less) (holds.step isPause kept taken) rfl with
          ⟨rest, after, areOwn, trace, laterAccepted, routedAll⟩
        refine ⟨event :: rest, after, ?_, .cons ⟨kept, taken⟩ trace,
          laterAccepted.trans sameAccepted, routedAll⟩
        intro other member
        rcases List.mem_cons.mp member with rfl | later
        · exact isOwn
        · exact areOwn other later

/-! ## Runs -/

/-- In every run whose steps keep accepted events, each accepted event waits or has
been given to its watchers once, none waits in the queue when the drain is over,
and by going on the engine gives all of them to their watchers. -/
theorem pause_keeps_accepted (options : QueueOptions) (isPause : options.policy = .pause)
    (router : Router Value) (events : List (Event Value)) (final : EventQueue Value)
    (run : Trace (Guarded (fun queue event => queue.keeps options router event = true)
      (Takes (step options router))) initial events final) :
    KeepsAccepted router final ∧ (final.phase = .idle → final.eventQueue = []) ∧
      ∃ rest after, (∀ event ∈ rest, Event.goesOn event = true) ∧
        Trace (Guarded (fun queue event => queue.keeps options router event = true)
          (Takes (step options router))) final rest after ∧
        after.accepted = final.accepted ∧ RoutedAll router after := by
  have lossless : Lossless options router final := by
    refine run.invariant (motive := Lossless options router) ?_ initial_lossless
    rintro current event next holds ⟨kept, taken⟩
    exact holds.step isPause kept taken
  exact ⟨lossless.keepsAccepted, lossless.idle, lossless.finishes isPause⟩

def oneWatcher : Router Unit where
  registrations := {
    engine := .initial none
    registry := InsertionMap.empty.set "GABC" 0
    distinct := by decide }
  abiRegistry := false

def bumpOf (account : String) : NormalizedEvent Unit :=
  .classic (.bumpSequence account) ()

def marks (high : Int) : QueueOptions :=
  QueueConfig.resolve { highWaterMark := some high, lowWaterMark := none, policy := none }

def neverThrows (_ : Emission) : Bool := false

/-- A record that comes in while another one is routed waits its turn. -/
theorem pause_keeps_accepted_two_records :
    ∃ final : EventQueue Unit,
      Run (marks 2) oneWatcher initial
        [.record (bumpOf "GABC") none false, .routeNext neverThrows,
          .record (bumpOf "GXYZ") none false, .routed, .routeNext neverThrows, .routed,
          .drained] final ∧
      final.dispatched.map Dispatch.emissions =
        [[⟨0, .typed .accountBumpSequence⟩, ⟨0, .all⟩], []] ∧
      KeepsAccepted oneWatcher final := by
  have run : Trace (Guarded (fun queue event => queue.keeps (marks 2) oneWatcher event = true)
      (Takes (step (marks 2) oneWatcher))) initial
      [.record (bumpOf "GABC") none false, .routeNext neverThrows,
        .record (bumpOf "GXYZ") none false, .routed, .routeNext neverThrows, .routed,
        .drained] _ := trace_of_runGuarded rfl
  exact ⟨_, run.mono fun _ _ _ guarded => guarded.2, rfl,
    (pause_keeps_accepted (marks 2) rfl oneWatcher _ _ run).1⟩

/-- Two records come in while one is routed. The second finds the queue at the
high-water mark, and the first is discarded for it although it was accepted. -/
theorem crossing_discards_accepted :
    ∃ final : EventQueue Unit,
      Run (marks 1) oneWatcher initial
        [.record (bumpOf "GABC") none false, .routeNext neverThrows,
          .record (bumpOf "GDEF") none false, .record (bumpOf "GXYZ") none false, .routed,
          .routeNext neverThrows, .routed, .notified false, .routeNext neverThrows, .routed,
          .drained] final ∧
      final.phase = .idle ∧ final.lookups = [] ∧
      final.accepted = [bumpOf "GABC", bumpOf "GDEF", bumpOf "GXYZ"] ∧
      final.dispatched.map Dispatch.event = [bumpOf "GABC", bumpOf "GXYZ"] ∧
      ¬ RoutedAll oneWatcher final := by
  refine ⟨_, trace_of_runEvents rfl, rfl, rfl, rfl, rfl, ?_⟩
  intro routedAll
  exact absurd routedAll.conserved.length_eq (by decide)

end EventQueue

end Orbital.PulseCore.EventEngine
