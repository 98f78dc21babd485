import Orbital.PulseCore.EventEngine.Transports

/-! # Who has paused a source

The caller and backpressure pause sources in one set. What backpressure has paused
is resumed at its end. `stop` clears the set.
-/

namespace Orbital.PulseCore.EventEngine

open Orbital.Foundation

variable {Value : Type}

namespace EventQueue

/-- Whatever the caller has not paused is paused by backpressure, which does not
outlast the queue. -/
structure Attributed (callerPaused : Finset Source) (queue : EventQueue Value) : Prop where
  ours : ∀ source ∈ queue.pausedSources, source ∉ callerPaused →
    queue.wePausedSourcesForBackpressure = true
  entered : queue.wePausedSourcesForBackpressure = true → queue.inBackpressure = true
  queued : queue.inBackpressure = true → queue.phase ≠ .routing → queue.eventQueue ≠ []

variable {callerPaused : Finset Source} {queue next : EventQueue Value} {options : QueueOptions}
  {router : Router Value}

theorem initial_attributed : Attributed callerPaused (initial : EventQueue Value) where
  ours := fun _ member => absurd member (Finset.notMem_empty _)
  entered := fun entered => nomatch entered
  queued := fun entered => nomatch entered

/-! ## Accepting an event -/

theorem Attributed.push (holds : Attributed callerPaused queue) (item : QueuedEvent Value) :
    Attributed callerPaused (queue.push item) where
  ours := holds.ours
  entered := holds.entered
  queued := fun _ _ => List.concat_ne_nil item queue.eventQueue

theorem Attributed.processQueue (holds : Attributed callerPaused queue) :
    Attributed callerPaused queue.processQueue where
  ours := holds.ours
  entered := holds.entered
  queued := by
    intro inBackpressure notRouting
    apply holds.queued inBackpressure
    intro isRouting
    exact notRouting (phase_processQueue isRouting)

theorem Attributed.shiftPush (holds : Attributed callerPaused queue) (item : QueuedEvent Value) :
    Attributed callerPaused (queue.shiftOldest.push item) where
  ours := holds.ours
  entered := holds.entered
  queued := fun _ _ => List.concat_ne_nil item _

theorem Attributed.enterBackpressure (holds : Attributed callerPaused queue)
    (policy : QueuePolicy) (queued : queue.eventQueue ≠ []) :
    Attributed callerPaused (queue.enterBackpressure policy) := by
  cases policy with
  | pause => exact ⟨fun _ _ _ => rfl, fun _ => rfl, fun _ _ => queued⟩
  | dropOldest | dropNewest => exact ⟨holds.ours, fun _ => rfl, fun _ _ => queued⟩

theorem Attributed.enqueueOver (holds : Attributed callerPaused queue)
    (full : options.highWaterMark ≤ queue.eventQueue.length) (item : QueuedEvent Value)
    (noticeThrows : Bool) :
    Attributed callerPaused (queue.enqueueOver options item noticeThrows) := by
  have queued : queue.eventQueue ≠ [] := by
    apply List.ne_nil_of_length_pos
    exact Nat.lt_of_lt_of_le options.highPositive full
  have shifted : (queue.shiftOldest.push item).eventQueue ≠ [] := List.concat_ne_nil item _
  rw [EventQueue.enqueueOver]
  split
  · split
    · exact (holds.push item).processQueue
    · split
      · exact holds.enterBackpressure .pause queued
      · exact ((holds.enterBackpressure .pause queued).push item).processQueue
  · split
    · exact (holds.shiftPush item).processQueue
    · split
      · exact (holds.shiftPush item).enterBackpressure .dropOldest shifted
      · exact ((holds.shiftPush item).enterBackpressure .dropOldest shifted).processQueue
  · split
    · exact holds
    · exact holds.enterBackpressure .dropNewest queued

theorem Attributed.enqueueEvent (holds : Attributed callerPaused queue)
    (item : QueuedEvent Value) (noticeThrows : Bool) :
    Attributed callerPaused (queue.enqueueEvent options item noticeThrows) := by
  rw [EventQueue.enqueueEvent]
  split
  · exact holds
  · split
    · rename_i full
      exact holds.enqueueOver full item noticeThrows
    · exact (holds.push item).processQueue

theorem enqueueEvent_paused (queue : EventQueue Value) (item : QueuedEvent Value)
    (noticeThrows : Bool) :
    queue.pausedSources ⊆ (queue.enqueueEvent options item noticeThrows).pausedSources := by
  have grows : queue.pausedSources ⊆ (queue.enterBackpressure .pause).pausedSources := by
    intro source paused
    exact Finset.mem_insert_of_mem (Finset.mem_insert_of_mem paused)
  rw [EventQueue.enqueueEvent]
  split
  · exact subset_rfl
  · split
    · rw [EventQueue.enqueueOver]
      split
      · split
        · exact subset_rfl
        · split
          · exact grows
          · exact grows
      · split
        · exact subset_rfl
        · split
          · exact subset_rfl
          · exact subset_rfl
      · split
        · exact subset_rfl
        · exact subset_rfl
    · exact subset_rfl

/-! ## Routing an event -/

theorem route_pauses (router : Router Value) (throws : Emission → Bool)
    (queue : EventQueue Value) (item : QueuedEvent Value) :
    (queue.route router throws item).pausedSources = queue.pausedSources ∧
      (queue.route router throws item).wePausedSourcesForBackpressure =
        queue.wePausedSourcesForBackpressure ∧
      (queue.route router throws item).inBackpressure = queue.inBackpressure := by
  rw [route]
  split
  · exact ⟨rfl, rfl, rfl⟩
  · split
    · exact ⟨rfl, rfl, rfl⟩
    · rw [EventQueue.fanOut]
      split
      · exact ⟨rfl, rfl, rfl⟩
      · exact ⟨rfl, rfl, rfl⟩

theorem Attributed.route (holds : Attributed callerPaused queue) (throws : Emission → Bool)
    (item : QueuedEvent Value) : Attributed callerPaused (queue.route router throws item) := by
  rcases route_pauses router throws queue item with ⟨samePaused, sameWe, sameEntered⟩
  rcases route_frame router throws queue item with ⟨sameQueue, samePhase, _, _⟩
  exact {
    ours := by
      rw [samePaused, sameWe]
      exact holds.ours
    entered := by
      rw [sameWe, sameEntered]
      exact holds.entered
    queued := by
      rw [sameEntered, samePhase, sameQueue]
      exact holds.queued }

/-! ## The end of backpressure -/

theorem leaveBackpressure_ends (queue : EventQueue Value) (policy : QueuePolicy) :
    (queue.leaveBackpressure policy).inBackpressure = false ∧
      (queue.leaveBackpressure policy).wePausedSourcesForBackpressure = false := by
  rw [leaveBackpressure, notifyBackpressure, resumeAfterBackpressure]
  split
  · exact ⟨rfl, rfl⟩
  · rename_i notByUs
    exact ⟨rfl, Bool.eq_false_of_not_eq_true notByUs⟩

theorem leaveBackpressure_notByUs (policy : QueuePolicy)
    (notByUs : queue.wePausedSourcesForBackpressure = false) :
    (queue.leaveBackpressure policy).pausedSources = queue.pausedSources := by
  rw [EventQueue.leaveBackpressure, notifyBackpressure, resumeAfterBackpressure]
  split
  · rename_i byUs
    exact absurd byUs (ne_true_of_eq_false notByUs)
  · rfl

theorem Attributed.leaveBackpressure (holds : Attributed callerPaused queue)
    (policy : QueuePolicy) : (queue.leaveBackpressure policy).pausedSources ⊆ callerPaused := by
  intro source paused
  rcases leaveBackpressure_pausedSources queue policy paused with ⟨wasPaused, notByUs⟩
  by_contra notByCaller
  rw [holds.ours source wasPaused notByCaller] at notByUs
  cases notByUs

theorem Attributed.routed (holds : Attributed callerPaused queue) :
    Attributed callerPaused (queue.routed options) := by
  rw [EventQueue.routed]
  split
  · rcases leaveBackpressure_ends queue options.policy with ⟨isOut, notByUs⟩
    exact {
      ours := fun source paused notByCaller =>
        absurd (holds.leaveBackpressure options.policy paused) notByCaller
      entered := by
        intro byUs
        rw [notByUs] at byUs
        cases byUs
      queued := by
        intro entered
        rw [isOut] at entered
        cases entered }
  · rename_i goesOn
    exact {
      ours := holds.ours
      entered := holds.entered
      queued := by
        intro inBackpressure _ isEmpty
        apply goesOn
        have entered : queue.inBackpressure = true := inBackpressure
        have empty : queue.eventQueue = [] := isEmpty
        simp [entered, empty] }

theorem Attributed.routed_low (holds : Attributed callerPaused queue)
    (low : (queue.routed options).eventQueue.length ≤ options.lowWaterMark) :
    (queue.routed options).pausedSources ⊆ callerPaused := by
  rw [EventQueue.routed] at low ⊢
  split at low
  · rename_i isOver
    rw [if_pos isOver]
    exact holds.leaveBackpressure options.policy
  · rename_i goesOn
    rw [if_neg goesOn]
    intro source paused
    by_contra notByCaller
    have byUs := holds.ours source paused notByCaller
    apply goesOn
    have fits : queue.eventQueue.length ≤ options.lowWaterMark := low
    simp [holds.entered byUs, fits]

theorem Attributed.moveOn (holds : Attributed callerPaused queue)
    (notRouting : queue.phase ≠ .routing) (phase : Phase) :
    Attributed callerPaused { queue with phase } where
  ours := holds.ours
  entered := holds.entered
  queued := fun inBackpressure _ => holds.queued inBackpressure notRouting

theorem Attributed.goOn (holds : Attributed callerPaused queue) {event : Event Value}
    (moved : GoesOn options router queue event next) : Attributed callerPaused next := by
  cases moved with
  | routeNext isDraining queued =>
      apply Attributed.route
      exact ⟨holds.ours, holds.entered, fun _ notRouting => absurd rfl notRouting⟩
  | routed isRouting => exact holds.routed
  | notified isNotifying => exact holds.moveOn (by simp [isNotifying]) _
  | drained isDraining isEmpty => exact holds.moveOn (by simp [isDraining]) _
  | specFailed found | specSettled found => exact ⟨holds.ours, holds.entered, holds.queued⟩

theorem GoesOn.pausedSources {event : Event Value}
    (moved : GoesOn options router queue event next)
    (notOver : Transports.resumesBoth queue next = false) :
    next.pausedSources = queue.pausedSources := by
  cases moved with
  | routeNext isDraining queued => exact (route_pauses _ _ _ _).1
  | routed isRouting =>
      rw [EventQueue.routed] at notOver ⊢
      split
      · rename_i isOver
        have ended := (leaveBackpressure_ends queue options.policy).2
        rw [if_pos isOver, Transports.resumesBoth] at notOver
        simp only [ended, Bool.not_false, Bool.and_true] at notOver
        exact leaveBackpressure_notByUs options.policy notOver
      · rfl
  | notified isNotifying | drained isDraining isEmpty | specFailed found | specSettled found => rfl

end EventQueue

namespace Transports

open EventQueue (Attributed)

variable {options : QueueOptions} {router : EventQueue.Router Value}
  {transports next : Transports Value}

/-! ## Runs -/

structure PausesKept (transports : Transports Value) : Prop where
  kept : transports.keptPaused ⊆ transports.queue.pausedSources
  attributed : Attributed transports.callerPaused transports.queue

theorem initial_pausesKept : PausesKept (initial : Transports Value) where
  kept := Finset.empty_subset _
  attributed := EventQueue.initial_attributed

theorem PausesKept.routeNow (holds : PausesKept transports) (throws : Emission → Bool)
    (item : QueuedEvent Value) : PausesKept (transports.routeNow router throws item) where
  kept := by
    rw [Transports.routeNow, (EventQueue.route_pauses router throws transports.queue item).1]
    exact holds.kept
  attributed := holds.attributed.route throws item

theorem PausesKept.pauseSource (holds : PausesKept transports) (source : Source) :
    PausesKept (transports.pauseSource source) where
  kept := Finset.insert_subset_insert source holds.kept
  attributed := {
    ours := by
      intro other paused notByCaller
      rcases Finset.mem_insert.mp paused with rfl | before
      · exact absurd (Finset.mem_insert_self _ _) notByCaller
      · apply holds.attributed.ours other before
        exact fun byCaller => notByCaller (Finset.mem_insert_of_mem byCaller)
    entered := holds.attributed.entered
    queued := holds.attributed.queued }

theorem PausesKept.resumeSource (holds : PausesKept transports) (source : Source) :
    PausesKept (transports.resumeSource source) where
  kept := Finset.erase_subset_erase source holds.kept
  attributed := {
    ours := by
      intro other paused notByCaller
      rcases Finset.mem_erase.mp paused with ⟨different, before⟩
      apply holds.attributed.ours other before
      exact fun byCaller => notByCaller (Finset.mem_erase.mpr ⟨different, byCaller⟩)
    entered := holds.attributed.entered
    queued := holds.attributed.queued }

theorem PausesKept.goOn (holds : PausesKept transports) {event : EventQueue.Event Value}
    {queue : EventQueue Value}
    (moved : EventQueue.GoesOn options router transports.queue event queue) :
    PausesKept (transports.goOn event queue) where
  kept := by
    rw [Transports.goOn]
    split
    · exact Finset.empty_subset _
    · rename_i notOver
      rw [moved.pausedSources (Bool.eq_false_of_not_eq_true notOver)]
      exact holds.kept
  attributed := holds.attributed.goOn moved

theorem PausesKept.onmessage (holds : PausesKept transports) (cursor : Option String)
    (event : Option (NormalizedEvent Value)) (dedupeKey : Option String) (noticeThrows : Bool) :
    PausesKept (transports.onmessage options cursor event dedupeKey noticeThrows) := by
  cases event with
  | none => exact ⟨holds.kept, holds.attributed⟩
  | some event =>
      exact {
        kept := holds.kept.trans (EventQueue.enqueueEvent_paused _ _ _)
        attributed := holds.attributed.enqueueEvent _ _ }

theorem PausesKept.stop (holds : PausesKept transports) : PausesKept transports.stop where
  kept := Finset.empty_subset _
  attributed := {
    ours := fun _ paused => absurd paused (Finset.notMem_empty _)
    entered := holds.attributed.entered
    queued := holds.attributed.queued }

theorem PausesKept.step (holds : PausesKept transports) {event : Event Value}
    (taken : transports.step options router event = some next) : PausesKept next := by
  cases moves_of_step taken with
  | onmessage keyed => exact holds.onmessage _ _ _ _
  | unified keyed | soroban => exact holds.routeNow _ _
  | goOn moved => exact holds.goOn moved
  | pauseSource => exact holds.pauseSource _
  | resumeSource => exact holds.resumeSource _
  | openStream | streamCursorResolved => exact ⟨holds.kept, holds.attributed⟩
  | stop => exact holds.stop

/-- In every run: what the caller has paused since backpressure last resumed the
sources is paused; what the caller has not paused is paused in backpressure only,
which does not outlast the queue and ends behind the event that leaves it at the
low-water mark. -/
theorem caller_pauses (options : QueueOptions) (router : EventQueue.Router Value)
    (events : List (Event Value)) (final : Transports Value)
    (run : Run options router events final) :
    (∀ source ∈ final.keptPaused, source ∈ final.queue.pausedSources) ∧
    (∀ source ∈ final.queue.pausedSources, source ∉ final.callerPaused →
      final.queue.inBackpressure = true) ∧
    (final.queue.inBackpressure = true → final.queue.phase ≠ .routing →
      final.queue.eventQueue ≠ []) ∧
    (∀ next, final.step options router (.goOn .routed) = some next →
      next.queue.eventQueue.length ≤ options.lowWaterMark →
        ∀ source ∈ next.queue.pausedSources, source ∈ next.callerPaused) := by
  have kept : PausesKept final :=
    run.invariant (motive := PausesKept) (fun _ _ _ holds taken => holds.step taken)
      initial_pausesKept
  refine ⟨fun _ member => kept.kept member, ?_, kept.attributed.queued, ?_⟩
  · intro source paused notByCaller
    exact kept.attributed.entered (kept.attributed.ours source paused notByCaller)
  · intro next taken low
    rcases Option.map_eq_some_iff.mp taken with ⟨queue, moved, rfl⟩
    simp only [EventQueue.step] at moved
    split at moved
    · cases moved
      exact fun _ paused => kept.attributed.routed_low low paused
    · cases moved

def recordAt (cursor : String) (event : NormalizedEvent Unit) : Event Unit :=
  .onmessage (some cursor) (some event) none false

def routesNext : Event Unit := .goOn (.routeNext EventQueue.neverThrows)

open EventQueue (bumpOf marks oneWatcher)

/-- Backpressure comes and goes before the caller pauses a source. -/
theorem caller_pauses_behind_backpressure :
    ∃ final : Transports Unit,
      Run (marks 1) oneWatcher
        [.openStream, recordAt "1" (bumpOf "GABC"), routesNext, recordAt "2" (bumpOf "GDEF"),
          recordAt "3" (bumpOf "GXYZ"), .goOn .routed, routesNext, .goOn .routed,
          .goOn (.notified false), routesNext, .goOn .routed, .goOn .drained,
          .pauseSource .horizon, recordAt "4" (bumpOf "GABC")] final ∧
      Source.horizon ∈ final.queue.pausedSources ∧
      (∀ source ∈ final.queue.pausedSources, source ∉ final.callerPaused →
        final.queue.inBackpressure = true) ∧
      final.queue.inBackpressure = false := by
  have run : Run (marks 1) oneWatcher
      [.openStream, recordAt "1" (bumpOf "GABC"), routesNext, recordAt "2" (bumpOf "GDEF"),
        recordAt "3" (bumpOf "GXYZ"), .goOn .routed, routesNext, .goOn .routed,
        .goOn (.notified false), routesNext, .goOn .routed, .goOn .drained,
        .pauseSource .horizon, recordAt "4" (bumpOf "GABC")] _ := trace_of_runEvents rfl
  have pauses := caller_pauses (marks 1) oneWatcher _ _ run
  exact ⟨_, run, pauses.1 .horizon (by decide), pauses.2.1, rfl⟩

def unresumed (events : List (Event Value)) : Finset Source :=
  events.foldl (fun sources event =>
    match event with
    | .pauseSource source => insert source sources
    | .resumeSource source => sources.erase source
    | _ => sources) ∅

/-- The engine is stopped and started again. The caller has not resumed the source. -/
theorem stop_resumes_source :
    ∃ final : Transports Unit,
      Run (marks 1) oneWatcher [.openStream, .pauseSource .horizon, .stop, .openStream] final ∧
      ¬ unresumed ([.openStream, .pauseSource .horizon, .stop, .openStream] :
        List (Event Unit)) ⊆ final.queue.pausedSources :=
  ⟨_, trace_of_runEvents rfl, by decide⟩

end Transports

end Orbital.PulseCore.EventEngine
