import Mathlib.Data.List.Perm.Subperm
import Orbital.PulseCore.EventEngine.CallerPauses

/-! # What a pause lets through

A record whose source is paused is discarded on arrival. `resumeSource` reads
nothing again: the source goes on with the records that come in behind it, and the
cursor is that of the last record, delivered or not.
-/

namespace Orbital.PulseCore.EventEngine

open Orbital.Foundation

variable {Value : Type}

namespace EventQueue

variable {options : QueueOptions} {router : Router Value} {queue next : EventQueue Value}

theorem enqueueEvent_cases (options : QueueOptions) (queue : EventQueue Value)
    (item : QueuedEvent Value) (noticeThrows : Bool) :
    (queue.enqueueEvent options item noticeThrows).accepted = queue.accepted ∧
      (queue.enqueueEvent options item noticeThrows).eventQueue = queue.eventQueue ∨
    sourceOf item.event ∉ queue.pausedSources ∧
      (queue.enqueueEvent options item noticeThrows).accepted =
        queue.accepted ++ [item.event] ∧
      ∃ kept, kept.Sublist queue.eventQueue ∧
        (queue.enqueueEvent options item noticeThrows).eventQueue = kept ++ [item] := by
  have whole : queue.eventQueue.Sublist queue.eventQueue := List.Sublist.refl _
  have shifted : queue.eventQueue.tail.Sublist queue.eventQueue := List.tail_sublist _
  rw [EventQueue.enqueueEvent]
  split
  · exact .inl ⟨rfl, rfl⟩
  · rename_i unpaused
    split
    · rw [EventQueue.enqueueOver]
      split
      · split
        · exact .inr ⟨unpaused, rfl, _, whole, rfl⟩
        · split
          · exact .inl ⟨rfl, rfl⟩
          · exact .inr ⟨unpaused, rfl, _, whole, rfl⟩
      · split
        · exact .inr ⟨unpaused, rfl, _, shifted, rfl⟩
        · split
          · exact .inr ⟨unpaused, rfl, _, shifted, rfl⟩
          · exact .inr ⟨unpaused, rfl, _, shifted, rfl⟩
      · split
        · exact .inl ⟨rfl, rfl⟩
        · exact .inl ⟨rfl, rfl⟩
    · exact .inr ⟨unpaused, rfl, _, whole, rfl⟩

theorem enqueueEvent_pause (isPause : options.policy = .pause) (queue : EventQueue Value)
    (item : QueuedEvent Value) :
    (queue.enqueueEvent options item false).accepted =
      queue.accepted ++
        if sourceOf item.event ∈ queue.pausedSources then [] else [item.event] := by
  rw [EventQueue.enqueueEvent]
  split
  · exact (List.append_nil _).symm
  · split
    · simp only [EventQueue.enqueueOver, isPause]
      split
      · rfl
      · rfl
    · rfl

theorem enqueueEvent_frame (options : QueueOptions) (queue : EventQueue Value)
    (item : QueuedEvent Value) (noticeThrows : Bool) :
    (queue.enqueueEvent options item noticeThrows).dispatched = queue.dispatched ∧
      (queue.enqueueEvent options item noticeThrows).lookups = queue.lookups ∧
      (queue.enqueueEvent options item noticeThrows).dedupeWindow = queue.dedupeWindow := by
  rw [EventQueue.enqueueEvent]
  split
  · exact ⟨rfl, rfl, rfl⟩
  · split
    · rw [EventQueue.enqueueOver]
      split
      · split
        · exact ⟨rfl, rfl, rfl⟩
        · split
          · exact ⟨rfl, rfl, rfl⟩
          · exact ⟨rfl, rfl, rfl⟩
      · split
        · exact ⟨rfl, rfl, rfl⟩
        · split
          · exact ⟨rfl, rfl, rfl⟩
          · exact ⟨rfl, rfl, rfl⟩
      · split
        · exact ⟨rfl, rfl, rfl⟩
        · exact ⟨rfl, rfl, rfl⟩
    · exact ⟨rfl, rfl, rfl⟩

def passedOn (queue : EventQueue Value) : List (NormalizedEvent Value) :=
  queue.dispatched.map Dispatch.event ++ queue.lookups.map .contract

/-- `route` passes on what its checks let through. -/
theorem route_passedOn (router : Router Value) (throws : Emission → Bool)
    (queue : EventQueue Value) (item : QueuedEvent Value) :
    (queue.route router throws item).passedOn.Perm
      (queue.passedOn ++ if queue.verdict item = .fannedOut then [item.event] else []) := by
  rw [route, verdict]
  split
  · simp [passedOn]
  · split
    · simp [passedOn]
    · rw [if_pos rfl, EventQueue.fanOut]
      split
      · rename_i held found
        rw [looksUp_eq_some found]
        simp [passedOn]
      · simp only [passedOn, dispatch, List.map_append, List.map_cons, List.map_nil,
          List.append_assoc]
        exact List.perm_append_comm.append_left _

end EventQueue

namespace Transports

variable {options : QueueOptions} {router : EventQueue.Router Value}
  {transports next : Transports Value}

/-! ## What was let in -/

/-- The events of the records that found their source not paused. -/
def openEvents (received : List (Received Value)) : List (NormalizedEvent Value) :=
  received.filterMap fun record => if record.paused then none else record.event

def fannedOut (routed : List (Routed Value)) : List (NormalizedEvent Value) :=
  (routed.filter fun call => call.verdict = .fannedOut).map fun call => call.item.event

def fromQueue (routed : List (Routed Value)) : List (NormalizedEvent Value) :=
  (routed.filter fun call => call.queued).map fun call => call.item.event

def direct (routed : List (Routed Value)) : List (NormalizedEvent Value) :=
  fannedOut (routed.filter fun call => !call.queued)

theorem fannedOut_subperm (routed : List (Routed Value)) :
    (fannedOut routed).Subperm (fromQueue routed ++ direct routed) := by
  induction routed with
  | nil => exact List.Subperm.refl _
  | cons call rest induction =>
      have grows : (call.item.event :: fannedOut rest).Subperm
          (call.item.event :: (fromQueue rest ++ direct rest)) :=
        (List.subperm_cons _).mpr induction
      cases queued : call.queued with
      | true =>
          by_cases isOut : call.verdict = .fannedOut
          · simpa [fannedOut, fromQueue, direct, queued, isOut] using grows
          · have weaker := induction.trans (List.subperm_cons_self (a := call.item.event))
            simpa [fannedOut, fromQueue, direct, queued, isOut] using weaker
      | false =>
          by_cases isOut : call.verdict = .fannedOut
          · have moved := grows.trans List.perm_middle.symm.subperm
            simpa [fannedOut, fromQueue, direct, queued, isOut] using moved
          · simpa [fannedOut, fromQueue, direct, queued, isOut] using induction

/-! ## The invariant -/

structure LetsIn (transports : Transports Value) : Prop where
  accepted : transports.queue.accepted.Sublist (openEvents transports.received)
  queued : (fromQueue transports.routed ++
    transports.queue.eventQueue.map QueuedEvent.event).Sublist transports.queue.accepted
  passedOn : transports.queue.passedOn.Subperm (fannedOut transports.routed)

theorem initial_letsIn : LetsIn (initial : Transports Value) where
  accepted := List.Sublist.refl _
  queued := List.Sublist.refl _
  passedOn := List.Subperm.refl _

theorem openEvents_snoc (received : List (Received Value)) (record : Received Value) :
    openEvents (received ++ [record]) =
      openEvents received ++ if record.paused then [] else record.event.toList := by
  rw [openEvents, List.filterMap_append]
  congr 1
  cases paused : record.paused with
  | true => simp [paused]
  | false =>
      cases isEvent : record.event with
      | none | some event => simp [paused, isEvent]

theorem LetsIn.onmessage (holds : LetsIn transports) (cursor : Option String)
    (event : Option (NormalizedEvent Value)) (dedupeKey : Option String) (noticeThrows : Bool) :
    LetsIn (transports.onmessage options cursor event dedupeKey noticeThrows) := by
  have received : (openEvents transports.received).Sublist
      (openEvents (transports.onmessage options cursor event dedupeKey noticeThrows).received) := by
    unfold Transports.onmessage
    rw [openEvents_snoc]
    exact List.sublist_append_left _ _
  cases event with
  | none => exact ⟨holds.accepted.trans received, holds.queued, holds.passedOn⟩
  | some event =>
      rcases EventQueue.enqueueEvent_frame options transports.queue
        (EventQueue.recordOf event dedupeKey) noticeThrows with ⟨sameDispatched, sameLookups, _⟩
      have samePassedOn : (transports.queue.enqueueEvent options
          (EventQueue.recordOf event dedupeKey) noticeThrows).passedOn =
          transports.queue.passedOn := by
        rw [EventQueue.passedOn, sameDispatched, sameLookups]
        rfl
      rcases EventQueue.enqueueEvent_cases options transports.queue
        (EventQueue.recordOf event dedupeKey) noticeThrows with
        ⟨sameAccepted, sameQueue⟩ | ⟨unpaused, accepted, kept, isKept, queued⟩
      · exact {
          accepted := by
            refine List.Sublist.trans ?_ received
            rw [Transports.onmessage]
            exact sameAccepted ▸ holds.accepted
          queued := by
            rw [Transports.onmessage]
            simp only [sameAccepted, sameQueue]
            exact holds.queued
          passedOn := by
            rw [Transports.onmessage]
            exact samePassedOn ▸ holds.passedOn }
      · have isOpen : transports.isPaused event = false := decide_eq_false unpaused
        exact {
          accepted := by
            rw [Transports.onmessage, openEvents_snoc]
            simp only [accepted, Option.any_some, isOpen, Option.toList_some]
            exact holds.accepted.append (List.Sublist.refl _)
          queued := by
            rw [Transports.onmessage]
            simp only [accepted, queued, List.map_append, ← List.append_assoc]
            refine List.Sublist.append ?_ (List.Sublist.refl _)
            exact (List.Sublist.append (List.Sublist.refl _) (isKept.map _)).trans holds.queued
          passedOn := by
            rw [Transports.onmessage]
            exact samePassedOn ▸ holds.passedOn }

theorem fannedOut_snoc (routed : List (Routed Value)) (call : Routed Value) :
    fannedOut (routed ++ [call]) =
      fannedOut routed ++ if call.verdict = .fannedOut then [call.item.event] else [] := by
  by_cases isOut : call.verdict = .fannedOut
  · simp [fannedOut, isOut]
  · simp [fannedOut, isOut]

theorem LetsIn.routeNow (holds : LetsIn transports) (throws : Emission → Bool)
    (item : QueuedEvent Value) : LetsIn (transports.routeNow router throws item) := by
  rcases EventQueue.route_frame router throws transports.queue item with
    ⟨sameQueue, _, sameAccepted, _⟩
  exact {
    accepted := by
      rw [Transports.routeNow]
      exact sameAccepted ▸ holds.accepted
    queued := by
      rw [Transports.routeNow]
      simp only [sameQueue, sameAccepted, fromQueue, List.filter_append, List.map_append]
      simpa [fromQueue] using holds.queued
    passedOn := by
      rw [Transports.routeNow, fannedOut_snoc]
      refine (EventQueue.route_passedOn router throws transports.queue item).subperm.trans ?_
      exact holds.passedOn.append (List.Subperm.refl _) }

theorem fromQueue_snoc (routed : List (Routed Value)) {call : Routed Value}
    (queued : call.queued = true) :
    fromQueue (routed ++ [call]) = fromQueue routed ++ [call.item.event] := by
  simp [fromQueue, queued]

variable {event : EventQueue.Event Value} {queue : EventQueue Value}

theorem LetsIn.moveOn (holds : LetsIn transports)
    (routesNothing : routes transports.queue event = [])
    (sameAccepted : queue.accepted = transports.queue.accepted)
    (sameQueue : queue.eventQueue = transports.queue.eventQueue)
    (passedOn : queue.passedOn.Subperm transports.queue.passedOn) :
    LetsIn (transports.goOn event queue) where
  accepted := by
    rw [Transports.goOn]
    exact sameAccepted ▸ holds.accepted
  queued := by
    rw [Transports.goOn, routesNothing, List.append_nil]
    simp only [sameAccepted, sameQueue]
    exact holds.queued
  passedOn := by
    rw [Transports.goOn, routesNothing, List.append_nil]
    exact passedOn.trans holds.passedOn

theorem LetsIn.routeNext (holds : LetsIn transports) {throws : Emission → Bool}
    {item : QueuedEvent Value} {rest : List (QueuedEvent Value)}
    (queued : transports.queue.eventQueue = item :: rest) :
    LetsIn (transports.goOn (.routeNext throws)
      ({ transports.queue with eventQueue := rest, phase := .routing }.route router throws
        item)) := by
  have routesItem : routes transports.queue (.routeNext throws) =
      [{ item, queued := true, verdict := transports.queue.verdict item }] := by
    rw [routes, queued]
    rfl
  rcases EventQueue.route_frame router throws
    { transports.queue with eventQueue := rest, phase := .routing } item with
    ⟨sameQueue, _, sameAccepted, _⟩
  exact {
    accepted := by
      rw [Transports.goOn]
      simp only [sameAccepted]
      exact holds.accepted
    queued := by
      have before := holds.queued
      rw [queued] at before
      rw [Transports.goOn, routesItem, fromQueue_snoc _ rfl]
      simp only [sameQueue, sameAccepted, List.append_assoc]
      exact before
    passedOn := by
      rw [Transports.goOn, routesItem, fannedOut_snoc]
      refine (EventQueue.route_passedOn router throws _ item).subperm.trans ?_
      exact holds.passedOn.append (List.Subperm.refl _) }

theorem eraseIdx_perm {index : Nat} {event : ContractEvent Value}
    (found : queue.lookups[index]? = some event) :
    (.contract event :: (queue.lookups.eraseIdx index).map NormalizedEvent.contract).Perm
      (queue.lookups.map NormalizedEvent.contract) := by
  rcases List.getElem?_eq_some_iff.mp found with ⟨inside, rfl⟩
  exact (List.getElem_cons_eraseIdx_perm inside).map NormalizedEvent.contract

theorem LetsIn.goOn (holds : LetsIn transports)
    (moved : EventQueue.GoesOn options router transports.queue event queue) :
    LetsIn (transports.goOn event queue) := by
  cases moved with
  | routeNext isDraining queued => exact holds.routeNext queued
  | routed isRouting =>
      rcases EventQueue.routed_frame options transports.queue with
        ⟨sameQueue, _, sameLookups, sameAccepted, sameDispatched⟩
      refine holds.moveOn rfl sameAccepted sameQueue ?_
      simp only [EventQueue.passedOn, sameDispatched, sameLookups]
      exact List.Subperm.refl _
  | notified isNotifying | drained isDraining isEmpty =>
      exact holds.moveOn rfl rfl rfl (List.Subperm.refl _)
  | specFailed found =>
      refine holds.moveOn rfl rfl rfl ?_
      apply (List.Subperm.refl _).append
      exact List.subperm_cons_self.trans (eraseIdx_perm found).subperm
  | specSettled found =>
      refine holds.moveOn rfl rfl rfl ?_
      simp only [EventQueue.passedOn, EventQueue.dispatch, List.map_append, List.map_cons,
        List.map_nil, List.append_assoc]
      exact ((eraseIdx_perm found).append_left _).subperm

theorem LetsIn.step (holds : LetsIn transports) {event : Event Value}
    (taken : transports.step options router event = some next) : LetsIn next := by
  cases moves_of_step taken with
  | onmessage keyed => exact holds.onmessage _ _ _ _
  | unified keyed | soroban => exact holds.routeNow _ _
  | goOn moved => exact holds.goOn moved
  | pauseSource | resumeSource | openStream | streamCursorResolved | stop =>
      exact ⟨holds.accepted, holds.queued, holds.passedOn⟩

/-! ## The policy `pause` -/

def Event.noticeReturns : Event Value → Bool
  | .onmessage _ _ _ noticeThrows => !noticeThrows
  | _ => true

def LetsAllIn (transports : Transports Value) : Prop :=
  transports.queue.accepted = openEvents transports.received

theorem LetsAllIn.onmessage (holds : LetsAllIn transports) (isPause : options.policy = .pause)
    (cursor : Option String) (event : Option (NormalizedEvent Value))
    (dedupeKey : Option String) :
    LetsAllIn (transports.onmessage options cursor event dedupeKey false) := by
  rw [LetsAllIn] at holds ⊢
  cases event with
  | none =>
      rw [Transports.onmessage, openEvents_snoc]
      simpa using holds
  | some event =>
      rw [Transports.onmessage, openEvents_snoc]
      simp only [EventQueue.enqueueEvent_pause isPause, holds, Option.any_some, isPaused,
        decide_eq_true_eq, Option.toList_some]
      rfl

theorem goOn_accepted (moved : EventQueue.GoesOn options router transports.queue event queue) :
    queue.accepted = transports.queue.accepted := by
  cases moved with
  | routeNext isDraining queued => exact (EventQueue.route_frame router _ _ _).2.2.1
  | routed isRouting => exact (EventQueue.routed_frame options transports.queue).2.2.2.1
  | notified isNotifying | drained isDraining isEmpty | specFailed found | specSettled found => rfl

theorem LetsAllIn.step (holds : LetsAllIn transports) (isPause : options.policy = .pause)
    {event : Event Value} (returns : event.noticeReturns = true)
    (taken : transports.step options router event = some next) : LetsAllIn next := by
  cases moves_of_step taken with
  | @onmessage cursor event dedupeKey noticeThrows keyed =>
      have quiet : noticeThrows = false := by simpa [Event.noticeReturns] using returns
      rw [quiet]
      exact holds.onmessage isPause cursor event dedupeKey
  | unified keyed | soroban => exact (EventQueue.route_frame router _ _ _).2.2.1.trans holds
  | goOn moved => exact (goOn_accepted moved).trans holds
  | pauseSource | resumeSource | openStream | streamCursorResolved | stop => exact holds

/-! ## Runs -/

def cursorBehind (cursor : Option String) : Event Value → Option String
  | .onmessage received _ _ _ => received <|> cursor
  | .openStream => some "now"
  | .streamCursorResolved resolved => some resolved
  | .stop => none
  | .dispatchUnifiedEvent _ _ _ | .handleSorobanEvent _ _ | .goOn _ | .pauseSource _
  | .resumeSource _ => cursor

def cursorAfter (events : List (Event Value)) : Option String :=
  events.foldl cursorBehind none

theorem horizonCursor_step {event : Event Value}
    (taken : transports.step options router event = some next) :
    next.horizonCursor = cursorBehind transports.horizonCursor event := by
  cases moves_of_step taken with
  | onmessage keyed | unified keyed | soroban | goOn moved | pauseSource | resumeSource
  | openStream | streamCursorResolved | stop => rfl

theorem horizonCursor_run {start final : Transports Value} {events : List (Event Value)}
    (run : Trace (Takes (step options router)) start events final) :
    final.horizonCursor = events.foldl cursorBehind start.horizonCursor := by
  induction run with
  | nil => rfl
  | cons taken _ induction => rw [induction, horizonCursor_step taken, List.foldl_cons]

/-- An event is given to watchers at most as often as it came in on an open source. -/
theorem LetsIn.delivered (holds : LetsIn transports) :
    (transports.queue.dispatched.map Dispatch.event).Subperm
      (openEvents transports.received ++ direct transports.routed) := by
  have passedOn : (transports.queue.dispatched.map Dispatch.event).Subperm
      transports.queue.passedOn := (List.sublist_append_left _ _).subperm
  have drained : (fromQueue transports.routed).Sublist (openEvents transports.received) :=
    ((List.sublist_append_left _ _).trans holds.queued).trans holds.accepted
  exact ((passedOn.trans holds.passedOn).trans (fannedOut_subperm _)).trans
    (drained.subperm.append (List.Subperm.refl _))

/-- In every run: an event is delivered at most as often as its records found their
source not paused, besides what the other transports bring; so an event that only
came in while its source was paused is never delivered. Under the policy `pause` all
others are accepted, in order. The cursor is that of the last record. -/
theorem pause_lets_through (options : QueueOptions) (router : EventQueue.Router Value)
    (events : List (Event Value)) (final : Transports Value)
    (run : Run options router events final) :
    (final.queue.dispatched.map Dispatch.event).Subperm
      (openEvents final.received ++ direct final.routed) ∧
    (∀ event, (∀ record ∈ final.received, record.event = some event → record.paused = true) →
      event ∉ direct final.routed → event ∉ final.queue.dispatched.map Dispatch.event) ∧
    final.queue.accepted.Sublist (openEvents final.received) ∧
    (options.policy = .pause → (∀ event ∈ events, event.noticeReturns = true) →
      final.queue.accepted = openEvents final.received) ∧
    final.horizonCursor = cursorAfter events := by
  have letsIn : LetsIn final :=
    run.invariant (motive := LetsIn) (fun _ _ _ holds taken => holds.step taken) initial_letsIn
  refine ⟨letsIn.delivered, ?_, letsIn.accepted, ?_, horizonCursor_run run⟩
  · intro event onlyPaused notDirect delivered
    rcases List.mem_append.mp (letsIn.delivered.subset delivered) with isOpen | isDirect
    · rcases List.mem_filterMap.mp isOpen with ⟨record, member, found⟩
      split at found
      · cases found
      · rename_i notPaused
        exact notPaused (onlyPaused record member found)
    · exact notDirect isDirect
  · intro isPause allReturn
    refine (run.guarded allReturn).invariant (motive := LetsAllIn) ?_ rfl
    rintro current event next holds ⟨returns, taken⟩
    exact holds.step isPause returns taken

open EventQueue (bumpOf marks oneWatcher)

/-- A record between `pauseSource` and `resumeSource`, and one behind them. -/
theorem pause_lets_through_behind_resume :
    ∃ final : Transports Unit,
      Run (marks 2) oneWatcher
        [.openStream, .pauseSource .horizon, recordAt "1" (bumpOf "GABC"),
          .resumeSource .horizon, recordAt "2" (bumpOf "GDEF"), routesNext, .goOn .routed,
          .goOn .drained] final ∧
      bumpOf "GABC" ∉ final.queue.dispatched.map Dispatch.event ∧
      final.queue.accepted = [bumpOf "GDEF"] ∧ final.horizonCursor = some "2" := by
  have run : Run (marks 2) oneWatcher
      [.openStream, .pauseSource .horizon, recordAt "1" (bumpOf "GABC"),
        .resumeSource .horizon, recordAt "2" (bumpOf "GDEF"), routesNext, .goOn .routed,
        .goOn .drained] _ := trace_of_runEvents rfl
  have letsThrough := pause_lets_through (marks 2) oneWatcher _ _ run
  exact ⟨_, run, letsThrough.2.1 _ (by decide) (by decide),
    letsThrough.2.2.2.1 rfl (by decide), letsThrough.2.2.2.2⟩

/-- The second record comes in while its source is paused. It is gone although the
source is resumed and nothing waits any more, and the cursor is ahead of what was
delivered. -/
theorem paused_record_is_gone :
    ∃ final : Transports Unit,
      Run (marks 2) oneWatcher
        [.openStream, recordAt "1" (bumpOf "GDEF"), routesNext, .goOn .routed, .goOn .drained,
          .pauseSource .horizon, recordAt "2" (bumpOf "GABC"), .resumeSource .horizon] final ∧
      { cursor := some "2", event := some (bumpOf "GABC"), paused := true } ∈ final.received ∧
      final.queue.pausedSources = ∅ ∧ final.queue.phase = .idle ∧
      final.queue.eventQueue = [] ∧ final.queue.lookups = [] ∧
      final.queue.dispatched.map Dispatch.event = [bumpOf "GDEF"] ∧
      final.horizonCursor = some "2" :=
  ⟨_, trace_of_runEvents rfl, by decide, by decide, rfl, rfl, rfl, rfl, rfl⟩

end Transports

end Orbital.PulseCore.EventEngine
