import Orbital.PulseCore.EventEngine.Backpressure

/-! # The two transports and the caller

What comes in at an engine: records of the Horizon stream, which are queued, events
of the unified stream and of the Soroban subscriber, which are routed at once, and
the calls of `pauseSource`, `resumeSource`, `start` and `stop`. The fields at the
end of the state only record what happened.
-/

namespace Orbital.PulseCore.EventEngine

open Orbital.Foundation

variable {Value : Type}

/-- Only events of the families `payment` and `trustlineAuth` have a dedupe key. -/
def NormalizedEvent.mayHaveKey : NormalizedEvent Value → Bool
  | .classic (.payment _ _ _) _ | .classic (.trustAuth _ _ _) _ => true
  | _ => false

inductive Verdict
  | suppressed
  | discarded
  | fannedOut
  deriving DecidableEq

def EventQueue.verdict (queue : EventQueue Value) (item : QueuedEvent Value) : Verdict :=
  if (queue.seen item).1 then .suppressed
  else if sourceOf item.event ∈ queue.pausedSources then .discarded
  else .fannedOut

structure Routed (Value : Type) where
  item : QueuedEvent Value
  queued : Bool
  verdict : Verdict
  deriving DecidableEq

structure Received (Value : Type) where
  cursor : Option String
  event : Option (NormalizedEvent Value)
  paused : Bool
  deriving DecidableEq

structure Transports (Value : Type) where
  queue : EventQueue Value
  horizonCursor : Option String
  routed : List (Routed Value)
  received : List (Received Value)
  /-- The sources that the caller has paused and not resumed since the last `stop`. -/
  callerPaused : Finset Source
  /-- Of these, the ones paused after backpressure last resumed both sources. -/
  keptPaused : Finset Source

namespace EventQueue

inductive GoesOn (options : QueueOptions) (router : Router Value) (queue : EventQueue Value) :
    Event Value → EventQueue Value → Prop
  | routeNext {throws item rest} (isDraining : queue.phase = .draining)
      (queued : queue.eventQueue = item :: rest) :
      GoesOn options router queue (.routeNext throws)
        ({ queue with eventQueue := rest, phase := .routing }.route router throws item)
  | routed (isRouting : queue.phase = .routing) :
      GoesOn options router queue .routed (queue.routed options)
  | notified {throws} (isNotifying : queue.phase = .notifying) :
      GoesOn options router queue (.notified throws)
        { queue with phase := if throws then .idle else .draining }
  | drained (isDraining : queue.phase = .draining) (isEmpty : queue.eventQueue = []) :
      GoesOn options router queue .drained { queue with phase := .idle }
  | specFailed {index answer throws event} (found : queue.lookups[index]? = some event) :
      GoesOn options router queue (.specSettled index answer throws)
        { queue with lookups := queue.lookups.eraseIdx index }
  | specSettled {index answer throws event} (found : queue.lookups[index]? = some event) :
      GoesOn options router queue (.specSettled index answer throws)
        ({ queue with lookups := queue.lookups.eraseIdx index }.dispatch router throws
          (.contract event) (.contract { event with payload := answer.payload }))

theorem routed_frame (options : QueueOptions) (queue : EventQueue Value) :
    (queue.routed options).eventQueue = queue.eventQueue ∧
      (queue.routed options).dedupeWindow = queue.dedupeWindow ∧
      (queue.routed options).lookups = queue.lookups ∧
      (queue.routed options).accepted = queue.accepted ∧
      (queue.routed options).dispatched = queue.dispatched := by
  rw [EventQueue.routed]
  split
  · exact leaveBackpressure_frame queue options.policy
  · exact ⟨rfl, rfl, rfl, rfl, rfl⟩

theorem goesOn_of_step {options : QueueOptions} {router : Router Value}
    {queue next : EventQueue Value} {event : Event Value} (goesOn : event.goesOn = true)
    (taken : queue.step options router event = some next) :
    GoesOn options router queue event next := by
  cases event with
  | record event dedupeKey noticeThrows | pauseSource source | resumeSource source => cases goesOn
  | routeNext throws =>
      simp only [EventQueue.step, EventQueue.routeNext] at taken
      split at taken
      · rename_i isDraining queued
        cases taken
        exact .routeNext isDraining queued
      · cases taken
  | routed =>
      simp only [EventQueue.step] at taken
      split at taken
      · rename_i isRouting
        cases taken
        exact .routed isRouting
      · cases taken
  | notified throws =>
      simp only [EventQueue.step] at taken
      split at taken
      · rename_i isNotifying
        cases taken
        exact .notified isNotifying
      · cases taken
  | drained =>
      simp only [EventQueue.step] at taken
      split at taken
      · rename_i atEnd
        cases taken
        exact .drained atEnd.1 atEnd.2
      · cases taken
  | specSettled index answer throws =>
      simp only [EventQueue.step, EventQueue.specSettled] at taken
      split at taken
      · split at taken
        · cases taken
        · rename_i found
          cases taken
          split
          · exact .specFailed found
          · exact .specSettled found
      · cases taken

end EventQueue

namespace Transports

def initial : Transports Value where
  queue := .initial
  horizonCursor := none
  routed := []
  received := []
  callerPaused := ∅
  keptPaused := ∅

def isPaused (transports : Transports Value) (event : NormalizedEvent Value) : Bool :=
  decide (sourceOf event ∈ transports.queue.pausedSources)

/-! ## Calls -/

/-- The cursor advances before the event is queued. A record has no event when it
cannot be normalized or when its family is left to the unified transport. -/
def onmessage (options : QueueOptions) (transports : Transports Value) (cursor : Option String)
    (event : Option (NormalizedEvent Value)) (dedupeKey : Option String) (noticeThrows : Bool) :
    Transports Value :=
  { transports with
    horizonCursor := cursor <|> transports.horizonCursor
    received := transports.received ++
      [{ cursor, event, paused := event.any transports.isPaused }]
    queue := match event with
      | none => transports.queue
      | some event =>
          transports.queue.enqueueEvent options (EventQueue.recordOf event dedupeKey)
            noticeThrows }

def routeNow (router : EventQueue.Router Value) (throws : Emission → Bool)
    (transports : Transports Value) (item : QueuedEvent Value) : Transports Value :=
  { transports with
    queue := transports.queue.route router throws item
    routed := transports.routed ++
      [{ item, queued := false, verdict := transports.queue.verdict item }] }

def pauseSource (transports : Transports Value) (source : Source) : Transports Value :=
  { transports with
    queue := transports.queue.pauseSource source
    callerPaused := insert source transports.callerPaused
    keptPaused := insert source transports.keptPaused }

def resumeSource (transports : Transports Value) (source : Source) : Transports Value :=
  { transports with
    queue := transports.queue.resumeSource source
    callerPaused := transports.callerPaused.erase source
    keptPaused := transports.keptPaused.erase source }

/-- `start()` and a reconnect. -/
def openStream (transports : Transports Value) : Transports Value :=
  { transports with horizonCursor := some "now" }

def stop (transports : Transports Value) : Transports Value :=
  { transports with
    queue := { transports.queue with pausedSources := ∅ }
    horizonCursor := none
    callerPaused := ∅
    keptPaused := ∅ }

/-! ## Steps -/

inductive Event (Value : Type)
  | onmessage (cursor : Option String) (event : Option (NormalizedEvent Value))
      (dedupeKey : Option String) (noticeThrows : Bool)
  | dispatchUnifiedEvent (event : NormalizedEvent Value) (dedupeKey : Option String)
      (throws : Emission → Bool)
  | handleSorobanEvent (event : ContractEvent Value) (throws : Emission → Bool)
  | goOn (event : EventQueue.Event Value)
  | pauseSource (source : Source)
  | resumeSource (source : Source)
  | openStream
  | streamCursorResolved (cursor : String)
  | stop

def routes (queue : EventQueue Value) : EventQueue.Event Value → List (Routed Value)
  | .routeNext _ => queue.eventQueue.head?.toList.map fun item =>
      { item, queued := true, verdict := queue.verdict item }
  | _ => []

def resumesBoth (queue next : EventQueue Value) : Bool :=
  queue.wePausedSourcesForBackpressure && !next.wePausedSourcesForBackpressure

def goOn (transports : Transports Value) (event : EventQueue.Event Value)
    (next : EventQueue Value) : Transports Value :=
  { transports with
    queue := next
    routed := transports.routed ++ routes transports.queue event
    keptPaused := if resumesBoth transports.queue next then ∅ else transports.keptPaused }

def unifiedItem (event : NormalizedEvent Value) (dedupeKey : Option String) :
    QueuedEvent Value where
  event
  dedupe := dedupeKey.map fun key => { key, transport := .unified }

def sorobanItem (event : ContractEvent Value) : QueuedEvent Value where
  event := .contract event
  dedupe := none

def step (options : QueueOptions) (router : EventQueue.Router Value)
    (transports : Transports Value) : Event Value → Option (Transports Value)
  | .onmessage cursor event dedupeKey noticeThrows =>
      if transports.queue.phase = .draining ∨
          dedupeKey.isSome ∧ event.any NormalizedEvent.mayHaveKey = false then none
      else some (transports.onmessage options cursor event dedupeKey noticeThrows)
  | .dispatchUnifiedEvent event dedupeKey throws =>
      if transports.queue.phase = .idle ∧ NormalizedEvent.mayHaveKey event = true then
        some (transports.routeNow router throws (unifiedItem event dedupeKey))
      else none
  | .handleSorobanEvent event throws =>
      if transports.queue.phase = .idle then
        some (transports.routeNow router throws (sorobanItem event))
      else none
  | .goOn event =>
      if event.goesOn then (transports.queue.step options router event).map (transports.goOn event)
      else none
  | .pauseSource source =>
      if transports.queue.phase = .draining then none else some (transports.pauseSource source)
  | .resumeSource source =>
      if transports.queue.phase = .draining then none else some (transports.resumeSource source)
  | .openStream =>
      if transports.queue.phase = .draining then none else some transports.openStream
  | .streamCursorResolved cursor =>
      if transports.queue.phase = .idle then
        some { transports with horizonCursor := some cursor }
      else none
  | .stop => if transports.queue.phase = .draining then none else some transports.stop

abbrev Run (options : QueueOptions) (router : EventQueue.Router Value)
    (events : List (Event Value)) (final : Transports Value) : Prop :=
  Trace (Takes (step options router)) initial events final

inductive Moves (options : QueueOptions) (router : EventQueue.Router Value)
    (transports : Transports Value) : Event Value → Transports Value → Prop
  | onmessage {cursor event dedupeKey noticeThrows}
      (keyed : dedupeKey.isSome → event.any NormalizedEvent.mayHaveKey = true) :
      Moves options router transports (.onmessage cursor event dedupeKey noticeThrows)
        (transports.onmessage options cursor event dedupeKey noticeThrows)
  | unified {event dedupeKey throws} (keyed : NormalizedEvent.mayHaveKey event = true) :
      Moves options router transports (.dispatchUnifiedEvent event dedupeKey throws)
        (transports.routeNow router throws (unifiedItem event dedupeKey))
  | soroban {event throws} :
      Moves options router transports (.handleSorobanEvent event throws)
        (transports.routeNow router throws (sorobanItem event))
  | goOn {event queue} (moved : EventQueue.GoesOn options router transports.queue event queue) :
      Moves options router transports (.goOn event) (transports.goOn event queue)
  | pauseSource {source} :
      Moves options router transports (.pauseSource source) (transports.pauseSource source)
  | resumeSource {source} :
      Moves options router transports (.resumeSource source) (transports.resumeSource source)
  | openStream : Moves options router transports .openStream transports.openStream
  | streamCursorResolved {cursor} :
      Moves options router transports (.streamCursorResolved cursor)
        { transports with horizonCursor := some cursor }
  | stop : Moves options router transports .stop transports.stop

theorem moves_of_step {options : QueueOptions} {router : EventQueue.Router Value}
    {transports next : Transports Value} {event : Event Value}
    (taken : transports.step options router event = some next) :
    Moves options router transports event next := by
  cases event with
  | onmessage cursor event dedupeKey noticeThrows =>
      simp only [Transports.step] at taken
      split at taken
      · cases taken
      · rename_i allowed
        cases taken
        exact .onmessage (by simpa using (not_or.mp allowed).2)
  | dispatchUnifiedEvent event dedupeKey throws =>
      simp only [Transports.step] at taken
      split at taken
      · rename_i allowed
        cases taken
        exact .unified allowed.2
      · cases taken
  | handleSorobanEvent event throws =>
      simp only [Transports.step] at taken
      split at taken
      · cases taken
        exact .soroban
      · cases taken
  | goOn event =>
      simp only [Transports.step] at taken
      split at taken
      · rename_i goesOn
        rcases Option.map_eq_some_iff.mp taken with ⟨queue, moved, rfl⟩
        exact .goOn (EventQueue.goesOn_of_step goesOn moved)
      · cases taken
  | pauseSource source =>
      simp only [Transports.step] at taken
      split at taken
      · cases taken
      · cases taken
        exact .pauseSource
  | resumeSource source =>
      simp only [Transports.step] at taken
      split at taken
      · cases taken
      · cases taken
        exact .resumeSource
  | openStream =>
      simp only [Transports.step] at taken
      split at taken
      · cases taken
      · cases taken
        exact .openStream
  | streamCursorResolved cursor =>
      simp only [Transports.step] at taken
      split at taken
      · cases taken
        exact .streamCursorResolved
      · cases taken
  | stop =>
      simp only [Transports.step] at taken
      split at taken
      · cases taken
      · cases taken
        exact .stop

end Transports

end Orbital.PulseCore.EventEngine
