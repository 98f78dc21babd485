import Mathlib.Data.Finset.Erase
import Mathlib.Data.Finset.Insert
import Orbital.PulseCore.DedupeWindow
import Orbital.PulseCore.EventEngine.Routing

/-! # The routing queue

`enqueueEvent`, `processQueue` and `route` of `EventEngine.ts`. The drain has no
`await`: once it has begun, a record comes in only from a listener it calls. The
steps are cut at those calls. The lists at the end of the state only record what
happened.
-/

namespace Orbital.PulseCore.EventEngine

open Orbital.Foundation

variable {Value : Type}

inductive QueuePolicy
  | pause
  | dropOldest
  | dropNewest
  deriving DecidableEq

structure QueueOptions where
  highWaterMark : Nat
  lowWaterMark : Nat
  policy : QueuePolicy
  highPositive : 1 ≤ highWaterMark
  lowPositive : 1 ≤ lowWaterMark

structure QueueConfig where
  highWaterMark : Option Int
  lowWaterMark : Option Int
  policy : Option QueuePolicy

namespace QueueConfig

def resolveHigh (config : QueueConfig) : Nat :=
  max 1 (config.highWaterMark.getD 10000).toNat

def resolve (config : QueueConfig) : QueueOptions where
  highWaterMark := config.resolveHigh
  lowWaterMark := max 1 (config.lowWaterMark.getD (config.resolveHigh / 2 : Nat)).toNat
  policy := config.policy.getD .pause
  highPositive := le_max_left _ _
  lowPositive := le_max_left _ _

end QueueConfig

structure DedupeRef where
  key : String
  transport : DedupeTransport
  deriving DecidableEq

structure QueuedEvent (Value : Type) where
  event : NormalizedEvent Value
  dedupe : Option DedupeRef
  deriving DecidableEq

inductive Phase
  | idle
  | draining
  | routing
  | notifying
  deriving DecidableEq

structure BackpressureNotice where
  active : Bool
  queued : Nat
  policy : QueuePolicy
  deriving DecidableEq

structure Dispatch (Value : Type) where
  event : NormalizedEvent Value
  delivered : NormalizedEvent Value
  emissions : List Emission
  deriving DecidableEq

structure EventQueue (Value : Type) where
  pausedSources : Finset Source
  dedupeWindow : DedupeWindow
  eventQueue : List (QueuedEvent Value)
  /-- `processingQueue` is true outside `idle`. -/
  phase : Phase
  inBackpressure : Bool
  wePausedSourcesForBackpressure : Bool
  lookups : List (ContractEvent Value)
  notices : List BackpressureNotice
  accepted : List (NormalizedEvent Value)
  dispatched : List (Dispatch Value)

namespace EventQueue

def initial : EventQueue Value where
  pausedSources := ∅
  dedupeWindow := .initial
  eventQueue := []
  phase := .idle
  inBackpressure := false
  wePausedSourcesForBackpressure := false
  lookups := []
  notices := []
  accepted := []
  dispatched := []

/-! ## Pausing -/

def pauseSource (queue : EventQueue Value) (source : Source) : EventQueue Value :=
  { queue with pausedSources := insert source queue.pausedSources }

def resumeSource (queue : EventQueue Value) (source : Source) : EventQueue Value :=
  { queue with pausedSources := queue.pausedSources.erase source }

def notifyBackpressure (queue : EventQueue Value) (policy : QueuePolicy) (active : Bool) :
    EventQueue Value :=
  { queue with
    notices := queue.notices ++ [{ active, queued := queue.eventQueue.length, policy }] }

def pauseForBackpressure (queue : EventQueue Value) : EventQueue Value :=
  { (queue.pauseSource .horizon).pauseSource .soroban with
    wePausedSourcesForBackpressure := true }

def resumeAfterBackpressure (queue : EventQueue Value) : EventQueue Value :=
  if queue.wePausedSourcesForBackpressure then
    { (queue.resumeSource .horizon).resumeSource .soroban with
      wePausedSourcesForBackpressure := false }
  else queue

def enterBackpressure (queue : EventQueue Value) (policy : QueuePolicy) : EventQueue Value :=
  match policy with
  | .pause =>
      { queue with inBackpressure := true }.pauseForBackpressure.notifyBackpressure policy true
  | _ => { queue with inBackpressure := true }.notifyBackpressure policy true

def leaveBackpressure (queue : EventQueue Value) (policy : QueuePolicy) : EventQueue Value :=
  { queue with inBackpressure := false }.resumeAfterBackpressure.notifyBackpressure policy false

/-! ## Accepting an event -/

def push (queue : EventQueue Value) (item : QueuedEvent Value) : EventQueue Value :=
  { queue with
    eventQueue := queue.eventQueue ++ [item]
    accepted := queue.accepted ++ [item.event] }

def shiftOldest (queue : EventQueue Value) : EventQueue Value :=
  { queue with eventQueue := queue.eventQueue.tail }

/-- A call made during a drain returns at once. -/
def processQueue (queue : EventQueue Value) : EventQueue Value :=
  { queue with phase := if queue.phase = .idle then .draining else queue.phase }

/-- An event that comes in at the high-water mark. A listener of the notice that
throws ends the call. -/
def enqueueOver (options : QueueOptions) (queue : EventQueue Value) (item : QueuedEvent Value)
    (noticeThrows : Bool) : EventQueue Value :=
  match options.policy with
  | .pause =>
      if queue.inBackpressure then (queue.push item).processQueue
      else if noticeThrows then queue.enterBackpressure .pause
      -- The event is still accepted so that the queue can drain.
      else ((queue.enterBackpressure .pause).push item).processQueue
  | .dropOldest =>
      if queue.inBackpressure then (queue.shiftOldest.push item).processQueue
      else if noticeThrows then (queue.shiftOldest.push item).enterBackpressure .dropOldest
      else ((queue.shiftOldest.push item).enterBackpressure .dropOldest).processQueue
  | .dropNewest =>
      if queue.inBackpressure then queue
      else queue.enterBackpressure .dropNewest

def enqueueEvent (options : QueueOptions) (queue : EventQueue Value) (item : QueuedEvent Value)
    (noticeThrows : Bool) : EventQueue Value :=
  if sourceOf item.event ∈ queue.pausedSources then queue
  else if options.highWaterMark ≤ queue.eventQueue.length then
    queue.enqueueOver options item noticeThrows
  else (queue.push item).processQueue

/-! ## Routing an event -/

/-- The engine's `abiRegistry` is there or not. -/
structure Router (Value : Type) where
  registrations : Registrations Value
  abiRegistry : Bool

def looksUp (router : Router Value) : NormalizedEvent Value → Option (ContractEvent Value)
  | .contract event => if event.type = .emitted && router.abiRegistry then some event else none
  | .classic _ _ => none

def seen (queue : EventQueue Value) (item : QueuedEvent Value) : Bool × DedupeWindow :=
  match item.dedupe with
  | none => (false, queue.dedupeWindow)
  | some dedupe => queue.dedupeWindow.seenFrom dedupe.key dedupe.transport

def dispatch (router : Router Value) (throws : Emission → Bool) (queue : EventQueue Value)
    (event delivered : NormalizedEvent Value) : EventQueue Value :=
  { queue with
    dispatched := queue.dispatched ++ [{
      event, delivered
      emissions := untilThrow throws (router.registrations.fanOut delivered) }] }

/-- `route` behind its checks. -/
def fanOut (router : Router Value) (throws : Emission → Bool) (queue : EventQueue Value)
    (event : NormalizedEvent Value) : EventQueue Value :=
  match looksUp router event with
  | some held => { queue with lookups := queue.lookups ++ [held] }
  | none => queue.dispatch router throws event event

def route (router : Router Value) (throws : Emission → Bool) (queue : EventQueue Value)
    (item : QueuedEvent Value) : EventQueue Value :=
  if (queue.seen item).1 then { queue with dedupeWindow := (queue.seen item).2 }
  else if sourceOf item.event ∈ queue.pausedSources then
    { queue with dedupeWindow := (queue.seen item).2 }
  else { queue with dedupeWindow := (queue.seen item).2 }.fanOut router throws item.event

/-! ## Steps -/

inductive SpecAnswer (Value : Type)
  | decoded (payload : Value)
  | failed (payload : Value) (noticeThrows : Bool)

def SpecAnswer.payload : SpecAnswer Value → Value
  | .decoded payload => payload
  | .failed payload _ => payload

def SpecAnswer.noticeThrows : SpecAnswer Value → Bool
  | .decoded _ => false
  | .failed _ noticeThrows => noticeThrows

inductive Event (Value : Type)
  | record (event : NormalizedEvent Value) (dedupeKey : Option String) (noticeThrows : Bool)
  | pauseSource (source : Source)
  | resumeSource (source : Source)
  | routeNext (throws : Emission → Bool)
  | routed
  | notified (throws : Bool)
  | drained
  | specSettled (index : Nat) (answer : SpecAnswer Value) (throws : Emission → Bool)

def recordOf (event : NormalizedEvent Value) (dedupeKey : Option String) : QueuedEvent Value where
  event
  dedupe := dedupeKey.map fun key => { key, transport := .horizon }

def routeNext (router : Router Value) (throws : Emission → Bool) (queue : EventQueue Value) :
    Option (EventQueue Value) :=
  match queue.phase, queue.eventQueue with
  | .draining, item :: rest =>
      some ({ queue with eventQueue := rest, phase := .routing }.route router throws item)
  | _, _ => none

def routed (options : QueueOptions) (queue : EventQueue Value) : EventQueue Value :=
  if queue.inBackpressure && queue.eventQueue.length ≤ options.lowWaterMark then
    { queue.leaveBackpressure options.policy with phase := .notifying }
  else { queue with phase := .draining }

def specSettled (router : Router Value) (throws : Emission → Bool) (queue : EventQueue Value)
    (index : Nat) (answer : SpecAnswer Value) : Option (EventQueue Value) :=
  match queue.lookups[index]? with
  | none => none
  | some event =>
      let settled := { queue with lookups := queue.lookups.eraseIdx index }
      some (
        if answer.noticeThrows then settled
        else settled.dispatch router throws (.contract event)
          (.contract { event with payload := answer.payload }))

def step (options : QueueOptions) (router : Router Value) (queue : EventQueue Value) :
    Event Value → Option (EventQueue Value)
  | .record event dedupeKey noticeThrows =>
      if queue.phase = .draining then none
      else some (queue.enqueueEvent options (recordOf event dedupeKey) noticeThrows)
  | .pauseSource source =>
      if queue.phase = .draining then none else some (queue.pauseSource source)
  | .resumeSource source =>
      if queue.phase = .draining then none else some (queue.resumeSource source)
  | .routeNext throws => queue.routeNext router throws
  | .routed => if queue.phase = .routing then some (queue.routed options) else none
  | .notified throws =>
      if queue.phase = .notifying then
        some { queue with phase := if throws then .idle else .draining }
      else none
  | .drained =>
      if queue.phase = .draining ∧ queue.eventQueue = [] then some { queue with phase := .idle }
      else none
  | .specSettled index answer throws =>
      if queue.phase = .idle then queue.specSettled router throws index answer else none

abbrev Run (options : QueueOptions) (router : Router Value) (start : EventQueue Value)
    (events : List (Event Value)) (final : EventQueue Value) : Prop :=
  Trace (Takes (step options router)) start events final

end EventQueue

end Orbital.PulseCore.EventEngine
