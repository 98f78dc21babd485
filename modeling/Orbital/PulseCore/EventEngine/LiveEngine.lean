import Orbital.PulseCore.EventEngine.HorizonStream
import Orbital.PulseCore.EventEngine.Transports
import Orbital.PulseCore.SorobanSubscriber.Shutdown

/-! # The engine as a whole

An engine of `EventEngine.ts` with all that gives it events: the Horizon stream, the
Soroban subscriber with its polls, the unified stream, the routing queue and the lookups
of ABI specs. The runtime takes up a task only when no code is running; while listeners
run they may call the engine. What `stop` awaits behind the subscriber concerns the
unified stream and only delays it.
-/

namespace Orbital.PulseCore.EventEngine

open Orbital.Foundation
open Orbital.PulseCore.SorobanSubscriber (Notice Options PollLoop SorobanEvent)

variable {Value : Type}

structure LiveOptions where
  queue : QueueOptions
  soroban : Options
  hasSoroban : Bool
  hasCursorStore : Bool
  maxRetries : Option Nat
  abiRegistry : Bool

structure DecodeFailure (Value : Type) where
  watcher : Nat
  event : ContractEvent Value
  error : String
  deriving DecidableEq

structure LiveEngine (Value : Type) where
  engine : Engine Value
  stream : HorizonStream
  transports : Transports Value
  registry : InsertionMap String Nat
  distinct : registry.values.Nodup
  arriving : Bool
  stopping : List (Option SorobanSubscriber.Source)
  stopResolved : Bool
  decodeFailed : List (DecodeFailure Value)

namespace Engine

def emitDecodeFailedNotification (engine : Engine Value) (throws : Nat → Bool)
    (event : ContractEvent Value) (error : String) : List (DecodeFailure Value) :=
  (untilThrow throws (engine.decodeFailedWatchers event)).map fun watcher =>
    { watcher, event, error }

def answer (engine : Engine Value) (event : ContractEvent Value) :
    SpecLookup Value → EventQueue.SpecAnswer Value
  | .decoded payload => .decoded payload
  | .failed payload _ throws =>
      .failed payload ((engine.decodeFailedWatchers { event with payload }).any throws)

def notices (engine : Engine Value) (event : ContractEvent Value) :
    SpecLookup Value → List (DecodeFailure Value)
  | .decoded _ => []
  | .failed payload error throws =>
      engine.emitDecodeFailedNotification throws { event with payload } error

end Engine

def handledEvent : Notice Value → Option (SorobanEvent Value)
  | .onEvent _ event => some event
  | _ => none

def handledMeanwhile (before after : Engine Value) : List (SorobanEvent Value) :=
  match before.sorobanSubscriber, after.sorobanSubscriber with
  | some before, some after =>
      (after.handlerCalls.drop before.handlerCalls.length).filterMap handledEvent
  | _, _ => []

/-- What `handleSorobanEvent` routes. An event without a contract is dropped. -/
def contractEventOf (event : SorobanEvent Value) : Option (ContractEvent Value) :=
  match event.contractId with
  | none => none
  | some contractId =>
      if contractId.isEmpty then none
      else if event.type = some "contract.invoked" then
        some { type := .invoked, contractId, topics := [], payload := event.value }
      else if event.type = some "contract.emitted" then
        some {
          type := .emitted
          contractId
          topics := event.topic
          payload := event.decodedData.getD event.value }
      else none

def Transports.handleSorobanEvent (router : EventQueue.Router Value) (throws : Emission → Bool)
    (transports : Transports Value) (event : SorobanEvent Value) : Transports Value :=
  match contractEventOf event with
  | none => transports
  | some event => transports.routeNow router throws (sorobanItem event)

namespace LiveEngine

def initial (options : LiveOptions) : LiveEngine Value where
  engine := .initial (if options.hasSoroban then some (.new none) else none)
  stream := .new options.hasCursorStore options.maxRetries
  transports := .initial
  registry := .empty
  distinct := .nil
  arriving := false
  stopping := []
  stopResolved := false
  decodeFailed := []

def router (options : LiveOptions) (live : LiveEngine Value) : EventQueue.Router Value where
  registrations := {
    engine := live.engine
    registry := live.registry
    distinct := live.distinct }
  abiRegistry := options.abiRegistry

def isBusy (live : LiveEngine Value) : Bool :=
  live.arriving || live.stream.notice.isSome || decide (live.transports.queue.phase ≠ .idle)

def isDraining (live : LiveEngine Value) : Bool :=
  decide (live.transports.queue.phase = .draining)

/-- The engine has one flag `isRunning`, which goes with its stream. -/
def withStream (live : LiveEngine Value) (stream : HorizonStream) : LiveEngine Value :=
  { live with stream, engine := { live.engine with isRunning := stream.isRunning } }

/-! ## Starting and stopping -/

def start (live : LiveEngine Value) (cachedNetwork : NetworkInfo) (strict : Bool) :
    LiveEngine Value :=
  if live.stream.isRunning || live.stream.reconnectTimer.isSome then
    { live with stream := live.stream.start, stopping := [], stopResolved := false }
  else if cachedNetwork = some false then live
  else { live with
    engine := (live.engine.start cachedNetwork strict).1
    stream := live.stream.start
    transports := live.transports.openStream
    stopping := []
    stopResolved := false }

/-- `stop` up to its first `await`. -/
def halt (live : LiveEngine Value) : LiveEngine Value :=
  { live with
    engine := live.engine.stop
    stream := live.stream.stop
    transports := live.transports.stop }

def stop (live : LiveEngine Value) : LiveEngine Value :=
  { live.halt with
    stopping := live.stopping ++ [live.engine.sorobanSubscriber.bind PollLoop.stopAwaits] }

def hasSettled (live : LiveEngine Value) (awaits : Option SorobanSubscriber.Source) : Bool :=
  live.engine.sorobanSubscriber.all fun poller => decide (poller.Fulfilled awaits)

/-- Nobody sees that a call has resolved before the code that is running has returned. -/
def stopResolves (live : LiveEngine Value) (index : Nat) : Option (LiveEngine Value) :=
  if live.isBusy then none
  else
    match live.stopping[index]? with
    | none => none
    | some awaits =>
        if live.hasSettled awaits then
          some { live with stopping := live.stopping.eraseIdx index, stopResolved := true }
        else none

/-- A waiting `start` goes on. When it finds the wrong network it calls `stop`, whose
promise nobody awaits. -/
def verified (live : LiveEngine Value) (index : Nat) : Option (LiveEngine Value) :=
  (live.engine.verified index).map fun engine =>
    if engine.stopGeneration = live.engine.stopGeneration then { live with engine }
    else { live with
      engine
      stream := live.stream.stop
      transports := live.transports.stop }

/-! ## What comes in -/

def pollerStep (options : LiveOptions) (live : LiveEngine Value) (event : PollLoop.Event Value)
    (throws : Emission → Bool) : Option (LiveEngine Value) :=
  (live.engine.step options.soroban (.poller event)).map fun engine =>
    { live with
      engine
      transports := (handledMeanwhile live.engine engine).foldl
        (Transports.handleSorobanEvent (live.router options) throws) live.transports }

/-- `onmessage` up to the notice of a reconnect, if one is due. -/
def message (live : LiveEngine Value) (epoch : Nat) : Option (LiveEngine Value) :=
  if live.arriving || live.isDraining then none
  else (live.stream.step (.message epoch)).map fun stream =>
    { live.withStream stream with arriving := true }

def transportsStep (options : LiveOptions) (live : LiveEngine Value)
    (event : Transports.Event Value) : Option (LiveEngine Value) :=
  (live.transports.step options.queue (live.router options) event).map fun transports =>
    { live with transports }

def lookupSettles (options : LiveOptions) (live : LiveEngine Value) (index : Nat)
    (lookup : SpecLookup Value) (throws : Emission → Bool) : Option (LiveEngine Value) :=
  match live.transports.queue.lookups[index]? with
  | none => none
  | some event =>
      (live.transportsStep options
        (.goOn (.specSettled index (live.engine.answer event lookup) throws))).map fun settled =>
          { settled with
            decodeFailed := live.decodeFailed ++ live.engine.notices event lookup }

/-- The stream is opened at the stored cursor, unless it was superseded. -/
def cursorResolved (live : LiveEngine Value) (epoch : Nat) (cursor : String) :
    Option (LiveEngine Value) :=
  (live.stream.step (.cursorResolved epoch)).map fun stream =>
    { live.withStream stream with
      transports := if stream.stopStream = live.stream.stopStream then live.transports
        else { live.transports with horizonCursor := some cursor } }

/-! ## Steps -/

inductive Event (Value : Type)
  | start (cachedNetwork : NetworkInfo) (strict : Bool)
  | stop
  | stopResolves (index : Nat)
  | subscription (event : Engine.Event Value)
  | accounts (registry : InsertionMap String Nat) (distinct : registry.values.Nodup)
  | pauseSource (source : Source)
  | resumeSource (source : Source)
  | probeSettles (info : NetworkInfo)
  | verified (index : Nat)
  | stream (event : HorizonStream.Event)
  | noticeEnds (throws : Bool)
  | cursorResolved (epoch : Nat) (cursor : String)
  | message (epoch : Nat)
  | record (cursor : Option String) (event : Option (NormalizedEvent Value))
      (dedupeKey : Option String) (noticeThrows : Bool)
  | messageThrows
  | dispatchUnifiedEvent (event : NormalizedEvent Value) (dedupeKey : Option String)
      (throws : Emission → Bool)
  | poller (event : PollLoop.Event Value) (throws : Emission → Bool)
  | drain (event : EventQueue.Event Value)
  | lookupSettles (index : Nat) (lookup : SpecLookup Value) (throws : Emission → Bool)

def isSubscription : Engine.Event Value → Bool
  | .subscribeContractId _ _ | .subscribeContractConfig _
  | .unsubscribeContractId _ | .unsubscribeContractConfig _ => true
  | .start _ _ | .stop | .probeSettles _ | .verified _ | .poller _ => false

def isStreamTask : HorizonStream.Event → Bool
  | .streamError _ _ _ | .timerFires _ => true
  | _ => false

def isDrain : EventQueue.Event Value → Bool
  | .routeNext _ | .routed | .notified _ | .drained => true
  | _ => false

/-- A reconnect resets the cursor in memory. -/
def streamTask (live : LiveEngine Value) (event : HorizonStream.Event) :
    Option (LiveEngine Value) :=
  (live.stream.step event).map fun stream =>
    { live.withStream stream with
      transports := match event with
        | .timerFires _ => live.transports.openStream
        | _ => live.transports }

def engineStep (options : LiveOptions) (live : LiveEngine Value) (event : Engine.Event Value) :
    Option (LiveEngine Value) :=
  (live.engine.step options.soroban event).map fun engine => { live with engine }

/-- The calls of callers and listeners come first, then what a running drain or notice
does, then the tasks of the runtime. -/
def step (options : LiveOptions) (live : LiveEngine Value) : Event Value → Option (LiveEngine Value)
  | .start cachedNetwork strict =>
      if live.isDraining then none else some (live.start cachedNetwork strict)
  | .stop => if live.isDraining then none else some live.stop
  | .subscription event =>
      if live.isDraining || !isSubscription event then none
      else live.engineStep options event
  | .accounts registry distinct =>
      if live.isDraining then none else some { live with registry, distinct }
  | .pauseSource source => live.transportsStep options (.pauseSource source)
  | .resumeSource source => live.transportsStep options (.resumeSource source)
  | .message epoch => live.message epoch
  | .record cursor event dedupeKey noticeThrows =>
      if live.arriving then
        (live.transportsStep options (.onmessage cursor event dedupeKey noticeThrows)).map
          fun received => { received with arriving := false }
      else none
  | .messageThrows => if live.arriving then some { live with arriving := false } else none
  | .noticeEnds throws =>
      (live.stream.step (if throws then .noticeThrows else .noticeReturns)).map live.withStream
  | .drain event =>
      if live.arriving || !isDrain event then none else live.transportsStep options (.goOn event)
  | .stopResolves index => live.stopResolves index
  | .probeSettles info => if live.isBusy then none else live.engineStep options (.probeSettles info)
  | .verified index => if live.isBusy then none else live.verified index
  | .stream event =>
      if live.isBusy || !isStreamTask event then none else live.streamTask event
  | .cursorResolved epoch cursor =>
      if live.isBusy then none else live.cursorResolved epoch cursor
  | .dispatchUnifiedEvent event dedupeKey throws =>
      if live.isBusy then none
      else live.transportsStep options (.dispatchUnifiedEvent event dedupeKey throws)
  | .poller event throws => if live.isBusy then none else live.pollerStep options event throws
  | .lookupSettles index lookup throws =>
      if live.isBusy then none else live.lookupSettles options index lookup throws

abbrev Run (options : LiveOptions) (start : LiveEngine Value) (events : List (Event Value))
    (final : LiveEngine Value) : Prop :=
  Trace (Takes (step options)) start events final

/-! ## What a step can do -/

inductive Moves (options : LiveOptions) (live : LiveEngine Value) :
    Event Value → LiveEngine Value → Prop
  | start {cachedNetwork strict} :
      Moves options live (.start cachedNetwork strict) (live.start cachedNetwork strict)
  | stop : Moves options live .stop live.stop
  | stopResolves {index awaits} (free : live.isBusy = false)
      (atIndex : live.stopping[index]? = some awaits) :
      Moves options live (.stopResolves index)
        { live with stopping := live.stopping.eraseIdx index, stopResolved := true }
  | subscription {event engine} (isCall : isSubscription event = true)
      (taken : live.engine.step options.soroban event = some engine) :
      Moves options live (.subscription event) { live with engine }
  | accounts {registry distinct} :
      Moves options live (.accounts registry distinct) { live with registry, distinct }
  | pauseSource {source} : Moves options live (.pauseSource source)
      { live with transports := live.transports.pauseSource source }
  | resumeSource {source} : Moves options live (.resumeSource source)
      { live with transports := live.transports.resumeSource source }
  | probeSettles {info} : Moves options live (.probeSettles info)
      { live with engine := { live.engine with sorobanNetworkReady := some info } }
  | verified {index engine} (taken : live.engine.verified index = some engine) :
      Moves options live (.verified index)
        (if engine.stopGeneration = live.engine.stopGeneration then { live with engine }
        else { live with
          engine
          stream := live.stream.stop
          transports := live.transports.stop })
  | stream {event stream transports} (isTask : isStreamTask event = true)
      (taken : live.stream.step event = some stream)
      (queue : transports.queue = live.transports.queue) :
      Moves options live (.stream event) { live.withStream stream with transports }
  | noticeEnds {throws stream}
      (taken : live.stream.step (if throws then .noticeThrows else .noticeReturns) =
        some stream) :
      Moves options live (.noticeEnds throws) (live.withStream stream)
  | cursorResolved {epoch cursor stream transports}
      (taken : live.stream.step (.cursorResolved epoch) = some stream)
      (queue : transports.queue = live.transports.queue) :
      Moves options live (.cursorResolved epoch cursor)
        { live.withStream stream with transports }
  | message {epoch stream} (taken : live.stream.step (.message epoch) = some stream) :
      Moves options live (.message epoch) { live.withStream stream with arriving := true }
  | record {cursor event dedupeKey noticeThrows} (arriving : live.arriving = true) :
      Moves options live (.record cursor event dedupeKey noticeThrows)
        { live with
          transports := live.transports.onmessage options.queue cursor event dedupeKey noticeThrows
          arriving := false }
  | messageThrows : Moves options live .messageThrows { live with arriving := false }
  | dispatchUnifiedEvent {event dedupeKey throws}
      (keyed : NormalizedEvent.mayHaveKey event = true) :
      Moves options live (.dispatchUnifiedEvent event dedupeKey throws)
        { live with
          transports := live.transports.routeNow (live.router options) throws
            (Transports.unifiedItem event dedupeKey) }
  | poller {event throws engine}
      (taken : live.engine.step options.soroban (.poller event) = some engine) :
      Moves options live (.poller event throws)
        { live with
          engine
          transports := (handledMeanwhile live.engine engine).foldl
            (Transports.handleSorobanEvent (live.router options) throws) live.transports }
  | drain {event queue} (isDrain : isDrain event = true)
      (moved : EventQueue.GoesOn options.queue (live.router options) live.transports.queue event
        queue) :
      Moves options live (.drain event)
        { live with transports := live.transports.goOn event queue }
  | lookupSettles {index lookup throws transports decodeFailed} :
      Moves options live (.lookupSettles index lookup throws)
        { live with transports, decodeFailed }

variable {options : LiveOptions} {live next : LiveEngine Value} {event : Event Value}

theorem moves_transports {events : Transports.Event Value}
    (taken : live.transportsStep options events = some next) :
    ∃ transports, Transports.Moves options.queue (live.router options) live.transports events
      transports ∧ next = { live with transports } := by
  rcases Option.map_eq_some_iff.mp taken with ⟨transports, moved, rfl⟩
  exact ⟨transports, Transports.moves_of_step moved, rfl⟩

theorem moves_of_step (taken : step options live event = some next) :
    Moves options live event next := by
  cases event with
  | start cachedNetwork strict =>
      simp only [step] at taken
      split at taken
      · cases taken
      · cases taken
        exact .start
  | stop =>
      simp only [step] at taken
      split at taken
      · cases taken
      · cases taken
        exact .stop
  | stopResolves index =>
      simp only [step, stopResolves] at taken
      split at taken
      · cases taken
      · rename_i free
        split at taken
        · cases taken
        · rename_i atIndex
          split at taken
          · cases taken
            exact .stopResolves (Bool.of_not_eq_true free) atIndex
          · cases taken
  | subscription event =>
      simp only [step] at taken
      split at taken
      · cases taken
      · rename_i allowed
        rcases Option.map_eq_some_iff.mp taken with ⟨engine, moved, rfl⟩
        refine .subscription ?_ moved
        simpa using (Bool.or_eq_false_iff.mp (Bool.of_not_eq_true allowed)).2
  | accounts registry distinct =>
      simp only [step] at taken
      split at taken
      · cases taken
      · cases taken
        exact .accounts
  | pauseSource source =>
      rcases moves_transports taken with ⟨transports, moved, rfl⟩
      cases moved
      exact .pauseSource
  | resumeSource source =>
      rcases moves_transports taken with ⟨transports, moved, rfl⟩
      cases moved
      exact .resumeSource
  | probeSettles info =>
      simp only [step] at taken
      split at taken
      · cases taken
      · rcases Option.map_eq_some_iff.mp taken with ⟨engine, moved, rfl⟩
        simp only [Engine.step] at moved
        split at moved
        · cases moved
          exact .probeSettles
        · cases moved
  | verified index =>
      simp only [step] at taken
      split at taken
      · cases taken
      · rcases Option.map_eq_some_iff.mp taken with ⟨engine, moved, rfl⟩
        exact .verified moved
  | stream event =>
      simp only [step] at taken
      split at taken
      · cases taken
      · rename_i allowed
        rcases Option.map_eq_some_iff.mp taken with ⟨stream, moved, rfl⟩
        refine .stream ?_ moved ?_
        · simpa using (Bool.or_eq_false_iff.mp (Bool.of_not_eq_true allowed)).2
        · split
          · rfl
          · rfl
  | noticeEnds throws =>
      rcases Option.map_eq_some_iff.mp taken with ⟨stream, moved, rfl⟩
      exact .noticeEnds moved
  | cursorResolved epoch cursor =>
      simp only [step] at taken
      split at taken
      · cases taken
      · rcases Option.map_eq_some_iff.mp taken with ⟨stream, moved, rfl⟩
        refine .cursorResolved moved ?_
        split
        · rfl
        · rfl
  | message epoch =>
      simp only [step, message] at taken
      split at taken
      · cases taken
      · rcases Option.map_eq_some_iff.mp taken with ⟨stream, moved, rfl⟩
        exact .message moved
  | record cursor event dedupeKey noticeThrows =>
      simp only [step] at taken
      split at taken
      · rename_i arriving
        rcases Option.map_eq_some_iff.mp taken with ⟨received, moved, rfl⟩
        rcases moves_transports moved with ⟨transports, isMessage, rfl⟩
        cases isMessage
        exact .record arriving
      · cases taken
  | messageThrows =>
      simp only [step] at taken
      split at taken
      · cases taken
        exact .messageThrows
      · cases taken
  | dispatchUnifiedEvent event dedupeKey throws =>
      simp only [step] at taken
      split at taken
      · cases taken
      · rcases moves_transports taken with ⟨transports, moved, rfl⟩
        cases moved with
        | unified keyed => exact .dispatchUnifiedEvent keyed
  | poller event throws =>
      simp only [step] at taken
      split at taken
      · cases taken
      · rcases Option.map_eq_some_iff.mp taken with ⟨engine, moved, rfl⟩
        exact .poller moved
  | drain event =>
      simp only [step] at taken
      split at taken
      · cases taken
      · rename_i allowed
        rcases moves_transports taken with ⟨transports, moved, rfl⟩
        cases moved with
        | goOn goesOn =>
            refine .drain ?_ goesOn
            simpa using (Bool.or_eq_false_iff.mp (Bool.of_not_eq_true allowed)).2
  | lookupSettles index lookup throws =>
      simp only [step, lookupSettles] at taken
      split at taken
      · cases taken
      · split at taken
        · cases taken
        · rcases Option.map_eq_some_iff.mp taken with ⟨settled, moved, rfl⟩
          rcases moves_transports moved with ⟨transports, _, rfl⟩
          exact .lookupSettles

end LiveEngine

end Orbital.PulseCore.EventEngine
