import Orbital.PulseCore.NormalizedEvent
import Orbital.PulseCore.SorobanSubscriber.PollLoop

/-! # Contract subscriptions and the life of the engine

`start`, `stop`, `subscribeContract` and `unsubscribeContract` of
`EventEngine.ts`, for an engine of a single network. Subscriptions by id and
subscriptions by configuration are kept in registries of their own. `start` may
have to wait for the network probe of the constructor before it starts the
Soroban subscriber.
-/

namespace Orbital.PulseCore.EventEngine

open Orbital.Foundation
open Orbital.PulseCore.SorobanSubscriber

variable {Value : Type}

/-- The predicate of a subscription; `none` when it throws. -/
abbrev EventPredicate (Value : Type) : Type :=
  NormalizedEvent Value → Option Bool

structure ContractSubscribeOptions (Value : Type) where
  filters : Option (List ContractSubscriptionFilter)
  filter : Option (EventPredicate Value)

structure ContractEntry where
  watcher : Nat
  filters : List ContractSubscriptionFilter
  deriving DecidableEq

inductive RefKey
  | contract (id : String)
  | config (filterKey : List ContractFilter)
  deriving DecidableEq

/-- Whether the passphrase of the network an RPC reports is the expected one;
`none` when there is no answer. -/
abbrev NetworkInfo : Type := Option Bool

structure Engine (Value : Type) where
  isRunning : Bool
  stopGeneration : Nat
  sorobanSubscriber : Option (PollLoop Value)
  sorobanNetworkReady : Option NetworkInfo
  waitingStarts : List Nat
  contractRegistry : InsertionMap String ContractEntry
  contractConfigRegistry : InsertionMap (List ContractFilter) Nat
  refCounts : InsertionMap RefKey Nat
  filters : InsertionMap String (EventPredicate Value)
  watchers : Nat
  stopped : List Nat

namespace Engine

def initial (sorobanSubscriber : Option (Subscriber Value)) : Engine Value where
  isRunning := false
  stopGeneration := 0
  sorobanSubscriber := sorobanSubscriber.map PollLoop.initial
  sorobanNetworkReady := none
  waitingStarts := []
  contractRegistry := .empty
  contractConfigRegistry := .empty
  refCounts := .empty
  filters := .empty
  watchers := 0
  stopped := []

/-! ## Shared watchers -/

def retain (engine : Engine Value) (key : RefKey) : Engine Value :=
  { engine with
    refCounts := engine.refCounts.set key ((engine.refCounts.get? key).getD 0 + 1) }

def release (engine : Engine Value) (key : RefKey) : Engine Value × Bool :=
  match engine.refCounts.get? key with
  | none => (engine, true)
  | some count =>
      if count ≤ 1 then ({ engine with refCounts := engine.refCounts.delete key }, true)
      else ({ engine with refCounts := engine.refCounts.set key (count - 1) }, false)

theorem release_registries (engine : Engine Value) (key : RefKey) :
    (engine.release key).1.contractRegistry = engine.contractRegistry ∧
      (engine.release key).1.contractConfigRegistry = engine.contractConfigRegistry := by
  rw [release]
  split
  · exact ⟨rfl, rfl⟩
  · split
    · exact ⟨rfl, rfl⟩
    · exact ⟨rfl, rfl⟩

/-! ## The Soroban subscriber -/

def startSubscriber (engine : Engine Value) : Engine Value :=
  { engine with sorobanSubscriber := engine.sorobanSubscriber.map PollLoop.start }

def stopSubscriber (engine : Engine Value) : Engine Value :=
  { engine with sorobanSubscriber := engine.sorobanSubscriber.map PollLoop.stop }

/-! ## Subscriptions -/

def registerConfig (engine : Engine Value) (key : List ContractFilter) : Engine Value :=
  { engine.retain (.config key) with
    contractConfigRegistry := engine.contractConfigRegistry.set key engine.watchers
    watchers := engine.watchers + 1 }

def subscribeContractConfig (engine : Engine Value) (filters : List ContractFilter) :
    Engine Value × Except String Nat :=
  match validateContractFilters filters with
  | some errors =>
      (engine, .error ("Invalid ContractSubscriptionConfig: " ++ String.intercalate "; " errors))
  | none =>
      match engine.contractConfigRegistry.get? (stableFilterKey filters) with
      | some existing => (engine.retain (.config (stableFilterKey filters)), .ok existing)
      | none => (engine.registerConfig (stableFilterKey filters), .ok engine.watchers)

def registerContract (engine : Engine Value) (id : String)
    (options : Option (ContractSubscribeOptions Value)) : Engine Value :=
  { engine.retain (.contract id) with
    filters := match options.bind ContractSubscribeOptions.filter with
      | some filter => engine.filters.set id filter
      | none => engine.filters
    contractRegistry := engine.contractRegistry.set id {
      watcher := engine.watchers
      filters := (options.bind ContractSubscribeOptions.filters).getD [] }
    watchers := engine.watchers + 1 }

/-- A predicate given for an id that has a watcher already is ignored. -/
def subscribeContractId (engine : Engine Value) (id : String)
    (options : Option (ContractSubscribeOptions Value)) : Engine Value × Nat :=
  match engine.contractRegistry.get? id with
  | some existing => (engine.retain (.contract id), existing.watcher)
  | none =>
      (if engine.isRunning then (engine.registerContract id options).startSubscriber
        else engine.registerContract id options, engine.watchers)

def removeContract (engine : Engine Value) (id : String) (entry : ContractEntry) : Engine Value :=
  { engine with
    stopped := engine.stopped ++ [entry.watcher]
    contractRegistry := engine.contractRegistry.delete id
    refCounts := engine.refCounts.delete (.contract id)
    filters := engine.filters.delete id }

/-- `stop` of the watcher of a subscription by id, with its stop handler. -/
def stopContractWatcher (engine : Engine Value) (id : String) (entry : ContractEntry) :
    Engine Value :=
  if (engine.removeContract id entry).contractRegistry.size = 0 then
    (engine.removeContract id entry).stopSubscriber
  else engine.removeContract id entry

/-- `stop` of the watcher of a subscription by configuration, with its stop handler. -/
def stopConfigWatcher (engine : Engine Value) (key : List ContractFilter) (watcher : Nat) :
    Engine Value :=
  { engine with
    stopped := engine.stopped ++ [watcher]
    contractConfigRegistry := engine.contractConfigRegistry.delete key
    refCounts := engine.refCounts.delete (.config key) }

def unsubscribeContractConfig (engine : Engine Value) (filters : List ContractFilter) :
    Engine Value :=
  match engine.contractConfigRegistry.get? (stableFilterKey filters) with
  | none => engine
  | some watcher =>
      match engine.release (.config (stableFilterKey filters)) with
      | (released, true) => released.stopConfigWatcher (stableFilterKey filters) watcher
      | (released, false) => released

def unsubscribeContractId (engine : Engine Value) (id : String) : Engine Value :=
  match engine.contractRegistry.get? id with
  | none => engine
  | some entry =>
      match engine.release (.contract id) with
      | (released, true) => released.stopContractWatcher id entry
      | (released, false) => released

/-! ## Starting and stopping -/

inductive StartFailure
  | alreadyStarted
  | networkMismatch
  deriving DecidableEq

/-- `cachedNetwork` is what the RPC client's cache holds at the call. -/
def start (engine : Engine Value) (cachedNetwork : NetworkInfo) (strict : Bool) :
    Engine Value × Except StartFailure Bool :=
  if engine.isRunning then (engine, if strict then .error .alreadyStarted else .ok false)
  else
    match cachedNetwork with
    | some false => (engine, .error .networkMismatch)
    | some true => ({ engine with isRunning := true }.startSubscriber, .ok true)
    | none =>
        if engine.sorobanSubscriber.isSome then
          ({ engine with
              isRunning := true
              waitingStarts := engine.waitingStarts ++ [engine.stopGeneration] }, .ok true)
        else ({ engine with isRunning := true }, .ok true)

/-- `stop` up to its first `await`; the rest of it only concerns account watchers. -/
def stop (engine : Engine Value) : Engine Value :=
  { engine with
    isRunning := false
    stopGeneration := engine.stopGeneration + 1 }.stopSubscriber

/-- A waiting `start` goes on after the probe. -/
def verified (engine : Engine Value) (index : Nat) : Option (Engine Value) :=
  match engine.sorobanNetworkReady, engine.waitingStarts[index]? with
  | some info, some startGeneration =>
      let resumed := { engine with waitingStarts := engine.waitingStarts.eraseIdx index }
      some (
        if engine.stopGeneration ≠ startGeneration then resumed
        else if info = some false then resumed.stop
        else resumed.startSubscriber)
  | _, _ => none

/-! ## Steps -/

inductive Event (Value : Type)
  | start (cachedNetwork : NetworkInfo) (strict : Bool)
  | stop
  | probeSettles (info : NetworkInfo)
  | verified (index : Nat)
  | subscribeContractId (id : String) (options : Option (ContractSubscribeOptions Value))
  | subscribeContractConfig (filters : List ContractFilter)
  | unsubscribeContractId (id : String)
  | unsubscribeContractConfig (filters : List ContractFilter)
  | poller (event : PollLoop.Event Value)

def isOwnStep : PollLoop.Event Value → Bool
  | .start | .stop => false
  | _ => true

def step (options : Options) (engine : Engine Value) : Event Value → Option (Engine Value)
  | .start cachedNetwork strict => some (engine.start cachedNetwork strict).1
  | .stop => some engine.stop
  | .probeSettles info =>
      match engine.sorobanNetworkReady with
      | none => some { engine with sorobanNetworkReady := some info }
      | some _ => none
  | .verified index => engine.verified index
  | .subscribeContractId id options => some (engine.subscribeContractId id options).1
  | .subscribeContractConfig filters => some (engine.subscribeContractConfig filters).1
  | .unsubscribeContractId id => some (engine.unsubscribeContractId id)
  | .unsubscribeContractConfig filters => some (engine.unsubscribeContractConfig filters)
  | .poller event =>
      if isOwnStep event then
        engine.sorobanSubscriber.bind fun poller =>
          (poller.step options event).map fun next =>
            { engine with sorobanSubscriber := some next }
      else none

abbrev Run (options : Options) (start : Engine Value) (events : List (Event Value))
    (final : Engine Value) : Prop :=
  Trace (Takes (step options)) start events final

end Engine

end Orbital.PulseCore.EventEngine
