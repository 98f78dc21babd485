import Orbital.Foundation.InsertionMap
import Orbital.Foundation.Trace

/-! # Account subscriptions

`subscribe`, `unsubscribe` and `unsubscribeAll` of `EventEngine.ts` for an engine of a
single network, and `stop` of `Watcher.ts`. The stop handlers of a watcher run within
its `stop`: the engine's own one first and then those of the callers, which may call
the engine again. A call of a stop handler is a step of its own, in the middle of an
`unsubscribeAll` that is under way.
-/

namespace Orbital.PulseCore.EventEngine

open Orbital.Foundation

structure Watcher where
  address : String
  stopped : Bool
  deriving DecidableEq

/-- The maps of the engine. A watcher has the number of its creation. -/
structure AccountSubscriptions (Predicate : Type) where
  registry : InsertionMap String Nat
  /-- The counts under `refKey.address`; other subscriptions have keys of their own. -/
  refCounts : RefCounts String
  filters : InsertionMap String Predicate
  watchers : List Watcher

namespace AccountSubscriptions

variable {Predicate : Type}

def initial : AccountSubscriptions Predicate where
  registry := .empty
  refCounts := .empty
  filters := .empty
  watchers := []

def setFilter (filters : InsertionMap String Predicate) (address : String) :
    Option Predicate → InsertionMap String Predicate
  | none => filters
  | some filter => filters.set address filter

def subscribe (subscriptions : AccountSubscriptions Predicate) (address : String)
    (filter : Option Predicate) : AccountSubscriptions Predicate × Nat :=
  match subscriptions.registry.get? address with
  | some watcher =>
      ({ subscriptions with refCounts := RefCounts.retain subscriptions.refCounts address },
        watcher)
  | none =>
      ({ registry := subscriptions.registry.set address subscriptions.watchers.length
         refCounts := RefCounts.retain subscriptions.refCounts address
         filters := setFilter subscriptions.filters address filter
         watchers := subscriptions.watchers ++ [{ address := address, stopped := false }] },
        subscriptions.watchers.length)

/-- The stop handler that `subscribe` adds. -/
def forget (subscriptions : AccountSubscriptions Predicate) (address : String) :
    AccountSubscriptions Predicate :=
  { subscriptions with
    registry := subscriptions.registry.delete address
    refCounts := subscriptions.refCounts.delete address
    filters := subscriptions.filters.delete address }

/-- `Watcher.stop`, which does nothing when the watcher is stopped. -/
def stop (subscriptions : AccountSubscriptions Predicate) (number : Nat) :
    AccountSubscriptions Predicate :=
  match subscriptions.watchers[number]? with
  | none => subscriptions
  | some watcher =>
      if watcher.stopped then subscriptions
      else
        { subscriptions with
          watchers := subscriptions.watchers.set number { watcher with stopped := true }
        }.forget watcher.address

def unsubscribe (subscriptions : AccountSubscriptions Predicate) (address : String) :
    AccountSubscriptions Predicate :=
  match subscriptions.registry.get? address with
  | none => subscriptions
  | some watcher =>
      let released := RefCounts.release subscriptions.refCounts address
      let current := { subscriptions with refCounts := released.1 }
      if released.2 then current.stop watcher else current

end AccountSubscriptions

/-! ## Calls -/

structure Drain where
  call : Nat
  remaining : List Nat
  deriving DecidableEq

structure SubscriptionCalls (Predicate : Type) where
  subscriptions : AccountSubscriptions Predicate
  drains : List Drain
  drainCalls : Nat

namespace SubscriptionCalls

variable {Predicate : Type}

def initial : SubscriptionCalls Predicate where
  subscriptions := .initial
  drains := []
  drainCalls := 0

inductive Event (Predicate : Type)
  | subscribe (address : String) (filter : Option Predicate)
  | unsubscribe (address : String)
  /-- A watcher's own `stop` is called. -/
  | stop (number : Nat)
  /-- `unsubscribeAll` copies the registry. -/
  | unsubscribeAll
  /-- The innermost `unsubscribeAll` stops its next watcher. -/
  | stopNext (number : Nat)
  /-- The innermost `unsubscribeAll` returns. -/
  | returns (call : Nat)
  /-- A stop handler throws out of the innermost `unsubscribeAll`. -/
  | throws
  deriving DecidableEq

def withSubscriptions (state : SubscriptionCalls Predicate)
    (subscriptions : AccountSubscriptions Predicate) : SubscriptionCalls Predicate :=
  { state with subscriptions := subscriptions }

def unsubscribeAll (state : SubscriptionCalls Predicate) : SubscriptionCalls Predicate :=
  { state with
    drains :=
      { call := state.drainCalls
        remaining := state.subscriptions.registry.values } :: state.drains
    drainCalls := state.drainCalls + 1 }

def stopNext (state : SubscriptionCalls Predicate) (number : Nat) :
    Option (SubscriptionCalls Predicate) :=
  match state.drains with
  | { call := call, remaining := next :: remaining } :: drains =>
      if next = number then
        some { state with
          subscriptions := state.subscriptions.stop number
          drains := { call := call, remaining := remaining } :: drains }
      else none
  | _ => none

def returns (state : SubscriptionCalls Predicate) (call : Nat) :
    Option (SubscriptionCalls Predicate) :=
  match state.drains with
  | drain :: drains =>
      if drain = { call := call, remaining := [] } then some { state with drains := drains }
      else none
  | [] => none

def throws (state : SubscriptionCalls Predicate) : Option (SubscriptionCalls Predicate) :=
  match state.drains with
  | _ :: drains => some { state with drains := drains }
  | [] => none

def step (state : SubscriptionCalls Predicate) :
    Event Predicate → Option (SubscriptionCalls Predicate)
  | .subscribe address filter =>
      some (state.withSubscriptions (state.subscriptions.subscribe address filter).1)
  | .unsubscribe address =>
      some (state.withSubscriptions (state.subscriptions.unsubscribe address))
  | .stop number => some (state.withSubscriptions (state.subscriptions.stop number))
  | .unsubscribeAll => some state.unsubscribeAll
  | .stopNext number => state.stopNext number
  | .returns call => state.returns call
  | .throws => state.throws

abbrev Run (start : SubscriptionCalls Predicate) (events : List (Event Predicate))
    (final : SubscriptionCalls Predicate) : Prop :=
  Trace (Takes step) start events final

end SubscriptionCalls

/-! ## What an operation changes -/

namespace AccountSubscriptions

variable {Predicate : Type}

structure Counted (current : AccountSubscriptions Predicate) (address : String) (count : Nat)
    (next : AccountSubscriptions Predicate) : Prop where
  registry : next.registry = current.registry
  refCounts : ∀ other, next.refCounts.get? other =
    if other = address then some count else current.refCounts.get? other
  filters : next.filters = current.filters
  watchers : next.watchers = current.watchers

structure Created (current : AccountSubscriptions Predicate) (address : String)
    (filter : Option Predicate) (next : AccountSubscriptions Predicate) : Prop where
  registry : ∀ other, next.registry.get? other =
    if other = address then some current.watchers.length else current.registry.get? other
  refCounts : ∀ other, next.refCounts.get? other =
    if other = address then some 1 else current.refCounts.get? other
  filters : ∀ other, next.filters.get? other =
    if other = address then filter else current.filters.get? other
  watchers : next.watchers = current.watchers ++ [{ address := address, stopped := false }]

structure Ended (current : AccountSubscriptions Predicate) (number : Nat) (address : String)
    (next : AccountSubscriptions Predicate) : Prop where
  live : current.watchers[number]? = some { address := address, stopped := false }
  registry : ∀ other, next.registry.get? other =
    if other = address then none else current.registry.get? other
  refCounts : ∀ other, next.refCounts.get? other =
    if other = address then none else current.refCounts.get? other
  filters : ∀ other, next.filters.get? other =
    if other = address then none else current.filters.get? other
  watchers : next.watchers = current.watchers.set number { address := address, stopped := true }

structure WellKept (subscriptions : AccountSubscriptions Predicate) : Prop where
  registered : ∀ address number, subscriptions.registry.get? address = some number ↔
    subscriptions.watchers[number]? = some { address := address, stopped := false }
  counted : ∀ address, (subscriptions.refCounts.get? address).isSome =
    (subscriptions.registry.get? address).isSome
  positive : ∀ address count, subscriptions.refCounts.get? address = some count → 0 < count
  filtered : ∀ address, subscriptions.registry.get? address = none →
    subscriptions.filters.get? address = none

theorem wellKept_initial : WellKept (initial : AccountSubscriptions Predicate) where
  registered := by
    intro address number
    constructor
    · intro registered
      cases registered
    · intro isLive
      cases isLive
  counted _ := rfl
  positive := by
    intro address count present
    cases present
  filtered _ _ := rfl

theorem get?_setFilter {filters : InsertionMap String Predicate} {address : String}
    (absent : filters.get? address = none) (filter : Option Predicate) (other : String) :
    (setFilter filters address filter).get? other =
      if other = address then filter else filters.get? other := by
  cases filter with
  | none =>
      rw [setFilter]
      split
      · rename_i same
        rw [same, absent]
      · rfl
  | some filter => exact InsertionMap.get?_set filters address other filter

theorem WellKept.count_of_registered {subscriptions : AccountSubscriptions Predicate}
    (kept : WellKept subscriptions) {address : String} {number : Nat}
    (registered : subscriptions.registry.get? address = some number) :
    ∃ count, subscriptions.refCounts.get? address = some count ∧ 0 < count := by
  have counted := kept.counted address
  rw [registered] at counted
  rcases Option.isSome_iff_exists.mp counted with ⟨count, present⟩
  exact ⟨count, present, kept.positive address count present⟩

theorem WellKept.uncounted {subscriptions : AccountSubscriptions Predicate}
    (kept : WellKept subscriptions) {address : String}
    (absent : subscriptions.registry.get? address = none) :
    subscriptions.refCounts.get? address = none := by
  have counted := kept.counted address
  rw [absent] at counted
  exact Option.not_isSome_iff_eq_none.mp (Bool.eq_false_iff.mp counted)

theorem subscribe_cases {current : AccountSubscriptions Predicate} (kept : WellKept current)
    (address : String) (filter : Option Predicate) :
    (∃ number count, current.registry.get? address = some number ∧
      current.refCounts.get? address = some count ∧
      (current.subscribe address filter).2 = number ∧
      Counted current address (count + 1) (current.subscribe address filter).1) ∨
    (current.registry.get? address = none ∧
      (current.subscribe address filter).2 = current.watchers.length ∧
      Created current address filter (current.subscribe address filter).1) := by
  rw [subscribe]
  cases registered : current.registry.get? address with
  | some number =>
      rcases kept.count_of_registered registered with ⟨count, present, _⟩
      refine .inl ⟨number, count, rfl, present, rfl, rfl, ?_, rfl, rfl⟩
      intro other
      change (RefCounts.retain current.refCounts address).get? other = _
      rw [RefCounts.retain_present present, InsertionMap.get?_set]
  | none =>
      refine .inr ⟨rfl, rfl, ?_, ?_, ?_, rfl⟩
      · intro other
        exact InsertionMap.get?_set _ _ _ _
      · intro other
        change (RefCounts.retain current.refCounts address).get? other = _
        rw [RefCounts.retain_absent (kept.uncounted registered), InsertionMap.get?_set]
      · exact get?_setFilter (kept.filtered address registered) filter

theorem stop_live {current : AccountSubscriptions Predicate} {number : Nat} {address : String}
    (isLive : current.watchers[number]? = some { address := address, stopped := false }) :
    Ended current number address (current.stop number) := by
  have stopped : current.stop number =
      { current with
        watchers := current.watchers.set number { address := address, stopped := true }
      }.forget address := by
    rw [stop, isLive]
    rfl
  rw [stopped]
  refine ⟨isLive, ?_, ?_, ?_, rfl⟩
  · intro other
    exact InsertionMap.get?_delete _ _ _
  · intro other
    exact InsertionMap.get?_delete _ _ _
  · intro other
    exact InsertionMap.get?_delete _ _ _

theorem stop_cases (current : AccountSubscriptions Predicate) (number : Nat) :
    (∃ address, Ended current number address (current.stop number)) ∨
    ((∀ address, current.watchers[number]? ≠ some { address := address, stopped := false }) ∧
      current.stop number = current) := by
  cases found : current.watchers[number]? with
  | none =>
      refine .inr ⟨?_, ?_⟩
      · intro address isLive
        cases isLive
      · rw [stop, found]
  | some watcher =>
      rcases watcher with ⟨address, stopped⟩
      cases stopped with
      | true =>
          refine .inr ⟨?_, ?_⟩
          · intro other isLive
            cases isLive
          · rw [stop, found]
            rfl
      | false => exact .inl ⟨address, stop_live found⟩

theorem unsubscribe_cases {current : AccountSubscriptions Predicate} (kept : WellKept current)
    (address : String) :
    (current.registry.get? address = none ∧ current.unsubscribe address = current) ∨
    ∃ number count, current.registry.get? address = some number ∧
      current.refCounts.get? address = some count ∧
      ((1 < count ∧ Counted current address (count - 1) (current.unsubscribe address)) ∨
        (count = 1 ∧ Ended current number address (current.unsubscribe address))) := by
  rw [unsubscribe]
  cases registered : current.registry.get? address with
  | none => exact .inl ⟨rfl, rfl⟩
  | some number =>
      rcases kept.count_of_registered registered with ⟨count, present, positive⟩
      refine .inr ⟨number, count, rfl, present, ?_⟩
      by_cases shared : 1 < count
      · refine .inl ⟨shared, ?_⟩
        rw [RefCounts.release_shared present shared]
        refine ⟨rfl, ?_, rfl, rfl⟩
        intro other
        exact InsertionMap.get?_set _ _ _ _
      · refine .inr ⟨by omega, ?_⟩
        rw [RefCounts.release_last present (by omega)]
        have isLive := (kept.registered address number).mp registered
        have ended := @stop_live Predicate
          { current with refCounts := current.refCounts.delete address } _ _ isLive
        refine ⟨isLive, ended.registry, ?_, ended.filters, ended.watchers⟩
        intro other
        refine (ended.refCounts other).trans ?_
        split
        · rfl
        · rename_i different
          exact (InsertionMap.get?_delete _ _ _).trans (if_neg different)

end AccountSubscriptions

end Orbital.PulseCore.EventEngine
