import Orbital.PulseCore.SorobanSubscriber.Poll

/-! # Polls one after the other

What a poll does when nothing interrupts it, the RPC answers, the cursor store
works and no handler throws. `poll` runs `_doPoll` in these surroundings, and
`poll_eq` says in one equation what comes of it.
-/

namespace Orbital.PulseCore.SorobanSubscriber

open Orbital.Foundation

variable {Value : Type}

structure Rpc (Value : Type) where
  latestLedger : Nat
  getEvents : EventsRequest → Page Value

def Rpc.respond (rpc : Rpc Value) : Async.Responder (Option String) (Response Value) Failure
  | stored, .getCursor => (stored, .ok stored)
  | _, .saveCursor cursor => (some cursor, .ok ())
  | stored, .getLatestLedger => (stored, .ok rpc.latestLedger)
  | stored, .getEvents calls => (stored, .ok (calls.map rpc.getEvents))
  | stored, .getFallbackPage _ =>
      (stored, .ok { events := [], latestLedger := none, cursor := none })
  | stored, .onEvent _ _ => (stored, .ok ())

structure Position (Value : Type) where
  stored : Option String
  subscriber : Subscriber Value

def poll (options : Options) (position : Position Value) (rpc : Rpc Value) : Position Value :=
  let outcome := (doPoll options).run rpc.respond position.stored position.subscriber
  { stored := outcome.world, subscriber := outcome.state }

/-! ## What a poll comes to -/

def handlers (options : Options) (subscriptions : List SorobanSubscription)
    (event : SorobanEvent Value) : List String :=
  if subscriptions.isEmpty then options.onEvent.toList
  else subscriptions.filterMap fun sub =>
    if eventMatchesSubscription event sub then sub.onEvent.or options.onEvent else none

def deliveries (options : Options) (subscriptions : List SorobanSubscription)
    (event : SorobanEvent Value) : List (Notice Value) :=
  (handlers options subscriptions event).map fun name =>
    .onEvent name (eventToEmit options event)

namespace Subscriber

def delivered (options : Options) (event : SorobanEvent Value) (subscriber : Subscriber Value) :
    Subscriber Value :=
  { subscriber with
    notices := subscriber.notices ++ deliveries options subscriber.subscriptions event }

def deliverPage (options : Options) :
    List (SorobanEvent Value) → Subscriber Value → Subscriber Value × Bool
  | [], subscriber => (subscriber, true)
  | event :: rest, subscriber =>
      if subscriber.isStopped then (subscriber, false)
      else if reachesEnd options event then (subscriber.finishReplay, false)
      else if event.id ∈ subscriber.seen then
        deliverPage options rest (subscriber.touchSeen event.id)
      else
        deliverPage options rest
          ((subscriber.delivered options event).recordSeen options.dedupCacheSize event.id)

def ready (options : Options) (rpc : Rpc Value) (cursor : Option String)
    (subscriber : Subscriber Value) : Subscriber Value :=
  if cursor.isNone && subscriber.startLedger.isNone && options.hasLatestLedger then
    { subscriber with startLedger := some (rpc.latestLedger - options.startLedgerLookback) }
  else subscriber

end Subscriber

namespace Position

def cursor (options : Options) (position : Position Value) : Option String :=
  if options.isReplayMode then position.subscriber.replayCursor else position.stored

def requests (options : Options) (position : Position Value) (rpc : Rpc Value) :
    List EventsRequest :=
  let cursor := position.cursor options
  let ready := position.subscriber.ready options rpc cursor
  (rpcCalls ready.subscriptions).map (fetchEvents options ready.startLedger cursor)

def pages (options : Options) (position : Position Value) (rpc : Rpc Value) : List (Page Value) :=
  (position.requests options rpc).map rpc.getEvents

def saveCursor (options : Options) (position : Position Value) : Option String → Position Value
  | none => position
  | some cursor =>
      if options.isReplayMode then
        { position with subscriber := { position.subscriber with replayCursor := some cursor } }
      else { position with stored := some cursor }

def process (options : Options) (pages : List (Page Value)) (calls : Nat)
    (position : Position Value) : Position Value :=
  let connected := noteReconnected position.subscriber
  let uniqueEvents := mergePages options pages calls
  if options.isReplayMode && uniqueEvents.isEmpty then
    { position with subscriber := connected.finishReplay }
  else
    let delivered :=
      Subscriber.deliverPage options uniqueEvents { connected with isPolling := true }
    let advanced : Position Value :=
      if delivered.2 then
        { position with subscriber := delivered.1 }.saveCursor options
          (nextCursor pages uniqueEvents)
      else { position with subscriber := delivered.1 }
    { advanced with subscriber := { advanced.subscriber with isPolling := false } }

/-- A poll of a replay that is over does nothing; any other poll asks for the
next pages and works through them. -/
def next (options : Options) (position : Position Value) (rpc : Rpc Value) : Position Value :=
  if options.isReplayMode && position.subscriber.replayDone then position
  else
    { position with
      subscriber := position.subscriber.ready options rpc (position.cursor options)
      : Position Value }.process options (position.pages options rpc)
        (position.pages options rpc).length

end Position

/-! ## The program does just that -/

section Runs

variable (rpc : Rpc Value) (options : Options)

section Requests

variable (stored : Option String) (subscriber : Subscriber Value)

@[simp] theorem run_getCursor :
    (getCursor : Poll Value (Option String)).run rpc.respond stored subscriber =
      { world := stored, state := subscriber, result := .ok stored } := rfl

@[simp] theorem run_saveCursor (cursor : String) :
    (saveCursor cursor : Poll Value Unit).run rpc.respond stored subscriber =
      { world := some cursor, state := subscriber, result := .ok () } := rfl

@[simp] theorem run_getLatestLedger :
    (getLatestLedger : Poll Value Nat).run rpc.respond stored subscriber =
      { world := stored, state := subscriber, result := .ok rpc.latestLedger } := rfl

@[simp] theorem run_getEvents (calls : List EventsRequest) :
    (getEvents calls : Poll Value (List (Page Value))).run rpc.respond stored
        subscriber =
      { world := stored, state := subscriber, result := .ok (calls.map rpc.getEvents) } := rfl

@[simp] theorem run_onEvent (name : String) (event : SorobanEvent Value) :
    (onEvent name event : Poll Value Unit).run rpc.respond stored subscriber =
      { world := stored, state := subscriber, result := .ok () } := rfl

end Requests

theorem run_callHandler (handler : Option String) (event : SorobanEvent Value)
    (stored : Option String) (subscriber : Subscriber Value) :
    (callHandler handler event).run rpc.respond stored subscriber =
      { world := stored
        state := { subscriber with
          notices := subscriber.notices ++ handler.toList.map (Notice.onEvent · event) }
        result := .ok () } := by
  cases handler with
  | none => simp [callHandler]
  | some name => simp [callHandler, Subscriber.notify]

theorem run_dispatchTo (event : SorobanEvent Value)
    (subscriptions : List SorobanSubscription) (stored : Option String)
    (subscriber : Subscriber Value) :
    (dispatchTo options event subscriptions).run rpc.respond stored subscriber =
      { world := stored
        state := { subscriber with
          notices := subscriber.notices ++
            (subscriptions.filterMap fun sub =>
              if eventMatchesSubscription event sub then sub.onEvent.or options.onEvent
              else none).map (Notice.onEvent · event) }
        result := .ok () } := by
  induction subscriptions generalizing subscriber with
  | nil => simp [dispatchTo]
  | cons sub rest induction =>
      rw [dispatchTo]
      split
      · rename_i hit
        rw [Async.bind_eq, Async.run_bind, run_callHandler, Async.Outcome.andThen_ok, induction]
        cases handler : sub.onEvent.or options.onEvent <;> simp [hit, handler]
      · rename_i miss
        rw [induction]
        simp [miss]

theorem eventMatches_eventToEmit (event : SorobanEvent Value) (sub : SorobanSubscription) :
    eventMatchesSubscription (eventToEmit options event) sub =
      eventMatchesSubscription event sub := by
  have sameFilter : ∀ filter, eventMatchesFilter (eventToEmit options event) filter =
      eventMatchesFilter event filter := by
    intro filter
    simp only [eventMatchesFilter, eventToEmit]
    cases options.xdrFormat <;> rfl
  rw [eventMatchesSubscription, eventMatchesSubscription, funext sameFilter]

theorem run_dispatch (event : SorobanEvent Value) (stored : Option String)
    (subscriber : Subscriber Value) :
    (dispatch options event).run rpc.respond stored subscriber =
      { world := stored, state := subscriber.delivered options event, result := .ok () } := by
  rw [dispatch, Async.bind_eq, Async.run_bind, Async.run_get, Async.Outcome.andThen_ok]
  split
  · rename_i none
    rw [run_callHandler]
    simp [Subscriber.delivered, deliveries, handlers, none]
  · rename_i some
    rw [run_dispatchTo]
    simp [Subscriber.delivered, deliveries, handlers, some, eventMatches_eventToEmit]

theorem run_deliver (events : List (SorobanEvent Value)) (stored : Option String)
    (subscriber : Subscriber Value) :
    (deliver options events).run rpc.respond stored subscriber =
      { world := stored
        state := (Subscriber.deliverPage options events subscriber).1
        result := .ok (Subscriber.deliverPage options events subscriber).2 } := by
  induction events generalizing subscriber with
  | nil => rfl
  | cons event rest induction =>
      rw [deliver, Async.bind_eq, Async.run_bind, Async.run_get, Async.Outcome.andThen_ok,
        Subscriber.deliverPage]
      split
      · rfl
      · split
        · rfl
        · split
          · simp [induction]
          · simp [run_dispatch, induction]

theorem run_deliverPages (pages : List (Page Value)) (events : List (SorobanEvent Value))
    (stored : Option String) (subscriber : Subscriber Value) :
    (deliverPages options pages events).run rpc.respond stored subscriber =
      let delivered := Subscriber.deliverPage options events subscriber
      let advanced : Position Value :=
        if delivered.2 then
          { stored, subscriber := delivered.1 : Position Value }.saveCursor options
            (nextCursor pages events)
        else { stored, subscriber := delivered.1 }
      { world := advanced.stored, state := advanced.subscriber, result := .ok () } := by
  rw [deliverPages, Async.bind_eq, Async.run_bind, run_deliver, Async.Outcome.andThen_ok]
  split
  · rename_i complete
    cases next : nextCursor pages events with
    | none => simp [complete, advanceCursor, Position.saveCursor]
    | some cursor =>
        cases replaying : options.isReplayMode <;>
          simp [complete, advanceCursor, Position.saveCursor, replaying]
  · rename_i incomplete
    simp [incomplete]

theorem run_processPages (pages : List (Page Value)) (calls : Nat) (position : Position Value) :
    (processPages options pages calls).run rpc.respond position.stored position.subscriber =
      { world := (position.process options pages calls).stored
        state := (position.process options pages calls).subscriber
        result := .ok () } := by
  rw [processPages, Async.bind_eq, Async.run_bind, Async.run_modify, Async.Outcome.andThen_ok,
    Position.process]
  cases isOver : options.isReplayMode && (mergePages options pages calls).isEmpty with
  | true => simp [isOver]
  | false =>
      simp only [isOver, Bool.false_eq_true, if_false, Async.bind_eq, Async.run_bind,
        Async.run_modify, Async.Outcome.andThen_ok, Async.run_tryFinally, run_deliverPages]

theorem run_chooseStartLedger (cursor : Option String) (stored : Option String)
    (subscriber : Subscriber Value) :
    (chooseStartLedger options cursor).run rpc.respond stored subscriber =
      { world := stored, state := subscriber.ready options rpc cursor, result := .ok () } := by
  rw [chooseStartLedger, Async.bind_eq, Async.run_bind, Async.run_get, Async.Outcome.andThen_ok,
    Subscriber.ready]
  split
  · simp
  · rfl

theorem run_fetchPages (cursor : Option String)
    (calls : List (List ContractSubscriptionFilter)) (stored : Option String)
    (subscriber : Subscriber Value) :
    (fetchPages options cursor calls).run rpc.respond stored subscriber =
      { world := stored
        state := subscriber.ready options rpc cursor
        result := .ok ((calls.map (fetchEvents options
          (subscriber.ready options rpc cursor).startLedger cursor)).map rpc.getEvents) } := by
  simp [fetchPages, run_chooseStartLedger]

theorem ready_subscriptions (cursor : Option String) (subscriber : Subscriber Value) :
    (subscriber.ready options rpc cursor).subscriptions = subscriber.subscriptions := by
  rw [Subscriber.ready]
  split <;> rfl

theorem run_doPoll (position : Position Value) :
    (doPoll options).run rpc.respond position.stored position.subscriber =
      { world := (position.next options rpc).stored
        state := (position.next options rpc).subscriber
        result := .ok () } := by
  rw [doPoll, Async.bind_eq, Async.run_bind, Async.run_get, Async.Outcome.andThen_ok,
    Position.next]
  split
  · rfl
  · have cursorRead : (currentCursor options position.subscriber).run rpc.respond
        position.stored position.subscriber =
          { world := position.stored, state := position.subscriber
            result := .ok (position.cursor options) } := by
      rw [currentCursor, Position.cursor]
      split
      · rfl
      · rfl
    rw [Async.bind_eq, Async.run_bind, cursorRead, Async.Outcome.andThen_ok, Async.bind_eq,
      Async.run_bind, Async.run_attempt, Async.Outcome.andThen_ok, run_fetchPages]
    have pages : ((rpcCalls position.subscriber.subscriptions).map (fetchEvents options
        (position.subscriber.ready options rpc (position.cursor options)).startLedger
        (position.cursor options))).map rpc.getEvents = position.pages options rpc := by
      simp [Position.pages, Position.requests, ready_subscriptions]
    have count : (rpcCalls position.subscriber.subscriptions).length =
        (position.pages options rpc).length := by
      rw [← pages]
      simp
    simp only [pages, count]
    rw [run_processPages rpc options (position.pages options rpc) _
      { position with
        subscriber := position.subscriber.ready options rpc (position.cursor options) }]

/-- Every poll succeeds in these surroundings, and this is what it comes to. -/
theorem poll_eq (position : Position Value) :
    poll options position rpc = position.next options rpc := by
  rw [poll, run_doPoll]

end Runs

end Orbital.PulseCore.SorobanSubscriber

/-! ## How an RPC answers

The RPC is outside the repository. What it may answer to `getEvents` is stated
here: the events a request is about, in order and cut off to a page.
-/

namespace Orbital.PulseCore.SorobanSubscriber

variable {Value : Type}

structure FilterMeaning (Value : Type) where
  admits : ContractSubscriptionFilter → SorobanEvent Value → Bool
  contract : ∀ filter event, admits filter event = true →
    eventMatchesFilter event filter = true
  sameKey : ∀ first second, filterKey first = filterKey second →
    admits first = admits second

def FilterMeaning.admitsAny (meaning : FilterMeaning Value)
    (filters : List ContractSubscriptionFilter) (event : SorobanEvent Value) : Bool :=
  filters.isEmpty || filters.any fun filter => meaning.admits filter event

def afterCursor (cursor : Option String) (event : SorobanEvent Value) : Bool :=
  match cursor with
  | none => true
  | some cursor => decide (cursor < event.pagingToken)

theorem not_afterCursor {cursor : String} {event : SorobanEvent Value} :
    afterCursor (some cursor) event = false ↔ event.pagingToken ≤ cursor := by
  rw [afterCursor, decide_eq_false_iff_not, not_lt]

def eligible (meaning : FilterMeaning Value) (history : List (SorobanEvent Value))
    (request : EventsRequest) : List (SorobanEvent Value) :=
  history.filter fun event =>
    afterCursor request.cursor event && meaning.admitsAny request.filters event

/-- The RPC answers with the events a request is about, in order and cut off to
a page; a cursor it reports passes only events of the page. -/
structure Serves (meaning : FilterMeaning Value) (history : List (SorobanEvent Value))
    (rpc : Rpc Value) : Prop where
  page : ∀ request, ∃ count, count ≤ request.limit ∧
    (rpc.getEvents request).events = (eligible meaning history request).take count
  progress : ∀ request, 1 ≤ request.limit → eligible meaning history request ≠ [] →
    (rpc.getEvents request).events ≠ []
  cursor : ∀ request cursor, (rpc.getEvents request).cursor = some cursor →
    ∀ event ∈ eligible meaning history request, event.pagingToken ≤ cursor →
      event ∈ (rpc.getEvents request).events

/-! ## An RPC that fills its pages -/

def contractMeaning : FilterMeaning Value where
  admits := fun filter event => eventMatchesFilter event filter
  contract := fun _ _ admits => admits
  sameKey := by
    intro first second sameKey
    have sorted : first.contractIds.map (List.insertionSort (· ≤ ·)) =
        second.contractIds.map (List.insertionSort (· ≤ ·)) :=
      congrArg FilterKey.contractIds sameKey
    have sameIds : (first.contractIds = none ∧ second.contractIds = none) ∨
        ∃ left right, first.contractIds = some left ∧ second.contractIds = some right ∧
          left.Perm right := by
      cases left : first.contractIds with
      | none =>
          cases right : second.contractIds with
          | none => exact .inl ⟨rfl, rfl⟩
          | some ids => simp [left, right] at sorted
      | some leftIds =>
          cases right : second.contractIds with
          | none => simp [left, right] at sorted
          | some rightIds =>
              refine .inr ⟨leftIds, rightIds, rfl, rfl, ?_⟩
              rw [left, right, Option.map_some, Option.map_some] at sorted
              exact (List.perm_insertionSort _ leftIds).symm.trans
                (Option.some.inj sorted ▸ List.perm_insertionSort _ rightIds)
    funext event
    rw [eventMatchesFilter, eventMatchesFilter]
    rcases sameIds with ⟨left, right⟩ | ⟨leftIds, rightIds, left, right, perm⟩
    · rw [left, right]
    · rw [left, right]
      rcases leftIds with _ | ⟨leftId, leftRest⟩
      · rw [← List.nil_perm.mp perm]
      · rcases rightIds with _ | ⟨rightId, rightRest⟩
        · exact absurd perm.symm (by simp)
        · cases event.contractId with
          | none => rfl
          | some contractId =>
              simp only [List.contains_eq_mem]
              exact decide_eq_decide.mpr perm.mem_iff

def fullPages (meaning : FilterMeaning Value) (history : List (SorobanEvent Value)) :
    Rpc Value where
  latestLedger := 0
  getEvents := fun request =>
    let events := (eligible meaning history request).take request.limit
    { events, latestLedger := none, cursor := events.getLast?.map fun event => event.pagingToken }

theorem fullPages_serves (meaning : FilterMeaning Value) {history : List (SorobanEvent Value)}
    (ordered : history.Pairwise fun first second => first.pagingToken < second.pagingToken) :
    Serves meaning history (fullPages meaning history) where
  page := fun request => ⟨request.limit, Nat.le_refl _, rfl⟩
  progress := by
    intro request limit some
    rcases List.exists_cons_of_ne_nil some with ⟨head, tail, equal⟩
    rcases Nat.exists_eq_add_of_le limit with ⟨more, size⟩
    simp [fullPages, equal, size, Nat.add_comm 1 more]
  cursor := by
    intro request cursor reported event isEligible passed
    rcases Option.map_eq_some_iff.mp reported with ⟨last, isLast, rfl⟩
    have split : eligible meaning history request =
        (eligible meaning history request).take request.limit ++
          (eligible meaning history request).drop request.limit :=
      (List.take_append_drop _ _).symm
    have sorted : (eligible meaning history request).Pairwise fun first second =>
        first.pagingToken < second.pagingToken := ordered.filter _
    rw [split] at isEligible sorted
    rcases List.mem_append.mp isEligible with inPage | cutOff
    · exact inPage
    · have later := (List.pairwise_append.mp sorted).2.2 last (List.mem_of_getLast? isLast)
        event cutOff
      exact absurd passed (not_le.mpr later)

/-! ## Filters and events of a contract -/

def contractFilter (contractId : String) : ContractSubscriptionFilter where
  type := none
  contractIds := some [contractId]
  topicFilters := none

def eventOf (contractId token : String) (ledger : Nat) : SorobanEvent Unit where
  id := token
  pagingToken := token
  topic := []
  value := ()
  contractId := some contractId
  type := some "contract"
  decodedData := none
  ledger := some ledger

end Orbital.PulseCore.SorobanSubscriber
