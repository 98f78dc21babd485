import Mathlib.Data.String.Basic
import Orbital.Foundation.Protocol
import Orbital.PulseCore.SorobanSubscriber.Types

/-! # One poll

`_doPoll` of `SorobanSubscriber.ts`, cut where it awaits.
-/

namespace Orbital.PulseCore.SorobanSubscriber

open Orbital.Foundation

variable {Value : Type}

abbrev Poll (Value Result : Type) : Type :=
  Async (Subscriber Value) (Response Value) Failure Result

/-! ## What a poll awaits -/

def getCursor : Poll Value (Option String) :=
  Async.call Request.getCursor

def saveCursor (cursor : String) : Poll Value Unit :=
  Async.call (Request.saveCursor cursor)

def getLatestLedger : Poll Value Nat :=
  Async.call Request.getLatestLedger

def getEvents (calls : List EventsRequest) : Poll Value (List (Page Value)) :=
  Async.call (Request.getEvents calls)

def getFallbackPage (limit : Nat) : Poll Value (Page Value) :=
  Async.call (Request.getFallbackPage limit)

def onEvent (handler : String) (event : SorobanEvent Value) : Poll Value Unit :=
  Async.call (Request.onEvent handler event)

/-! ## Which calls to make -/

/-- What `filterKey` serialises: two filters with the same key share a slot. -/
structure FilterKey where
  type : Option ContractEventType
  contractIds : Option (List String)
  topicFilters : Option (List (Option String))
  deriving DecidableEq

def filterKey (filter : ContractSubscriptionFilter) : FilterKey where
  type := filter.type
  contractIds := filter.contractIds.map (List.insertionSort (· ≤ ·))
  topicFilters := filter.topicFilters

def addFilter (byKey : InsertionMap FilterKey ContractSubscriptionFilter)
    (filter : ContractSubscriptionFilter) :
    InsertionMap FilterKey ContractSubscriptionFilter :=
  if byKey.has (filterKey filter) then byKey else byKey.set (filterKey filter) filter

def coalesceFilters (filters : List ContractSubscriptionFilter) : List ContractSubscriptionFilter :=
  (filters.foldl addFilter .empty).values

/-- Slices of five, the most filters one call may carry. -/
def filterBatches : List ContractSubscriptionFilter → List (List ContractSubscriptionFilter)
  | first :: second :: third :: fourth :: fifth :: rest =>
      [first, second, third, fourth, fifth] :: filterBatches rest
  | [] => []
  | short => [short]

def legacySubscription : SorobanSubscription where
  id := "__legacy__"
  filters := []
  onEvent := none

/-- The filters of each `getEvents` call of a poll. -/
def rpcCalls (subscriptions : List SorobanSubscription) : List (List ContractSubscriptionFilter) :=
  let activeSubs := if subscriptions.isEmpty then [legacySubscription] else subscriptions
  let hasMatchAll := activeSubs.any fun sub => sub.filters.isEmpty
  if hasMatchAll then [[]]
  else
    let uniqueFilters := coalesceFilters (activeSubs.flatMap fun sub => sub.filters)
    if uniqueFilters.isEmpty then [[]] else filterBatches uniqueFilters

/-! ## Fetching -/

def currentCursor (options : Options) (subscriber : Subscriber Value) :
    Poll Value (Option String) :=
  if options.isReplayMode then return subscriber.replayCursor
  else getCursor

def fetchEvents (options : Options) (startLedger : Option Nat)
    (currentCursor : Option String) (filters : List ContractSubscriptionFilter) :
    EventsRequest :=
  if options.hasLatestLedger then
    { positional := false
      startLedger := if currentCursor.isNone then startLedger else none
      cursor := currentCursor
      filters := filters
      limit := options.pageLimit.value
      xdrFormat := options.xdrFormat }
  else
    { positional := true
      startLedger := none
      cursor := currentCursor
      filters := filters
      limit := options.pageLimit.value
      xdrFormat := options.xdrFormat }

/-- Without a cursor the first live poll starts near the latest ledger. -/
def chooseStartLedger (options : Options) (currentCursor : Option String) : Poll Value Unit := do
  let subscriber ← Async.get
  if currentCursor.isNone && subscriber.startLedger.isNone && options.hasLatestLedger then do
    let latestLedger ← getLatestLedger
    Async.modify fun subscriber =>
      { subscriber with startLedger := some (latestLedger - options.startLedgerLookback) }
  else return ()

def fetchPages (options : Options) (currentCursor : Option String)
    (calls : List (List ContractSubscriptionFilter)) : Poll Value (List (Page Value)) := do
  chooseStartLedger options currentCursor
  let subscriber ← Async.get
  getEvents (calls.map (fetchEvents options subscriber.startLedger currentCursor))

/-! ## Failed requests -/

def includes (part : List Char) : List Char → Bool
  | [] => part.isEmpty
  | text@(_ :: rest) => part.isPrefixOf text || includes part rest

def SorobanRpcError.isCursorExpired (error : SorobanRpcError) : Bool :=
  decide (error.code = .invalidRequest) &&
    (includes "startCursor".toList error.message.toList ||
      includes "oldest ledger".toList error.message.toList)

def lostCursor : Option String → String
  | none => "unknown"
  | some cursor => if cursor.isEmpty then "unknown" else cursor

/-- Fall back to the latest ledger; whether that worked out. -/
def recoverExpired (options : Options) : Poll Value Bool :=
  Async.orElse (do
    let fallbackPage ← getFallbackPage options.pageLimit.value
    match fallbackPage.latestLedger with
    | none => return false
    | some latestLedger => do
        if options.isReplayMode then
          Async.modify fun subscriber =>
            { subscriber with replayCursor := some (toString latestLedger) }
        else
          saveCursor (toString latestLedger)
        Async.modify fun subscriber =>
          subscriber.scheduleRetry (.exactly options.retryDelayMs)
        return true)
    fun _ => .done false

def fullJitterBackoffMs (attempt initialDelayMs maxDelayMs : Nat) : Delay :=
  .jittered (min (initialDelayMs * 2 ^ (attempt - 1)) maxDelayMs)

def Options.retriesExhausted (options : Options) (attempt : Nat) : Bool :=
  match options.maxRetries with
  | none => false
  | some maxRetries => decide (maxRetries < attempt)

def retryLater (options : Options) (error : SorobanRpcError)
    (currentCursor : Option String) (subscriber : Subscriber Value) : Subscriber Value :=
  let attempt := subscriber.reconnectAttempt + 1
  let counted := { subscriber with reconnectAttempt := attempt }.notify (.onRetryableError error)
  if options.retriesExhausted attempt then
    if options.hasOnTerminalError then counted.notify (.onTerminalError error) else counted
  else if error.code = .rateLimit then
    let delay := Delay.exactly (error.retryAfterMs.getD 60000)
    (counted.notify (.rateLimited attempt delay)).scheduleRetry delay
  else
    let delay := fullJitterBackoffMs attempt options.initialDelayMs options.maxDelayMs
    (counted.notify (.reconnecting attempt delay currentCursor)).scheduleRetry delay

def handleRpcError (options : Options) (error : SorobanRpcError)
    (currentCursor : Option String) : Poll Value Unit :=
  if error.retryable then Async.modify (retryLater options error currentCursor)
  else if options.hasOnTerminalError then
    Async.modify fun subscriber => subscriber.notify (.onTerminalError error)
  else .fail (.rpc error)

/-- The `catch` block around the requests of a poll. -/
def handleFetchFailure (options : Options) (failure : Failure)
    (currentCursor : Option String) : Poll Value Unit :=
  match failure with
  | .abort => return ()
  | .rpc error =>
      if error.isCursorExpired then do
        Async.modify fun subscriber =>
          subscriber.notify (.cursorExpired (lostCursor currentCursor))
        let recovered ← recoverExpired options
        if recovered then return () else handleRpcError options error currentCursor
      else handleRpcError options error currentCursor
  | .other message => .fail (.other message)

/-! ## Merging the pages -/

/-- One entry for each event id, in the order of first appearance; a single
page keeps its order, several are sorted by paging token. -/
def mergePages (options : Options) (pages : List (Page Value)) (calls : Nat) :
    List (SorobanEvent Value) :=
  let allEvents := pages.flatMap fun page => page.events
  let allEventsMap : InsertionMap String (SorobanEvent Value) :=
    InsertionMap.empty.setAll (allEvents.map fun event => (event.id, event))
  let uniqueEvents := allEventsMap.values
  if 1 < calls then
    uniqueEvents.insertionSort fun first second =>
      options.localeCompare first.pagingToken second.pagingToken ≤ 0
  else uniqueEvents

def nextCursor (pages : List (Page Value)) (uniqueEvents : List (SorobanEvent Value)) :
    Option String :=
  (pages.findSome? fun page => page.cursor).or
    (uniqueEvents.getLast?.map fun event => event.pagingToken)

/-! ## Delivery -/

def digitsPrefix : List Char → List Char
  | [] => []
  | char :: rest => if char.isDigit then char :: digitsPrefix rest else []

/-- The number before the first dash of an id such as `1234-0`. -/
def ledgerOfId (id : String) : Option Nat :=
  let digits := digitsPrefix id.toList
  if digits.isEmpty then none
  else if (id.toList.drop digits.length).head? = some '-' then
    some (digits.foldl (fun value char => value * 10 + (char.toNat - '0'.toNat)) 0)
  else none

def extractLedger (event : SorobanEvent Value) : Option Nat :=
  event.ledger.or (ledgerOfId event.id)

def reachesEnd (options : Options) (event : SorobanEvent Value) : Bool :=
  match options.endLedger, extractLedger event with
  | some endLedger, some ledger => decide (endLedger ≤ ledger)
  | _, _ => false

def eventMatchesFilter (event : SorobanEvent Value) (filter : ContractSubscriptionFilter) : Bool :=
  match filter.contractIds with
  | none | some [] => true
  | some contractIds =>
      match event.contractId with
      | none => false
      | some contractId => contractIds.contains contractId

def eventMatchesSubscription (event : SorobanEvent Value) (sub : SorobanSubscription) : Bool :=
  sub.filters.isEmpty || sub.filters.any (eventMatchesFilter event)

def normalizedType : Option String → Option String
  | some "contract" => some "contract.emitted"
  | some "system" => some "contract.invoked"
  | some "diagnostic" => some "contract.invoked"
  | other => other

def eventToEmit (options : Options) (event : SorobanEvent Value) : SorobanEvent Value :=
  let normalized := { event with type := normalizedType event.type }
  match options.xdrFormat with
  | .json => { normalized with decodedData := some event.value }
  | .base64 => normalized

def callHandler (handler : Option String) (event : SorobanEvent Value) : Poll Value Unit :=
  match handler with
  | none => return ()
  | some name => do
      Async.modify fun subscriber => subscriber.notify (.onEvent name event)
      onEvent name event

def dispatchTo (options : Options) (event : SorobanEvent Value) :
    List SorobanSubscription → Poll Value Unit
  | [] => return ()
  | sub :: rest =>
      if eventMatchesSubscription event sub then do
        callHandler (sub.onEvent.or options.onEvent) event
        dispatchTo options event rest
      else dispatchTo options event rest

def dispatch (options : Options) (event : SorobanEvent Value) : Poll Value Unit := do
  let subscriber ← Async.get
  if subscriber.subscriptions.isEmpty then
    callHandler options.onEvent (eventToEmit options event)
  else dispatchTo options (eventToEmit options event) subscriber.subscriptions

def deliver (options : Options) : List (SorobanEvent Value) → Poll Value Bool
  | [] => return true
  | event :: rest => do
      let subscriber ← Async.get
      if subscriber.isStopped then return false
      else if reachesEnd options event then do
        Async.modify Subscriber.finishReplay
        return false
      else if event.id ∈ subscriber.seen then do
        Async.modify fun subscriber => subscriber.touchSeen event.id
        deliver options rest
      else do
        dispatch options event
        Async.modify fun subscriber => subscriber.recordSeen options.dedupCacheSize event.id
        deliver options rest

def advanceCursor (options : Options) (cursor : Option String) : Poll Value Unit :=
  match cursor with
  | none => return ()
  | some cursor =>
      if options.isReplayMode then
        Async.modify fun subscriber => { subscriber with replayCursor := some cursor }
      else saveCursor cursor

def deliverPages (options : Options) (pages : List (Page Value))
    (uniqueEvents : List (SorobanEvent Value)) : Poll Value Unit := do
  let complete ← deliver options uniqueEvents
  if complete then advanceCursor options (nextCursor pages uniqueEvents) else return ()

/-! ## The poll -/

def noteReconnected (subscriber : Subscriber Value) : Subscriber Value :=
  if 0 < subscriber.reconnectAttempt then
    { subscriber with reconnectAttempt := 0 }.notify (.reconnected subscriber.reconnectAttempt)
  else subscriber

def processPages (options : Options) (pages : List (Page Value)) (calls : Nat) :
    Poll Value Unit := do
  Async.modify noteReconnected
  let uniqueEvents := mergePages options pages calls
  if options.isReplayMode && uniqueEvents.isEmpty then
    Async.modify Subscriber.finishReplay
  else do
    Async.modify fun subscriber => { subscriber with isPolling := true }
    Async.tryFinally (deliverPages options pages uniqueEvents)
      fun subscriber => { subscriber with isPolling := false }

def doPoll (options : Options) : Poll Value Unit := do
  let subscriber ← Async.get
  if options.isReplayMode && subscriber.replayDone then return ()
  else do
    let calls := rpcCalls subscriber.subscriptions
    let cursor ← currentCursor options subscriber
    let fetched ← Async.attempt (fetchPages options cursor calls)
    match fetched with
    | .error failure => handleFetchFailure options failure cursor
    | .ok pages => processPages options pages calls.length

end Orbital.PulseCore.SorobanSubscriber

/-! ## In which order a live poll makes its requests

A live poll reads the cursor first, asks the RPC from that cursor only, and is
over once it has saved a cursor.
-/

namespace Orbital.PulseCore.SorobanSubscriber

open Orbital.Foundation
open Orbital.Foundation.Async

variable {Value : Type}

inductive PollPhase
  | fresh
  | asking (cursor : Option String)
  | finished
  deriving DecidableEq

namespace PollPhase

def allows : PollPhase → Request Value → Prop
  | .fresh, .getCursor => True
  | .asking cursor, .getEvents calls => ∀ call ∈ calls, call.cursor = cursor
  | .asking _, .getLatestLedger | .asking _, .getFallbackPage _ | .asking _, .onEvent _ _
  | .asking _, .saveCursor _ => True
  | _, _ => False

def next (phase : PollPhase) :
    (request : Request Value) → Except Failure (Response Value request) → PollPhase
  | .getCursor, .ok cursor => .asking cursor
  | .getCursor, .error _ | .saveCursor _, _ => .finished
  | _, _ => phase

end PollPhase

def pollProtocol : Protocol PollPhase (Response Value) Failure where
  allows := PollPhase.allows
  next := PollPhase.next

def anywhere {Result : Type} : PollPhase → Except Failure Result → Prop :=
  fun _ _ => True

def stillAsking {Result : Type} (cursor : Option String) :
    PollPhase → Except Failure Result → Prop :=
  fun phase _ => phase = .asking cursor

variable {options : Options} {cursor : Option String}

@[simp] theorem fetchEvents_cursor (startLedger : Option Nat)
    (filters : List ContractSubscriptionFilter) :
    (fetchEvents options startLedger cursor filters).cursor = cursor := by
  rw [fetchEvents]
  split <;> rfl

/-! ## Requests -/

theorem keeps_getLatestLedger :
    Keeps pollProtocol (stillAsking cursor) (.asking cursor) (getLatestLedger : Poll Value Nat) :=
  keeps_call trivial fun _ => rfl

theorem keeps_getEvents {calls : List EventsRequest}
    (fromCursor : ∀ call ∈ calls, call.cursor = cursor) :
    Keeps pollProtocol (stillAsking cursor) (.asking cursor)
      (getEvents calls : Poll Value (List (Page Value))) :=
  keeps_call fromCursor fun _ => rfl

theorem keeps_onEvent (name : String) (event : SorobanEvent Value) :
    Keeps pollProtocol (stillAsking cursor) (.asking cursor)
      (onEvent name event : Poll Value Unit) :=
  keeps_call trivial fun _ => rfl

theorem keeps_saveCursor (next : String) :
    Keeps pollProtocol anywhere (.asking cursor) (saveCursor next : Poll Value Unit) :=
  keeps_call trivial fun _ => trivial

theorem keeps_getCursor :
    Keeps pollProtocol
      (fun phase result => match result with
        | .ok cursor => phase = .asking cursor
        | .error _ => True)
      .fresh (getCursor : Poll Value (Option String)) := by
  apply keeps_call
  · trivial
  · intro answer
    cases answer with
    | ok cursor => rfl
    | error failure => trivial

theorem keeps_getFallbackPage (limit : Nat) :
    Keeps pollProtocol (stillAsking cursor) (.asking cursor)
      (getFallbackPage limit : Poll Value (Page Value)) :=
  keeps_call trivial fun _ => rfl

/-! ## Fetching -/

theorem keeps_chooseStartLedger :
    Keeps pollProtocol (stillAsking cursor) (.asking cursor)
      (chooseStartLedger options cursor : Poll Value Unit) := by
  rw [chooseStartLedger, bind_eq]
  apply keeps_get_bind
  intro subscriber
  split
  · apply keeps_getLatestLedger.bindIn
    · exact fun _ => rfl
    · exact fun latestLedger => keeps_modify _ rfl
  · rfl

theorem keeps_fetchPages (calls : List (List ContractSubscriptionFilter)) :
    Keeps pollProtocol (stillAsking cursor) (.asking cursor)
      (fetchPages options cursor calls : Poll Value (List (Page Value))) := by
  rw [fetchPages, bind_eq]
  apply keeps_chooseStartLedger.bindIn
  · exact fun _ => rfl
  · intro _
    apply keeps_get_bind
    intro subscriber
    apply keeps_getEvents
    intro call member
    rcases List.mem_map.mp member with ⟨filters, _, rfl⟩
    exact fetchEvents_cursor _ filters

/-! ## Failed requests -/

theorem keeps_handleRpcError (error : SorobanRpcError) (phase : PollPhase) :
    Keeps pollProtocol anywhere phase
      (handleRpcError options error cursor : Poll Value Unit) := by
  rw [handleRpcError]
  split
  · exact keeps_modify _ trivial
  · split
    · exact keeps_modify _ trivial
    · trivial

theorem keeps_recoverExpired (live : options.endLedger = none) :
    Keeps pollProtocol anywhere (.asking cursor) (recoverExpired options : Poll Value Bool) := by
  have recovered : ∀ program : Poll Value Bool,
      Keeps pollProtocol anywhere (.asking cursor) program →
      Keeps pollProtocol anywhere (.asking cursor) (Async.orElse program fun _ => .done false) :=
    fun _ keeps => keeps.orElse (fun _ _ _ => trivial) fun _ _ _ => trivial
  apply recovered
  apply (keeps_getFallbackPage _).bindIn
  · exact fun _ => trivial
  · intro page
    split
    · trivial
    · rw [if_neg (by simp [Options.isReplayMode, live])]
      apply (keeps_saveCursor _).bind
      · exact fun _ _ _ => keeps_modify_bind _ trivial
      · exact fun _ _ _ => trivial

theorem keeps_handleFetchFailure (live : options.endLedger = none) (failure : Failure) :
    Keeps pollProtocol anywhere (.asking cursor)
      (handleFetchFailure options failure cursor : Poll Value Unit) := by
  cases failure with
  | abort | other message => trivial
  | rpc error =>
      rw [handleFetchFailure]
      split
      · apply keeps_modify_bind
        apply (keeps_recoverExpired live).bind
        · intro phase recovered _
          split
          · trivial
          · exact keeps_handleRpcError error phase
        · exact fun _ _ _ => trivial
      · exact keeps_handleRpcError error _

/-! ## Delivery -/

theorem keeps_callHandler (handler : Option String) (event : SorobanEvent Value) :
    Keeps pollProtocol (stillAsking cursor) (.asking cursor) (callHandler handler event) := by
  cases handler with
  | none => rfl
  | some name => exact keeps_modify_bind _ (keeps_onEvent name event)

theorem keeps_dispatchTo (event : SorobanEvent Value)
    (subscriptions : List SorobanSubscription) :
    Keeps pollProtocol (stillAsking cursor) (.asking cursor)
      (dispatchTo options event subscriptions) := by
  induction subscriptions with
  | nil => rfl
  | cons sub rest induction =>
      rw [dispatchTo]
      split
      · exact (keeps_callHandler _ event).bindIn (fun _ => rfl) fun _ => induction
      · exact induction

theorem keeps_dispatch (event : SorobanEvent Value) :
    Keeps pollProtocol (stillAsking cursor) (.asking cursor) (dispatch options event) := by
  rw [dispatch, bind_eq]
  apply keeps_get_bind
  intro subscriber
  split
  · exact keeps_callHandler _ _
  · exact keeps_dispatchTo _ _

theorem keeps_deliver (events : List (SorobanEvent Value)) :
    Keeps pollProtocol (stillAsking cursor) (.asking cursor) (deliver options events) := by
  induction events with
  | nil => rfl
  | cons event rest induction =>
      rw [deliver, bind_eq]
      apply keeps_get_bind
      intro subscriber
      split
      · rfl
      · split
        · exact keeps_modify_bind _ rfl
        · split
          · exact keeps_modify_bind _ induction
          · apply (keeps_dispatch event).bindIn
            · exact fun _ => rfl
            · exact fun _ => keeps_modify_bind _ induction

theorem keeps_advanceCursor (live : options.endLedger = none) (next : Option String) :
    Keeps pollProtocol anywhere (.asking cursor)
      (advanceCursor options next : Poll Value Unit) := by
  cases next with
  | none => trivial
  | some next =>
      rw [advanceCursor, if_neg (by simp [Options.isReplayMode, live])]
      exact keeps_saveCursor next

theorem keeps_deliverPages (live : options.endLedger = none) (pages : List (Page Value))
    (events : List (SorobanEvent Value)) :
    Keeps pollProtocol anywhere (.asking cursor) (deliverPages options pages events) := by
  rw [deliverPages, bind_eq]
  apply (keeps_deliver events).bindIn
  · exact fun _ => trivial
  · intro complete
    split
    · exact keeps_advanceCursor live _
    · trivial

theorem keeps_processPages (live : options.endLedger = none) (pages : List (Page Value))
    (calls : Nat) :
    Keeps pollProtocol anywhere (.asking cursor) (processPages options pages calls) := by
  rw [processPages, bind_eq]
  apply keeps_modify_bind
  change Keeps pollProtocol anywhere (.asking cursor) (ite _ _ _)
  split
  · exact keeps_modify _ trivial
  · exact keeps_modify_bind _ ((keeps_deliverPages live pages _).tryFinally _)

/-! ## The poll -/

theorem keeps_doPoll (live : options.endLedger = none) :
    Keeps pollProtocol anywhere .fresh (doPoll options : Poll Value Unit) := by
  have notReplaying : options.isReplayMode = false := by
    rw [Options.isReplayMode, live]
    rfl
  rw [doPoll, bind_eq]
  apply keeps_get_bind
  intro subscriber
  rw [notReplaying, Bool.false_and, if_neg Bool.false_ne_true, bind_eq, currentCursor,
    notReplaying, if_neg Bool.false_ne_true]
  apply keeps_getCursor.bind
  · rintro _ cursor rfl
    apply ((keeps_fetchPages _).attempt :
      Keeps _ (stillAsking cursor) _ (fetchPages options cursor _).attempt).bindIn
    · exact fun _ => trivial
    · intro fetched
      cases fetched with
      | error failure => exact keeps_handleFetchFailure live failure
      | ok pages => exact keeps_processPages live pages _
  · exact fun _ _ _ => trivial

end Orbital.PulseCore.SorobanSubscriber
