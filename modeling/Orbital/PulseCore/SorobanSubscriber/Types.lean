import Mathlib.Data.List.Sort
import Orbital.Foundation.Async
import Orbital.Foundation.InsertionMap

/-! # What the Soroban subscriber works on

The types of `SorobanSubscriber.ts`. `Value` is the value of an event, which
the subscriber only passes on.
-/

namespace Orbital.PulseCore.SorobanSubscriber

open Orbital.Foundation

inductive ContractEventType
  | invoked
  | emitted
  deriving DecidableEq

structure ContractSubscriptionFilter where
  type : Option ContractEventType
  contractIds : Option (List String)
  topicFilters : Option (List (Option String))
  deriving DecidableEq

inductive XdrFormat
  | base64
  | json
  deriving DecidableEq

structure SorobanEvent (Value : Type) where
  id : String
  pagingToken : String
  topic : List String
  value : Value
  contractId : Option String
  type : Option String
  decodedData : Option Value
  ledger : Option Nat
  deriving DecidableEq

structure SorobanSubscription where
  id : String
  filters : List ContractSubscriptionFilter
  onEvent : Option String
  deriving DecidableEq

structure Page (Value : Type) where
  events : List (SorobanEvent Value)
  latestLedger : Option Nat
  cursor : Option String
  deriving DecidableEq

/-- What one `getEvents` call asks for; `positional` is the older form used with
a client that has no `getLatestLedger`. -/
structure EventsRequest where
  positional : Bool
  startLedger : Option Nat
  cursor : Option String
  filters : List ContractSubscriptionFilter
  limit : Nat
  xdrFormat : XdrFormat
  deriving DecidableEq

/-! ## Failures -/

inductive SorobanRpcErrorCode
  | network
  | rateLimit
  | auth
  | invalidRequest
  | server
  | unknown
  deriving DecidableEq

structure SorobanRpcError where
  message : String
  code : SorobanRpcErrorCode
  retryable : Bool
  retryAfterMs : Option Nat
  deriving DecidableEq

inductive Failure
  | abort
  | rpc (error : SorobanRpcError)
  | other (message : String)
  deriving DecidableEq

/-! ## Requests -/

inductive Request (Value : Type)
  | getCursor
  | saveCursor (cursor : String)
  | getLatestLedger
  | getEvents (calls : List EventsRequest)
  | getFallbackPage (limit : Nat)
  | onEvent (handler : String) (event : SorobanEvent Value)

abbrev Response (Value : Type) : Request Value → Type
  | .getCursor => Option String
  | .saveCursor _ => Unit
  | .getLatestLedger => Nat
  | .getEvents _ => List (Page Value)
  | .getFallbackPage _ => Page Value
  | .onEvent _ _ => Unit

/-! ## Options and state -/

/-- How many events one call may return; the RPC takes no other limits. -/
structure PageLimit where
  value : Nat
  atLeast : 1 ≤ value
  atMost : value ≤ 10000

def resolveSorobanPageLimit (pageLimit : Option Nat) : Except String PageLimit :=
  let resolved := pageLimit.getD 100
  if valid : 1 ≤ resolved ∧ resolved ≤ 10000 then
    .ok { value := resolved, atLeast := valid.1, atMost := valid.2 }
  else
    .error s!"soroban.pageLimit must be an integer between 1 and 10,000 (received {resolved})"

structure Options where
  hasLatestLedger : Bool
  onEvent : Option String
  endLedger : Option Nat
  pageLimit : PageLimit
  dedupCacheSize : Nat
  startLedgerLookback : Nat
  retryDelayMs : Nat
  initialDelayMs : Nat
  maxDelayMs : Nat
  /-- `none` retries for ever. -/
  maxRetries : Option Nat
  hasOnTerminalError : Bool
  xdrFormat : XdrFormat
  /-- The order of texts in the runtime's locale. -/
  localeCompare : String → String → Int

namespace Options

/-- The defaults of the constructor, without a handler. Tokens of one width compare alike in
every locale. -/
def default : Options where
  hasLatestLedger := true
  onEvent := none
  endLedger := none
  pageLimit := { value := 100, atLeast := by decide, atMost := by decide }
  dedupCacheSize := 1024
  startLedgerLookback := 0
  retryDelayMs := 1000
  initialDelayMs := 1000
  maxDelayMs := 30000
  maxRetries := none
  hasOnTerminalError := false
  xdrFormat := .json
  localeCompare first second := if first < second then -1 else if first = second then 0 else 1

def isReplayMode (options : Options) : Bool :=
  options.endLedger.isSome

end Options

inductive Delay
  | exactly (ms : Nat)
  | jittered (bound : Nat)
  deriving DecidableEq

inductive Notice (Value : Type)
  | onEvent (handler : String) (event : SorobanEvent Value)
  | cursorExpired (lostCursor : String)
  | rateLimited (attempt : Nat) (delay : Delay)
  | reconnecting (attempt : Nat) (delay : Delay) (cursor : Option String)
  | reconnected (attempt : Nat)
  | onRetryableError (error : SorobanRpcError)
  | onTerminalError (error : SorobanRpcError)
  | onDone
  deriving DecidableEq

structure Subscriber (Value : Type) where
  isStopped : Bool
  subscriptions : List SorobanSubscription
  seen : List String
  replayCursor : Option String
  replayDone : Bool
  startLedger : Option Nat
  reconnectAttempt : Nat
  isPolling : Bool
  timers : List (Nat × Delay)
  timersSet : Nat
  retryTimer : Option Nat
  notices : List (Notice Value)
  deriving DecidableEq

namespace Subscriber

variable {Value : Type}

def new (startLedger : Option Nat) : Subscriber Value where
  isStopped := false
  subscriptions := []
  seen := []
  replayCursor := none
  replayDone := false
  startLedger := startLedger
  reconnectAttempt := 0
  isPolling := false
  timers := []
  timersSet := 0
  retryTimer := none
  notices := []

def notify (subscriber : Subscriber Value) (notice : Notice Value) : Subscriber Value :=
  { subscriber with notices := subscriber.notices ++ [notice] }

/-- Marks the run complete; `onDone` is called once. -/
def finishReplay (subscriber : Subscriber Value) : Subscriber Value :=
  if subscriber.replayDone then subscriber
  else { subscriber with replayDone := true }.notify .onDone

def scheduleRetry (subscriber : Subscriber Value) (delay : Delay) : Subscriber Value :=
  if subscriber.isStopped then subscriber
  else { subscriber with
    timers := subscriber.timers ++ [(subscriber.timersSet, delay)]
    timersSet := subscriber.timersSet + 1
    retryTimer := some subscriber.timersSet }

/-- Keep the last `size` ids. -/
def recordSeen (subscriber : Subscriber Value) (size : Nat) (id : String) : Subscriber Value :=
  let recent := subscriber.seen.erase id ++ [id]
  { subscriber with seen := recent.drop (recent.length - size) }

def touchSeen (subscriber : Subscriber Value) (id : String) : Subscriber Value :=
  if id ∈ subscriber.seen then
    { subscriber with seen := subscriber.seen.erase id ++ [id] }
  else subscriber

end Subscriber

end Orbital.PulseCore.SorobanSubscriber
