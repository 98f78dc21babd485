import Orbital.PulseCore.SorobanSubscriber.Poll

/-! # Polling the unified events

`request`, `requestResult`, `getEvents` and `pollUnifiedEvents` of
`SorobanRpcClient.ts`. The loop awaits the `fetch` and the body of a response and two
kinds of `sleep`; what runs between two awaits is one step.
-/

namespace Orbital.PulseCore.SorobanRpcClient

open Orbital.Foundation
open Orbital.PulseCore.SorobanSubscriber

/-! ## Errors -/

inductive Thrown
  | rpc (error : SorobanRpcError)
  | error (name : String) (code : Option String) (message : String)
  | value (text : String)
  deriving DecidableEq

/-- A `SorobanRpcError` has a name and codes of its own. -/
def isAbortError : Thrown → Bool
  | .rpc _ => false
  | .error name code _ =>
      name = "AbortError" || name = "TimeoutError" || code = some "ABORT_ERR"
  | .value _ => false

def createAbortError (message : String) : Thrown :=
  .error "AbortError" none message

def classifyHttpStatus (status : Nat) : SorobanRpcErrorCode × Bool :=
  if status = 429 then (.rateLimit, true)
  else if status = 401 ∨ status = 403 then (.auth, false)
  else if 500 ≤ status then (.server, true)
  else if 400 ≤ status then (.invalidRequest, false)
  else (.unknown, false)

def classifyJsonRpcCode (code : Int) : SorobanRpcErrorCode × Bool :=
  if code ≤ -32000 ∧ -32099 ≤ code then (.server, true) else (.invalidRequest, false)

/-! ## A request -/

structure Head where
  status : Nat
  statusText : String
  retryAfterMs : Option Nat

def Head.ok (head : Head) : Bool :=
  200 ≤ head.status && head.status < 300

inductive Body (RpcEvent : Type)
  | malformed
  /-- The body has an `error`. -/
  | failed (code : Option Int) (message : Option String)
  | withoutResult
  | result (events : Option (List RpcEvent)) (cursor : Option String)

structure SorobanGetEventsResult (RpcEvent : Type) where
  events : List RpcEvent
  cursor : Option String

/-- How `request` goes on when `fetch` is rejected. -/
def rejected : Thrown → Thrown
  | .rpc error => .rpc error
  | .error name code message =>
      if isAbortError (.error name code message) then .error name code message
      else .rpc {
        message := s!"Soroban RPC network error: {message}"
        code := .network
        retryable := true
        retryAfterMs := none }
  | .value text =>
      .rpc {
        message := s!"Soroban RPC network error: {text}"
        code := .network
        retryable := true
        retryAfterMs := none }

theorem isAbortError_rejected (thrown : Thrown) :
    isAbortError (rejected thrown) = isAbortError thrown := by
  cases thrown with
  | rpc error => rfl
  | error name code message =>
      rw [rejected]
      split
      · rfl
      · rename_i otherwise
        exact (Bool.eq_false_iff.mpr otherwise).symm
  | value text => rfl

/-- The error for a response that is not `ok`. -/
def requestFailed (head : Head) : SorobanRpcError where
  message := s!"Soroban RPC request failed: {head.status} {head.statusText}"
  code := (classifyHttpStatus head.status).1
  retryable := (classifyHttpStatus head.status).2
  retryAfterMs := if head.status = 429 then head.retryAfterMs else none

def invalidRequest (message : String) : SorobanRpcError where
  message := message
  code := .invalidRequest
  retryable := false
  retryAfterMs := none

/-- What `getEvents` returns for a body; without events in it there are none. -/
def readBody : Body RpcEvent → Except SorobanRpcError (SorobanGetEventsResult RpcEvent)
  | .malformed => .error (invalidRequest "Soroban RPC returned malformed JSON")
  | .failed code message =>
      .error {
        message := message.getD "Soroban RPC returned a JSON-RPC error"
        code := (classifyJsonRpcCode (code.getD 0)).1
        retryable := (classifyJsonRpcCode (code.getD 0)).2
        retryAfterMs := none }
  | .withoutResult => .error (invalidRequest "Soroban RPC response did not include a result")
  | .result events cursor => .ok { events := events.getD [], cursor := cursor }

/-! ## The caller -/

inductive Signal
  | absent
  | live
  | aborted (reason : Option Thrown)
  deriving DecidableEq

namespace Signal

def isAborted : Signal → Bool
  | .aborted _ => true
  | _ => false

/-- What an aborted signal makes `sleep` reject with. -/
def reason : Signal → Thrown
  | .aborted (some reason) => reason
  | _ => createAbortError "Aborted"

def abort (reason : Option Thrown) : Signal → Signal
  | .live => .aborted reason
  | signal => signal

end Signal

inductive Call (RpcEvent : Type)
  | getEvents (cursor : Option String) (limit : Nat)
  | onRecovered (attempt : Nat)
  | onEvents (events : List RpcEvent)
  | onCursor (cursor : String)
  | onRetry (attempt : Nat) (delay : Delay) (rateLimited : Bool)
  deriving DecidableEq

structure Reaction where
  aborts : Option (Option Thrown)
  throws : Option Thrown

def Reaction.quiet : Reaction where
  aborts := none
  throws := none

abbrev Callbacks (RpcEvent : Type) := Call RpcEvent → Reaction

def Signal.after (signal : Signal) (reaction : Reaction) : Signal :=
  match reaction.aborts with
  | none => signal
  | some reason => signal.abort reason

structure PollUnifiedEventsOptions where
  cursor : Option String
  pageLimit : Option Nat
  maxRetries : Option Nat
  initialBackoffMs : Option Nat
  maxBackoffMs : Option Nat

/-! ## The loop -/

inductive Phase
  /-- The response; the request's own controller may have been aborted. -/
  | fetching (timedOut : Option Thrown)
  | reading
  | sleeping
  | backingOff (delay : Delay)
  | returned (cursor : Option String)
  | threw (thrown : Thrown)
  deriving DecidableEq

structure Poller (RpcEvent : Type) where
  signal : Signal
  cursor : Option String
  attempt : Nat
  phase : Phase
  calls : List (Call RpcEvent)
  deriving DecidableEq

structure Settings where
  timeoutMs : Nat
  options : PollUnifiedEventsOptions

def Settings.pageLimit (settings : Settings) : Nat :=
  settings.options.pageLimit.getD 100

/-- Without `maxRetries` the loop retries for ever. -/
def Settings.exhausted (settings : Settings) (attempt : Nat) : Bool :=
  match settings.options.maxRetries with
  | none => false
  | some maxRetries => maxRetries < attempt

def Settings.retryDelay (settings : Settings) (error : SorobanRpcError) (attempt : Nat) : Delay :=
  match error.code, error.retryAfterMs with
  | .rateLimit, some retryAfterMs => .exactly retryAfterMs
  | _, _ =>
      fullJitterBackoffMs attempt (settings.options.initialBackoffMs.getD 1000)
        (settings.options.maxBackoffMs.getD 30000)

namespace Poller

variable {RpcEvent : Type}

def moveTo (poller : Poller RpcEvent) (phase : Phase) : Poller RpcEvent :=
  { poller with phase := phase }

/-- The head of the loop; `getEvents` is not given the signal. -/
def loopHead (settings : Settings) (poller : Poller RpcEvent) : Poller RpcEvent :=
  if poller.signal.isAborted then poller.moveTo (.returned poller.cursor)
  else { poller with
    phase := .fetching none
    calls := poller.calls ++ [.getEvents poller.cursor settings.pageLimit] }

def begin (settings : Settings) (signal : Signal) : Poller RpcEvent :=
  loopHead settings {
    signal := signal
    cursor := settings.options.cursor
    attempt := 0
    phase := .sleeping
    calls := [] }

def called (poller : Poller RpcEvent) (callbacks : Callbacks RpcEvent) (call : Call RpcEvent) :
    Poller RpcEvent :=
  { poller with
    signal := poller.signal.after (callbacks call)
    calls := poller.calls ++ [call] }

end Poller

inductive Tried (RpcEvent : Type)
  | goesOn (poller : Poller RpcEvent)
  | throws (thrown : Thrown) (poller : Poller RpcEvent)

def Tried.andThen (tried : Tried RpcEvent) (next : Poller RpcEvent → Tried RpcEvent) :
    Tried RpcEvent :=
  match tried with
  | .goesOn poller => next poller
  | .throws thrown poller => .throws thrown poller

namespace Poller

variable {RpcEvent : Type}

def invoke (callbacks : Callbacks RpcEvent) (call : Call RpcEvent) (poller : Poller RpcEvent) :
    Tried RpcEvent :=
  match (callbacks call).throws with
  | none => .goesOn (poller.called callbacks call)
  | some thrown => .throws thrown (poller.called callbacks call)

/-! ### The `catch` block -/

/-- What `sleep` rejects with in the `catch` block leaves the loop. -/
def backOff (delay : Delay) : Tried RpcEvent → Poller RpcEvent
  | .goesOn poller =>
      if poller.signal.isAborted then poller.moveTo (.threw poller.signal.reason)
      else poller.moveTo (.backingOff delay)
  | .throws thrown poller => poller.moveTo (.threw thrown)

def retry (settings : Settings) (callbacks : Callbacks RpcEvent) (error : SorobanRpcError)
    (poller : Poller RpcEvent) : Poller RpcEvent :=
  if settings.exhausted poller.attempt then poller.moveTo (.threw (.rpc error))
  else backOff (settings.retryDelay error poller.attempt)
    (poller.invoke callbacks
      (.onRetry poller.attempt (settings.retryDelay error poller.attempt)
        (error.code = .rateLimit)))

def caught (settings : Settings) (callbacks : Callbacks RpcEvent) (poller : Poller RpcEvent)
    (thrown : Thrown) : Poller RpcEvent :=
  match thrown with
  | .rpc error =>
      if error.retryable then
        { poller with attempt := poller.attempt + 1 }.retry settings callbacks error
      else poller.moveTo (.threw (.rpc error))
  | thrown =>
      if isAbortError thrown then poller.moveTo (.returned poller.cursor)
      else poller.moveTo (.threw thrown)

/-! ### The `try` block -/

def reportRecovery (callbacks : Callbacks RpcEvent) (poller : Poller RpcEvent) : Tried RpcEvent :=
  if 0 < poller.attempt then poller.invoke callbacks (.onRecovered poller.attempt)
  else .goesOn poller

def passEvents (callbacks : Callbacks RpcEvent) (events : List RpcEvent)
    (poller : Poller RpcEvent) : Tried RpcEvent :=
  if events.isEmpty then .goesOn poller else poller.invoke callbacks (.onEvents events)

def advance (callbacks : Callbacks RpcEvent) (cursor : Option String)
    (poller : Poller RpcEvent) : Tried RpcEvent :=
  match cursor with
  | none => .goesOn poller
  | some cursor => { poller with cursor := some cursor }.invoke callbacks (.onCursor cursor)

/-- The callbacks of the `try` block. -/
def handlePage (callbacks : Callbacks RpcEvent) (page : SorobanGetEventsResult RpcEvent)
    (poller : Poller RpcEvent) : Tried RpcEvent :=
  (poller.reportRecovery callbacks).andThen fun recovered =>
    ({ recovered with attempt := 0 }.passEvents callbacks page.events).andThen fun passed =>
      passed.advance callbacks page.cursor

/-- The end of the `try` block: a page that is not full is followed by a pause. -/
def pause (settings : Settings) (callbacks : Callbacks RpcEvent)
    (page : SorobanGetEventsResult RpcEvent) (poller : Poller RpcEvent) : Poller RpcEvent :=
  if page.events.length < settings.pageLimit then
    if poller.signal.isAborted then poller.caught settings callbacks poller.signal.reason
    else poller.moveTo .sleeping
  else poller.loopHead settings

def finishPage (settings : Settings) (callbacks : Callbacks RpcEvent)
    (page : SorobanGetEventsResult RpcEvent) : Tried RpcEvent → Poller RpcEvent
  | .goesOn poller => poller.pause settings callbacks page
  | .throws thrown poller => poller.caught settings callbacks thrown

def receive (settings : Settings) (callbacks : Callbacks RpcEvent)
    (result : Except SorobanRpcError (SorobanGetEventsResult RpcEvent))
    (poller : Poller RpcEvent) : Poller RpcEvent :=
  match result with
  | .error error => poller.caught settings callbacks (.rpc error)
  | .ok page => finishPage settings callbacks page (poller.handlePage callbacks page)

def fetched (settings : Settings) (callbacks : Callbacks RpcEvent)
    (outcome : Except Thrown Head) (poller : Poller RpcEvent) : Poller RpcEvent :=
  match outcome with
  | .error thrown => poller.caught settings callbacks (rejected thrown)
  | .ok head =>
      if head.ok then poller.moveTo .reading
      else poller.caught settings callbacks (.rpc (requestFailed head))

def heed (settings : Settings) (callbacks : Callbacks RpcEvent) (poller : Poller RpcEvent) :
    Poller RpcEvent :=
  match poller.phase with
  | .sleeping => poller.caught settings callbacks poller.signal.reason
  | .backingOff _ => poller.moveTo (.threw poller.signal.reason)
  | _ => poller

end Poller

/-! ## Steps -/

inductive Event (RpcEvent : Type)
  | aborted (reason : Option Thrown) (callbacks : Callbacks RpcEvent)
  | timedOut
  | fetched (outcome : Except Thrown Head) (callbacks : Callbacks RpcEvent)
  | bodyRead (body : Body RpcEvent) (callbacks : Callbacks RpcEvent)
  | slept

def timeoutError (settings : Settings) : Thrown :=
  createAbortError s!"Soroban RPC request timed out after {settings.timeoutMs}ms"

namespace Poller

variable {RpcEvent : Type}

def isRunning (poller : Poller RpcEvent) : Bool :=
  match poller.phase with
  | .returned _ | .threw _ => false
  | _ => true

def isSleeping (poller : Poller RpcEvent) : Bool :=
  match poller.phase with
  | .sleeping | .backingOff _ => true
  | _ => false

def isFetching (poller : Poller RpcEvent) : Bool :=
  match poller.phase with
  | .fetching _ => true
  | _ => false

def step (settings : Settings) (poller : Poller RpcEvent) :
    Event RpcEvent → Option (Poller RpcEvent)
  | .aborted reason callbacks =>
      if poller.isRunning ∧ poller.signal = .live then
        some ({ poller with signal := .aborted reason }.heed settings callbacks)
      else none
  | .timedOut =>
      if poller.phase = .fetching none then
        some (poller.moveTo (.fetching (some (timeoutError settings))))
      else none
  | .fetched outcome callbacks =>
      if poller.isFetching then some (poller.fetched settings callbacks outcome) else none
  | .bodyRead body callbacks =>
      if poller.phase = .reading then some (poller.receive settings callbacks (readBody body))
      else none
  | .slept => if poller.isSleeping then some (poller.loopHead settings) else none

abbrev Run (settings : Settings) (start : Poller RpcEvent) (events : List (Event RpcEvent))
    (final : Poller RpcEvent) : Prop :=
  Trace (Takes (step settings)) start events final

end Poller

end Orbital.PulseCore.SorobanRpcClient
