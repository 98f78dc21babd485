import Orbital.PulseCore.SorobanRpcClient.UnifiedEvents

/-! # What ends the unified polling

`pollUnifiedEvents` takes every abort error for the caller's abort, also that of a
request whose own timer has fired.
-/

namespace Orbital.PulseCore.SorobanRpcClient

open Orbital.Foundation
open Orbital.PulseCore.SorobanSubscriber

variable {RpcEvent : Type}

/-! ## The callbacks of a page -/

def callAll (callbacks : Callbacks RpcEvent) :
    List (Call RpcEvent) → Signal → Signal × Option Thrown
  | [], signal => (signal, none)
  | call :: calls, signal =>
      match (callbacks call).throws with
      | none => callAll callbacks calls (signal.after (callbacks call))
      | some thrown => (signal.after (callbacks call), some thrown)

def pageCalls (attempt : Nat) (page : SorobanGetEventsResult RpcEvent) : List (Call RpcEvent) :=
  (if 0 < attempt then [.onRecovered attempt] else []) ++
    (if page.events.isEmpty then [] else [.onEvents page.events]) ++
    (page.cursor.map .onCursor).toList

/-- The signal as the `try` block leaves it, and what leaves the block. -/
def Tried.outcome : Tried RpcEvent → Signal × Option Thrown
  | .goesOn poller => (poller.signal, none)
  | .throws thrown poller => (poller.signal, some thrown)

theorem callAll_append (callbacks : Callbacks RpcEvent) (first second : List (Call RpcEvent))
    (signal : Signal) (tried : Tried RpcEvent) (next : Poller RpcEvent → Tried RpcEvent)
    (front : tried.outcome = callAll callbacks first signal)
    (back : ∀ poller, tried = .goesOn poller →
      (next poller).outcome = callAll callbacks second poller.signal) :
    (tried.andThen next).outcome = callAll callbacks (first ++ second) signal := by
  induction first generalizing signal with
  | nil =>
      cases tried with
      | goesOn poller =>
          have same : poller.signal = signal := congrArg Prod.fst front
          rw [← same]
          exact back poller rfl
      | throws thrown poller => cases congrArg Prod.snd front
  | cons call calls induction =>
      rw [List.cons_append, callAll]
      rw [callAll] at front
      split at front
      · exact induction _ front
      · cases tried with
        | goesOn poller => cases congrArg Prod.snd front
        | throws thrown poller => exact front

namespace Poller

variable (callbacks : Callbacks RpcEvent)

theorem outcome_invoke (call : Call RpcEvent) (poller : Poller RpcEvent) :
    (poller.invoke callbacks call).outcome = callAll callbacks [call] poller.signal := by
  rw [invoke, callAll]
  cases (callbacks call).throws with
  | none | some thrown => rfl

theorem outcome_reportRecovery (poller : Poller RpcEvent) :
    (poller.reportRecovery callbacks).outcome =
      callAll callbacks (if 0 < poller.attempt then [.onRecovered poller.attempt] else [])
        poller.signal := by
  rw [reportRecovery]
  split
  · exact outcome_invoke callbacks _ poller
  · rfl

theorem outcome_passEvents (events : List RpcEvent) (poller : Poller RpcEvent) :
    (poller.passEvents callbacks events).outcome =
      callAll callbacks (if events.isEmpty then [] else [.onEvents events]) poller.signal := by
  rw [passEvents]
  split
  · rfl
  · exact outcome_invoke callbacks _ poller

theorem outcome_advance (cursor : Option String) (poller : Poller RpcEvent) :
    (poller.advance callbacks cursor).outcome =
      callAll callbacks (cursor.map Call.onCursor).toList poller.signal := by
  cases cursor with
  | none => rfl
  | some cursor => exact outcome_invoke callbacks _ _

theorem outcome_handlePage (page : SorobanGetEventsResult RpcEvent) (poller : Poller RpcEvent) :
    (poller.handlePage callbacks page).outcome =
      callAll callbacks (pageCalls poller.attempt page) poller.signal := by
  rw [handlePage, pageCalls, List.append_assoc]
  refine callAll_append _ _ _ _ _ _ (outcome_reportRecovery callbacks poller) ?_
  intro recovered _
  refine callAll_append _ _ _ _ _ _ (outcome_passEvents callbacks page.events _) ?_
  intro passed _
  exact outcome_advance callbacks page.cursor passed

/-! ## Where the loop returns -/

/-- The loop has not returned unless the caller has aborted the signal. -/
def ReturnsAborted (poller : Poller RpcEvent) : Prop :=
  ∀ cursor, poller.phase = .returned cursor → poller.signal.isAborted = true

theorem returnsAborted_loopHead (settings : Settings) (poller : Poller RpcEvent) :
    (poller.loopHead settings).ReturnsAborted := by
  intro cursor returned
  rw [loopHead] at returned ⊢
  split at returned
  · rename_i aborted
    rw [if_pos aborted]
    exact aborted
  · cases returned

theorem backOff_phase (delay : Delay) (tried : Tried RpcEvent) :
    (backOff delay tried).phase = .backingOff delay ∨
      ∃ thrown, (backOff delay tried).phase = .threw thrown := by
  cases tried with
  | goesOn poller =>
      rw [backOff]
      split
      · exact .inr ⟨_, rfl⟩
      · exact .inl rfl
  | throws thrown poller => exact .inr ⟨thrown, rfl⟩

theorem retry_phase (settings : Settings) (callbacks : Callbacks RpcEvent)
    (error : SorobanRpcError) (poller : Poller RpcEvent) :
    (∃ delay, (poller.retry settings callbacks error).phase = .backingOff delay) ∨
      ∃ thrown, (poller.retry settings callbacks error).phase = .threw thrown := by
  rw [retry]
  split
  · exact .inr ⟨_, rfl⟩
  · rcases backOff_phase (settings.retryDelay error poller.attempt) _ with waits | threw
    · exact .inl ⟨_, waits⟩
    · exact .inr threw

/-- What the `catch` block does: it backs off, throws or, for an abort error, returns. -/
theorem caught_cases (settings : Settings) (callbacks : Callbacks RpcEvent)
    (poller : Poller RpcEvent) (thrown : Thrown) :
    (isAbortError thrown = true ∧
      poller.caught settings callbacks thrown = poller.moveTo (.returned poller.cursor)) ∨
    (isAbortError thrown = false ∧
      ((∃ delay, (poller.caught settings callbacks thrown).phase = .backingOff delay) ∨
        ∃ surfaced, (poller.caught settings callbacks thrown).phase = .threw surfaced)) := by
  unfold caught
  split
  · split
    · exact .inr ⟨rfl, retry_phase settings callbacks _ _⟩
    · exact .inr ⟨rfl, .inr ⟨_, rfl⟩⟩
  · split
    · rename_i aborted
      exact .inl ⟨aborted, rfl⟩
    · rename_i otherwise
      exact .inr ⟨Bool.eq_false_iff.mpr otherwise, .inr ⟨_, rfl⟩⟩

theorem returnsAborted_caught_iff (settings : Settings) (callbacks : Callbacks RpcEvent)
    (poller : Poller RpcEvent) (thrown : Thrown) :
    (poller.caught settings callbacks thrown).ReturnsAborted ↔
      (isAbortError thrown = true → poller.signal.isAborted = true) := by
  rcases caught_cases settings callbacks poller thrown with
    ⟨aborts, returns⟩ | ⟨otherwise, goesOn⟩
  · rw [returns]
    constructor
    · intro returnsAborted _
      exact returnsAborted poller.cursor rfl
    · intro aborted cursor _
      exact aborted aborts
  · constructor
    · intro _ aborts
      rw [otherwise] at aborts
      cases aborts
    · intro _ cursor returned
      rcases goesOn with ⟨delay, waits⟩ | ⟨surfaced, threw⟩
      · rw [waits] at returned
        cases returned
      · rw [threw] at returned
        cases returned

theorem returnsAborted_pause (settings : Settings) (callbacks : Callbacks RpcEvent)
    (page : SorobanGetEventsResult RpcEvent) (poller : Poller RpcEvent) :
    (poller.pause settings callbacks page).ReturnsAborted := by
  rw [pause]
  split
  · split
    · rename_i aborted
      exact (returnsAborted_caught_iff settings callbacks poller _).mpr fun _ => aborted
    · intro cursor returned
      cases returned
  · exact returnsAborted_loopHead settings poller

theorem returnsAborted_heed (settings : Settings) (callbacks : Callbacks RpcEvent)
    (poller : Poller RpcEvent) (running : poller.isRunning = true)
    (aborted : poller.signal.isAborted = true) :
    (poller.heed settings callbacks).ReturnsAborted := by
  rw [heed]
  split
  · exact (returnsAborted_caught_iff settings callbacks poller _).mpr fun _ => aborted
  · intro cursor returned
    cases returned
  · intro cursor returned
    rw [isRunning, returned] at running
    cases running

/-! ## The condition -/

/-- No abort error comes up in the `try` block, from the request or from a callback, while
the signal is not aborted. -/
def NoStrayAbort (poller : Poller RpcEvent) : Event RpcEvent → Prop
  | .fetched (.error thrown) _ => isAbortError thrown = true → poller.signal.isAborted = true
  | .bodyRead body callbacks =>
      ∀ page, readBody body = .ok page →
        ∀ signal thrown,
          callAll callbacks (pageCalls poller.attempt page) poller.signal =
            (signal, some thrown) →
          isAbortError thrown = true → signal.isAborted = true
  | _ => True

theorem returnsAborted_fetched_iff (settings : Settings) (callbacks : Callbacks RpcEvent)
    (outcome : Except Thrown Head) (poller : Poller RpcEvent) :
    (poller.fetched settings callbacks outcome).ReturnsAborted ↔
      poller.NoStrayAbort (.fetched outcome callbacks) := by
  cases outcome with
  | error thrown =>
      have atCatch := returnsAborted_caught_iff settings callbacks poller (rejected thrown)
      rw [isAbortError_rejected] at atCatch
      exact atCatch
  | ok head =>
      rw [fetched]
      refine iff_of_true ?_ trivial
      split
      · intro cursor returned
        cases returned
      · refine (returnsAborted_caught_iff settings callbacks poller _).mpr ?_
        intro aborts
        cases aborts

theorem returnsAborted_finishPage_iff (settings : Settings) (callbacks : Callbacks RpcEvent)
    (page : SorobanGetEventsResult RpcEvent) (tried : Tried RpcEvent) :
    (finishPage settings callbacks page tried).ReturnsAborted ↔
      ∀ signal thrown, tried.outcome = (signal, some thrown) →
        isAbortError thrown = true → signal.isAborted = true := by
  cases tried with
  | goesOn poller =>
      refine iff_of_true (returnsAborted_pause settings callbacks page poller) ?_
      intro signal thrown outcome
      cases congrArg Prod.snd outcome
  | throws thrown poller =>
      refine (returnsAborted_caught_iff settings callbacks poller thrown).trans ?_
      constructor
      · intro aborted signal left outcome
        cases outcome
        exact aborted
      · intro aborted
        exact aborted poller.signal thrown rfl

theorem returnsAborted_receive_iff (settings : Settings) (callbacks : Callbacks RpcEvent)
    (body : Body RpcEvent) (poller : Poller RpcEvent) :
    (poller.receive settings callbacks (readBody body)).ReturnsAborted ↔
      poller.NoStrayAbort (.bodyRead body callbacks) := by
  rw [NoStrayAbort]
  cases read : readBody body with
  | error error =>
      refine iff_of_true ?_ ?_
      · refine (returnsAborted_caught_iff settings callbacks poller _).mpr ?_
        intro aborts
        cases aborts
      · intro page isPage
        cases isPage
  | ok page =>
      have atPage := returnsAborted_finishPage_iff settings callbacks page
        (poller.handlePage callbacks page)
      rw [outcome_handlePage] at atPage
      constructor
      · intro returnsAborted _ isPage
        cases isPage
        exact atPage.mp returnsAborted
      · intro clear
        exact atPage.mpr (clear page rfl)

/-! ## The step -/

/-- A step that returns from the loop only for the caller's abort, and that retries or
surfaces a request whose timer has fired. -/
structure StopsOnRequest (current : Poller RpcEvent) (event : Event RpcEvent)
    (next : Poller RpcEvent) : Prop where
  returned : next.ReturnsAborted
  timedOut : ∀ reason thrown callbacks, current.phase = .fetching (some reason) →
    event = .fetched (.error thrown) callbacks →
    (∃ delay, next.phase = .backingOff delay) ∨ (∃ surfaced, next.phase = .threw surfaced) ∨
      next.signal.isAborted = true

variable {settings : Settings} {current next : Poller RpcEvent} {event : Event RpcEvent}

theorem returnsAborted_step_iff (taken : current.step settings event = some next) :
    next.ReturnsAborted ↔ current.NoStrayAbort event := by
  cases event with
  | aborted reason callbacks =>
      rw [step] at taken
      split at taken
      · rename_i enabled
        cases taken
        exact iff_of_true (returnsAborted_heed settings callbacks _ enabled.1 rfl) trivial
      · cases taken
  | timedOut =>
      rw [step] at taken
      split at taken
      · cases taken
        refine iff_of_true ?_ trivial
        intro cursor returned
        cases returned
      · cases taken
  | fetched outcome callbacks =>
      rw [step] at taken
      split at taken
      · cases taken
        exact returnsAborted_fetched_iff settings callbacks outcome current
      · cases taken
  | bodyRead body callbacks =>
      rw [step] at taken
      split at taken
      · cases taken
        exact returnsAborted_receive_iff settings callbacks body current
      · cases taken
  | slept =>
      rw [step] at taken
      split at taken
      · cases taken
        exact iff_of_true (returnsAborted_loopHead settings current) trivial
      · cases taken

theorem stopsOnRequest_step_iff (taken : current.step settings event = some next) :
    StopsOnRequest current event next ↔ current.NoStrayAbort event := by
  constructor
  · intro stops
    exact (returnsAborted_step_iff taken).mp stops.returned
  · intro clear
    have returned := (returnsAborted_step_iff taken).mpr clear
    refine ⟨returned, ?_⟩
    rintro reason thrown callbacks fetching rfl
    rw [step, isFetching, fetching, if_pos rfl] at taken
    cases taken
    rcases caught_cases settings callbacks current (rejected thrown) with
      ⟨_, returns⟩ | ⟨_, waits | threw⟩
    · exact .inr (.inr (returned current.cursor (congrArg Poller.phase returns)))
    · exact .inl waits
    · exact .inr (.inl threw)

/-! ## A call of the loop -/

/-- The law over a whole call: it holds of the state the call begins in and of every
step. -/
def StopsOnlyOnRequest (settings : Settings) (signal : Signal) (events : List (Event RpcEvent)) :
    Prop :=
  (begin settings signal : Poller RpcEvent).ReturnsAborted ∧
    Throughout (Takes (step settings)) (begin settings signal) events StopsOnRequest

theorem stops_only_on_request_iff (settings : Settings) (signal : Signal)
    (events : List (Event RpcEvent)) :
    StopsOnlyOnRequest settings signal events ↔
      Throughout (Takes (step settings)) (begin settings signal) events
        fun current event _ => current.NoStrayAbort event := by
  have steps : Throughout (Takes (step settings)) (begin settings signal) events
        StopsOnRequest ↔
      Throughout (Takes (step settings)) (begin settings signal) events
        fun current event _ => current.NoStrayAbort event :=
    Throughout.congr fun _ _ _ taken => stopsOnRequest_step_iff taken
  refine Iff.trans ?_ steps
  exact and_iff_right (returnsAborted_loopHead settings _)

/-! ## A request that times out -/

def defaults : Settings where
  timeoutMs := 10000
  options := {
    cursor := none
    pageLimit := none
    maxRetries := none
    initialBackoffMs := none
    maxBackoffMs := none }

/-- The first request times out, and the loop returns as if it had been stopped. -/
theorem timed_out_request_ends_loop :
    ¬ StopsOnlyOnRequest defaults .live
      ([.timedOut, .fetched (.error (timeoutError defaults)) fun _ => .quiet] :
        List (Event Unit)) := by
  intro stops
  have clear := (stops.2 [.timedOut] _ [] _ _ rfl (.single rfl) rfl).returned none rfl
  cases clear

end Poller

end Orbital.PulseCore.SorobanRpcClient
