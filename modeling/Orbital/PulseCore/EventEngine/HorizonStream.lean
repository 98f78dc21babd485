import Mathlib.Data.List.Nodup
import Orbital.Foundation.Trace

/-! # The Horizon stream

`openStream`, `handleStreamError`, `start` and `stop` of `EventEngine.ts`. A stream is
named by the epoch under which it was opened. `handleStreamError` notifies the
watchers before it sets the reconnect timer; their listeners may call `start` and
`stop`. A closed stream emits nothing.
-/

namespace Orbital.PulseCore.EventEngine

open Orbital.Foundation

inductive StreamError
  | rateLimited (retryAfterMs : Option Nat)
  | other
  deriving DecidableEq

structure ReconnectNotice where
  rateLimited : Bool
  attempt : Nat
  delayMs : Nat
  deriving DecidableEq

structure HorizonStream where
  hasCursorStore : Bool
  /-- There is no limit by default. -/
  maxRetries : Option Nat
  isRunning : Bool
  /-- The timer `this.reconnectTimer` holds. -/
  reconnectTimer : Option Nat
  timers : List Nat
  nextTimer : Nat
  /-- The stream that `this.stopStream` closes. -/
  stopStream : Option Nat
  openStreams : List Nat
  streamEpoch : Nat
  resolving : List Nat
  reconnectAttempt : Nat
  pendingReconnectSuccessAttempt : Option Nat
  notice : Option ReconnectNotice
  /-- The last call of `start` and `stop` was one of `stop`. -/
  stopped : Bool
  deriving DecidableEq

namespace HorizonStream

def new (hasCursorStore : Bool) (maxRetries : Option Nat) : HorizonStream where
  hasCursorStore := hasCursorStore
  maxRetries := maxRetries
  isRunning := false
  reconnectTimer := none
  timers := []
  nextTimer := 0
  stopStream := none
  openStreams := []
  streamEpoch := 0
  resolving := []
  reconnectAttempt := 0
  pendingReconnectSuccessAttempt := none
  notice := none
  stopped := false

/-! ## Opening and closing -/

def closeStream (stream : HorizonStream) : HorizonStream :=
  match stream.stopStream with
  | none => stream
  | some epoch =>
      { stream with stopStream := none, openStreams := stream.openStreams.erase epoch }

def clearReconnectTimer (stream : HorizonStream) : HorizonStream :=
  match stream.reconnectTimer with
  | none => stream
  | some timer =>
      { stream with reconnectTimer := none, timers := stream.timers.erase timer }

/-- The call of `stream(callbacks)`. -/
def connect (stream : HorizonStream) (epoch : Nat) : HorizonStream :=
  { stream with stopStream := some epoch, openStreams := stream.openStreams ++ [epoch] }

def beginEpoch (stream : HorizonStream) (isReconnect : Bool) : HorizonStream :=
  { stream with
    isRunning := true
    pendingReconnectSuccessAttempt := if isReconnect then some stream.reconnectAttempt else none
    streamEpoch := stream.streamEpoch + 1 }

/-- The stream of the next epoch, once the one before is closed. -/
def openNext (stream : HorizonStream) (isReconnect : Bool) : HorizonStream :=
  if stream.hasCursorStore then
    { stream.beginEpoch isReconnect with
      resolving := stream.resolving ++ [stream.streamEpoch + 1] }
  else (stream.beginEpoch isReconnect).connect (stream.streamEpoch + 1)

def openStream (stream : HorizonStream) (isReconnect : Bool) : HorizonStream :=
  stream.closeStream.clearReconnectTimer.openNext isReconnect

def resolved (stream : HorizonStream) (epoch : Nat) : HorizonStream :=
  { stream with resolving := stream.resolving.erase epoch }

/-- Behind `resolveStreamCursor()`. -/
def cursorResolved (stream : HorizonStream) (epoch : Nat) : HorizonStream :=
  if epoch ≠ stream.streamEpoch ∨ stream.isRunning = false then stream.resolved epoch
  else (stream.resolved epoch).connect epoch

/-! ## The calls of the caller -/

def start (stream : HorizonStream) : HorizonStream :=
  if stream.isRunning || stream.reconnectTimer.isSome then { stream with stopped := false }
  else { stream.openStream false with stopped := false }

def stop (stream : HorizonStream) : HorizonStream :=
  { stream.clearReconnectTimer.closeStream with
    pendingReconnectSuccessAttempt := none
    reconnectAttempt := 0
    isRunning := false
    stopped := true }

/-! ## Errors -/

/-- The notice of a reconnect. The delay is random unless Horizon asks for one. -/
def noticeOf (attempt jitterMs : Nat) : StreamError → ReconnectNotice
  | .rateLimited retryAfterMs =>
      { rateLimited := true, attempt, delayMs := retryAfterMs.getD 60000 }
  | .other => { rateLimited := false, attempt, delayMs := jitterMs }

def endStream (stream : HorizonStream) : HorizonStream :=
  { stream.closeStream with
    isRunning := false
    pendingReconnectSuccessAttempt := none }

/-- `handleStreamError` up to the notice. -/
def handleStreamError (stream : HorizonStream) (error : StreamError) (jitterMs : Nat) :
    HorizonStream :=
  if stream.reconnectTimer.isSome then stream
  else if stream.maxRetries.any fun maxRetries => maxRetries < stream.reconnectAttempt + 1 then
    stream.endStream
  else { stream.endStream with
    reconnectAttempt := stream.reconnectAttempt + 1
    notice := some (noticeOf (stream.reconnectAttempt + 1) jitterMs error) }

/-- Behind the notice the timer is set, whatever the listeners have called. -/
def setReconnectTimer (stream : HorizonStream) : HorizonStream :=
  { stream with
    notice := none
    reconnectTimer := some stream.nextTimer
    timers := stream.timers ++ [stream.nextTimer]
    nextTimer := stream.nextTimer + 1 }

def timerFires (stream : HorizonStream) (timer : Nat) : HorizonStream :=
  { stream with
    timers := stream.timers.erase timer
    reconnectTimer := none }.openStream true

def onmessage (stream : HorizonStream) : HorizonStream :=
  match stream.pendingReconnectSuccessAttempt with
  | none => stream
  | some _ => { stream with pendingReconnectSuccessAttempt := none, reconnectAttempt := 0 }

/-! ## Steps -/

inductive Event
  | start
  | stop
  | streamError (epoch : Nat) (error : StreamError) (jitterMs : Nat)
  | noticeReturns
  | noticeThrows
  | timerFires (timer : Nat)
  | cursorResolved (epoch : Nat)
  | message (epoch : Nat)
  deriving DecidableEq

/-- Only listeners run during a notice. -/
def step (stream : HorizonStream) : Event → Option HorizonStream
  | .start => some stream.start
  | .stop => some stream.stop
  | .streamError epoch error jitterMs =>
      if stream.notice = none ∧ epoch ∈ stream.openStreams then
        some (stream.handleStreamError error jitterMs)
      else none
  | .noticeReturns => if stream.notice.isSome then some stream.setReconnectTimer else none
  | .noticeThrows => if stream.notice.isSome then some { stream with notice := none } else none
  | .timerFires timer =>
      if stream.notice = none ∧ timer ∈ stream.timers then some (stream.timerFires timer)
      else none
  | .cursorResolved epoch =>
      if stream.notice = none ∧ epoch ∈ stream.resolving then some (stream.cursorResolved epoch)
      else none
  | .message epoch =>
      if stream.notice = none ∧ epoch ∈ stream.openStreams then some stream.onmessage else none

abbrev Run (start : HorizonStream) (events : List Event) (final : HorizonStream) : Prop :=
  Trace (Takes step) start events final

inductive Moves (stream : HorizonStream) : Event → HorizonStream → Prop
  | start : Moves stream .start stream.start
  | stop : Moves stream .stop stream.stop
  | streamError {epoch error jitterMs} (emits : epoch ∈ stream.openStreams) :
      Moves stream (.streamError epoch error jitterMs) (stream.handleStreamError error jitterMs)
  | noticeReturns (noticing : stream.notice.isSome) :
      Moves stream .noticeReturns stream.setReconnectTimer
  | noticeThrows : Moves stream .noticeThrows { stream with notice := none }
  | timerFires {timer} (isSet : timer ∈ stream.timers) :
      Moves stream (.timerFires timer) (stream.timerFires timer)
  | cursorResolved {epoch} (isResolving : epoch ∈ stream.resolving) :
      Moves stream (.cursorResolved epoch) (stream.cursorResolved epoch)
  | message {epoch} : Moves stream (.message epoch) stream.onmessage

variable {event : Event}

theorem moves_of_step {stream next : HorizonStream} (taken : stream.step event = some next) :
    Moves stream event next := by
  cases event with
  | start =>
      cases taken
      exact .start
  | stop =>
      cases taken
      exact .stop
  | streamError epoch error jitterMs =>
      simp only [step] at taken
      split at taken
      · rename_i emits
        cases taken
        exact .streamError emits.2
      · cases taken
  | noticeReturns =>
      simp only [step] at taken
      split at taken
      · rename_i noticing
        cases taken
        exact .noticeReturns noticing
      · cases taken
  | noticeThrows =>
      simp only [step] at taken
      split at taken
      · cases taken
        exact .noticeThrows
      · cases taken
  | timerFires timer =>
      simp only [step] at taken
      split at taken
      · rename_i fires
        cases taken
        exact .timerFires fires.2
      · cases taken
  | cursorResolved epoch =>
      simp only [step] at taken
      split at taken
      · rename_i isResolving
        cases taken
        exact .cursorResolved isResolving.2
      · cases taken
  | message epoch =>
      simp only [step] at taken
      split at taken
      · cases taken
        exact .message
      · cases taken

/-! ## The invariant -/

structure Tracked (stream : HorizonStream) : Prop where
  streams : stream.openStreams = stream.stopStream.toList
  timers : stream.timers = stream.reconnectTimer.toList
  current : ∀ epoch ∈ stream.stopStream, epoch = stream.streamEpoch
  resolving : stream.streamEpoch ∈ stream.resolving → stream.stopStream = none
  distinct : stream.resolving.Nodup
  earlier : ∀ epoch ∈ stream.resolving, epoch ≤ stream.streamEpoch
  notice : stream.notice.isSome → stream.reconnectTimer = none

variable {stream next : HorizonStream}

theorem new_tracked (hasCursorStore : Bool) (maxRetries : Option Nat) :
    Tracked (new hasCursorStore maxRetries) where
  streams := rfl
  timers := rfl
  current := fun _ member => nomatch member
  resolving := fun member => nomatch member
  distinct := .nil
  earlier := fun _ member => nomatch member
  notice := fun noticing => nomatch noticing

theorem Tracked.closeStream (holds : Tracked stream) : Tracked stream.closeStream := by
  unfold HorizonStream.closeStream
  split
  · exact holds
  · rename_i epoch isOpen
    exact {
      streams := by simp [holds.streams, isOpen]
      timers := holds.timers
      current := fun _ member => nomatch member
      resolving := fun _ => rfl
      distinct := holds.distinct
      earlier := holds.earlier
      notice := holds.notice }

theorem closeStream_frame (stream : HorizonStream) :
    stream.closeStream.stopStream = none ∧
      stream.closeStream.reconnectTimer = stream.reconnectTimer ∧
      stream.closeStream.notice = stream.notice ∧
      stream.closeStream.stopped = stream.stopped := by
  unfold HorizonStream.closeStream
  split
  · rename_i isClosed
    exact ⟨isClosed, rfl, rfl, rfl⟩
  · exact ⟨rfl, rfl, rfl, rfl⟩

theorem Tracked.clearReconnectTimer (holds : Tracked stream) :
    Tracked stream.clearReconnectTimer := by
  unfold HorizonStream.clearReconnectTimer
  split
  · exact holds
  · rename_i timer isSet
    exact {
      streams := holds.streams
      timers := by simp [holds.timers, isSet]
      current := holds.current
      resolving := holds.resolving
      distinct := holds.distinct
      earlier := holds.earlier
      notice := fun _ => rfl }

theorem clearReconnectTimer_frame (stream : HorizonStream) :
    stream.clearReconnectTimer.reconnectTimer = none ∧
      stream.clearReconnectTimer.stopStream = stream.stopStream ∧
      stream.clearReconnectTimer.notice = stream.notice ∧
      stream.clearReconnectTimer.stopped = stream.stopped := by
  unfold HorizonStream.clearReconnectTimer
  split
  · rename_i isClear
    exact ⟨isClear, rfl, rfl, rfl⟩
  · exact ⟨rfl, rfl, rfl, rfl⟩

theorem Tracked.openNext (holds : Tracked stream) (isClosed : stream.stopStream = none)
    (isClear : stream.reconnectTimer = none) (isReconnect : Bool) :
    Tracked (stream.openNext isReconnect) := by
  have isNew : stream.streamEpoch + 1 ∉ stream.resolving := by
    intro member
    have before := holds.earlier _ member
    omega
  have noStreams : stream.openStreams = [] := by simp [holds.streams, isClosed]
  unfold HorizonStream.openNext
  split
  · exact {
      streams := holds.streams
      timers := holds.timers
      current := fun epoch member => absurd (isClosed ▸ member) (by simp)
      resolving := fun _ => isClosed
      distinct := List.nodup_append.mpr ⟨holds.distinct, List.nodup_singleton _, by
        intro epoch before other isOther
        rw [List.mem_singleton.mp isOther]
        exact ne_of_mem_of_not_mem before isNew⟩
      earlier := by
        intro epoch member
        rcases List.mem_append.mp member with before | isLast
        · exact Nat.le_succ_of_le (holds.earlier epoch before)
        · rw [List.mem_singleton.mp isLast]
          exact Nat.le_refl _
      notice := fun _ => isClear }
  · exact {
      streams := by simp [connect, beginEpoch, noStreams]
      timers := holds.timers
      current := by
        intro epoch member
        simpa [connect, beginEpoch, eq_comm] using member
      resolving := fun member => absurd member isNew
      distinct := holds.distinct
      earlier := fun epoch member => Nat.le_succ_of_le (holds.earlier epoch member)
      notice := fun _ => isClear }

theorem Tracked.openStream (holds : Tracked stream) (isReconnect : Bool) :
    Tracked (stream.openStream isReconnect) := by
  have closed := (closeStream_frame stream).1
  have cleared := clearReconnectTimer_frame stream.closeStream
  exact holds.closeStream.clearReconnectTimer.openNext (cleared.2.1.trans closed) cleared.1
    isReconnect

theorem Tracked.start (holds : Tracked stream) : Tracked stream.start := by
  unfold HorizonStream.start
  split
  · exact ⟨holds.streams, holds.timers, holds.current, holds.resolving, holds.distinct,
      holds.earlier, holds.notice⟩
  · have opened := holds.openStream false
    exact ⟨opened.streams, opened.timers, opened.current, opened.resolving, opened.distinct,
      opened.earlier, opened.notice⟩

theorem Tracked.stop (holds : Tracked stream) : Tracked stream.stop := by
  have closed := holds.clearReconnectTimer.closeStream
  exact ⟨closed.streams, closed.timers, closed.current, closed.resolving, closed.distinct,
    closed.earlier, closed.notice⟩

theorem Tracked.handleStreamError (holds : Tracked stream) (error : StreamError)
    (jitterMs : Nat) : Tracked (stream.handleStreamError error jitterMs) := by
  have closed := holds.closeStream
  unfold HorizonStream.handleStreamError
  split
  · exact holds
  · rename_i isClear
    split
    · exact ⟨closed.streams, closed.timers, closed.current, closed.resolving, closed.distinct,
        closed.earlier, closed.notice⟩
    · refine ⟨closed.streams, closed.timers, closed.current, closed.resolving, closed.distinct,
        closed.earlier, fun _ => ?_⟩
      exact (closeStream_frame stream).2.1.trans (by simpa using isClear)

theorem Tracked.setReconnectTimer (holds : Tracked stream) (noticing : stream.notice.isSome) :
    Tracked stream.setReconnectTimer where
  streams := holds.streams
  timers := by simp [HorizonStream.setReconnectTimer, holds.timers, holds.notice noticing]
  current := holds.current
  resolving := holds.resolving
  distinct := holds.distinct
  earlier := holds.earlier
  notice := fun isSome => nomatch isSome

theorem Tracked.timerFires (holds : Tracked stream) {timer : Nat}
    (isSet : timer ∈ stream.timers) : Tracked (stream.timerFires timer) := by
  have isTimer : stream.reconnectTimer = some timer := by
    simpa [holds.timers] using isSet
  have fired : Tracked { stream with
      timers := stream.timers.erase timer
      reconnectTimer := none } := {
    streams := holds.streams
    timers := by simp [holds.timers, isTimer]
    current := holds.current
    resolving := holds.resolving
    distinct := holds.distinct
    earlier := holds.earlier
    notice := fun _ => rfl }
  exact fired.openStream true

theorem Tracked.cursorResolved (holds : Tracked stream) {epoch : Nat}
    (isResolving : epoch ∈ stream.resolving) : Tracked (stream.cursorResolved epoch) := by
  unfold HorizonStream.cursorResolved
  split
  · exact {
      streams := holds.streams
      timers := holds.timers
      current := holds.current
      resolving := fun member => holds.resolving (List.mem_of_mem_erase member)
      distinct := holds.distinct.erase epoch
      earlier := fun other member => holds.earlier other (List.mem_of_mem_erase member)
      notice := holds.notice }
  · rename_i goesOn
    have isCurrent : epoch = stream.streamEpoch := by
      by_contra isOld
      exact goesOn (.inl isOld)
    have isClosed := holds.resolving (isCurrent ▸ isResolving)
    exact {
      streams := by simp [connect, resolved, holds.streams, isClosed]
      timers := holds.timers
      current := by
        intro other member
        have same : epoch = other := by simpa [connect] using member
        exact same ▸ isCurrent
      resolving := by
        intro member
        have twice : epoch ∈ stream.resolving.erase epoch := by
          simpa [connect, resolved, isCurrent] using member
        exact absurd twice holds.distinct.not_mem_erase
      distinct := holds.distinct.erase epoch
      earlier := fun other member => holds.earlier other (List.mem_of_mem_erase member)
      notice := holds.notice }

theorem Tracked.onmessage (holds : Tracked stream) : Tracked stream.onmessage := by
  unfold HorizonStream.onmessage
  split
  · exact holds
  · exact ⟨holds.streams, holds.timers, holds.current, holds.resolving, holds.distinct,
      holds.earlier, holds.notice⟩

theorem Tracked.step (holds : Tracked stream) (taken : stream.step event = some next) :
    Tracked next := by
  cases moves_of_step taken with
  | start => exact holds.start
  | stop => exact holds.stop
  | streamError emits => exact holds.handleStreamError _ _
  | noticeReturns noticing => exact holds.setReconnectTimer noticing
  | noticeThrows =>
      exact ⟨holds.streams, holds.timers, holds.current, holds.resolving, holds.distinct,
        holds.earlier, fun isSome => nomatch isSome⟩
  | timerFires isSet => exact holds.timerFires isSet
  | cursorResolved isResolving => exact holds.cursorResolved isResolving
  | message => exact holds.onmessage

/-! ## A stopped engine -/

structure Silent (stream : HorizonStream) : Prop where
  notRunning : stream.isRunning = false
  closed : stream.stopStream = none
  clear : stream.reconnectTimer = none

theorem stop_silent (stream : HorizonStream) : Silent stream.stop where
  notRunning := rfl
  closed := (closeStream_frame stream.clearReconnectTimer).1
  clear := (closeStream_frame _).2.1.trans (clearReconnectTimer_frame stream).1

theorem Silent.no_streams (silent : Silent stream) (tracked : Tracked stream) :
    stream.openStreams = [] := by
  rw [tracked.streams, silent.closed]
  rfl

theorem Silent.no_timers (silent : Silent stream) (tracked : Tracked stream) :
    stream.timers = [] := by
  rw [tracked.timers, silent.clear]
  rfl

/-! ### Calls of `start` and `stop` -/

theorem start_stopped (stream : HorizonStream) : stream.start.stopped = false := by
  unfold HorizonStream.start
  split
  · rfl
  · rfl

theorem openStream_stopped (stream : HorizonStream) (isReconnect : Bool) :
    (stream.openStream isReconnect).stopped = stream.stopped := by
  have closed := (closeStream_frame stream).2.2.2
  have cleared := (clearReconnectTimer_frame stream.closeStream).2.2.2
  unfold HorizonStream.openStream openNext
  split
  · exact cleared.trans closed
  · exact cleared.trans closed

theorem handleStreamError_stopped (stream : HorizonStream) (error : StreamError)
    (jitterMs : Nat) : (stream.handleStreamError error jitterMs).stopped = stream.stopped := by
  unfold HorizonStream.handleStreamError
  split
  · rfl
  · split
    · exact (closeStream_frame stream).2.2.2
    · exact (closeStream_frame stream).2.2.2

def stoppedBehind (stopped : Bool) : Event → Bool
  | .start => false
  | .stop => true
  | _ => stopped

theorem stopped_step (taken : stream.step event = some next) :
    next.stopped = stoppedBehind stream.stopped event := by
  cases moves_of_step taken with
  | start => exact start_stopped stream
  | stop => rfl
  | streamError emits => exact handleStreamError_stopped stream _ _
  | noticeReturns noticing | noticeThrows => rfl
  | timerFires isSet => exact openStream_stopped _ true
  | cursorResolved isResolving =>
      unfold HorizonStream.cursorResolved
      split
      · rfl
      · rfl
  | message =>
      unfold HorizonStream.onmessage
      split
      · rfl
      · rfl

/-! ### The timer behind the notice -/

/-- The condition on the state before a step: behind a notice the timer is set for an
engine that the listeners have not left stopped. -/
def LeavesRunning (stream : HorizonStream) (event : Event) : Prop :=
  event = .noticeReturns → stream.stopped = false

theorem Silent.step (tracked : Tracked stream) (silent : stream.stopped = true → Silent stream)
    (leaves : LeavesRunning stream event) (taken : stream.step event = some next) :
    next.stopped = true → Silent next := by
  intro stopped
  rw [stopped_step taken] at stopped
  cases moves_of_step taken with
  | start => cases stopped
  | stop => exact stop_silent stream
  | streamError emits =>
      rw [(silent stopped).no_streams tracked] at emits
      cases emits
  | noticeReturns noticing => cases (leaves rfl).symm.trans stopped
  | noticeThrows => exact ⟨(silent stopped).1, (silent stopped).2, (silent stopped).3⟩
  | timerFires isSet =>
      rw [(silent stopped).no_timers tracked] at isSet
      cases isSet
  | cursorResolved isResolving =>
      unfold HorizonStream.cursorResolved
      split
      · exact ⟨(silent stopped).1, (silent stopped).2, (silent stopped).3⟩
      · rename_i goesOn
        exact absurd (.inr (silent stopped).notRunning) goesOn
  | message =>
      unfold HorizonStream.onmessage
      split
      · exact silent stopped
      · exact ⟨(silent stopped).1, (silent stopped).2, (silent stopped).3⟩

theorem stop_notice (stream : HorizonStream) : stream.stop.notice = stream.notice :=
  (closeStream_frame _).2.2.1.trans (clearReconnectTimer_frame stream).2.2.1

theorem Silent.notice_step (tracked : Tracked stream) (silent : Silent stream)
    (noStart : event ≠ .start) (taken : stream.step event = some next)
    (noNotice : stream.notice = none) : next.notice = none := by
  cases moves_of_step taken with
  | start => exact absurd rfl noStart
  | stop => exact (stop_notice stream).trans noNotice
  | streamError emits =>
      rw [silent.no_streams tracked] at emits
      cases emits
  | noticeReturns noticing | noticeThrows => rfl
  | timerFires isSet =>
      rw [silent.no_timers tracked] at isSet
      cases isSet
  | cursorResolved isResolving =>
      unfold HorizonStream.cursorResolved
      split
      · exact noNotice
      · exact noNotice
  | message =>
      unfold HorizonStream.onmessage
      split
      · exact noNotice
      · exact noNotice

/-! ## Runs -/

/-- No listener of a notice leaves the engine stopped: behind each `stop` that it
calls there is a `start` before the notice returns. -/
def noticesLeaveRunning (stopped : Bool) : List Event → Bool
  | [] => true
  | event :: events =>
      (decide (event ≠ .noticeReturns) || !stopped) &&
        noticesLeaveRunning (stoppedBehind stopped event) events

theorem silent_run {start final : HorizonStream} {events : List Event}
    (run : Run start events final) (tracked : Tracked start)
    (silent : start.stopped = true → Silent start)
    (leave : noticesLeaveRunning start.stopped events = true) :
    final.stopped = true → Silent final := by
  induction run with
  | nil => exact silent
  | @cons current middle final event events taken _ induction =>
      rw [noticesLeaveRunning, Bool.and_eq_true, ← stopped_step taken] at leave
      have leaves : LeavesRunning current event := by
        intro isNotice
        simpa [isNotice] using leave.1
      exact induction (tracked.step taken) (Silent.step tracked silent leaves taken) leave.2

/-- In every run at most one stream is open, and it is the one of the last epoch. When
no listener of a notice leaves the engine stopped, no stream is open behind `stop`
until `start` is called. -/
theorem single_stream (hasCursorStore : Bool) (maxRetries : Option Nat) (events : List Event)
    (final : HorizonStream) (run : Run (new hasCursorStore maxRetries) events final) :
    final.openStreams.length ≤ 1 ∧
    (∀ epoch ∈ final.openStreams, epoch = final.streamEpoch) ∧
    (noticesLeaveRunning false events = true → final.stopped = true →
      final.openStreams = []) := by
  have fresh := new_tracked hasCursorStore maxRetries
  have tracked : Tracked final :=
    run.invariant (motive := Tracked) (fun _ _ _ holds taken => holds.step taken) fresh
  refine ⟨?_, ?_, ?_⟩
  · rw [tracked.streams]
    exact Option.length_toList_le
  · intro epoch isOpen
    rw [tracked.streams, Option.mem_toList] at isOpen
    exact tracked.current epoch isOpen
  · intro leave stopped
    exact (silent_run run fresh (fun stopped => nomatch stopped) leave stopped).no_streams tracked

/-- The engine reconnects once and is stopped. -/
theorem single_stream_reconnect :
    ∃ final : HorizonStream,
      Run (new true none) [.start, .cursorResolved 1, .streamError 1 .other 250, .noticeReturns,
        .timerFires 0, .stop, .cursorResolved 2] final ∧
      final.streamEpoch = 2 ∧ final.openStreams = [] := by
  have run : Run (new true none) [.start, .cursorResolved 1, .streamError 1 .other 250,
      .noticeReturns, .timerFires 0, .stop, .cursorResolved 2] _ := trace_of_runEvents rfl
  exact ⟨_, run, rfl, (single_stream true none _ _ run).2.2 (by decide) rfl⟩

/-- A listener of `engine.reconnecting` stops the engine. The timer is set all the same
and opens a stream. -/
theorem stop_in_notice_reopens :
    ∃ final : HorizonStream,
      Run (new false none) [.start, .streamError 1 .other 250, .stop, .noticeReturns,
        .timerFires 0] final ∧
      final.stopped = true ∧ final.openStreams = [2] :=
  ⟨_, trace_of_runEvents rfl, rfl, rfl⟩

end HorizonStream

end Orbital.PulseCore.EventEngine
