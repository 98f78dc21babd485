import Orbital.PulseCore.SorobanSubscriber.PollLoop

/-! # The cursor the engine keeps for its Soroban subscriber

The constructor of `EventEngine.ts` gives the subscriber a cursor store of its
own: it passes cursors on to the configured `cursorStore`, and keeps them in
memory only when there is none. Once too many writes have failed in a row, to
whatever key, the store is marked unhealthy and cursors are dropped.
-/

namespace Orbital.PulseCore.EventEngine

open Orbital.Foundation
open Orbital.PulseCore.SorobanSubscriber

variable {Value : Type}

structure CursorPersistence where
  hasCursorStore : Bool
  stored : Option String
  inMemoryCursor : Option String
  consecutiveCursorFailures : Nat
  isCursorStoreUnhealthy : Bool
  cursorFailureThreshold : Nat
  deriving DecidableEq

namespace CursorPersistence

/-- The engine at its construction, without a store or with one that holds a
cursor; five failures in a row are the default threshold. -/
def new (hasCursorStore : Bool) (stored : Option String)
    (cursorFailureThreshold : Option Nat) : CursorPersistence where
  hasCursorStore := hasCursorStore
  stored := stored
  inMemoryCursor := none
  consecutiveCursorFailures := 0
  isCursorStoreUnhealthy := false
  cursorFailureThreshold := cursorFailureThreshold.getD 5

def current (persistence : CursorPersistence) : Option String :=
  if persistence.hasCursorStore then persistence.stored else persistence.inMemoryCursor

/-- Some `cursorStore.set()` has succeeded. -/
def noteSuccess (persistence : CursorPersistence) : CursorPersistence :=
  { persistence with consecutiveCursorFailures := 0, isCursorStoreUnhealthy := false }

def handleCursorFailure (persistence : CursorPersistence) : CursorPersistence :=
  let consecutiveCursorFailures := persistence.consecutiveCursorFailures + 1
  { persistence with
    consecutiveCursorFailures
    isCursorStoreUnhealthy := persistence.isCursorStoreUnhealthy ||
      decide (persistence.cursorFailureThreshold ≤ consecutiveCursorFailures) }

def otherWrite (persistence : CursorPersistence) (write : Except Failure Unit) :
    CursorPersistence :=
  match write with
  | .ok () => persistence.noteSuccess
  | .error _ => persistence.handleCursorFailure

/-- `read` is how `cursorStore.get()` ends. -/
def getCursor (persistence : CursorPersistence) (read : Except Failure Unit) :
    Except Failure (Option String) :=
  if persistence.hasCursorStore then read.map fun () => persistence.stored
  else .ok persistence.inMemoryCursor

/-- `saveCursor` drops the cursor. -/
def drops (persistence : CursorPersistence) : Bool :=
  persistence.hasCursorStore && persistence.isCursorStoreUnhealthy

/-- `saveCursor` up to its `await`; `none` when it awaits `cursorStore.set()`. -/
def beginSave (persistence : CursorPersistence) (cursor : String) : Option CursorPersistence :=
  if !persistence.hasCursorStore then
    some { persistence with inMemoryCursor := some cursor }
  else if persistence.isCursorStoreUnhealthy then some persistence
  else none

/-- `saveCursor` after `cursorStore.set()`; `notified` is how the notification of
the watchers ends when the store is marked unhealthy. -/
def endSave (persistence : CursorPersistence) (cursor : String)
    (write notified : Except Failure Unit) : CursorPersistence × Except Failure Unit :=
  match write with
  | .ok () => ({ persistence.noteSuccess with stored := some cursor }, .ok ())
  | .error _ =>
      let failed := persistence.handleCursorFailure
      (failed, if failed.cursorFailureThreshold ≤ failed.consecutiveCursorFailures then notified
        else .ok ())

end CursorPersistence

/-! ## The poll loop over these cursors -/

def sorobanOptions (startLedgerLookback : Nat) (pageLimit : PageLimit) : Options :=
  { Options.default with
    onEvent := some "handleSorobanEvent"
    startLedgerLookback
    pageLimit }

inductive LogEntry
  | requested (calls : List EventsRequest)
  | saved (cursor : String)
  deriving DecidableEq

structure SorobanEngine (Value : Type) where
  poller : PollLoop Value
  persistence : CursorPersistence
  writing : List Nat
  log : List LogEntry

namespace SorobanEngine

def initial (persistence : CursorPersistence) (subscriber : Subscriber Value) :
    SorobanEngine Value where
  poller := .initial subscriber
  persistence := persistence
  writing := []
  log := []

/-- What poll `index` awaits. -/
def pending (engine : SorobanEngine Value) (index : Nat) : Option (Request Value) :=
  (engine.poller.polls[index]?).bind fun task => task.body.request?

inductive Event (Value : Type)
  /-- A step of the poll loop; requests to the cursor store are not answered so. -/
  | poller (event : PollLoop.Event Value)
  | cursorRead (index : Nat) (read : Except Failure Unit)
  | saveBegins (index : Nat)
  | saveEnds (index : Nat) (write notified : Except Failure Unit)
  | otherWrite (write : Except Failure Unit)

def cursorAnswer (value : Except Failure (Option String)) :
    (request : Request Value) → Except Failure (Response Value request)
  | .getCursor => value
  | _ => .error .abort

def savedAnswer (result : Except Failure Unit) :
    (request : Request Value) → Except Failure (Response Value request)
  | .saveCursor _ => result
  | _ => .error .abort

def respond (engine : SorobanEngine Value) (index : Nat)
    (answer : (request : Request Value) → Except Failure (Response Value request)) :
    Option (SorobanEngine Value) :=
  match engine.pending index with
  | none | some .getCursor | some (.saveCursor _) => none
  | some (.getEvents calls) =>
      (engine.poller.respond index answer).map fun poller =>
        { engine with poller, log := engine.log ++ [.requested calls] }
  | some _ => (engine.poller.respond index answer).map fun poller => { engine with poller }

def cursorRead (engine : SorobanEngine Value) (index : Nat) (read : Except Failure Unit) :
    Option (SorobanEngine Value) :=
  match engine.pending index with
  | some .getCursor =>
      (engine.poller.respond index (cursorAnswer (engine.persistence.getCursor read))).map
        fun poller => { engine with poller }
  | _ => none

/-- `saveCursor` returns to poll `index`. -/
def saved (engine : SorobanEngine Value) (index : Nat) (cursor : String)
    (persistence : CursorPersistence) (result : Except Failure Unit) :
    Option (SorobanEngine Value) :=
  (engine.poller.respond index (savedAnswer result)).map fun poller =>
    { poller
      persistence
      writing := engine.writing.erase index
      log := engine.log ++ [.saved cursor] }

def saveBegins (engine : SorobanEngine Value) (index : Nat) : Option (SorobanEngine Value) :=
  match engine.pending index with
  | some (.saveCursor cursor) =>
      if index ∈ engine.writing then none
      else match engine.persistence.beginSave cursor with
        | some persistence => engine.saved index cursor persistence (.ok ())
        | none => some { engine with writing := engine.writing ++ [index] }
  | _ => none

def saveEnds (engine : SorobanEngine Value) (index : Nat) (write notified : Except Failure Unit) :
    Option (SorobanEngine Value) :=
  match engine.pending index with
  | some (.saveCursor cursor) =>
      if index ∈ engine.writing then
        let ended := engine.persistence.endSave cursor write notified
        engine.saved index cursor ended.1 ended.2
      else none
  | _ => none

def step (options : Options) (engine : SorobanEngine Value) :
    Event Value → Option (SorobanEngine Value)
  | .poller (.respond index answer) => engine.respond index answer
  | .poller event =>
      (engine.poller.step options event).map fun poller => { engine with poller }
  | .cursorRead index read => engine.cursorRead index read
  | .saveBegins index => engine.saveBegins index
  | .saveEnds index write notified => engine.saveEnds index write notified
  | .otherWrite write =>
      some { engine with persistence := engine.persistence.otherWrite write }

end SorobanEngine

end Orbital.PulseCore.EventEngine

/-! ## The writes of the Horizon cursor

`persistHorizonCursor` of `EventEngine.ts` is called for each record and awaited by
no one, so any number of writes are in flight and land in any order. A write has the
number of its record.
-/

namespace Orbital.PulseCore.EventEngine

open Orbital.Foundation
open Orbital.PulseCore.SorobanSubscriber (Failure)

structure HorizonCursor where
  /-- The failures are counted together with those of the other cursors. -/
  persistence : CursorPersistence
  stored : Option String
  received : List String
  writing : List Nat
  landed : List Nat

namespace HorizonCursor

def initial (persistence : CursorPersistence) (stored : Option String) : HorizonCursor where
  persistence := persistence
  stored := stored
  received := []
  writing := []
  landed := []

def persistHorizonCursor (state : HorizonCursor) (cursor : String) : HorizonCursor :=
  { state with
    received := state.received ++ [cursor]
    writing :=
      if !state.persistence.hasCursorStore || state.persistence.isCursorStoreUnhealthy then
        state.writing
      else state.writing ++ [state.received.length] }

def lands (state : HorizonCursor) (number : Nat) : Option HorizonCursor :=
  if number ∈ state.writing ∧ number ∉ state.landed then
    state.received[number]?.map fun cursor =>
      { state with stored := some cursor, landed := state.landed ++ [number] }
  else none

/-- `cursorStore.set()` is fulfilled behind the landing of its write. It may be rejected
at any time. -/
def settles (state : HorizonCursor) (number : Nat) (write : Except Failure Unit) :
    Option HorizonCursor :=
  if number ∈ state.writing ∧ (write.isOk → number ∈ state.landed) then
    some { state with
      persistence := state.persistence.otherWrite write
      writing := state.writing.erase number }
  else none

inductive Event
  | received (cursor : String)
  | lands (number : Nat)
  | settles (number : Nat) (write : Except Failure Unit)
  /-- A write of another cursor of the engine has ended. -/
  | otherWrite (write : Except Failure Unit)

def step (state : HorizonCursor) : Event → Option HorizonCursor
  | .received cursor => some (state.persistHorizonCursor cursor)
  | .lands number => state.lands number
  | .settles number write => state.settles number write
  | .otherWrite write => some { state with persistence := state.persistence.otherWrite write }

abbrev Run (start : HorizonCursor) (events : List Event) (final : HorizonCursor) : Prop :=
  Trace (Takes step) start events final

variable {state next : HorizonCursor} {number : Nat}

theorem lands_cases (taken : state.lands number = some next) :
    ∃ cursor, state.received[number]? = some cursor ∧
      next = { state with stored := some cursor, landed := state.landed ++ [number] } := by
  rw [lands] at taken
  split at taken
  · rcases Option.map_eq_some_iff.mp taken with ⟨cursor, found, rfl⟩
    exact ⟨cursor, found, rfl⟩
  · cases taken

theorem settles_cases {write : Except Failure Unit}
    (taken : state.settles number write = some next) :
    next = { state with
      persistence := state.persistence.otherWrite write
      writing := state.writing.erase number } := by
  rw [settles] at taken
  split at taken
  · cases taken
    rfl
  · cases taken

/-! ## The schedule -/

def cursors : List Event → List String
  | [] => []
  | .received cursor :: events => cursor :: cursors events
  | _ :: events => cursors events

def landings : List Event → List Nat
  | [] => []
  | .lands number :: events => number :: landings events
  | _ :: events => landings events

def lastLandsLast (events : List Event) : Bool :=
  (landings events).getLast? = some ((cursors events).length - 1)

theorem schedule_run {start final : HorizonCursor} {events : List Event}
    (run : Run start events final) :
    final.received = start.received ++ cursors events ∧
      final.landed = start.landed ++ landings events := by
  induction run with
  | nil => exact ⟨(List.append_nil _).symm, (List.append_nil _).symm⟩
  | @cons current middle final event events taken _ induction =>
      rw [induction.1, induction.2]
      cases event with
      | received cursor =>
          cases taken
          simp [persistHorizonCursor, cursors, landings]
      | lands number =>
          rcases lands_cases taken with ⟨cursor, _, rfl⟩
          simp [cursors, landings]
      | settles number write =>
          cases settles_cases taken
          exact ⟨rfl, rfl⟩
      | otherWrite write =>
          cases taken
          exact ⟨rfl, rfl⟩

/-! ## What is stored -/

def HoldsLastLanded (origin : Option String) (state : HorizonCursor) : Prop :=
  state.stored = (state.landed.getLast?.bind fun number => state.received[number]?).or origin ∧
    ∀ number ∈ state.landed, number < state.received.length

theorem HoldsLastLanded.step {origin : Option String} (holds : HoldsLastLanded origin state)
    {event : Event} (taken : state.step event = some next) : HoldsLastLanded origin next := by
  rcases holds with ⟨stored, inside⟩
  cases event with
  | received cursor =>
      cases taken
      constructor
      · change state.stored = _
        rw [stored]
        congr 1
        apply Option.bind_congr
        intro number isLast
        have before := inside number (List.mem_of_getLast? isLast)
        exact (List.getElem?_append_left before).symm
      · intro number member
        have before := inside number member
        rw [persistHorizonCursor, List.length_append]
        exact Nat.lt_add_right _ before
  | lands number =>
      rcases lands_cases taken with ⟨cursor, found, rfl⟩
      constructor
      · simp [found]
      · intro other member
        rcases List.mem_append.mp member with before | isNew
        · exact inside other before
        · rw [List.mem_singleton.mp isNew]
          exact (List.getElem?_eq_some_iff.mp found).1
  | settles number write =>
      cases settles_cases taken
      exact ⟨stored, inside⟩
  | otherWrite write =>
      cases taken
      exact ⟨stored, inside⟩

/-- The last record's cursor is stored when its write lands last; and, as no cursor
comes twice, only then. -/
theorem stored_cursor_iff (persistence : CursorPersistence) (origin : Option String)
    (events : List Event) (final : HorizonCursor)
    (run : Run (initial persistence origin) events final) (cursor : String)
    (isLast : (cursors events).getLast? = some cursor) :
    (lastLandsLast events = true → final.stored = some cursor) ∧
    ((origin.toList ++ cursors events).Nodup → final.stored = some cursor →
      lastLandsLast events = true) := by
  have holds : HoldsLastLanded origin final := by
    refine run.invariant (motive := HoldsLastLanded origin)
      (fun _ _ _ holds taken => holds.step taken) ⟨rfl, fun _ member => ?_⟩
    cases member
  rcases schedule_run run with ⟨received, landed⟩
  have stored := holds.1
  rw [received, landed] at stored
  simp only [initial, List.nil_append] at stored
  have atEnd : (cursors events)[(cursors events).length - 1]? = some cursor := by
    rw [← List.getLast?_eq_getElem?]
    exact isLast
  rw [lastLandsLast, decide_eq_true_eq]
  constructor
  · intro landsLast
    rw [stored, landsLast]
    simp [atEnd]
  · intro distinct isStored
    rw [stored] at isStored
    rcases List.nodup_append.mp distinct with ⟨_, distinctCursors, apart⟩
    cases last : (landings events).getLast? with
    | none =>
        rw [last] at isStored
        have fromOrigin : origin = some cursor := by simpa using isStored
        have among : cursor ∈ cursors events := List.mem_of_getLast? isLast
        exact absurd rfl (apart cursor (by simp [fromOrigin]) cursor among)
    | some number =>
        have inside : number < (cursors events).length := by
          have among := holds.2 number (by
            rw [landed]
            exact List.mem_of_getLast? last)
          simpa [received, initial] using among
        rw [last, Option.bind_some, List.getElem?_eq_getElem inside, Option.some_or,
          ← List.getElem?_eq_getElem inside] at isStored
        have same := isStored.trans atEnd.symm
        exact congrArg some ((List.getElem?_inj inside distinctCursors).mp same)

def freshStore : HorizonCursor :=
  initial (.new true none none) none

/-- Two writes land in the order of their records. -/
theorem stored_cursor_in_order :
    ∃ final : HorizonCursor,
      Run freshStore [.received "1", .received "2", .lands 0, .settles 0 (.ok ()), .lands 1,
        .settles 1 (.ok ())] final ∧ final.writing = [] ∧ final.stored = some "2" := by
  have run : Run freshStore [.received "1", .received "2", .lands 0, .settles 0 (.ok ()),
      .lands 1, .settles 1 (.ok ())] _ := trace_of_runEvents rfl
  exact ⟨_, run, rfl, (stored_cursor_iff _ _ _ _ run "2" rfl).1 (by decide)⟩

/-- The write of the first record is slow and lands behind the second one. -/
theorem slow_write_overwrites :
    ∃ final : HorizonCursor,
      Run freshStore [.received "1", .received "2", .lands 1, .settles 1 (.ok ()), .lands 0,
        .settles 0 (.ok ())] final ∧
      final.received.getLast? = some "2" ∧ final.writing = [] ∧ final.stored = some "1" :=
  ⟨_, trace_of_runEvents rfl, rfl, rfl, rfl⟩

end HorizonCursor

end Orbital.PulseCore.EventEngine
