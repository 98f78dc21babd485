import Orbital.PulseCore.EventEngine.CursorPersistence
import Orbital.PulseCore.SorobanSubscriber.SingleFlight

/-! # Progress of the poll loop

The subscriber reads its cursor back from the engine before every poll. As long
as each saved cursor gets to where the next one is read from, every poll asks
from the cursor saved last; a cursor that is dropped on the way, after a failed
write or because the store is marked unhealthy, is asked from never, and the
poll after asks for the same page again.
-/

namespace Orbital.PulseCore.EventEngine

open Orbital.Foundation
open Orbital.PulseCore.SorobanSubscriber

variable {Value : Type}

/-! ## What the log has to look like -/

def LogEntry.asksFrom (cursor : Option String) : LogEntry → Bool
  | .requested calls => calls.all fun call => call.cursor = cursor
  | .saved _ => true

def LogEntry.passes (cursor : Option String) : LogEntry → Option String
  | .requested _ => cursor
  | .saved next => some next

def lastSaved (origin : Option String) (log : List LogEntry) : Option String :=
  log.foldl LogEntry.passes origin

def neverFallsBack : Option String → List LogEntry → Bool
  | _, [] => true
  | cursor, entry :: rest => entry.asksFrom cursor && neverFallsBack (entry.passes cursor) rest

theorem lastSaved_append (origin : Option String) (log : List LogEntry) (entry : LogEntry) :
    lastSaved origin (log ++ [entry]) = entry.passes (lastSaved origin log) := by
  rw [lastSaved, List.foldl_append]
  rfl

theorem neverFallsBack_append (origin : Option String) (log : List LogEntry) (entry : LogEntry) :
    neverFallsBack origin (log ++ [entry]) =
      (neverFallsBack origin log && entry.asksFrom (lastSaved origin log)) := by
  induction log generalizing origin with
  | nil => simp [neverFallsBack, lastSaved]
  | cons head tail induction =>
      rw [List.cons_append, neverFallsBack, neverFallsBack, induction, Bool.and_assoc]
      rfl

/-! ## Steps that lose no cursor -/

namespace SorobanEngine

/-- Polls run one after the other, and the cursor of a save gets to its store. -/
def keepsCursor (engine : SorobanEngine Value) : Event Value → Bool
  | .poller event => engine.poller.inOrder event
  | .saveBegins _ => !engine.persistence.drops
  | .saveEnds _ write _ => write.isOk
  | _ => true

def UpToDate (current : Option String) (body : Poll Value Unit) : Prop :=
  Async.Keeps pollProtocol anywhere .fresh body ∨
    Async.Keeps pollProtocol anywhere (.asking current) body

structure Progress (origin : Option String) (engine : SorobanEngine Value) : Prop where
  current : engine.persistence.current = lastSaved origin engine.log
  log : neverFallsBack origin engine.log = true
  line : ∃ first, PollLoop.SingleFile first engine.poller
  polls : ∀ (index : Nat) task, engine.poller.polls[index]? = some task →
    task.executing = true → UpToDate engine.persistence.current task.body
  writing : ∀ index ∈ engine.writing, engine.persistence.hasCursorStore = true

theorem initial_progress (persistence : CursorPersistence) (subscriber : Subscriber Value) :
    Progress persistence.current (initial persistence subscriber) where
  current := rfl
  log := rfl
  line := ⟨0, PollLoop.initial_singleFile subscriber⟩
  polls := by simp [initial, PollLoop.initial]
  writing := by simp [initial]

/-! ## The polls of the loop -/

theorem not_awaiting_of_over {body : Poll Value Unit}
    (keeps : Async.Keeps pollProtocol anywhere .finished body) : body.awaiting = false := by
  cases body with
  | await request resume => exact (keeps.1).elim
  | _ => rfl

theorem answers_or_not (event : PollLoop.Event Value) :
    (∃ index answer, event = .respond index answer) ∨
      ∀ index answer, event ≠ .respond index answer := by
  cases event with
  | respond index answer => exact .inl ⟨index, answer, rfl⟩
  | _ =>
      apply Or.inr
      intro index answer same
      cases same

variable {options : Options} {engine next : SorobanEngine Value} {origin : Option String}
  {index : Nat}

variable {event : PollLoop.Event Value} {poller : PollLoop Value}

theorem step_poller (noAnswer : ∀ index answer, event ≠ .respond index answer) :
    engine.step options (.poller event) =
      (engine.poller.step options event).map fun poller => { engine with poller } := by
  cases event with
  | respond index answer => exact absurd rfl (noAnswer index answer)
  | _ => rfl

theorem Progress.pollerStep (holds : Progress origin engine) (live : options.endLedger = none)
    (noAnswer : ∀ index answer, event ≠ .respond index answer)
    (orderly : engine.poller.inOrder event = true)
    (taken : engine.poller.step options event = some poller) :
    Progress origin { engine with poller } where
  current := holds.current
  log := holds.log
  line := by
    rcases holds.line with ⟨first, line⟩
    exact line.step orderly taken
  polls := by
    intro index task atIndex executing
    rcases PollLoop.step_polls noAnswer taken index task atIndex with
      ⟨before, wasAt, same⟩ | started
    · rw [← same]
      apply holds.polls index before wasAt
      rw [PollTask.executing, same]
      exact executing
    · rw [started]
      exact .inl ((keeps_doPoll live).advance _)
  writing := holds.writing

theorem Progress.answered (holds : Progress origin engine) {request : Request Value}
    (awaits : engine.pending index = some request)
    {answer : (request : Request Value) → Except Failure (Response Value request)}
    (taken : engine.poller.respond index answer = some poller) :
    (∃ first, PollLoop.SingleFile first poller) ∧
      ∃ phase, (phase = .fresh ∨ phase = .asking engine.persistence.current) ∧
        PollPhase.allows phase request ∧
        ∀ (other : Nat) task, poller.polls[other]? = some task → task.executing = true →
          Async.Keeps pollProtocol anywhere (PollPhase.next phase request (answer request))
            task.body := by
  rcases holds.line with ⟨first, line⟩
  refine ⟨⟨first, line.respond taken⟩, ?_⟩
  rcases PollLoop.respond_cases taken with ⟨task, atIndex, executing, rfl⟩
  rw [pending, atIndex, Option.bind_some] at awaits
  have upToDate := holds.polls index task atIndex executing
  rcases task with ⟨body, cleaned⟩
  cases body with
  | await pendingRequest resume =>
      cases awaits
      have alone : ∀ (other : Nat) found,
          (engine.poller.polls.set index ⟨((Async.await request resume).answer answer
            engine.poller.subscriber).2, cleaned⟩)[other]? = some found →
          found.executing = true → found.body = ((Async.await request resume).answer answer
            engine.poller.subscriber).2 := by
        intro other found atOther otherExecuting
        rw [List.getElem?_set] at atOther
        split at atOther
        · split at atOther
          · cases atOther
            rfl
          · cases atOther
        · rename_i different
          exact absurd (line.alone index other
            (PollLoop.executes_iff.mpr ⟨_, atIndex, executing⟩)
            (PollLoop.executes_iff.mpr ⟨found, atOther, otherExecuting⟩)) different
      rcases upToDate with fresh | asking
      · refine ⟨.fresh, .inl rfl, fresh.1, ?_⟩
        intro other found atOther otherExecuting
        rw [alone other found atOther otherExecuting]
        exact fresh.answer answer engine.poller.subscriber
      · refine ⟨_, .inr rfl, asking.1, ?_⟩
        intro other found atOther otherExecuting
        rw [alone other found atOther otherExecuting]
        exact asking.answer answer engine.poller.subscriber
  | _ => cases awaits

/-! ## Answers -/

theorem Progress.respond (holds : Progress origin engine)
    {answer : (request : Request Value) → Except Failure (Response Value request)}
    (taken : engine.respond index answer = some next) : Progress origin next := by
  -- An answer that is not about the cursor leaves the poll in its phase.
  have inPhase : ∀ request, engine.pending index = some request → ∀ poller,
      engine.poller.respond index answer = some poller →
      (∀ phase, PollPhase.allows phase request →
        PollPhase.next phase request (answer request) = phase) →
      (∃ first, PollLoop.SingleFile first poller) ∧
        (∀ (other : Nat) task, poller.polls[other]? = some task → task.executing = true →
          UpToDate engine.persistence.current task.body) ∧
        ∃ phase, (phase = .fresh ∨ phase = .asking engine.persistence.current) ∧
          PollPhase.allows phase request := by
    intro request awaits poller responded samePhase
    rcases holds.answered awaits responded with ⟨line, phase, isPhase, allowed, keeps⟩
    refine ⟨line, ?_, phase, isPhase, allowed⟩
    intro other task atOther executing
    have kept := keeps other task atOther executing
    rw [samePhase phase allowed] at kept
    rcases isPhase with rfl | rfl
    · exact .inl kept
    · exact .inr kept
  unfold SorobanEngine.respond at taken
  split at taken
  · cases taken
  · cases taken
  · cases taken
  · rename_i calls awaits
    rcases Option.map_eq_some_iff.mp taken with ⟨poller, responded, rfl⟩
    rcases inPhase _ awaits poller responded (fun _ _ => rfl) with
      ⟨line, polls, phase, isPhase, allowed⟩
    have asksFrom : LogEntry.asksFrom engine.persistence.current (.requested calls) = true := by
      rcases isPhase with rfl | rfl
      · exact allowed.elim
      · apply List.all_eq_true.mpr
        intro call member
        exact decide_eq_true (allowed call member)
    exact {
      current := by
        rw [lastSaved_append]
        exact holds.current
      log := by
        rw [neverFallsBack_append, holds.log, ← holds.current]
        exact asksFrom
      line := line
      polls := polls
      writing := holds.writing }
  · rename_i request notCursor notSave notEvents awaits
    rcases Option.map_eq_some_iff.mp taken with ⟨poller, responded, rfl⟩
    have samePhase : ∀ phase, PollPhase.allows phase request →
        PollPhase.next phase request (answer request) = phase := by
      intro phase _
      cases request with
      | getCursor => exact absurd rfl notCursor
      | saveCursor cursor => exact absurd rfl (notSave cursor)
      | _ => rfl
    rcases inPhase _ awaits poller responded samePhase with ⟨line, polls, _⟩
    exact ⟨holds.current, holds.log, line, polls, holds.writing⟩

theorem Progress.cursorRead (holds : Progress origin engine) {read : Except Failure Unit}
    (taken : engine.cursorRead index read = some next) : Progress origin next := by
  unfold SorobanEngine.cursorRead at taken
  split at taken
  · rename_i awaits
    rcases Option.map_eq_some_iff.mp taken with ⟨poller, responded, rfl⟩
    rcases holds.answered awaits responded with ⟨line, phase, isPhase, allowed, keeps⟩
    refine ⟨holds.current, holds.log, line, ?_, holds.writing⟩
    intro other task atOther executing
    have kept := keeps other task atOther executing
    have answered : engine.persistence.getCursor read = .ok engine.persistence.current ∨
        ∃ failure, engine.persistence.getCursor read = .error failure := by
      rw [CursorPersistence.getCursor, CursorPersistence.current]
      cases engine.persistence.hasCursorStore with
      | false => exact .inl rfl
      | true =>
          cases read with
          | ok _ => exact .inl rfl
          | error failure => exact .inr ⟨failure, rfl⟩
    rw [cursorAnswer] at kept
    rcases answered with isRead | ⟨failure, failed⟩
    · rw [isRead] at kept
      exact .inr kept
    · rw [failed] at kept
      rw [PollTask.executing, not_awaiting_of_over kept] at executing
      cases executing
  · cases taken

theorem Progress.saved (holds : Progress origin engine) {cursor : String}
    (awaits : engine.pending index = some (.saveCursor cursor)) {persistence : CursorPersistence}
    {result : Except Failure Unit} (reached : persistence.current = some cursor)
    (sameStore : persistence.hasCursorStore = engine.persistence.hasCursorStore)
    (taken : engine.saved index cursor persistence result = some next) : Progress origin next := by
  rcases Option.map_eq_some_iff.mp taken with ⟨poller, responded, rfl⟩
  rcases holds.answered awaits responded with ⟨line, phase, isPhase, allowed, keeps⟩
  exact {
    current := by
      rw [lastSaved_append]
      exact reached
    log := by
      rw [neverFallsBack_append, holds.log]
      rfl
    line := line
    polls := by
      intro other task atOther executing
      rw [PollTask.executing, not_awaiting_of_over (keeps other task atOther executing)]
        at executing
      cases executing
    writing := by
      intro other member
      rw [sameStore]
      exact holds.writing other (List.mem_of_mem_erase member) }

theorem Progress.saveBegins (holds : Progress origin engine)
    (kept : engine.persistence.drops = false) (taken : engine.saveBegins index = some next) :
    Progress origin next := by
  unfold SorobanEngine.saveBegins at taken
  split at taken
  · rename_i cursor awaits
    split at taken
    · cases taken
    · cases hasStore : engine.persistence.hasCursorStore with
      | false =>
          have inMemory : engine.persistence.beginSave cursor =
              some { engine.persistence with inMemoryCursor := some cursor } := by
            simp [CursorPersistence.beginSave, hasStore]
          simp only [inMemory] at taken
          apply holds.saved awaits _ _ taken
          · simp [CursorPersistence.current, hasStore]
          · rfl
      | true =>
          have healthy : engine.persistence.isCursorStoreUnhealthy = false := by
            simpa [CursorPersistence.drops, hasStore] using kept
          have writes : engine.persistence.beginSave cursor = none := by
            simp [CursorPersistence.beginSave, hasStore, healthy]
          simp only [writes] at taken
          cases taken
          exact ⟨holds.current, holds.log, holds.line, holds.polls, fun _ _ => hasStore⟩
  · cases taken

theorem Progress.saveEnds (holds : Progress origin engine) {write notified : Except Failure Unit}
    (succeeds : write.isOk = true) (taken : engine.saveEnds index write notified = some next) :
    Progress origin next := by
  unfold SorobanEngine.saveEnds at taken
  split at taken
  · rename_i cursor awaits
    split at taken
    · rename_i isWriting
      cases write with
      | error failure => cases succeeds
      | ok _ =>
          apply holds.saved awaits _ _ taken
          · have hasStore := holds.writing index isWriting
            simp [CursorPersistence.endSave, CursorPersistence.noteSuccess,
              CursorPersistence.current, hasStore]
          · rfl
    · cases taken
  · cases taken

theorem Progress.otherWrite (holds : Progress origin engine) (write : Except Failure Unit) :
    Progress origin { engine with persistence := engine.persistence.otherWrite write } := by
  have sameCursor : (engine.persistence.otherWrite write).current = engine.persistence.current := by
    cases write <;> rfl
  have sameStore : (engine.persistence.otherWrite write).hasCursorStore =
      engine.persistence.hasCursorStore := by
    cases write <;> rfl
  exact {
    current := sameCursor.trans holds.current
    log := holds.log
    line := holds.line
    polls := by
      rw [sameCursor]
      exact holds.polls
    writing := by
      rw [sameStore]
      exact holds.writing }

/-! ## Runs -/

theorem Progress.step (holds : Progress origin engine) (live : options.endLedger = none)
    {event : Event Value} (kept : engine.keepsCursor event = true)
    (taken : engine.step options event = some next) : Progress origin next := by
  cases event with
  | poller event =>
      rcases answers_or_not event with ⟨index, answer, rfl⟩ | noAnswer
      · exact holds.respond taken
      · rw [step_poller noAnswer] at taken
        rcases Option.map_eq_some_iff.mp taken with ⟨poller, stepped, rfl⟩
        exact holds.pollerStep live noAnswer kept stepped
  | cursorRead index read => exact holds.cursorRead taken
  | saveBegins index => exact holds.saveBegins (by simpa [keepsCursor] using kept) taken
  | saveEnds index write notified => exact holds.saveEnds kept taken
  | otherWrite write =>
      cases taken
      exact holds.otherWrite write

abbrev Run (startLedgerLookback : Nat) (pageLimit : PageLimit) (start : SorobanEngine Value)
    (events : List (Event Value)) (final : SorobanEngine Value) : Prop :=
  Trace (Takes (step (sorobanOptions startLedgerLookback pageLimit))) start events final

/-- As long as polls run one after the other and every saved cursor gets to its
store, each poll asks from the cursor saved last. -/
theorem polls_progress (startLedgerLookback : Nat) (pageLimit : PageLimit)
    (persistence : CursorPersistence) (subscriber : Subscriber Value)
    (events : List (Event Value)) (final : SorobanEngine Value)
    (run : Trace (Guarded (fun engine event => engine.keepsCursor event = true)
        (Takes (step (sorobanOptions startLedgerLookback pageLimit))))
      (initial persistence subscriber) events final) :
    neverFallsBack persistence.current final.log = true := by
  have progress : Progress persistence.current final := by
    refine run.invariant (motive := Progress persistence.current) ?_
      (initial_progress persistence subscriber)
    rintro current event next holds ⟨kept, taken⟩
    exact holds.step rfl kept taken
  exact progress.log

def onePageAnswer : (request : Request Unit) → Except Failure (Response Unit request)
  | .getLatestLedger => .ok 7
  | .getEvents _ => .ok [{
      events := [{
        id := "0007-1", pagingToken := "0007-1", topic := [], value := (), contractId := none
        type := none, decodedData := none, ledger := some 7 }]
      latestLedger := some 7
      cursor := some "0007-1" }]
  | .onEvent _ _ => .ok ()
  | _ => .error .abort

def twoPolls (write : Except Failure Unit) : List (Event Unit) :=
  [.poller .start, .poller (.callLink 0), .cursorRead 0 (.ok ()),
    .poller (.respond 0 onePageAnswer), .poller (.respond 0 onePageAnswer),
    .poller (.respond 0 onePageAnswer), .saveBegins 0, .saveEnds 0 write (.ok ()),
    .poller (.cleanUp 0), .poller .tick, .poller (.callLink 1), .cursorRead 1 (.ok ()),
    .poller (.respond 1 onePageAnswer)]

theorem polls_progress_two_polls :
    ∃ final : SorobanEngine Unit,
      Run 0 Options.default.pageLimit (initial (.new true none none) (.new none))
        (twoPolls (.ok ())) final ∧
      final.log.length = 3 ∧ neverFallsBack none final.log = true := by
  have run : Trace (Guarded (fun engine event => engine.keepsCursor event = true)
      (Takes (step (sorobanOptions 0 Options.default.pageLimit))))
      (initial (.new true none none) (.new none)) (twoPolls (.ok ())) _ :=
    trace_of_runGuarded rfl
  exact ⟨_, run.mono fun _ _ _ guarded => guarded.2, rfl,
    polls_progress 0 Options.default.pageLimit (.new true none none) (.new none) _ _ run⟩

/-- After one failed write the next poll asks for the same page again. -/
theorem failed_write_repeats_page :
    ∃ final : SorobanEngine Unit,
      Run 0 Options.default.pageLimit (initial (.new true none none) (.new none))
        (twoPolls (.error (.other "unavailable"))) final ∧
      neverFallsBack none final.log = false :=
  ⟨_, trace_of_runEvents rfl, rfl⟩

end SorobanEngine

end Orbital.PulseCore.EventEngine
