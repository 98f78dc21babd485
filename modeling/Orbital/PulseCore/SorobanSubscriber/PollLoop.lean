import Orbital.PulseCore.SorobanSubscriber.Poll

/-! # The self-driving poll loop

`start`, `stop`, `pollOnce` and `scheduleRetry` of `SorobanSubscriber.ts`.
Every tick and every retry timer chains a call of `pollOnce` on `inflightPoll`,
and `pollOnce` puts the poll it starts in its place. A step of the model is
what the runtime does in one go: a timer firing, a call, the answer to a
request of a poll, or one reaction to a settled promise. Requests may be
answered at any time and reactions may run in any order once they are due.
-/

namespace Orbital.PulseCore.SorobanSubscriber

open Orbital.Foundation

variable {Value : Type}

inductive Source
  | resolved
  | poll (index : Nat)
  | link (index : Nat)
  deriving DecidableEq

structure PollTask (Value : Type) where
  body : Poll Value Unit
  /-- The `finally` block of the `pollOnce` that started the poll has run. -/
  cleaned : Bool

def PollTask.executing (task : PollTask Value) : Bool :=
  task.body.awaiting

inductive LinkStatus
  | waiting
  /-- `pollOnce` was called; it started this poll, or none when stopped. -/
  | called (poll : Option Nat)
  | fulfilled
  | rejected
  deriving DecidableEq

/-- `source.then(() => this.pollOnce())`. -/
structure ChainedPoll where
  source : Source
  status : LinkStatus
  deriving DecidableEq

structure PollLoop (Value : Type) where
  subscriber : Subscriber Value
  isRunning : Bool
  pollTimer : Bool
  inflightPoll : Option Source
  polls : List (PollTask Value)
  links : List ChainedPoll

namespace PollLoop

def initial (subscriber : Subscriber Value) : PollLoop Value where
  subscriber := subscriber
  isRunning := false
  pollTimer := false
  inflightPoll := none
  polls := []
  links := []

/-- How a promise was settled: `some true` when it was fulfilled. -/
def settled (loop : PollLoop Value) : Source → Option Bool
  | .resolved => some true
  | .poll index =>
      match (loop.polls[index]?).map PollTask.body with
      | some (.done _) => some true
      | some (.fail _) => some false
      | _ => none
  | .link index =>
      match (loop.links[index]?).map ChainedPoll.status with
      | some .fulfilled => some true
      | some .rejected => some false
      | _ => none

def setStatus (loop : PollLoop Value) (index : Nat) (status : LinkStatus) : PollLoop Value :=
  { loop with links := loop.links.modify index fun link => { link with status } }

/-- `inflightPoll = (inflightPoll ?? Promise.resolve()).then(() => pollOnce())`. -/
def chain (loop : PollLoop Value) : PollLoop Value :=
  { loop with
    inflightPoll := some (.link loop.links.length)
    links := loop.links ++
      [{ source := loop.inflightPoll.getD .resolved, status := .waiting }] }

/-- The part of `pollOnce` before its `await`, called by link `index`. -/
def pollOnce (options : Options) (loop : PollLoop Value) (index : Nat) : PollLoop Value :=
  if loop.subscriber.isStopped then loop.setStatus index (.called none)
  else
    let started := (doPoll options).advance loop.subscriber
    { loop.setStatus index (.called (some loop.polls.length)) with
      subscriber := started.1
      inflightPoll := some (.poll loop.polls.length)
      polls := loop.polls ++ [{ body := started.2, cleaned := false }] }

def start (loop : PollLoop Value) : PollLoop Value :=
  if loop.isRunning then loop
  else { loop.chain with
    subscriber := { loop.subscriber with isStopped := false }
    isRunning := true
    pollTimer := true }

def stop (loop : PollLoop Value) : PollLoop Value :=
  { loop with
    subscriber := { loop.subscriber with
      isStopped := true
      timers := loop.subscriber.timers.filter fun timer =>
        some timer.1 ≠ loop.subscriber.retryTimer
      retryTimer := none }
    isRunning := false
    pollTimer := false }

def tick (loop : PollLoop Value) : Option (PollLoop Value) :=
  if loop.pollTimer then some loop.chain else none

def retryFires (loop : PollLoop Value) (timer : Nat) : Option (PollLoop Value) :=
  if timer ∈ loop.subscriber.timers.map Prod.fst then
    let cleared := { loop with
      subscriber := { loop.subscriber with
        timers := loop.subscriber.timers.filter fun pending => pending.1 ≠ timer
        retryTimer := none } }
    some (if loop.subscriber.isStopped then cleared else cleared.chain)
  else none

/-- The request poll `index` awaits is answered. -/
def respond (loop : PollLoop Value) (index : Nat)
    (answer : (request : Request Value) → Except Failure (Response Value request)) :
    Option (PollLoop Value) :=
  match loop.polls[index]? with
  | some task =>
      if task.executing then
        let resumed := task.body.answer answer loop.subscriber
        some { loop with
          subscriber := resumed.1
          polls := loop.polls.set index { task with body := resumed.2 } }
      else none
  | none => none

/-- The `finally` block of the `pollOnce` that awaits poll `index`. -/
def cleanUp (loop : PollLoop Value) (index : Nat) : Option (PollLoop Value) :=
  match loop.polls[index]? with
  | some task =>
      if !task.executing && !task.cleaned then
        some { loop with
          inflightPoll :=
            if loop.inflightPoll = some (.poll index) then none else loop.inflightPoll
          polls := loop.polls.set index { task with cleaned := true } }
      else none
  | none => none

/-- The reaction of link `index` to its source. -/
def callLink (options : Options) (loop : PollLoop Value) (index : Nat) : Option (PollLoop Value) :=
  match loop.links[index]? with
  | some { source, status := .waiting } =>
      match loop.settled source with
      | some true => some (loop.pollOnce options index)
      | some false => some (loop.setStatus index .rejected)
      | none => none
  | _ => none

/-- The promise of link `index` follows the `pollOnce` it called. -/
def settleLink (loop : PollLoop Value) (index : Nat) : Option (PollLoop Value) :=
  match loop.links[index]? with
  | some { source := _, status := .called none } => some (loop.setStatus index .fulfilled)
  | some { source := _, status := .called (some poll) } =>
      if (loop.polls[poll]?).any PollTask.cleaned then
        match loop.settled (.poll poll) with
        | some true => some (loop.setStatus index .fulfilled)
        | some false => some (loop.setStatus index .rejected)
        | none => none
      else none
  | _ => none

inductive Event (Value : Type)
  | start
  | stop
  | tick
  | retryFires (timer : Nat)
  | respond (index : Nat)
      (answer : (request : Request Value) → Except Failure (Response Value request))
  | cleanUp (index : Nat)
  | callLink (index : Nat)
  | settleLink (index : Nat)

def step (options : Options) (loop : PollLoop Value) : Event Value → Option (PollLoop Value)
  | .start => some loop.start
  | .stop => some loop.stop
  | .tick => loop.tick
  | .retryFires timer => loop.retryFires timer
  | .respond index answer => loop.respond index answer
  | .cleanUp index => loop.cleanUp index
  | .callLink index => loop.callLink options index
  | .settleLink index => loop.settleLink index

abbrev Run (options : Options) (start : PollLoop Value) (events : List (Event Value))
    (final : PollLoop Value) : Prop :=
  Trace (Takes (step options)) start events final

/-! ## What a step does -/

variable {loop next : PollLoop Value} {index : Nat}

theorem tick_cases (taken : loop.tick = some next) : next = loop.chain := by
  rw [tick] at taken
  split at taken
  · cases taken
    rfl
  · cases taken

theorem retryFires_cases {timer : Nat} (taken : loop.retryFires timer = some next) :
    ∃ timers,
      (loop.subscriber.isStopped = true ∧ next =
        { loop with subscriber := { loop.subscriber with timers, retryTimer := none } }) ∨
      (loop.subscriber.isStopped = false ∧ next =
        { loop with subscriber := { loop.subscriber with timers, retryTimer := none } }.chain) := by
  simp only [retryFires] at taken
  split at taken
  · cases taken
    by_cases stopped : loop.subscriber.isStopped = true
    · exact ⟨_, .inl ⟨stopped, if_pos stopped⟩⟩
    · exact ⟨_, .inr ⟨Bool.eq_false_iff.mpr stopped, if_neg stopped⟩⟩
  · cases taken

theorem respond_cases {answer : (request : Request Value) → Except Failure (Response Value request)}
    (taken : loop.respond index answer = some next) :
    ∃ task, loop.polls[index]? = some task ∧ task.executing = true ∧
      next = { loop with
        subscriber := (task.body.answer answer loop.subscriber).1
        polls := loop.polls.set index
          { task with body := (task.body.answer answer loop.subscriber).2 } } := by
  rw [respond] at taken
  split at taken
  · rename_i task atIndex
    split at taken
    · rename_i executing
      cases taken
      exact ⟨task, atIndex, executing, rfl⟩
    · cases taken
  · cases taken

theorem cleanUp_cases (taken : loop.cleanUp index = some next) :
    ∃ task, loop.polls[index]? = some task ∧ task.executing = false ∧
      next = { loop with
        inflightPoll :=
          if loop.inflightPoll = some (.poll index) then none else loop.inflightPoll
        polls := loop.polls.set index { task with cleaned := true } } := by
  rw [cleanUp] at taken
  split at taken
  · rename_i task atIndex
    split at taken
    · rename_i isOver
      cases taken
      refine ⟨task, atIndex, ?_, rfl⟩
      simpa using (Bool.and_eq_true_iff.mp isOver).1
    · cases taken
  · cases taken

theorem callLink_cases {options : Options} (taken : loop.callLink options index = some next) :
    ∃ source, loop.links[index]? = some { source := source, status := .waiting } ∧
      ((loop.settled source = some true ∧ next = loop.pollOnce options index) ∨
        (loop.settled source = some false ∧ next = loop.setStatus index .rejected)) := by
  rw [callLink] at taken
  split at taken
  · rename_i source atIndex
    split at taken
    · rename_i isSettled
      cases taken
      exact ⟨source, atIndex, .inl ⟨isSettled, rfl⟩⟩
    · rename_i isSettled
      cases taken
      exact ⟨source, atIndex, .inr ⟨isSettled, rfl⟩⟩
    · cases taken
  · cases taken

theorem settleLink_cases (taken : loop.settleLink index = some next) :
    ∃ source called status,
      loop.links[index]? = some { source := source, status := .called called } ∧
      (status = .fulfilled ∨ status = .rejected) ∧ next = loop.setStatus index status ∧
      ∀ poll, called = some poll →
        (loop.polls[poll]?).any PollTask.cleaned = true ∧ loop.settled (.poll poll) ≠ none := by
  rw [settleLink] at taken
  split at taken
  · rename_i source atIndex
    cases taken
    exact ⟨source, none, .fulfilled, atIndex, .inl rfl, rfl, fun _ none => by cases none⟩
  · rename_i source poll atIndex
    split at taken
    · rename_i cleaned
      have due : ∀ {result}, loop.settled (.poll poll) = some result → ∀ other,
          some poll = some other → (loop.polls[other]?).any PollTask.cleaned = true ∧
            loop.settled (.poll other) ≠ none := by
        intro result isSettled other same
        cases same
        refine ⟨cleaned, ?_⟩
        rw [isSettled]
        exact Option.some_ne_none _
      split at taken
      · rename_i isSettled
        cases taken
        exact ⟨source, some poll, .fulfilled, atIndex, .inl rfl, rfl, due isSettled⟩
      · rename_i isSettled
        cases taken
        exact ⟨source, some poll, .rejected, atIndex, .inr rfl, rfl, due isSettled⟩
      · cases taken
    · cases taken
  · cases taken

/-! ## The polls of a step -/

theorem step_polls {options : Options} {event : Event Value}
    (noAnswer : ∀ index answer, event ≠ .respond index answer)
    (taken : loop.step options event = some next) (index : Nat) (task : PollTask Value)
    (atIndex : next.polls[index]? = some task) :
    (∃ before, loop.polls[index]? = some before ∧ before.body = task.body) ∨
      task.body = ((doPoll options).advance loop.subscriber).2 := by
  cases event with
  | respond index answer => exact absurd rfl (noAnswer index answer)
  | start =>
      cases taken
      rw [start] at atIndex
      split at atIndex
      · exact .inl ⟨task, atIndex, rfl⟩
      · exact .inl ⟨task, atIndex, rfl⟩
  | stop =>
      cases taken
      exact .inl ⟨task, atIndex, rfl⟩
  | tick =>
      cases tick_cases taken
      exact .inl ⟨task, atIndex, rfl⟩
  | retryFires timer =>
      rcases retryFires_cases taken with ⟨timers, ⟨_, rfl⟩ | ⟨_, rfl⟩⟩
      · exact .inl ⟨task, atIndex, rfl⟩
      · exact .inl ⟨task, atIndex, rfl⟩
  | cleanUp poll =>
      rcases cleanUp_cases taken with ⟨cleaned, atPoll, _, rfl⟩
      rw [List.getElem?_set] at atIndex
      split at atIndex
      · rename_i same
        subst same
        split at atIndex
        · cases atIndex
          exact .inl ⟨cleaned, atPoll, rfl⟩
        · cases atIndex
      · exact .inl ⟨task, atIndex, rfl⟩
  | callLink link =>
      rcases callLink_cases taken with ⟨_, _, ⟨_, rfl⟩ | ⟨_, rfl⟩⟩
      · rw [pollOnce] at atIndex
        split at atIndex
        · exact .inl ⟨task, atIndex, rfl⟩
        · rw [List.getElem?_append] at atIndex
          split at atIndex
          · exact .inl ⟨task, atIndex, rfl⟩
          · rw [List.getElem?_singleton] at atIndex
            split at atIndex
            · cases atIndex
              exact .inr rfl
            · cases atIndex
      · exact .inl ⟨task, atIndex, rfl⟩
  | settleLink link =>
      rcases settleLink_cases taken with ⟨_, _, _, _, _, rfl, _⟩
      exact .inl ⟨task, atIndex, rfl⟩

end PollLoop

end Orbital.PulseCore.SorobanSubscriber
