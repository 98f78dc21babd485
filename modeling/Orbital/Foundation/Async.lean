import Mathlib.Logic.Function.Basic

/-! # Interruptible programs

An asynchronous function runs without interruption up to its next `await`.
`Async` is the type of such functions over a state they share with the rest of
the program: between a request and its answer anything else may change the
state. `advance` runs a program to its next request, as an interleaving needs
it; `run` runs it to the end when nothing else happens meanwhile.
-/

namespace Orbital.Foundation

inductive Async (State : Type) {Request : Type} (Response : Request → Type)
    (Failure : Type) (Value : Type)
  | done (value : Value)
  | fail (failure : Failure)
  /-- Change the state and go on with the new one. -/
  | step (update : State → State)
      (next : State → Async State Response Failure Value)
  | await (request : Request)
      (resume : Except Failure (Response request) → Async State Response Failure Value)

namespace Async

variable {State Request : Type} {Response : Request → Type} {Failure : Type}
  {Value Result : Type}

def bind (program : Async State Response Failure Value)
    (next : Value → Async State Response Failure Result) :
    Async State Response Failure Result :=
  match program with
  | .done value => next value
  | .fail failure => .fail failure
  | .step update rest => .step update fun state => (rest state).bind next
  | .await request resume => .await request fun answer => (resume answer).bind next

instance : Monad (Async State Response Failure) where
  pure := .done
  bind := bind

def attempt (program : Async State Response Failure Value) :
    Async State Response Failure (Except Failure Value) :=
  match program with
  | .done value => .done (.ok value)
  | .fail failure => .done (.error failure)
  | .step update rest => .step update fun state => (rest state).attempt
  | .await request resume => .await request fun answer => (resume answer).attempt

/-- `try program catch handler`. -/
def orElse (program : Async State Response Failure Value)
    (handler : Failure → Async State Response Failure Value) :
    Async State Response Failure Value :=
  program.attempt.bind fun
    | .ok value => .done value
    | .error failure => handler failure

def get : Async State Response Failure State :=
  .step id .done

def modify (update : State → State) : Async State Response Failure Unit :=
  .step update fun _ => .done ()

def call (request : Request) : Async State Response Failure (Response request) :=
  .await request fun
    | .ok answer => .done answer
    | .error failure => .fail failure

/-- What is left of a call once it is answered. -/
def answered : Except Failure Value → Async State Response Failure Value
  | .ok value => .done value
  | .error failure => .fail failure

/-- `try program finally update`. -/
def tryFinally (program : Async State Response Failure Value) (update : State → State) :
    Async State Response Failure Value :=
  program.attempt.bind fun outcome =>
    .step update fun _ =>
      match outcome with
      | .ok value => .done value
      | .error failure => .fail failure

theorem call_eq (request : Request) :
    (call request : Async State Response Failure (Response request)) =
      .await request answered := by
  rw [call]
  congr 1
  funext answer
  cases answer with
  | ok value | error failure => rfl

@[simp] theorem pure_eq (value : Value) :
    (pure value : Async State Response Failure Value) = .done value := rfl

@[simp] theorem bind_eq (program : Async State Response Failure Value)
    (next : Value → Async State Response Failure Result) :
    program >>= next = program.bind next := rfl

theorem bind_assoc {Final : Type} (program : Async State Response Failure Value)
    (next : Value → Async State Response Failure Result)
    (last : Result → Async State Response Failure Final) :
    (program.bind next).bind last = program.bind fun value => (next value).bind last := by
  induction program with
  | done value | fail failure => rfl
  | step update rest induction => simp [bind, induction]
  | await request resume induction => simp [bind, induction]

/-! ## Up to the next request -/

def advance : Async State Response Failure Value → State →
    State × Async State Response Failure Value
  | .step update next, state => (next (update state)).advance (update state)
  | .done value, state => (state, .done value)
  | .fail failure, state => (state, .fail failure)
  | .await request resume, state => (state, .await request resume)

def awaiting : Async State Response Failure Value → Bool
  | .await _ _ => true
  | _ => false

def request? : Async State Response Failure Value → Option Request
  | .await request _ => some request
  | _ => none

def answer (program : Async State Response Failure Value)
    (respond : (request : Request) → Except Failure (Response request))
    (state : State) : State × Async State Response Failure Value :=
  match program with
  | .await request resume => (resume (respond request)).advance state
  | other => other.advance state

variable {program : Async State Response Failure Value} {state after : State} {value : Value}

theorem advance_bind_done (ends : program.advance state = (after, .done value))
    (next : Value → Async State Response Failure Result) :
    (program.bind next).advance state = (next value).advance after := by
  induction program generalizing state with
  | done value =>
      cases ends
      rfl
  | fail failure => cases ends
  | step update rest induction => exact induction (update state) ends
  | await request resume => cases ends

theorem advance_tryFinally_done (ends : program.advance state = (after, .done value))
    (update : State → State) :
    (program.tryFinally update).advance state = (update after, .done value) := by
  induction program generalizing state with
  | done value =>
      cases ends
      rfl
  | fail failure => cases ends
  | step change rest induction => exact induction (change state) ends
  | await request resume => cases ends

/-! ## Uninterrupted runs -/

abbrev Responder (World : Type) {Request : Type} (Response : Request → Type) (Failure : Type) :=
  World → (request : Request) → World × Except Failure (Response request)

structure Outcome (World State Failure Value : Type) where
  world : World
  state : State
  result : Except Failure Value

variable {World : Type}

def Outcome.andThen (outcome : Outcome World State Failure Value)
    (next : Value → World → State → Outcome World State Failure Result) :
    Outcome World State Failure Result :=
  match outcome.result with
  | .ok value => next value outcome.world outcome.state
  | .error failure => { world := outcome.world, state := outcome.state, result := .error failure }

@[simp] theorem Outcome.andThen_ok (world : World) (state : State) (value : Value)
    (next : Value → World → State → Outcome World State Failure Result) :
    (Outcome.mk world state (.ok value)).andThen next = next value world state := rfl

@[simp] theorem Outcome.andThen_error (world : World) (state : State) (failure : Failure)
    (next : Value → World → State → Outcome World State Failure Result) :
    (Outcome.mk world state (.error failure)).andThen next =
      { world, state, result := .error failure } := rfl

def run (respond : Responder World Response Failure) :
    Async State Response Failure Value → World → State →
      Outcome World State Failure Value
  | .done value, world, state => { world, state, result := .ok value }
  | .fail failure, world, state => { world, state, result := .error failure }
  | .step update next, world, state => (next (update state)).run respond world (update state)
  | .await request resume, world, state =>
      (resume (respond world request).2).run respond (respond world request).1 state

section Rules

variable (respond : Responder World Response Failure)

@[simp] theorem run_done (value : Value) (world : World) (state : State) :
    (Async.done value : Async State Response Failure Value).run respond world state =
      { world, state, result := .ok value } := rfl

@[simp] theorem run_step (update : State → State)
    (next : State → Async State Response Failure Value) (world : World) (state : State) :
    (Async.step update next).run respond world state =
      (next (update state)).run respond world (update state) := rfl

@[simp] theorem run_bind (program : Async State Response Failure Value)
    (next : Value → Async State Response Failure Result) (world : World) (state : State) :
    (program.bind next).run respond world state =
      (program.run respond world state).andThen fun value world state =>
        (next value).run respond world state := by
  induction program generalizing world state with
  | done value | fail failure => rfl
  | step update rest induction => exact induction (update state) world (update state)
  | await request resume induction =>
      exact induction (respond world request).2 (respond world request).1 state

@[simp] theorem run_attempt (program : Async State Response Failure Value)
    (world : World) (state : State) :
    program.attempt.run respond world state =
      { world := (program.run respond world state).world
        state := (program.run respond world state).state
        result := .ok (program.run respond world state).result } := by
  induction program generalizing world state with
  | done value | fail failure => rfl
  | step update rest induction => exact induction (update state) world (update state)
  | await request resume induction =>
      exact induction (respond world request).2 (respond world request).1 state

@[simp] theorem run_get (world : World) (state : State) :
    (get : Async State Response Failure State).run respond world state =
      { world, state, result := .ok state } := rfl

@[simp] theorem run_modify (update : State → State) (world : World) (state : State) :
    (modify update : Async State Response Failure Unit).run respond world state =
      { world, state := update state, result := .ok () } := rfl

@[simp] theorem run_call (request : Request) (world : World) (state : State) :
    (call request : Async State Response Failure (Response request)).run respond world state =
      { world := (respond world request).1, state, result := (respond world request).2 } := by
  rw [call, run]
  cases (respond world request).2 <;> rfl

theorem run_tryFinally (program : Async State Response Failure Value)
    (update : State → State) (world : World) (state : State) :
    (program.tryFinally update).run respond world state =
      { program.run respond world state with
        state := update (program.run respond world state).state } := by
  rw [tryFinally, run_bind, run_attempt, Outcome.andThen_ok, run_step]
  rcases program.run respond world state with ⟨_, _, result⟩
  cases result <;> rfl

end Rules

end Async

end Orbital.Foundation
