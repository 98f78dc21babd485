import Mathlib.Order.Basic
import Orbital.Foundation.Async

/-! # What interruptible programs keep

Three readings of a program between its requests: what it leaves alone, what it guarantees
while it can rely on its surroundings, and what it may use when these only learn.
-/

/-! ## What an interruptible program leaves alone

A program preserves a property of states when each of its updates does, whatever it is
answered. Between the updates the surroundings may change the state as they like.
-/

namespace Orbital.Foundation.Async

variable {State Request : Type} {Response : Request → Type} {Failure : Type}
  {Value Result : Type}

def Preserves (holds : State → Prop) : Async State Response Failure Value → Prop
  | .done _ | .fail _ => True
  | .step update next =>
      (∀ state, holds state → holds (update state)) ∧ ∀ state, Preserves holds (next state)
  | .await _ resume => ∀ answer, Preserves holds (resume answer)

section Rules

variable {holds : State → Prop}

theorem preserves_get : Preserves holds (get : Async State Response Failure State) :=
  ⟨fun _ holds => holds, fun _ => trivial⟩

variable {update : State → State} {state : State}

theorem preserves_modify (keeps : ∀ state, holds state → holds (update state)) :
    Preserves holds (modify update : Async State Response Failure Unit) :=
  ⟨keeps, fun _ => trivial⟩

theorem preserves_call (request : Request) :
    Preserves holds (call request : Async State Response Failure (Response request)) := by
  intro answer
  cases answer with
  | ok value | error failure => trivial

variable {program : Async State Response Failure Value}

theorem Preserves.bind {next : Value → Async State Response Failure Result}
    (first : Preserves holds program) (rest : ∀ value, Preserves holds (next value)) :
    Preserves holds (program.bind next) := by
  induction program with
  | done value => exact rest value
  | fail failure => trivial
  | step update continuation induction =>
      exact ⟨first.1, fun state => induction state (first.2 state)⟩
  | await request resume induction => exact fun answer => induction answer (first answer)

theorem Preserves.attempt (preserves : Preserves holds program) :
    Preserves holds program.attempt := by
  induction program with
  | done value | fail failure => trivial
  | step update continuation induction =>
      exact ⟨preserves.1, fun state => induction state (preserves.2 state)⟩
  | await request resume induction => exact fun answer => induction answer (preserves answer)

theorem Preserves.orElse {handler : Failure → Async State Response Failure Value}
    (first : Preserves holds program) (handled : ∀ failure, Preserves holds (handler failure)) :
    Preserves holds (program.orElse handler) := by
  refine first.attempt.bind ?_
  intro outcome
  cases outcome with
  | ok value => trivial
  | error failure => exact handled failure

theorem Preserves.tryFinally (first : Preserves holds program)
    (keeps : ∀ state, holds state → holds (update state)) :
    Preserves holds (program.tryFinally update) := by
  refine first.attempt.bind ?_
  intro outcome
  refine ⟨keeps, ?_⟩
  intro state
  cases outcome with
  | ok value | error failure => trivial

/-! ## Up to the next request -/

theorem Preserves.advance (preserves : Preserves holds program) (state : State) :
    Preserves holds (program.advance state).2 := by
  induction program generalizing state with
  | step update next induction =>
      exact induction (update state) (preserves.2 (update state)) (update state)
  | _ => exact preserves

theorem Preserves.advance_state (preserves : Preserves holds program) (before : holds state) :
    holds (program.advance state).1 := by
  induction program generalizing state with
  | step update next induction =>
      exact induction (update state) (preserves.2 (update state)) (preserves.1 state before)
  | _ => exact before

theorem Preserves.answer (preserves : Preserves holds program)
    (respond : (request : Request) → Except Failure (Response request)) (state : State) :
    Preserves holds (program.answer respond state).2 := by
  cases program with
  | await request resume => exact Preserves.advance (preserves (respond request)) state
  | done | fail | step => exact preserves.advance state

theorem Preserves.answer_state (preserves : Preserves holds program)
    (respond : (request : Request) → Except Failure (Response request)) (before : holds state) :
    holds (program.answer respond state).1 := by
  cases program with
  | await request resume => exact Preserves.advance_state (preserves (respond request)) before
  | done | fail | step => exact preserves.advance_state before

end Rules

end Orbital.Foundation.Async

/-! ## Rely and guarantee

What an interruptible program does to the state it finds. While it waits for an answer
the surroundings keep a property that the program relies on; between two requests the
program guarantees a relation of the state before and the state behind.
-/

namespace Orbital.Foundation.Async

/-- The relation holds along any number of updates and keeps the property. -/
structure Contract (State : Type) where
  rely : State → Prop
  guarantee : State → State → Prop
  refl : ∀ state, guarantee state state
  trans : ∀ {first second third}, guarantee first second → guarantee second third →
    guarantee first third
  stable : ∀ {state next}, rely state → guarantee state next → rely next

variable {State Request : Type} {Response : Request → Type} {Failure : Type}
  {Value Result : Type}

/-- Every update is guaranteed: those up to the next request for the state that the
program is in, and the later ones for each state that it may find. -/
def Honours (contract : Contract State) : Async State Response Failure Value → State → Prop
  | .done _, _ | .fail _, _ => True
  | .step update next, state =>
      contract.guarantee state (update state) ∧
        Honours contract (next (update state)) (update state)
  | .await _ resume, _ =>
      ∀ answer found, contract.rely found → Honours contract (resume answer) found

section Rules

variable {contract : Contract State} {state : State}

variable {update : State → State} {program : Async State Response Failure Value}

theorem honours_modify (guaranteed : contract.guarantee state (update state)) :
    Honours contract (modify update : Async State Response Failure Unit) state :=
  ⟨guaranteed, trivial⟩

theorem honours_call (request : Request) :
    Honours contract (call request : Async State Response Failure (Response request)) state := by
  intro answer found relies
  cases answer with
  | ok value | error failure => trivial

theorem honours_get_bind {next : State → Async State Response Failure Result}
    (rest : Honours contract (next state) state) : Honours contract (get.bind next) state :=
  ⟨contract.refl state, rest⟩

theorem honours_modify_bind {next : Unit → Async State Response Failure Result}
    (guaranteed : contract.guarantee state (update state))
    (rest : Honours contract (next ()) (update state)) :
    Honours contract ((modify update).bind next) state :=
  ⟨guaranteed, rest⟩

theorem Honours.bind {next : Value → Async State Response Failure Result}
    (relies : contract.rely state) (first : Honours contract program state)
    (rest : ∀ value found, contract.rely found → Honours contract (next value) found) :
    Honours contract (program.bind next) state := by
  induction program generalizing state with
  | done value => exact rest value state relies
  | fail failure => trivial
  | step update continuation induction =>
      constructor
      · exact first.1
      · exact induction (update state) (contract.stable relies first.1) first.2
  | await request resume induction =>
      intro answer found reliesThen
      exact induction answer reliesThen (first answer found reliesThen)

theorem Honours.attempt (honours : Honours contract program state) :
    Honours contract program.attempt state := by
  induction program generalizing state with
  | done value | fail failure => trivial
  | step update continuation induction =>
      exact ⟨honours.1, induction (update state) honours.2⟩
  | await request resume induction =>
      intro answer found relies
      exact induction answer (honours answer found relies)

theorem Honours.orElse {handler : Failure → Async State Response Failure Value}
    (relies : contract.rely state) (first : Honours contract program state)
    (handled : ∀ failure found, contract.rely found → Honours contract (handler failure) found) :
    Honours contract (program.orElse handler) state := by
  apply first.attempt.bind relies
  intro outcome found reliesThen
  cases outcome with
  | ok value => trivial
  | error failure => exact handled failure found reliesThen

theorem Honours.tryFinally (relies : contract.rely state) (first : Honours contract program state)
    (guaranteed : ∀ found, contract.rely found → contract.guarantee found (update found)) :
    Honours contract (program.tryFinally update) state := by
  apply first.attempt.bind relies
  intro outcome found reliesThen
  constructor
  · exact guaranteed found reliesThen
  · cases outcome with
    | ok value | error failure => trivial

/-! ## Up to the next request -/

theorem Honours.advance_state (honours : Honours contract program state) :
    contract.guarantee state (program.advance state).1 := by
  induction program generalizing state with
  | step update next induction =>
      exact contract.trans honours.1 (induction (update state) honours.2)
  | _ => exact contract.refl state

theorem Honours.advance (honours : Honours contract program state) (found : State) :
    Honours contract (program.advance state).2 found := by
  induction program generalizing state with
  | step update next induction => exact induction (update state) honours.2
  | await request resume => exact honours
  | done value | fail failure => trivial

variable {program : Async State Response Failure Value}

theorem Honours.answer_state (honours : Honours contract program state)
    (relies : contract.rely state)
    (respond : (request : Request) → Except Failure (Response request)) :
    contract.guarantee state (program.answer respond state).1 := by
  cases program with
  | await request resume => exact (honours (respond request) state relies).advance_state
  | done | fail | step => exact honours.advance_state

theorem Honours.answer (honours : Honours contract program state) (relies : contract.rely state)
    (respond : (request : Request) → Except Failure (Response request)) (found : State) :
    Honours contract (program.answer respond state).2 found := by
  cases program with
  | await request resume => exact (honours (respond request) state relies).advance found
  | done | fail | step => exact honours.advance found

end Rules

end Orbital.Foundation.Async

/-! ## Programs in surroundings that only learn

The surroundings know more and more. They keep a property of the state, and what they
answer is true by what they know then. `Ensures` is the triple of a program whose results
satisfy a condition in all such surroundings.
-/

namespace Orbital.Foundation.Async

structure Surroundings (Known State : Type) {Request : Type} (Response : Request → Type) where
  keeps : Known → State → Prop
  answers : Known → (request : Request) → Response request → Prop

variable {Known State Request : Type} {Response : Request → Type} {Failure : Type}
  {Value Result : Type} [Preorder Known]

/-- A program that keeps the property and whose result satisfies `post`. -/
def Ensures (surroundings : Surroundings Known State Response) (post : Known → Value → Prop) :
    Known → Async State Response Failure Value → Prop
  | known, .done value => post known value
  | _, .fail _ => True
  | known, .step update next =>
      ∀ state, surroundings.keeps known state →
        surroundings.keeps known (update state) ∧
          Ensures surroundings post known (next (update state))
  | known, .await request resume =>
      ∀ later, known ≤ later → ∀ answer,
        (∀ value, answer = .ok value → surroundings.answers later request value) →
          Ensures surroundings post later (resume answer)

section Rules

variable {surroundings : Surroundings Known State Response} {known : Known}

variable {post : Known → Result → Prop} {program : Async State Response Failure Value}

theorem ensures_get_bind {next : State → Async State Response Failure Result}
    (rest : ∀ state, surroundings.keeps known state →
      Ensures surroundings post known (next state)) :
    Ensures surroundings post known (get.bind next) :=
  fun state keeps => ⟨keeps, rest state keeps⟩

theorem ensures_modify_bind {update : State → State}
    {next : Unit → Async State Response Failure Result}
    (kept : ∀ state, surroundings.keeps known state → surroundings.keeps known (update state))
    (rest : Ensures surroundings post known (next ())) :
    Ensures surroundings post known ((modify update).bind next) :=
  fun state keeps => ⟨kept state keeps, rest⟩

theorem ensures_call {post : Known → Response request → Prop}
    (holds : ∀ later value, known ≤ later → surroundings.answers later request value →
      post later value) :
    Ensures surroundings post known
      (call request : Async State Response Failure (Response request)) := by
  intro later more answer answered
  cases answer with
  | ok value => exact holds later value more (answered value rfl)
  | error failure => trivial

theorem Ensures.bind {middle : Known → Value → Prop}
    {next : Value → Async State Response Failure Result}
    (first : Ensures surroundings middle known program)
    (rest : ∀ later value, known ≤ later → middle later value →
      Ensures surroundings post later (next value)) :
    Ensures surroundings post known (program.bind next) := by
  induction program generalizing known with
  | done value => exact rest known value le_rfl first
  | fail failure => trivial
  | step update continuation induction =>
      intro state keeps
      exact ⟨(first state keeps).1, induction (update state) (first state keeps).2 rest⟩
  | await request resume induction =>
      intro later more answer answered
      apply induction answer (first later more answer answered)
      exact fun latest value evenMore => rest latest value (le_trans more evenMore)

/-! ## Up to the next request -/

omit [Preorder Known] in
theorem advance_ne_step (program : Async State Response Failure Value) (state : State)
    (update : State → State) (next : State → Async State Response Failure Value) :
    (program.advance state).2 ≠ .step update next := by
  induction program generalizing state with
  | step change rest induction => exact induction (change state) (change state)
  | _ => exact fun same => nomatch same

omit [Preorder Known] in
theorem answer_ne_step (program : Async State Response Failure Value)
    (respond : (request : Request) → Except Failure (Response request)) (state : State)
    (update : State → State) (next : State → Async State Response Failure Value) :
    (program.answer respond state).2 ≠ .step update next := by
  cases program <;> exact advance_ne_step _ _ _ _

variable {post : Known → Value → Prop} {state : State}

theorem Ensures.advance (ensures : Ensures surroundings post known program)
    (keeps : surroundings.keeps known state) :
    surroundings.keeps known (program.advance state).1 ∧
      Ensures surroundings post known (program.advance state).2 := by
  induction program generalizing state with
  | step update next induction =>
      exact induction (update state) (ensures state keeps).2 (ensures state keeps).1
  | _ => exact ⟨keeps, ensures⟩

theorem Ensures.later {later : Known} (waits : program.awaiting = true)
    (ensures : Ensures surroundings post known program) (more : known ≤ later) :
    Ensures surroundings post later program := by
  cases program with
  | await request resume =>
      exact fun latest evenMore => ensures latest (le_trans more evenMore)
  | done | fail | step => cases waits

theorem Ensures.answer (waits : program.awaiting = true)
    (ensures : Ensures surroundings post known program)
    {respond : (request : Request) → Except Failure (Response request)}
    (answered : ∀ request value, program.request? = some request →
      respond request = .ok value → surroundings.answers known request value)
    (keeps : surroundings.keeps known state) :
    surroundings.keeps known (program.answer respond state).1 ∧
      Ensures surroundings post known (program.answer respond state).2 := by
  cases program with
  | await request resume =>
      apply Ensures.advance _ keeps
      exact ensures known le_rfl (respond request) fun value => answered request value rfl
  | done | fail | step => cases waits

end Rules

end Orbital.Foundation.Async
