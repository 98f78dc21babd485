import Mathlib.Data.List.Forall2
import Orbital.Foundation.Async
import Orbital.Foundation.Trace

/-! # Protocols of interruptible programs

A protocol says which requests a program may make in which phase, and which
phase the answer to a request leads to. `Keeps` is the triple of a program that
stays within a protocol whatever it is answered and whatever state it finds.
-/

namespace Orbital.Foundation.Async

structure Protocol (Phase : Type) {Request : Type} (Response : Request → Type)
    (Failure : Type) where
  allows : Phase → Request → Prop
  next : Phase → (request : Request) → Except Failure (Response request) → Phase

variable {State Phase Request : Type} {Response : Request → Type} {Failure : Type}
  {Value Result : Type}

/-- From the phase on the program keeps to the protocol, and it ends in a phase
and with a result that satisfy `post`. -/
def Keeps (protocol : Protocol Phase Response Failure)
    (post : Phase → Except Failure Value → Prop) :
    Phase → Async State Response Failure Value → Prop
  | phase, .done value => post phase (.ok value)
  | phase, .fail failure => post phase (.error failure)
  | phase, .step _ next => ∀ state, Keeps protocol post phase (next state)
  | phase, .await request resume =>
      protocol.allows phase request ∧
        ∀ answer, Keeps protocol post (protocol.next phase request answer) (resume answer)

section Rules

variable {protocol : Protocol Phase Response Failure} {phase : Phase}

variable {post : Phase → Except Failure Result → Prop}
  {program : Async State Response Failure Value}

theorem keeps_modify_bind (update : State → State)
    {next : Unit → Async State Response Failure Result}
    (rest : Keeps protocol post phase (next ())) :
    Keeps protocol post phase ((modify update).bind next) :=
  fun _ => rest

theorem keeps_get_bind {next : State → Async State Response Failure Result}
    (rest : ∀ state, Keeps protocol post phase (next state)) :
    Keeps protocol post phase (get.bind next) :=
  rest

theorem keeps_modify {post : Phase → Except Failure Unit → Prop} (update : State → State)
    (holds : post phase (.ok ())) :
    Keeps protocol post phase (modify update : Async State Response Failure Unit) :=
  fun _ => holds

theorem keeps_call {request : Request} {post : Phase → Except Failure (Response request) → Prop}
    (allowed : protocol.allows phase request)
    (holds : ∀ answer, post (protocol.next phase request answer) answer) :
    Keeps protocol post phase (call request : Async State Response Failure (Response request)) := by
  constructor
  · exact allowed
  · intro answer
    cases answer with
    | ok value => exact holds (.ok value)
    | error failure => exact holds (.error failure)

theorem Keeps.mono {weaker stronger : Phase → Except Failure Value → Prop}
    (keeps : Keeps protocol stronger phase program)
    (implies : ∀ phase result, stronger phase result → weaker phase result) :
    Keeps protocol weaker phase program := by
  induction program generalizing phase with
  | done value => exact implies phase (.ok value) keeps
  | fail failure => exact implies phase (.error failure) keeps
  | step update next induction => exact fun state => induction state (keeps state)
  | await request resume induction =>
      exact ⟨keeps.1, fun answer => induction answer (keeps.2 answer)⟩

theorem Keeps.bind {middle : Phase → Except Failure Value → Prop}
    {next : Value → Async State Response Failure Result}
    (first : Keeps protocol middle phase program)
    (rest : ∀ phase value, middle phase (.ok value) → Keeps protocol post phase (next value))
    (failed : ∀ phase failure, middle phase (.error failure) → post phase (.error failure)) :
    Keeps protocol post phase (program.bind next) := by
  induction program generalizing phase with
  | done value => exact rest phase value first
  | fail failure => exact failed phase failure first
  | step update next induction => exact fun state => induction state (first state)
  | await request resume induction =>
      exact ⟨first.1, fun answer => induction answer (first.2 answer)⟩

theorem Keeps.bindIn {middle : Phase} {next : Value → Async State Response Failure Result}
    (first : Keeps protocol (fun phase _ => phase = middle) phase program)
    (failed : ∀ failure, post middle (.error failure))
    (rest : ∀ value, Keeps protocol post middle (next value)) :
    Keeps protocol post phase (program.bind next) := by
  apply first.bind
  · rintro _ value rfl
    exact rest value
  · rintro _ failure rfl
    exact failed failure

theorem Keeps.attempt {post : Phase → Except Failure (Except Failure Value) → Prop}
    (keeps : Keeps protocol (fun phase result => post phase (.ok result)) phase program) :
    Keeps protocol post phase program.attempt := by
  induction program generalizing phase with
  | done value | fail failure => exact keeps
  | step update next induction => exact fun state => induction state (keeps state)
  | await request resume induction =>
      exact ⟨keeps.1, fun answer => induction answer (keeps.2 answer)⟩

theorem Keeps.orElse {middle post : Phase → Except Failure Value → Prop}
    {handler : Failure → Async State Response Failure Value}
    (first : Keeps protocol middle phase program)
    (done : ∀ phase value, middle phase (.ok value) → post phase (.ok value))
    (handled : ∀ phase failure, middle phase (.error failure) →
      Keeps protocol post phase (handler failure)) :
    Keeps protocol post phase (program.orElse handler) := by
  have attempted : Keeps protocol (fun phase outcome =>
      ∃ result, outcome = .ok result ∧ middle phase result) phase program.attempt :=
    (first.mono fun _ result holds => ⟨result, rfl, holds⟩).attempt
  apply attempted.bind
  · rintro phase outcome ⟨result, same, holds⟩
    cases same
    cases outcome with
    | ok value => exact done phase value holds
    | error failure => exact handled phase failure holds
  · rintro phase failure ⟨result, same, _⟩
    cases same

theorem Keeps.tryFinally {post : Phase → Except Failure Value → Prop} (update : State → State)
    (keeps : Keeps protocol post phase program) :
    Keeps protocol post phase (program.tryFinally update) := by
  have attempted : Keeps protocol (fun phase outcome =>
      ∃ result, outcome = .ok result ∧ post phase result) phase program.attempt :=
    (keeps.mono fun _ result holds => ⟨result, rfl, holds⟩).attempt
  apply attempted.bind
  · rintro phase outcome ⟨result, same, holds⟩ state
    cases same
    cases outcome with
    | ok value | error failure => exact holds
  · rintro phase failure ⟨result, same, _⟩
    cases same

/-! ## Up to the next request -/

theorem Keeps.advance {post : Phase → Except Failure Value → Prop}
    (keeps : Keeps protocol post phase program) (state : State) :
    Keeps protocol post phase (program.advance state).2 := by
  induction program generalizing state with
  | step update next induction =>
      exact induction (update state) (keeps (update state)) (update state)
  | _ => exact keeps

theorem Keeps.answer {post : Phase → Except Failure Value → Prop} {request : Request}
    {resume : Except Failure (Response request) → Async State Response Failure Value}
    (keeps : Keeps protocol post phase (.await request resume))
    (respond : (request : Request) → Except Failure (Response request)) (state : State) :
    Keeps protocol post (protocol.next phase request (respond request))
      ((Async.await request resume).answer respond state).2 :=
  (keeps.2 (respond request)).advance state

end Rules

end Orbital.Foundation.Async

/-! ## Programs side by side

Any number of interruptible programs over one memory and one world that takes part in their
requests. A program runs up to a request, which is then made, and goes on some time after
the request is answered. Where every program keeps to a protocol, a run of the programs is
a run of their phases, and an invariant of the phases holds along every run.
-/

namespace Orbital.Foundation.Async

variable {World Outside Change State Phase Request : Type} {Response : Request → Type}
  {Failure Value : Type}

structure Setting (World Outside Change : Type) {Request : Type}
    (Response : Request → Type) (Failure : Type) where
  made : World → Nat → Request → World
  answer : World → Nat → (request : Request) → Outside → World × Except Failure (Response request)
  changed : World → Change → World

inductive Action (Outside Change Request : Type)
  | called
  | ended (index : Nat)
  | made (index : Nat) (request : Request)
  | answered (index : Nat) (request : Request) (outside : Outside)
  | changed (change : Change)

def Setting.act (setting : Setting World Outside Change Response Failure)
    (world : World) : Action Outside Change Request → World
  | .called | .ended _ => world
  | .made index request => setting.made world index request
  | .answered index request outside => (setting.answer world index request outside).1
  | .changed change => setting.changed world change

structure Process (State : Type) {Request : Type} (Response : Request → Type)
    (Failure Value : Type) where
  program : Async State Response Failure Value
  waiting : Bool

structure Ensemble (World State : Type) {Request : Type} (Response : Request → Type)
    (Failure Value : Type) where
  world : World
  state : State
  processes : List (Process State Response Failure Value)

namespace Ensemble

inductive Event (Outside Change State : Type) {Request : Type} (Response : Request → Type)
    (Failure Value : Type)
  | call (program : Async State Response Failure Value)
  | resume (index : Nat)
  | answer (index : Nat) (outside : Outside)
  | change (change : Change)

def arrival (index : Nat) (program : Async State Response Failure Value) :
    Action Outside Change Request :=
  match program.request? with
  | some request => .made index request
  | none => .ended index

variable (setting : Setting World Outside Change Response Failure)

def step (ensemble : Ensemble World State Response Failure Value) :
    Event Outside Change State Response Failure Value →
      Option (Action Outside Change Request × Ensemble World State Response Failure Value)
  | .call program =>
      some (.called, { ensemble with processes := ensemble.processes ++ [⟨program, false⟩] })
  | .resume index =>
      match ensemble.processes[index]? with
      | some ⟨program, false⟩ =>
          let after := program.advance ensemble.state
          let action := arrival index after.2
          some (action, {
            world := setting.act ensemble.world action
            state := after.1
            processes := ensemble.processes.set index ⟨after.2, true⟩ })
      | _ => none
  | .answer index outside =>
      match ensemble.processes[index]? with
      | some ⟨.await request resume, true⟩ =>
          let answer := setting.answer ensemble.world index request outside
          some (.answered index request outside, {
            ensemble with
            world := answer.1
            processes := ensemble.processes.set index ⟨resume answer.2, false⟩ })
      | _ => none
  | .change change =>
      some (.changed change, {
        ensemble with world := setting.changed ensemble.world change })

theorem step_answer {ensemble : Ensemble World State Response Failure Value} {index : Nat}
    {request : Request}
    {resume : Except Failure (Response request) → Async State Response Failure Value}
    (waits : ensemble.processes[index]? = some ⟨.await request resume, true⟩) (outside : Outside) :
    ensemble.step setting (.answer index outside) =
      some (.answered index request outside, {
        ensemble with
        world := (setting.answer ensemble.world index request outside).1
        processes := ensemble.processes.set index
          ⟨resume (setting.answer ensemble.world index request outside).2, false⟩ }) := by
  rw [step, waits]

theorem step_resume {ensemble : Ensemble World State Response Failure Value} {index : Nat}
    {program : Async State Response Failure Value} {request : Request}
    (runs : ensemble.processes[index]? = some ⟨program, false⟩)
    (comesTo : (program.advance ensemble.state).2.request? = some request) :
    ensemble.step setting (.resume index) =
      some (.made index request, {
        world := setting.made ensemble.world index request
        state := (program.advance ensemble.state).1
        processes := ensemble.processes.set index
          ⟨(program.advance ensemble.state).2, true⟩ }) := by
  rw [step, runs]
  dsimp only
  rw [arrival, comesTo]
  rfl

/-- A step under a condition on the world before it and on what can be seen of it. -/
def Moves (Guard : World → Action Outside Change Request → Prop)
    (current : Ensemble World State Response Failure Value)
    (event : Event Outside Change State Response Failure Value)
    (next : Ensemble World State Response Failure Value) : Prop :=
  ∃ action, current.step setting event = some (action, next) ∧ Guard current.world action

def guardedStep (Guard : World → Action Outside Change Request → Prop)
    [∀ world action, Decidable (Guard world action)]
    (current : Ensemble World State Response Failure Value)
    (event : Event Outside Change State Response Failure Value) :
    Option (Ensemble World State Response Failure Value) :=
  (current.step setting event).bind fun taken =>
    if Guard current.world taken.1 then some taken.2 else none

theorem trace_of_run {Guard : World → Action Outside Change Request → Prop}
    [∀ world action, Decidable (Guard world action)]
    {first final : Ensemble World State Response Failure Value}
    {events : List (Event Outside Change State Response Failure Value)}
    (run : runEvents (guardedStep setting Guard) first events = some final) :
    Trace (Moves setting Guard) first events final := by
  apply (trace_of_runEvents run).mono
  intro current event next taken
  rw [Takes, guardedStep, Option.bind_eq_some_iff] at taken
  rcases taken with ⟨⟨action, after⟩, steps, meets⟩
  split at meets
  · rename_i guard
    cases meets
    exact ⟨action, steps, guard⟩
  · cases meets

end Ensemble

/-! ## Phases -/

structure Stage (Phase : Type) where
  phase : Phase
  waiting : Bool

theorem countP_set_add {Item : Type} (kind : Item → Bool) {items : List Item} {index : Nat}
    {old : Item} (atIndex : items[index]? = some old) (new : Item) :
    (items.set index new).countP kind + (if kind old then 1 else 0) =
      items.countP kind + (if kind new then 1 else 0) := by
  induction items generalizing index with
  | nil => cases atIndex
  | cons item rest induction =>
      cases index with
      | zero =>
          cases atIndex
          rw [List.set_cons_zero, List.countP_cons, List.countP_cons]
          omega
      | succ index =>
          have changes := induction atIndex
          rw [List.set_cons_succ, List.countP_cons, List.countP_cons]
          omega

inductive StageStep (protocol : Protocol Phase Response Failure)
    (setting : Setting World Outside Change Response Failure) (start : Phase)
    (world : World) (stages : List (Stage Phase)) :
    Action Outside Change Request → List (Stage Phase) → Prop
  | called : StageStep protocol setting start world stages .called
      (stages ++ [⟨start, false⟩])
  | ended {index : Nat} {phase : Phase} (running : stages[index]? = some ⟨phase, false⟩) :
      StageStep protocol setting start world stages (.ended index)
        (stages.set index ⟨phase, true⟩)
  | made {index : Nat} {phase : Phase} {request : Request}
      (running : stages[index]? = some ⟨phase, false⟩)
      (allowed : protocol.allows phase request) :
      StageStep protocol setting start world stages (.made index request)
        (stages.set index ⟨phase, true⟩)
  | answered {index : Nat} {phase : Phase} {request : Request} {outside : Outside}
      (waits : stages[index]? = some ⟨phase, true⟩) (allowed : protocol.allows phase request) :
      StageStep protocol setting start world stages (.answered index request outside)
        (stages.set index
          ⟨protocol.next phase request (setting.answer world index request outside).2, false⟩)
  | changed (change : Change) :
      StageStep protocol setting start world stages (.changed change) stages

def InStage (protocol : Protocol Phase Response Failure)
    (process : Process State Response Failure Value) (stage : Stage Phase) : Prop :=
  process.waiting = stage.waiting ∧
    Keeps protocol (fun _ _ => True) stage.phase process.program

section Stages

variable {protocol : Protocol Phase Response Failure}
  {processes : List (Process State Response Failure Value)} {stages : List (Stage Phase)}

theorem stage_of_process (matching : List.Forall₂ (InStage protocol) processes stages)
    {index : Nat} {process : Process State Response Failure Value}
    (atIndex : processes[index]? = some process) :
    ∃ stage, stages[index]? = some stage ∧ InStage protocol process stage := by
  induction matching generalizing index with
  | nil => cases atIndex
  | cons inStage _ induction =>
      cases index with
      | zero =>
          cases atIndex
          exact ⟨_, rfl, inStage⟩
      | succ index => exact induction atIndex

theorem forall₂_set (matching : List.Forall₂ (InStage protocol) processes stages)
    {process : Process State Response Failure Value} {stage : Stage Phase}
    (inStage : InStage protocol process stage) (index : Nat) :
    List.Forall₂ (InStage protocol) (processes.set index process) (stages.set index stage) := by
  induction matching generalizing index with
  | nil => exact .nil
  | cons head rest induction =>
      cases index with
      | zero => exact .cons inStage rest
      | succ index => exact .cons head (induction index)

theorem stageStep_of_step {setting : Setting World Outside Change Response Failure}
    {start : Phase} {current next : Ensemble World State Response Failure Value}
    {event : Ensemble.Event Outside Change State Response Failure Value}
    {action : Action Outside Change Request}
    (starts : ∀ program, event = .call program → Keeps protocol (fun _ _ => True) start program)
    (matching : List.Forall₂ (InStage protocol) current.processes stages)
    (taken : current.step setting event = some (action, next)) :
    ∃ later, StageStep protocol setting start current.world stages action later ∧
      List.Forall₂ (InStage protocol) next.processes later ∧
      next.world = setting.act current.world action := by
  cases event with
  | call program =>
      cases taken
      refine ⟨_, .called, ?_, rfl⟩
      apply List.rel_append matching
      exact .cons ⟨rfl, starts program rfl⟩ .nil
  | resume index =>
      rw [Ensemble.step] at taken
      split at taken
      · rename_i program found
        rcases stage_of_process matching found with ⟨⟨phase, waiting⟩, atIndex, isWaiting, keeps⟩
        cases isWaiting
        have arrives := keeps.advance current.state
        cases taken
        rw [Ensemble.arrival]
        cases comesTo : (program.advance current.state).2 with
        | await request resume =>
            rw [comesTo] at arrives
            exact ⟨_, .made atIndex arrives.1, forall₂_set matching ⟨rfl, arrives⟩ index, rfl⟩
        | done value | fail failure | step update rest =>
            rw [comesTo] at arrives
            exact ⟨_, .ended atIndex, forall₂_set matching ⟨rfl, arrives⟩ index, rfl⟩
      · cases taken
  | answer index outside =>
      rw [Ensemble.step] at taken
      split at taken
      · rename_i request resume found
        rcases stage_of_process matching found with ⟨⟨phase, waiting⟩, atIndex, isWaiting, keeps⟩
        cases isWaiting
        cases taken
        exact ⟨_, .answered atIndex keeps.1, forall₂_set matching ⟨rfl, keeps.2 _⟩ index, rfl⟩
      · cases taken
  | change change =>
      cases taken
      exact ⟨_, .changed change, matching, rfl⟩

variable {setting : Setting World Outside Change Response Failure} {start : Phase}
  {Guard : World → Action Outside Change Request → Prop}
  {motive : World → List (Stage Phase) → Prop}
  {events : List (Ensemble.Event Outside Change State Response Failure Value)}
  {first final : Ensemble World State Response Failure Value}

/-- What every guarded step of the phases preserves holds along every guarded run of programs
that keep to the protocol. -/
theorem Ensemble.invariant
    (kept : ∀ world stages action later, motive world stages → Guard world action →
      StageStep protocol setting start world stages action later →
        motive (setting.act world action) later)
    (starts : ∀ program, .call program ∈ events →
      Keeps protocol (fun _ _ => True) start program)
    (trace : Trace (Moves setting Guard) first events final)
    (matching : List.Forall₂ (InStage protocol) first.processes stages)
    (holds : motive first.world stages) :
    ∃ later, List.Forall₂ (InStage protocol) final.processes later ∧
      motive final.world later := by
  induction trace generalizing stages with
  | nil => exact ⟨stages, matching, holds⟩
  | @cons current middle final event events moves _ induction =>
      rcases moves with ⟨action, taken, guard⟩
      have startsNow : ∀ program, event = .call program →
          Keeps protocol (fun _ _ => True) start program := by
        intro program same
        exact starts program (same ▸ List.mem_cons_self)
      rcases stageStep_of_step startsNow matching taken with ⟨later, seen, matches', world⟩
      apply induction
      · exact fun program member => starts program (List.mem_cons_of_mem _ member)
      · exact matches'
      · rw [world]
        exact kept _ _ _ _ holds guard seen

end Stages

end Orbital.Foundation.Async
