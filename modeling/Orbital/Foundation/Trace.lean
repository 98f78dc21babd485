import Mathlib.Data.List.Basic

/-! # Traces of event-driven systems

A system is given by a step relation between a state, an event and the next
state. The file names nothing of the repository; every state machine of this
development instantiates it.
-/

namespace Orbital.Foundation

inductive Trace (Step : State → Event → State → Prop) :
    State → List Event → State → Prop
  | nil (state) : Trace Step state [] state
  | cons {current middle final event events} :
      Step current event middle →
      Trace Step middle events final →
      Trace Step current (event :: events) final

def Takes (step : State → Event → Option State) (current : State)
    (event : Event) (next : State) : Prop :=
  step current event = some next

def Guarded (Guard : State → Event → Prop) (Step : State → Event → State → Prop)
    (current : State) (event : Event) (next : State) : Prop :=
  Guard current event ∧ Step current event next

def Throughout (Step : State → Event → State → Prop) (start : State) (events : List Event)
    (Holds : State → Event → State → Prop) : Prop :=
  ∀ front event back current next, events = front ++ event :: back →
    Trace Step start front current → Step current event next → Holds current event next

theorem Throughout.congr {Step : State → Event → State → Prop}
    {Holds HoldsToo : State → Event → State → Prop}
    (same : ∀ current event next, Step current event next →
      (Holds current event next ↔ HoldsToo current event next)) :
    Throughout Step start events Holds ↔ Throughout Step start events HoldsToo := by
  constructor
  · intro holds front event back current next split reached step
    exact (same _ _ _ step).mp (holds front event back current next split reached step)
  · intro holds front event back current next split reached step
    exact (same _ _ _ step).mpr (holds front event back current next split reached step)

namespace Trace

variable {Step : State → Event → State → Prop}

theorem single {event : Event} (step : Step current event next) : Trace Step current [event] next :=
  .cons step (.nil next)

theorem append (first : Trace Step initial events middle)
    (second : Trace Step middle laterEvents final) :
    Trace Step initial (events ++ laterEvents) final := by
  induction first with
  | nil => exact second
  | cons step _ induction => exact .cons step (induction second)

theorem split (trace : Trace Step initial (events ++ laterEvents) final) :
    ∃ middle, Trace Step initial events middle ∧
      Trace Step middle laterEvents final := by
  induction events generalizing initial with
  | nil => exact ⟨initial, .nil initial, trace⟩
  | cons event events induction =>
      cases trace with
      | cons step rest =>
          rcases induction rest with ⟨middle, front, back⟩
          exact ⟨middle, .cons step front, back⟩

theorem invariant {motive : State → Prop}
    (preserved : ∀ current event next, motive current →
      Step current event next → motive next)
    (trace : Trace Step initial events final) (holds : motive initial) :
    motive final := by
  induction trace with
  | nil => exact holds
  | cons step _ induction => exact induction (preserved _ _ _ holds step)

theorem mono {Wider : State → Event → State → Prop}
    (widen : ∀ current event next, Step current event next →
      Wider current event next)
    (trace : Trace Step initial events final) :
    Trace Wider initial events final := by
  induction trace with
  | nil => exact .nil _
  | cons step _ induction => exact .cons (widen _ _ _ step) induction

theorem guarded {Allowed : Event → Prop}
    (trace : Trace Step initial events final)
    (allowed : ∀ event ∈ events, Allowed event) :
    Trace (Guarded (fun _ event => Allowed event) Step) initial events final := by
  induction trace with
  | nil => exact .nil _
  | cons step _ induction =>
      refine .cons ⟨allowed _ List.mem_cons_self, step⟩ (induction ?_)
      intro event member
      exact allowed event (List.mem_cons_of_mem _ member)

theorem unique {step : State → Event → Option State}
    (first : Trace (Takes step) initial events left)
    (second : Trace (Takes step) initial events right) : left = right := by
  induction first with
  | nil =>
      cases second
      rfl
  | cons taken _ induction =>
      cases second with
      | cons takenToo rest =>
          have same := Option.some.inj (taken.symm.trans takenToo)
          subst same
          exact induction rest

end Trace

def runEvents (step : State → Event → Option State) : State → List Event → Option State
  | state, [] => some state
  | state, event :: events =>
      (step state event).bind fun next => runEvents step next events

variable {step : State → Event → Option State}

theorem trace_of_runEvents (run : runEvents step initial events = some final) :
    Trace (Takes step) initial events final := by
  induction events generalizing initial with
  | nil =>
      cases run
      exact .nil _
  | cons event events induction =>
      rcases Option.bind_eq_some_iff.mp run with ⟨middle, taken, rest⟩
      exact .cons taken (induction rest)

theorem trace_of_runGuarded {Guard : State → Event → Prop}
    [∀ state event, Decidable (Guard state event)]
    (run : runEvents (fun state event => if Guard state event then step state event else none)
      initial events = some final) : Trace (Guarded Guard (Takes step)) initial events final := by
  refine (trace_of_runEvents run).mono ?_
  intro current event next taken
  rw [Takes] at taken
  split at taken
  · rename_i guard
    exact ⟨guard, taken⟩
  · cases taken

end Orbital.Foundation
