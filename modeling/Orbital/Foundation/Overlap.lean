import Orbital.Foundation.Trace

/-! # Calls that overlap

Any number of calls over one state that they share. A call runs without interruption when it
starts and whenever it goes on; between two of its steps other calls start and go on.
-/

namespace Orbital.Foundation

structure Overlap (Shared Call Phase : Type) where
  shared : Shared
  calls : List (Call × Phase)

/-- The steps of calls. `Outside` is what is decided elsewhere when a call goes on, `Change` is
what happens without a call. -/
structure Tasks (Shared Call Phase Outside Change : Type) where
  start : Shared → Call → Shared × Phase
  proceed : Shared → Call → Phase → Outside → Option (Shared × Phase)
  change : Shared → Change → Shared

/-- A condition on steps borders a property of runs when the property holds along every run
whose steps meet the condition, and fails along some run behind every step that does not. -/
structure Border (Step : State → Event → State → Prop) (start : State)
    (Guard : State → Event → Prop) (Good : List Event → Prop) : Prop where
  holds : ∀ {events final}, Trace (Guarded Guard Step) start events final → Good events
  fails : ∀ {events current event next}, Trace Step start events current →
    Step current event next → ¬ Guard current event →
      ∃ later final, Trace Step next later final ∧ ¬ Good (events ++ event :: later)

namespace Tasks

variable {Shared Call Phase Outside Change : Type}

inductive Event (Call Outside Change : Type)
  | start (call : Call)
  | proceed (index : Nat) (outside : Outside)
  | change (change : Change)

section Steps

variable (tasks : Tasks Shared Call Phase Outside Change)

def opened (shared : Shared) : Overlap Shared Call Phase where
  shared := shared
  calls := []

def step (current : Overlap Shared Call Phase) :
    Event Call Outside Change → Option (Overlap Shared Call Phase)
  | .start call =>
      let begun := tasks.start current.shared call
      some ⟨begun.1, current.calls ++ [(call, begun.2)]⟩
  | .proceed index outside =>
      current.calls[index]?.bind fun entry =>
        (tasks.proceed current.shared entry.1 entry.2 outside).map fun later =>
          ⟨later.1, current.calls.set index (entry.1, later.2)⟩
  | .change change => some { current with shared := tasks.change current.shared change }

inductive Moves (current : Overlap Shared Call Phase) :
    Event Call Outside Change → Overlap Shared Call Phase → Prop
  | start (call : Call) :
      Moves current (.start call) ⟨(tasks.start current.shared call).1,
        current.calls ++ [(call, (tasks.start current.shared call).2)]⟩
  | proceed {index : Nat} {outside : Outside} {call : Call} {phase later : Phase}
      {shared : Shared} (found : current.calls[index]? = some (call, phase))
      (proceeds : tasks.proceed current.shared call phase outside = some (shared, later)) :
      Moves current (.proceed index outside) ⟨shared, current.calls.set index (call, later)⟩
  | change (change : Change) :
      Moves current (.change change) ⟨tasks.change current.shared change, current.calls⟩

theorem moves_iff {current next : Overlap Shared Call Phase}
    {event : Event Call Outside Change} :
    Takes tasks.step current event next ↔ tasks.Moves current event next := by
  rw [Takes]
  constructor
  · intro taken
    cases event with
    | start call =>
        cases taken
        exact .start call
    | proceed index outside =>
        rcases Option.bind_eq_some_iff.mp taken with ⟨⟨call, phase⟩, found, moved⟩
        rcases Option.map_eq_some_iff.mp moved with ⟨⟨shared, later⟩, proceeds, rfl⟩
        exact .proceed found proceeds
    | change change =>
        cases taken
        exact .change change
  · intro moves
    cases moves with
    | start call => rfl
    | proceed found proceeds => rw [step, found, Option.bind_some, proceeds, Option.map_some]
    | change change => rfl

end Steps

variable {tasks : Tasks Shared Call Phase Outside Change} {calls : List (Call × Phase)}
  {index : Nat} {entry : Call × Phase}

theorem invariant {Guard : Overlap Shared Call Phase → Event Call Outside Change → Prop}
    {motive : Overlap Shared Call Phase → Prop}
    (preserved : ∀ current event next, motive current → Guard current event →
      tasks.Moves current event next → motive next)
    {first final : Overlap Shared Call Phase} {events : List (Event Call Outside Change)}
    (trace : Trace (Guarded Guard (Takes tasks.step)) first events final)
    (holds : motive first) : motive final := by
  refine trace.invariant ?_ holds
  rintro current event next holdsNow ⟨guard, taken⟩
  exact preserved current event next holdsNow guard ((moves_iff tasks).mp taken)

variable {new : Call × Phase} {moved : Nat}

theorem found_append (found : (calls ++ [new])[index]? = some entry) :
    calls[index]? = some entry ∨ (index = calls.length ∧ entry = new) := by
  rw [List.getElem?_append] at found
  split at found
  · exact Or.inl found
  · rename_i beyond
    have last : index = calls.length := by
      by_contra further
      rw [List.getElem?_eq_none] at found
      · cases found
      · simp
        omega
    rw [last, Nat.sub_self] at found
    exact Or.inr ⟨last, (Option.some.inj found).symm⟩

theorem found_set (found : (calls.set moved new)[index]? = some entry) :
    (index ≠ moved ∧ calls[index]? = some entry) ∨ (index = moved ∧ entry = new) := by
  by_cases same : moved = index
  · rw [List.getElem?_set, if_pos same] at found
    split at found
    · exact Or.inr ⟨same.symm, (Option.some.inj found).symm⟩
    · cases found
  · rw [List.getElem?_set, if_neg same] at found
    exact Or.inl ⟨Ne.symm same, found⟩

theorem set_found {old : Call × Phase} (found : calls[index]? = some old) :
    (calls.set index new)[index]? = some new := by
  rw [List.getElem?_set, if_pos rfl, if_pos (List.getElem?_eq_some_iff.mp found).1]

theorem set_other (other : moved ≠ index) : (calls.set moved new)[index]? = calls[index]? := by
  rw [List.getElem?_set, if_neg other]

theorem Moves.persists {current next : Overlap Shared Call Phase}
    {event : Event Call Outside Change} (moves : tasks.Moves current event next) {call : Call}
    {phase : Phase} (found : current.calls[index]? = some (call, phase)) :
    ∃ later, next.calls[index]? = some (call, later) := by
  cases moves with
  | start new =>
      have within := (List.getElem?_eq_some_iff.mp found).1
      exact ⟨phase, (List.getElem?_append_left within).trans found⟩
  | @proceed moved outside other before later shared foundToo proceeds =>
      by_cases same : moved = index
      · subst same
        rw [found] at foundToo
        cases foundToo
        exact ⟨later, set_found found⟩
      · exact ⟨phase, (set_other same).trans found⟩
  | change change => exact ⟨phase, found⟩

theorem drives {settled : Phase → Phase} {shared : Shared}
    (ends : ∀ (call : Call) (phase : Phase), settled phase = phase ∨
      ∃ outside, tasks.proceed shared call phase outside = some (shared, settled phase))
    (calls : List (Call × Phase)) :
    ∃ later, Trace (Takes tasks.step) ⟨shared, calls⟩ later
      ⟨shared, calls.map (Prod.map id settled)⟩ := by
  have behind : ∀ (back front : List (Call × Phase)), ∃ later,
      Trace (Takes tasks.step) ⟨shared, front ++ back⟩ later
        ⟨shared, front ++ back.map (Prod.map id settled)⟩ := by
    intro back
    induction back with
    | nil => exact fun front => ⟨[], .nil _⟩
    | cons entry rest induction =>
        intro front
        rcases entry with ⟨call, phase⟩
        rcases induction (front ++ [(call, settled phase)]) with ⟨later, trace⟩
        rw [List.append_assoc, List.append_assoc] at trace
        rcases ends call phase with same | ⟨outside, proceeds⟩
        · rw [same] at trace
          refine ⟨later, ?_⟩
          rw [List.map_cons, Prod.map, same]
          exact trace
        · have found : (front ++ (call, phase) :: rest)[front.length]? = some (call, phase) := by
            rw [List.getElem?_append_right (Nat.le_refl _), Nat.sub_self, List.getElem?_cons_zero]
          have moves : tasks.Moves ⟨shared, front ++ (call, phase) :: rest⟩
              (.proceed front.length outside) _ := .proceed found proceeds
          rw [List.set_append_right _ _ (Nat.le_refl _), Nat.sub_self, List.set_cons_zero] at moves
          exact ⟨_, .cons ((moves_iff tasks).mpr moves) trace⟩
  exact behind calls []

end Tasks

end Orbital.Foundation
