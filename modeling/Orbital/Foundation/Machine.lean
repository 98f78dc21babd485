import Mathlib.Data.List.Basic

/-! # Machines that answer calls

A machine takes one call after the other, answers it and changes its state. One machine
refines another under a condition on the other's state and the call when it answers
every call that meets the condition in the same way.
-/

namespace Orbital.Foundation

structure Machine (State Call Answer : Type) where
  step : State → Call → Answer × State

namespace Machine

variable {State Call Answer : Type}

def answers (machine : Machine State Call Answer) : State → List Call → List Answer
  | _, [] => []
  | state, call :: rest =>
      (machine.step state call).1 :: machine.answers (machine.step state call).2 rest

def after (machine : Machine State Call Answer) : State → List Call → State
  | state, [] => state
  | state, call :: rest => machine.after (machine.step state call).2 rest

def Meets (machine : Machine State Call Answer) (Allowed : State → Call → Prop) :
    State → List Call → Prop
  | _, [] => True
  | state, call :: rest =>
      Allowed state call ∧ machine.Meets Allowed (machine.step state call).2 rest

instance Meets.decidable (machine : Machine State Call Answer) (Allowed : State → Call → Prop)
    [∀ state call, Decidable (Allowed state call)] :
    (state : State) → (calls : List Call) → Decidable (machine.Meets Allowed state calls)
  | _, [] => isTrue trivial
  | state, call :: rest =>
      haveI := Meets.decidable machine Allowed (machine.step state call).2 rest
      inferInstanceAs (Decidable (_ ∧ _))

theorem length_answers (machine : Machine State Call Answer) (state : State) (calls : List Call) :
    (machine.answers state calls).length = calls.length := by
  induction calls generalizing state with
  | nil => rfl
  | cons call rest induction => rw [answers, List.length_cons, List.length_cons, induction]

theorem after_append (machine : Machine State Call Answer) (state : State)
    (front back : List Call) :
    machine.after state (front ++ back) = machine.after (machine.after state front) back := by
  induction front generalizing state with
  | nil => rfl
  | cons call rest induction => exact induction _

theorem meets_append {machine : Machine State Call Answer} {Allowed : State → Call → Prop}
    {state : State} {front back : List Call} :
    machine.Meets Allowed state (front ++ back) ↔
      machine.Meets Allowed state front ∧
        machine.Meets Allowed (machine.after state front) back := by
  induction front generalizing state with
  | nil => exact (iff_of_eq (true_and _)).symm
  | cons call rest induction => exact (and_congr_right fun _ => induction).trans and_assoc.symm

theorem Meets.and {machine : Machine State Call Answer} {Allowed AllowedToo : State → Call → Prop}
    {state : State} {calls : List Call} (meets : machine.Meets Allowed state calls)
    (meetsToo : machine.Meets AllowedToo state calls) :
    machine.Meets (fun state call => Allowed state call ∧ AllowedToo state call) state calls := by
  induction calls generalizing state with
  | nil => exact trivial
  | cons call rest induction =>
      exact ⟨⟨meets.1, meetsToo.1⟩, induction meets.2 meetsToo.2⟩

theorem meets_of_forall (machine : Machine State Call Answer) {Kind : Call → Prop}
    (state : State) {calls : List Call} (kind : ∀ call ∈ calls, Kind call) :
    machine.Meets (fun _ call => Kind call) state calls := by
  induction calls generalizing state with
  | nil => exact trivial
  | cons call rest induction =>
      refine ⟨kind call List.mem_cons_self, ?_⟩
      exact induction _ fun later member => kind later (List.mem_cons_of_mem call member)

structure Refines {Abstract : Type} (concrete : Machine State Call Answer)
    (abstract : Machine Abstract Call Answer) (Allowed : Abstract → Call → Prop)
    (Related : State → Abstract → Prop) : Prop where
  answer : ∀ {state specified call}, Related state specified → Allowed specified call →
    (concrete.step state call).1 = (abstract.step specified call).1
  related : ∀ {state specified call}, Related state specified → Allowed specified call →
    Related (concrete.step state call).2 (abstract.step specified call).2

namespace Refines

variable {Abstract : Type} {concrete : Machine State Call Answer}
  {abstract : Machine Abstract Call Answer} {Allowed : Abstract → Call → Prop}
  {Related : State → Abstract → Prop}

theorem answers (refines : Refines concrete abstract Allowed Related) {state : State}
    {specified : Abstract} {calls : List Call} (start : Related state specified)
    (meets : abstract.Meets Allowed specified calls) :
    concrete.answers state calls = abstract.answers specified calls := by
  induction calls generalizing state specified with
  | nil => rfl
  | cons call rest induction =>
      rw [Machine.answers, Machine.answers, refines.answer start meets.1,
        induction (refines.related start meets.1) meets.2]

theorem after (refines : Refines concrete abstract Allowed Related) {state : State}
    {specified : Abstract} {calls : List Call} (start : Related state specified)
    (meets : abstract.Meets Allowed specified calls) :
    Related (concrete.after state calls) (abstract.after specified calls) := by
  induction calls generalizing state specified with
  | nil => exact start
  | cons call rest induction => exact induction (refines.related start meets.1) meets.2

end Refines

section Kept

variable {machine : Machine State Call Answer} {motive : State → Prop}

theorem invariant (kept : ∀ {state} call, motive state → motive (machine.step state call).2)
    {state : State} (start : motive state) (calls : List Call) :
    motive (machine.after state calls) := by
  induction calls generalizing state with
  | nil => exact start
  | cons call rest induction => exact induction (kept call start)

theorem invariant_of_meets {Allowed : State → Call → Prop}
    (kept : ∀ {state call}, motive state → Allowed state call →
      motive (machine.step state call).2)
    {state : State} {calls : List Call} (start : motive state)
    (meets : machine.Meets Allowed state calls) : motive (machine.after state calls) := by
  induction calls generalizing state with
  | nil => exact start
  | cons call rest induction => exact induction (kept start meets.1) meets.2

theorem answers_of_kept {Kind : Call → Prop} {Bound : Answer → Prop}
    (kept : ∀ {state call}, motive state → Kind call →
      motive (machine.step state call).2 ∧ Bound (machine.step state call).1)
    {state : State} {calls : List Call} (start : motive state) (kind : ∀ call ∈ calls, Kind call) :
    ∀ answer ∈ machine.answers state calls, Bound answer := by
  induction calls generalizing state with
  | nil => exact fun answer member => absurd member List.not_mem_nil
  | cons call rest induction =>
      rcases kept start (kind call List.mem_cons_self) with ⟨next, bound⟩
      intro answer member
      rcases List.mem_cons.mp member with rfl | later
      · exact bound
      · exact induction next (fun call member => kind call (List.mem_cons_of_mem _ member)) answer
          later

/-- Where a property is kept by the calls that are allowed and lost with any other call, it
holds behind every front of the calls exactly if they are all allowed. -/
theorem throughout_iff {Good : State → Prop} {Allowed : State → Call → Prop}
    (good : ∀ {state}, motive state → Good state)
    (kept : ∀ {state call}, motive state → Allowed state call →
      motive (machine.step state call).2)
    (lost : ∀ {state call}, motive state → ¬ Allowed state call →
      ¬ Good (machine.step state call).2)
    {state : State} (start : motive state) {calls : List Call} :
    (∀ front, front <+: calls → Good (machine.after state front)) ↔
      machine.Meets Allowed state calls := by
  induction calls generalizing state with
  | nil =>
      constructor
      · exact fun _ => trivial
      · intro _ front isFront
        rw [List.prefix_nil.mp isFront]
        exact good start
  | cons call rest induction =>
      constructor
      · intro throughout
        have allowed : Allowed state call := by
          by_contra refused
          exact lost start refused (throughout [call] ⟨rest, rfl⟩)
        refine ⟨allowed, (induction (kept start allowed)).mp ?_⟩
        intro front isFront
        exact throughout (call :: front) (List.cons_prefix_cons.mpr ⟨rfl, isFront⟩)
      · rintro ⟨allowed, later⟩ front isFront
        cases front with
        | nil => exact good start
        | cons first front =>
            rcases List.cons_prefix_cons.mp isFront with ⟨rfl, shorter⟩
            exact (induction (kept start allowed)).mpr later front shorter

end Kept

end Machine

end Orbital.Foundation

/-! ## Histories of overlapping calls

Calls overlap, and each of them has an answer at some point. A machine explains the answers
if it gives them to the same calls in some order, one after the other.
-/

namespace Orbital.Foundation.Machine

variable {State Call Answer Phase : Type} {machine : Machine State Call Answer}
  {start state : State} {history : List (Call × Answer)}

theorem answers_append (state : State) (front back : List Call) :
    machine.answers state (front ++ back) =
      machine.answers state front ++ machine.answers (machine.after state front) back := by
  induction front generalizing state with
  | nil => rfl
  | cons call rest induction =>
      rw [List.cons_append, answers, induction, answers, after, List.cons_append]

def Explains (machine : Machine State Call Answer) (start : State)
    (history : List (Call × Answer)) (state : State) : Prop :=
  ∃ order : List (Call × Answer), order.Perm history ∧
    machine.answers start (order.map Prod.fst) = order.map Prod.snd ∧
      machine.after start (order.map Prod.fst) = state

theorem explains_nil (machine : Machine State Call Answer) (start : State) :
    machine.Explains start [] start :=
  ⟨[], .nil, rfl, rfl⟩

theorem Explains.perm (explains : machine.Explains start history state)
    {other : List (Call × Answer)} (same : history.Perm other) :
    machine.Explains start other state := by
  rcases explains with ⟨order, isOrder, answered, ends⟩
  exact ⟨order, isOrder.trans same, answered, ends⟩

theorem Explains.step (explains : machine.Explains start history state) (call : Call) :
    machine.Explains start ((call, (machine.step state call).1) :: history)
      (machine.step state call).2 := by
  rcases explains with ⟨order, isOrder, answered, ends⟩
  refine ⟨order ++ [(call, (machine.step state call).1)], ?_, ?_, ?_⟩
  · exact (List.perm_append_singleton _ order).trans (isOrder.cons _)
  · rw [List.map_append, answers_append, answered, List.map_append, ends]
    rfl
  · rw [List.map_append, after_append, ends]
    rfl

theorem Explains.of_refines {Abstract : Type} {abstract : Machine Abstract Call Answer}
    {Related : State → Abstract → Prop} {specified final : Abstract}
    (refines : Refines machine abstract (fun _ _ => True) Related) (related : Related start specified)
    (explains : abstract.Explains specified history final) :
    ∃ state, Related state final ∧ machine.Explains start history state := by
  rcases explains with ⟨order, isOrder, answered, rfl⟩
  have meets := abstract.meets_of_forall specified
    (fun call (_ : call ∈ order.map Prod.fst) => trivial)
  exact ⟨machine.after start (order.map Prod.fst), refines.after related meets, order, isOrder,
    (refines.answers related meets).trans answered, rfl⟩

/-! ## Calls in their phases -/

def answered (answer? : Phase → Option Answer) (calls : List (Call × Phase)) :
    List (Call × Answer) :=
  calls.filterMap fun call => (answer? call.2).map fun answer => (call.1, answer)

variable {answer? : Phase → Option Answer} {calls : List (Call × Phase)} {index : Nat}
  {call : Call} {phase next : Phase}

theorem answered_append (front back : List (Call × Phase)) :
    answered answer? (front ++ back) = answered answer? front ++ answered answer? back :=
  List.filterMap_append

theorem answered_cons (first : Call × Phase) (rest : List (Call × Phase)) :
    answered answer? (first :: rest) =
      ((answer? first.2).map fun answer => (first.1, answer)).toList ++ answered answer? rest := by
  rw [answered, List.filterMap_cons]
  cases answer? first.2 with
  | none | some answer => rfl

theorem answered_map_fst (all : ∀ call ∈ calls, (answer? call.2).isSome) :
    (answered answer? calls).map Prod.fst = calls.map Prod.fst := by
  induction calls with
  | nil => rfl
  | cons first rest induction =>
      rcases Option.isSome_iff_exists.mp (all first List.mem_cons_self) with ⟨answer, isAnswered⟩
      rw [answered_cons, isAnswered, List.map_append, List.map_cons,
        induction fun call member => all call (List.mem_cons_of_mem _ member)]
      rfl

theorem answered_set_of_same (atIndex : calls[index]? = some (call, phase))
    (same : answer? next = answer? phase) :
    answered answer? (calls.set index (call, next)) = answered answer? calls := by
  induction calls generalizing index with
  | nil => cases atIndex
  | cons first rest induction =>
      cases index with
      | zero =>
          cases atIndex
          rw [List.set_cons_zero, answered_cons, answered_cons, same]
      | succ index =>
          rw [List.set_cons_succ, answered_cons, answered_cons, induction atIndex]

theorem answered_map_of_same {later : Phase → Phase}
    (same : ∀ phase, answer? (later phase) = answer? phase) :
    answered answer? (calls.map (Prod.map id later)) = answered answer? calls := by
  rw [answered, answered, List.filterMap_map]
  apply List.filterMap_congr
  intro call _
  show (answer? (later call.2)).map (fun answer => (call.1, answer)) =
    (answer? call.2).map fun answer => (call.1, answer)
  rw [same]

theorem answered_set_of_new (atIndex : calls[index]? = some (call, phase))
    (waits : answer? phase = none) {answer : Answer} (isAnswered : answer? next = some answer) :
    (answered answer? (calls.set index (call, next))).Perm
      ((call, answer) :: answered answer? calls) := by
  induction calls generalizing index with
  | nil => cases atIndex
  | cons first rest induction =>
      cases index with
      | zero =>
          cases atIndex
          rw [List.set_cons_zero, answered_cons, answered_cons, waits, isAnswered]
          exact .refl _
      | succ index =>
          rw [List.set_cons_succ, answered_cons, answered_cons]
          exact ((induction atIndex).append_left _).trans List.perm_middle

end Orbital.Foundation.Machine
