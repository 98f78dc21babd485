import Orbital.Foundation.Cooldown
import Orbital.Foundation.NumberText
import Orbital.Foundation.StableSort
import Mathlib.Data.List.TakeWhile

/-! # `worker-core/src/triggers/eventTrigger.ts`

The planner of event triggers. It sorts a batch of events by ledger, keeps the order of
delivery within a ledger, and opens one window for the events of a cooldown.
-/

namespace Orbital.WorkerCore.EventTrigger

open Foundation

variable {Payload : Type}

/-- The member `ledger` of an event: a ledger number, or what is not a finite number. -/
inductive LedgerField
  | missing
  | finite (ledger : Int)
  | other (text : JsString)
  deriving DecidableEq

def LedgerField.text : LedgerField → JsString
  | .missing => js "undefined"
  | .finite ledger =>
      (if ledger < 0 then js "-" else []) ++ Digits.text (Digits.ofNat ledger.natAbs)
  | .other text => text

structure SourceEvent (Payload : Type) where
  eventId : Option JsString
  txHash : Option JsString
  ledger : LedgerField
  payload : Payload
  deriving DecidableEq

structure EventTriggerDefinition where
  workerId : JsString
  latencyBoundLedgers : Nat
  activationLedger : Nat
  named : workerId ≠ []
  bounded : 0 < latencyBoundLedgers

structure FireDecision where
  windowId : JsString
  workerId : JsString
  conditionEventId : JsString
  conditionLedger : Int
  deadlineLedger : Int
  deriving DecidableEq

inductive SkipReason
  | duplicate
  | windowAlreadyOpen
  | beforeActivation
  | missingLedger
  | missingEventId
  deriving DecidableEq

structure SkippedEvent where
  reason : SkipReason
  conditionEventId : Option JsString
  conditionLedger : Option Int
  deriving DecidableEq

structure PlanResult where
  decisions : List FireDecision
  skipped : List SkippedEvent

structure EventTriggerPlanner (Payload : Type) where
  definition : EventTriggerDefinition
  predicate : SourceEvent Payload → Bool

def eventIdentity (event : SourceEvent Payload) : Option JsString :=
  let fromHash :=
    match event.txHash with
    | some txHash =>
        if txHash ≠ [] ∧ event.ledger ≠ .missing then
          some (txHash ++ js ":" ++ event.ledger.text)
        else none
    | none => none
  match event.eventId with
  | some eventId => if eventId ≠ [] then some eventId else fromHash
  | none => fromHash

def ledgerOf (event : SourceEvent Payload) : Option Int :=
  match event.ledger with
  | .finite ledger => some ledger
  | _ => none

def Precedes (first second : SourceEvent Payload × Nat) : Prop :=
  (ledgerOf first.1).getD 0 < (ledgerOf second.1).getD 0 ∨
    ((ledgerOf first.1).getD 0 = (ledgerOf second.1).getD 0 ∧ first.2 ≤ second.2)

instance (first second : SourceEvent Payload × Nat) : Decidable (Precedes first second) :=
  inferInstanceAs (Decidable (_ ∨ _))

def ordered (events : List (SourceEvent Payload)) : List (SourceEvent Payload) :=
  (events.zipIdx.insertionSort Precedes).map Prod.fst

structure PlanState where
  decisions : List FireDecision
  skipped : List SkippedEvent
  seen : List JsString
  openUntilLedger : Option Int

def PlanState.initial : PlanState where
  decisions := []
  skipped := []
  seen := []
  openUntilLedger := none

def PlanState.skip (state : PlanState) (skipped : SkippedEvent) : PlanState :=
  { state with skipped := state.skipped ++ [skipped] }

namespace EventTriggerPlanner

variable (planner : EventTriggerPlanner Payload)

def deadline (ledger : Int) : Int :=
  ledger + planner.definition.latencyBoundLedgers

def decision (entry : JsString × Int) : FireDecision where
  windowId := planner.definition.workerId ++ js ":" ++ entry.1
  workerId := planner.definition.workerId
  conditionEventId := entry.1
  conditionLedger := entry.2
  deadlineLedger := planner.deadline entry.2

def consider (state : PlanState) (event : SourceEvent Payload) : PlanState :=
  if planner.predicate event then
    match ledgerOf event with
    | none => state.skip ⟨.missingLedger, eventIdentity event, none⟩
    | some ledger =>
        match eventIdentity event with
        | none => state.skip ⟨.missingEventId, none, some ledger⟩
        | some identity =>
            if ledger < planner.definition.activationLedger then
              state.skip ⟨.beforeActivation, some identity, some ledger⟩
            else if identity ∈ state.seen then
              state.skip ⟨.duplicate, some identity, some ledger⟩
            else
              let state := { state with seen := identity :: state.seen }
              if Cooldown.Covers state.openUntilLedger ledger then
                state.skip ⟨.windowAlreadyOpen, some identity, some ledger⟩
              else
                { state with
                  decisions := state.decisions ++ [planner.decision (identity, ledger)]
                  openUntilLedger := some (planner.deadline ledger) }
  else state

def plan (events : List (SourceEvent Payload)) : PlanResult :=
  let final := (ordered events).foldl planner.consider .initial
  { decisions := final.decisions, skipped := final.skipped }

/-! ## What the loop makes of a batch -/

def eligible (event : SourceEvent Payload) : Option (JsString × Int) :=
  if planner.predicate event then
    match ledgerOf event, eventIdentity event with
    | some ledger, some identity =>
        if ledger < planner.definition.activationLedger then none else some (identity, ledger)
    | _, _ => none
  else none

def refusal (event : SourceEvent Payload) : Option SkippedEvent :=
  if planner.predicate event then
    match ledgerOf event, eventIdentity event with
    | none, identity => some ⟨.missingLedger, identity, none⟩
    | some ledger, none => some ⟨.missingEventId, none, some ledger⟩
    | some ledger, some identity =>
        if ledger < planner.definition.activationLedger then
          some ⟨.beforeActivation, some identity, some ledger⟩
        else none
  else none

def duplicate (entry : JsString × Int) : SkippedEvent :=
  ⟨.duplicate, some entry.1, some entry.2⟩

def alreadyOpen (entry : JsString × Int) : SkippedEvent :=
  ⟨.windowAlreadyOpen, some entry.1, some entry.2⟩

def entries (events : List (SourceEvent Payload)) : List (JsString × Int) :=
  events.filterMap planner.eligible

theorem consider_cases (state : PlanState) (event : SourceEvent Payload) :
    (planner.eligible event = none ∧ planner.refusal event = none ∧
      planner.consider state event = state) ∨
    (∃ skipped, planner.eligible event = none ∧ planner.refusal event = some skipped ∧
      planner.consider state event = state.skip skipped) ∨
    ∃ entry, planner.eligible event = some entry ∧ planner.refusal event = none ∧
      planner.consider state event =
        if entry.1 ∈ state.seen then state.skip (duplicate entry)
        else if Cooldown.Covers state.openUntilLedger entry.2 then
          { state.skip (alreadyOpen entry) with seen := entry.1 :: state.seen }
        else {
          decisions := state.decisions ++ [planner.decision entry]
          skipped := state.skipped
          seen := entry.1 :: state.seen
          openUntilLedger := some (planner.deadline entry.2) } := by
  rw [eligible, refusal, consider]
  by_cases isMatch : planner.predicate event = true
  · rw [if_pos isMatch, if_pos isMatch, if_pos isMatch]
    cases ledgerOf event with
    | none => exact Or.inr (Or.inl ⟨_, rfl, rfl, rfl⟩)
    | some ledger =>
        cases eventIdentity event with
        | none => exact Or.inr (Or.inl ⟨_, rfl, rfl, rfl⟩)
        | some identity =>
            by_cases early : ledger < planner.definition.activationLedger
            · exact Or.inr (Or.inl ⟨_, if_pos early, if_pos early, if_pos early⟩)
            · exact Or.inr (Or.inr ⟨(identity, ledger), if_neg early, if_neg early, if_neg early⟩)
  · rw [if_neg isMatch, if_neg isMatch, if_neg isMatch]
    exact Or.inl ⟨rfl, rfl, rfl⟩

theorem skip_perm (skipped front back : List SkippedEvent) (skip : SkippedEvent) :
    (skipped ++ [skip] ++ (front ++ back)).Perm (skipped ++ (front ++ skip :: back)) := by
  rw [List.append_assoc, List.singleton_append]
  exact List.Perm.append_left _ List.perm_middle.symm

open Cooldown in
theorem foldl_consider (events : List (SourceEvent Payload)) (state : PlanState) :
    (events.foldl planner.consider state).decisions =
        state.decisions ++ (opened planner.deadline state.openUntilLedger
          (firsts state.seen (planner.entries events))).map planner.decision ∧
      (events.foldl planner.consider state).skipped.Perm
        (state.skipped ++ (events.filterMap planner.refusal ++
          ((repeats state.seen (planner.entries events)).map duplicate ++
            (passed planner.deadline state.openUntilLedger
              (firsts state.seen (planner.entries events))).map alreadyOpen))) := by
  induction events generalizing state with
  | nil => exact ⟨(List.append_nil _).symm, by simp [entries, firsts, repeats, passed]⟩
  | cons event events induction =>
      rw [List.foldl_cons, List.filterMap_cons, entries, List.filterMap_cons]
      rcases planner.consider_cases state event with
        ⟨noEntry, noRefusal, same⟩ | ⟨skipped, noEntry, refused, next⟩ |
          ⟨entry, isEntry, noRefusal, next⟩
      · rw [noEntry, noRefusal, same]
        exact induction state
      · rw [noEntry, refused, next]
        rcases induction (state.skip skipped) with ⟨decisions, skips⟩
        refine ⟨decisions, skips.trans ?_⟩
        rw [PlanState.skip, List.append_assoc]
        exact .refl _
      · rw [isEntry, noRefusal, next]
        dsimp only
        rw [firsts, repeats]
        by_cases old : entry.1 ∈ state.seen
        · rw [if_pos old, if_pos old, if_pos old]
          rcases induction (state.skip (duplicate entry)) with ⟨decisions, skips⟩
          exact ⟨decisions, skips.trans (skip_perm _ _ _ _)⟩
        · rw [if_neg old, if_neg old, if_neg old, opened, passed]
          by_cases covered : Covers state.openUntilLedger entry.2
          · rw [if_pos covered, if_pos covered, if_pos covered]
            rcases induction { state.skip (alreadyOpen entry) with
              seen := entry.1 :: state.seen } with ⟨decisions, skips⟩
            rw [← List.append_assoc (events.filterMap planner.refusal)] at skips
            rw [List.map_cons, ← List.append_assoc (events.filterMap planner.refusal)]
            exact ⟨decisions, skips.trans (skip_perm _ _ _ _)⟩
          · rw [if_neg covered, if_neg covered, if_neg covered]
            rcases induction {
              decisions := state.decisions ++ [planner.decision entry]
              skipped := state.skipped
              seen := entry.1 :: state.seen
              openUntilLedger := some (planner.deadline entry.2) } with ⟨decisions, skips⟩
            refine ⟨?_, skips⟩
            rw [decisions, List.append_assoc]
            rfl

/-! ## The order of delivery -/

theorem ordered_perm (events : List (SourceEvent Payload)) : (ordered events).Perm events := by
  have sorted := (List.perm_insertionSort Precedes events.zipIdx).map Prod.fst
  rw [List.zipIdx_map_fst] at sorted
  exact sorted

theorem precedes_total (first second : SourceEvent Payload × Nat) :
    Precedes first second ∨ Precedes second first := by
  rw [Precedes, Precedes]
  omega

theorem precedes_trans (first second third : SourceEvent Payload × Nat)
    (front : Precedes first second) (back : Precedes second third) : Precedes first third := by
  rw [Precedes] at *
  omega

variable {event : SourceEvent Payload} {events others : List (SourceEvent Payload)}
  {identity : JsString} {ledger : Int}

theorem ledgerOf_eligible {entry : JsString × Int} (isEntry : planner.eligible event = some entry) :
    ledgerOf event = some entry.2 := by
  rw [eligible] at isEntry
  split at isEntry
  · split at isEntry
    · rename_i ledger identity hasLedger hasIdentity
      split at isEntry
      · cases isEntry
      · cases isEntry
        exact hasLedger
    · cases isEntry
  · cases isEntry

theorem entries_insertionSort (events : List (SourceEvent Payload)) :
    planner.entries (ordered events) =
      (planner.entries events).insertionSort fun first second => first.2 ≤ second.2 := by
  have total : Std.Total (@Precedes Payload) := ⟨precedes_total⟩
  have trans : IsTrans (SourceEvent Payload × Nat) Precedes := ⟨precedes_trans⟩
  have indices : events.zipIdx.Pairwise fun first second => first.2 < second.2 := by
    apply List.pairwise_map.mp
    rw [List.zipIdx_map_snd]
    exact List.pairwise_lt_range'
  have agree : events.zipIdx.Pairwise fun first second =>
      ∀ entry ∈ planner.eligible first.1, ∀ other ∈ planner.eligible second.1,
        (Precedes first second ↔ entry.2 ≤ other.2) := by
    apply indices.imp
    intro first second before entry isEntry other isOther
    rw [Precedes, planner.ledgerOf_eligible isEntry, planner.ledgerOf_eligible isOther,
      Option.getD_some, Option.getD_some]
    omega
  have sorted := StableSort.filterMap_insertionSort agree
  rw [entries, ordered, List.filterMap_map, Function.comp_def, sorted]
  congr 1
  rw [entries, ← List.zipIdx_map_fst 0 events, List.filterMap_map, List.zipIdx_map_fst]
  rfl

theorem entries_ordered (events : List (SourceEvent Payload)) :
    (planner.entries (ordered events)).Pairwise fun first second => first.2 ≤ second.2 := by
  have total : Std.Total fun first second : JsString × Int => first.2 ≤ second.2 :=
    ⟨fun first second => le_total first.2 second.2⟩
  have trans : IsTrans (JsString × Int) fun first second => first.2 ≤ second.2 :=
    ⟨fun _ _ _ => le_trans⟩
  rw [entries_insertionSort]
  exact List.pairwise_insertionSort _ _

theorem entries_perm (same : events.Perm others) :
    (planner.entries (ordered events)).Perm (planner.entries (ordered others)) :=
  ((ordered_perm events).trans (same.trans (ordered_perm others).symm)).filterMap _

theorem ordered_cons (event : SourceEvent Payload) (rest : List (SourceEvent Payload)) :
    ∃ front back, ordered (event :: rest) = front ++ event :: back ∧
      ∀ other ∈ front, (ledgerOf other).getD 0 < (ledgerOf event).getD 0 := by
  rw [ordered, List.zipIdx_cons, List.insertionSort_cons_eq_take_drop, List.map_append,
    List.map_cons]
  refine ⟨_, _, rfl, ?_⟩
  intro other inside
  rcases List.mem_map.mp inside with ⟨⟨later, index⟩, taken, rfl⟩
  have behind : ¬ Precedes (event, 0) (later, index) := by
    simpa using List.mem_takeWhile_imp taken
  rw [Precedes] at behind
  dsimp only at behind ⊢
  omega

theorem later (ledger : Int) : ledger ≤ planner.deadline ledger := by
  rw [deadline]
  omega

structure SameSets (first second : PlanResult) : Prop where
  decisions : ∀ decision, decision ∈ first.decisions ↔ decision ∈ second.decisions
  skipped : ∀ skip, skip ∈ first.skipped ↔ skip ∈ second.skipped

def Unambiguous (events : List (SourceEvent Payload)) : Prop :=
  Cooldown.Unambiguous planner.deadline (planner.entries events)

theorem unambiguous_ordered (events : List (SourceEvent Payload)) :
    Cooldown.Unambiguous planner.deadline (planner.entries (ordered events)) ↔
      planner.Unambiguous events :=
  Cooldown.unambiguous_congr ((ordered_perm events).filterMap _)

theorem plan_decisions (events : List (SourceEvent Payload)) :
    (planner.plan events).decisions =
      (Cooldown.opened planner.deadline none
        (Cooldown.firsts [] (planner.entries (ordered events)))).map planner.decision := by
  rw [plan, (planner.foldl_consider (ordered events) .initial).1]
  rfl

/-- Without an ambiguous ledger the order of delivery changes neither the decisions nor,
up to order, the skips. -/
theorem plan_perm (unambiguous : planner.Unambiguous events) (same : events.Perm others) :
    (planner.plan events).decisions = (planner.plan others).decisions ∧
      (planner.plan events).skipped.Perm (planner.plan others).skipped := by
  have entries := planner.entries_perm same
  have sorted := planner.entries_ordered events
  have sortedToo := planner.entries_ordered others
  rw [← unambiguous_ordered] at unambiguous
  constructor
  · rw [plan_decisions, plan_decisions,
      Cooldown.opened_eq planner.later unambiguous entries sorted sortedToo]
  · refine (planner.foldl_consider (ordered events) .initial).2.trans
      (List.Perm.trans ?_ (planner.foldl_consider (ordered others) .initial).2.symm)
    apply List.Perm.append_left
    apply List.Perm.append
    · exact ((ordered_perm events).trans (same.trans (ordered_perm others).symm)).filterMap _
    · apply List.Perm.append
      · exact (Cooldown.repeats_perm entries sorted sortedToo).map _
      · exact (Cooldown.passed_perm planner.later unambiguous entries sorted sortedToo).map _

theorem front_decides {rest : List (SourceEvent Payload)}
    (isEntry : planner.eligible event = some (identity, ledger))
    (first : Cooldown.FirstAt (planner.entries (ordered (event :: rest))) (identity, ledger))
    (opens : ledger ∈ Cooldown.openings planner.deadline none
      (Cooldown.firstTimes (planner.entries (ordered (event :: rest))))) :
    (identity, ledger) ∈ Cooldown.opened planner.deadline none
      (Cooldown.firsts [] (planner.entries (ordered (event :: rest)))) := by
  have sorted := planner.entries_ordered (event :: rest)
  rcases ordered_cons event rest with ⟨front, back, split, before⟩
  have cut : planner.entries (ordered (event :: rest)) =
      planner.entries front ++ (identity, ledger) :: planner.entries back := by
    rw [split, entries, List.filterMap_append, List.filterMap_cons, isEntry]
    rfl
  rw [cut] at first opens sorted ⊢
  apply Cooldown.mem_opened planner.later sorted _ first opens
  intro entry inside
  rcases List.mem_filterMap.mp inside with ⟨other, inFront, isOther⟩
  have earlier := before other inFront
  rw [planner.ledgerOf_eligible isEntry, planner.ledgerOf_eligible isOther] at earlier
  exact earlier

theorem decision_injective {first second : JsString × Int}
    (same : planner.decision first = planner.decision second) : first = second :=
  Prod.ext (congrArg FireDecision.conditionEventId same)
    (congrArg FireDecision.conditionLedger same)

theorem exists_order
    (first : Cooldown.FirstAt (planner.entries (ordered events)) (identity, ledger))
    (opens : ledger ∈ Cooldown.openings planner.deadline none
      (Cooldown.firstTimes (planner.entries (ordered events)))) :
    ∃ others, events.Perm others ∧
      planner.decision (identity, ledger) ∈ (planner.plan others).decisions := by
  rcases List.mem_filterMap.mp first.1 with ⟨event, inside, isEntry⟩
  rcases List.append_of_mem ((ordered_perm events).mem_iff.mp inside) with ⟨front, back, rfl⟩
  have moved : (front ++ event :: back).Perm (event :: (front ++ back)) := List.perm_middle
  refine ⟨_, moved, ?_⟩
  have entries := planner.entries_perm moved
  rw [plan_decisions]
  apply List.mem_map_of_mem
  apply planner.front_decides isEntry
  · exact (Cooldown.firstAt_congr entries _).mp first
  · rw [Cooldown.firstTimes_congr entries] at opens
    exact opens

/-- The plan is the same, as sets, for every order of the batch exactly when every ledger
that opens a window has one new identity. -/
theorem plan_order_independent_iff (events : List (SourceEvent Payload)) :
    (∀ others, events.Perm others →
      SameSets (planner.plan events) (planner.plan others)) ↔ planner.Unambiguous events := by
  constructor
  · rw [← unambiguous_ordered]
    intro independent ledger opens first second isFirst isSecond
    have decides : ∀ {identity}, Cooldown.FirstAt (planner.entries (ordered events))
        (identity, ledger) → (identity, ledger) ∈ Cooldown.opened planner.deadline none
          (Cooldown.firsts [] (planner.entries (ordered events))) := by
      intro identity isNew
      rcases planner.exists_order isNew opens with ⟨others, same, decided⟩
      have decidedToo := ((independent others same).decisions _).mpr decided
      rw [plan_decisions] at decidedToo
      rcases List.mem_map.mp decidedToo with ⟨entry, isOpened, equal⟩
      rw [← planner.decision_injective equal]
      exact isOpened
    exact Cooldown.opened_unique planner.later (planner.entries_ordered events)
      (decides isFirst) (decides isSecond)
  · intro unambiguous others same
    rcases planner.plan_perm unambiguous same with ⟨decisions, skipped⟩
    constructor
    · intro decision
      rw [decisions]
    · exact fun skip => skipped.mem_iff

/-! ## Two events of one ledger -/

def exampleTrigger : EventTriggerPlanner Unit where
  definition := {
    workerId := js "w"
    latencyBoundLedgers := 10
    activationLedger := 0
    named := by decide
    bounded := by decide }
  predicate := fun _ => true

def exampleEvent (eventId : String) (ledger : Int) : SourceEvent Unit where
  eventId := some (js eventId)
  txHash := none
  ledger := .finite ledger
  payload := ()

/-- The event that comes first opens the window of the ledger. -/
theorem same_ledger_order :
    ¬ ∀ (planner : EventTriggerPlanner Unit) (events others : List (SourceEvent Unit)),
      events.Perm others → SameSets (planner.plan events) (planner.plan others) := by
  intro independent
  have same := (independent exampleTrigger [exampleEvent "a" 5, exampleEvent "b" 5]
    [exampleEvent "b" 5, exampleEvent "a" 5] (List.Perm.swap _ _ _)).decisions
      (exampleTrigger.decision (js "a", 5))
  revert same
  decide

end EventTriggerPlanner

end Orbital.WorkerCore.EventTrigger
