import Orbital.WorkerCore.InvocationMatching

/-! # Event triggers over longer runs

Planning in batches, the verdicts of a run, and what becomes of a window in a longer one.
-/

/-! ## Batches of the planner in `eventTrigger.ts`

A live poller plans one batch of events after the other, and a replay plans them all at
once. The planner knows nothing of other batches, neither what it has seen nor the window
that is open.
-/

namespace Orbital.WorkerCore.EventTrigger

open Foundation

variable {Payload : Type}

def LedgerOrdered (events : List (SourceEvent Payload)) : Prop :=
  events.Pairwise fun first second =>
    ∀ ledger ∈ ledgerOf first, ∀ later ∈ ledgerOf second, ledger ≤ later

instance (events : List (SourceEvent Payload)) : Decidable (LedgerOrdered events) :=
  inferInstanceAs (Decidable (List.Pairwise _ _))

theorem LedgerOrdered.of_flatten {front rest : List (List (SourceEvent Payload))}
    {batch : List (SourceEvent Payload)}
    (sorted : LedgerOrdered (front ++ batch :: rest).flatten) : LedgerOrdered batch := by
  rw [List.flatten_append, List.flatten_cons] at sorted
  exact (List.pairwise_append.mp (List.pairwise_append.mp sorted).2.1).1

namespace EventTriggerPlanner

variable (planner : EventTriggerPlanner Payload)

variable {events : List (SourceEvent Payload)}

theorem entries_sorted (sorted : LedgerOrdered events) :
    planner.entries (ordered events) = planner.entries events := by
  rw [entries_insertionSort]
  apply List.Pairwise.insertionSort_eq
  apply List.Pairwise.filterMap _ _ sorted
  intro first second increases entry isEntry other isOther
  exact increases entry.2 (planner.ledgerOf_eligible isEntry) other.2
    (planner.ledgerOf_eligible isOther)

theorem plan_sorted (sorted : LedgerOrdered events) :
    (planner.plan events).decisions =
      (Cooldown.windows planner.deadline (planner.entries events)).map planner.decision := by
  rw [plan_decisions, planner.entries_sorted sorted]
  rfl

def planBatches (batches : List (List (SourceEvent Payload))) : List FireDecision :=
  batches.flatMap fun batch => (planner.plan batch).decisions

/-- No batch repeats the identity of an earlier event with an event that opens a window in
it, and none starts in the last window that the earlier events have opened. -/
def CutsApart (batches : List (List (SourceEvent Payload))) : Prop :=
  ∀ front batch rest, batches = front ++ batch :: rest →
    Cooldown.Apart planner.deadline (planner.entries front.flatten) (planner.entries batch)

theorem entries_flatten (batches : List (List (SourceEvent Payload))) :
    (batches.map planner.entries).flatten = planner.entries batches.flatten := by
  rw [entries, List.filterMap_flatten]
  rfl

theorem cutsApart_iff {batches : List (List (SourceEvent Payload))} :
    planner.CutsApart batches ↔
      ∀ front batch rest, batches.map planner.entries = front ++ batch :: rest →
        Cooldown.Apart planner.deadline front.flatten batch := by
  constructor
  · intro apart front batch rest split
    rcases List.map_eq_append_iff.mp split with ⟨frontToo, later, rfl, rfl, isLater⟩
    rcases List.map_eq_cons_iff.mp isLater with ⟨batchToo, restToo, rfl, rfl, rfl⟩
    rw [entries_flatten]
    exact apart frontToo batchToo restToo rfl
  · intro apart front batch rest split
    rw [← entries_flatten]
    apply apart (front.map planner.entries) (planner.entries batch) (rest.map planner.entries)
    rw [split, List.map_append, List.map_cons]

/-- For events in the order of their ledgers, planning batch by batch decides what planning
the whole decides if and only if the batches are cut apart. -/
theorem planBatches_eq_plan_iff {batches : List (List (SourceEvent Payload))}
    (sorted : LedgerOrdered batches.flatten) :
    planner.planBatches batches = (planner.plan batches.flatten).decisions ↔
      planner.CutsApart batches := by
  have each : planner.planBatches batches =
      ((batches.map planner.entries).flatMap (Cooldown.windows planner.deadline)).map
        planner.decision := by
    rw [planBatches, List.flatMap_map, List.map_flatMap]
    apply List.flatMap_congr
    intro batch inside
    rcases List.append_of_mem inside with ⟨front, rest, split⟩
    rw [split] at sorted
    exact planner.plan_sorted sorted.of_flatten
  have increasing : (batches.map planner.entries).flatten.Pairwise fun first second =>
      first.2 ≤ second.2 := by
    rw [entries_flatten, ← planner.entries_sorted sorted]
    exact planner.entries_ordered batches.flatten
  rw [each, planner.plan_sorted sorted, ← entries_flatten,
    (List.map_injective_iff.mpr fun _ _ => planner.decision_injective).eq_iff,
    Cooldown.flatMap_windows_iff increasing, cutsApart_iff]

/-! ## A cut within a window -/

/-- The event of the second batch falls into the window of the first, which the poller does
not know. -/
theorem cut_within_window :
    ¬ ∀ (planner : EventTriggerPlanner Unit) (batches : List (List (SourceEvent Unit))),
      LedgerOrdered batches.flatten →
        planner.planBatches batches = (planner.plan batches.flatten).decisions := by
  intro same
  have runs := same exampleTrigger [[exampleEvent "a" 5], [exampleEvent "b" 8]] (by decide)
  revert runs
  decide

/-- A batch that starts behind the window of the first is cut apart. -/
theorem cut_behind_window :
    exampleTrigger.planBatches [[exampleEvent "a" 5], [exampleEvent "b" 16]] =
        (exampleTrigger.plan [exampleEvent "a" 5, exampleEvent "b" 16]).decisions ↔
      exampleTrigger.CutsApart [[exampleEvent "a" 5], [exampleEvent "b" 16]] :=
  exampleTrigger.planBatches_eq_plan_iff (by decide)

end EventTriggerPlanner

end Orbital.WorkerCore.EventTrigger

/-! ## `verifyEventTrigger` of `WorkerVerificationEngine.ts`

The planner decides on the windows, and each of them is matched with the invocations. A
plan that goes on to a later ledger begins with the plan up to an earlier one.
-/

namespace Orbital.WorkerCore.EventTrigger

open Foundation Foundation.StableSort
open ComputationTrigger (Window WorkerDefinition InvocationEvent WorkerFireVerdict resolveWindow)

variable {Payload : Type}

/-- What a decision tells `resolveWindow`. -/
def FireDecision.window (decision : FireDecision) : Window where
  windowId := decision.windowId
  workerId := decision.workerId
  conditionLedger := decision.conditionLedger
  deadlineLedger := decision.deadlineLedger

def verifyEventTrigger (worker : WorkerDefinition) (planner : EventTriggerPlanner Payload)
    (conditionEvents : List (SourceEvent Payload)) (invocationEvents : List InvocationEvent)
    (toLedger horizon : Int) : Except JsString (List WorkerFireVerdict) :=
  if worker.trigger ≠ .event then
    .error (js "verifyEventTrigger called with a \"" ++ worker.trigger.text ++
      js "\" trigger")
  else
    .ok ((planner.plan conditionEvents).decisions.map fun decision =>
      resolveWindow worker invocationEvents toLedger horizon decision.window)

/-- What has no ledger belongs to every run. -/
def LedgerField.within (toLedger : Int) : LedgerField → Bool
  | .finite ledger => ledger ≤ toLedger
  | _ => true

def eventsUpTo (toLedger : Int) (events : List (SourceEvent Payload)) :
    List (SourceEvent Payload) :=
  events.filter fun event => event.ledger.within toLedger

namespace EventTriggerPlanner

variable (planner : EventTriggerPlanner Payload)

theorem entries_upTo (toLedger : Int) (events : List (SourceEvent Payload)) :
    planner.entries (eventsUpTo toLedger events) =
      (planner.entries events).filter fun entry => entry.2 ≤ toLedger := by
  rw [entries, eventsUpTo, entries, List.filterMap_filter, List.filter_filterMap]
  apply List.filterMap_congr
  intro event _
  cases isEntry : planner.eligible event with
  | none => simp
  | some entry =>
      have hasLedger := planner.ledgerOf_eligible isEntry
      rw [ledgerOf] at hasLedger
      split at hasLedger
      · rename_i ledger isLedger
        cases hasLedger
        simp [isLedger, LedgerField.within, Option.filter]
      · cases hasLedger

theorem decisions_upTo (toLedger : Int) (events : List (SourceEvent Payload)) :
    ∃ more, (planner.plan events).decisions =
      (planner.plan (eventsUpTo toLedger events)).decisions ++ more := by
  have byLedger : ByLevel (fun first second : JsString × Int => first.2 ≤ second.2) Prod.snd := {
    below := le_of_lt
    above := not_le.mpr }
  rcases insertionSort_upTo byLedger toLedger (planner.entries events) with ⟨rest, sorted, _⟩
  rw [plan_decisions, plan_decisions, entries_insertionSort, entries_insertionSort, entries_upTo,
    sorted, Cooldown.firsts_append_keys, Cooldown.opened_append, List.map_append]
  exact ⟨_, rfl⟩

theorem eq_of_windowId {events : List (SourceEvent Payload)} {first second : FireDecision}
    (member : first ∈ (planner.plan events).decisions)
    (memberToo : second ∈ (planner.plan events).decisions)
    (same : first.windowId = second.windowId) : first = second := by
  rw [plan_decisions] at member memberToo
  rcases List.mem_map.mp member with ⟨entry, inside, rfl⟩
  rcases List.mem_map.mp memberToo with ⟨other, insideToo, rfl⟩
  have keys : entry.1 = other.1 := List.append_cancel_left same
  have equal := List.inj_on_of_nodup_map (Cooldown.nodup_keys_firsts [] _)
    ((Cooldown.opened_sublist _ _ _).subset inside)
    ((Cooldown.opened_sublist _ _ _).subset insideToo) keys
  rw [equal]

end EventTriggerPlanner

end Orbital.WorkerCore.EventTrigger

/-! ## A window in a longer run

A run that goes on to a later ledger sees more invocations. `resolveWindow` has no upper
bound for the invocations of a window, so that they can change its verdict.
-/

namespace Orbital.WorkerCore.ComputationTrigger

open Foundation
open EventTrigger (LedgerField)

def invocationsUpTo (toLedger : Int) (events : List InvocationEvent) : List InvocationEvent :=
  events.filter fun event => event.ledger.within toLedger

section Window

variable (worker : WorkerDefinition) (window : Window) (events : List InvocationEvent)

def SucceededBy (toLedger : Int) : Prop :=
  ∃ event ∈ events, ∃ ledger ∈ success? worker window event, ledger ≤ toLedger

def SucceededAfter (toLedger : Int) : Prop :=
  ∃ event ∈ events, ∃ ledger ∈ success? worker window event, toLedger < ledger

def RejectedBy (toLedger : Int) : Prop :=
  ∃ event ∈ events, ∃ ledger ∈ rejection? worker window event, ledger ≤ toLedger

def RejectedAfter (toLedger : Int) : Prop :=
  ∃ event ∈ events, ∃ ledger ∈ rejection? worker window event, toLedger < ledger

/-- Up to the ledger the worker has succeeded, or it does not succeed behind it and an
attempt behind it is not the first to be rejected. -/
def Settled (toLedger : Int) : Prop :=
  SucceededBy worker window events toLedger ∨
    (¬SucceededAfter worker window events toLedger ∧
      (RejectedBy worker window events toLedger ∨
        ¬RejectedAfter worker window events toLedger))

variable {worker window events} {toLedger : Int}

variable {event : InvocationEvent} {ledger : Int}

theorem attempt?_ledger (attempted : attempt? worker window event = some ledger) :
    event.ledger = .finite ledger := by
  rw [attempt?] at attempted
  split at attempted
  · cases isLedger : event.ledger with
    | finite found =>
        rw [isLedger] at attempted
        dsimp only at attempted
        split at attempted
        · cases attempted
        · cases attempted
          rfl
    | missing | other text =>
        rw [isLedger] at attempted
        cases attempted
  · cases attempted

theorem success?_ledger (succeeded : success? worker window event = some ledger) :
    event.ledger = .finite ledger := by
  rw [success?] at succeeded
  split at succeeded
  · cases succeeded
  · exact attempt?_ledger succeeded

theorem rejection?_ledger (rejected : rejection? worker window event = some ledger) :
    event.ledger = .finite ledger := by
  rw [rejection?] at rejected
  split at rejected
  · exact attempt?_ledger rejected
  · cases rejected

theorem successes_upTo :
    successes worker window (invocationsUpTo toLedger events) =
      (successes worker window events).filter fun success => success.1 ≤ toLedger := by
  rw [successes, successes, invocationsUpTo, List.filterMap_filter, List.filter_filterMap]
  apply List.filterMap_congr
  intro event _
  cases succeeded : success? worker window event with
  | none => simp
  | some ledger => simp [success?_ledger succeeded, LedgerField.within, Option.filter]

theorem anyRejected_upTo :
    anyRejected worker window (invocationsUpTo toLedger events) = true ↔
      RejectedBy worker window events toLedger := by
  rw [anyRejected, List.any_eq_true, RejectedBy]
  constructor
  · rintro ⟨event, member, some'⟩
    rcases List.mem_filter.mp member with ⟨inside, within⟩
    rcases Option.isSome_iff_exists.mp some' with ⟨ledger, rejected⟩
    rw [rejection?_ledger rejected] at within
    exact ⟨event, inside, ledger, rejected, of_decide_eq_true within⟩
  · rintro ⟨event, inside, ledger, rejected, within⟩
    refine ⟨event, List.mem_filter.mpr ⟨inside, ?_⟩, Option.isSome_iff_exists.mpr ⟨_, rejected⟩⟩
    rw [rejection?_ledger rejected]
    exact decide_eq_true within

theorem anyRejected_iff :
    anyRejected worker window events = true ↔
      RejectedBy worker window events toLedger ∨ RejectedAfter worker window events toLedger := by
  rw [anyRejected, List.any_eq_true]
  constructor
  · rintro ⟨event, inside, some'⟩
    rcases Option.isSome_iff_exists.mp some' with ⟨ledger, rejected⟩
    rcases le_or_gt ledger toLedger with within | behind
    · exact Or.inl ⟨event, inside, ledger, rejected, within⟩
    · exact Or.inr ⟨event, inside, ledger, rejected, behind⟩
  · rintro (⟨event, inside, ledger, rejected, _⟩ | ⟨event, inside, ledger, rejected, _⟩)
    · exact ⟨event, inside, Option.isSome_iff_exists.mpr ⟨ledger, rejected⟩⟩
    · exact ⟨event, inside, Option.isSome_iff_exists.mpr ⟨ledger, rejected⟩⟩

theorem wins_earlier {Tag : Type} (toLedger : Int) :
    Wins (@earlier Tag) fun success => success.1 ≤ toLedger := by
  intro first second within behind
  have isWithin : first.1 ≤ toLedger := of_decide_eq_true within
  have isBehind : ¬second.1 ≤ toLedger := of_decide_eq_false behind
  rw [earlier, earlier]
  constructor
  · exact decide_eq_true (by omega)
  · exact decide_eq_false (by omega)

/-- A window that is not pending keeps its verdict in a longer run exactly if it is settled. -/
theorem resolveWindow_upTo_iff {horizon later : Int} (longer : toLedger ≤ later)
    (decided : horizon ≤ toLedger - window.deadlineLedger) :
    resolveWindow worker events later horizon window =
        resolveWindow worker (invocationsUpTo toLedger events) toLedger horizon window ↔
      Settled worker window events toLedger := by
  have notPending : ¬toLedger - window.deadlineLedger < horizon := not_lt.mpr decided
  have stillNot : ¬later - window.deadlineLedger < horizon := by omega
  rw [resolveWindow_eq, resolveWindow_eq, if_neg notPending, if_neg stillNot, successes_upTo]
  by_cases succeeded : SucceededBy worker window events toLedger
  · have member : ∃ success ∈ successes worker window events,
        decide (success.1 ≤ toLedger) = true := by
      rcases succeeded with ⟨event, inside, ledger, isLedger, within⟩
      exact ⟨(ledger, event.txHash), mem_successes.mpr ⟨event, inside, isLedger, rfl⟩,
        decide_eq_true within⟩
    rw [pick_filter (wins_earlier toLedger) member]
    cases found : pick earlier ((successes worker window events).filter fun success =>
        success.1 ≤ toLedger) with
    | none =>
        rcases member with ⟨success, inside, within⟩
        have kept : success ∈ (successes worker window events).filter fun success =>
            success.1 ≤ toLedger := List.mem_filter.mpr ⟨inside, within⟩
        rw [pick_eq_none.mp found] at kept
        cases kept
    | some best => exact iff_of_true rfl (Or.inl succeeded)
  · -- up to the ledger there is no success, so that the run ends with a refusal or nothing
    have empty : ((successes worker window events).filter fun success =>
        success.1 ≤ toLedger) = [] := by
      apply List.filter_eq_nil_iff.mpr
      intro success inside within
      rcases mem_successes.mp inside with ⟨event, member, isLedger, _⟩
      exact succeeded ⟨event, member, success.1, isLedger, of_decide_eq_true within⟩
    have none' : pick earlier ([] : List (Int × Option JsString)) = none := rfl
    rw [empty, none', Settled, or_iff_right succeeded]
    dsimp only
    cases found : pick earlier (successes worker window events) with
    | none =>
        have noneAfter : ¬SucceededAfter worker window events toLedger := by
          rintro ⟨event, member, ledger, isLedger, _⟩
          have inside : (ledger, event.txHash) ∈ successes worker window events :=
            mem_successes.mpr ⟨event, member, isLedger, rfl⟩
          rw [pick_eq_none.mp found] at inside
          cases inside
        rw [and_iff_right noneAfter]
        dsimp only
        by_cases before : RejectedBy worker window events toLedger
        · rw [if_pos (anyRejected_upTo.mpr before), if_pos (anyRejected_iff.mpr (Or.inl before))]
          exact iff_of_true rfl (Or.inl before)
        · rw [if_neg (mt anyRejected_upTo.mp before), or_iff_right before]
          by_cases after : RejectedAfter worker window events toLedger
          · rw [if_pos (anyRejected_iff.mpr (Or.inr after))]
            exact iff_of_false (fun same => by cases same) (not_not_intro after)
          · have never : ¬anyRejected worker window events = true :=
              fun rejected => (anyRejected_iff.mp rejected).elim before after
            rw [if_neg never]
            exact iff_of_true rfl after
    | some best =>
        have inside := (pick_spec compares_earlier found).1
        rcases mem_successes.mp inside with ⟨event, member, isLedger, _⟩
        have behind : toLedger < best.1 := by
          apply lt_of_not_ge
          exact fun within => succeeded ⟨event, member, best.1, isLedger, within⟩
        have after : SucceededAfter worker window events toLedger :=
          ⟨event, member, best.1, isLedger, behind⟩
        apply iff_of_false
        · intro same
          have status := congrArg WorkerFireVerdict.status same
          dsimp only at status
          split at status <;> split at status <;> cases status
        · exact fun settled => settled.1 after

end Window

end Orbital.WorkerCore.ComputationTrigger
