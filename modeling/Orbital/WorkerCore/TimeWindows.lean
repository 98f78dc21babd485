import Orbital.Foundation.Intervals
import Orbital.WorkerCore.ComputationVerdicts
import Orbital.WorkerCore.WindowIdentity

/-! # Time triggers

The schedule by which a worker fires, and the windows by which it is verified.
-/

/-! ## `worker-core/src/schedule.ts` and `TriggerEvaluator.ts`

The due times of a schedule and the worker that fires at them. Dates are milliseconds. What
a cron expression means is up to the parser.
-/

namespace Orbital.WorkerCore.TimeTrigger

open Foundation

/-- `cron-parser`: the first instant behind a date that an expression names in a zone. -/
structure CronParser where
  next : JsString → JsString → Int → Int
  later : ∀ expression timezone after, after < next expression timezone after
  fixed : ∀ expression timezone, Recurrence.Fixed (next expression timezone)

inductive Schedule
  | interval (everyMs : Int) (positive : 0 < everyMs)
  | cron (expression timezone : JsString)

abbrev NextLedgerCloseTime :=
  Int → Int

section DueTimes

variable (parser : CronParser)

def Schedule.next : Schedule → Int → Int
  | .interval everyMs _ => (· + everyMs)
  | .cron expression timezone => parser.next expression timezone

variable (schedule : Schedule)

def aligned (nextLedgerCloseTime : Option NextLedgerCloseTime) (time : Int) : Int :=
  match nextLedgerCloseTime with
  | some next => next time
  | none => time

def nextDue (after : Int) (nextLedgerCloseTime : Option NextLedgerCloseTime) : Int :=
  aligned nextLedgerCloseTime (schedule.next parser after)

/-- The loop over the nominal times. A round leads to a later time, so that the milliseconds
that are left bound the number of rounds. -/
def dueTimesFrom (limit : Int) (nextLedgerCloseTime : Option NextLedgerCloseTime) :
    Nat → Int → List Int → List Int
  | 0, _, _ => []
  | rounds + 1, current, seen =>
      if current ≤ limit then
        let due := aligned nextLedgerCloseTime current
        if limit < due then []
        else if due ∈ seen then
          dueTimesFrom limit nextLedgerCloseTime rounds (schedule.next parser current) seen
        else
          due :: dueTimesFrom limit nextLedgerCloseTime rounds (schedule.next parser current)
            (due :: seen)
      else []

def dueTimesBetween (after limit : Int) (nextLedgerCloseTime : Option NextLedgerCloseTime) :
    List Int :=
  if limit ≤ after then []
  else
    dueTimesFrom parser schedule limit nextLedgerCloseTime (limit - after).toNat
      (schedule.next parser after) []

def IsDue (start time : Int) : Prop :=
  Recurrence.Due (schedule.next parser) start time

theorem next_later (time : Int) : time < schedule.next parser time := by
  cases schedule with
  | interval everyMs positive => exact Int.lt_add_of_pos_right time positive
  | cron expression timezone => exact parser.later expression timezone time

variable {limit current : Int} {seen : List Int}

theorem dueTimesFrom_succ (rounds : Nat) (within : current ≤ limit)
    (past : ∀ time ∈ seen, time < current) :
    dueTimesFrom parser schedule limit none (rounds + 1) current seen =
      current :: dueTimesFrom parser schedule limit none rounds (schedule.next parser current)
        (current :: seen) := by
  have isNew : current ∉ seen := fun member => lt_irrefl _ (past current member)
  rw [dueTimesFrom, if_pos within]
  dsimp only [aligned]
  rw [if_neg (not_lt.mpr within), if_neg isNew]

theorem past_next (past : ∀ time ∈ seen, time < current) :
    ∀ time ∈ current :: seen, time < schedule.next parser current := by
  have ahead := next_later parser schedule current
  intro time member
  rcases List.mem_cons.mp member with rfl | before
  · exact ahead
  · exact lt_trans (past time before) ahead

theorem enough_next {rounds : Nat} (enough : limit < current + (rounds + 1 : Nat)) :
    limit < schedule.next parser current + rounds := by
  have ahead := next_later parser schedule current
  push_cast at enough
  omega

theorem mem_dueTimesFrom (rounds : Nat) (enough : limit < current + rounds)
    (past : ∀ time ∈ seen, time < current) (time : Int) :
    time ∈ dueTimesFrom parser schedule limit none rounds current seen ↔
      (time = current ∨ IsDue parser schedule current time) ∧ time ≤ limit := by
  have later := next_later parser schedule
  induction rounds generalizing current seen with
  | zero =>
      apply iff_of_false List.not_mem_nil
      rintro ⟨rfl | due, within⟩
      · omega
      · have behind := Recurrence.lt_of_due later due
        omega
  | succ rounds induction =>
      by_cases within : current ≤ limit
      · have rest := induction (enough_next parser schedule enough)
          (past_next parser schedule past)
        rw [dueTimesFrom_succ parser schedule rounds within past, List.mem_cons]
        apply (or_congr_right rest).trans
        rw [IsDue, IsDue, Recurrence.due_iff_next current]
        constructor
        · rintro (rfl | ⟨due, isWithin⟩)
          · exact ⟨Or.inl rfl, within⟩
          · exact ⟨Or.inr due, isWithin⟩
        · rintro ⟨rfl | due, isWithin⟩
          · exact Or.inl rfl
          · exact Or.inr ⟨due, isWithin⟩
      · rw [dueTimesFrom, if_neg within]
        apply iff_of_false List.not_mem_nil
        rintro ⟨rfl | due, isWithin⟩
        · exact within isWithin
        · exact within (le_trans (le_of_lt (Recurrence.lt_of_due later due)) isWithin)

theorem mem_dueTimesBetween {after time : Int} :
    time ∈ dueTimesBetween parser schedule after limit none ↔
      IsDue parser schedule after time ∧ time ≤ limit := by
  have later := next_later parser schedule
  rw [dueTimesBetween]
  split
  · rename_i empty
    apply iff_of_false List.not_mem_nil
    rintro ⟨due, within⟩
    exact absurd (Recurrence.lt_of_due later due) (not_lt.mpr (le_trans within empty))
  · have ahead := later after
    rw [mem_dueTimesFrom parser schedule _ (by omega) (fun _ none => by cases none), IsDue, IsDue,
      Recurrence.due_iff_next after]

theorem dueTimesFrom_increasing (rounds : Nat) (enough : limit < current + rounds)
    (past : ∀ time ∈ seen, time < current) :
    (dueTimesFrom parser schedule limit none rounds current seen).Pairwise (· < ·) := by
  induction rounds generalizing current seen with
  | zero => exact .nil
  | succ rounds induction =>
      by_cases within : current ≤ limit
      · have enoughToo := enough_next parser schedule enough
        have pastToo := past_next parser schedule past
        rw [dueTimesFrom_succ parser schedule rounds within past, List.pairwise_cons]
        refine ⟨?_, induction enoughToo pastToo⟩
        intro time member
        have ahead := next_later parser schedule current
        rcases (mem_dueTimesFrom parser schedule rounds enoughToo pastToo time).mp member with
          ⟨rfl | due, _⟩
        · exact ahead
        · exact lt_trans ahead (Recurrence.lt_of_due (next_later parser schedule) due)
      · rw [dueTimesFrom, if_neg within]
        exact .nil

theorem dueTimesBetween_increasing (after limit : Int) :
    (dueTimesBetween parser schedule after limit none).Pairwise (· < ·) := by
  rw [dueTimesBetween]
  split
  · exact .nil
  · have ahead := next_later parser schedule after
    exact dueTimesFrom_increasing parser schedule _ (by omega) fun _ none => by cases none

end DueTimes

/-! ## The worker -/

inductive CatchUpPolicy
  | fireOnce
  | fireAll
  deriving DecidableEq

structure WorkerState where
  id : JsString
  schedule : Schedule
  anchorAt : Int
  lastFiredAt : Option Int
  catchUpPolicy : Option CatchUpPolicy

structure FireDecision where
  workerId : JsString
  fireTimes : List Int
  deriving DecidableEq

def evaluate (parser : CronParser) (worker : WorkerState) (ledgerCloseTime : Int) :
    Option FireDecision :=
  let start := worker.lastFiredAt.getD worker.anchorAt
  let dueTimes := dueTimesBetween parser worker.schedule start ledgerCloseTime none
  if dueTimes.isEmpty then none
  else
    match worker.catchUpPolicy.getD .fireOnce with
    | .fireOnce => some ⟨worker.id, [ledgerCloseTime]⟩
    | .fireAll => some ⟨worker.id, dueTimes⟩

end Orbital.WorkerCore.TimeTrigger

/-! ## `verifyTimeTrigger` of `WorkerVerificationEngine.ts`

The due times of a range of ledgers are mapped to ledgers, and each of them opens a window.
-/

namespace Orbital.WorkerCore.TimeTrigger

open Foundation
open ComputationTrigger
open Fires (timeWindow)

structure ArrayLedgerCloseTimeIndex where
  sorted : List (Int × Int)
  ordered : sorted.Pairwise fun first second => first.1 ≤ second.1

namespace ArrayLedgerCloseTimeIndex

def ofEntries (entries : List (Int × Int)) : ArrayLedgerCloseTimeIndex where
  sorted := entries.insertionSort fun first second => first.1 ≤ second.1
  ordered := by
    have total : Std.Total fun first second : Int × Int => first.1 ≤ second.1 :=
      ⟨fun first second => le_total first.1 second.1⟩
    have trans : IsTrans (Int × Int) fun first second => first.1 ≤ second.1 :=
      ⟨fun _ _ _ => le_trans⟩
    exact List.pairwise_insertionSort _ entries

variable (index : ArrayLedgerCloseTimeIndex)

def closeTimeOfLedger (ledger : Int) : Option Int :=
  (index.sorted.find? fun entry => entry.1 = ledger).map Prod.snd

def firstLedgerAtOrAfter (time : Int) : Option Int :=
  (index.sorted.find? fun entry => time ≤ entry.2).map Prod.fst

def Nondecreasing : Prop :=
  ∀ first ∈ index.sorted, ∀ second ∈ index.sorted, first.1 ≤ second.1 → first.2 ≤ second.2

instance : Decidable index.Nondecreasing :=
  inferInstanceAs (Decidable (∀ _ ∈ _, _))

variable {index}

theorem mem_of_closeTime {ledger close : Int}
    (closes : index.closeTimeOfLedger ledger = some close) : (ledger, close) ∈ index.sorted := by
  rcases Option.map_eq_some_iff.mp closes with ⟨entry, found, rfl⟩
  have isLedger : entry.1 = ledger := by simpa using List.find?_some found
  rw [← isLedger]
  exact List.mem_of_find?_eq_some found

theorem firstLedger_le {ledger close time : Int} (covered : (ledger, close) ∈ index.sorted)
    (within : time ≤ close) :
    ∃ first, index.firstLedgerAtOrAfter time = some first ∧ first ≤ ledger := by
  rcases index with ⟨sorted, ordered⟩
  dsimp only [firstLedgerAtOrAfter] at covered ⊢
  induction sorted with
  | nil => cases covered
  | cons entry rest induction =>
      rcases List.pairwise_cons.mp ordered with ⟨before, orderedRest⟩
      rw [List.find?_cons]
      by_cases reached : time ≤ entry.2
      · rw [decide_eq_true reached]
        refine ⟨entry.1, rfl, ?_⟩
        rcases List.mem_cons.mp covered with rfl | later
        · exact le_refl _
        · exact before _ later
      · rw [decide_eq_false reached]
        rcases List.mem_cons.mp covered with rfl | later
        · exact absurd within reached
        · exact induction orderedRest later

theorem mem_of_firstLedger {time first : Int}
    (isFirst : index.firstLedgerAtOrAfter time = some first) :
    ∃ close, (first, close) ∈ index.sorted ∧ time ≤ close := by
  rcases Option.map_eq_some_iff.mp isFirst with ⟨entry, found, rfl⟩
  have reached : time ≤ entry.2 := by simpa using List.find?_some found
  exact ⟨entry.2, List.mem_of_find?_eq_some found, reached⟩

end ArrayLedgerCloseTimeIndex

structure TimeTriggerDefinition where
  id : JsString
  worker : WorkerDefinition
  schedule : Schedule

section Verify

variable (parser : CronParser) (definition : TimeTriggerDefinition)
  (index : ArrayLedgerCloseTimeIndex) (latencyBoundLedgers : Int)

def conditionLedgers (fromClose toClose toLedger : Int) : List Int :=
  (dueTimesBetween parser definition.schedule fromClose toClose none).filterMap fun due =>
    (index.firstLedgerAtOrAfter due).filter fun ledger => ledger ≤ toLedger

def windowsBetween (fromClose toClose toLedger : Int) : List Window :=
  (conditionLedgers parser definition index fromClose toClose toLedger).map fun ledger =>
    timeWindow definition.id ledger latencyBoundLedgers

def verifyTimeTrigger (events : List InvocationEvent) (fromLedger toLedger horizon : Int) :
    Except JsString (List WorkerFireVerdict) :=
  if definition.worker.trigger ≠ .time then
    .error (js "verifyTimeTrigger called with a \"" ++ definition.worker.trigger.text ++
      js "\" trigger")
  else
    match index.closeTimeOfLedger fromLedger, index.closeTimeOfLedger toLedger with
    | some fromClose, some toClose =>
        .ok ((windowsBetween parser definition index latencyBoundLedgers fromClose toClose
          toLedger).map (resolveWindow definition.worker events toLedger horizon))
    | _, _ =>
        .error
          (js "verifyTimeTrigger: ledgerCloseTimes does not cover the requested range's endpoints")

variable {parser definition index latencyBoundLedgers}

theorem mem_windowsBetween {fromClose toClose toLedger : Int}
    (covered : index.closeTimeOfLedger toLedger = some toClose) {window : Window} :
    window ∈ windowsBetween parser definition index latencyBoundLedgers fromClose toClose
        toLedger ↔
      ∃ time ledger, IsDue parser definition.schedule fromClose time ∧ time ≤ toClose ∧
        index.firstLedgerAtOrAfter time = some ledger ∧
        window = timeWindow definition.id ledger latencyBoundLedgers := by
  have entry := ArrayLedgerCloseTimeIndex.mem_of_closeTime covered
  rw [windowsBetween, conditionLedgers, List.mem_map]
  constructor
  · rintro ⟨ledger, member, rfl⟩
    rcases List.mem_filterMap.mp member with ⟨time, isDue, isFirst⟩
    rcases (mem_dueTimesBetween parser definition.schedule).mp isDue with ⟨due, within⟩
    exact ⟨time, ledger, due, within, (Option.filter_eq_some_iff.mp isFirst).1, rfl⟩
  · rintro ⟨time, ledger, due, within, isFirst, rfl⟩
    rcases ArrayLedgerCloseTimeIndex.firstLedger_le entry within with ⟨same, found, inRange⟩
    rw [isFirst] at found
    cases found
    refine ⟨ledger, List.mem_filterMap.mpr ⟨time, ?_, ?_⟩, rfl⟩
    · exact (mem_dueTimesBetween parser definition.schedule).mpr ⟨due, within⟩
    · exact Option.filter_eq_some_iff.mpr ⟨isFirst, decide_eq_true inRange⟩

end Verify

end Orbital.WorkerCore.TimeTrigger
