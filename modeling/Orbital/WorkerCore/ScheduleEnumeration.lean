import Mathlib.Algebra.Order.Ring.Abs
import Mathlib.Logic.Relation
import Orbital.Foundation.NumberText
import Orbital.WorkerCore.TimeRanges

/-! # `schedule.ts`: the due times of any schedule

An interval may be any number of milliseconds. The loop of `dueTimesBetween` adds it to a
date, which is cut off to whole milliseconds, and goes on from there: what was cut off is
lost for all dates that follow, and an interval below a millisecond leads nowhere.
-/

namespace Orbital.WorkerCore.ScheduleEnumeration

open Foundation
open TimeTrigger (CronParser)

inductive Schedule
  | interval (intervalMs : JsNumber)
  | cron (expression timezone : JsString)

def maxTime : Int :=
  8640000000000000

def IsDate (time : Int) : Prop :=
  |time| ≤ maxTime

instance (time : Int) : Decidable (IsDate time) :=
  inferInstanceAs (Decidable (|time| ≤ maxTime))

/-- The date at so many units of `2 ^ -places`, cut off towards zero; none for an invalid
date. -/
def dateAt (units : Int) : Option Int :=
  if |units| ≤ maxTime * 2 ^ places then some (units.tdiv (2 ^ places)) else none

/-- `new Date(value)`. -/
def newDate (value : JsNumber) : Option Int :=
  value.units.bind dateAt

def advance (parser : CronParser) : Schedule → Int → Option Int
  | .interval intervalMs, current => newDate (intervalMs.plus current)
  | .cron expression timezone, current => some (parser.next expression timezone current)

structure LedgerCloseTimes where
  next : Int → Int
  nondecreasing : ∀ {time later : Int}, time ≤ later → next time ≤ next later
  atOrAfter : ∀ time, time ≤ next time

def unaligned : LedgerCloseTimes where
  next := id
  nondecreasing := id
  atOrAfter _ := le_refl _

section Loop

variable (advance : Int → Option Int) (closes : LedgerCloseTimes) (limit : Int)

/-- The loop from a nominal time on; none when it has not ended after so many rounds. -/
def dueTimesFrom : Nat → Option Int → List Int → Option (List Int)
  | 0, _, _ => none
  | _ + 1, none, _ => some []
  | rounds + 1, some current, seen =>
      if current ≤ limit then
        let due := closes.next current
        if limit < due then some []
        else if due ∈ seen then dueTimesFrom rounds (advance current) seen
        else (dueTimesFrom rounds (advance current) (due :: seen)).map (due :: ·)
      else some []

def dueTimesBetween (rounds : Nat) (after : Int) : Option (List Int) :=
  if limit ≤ after then some [] else dueTimesFrom advance closes limit rounds (advance after) []

end Loop

/-! ## Due times -/

/-- An interval is due at each multiple of it behind the start, a cron expression at the times
it names. -/
def DueAt (parser : CronParser) : Schedule → Int → Int → Prop
  | .interval intervalMs, after, due => ∃ units, intervalMs.units = some units ∧
      ∃ count : Nat, 1 ≤ count ∧ dateAt (after * 2 ^ places + count * units) = some due
  | .cron expression timezone, _, due => ∃ time, parser.next expression timezone time = due

def Enumerates (parser : CronParser) (schedule : Schedule) (closes : LedgerCloseTimes)
    (after limit : Int) : Prop :=
  ∃ rounds times,
    dueTimesBetween (advance parser schedule) closes limit rounds after = some times ∧
      times.Pairwise (· < ·) ∧ ∀ time, time ∈ times ↔ ∃ due, DueAt parser schedule after due ∧
        after < due ∧ closes.next due = time ∧ time ≤ limit

/-- A cron schedule, or an interval that is no finite number, a whole number of milliseconds from
one on, or one that leads back beyond all dates. -/
def Steady : Schedule → Prop
  | .interval intervalMs => ∀ units, intervalMs.units = some units →
      ∃ whole : Int, units = whole * 2 ^ places ∧ (1 ≤ whole ∨ whole ≤ -(2 * maxTime))
  | .cron _ _ => True

/-! ## A loop that leads to later times -/

section Enumeration

variable {advance : Int → Option Int} {closes : LedgerCloseTimes} {limit time later due : Int}

def Chain (advance : Int → Option Int) : Int → Int → Prop :=
  Relation.TransGen fun time later => advance time = some later

theorem dueTimesFrom_late (late : limit < closes.next time) (rounds : Nat) (seen : List Int) :
    dueTimesFrom advance closes limit (rounds + 1) (some time) seen = some [] := by
  rw [dueTimesFrom]
  split
  · exact if_pos late
  · rfl

theorem dueTimesFrom_succ (inTime : closes.next time ≤ limit) (rounds : Nat) (seen : List Int) :
    dueTimesFrom advance closes limit (rounds + 1) (some time) seen =
      if closes.next time ∈ seen then dueTimesFrom advance closes limit rounds (advance time) seen
      else (dueTimesFrom advance closes limit rounds (advance time)
        (closes.next time :: seen)).map (closes.next time :: ·) := by
  have within : time ≤ limit := (closes.atOrAfter time).trans inTime
  rw [dueTimesFrom, if_pos within]
  exact if_neg (not_lt.mpr inTime)

theorem chain_iff (leads : advance time = some later) :
    Chain advance time due ↔ due = later ∨ Chain advance later due := by
  constructor
  · intro chain
    rcases Relation.TransGen.head'_iff.mp chain with ⟨next, first, rest⟩
    rw [leads, Option.some.injEq] at first
    subst first
    rcases Relation.reflTransGen_iff_eq_or_transGen.mp rest with same | behind
    · exact .inl same
    · exact .inr behind
  · rintro (rfl | behind)
    · exact .single leads
    · exact .head leads behind

theorem not_chain (ends : advance time = none) : ¬ Chain advance time due := by
  intro chain
  rcases Relation.TransGen.head'_iff.mp chain with ⟨next, first, _⟩
  rw [ends] at first
  cases first

theorem lt_of_chain (onward : ∀ time later, advance time = some later → time < later)
    (chain : Chain advance time due) : time < due := by
  induction chain with
  | single first => exact onward _ _ first
  | tail _ last induction => exact induction.trans (onward _ _ last)

theorem late_of_chain (onward : ∀ time later, advance time = some later → time < later)
    (leads : advance time = some later) (late : limit < closes.next later)
    (chain : Chain advance time due) : limit < closes.next due := by
  rcases (chain_iff leads).mp chain with rfl | behind
  · exact late
  · exact lt_of_lt_of_le late (closes.nondecreasing (lt_of_chain onward behind).le)

def EndsUnseen (advance : Int → Option Int) (closes : LedgerCloseTimes) (limit time : Int)
    (seen : List Int) : Prop :=
  ∃ rounds times, dueTimesFrom advance closes limit rounds (advance time) seen = some times ∧
    times.Pairwise (· < ·) ∧ ∀ close, close ∈ times ↔
      (∃ due, Chain advance time due ∧ closes.next due = close ∧ close ≤ limit) ∧ close ∉ seen

theorem endsUnseen_of_late (onward : ∀ time later, advance time = some later → time < later)
    (late : ∀ later, advance time = some later → limit < closes.next later) (seen : List Int) :
    EndsUnseen advance closes limit time seen := by
  cases leads : advance time with
  | none =>
      refine ⟨1, [], by rw [leads]; rfl, .nil, fun close => ?_⟩
      simp [not_chain leads]
  | some later =>
      refine ⟨1, [], ?_, .nil, fun close => ?_⟩
      · rw [leads]
        exact dueTimesFrom_late (late later leads) 0 seen
      · simp only [List.not_mem_nil, false_iff, not_and]
        rintro ⟨due, chain, rfl, within⟩
        exact absurd within (not_le.mpr (late_of_chain onward leads (late later leads) chain))

theorem EndsUnseen.round (onward : ∀ time later, advance time = some later → time < later)
    (leads : advance time = some later) (inTime : closes.next later ≤ limit) {seen : List Int}
    (rest : ∀ seen, EndsUnseen advance closes limit later seen) :
    EndsUnseen advance closes limit time seen := by
  by_cases old : closes.next later ∈ seen
  · rcases rest seen with ⟨rounds, times, ends, sorted, spec⟩
    refine ⟨rounds + 1, times, ?_, sorted, fun close => ?_⟩
    · rw [leads, dueTimesFrom_succ inTime, if_pos old, ends]
    · rw [spec]
      simp only [chain_iff leads]
      grind
  · rcases rest (closes.next later :: seen) with ⟨rounds, times, ends, sorted, spec⟩
    refine ⟨rounds + 1, closes.next later :: times, ?_, ?_, fun close => ?_⟩
    · rw [leads, dueTimesFrom_succ inTime, if_neg old, ends, Option.map_some]
    · refine List.pairwise_cons.mpr ⟨fun close inside => ?_, sorted⟩
      rcases (spec close).mp inside with ⟨⟨due, chain, rfl, -⟩, unseen⟩
      rw [List.mem_cons, not_or] at unseen
      exact lt_of_le_of_ne (closes.nondecreasing (lt_of_chain onward chain).le) (Ne.symm unseen.1)
    · rw [List.mem_cons, spec]
      simp only [chain_iff leads, List.mem_cons]
      grind

/-- The milliseconds that are left bound the rounds. -/
theorem endsUnseen (onward : ∀ time later, advance time = some later → time < later)
    (bound : Nat) (enough : limit ≤ time + bound) (seen : List Int) :
    EndsUnseen advance closes limit time seen := by
  induction bound generalizing time seen with
  | zero =>
      apply endsUnseen_of_late onward
      intro later leads
      have ahead := onward time later leads
      have atOrAfter := closes.atOrAfter later
      omega
  | succ bound induction =>
      by_cases late : ∀ later, advance time = some later → limit < closes.next later
      · exact endsUnseen_of_late onward late seen
      · simp only [not_forall, not_lt] at late
        rcases late with ⟨later, leads, inTime⟩
        have ahead := onward time later leads
        exact .round onward leads inTime fun seen =>
          induction (by push_cast at enough; omega) seen

end Enumeration

section Schedules

variable {parser : CronParser} {schedule : Schedule} {closes : LedgerCloseTimes}
  {after limit : Int}

theorem enumerates_empty (empty : limit ≤ after) :
    Enumerates parser schedule closes after limit := by
  refine ⟨0, [], if_pos empty, .nil, fun time => ?_⟩
  simp only [List.not_mem_nil, false_iff]
  rintro ⟨due, -, behind, rfl, within⟩
  have atOrAfter := closes.atOrAfter due
  omega

theorem enumerates_of_none (ends : advance parser schedule after = none)
    (never : ∀ due, DueAt parser schedule after due → due ≤ after) :
    Enumerates parser schedule closes after limit := by
  refine ⟨1, [], ?_, .nil, fun time => ?_⟩
  · rw [dueTimesBetween, ends]
    exact ite_self _
  · simp only [List.not_mem_nil, false_iff]
    rintro ⟨due, isDue, behind, -⟩
    exact absurd (never due isDue) (not_le.mpr behind)

theorem enumerates_of_onward
    (onward : ∀ time later, advance parser schedule time = some later → time < later)
    (same : ∀ due, DueAt parser schedule after due ∧ after < due ↔
      Chain (advance parser schedule) after due) :
    Enumerates parser schedule closes after limit := by
  rcases le_or_gt limit after with empty | room
  · exact enumerates_empty empty
  · have enough : limit ≤ after + (limit - after).toNat := by omega
    have whole : EndsUnseen (advance parser schedule) closes limit after [] :=
      endsUnseen onward _ enough []
    rcases whole with ⟨rounds, times, ends, sorted, spec⟩
    refine ⟨rounds, times, ?_, sorted, fun close => ?_⟩
    · rw [dueTimesBetween, if_neg (not_le.mpr room)]
      exact ends
    · rw [spec]
      simp only [← and_assoc, same, List.not_mem_nil, not_false_eq_true, and_true]

theorem enumerates_cron (expression timezone : JsString) :
    Enumerates parser (.cron expression timezone) closes after limit := by
  have later := parser.later expression timezone
  apply enumerates_of_onward
  · intro time next leads
    cases leads
    exact later time
  · intro due
    constructor
    · rintro ⟨⟨time, rfl⟩, behind⟩
      have chained : ∀ {due}, Recurrence.Due (parser.next expression timezone) after due →
          Chain (advance parser (.cron expression timezone)) after due := by
        intro due isDue
        induction isDue with
        | first => exact .single rfl
        | again _ induction => exact .tail induction rfl
      have fixed := parser.fixed expression timezone
      apply chained
      rcases le_total time after with before | beyond
      · exact ((Recurrence.due_middle later fixed before _).mpr ⟨.first, behind⟩)
      · exact ((Recurrence.due_middle later fixed beyond _).mp .first).1
    · intro chain
      refine ⟨?_, lt_of_chain (fun time next leads => ?_) chain⟩
      · cases chain with
        | single first => exact ⟨_, Option.some.inj first⟩
        | tail _ last => exact ⟨_, Option.some.inj last⟩
      · cases leads
        exact later time

/-! ## Intervals -/

variable {intervalMs : JsNumber} {step time units : Int}

theorem scale_pos : (0 : Int) < 2 ^ places :=
  Int.pow_pos (by decide)

theorem isDate_iff : IsDate time ↔ -8640000000000000 ≤ time ∧ time ≤ 8640000000000000 :=
  abs_le

theorem dateAt_whole (whole : Int) :
    dateAt (whole * 2 ^ places) = if IsDate whole then some whole else none := by
  have bound : |whole * 2 ^ places| ≤ maxTime * 2 ^ places ↔ IsDate whole := by
    rw [abs_mul, abs_of_pos scale_pos, IsDate]
    exact Int.mul_le_mul_right scale_pos
  rw [dateAt, Int.mul_tdiv_cancel _ scale_pos.ne']
  simp only [bound]

theorem newDate_whole (whole : Int) :
    newDate (.ofUnits (whole * 2 ^ places)) = if IsDate whole then some whole else none := by
  by_cases isDate : IsDate whole
  · have exact : JsNumber.Exact (whole * 2 ^ places) := by
      apply JsNumber.exact_whole whole
      rw [isDate_iff] at isDate
      omega
    rw [newDate, JsNumber.units_ofUnits_exact exact, Option.bind_some, dateAt_whole]
  · rw [if_neg isDate, newDate]
    cases rounds : (JsNumber.ofUnits (whole * 2 ^ places)).units with
    | none => rfl
    | some result =>
        have scale := scale_pos
        have beyond : ¬ |result| ≤ maxTime * 2 ^ places := by
          rw [IsDate, abs_le, not_and_or, not_le, not_le] at isDate
          rw [abs_le, not_and_or, not_le, not_le]
          rcases isDate with before | behind
          · left
            have bound := JsNumber.ofUnits_le (JsNumber.exact_whole (-maxTime - 1) (by decide))
              (Int.mul_le_mul_of_nonneg_right (by omega) scale.le) rounds
            rw [Int.sub_mul, Int.neg_mul] at bound
            omega
          · right
            have bound := JsNumber.le_of_ofUnits (JsNumber.exact_whole (maxTime + 1) (by decide))
              (Int.mul_le_mul_of_nonneg_right (by omega) scale.le) rounds
            rw [Int.add_mul] at bound
            omega
        rw [Option.bind_some, dateAt, if_neg beyond]

/-! ### Whole numbers -/

theorem advance_whole (isWhole : intervalMs.units = some (step * 2 ^ places)) (time : Int) :
    advance parser (.interval intervalMs) time =
      if IsDate (time + step) then some (time + step) else none := by
  simp only [advance, JsNumber.plus, isWhole, ← Int.add_mul]
  exact newDate_whole _

theorem dueAt_whole (isWhole : intervalMs.units = some (step * 2 ^ places)) (due : Int) :
    DueAt parser (.interval intervalMs) after due ↔
      ∃ count : Nat, 1 ≤ count ∧ IsDate due ∧ due = after + count * step := by
  simp only [DueAt, isWhole, Option.some.injEq, exists_eq_left', ← Int.mul_assoc, ← Int.add_mul,
    dateAt_whole, Option.ite_none_right_eq_some]
  apply exists_congr
  intro count
  constructor
  · rintro ⟨some, isDate, rfl⟩
    exact ⟨some, isDate, rfl⟩
  · rintro ⟨some, isDate, rfl⟩
    exact ⟨some, isDate, rfl⟩

/-- A step of a millisecond or more leads from due time to due time. -/
theorem chain_whole (isWhole : intervalMs.units = some (step * 2 ^ places)) (forward : 1 ≤ step)
    (start : IsDate after) (due : Int) :
    DueAt parser (.interval intervalMs) after due ∧ after < due ↔
      Chain (advance parser (.interval intervalMs)) after due := by
  have leads (time next : Int) : advance parser (.interval intervalMs) time = some next ↔
      IsDate next ∧ next = time + step := by
    rw [advance_whole isWhole, Option.ite_none_right_eq_some, Option.some.injEq]
    constructor
    · rintro ⟨isDate, rfl⟩
      exact ⟨isDate, rfl⟩
    · rintro ⟨isDate, rfl⟩
      exact ⟨isDate, rfl⟩
  rw [dueAt_whole isWhole]
  constructor
  · rintro ⟨⟨count, some, isDate, rfl⟩, -⟩
    induction count, some using Nat.le_induction with
    | base => exact .single ((leads _ _).mpr ⟨isDate, by simp⟩)
    | succ count some induction =>
        have behind : 0 ≤ count * step := by positivity
        have next : after + ↑(count + 1) * step = after + count * step + step := by
          push_cast
          ring
        have between : IsDate (after + count * step) := by
          rw [next] at isDate
          rw [isDate_iff] at start isDate ⊢
          omega
        exact .tail (induction between) ((leads _ _).mpr ⟨isDate, next⟩)
  · intro chain
    induction chain with
    | single first =>
        rcases (leads _ _).mp first with ⟨isDate, rfl⟩
        exact ⟨⟨1, le_refl _, isDate, by simp⟩, by omega⟩
    | tail _ last induction =>
        rcases induction with ⟨⟨count, some, -, rfl⟩, behind⟩
        rcases (leads _ _).mp last with ⟨isDate, rfl⟩
        refine ⟨⟨count + 1, by omega, isDate, ?_⟩, by omega⟩
        push_cast
        ring

theorem enumerates_whole (isWhole : intervalMs.units = some (step * 2 ^ places))
    (forward : 1 ≤ step) (start : IsDate after) :
    Enumerates parser (.interval intervalMs) closes after limit := by
  apply enumerates_of_onward
  · intro time later leads
    rw [advance_whole isWhole, Option.ite_none_right_eq_some, Option.some.injEq] at leads
    omega
  · exact chain_whole isWhole forward start

/-- A step back beyond all dates ends the loop at once. -/
theorem enumerates_back (isWhole : intervalMs.units = some (step * 2 ^ places))
    (back : step ≤ -(2 * maxTime)) (stop : IsDate limit) :
    Enumerates parser (.interval intervalMs) closes after limit := by
  rcases le_or_gt limit after with empty | room
  · exact enumerates_empty empty
  · rw [maxTime] at back
    rw [isDate_iff] at stop
    have gone : ¬ IsDate (after + step) := by
      rw [isDate_iff]
      omega
    apply enumerates_of_none
    · rw [advance_whole isWhole, if_neg gone]
    · intro due isDue
      rcases (dueAt_whole isWhole due).mp isDue with ⟨count, some, -, rfl⟩
      have before : count * step ≤ 0 :=
        Int.mul_nonpos_of_nonneg_of_nonpos (by omega) (by omega)
      omega

theorem enumerates_of_steady {schedule : Schedule} (steady : Steady schedule)
    (start : IsDate after) (stop : IsDate limit) :
    Enumerates parser schedule closes after limit := by
  cases schedule with
  | cron expression timezone => exact enumerates_cron expression timezone
  | interval intervalMs =>
      cases finite : intervalMs.units with
      | none =>
          apply enumerates_of_none
          · simp [advance, newDate, JsNumber.plus, finite]
          · rintro due ⟨units, isFinite, -⟩
            rw [finite] at isFinite
            cases isFinite
      | some units =>
          rcases steady units finite with ⟨step, rfl, forward | back⟩
          · exact enumerates_whole finite forward start
          · exact enumerates_back finite back stop

/-! ### Other numbers -/

/-- Where a ledger closes at each time, a call that enumerates gives the first time the loop visits
and goes on from there. -/
theorem first_round {schedule : Schedule} {first : Int}
    (enumerates : Enumerates parser schedule unaligned after limit) (room : after < limit)
    (leads : advance parser schedule after = some first) (inTime : first ≤ limit) :
    ∃ rounds rest, dueTimesFrom (advance parser schedule) unaligned limit rounds
        (advance parser schedule first) [first] = some rest ∧
      ∀ time, time ∈ first :: rest ↔
        DueAt parser schedule after time ∧ after < time ∧ time ≤ limit := by
  rcases enumerates with ⟨rounds, times, ends, -, spec⟩
  rw [dueTimesBetween, if_neg (not_le.mpr room), leads] at ends
  cases rounds with
  | zero => cases ends
  | succ rounds =>
      have isUnaligned : unaligned.next first ≤ limit := inTime
      rw [dueTimesFrom_succ isUnaligned, if_neg List.not_mem_nil] at ends
      rcases Option.map_eq_some_iff.mp ends with ⟨rest, restEnds, rfl⟩
      refine ⟨rounds, rest, restEnds, fun time => (spec time).trans ?_⟩
      constructor
      · rintro ⟨due, isDue, behind, rfl, within⟩
        exact ⟨isDue, behind, within⟩
      · rintro ⟨isDue, behind, within⟩
        exact ⟨time, isDue, behind, rfl, within⟩

theorem dueAt_second {schedule : Schedule} {first second : Int}
    (enumerates : Enumerates parser schedule unaligned after limit) (room : after < limit)
    (toFirst : advance parser schedule after = some first)
    (toSecond : advance parser schedule first = some second) (order : first < second)
    (inTime : second ≤ limit) : DueAt parser schedule after second := by
  rcases first_round enumerates room toFirst (order.le.trans inTime) with
    ⟨rounds, rest, ends, spec⟩
  rw [toSecond] at ends
  cases rounds with
  | zero => cases ends
  | succ rounds =>
      have new : unaligned.next second ∉ [first] :=
        fun member => order.ne' (List.mem_singleton.mp member)
      have isUnaligned : unaligned.next second ≤ limit := inTime
      rw [dueTimesFrom_succ isUnaligned, if_neg new] at ends
      rcases Option.map_eq_some_iff.mp ends with ⟨others, -, rfl⟩
      exact ((spec second).mp (List.mem_cons_of_mem _ List.mem_cons_self)).1

theorem advance_between (parser : CronParser) (time : Int)
    (finite : intervalMs.units = some units) {lower upper : Int}
    (exactLower : JsNumber.Exact lower) (exactUpper : JsNumber.Exact upper)
    (above : lower ≤ time * 2 ^ places + units) (below : time * 2 ^ places + units ≤ upper) :
    ∃ result, lower ≤ result ∧ result ≤ upper ∧
      advance parser (.interval intervalMs) time = dateAt result := by
  rcases JsNumber.exists_ofUnits exactLower exactUpper above below with
    ⟨result, rounds, within⟩
  refine ⟨result, within.1, within.2, ?_⟩
  simp only [advance, JsNumber.plus, finite, newDate, rounds, Option.bind_some]

/-! ### Cutting off -/

section Cut

variable {result : Int}

theorem tdiv_forward (step : Int) (positive : 0 ≤ step) (above : step * 2 ^ places ≤ result)
    (below : result < step * 2 ^ places + 2 ^ places) : result.tdiv (2 ^ places) = step := by
  have start : 0 ≤ step * 2 ^ places := Int.mul_nonneg positive scale_pos.le
  rw [Int.tdiv_eq_ediv_of_nonneg (start.trans above)]
  exact (Int.ediv_eq_iff_of_pos scale_pos).mpr ⟨above, below⟩

theorem tdiv_back (step : Int) (negative : step ≤ 0) (above : step * 2 ^ places - 2 ^ places < result)
    (below : result ≤ step * 2 ^ places) : result.tdiv (2 ^ places) = step := by
  have cut : (-result).tdiv (2 ^ places) = -step := by
    apply tdiv_forward
    · omega
    · rw [Int.neg_mul]
      omega
    · rw [Int.neg_mul]
      omega
  rw [Int.neg_tdiv] at cut
  omega

theorem tdiv_zero (above : -2 ^ places < result) (below : result < 2 ^ places) :
    result.tdiv (2 ^ places) = 0 := by
  rcases le_total 0 result with positive | negative
  · exact tdiv_forward 0 le_rfl (by omega) (by omega)
  · exact tdiv_back 0 le_rfl (by omega) (by omega)

theorem dateAt_eq (above : -(8640000000000000 * 2 ^ places) ≤ result)
    (below : result ≤ 8640000000000000 * 2 ^ places) :
    dateAt result = some (result.tdiv (2 ^ places)) :=
  if_pos (abs_le.mpr ⟨above, below⟩)

theorem tdiv_of_dateAt (atStep : dateAt result = some step) : result.tdiv (2 ^ places) = step :=
  Option.some.inj (Option.ite_none_right_eq_some.mp atStep).2

end Cut

/-! ### Intervals below a millisecond -/

def Fails (parser : CronParser) (schedule : Schedule) : Prop :=
  ∃ after limit, IsDate after ∧ IsDate limit ∧ after < limit ∧
    ¬ Enumerates parser schedule unaligned after limit

theorem not_enumerates_of_stay {schedule : Schedule} {first : Int}
    (leads : advance parser schedule after = some first) (stays : first ≤ after)
    (room : after < limit) : ¬ Enumerates parser schedule unaligned after limit := by
  intro enumerates
  rcases first_round enumerates room leads (stays.trans room.le) with ⟨_, _, _, spec⟩
  exact absurd ((spec first).mp List.mem_cons_self).2.1 (not_lt.mpr stays)

theorem fails_of_small (finite : intervalMs.units = some units) (positive : 0 ≤ units)
    (small : units < 2 ^ places) : Fails parser (.interval intervalMs) := by
  have exact := JsNumber.exact_units finite
  rcases advance_between parser 0 finite exact exact (by omega) (by omega) with
     ⟨result, above, below, leads⟩
  refine ⟨0, 1, by decide, by decide, by decide, not_enumerates_of_stay ?_ le_rfl (by decide)⟩
  rw [leads, dateAt_eq (by omega) (by omega), tdiv_zero (by omega) (by omega)]

theorem fails_of_negative (finite : intervalMs.units = some units) (negative : units < 0)
    (near : ∀ step, units = step * 2 ^ places → -(2 * maxTime) < step) :
    Fails parser (.interval intervalMs) := by
  have bound : -(17279999999999999 * 2 ^ places) ≤ units := by
    by_contra beyond
    rcases JsNumber.pow_dvd_of_exact places (JsNumber.exact_units finite)
      (.inr (by rw [Int.pow_add]; omega)) with ⟨step, equal⟩
    rw [Int.mul_comm] at equal
    have more := near step equal
    have behind := Int.mul_le_mul_of_nonneg_right (a := -17279999999999999) (b := step)
      (by rw [maxTime] at more; omega) scale_pos.le
    omega
  rcases advance_between parser 8639999999999999 finite
    (JsNumber.exact_whole (-8640000000000000) (by decide))
    (JsNumber.exact_whole 8639999999999999 (by decide)) (by omega) (by omega) with
    ⟨result, above, below, leads⟩
  have scale := scale_pos
  rw [dateAt_eq (by omega) (by omega)] at leads
  refine ⟨8639999999999999, 8640000000000000, by decide, by decide, by decide,
    not_enumerates_of_stay leads ?_ (by decide)⟩
  have cut := Int.tdiv_le_tdiv scale below
  rwa [Int.mul_tdiv_cancel _ scale.ne'] at cut

/-! ### Intervals with a fraction of a millisecond -/

structure Fraction (intervalMs : JsNumber) (whole units : Int) : Prop where
  finite : intervalMs.units = some units
  positive : 1 ≤ whole
  inDates : whole < 4503599627370496
  above : whole * 2 ^ places < units
  below : units < whole * 2 ^ places + 2 ^ places
  parts : 2 ^ (places - 52) ∣ units

theorem scale_eq : (2 : Int) ^ places = 4503599627370496 * 2 ^ (places - 52) := by
  have exponents : places = 52 + (places - 52) := by
    unfold places
    rfl
  calc (2 : Int) ^ places = 2 ^ 52 * 2 ^ (places - 52) := by rw [← Int.pow_add, ← exponents]
    _ = _ := rfl

theorem exists_fraction (finite : intervalMs.units = some units) (large : 2 ^ places ≤ units)
    (notWhole : ∀ step, units ≠ step * 2 ^ places) : ∃ whole, Fraction intervalMs whole units := by
  have exact := JsNumber.exact_units finite
  have scale := scale_eq
  have positive := scale_pos
  have small : units < 4503599627370496 * 2 ^ places := by
    by_contra beyond
    rcases JsNumber.pow_dvd_of_exact places exact
      (.inl (by rw [Int.pow_add]; omega)) with ⟨step, whole⟩
    exact notWhole step (by rw [whole, Int.mul_comm])
  have floor := (Int.ediv_eq_iff_of_pos (x := units) positive).mp rfl
  refine ⟨units / 2 ^ places, finite, ?_, ?_, ?_, floor.2, ?_⟩
  · exact (Int.le_ediv_iff_mul_le positive).mpr (by omega)
  · exact (Int.ediv_lt_iff_lt_mul positive).mpr small
  · exact lt_of_le_of_ne floor.1 (notWhole _).symm
  · apply JsNumber.pow_dvd_of_exact _ exact
    left
    rw [Int.pow_add]
    omega

theorem exact_short : JsNumber.Exact (2 ^ places - 2 ^ (places - 52)) := by
  refine ⟨⟨2 ^ 53 - 2, places - 53, by decide, by unfold places; decide, .inr (by decide)⟩, ?_⟩
  have scale := scale_eq
  have half : (2 : Int) ^ (places - 52) = 2 * 2 ^ (places - 53) := by
    rw [← Int.pow_succ']
    unfold places
    rfl
  have positive : (0 : Int) < 2 ^ (places - 53) := Int.pow_pos (by decide)
  rw [Magnitude.units]
  zify
  rw [abs_of_nonneg (by omega), Nat.cast_sub (by decide)]
  push_cast
  omega

namespace Fraction

variable {whole : Int} (fraction : Fraction intervalMs whole units)
include fraction

theorem advance_zero (parser : CronParser) (time : Int) (above : -2 ^ places < time * 2 ^ places + units)
    (below : time * 2 ^ places + units < 2 ^ places) :
    advance parser (.interval intervalMs) time = some 0 := by
  have positive : (0 : Int) < 2 ^ (places - 52) := Int.pow_pos (by decide)
  have scale := scale_eq
  have scaleParts : (2 : Int) ^ (places - 52) ∣ 2 ^ places := ⟨_, scale.trans (Int.mul_comm _ _)⟩
  have parts : (2 : Int) ^ (places - 52) ∣ time * 2 ^ places + units :=
    Int.dvd_add (Int.dvd_mul_of_dvd_right scaleParts) fraction.parts
  have fromBelow := Int.le_of_dvd (by omega) (Int.dvd_add scaleParts parts)
  have fromAbove := Int.le_of_dvd (by omega) (Int.dvd_sub scaleParts parts)
  have exactLower : JsNumber.Exact (-(2 ^ places - 2 ^ (places - 52))) := by
    rcases exact_short with ⟨magnitude, same⟩
    exact ⟨magnitude, same.trans (Int.natAbs_neg _).symm⟩
  rcases advance_between parser time fraction.finite exactLower exact_short
    (by omega) (by omega) with ⟨result, atLeast, atMost, leads⟩
  rw [leads, dateAt_eq (by omega) (by omega), tdiv_zero (by omega) (by omega)]

theorem advance_start : advance parser (.interval intervalMs) 0 = some whole := by
  have exact := JsNumber.exact_units fraction.finite
  rcases advance_between parser 0 fraction.finite exact exact (by omega) (by omega) with
    ⟨result, atLeast, atMost, leads⟩
  rcases fraction with ⟨_, positive, inDates, above, below, _⟩
  have scale := scale_pos
  have start := Int.mul_nonneg (Int.le_of_lt positive) scale.le
  have most := Int.mul_le_mul_of_nonneg_right inDates.le scale.le
  rw [leads, dateAt_eq (by omega) (by omega),
    tdiv_forward whole (Int.le_of_lt positive) (by omega) (by omega)]

/-- The loop goes from a time to 0 and on to `whole`, which has to be due. -/
theorem fails_of_passed (parser : CronParser) (time : Int) (start : IsDate time)
    (before : time < 0) (above : -2 ^ places < time * 2 ^ places + units)
    (below : time * 2 ^ places + units < 2 ^ places)
    (passed : ∀ count : Nat, 1 ≤ count →
      (time * 2 ^ places + count * units).tdiv (2 ^ places) ≠ whole) :
    Fails parser (.interval intervalMs) := by
  have positive := fraction.positive
  have inDates := fraction.inDates
  refine ⟨time, whole, start, isDate_iff.mpr (by omega), by omega, fun enumerates => ?_⟩
  rcases dueAt_second enumerates (by omega) (fraction.advance_zero parser time above below)
    fraction.advance_start (by omega) le_rfl with ⟨counted, finite, count, some, atDue⟩
  rw [fraction.finite] at finite
  cases finite
  exact passed count some (tdiv_of_dateAt atDue)

/-- Two intervals are longer than twice the milliseconds by one. -/
theorem fails_of_large (large : 2 ^ places ≤ 2 * (units - whole * 2 ^ places)) :
    Fails parser (.interval intervalMs) := by
  have fails := fraction.fails_of_passed parser (-whole)
  rcases fraction with ⟨finite, positive, inDates, above, below, -⟩
  have scale := scale_pos
  have start := Int.mul_nonneg (Int.le_of_lt positive) scale.le
  rw [Int.neg_mul] at fails
  apply fails
  · exact isDate_iff.mpr (by omega)
  · omega
  · omega
  · omega
  · intro count some atWhole
    rcases some.eq_or_lt with rfl | more
    · rw [Nat.cast_one, Int.one_mul, tdiv_zero (by omega) (by omega)] at atWhole
      omega
    · have twice := Int.mul_le_mul_of_nonneg_right (a := 2) (b := count) (c := units)
        (by omega) (by omega)
      have beyond := Int.le_tdiv_of_mul_le (a := whole + 1) scale
        (b := -(whole * 2 ^ places) + count * units) (by rw [Int.add_mul]; omega)
      omega

/-- Two intervals from a millisecond less on end before `whole`, and three behind it. -/
theorem fails_of_less (less : 2 * (units - whole * 2 ^ places) < 2 ^ places) (several : 2 ≤ whole) :
    Fails parser (.interval intervalMs) := by
  have fails := fraction.fails_of_passed parser (-whole - 1)
  rcases fraction with ⟨finite, positive, inDates, above, below, -⟩
  have scale := scale_pos
  have room := Int.mul_le_mul_of_nonneg_right several scale.le
  rw [Int.sub_mul, Int.neg_mul, Int.one_mul] at fails
  apply fails
  · exact isDate_iff.mpr (by omega)
  · omega
  · omega
  · omega
  · intro count some atWhole
    obtain rfl | rfl | more : count = 1 ∨ count = 2 ∨ 3 ≤ count := by omega
    · rw [Nat.cast_one, Int.one_mul, tdiv_zero (by omega) (by omega)] at atWhole
      omega
    · rw [Nat.cast_two, tdiv_forward (whole - 1) (by omega)
        (by rw [Int.sub_mul]; omega) (by rw [Int.sub_mul]; omega)] at atWhole
      omega
    · have thrice := Int.mul_le_mul_of_nonneg_right (a := 3) (b := count) (c := units)
        (by omega) (by omega)
      have beyond := Int.le_tdiv_of_mul_le (a := whole + 1) scale
        (b := -(whole * 2 ^ places) - 2 ^ places + count * units) (by rw [Int.add_mul]; omega)
      omega

/-- With hardly more than a millisecond the loop begins at a time that is not due, or leaves out
the second one that is. -/
theorem fails_of_one (less : 2 * (units - whole * 2 ^ places) < 2 ^ places) (one : whole = 1) :
    Fails parser (.interval intervalMs) := by
  have toZero := fraction.advance_zero parser (-2)
  rcases fraction with ⟨finite, positive, inDates, above, below, -⟩
  cases one
  have scale := scale_pos
  rcases advance_between parser (-4) finite (JsNumber.exact_whole (-3) (by decide))
    (JsNumber.exact_whole (-2) (by decide)) (by omega) (by omega) with
    ⟨result, atLeast, atMost, leads⟩
  rw [dateAt_eq (by omega) (by omega)] at leads
  refine ⟨-4, -1, by decide, by decide, by decide, fun enumerates => ?_⟩
  rcases atLeast.eq_or_lt with rfl | between
  · -- The first due time is -2.
    rw [Int.mul_tdiv_cancel _ scale.ne'] at leads
    rcases first_round enumerates (by decide) leads (by decide) with ⟨_, _, _, spec⟩
    rcases ((spec (-3)).mp List.mem_cons_self).1 with ⟨counted, isFinite, count, some, atDue⟩
    rw [finite] at isFinite
    cases isFinite
    have once := Int.mul_le_mul_of_nonneg_right (a := 1) (b := count) (c := units)
      (by omega) (by omega)
    have first := tdiv_back (-2) (by decide) (by omega : -2 * 2 ^ places - 2 ^ places <
      -4 * 2 ^ places + units) (by omega)
    have least := Int.tdiv_le_tdiv scale (by omega : -4 * 2 ^ places + units ≤
      -4 * 2 ^ places + count * units)
    rw [first, tdiv_of_dateAt atDue] at least
    exact absurd least (by decide)
  · rw [tdiv_back (-2) (by decide) (by omega) (by omega)] at leads
    rcases first_round enumerates (by decide) leads (by decide) with ⟨rounds, rest, ends, spec⟩
    have second : dateAt (-4 * 2 ^ places + (2 : Nat) * units) = some (-1) := by
      rw [dateAt_eq (by omega) (by omega), tdiv_back (-1) (by decide) (by omega) (by omega)]
    have given := (spec (-1)).mpr ⟨⟨units, finite, 2, by decide, second⟩, by decide, by decide⟩
    rw [toZero (by omega) (by omega)] at ends
    cases rounds with
    | zero => cases ends
    | succ rounds =>
        cases ends
        exact absurd given (by decide)

end Fraction

theorem fails_of_not_steady {schedule : Schedule} (notSteady : ¬ Steady schedule) :
    Fails parser schedule := by
  cases schedule with
  | cron expression timezone => exact absurd trivial notSteady
  | interval intervalMs =>
      simp only [Steady, not_forall, not_exists, not_and, not_or, not_le] at notSteady
      rcases notSteady with ⟨units, finite, unsteady⟩
      rcases lt_or_ge units 0 with negative | positive
      · exact fails_of_negative finite negative fun step whole => (unsteady step whole).2
      · rcases lt_or_ge units (2 ^ places) with small | large
        · exact fails_of_small finite positive small
        · have notWhole : ∀ step, units ≠ step * 2 ^ places := by
            intro step whole
            have below : step ≤ 0 := Int.lt_add_one_iff.mp (unsteady step whole).1
            have none := Int.mul_nonpos_of_nonpos_of_nonneg below scale_pos.le
            have scale := scale_pos
            omega
          rcases exists_fraction finite large notWhole with ⟨whole, fraction⟩
          by_cases half : 2 ^ places ≤ 2 * (units - whole * 2 ^ places)
          · exact fraction.fails_of_large half
          · rcases fraction.positive.eq_or_lt with one | several
            · exact fraction.fails_of_one (not_le.mp half) one.symm
            · exact fraction.fails_of_less (not_le.mp half) several

end Schedules

/-- Exactly with a steady schedule every call enumerates the due times. -/
theorem enumerates_iff (parser : CronParser) (schedule : Schedule) :
    (∀ (closes : LedgerCloseTimes) (after limit : Int), IsDate after → IsDate limit →
      after ≤ limit → Enumerates parser schedule closes after limit) ↔ Steady schedule := by
  constructor
  · intro always
    by_contra notSteady
    rcases fails_of_not_steady notSteady with ⟨after, limit, start, stop, room, fails⟩
    exact fails (always unaligned after limit start stop room.le)
  · intro steady closes after limit start stop _
    exact enumerates_of_steady steady start stop

/-- An interval of nothing stays at its first time. -/
theorem no_interval_not_enumerated :
    ¬ ∀ (parser : CronParser) (schedule : Schedule) (closes : LedgerCloseTimes)
      (after limit : Int), IsDate after → IsDate limit → after ≤ limit →
        Enumerates parser schedule closes after limit := by
  intro always
  have stays : advance TimeTrigger.everyMinute (.interval (.finite false .zero)) 0 = some 0 := by
    decide +kernel
  exact not_enumerates_of_stay stays le_rfl (by decide : (0 : Int) < 1)
    (always _ _ unaligned 0 1 (by decide) (by decide) (by decide))

end Orbital.WorkerCore.ScheduleEnumeration
