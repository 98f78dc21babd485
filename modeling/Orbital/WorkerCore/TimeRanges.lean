import Orbital.WorkerCore.TimeWindows

/-! # Time windows of one range and of its parts

An interval is counted from the close time of the first ledger of the range, so that another
range may count other times.
-/

namespace Orbital.WorkerCore.TimeTrigger

open Foundation
open ComputationTrigger
open Fires (timeWindow)
open Idempotency (ledgerText_injective)

theorem timeWindow_injective {workerId : JsString} {ledger other latency : Int}
    (same : (timeWindow workerId ledger latency).windowId =
      (timeWindow workerId other latency).windowId) : ledger = other :=
  ledgerText_injective (List.append_cancel_left same)

section Ranges

variable (parser : CronParser) (definition : TimeTriggerDefinition)
  (index : ArrayLedgerCloseTimeIndex) (latencyBoundLedgers : Int)

def derivedWindows (fromLedger toLedger : Int) : List Window :=
  match verifyTimeTrigger parser definition index latencyBoundLedgers [] fromLedger toLedger 0 with
  | .ok verdicts => verdicts.map WorkerFireVerdict.window
  | .error _ => []

def workerState (anchorAt : Int) (catchUpPolicy : Option CatchUpPolicy) : WorkerState where
  id := definition.id
  schedule := definition.schedule
  anchorAt
  lastFiredAt := none
  catchUpPolicy

def fireTimes (anchorAt : Int) (catchUpPolicy : Option CatchUpPolicy) (close : Int) : List Int :=
  match evaluate parser (workerState definition anchorAt catchUpPolicy) close with
  | some decision => decision.fireTimes
  | none => []

/-- The windows do not depend on the range: those of the range are those of its two parts,
each has an identity of its own, and they are due when the worker fires. -/
structure RangeIndependent (first middle last : Int) (firstClose lastClose anchorAt : Int)
    (catchUpPolicy : Option CatchUpPolicy) : Prop where
  splits : ∀ window,
    window ∈ derivedWindows parser definition index latencyBoundLedgers first last ↔
      window ∈ derivedWindows parser definition index latencyBoundLedgers first middle ∨
        window ∈ derivedWindows parser definition index latencyBoundLedgers middle last
  distinct : ((derivedWindows parser definition index latencyBoundLedgers first last).map
    Window.windowId).Nodup
  fired : ∀ time,
    time ∈ dueTimesBetween parser definition.schedule firstClose lastClose none ↔
      time ∈ fireTimes parser definition anchorAt catchUpPolicy lastClose ∧ firstClose < time

/-! ## The conditions -/

/-- Counted from the first close time, an interval ends in the same ledgers of the second
part as counted from the close time in the middle. -/
def PhaseFits (firstClose middleClose lastClose : Int) : Schedule → Prop
  | .cron _ _ => True
  | .interval everyMs _ =>
      (∀ time, middleClose < time → time ≤ lastClose → everyMs ∣ time - firstClose →
        ∃ other, middleClose < other ∧ other ≤ lastClose ∧ everyMs ∣ other - middleClose ∧
          index.firstLedgerAtOrAfter other = index.firstLedgerAtOrAfter time) ∧
      (∀ time, middleClose < time → time ≤ lastClose → everyMs ∣ time - middleClose →
        ∃ other, middleClose < other ∧ other ≤ lastClose ∧ everyMs ∣ other - firstClose ∧
          index.firstLedgerAtOrAfter other = index.firstLedgerAtOrAfter time)

def OnePerLedger (firstClose lastClose : Int) (schedule : Schedule) : Prop :=
  ∀ time other, IsDue parser schedule firstClose time → IsDue parser schedule firstClose other →
    time ≤ lastClose → other ≤ lastClose →
    index.firstLedgerAtOrAfter time = index.firstLedgerAtOrAfter other → time = other

/-- A worker that catches up with all due times counts them from its anchor as from the
range; one that fires once has nothing to catch up with. -/
def AnchorFits (firstClose lastClose anchorAt : Int) (schedule : Schedule) : CatchUpPolicy → Prop
  | .fireAll =>
      ∀ time, firstClose < time → time ≤ lastClose →
        (IsDue parser schedule firstClose time ↔ IsDue parser schedule anchorAt time)
  | .fireOnce =>
      (∀ time, IsDue parser schedule firstClose time → time ≤ lastClose → time = lastClose) ∧
        (firstClose < lastClose → (IsDue parser schedule firstClose lastClose ↔
          ∃ time, IsDue parser schedule anchorAt time ∧ time ≤ lastClose))

variable {parser definition index latencyBoundLedgers}

/-! ## The windows of a range -/

variable {fromLedger toLedger fromClose toClose ledger time : Int}

theorem derivedWindows_eq (isTime : definition.worker.trigger = .time)
    (fromCovered : index.closeTimeOfLedger fromLedger = some fromClose)
    (toCovered : index.closeTimeOfLedger toLedger = some toClose) :
    derivedWindows parser definition index latencyBoundLedgers fromLedger toLedger =
      windowsBetween parser definition index latencyBoundLedgers fromClose toClose toLedger := by
  rw [derivedWindows, verifyTimeTrigger, if_neg (not_not_intro isTime), fromCovered, toCovered]
  dsimp only
  rw [List.map_map]
  apply List.map_id''
  intro window
  exact resolveWindow_window definition.worker [] toLedger 0 window

theorem mem_derivedWindows (isTime : definition.worker.trigger = .time)
    (fromCovered : index.closeTimeOfLedger fromLedger = some fromClose)
    (toCovered : index.closeTimeOfLedger toLedger = some toClose) :
    timeWindow definition.id ledger latencyBoundLedgers ∈
        derivedWindows parser definition index latencyBoundLedgers fromLedger toLedger ↔
      ∃ time, IsDue parser definition.schedule fromClose time ∧ time ≤ toClose ∧
        index.firstLedgerAtOrAfter time = some ledger := by
  rw [derivedWindows_eq isTime fromCovered toCovered, mem_windowsBetween toCovered]
  constructor
  · rintro ⟨time, found, due, within, isFirst, same⟩
    rw [timeWindow_injective (congrArg Window.windowId same)]
    exact ⟨time, due, within, isFirst⟩
  · rintro ⟨time, due, within, isFirst⟩
    exact ⟨time, ledger, due, within, isFirst, rfl⟩

theorem exists_ledger (isTime : definition.worker.trigger = .time)
    (fromCovered : index.closeTimeOfLedger fromLedger = some fromClose)
    (toCovered : index.closeTimeOfLedger toLedger = some toClose) {window : Window}
    (member : window ∈
      derivedWindows parser definition index latencyBoundLedgers fromLedger toLedger) :
    ∃ ledger, window = timeWindow definition.id ledger latencyBoundLedgers := by
  rw [derivedWindows_eq isTime fromCovered toCovered, mem_windowsBetween toCovered] at member
  rcases member with ⟨_, ledger, _, _, _, same⟩
  exact ⟨ledger, same⟩

/-! ## The parts of the property -/

variable {first middle last firstClose middleClose lastClose : Int}

theorem firstLedger_le_iff (nondecreasing : index.Nondecreasing)
    (covered : index.closeTimeOfLedger middle = some middleClose)
    (isFirst : index.firstLedgerAtOrAfter time = some ledger) :
    ledger ≤ middle ↔ time ≤ middleClose := by
  have entry := ArrayLedgerCloseTimeIndex.mem_of_closeTime covered
  constructor
  · intro before
    rcases ArrayLedgerCloseTimeIndex.mem_of_firstLedger isFirst with ⟨close, member, within⟩
    exact le_trans within (nondecreasing _ member _ entry before)
  · intro within
    rcases ArrayLedgerCloseTimeIndex.firstLedger_le entry within with ⟨found, isFound, before⟩
    rw [isFirst] at isFound
    cases isFound
    exact before

def LedgerDue (parser : CronParser) (schedule : Schedule) (index : ArrayLedgerCloseTimeIndex)
    (start middleClose lastClose ledger : Int) : Prop :=
  ∃ time, IsDue parser schedule start time ∧ middleClose < time ∧ time ≤ lastClose ∧
    index.firstLedgerAtOrAfter time = some ledger

theorem splits_iff (isTime : definition.worker.trigger = .time)
    (nondecreasing : index.Nondecreasing) (order : middle ≤ last)
    (firstCovered : index.closeTimeOfLedger first = some firstClose)
    (middleCovered : index.closeTimeOfLedger middle = some middleClose)
    (lastCovered : index.closeTimeOfLedger last = some lastClose) :
    (∀ window, window ∈ derivedWindows parser definition index latencyBoundLedgers first last ↔
      window ∈ derivedWindows parser definition index latencyBoundLedgers first middle ∨
        window ∈ derivedWindows parser definition index latencyBoundLedgers middle last) ↔
      ∀ ledger, LedgerDue parser definition.schedule index firstClose middleClose lastClose ledger ↔
        LedgerDue parser definition.schedule index middleClose middleClose lastClose ledger := by
  have later := next_later parser definition.schedule
  have middleEntry := ArrayLedgerCloseTimeIndex.mem_of_closeTime middleCovered
  have lastEntry := ArrayLedgerCloseTimeIndex.mem_of_closeTime lastCovered
  have middleLast : middleClose ≤ lastClose := nondecreasing _ middleEntry _ lastEntry order
  -- a ledger that is due behind the close time in the middle is not due before it
  have behind : ∀ {time other ledger}, index.firstLedgerAtOrAfter time = some ledger →
      index.firstLedgerAtOrAfter other = some ledger → middleClose < time → middleClose < other := by
    intro time other ledger isFirst isFirstToo after
    apply lt_of_not_ge
    intro before
    have early := (firstLedger_le_iff nondecreasing middleCovered isFirstToo).mpr before
    have within := (firstLedger_le_iff nondecreasing middleCovered isFirst).mp early
    exact absurd after (not_lt.mpr within)
  constructor
  · intro splits ledger
    have split := splits (timeWindow definition.id ledger latencyBoundLedgers)
    rw [mem_derivedWindows isTime firstCovered lastCovered,
      mem_derivedWindows isTime firstCovered middleCovered,
      mem_derivedWindows isTime middleCovered lastCovered] at split
    constructor
    · rintro ⟨time, due, after, within, isFirst⟩
      rcases split.mp ⟨time, due, within, isFirst⟩ with
        ⟨other, _, before, isFirstToo⟩ | ⟨other, dueToo, withinToo, isFirstToo⟩
      · exact absurd (behind isFirst isFirstToo after) (not_lt.mpr before)
      · exact ⟨other, dueToo, Recurrence.lt_of_due later dueToo, withinToo, isFirstToo⟩
    · rintro ⟨time, due, after, within, isFirst⟩
      rcases split.mpr (Or.inr ⟨time, due, within, isFirst⟩) with
        ⟨other, dueToo, withinToo, isFirstToo⟩
      exact ⟨other, dueToo, behind isFirst isFirstToo after, withinToo, isFirstToo⟩
  · intro same
    have split : ∀ ledger, timeWindow definition.id ledger latencyBoundLedgers ∈
        derivedWindows parser definition index latencyBoundLedgers first last ↔
        timeWindow definition.id ledger latencyBoundLedgers ∈
            derivedWindows parser definition index latencyBoundLedgers first middle ∨
          timeWindow definition.id ledger latencyBoundLedgers ∈
            derivedWindows parser definition index latencyBoundLedgers middle last := by
      intro ledger
      rw [mem_derivedWindows isTime firstCovered lastCovered,
        mem_derivedWindows isTime firstCovered middleCovered,
        mem_derivedWindows isTime middleCovered lastCovered]
      constructor
      · rintro ⟨time, due, within, isFirst⟩
        rcases le_or_gt time middleClose with before | after
        · exact Or.inl ⟨time, due, before, isFirst⟩
        · rcases (same ledger).mp ⟨time, due, after, within, isFirst⟩ with
            ⟨other, dueToo, _, withinToo, isFirstToo⟩
          exact Or.inr ⟨other, dueToo, withinToo, isFirstToo⟩
      · rintro (⟨time, due, before, isFirst⟩ | ⟨time, due, within, isFirst⟩)
        · exact ⟨time, due, le_trans before middleLast, isFirst⟩
        · rcases (same ledger).mpr
            ⟨time, due, Recurrence.lt_of_due later due, within, isFirst⟩ with
            ⟨other, dueToo, _, withinToo, isFirstToo⟩
          exact ⟨other, dueToo, withinToo, isFirstToo⟩
    intro window
    constructor
    · intro member
      rcases exists_ledger isTime firstCovered lastCovered member with ⟨ledger, rfl⟩
      exact (split ledger).mp member
    · rintro (member | member)
      · rcases exists_ledger isTime firstCovered middleCovered member with ⟨ledger, rfl⟩
        exact (split ledger).mpr (Or.inl member)
      · rcases exists_ledger isTime middleCovered lastCovered member with ⟨ledger, rfl⟩
        exact (split ledger).mpr (Or.inr member)

theorem phaseFits_iff (closes : firstClose ≤ middleClose)
    (lastCovered : index.closeTimeOfLedger last = some lastClose) (schedule : Schedule) :
    (∀ ledger, LedgerDue parser schedule index firstClose middleClose lastClose ledger ↔
      LedgerDue parser schedule index middleClose middleClose lastClose ledger) ↔
      PhaseFits index firstClose middleClose lastClose schedule := by
  have lastEntry := ArrayLedgerCloseTimeIndex.mem_of_closeTime lastCovered
  cases schedule with
  | cron expression timezone =>
      apply iff_of_true _ trivial
      intro ledger
      apply exists_congr
      intro time
      have middleDue := Recurrence.due_middle (parser.later expression timezone)
        (parser.fixed expression timezone) closes time
      rw [IsDue, IsDue, Schedule.next, middleDue]
      tauto
  | interval everyMs positive =>
      have due : ∀ start time, IsDue parser (.interval everyMs positive) start time ↔
          start < time ∧ everyMs ∣ time - start :=
        fun start time => Recurrence.due_interval positive
      -- a time of one kind has a ledger, and so a time of the other kind in it
      have transfer : ∀ {start other}, start ≤ middleClose → other ≤ middleClose →
          ((∀ ledger, LedgerDue parser (.interval everyMs positive) index start middleClose
              lastClose ledger →
            LedgerDue parser (.interval everyMs positive) index other middleClose lastClose
              ledger) ↔
          ∀ time, middleClose < time → time ≤ lastClose → everyMs ∣ time - start →
            ∃ found, middleClose < found ∧ found ≤ lastClose ∧ everyMs ∣ found - other ∧
              index.firstLedgerAtOrAfter found = index.firstLedgerAtOrAfter time) := by
        intro start other before beforeToo
        constructor
        · intro leads time after within multiple
          rcases ArrayLedgerCloseTimeIndex.firstLedger_le lastEntry within with
            ⟨ledger, isFirst, _⟩
          have isDue := (due start time).mpr ⟨lt_of_le_of_lt before after, multiple⟩
          rcases leads ledger ⟨time, isDue, after, within, isFirst⟩ with
            ⟨found, dueToo, afterToo, withinToo, isFirstToo⟩
          exact ⟨found, afterToo, withinToo, ((due other found).mp dueToo).2,
            isFirstToo.trans isFirst.symm⟩
        · rintro leads ledger ⟨time, isDue, after, within, isFirst⟩
          rcases leads time after within ((due start time).mp isDue).2 with
            ⟨found, afterToo, withinToo, multiple, same⟩
          exact ⟨found, (due other found).mpr ⟨lt_of_le_of_lt beforeToo afterToo, multiple⟩,
            afterToo, withinToo, same.trans isFirst⟩
      rw [PhaseFits, ← transfer closes (le_refl _), ← transfer (le_refl _) closes]
      exact ⟨fun same => ⟨fun ledger => (same ledger).mp, fun ledger => (same ledger).mpr⟩,
        fun both ledger => ⟨both.1 ledger, both.2 ledger⟩⟩

/-- Two times do not share their ledger, as far as they have one in the range. -/
def ApartIn (index : ArrayLedgerCloseTimeIndex) (last first second : Int) : Prop :=
  ∀ ledger, (index.firstLedgerAtOrAfter first).filter (fun ledger => ledger ≤ last) =
      some ledger →
    ∀ other, (index.firstLedgerAtOrAfter second).filter (fun ledger => ledger ≤ last) =
      some other → ledger ≠ other

theorem distinct_iff (isTime : definition.worker.trigger = .time)
    (firstCovered : index.closeTimeOfLedger first = some firstClose)
    (lastCovered : index.closeTimeOfLedger last = some lastClose) :
    ((derivedWindows parser definition index latencyBoundLedgers first last).map
        Window.windowId).Nodup ↔
      OnePerLedger parser index firstClose lastClose definition.schedule := by
  have lastEntry := ArrayLedgerCloseTimeIndex.mem_of_closeTime lastCovered
  have injective : Function.Injective (Window.windowId ∘ fun ledger =>
      timeWindow definition.id ledger latencyBoundLedgers) :=
    fun _ _ same => timeWindow_injective same
  rw [derivedWindows_eq isTime firstCovered lastCovered, windowsBetween, List.map_map,
    List.nodup_map_iff injective, conditionLedgers, List.Nodup, List.pairwise_filterMap]
  have symmetric : Std.Symm (ApartIn index last) :=
    ⟨fun _ _ apart ledger isLedger other isOther => (apart other isOther ledger isLedger).symm⟩
  change List.Pairwise (ApartIn index last) _ ↔ _
  constructor
  · intro distinct time other due dueToo within withinToo same
    by_contra apart
    have member := (mem_dueTimesBetween parser definition.schedule).mpr ⟨due, within⟩
    have memberToo := (mem_dueTimesBetween parser definition.schedule).mpr ⟨dueToo, withinToo⟩
    rcases ArrayLedgerCloseTimeIndex.firstLedger_le lastEntry within with ⟨ledger, isFirst, before⟩
    have differ := distinct.forall member memberToo apart
    have kept : (index.firstLedgerAtOrAfter time).filter (fun ledger => ledger ≤ last) =
        some ledger := Option.filter_eq_some_iff.mpr ⟨isFirst, decide_eq_true before⟩
    have keptToo := kept
    rw [same] at keptToo
    exact differ ledger kept ledger keptToo rfl
  · intro single
    apply (dueTimesBetween_increasing parser definition.schedule firstClose lastClose).imp_of_mem
    intro time other member memberToo before ledger isFirst ledgerToo isFirstToo same
    rcases (mem_dueTimesBetween parser definition.schedule).mp member with ⟨due, within⟩
    rcases (mem_dueTimesBetween parser definition.schedule).mp memberToo with ⟨dueToo, withinToo⟩
    have found := (Option.filter_eq_some_iff.mp isFirst).1
    have foundToo := (Option.filter_eq_some_iff.mp isFirstToo).1
    have equal := single time other due dueToo within withinToo
      (found.trans (same ▸ foundToo.symm))
    exact absurd equal (ne_of_lt before)

theorem mem_fireTimes {anchorAt close : Int} (catchUpPolicy : Option CatchUpPolicy) :
    time ∈ fireTimes parser definition anchorAt catchUpPolicy close ↔
      (catchUpPolicy.getD .fireOnce = .fireAll ∧
          IsDue parser definition.schedule anchorAt time ∧ time ≤ close) ∨
        (catchUpPolicy.getD .fireOnce = .fireOnce ∧ time = close ∧
          ∃ due, IsDue parser definition.schedule anchorAt due ∧ due ≤ close) := by
  have members : ∀ due, due ∈ dueTimesBetween parser definition.schedule anchorAt close none ↔
      IsDue parser definition.schedule anchorAt due ∧ due ≤ close :=
    fun due => mem_dueTimesBetween parser definition.schedule
  rw [fireTimes, evaluate, workerState]
  dsimp only [Option.getD_none]
  by_cases empty : (dueTimesBetween parser definition.schedule anchorAt close none).isEmpty = true
  · have none' : ∀ due, ¬(IsDue parser definition.schedule anchorAt due ∧ due ≤ close) := by
      intro due isDue
      have member := (members due).mpr isDue
      rw [List.isEmpty_iff.mp empty] at member
      cases member
    rw [if_pos empty]
    apply iff_of_false List.not_mem_nil
    rintro (⟨_, isDue⟩ | ⟨_, _, due, isDue⟩)
    · exact none' time isDue
    · exact none' due isDue
  · have some' : ∃ due, IsDue parser definition.schedule anchorAt due ∧ due ≤ close := by
      rcases List.exists_mem_of_ne_nil _ (mt List.isEmpty_iff.mpr empty) with ⟨due, member⟩
      exact ⟨due, (members due).mp member⟩
    rw [if_neg empty]
    cases catchUpPolicy.getD .fireOnce with
    | fireOnce =>
        dsimp only
        rw [List.mem_singleton]
        simp [some']
    | fireAll =>
        dsimp only
        rw [members]
        simp

theorem fired_iff (anchorAt : Int) (catchUpPolicy : Option CatchUpPolicy) :
    (∀ time, time ∈ dueTimesBetween parser definition.schedule firstClose lastClose none ↔
      time ∈ fireTimes parser definition anchorAt catchUpPolicy lastClose ∧ firstClose < time) ↔
      AnchorFits parser firstClose lastClose anchorAt definition.schedule
        (catchUpPolicy.getD .fireOnce) := by
  have after : ∀ {time}, IsDue parser definition.schedule firstClose time → firstClose < time :=
    fun due => Recurrence.lt_of_due (next_later parser definition.schedule) due
  simp only [mem_dueTimesBetween, mem_fireTimes]
  cases catchUpPolicy.getD .fireOnce with
  | fireAll =>
      simp only [true_and, reduceCtorEq, false_and, or_false, AnchorFits]
      constructor
      · intro same time behind within
        have sameTime := same time
        tauto
      · intro same time
        constructor
        · rintro ⟨due, within⟩
          exact ⟨⟨(same time (after due) within).mp due, within⟩, after due⟩
        · rintro ⟨⟨due, within⟩, behind⟩
          exact ⟨(same time behind within).mpr due, within⟩
  | fireOnce =>
      simp only [true_and, reduceCtorEq, false_and, false_or, AnchorFits]
      constructor
      · intro same
        constructor
        · intro time due within
          exact ((same time).mp ⟨due, within⟩).1.1
        · intro proper
          constructor
          · intro due
            exact ((same lastClose).mp ⟨due, le_refl _⟩).1.2
          · intro fires
            exact ((same lastClose).mpr ⟨⟨rfl, fires⟩, proper⟩).1
      · rintro ⟨only, fires⟩ time
        constructor
        · rintro ⟨due, within⟩
          have isLast := only time due within
          subst isLast
          exact ⟨⟨rfl, (fires (after due)).mp due⟩, after due⟩
        · rintro ⟨⟨rfl, fired⟩, behind⟩
          exact ⟨(fires behind).mpr fired, le_refl _⟩

/-- The windows do not depend on the range, and are due when the worker fires, exactly if the
phase of an interval fits, no ledger has two due times and the anchor fits. -/
theorem rangeIndependent_iff (isTime : definition.worker.trigger = .time)
    (nondecreasing : index.Nondecreasing) (order : first ≤ middle) (orderToo : middle ≤ last)
    (firstCovered : index.closeTimeOfLedger first = some firstClose)
    (middleCovered : index.closeTimeOfLedger middle = some middleClose)
    (lastCovered : index.closeTimeOfLedger last = some lastClose) (anchorAt : Int)
    (catchUpPolicy : Option CatchUpPolicy) :
    RangeIndependent parser definition index latencyBoundLedgers first middle last firstClose
        lastClose anchorAt catchUpPolicy ↔
      PhaseFits index firstClose middleClose lastClose definition.schedule ∧
        OnePerLedger parser index firstClose lastClose definition.schedule ∧
        AnchorFits parser firstClose lastClose anchorAt definition.schedule
          (catchUpPolicy.getD .fireOnce) := by
  have closes : firstClose ≤ middleClose :=
    nondecreasing _ (ArrayLedgerCloseTimeIndex.mem_of_closeTime firstCovered) _
      (ArrayLedgerCloseTimeIndex.mem_of_closeTime middleCovered) order
  rw [← phaseFits_iff closes lastCovered, ← distinct_iff isTime firstCovered lastCovered,
    ← fired_iff anchorAt catchUpPolicy, ← splits_iff isTime nondecreasing orderToo firstCovered
      middleCovered lastCovered]
  exact ⟨fun independent => ⟨independent.splits, independent.distinct, independent.fired⟩,
    fun parts => ⟨parts.1, parts.2.1, parts.2.2⟩⟩

end Ranges

/-! ## An interval of ten milliseconds -/

def everyMinute : CronParser where
  next := fun _ _ time => (time / 60000 + 1) * 60000
  later := by
    intro _ _ time
    omega
  fixed := by
    intro _ _ time other before between
    dsimp only at between ⊢
    omega

def everyTen : TimeTriggerDefinition where
  id := js "w"
  worker := ⟨.time, js "CVAULT", js "disburse"⟩
  schedule := .interval 10 (by omega)

def closingAt (middleClose : Int) : ArrayLedgerCloseTimeIndex :=
  .ofEntries [(1, 0), (2, middleClose), (3, 20)]

/-- A ledger closes at each due time. -/
theorem ranges_in_phase :
    RangeIndependent everyMinute everyTen (closingAt 10) 5 1 2 3 0 20 0 (some .fireAll) := by
  have due : ∀ time, IsDue everyMinute everyTen.schedule 0 time ↔ 0 < time ∧ 10 ∣ time - 0 :=
    fun time => Recurrence.due_interval (by omega)
  have nondecreasing : (closingAt 10).Nondecreasing := by decide
  apply (rangeIndependent_iff rfl nondecreasing (by omega) (by omega) rfl
    (show (closingAt 10).closeTimeOfLedger 2 = some 10 from rfl) rfl 0 (some .fireAll)).mpr
  refine ⟨⟨?_, ?_⟩, ?_, fun _ _ _ => Iff.rfl⟩
  · intro time behind within multiple
    exact ⟨time, behind, within, by omega, rfl⟩
  · intro time behind within multiple
    exact ⟨time, behind, within, by omega, rfl⟩
  · intro time other isDue isDueToo within withinToo same
    rcases (due time).mp isDue with ⟨_, multiple⟩
    rcases (due other).mp isDueToo with ⟨_, multipleToo⟩
    have ten : time = 10 ∨ time = 20 := by omega
    have tenToo : other = 10 ∨ other = 20 := by omega
    revert same
    rcases ten with rfl | rfl <;> rcases tenToo with rfl | rfl <;> decide

/-- The close time of the ledger in the middle lies between two due times. The window of the
last ledger belongs to the range but to neither of its parts. -/
theorem range_out_of_phase :
    (closingAt 15).Nondecreasing ∧
      timeWindow (js "w") 3 5 ∈ derivedWindows everyMinute everyTen (closingAt 15) 5 1 3 ∧
      timeWindow (js "w") 3 5 ∉ derivedWindows everyMinute everyTen (closingAt 15) 5 1 2 ∧
      timeWindow (js "w") 3 5 ∉ derivedWindows everyMinute everyTen (closingAt 15) 5 2 3 := by
  decide

end Orbital.WorkerCore.TimeTrigger
