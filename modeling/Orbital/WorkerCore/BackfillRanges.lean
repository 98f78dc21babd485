import Orbital.WorkerCore.BackfillResume
import Orbital.WorkerCore.BackfillVerdicts

/-! # Backfills of adjacent ranges

A range that is backfilled in two parts gets the verdicts of one run, unless a window has
events on both sides of the cut.
-/

namespace Orbital.WorkerCore.Verdicts

open Foundation

namespace BackfillRunner

variable (platform : Platform) (options : BackfillOptions)

def span (first last : Nat) : BackfillOptions :=
  { options with range := ⟨first, last + 1⟩ }

def backfill (progress : Progress VerdictSink Checkpoint) : Progress VerdictSink Checkpoint :=
  Resumption.performAll VerdictSink.upsert progress (effects platform options progress.mark)

def rangeEvents : List VerificationEvent :=
  (allLedgers options).flatMap (kept platform options)

def SameVerdicts (sink other : VerdictSink) : Prop :=
  ∀ subject window, sink.verdict subject window = other.verdict subject window

variable {platform options}

/-! ## Events with their ledgers -/

variable {ledger : ExportLedger} {event : VerificationEvent} {events : List VerificationEvent}
  {first last : Nat}

theorem ledger_of_kept (member : event ∈ kept platform options ledger) :
    event.ledger = ledger.ledgerSequence :=
  (mem_fromExportLedger platform (List.mem_filter.mp member).1).1

theorem flatMap_filter_ledgers (keep : Nat → Bool) (ledgers : List ExportLedger) :
    (ledgers.filter fun ledger => keep ledger.ledgerSequence).flatMap (kept platform options) =
      (ledgers.flatMap (kept platform options)).filter fun event => keep event.ledger := by
  induction ledgers with
  | nil => rfl
  | cons ledger rest induction =>
      rw [List.flatMap_cons, List.filter_append, ← induction]
      cases kept_ : keep ledger.ledgerSequence with
      | true =>
          have all : (kept platform options ledger).filter (fun event => keep event.ledger) =
              kept platform options ledger := by
            apply List.filter_eq_self.mpr
            intro event member
            rw [ledger_of_kept member, kept_]
          rw [List.filter_cons_of_pos (by simpa using kept_), List.flatMap_cons, all]
      | false =>
          have none : (kept platform options ledger).filter (fun event => keep event.ledger) =
              [] := by
            apply List.filter_eq_nil_iff.mpr
            intro event member
            rw [ledger_of_kept member, kept_]
            exact Bool.false_ne_true
          rw [List.filter_cons_of_neg (by simp [kept_]), none, List.nil_append]

theorem ascending_events {ledgers : List ExportLedger}
    (ascending : ledgers.Pairwise fun first second =>
      first.ledgerSequence ≤ second.ledgerSequence) :
    (ledgers.flatMap (kept platform options)).Pairwise fun first second =>
      first.ledger ≤ second.ledger := by
  apply List.pairwise_flatMap.mpr
  constructor
  · intro ledger _
    apply List.pairwise_of_forall_mem_list
    intro first inside second insideToo
    rw [ledger_of_kept inside, ledger_of_kept insideToo]
  · refine ascending.imp ?_
    intro first second lower event member other memberToo
    rw [ledger_of_kept member, ledger_of_kept memberToo]
    exact lower

/-! ## Two lists of events -/

def eventCount (verdict : Option Verdict) : Nat :=
  verdict.elim 0 fun verdict => verdict.metrics.eventCount

theorem eventCount_verdictIn (readable : ∀ event ∈ events, Readable event) (subject : JsString)
    (window : Window) :
    eventCount (verdictIn platform options events subject window) =
      (inWindow options.windowSize subject window events).length := by
  rw [verdictIn]
  cases found : inWindow options.windowSize subject window events with
  | nil => rfl
  | cons first rest =>
      rw [← found, someEvents_of_ne_nil (found ▸ List.cons_ne_nil first rest), Option.bind_some]
      have allReadable : ∀ event ∈ inWindow options.windowSize subject window events,
          Readable event := fun event member => readable event (List.mem_filter.mp member).1
      rcases Option.isSome_iff_exists.mp
        ((@computeVerdict_isSome_iff platform subject window _ .backfill).mpr allReadable) with
        ⟨verdict, computed⟩
      rw [computed]
      exact (computeVerdict_eq_some computed).2.2.1

theorem verdictIn_of_nil {subject : JsString} {window : Window}
    (none : inWindow options.windowSize subject window events = []) :
    verdictIn platform options events subject window = Option.none := by
  rw [verdictIn, none]
  rfl

/-- Verdicts on two lists of events are those on both together if and only if no subject has
events of one window in both. -/
theorem verdicts_append_iff {front back : List VerificationEvent}
    (readable : ∀ event ∈ front ++ back, Readable event) (subject : JsString) (window : Window) :
    (verdictIn platform options back subject window).or
        (verdictIn platform options front subject window) =
      verdictIn platform options (front ++ back) subject window ↔
      inWindow options.windowSize subject window front = [] ∨
        inWindow options.windowSize subject window back = [] := by
  rcases List.forall_mem_append.mp readable with ⟨frontReadable, backReadable⟩
  constructor
  · intro same
    by_cases none : inWindow options.windowSize subject window back = []
    · exact .inr none
    · left
      have counts := congrArg eventCount same
      rw [eventCount_verdictIn readable, inWindow_append, List.length_append] at counts
      cases found : verdictIn platform options back subject window with
      | none =>
          have count := @eventCount_verdictIn platform options _ backReadable subject window
          rw [found] at count
          exact absurd (List.length_eq_zero_iff.mp count.symm) none
      | some verdict =>
          have count := @eventCount_verdictIn platform options _ backReadable subject window
          rw [found, Option.some_or, ← found, count] at counts
          exact List.length_eq_zero_iff.mp (by omega)
  · exact fun one => (verdictIn_append one).symm

/-! ## One run -/

def eventsFrom (platform : Platform) (options : BackfillOptions) (prior : Checkpoint) :
    List VerificationEvent :=
  (ledgersFrom options (effectiveRange options prior).startLedger).flatMap (kept platform options)

section OneRun

variable (canonical : ∀ text, canonicalAddress platform (canonicalAddress platform text) =
    canonicalAddress platform text)
  (consistent : options.source.Consistent)
  (ordered : InWindowOrder options.windowSize (allLedgers options))

include canonical

theorem scored_of_kept {ledger : ExportLedger} {event : VerificationEvent}
    (member : event ∈ kept platform options ledger) : Scored platform options event.subject := by
  rcases List.mem_filter.mp member with ⟨inLedger, isScored⟩
  rcases (mem_fromExportLedger platform inLedger).2 with ⟨subject, isCanonical⟩
  refine ⟨isScored, ?_⟩
  rw [isCanonical, canonical]

include consistent ordered

theorem completes_run_iff (prior : Checkpoint) :
    (run platform options prior).completes = true ↔
      ∀ event ∈ eventsFrom platform options prior, Readable event := by
  rw [run_eq consistent ordered, completes_flushChunks, flatMap_chunks]
  · rfl
  · rw [flatMap_chunks]
    intro event member
    rcases List.mem_flatMap.mp member with ⟨ledger, -, isKept⟩
    exact scored_of_kept canonical isKept

theorem after_backfill (progress : Progress VerdictSink Checkpoint)
    (readable : ∀ event ∈ eventsFrom platform options progress.mark, Readable event) :
    (∀ subject window, (backfill platform options progress).store.verdict subject window =
        (verdictIn platform options (eventsFrom platform options progress.mark) subject
          window).or (progress.store.verdict subject window)) ∧
      (backfill platform options progress).mark =
        checkpointAfter options (eventsFrom platform options progress.mark) progress.mark := by
  have completes := (completes_run_iff canonical consistent ordered progress.mark).mpr readable
  rw [run_eq consistent ordered] at completes
  rw [backfill, effects_eq consistent ordered]
  exact after_flushChunks (ordered.filter _) (fun ledger _ event => scored_of_kept canonical)
    completes progress

end OneRun

theorem eventsFrom_none (platform : Platform) (options : BackfillOptions) :
    eventsFrom platform options none = rangeEvents platform options := by
  have all : ledgersFrom options (effectiveRange options none).startLedger = allLedgers options :=
    List.filter_eq_self.mpr fun _ member => decide_eq_true (startLedger_le member)
  rw [eventsFrom, all, rangeEvents]

/-! ## Parts of a range -/

theorem mem_allLedgers_span (member : ledger ∈ allLedgers (span options first last)) :
    first ≤ ledger.ledgerSequence ∧ ledger.ledgerSequence ≤ last := by
  have covered := ExportReader.covers_of_mem_readFrom member
  rw [LedgerRange.covers, Bool.and_eq_true] at covered
  exact ⟨of_decide_eq_true covered.1, Nat.le_of_lt_succ (of_decide_eq_true covered.2)⟩

theorem mem_rangeEvents_span (member : event ∈ rangeEvents platform (span options first last)) :
    first ≤ event.ledger ∧ event.ledger ≤ last := by
  rcases List.mem_flatMap.mp member with ⟨ledger, isLedger, isKept⟩
  rw [ledger_of_kept isKept]
  exact mem_allLedgers_span isLedger

theorem filter_append_filter
    (ascending : events.Pairwise fun first second => first.ledger ≤ second.ledger) (cut : Nat) :
    events.filter (fun event => event.ledger ≤ cut) ++
      events.filter (fun event => cut + 1 ≤ event.ledger) = events := by
  induction events with
  | nil => rfl
  | cons event rest induction =>
      rcases List.pairwise_cons.mp ascending with ⟨fromEvent, inRest⟩
      by_cases before : event.ledger ≤ cut
      · have notBehind : ¬ cut + 1 ≤ event.ledger := Nat.not_le_of_lt (Nat.lt_succ_of_le before)
        rw [List.filter_cons_of_pos (by simpa using before),
          List.filter_cons_of_neg (by simpa using notBehind), List.cons_append, induction inRest]
      · have none : (event :: rest).filter (fun event => event.ledger ≤ cut) = [] := by
          apply List.filter_eq_nil_iff.mpr
          intro other member within
          have small := of_decide_eq_true within
          rcases List.mem_cons.mp member with rfl | later
          · exact before small
          · exact before (Nat.le_trans (fromEvent other later) small)
        have all : (event :: rest).filter (fun event => cut + 1 ≤ event.ledger) =
            event :: rest := by
          apply List.filter_eq_self.mpr
          intro other member
          apply decide_eq_true
          rcases List.mem_cons.mp member with rfl | later
          · exact Nat.lt_of_not_le before
          · exact Nat.le_trans (Nat.lt_of_not_le before) (fromEvent other later)
        rw [none, all, List.nil_append]

section Parts

variable {a b c : Nat} (consistent : options.source.Consistent)

include consistent

variable {first last : Nat}

theorem allLedgers_span (lower : a ≤ first) (upper : last ≤ c) :
    allLedgers (span options first last) =
      (allLedgers (span options a c)).filter fun ledger =>
        first ≤ ledger.ledgerSequence && ledger.ledgerSequence ≤ last := by
  have within : (⟨first, last + 1⟩ : LedgerRange).Within ⟨a, c + 1⟩ :=
    ⟨lower, Nat.succ_le_succ upper⟩
  rw [allLedgers, allLedgers]
  show ExportReader.read options.source ⟨first, last + 1⟩ = _
  rw [ExportReader.read_part consistent within]
  apply List.filter_congr
  intro ledger _
  rw [LedgerRange.covers]
  simp only [Nat.lt_succ_iff]

theorem rangeEvents_span (lower : a ≤ first) (upper : last ≤ c) :
    rangeEvents platform (span options first last) =
      (rangeEvents platform (span options a c)).filter fun event =>
        first ≤ event.ledger && event.ledger ≤ last := by
  rw [rangeEvents, allLedgers_span consistent lower upper]
  exact flatMap_filter_ledgers (fun number => first ≤ number && number ≤ last) _

theorem eventsFrom_span (lower : a ≤ first) (prior : Checkpoint) :
    eventsFrom platform (span options first c) prior =
      (rangeEvents platform (span options a c)).filter fun event =>
        (effectiveRange (span options first c) prior).startLedger ≤ event.ledger := by
  have above : first ≤ (effectiveRange (span options first c) prior).startLedger := by
    cases prior with
    | none => exact Nat.le_refl _
    | some last => exact Nat.le_max_right _ _
  have ledgers : ledgersFrom (span options first c)
      (effectiveRange (span options first c) prior).startLedger =
        (allLedgers (span options a c)).filter fun ledger =>
          (effectiveRange (span options first c) prior).startLedger ≤ ledger.ledgerSequence := by
    rw [ledgersFrom, allLedgers_span consistent lower (Nat.le_refl c), List.filter_filter]
    apply List.filter_congr
    intro ledger member
    have bound := (mem_allLedgers_span member).2
    rw [Bool.eq_iff_iff]
    simp only [Bool.and_eq_true, decide_eq_true_eq]
    omega
  rw [eventsFrom, ledgers]
  exact flatMap_filter_ledgers
    (fun number => (effectiveRange (span options first c) prior).startLedger ≤ number) _

theorem rangeEvents_split (lower : a ≤ b) (upper : b < c)
    (ascending : (allLedgers (span options a c)).Pairwise fun first second =>
      first.ledgerSequence ≤ second.ledgerSequence) :
    rangeEvents platform (span options a b) ++ rangeEvents platform (span options (b + 1) c) =
      rangeEvents platform (span options a c) := by
  rw [rangeEvents_span consistent (Nat.le_refl a) (Nat.le_of_lt upper),
    rangeEvents_span consistent (Nat.le_succ_of_le lower) (Nat.le_refl c)]
  refine Eq.trans ?_ (filter_append_filter (ascending_events ascending) b)
  congr 1
  · apply List.filter_congr
    intro event member
    rw [decide_eq_true (mem_rangeEvents_span member).1, Bool.true_and]
  · apply List.filter_congr
    intro event member
    rw [decide_eq_true (mem_rangeEvents_span member).2, Bool.and_true]

end Parts

/-! ## The window of the cut -/

def atCut (windowSize b : Nat) (events : List VerificationEvent) : List VerificationEvent :=
  events.filter fun event => windowFor event.ledger windowSize = windowFor (b + 1) windowSize

def before (platform : Platform) (options : BackfillOptions) (a b : Nat) : List VerificationEvent :=
  atCut options.windowSize b (rangeEvents platform (span options a b))

def behind (platform : Platform) (options : BackfillOptions) (b c : Nat) : List VerificationEvent :=
  atCut options.windowSize b (rangeEvents platform (span options (b + 1) c))

section Cut

variable {windowSize b : Nat} (positive : 0 < windowSize) {front back : List VerificationEvent}
  (before : ∀ event ∈ front, event.ledger ≤ b) (behind : ∀ event ∈ back, b + 1 ≤ event.ledger)

include positive before behind

theorem mem_atCut {first second : VerificationEvent} (inFront : first ∈ front)
    (inBack : second ∈ back)
    (same : windowFor first.ledger windowSize = windowFor second.ledger windowSize) :
    first ∈ atCut windowSize b front ∧ second ∈ atCut windowSize b back := by
  have windows := (windowFor_eq_iff positive _ _).mp same
  have low : first.ledger / windowSize ≤ (b + 1) / windowSize :=
    Nat.div_le_div_right (Nat.le_succ_of_le (before first inFront))
  have high : (b + 1) / windowSize ≤ second.ledger / windowSize :=
    Nat.div_le_div_right (behind second inBack)
  have atFront : windowFor first.ledger windowSize = windowFor (b + 1) windowSize :=
    (windowFor_eq_iff positive _ _).mpr (by omega)
  refine ⟨List.mem_filter.mpr ⟨inFront, decide_eq_true atFront⟩, ?_⟩
  exact List.mem_filter.mpr ⟨inBack, decide_eq_true (same.symm.trans atFront)⟩

theorem one_side_iff :
    (∀ subject window, inWindow windowSize subject window front = [] ∨
        inWindow windowSize subject window back = []) ↔
      ∀ first ∈ atCut windowSize b front, ∀ second ∈ atCut windowSize b back,
        first.subject ≠ second.subject := by
  constructor
  · intro one first inFront second inBack same
    rcases List.mem_filter.mp inFront with ⟨isFirst, firstWindow⟩
    rcases List.mem_filter.mp inBack with ⟨isSecond, secondWindow⟩
    rcases one first.subject (windowFor (b + 1) windowSize) with none | none
    · refine List.filter_eq_nil_iff.mp none first isFirst (decide_eq_true ⟨?_, rfl⟩)
      exact of_decide_eq_true firstWindow
    · refine List.filter_eq_nil_iff.mp none second isSecond (decide_eq_true ⟨?_, same.symm⟩)
      exact of_decide_eq_true secondWindow
  · intro different subject window
    by_cases none : inWindow windowSize subject window front = []
    · exact .inl none
    · right
      rcases List.exists_mem_of_ne_nil _ none with ⟨first, inside⟩
      rcases List.mem_filter.mp inside with ⟨isFirst, found⟩
      rcases of_decide_eq_true found with ⟨firstWindow, firstSubject⟩
      apply List.filter_eq_nil_iff.mpr
      intro second isSecond foundToo
      rcases of_decide_eq_true foundToo with ⟨secondWindow, secondSubject⟩
      rcases mem_atCut positive before behind isFirst isSecond (firstWindow.trans secondWindow.symm)
        with ⟨inFront, inBack⟩
      exact different first inFront second inBack (firstSubject.trans secondSubject.symm)

theorem one_side_of_empty
    (empty : atCut windowSize b front = [] ∨ atCut windowSize b back = []) (subject : JsString)
    (window : Window) : inWindow windowSize subject window front = [] ∨
      inWindow windowSize subject window back = [] := by
  apply (one_side_iff positive before behind).mpr
  intro first inFront second inBack
  rcases empty with none | none
  · rw [none] at inFront
    cases inFront
  · rw [none] at inBack
    cases inBack

end Cut

section Cut

variable {a b c first : Nat} (lower : a ≤ b) (upper : b < c) (from_ : a ≤ first)
  (upTo : first ≤ b + 1) (consistent : options.source.Consistent)
  (ascending : (allLedgers (span options a c)).Pairwise fun first second =>
    first.ledgerSequence ≤ second.ledgerSequence)

include lower upper from_ upTo consistent ascending

/-- With the checkpoint of the first part, the second run leaves out what is in the window of
the cut if the first part has events there. -/
theorem eventsFrom_checkpoint :
    eventsFrom platform (span options first c)
        (checkpointAfter options (rangeEvents platform (span options a b)) none) =
      if before platform options a b = [] then
        rangeEvents platform (span options (b + 1) c)
      else (rangeEvents platform (span options (b + 1) c)).filter fun event =>
        (windowFor (b + 1) options.windowSize).endLedger ≤ event.ledger := by
  have behind : ∀ event ∈ rangeEvents platform (span options (b + 1) c), b + 1 ≤ event.ledger :=
    fun event member => (mem_rangeEvents_span member).1
  rw [eventsFrom_span consistent from_, ← rangeEvents_split consistent lower upper ascending,
    List.filter_append, before]
  cases last : (rangeEvents platform (span options a b)).getLast? with
  | none =>
      rw [List.getLast?_eq_none_iff.mp last]
      refine (List.filter_eq_self.mpr ?_).trans (if_pos rfl).symm
      exact fun event member => decide_eq_true (Nat.le_trans upTo (behind event member))
  | some event =>
      have inFront := List.mem_of_getLast? last
      have isLast : ∀ other ∈ rangeEvents platform (span options a b),
          other.ledger ≤ event.ledger := by
        intro other member
        have ordered : (rangeEvents platform (span options a b)).Pairwise fun first second =>
            first.ledger ≤ second.ledger := by
          rw [rangeEvents_span consistent (Nat.le_refl a) (Nat.le_of_lt upper)]
          exact (ascending_events ascending).filter _
        have isEvent := (List.getLast?_eq_some_getLast (List.ne_nil_of_mem member)).symm.trans last
        rw [← Option.some.inj isEvent]
        exact ordered.rel_getLast_of_rel_getLast_getLast member (Nat.le_refl _)
      have saved : checkpointAfter options (rangeEvents platform (span options a b)) none =
          some ((windowFor event.ledger options.windowSize).endLedger - 1) := by
        rw [checkpointAfter, last]
      have start : (effectiveRange (span options first c)
          (some ((windowFor event.ledger options.windowSize).endLedger - 1))).startLedger =
            max (windowFor event.ledger options.windowSize).endLedger first :=
        effectiveRange_saved (span options first c) event.ledger
      have low : event.ledger ≤ b + 1 := Nat.le_succ_of_le (mem_rangeEvents_span inFront).2
      have ends := lt_endLedger options.positive event.ledger
      have noneBefore : (rangeEvents platform (span options a b)).filter (fun other =>
          max (windowFor event.ledger options.windowSize).endLedger first ≤ other.ledger) = [] := by
        apply List.filter_eq_nil_iff.mpr
        intro other member late
        have low := isLast other member
        have high := Nat.le_trans (Nat.le_max_left _ _) (of_decide_eq_true late)
        omega
      rw [saved, start, noneBefore, List.nil_append]
      split
      · rename_i none
        -- the last event of the first part is in an earlier window than the cut
        have other : windowFor event.ledger options.windowSize ≠
            windowFor (b + 1) options.windowSize := fun same =>
          List.filter_eq_nil_iff.mp none event inFront (decide_eq_true same)
        have ended : (windowFor event.ledger options.windowSize).endLedger ≤ b + 1 := by
          apply (endLedger_le_iff options.positive _ _).mpr
          refine Nat.lt_of_le_of_ne (Nat.div_le_div_right low) ?_
          exact fun same => other ((windowFor_eq_iff options.positive _ _).mpr same)
        apply List.filter_eq_self.mpr
        intro later member
        exact decide_eq_true (Nat.le_trans (Nat.max_le.mpr ⟨ended, upTo⟩) (behind later member))
      · rename_i some_
        rcases List.exists_mem_of_ne_nil _ some_ with ⟨other, inside⟩
        rcases List.mem_filter.mp inside with ⟨isOther, inWindow⟩
        have sameOther := (windowFor_eq_iff options.positive _ _).mp (of_decide_eq_true inWindow)
        have same : windowFor event.ledger options.windowSize =
            windowFor (b + 1) options.windowSize := by
          apply (windowFor_eq_iff options.positive _ _).mpr
          apply Nat.le_antisymm (Nat.div_le_div_right low)
          rw [← sameOther]
          exact Nat.div_le_div_right (isLast other isOther)
        have ends := lt_endLedger options.positive (b + 1)
        rw [same, Nat.max_eq_left (Nat.le_trans upTo (Nat.le_of_lt ends))]

end Cut

/-! ## Two runs and one -/

section Runs

variable (platform : Platform) (options : BackfillOptions) (a b c : Nat)

def firstRun : Progress VerdictSink Checkpoint :=
  backfill platform (span options a b) fresh

def secondRun (start : Nat) (checkpoint : Checkpoint) : VerdictSink :=
  (backfill platform (span options start c)
    ⟨(firstRun platform options a b).store, checkpoint⟩).store

def oneRun : VerdictSink :=
  (backfill platform (span options a c) fresh).store

end Runs

section Compose

variable {a b c : Nat}
  (canonical : ∀ text, canonicalAddress platform (canonicalAddress platform text) =
    canonicalAddress platform text)
  (lower : a ≤ b) (upper : b < c) (consistent : options.source.Consistent)
  (ascending : (allLedgers (span options a c)).Pairwise fun first second =>
    first.ledgerSequence ≤ second.ledgerSequence)
  (completes : (run platform (span options a c) none).completes = true)

include consistent ascending

variable {first last start : Nat}

theorem inWindowOrder_span (from_ : a ≤ first) (upTo : last ≤ c) :
    InWindowOrder options.windowSize (allLedgers (span options first last)) := by
  apply inWindowOrder_of_ascending
  rw [allLedgers_span consistent from_ upTo]
  exact ascending.filter _

include canonical completes

theorem readable_all : ∀ event ∈ rangeEvents platform (span options a c), Readable event := by
  have ordered : InWindowOrder (span options a c).windowSize (allLedgers (span options a c)) :=
    inWindowOrder_span consistent ascending (Nat.le_refl a) (Nat.le_refl c)
  have consistent : (span options a c).source.Consistent := consistent
  rw [← eventsFrom_none]
  exact (completes_run_iff canonical consistent ordered none).mp completes

theorem after_part (from_ : a ≤ first) (upTo : last ≤ c)
    (progress : Progress VerdictSink Checkpoint) :
    (∀ subject window,
      (backfill platform (span options first last) progress).store.verdict subject window =
        (verdictIn platform options (eventsFrom platform (span options first last) progress.mark)
          subject window).or (progress.store.verdict subject window)) ∧
      (backfill platform (span options first last) progress).mark =
        checkpointAfter options (eventsFrom platform (span options first last) progress.mark)
          progress.mark := by
  have ordered : InWindowOrder (span options first last).windowSize
      (allLedgers (span options first last)) :=
    inWindowOrder_span consistent ascending from_ upTo
  have readable : ∀ event ∈ eventsFrom platform (span options first last) progress.mark,
      Readable event := by
    intro event member
    rcases List.mem_flatMap.mp member with ⟨ledger, isLedger, isKept⟩
    have inPart : event ∈ rangeEvents platform (span options first last) :=
      List.mem_flatMap.mpr ⟨ledger, (List.mem_filter.mp isLedger).1, isKept⟩
    rw [rangeEvents_span consistent from_ upTo] at inPart
    exact readable_all canonical consistent ascending completes event (List.mem_filter.mp inPart).1
  have consistent : (span options first last).source.Consistent := consistent
  exact after_backfill canonical consistent ordered progress readable

theorem verdict_oneRun (subject : JsString) (window : Window) :
    (oneRun platform options a c).verdict subject window =
      verdictIn platform options (rangeEvents platform (span options a c)) subject window := by
  have after := (after_part canonical consistent ascending completes (Nat.le_refl a)
    (Nat.le_refl c) fresh).1 subject window
  rw [← eventsFrom_none]
  exact after.trans Option.or_none

include upper

theorem verdict_firstRun (subject : JsString) (window : Window) :
    (firstRun platform options a b).store.verdict subject window =
      verdictIn platform options (rangeEvents platform (span options a b)) subject window := by
  have after := (after_part canonical consistent ascending completes (Nat.le_refl a)
    (Nat.le_of_lt upper) fresh).1 subject window
  rw [← eventsFrom_none]
  exact after.trans Option.or_none

theorem mark_firstRun : (firstRun platform options a b).mark =
    checkpointAfter options (rangeEvents platform (span options a b)) none := by
  rw [← eventsFrom_none]
  exact (after_part canonical consistent ascending completes (Nat.le_refl a)
    (Nat.le_of_lt upper) fresh).2

theorem verdict_secondRun (from_ : a ≤ start) (checkpoint : Checkpoint) (subject : JsString)
    (window : Window) :
    (secondRun platform options a b c start checkpoint).verdict subject window =
      (verdictIn platform options (eventsFrom platform (span options start c) checkpoint) subject
        window).or
        (verdictIn platform options (rangeEvents platform (span options a b)) subject window) := by
  rw [← verdict_firstRun canonical upper consistent ascending completes]
  exact (after_part canonical consistent ascending completes from_ (Nat.le_refl c)
    ⟨(firstRun platform options a b).store, checkpoint⟩).1 subject window

include lower

/-- The two parts give the verdicts of one run if and only if for each subject and window only
one of them has events. -/
theorem sameVerdicts_append_iff {sink : VerdictSink}
    (parts : ∀ subject window, sink.verdict subject window =
      (verdictIn platform options (rangeEvents platform (span options (b + 1) c)) subject window).or
        (verdictIn platform options (rangeEvents platform (span options a b)) subject window)) :
    SameVerdicts sink (oneRun platform options a c) ↔
      ∀ subject window,
        inWindow options.windowSize subject window (rangeEvents platform (span options a b)) = [] ∨
          inWindow options.windowSize subject window
            (rangeEvents platform (span options (b + 1) c)) = [] := by
  have readable := readable_all canonical consistent ascending completes
  rw [← rangeEvents_split consistent lower upper ascending] at readable
  refine forall_congr' fun subject => forall_congr' fun window => ?_
  rw [parts, verdict_oneRun canonical consistent ascending completes,
    ← rangeEvents_split consistent lower upper ascending]
  exact verdicts_append_iff readable subject window

/-- Without a checkpoint, the second run writes verdicts on its own events only. -/
theorem fresh_iff :
    SameVerdicts (secondRun platform options a b c (b + 1) none) (oneRun platform options a c) ↔
      ∀ first ∈ before platform options a b, ∀ second ∈ behind platform options b c,
        first.subject ≠ second.subject := by
  rw [sameVerdicts_append_iff canonical lower upper consistent ascending completes,
    one_side_iff options.positive (fun _ member => (mem_rangeEvents_span member).2)
      fun _ member => (mem_rangeEvents_span member).1]
  · rfl
  · intro subject window
    rw [verdict_secondRun canonical upper consistent ascending completes
      (Nat.le_succ_of_le lower), eventsFrom_none]

/-- With the checkpoint of the first part, the second run leaves out the window of the cut if
there is a verdict on it. -/
theorem checkpoint_iff (from_ : a ≤ start) (upTo : start ≤ b + 1) :
    SameVerdicts (secondRun platform options a b c start (firstRun platform options a b).mark)
        (oneRun platform options a c) ↔
      before platform options a b = [] ∨ behind platform options b c = [] := by
  have low : ∀ event ∈ rangeEvents platform (span options a b), event.ledger ≤ b :=
    fun _ member => (mem_rangeEvents_span member).2
  have high : ∀ event ∈ rangeEvents platform (span options (b + 1) c), b + 1 ≤ event.ledger :=
    fun _ member => (mem_rangeEvents_span member).1
  have readEvents := @eventsFrom_checkpoint platform options a b c start lower upper from_ upTo
    consistent ascending
  rw [mark_firstRun canonical upper consistent ascending completes]
  by_cases none : before platform options a b = []
  · rw [if_pos none] at readEvents
    refine iff_of_true ?_ (.inl none)
    apply (sameVerdicts_append_iff canonical lower upper consistent ascending completes ?_).mpr
    · exact one_side_of_empty options.positive low high (.inl none)
    · intro subject window
      rw [verdict_secondRun canonical upper consistent ascending completes from_, readEvents]
  · rw [if_neg none] at readEvents
    constructor
    · intro same
      right
      apply List.eq_nil_iff_forall_not_mem.mpr
      intro event member
      rcases List.mem_filter.mp member with ⟨inBack, inWindow_⟩
      have window := of_decide_eq_true inWindow_
      have counts := congrArg eventCount (same event.subject (windowFor (b + 1) options.windowSize))
      have skipped : inWindow options.windowSize event.subject
          (windowFor (b + 1) options.windowSize)
          ((rangeEvents platform (span options (b + 1) c)).filter fun event =>
            (windowFor (b + 1) options.windowSize).endLedger ≤ event.ledger) = [] := by
        apply List.filter_eq_nil_iff.mpr
        intro other isOther found
        have late := of_decide_eq_true (List.mem_filter.mp isOther).2
        have ends := lt_endLedger options.positive other.ledger
        rw [(of_decide_eq_true found).1] at ends
        exact absurd late (Nat.not_le_of_lt ends)
      have readable := readable_all canonical consistent ascending completes
      rw [← rangeEvents_split consistent lower upper ascending] at readable
      rw [verdict_secondRun canonical upper consistent ascending completes from_, readEvents,
        verdictIn_of_nil skipped, Option.none_or,
        verdict_oneRun canonical consistent ascending completes,
        ← rangeEvents_split consistent lower upper ascending, eventCount_verdictIn readable,
        eventCount_verdictIn (List.forall_mem_append.mp readable).1, inWindow_append,
        List.length_append] at counts
      have inside : event ∈ inWindow options.windowSize event.subject
          (windowFor (b + 1) options.windowSize) (rangeEvents platform (span options (b + 1) c)) :=
        List.mem_filter.mpr ⟨inBack, decide_eq_true ⟨window, rfl⟩⟩
      have some_ := List.length_pos_of_mem inside
      omega
    · rintro (never | noneBehind)
      · exact absurd never none
      · apply (sameVerdicts_append_iff canonical lower upper consistent ascending completes ?_).mpr
        · exact one_side_of_empty options.positive low high (.inr noneBehind)
        · intro subject window
          have all : (rangeEvents platform (span options (b + 1) c)).filter (fun event =>
              (windowFor (b + 1) options.windowSize).endLedger ≤ event.ledger) =
              rangeEvents platform (span options (b + 1) c) := by
            apply List.filter_eq_self.mpr
            intro event member
            have other : windowFor event.ledger options.windowSize ≠
                windowFor (b + 1) options.windowSize := fun same =>
              List.filter_eq_nil_iff.mp noneBehind event member (decide_eq_true same)
            apply decide_eq_true
            apply (endLedger_le_iff options.positive _ _).mpr
            refine Nat.lt_of_le_of_ne (Nat.div_le_div_right (high event member)) ?_
            exact fun same => other ((windowFor_eq_iff options.positive _ _).mpr same.symm)
          rw [verdict_secondRun canonical upper consistent ascending completes from_, readEvents,
            all]

/-- When two runs, with or without the checkpoint of the first one, leave the verdicts of one
run. -/
theorem composes_iff :
    (SameVerdicts (secondRun platform options a b c (b + 1) none) (oneRun platform options a c) ↔
        ∀ first ∈ before platform options a b, ∀ second ∈ behind platform options b c,
          first.subject ≠ second.subject) ∧
      ∀ start, a ≤ start → start ≤ b + 1 →
        (SameVerdicts (secondRun platform options a b c start (firstRun platform options a b).mark)
            (oneRun platform options a c) ↔
          before platform options a b = [] ∨ behind platform options b c = []) := by
  constructor
  · exact fresh_iff canonical lower upper consistent ascending completes
  · intro start from_ upTo
    exact checkpoint_iff canonical lower upper consistent ascending completes from_ upTo

end Compose

/-- A cut between two windows has no events before it in the window behind it. -/
theorem before_of_aligned {a b : Nat}
    (aligned : windowStartFor (b + 1) options.windowSize = b + 1) :
    before platform options a b = [] := by
  apply List.filter_eq_nil_iff.mpr
  intro event member same
  have low := (mem_rangeEvents_span member).2
  have start : (windowFor event.ledger options.windowSize).startLedger = b + 1 :=
    (congrArg Window.startLedger (of_decide_eq_true same)).trans aligned
  have inside : windowStartFor event.ledger options.windowSize ≤ event.ledger :=
    Nat.div_mul_le_self _ _
  have ahead : b + 1 ≤ event.ledger := start ▸ inside
  omega

/-! ### Two ledgers in two windows, and in one -/

def ledgersOf (exported : List ExportLedger) : BackfillOptions :=
  twoWindows (memoryExportSource exported)

/-- A cut between the windows of the two ledgers. -/
theorem between_windows :
    SameVerdicts (secondRun asciiPlatform (ledgersOf [oneFee 5, oneFee 15]) 0 9 19 10 none)
        (oneRun asciiPlatform (ledgersOf [oneFee 5, oneFee 15]) 0 19) ∧
      SameVerdicts
        (secondRun asciiPlatform (ledgersOf [oneFee 5, oneFee 15]) 0 9 19 0
          (firstRun asciiPlatform (ledgersOf [oneFee 5, oneFee 15]) 0 9).mark)
        (oneRun asciiPlatform (ledgersOf [oneFee 5, oneFee 15]) 0 19) := by
  have aligned : before asciiPlatform (ledgersOf [oneFee 5, oneFee 15]) 0 9 = [] :=
    before_of_aligned rfl
  have completes :
      (run asciiPlatform (span (ledgersOf [oneFee 5, oneFee 15]) 0 19) none).completes = true := by
    decide
  have composes := @composes_iff asciiPlatform (ledgersOf [oneFee 5, oneFee 15]) 0 9 19
    canonicalAddress_asciiPlatform (by decide) (by decide) (consistent_memoryExportSource _)
    (@ascending_memoryExportSource (span (ledgersOf [oneFee 5, oneFee 15]) 0 19) _ rfl) completes
  refine ⟨composes.1.mpr ?_, (composes.2 0 (by decide) (by decide)).mpr (.inl aligned)⟩
  rw [aligned]
  exact fun _ member => absurd member List.not_mem_nil

/-- Behind a cut through the window, the second run writes over the verdict of the first one, or
leaves out what is behind the cut. -/
theorem cut_window :
    ¬ SameVerdicts (secondRun asciiPlatform (ledgersOf [oneFee 5, oneFee 6]) 0 5 9 6 none)
        (oneRun asciiPlatform (ledgersOf [oneFee 5, oneFee 6]) 0 9) ∧
      ¬ SameVerdicts
        (secondRun asciiPlatform (ledgersOf [oneFee 5, oneFee 6]) 0 5 9 6
          (firstRun asciiPlatform (ledgersOf [oneFee 5, oneFee 6]) 0 5).mark)
        (oneRun asciiPlatform (ledgersOf [oneFee 5, oneFee 6]) 0 9) ∧
      ¬ SameVerdicts
        (secondRun asciiPlatform (ledgersOf [oneFee 5, oneFee 6]) 0 5 9 0
          (firstRun asciiPlatform (ledgersOf [oneFee 5, oneFee 6]) 0 5).mark)
        (oneRun asciiPlatform (ledgersOf [oneFee 5, oneFee 6]) 0 9) := by
  have counted : eventCount ((oneRun asciiPlatform (ledgersOf [oneFee 5, oneFee 6]) 0 9).verdict
      (js "GA") ⟨0, 10⟩) = 2 := by
    decide
  have different {sink : VerdictSink} (one : eventCount (sink.verdict (js "GA") ⟨0, 10⟩) = 1) :
      ¬ SameVerdicts sink (oneRun asciiPlatform (ledgersOf [oneFee 5, oneFee 6]) 0 9) := by
    intro same
    rw [same, counted] at one
    cases one
  refine ⟨different ?_, different ?_, different ?_⟩
  all_goals decide

end BackfillRunner

end Orbital.WorkerCore.Verdicts
