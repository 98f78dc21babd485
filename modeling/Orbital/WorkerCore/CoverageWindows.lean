import Mathlib.Data.Int.ConditionallyCompleteOrder
import Orbital.Foundation.Intervals
import Orbital.WorkerCore.BackstopSubscription

/-! # `worker-core/src/subscription/coverage.ts`: what the record answers

The answer for one ledger, and the answer for a window, which is swept over the stored windows
that meet it.
-/

namespace Orbital.WorkerCore.Subscription

open Foundation

inductive WindowCoverage
  | covered
  | uncovered
  | inPart
  | unknown
  deriving DecidableEq

def WindowCoverage.text : WindowCoverage → JsString
  | .covered => js "covered"
  | .uncovered => js "uncovered"
  | .inPart => js "partial"
  | .unknown => js "unknown"

namespace InMemoryCoverageLedger

def findAt (coverage : InMemoryCoverageLedger) (subscriptionId : JsString) (ledger : Int) :
    Except CoverageLedgerError (Option CoverageWindow) := do
  CoverageWindow.assertLedger ledger (js "ledger")
  return (coverage.history subscriptionId).find? fun window =>
    window.startLedger ≤ ledger && ledger < window.endLedger

end InMemoryCoverageLedger

def wasCovered (coverage : InMemoryCoverageLedger) (subscriptionId : JsString)
    (atLedger : Int) : Except CoverageLedgerError (Option Bool) := do
  let window ← coverage.findAt subscriptionId atLedger
  return window.map CoverageWindow.covered

def overlapping (coverage : InMemoryCoverageLedger) (subscriptionId : JsString)
    (startLedger endLedger : Int) : List CoverageWindow :=
  (coverage.history subscriptionId).filter fun window =>
    startLedger < window.endLedger && window.startLedger < endLedger

def countedCoverage (overlapping : List CoverageWindow) : WindowCoverage :=
  let covered := (overlapping.filter CoverageWindow.covered).length
  if covered = overlapping.length then .covered
  else if covered = 0 then .uncovered
  else .inPart

def coverageForWindow (coverage : InMemoryCoverageLedger) (subscriptionId : JsString)
    (startLedger endLedger : Int) : Except CoverageLedgerError WindowCoverage := do
  CoverageWindow.assertLedger startLedger (js "startLedger")
  CoverageWindow.assertLedger endLedger (js "endLedger")
  if endLedger ≤ startLedger then
    .error ⟨.emptyWindow, js "A coverage window must span at least one ledger, got " ++
      spanText startLedger endLedger⟩
  else
    let overlapping := overlapping coverage subscriptionId startLedger endLedger
    if overlapping.length = 0 then return .unknown
    else
      match sweep CoverageWindow.startLedger CoverageWindow.endLedger startLedger overlapping with
      | none => return .unknown
      | some cursor =>
          if cursor < endLedger then return .unknown
          else return countedCoverage overlapping

/-! ## Histories -/

def appendAll (windows : List CoverageWindow) : Except CoverageLedgerError InMemoryCoverageLedger :=
  windows.foldlM InMemoryCoverageLedger.append .empty

structure Sound (windows : List CoverageWindow) : Prop where
  proper : ∀ window ∈ windows, window.startLedger < window.endLedger
  order : windows.Pairwise fun window later => window.endLedger ≤ later.startLedger

namespace Sound

theorem nil : Sound [] where
  proper _ member := nomatch member
  order := .nil

variable {windows : List CoverageWindow}

theorem filter (sound : Sound windows) (keep : CoverageWindow → Bool) :
    Sound (windows.filter keep) where
  proper window member := sound.proper window (List.mem_filter.mp member).1
  order := sound.order.filter keep

theorem sorted (sound : Sound windows) :
    windows.Pairwise fun window later => window.startLedger ≤ later.startLedger := by
  apply sound.order.imp_of_mem
  intro window later member _ before
  exact le_trans (le_of_lt (sound.proper window member)) before

end Sound

theorem sound_sorted {windows : List CoverageWindow}
    (proper : ∀ window ∈ windows, window.startLedger < window.endLedger)
    (apart : windows.Pairwise fun window later => ¬ window.overlaps later) :
    Sound (InMemoryCoverageLedger.sorted windows) := by
  have rearranged : (InMemoryCoverageLedger.sorted windows).Perm windows :=
    List.perm_insertionSort _ _
  have properToo (window : CoverageWindow)
      (member : window ∈ InMemoryCoverageLedger.sorted windows) :
      window.startLedger < window.endLedger :=
    proper window (rearranged.mem_iff.mp member)
  refine ⟨properToo, pairwise_last_le properToo (List.pairwise_insertionSort _ _) ?_⟩
  apply (rearranged.pairwise_iff _).mpr
  · exact apart.imp fun noOverlap => by simpa [CoverageWindow.overlaps] using noOverlap
  · intro window later noOverlap meets
    exact noOverlap ⟨meets.2, meets.1⟩

namespace InMemoryCoverageLedger

variable {coverage next : InMemoryCoverageLedger} {window : CoverageWindow}

theorem history_set (windows : List CoverageWindow) (subscriptionId other : JsString) :
    history ⟨coverage.bySubscription.set subscriptionId windows⟩ other =
      if other = subscriptionId then windows else coverage.history other := by
  rw [history, InsertionMap.get?_set]
  split <;> rfl

theorem append_cases (appended : coverage.append window = .ok next) :
    window.startLedger < window.endLedger ∧
      (∀ stored ∈ coverage.history window.subscriptionId, ¬ window.overlaps stored) ∧
      ∀ subscriptionId, next.history subscriptionId =
        if subscriptionId = window.subscriptionId then
          sorted (coverage.history window.subscriptionId ++ [window])
        else coverage.history subscriptionId := by
  have valid : window.startLedger < window.endLedger := by
    by_contra empty
    rw [append, CoverageWindow.assertValidCoverageWindow, if_pos (not_lt.mp empty)] at appended
    cases first : CoverageWindow.assertLedger window.startLedger (js "startLedger") with
    | error error =>
        rw [first] at appended
        cases appended
    | ok =>
        cases second : CoverageWindow.assertLedger window.endLedger (js "endLedger") with
        | error error | ok =>
            rw [first, second] at appended
            cases appended
  rw [append] at appended
  cases checked : window.assertValidCoverageWindow with
  | error error =>
      rw [checked] at appended
      cases appended
  | ok =>
      rw [checked] at appended
      dsimp only [bind, Except.bind] at appended
      cases found : (coverage.history window.subscriptionId).find? window.overlaps with
      | some stored =>
          rw [found] at appended
          cases appended
      | none =>
          rw [found, Except.ok.injEq] at appended
          refine ⟨valid, List.find?_eq_none.mp found, fun subscriptionId => ?_⟩
          rw [← appended, history_set]

structure Stores (coverage : InMemoryCoverageLedger) (windows : List CoverageWindow) : Prop where
  sound : ∀ subscriptionId, Sound (coverage.history subscriptionId)
  mem_iff : ∀ subscriptionId window, window ∈ coverage.history subscriptionId ↔
    window ∈ windows ∧ window.subscriptionId = subscriptionId

theorem stores_empty : empty.Stores [] where
  sound _ := .nil
  mem_iff subscriptionId window := by simp [empty, history]

variable {windows : List CoverageWindow}

theorem Stores.append (stores : coverage.Stores windows)
    (appended : coverage.append window = .ok next) : next.Stores (windows ++ [window]) := by
  rcases append_cases appended with ⟨proper, apart, stored⟩
  have soundToo := stores.sound window.subscriptionId
  constructor
  · intro subscriptionId
    rw [stored]
    split
    · apply sound_sorted
      · intro other member
        rcases List.mem_append.mp member with before | new
        · exact soundToo.proper other before
        · rw [List.mem_singleton.mp new]
          exact proper
      · apply List.pairwise_append.mpr
        refine ⟨?_, List.pairwise_singleton _ _, ?_⟩
        · apply soundToo.order.imp
          intro first second before
          simp [CoverageWindow.overlaps, before]
        · intro other member new isNew
          have noOverlap := apart other member
          rw [List.mem_singleton.mp isNew]
          simpa [CoverageWindow.overlaps, and_comm] using noOverlap
    · exact stores.sound subscriptionId
  · intro subscriptionId other
    rw [stored]
    split
    · rename_i same
      rw [same, sorted, List.mem_insertionSort, List.mem_append, stores.mem_iff, List.mem_append,
        List.mem_singleton]
      constructor
      · rintro (before | rfl)
        · exact ⟨.inl before.1, before.2⟩
        · exact ⟨.inr rfl, rfl⟩
      · rintro ⟨before | new, isSame⟩
        · exact .inl ⟨before, isSame⟩
        · exact .inr new
    · rename_i different
      rw [stores.mem_iff, List.mem_append, List.mem_singleton]
      constructor
      · exact fun before => ⟨.inl before.1, before.2⟩
      · rintro ⟨before | rfl, isSame⟩
        · exact ⟨before, isSame⟩
        · exact absurd isSame.symm different

theorem stores_appendAll (appended : appendAll windows = .ok coverage) :
    coverage.Stores windows := by
  induction windows using List.reverseRecOn generalizing coverage with
  | nil =>
      cases appended
      exact stores_empty
  | append_singleton windows window induction =>
      rw [appendAll, List.foldlM_append] at appended
      cases before : windows.foldlM InMemoryCoverageLedger.append .empty with
      | error error =>
          rw [before] at appended
          cases appended
      | ok earlier =>
          rw [before] at appended
          have last : (earlier.append window >>= pure) = .ok coverage := appended
          rw [bind_pure] at last
          exact (induction before).append last

end InMemoryCoverageLedger

/-! ## The answers -/

def RecordedAt (windows : List CoverageWindow) (subscriptionId : JsString) (ledger : Int) : Prop :=
  ∃ window ∈ windows, window.subscriptionId = subscriptionId ∧
    window.startLedger ≤ ledger ∧ ledger < window.endLedger

section Answers

variable {coverage : InMemoryCoverageLedger} {windows : List CoverageWindow}
variable {subscriptionId : JsString} {ledger startLedger endLedger : Int}

theorem wasCovered_iff (stores : coverage.Stores windows) (isLedger : IsLedger ledger)
    (covered : Bool) :
    wasCovered coverage subscriptionId ledger = .ok (some covered) ↔
      ∃ window ∈ coverage.history subscriptionId,
        (window.startLedger ≤ ledger ∧ ledger < window.endLedger) ∧ window.covered = covered := by
  have found (window : CoverageWindow) :
      (coverage.history subscriptionId).find? (fun window =>
          window.startLedger ≤ ledger && ledger < window.endLedger) = some window ↔
        window ∈ coverage.history subscriptionId ∧
          window.startLedger ≤ ledger ∧ ledger < window.endLedger :=
    find?_contains_iff (stores.sound subscriptionId).order
  rw [wasCovered, InMemoryCoverageLedger.findAt, CoverageWindow.assertLedger, if_pos isLedger]
  dsimp only [bind, Except.bind, pure, Except.pure]
  rw [Except.ok.injEq, Option.map_eq_some_iff]
  simp only [found, and_assoc]

theorem coverageForWindow_eq (isStart : IsLedger startLedger) (isEnd : IsLedger endLedger)
    (proper : startLedger < endLedger) :
    (coverageForWindow coverage subscriptionId startLedger endLedger = .ok .unknown ∧
        ¬ ∃ reached, sweep CoverageWindow.startLedger CoverageWindow.endLedger startLedger
          (overlapping coverage subscriptionId startLedger endLedger) = some reached ∧
            endLedger ≤ reached) ∨
      coverageForWindow coverage subscriptionId startLedger endLedger =
          .ok (countedCoverage (overlapping coverage subscriptionId startLedger endLedger)) ∧
        ∃ reached, sweep CoverageWindow.startLedger CoverageWindow.endLedger startLedger
          (overlapping coverage subscriptionId startLedger endLedger) = some reached ∧
            endLedger ≤ reached := by
  rw [coverageForWindow, CoverageWindow.assertLedger, if_pos isStart, CoverageWindow.assertLedger,
    if_pos isEnd]
  dsimp only [bind, Except.bind, pure, Except.pure]
  rw [if_neg (not_le.mpr proper)]
  cases meeting : overlapping coverage subscriptionId startLedger endLedger with
  | nil =>
      rw [if_pos List.length_nil]
      simp [sweep, proper]
  | cons window rest =>
      rw [if_neg (by simp)]
      cases swept : sweep CoverageWindow.startLedger CoverageWindow.endLedger startLedger
          (window :: rest) with
      | none => simp
      | some reached =>
          dsimp only
          split
          · rename_i short
            simp [short]
          · rename_i far
            simp [not_lt.mp far]

theorem recordedAt_iff (stores : coverage.Stores windows) :
    RecordedAt windows subscriptionId ledger ↔
      ∃ window ∈ coverage.history subscriptionId,
        window.startLedger ≤ ledger ∧ ledger < window.endLedger := by
  simp only [RecordedAt, stores.mem_iff, and_assoc]

variable {window : CoverageWindow}

theorem mem_overlapping_iff :
    window ∈ overlapping coverage subscriptionId startLedger endLedger ↔
      window ∈ coverage.history subscriptionId ∧
        startLedger < window.endLedger ∧ window.startLedger < endLedger := by
  simp [overlapping]

theorem reaches_iff (stores : coverage.Stores windows) :
    (∃ reached, sweep CoverageWindow.startLedger CoverageWindow.endLedger startLedger
        (overlapping coverage subscriptionId startLedger endLedger) = some reached ∧
          endLedger ≤ reached) ↔
      ∀ ledger ∈ Set.Ico startLedger endLedger, RecordedAt windows subscriptionId ledger := by
  have sound : Sound (overlapping coverage subscriptionId startLedger endLedger) :=
    (stores.sound subscriptionId).filter _
  rw [sweep_reaches_iff sound.sorted fun window member => (mem_overlapping_iff.mp member).2.2]
  constructor
  · intro swept ledger inside
    rcases swept ledger inside.1 inside.2 with ⟨window, member, contains⟩
    exact (recordedAt_iff stores).mpr ⟨window, (mem_overlapping_iff.mp member).1, contains⟩
  · intro recorded ledger behind before
    rcases (recordedAt_iff stores).mp (recorded ledger ⟨behind, before⟩) with
      ⟨window, member, contains⟩
    have meets : startLedger < window.endLedger ∧ window.startLedger < endLedger :=
      ⟨lt_of_le_of_lt behind contains.2, lt_of_le_of_lt contains.1 before⟩
    exact ⟨window, mem_overlapping_iff.mpr ⟨member, meets⟩, contains⟩

theorem exists_common (stores : coverage.Stores windows) (proper : startLedger < endLedger)
    (member : window ∈ overlapping coverage subscriptionId startLedger endLedger) :
    ∃ ledger ∈ Set.Ico startLedger endLedger,
      window.startLedger ≤ ledger ∧ ledger < window.endLedger := by
  rcases mem_overlapping_iff.mp member with ⟨stored, meets⟩
  have nonempty := (stores.sound subscriptionId).proper window stored
  exact ⟨max startLedger window.startLedger, ⟨le_max_left _ _, max_lt proper meets.2⟩,
    le_max_right _ _, max_lt meets.1 nonempty⟩

theorem isLedger_of_mem (isStart : IsLedger startLedger) (isEnd : IsLedger endLedger)
    (inside : ledger ∈ Set.Ico startLedger endLedger) : IsLedger ledger :=
  ⟨le_trans isStart.1 inside.1, le_trans (le_of_lt inside.2) isEnd.2⟩

/-- Every stored window that meets a window is covered, or none is, if and only if each recorded
ledger of the window is, or none is. -/
theorem forall_overlapping_iff (stores : coverage.Stores windows)
    (isStart : IsLedger startLedger) (isEnd : IsLedger endLedger)
    (proper : startLedger < endLedger) (covered : Bool) :
    (∀ window ∈ overlapping coverage subscriptionId startLedger endLedger,
        window.covered = covered) ↔
      ∀ ledger ∈ Set.Ico startLedger endLedger,
        wasCovered coverage subscriptionId ledger ≠ .ok (some !covered) := by
  constructor
  · intro all ledger inside answered
    rcases (wasCovered_iff stores (isLedger_of_mem isStart isEnd inside) _).mp answered with
      ⟨window, member, contains, isCovered⟩
    have meets : startLedger < window.endLedger ∧ window.startLedger < endLedger :=
      ⟨lt_of_le_of_lt inside.1 contains.2, lt_of_le_of_lt contains.1 inside.2⟩
    have same := all window (mem_overlapping_iff.mpr ⟨member, meets⟩)
    rw [isCovered] at same
    cases covered <;> cases same
  · intro none window member
    rcases exists_common stores proper member with ⟨ledger, inside, contains⟩
    by_contra different
    apply none ledger inside
    apply (wasCovered_iff stores (isLedger_of_mem isStart isEnd inside) _).mpr
    exact ⟨window, (mem_overlapping_iff.mp member).1, contains, Bool.eq_not_of_ne different⟩

theorem recordedAt_of_wasCovered (stores : coverage.Stores windows) (isLedger : IsLedger ledger)
    {covered : Bool} (answered : wasCovered coverage subscriptionId ledger = .ok (some covered)) :
    RecordedAt windows subscriptionId ledger := by
  rcases (wasCovered_iff stores isLedger covered).mp answered with ⟨window, member, contains, -⟩
  exact (recordedAt_iff stores).mpr ⟨window, member, contains⟩

theorem wasCovered_ne_iff (stores : coverage.Stores windows) (isLedger : IsLedger ledger)
    (recorded : RecordedAt windows subscriptionId ledger) :
    wasCovered coverage subscriptionId ledger ≠ .ok (some false) ↔
      wasCovered coverage subscriptionId ledger = .ok (some true) := by
  rcases (recordedAt_iff stores).mp recorded with ⟨window, member, contains⟩
  have answered := (wasCovered_iff stores isLedger window.covered).mpr
    ⟨window, member, contains, rfl⟩
  rw [answered]
  cases window.covered <;> simp

end Answers

theorem countedCoverage_eq_covered_iff (overlapping : List CoverageWindow) :
    countedCoverage overlapping = .covered ↔ ∀ window ∈ overlapping, window.covered = true := by
  rw [← List.length_filter_eq_length_iff, countedCoverage]
  split
  · rename_i all
    simp only [all]
  · rename_i some'
    split <;> simpa using some'

theorem countedCoverage_eq_uncovered_iff {overlapping : List CoverageWindow}
    (nonempty : overlapping ≠ []) :
    countedCoverage overlapping = .uncovered ↔
      ∀ window ∈ overlapping, window.covered = false := by
  have none : (overlapping.filter CoverageWindow.covered).length = 0 ↔
      ∀ window ∈ overlapping, window.covered = false := by
    simp
  have some' : overlapping.length ≠ 0 := fun empty => nonempty (List.length_eq_zero_iff.mp empty)
  rw [← none, countedCoverage]
  split
  · rename_i all
    rw [all]
    simpa using some'
  · split
    · rename_i isZero
      simpa using isZero
    · rename_i isSome
      simpa using isSome

theorem countedCoverage_eq_inPart_iff (overlapping : List CoverageWindow) :
    countedCoverage overlapping = .inPart ↔
      countedCoverage overlapping ≠ .covered ∧ countedCoverage overlapping ≠ .uncovered := by
  rw [countedCoverage]
  split
  · simp
  · split <;> simp

theorem countedCoverage_ne_unknown (overlapping : List CoverageWindow) :
    countedCoverage overlapping ≠ .unknown := by
  rw [countedCoverage]
  split
  · simp
  · split <;> simp

structure AgreesPointwise (coverage : InMemoryCoverageLedger) (windows : List CoverageWindow)
    (subscriptionId : JsString) (startLedger endLedger : Int) (answer : WindowCoverage) :
    Prop where
  unknown : answer = .unknown ↔
    ∃ ledger ∈ Set.Ico startLedger endLedger, ¬ RecordedAt windows subscriptionId ledger
  covered : answer = .covered ↔
    ∀ ledger ∈ Set.Ico startLedger endLedger,
      wasCovered coverage subscriptionId ledger = .ok (some true)
  uncovered : answer = .uncovered ↔
    (∀ ledger ∈ Set.Ico startLedger endLedger, RecordedAt windows subscriptionId ledger) ∧
      ∀ ledger ∈ Set.Ico startLedger endLedger,
        wasCovered coverage subscriptionId ledger ≠ .ok (some true)
  inPart : answer = .inPart ↔
    (∀ ledger ∈ Set.Ico startLedger endLedger, RecordedAt windows subscriptionId ledger) ∧
      (∃ ledger ∈ Set.Ico startLedger endLedger,
        wasCovered coverage subscriptionId ledger = .ok (some true)) ∧
      ∃ ledger ∈ Set.Ico startLedger endLedger,
        wasCovered coverage subscriptionId ledger ≠ .ok (some true)

/-- Of every history of appended windows the answer for a window is made of the answers for its
ledgers. -/
theorem coverageForWindow_agrees (windows : List CoverageWindow)
    (coverage : InMemoryCoverageLedger) (appended : appendAll windows = .ok coverage)
    (subscriptionId : JsString) (startLedger endLedger : Int) (isStart : IsLedger startLedger)
    (isEnd : IsLedger endLedger) (proper : startLedger < endLedger) :
    ∃ answer, coverageForWindow coverage subscriptionId startLedger endLedger = .ok answer ∧
      AgreesPointwise coverage windows subscriptionId startLedger endLedger answer := by
  have stores := InMemoryCoverageLedger.stores_appendAll appended
  have isLedger {ledger : Int} (inside : ledger ∈ Set.Ico startLedger endLedger) :
      IsLedger ledger := isLedger_of_mem isStart isEnd inside
  rcases @coverageForWindow_eq coverage subscriptionId _ _ isStart isEnd proper with ⟨unknown, gap⟩ | ⟨counted, reaches⟩
  · rw [reaches_iff stores] at gap
    refine ⟨_, unknown, ?_, ?_, ?_, ?_⟩
    · simpa only [not_forall, exists_prop, true_iff] using gap
    · simp only [reduceCtorEq, false_iff]
      exact fun covered => gap fun ledger inside =>
        recordedAt_of_wasCovered stores (isLedger inside) (covered ledger inside)
    · simp only [reduceCtorEq, false_iff]
      exact fun recorded => gap recorded.1
    · simp only [reduceCtorEq, false_iff]
      exact fun recorded => gap recorded.1
  · rw [reaches_iff stores] at reaches
    have covered := @forall_overlapping_iff coverage windows subscriptionId _ _ stores isStart
      isEnd proper true
    have uncovered := @forall_overlapping_iff coverage windows subscriptionId _ _ stores isStart
      isEnd proper false
    have nonempty : overlapping coverage subscriptionId startLedger endLedger ≠ [] := by
      rcases (recordedAt_iff stores).mp (reaches startLedger ⟨le_rfl, proper⟩) with
        ⟨window, member, contains⟩
      exact List.ne_nil_of_mem (mem_overlapping_iff.mpr
        ⟨member, contains.2, lt_of_le_of_lt contains.1 proper⟩)
    rw [← countedCoverage_eq_covered_iff] at covered
    rw [← countedCoverage_eq_uncovered_iff nonempty] at uncovered
    have isCovered : countedCoverage
        (overlapping coverage subscriptionId startLedger endLedger) = .covered ↔
          ∀ ledger ∈ Set.Ico startLedger endLedger,
            wasCovered coverage subscriptionId ledger = .ok (some true) :=
      covered.trans (forall₂_congr fun ledger inside =>
        wasCovered_ne_iff stores (isLedger inside) (reaches ledger inside))
    refine ⟨_, counted, ?_, isCovered, ?_, ?_⟩
    · simpa only [countedCoverage_ne_unknown, false_iff, not_exists, not_and, not_not]
        using reaches
    · rw [uncovered]
      exact ⟨fun none => ⟨reaches, none⟩, And.right⟩
    · rw [countedCoverage_eq_inPart_iff, ne_eq, ne_eq, isCovered, uncovered]
      simp only [Bool.not_false, ne_eq, not_forall, not_not, exists_prop]
      exact ⟨fun both => ⟨reaches, both.2, both.1⟩, fun both => ⟨both.2.2, both.2.1⟩⟩

/-! ### A stretch without a record -/

def sampleWindow (startLedger endLedger : Int) (reason : CoverageReason) : CoverageWindow where
  subscriptionId := js "subscription"
  startLedger
  endLedger
  covered := isCoveredReason reason
  reason

def sampleHistory : List CoverageWindow :=
  [sampleWindow 20 30 .lapsed, sampleWindow 0 10 .active, sampleWindow 10 20 .grace]

/-- No ledger of the window was covered, and the answer is unknown, since none is recorded. -/
theorem unrecorded_is_not_uncovered :
    ¬ ∀ (windows : List CoverageWindow) (coverage : InMemoryCoverageLedger)
      (subscriptionId : JsString) (startLedger endLedger : Int),
      appendAll windows = .ok coverage → IsLedger startLedger → IsLedger endLedger →
        startLedger < endLedger →
          (coverageForWindow coverage subscriptionId startLedger endLedger = .ok .uncovered ↔
            ∀ ledger ∈ Set.Ico startLedger endLedger,
              wasCovered coverage subscriptionId ledger ≠ .ok (some true)) := by
  intro always
  have answers := always [] .empty (js "subscription") 0 10 rfl (by decide) (by decide)
    (by decide)
  have unknown : coverageForWindow .empty (js "subscription") 0 10 = .ok .unknown := by rfl
  rw [unknown] at answers
  have none := InMemoryCoverageLedger.stores_empty
  have uncovered : ∀ ledger ∈ Set.Ico (0 : Int) 10,
      wasCovered .empty (js "subscription") ledger ≠ .ok (some true) := by
    intro ledger inside answered
    have isLedger : IsLedger ledger := isLedger_of_mem (by decide) (by decide) inside
    rcases recordedAt_of_wasCovered none isLedger answered with ⟨window, member, -⟩
    cases member
  cases answers.mpr uncovered

theorem coverageForWindow_agrees_lapsed :
    ∃ coverage, appendAll sampleHistory = .ok coverage ∧
      coverageForWindow coverage (js "subscription") 5 25 = .ok .inPart ∧
      ∃ answer, coverageForWindow coverage (js "subscription") 5 25 = .ok answer ∧
        AgreesPointwise coverage sampleHistory (js "subscription") 5 25 answer := by
  have appended : ∃ coverage, appendAll sampleHistory = .ok coverage ∧
      coverageForWindow coverage (js "subscription") 5 25 = .ok .inPart :=
    ⟨_, rfl, rfl⟩
  rcases appended with ⟨coverage, appended, answered⟩
  exact ⟨coverage, appended, answered,
    coverageForWindow_agrees sampleHistory coverage appended (js "subscription") 5 25 (by decide)
      (by decide) (by decide)⟩

end Orbital.WorkerCore.Subscription
