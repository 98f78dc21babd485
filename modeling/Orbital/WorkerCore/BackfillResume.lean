import Orbital.WorkerCore.BackfillRunner

/-! # Resuming a backfill

A run that crashes and is resumed from the checkpoint ends with what an uninterrupted run
ends with, if the source hands the ledgers out window after window.
-/

namespace Orbital.WorkerCore.Verdicts

open Foundation

/-! ## Parts of a range -/

def LedgerRange.Within (part range : LedgerRange) : Prop :=
  range.startLedger ≤ part.startLedger ∧ part.endLedger ≤ range.endLedger

def ExportSource.Consistent (source : ExportSource) : Prop :=
  ∀ range part : LedgerRange, part.Within range →
    (source.read range).filter part.covers = (source.read part).filter part.covers

section Parts

variable {range part : LedgerRange} {ledgers : List ExportLedger}

theorem covers_of_within (within : part.Within range) {ledger : ExportLedger}
    (covered : part.covers ledger = true) : range.covers ledger = true := by
  rcases within with ⟨lower, upper⟩
  simp only [LedgerRange.covers, Bool.and_eq_true, decide_eq_true_eq] at covered ⊢
  omega

theorem filter_covers_within (within : part.Within range) :
    (ledgers.filter range.covers).filter part.covers = ledgers.filter part.covers := by
  rw [List.filter_filter]
  apply List.filter_congr
  intro ledger _
  cases covered : part.covers ledger with
  | false => rfl
  | true => rw [covers_of_within within covered, Bool.and_self]

theorem consistent_memoryExportSource (ledgers : List ExportLedger) :
    (memoryExportSource ledgers).Consistent := by
  intro range part within
  rw [memoryExportSource, filter_covers_within within, List.filter_filter]
  simp only [Bool.and_self]

theorem consistent_fileExportSource (files : List (JsString × List ExportLedger)) :
    (fileExportSource files).Consistent := by
  intro range part within
  rw [fileExportSource, filter_covers_within within, List.filter_filter]
  simp only [Bool.and_self]

namespace ExportReader

theorem readFrom_filter (range : LedgerRange) (seen : List Nat) (ledgers : List ExportLedger) :
    readFrom range seen (ledgers.filter range.covers) = readFrom range seen ledgers := by
  induction ledgers generalizing seen with
  | nil => rfl
  | cons ledger rest induction =>
      by_cases covered : range.covers ledger = true
      · rw [List.filter_cons_of_pos covered, readFrom, readFrom, if_pos covered, if_pos covered,
          induction, induction]
      · rw [List.filter_cons_of_neg covered, induction, readFrom, if_neg covered]

theorem filter_readFrom (within : part.Within range) (ledgers : List ExportLedger)
    {seen seenToo : List Nat}
    (same : ∀ ledger, part.covers ledger = true →
      (ledger.ledgerSequence ∈ seen ↔ ledger.ledgerSequence ∈ seenToo)) :
    (readFrom range seen ledgers).filter part.covers = readFrom part seenToo ledgers := by
  induction ledgers generalizing seen seenToo with
  | nil => rfl
  | cons ledger rest induction =>
      rw [readFrom, readFrom]
      by_cases covered : part.covers ledger = true
      · rw [if_pos covered, if_pos (covers_of_within within covered)]
        by_cases old : ledger.ledgerSequence ∈ seen
        · rw [if_pos old, if_pos ((same ledger covered).mp old)]
          exact induction same
        · rw [if_neg old, if_neg fun oldToo => old ((same ledger covered).mpr oldToo),
            List.filter_cons_of_pos covered]
          refine congrArg (ledger :: ·) (induction ?_)
          intro other coveredToo
          rw [List.mem_cons, List.mem_cons, same other coveredToo]
      · rw [if_neg covered]
        split
        · split
          · exact induction same
          · rw [List.filter_cons_of_neg covered]
            refine induction ?_
            intro other coveredToo
            rw [List.mem_cons, same other coveredToo]
            refine or_iff_right_of_imp ?_
            intro equal
            exfalso
            apply covered
            rw [LedgerRange.covers] at coveredToo ⊢
            rw [← equal]
            exact coveredToo
        · exact induction same

theorem covers_of_mem_readFrom {range : LedgerRange} {seen : List Nat}
    {ledgers : List ExportLedger} {ledger : ExportLedger}
    (member : ledger ∈ readFrom range seen ledgers) : range.covers ledger = true := by
  induction ledgers generalizing seen with
  | nil => cases member
  | cons first rest induction =>
      rw [readFrom] at member
      split at member
      · rename_i covered
        split at member
        · exact induction member
        · rcases List.mem_cons.mp member with rfl | later
          · exact covered
          · exact induction later
      · exact induction member

theorem read_part {source : ExportSource} (consistent : source.Consistent)
    (within : part.Within range) :
    read source part = (read source range).filter part.covers := by
  rw [read, read, filter_readFrom within _ fun _ _ => Iff.rfl, ← readFrom_filter part [],
    ← readFrom_filter part [] (source.read range), consistent range part within]

end ExportReader

end Parts

namespace BackfillRunner

variable {platform : Platform} {options : BackfillOptions}

def effects (platform : Platform) (options : BackfillOptions) (prior : Checkpoint) :
    List (Effect Verdict Checkpoint) :=
  (run platform options prior).effects

def allLedgers (options : BackfillOptions) : List ExportLedger :=
  ExportReader.read options.source options.range

theorem repeatable_upsert : Resumption.Repeatable VerdictSink.upsert := by
  intro sink verdicts
  have writes (sink : VerdictSink) : verdicts.foldl VerdictSink.upsert sink =
      sink.setAll (verdicts.map fun verdict =>
        (verdictKey verdict.subject verdict.window.toWindow, verdict)) := by
    rw [InsertionMap.setAll, List.foldl_map]
    rfl
  rw [writes, writes, InsertionMap.setAll_setAll]

theorem ledgers_eq (consistent : options.source.Consistent) (prior : Checkpoint) :
    ledgers options prior = (allLedgers options).filter fun ledger =>
      (effectiveRange options prior).startLedger ≤ ledger.ledgerSequence := by
  have within : (effectiveRange options prior).Within options.range := by
    refine ⟨?_, Nat.le_refl _⟩
    cases prior with
    | none => exact Nat.le_refl _
    | some last => exact Nat.le_max_right _ _
  rw [ledgers, ExportReader.read_part consistent within]
  apply List.filter_congr
  intro ledger member
  have covered := ExportReader.covers_of_mem_readFrom member
  rw [LedgerRange.covers, Bool.and_eq_true] at covered
  rw [LedgerRange.covers]
  show (_ && decide (ledger.ledgerSequence < options.range.endLedger)) = _
  rw [covered.2, Bool.and_true]

theorem startLedger_le {ledger : ExportLedger} (member : ledger ∈ allLedgers options) :
    options.range.startLedger ≤ ledger.ledgerSequence := by
  have covered := ExportReader.covers_of_mem_readFrom member
  rw [LedgerRange.covers, Bool.and_eq_true] at covered
  exact of_decide_eq_true covered.1

def ledgersFrom (options : BackfillOptions) (start : Nat) : List ExportLedger :=
  (allLedgers options).filter fun ledger => start ≤ ledger.ledgerSequence

theorem run_eq (consistent : options.source.Consistent)
    (ordered : InWindowOrder options.windowSize (allLedgers options)) (prior : Checkpoint) :
    run platform options prior =
      flushChunks platform options (chunks platform options
        (ledgersFrom options (effectiveRange options prior).startLedger)) := by
  rw [run, ledgers_eq consistent, readLedgers_eq (ordered.filter _)]
  rfl

theorem effects_eq (consistent : options.source.Consistent)
    (ordered : InWindowOrder options.windowSize (allLedgers options)) (prior : Checkpoint) :
    effects platform options prior =
      (flushChunks platform options (chunks platform options
        (ledgersFrom options (effectiveRange options prior).startLedger))).effects :=
  congrArg Run.effects (run_eq consistent ordered prior)

theorem effectiveRange_saved (options : BackfillOptions) (number : Nat) :
    (effectiveRange options
        (some ((windowFor number options.windowSize).endLedger - 1))).startLedger =
      max (windowFor number options.windowSize).endLedger options.range.startLedger := by
  have behind := lt_endLedger options.positive number
  show max (windowStartFor _ _) _ = _
  rw [Nat.sub_add_cancel (Nat.one_le_of_lt behind), windowStartFor_endLedger options.positive]

/-- What is flushed from a ledger on are verdicts up to the first checkpoint, and behind it
what a run from that checkpoint does. -/
theorem flushed_from (consistent : options.source.Consistent)
    (ordered : InWindowOrder options.windowSize (allLedgers options)) (start : Nat) :
    ∃ verdicts : List Verdict,
      (flushChunks platform options (chunks platform options (ledgersFrom options start))).effects =
          verdicts.map .write ∨
        ∃ next,
          (flushChunks platform options
            (chunks platform options (ledgersFrom options start))).effects =
            verdicts.map .write ++ .save next :: effects platform options next := by
  induction length : (ledgersFrom options start).length using Nat.strongRecOn generalizing start with
  | ind count induction =>
      cases split : chunks platform options (ledgersFrom options start) with
      | nil => exact ⟨[], .inl rfl⟩
      | cons chunk rest =>
          rcases chunk with ⟨window, events⟩
          rcases head_chunks split with ⟨first, later, whole, rfl⟩
          have member : first ∈ ledgersFrom options start := whole ▸ List.mem_cons_self
          rcases List.mem_filter.mp member with ⟨inRange, fromStart⟩
          have behind : first.ledgerSequence < (windowOf options first).endLedger :=
            lt_endLedger options.positive first.ledgerSequence
          have others : (ledgersFrom options start).filter
              (fun ledger => (windowOf options first).endLedger ≤ ledger.ledgerSequence) =
              ledgersFrom options (windowOf options first).endLedger := by
            rw [ledgersFrom, ledgersFrom, List.filter_filter]
            apply List.filter_congr
            intro ledger _
            simp only [decide_eq_true_eq] at fromStart
            simp
            omega
          have orderedFrom : InWindowOrder options.windowSize (ledgersFrom options start) :=
            ordered.filter _
          have tail := tail_chunks orderedFrom split
          rw [others] at tail
          cases events with
          | nil =>
              -- no event of the window is scored: nothing is written, and nothing is saved
              have shorter : (ledgersFrom options (windowOf options first).endLedger).length <
                  count := by
                rw [← others, whole, List.filter_cons_of_neg (by simpa using behind), ← length, whole]
                exact Nat.lt_succ_of_le (List.length_filter_le _ _)
              rw [flushChunks, flushChunk_nil, Run.done_andThen, tail]
              exact induction _ shorter _ rfl
          | cons event events =>
              have inside : options.range.startLedger ≤ (windowOf options first).endLedger :=
                Nat.le_of_lt (Nat.lt_of_le_of_lt (startLedger_le inRange) behind)
              have restart : (effectiveRange options
                  (some ((windowOf options first).endLedger - 1))).startLedger =
                    (windowOf options first).endLedger :=
                (effectiveRange_saved options first.ledgerSequence).trans (Nat.max_eq_left inside)
              rcases @flushChunk_cases platform options (windowOf options first) _
                (List.cons_ne_nil event events) with
                ⟨verdicts, ⟨throws, written⟩ | ⟨completes, written⟩⟩
              · refine ⟨verdicts, .inl ?_⟩
                rw [flushChunks, Run.andThen_of_not_completes throws, written]
              · refine ⟨verdicts, .inr ⟨some ((windowOf options first).endLedger - 1), ?_⟩⟩
                rw [flushChunks, Run.effects_andThen completes, written,
                  effects_eq consistent ordered, restart, ← tail, List.append_assoc]
                rfl

theorem restartable_effects (consistent : options.source.Consistent)
    (ordered : InWindowOrder options.windowSize (allLedgers options)) :
    Resumption.Restartable (effects platform options) := by
  intro prior
  rw [effects_eq consistent ordered]
  exact flushed_from consistent ordered _

/-- Wherever runs crash, and however often, the sink and the checkpoint end as after one run. -/
theorem resumed_eq_uninterrupted (platform : Platform) (options : BackfillOptions)
    (consistent : options.source.Consistent)
    (ordered : InWindowOrder options.windowSize (allLedgers options))
    (start : Progress VerdictSink Checkpoint) (crashes : List Nat) :
    Resumption.resumed VerdictSink.upsert (effects platform options) start crashes =
      Resumption.performAll VerdictSink.upsert start (effects platform options start.mark) :=
  Resumption.resumed_eq repeatable_upsert (restartable_effects consistent ordered) start crashes

theorem readFrom_sublist (range : LedgerRange) (seen : List Nat) (ledgers : List ExportLedger) :
    (ExportReader.readFrom range seen ledgers).Sublist ledgers := by
  induction ledgers generalizing seen with
  | nil => exact .slnil
  | cons ledger rest induction =>
      rw [ExportReader.readFrom]
      split
      · split
        · exact (induction seen).cons ledger
        · exact (induction _).cons_cons ledger
      · exact (induction seen).cons ledger

theorem ascending_memoryExportSource {exported : List ExportLedger}
    (isSource : options.source = memoryExportSource exported) :
    (allLedgers options).Pairwise fun first second =>
      first.ledgerSequence ≤ second.ledgerSequence := by
  rw [allLedgers, isSource]
  have sorted := List.pairwise_insertionSort
    (fun first second : ExportLedger => first.ledgerSequence ≤ second.ledgerSequence) exported
  exact (sorted.filter _).sublist (readFrom_sublist _ _ _)

theorem inWindowOrder_memoryExportSource {exported : List ExportLedger}
    (isSource : options.source = memoryExportSource exported) :
    InWindowOrder options.windowSize (allLedgers options) :=
  inWindowOrder_of_ascending (ascending_memoryExportSource isSource)

/-! ### Two windows, one file for each -/

def oneFee (ledgerSequence : Nat) : ExportLedger where
  ledgerSequence := ledgerSequence
  closeTime := js "2026-08-01T00:00:00Z"
  transactions := [⟨js "t", [.fee (js "GA") (js "1")]⟩]

def twoWindows (source : ExportSource) : BackfillOptions where
  source := source
  range := ⟨0, 20⟩
  windowSize := 10
  positive := Nat.zero_lt_succ 9
  subjects := none

def fresh : Progress VerdictSink Checkpoint :=
  ⟨InsertionMap.empty, none⟩

def unsortedFiles : ExportSource :=
  fileExportSource [(js "5.jsonl", [oneFee 5]), (js "15.jsonl", [oneFee 15])]

/-- A crash behind the first checkpoint loses the other window. -/
theorem earlier_window_lost :
    (twoWindows unsortedFiles).source.Consistent ∧
      (Resumption.resumed VerdictSink.upsert (effects asciiPlatform (twoWindows unsortedFiles))
          fresh [2]).store ≠
        (Resumption.performAll VerdictSink.upsert fresh
          (effects asciiPlatform (twoWindows unsortedFiles) none)).store := by
  refine ⟨consistent_fileExportSource _, ?_⟩
  intro same
  have one : (Resumption.resumed VerdictSink.upsert
      (effects asciiPlatform (twoWindows unsortedFiles)) fresh [2]).store.size = 1 := by
    decide
  have two : (Resumption.performAll VerdictSink.upsert fresh
      (effects asciiPlatform (twoWindows unsortedFiles) none)).store.size = 2 := by
    decide
  rw [same, two] at one
  cases one

theorem windows_in_memory :
    Resumption.resumed VerdictSink.upsert
        (effects asciiPlatform (twoWindows (memoryExportSource [oneFee 15, oneFee 5]))) fresh [2] =
      Resumption.performAll VerdictSink.upsert fresh
        (effects asciiPlatform (twoWindows (memoryExportSource [oneFee 15, oneFee 5])) none) :=
  resumed_eq_uninterrupted _ _ (consistent_memoryExportSource _)
    (inWindowOrder_memoryExportSource rfl) fresh [2]

end BackfillRunner

end Orbital.WorkerCore.Verdicts
