import Orbital.Foundation.Resumption
import Orbital.WorkerCore.Verdict

/-! # `worker-core/src/verification/backfill.ts`

The backfill of verdicts from an export of ledgers. The events are collected by window, a
window is flushed when a ledger behind it has been read, and the checkpoint is saved then. A
run is the list of what it does to the sink and to the checkpoint.
-/

namespace Orbital.WorkerCore.Verdicts

open Foundation

/-! ## Exports, `exports/types.ts` and `exports/sources.ts` -/

/-- The ledgers from the first one up to the last one, without it. -/
structure LedgerRange where
  startLedger : Nat
  endLedger : Nat
  deriving DecidableEq

def LedgerRange.covers (range : LedgerRange) (ledger : ExportLedger) : Bool :=
  range.startLedger ≤ ledger.ledgerSequence && ledger.ledgerSequence < range.endLedger

structure ExportSource where
  read : LedgerRange → List ExportLedger

def memoryExportSource (ledgers : List ExportLedger) : ExportSource where
  read range := (ledgers.insertionSort fun first second =>
    first.ledgerSequence ≤ second.ledgerSequence).filter range.covers

/-- `FileExportSource`, over the ledgers in the files of a directory. -/
def fileExportSource (files : List (JsString × List ExportLedger)) : ExportSource where
  read range :=
    let exports := (files.filter fun file => (js ".jsonl").isSuffixOf file.1).insertionSort
      fun first second => JsString.Le first.1 second.1
    (exports.flatMap Prod.snd).filter range.covers

namespace ExportReader

/-- The loop of `read`, with the numbers that it has seen. -/
def readFrom (range : LedgerRange) : List Nat → List ExportLedger → List ExportLedger
  | _, [] => []
  | seen, ledger :: rest =>
      if range.covers ledger then
        if ledger.ledgerSequence ∈ seen then readFrom range seen rest
        else ledger :: readFrom range (ledger.ledgerSequence :: seen) rest
      else readFrom range seen rest

def read (source : ExportSource) (range : LedgerRange) : List ExportLedger :=
  readFrom range [] (source.read range)

end ExportReader

/-! ## Sinks and checkpoints, `stores.ts` -/

def verdictKey (subject : JsString) (window : Window) : JsString :=
  subject ++ js "|" ++ Digits.text (Digits.ofNat window.startLedger) ++ js "-" ++
    Digits.text (Digits.ofNat window.endLedger)

abbrev VerdictSink :=
  InsertionMap JsString Verdict

def VerdictSink.upsert (sink : VerdictSink) (verdict : Verdict) : VerdictSink :=
  sink.set (verdictKey verdict.subject verdict.window.toWindow) verdict

/-- The `lastProcessedLedger` that was saved, if there is one. -/
abbrev Checkpoint :=
  Option Nat

/-! ## Buckets -/

def windowStartFor (ledger windowSize : Nat) : Nat :=
  ledger / windowSize * windowSize

def windowFor (ledger windowSize : Nat) : Window where
  startLedger := windowStartFor ledger windowSize
  endLedger := windowStartFor ledger windowSize + windowSize

abbrev Bucket :=
  InsertionMap JsString (List VerificationEvent)

def Bucket.push (bucket : Bucket) (event : VerificationEvent) : Bucket :=
  bucket.set event.subject ((bucket.get? event.subject).getD [] ++ [event])

abbrev Buckets :=
  InsertionMap Window Bucket

def Buckets.push (windowSize : Nat) (buckets : Buckets) (event : VerificationEvent) : Buckets :=
  let window := windowFor event.ledger windowSize
  buckets.set window (((buckets.get? window).getD InsertionMap.empty).push event)

/-! ## Runs -/

structure Run where
  effects : List (Effect Verdict Checkpoint)
  completes : Bool

namespace Run

def done : Run :=
  ⟨[], true⟩

def throws : Run :=
  ⟨[], false⟩

def awaits (effect : Effect Verdict Checkpoint) : Run :=
  ⟨[effect], true⟩

/-- The second run takes place if nothing was thrown in the first one. -/
def andThen (first second : Run) : Run :=
  if first.completes then ⟨first.effects ++ second.effects, second.completes⟩ else first

end Run

structure BackfillOptions where
  source : ExportSource
  range : LedgerRange
  windowSize : Nat
  positive : 0 < windowSize
  subjects : Option (List JsString)

def defaultWindowSize : Nat :=
  1000

namespace BackfillRunner

variable (platform : Platform) (options : BackfillOptions)

def scores (subject : JsString) : Bool :=
  options.subjects.all fun subjects => subject ∈ subjects

def flushSubjects (window : Window) : List (JsString × List VerificationEvent) → Run
  | [] => .done
  | (subject, events) :: rest =>
      if scores options subject then
        match computeVerdict platform subject window events .backfill with
        | none => .throws
        | some verdict => (Run.awaits (.write verdict)).andThen (flushSubjects window rest)
      else flushSubjects window rest

def flushWindow (buckets : Buckets) (window : Window) : Run :=
  match buckets.get? window with
  | none => .done
  | some bySubject =>
      (flushSubjects platform options window bySubject.entries).andThen
        (.awaits (.save (some (window.endLedger - 1))))

def flushAll : Buckets → List Window → Run
  | _, [] => .done
  | buckets, window :: rest =>
      (flushWindow platform options buckets window).andThen (flushAll (buckets.delete window) rest)

def collect (buckets : Buckets) (ledger : ExportLedger) : Buckets :=
  ((fromExportLedger platform ledger).filter fun event => scores options event.subject).foldl
    (Buckets.push options.windowSize) buckets

def isDue (ledger : ExportLedger) (window : Window) : Bool :=
  window.endLedger ≤ ledger.ledgerSequence

def readLedgers : Buckets → List ExportLedger → Run
  | buckets, [] => flushAll platform options buckets buckets.keys
  | buckets, ledger :: rest =>
      let collected := collect platform options buckets ledger
      let due := collected.keys.filter (isDue ledger)
      (flushAll platform options collected due).andThen
        (readLedgers (due.foldl InsertionMap.delete collected) rest)

def effectiveRange (prior : Checkpoint) : LedgerRange where
  startLedger :=
    match prior with
    | none => options.range.startLedger
    | some lastProcessedLedger =>
        max (windowStartFor (lastProcessedLedger + 1) options.windowSize) options.range.startLedger
  endLedger := options.range.endLedger

def ledgers (prior : Checkpoint) : List ExportLedger :=
  ExportReader.read options.source (effectiveRange options prior)

def run (prior : Checkpoint) : Run :=
  readLedgers platform options InsertionMap.empty (ledgers options prior)

structure BackfillResult where
  ledgersRead : Nat
  windowsEmitted : Nat
  verdictsWritten : Nat
  resumed : Bool
  deriving DecidableEq

def result (prior : Checkpoint) : Option BackfillResult :=
  let effects := (run platform options prior).effects
  if (run platform options prior).completes then
    some {
      ledgersRead := (ledgers options prior).length
      windowsEmitted := effects.countP Effect.isSave
      verdictsWritten := effects.countP fun effect => !effect.isSave
      resumed := prior.isSome }
  else none

end BackfillRunner

end Orbital.WorkerCore.Verdicts

/-! ## A backfill window by window

Where the ledgers come window after window, a run flushes one window after the other, each
with all of its events.
-/

namespace Orbital.WorkerCore.Verdicts

open Foundation

/-! ## Runs in a row -/

namespace Run

variable {first second : Run}

@[simp] theorem done_andThen (second : Run) : done.andThen second = second :=
  rfl

@[simp] theorem andThen_done (first : Run) : first.andThen done = first := by
  rcases first with ⟨effects, completes⟩
  cases completes with
  | false => rfl
  | true => simp [andThen, done]

theorem completes_andThen :
    (first.andThen second).completes = (first.completes && second.completes) := by
  cases completes : first.completes with
  | false | true => simp [andThen, completes]

theorem effects_andThen (completes : first.completes = true) :
    (first.andThen second).effects = first.effects ++ second.effects := by
  rw [andThen, if_pos completes]

theorem andThen_of_not_completes (throws : first.completes = false) :
    first.andThen second = first := by
  simp [andThen, throws]

end Run

/-! ## Windows -/

section Windows

variable {windowSize : Nat} (positive : 0 < windowSize) (ledger other : Nat)

include positive

theorem windowFor_eq_iff :
    windowFor ledger windowSize = windowFor other windowSize ↔
      ledger / windowSize = other / windowSize := by
  rw [windowFor, windowFor, windowStartFor, windowStartFor]
  constructor
  · intro same
    exact Nat.eq_of_mul_eq_mul_right positive (congrArg Window.startLedger same)
  · intro same
    rw [same]

theorem windowStartFor_le_iff :
    windowStartFor ledger windowSize ≤ windowStartFor other windowSize ↔
      ledger / windowSize ≤ other / windowSize :=
  Nat.mul_le_mul_right_iff positive

theorem endLedger_le_iff :
    (windowFor ledger windowSize).endLedger ≤ other ↔
      ledger / windowSize < other / windowSize := by
  rw [windowFor, windowStartFor, ← Nat.succ_mul, ← Nat.le_div_iff_mul_le positive]
  exact Nat.succ_le_iff

theorem windowStartFor_endLedger :
    windowStartFor (windowFor ledger windowSize).endLedger windowSize =
      (windowFor ledger windowSize).endLedger := by
  rw [windowFor, windowStartFor, windowStartFor, ← Nat.succ_mul, Nat.mul_div_cancel _ positive]

theorem lt_endLedger : ledger < (windowFor ledger windowSize).endLedger :=
  Nat.lt_div_mul_add positive

end Windows

def InWindowOrder (windowSize : Nat) (ledgers : List ExportLedger) : Prop :=
  ledgers.Pairwise fun first second =>
    windowStartFor first.ledgerSequence windowSize ≤ windowStartFor second.ledgerSequence windowSize

theorem inWindowOrder_of_ascending {windowSize : Nat} {ledgers : List ExportLedger}
    (ascending : ledgers.Pairwise fun first second =>
      first.ledgerSequence ≤ second.ledgerSequence) : InWindowOrder windowSize ledgers := by
  refine ascending.imp ?_
  intro first second lower
  exact Nat.mul_le_mul_right windowSize (Nat.div_le_div_right lower)

/-! ## Chunks -/

abbrev Chunk :=
  Window × List VerificationEvent

def joined (window : Window) (events : List VerificationEvent) : List Chunk → List Chunk
  | [] => [(window, events)]
  | (first, later) :: rest =>
      if first = window then (window, events ++ later) :: rest
      else (window, events) :: (first, later) :: rest

theorem joined_joined (window : Window) (front back : List VerificationEvent)
    (chunks : List Chunk) :
    joined window front (joined window back chunks) = joined window (front ++ back) chunks := by
  cases chunks with
  | nil => simp [joined]
  | cons chunk rest =>
      rcases chunk with ⟨first, later⟩
      by_cases same : first = window
      · simp [joined, same]
      · simp [joined, same]

theorem head_joined (window : Window) (events : List VerificationEvent) (chunks : List Chunk) :
    ∃ later rest, joined window events chunks = (window, events ++ later) :: rest := by
  cases chunks with
  | nil => exact ⟨[], [], by rw [joined, List.append_nil]⟩
  | cons chunk rest =>
      rcases chunk with ⟨first, later⟩
      by_cases same : first = window
      · exact ⟨later, rest, by rw [joined, if_pos same]⟩
      · exact ⟨[], (first, later) :: rest, by rw [joined, if_neg same, List.append_nil]⟩

theorem joined_of_ne {window other : Window} (different : other ≠ window)
    (front events : List VerificationEvent) (chunks : List Chunk) :
    joined window front (joined other events chunks) =
      (window, front) :: joined other events chunks := by
  rcases head_joined other events chunks with ⟨later, rest, split⟩
  rw [split, joined, if_neg different]

def bucketOf (events : List VerificationEvent) : Bucket :=
  events.foldl Bucket.push InsertionMap.empty

def bucketsOf (window : Window) : List VerificationEvent → Buckets
  | [] => InsertionMap.empty
  | events => InsertionMap.empty.set window (bucketOf events)

namespace BackfillRunner

variable (platform : Platform) (options : BackfillOptions)

def kept (ledger : ExportLedger) : List VerificationEvent :=
  (fromExportLedger platform ledger).filter fun event => scores options event.subject

def windowOf (ledger : ExportLedger) : Window :=
  windowFor ledger.ledgerSequence options.windowSize

def chunks (ledgers : List ExportLedger) : List Chunk :=
  ledgers.foldr (fun ledger chunks =>
    joined (windowOf options ledger) (kept platform options ledger) chunks) []

def flushChunk (window : Window) (events : List VerificationEvent) : Run :=
  flushWindow platform options (bucketsOf window events) window

def flushChunks : List Chunk → Run
  | [] => .done
  | (window, events) :: rest => (flushChunk platform options window events).andThen (flushChunks rest)

/-! ## Events of one window -/

variable {platform options} {window other : Window} {ledger : ExportLedger}

variable {events : List VerificationEvent} {windowSize : Nat}

theorem bucketsOf_of_ne_nil (some : events ≠ []) :
    bucketsOf window events = InsertionMap.empty.set window (bucketOf events) := by
  cases events with
  | nil => exact absurd rfl some
  | cons event rest => rfl

theorem push_bucketsOf {event : VerificationEvent}
    (inWindow : windowFor event.ledger windowSize = window) (seen : List VerificationEvent) :
    Buckets.push windowSize (bucketsOf window seen) event = bucketsOf window (seen ++ [event]) := by
  rw [bucketsOf_of_ne_nil (List.append_ne_nil_of_right_ne_nil seen (List.cons_ne_nil event [])),
    bucketOf, List.foldl_append, Buckets.push, inWindow]
  cases seen with
  | nil => rfl
  | cons first rest =>
      rw [bucketsOf_of_ne_nil (List.cons_ne_nil first rest), InsertionMap.get?_set_same,
        InsertionMap.set_set_same]
      rfl

theorem pushAll_bucketsOf (inWindow : ∀ event ∈ events, windowFor event.ledger windowSize = window)
    (seen : List VerificationEvent) :
    events.foldl (Buckets.push windowSize) (bucketsOf window seen) =
      bucketsOf window (seen ++ events) := by
  induction events generalizing seen with
  | nil => rw [List.append_nil, List.foldl_nil]
  | cons event rest induction =>
      rw [List.foldl_cons, push_bucketsOf (inWindow event List.mem_cons_self),
        induction fun later member => inWindow later (List.mem_cons_of_mem _ member),
        List.append_assoc, List.singleton_append]

theorem pushAll_other (inOther : ∀ event ∈ events, windowFor event.ledger windowSize ≠ window)
    (buckets : Buckets) :
    (events.foldl (Buckets.push windowSize) buckets).get? window = buckets.get? window ∧
      (events.foldl (Buckets.push windowSize) buckets).delete window =
        events.foldl (Buckets.push windowSize) (buckets.delete window) := by
  induction events generalizing buckets with
  | nil => exact ⟨rfl, rfl⟩
  | cons event rest induction =>
      have different := inOther event List.mem_cons_self
      rcases induction (fun later member => inOther later (List.mem_cons_of_mem _ member))
        (Buckets.push windowSize buckets event) with ⟨found, deleted⟩
      rw [List.foldl_cons, List.foldl_cons, found, deleted, Buckets.push, Buckets.push,
        InsertionMap.get?_set_other _ _ different.symm, InsertionMap.delete_set_of_ne different,
        InsertionMap.get?_delete, if_neg different]
      exact ⟨rfl, rfl⟩

theorem window_of_kept {event : VerificationEvent} (member : event ∈ kept platform options ledger) :
    windowFor event.ledger options.windowSize = windowOf options ledger := by
  rw [(mem_fromExportLedger platform (List.mem_filter.mp member).1).1]
  rfl

theorem collect_bucketsOf (seen : List VerificationEvent) :
    collect platform options (bucketsOf (windowOf options ledger) seen) ledger =
      bucketsOf (windowOf options ledger) (seen ++ kept platform options ledger) :=
  pushAll_bucketsOf (fun _ member => window_of_kept member) seen

/-! ## Windows that are due -/

theorem flushAll_singleton (buckets : Buckets) (window : Window) :
    flushAll platform options buckets [window] = flushWindow platform options buckets window := by
  rw [flushAll, flushAll, Run.andThen_done]

theorem flushWindow_congr {buckets otherBuckets : Buckets}
    (same : buckets.get? window = otherBuckets.get? window) :
    flushWindow platform options buckets window =
      flushWindow platform options otherBuckets window := by
  rw [flushWindow, flushWindow, same]

theorem flushChunk_nil (window : Window) : flushChunk platform options window [] = .done :=
  rfl

theorem not_due_own (ledger : ExportLedger) : isDue ledger (windowOf options ledger) = false :=
  decide_eq_false (Nat.not_le_of_lt (lt_endLedger options.positive ledger.ledgerSequence))

theorem keys_bucketsOf {key : Window} (member : key ∈ (bucketsOf window events).keys) :
    key = window := by
  cases events with
  | nil => cases member
  | cons event rest => exact List.mem_singleton.mp member

theorem due_own (seen : List VerificationEvent) :
    (collect platform options (bucketsOf (windowOf options ledger) seen) ledger).keys.filter
      (isDue ledger) = [] := by
  rw [collect_bucketsOf, List.filter_eq_nil_iff]
  intro key member
  rw [keys_bucketsOf member, not_due_own]
  exact Bool.false_ne_true

theorem delete_bucketsOf (window : Window) (events : List VerificationEvent) :
    (bucketsOf window events).delete window = InsertionMap.empty := by
  apply InsertionMap.eq_of_entries
  apply List.filter_eq_nil_iff.mpr
  intro entry member
  have isWindow := keys_bucketsOf (List.mem_map_of_mem (f := Prod.fst) member)
  simp [isWindow]

theorem collect_later (later : windowOf options ledger ≠ window) (seen : List VerificationEvent) :
    (collect platform options (bucketsOf window seen) ledger).get? window =
        (bucketsOf window seen).get? window ∧
      (collect platform options (bucketsOf window seen) ledger).delete window =
        bucketsOf (windowOf options ledger) (kept platform options ledger) := by
  have inOther : ∀ event ∈ kept platform options ledger,
      windowFor event.ledger options.windowSize ≠ window := by
    intro event member
    rw [window_of_kept member]
    exact later
  rcases pushAll_other inOther (bucketsOf window seen) with ⟨found, deleted⟩
  refine ⟨found, deleted.trans ?_⟩
  rw [delete_bucketsOf]
  exact pushAll_bucketsOf (fun _ member => window_of_kept member) []

theorem due_later {first : VerificationEvent} {rest : List VerificationEvent}
    (later : windowOf options ledger ≠ window) (behind : window.endLedger ≤ ledger.ledgerSequence) :
    (collect platform options (bucketsOf window (first :: rest)) ledger).keys.filter
      (isDue ledger) = [window] := by
  rcases @collect_later platform options _ _ later (first :: rest) with ⟨found, deleted⟩
  rw [bucketsOf_of_ne_nil (List.cons_ne_nil first rest), InsertionMap.get?_set_same] at found
  have entries := ((InsertionMap.perm_delete found).map Prod.fst).filter (isDue ledger)
  rw [bucketsOf_of_ne_nil (List.cons_ne_nil first rest)]
  rw [bucketsOf_of_ne_nil (List.cons_ne_nil first rest)] at deleted
  have others : (bucketsOf (windowOf options ledger)
      (kept platform options ledger)).keys.filter (isDue ledger) = [] := by
    apply List.filter_eq_nil_iff.mpr
    intro key member
    rw [keys_bucketsOf member, not_due_own]
    exact Bool.false_ne_true
  have isDueWindow : isDue ledger window = true := decide_eq_true behind
  rw [deleted, List.map_cons, List.filter_cons_of_pos isDueWindow] at entries
  apply List.perm_singleton.mp
  refine entries.trans (.of_eq ?_)
  rw [← others]
  rfl

/-! ## A run over all chunks -/

theorem later_of_ordered {ledgers : List ExportLedger}
    (ordered : InWindowOrder options.windowSize (ledger :: ledgers)) :
    ∀ other ∈ ledgers, windowOf options other = windowOf options ledger ∨
      (windowOf options ledger).endLedger ≤ other.ledgerSequence := by
  intro other member
  have order := (windowStartFor_le_iff options.positive _ _).mp
    ((List.pairwise_cons.mp ordered).1 other member)
  rcases Nat.lt_or_eq_of_le order with less | same
  · exact .inr ((endLedger_le_iff options.positive _ _).mpr less)
  · exact .inl ((windowFor_eq_iff options.positive _ _).mpr same.symm)

theorem readLedgers_bucketsOf {ledgers : List ExportLedger}
    (ordered : InWindowOrder options.windowSize ledgers)
    (behind : ∀ ledger ∈ ledgers,
      windowOf options ledger = window ∨ window.endLedger ≤ ledger.ledgerSequence)
    (seen : List VerificationEvent) :
    readLedgers platform options (bucketsOf window seen) ledgers =
      flushChunks platform options (joined window seen (chunks platform options ledgers)) := by
  induction ledgers generalizing window seen with
  | nil =>
      cases seen with
      | nil => rfl
      | cons first rest =>
          have keys : (bucketsOf window (first :: rest)).keys = [window] := rfl
          rw [readLedgers, keys, flushAll_singleton, chunks, List.foldr_nil, joined, flushChunks,
            flushChunks, Run.andThen_done]
          rfl
  | cons ledger ledgers induction =>
      have orderedRest := (List.pairwise_cons.mp ordered).2
      have later := later_of_ordered ordered
      have chunksCons : chunks platform options (ledger :: ledgers) =
          joined (windowOf options ledger) (kept platform options ledger)
            (chunks platform options ledgers) := rfl
      rw [chunksCons]
      by_cases same : windowOf options ledger = window
      · subst same
        rw [readLedgers, due_own, collect_bucketsOf, joined_joined]
        exact induction orderedRest later _
      · have isBehind := (behind ledger List.mem_cons_self).resolve_left same
        rw [joined_of_ne same, flushChunks, ← induction orderedRest later, readLedgers]
        rcases @collect_later platform options _ _ same seen with ⟨found, deleted⟩
        cases seen with
        | nil =>
            have empty : bucketsOf window [] = bucketsOf (windowOf options ledger) [] := rfl
            rw [empty, due_own, collect_bucketsOf]
            rfl
        | cons first rest =>
            rw [due_later same isBehind, flushAll_singleton, flushWindow_congr found, List.foldl_cons,
              List.foldl_nil, deleted]
            rfl

theorem readLedgers_eq {ledgers : List ExportLedger}
    (ordered : InWindowOrder options.windowSize ledgers) :
    readLedgers platform options InsertionMap.empty ledgers =
      flushChunks platform options (chunks platform options ledgers) := by
  cases ledgers with
  | nil => rfl
  | cons ledger ledgers =>
      have behind : ∀ other ∈ ledger :: ledgers, windowOf options other = windowOf options ledger ∨
          (windowOf options ledger).endLedger ≤ other.ledgerSequence := by
        intro other member
        rcases List.mem_cons.mp member with rfl | member
        · exact .inl rfl
        · exact later_of_ordered ordered other member
      have empty : InsertionMap.empty = bucketsOf (windowOf options ledger) [] := rfl
      have chunksCons : chunks platform options (ledger :: ledgers) =
          joined (windowOf options ledger) (kept platform options ledger)
            (chunks platform options ledgers) := rfl
      rw [empty, readLedgers_bucketsOf ordered behind, chunksCons, joined_joined, List.nil_append]

theorem chunks_cons (ledger : ExportLedger) (ledgers : List ExportLedger) :
    chunks platform options (ledger :: ledgers) =
      joined (windowOf options ledger) (kept platform options ledger)
        (chunks platform options ledgers) :=
  rfl

theorem head_chunks {ledgers : List ExportLedger} {rest : List Chunk}
    (split : chunks platform options ledgers = (window, events) :: rest) :
    ∃ first later, ledgers = first :: later ∧ windowOf options first = window := by
  cases ledgers with
  | nil => cases split
  | cons first later =>
      rcases head_joined (windowOf options first) (kept platform options first)
        (chunks platform options later) with ⟨events, others, head⟩
      rw [chunks_cons, head] at split
      cases split
      exact ⟨first, later, rfl, rfl⟩

theorem tail_chunks {ledgers : List ExportLedger}
    (ordered : InWindowOrder options.windowSize ledgers) {rest : List Chunk}
    (split : chunks platform options ledgers = (window, events) :: rest) :
    rest = chunks platform options
      (ledgers.filter fun ledger => window.endLedger ≤ ledger.ledgerSequence) := by
  induction ledgers generalizing events rest with
  | nil => cases split
  | cons ledger ledgers induction =>
      have orderedRest := (List.pairwise_cons.mp ordered).2
      rcases head_chunks split with ⟨first, later, same, isWindow⟩
      cases same
      have own : ¬ window.endLedger ≤ ledger.ledgerSequence := by
        rw [← isWindow]
        exact Nat.not_le_of_lt (lt_endLedger options.positive ledger.ledgerSequence)
      rw [List.filter_cons_of_neg (by simpa using own)]
      rw [chunks_cons, isWindow] at split
      cases others : chunks platform options ledgers with
      | nil =>
          rw [others, joined] at split
          cases split
          cases ledgers with
          | nil => rfl
          | cons next ledgers =>
              rcases head_joined (windowOf options next) (kept platform options next)
                (chunks platform options ledgers) with ⟨_, _, head⟩
              rw [chunks_cons, head] at others
              cases others
      | cons chunk more =>
          rcases chunk with ⟨next, nextEvents⟩
          rw [others, joined] at split
          by_cases same : next = window
          · subst same
            rw [if_pos rfl] at split
            cases split
            exact induction orderedRest others
          · rw [if_neg same] at split
            cases split
            rcases head_chunks others with ⟨first, later, rfl, isNext⟩
            have behind : ∀ other ∈ first :: later, window.endLedger ≤ other.ledgerSequence := by
              intro other member
              have firstBehind := (later_of_ordered ordered first List.mem_cons_self).resolve_left
                (by rw [isNext, isWindow]; exact same)
              have lower := (endLedger_le_iff options.positive _ _).mp firstBehind
              rw [← isWindow]
              apply (endLedger_le_iff options.positive _ _).mpr
              rcases List.mem_cons.mp member with rfl | member
              · exact lower
              · have order := (windowStartFor_le_iff options.positive _ _).mp
                  ((List.pairwise_cons.mp orderedRest).1 other member)
                exact Nat.lt_of_lt_of_le lower order
            rw [List.filter_eq_self.mpr fun other member => decide_eq_true (behind other member)]
            exact others.symm

/-! ## What a chunk writes -/

theorem flushSubjects_effects (window : Window)
    (entries : List (JsString × List VerificationEvent)) :
    ∃ verdicts : List Verdict, (flushSubjects platform options window entries).effects =
      verdicts.map .write := by
  induction entries with
  | nil => exact ⟨[], rfl⟩
  | cons entry rest induction =>
      rcases entry with ⟨subject, events⟩
      rcases induction with ⟨verdicts, written⟩
      rw [flushSubjects]
      split
      · cases computeVerdict platform subject window events .backfill with
        | none => exact ⟨[], rfl⟩
        | some verdict =>
            refine ⟨verdict :: verdicts, ?_⟩
            rw [Run.effects_andThen rfl, written]
            rfl
      · exact ⟨verdicts, written⟩

theorem flushChunk_cases (some_ : events ≠ []) :
    ∃ verdicts : List Verdict,
      ((flushChunk platform options window events).completes = false ∧
        (flushChunk platform options window events).effects = verdicts.map .write) ∨
      ((flushChunk platform options window events).completes = true ∧
        (flushChunk platform options window events).effects =
          verdicts.map .write ++ [.save (some (window.endLedger - 1))]) := by
  rcases @flushSubjects_effects platform options window (bucketOf events).entries with
    ⟨verdicts, written⟩
  refine ⟨verdicts, ?_⟩
  rw [flushChunk, flushWindow, bucketsOf_of_ne_nil some_, InsertionMap.get?_set_same]
  cases completes : (flushSubjects platform options window (bucketOf events).entries).completes with
  | false =>
      left
      simp only [Run.andThen_of_not_completes completes]
      exact ⟨completes, written⟩
  | true =>
      right
      simp only [Run.effects_andThen completes, Run.completes_andThen, completes, written]
      exact ⟨rfl, rfl⟩

end BackfillRunner

end Orbital.WorkerCore.Verdicts
