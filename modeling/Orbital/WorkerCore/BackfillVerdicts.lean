import Orbital.WorkerCore.BackfillRunner

/-! # The verdicts of a backfill

A run that throws nothing leaves, for every subject and window, the verdict on all events of
the subject in the window, and the end of the last window as the checkpoint.
-/

namespace Orbital.WorkerCore.Verdicts

open Foundation

/-! ## Keys -/

/-- A separator that does not occur behind it splits a text in one way. -/
theorem append_separator_inj {separator : CodeUnit} {front otherFront back otherBack : JsString}
    (absent : separator ∉ back) (absentToo : separator ∉ otherBack)
    (same : front ++ separator :: back = otherFront ++ separator :: otherBack) :
    front = otherFront ∧ back = otherBack := by
  rcases List.append_eq_append_iff.mp same with ⟨between, longer, rest⟩ | ⟨between, longer, rest⟩
  · cases between with
    | nil =>
        rw [List.nil_append, List.cons.injEq] at rest
        rw [List.append_nil] at longer
        exact ⟨longer.symm, rest.2⟩
    | cons unit between =>
        rw [List.cons_append, List.cons.injEq] at rest
        rw [rest.2] at absent
        exact absurd (List.mem_append_right _ List.mem_cons_self) absent
  · cases between with
    | nil =>
        rw [List.nil_append, List.cons.injEq] at rest
        rw [List.append_nil] at longer
        exact ⟨longer, rest.2.symm⟩
    | cons unit between =>
        rw [List.cons_append, List.cons.injEq] at rest
        rw [rest.2] at absentToo
        exact absurd (List.mem_append_right _ List.mem_cons_self) absentToo

theorem verdictKey_inj {subject other : JsString} {window otherWindow : Window}
    (same : verdictKey subject window = verdictKey other otherWindow) :
    subject = other ∧ window = otherWindow := by
  have key (subject : JsString) (window : Window) : verdictKey subject window =
      (subject ++ 0x7C :: Digits.text (Digits.ofNat window.startLedger)) ++
        0x2D :: Digits.text (Digits.ofNat window.endLedger) := by
    rw [verdictKey, List.append_assoc, List.append_assoc, List.append_assoc, List.append_assoc]
    rfl
  rw [key, key] at same
  rcases append_separator_inj (Digits.not_mem_text rfl _) (Digits.not_mem_text rfl _) same with
    ⟨front, ends⟩
  rcases append_separator_inj (Digits.not_mem_text rfl _) (Digits.not_mem_text rfl _) front with
    ⟨subjects, starts⟩
  refine ⟨subjects, ?_⟩
  rcases window with ⟨startLedger, endLedger⟩
  rcases otherWindow with ⟨otherStart, otherEnd⟩
  have sameStart : startLedger = otherStart := Digits.text_ofNat_inj starts
  have sameEnd : endLedger = otherEnd := Digits.text_ofNat_inj ends
  rw [sameStart, sameEnd]

def VerdictSink.verdict (sink : VerdictSink) (subject : JsString) (window : Window) :
    Option Verdict :=
  sink.get? (verdictKey subject window)

theorem verdict_upsert (sink : VerdictSink) (verdict : Verdict) (subject : JsString)
    (window : Window) :
    (sink.upsert verdict).verdict subject window =
      if subject = verdict.subject ∧ window = verdict.window.toWindow then some verdict
      else sink.verdict subject window := by
  rw [VerdictSink.verdict, VerdictSink.upsert, InsertionMap.get?_set]
  by_cases same : subject = verdict.subject ∧ window = verdict.window.toWindow
  · rw [if_pos (by rw [same.1, same.2]), if_pos same]
  · rw [if_neg fun equal => same (verdictKey_inj equal), if_neg same]
    rfl

/-! ## Events of a subject -/

def ofSubject (subject : JsString) (events : List VerificationEvent) : List VerificationEvent :=
  events.filter fun event => event.subject = subject

def someEvents : List VerificationEvent → Option (List VerificationEvent)
  | [] => none
  | events => some events

variable {events : List VerificationEvent}

theorem someEvents_of_ne_nil (others : events ≠ []) : someEvents events = some events := by
  cases events with
  | nil => exact absurd rfl others
  | cons first rest => rfl

theorem getD_someEvents (events : List VerificationEvent) : (someEvents events).getD [] = events := by
  cases events with
  | nil | cons first rest => rfl

theorem someEvents_eq_some {found : List VerificationEvent}
    (isSome : someEvents events = some found) : events = found ∧ found ≠ [] := by
  cases events with
  | nil => cases isSome
  | cons first rest =>
      cases isSome
      exact ⟨rfl, List.cons_ne_nil first rest⟩

theorem get?_bucketOf (subject : JsString) (events : List VerificationEvent) :
    (bucketOf events).get? subject = someEvents (ofSubject subject events) := by
  induction events using List.reverseRecOn with
  | nil => rfl
  | append_singleton events event induction =>
      have pushed : bucketOf (events ++ [event]) = (bucketOf events).push event :=
        List.foldl_append
      rw [pushed, Bucket.push, InsertionMap.get?_set, ofSubject, List.filter_append]
      by_cases same : subject = event.subject
      · subst same
        rw [if_pos rfl, induction, getD_someEvents, List.filter_singleton]
        simp only [decide_true, cond_true]
        exact (someEvents_of_ne_nil (List.append_ne_nil_of_right_ne_nil _ (by simp))).symm
      · rw [if_neg same, induction, List.filter_singleton, decide_eq_false (Ne.symm same)]
        simp only [cond_false, List.append_nil]
        rfl

theorem mem_bucketOf {entry : JsString × List VerificationEvent} :
    entry ∈ (bucketOf events).entries ↔ someEvents (ofSubject entry.1 events) = some entry.2 := by
  rw [← get?_bucketOf, InsertionMap.get?_eq_some_iff]

theorem subject_of_mem_bucketOf {entry : JsString × List VerificationEvent}
    (member : entry ∈ (bucketOf events).entries) : ∃ event ∈ events, event.subject = entry.1 := by
  rcases someEvents_eq_some (mem_bucketOf.mp member) with ⟨same, others⟩
  rcases List.exists_mem_of_ne_nil _ others with ⟨event, inside⟩
  rw [← same] at inside
  rcases List.mem_filter.mp inside with ⟨inEvents, isSubject⟩
  exact ⟨event, inEvents, of_decide_eq_true isSubject⟩

def inWindow (windowSize : Nat) (subject : JsString) (window : Window)
    (events : List VerificationEvent) : List VerificationEvent :=
  events.filter fun event => windowFor event.ledger windowSize = window ∧ event.subject = subject

namespace BackfillRunner

variable (platform : Platform) (options : BackfillOptions)

def verdictIn (events : List VerificationEvent) (subject : JsString) (window : Window) :
    Option Verdict :=
  (someEvents (inWindow options.windowSize subject window events)).bind fun events =>
    computeVerdict platform subject window events .backfill

def checkpointAfter (events : List VerificationEvent) (prior : Checkpoint) : Checkpoint :=
  match events.getLast? with
  | none => prior
  | some event => some ((windowFor event.ledger options.windowSize).endLedger - 1)

/-! ## One window -/

variable {platform options} {window : Window}

def Scored (platform : Platform) (options : BackfillOptions) (subject : JsString) : Prop :=
  scores options subject = true ∧ canonicalAddress platform subject = subject

variable {events : List VerificationEvent} {ledgers : List ExportLedger}

theorem flushSubjects_cons {subject : JsString} {rest : List (JsString × List VerificationEvent)}
    (scored : scores options subject = true)
    (completes : (flushSubjects platform options window ((subject, events) :: rest)).completes =
      true) :
    ∃ verdict, computeVerdict platform subject window events .backfill = some verdict ∧
      (flushSubjects platform options window rest).completes = true ∧
      (flushSubjects platform options window ((subject, events) :: rest)).effects =
        .write verdict :: (flushSubjects platform options window rest).effects := by
  rw [flushSubjects, if_pos scored] at completes ⊢
  cases computed : computeVerdict platform subject window events .backfill with
  | none =>
      rw [computed] at completes
      cases completes
  | some verdict =>
      rw [computed] at completes
      refine ⟨verdict, rfl, ?_, rfl⟩
      simpa [Run.completes_andThen, Run.awaits] using completes

theorem verdict_flushSubjects {entries : List (JsString × List VerificationEvent)}
    (scored : ∀ entry ∈ entries, Scored platform options entry.1)
    (nodup : (entries.map Prod.fst).Nodup)
    (completes : (flushSubjects platform options window entries).completes = true)
    (progress : Progress VerdictSink Checkpoint) (subject : JsString) (other : Window) :
    (Resumption.performAll VerdictSink.upsert progress
        (flushSubjects platform options window entries).effects).store.verdict subject other =
      (if other = window then (InsertionMap.getEntry subject entries).bind fun events =>
        computeVerdict platform subject window events .backfill else none).or
        (progress.store.verdict subject other) := by
  induction entries generalizing progress with
  | nil =>
      show _ = Option.or (if other = window then none else none) _
      rw [ite_self]
      rfl
  | cons entry rest induction =>
      rcases entry with ⟨first, events⟩
      rcases scored _ List.mem_cons_self with ⟨isScored, canonical⟩
      rcases flushSubjects_cons isScored completes with ⟨verdict, computed, restCompletes, written⟩
      have parts := List.nodup_cons.mp nodup
      rcases computeVerdict_eq_some computed with ⟨isSubject, isWindow, -, -⟩
      rw [written]
      show (Resumption.performAll VerdictSink.upsert
        { progress with store := progress.store.upsert verdict } _).store.verdict subject other = _
      rw [induction (fun entry member => scored entry (List.mem_cons_of_mem _ member)) parts.2
        restCompletes]
      show Option.or _ ((progress.store.upsert verdict).verdict subject other) = _
      rw [verdict_upsert, isSubject, isWindow, canonical, InsertionMap.getEntry]
      by_cases sameWindow : other = window
      · rw [if_pos sameWindow, if_pos sameWindow]
        by_cases same : first = subject
        · subst same
          have absent : InsertionMap.getEntry first rest = none := by
            cases found : InsertionMap.getEntry first rest with
            | none => rfl
            | some events =>
                have inside : (⟨rest, parts.2⟩ : Bucket).get? first = some events := found
                exact absurd (List.mem_map_of_mem (InsertionMap.get?_eq_some_iff.mp inside)) parts.1
          rw [absent, if_pos ⟨rfl, sameWindow⟩, if_pos rfl]
          show some verdict = Option.or (computeVerdict platform first window events .backfill) _
          rw [computed]
          rfl
        · rw [if_neg same, if_neg fun both => same both.1.symm]
      · rw [if_neg sameWindow, if_neg sameWindow, if_neg fun both => sameWindow both.2]

theorem inWindow_own {windowSize : Nat}
    (own : ∀ event ∈ events, windowFor event.ledger windowSize = window) (subject : JsString)
    (other : Window) :
    inWindow windowSize subject other events =
      if other = window then ofSubject subject events else [] := by
  split
  · rename_i same
    apply List.filter_congr
    intro event member
    rw [own event member, same]
    simp only [true_and]
  · rename_i different
    apply List.filter_eq_nil_iff.mpr
    intro event member
    rw [own event member]
    simp [Ne.symm different]

theorem after_flushChunk
    (own : ∀ event ∈ events, windowFor event.ledger options.windowSize = window)
    (scored : ∀ event ∈ events, Scored platform options event.subject)
    (completes : (flushChunk platform options window events).completes = true)
    (progress : Progress VerdictSink Checkpoint) :
    (∀ subject other, (Resumption.performAll VerdictSink.upsert progress
        (flushChunk platform options window events).effects).store.verdict subject other =
          (verdictIn platform options events subject other).or
            (progress.store.verdict subject other)) ∧
      (Resumption.performAll VerdictSink.upsert progress
        (flushChunk platform options window events).effects).mark =
          checkpointAfter options events progress.mark := by
  cases nonempty : events with
  | nil => exact ⟨fun _ _ => rfl, rfl⟩
  | cons first rest =>
      rw [← nonempty]
      have some_ : events ≠ [] := nonempty ▸ List.cons_ne_nil first rest
      rw [flushChunk, flushWindow, bucketsOf_of_ne_nil some_, InsertionMap.get?_set_same]
      rw [flushChunk, flushWindow, bucketsOf_of_ne_nil some_, InsertionMap.get?_set_same,
        Run.completes_andThen, Bool.and_eq_true] at completes
      have entriesScored : ∀ entry ∈ (bucketOf events).entries, Scored platform options entry.1 := by
        intro entry member
        rcases subject_of_mem_bucketOf member with ⟨event, inEvents, isSubject⟩
        rw [← isSubject]
        exact scored event inEvents
      simp only [Run.effects_andThen completes.1, Resumption.performAll_append]
      constructor
      · intro subject other
        show (Resumption.performAll VerdictSink.upsert progress _).store.verdict subject other = _
        have entry : InsertionMap.getEntry subject (bucketOf events).entries =
            someEvents (ofSubject subject events) := get?_bucketOf subject events
        rw [verdict_flushSubjects entriesScored (bucketOf events).nodup completes.1, verdictIn,
          inWindow_own own, entry]
        by_cases same : other = window
        · rw [if_pos same, if_pos same, same]
        · rw [if_neg same, if_neg same]
          rfl
      · show some (window.endLedger - 1) = _
        rw [checkpointAfter, List.getLast?_eq_some_getLast some_]
        exact congrArg (fun window : Window => some (window.endLedger - 1))
          (own _ (List.getLast_mem some_)).symm

theorem flatMap_joined (window : Window) (events : List VerificationEvent) (chunks : List Chunk) :
    (joined window events chunks).flatMap Prod.snd = events ++ chunks.flatMap Prod.snd := by
  cases chunks with
  | nil => simp [joined]
  | cons chunk rest =>
      rcases chunk with ⟨first, later⟩
      by_cases same : first = window
      · simp [joined, same]
      · simp [joined, same]

theorem flatMap_chunks (ledgers : List ExportLedger) :
    (chunks platform options ledgers).flatMap Prod.snd =
      ledgers.flatMap (kept platform options) := by
  induction ledgers with
  | nil => rfl
  | cons ledger rest induction =>
      rw [chunks_cons, flatMap_joined, induction, List.flatMap_cons]

theorem own_joined {windowSize : Nat} {chunks : List Chunk}
    (own : ∀ event ∈ events, windowFor event.ledger windowSize = window)
    (ownToo : ∀ chunk ∈ chunks, ∀ event ∈ chunk.2, windowFor event.ledger windowSize = chunk.1) :
    ∀ chunk ∈ joined window events chunks, ∀ event ∈ chunk.2,
      windowFor event.ledger windowSize = chunk.1 := by
  cases chunks with
  | nil => exact List.forall_mem_singleton.mpr own
  | cons chunk rest =>
      rcases chunk with ⟨first, later⟩
      rcases List.forall_mem_cons.mp ownToo with ⟨inFirst, inRest⟩
      rw [joined]
      split
      · rename_i same
        refine List.forall_mem_cons.mpr ⟨?_, inRest⟩
        intro event member
        rcases List.mem_append.mp member with front | back
        · exact own event front
        · exact (inFirst event back).trans same
      · exact List.forall_mem_cons.mpr ⟨own, ownToo⟩

theorem own_chunks {chunk : Chunk} (member : chunk ∈ chunks platform options ledgers) :
    ∀ event ∈ chunk.2, windowFor event.ledger options.windowSize = chunk.1 := by
  induction ledgers generalizing chunk with
  | nil => cases member
  | cons ledger rest induction =>
      rw [chunks_cons] at member
      exact own_joined (fun _ inside => window_of_kept inside) (fun _ inside => induction inside)
        chunk member

/-! ## All windows -/

theorem inWindow_append (windowSize : Nat) (subject : JsString) (window : Window)
    (front back : List VerificationEvent) :
    inWindow windowSize subject window (front ++ back) =
      inWindow windowSize subject window front ++ inWindow windowSize subject window back :=
  List.filter_append front back

theorem verdictIn_append {front back : List VerificationEvent} {subject : JsString}
    (one : inWindow options.windowSize subject window front = [] ∨
      inWindow options.windowSize subject window back = []) :
    verdictIn platform options (front ++ back) subject window =
      (verdictIn platform options back subject window).or
        (verdictIn platform options front subject window) := by
  rw [verdictIn, verdictIn, verdictIn, inWindow_append]
  rcases one with none | none
  · rw [none, List.nil_append]
    exact (Option.or_none).symm
  · rw [none, List.append_nil]
    rfl

theorem checkpointAfter_append (front back : List VerificationEvent) (prior : Checkpoint) :
    checkpointAfter options (front ++ back) prior =
      checkpointAfter options back (checkpointAfter options front prior) := by
  rw [checkpointAfter, checkpointAfter, checkpointAfter, List.getLast?_append]
  cases back.getLast? with
  | none | some event => rfl

theorem inWindow_behind (behind : ∀ ledger ∈ ledgers, window.endLedger ≤ ledger.ledgerSequence)
    (subject : JsString) :
    inWindow options.windowSize subject window (ledgers.flatMap (kept platform options)) = [] := by
  apply List.filter_eq_nil_iff.mpr
  intro event member inside
  rcases List.mem_flatMap.mp member with ⟨ledger, isLedger, isKept⟩
  have same := (of_decide_eq_true inside).1
  rw [window_of_kept isKept] at same
  have ends := lt_endLedger options.positive ledger.ledgerSequence
  have later := behind ledger isLedger
  rw [← same] at later
  exact absurd ends (Nat.not_lt_of_le later)

theorem after_flushChunks (ordered : InWindowOrder options.windowSize ledgers)
    (scored : ∀ ledger ∈ ledgers, ∀ event ∈ kept platform options ledger,
      Scored platform options event.subject)
    (completes : (flushChunks platform options (chunks platform options ledgers)).completes = true)
    (progress : Progress VerdictSink Checkpoint) :
    (∀ subject window, (Resumption.performAll VerdictSink.upsert progress
        (flushChunks platform options (chunks platform options ledgers)).effects).store.verdict
          subject window =
          (verdictIn platform options (ledgers.flatMap (kept platform options)) subject window).or
            (progress.store.verdict subject window)) ∧
      (Resumption.performAll VerdictSink.upsert progress
        (flushChunks platform options (chunks platform options ledgers)).effects).mark =
          checkpointAfter options (ledgers.flatMap (kept platform options)) progress.mark := by
  induction length : ledgers.length using Nat.strongRecOn generalizing ledgers progress with
  | ind count induction =>
      cases split : chunks platform options ledgers with
      | nil =>
          have none : ledgers.flatMap (kept platform options) = [] := by
            rw [← flatMap_chunks, split, List.flatMap_nil]
          rw [none]
          exact ⟨fun _ _ => rfl, rfl⟩
      | cons chunk rest =>
          rcases chunk with ⟨window, events⟩
          rcases head_chunks split with ⟨first, later, rfl, isWindow⟩
          have tail := tail_chunks ordered split
          have whole : (first :: later).flatMap (kept platform options) =
              events ++ rest.flatMap Prod.snd := by
            rw [← flatMap_chunks, split, List.flatMap_cons]
          have chunkScored : ∀ event ∈ events, Scored platform options event.subject := by
            intro event member
            have inside := List.mem_append_left (rest.flatMap Prod.snd) member
            rw [← whole] at inside
            rcases List.mem_flatMap.mp inside with ⟨ledger, isLedger, isKept⟩
            exact scored ledger isLedger event isKept
          have own := own_chunks (split ▸ List.mem_cons_self)
          have shorter : ((first :: later).filter
              fun ledger => window.endLedger ≤ ledger.ledgerSequence).length < count := by
            have before : ¬ window.endLedger ≤ first.ledgerSequence := by
              rw [← isWindow]
              exact Nat.not_le_of_lt (lt_endLedger options.positive first.ledgerSequence)
            rw [List.filter_cons_of_neg (by simpa using before), ← length]
            exact Nat.lt_succ_of_le (List.length_filter_le _ _)
          rw [split, flushChunks, Run.completes_andThen, Bool.and_eq_true] at completes
          rcases after_flushChunk own chunkScored completes.1 progress with ⟨inChunk, mark⟩
          rcases induction _ shorter (ordered.filter _)
            (fun ledger member => scored ledger (List.mem_filter.mp member).1)
            (tail ▸ completes.2) (Resumption.performAll VerdictSink.upsert progress
              (flushChunk platform options window events).effects) rfl with ⟨inRest, last⟩
          rw [← tail, ← flatMap_chunks, ← tail] at inRest last
          rw [flushChunks, Run.effects_andThen completes.1, Resumption.performAll_append, whole]
          constructor
          · intro subject other
            rw [inRest, inChunk, ← Option.or_assoc, verdictIn_append]
            by_cases same : other = window
            · right
              rw [tail, flatMap_chunks, same]
              apply inWindow_behind
              intro ledger member
              exact of_decide_eq_true (List.mem_filter.mp member).2
            · left
              rw [inWindow_own own, if_neg same]
          · rw [last, mark, checkpointAfter_append]

/-! ## Runs that throw nothing -/

def Readable (event : VerificationEvent) : Prop :=
  (signedStroops event).isSome = true

theorem completes_flushSubjects {entries : List (JsString × List VerificationEvent)}
    (scored : ∀ entry ∈ entries, scores options entry.1 = true) :
    (flushSubjects platform options window entries).completes = true ↔
      ∀ entry ∈ entries, ∀ event ∈ entry.2, Readable event := by
  induction entries with
  | nil => exact iff_of_true rfl fun _ member => absurd member List.not_mem_nil
  | cons entry rest induction =>
      rcases entry with ⟨subject, events⟩
      rcases List.forall_mem_cons.mp scored with ⟨isScored, restScored⟩
      have readable := @computeVerdict_isSome_iff platform subject window events .backfill
      rw [flushSubjects, if_pos isScored, List.forall_mem_cons, ← induction restScored]
      cases computed : computeVerdict platform subject window events .backfill with
      | none =>
          rw [computed] at readable
          exact iff_of_false Bool.false_ne_true fun both => absurd (readable.mpr both.1) (by decide)
      | some verdict =>
          rw [computed] at readable
          rw [Run.completes_andThen, Run.awaits, Bool.true_and]
          exact (and_iff_right (readable.mp rfl)).symm

theorem completes_flushChunk (scored : ∀ event ∈ events, Scored platform options event.subject) :
    (flushChunk platform options window events).completes = true ↔
      ∀ event ∈ events, Readable event := by
  cases nonempty : events with
  | nil => exact iff_of_true rfl fun _ member => absurd member List.not_mem_nil
  | cons first rest =>
      rw [← nonempty]
      have some_ : events ≠ [] := nonempty ▸ List.cons_ne_nil first rest
      have entriesScored : ∀ entry ∈ (bucketOf events).entries, scores options entry.1 = true := by
        intro entry member
        rcases subject_of_mem_bucketOf member with ⟨event, inEvents, isSubject⟩
        rw [← isSubject]
        exact (scored event inEvents).1
      rw [flushChunk, flushWindow, bucketsOf_of_ne_nil some_, InsertionMap.get?_set_same]
      simp only [Run.completes_andThen, completes_flushSubjects entriesScored, Run.awaits,
        Bool.and_true]
      constructor
      · intro readable event member
        have inside : event ∈ ofSubject event.subject events :=
          List.mem_filter.mpr ⟨member, decide_eq_true rfl⟩
        exact readable (event.subject, ofSubject event.subject events)
          (mem_bucketOf.mpr (someEvents_of_ne_nil (List.ne_nil_of_mem inside))) event inside
      · intro readable entry isEntry event member
        rw [← (someEvents_eq_some (mem_bucketOf.mp isEntry)).1] at member
        exact readable event (List.mem_filter.mp member).1

theorem completes_flushChunks {chunks : List Chunk}
    (scored : ∀ event ∈ chunks.flatMap Prod.snd, Scored platform options event.subject) :
    (flushChunks platform options chunks).completes = true ↔
      ∀ event ∈ chunks.flatMap Prod.snd, Readable event := by
  induction chunks with
  | nil => exact iff_of_true rfl fun _ member => absurd member List.not_mem_nil
  | cons chunk rest induction =>
      rw [List.flatMap_cons] at scored
      rcases List.forall_mem_append.mp scored with ⟨inChunk, inRest⟩
      rw [flushChunks, Run.completes_andThen, Bool.and_eq_true, completes_flushChunk inChunk,
        induction inRest, List.flatMap_cons, List.forall_mem_append]

end BackfillRunner

end Orbital.WorkerCore.Verdicts
