import Orbital.PulseWebhooks.MemoryRetryQueue
import Orbital.PulseWebhooks.PostgresRetryQueue

/-! # Postgres against the reference

A table with one row for each id holds what the two maps of the reference hold as long as
no id is in both. A lock that has run out makes its row available where it is, without a
call that puts it back, so the table is compared with a reference whose visibility
timeouts run out in place, and with the reference itself where none has run out.
-/

namespace Orbital.PulseWebhooks

open Foundation

variable {Event Metadata : Type}

namespace Contents

variable (contents : Contents Event Metadata)

def Available (nowMs : Millis) (record : RetryRecord Event Metadata Millis) : Prop :=
  contents.queued record.id = some record ∨
    ∃ expiresAt, contents.inFlight record.id = some (record, expiresAt) ∧ expiresAt ≤ nowMs

end Contents

/-! ## Timeouts that run out in place -/

namespace MemoryRetryQueue

variable (queue : MemoryRetryQueue Event Metadata)

def available (nowMs : Millis) : List (RetryRecord Event Metadata Millis) :=
  queue.queued.values.map (fun entry => entry.record) ++
    (queue.inFlight.values.filter fun out => out.expiresAt ≤ nowMs).map fun out => out.record

def dueInPlace (nowMs : Millis) : List (RetryRecord Event Metadata Millis) :=
  (queue.available nowMs).filter fun record => record.nextRetryAt ≤ nowMs

/-- A record that takes the place of one that waits keeps the time of its creation. -/
def enqueueInPlace (record : RetryRecord Event Metadata (Option Millis)) :
    Except String (MemoryRetryQueue Event Metadata) := do
  let accepted ← assertRecord record
  return queue.setQueued { accepted with
    createdAt := (queue.contents.queued accepted.id).elim accepted.createdAt
      fun old => old.createdAt }

def dequeueInPlace (visibilityTimeoutMs nowMs : Millis) :
    Option (RetryRecord Event Metadata Millis) × MemoryRetryQueue Event Metadata :=
  match pick (fun record best => record.nextRetryAt < best.nextRetryAt)
      (queue.dueInPlace nowMs) with
  | none => (none, queue)
  | some record =>
      (some record,
        { queue with
          queued := queue.queued.delete record.id
          inFlight := queue.inFlight.set record.id
            { record, expiresAt := nowMs + visibilityTimeoutMs } })

def inPlace (visibilityTimeoutMs : Millis) :
    Machine (MemoryRetryQueue Event Metadata) (Call Event Metadata) (Answer Event Metadata) where
  step := fun queue call =>
    match call with
    | .enqueue record =>
        match queue.enqueueInPlace record with
        | .error error => (.rejected error, queue)
        | .ok queue => (.settled, queue)
    | .dequeue nowMs =>
        let taken := queue.dequeueInPlace visibilityTimeoutMs nowMs
        (.record taken.1, taken.2)
    | .ack recordId => (.settled, queue.ack recordId)
    | .nack recordId requeueDelayMs now => (.settled, queue.nack recordId requeueDelayMs now)
    | .evictNewest =>
        let evicted := queue.evictNewest
        (.record evicted.1, evicted.2)
    | .size now => (.count (queue.available now).length, queue)

variable {queue}

variable {nowMs : Millis} {record : RetryRecord Event Metadata Millis}

theorem mem_available (keyed : queue.contents.Keyed) :
    record ∈ queue.available nowMs ↔ queue.contents.Available nowMs record := by
  rw [available, List.mem_append]
  refine or_congr ?_ ?_
  · constructor
    · intro member
      rcases List.mem_map.mp member with ⟨entry, inside, rfl⟩
      exact waits_of_mem_values keyed inside
    · intro waits
      rcases exists_entry waits with ⟨entry, inside, same⟩
      exact List.mem_map.mpr ⟨entry, inside, same⟩
  · constructor
    · intro member
      rcases List.mem_map.mp member with ⟨out, inside, rfl⟩
      rcases List.mem_filter.mp inside with ⟨value, late⟩
      rcases List.mem_map.mp value with ⟨⟨id, same⟩, entry, rfl⟩
      have found := contents_inFlight.mpr (InsertionMap.get?_eq_some_iff.mpr entry)
      refine ⟨same.expiresAt, ?_, of_decide_eq_true late⟩
      rw [keyed.inFlight found]
      exact found
    · rintro ⟨expiresAt, out, late⟩
      have entry := InsertionMap.get?_eq_some_iff.mp (contents_inFlight.mp out)
      refine List.mem_map.mpr ⟨_, List.mem_filter.mpr ⟨List.mem_map.mpr ⟨_, entry, rfl⟩, ?_⟩, rfl⟩
      exact decide_eq_true late

theorem nodup_available (keyed : queue.contents.Keyed) (nowMs : Millis)
    (apart : ∀ {id record}, queue.contents.queued id = some record →
      queue.contents.inFlight id = none) :
    ((queue.available nowMs).map RetryRecord.id).Nodup := by
  have waiting : (queue.queued.values.map fun entry => entry.record.id).Nodup :=
    InsertionMap.nodup_names fun found => keyed.queued (contents_queued.mpr ⟨_, found, rfl⟩)
  have out : (queue.inFlight.values.map fun out => out.record.id).Nodup :=
    InsertionMap.nodup_names fun found => keyed.inFlight (contents_inFlight.mpr found)
  have expired : ((queue.inFlight.values.filter fun out => out.expiresAt ≤ nowMs).map
      fun out => out.record.id).Nodup :=
    (List.filter_sublist.map _).nodup out
  rw [available, List.map_append, List.map_map, List.map_map]
  refine List.Nodup.append waiting expired ?_
  intro id waits isOut
  rcases List.mem_map.mp waits with ⟨entry, member, rfl⟩
  rcases List.mem_map.mp isOut with ⟨taken, inside, same⟩
  have sameId : taken.record.id = entry.record.id := same
  rcases InsertionMap.mem_values_iff.mp (List.mem_filter.mp inside).1 with ⟨key, found⟩
  have isTaken := contents_inFlight.mpr found
  rw [← keyed.inFlight isTaken, sameId, apart (waits_of_mem_values keyed member)] at isTaken
  cases isTaken

theorem mem_dueInPlace (keyed : queue.contents.Keyed) :
    record ∈ queue.dueInPlace nowMs ↔
      queue.contents.Available nowMs record ∧ record.nextRetryAt ≤ nowMs := by
  rw [dueInPlace, List.mem_filter, mem_available keyed, decide_eq_true_eq]

theorem compares_nextRetryAt : Compares
    (fun record best : RetryRecord Event Metadata Millis =>
      decide (record.nextRetryAt < best.nextRetryAt))
    fun record other => record.nextRetryAt ≤ other.nextRetryAt where
  refl := fun _ => le_refl _
  trans := le_trans
  taken := fun before => (of_decide_eq_true before).le
  passed := fun notBefore => not_lt.mp (of_decide_eq_false notBefore)

theorem dequeueInPlace_cases (visibilityTimeoutMs nowMs : Millis) :
    (queue.dequeueInPlace visibilityTimeoutMs nowMs = (none, queue) ∧
      queue.dueInPlace nowMs = []) ∨
    ∃ record ∈ queue.dueInPlace nowMs,
      (∀ other ∈ queue.dueInPlace nowMs, record.nextRetryAt ≤ other.nextRetryAt) ∧
      (queue.dequeueInPlace visibilityTimeoutMs nowMs).1 = some record ∧
      (queue.dequeueInPlace visibilityTimeoutMs nowMs).2.contents =
        queue.contents.claim record (nowMs + visibilityTimeoutMs) := by
  rw [dequeueInPlace]
  cases picked : pick (fun record best : RetryRecord Event Metadata Millis =>
      decide (record.nextRetryAt < best.nextRetryAt)) (queue.dueInPlace nowMs) with
  | none => exact .inl ⟨rfl, pick_eq_none.mp picked⟩
  | some record =>
      rcases pick_spec compares_nextRetryAt picked with ⟨member, first⟩
      exact .inr ⟨record, member, first, rfl, contents_claim record _⟩

end MemoryRetryQueue

/-! ## The table -/

/-- Whole milliseconds that a `Date` reaches. -/
def Whole (time : Millis) : Prop :=
  time.den = 1 ∧ time.num.natAbs ≤ maxDate

instance (time : Millis) : Decidable (Whole time) :=
  inferInstanceAs (Decidable (_ ∧ _))

theorem toTimestamp_whole {time : Millis} (whole : Whole time) :
    toTimestamp time = .ok time.num ∧ (time.num : Millis) = time := by
  have cut : time.num.tdiv time.den = time.num := by
    rw [whole.1]
    exact Int.tdiv_one _
  refine ⟨?_, (Rat.den_eq_one_iff time).mp whole.1⟩
  rw [toTimestamp, cut]
  exact if_pos whole.2

structure Storable (record : RetryRecord Event Metadata Millis) : Prop where
  nextRetryAt : Whole record.nextRetryAt
  createdAt : ∀ createdAt ∈ record.createdAt, Whole createdAt
  attempt : record.attempt ≤ 2147483647

namespace PostgresRetryQueue

variable {planner : Planner Event Metadata} {table : PostgresRetryQueue Event Metadata}

def waiting (row : RetryQueueRow Event Metadata) : Option (RetryRecord Event Metadata Millis) :=
  match row.lockedUntil with
  | none => some (mapRow row)
  | some _ => none

def out (row : RetryQueueRow Event Metadata) :
    Option (RetryRecord Event Metadata Millis × Millis) :=
  match row.lockedUntil with
  | none => none
  | some lockedUntil => some (mapRow row, lockedUntil)

def contents (table : PostgresRetryQueue Event Metadata) : Contents Event Metadata where
  queued := fun id => (table.rows.get? id).bind waiting
  inFlight := fun id => (table.rows.get? id).bind out

theorem contents_queued (id : String) :
    table.contents.queued id = (table.rows.get? id).bind waiting :=
  rfl

theorem contents_inFlight (id : String) :
    table.contents.inFlight id = (table.rows.get? id).bind out :=
  rfl

section Rows

variable {row : RetryQueueRow Event Metadata} {record : RetryRecord Event Metadata Millis}
  {id : String} {now nowMs : Millis}

theorem waiting_eq_some :
    waiting row = some record ↔ row.lockedUntil = none ∧ mapRow row = record := by
  rw [waiting]
  cases row.lockedUntil with
  | none | some lockedUntil => simp

variable {expiresAt : Millis}

theorem out_eq_some :
    out row = some (record, expiresAt) ↔
      ∃ lockedUntil : Int, row.lockedUntil = some lockedUntil ∧ mapRow row = record ∧
        (lockedUntil : Millis) = expiresAt := by
  rw [out]
  cases row.lockedUntil with
  | none | some lockedUntil => simp

theorem contents_set (id : String) (row : RetryQueueRow Event Metadata) :
    ({ rows := table.rows.set id row } : PostgresRetryQueue Event Metadata).contents =
      { queued := Function.update table.contents.queued id (waiting row)
        inFlight := Function.update table.contents.inFlight id (out row) } := by
  apply Contents.ext
  · funext other
    rw [contents_queued]
    dsimp only
    rw [InsertionMap.get?_set, Function.update_apply]
    split <;> rfl
  · funext other
    rw [contents_inFlight]
    dsimp only
    rw [InsertionMap.get?_set, Function.update_apply]
    split <;> rfl

theorem contents_set_unlocked (table : PostgresRetryQueue Event Metadata)
    (row : RetryQueueRow Event Metadata) (unlocked : row.lockedUntil = none) :
    ({ rows := table.rows.set row.id row } : PostgresRetryQueue Event Metadata).contents =
      (table.contents.settle row.id).put (mapRow row) := by
  rw [contents_set, waiting, out, unlocked]
  rfl

theorem contents_set_locked (row : RetryQueueRow Event Metadata) (lockedUntil : Int) :
    ({ rows := table.rows.set row.id { row with lockedUntil := some lockedUntil } } :
        PostgresRetryQueue Event Metadata).contents =
      table.contents.claim (mapRow row) lockedUntil :=
  contents_set row.id _

theorem contents_delete (id : String) :
    ({ rows := table.rows.delete id } : PostgresRetryQueue Event Metadata).contents =
      (table.contents.drop id).settle id := by
  apply Contents.ext
  · funext other
    rw [Contents.settle_queued, Contents.drop_queued, contents_queued]
    dsimp only
    rw [InsertionMap.get?_delete, Function.update_apply]
    split <;> rfl
  · funext other
    rw [Contents.settle_inFlight, Contents.drop_inFlight, contents_inFlight]
    dsimp only
    rw [InsertionMap.get?_delete, Function.update_apply]
    split <;> rfl

theorem queued_eq_some :
    table.contents.queued id = some record ↔
      ∃ row, table.rows.get? id = some row ∧ row.lockedUntil = none ∧ mapRow row = record := by
  rw [contents_queued, Option.bind_eq_some_iff]
  simp only [waiting_eq_some]

theorem inFlight_eq_some :
    table.contents.inFlight id = some (record, expiresAt) ↔
      ∃ row, table.rows.get? id = some row ∧ ∃ lockedUntil : Int,
        row.lockedUntil = some lockedUntil ∧ mapRow row = record ∧
          (lockedUntil : Millis) = expiresAt := by
  rw [contents_inFlight, Option.bind_eq_some_iff]
  simp only [out_eq_some]

theorem not_both (waits : table.contents.queued id = some record) :
    table.contents.inFlight id = none := by
  rcases queued_eq_some.mp waits with ⟨row, found, unlocked, -⟩
  rw [contents_inFlight, found, Option.bind_some, out, unlocked]

theorem no_row (unqueued : table.contents.queued id = none)
    (settled : table.contents.inFlight id = none) : table.rows.get? id = none := by
  cases found : table.rows.get? id with
  | none => rfl
  | some row =>
      cases locked : row.lockedUntil with
      | none =>
          rw [queued_eq_some.mpr ⟨row, found, locked, rfl⟩] at unqueued
          cases unqueued
      | some lockedUntil =>
          rw [inFlight_eq_some.mpr ⟨row, found, lockedUntil, locked, rfl, rfl⟩] at settled
          cases settled

/-! ## The statements -/

theorem row_id (keyed : table.contents.Keyed) (found : table.rows.get? id = some row) :
    row.id = id := by
  cases locked : row.lockedUntil with
  | none => exact keyed.queued (queued_eq_some.mpr ⟨row, found, locked, rfl⟩)
  | some lockedUntil =>
      exact keyed.inFlight (inFlight_eq_some.mpr ⟨row, found, lockedUntil, locked, rfl, rfl⟩)

theorem mem_scan (keyed : table.contents.Keyed) :
    row ∈ planner.scan table.rows.values ↔ table.rows.get? row.id = some row := by
  rw [(planner.perm _).mem_iff]
  constructor
  · intro member
    rcases List.mem_map.mp member with ⟨⟨id, same⟩, inside, rfl⟩
    have found := InsertionMap.get?_eq_some_iff.mpr inside
    have key : same.id = id := row_id keyed found
    exact key.symm ▸ found
  · intro found
    exact List.mem_map.mpr ⟨_, InsertionMap.get?_eq_some_iff.mp found, rfl⟩

theorem createdTimestamp_whole {createdAt : Option Millis}
    (whole : ∀ time ∈ createdAt, Whole time) :
    ∃ written, createdTimestamp createdAt = .ok written ∧
      written.map (fun time : Int => (time : Millis)) = createdAt := by
  cases createdAt with
  | none => exact ⟨none, rfl, rfl⟩
  | some time =>
      rcases toTimestamp_whole (whole time rfl) with ⟨written, readBack⟩
      refine ⟨some time.num, ?_, ?_⟩
      · rw [createdTimestamp, written]
        rfl
      · rw [Option.map_some, readBack]

theorem rowOf_storable (storable : Storable record) :
    ∃ row, rowOf record = .ok row ∧ row.id = record.id ∧ row.lockedUntil = none ∧
      mapRow row = record := by
  rcases toTimestamp_whole storable.nextRetryAt with ⟨written, readBack⟩
  rcases createdTimestamp_whole storable.createdAt with ⟨created, createdWritten, createdBack⟩
  refine ⟨⟨record.id, record.event, record.url, record.attempt, record.nextRetryAt.num, none,
    record.lastError, created, record.metadata⟩, ?_, rfl, rfl, ?_⟩
  · rw [rowOf, written, createdWritten]
    exact if_pos storable.attempt
  · rw [mapRow]
    dsimp only
    rw [readBack, createdBack]

theorem contents_upsert (unlocked : row.lockedUntil = none)
    (settled : table.contents.inFlight row.id = none) :
    (table.upsert row).contents = table.contents.put { mapRow row with
      createdAt := (table.contents.queued row.id).elim (mapRow row).createdAt
        fun old => old.createdAt } := by
  rw [upsert]
  cases found : table.rows.get? row.id with
  | none =>
      dsimp only
      rw [contents_set_unlocked _ row unlocked, Contents.settle_of_none settled, contents_queued,
        found]
      rfl
  | some old =>
      have waits : table.contents.queued row.id = some (mapRow old) := by
        cases locked : old.lockedUntil with
        | none => exact queued_eq_some.mpr ⟨old, found, locked, rfl⟩
        | some lockedUntil =>
            rw [inFlight_eq_some.mpr ⟨old, found, lockedUntil, locked, rfl, rfl⟩] at settled
            cases settled
      have written := contents_set_unlocked table { row with createdAt := old.createdAt } unlocked
      dsimp only at written ⊢
      rw [written, Contents.settle_of_none settled, waits]
      rfl

theorem enqueue_spec {record : RetryRecord Event Metadata (Option Millis)}
    {accepted : RetryRecord Event Metadata Millis} (asserted : assertRecord record = .ok accepted)
    (storable : Storable accepted) (settled : table.contents.inFlight accepted.id = none) :
    ∃ next, table.enqueue record = .ok next ∧
      next.contents = table.contents.put { accepted with
        createdAt := (table.contents.queued accepted.id).elim accepted.createdAt
          fun old => old.createdAt } := by
  rcases rowOf_storable storable with ⟨row, written, id, unlocked, readBack⟩
  refine ⟨table.upsert row, ?_, ?_⟩
  · rw [enqueue, asserted]
    exact congrArg (Except.map table.upsert) written
  · rw [contents_upsert unlocked (id.symm ▸ settled), readBack, id]

theorem ready_iff (found : table.rows.get? id = some row) (key : row.id = id)
    (whole : (now.num : Millis) = now) :
    ready now.num row ↔ table.contents.Available now (mapRow row) := by
  have recordId : (mapRow row).id = id := key
  rw [Contents.Available, recordId]
  cases locked : row.lockedUntil with
  | none =>
      have waits := queued_eq_some.mpr ⟨row, found, locked, rfl⟩
      rw [ready, locked]
      exact ⟨fun _ => .inl waits, fun _ => rfl⟩
  | some lockedUntil =>
      have isOut := inFlight_eq_some.mpr ⟨row, found, lockedUntil, locked, rfl, rfl⟩
      rw [ready, locked, Option.all_some, decide_eq_true_eq]
      constructor
      · intro late
        refine .inr ⟨_, isOut, ?_⟩
        rw [← whole]
        exact Int.cast_le.mpr late
      · rintro (waits | ⟨expiresAt, outToo, late⟩)
        · rw [not_both waits] at isOut
          cases isOut
        · rw [isOut] at outToo
          cases outToo
          rw [← whole] at late
          exact Int.cast_le.mp late

theorem compares_sooner : Compares (sooner : RetryQueueRow Event Metadata → _ → Bool)
    fun row other => row.nextRetryAt ≤ other.nextRetryAt where
  refl := fun _ => Int.le_refl _
  trans := Int.le_trans
  taken := fun before => Int.le_of_lt (of_decide_eq_true before)
  passed := fun notBefore => Int.not_lt.mp (of_decide_eq_false notBefore)

theorem compares_furtherOff : Compares (furtherOff : RetryQueueRow Event Metadata → _ → Bool)
    fun row other => other.nextRetryAt ≤ row.nextRetryAt where
  refl := fun _ => Int.le_refl _
  trans := fun first second => Int.le_trans second first
  taken := fun behind => Int.le_of_lt (of_decide_eq_true behind)
  passed := fun notBehind => Int.not_lt.mp (of_decide_eq_false notBehind)

theorem row_of_available (keyed : table.contents.Keyed)
    (available : table.contents.Available nowMs record) :
    ∃ row, table.rows.get? row.id = some row ∧ mapRow row = record := by
  rcases available with waits | ⟨expiresAt, isOut, -⟩
  · rcases queued_eq_some.mp waits with ⟨row, found, -, rfl⟩
    exact ⟨row, (row_id keyed found).symm ▸ found, rfl⟩
  · rcases inFlight_eq_some.mp isOut with ⟨row, found, -, -, rfl, -⟩
    exact ⟨row, (row_id keyed found).symm ▸ found, rfl⟩

theorem mem_due_rows (planner : Planner Event Metadata) (keyed : table.contents.Keyed)
    (whole : Whole nowMs) :
    row ∈ (planner.scan table.rows.values).filter (fun row =>
        row.nextRetryAt ≤ nowMs.num && ready nowMs.num row) ↔
      table.rows.get? row.id = some row ∧
        table.contents.Available nowMs (mapRow row) ∧ (mapRow row).nextRetryAt ≤ nowMs := by
  have readBack := (toTimestamp_whole whole).2
  have due : row.nextRetryAt ≤ nowMs.num ↔ (mapRow row).nextRetryAt ≤ nowMs := by
    rw [← Int.cast_le (R := Millis), readBack]
    rfl
  rw [List.mem_filter, mem_scan keyed, Bool.and_eq_true, decide_eq_true_eq]
  constructor
  · rintro ⟨found, early, isReady⟩
    exact ⟨found, (ready_iff found rfl readBack).mp isReady, due.mp early⟩
  · rintro ⟨found, available, early⟩
    exact ⟨found, due.mpr early, (ready_iff found rfl readBack).mpr available⟩

theorem dequeue_cases (planner : Planner Event Metadata) (keyed : table.contents.Keyed)
    {visibilityTimeoutMs : Millis} (whole : Whole nowMs)
    (wholeExpiry : Whole (nowMs + visibilityTimeoutMs)) :
    (table.dequeue planner visibilityTimeoutMs nowMs = .ok (none, table) ∧
      ∀ record, table.contents.Available nowMs record → ¬ record.nextRetryAt ≤ nowMs) ∨
    ∃ record next, table.dequeue planner visibilityTimeoutMs nowMs = .ok (some record, next) ∧
      next.contents = table.contents.claim record (nowMs + visibilityTimeoutMs) ∧
      table.contents.Available nowMs record ∧ record.nextRetryAt ≤ nowMs ∧
      ∀ other, table.contents.Available nowMs other → other.nextRetryAt ≤ nowMs →
        record.nextRetryAt ≤ other.nextRetryAt := by
  rcases toTimestamp_whole whole with ⟨written, -⟩
  rcases toTimestamp_whole wholeExpiry with ⟨expiryWritten, expiryBack⟩
  rw [dequeue, written, expiryWritten]
  dsimp only [bind, Except.bind]
  cases picked : pick sooner ((planner.scan table.rows.values).filter fun row =>
      row.nextRetryAt ≤ nowMs.num && ready nowMs.num row) with
  | none =>
      refine .inl ⟨rfl, ?_⟩
      intro record available early
      rcases row_of_available keyed available with ⟨row, found, rfl⟩
      have member := (mem_due_rows planner keyed whole).mpr ⟨found, available, early⟩
      rw [pick_eq_none.mp picked] at member
      cases member
  | some row =>
      rcases pick_spec compares_sooner picked with ⟨member, first⟩
      rcases (mem_due_rows planner keyed whole).mp member with ⟨-, available, early⟩
      refine .inr ⟨mapRow row, _, rfl, ?_, available, early, ?_⟩
      · rw [contents_set_locked, expiryBack]
      · intro other otherAvailable otherEarly
        rcases row_of_available keyed otherAvailable with ⟨otherRow, found, rfl⟩
        exact Int.cast_le.mpr (first otherRow
          ((mem_due_rows planner keyed whole).mpr ⟨found, otherAvailable, otherEarly⟩))

theorem evictNewest_cases (planner : Planner Event Metadata) (keyed : table.contents.Keyed) :
    (table.evictNewest planner = (none, table) ∧
      ∀ id, table.contents.queued id = none) ∨
    ∃ record, (table.evictNewest planner).1 = some record ∧
      (table.evictNewest planner).2.contents = table.contents.drop record.id ∧
      table.contents.queued record.id = some record ∧
      ∀ id other, table.contents.queued id = some other →
        other.nextRetryAt ≤ record.nextRetryAt := by
  have unlocked_rows : ∀ row, row ∈ (planner.scan table.rows.values).filter
      (fun row => row.lockedUntil.isNone) ↔
        table.rows.get? row.id = some row ∧ row.lockedUntil = none := by
    intro row
    rw [List.mem_filter, mem_scan keyed, Option.isNone_iff_eq_none]
  rw [evictNewest]
  cases picked : pick furtherOff ((planner.scan table.rows.values).filter
      fun row => row.lockedUntil.isNone) with
  | none =>
      refine .inl ⟨rfl, ?_⟩
      intro id
      cases waits : table.contents.queued id with
      | none => rfl
      | some record =>
          rcases queued_eq_some.mp waits with ⟨row, found, unlocked, -⟩
          have member := (unlocked_rows row).mpr ⟨(row_id keyed found).symm ▸ found, unlocked⟩
          rw [pick_eq_none.mp picked] at member
          cases member
  | some row =>
      rcases pick_spec compares_furtherOff picked with ⟨member, last⟩
      rcases (unlocked_rows row).mp member with ⟨found, unlocked⟩
      have waits := queued_eq_some.mpr ⟨row, found, unlocked, rfl⟩
      refine .inr ⟨mapRow row, rfl, ?_, waits, ?_⟩
      · have settled : (table.contents.drop row.id).inFlight row.id = none := not_both waits
        dsimp only
        rw [contents_delete, Contents.settle_of_none settled]
        rfl
      · intro id other otherWaits
        rcases queued_eq_some.mp otherWaits with ⟨otherRow, otherFound, otherUnlocked, rfl⟩
        exact Int.cast_le.mpr (last otherRow ((unlocked_rows otherRow).mpr
          ⟨(row_id keyed otherFound).symm ▸ otherFound, otherUnlocked⟩))

theorem contents_ack (unqueued : table.contents.queued id = none) :
    (table.ack id).contents = table.contents.settle id := by
  rw [ack, contents_delete]
  apply Contents.ext
  · rw [Contents.settle_queued, Contents.settle_queued, Contents.drop_queued, ← unqueued,
      Function.update_eq_self]
  · rfl

theorem nack_spec (keyed : table.contents.Keyed) {recordId : String}
    {requeueDelayMs : Option Millis} (unqueued : table.contents.queued recordId = none)
    (whole : Whole (now + requeueDelay requeueDelayMs)) :
    ∃ next, table.nack recordId requeueDelayMs now = .ok next ∧
      next.contents =
        table.contents.requeue recordId (now + requeueDelay requeueDelayMs) := by
  rcases toTimestamp_whole whole with ⟨written, readBack⟩
  rw [nack, written]
  dsimp only [bind, Except.bind]
  cases isOut : table.contents.inFlight recordId with
  | none =>
      rw [no_row unqueued isOut, Contents.requeue_of_none isOut]
      exact ⟨table, rfl, rfl⟩
  | some taken =>
      rcases taken with ⟨record, expiresAt⟩
      rcases inFlight_eq_some.mp isOut with ⟨row, found, lockedUntil, locked, rfl, rfl⟩
      have key := row_id keyed found
      subst key
      rw [found, Contents.requeue_of_some isOut]
      refine ⟨_, rfl, ?_⟩
      have unlocked := contents_set_unlocked table
        { row with nextRetryAt := (now + requeueDelay requeueDelayMs).num, lockedUntil := none } rfl
      dsimp only at unlocked
      rw [unlocked, mapRow]
      dsimp only
      rw [readBack]
      rfl

theorem mem_ready_ids (keyed : table.contents.Keyed) (whole : Whole now) :
    id ∈ (table.rows.values.filter (ready now.num)).map RetryQueueRow.id ↔
      ∃ record, table.contents.Available now record ∧ record.id = id := by
  have readBack := (toTimestamp_whole whole).2
  rw [List.mem_map]
  constructor
  · rintro ⟨row, member, rfl⟩
    rcases List.mem_filter.mp member with ⟨inside, isReady⟩
    rcases InsertionMap.mem_values_iff.mp inside with ⟨key, found⟩
    have named := row_id keyed found
    exact ⟨mapRow row, (ready_iff found named readBack).mp isReady, rfl⟩
  · rintro ⟨record, available, rfl⟩
    rcases row_of_available keyed available with ⟨row, found, rfl⟩
    refine ⟨row, List.mem_filter.mpr ⟨InsertionMap.mem_values_iff.mpr ⟨_, found⟩, ?_⟩, rfl⟩
    exact (ready_iff found rfl readBack).mpr available

theorem size_spec {queue : MemoryRetryQueue Event Metadata}
    (related : table.contents = queue.contents) (keyed : queue.contents.Keyed) (whole : Whole now) :
    table.size now = .ok (queue.available now).length := by
  rcases toTimestamp_whole whole with ⟨written, -⟩
  have tableKeyed : table.contents.Keyed := related ▸ keyed
  have rows : ((table.rows.values.filter (ready now.num)).map RetryQueueRow.id).Nodup :=
    (List.filter_sublist.map RetryQueueRow.id).nodup
      (InsertionMap.nodup_names fun found => row_id tableKeyed found)
  have records := queue.nodup_available keyed now fun waits => by
    rw [← related]
    exact not_both (related ▸ waits)
  have same : ((table.rows.values.filter (ready now.num)).map RetryQueueRow.id).Perm
      ((queue.available now).map RetryRecord.id) := by
    apply (List.perm_ext_iff_of_nodup rows records).mpr
    intro id
    rw [mem_ready_ids tableKeyed whole, related, List.mem_map]
    apply exists_congr
    intro record
    rw [MemoryRetryQueue.mem_available keyed]
  have lengths := same.length_eq
  rw [List.length_map, List.length_map] at lengths
  rw [size, written]
  exact congrArg Except.ok lengths

/-! ## The condition on a call -/

instance (record : RetryRecord Event Metadata Millis) : Decidable (Storable record) :=
  decidable_of_iff
    (Whole record.nextRetryAt ∧ (∀ createdAt ∈ record.createdAt, Whole createdAt) ∧
      record.attempt ≤ 2147483647)
    ⟨fun facts => ⟨facts.1, facts.2.1, facts.2.2⟩,
      fun storable => ⟨storable.nextRetryAt, storable.createdAt, storable.attempt⟩⟩

/-- Records with one due time are one record. -/
def Distinct (records : List (RetryRecord Event Metadata Millis)) : Prop :=
  ∀ record ∈ records, ∀ other ∈ records,
    record.nextRetryAt = other.nextRetryAt → record = other

/-- The columns take what is written, due times are distinct, and what is settled or put
back does not wait under its id, nor is what is enqueued out. -/
def Handled (visibilityTimeoutMs : Millis) (queue : MemoryRetryQueue Event Metadata) :
    Call Event Metadata → Prop
  | .enqueue record => ∀ accepted ∈ (assertRecord record).toOption,
      Storable accepted ∧ queue.contents.inFlight accepted.id = none
  | .dequeue nowMs => Whole nowMs ∧ Whole (nowMs + visibilityTimeoutMs) ∧
      Distinct (queue.dueInPlace nowMs)
  | .ack recordId => queue.contents.queued recordId = none
  | .nack recordId requeueDelayMs now => queue.contents.queued recordId = none ∧
      Whole (now + requeueDelay requeueDelayMs)
  | .evictNewest => Distinct (queue.queued.values.map fun entry => entry.record)
  | .size now => Whole now

/-- No visibility timeout has run out, and what takes the place of a record that waits was
created with it. -/
def InTime (queue : MemoryRetryQueue Event Metadata) : Call Event Metadata → Prop
  | .enqueue record => ∀ accepted ∈ (assertRecord record).toOption,
      ∀ old ∈ queue.contents.queued accepted.id, old.createdAt = accepted.createdAt
  | .dequeue nowMs => ∀ out ∈ queue.inFlight.values, nowMs < out.expiresAt
  | .size now => ∀ out ∈ queue.inFlight.values, now < out.expiresAt
  | _ => True

section Decide

variable [DecidableEq Event] [DecidableEq Metadata]

instance (records : List (RetryRecord Event Metadata Millis)) : Decidable (Distinct records) :=
  inferInstanceAs (Decidable (∀ _ ∈ _, ∀ _ ∈ _, _ → _))

instance (visibilityTimeoutMs : Millis) (queue : MemoryRetryQueue Event Metadata)
    (call : Call Event Metadata) : Decidable (Handled visibilityTimeoutMs queue call) :=
  match call with
  | .enqueue _ => inferInstanceAs (Decidable (∀ _ ∈ _, _ ∧ _ = _))
  | .dequeue _ => inferInstanceAs (Decidable (_ ∧ _ ∧ _))
  | .ack _ => inferInstanceAs (Decidable (_ = _))
  | .nack _ _ _ => inferInstanceAs (Decidable (_ = _ ∧ _))
  | .evictNewest => inferInstanceAs (Decidable (Distinct _))
  | .size _ => inferInstanceAs (Decidable (Whole _))

instance (queue : MemoryRetryQueue Event Metadata) (call : Call Event Metadata) :
    Decidable (InTime queue call) :=
  match call with
  | .enqueue _ => inferInstanceAs (Decidable (∀ _ ∈ _, ∀ _ ∈ _, _ = _))
  | .dequeue _ => inferInstanceAs (Decidable (∀ _ ∈ _, _ < _))
  | .ack _ => inferInstanceAs (Decidable True)
  | .nack _ _ _ => inferInstanceAs (Decidable True)
  | .evictNewest => inferInstanceAs (Decidable True)
  | .size _ => inferInstanceAs (Decidable (∀ _ ∈ _, _ < _))

end Decide

/-! ## One call -/

structure Holds (table : PostgresRetryQueue Event Metadata)
    (queue : MemoryRetryQueue Event Metadata) : Prop where
  contents : table.contents = queue.contents
  keyed : queue.contents.Keyed

namespace Holds

variable {queue : MemoryRetryQueue Event Metadata} {visibilityTimeoutMs : Millis}

theorem tableKeyed (holds : Holds table queue) : table.contents.Keyed :=
  holds.contents ▸ holds.keyed

def Matches (planner : Planner Event Metadata) (visibilityTimeoutMs : Millis)
    (table : PostgresRetryQueue Event Metadata) (queue : MemoryRetryQueue Event Metadata)
    (call : Call Event Metadata) : Prop :=
  ((machine planner visibilityTimeoutMs).step table call).1 =
      ((MemoryRetryQueue.inPlace visibilityTimeoutMs).step queue call).1 ∧
    Holds ((machine planner visibilityTimeoutMs).step table call).2
      ((MemoryRetryQueue.inPlace visibilityTimeoutMs).step queue call).2

theorem enqueue (holds : Holds table queue) (record : RetryRecord Event Metadata (Option Millis))
    (handled : Handled visibilityTimeoutMs queue (.enqueue record)) :
    Matches planner visibilityTimeoutMs table queue (.enqueue record) := by
  rw [Matches, machine, MemoryRetryQueue.inPlace]
  dsimp only
  cases asserted : assertRecord record with
  | error error =>
      rw [PostgresRetryQueue.enqueue, MemoryRetryQueue.enqueueInPlace, asserted]
      exact ⟨rfl, holds⟩
  | ok accepted =>
      rcases handled accepted (by rw [asserted]; rfl) with ⟨storable, notOut⟩
      rcases enqueue_spec asserted storable (holds.contents ▸ notOut) with ⟨next, written, left⟩
      rw [written, MemoryRetryQueue.enqueueInPlace, asserted]
      refine ⟨rfl, ?_, ?_⟩
      · rw [left, holds.contents]
        exact (MemoryRetryQueue.contents_setQueued _).symm
      · exact (congrArg Contents.Keyed (MemoryRetryQueue.contents_setQueued _)).mpr
          (holds.keyed.put _)

theorem dequeue (holds : Holds table queue) (nowMs : Millis)
    (handled : Handled visibilityTimeoutMs queue (.dequeue nowMs)) :
    Matches planner visibilityTimeoutMs table queue (.dequeue nowMs) := by
  rcases handled with ⟨whole, wholeExpiry, distinct⟩
  rw [Matches, machine, MemoryRetryQueue.inPlace]
  dsimp only
  have available : ∀ record, table.contents.Available nowMs record ∧
      record.nextRetryAt ≤ nowMs ↔ record ∈ queue.dueInPlace nowMs := by
    intro record
    rw [holds.contents]
    exact (MemoryRetryQueue.mem_dueInPlace holds.keyed).symm
  rcases dequeue_cases planner holds.tableKeyed whole wholeExpiry with
    ⟨taken, nothing⟩ | ⟨record, next, taken, left, isAvailable, early, first⟩
  · rcases queue.dequeueInPlace_cases visibilityTimeoutMs nowMs with
      ⟨takenToo, -⟩ | ⟨record, member, -⟩
    · rw [taken, takenToo]
      exact ⟨rfl, holds⟩
    · rcases (available record).mpr member with ⟨isAvailable, early⟩
      exact absurd early (nothing record isAvailable)
  · have due := (available record).mp ⟨isAvailable, early⟩
    rcases queue.dequeueInPlace_cases visibilityTimeoutMs nowMs with
      ⟨-, empty⟩ | ⟨best, member, best_first, takenToo, leftToo⟩
    · rw [empty] at due
      cases due
    · rcases (available best).mpr member with ⟨bestAvailable, bestEarly⟩
      have same : record = best := distinct record due best member
        (le_antisymm (first best bestAvailable bestEarly) (best_first record due))
      subst same
      rw [taken, takenToo]
      refine ⟨rfl, ?_, ?_⟩
      · dsimp only
        rw [left, leftToo, holds.contents]
      · exact leftToo ▸ holds.keyed.claim record _

theorem ack (holds : Holds table queue) (recordId : String)
    (handled : Handled visibilityTimeoutMs queue (.ack recordId)) :
    Matches planner visibilityTimeoutMs table queue (.ack recordId) := by
  have unqueued : table.contents.queued recordId = none := holds.contents ▸ handled
  refine ⟨rfl, ?_, ?_⟩
  · have acked := contents_ack unqueued
    rw [holds.contents, ← MemoryRetryQueue.contents_ack] at acked
    exact acked
  · have left : (queue.ack recordId).contents = queue.contents.settle recordId :=
      MemoryRetryQueue.contents_ack recordId
    exact left ▸ holds.keyed.settle recordId

theorem nack (holds : Holds table queue) (recordId : String) (requeueDelayMs : Option Millis)
    (now : Millis)
    (handled : Handled visibilityTimeoutMs queue (.nack recordId requeueDelayMs now)) :
    Matches planner visibilityTimeoutMs table queue (.nack recordId requeueDelayMs now) := by
  rcases handled with ⟨unqueued, whole⟩
  rcases nack_spec holds.tableKeyed (holds.contents ▸ unqueued) whole with ⟨next, written, left⟩
  have leftToo : (queue.nack recordId requeueDelayMs now).contents =
      queue.contents.requeue recordId (now + requeueDelay requeueDelayMs) :=
    MemoryRetryQueue.contents_nack recordId requeueDelayMs now
  rw [Matches, machine, MemoryRetryQueue.inPlace]
  dsimp only
  rw [written]
  refine ⟨rfl, ?_, ?_⟩
  · rw [left, leftToo, holds.contents]
  · exact leftToo ▸ holds.keyed.requeue _ _

theorem evictNewest (holds : Holds table queue)
    (handled : Handled visibilityTimeoutMs queue .evictNewest) :
    Matches planner visibilityTimeoutMs table queue .evictNewest := by
  rw [Matches, machine, MemoryRetryQueue.inPlace]
  dsimp only
  rcases evictNewest_cases planner holds.tableKeyed with
    ⟨taken, nothing⟩ | ⟨record, taken, left, waits, last⟩
  · rcases queue.evictNewest_cases with ⟨takenToo, -⟩ | ⟨newest, member, -⟩
    · rw [taken, takenToo]
      exact ⟨rfl, holds⟩
    · have waits := MemoryRetryQueue.waits_of_mem_values holds.keyed member
      rw [← holds.contents, nothing] at waits
      cases waits
  · rw [holds.contents] at waits
    rcases MemoryRetryQueue.exists_entry waits with ⟨entry, member, rfl⟩
    rcases queue.evictNewest_cases with
      ⟨-, empty⟩ | ⟨newest, newestMember, latest, takenToo, leftToo⟩
    · rw [empty] at member
      cases member
    · have newestWaits := MemoryRetryQueue.waits_of_mem_values holds.keyed newestMember
      have notLater := last _ _ (holds.contents ▸ newestWaits)
      have notSooner : entry.record.nextRetryAt ≤ newest.record.nextRetryAt := by
        rcases latest entry member with sooner | ⟨sameTime, -⟩
        · exact sooner.le
        · exact sameTime.le
      have same : entry.record = newest.record := handled _ (List.mem_map.mpr ⟨_, member, rfl⟩)
        _ (List.mem_map.mpr ⟨_, newestMember, rfl⟩) (le_antisymm notSooner notLater)
      rw [taken, takenToo, same]
      refine ⟨rfl, ?_, ?_⟩
      · rw [left, leftToo, holds.contents, same]
      · exact leftToo ▸ holds.keyed.drop _

theorem size (holds : Holds table queue) (now : Millis)
    (handled : Handled visibilityTimeoutMs queue (.size now)) :
    Matches planner visibilityTimeoutMs table queue (.size now) := by
  rw [Matches, machine, MemoryRetryQueue.inPlace]
  dsimp only
  rw [size_spec holds.contents holds.keyed handled]
  exact ⟨rfl, holds⟩

theorem step (planner : Planner Event Metadata) (holds : Holds table queue)
    {call : Call Event Metadata}
    (handled : Handled visibilityTimeoutMs queue call) :
    Matches planner visibilityTimeoutMs table queue call := by
  cases call with
  | enqueue record => exact holds.enqueue record handled
  | dequeue nowMs => exact holds.dequeue nowMs handled
  | ack recordId => exact holds.ack recordId handled
  | nack recordId requeueDelayMs now => exact holds.nack recordId requeueDelayMs now handled
  | evictNewest => exact holds.evictNewest handled
  | size now => exact holds.size now handled

end Holds

/-! ## Where no timeout has run out -/

section InTime

variable {queue : MemoryRetryQueue Event Metadata} {visibilityTimeoutMs nowMs : Millis}

theorem available_inTime (inTime : ∀ out ∈ queue.inFlight.values, nowMs < out.expiresAt) :
    queue.available nowMs = queue.queued.values.map fun entry => entry.record := by
  have none : (queue.inFlight.values.filter fun out => out.expiresAt ≤ nowMs) = [] := by
    rw [List.filter_eq_nil_iff]
    intro out member late
    exact absurd (of_decide_eq_true late) (not_le.mpr (inTime out member))
  rw [MemoryRetryQueue.available, none, List.map_nil, List.append_nil]

theorem mem_dueInPlace_inTime
    (inTime : ∀ out ∈ queue.inFlight.values, nowMs < out.expiresAt)
    {record : RetryRecord Event Metadata Millis} :
    record ∈ queue.dueInPlace nowMs ↔ ∃ entry ∈ queue.due nowMs, entry.record = record := by
  rw [MemoryRetryQueue.dueInPlace, available_inTime inTime, List.mem_filter, List.mem_map,
    decide_eq_true_eq]
  constructor
  · rintro ⟨⟨entry, member, rfl⟩, early⟩
    exact ⟨entry, MemoryRetryQueue.mem_due.mpr ⟨member, early⟩, rfl⟩
  · rintro ⟨entry, due, rfl⟩
    rcases MemoryRetryQueue.mem_due.mp due with ⟨member, early⟩
    exact ⟨⟨entry, member, rfl⟩, early⟩

theorem dequeue_inTime (visibilityTimeoutMs : Millis)
    (inTime : ∀ out ∈ queue.inFlight.values, nowMs < out.expiresAt)
    (distinct : Distinct (queue.dueInPlace nowMs)) :
    (queue.dequeueInPlace visibilityTimeoutMs nowMs).1 =
        (queue.dequeue visibilityTimeoutMs nowMs).1 ∧
      (queue.dequeueInPlace visibilityTimeoutMs nowMs).2.contents =
        (queue.dequeue visibilityTimeoutMs nowMs).2.contents := by
  have cases := queue.dequeue_cases visibilityTimeoutMs nowMs
  rw [MemoryRetryQueue.reclaim_inTime inTime] at cases
  rcases queue.dequeueInPlace_cases visibilityTimeoutMs nowMs with
    ⟨inPlace, nothing⟩ | ⟨record, member, first, inPlace, inPlaceLeft⟩
  · rcases cases with ⟨taken, -⟩ | ⟨best, due, -⟩
    · rw [inPlace, taken]
      exact ⟨rfl, rfl⟩
    · have inside := (mem_dueInPlace_inTime inTime).mpr ⟨best, due, rfl⟩
      rw [nothing] at inside
      cases inside
  · rcases (mem_dueInPlace_inTime inTime).mp member with ⟨entry, entryDue, rfl⟩
    rcases cases with ⟨-, nothing⟩ | ⟨best, due, earliest, taken, left⟩
    · rw [nothing] at entryDue
      cases entryDue
    · have bestMember := (mem_dueInPlace_inTime inTime).mpr ⟨best, due, rfl⟩
      have notLater : best.record.nextRetryAt ≤ entry.record.nextRetryAt := by
        rcases earliest entry entryDue with sooner | ⟨sameTime, -⟩
        · exact sooner.le
        · exact sameTime.le
      have same : entry.record = best.record :=
        distinct _ member _ bestMember (le_antisymm (first _ bestMember) notLater)
      rw [inPlace, taken, inPlaceLeft, left, same]
      exact ⟨rfl, rfl⟩

theorem enqueue_inTime {record : RetryRecord Event Metadata (Option Millis)}
    (inTime : InTime queue (.enqueue record)) :
    queue.enqueueInPlace record = queue.enqueue record := by
  rw [MemoryRetryQueue.enqueueInPlace, MemoryRetryQueue.enqueue]
  cases asserted : assertRecord record with
  | error error => rfl
  | ok accepted =>
      have created := inTime accepted (by rw [asserted]; rfl)
      have same : (queue.contents.queued accepted.id).elim accepted.createdAt
          (fun old => old.createdAt) = accepted.createdAt := by
        cases waits : queue.contents.queued accepted.id with
        | none => rfl
        | some old => exact created old waits
      dsimp only [bind, Except.bind]
      rw [same]

theorem step_inTime {call : Call Event Metadata} (handled : Handled visibilityTimeoutMs queue call)
    (inTime : InTime queue call) :
    ((MemoryRetryQueue.inPlace visibilityTimeoutMs).step queue call).1 =
        ((MemoryRetryQueue.machine visibilityTimeoutMs).step queue call).1 ∧
      ((MemoryRetryQueue.inPlace visibilityTimeoutMs).step queue call).2.contents =
        ((MemoryRetryQueue.machine visibilityTimeoutMs).step queue call).2.contents := by
  cases call with
  | enqueue record =>
      rw [MemoryRetryQueue.inPlace, MemoryRetryQueue.machine]
      dsimp only
      rw [enqueue_inTime inTime]
      exact ⟨rfl, rfl⟩
  | dequeue nowMs =>
      rcases dequeue_inTime visibilityTimeoutMs inTime handled.2.2 with
        ⟨same, left⟩
      exact ⟨congrArg Answer.record same, left⟩
  | ack recordId | nack recordId requeueDelayMs now | evictNewest => exact ⟨rfl, rfl⟩
  | size now =>
      refine ⟨?_, rfl⟩
      apply congrArg Answer.count
      rw [available_inTime inTime, List.length_map, MemoryRetryQueue.size, InsertionMap.size,
        InsertionMap.values, List.length_map]

end InTime

/-! ## Answers -/

theorem holds_empty : Holds (empty : PostgresRetryQueue Event Metadata) MemoryRetryQueue.empty where
  contents := rfl
  keyed := MemoryRetryQueue.contents_empty

theorem refines_inPlace (planner : Planner Event Metadata) (visibilityTimeoutMs : Millis) :
    Machine.Refines (machine planner visibilityTimeoutMs)
      (MemoryRetryQueue.inPlace visibilityTimeoutMs) (Handled visibilityTimeoutMs) Holds where
  answer := fun holds handled => (holds.step planner handled).1
  related := fun holds handled => (holds.step planner handled).2

theorem refines_memory (planner : Planner Event Metadata) (visibilityTimeoutMs : Millis) :
    Machine.Refines (machine planner visibilityTimeoutMs)
      (MemoryRetryQueue.machine visibilityTimeoutMs)
      (fun queue call => Handled visibilityTimeoutMs queue call ∧ InTime queue call) Holds where
  answer := fun holds allowed =>
    (holds.step planner allowed.1).1.trans (step_inTime allowed.1 allowed.2).1
  related := by
    intro table queue call holds allowed
    have next := (holds.step planner allowed.1).2
    have same := (step_inTime allowed.1 allowed.2).2
    exact ⟨next.contents.trans same, same ▸ next.keyed⟩

/-- The table answers as the reference whose timeouts run out in place, and as the
reference itself where none has run out. -/
theorem answers_as_reference (planner : Planner Event Metadata)
    (visibilityTimeoutMs : Option Millis) (calls : List (Call Event Metadata)) :
    ((MemoryRetryQueue.inPlace (visibilityTimeout visibilityTimeoutMs)).Meets
        (Handled (visibilityTimeout visibilityTimeoutMs)) .empty calls →
      (machine planner (visibilityTimeout visibilityTimeoutMs)).answers .empty calls =
        (MemoryRetryQueue.inPlace (visibilityTimeout visibilityTimeoutMs)).answers .empty
          calls) ∧
    ((MemoryRetryQueue.machine (visibilityTimeout visibilityTimeoutMs)).Meets
        (fun queue call => Handled (visibilityTimeout visibilityTimeoutMs) queue call ∧
          InTime queue call) .empty calls →
      (machine planner (visibilityTimeout visibilityTimeoutMs)).answers .empty calls =
        (MemoryRetryQueue.machine (visibilityTimeout visibilityTimeoutMs)).answers .empty
          calls) :=
  ⟨(refines_inPlace planner _).answers holds_empty, (refines_memory planner _).answers holds_empty⟩

end Rows

/-! ## A lock that has run out -/

def inOrder : Planner Unit Empty where
  scan := id
  perm := fun rows => .refl rows

def retryAt (id : String) (nextRetryAt : Millis) : RetryRecord Unit Empty (Option Millis) where
  id := id
  event := ()
  url := "https://example.com/hook"
  attempt := 2
  nextRetryAt := some nextRetryAt
  lastError := none
  createdAt := none
  metadata := none

def runOut : List (Call Unit Empty) :=
  [.enqueue (retryAt "retry" 100), .dequeue 100, .size 30100, .dequeue 30100]

/-- The table counts the record at once and hands it out with the time it was due at
before; the reference counts it no more until a call that looks for expired records, and
makes it due at that call. -/
theorem expired_in_place :
    (machine inOrder (visibilityTimeout none)).answers .empty runOut =
        [.settled, .record (some { retryAt "retry" 100 with nextRetryAt := 100 }), .count 1,
          .record (some { retryAt "retry" 100 with nextRetryAt := 100 })] ∧
      (MemoryRetryQueue.machine (visibilityTimeout none)).answers .empty runOut =
        [.settled, .record (some { retryAt "retry" 100 with nextRetryAt := 100 }), .count 0,
          .record (some { retryAt "retry" 100 with nextRetryAt := 30100 })] := by
  decide +kernel

def settled : List (Call Unit Empty) :=
  [.enqueue (retryAt "first" 100), .enqueue (retryAt "second" 200), .dequeue 100,
    .nack "first" (some 1000) 150, .size 150, .dequeue 250, .ack "second", .dequeue 1200,
    .evictNewest, .ack "first"]

theorem settled_as_reference :
    (machine inOrder (visibilityTimeout none)).answers .empty runOut =
        (MemoryRetryQueue.inPlace (visibilityTimeout none)).answers .empty runOut ∧
      (machine inOrder (visibilityTimeout none)).answers .empty settled =
        (MemoryRetryQueue.machine (visibilityTimeout none)).answers .empty settled :=
  ⟨(answers_as_reference inOrder none runOut).1 (by decide +kernel),
    (answers_as_reference inOrder none settled).2 (by decide +kernel)⟩

end PostgresRetryQueue

end Orbital.PulseWebhooks
