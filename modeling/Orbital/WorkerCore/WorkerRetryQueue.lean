import Mathlib.Data.Rat.Floor
import Orbital.Foundation.InsertionMap
import Orbital.Foundation.JsonTree
import Orbital.Foundation.Machine
import Orbital.Foundation.Selection

/-! # `worker-core/src/retry.ts`: `MemoryWorkerRetryQueue`

Records of submissions that are to be tried again wait for their time. A record that is
handed out is in flight until it is acknowledged or its visibility timeout has run out.
Times are milliseconds.
-/

namespace Orbital.WorkerCore

open Foundation

structure SubmissionHandle (Metadata : Type) where
  submissionId : JsString
  windowDeadlineMs : ℚ
  metadata : Option Metadata
  deriving DecidableEq

structure WorkerRetryRecord (Metadata Failure : Type) where
  id : JsString
  submission : SubmissionHandle Metadata
  attempt : Nat
  nextRetryAt : ℚ
  lastError : Option JsString
  failures : List Failure
  createdAt : ℚ
  updatedAt : ℚ
  deriving DecidableEq

variable {Metadata Failure : Type}

namespace WorkerRetryRecord

def earlier (record best : WorkerRetryRecord Metadata Failure) : Bool :=
  record.nextRetryAt < best.nextRetryAt ||
    (record.nextRetryAt = best.nextRetryAt && ¬ JsString.Le best.id record.id)

def payroll (attempt : Nat) (nextRetryAt : ℚ) : WorkerRetryRecord Unit JsString where
  id := js "payroll-aug-2026"
  submission := {
    submissionId := js "payroll-aug-2026"
    windowDeadlineMs := 1000000
    metadata := none }
  attempt := attempt
  nextRetryAt := nextRetryAt
  lastError := some (js "rpc timeout")
  failures := [js "rpc timeout"]
  createdAt := 0
  updatedAt := 0

end WorkerRetryRecord

def defaultVisibilityTimeoutMs : ℚ :=
  30000

def visibilityTimeout (visibilityTimeoutMs : Option ℚ) : ℚ :=
  max 1 ⌊visibilityTimeoutMs.getD defaultVisibilityTimeoutMs⌋

inductive RetryCall (Metadata Failure : Type)
  | enqueue (record : WorkerRetryRecord Metadata Failure) (now : ℚ)
  | dequeue (nowMs : ℚ)
  | ack (recordId : JsString)

structure InFlight (Metadata Failure : Type) where
  record : WorkerRetryRecord Metadata Failure
  expiresAt : ℚ

structure MemoryWorkerRetryQueue (Metadata Failure : Type) where
  queued : InsertionMap JsString (WorkerRetryRecord Metadata Failure)
  inFlight : InsertionMap JsString (InFlight Metadata Failure)

namespace MemoryWorkerRetryQueue

variable (queue : MemoryWorkerRetryQueue Metadata Failure)

def empty : MemoryWorkerRetryQueue Metadata Failure where
  queued := .empty
  inFlight := .empty

def enqueue (record : WorkerRetryRecord Metadata Failure) (now : ℚ) :
    MemoryWorkerRetryQueue Metadata Failure :=
  { queue with queued := queue.queued.set record.id { record with updatedAt := now } }

def reclaimOne (nowMs : ℚ) (queue : MemoryWorkerRetryQueue Metadata Failure)
    (item : JsString × InFlight Metadata Failure) : MemoryWorkerRetryQueue Metadata Failure :=
  if item.2.expiresAt ≤ nowMs then {
    inFlight := queue.inFlight.delete item.1
    queued := queue.queued.set item.1
      { item.2.record with nextRetryAt := nowMs, updatedAt := nowMs } }
  else queue

def reclaimExpiredInFlight (nowMs : ℚ) : MemoryWorkerRetryQueue Metadata Failure :=
  queue.inFlight.entries.foldl (reclaimOne nowMs) queue

/-- The records the loop of `dequeue` does not skip. -/
def due (nowMs : ℚ) : List (WorkerRetryRecord Metadata Failure) :=
  queue.queued.values.filter fun record => ¬ record.nextRetryAt > nowMs

def dequeue (visibilityTimeoutMs nowMs : ℚ) :
    Option (WorkerRetryRecord Metadata Failure) × MemoryWorkerRetryQueue Metadata Failure :=
  let queue := queue.reclaimExpiredInFlight nowMs
  match pick WorkerRetryRecord.earlier (queue.due nowMs) with
  | none => (none, queue)
  | some best => (some best, {
      queued := queue.queued.delete best.id
      inFlight := queue.inFlight.set best.id ⟨best, nowMs + visibilityTimeoutMs⟩ })

def ack (recordId : JsString) : MemoryWorkerRetryQueue Metadata Failure where
  queued := queue.queued.delete recordId
  inFlight := queue.inFlight.delete recordId

def machine (visibilityTimeoutMs : ℚ) :
    Machine (MemoryWorkerRetryQueue Metadata Failure) (RetryCall Metadata Failure)
      (Option (WorkerRetryRecord Metadata Failure)) where
  step queue call :=
    match call with
    | .enqueue record now => (none, queue.enqueue record now)
    | .dequeue nowMs => queue.dequeue visibilityTimeoutMs nowMs
    | .ack recordId => (none, queue.ack recordId)

end MemoryWorkerRetryQueue

end Orbital.WorkerCore

/-! ## `worker-core/src/retry.ts`: `FileWorkerRetryQueue`

The records are kept in one file, and in a cache from the first use on. A write replaces the
file at once, by a rename. Here one call is made after the other, and the process may crash
between any two steps.
-/

namespace Orbital.WorkerCore

open Foundation

variable {Metadata Failure : Type}

/-! ## The records -/

namespace RetryRecords

def upsert (records : List (WorkerRetryRecord Metadata Failure))
    (updated : WorkerRetryRecord Metadata Failure) : List (WorkerRetryRecord Metadata Failure) :=
  match records.findIdx? fun record => record.id = updated.id with
  | some index => records.set index updated
  | none => records ++ [updated]

/-- The records the loop of `dequeue` does not skip, with their places. -/
def due (records : List (WorkerRetryRecord Metadata Failure)) (nowMs : ℚ) :
    List (WorkerRetryRecord Metadata Failure × Nat) :=
  records.zipIdx.filter fun item => ¬ item.1.nextRetryAt > nowMs

/-- The record that `dequeue` takes out, and the others. -/
def takeBest (records : List (WorkerRetryRecord Metadata Failure)) (nowMs : ℚ) :
    Option (WorkerRetryRecord Metadata Failure × List (WorkerRetryRecord Metadata Failure)) :=
  (pick (fun item best => item.1.earlier best.1) (due records nowMs)).map fun item =>
    (item.1, records.eraseIdx item.2)

def without (records : List (WorkerRetryRecord Metadata Failure)) (recordId : JsString) :
    List (WorkerRetryRecord Metadata Failure) :=
  records.filter fun record => record.id ≠ recordId

def Distinct (records : List (WorkerRetryRecord Metadata Failure)) : Prop :=
  (records.map WorkerRetryRecord.id).Nodup

variable {records : List (WorkerRetryRecord Metadata Failure)}
  {record updated : WorkerRetryRecord Metadata Failure} {nowMs : ℚ}

theorem upsert_cases (records : List (WorkerRetryRecord Metadata Failure))
    (updated : WorkerRetryRecord Metadata Failure) :
    (∃ front old back, records = front ++ old :: back ∧ old.id = updated.id ∧
        upsert records updated = front ++ updated :: back) ∨
      (∀ record ∈ records, record.id ≠ updated.id) ∧
        upsert records updated = records ++ [updated] := by
  cases found : records.findIdx? (fun record => record.id = updated.id) with
  | some index =>
      left
      rcases List.findIdx?_eq_some_iff_getElem.mp found with ⟨inside, same, -⟩
      refine ⟨records.take index, records[index], records.drop (index + 1), ?_,
        of_decide_eq_true same, ?_⟩
      · rw [← List.drop_eq_getElem_cons inside, List.take_append_drop]
      · simp only [upsert, found]
        rw [List.set_eq_take_append_cons_drop, if_pos inside]
  | none =>
      right
      constructor
      · intro record member
        have differs := List.findIdx?_eq_none_iff.mp found record member
        exact of_decide_eq_false differs
      · simp only [upsert, found]

theorem Distinct.upsert (distinct : Distinct records)
    (updated : WorkerRetryRecord Metadata Failure) : Distinct (upsert records updated) := by
  rcases upsert_cases records updated with ⟨front, old, back, split, same, after⟩ | ⟨new, after⟩
  · rw [Distinct, split, List.map_append, List.map_cons, same] at distinct
    rw [after, Distinct, List.map_append, List.map_cons]
    exact distinct
  · rw [after, Distinct, List.map_append, List.map_singleton, List.nodup_append]
    refine ⟨distinct, List.nodup_singleton _, ?_⟩
    intro id member other isNew
    rcases List.mem_map.mp member with ⟨record, inside, rfl⟩
    rw [List.mem_singleton.mp isNew]
    exact new record inside

theorem mem_upsert (distinct : Distinct records) :
    record ∈ upsert records updated ↔
      record = updated ∨ record ∈ records ∧ record.id ≠ updated.id := by
  rcases upsert_cases records updated with ⟨front, old, back, split, same, after⟩ | ⟨new, after⟩
  · rw [after, split, List.mem_append, List.mem_cons, List.mem_append, List.mem_cons]
    rw [Distinct, split, List.map_append, List.map_cons, List.nodup_middle, List.nodup_cons,
      ← List.map_append, same] at distinct
    have others (member : record ∈ front ∨ record ∈ back) : record.id ≠ updated.id := by
      intro sameId
      apply distinct.1
      rw [← sameId]
      exact List.mem_map_of_mem (List.mem_append.mpr member)
    constructor
    · rintro (before | isNew | behind)
      · exact .inr ⟨.inl before, others (.inl before)⟩
      · exact .inl isNew
      · exact .inr ⟨.inr (.inr behind), others (.inr behind)⟩
    · rintro (isNew | ⟨before | isOld | behind, other⟩)
      · exact .inr (.inl isNew)
      · exact .inl before
      · exact absurd (isOld ▸ same) other
      · exact .inr (.inr behind)
  · rw [after, List.mem_append, List.mem_singleton]
    constructor
    · rintro (before | isNew)
      · exact .inr ⟨before, new record before⟩
      · exact .inl isNew
    · rintro (isNew | ⟨before, -⟩)
      · exact .inr isNew
      · exact .inl before

theorem takeBest_eq_none :
    takeBest records nowMs = none ↔ ∀ record ∈ records, nowMs < record.nextRetryAt := by
  rw [takeBest, Option.map_eq_none_iff, pick_eq_none, due, List.filter_eq_nil_iff]
  constructor
  · intro none record member
    rcases List.getElem?_of_mem member with ⟨index, isAt⟩
    have late := none (record, index) (List.mem_zipIdx_iff_getElem?.mpr isAt)
    simpa using late
  · rintro late ⟨record, index⟩ member
    have inside := List.mem_of_getElem? (List.mem_zipIdx_iff_getElem?.mp member)
    simpa using late record inside

theorem takeBest_eq_some {best : WorkerRetryRecord Metadata Failure}
    {rest : List (WorkerRetryRecord Metadata Failure)}
    (taken : takeBest records nowMs = some (best, rest)) :
    best.nextRetryAt ≤ nowMs ∧
      ∃ front back, records = front ++ best :: back ∧ rest = front ++ back := by
  rcases Option.map_eq_some_iff.mp taken with ⟨⟨record, index⟩, picked, same⟩
  cases same
  rcases List.mem_filter.mp (mem_of_pick picked) with ⟨member, isDue⟩
  have isAt : records[index]? = some record := List.mem_zipIdx_iff_getElem?.mp member
  rcases List.getElem?_eq_some_iff.mp isAt with ⟨inside, same⟩
  refine ⟨not_lt.mp (of_decide_eq_true isDue), records.take index, records.drop (index + 1), ?_,
    List.eraseIdx_eq_take_drop_succ records index⟩
  rw [← same, ← List.drop_eq_getElem_cons inside, List.take_append_drop]

end RetryRecords

/-! ## The queue -/

/-- No file, or no cache before the first use, is `none`. -/
structure FileWorkerRetryQueue (Metadata Failure : Type) where
  file : Option (List (WorkerRetryRecord Metadata Failure))
  cache : Option (List (WorkerRetryRecord Metadata Failure))

namespace FileWorkerRetryQueue

variable (queue : FileWorkerRetryQueue Metadata Failure)

def empty : FileWorkerRetryQueue Metadata Failure where
  file := none
  cache := none

def load : List (WorkerRetryRecord Metadata Failure) :=
  queue.cache.getD (queue.file.getD [])

def loaded : FileWorkerRetryQueue Metadata Failure :=
  { queue with cache := some queue.load }

def persist (records : List (WorkerRetryRecord Metadata Failure)) :
    FileWorkerRetryQueue Metadata Failure where
  file := some records
  cache := some records

def enqueue (record : WorkerRetryRecord Metadata Failure) (now : ℚ) :
    FileWorkerRetryQueue Metadata Failure :=
  persist (RetryRecords.upsert queue.load { record with updatedAt := now })

def dequeue (nowMs : ℚ) :
    Option (WorkerRetryRecord Metadata Failure) × FileWorkerRetryQueue Metadata Failure :=
  match RetryRecords.takeBest queue.load nowMs with
  | none => (none, queue.loaded)
  | some (best, rest) => (some best, persist rest)

def ack (recordId : JsString) : FileWorkerRetryQueue Metadata Failure :=
  let next := RetryRecords.without queue.load recordId
  if next.length ≠ queue.load.length then persist next else queue.loaded

def machine : Machine (FileWorkerRetryQueue Metadata Failure) (RetryCall Metadata Failure)
    (Option (WorkerRetryRecord Metadata Failure)) where
  step queue call :=
    match call with
    | .enqueue record now => (none, queue.enqueue record now)
    | .dequeue nowMs => queue.dequeue nowMs
    | .ack recordId => (none, queue.ack recordId)

def restart : FileWorkerRetryQueue Metadata Failure :=
  { queue with cache := none }

end FileWorkerRetryQueue

end Orbital.WorkerCore
