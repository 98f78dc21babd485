import Mathlib.Data.Rat.Floor
import Orbital.Foundation.Machine

/-! # The retry queue interface

A queue holds records that wait for their time and records that were handed out and not
settled yet. `Contents` is what a queue stands for, whatever it is stored in: the record
that waits under an id and the record that is out under an id, with the time at which it
is given up on.
-/

namespace Orbital.PulseWebhooks

open Foundation

/-- Milliseconds since the epoch, or between two instants. -/
abbrev Millis := ℚ

/-- `Time` is what stands for the due time: any number in what a caller passes, where
`none` is not finite, and milliseconds in what a queue has accepted. -/
structure RetryRecord (Event Metadata Time : Type) where
  id : String
  event : Event
  url : String
  attempt : Nat
  nextRetryAt : Time
  lastError : Option String
  createdAt : Option Millis
  metadata : Option Metadata
  deriving DecidableEq

variable {Event Metadata : Type}

/-- The check in front of every `enqueue`. -/
def assertRecord (record : RetryRecord Event Metadata (Option Millis)) :
    Except String (RetryRecord Event Metadata Millis) :=
  if record.id = "" then .error "RetryRecord.id is required"
  else
    match record.nextRetryAt with
    | none => .error "RetryRecord.nextRetryAt must be a finite timestamp"
    | some nextRetryAt => .ok { record with nextRetryAt }

theorem assertRecord_id {record : RetryRecord Event Metadata (Option Millis)}
    {accepted : RetryRecord Event Metadata Millis} (asserted : assertRecord record = .ok accepted) :
    accepted.id = record.id := by
  rw [assertRecord] at asserted
  split at asserted
  · cases asserted
  · split at asserted
    · cases asserted
    · cases asserted
      rfl

/-- Whole milliseconds of a delay, none below zero and none for what is not finite. -/
def requeueDelay (requeueDelayMs : Option Millis) : Millis :=
  match requeueDelayMs with
  | none => 0
  | some delayMs => max 0 ⌊delayMs⌋

def defaultVisibilityTimeoutMs : Millis := 30000

def visibilityTimeout (visibilityTimeoutMs : Option Millis) : Millis :=
  max 1 ⌊visibilityTimeoutMs.getD defaultVisibilityTimeoutMs⌋

inductive Call (Event Metadata : Type) where
  | enqueue (record : RetryRecord Event Metadata (Option Millis))
  | dequeue (nowMs : Millis)
  | ack (recordId : String)
  | nack (recordId : String) (requeueDelayMs : Option Millis) (now : Millis)
  | evictNewest
  | size (now : Millis)

inductive Answer (Event Metadata : Type) where
  | settled
  | rejected (error : String)
  | record (record : Option (RetryRecord Event Metadata Millis))
  | count (size : Nat)
  deriving DecidableEq

/-! ## What a queue stands for -/

@[ext] structure Contents (Event Metadata : Type) where
  queued : String → Option (RetryRecord Event Metadata Millis)
  inFlight : String → Option (RetryRecord Event Metadata Millis × Millis)

namespace Contents

variable (contents : Contents Event Metadata)

def put (record : RetryRecord Event Metadata Millis) : Contents Event Metadata where
  queued := Function.update contents.queued record.id (some record)
  inFlight := contents.inFlight

def claim (record : RetryRecord Event Metadata Millis) (expiresAt : Millis) :
    Contents Event Metadata where
  queued := Function.update contents.queued record.id none
  inFlight := Function.update contents.inFlight record.id (some (record, expiresAt))

def settle (id : String) : Contents Event Metadata where
  queued := contents.queued
  inFlight := Function.update contents.inFlight id none

def drop (id : String) : Contents Event Metadata where
  queued := Function.update contents.queued id none
  inFlight := contents.inFlight

def requeue (id : String) (nextRetryAt : Millis) : Contents Event Metadata :=
  match contents.inFlight id with
  | none => contents
  | some (record, _) => (contents.settle id).put { record with nextRetryAt }

def reclaim (nowMs : Millis) (ids : List String) : Contents Event Metadata where
  queued := fun id =>
    if id ∈ ids then
      ((contents.inFlight id).map fun out => { out.1 with nextRetryAt := nowMs }).or
        (contents.queued id)
    else contents.queued id
  inFlight := fun id => if id ∈ ids then none else contents.inFlight id

structure Keyed : Prop where
  queued : ∀ {id record}, contents.queued id = some record → record.id = id
  inFlight : ∀ {id record expiresAt}, contents.inFlight id = some (record, expiresAt) →
    record.id = id

variable {contents}

@[simp] theorem put_queued (record : RetryRecord Event Metadata Millis) :
    (contents.put record).queued = Function.update contents.queued record.id (some record) :=
  rfl

@[simp] theorem put_inFlight (record : RetryRecord Event Metadata Millis) :
    (contents.put record).inFlight = contents.inFlight :=
  rfl

@[simp] theorem claim_queued (record : RetryRecord Event Metadata Millis) (expiresAt : Millis) :
    (contents.claim record expiresAt).queued = Function.update contents.queued record.id none :=
  rfl

@[simp] theorem claim_inFlight (record : RetryRecord Event Metadata Millis)
    (expiresAt : Millis) :
    (contents.claim record expiresAt).inFlight =
      Function.update contents.inFlight record.id (some (record, expiresAt)) :=
  rfl

@[simp] theorem settle_queued (id : String) : (contents.settle id).queued = contents.queued :=
  rfl

@[simp] theorem settle_inFlight (id : String) :
    (contents.settle id).inFlight = Function.update contents.inFlight id none :=
  rfl

@[simp] theorem drop_queued (id : String) :
    (contents.drop id).queued = Function.update contents.queued id none :=
  rfl

@[simp] theorem drop_inFlight (id : String) : (contents.drop id).inFlight = contents.inFlight :=
  rfl

variable {id : String} {nextRetryAt expiresAt nowMs : Millis}
  {record : RetryRecord Event Metadata Millis} {ids : List String}

theorem settle_of_none (none : contents.inFlight id = none) : contents.settle id = contents := by
  apply Contents.ext
  · rfl
  · rw [settle_inFlight, ← none, Function.update_eq_self]

theorem requeue_of_none (none : contents.inFlight id = none) :
    contents.requeue id nextRetryAt = contents := by
  rw [requeue, none]

theorem requeue_of_some (out : contents.inFlight id = some (record, expiresAt)) :
    contents.requeue id nextRetryAt = (contents.settle id).put { record with nextRetryAt } := by
  rw [requeue, out]

theorem reclaim_queued (nowMs : Millis) (ids : List String) (id : String) :
    (contents.reclaim nowMs ids).queued id =
      if id ∈ ids then
        ((contents.inFlight id).map fun out => { out.1 with nextRetryAt := nowMs }).or
          (contents.queued id)
      else contents.queued id :=
  rfl

theorem reclaim_inFlight (nowMs : Millis) (ids : List String) (id : String) :
    (contents.reclaim nowMs ids).inFlight id =
      if id ∈ ids then none else contents.inFlight id :=
  rfl

theorem reclaim_nil (nowMs : Millis) : contents.reclaim nowMs [] = contents := by
  apply Contents.ext
  · funext id
    rw [reclaim_queued, if_neg List.not_mem_nil]
  · funext id
    rw [reclaim_inFlight, if_neg List.not_mem_nil]

theorem reclaim_inFlight_of_not_mem (nowMs : Millis) (absent : id ∉ ids) :
    (contents.reclaim nowMs ids).inFlight id = contents.inFlight id :=
  if_neg absent

theorem reclaim_cons (out : contents.inFlight record.id = some (record, expiresAt))
    (absent : record.id ∉ ids) :
    (contents.reclaim nowMs ids).requeue record.id nowMs =
      contents.reclaim nowMs (record.id :: ids) := by
  rw [requeue_of_some ((reclaim_inFlight_of_not_mem nowMs absent).trans out)]
  apply Contents.ext
  · funext id
    rw [put_queued, settle_queued, reclaim_queued]
    by_cases same : id = record.id
    · subst same
      rw [Function.update_self, if_pos List.mem_cons_self, out]
      rfl
    · rw [Function.update_of_ne same]
      refine if_congr ?_ rfl rfl
      rw [List.mem_cons, or_iff_right same]
  · funext id
    rw [put_inFlight, settle_inFlight, reclaim_inFlight]
    by_cases same : id = record.id
    · subst same
      rw [Function.update_self, if_pos List.mem_cons_self]
    · rw [Function.update_of_ne same]
      refine if_congr ?_ rfl rfl
      rw [List.mem_cons, or_iff_right same]

theorem reclaim_congr {others : List String}
    (same : ∀ id, contents.inFlight id ≠ none → (id ∈ ids ↔ id ∈ others)) :
    contents.reclaim nowMs ids = contents.reclaim nowMs others := by
  apply Contents.ext
  · funext id
    rw [reclaim_queued, reclaim_queued]
    by_cases out : contents.inFlight id = none
    · rw [out, Option.map_none, Option.none_or, ite_self, ite_self]
    · exact if_congr (same id out) rfl rfl
  · funext id
    rw [reclaim_inFlight, reclaim_inFlight]
    by_cases out : contents.inFlight id = none
    · rw [out, ite_self, ite_self]
    · exact if_congr (same id out) rfl rfl

namespace Keyed

theorem put (keyed : contents.Keyed) (record : RetryRecord Event Metadata Millis) :
    (contents.put record).Keyed where
  queued := by
    intro id found waits
    rw [put_queued, Function.update_apply] at waits
    split at waits
    · rename_i same
      cases waits
      exact same.symm
    · exact keyed.queued waits
  inFlight := keyed.inFlight

theorem settle (keyed : contents.Keyed) (id : String) : (contents.settle id).Keyed where
  queued := keyed.queued
  inFlight := by
    intro other record expiresAt out
    rw [settle_inFlight, Function.update_apply] at out
    split at out
    · cases out
    · exact keyed.inFlight out

theorem drop (keyed : contents.Keyed) (id : String) : (contents.drop id).Keyed where
  queued := by
    intro other record waits
    rw [drop_queued, Function.update_apply] at waits
    split at waits
    · cases waits
    · exact keyed.queued waits
  inFlight := keyed.inFlight

theorem claim (keyed : contents.Keyed) (record : RetryRecord Event Metadata Millis)
    (expiresAt : Millis) : (contents.claim record expiresAt).Keyed where
  queued := (keyed.drop record.id).queued
  inFlight := by
    intro id found foundExpiry out
    rw [claim_inFlight, Function.update_apply] at out
    split at out
    · rename_i same
      cases out
      exact same.symm
    · exact keyed.inFlight out

theorem requeue (keyed : contents.Keyed) (id : String) (nextRetryAt : Millis) :
    (contents.requeue id nextRetryAt).Keyed := by
  rw [Contents.requeue]
  split
  · exact keyed
  · exact (keyed.settle id).put _

theorem reclaim (keyed : contents.Keyed) (nowMs : Millis) (ids : List String) :
    (contents.reclaim nowMs ids).Keyed where
  queued := by
    intro id record waits
    rw [reclaim_queued] at waits
    split at waits
    · rcases Option.or_eq_some_iff.mp waits with back | ⟨-, waits⟩
      · rcases Option.map_eq_some_iff.mp back with ⟨⟨out, expiresAt⟩, isOut, rfl⟩
        have key : out.id = id := keyed.inFlight isOut
        exact key
      · exact keyed.queued waits
    · exact keyed.queued waits
  inFlight := by
    intro id record expiresAt out
    rw [reclaim_inFlight] at out
    split at out
    · cases out
    · exact keyed.inFlight out

end Keyed

end Contents

end Orbital.PulseWebhooks
