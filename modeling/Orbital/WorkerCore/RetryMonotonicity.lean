import Orbital.WorkerCore.WorkerRetryQueue

/-! # Attempts of the in-memory retry queue

A record in flight whose timeout has run out is put back in the place of what waits under
its id. Where that is never a record with a greater attempt, attempts do not go down.
-/

namespace Orbital.WorkerCore.MemoryWorkerRetryQueue

open Foundation
open WorkerRetryRecord (payroll)

variable {Metadata Failure : Type} {queue : MemoryWorkerRetryQueue Metadata Failure}
  {record : WorkerRetryRecord Metadata Failure} {id : JsString} {attempt : Nat}
  {visibilityTimeoutMs nowMs : ℚ}

/-! ## Reclaiming -/

def reclaimed (nowMs : ℚ) (out : InFlight Metadata Failure) : WorkerRetryRecord Metadata Failure :=
  { out.record with nextRetryAt := nowMs, updatedAt := nowMs }

theorem reclaimOne_other {item : JsString × InFlight Metadata Failure} (other : id ≠ item.1) :
    (reclaimOne nowMs queue item).queued.get? id = queue.queued.get? id ∧
      (reclaimOne nowMs queue item).inFlight.get? id = queue.inFlight.get? id := by
  rw [reclaimOne]
  split
  · rw [InsertionMap.get?_set_other _ _ other, InsertionMap.get?_delete, if_neg other]
    exact ⟨rfl, rfl⟩
  · exact ⟨rfl, rfl⟩

theorem foldl_reclaimOne_other {items : List (JsString × InFlight Metadata Failure)}
    (others : id ∉ items.map Prod.fst) :
    (items.foldl (reclaimOne nowMs) queue).queued.get? id = queue.queued.get? id ∧
      (items.foldl (reclaimOne nowMs) queue).inFlight.get? id = queue.inFlight.get? id := by
  induction items generalizing queue with
  | nil => exact ⟨rfl, rfl⟩
  | cons item rest induction =>
      rw [List.map_cons, List.mem_cons, not_or] at others
      have first := @reclaimOne_other _ _ queue _ nowMs item others.1
      have later := @induction (reclaimOne nowMs queue item) others.2
      rw [List.foldl_cons, later.1, later.2]
      exact first

theorem reclaim_of_mem {out : InFlight Metadata Failure} (found : queue.inFlight.get? id = some out) :
    ∃ current : MemoryWorkerRetryQueue Metadata Failure,
      current.queued.get? id = queue.queued.get? id ∧
      current.inFlight.get? id = queue.inFlight.get? id ∧
      (queue.reclaimExpiredInFlight nowMs).queued.get? id =
        (reclaimOne nowMs current (id, out)).queued.get? id ∧
      (queue.reclaimExpiredInFlight nowMs).inFlight.get? id =
        (reclaimOne nowMs current (id, out)).inFlight.get? id := by
  rcases List.append_of_mem (InsertionMap.get?_eq_some_iff.mp found) with ⟨front, back, split⟩
  have nodup := queue.inFlight.nodup
  rw [split, List.map_append, List.map_cons, List.nodup_middle, List.nodup_cons,
    List.mem_append, not_or] at nodup
  have before := @foldl_reclaimOne_other _ _ queue id nowMs front nodup.1.1
  have behind := @foldl_reclaimOne_other _ _
    (reclaimOne nowMs (front.foldl (reclaimOne nowMs) queue) (id, out)) id nowMs back nodup.1.2
  refine ⟨front.foldl (reclaimOne nowMs) queue, before.1, before.2, ?_, ?_⟩
  · rw [reclaimExpiredInFlight, split, List.foldl_append, List.foldl_cons]
    exact behind.1
  · rw [reclaimExpiredInFlight, split, List.foldl_append, List.foldl_cons]
    exact behind.2

theorem reclaim_expired {out : InFlight Metadata Failure}
    (found : queue.inFlight.get? id = some out) (expired : out.expiresAt ≤ nowMs) :
    (queue.reclaimExpiredInFlight nowMs).queued.get? id = some (reclaimed nowMs out) ∧
      (queue.reclaimExpiredInFlight nowMs).inFlight.get? id = none := by
  rcases @reclaim_of_mem _ _ queue id nowMs out found with ⟨current, -, -, queued, inFlight⟩
  rw [queued, inFlight, reclaimOne, if_pos expired, InsertionMap.get?_set_same,
    InsertionMap.get?_delete, if_pos rfl]
  exact ⟨rfl, rfl⟩

theorem reclaim_inTime
    (inTime : ∀ out, queue.inFlight.get? id = some out → nowMs < out.expiresAt) :
    (queue.reclaimExpiredInFlight nowMs).queued.get? id = queue.queued.get? id ∧
      (queue.reclaimExpiredInFlight nowMs).inFlight.get? id = queue.inFlight.get? id := by
  cases found : queue.inFlight.get? id with
  | none =>
      rw [← found]
      apply foldl_reclaimOne_other
      intro member
      rcases InsertionMap.mem_keys_iff.mp member with ⟨out, isOut⟩
      rw [found] at isOut
      cases isOut
  | some out =>
      rcases @reclaim_of_mem _ _ queue id nowMs out found with
        ⟨current, sameQueued, sameOut, queued, inFlight⟩
      rw [queued, inFlight, reclaimOne, if_neg (not_le.mpr (inTime out found)), sameQueued, sameOut,
        found]
      exact ⟨rfl, rfl⟩

theorem expired_or_inTime (queue : MemoryWorkerRetryQueue Metadata Failure) (id : JsString)
    (nowMs : ℚ) : (∃ out, queue.inFlight.get? id = some out ∧ out.expiresAt ≤ nowMs) ∨
      ∀ out, queue.inFlight.get? id = some out → nowMs < out.expiresAt := by
  by_cases expired : ∃ out, queue.inFlight.get? id = some out ∧ out.expiresAt ≤ nowMs
  · exact .inl expired
  · right
    intro out found
    exact not_le.mp fun late => expired ⟨out, found, late⟩

/-! ## Ids -/

structure Keyed (queue : MemoryWorkerRetryQueue Metadata Failure) : Prop where
  queued : ∀ id record, queue.queued.get? id = some record → record.id = id
  inFlight : ∀ id out, queue.inFlight.get? id = some out → out.record.id = id

theorem keyed_empty : (empty : MemoryWorkerRetryQueue Metadata Failure).Keyed where
  queued _ _ found := by cases found
  inFlight _ _ found := by cases found

theorem Keyed.enqueue (keyed : queue.Keyed) (record : WorkerRetryRecord Metadata Failure)
    (now : ℚ) : (queue.enqueue record now).Keyed where
  queued := by
    intro id waiting found
    rw [MemoryWorkerRetryQueue.enqueue, InsertionMap.get?_set] at found
    split at found
    · rename_i same
      cases found
      exact same.symm
    · exact keyed.queued id waiting found
  inFlight := keyed.inFlight

theorem Keyed.ack (keyed : queue.Keyed) (recordId : JsString) : (queue.ack recordId).Keyed where
  queued := by
    intro id waiting found
    rw [MemoryWorkerRetryQueue.ack, InsertionMap.get?_delete] at found
    split at found
    · cases found
    · exact keyed.queued id waiting found
  inFlight := by
    intro id out found
    rw [MemoryWorkerRetryQueue.ack, InsertionMap.get?_delete] at found
    split at found
    · cases found
    · exact keyed.inFlight id out found

theorem Keyed.reclaim (keyed : queue.Keyed) (nowMs : ℚ) :
    (queue.reclaimExpiredInFlight nowMs).Keyed := by
  constructor
  · intro id waiting found
    rcases expired_or_inTime queue id nowMs with ⟨out, isOut, expired⟩ | inTime
    · rw [(reclaim_expired isOut expired).1] at found
      cases found
      exact keyed.inFlight id out isOut
    · rw [(reclaim_inTime inTime).1] at found
      exact keyed.queued id waiting found
  · intro id out found
    rcases expired_or_inTime queue id nowMs with ⟨old, isOut, expired⟩ | inTime
    · rw [(reclaim_expired isOut expired).2] at found
      cases found
    · rw [(reclaim_inTime inTime).2] at found
      exact keyed.inFlight id out found

theorem dequeue_cases (keyed : queue.Keyed) (visibilityTimeoutMs nowMs : ℚ) :
    queue.dequeue visibilityTimeoutMs nowMs = (none, queue.reclaimExpiredInFlight nowMs) ∨
      ∃ best, (queue.reclaimExpiredInFlight nowMs).queued.get? best.id = some best ∧
        queue.dequeue visibilityTimeoutMs nowMs = (some best, {
          queued := (queue.reclaimExpiredInFlight nowMs).queued.delete best.id
          inFlight := (queue.reclaimExpiredInFlight nowMs).inFlight.set best.id
            ⟨best, nowMs + visibilityTimeoutMs⟩ }) := by
  cases picked : pick WorkerRetryRecord.earlier
      ((queue.reclaimExpiredInFlight nowMs).due nowMs) with
  | none =>
      left
      simp only [dequeue, picked]
  | some best =>
      right
      refine ⟨best, ?_, by simp only [dequeue, picked]⟩
      have member := List.mem_of_mem_filter (mem_of_pick picked)
      rcases InsertionMap.mem_values_iff.mp member with ⟨key, waits⟩
      rw [(keyed.reclaim nowMs).queued key best waits]
      exact waits

theorem Keyed.dequeue (keyed : queue.Keyed) (visibilityTimeoutMs nowMs : ℚ) :
    (queue.dequeue visibilityTimeoutMs nowMs).2.Keyed := by
  rcases dequeue_cases keyed visibilityTimeoutMs nowMs with none | ⟨best, waits, taken⟩
  · rw [none]
    exact keyed.reclaim nowMs
  · rw [taken]
    constructor
    · intro id record found
      rw [InsertionMap.get?_delete] at found
      split at found
      · cases found
      · exact (keyed.reclaim nowMs).queued id record found
    · intro id out found
      rw [InsertionMap.get?_set] at found
      split at found
      · rename_i same
        cases found
        exact same.symm
      · exact (keyed.reclaim nowMs).inFlight id out found

theorem Keyed.step (keyed : queue.Keyed) (visibilityTimeoutMs : ℚ)
    (call : RetryCall Metadata Failure) :
    ((machine visibilityTimeoutMs).step queue call).2.Keyed := by
  cases call with
  | enqueue record now => exact keyed.enqueue record now
  | dequeue nowMs => exact keyed.dequeue visibilityTimeoutMs nowMs
  | ack recordId => exact keyed.ack recordId

theorem keyed_after (visibilityTimeoutMs : ℚ) (calls : List (RetryCall Metadata Failure)) :
    ((machine visibilityTimeoutMs).after empty calls).Keyed :=
  Machine.invariant (fun call keyed => keyed.step visibilityTimeoutMs call) keyed_empty calls

/-! ## A least attempt -/

/-- What waits under an id has at least a number of attempts, and so has what is out unless it
would be put back in the place of what waits. -/
structure Floor (queue : MemoryWorkerRetryQueue Metadata Failure) (id : JsString)
    (attempt : Nat) : Prop where
  queued : ∀ record, queue.queued.get? id = some record → attempt ≤ record.attempt
  inFlight : ∀ out, queue.inFlight.get? id = some out →
    attempt ≤ out.record.attempt ∨ (queue.queued.get? id).isSome

/-- At a dequeue, no record whose timeout has run out has fewer attempts than what waits
under its id. -/
def TimeoutKeepsAttempt (queue : MemoryWorkerRetryQueue Metadata Failure) :
    RetryCall Metadata Failure → Prop
  | .dequeue nowMs => ∀ item ∈ queue.inFlight.entries, item.2.expiresAt ≤ nowMs →
      ∀ waiting ∈ queue.queued.get? item.1, waiting.attempt ≤ item.2.record.attempt
  | _ => True

instance (queue : MemoryWorkerRetryQueue Metadata Failure) :
    (call : RetryCall Metadata Failure) → Decidable (queue.TimeoutKeepsAttempt call)
  | .enqueue _ _ => isTrue trivial
  | .dequeue nowMs => inferInstanceAs (Decidable (∀ item ∈ queue.inFlight.entries,
      item.2.expiresAt ≤ nowMs →
        ∀ waiting ∈ queue.queued.get? item.1, waiting.attempt ≤ item.2.record.attempt))
  | .ack _ => isTrue trivial

def AtLeast (id : JsString) (attempt : Nat) : RetryCall Metadata Failure → Prop
  | .enqueue record _ => record.id = id → attempt ≤ record.attempt
  | _ => True

theorem floor_enqueue (record : WorkerRetryRecord Metadata Failure) (now : ℚ) :
    (queue.enqueue record now).Floor record.id record.attempt where
  queued := by
    intro waiting found
    rw [MemoryWorkerRetryQueue.enqueue, InsertionMap.get?_set_same] at found
    cases found
    exact le_refl _
  inFlight := by
    intro out found
    right
    rw [MemoryWorkerRetryQueue.enqueue, InsertionMap.get?_set_same]
    rfl

theorem Floor.enqueue (floor : queue.Floor id attempt)
    {record : WorkerRetryRecord Metadata Failure} {now : ℚ}
    (enough : record.id = id → attempt ≤ record.attempt) :
    (queue.enqueue record now).Floor id attempt where
  queued := by
    intro waiting found
    rw [MemoryWorkerRetryQueue.enqueue, InsertionMap.get?_set] at found
    split at found
    · rename_i same
      cases found
      exact enough same.symm
    · exact floor.queued waiting found
  inFlight := by
    intro out found
    rw [MemoryWorkerRetryQueue.enqueue, InsertionMap.get?_set]
    split
    · exact .inr rfl
    · exact floor.inFlight out found

theorem Floor.ack (floor : queue.Floor id attempt) (recordId : JsString) :
    (queue.ack recordId).Floor id attempt where
  queued := by
    intro waiting found
    rw [MemoryWorkerRetryQueue.ack, InsertionMap.get?_delete] at found
    split at found
    · cases found
    · exact floor.queued waiting found
  inFlight := by
    intro out found
    rw [MemoryWorkerRetryQueue.ack, InsertionMap.get?_delete] at found
    rw [MemoryWorkerRetryQueue.ack, InsertionMap.get?_delete]
    split at found
    · cases found
    · rename_i other
      rw [if_neg other]
      exact floor.inFlight out found

theorem Floor.reclaim (floor : queue.Floor id attempt)
    (keeps : queue.TimeoutKeepsAttempt (.dequeue nowMs)) :
    (queue.reclaimExpiredInFlight nowMs).Floor id attempt := by
  rcases expired_or_inTime queue id nowMs with ⟨out, isOut, expired⟩ | inTime
  · rcases reclaim_expired isOut expired with ⟨queued, inFlight⟩
    constructor
    · intro record found
      rw [queued] at found
      cases found
      show attempt ≤ out.record.attempt
      rcases floor.inFlight out isOut with enough | waits
      · exact enough
      · rcases Option.isSome_iff_exists.mp waits with ⟨waiting, isWaiting⟩
        exact (floor.queued waiting isWaiting).trans
          (keeps (id, out) (InsertionMap.get?_eq_some_iff.mp isOut) expired waiting isWaiting)
    · intro later found
      rw [inFlight] at found
      cases found
  · rcases reclaim_inTime inTime with ⟨queued, inFlight⟩
    constructor
    · intro record found
      rw [queued] at found
      exact floor.queued record found
    · intro out found
      rw [inFlight] at found
      rw [queued]
      exact floor.inFlight out found

theorem Floor.dequeue (floor : queue.Floor id attempt) (keyed : queue.Keyed)
    (keeps : queue.TimeoutKeepsAttempt (.dequeue nowMs)) (visibilityTimeoutMs : ℚ) :
    (queue.dequeue visibilityTimeoutMs nowMs).2.Floor id attempt ∧
      ∀ best, (queue.dequeue visibilityTimeoutMs nowMs).1 = some best → best.id = id →
        attempt ≤ best.attempt := by
  have reclaimed := floor.reclaim keeps
  rcases dequeue_cases keyed visibilityTimeoutMs nowMs with none | ⟨best, waits, taken⟩
  · rw [none]
    refine ⟨reclaimed, ?_⟩
    intro best handed
    cases handed
  · have enough (same : best.id = id) : attempt ≤ best.attempt := by
      apply reclaimed.queued best
      rw [← same]
      exact waits
    rw [taken]
    refine ⟨⟨?_, ?_⟩, ?_⟩
    · intro record found
      rw [InsertionMap.get?_delete] at found
      split at found
      · cases found
      · exact reclaimed.queued record found
    · intro out found
      rw [InsertionMap.get?_set] at found
      rw [InsertionMap.get?_delete]
      split at found
      · rename_i same
        cases found
        exact .inl (enough same.symm)
      · rename_i other
        rw [if_neg other]
        exact reclaimed.inFlight out found
    · intro handed same sameId
      cases same
      exact enough sameId

/-! ## A record that is out -/

structure OutUntil (queue : MemoryWorkerRetryQueue Metadata Failure) (id : JsString)
    (expiresAt : ℚ) : Prop where
  queued : queue.queued.get? id = none
  inFlight : ∀ out, queue.inFlight.get? id = some out → out.expiresAt = expiresAt

def Spares (id : JsString) (expiresAt : ℚ) : RetryCall Metadata Failure → Prop
  | .enqueue record _ => record.id ≠ id
  | .dequeue nowMs => nowMs < expiresAt
  | .ack _ => True

theorem OutUntil.dequeue {expiresAt : ℚ} (until_ : queue.OutUntil id expiresAt)
    (keyed : queue.Keyed) (inTime : nowMs < expiresAt) (visibilityTimeoutMs : ℚ) :
    (queue.dequeue visibilityTimeoutMs nowMs).2.OutUntil id expiresAt ∧
      ∀ best, (queue.dequeue visibilityTimeoutMs nowMs).1 = some best → best.id ≠ id := by
  have early : ∀ out, queue.inFlight.get? id = some out → nowMs < out.expiresAt := by
    intro out found
    rw [until_.inFlight out found]
    exact inTime
  rcases reclaim_inTime early with ⟨queued, inFlight⟩
  rcases dequeue_cases keyed visibilityTimeoutMs nowMs with none | ⟨best, waits, taken⟩
  · rw [none]
    refine ⟨⟨queued.trans until_.queued, ?_⟩, ?_⟩
    · intro out found
      exact until_.inFlight out (inFlight.symm.trans found)
    · intro best handed
      cases handed
  · have other : best.id ≠ id := by
      rintro rfl
      rw [queued, until_.queued] at waits
      cases waits
    rw [taken]
    refine ⟨⟨?_, ?_⟩, ?_⟩
    · rw [InsertionMap.get?_delete, if_neg other.symm, queued, until_.queued]
    · intro out found
      rw [InsertionMap.get?_set_other _ _ other.symm, inFlight] at found
      exact until_.inFlight out found
    · intro handed same
      cases same
      exact other

theorem OutUntil.step {expiresAt : ℚ} (until_ : queue.OutUntil id expiresAt)
    (keyed : queue.Keyed) {call : RetryCall Metadata Failure} (spares : Spares id expiresAt call)
    (visibilityTimeoutMs : ℚ) :
    ((machine visibilityTimeoutMs).step queue call).2.OutUntil id expiresAt := by
  cases call with
  | enqueue record now =>
      refine ⟨?_, until_.inFlight⟩
      show (queue.queued.set _ _).get? id = none
      rw [InsertionMap.get?_set_other _ _ (Ne.symm spares), until_.queued]
  | dequeue nowMs => exact (until_.dequeue keyed spares visibilityTimeoutMs).1
  | ack recordId =>
      constructor
      · show (queue.queued.delete recordId).get? id = none
        rw [InsertionMap.get?_delete, until_.queued, ite_self]
      · intro out found
        apply until_.inFlight out
        have found : (queue.inFlight.delete recordId).get? id = some out := found
        rw [InsertionMap.get?_delete] at found
        split at found
        · cases found
        · exact found

theorem outUntil_of_handedOut (keyed : queue.Keyed)
    (handed : (queue.dequeue visibilityTimeoutMs nowMs).1 = some record) :
    (queue.dequeue visibilityTimeoutMs nowMs).2.OutUntil record.id
      (nowMs + visibilityTimeoutMs) := by
  rcases dequeue_cases keyed visibilityTimeoutMs nowMs with none | ⟨best, -, taken⟩
  · rw [none] at handed
    cases handed
  · rw [taken] at handed ⊢
    cases handed
    constructor
    · exact (InsertionMap.get?_delete _ _ _).trans (if_pos rfl)
    · intro out found
      rw [InsertionMap.get?_set_same] at found
      cases found
      rfl

/-! ## Runs -/

def afterCalls (visibilityTimeoutMs : ℚ) (calls : List (RetryCall Metadata Failure)) :
    MemoryWorkerRetryQueue Metadata Failure :=
  (machine visibilityTimeoutMs).after empty calls

def handedOut (visibilityTimeoutMs : ℚ) (calls : List (RetryCall Metadata Failure)) (nowMs : ℚ) :
    Option (WorkerRetryRecord Metadata Failure) :=
  ((afterCalls visibilityTimeoutMs calls).dequeue visibilityTimeoutMs nowMs).1

def AttemptsKept (visibilityTimeoutMs : ℚ) (calls : List (RetryCall Metadata Failure)) : Prop :=
  ∀ front record now middle nowMs back handed,
    calls = front ++ .enqueue record now :: middle ++ .dequeue nowMs :: back →
    handedOut visibilityTimeoutMs (front ++ .enqueue record now :: middle) nowMs = some handed →
    handed.id = record.id → record.attempt ≤ handed.attempt

def HandedOutOnce (visibilityTimeoutMs : ℚ) (calls : List (RetryCall Metadata Failure)) : Prop :=
  ∀ front firstMs middle secondMs back first second,
    calls = front ++ .dequeue firstMs :: middle ++ .dequeue secondMs :: back →
    handedOut visibilityTimeoutMs front firstMs = some first →
    handedOut visibilityTimeoutMs (front ++ .dequeue firstMs :: middle) secondMs = some second →
    second.id = first.id →
    (∃ record now, RetryCall.enqueue record now ∈ middle ∧ record.id = first.id) ∨
      firstMs + visibilityTimeoutMs ≤ secondMs

def NotBefore : RetryCall Metadata Failure → RetryCall Metadata Failure → Prop
  | .dequeue firstMs, .dequeue secondMs => firstMs ≤ secondMs
  | _, _ => True

instance : DecidableRel (@NotBefore Metadata Failure)
  | .dequeue firstMs, .dequeue secondMs => inferInstanceAs (Decidable (firstMs ≤ secondMs))
  | .dequeue _, .enqueue _ _ | .dequeue _, .ack _ | .enqueue _ _, _ | .ack _, _ => isTrue trivial

def NotLowered : RetryCall Metadata Failure → RetryCall Metadata Failure → Prop
  | .enqueue record _, call => AtLeast record.id record.attempt call
  | _, _ => True

instance (id : JsString) (attempt : Nat) :
    (call : RetryCall Metadata Failure) → Decidable (AtLeast id attempt call)
  | .enqueue record _ => inferInstanceAs (Decidable (record.id = id → attempt ≤ record.attempt))
  | .dequeue _ | .ack _ => isTrue trivial

instance : DecidableRel (@NotLowered Metadata Failure)
  | .enqueue record _, call => inferInstanceAs (Decidable (AtLeast record.id record.attempt call))
  | .dequeue _, _ | .ack _, _ => isTrue trivial

theorem floor_after {calls : List (RetryCall Metadata Failure)} (floor : queue.Floor id attempt)
    (keyed : queue.Keyed) (atLeast : ∀ call ∈ calls, AtLeast id attempt call)
    (meets : (machine visibilityTimeoutMs).Meets TimeoutKeepsAttempt queue calls) :
    ((machine visibilityTimeoutMs).after queue calls).Floor id attempt ∧
      ((machine visibilityTimeoutMs).after queue calls).Keyed := by
  have both := meets.and (Machine.meets_of_forall _ queue atLeast)
  refine Machine.invariant_of_meets (motive := fun queue => queue.Floor id attempt ∧ queue.Keyed)
    ?_ ⟨floor, keyed⟩ both
  rintro queue call ⟨floor, keyed⟩ ⟨keeps, enough⟩
  refine ⟨?_, keyed.step visibilityTimeoutMs call⟩
  cases call with
  | enqueue record now => exact floor.enqueue enough
  | dequeue nowMs => exact (floor.dequeue keyed keeps visibilityTimeoutMs).1
  | ack recordId => exact floor.ack recordId

theorem outUntil_after {calls : List (RetryCall Metadata Failure)} {expiresAt : ℚ}
    (until_ : queue.OutUntil id expiresAt) (keyed : queue.Keyed)
    (spares : ∀ call ∈ calls, Spares id expiresAt call) :
    ((machine visibilityTimeoutMs).after queue calls).OutUntil id expiresAt ∧
      ((machine visibilityTimeoutMs).after queue calls).Keyed := by
  refine Machine.invariant_of_meets
    (motive := fun queue => queue.OutUntil id expiresAt ∧ queue.Keyed) ?_ ⟨until_, keyed⟩
      (Machine.meets_of_forall _ queue spares)
  rintro queue call ⟨until_, keyed⟩ spares
  exact ⟨until_.step keyed spares visibilityTimeoutMs, keyed.step visibilityTimeoutMs call⟩

theorem attemptsKept {calls : List (RetryCall Metadata Failure)}
    (rising : calls.Pairwise NotLowered)
    (meets : (machine visibilityTimeoutMs).Meets TimeoutKeepsAttempt empty calls) :
    AttemptsKept visibilityTimeoutMs calls := by
  intro front record now middle nowMs back handed split isHanded sameId
  subst split
  rw [List.append_assoc, List.cons_append] at rising meets
  have later := List.pairwise_cons.mp (List.pairwise_append.mp rising).2.1
  have enough : ∀ call ∈ middle, AtLeast record.id record.attempt call :=
    fun call member => later.1 call (List.mem_append_left _ member)
  rcases Machine.meets_append.mp meets with ⟨-, -, meets⟩
  rcases Machine.meets_append.mp meets with ⟨meets, keeps, -⟩
  rcases floor_after (floor_enqueue record now)
    ((keyed_after visibilityTimeoutMs front).enqueue record now) enough meets with ⟨floor, keyed⟩
  apply (floor.dequeue keyed keeps visibilityTimeoutMs).2 handed _ sameId
  rw [handedOut, afterCalls, Machine.after_append] at isHanded
  exact isHanded

theorem handedOutOnce {calls : List (RetryCall Metadata Failure)}
    (ordered : calls.Pairwise NotBefore) : HandedOutOnce visibilityTimeoutMs calls := by
  intro front firstMs middle secondMs back first second split isFirst isSecond sameId
  subst split
  by_contra never
  rw [not_or, not_le] at never
  rcases never with ⟨notEnqueued, early⟩
  rw [List.append_assoc, List.cons_append] at ordered
  have later := List.pairwise_cons.mp (List.pairwise_append.mp ordered).2.1
  have middleFirst := (List.pairwise_append.mp later.2).2.2
  have spares : ∀ call ∈ middle, Spares first.id (firstMs + visibilityTimeoutMs) call := by
    intro call member
    cases call with
    | enqueue record now => exact fun same => notEnqueued ⟨record, now, member, same⟩
    | dequeue nowMs => exact lt_of_le_of_lt (middleFirst _ member _ List.mem_cons_self) early
    | ack recordId => trivial
  have keyed := keyed_after visibilityTimeoutMs front
  have run := @outUntil_after _ _ _ _ visibilityTimeoutMs middle _
    (outUntil_of_handedOut keyed isFirst) (keyed.dequeue visibilityTimeoutMs firstMs) spares
  apply (run.1.dequeue run.2 early visibilityTimeoutMs).2 second _ sameId
  rw [handedOut, afterCalls, Machine.after_append] at isSecond
  exact isSecond

/-- Where attempts are not lowered and a timeout does not put back fewer than wait, no later
record of an id has fewer attempts. An id is handed out again only behind its timeout or an
enqueue. -/
theorem attempts_kept_and_handed_out_once (visibilityTimeoutMs : Option ℚ)
    (calls : List (RetryCall Metadata Failure)) (ordered : calls.Pairwise NotBefore)
    (rising : calls.Pairwise NotLowered)
    (meets : (machine (visibilityTimeout visibilityTimeoutMs)).Meets TimeoutKeepsAttempt empty
      calls) :
    AttemptsKept (visibilityTimeout visibilityTimeoutMs) calls ∧
      HandedOutOnce (visibilityTimeout visibilityTimeoutMs) calls :=
  ⟨attemptsKept rising meets, handedOutOnce ordered⟩

/-! ## A run of a submission -/

def attemptFails : List (RetryCall Unit JsString) :=
  [.enqueue (payroll 2 0) 0, .dequeue 0, .enqueue (payroll 3 60000) 1000]

/-- Behind the timeout the second attempt is handed out again. -/
theorem timeout_lowers_attempt :
    ¬ AttemptsKept (visibilityTimeout none) (attemptFails ++ [.dequeue 30000]) := by
  intro kept
  have handed : handedOut (visibilityTimeout none) attemptFails 30000 =
      some { payroll 2 30000 with updatedAt := 30000 } := by
    decide +kernel
  exact absurd (kept [.enqueue (payroll 2 0) 0, .dequeue 0] (payroll 3 60000) 1000 [] 30000 [] _
    rfl handed rfl) (by decide)

theorem attempts_kept_in_time :
    AttemptsKept (visibilityTimeout none) (attemptFails ++ [.dequeue 20000]) ∧
      HandedOutOnce (visibilityTimeout none) (attemptFails ++ [.dequeue 20000]) :=
  attempts_kept_and_handed_out_once none (attemptFails ++ [.dequeue 20000])
    (by decide +kernel) (by decide +kernel) (by decide +kernel)

end Orbital.WorkerCore.MemoryWorkerRetryQueue
