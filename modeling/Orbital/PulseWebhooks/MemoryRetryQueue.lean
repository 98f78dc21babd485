import Orbital.Foundation.InsertionMap
import Orbital.Foundation.Selection
import Orbital.PulseWebhooks.RetryQueue

/-! # `MemoryRetryQueue`

The reference implementation: one map of the records that wait, numbered in the order in
which they came, and one of the records that are out.
-/

namespace Orbital.PulseWebhooks

open Foundation

variable {Event Metadata : Type}

structure Entry (Event Metadata : Type) where
  record : RetryRecord Event Metadata Millis
  seq : Nat

structure InFlight (Event Metadata : Type) where
  record : RetryRecord Event Metadata Millis
  expiresAt : Millis

structure MemoryRetryQueue (Event Metadata : Type) where
  queued : InsertionMap String (Entry Event Metadata)
  inFlight : InsertionMap String (InFlight Event Metadata)
  seq : Nat

namespace MemoryRetryQueue

variable (queue : MemoryRetryQueue Event Metadata)

def empty : MemoryRetryQueue Event Metadata where
  queued := .empty
  inFlight := .empty
  seq := 0

/-- `this.queued.set(id, { record, seq: this.seq++ })` -/
def setQueued (record : RetryRecord Event Metadata Millis) : MemoryRetryQueue Event Metadata :=
  { queue with
    queued := queue.queued.set record.id { record, seq := queue.seq }
    seq := queue.seq + 1 }

def enqueue (record : RetryRecord Event Metadata (Option Millis)) :
    Except String (MemoryRetryQueue Event Metadata) := do
  return queue.setQueued (← assertRecord record)

def reclaimOne (nowMs : Millis) (queue : MemoryRetryQueue Event Metadata)
    (item : String × InFlight Event Metadata) : MemoryRetryQueue Event Metadata :=
  if item.2.expiresAt ≤ nowMs then
    let queue := { queue with inFlight := queue.inFlight.delete item.1 }
    { queue with
      queued := queue.queued.set item.1
        { record := { item.2.record with nextRetryAt := nowMs }, seq := queue.seq }
      seq := queue.seq + 1 }
  else queue

def reclaimExpiredInFlight (nowMs : Millis) : MemoryRetryQueue Event Metadata :=
  queue.inFlight.entries.foldl (reclaimOne nowMs) queue

def earlier (entry best : Entry Event Metadata) : Bool :=
  entry.record.nextRetryAt < best.record.nextRetryAt ||
    (entry.record.nextRetryAt = best.record.nextRetryAt && entry.seq < best.seq)

def later (entry newest : Entry Event Metadata) : Bool :=
  entry.record.nextRetryAt > newest.record.nextRetryAt ||
    (entry.record.nextRetryAt = newest.record.nextRetryAt && entry.seq > newest.seq)

/-- The entries the loop of `dequeue` does not skip. -/
def due (nowMs : Millis) : List (Entry Event Metadata) :=
  queue.queued.values.filter fun entry => ¬ entry.record.nextRetryAt > nowMs

def dequeue (visibilityTimeoutMs nowMs : Millis) :
    Option (RetryRecord Event Metadata Millis) × MemoryRetryQueue Event Metadata :=
  let queue := queue.reclaimExpiredInFlight nowMs
  match pick earlier (queue.due nowMs) with
  | none => (none, queue)
  | some best =>
      (some best.record,
        { queue with
          queued := queue.queued.delete best.record.id
          inFlight := queue.inFlight.set best.record.id
            { record := best.record, expiresAt := nowMs + visibilityTimeoutMs } })

def ack (recordId : String) : MemoryRetryQueue Event Metadata :=
  { queue with inFlight := queue.inFlight.delete recordId }

/-- What is put back has passed the check of `enqueue` before. -/
def nack (recordId : String) (requeueDelayMs : Option Millis) (now : Millis) :
    MemoryRetryQueue Event Metadata :=
  match queue.inFlight.get? recordId with
  | none => queue
  | some inFlight =>
      let queue := { queue with inFlight := queue.inFlight.delete recordId }
      queue.setQueued { inFlight.record with nextRetryAt := now + requeueDelay requeueDelayMs }

def evictNewest : Option (RetryRecord Event Metadata Millis) × MemoryRetryQueue Event Metadata :=
  match pick later queue.queued.values with
  | none => (none, queue)
  | some newest =>
      (some newest.record, { queue with queued := queue.queued.delete newest.record.id })

def size : Nat :=
  queue.queued.size

def machine (visibilityTimeoutMs : Millis) :
    Machine (MemoryRetryQueue Event Metadata) (Call Event Metadata) (Answer Event Metadata) where
  step := fun queue call =>
    match call with
    | .enqueue record =>
        match queue.enqueue record with
        | .error error => (.rejected error, queue)
        | .ok queue => (.settled, queue)
    | .dequeue nowMs =>
        let taken := queue.dequeue visibilityTimeoutMs nowMs
        (.record taken.1, taken.2)
    | .ack recordId => (.settled, queue.ack recordId)
    | .nack recordId requeueDelayMs now => (.settled, queue.nack recordId requeueDelayMs now)
    | .evictNewest =>
        let evicted := queue.evictNewest
        (.record evicted.1, evicted.2)
    | .size _ => (.count queue.size, queue)

/-! ## What it stands for -/

def contents : Contents Event Metadata where
  queued := fun id => (queue.queued.get? id).map fun entry => entry.record
  inFlight := fun id => (queue.inFlight.get? id).map fun out => (out.record, out.expiresAt)

variable {queue}

theorem contents_queued {id : String} {record : RetryRecord Event Metadata Millis} :
    queue.contents.queued id = some record ↔
      ∃ entry, queue.queued.get? id = some entry ∧ entry.record = record :=
  Option.map_eq_some_iff

theorem contents_inFlight {id : String} {record : RetryRecord Event Metadata Millis}
    {expiresAt : Millis} :
    queue.contents.inFlight id = some (record, expiresAt) ↔
      queue.inFlight.get? id = some { record, expiresAt } := by
  rw [contents, Option.map_eq_some_iff]
  constructor
  · rintro ⟨out, found, same⟩
    cases same
    exact found
  · intro found
    exact ⟨_, found, rfl⟩

theorem contents_empty : (empty : MemoryRetryQueue Event Metadata).contents.Keyed where
  queued := fun none => by cases none
  inFlight := fun none => by cases none

theorem contents_setQueued (record : RetryRecord Event Metadata Millis) :
    (queue.setQueued record).contents = queue.contents.put record := by
  apply Contents.ext
  · funext id
    rw [Contents.put_queued, Function.update_apply, contents, setQueued]
    dsimp only
    rw [InsertionMap.get?_set]
    split <;> rfl
  · rfl

theorem contents_ack (recordId : String) :
    (queue.ack recordId).contents = queue.contents.settle recordId := by
  apply Contents.ext
  · rfl
  · funext id
    rw [Contents.settle_inFlight, Function.update_apply, contents, ack]
    dsimp only
    rw [InsertionMap.get?_delete]
    split <;> rfl

theorem contents_nack (recordId : String) (requeueDelayMs : Option Millis) (now : Millis) :
    (queue.nack recordId requeueDelayMs now).contents =
      queue.contents.requeue recordId (now + requeueDelay requeueDelayMs) := by
  rw [nack]
  cases found : queue.inFlight.get? recordId with
  | none =>
      have none : queue.contents.inFlight recordId = none := Option.map_eq_none_iff.mpr found
      rw [Contents.requeue_of_none none]
  | some out =>
      rw [Contents.requeue_of_some (contents_inFlight.mpr found), ← contents_ack,
        ← contents_setQueued]
      rfl

theorem contents_reclaimOne (nowMs : Millis) {item : String × InFlight Event Metadata}
    (keyed : queue.contents.Keyed) (out : queue.inFlight.get? item.1 = some item.2) :
    (queue.reclaimOne nowMs item).contents =
      if item.2.expiresAt ≤ nowMs then queue.contents.requeue item.1 nowMs
      else queue.contents := by
  rcases item with ⟨key, record, expiresAt⟩
  rw [reclaimOne]
  split
  · have found := contents_inFlight.mpr out
    have id : record.id = key := keyed.inFlight found
    subst id
    rw [Contents.requeue_of_some found, ← contents_ack, ← contents_setQueued]
    rfl
  · rfl

def expiredIds (nowMs : Millis) (items : List (String × InFlight Event Metadata)) : List String :=
  (items.filter fun item => item.2.expiresAt ≤ nowMs).map Prod.fst

theorem expiredIds_cons (nowMs : Millis) (item : String × InFlight Event Metadata)
    (rest : List (String × InFlight Event Metadata)) :
    expiredIds nowMs (item :: rest) =
      if item.2.expiresAt ≤ nowMs then item.1 :: expiredIds nowMs rest
      else expiredIds nowMs rest := by
  simp only [expiredIds, List.filter_cons, decide_eq_true_eq]
  split <;> rfl

private theorem contents_foldl {nowMs : Millis} {start : Contents Event Metadata}
    (keyed : start.Keyed) {items : List (String × InFlight Event Metadata)} {ids : List String}
    (nodup : (items.map Prod.fst).Nodup)
    (outside : ∀ item ∈ items, item.1 ∉ ids ∧
      start.inFlight item.1 = some (item.2.record, item.2.expiresAt))
    (reclaimed : queue.contents = start.reclaim nowMs ids) :
    (items.foldl (reclaimOne nowMs) queue).contents =
      start.reclaim nowMs (expiredIds nowMs items ++ ids) := by
  induction items generalizing queue ids with
  | nil => exact reclaimed
  | cons item rest induction =>
      rcases outside item List.mem_cons_self with ⟨absent, out⟩
      rcases List.nodup_cons.mp nodup with ⟨once, restNodup⟩
      have isOut : queue.contents.inFlight item.1 = some (item.2.record, item.2.expiresAt) := by
        rw [reclaimed, Contents.reclaim_inFlight_of_not_mem nowMs absent, out]
      have id := keyed.inFlight out
      have round := contents_reclaimOne nowMs (reclaimed ▸ keyed.reclaim nowMs ids)
        (contents_inFlight.mp isOut)
      rw [List.foldl_cons, expiredIds_cons]
      by_cases expired : item.2.expiresAt ≤ nowMs
      · rw [if_pos expired, reclaimed, ← id,
          Contents.reclaim_cons (by rw [id, out]) (by rw [id]; exact absent), id] at round
        rw [if_pos expired, induction restNodup ?_ round]
        · refine Contents.reclaim_congr ?_
          intro other _
          rw [List.cons_append, List.mem_cons, List.mem_append, List.mem_append, List.mem_cons,
            or_left_comm]
        · intro later member
          refine ⟨?_, (outside later (List.mem_cons_of_mem item member)).2⟩
          intro inside
          rcases List.mem_cons.mp inside with same | before
          · exact once (List.mem_map.mpr ⟨later, member, same⟩)
          · exact (outside later (List.mem_cons_of_mem item member)).1 before
      · rw [if_neg expired, reclaimed] at round
        rw [if_neg expired]
        exact induction restNodup
          (fun later member => outside later (List.mem_cons_of_mem item member)) round

theorem contents_reclaimExpiredInFlight (keyed : queue.contents.Keyed) (nowMs : Millis) :
    (queue.reclaimExpiredInFlight nowMs).contents =
      queue.contents.reclaim nowMs (expiredIds nowMs queue.inFlight.entries) := by
  have all := contents_foldl keyed queue.inFlight.nodup ?_ (Contents.reclaim_nil nowMs).symm
  · rwa [List.append_nil] at all
  · intro item member
    exact ⟨List.not_mem_nil, contents_inFlight.mpr (InsertionMap.get?_eq_some_iff.mpr member)⟩

theorem mem_expiredIds {nowMs : Millis} {id : String}
    {record : RetryRecord Event Metadata Millis} {expiresAt : Millis}
    (out : queue.contents.inFlight id = some (record, expiresAt)) :
    id ∈ expiredIds nowMs queue.inFlight.entries ↔ expiresAt ≤ nowMs := by
  have found := contents_inFlight.mp out
  rw [expiredIds, List.mem_map]
  constructor
  · rintro ⟨⟨key, out⟩, member, rfl⟩
    rw [List.mem_filter, decide_eq_true_eq] at member
    have same := InsertionMap.get?_eq_some_iff.mpr member.1
    cases found.symm.trans same
    exact member.2
  · intro expired
    exact ⟨_, List.mem_filter.mpr ⟨InsertionMap.get?_eq_some_iff.mp found,
      decide_eq_true expired⟩, rfl⟩

theorem reclaim_inTime {nowMs : Millis}
    (inTime : ∀ out ∈ queue.inFlight.values, nowMs < out.expiresAt) :
    queue.reclaimExpiredInFlight nowMs = queue := by
  have kept : ∀ items : List (String × InFlight Event Metadata),
      (∀ item ∈ items, nowMs < item.2.expiresAt) →
        items.foldl (reclaimOne nowMs) queue = queue := by
    intro items
    induction items with
    | nil => exact fun _ => rfl
    | cons item rest induction =>
        intro each
        have skipped : queue.reclaimOne nowMs item = queue :=
          if_neg (not_le.mpr (each item List.mem_cons_self))
        rw [List.foldl_cons, skipped]
        exact induction fun later member => each later (List.mem_cons_of_mem item member)
  apply kept
  intro item member
  exact inTime item.2 (List.mem_map.mpr ⟨item, member, rfl⟩)

/-! ## The entry that is chosen -/

variable (queue)

/-- The entry is before every other in the order of `dequeue`. -/
def Earliest (entries : List (Entry Event Metadata)) (entry : Entry Event Metadata) : Prop :=
  ∀ other ∈ entries,
    entry.record.nextRetryAt < other.record.nextRetryAt ∨
      entry.record.nextRetryAt = other.record.nextRetryAt ∧ entry.seq ≤ other.seq

def Latest (entries : List (Entry Event Metadata)) (entry : Entry Event Metadata) : Prop :=
  ∀ other ∈ entries,
    other.record.nextRetryAt < entry.record.nextRetryAt ∨
      other.record.nextRetryAt = entry.record.nextRetryAt ∧ other.seq ≤ entry.seq

instance (entries : List (Entry Event Metadata)) (entry : Entry Event Metadata) :
    Decidable (Earliest entries entry) :=
  inferInstanceAs (Decidable (∀ _ ∈ _, _))

instance (entries : List (Entry Event Metadata)) (entry : Entry Event Metadata) :
    Decidable (Latest entries entry) :=
  inferInstanceAs (Decidable (∀ _ ∈ _, _))

variable {queue}

theorem compares_earlier : Compares earlier
    fun entry other : Entry Event Metadata => entry.record.nextRetryAt < other.record.nextRetryAt ∨
      entry.record.nextRetryAt = other.record.nextRetryAt ∧ entry.seq ≤ other.seq where
  refl := fun _ => .inr ⟨rfl, le_refl _⟩
  trans := by
    intro first second third
    grind
  taken := by
    intro item kept
    simp only [earlier, Bool.or_eq_true, Bool.and_eq_true, decide_eq_true_eq]
    grind
  passed := by
    intro item kept
    simp only [earlier, Bool.or_eq_false_iff, Bool.and_eq_false_iff, decide_eq_false_iff_not]
    grind

theorem compares_later : Compares later
    fun entry other : Entry Event Metadata => other.record.nextRetryAt < entry.record.nextRetryAt ∨
      other.record.nextRetryAt = entry.record.nextRetryAt ∧ other.seq ≤ entry.seq where
  refl := fun _ => .inr ⟨rfl, le_refl _⟩
  trans := by
    intro first second third
    grind
  taken := by
    intro item kept
    simp only [later, Bool.or_eq_true, Bool.and_eq_true, decide_eq_true_eq]
    grind
  passed := by
    intro item kept
    simp only [later, Bool.or_eq_false_iff, Bool.and_eq_false_iff, decide_eq_false_iff_not]
    grind

theorem mem_values {entry : Entry Event Metadata} (keyed : queue.contents.Keyed)
    (member : entry ∈ queue.queued.values) :
    queue.queued.get? entry.record.id = some entry := by
  rcases List.mem_map.mp member with ⟨⟨id, same⟩, inside, rfl⟩
  have found := InsertionMap.get?_eq_some_iff.mpr inside
  have key := keyed.queued (contents_queued.mpr ⟨same, found, rfl⟩)
  rw [key]
  exact found

theorem waits_of_mem_values {entry : Entry Event Metadata} (keyed : queue.contents.Keyed)
    (member : entry ∈ queue.queued.values) :
    queue.contents.queued entry.record.id = some entry.record :=
  contents_queued.mpr ⟨entry, mem_values keyed member, rfl⟩

theorem exists_entry {id : String} {record : RetryRecord Event Metadata Millis}
    (waits : queue.contents.queued id = some record) :
    ∃ entry ∈ queue.queued.values, entry.record = record := by
  rcases contents_queued.mp waits with ⟨entry, found, same⟩
  exact ⟨entry, List.mem_map.mpr ⟨_, InsertionMap.get?_eq_some_iff.mp found, rfl⟩, same⟩

theorem mem_due {nowMs : Millis} {entry : Entry Event Metadata} :
    entry ∈ queue.due nowMs ↔ entry ∈ queue.queued.values ∧ entry.record.nextRetryAt ≤ nowMs := by
  rw [due, List.mem_filter, decide_eq_true_eq, not_lt]

theorem contents_delete (id : String) :
    { queue with queued := queue.queued.delete id }.contents = queue.contents.drop id := by
  apply Contents.ext
  · funext other
    rw [Contents.drop_queued, Function.update_apply, contents]
    dsimp only
    rw [InsertionMap.get?_delete]
    split <;> rfl
  · rfl

theorem contents_claim (record : RetryRecord Event Metadata Millis) (expiresAt : Millis) :
    { queue with
      queued := queue.queued.delete record.id
      inFlight := queue.inFlight.set record.id { record, expiresAt } }.contents =
      queue.contents.claim record expiresAt := by
  apply Contents.ext
  · funext id
    rw [Contents.claim_queued, Function.update_apply, contents]
    dsimp only
    rw [InsertionMap.get?_delete]
    split <;> rfl
  · funext id
    rw [Contents.claim_inFlight, Function.update_apply, contents]
    dsimp only
    rw [InsertionMap.get?_set]
    split <;> rfl

/-- A call of `dequeue` puts back what has run out, and then hands out the entry that is
due first, if any is due. -/
theorem dequeue_cases (visibilityTimeoutMs nowMs : Millis) :
    (queue.dequeue visibilityTimeoutMs nowMs = (none, queue.reclaimExpiredInFlight nowMs) ∧
      (queue.reclaimExpiredInFlight nowMs).due nowMs = []) ∨
    ∃ best ∈ (queue.reclaimExpiredInFlight nowMs).due nowMs,
      Earliest ((queue.reclaimExpiredInFlight nowMs).due nowMs) best ∧
      (queue.dequeue visibilityTimeoutMs nowMs).1 = some best.record ∧
      (queue.dequeue visibilityTimeoutMs nowMs).2.contents =
        (queue.reclaimExpiredInFlight nowMs).contents.claim best.record
          (nowMs + visibilityTimeoutMs) := by
  rw [dequeue]
  cases picked : pick earlier ((queue.reclaimExpiredInFlight nowMs).due nowMs) with
  | none => exact .inl ⟨rfl, pick_eq_none.mp picked⟩
  | some best =>
      rcases pick_spec compares_earlier picked with ⟨member, earliest⟩
      exact .inr ⟨best, member, earliest, rfl, contents_claim best.record _⟩

theorem evictNewest_cases :
    (queue.evictNewest = (none, queue) ∧ queue.queued.values = []) ∨
    ∃ newest ∈ queue.queued.values, Latest queue.queued.values newest ∧
      queue.evictNewest.1 = some newest.record ∧
      queue.evictNewest.2.contents = queue.contents.drop newest.record.id := by
  rw [evictNewest]
  cases picked : pick later queue.queued.values with
  | none => exact .inl ⟨rfl, pick_eq_none.mp picked⟩
  | some newest =>
      rcases pick_spec compares_later picked with ⟨member, latest⟩
      exact .inr ⟨newest, member, latest, rfl, contents_delete newest.record.id⟩

/-! ## Runs -/

def RunOut (before : Contents Event Metadata) (nowMs : Millis) (ids : List String) : Prop :=
  ∀ id record expiresAt, before.inFlight id = some (record, expiresAt) →
    (id ∈ ids ↔ expiresAt ≤ nowMs)

inductive Leaves (visibilityTimeoutMs : Millis) (before : Contents Event Metadata) :
    Call Event Metadata → Answer Event Metadata → Contents Event Metadata → Prop
  | rejected {record error} : Leaves visibilityTimeoutMs before (.enqueue record)
      (.rejected error) before
  | enqueued {record accepted} : assertRecord record = .ok accepted →
      Leaves visibilityTimeoutMs before (.enqueue record) .settled (before.put accepted)
  | nothingDue {nowMs ids} : RunOut before nowMs ids →
      Leaves visibilityTimeoutMs before (.dequeue nowMs) (.record none)
        (before.reclaim nowMs ids)
  | dequeued {nowMs ids record} : RunOut before nowMs ids →
      (before.reclaim nowMs ids).queued record.id = some record →
      Leaves visibilityTimeoutMs before (.dequeue nowMs) (.record (some record))
        ((before.reclaim nowMs ids).claim record (nowMs + visibilityTimeoutMs))
  | acked {recordId} : Leaves visibilityTimeoutMs before (.ack recordId) .settled
      (before.settle recordId)
  | nacked {recordId requeueDelayMs now} : Leaves visibilityTimeoutMs before
      (.nack recordId requeueDelayMs now) .settled
      (before.requeue recordId (now + requeueDelay requeueDelayMs))
  | nothingQueued : Leaves visibilityTimeoutMs before .evictNewest (.record none) before
  | evicted {record} : before.queued record.id = some record →
      Leaves visibilityTimeoutMs before .evictNewest (.record (some record))
        (before.drop record.id)
  | counted {now count} : Leaves visibilityTimeoutMs before (.size now) (.count count) before

theorem runOut_expiredIds (nowMs : Millis) :
    RunOut queue.contents nowMs (expiredIds nowMs queue.inFlight.entries) :=
  fun _ _ _ => mem_expiredIds

theorem step_enqueue (visibilityTimeoutMs : Millis)
    (record : RetryRecord Event Metadata (Option Millis)) :
    (∃ error, (machine visibilityTimeoutMs).step queue (.enqueue record) =
      (.rejected error, queue)) ∨
    ∃ accepted, assertRecord record = .ok accepted ∧
      (machine visibilityTimeoutMs).step queue (.enqueue record) =
        (.settled, queue.setQueued accepted) := by
  rw [machine]
  dsimp only
  rw [enqueue]
  cases assertRecord record with
  | error error => exact .inl ⟨error, rfl⟩
  | ok accepted => exact .inr ⟨accepted, rfl, rfl⟩

theorem leaves (visibilityTimeoutMs : Millis) (keyed : queue.contents.Keyed)
    (call : Call Event Metadata) :
    Leaves visibilityTimeoutMs queue.contents call
      ((machine visibilityTimeoutMs).step queue call).1
      ((machine visibilityTimeoutMs).step queue call).2.contents := by
  cases call with
  | enqueue record =>
      rcases step_enqueue visibilityTimeoutMs record with
        ⟨error, step⟩ | ⟨accepted, asserted, step⟩
      · rw [step]
        exact .rejected
      · rw [step, contents_setQueued]
        exact .enqueued asserted
  | dequeue nowMs =>
      have step : (machine visibilityTimeoutMs).step queue (.dequeue nowMs) =
          (.record (queue.dequeue visibilityTimeoutMs nowMs).1,
            (queue.dequeue visibilityTimeoutMs nowMs).2) := rfl
      have reclaimed := contents_reclaimExpiredInFlight keyed nowMs
      have reclaimedKeyed := keyed.reclaim nowMs (expiredIds nowMs queue.inFlight.entries)
      rw [step]
      dsimp only
      rcases queue.dequeue_cases visibilityTimeoutMs nowMs with
        ⟨taken, -⟩ | ⟨best, due, -, taken, left⟩
      · rw [taken, reclaimed]
        exact .nothingDue (runOut_expiredIds nowMs)
      · have waits := waits_of_mem_values (reclaimed ▸ reclaimedKeyed)
          (mem_due.mp due).1
        rw [taken, left, reclaimed]
        rw [reclaimed] at waits
        exact .dequeued (runOut_expiredIds nowMs) waits
  | ack recordId =>
      have step : (machine visibilityTimeoutMs).step queue (.ack recordId) =
          (.settled, queue.ack recordId) := rfl
      rw [step, contents_ack]
      exact .acked
  | nack recordId requeueDelayMs now =>
      have step : (machine visibilityTimeoutMs).step queue (.nack recordId requeueDelayMs now) =
          (.settled, queue.nack recordId requeueDelayMs now) := rfl
      rw [step, contents_nack]
      exact .nacked
  | evictNewest =>
      have step : (machine visibilityTimeoutMs).step queue .evictNewest =
          (.record queue.evictNewest.1, queue.evictNewest.2) := rfl
      rw [step]
      dsimp only
      rcases queue.evictNewest_cases with ⟨taken, -⟩ | ⟨newest, member, -, taken, left⟩
      · rw [taken]
        exact .nothingQueued
      · rw [taken, left]
        exact .evicted (waits_of_mem_values keyed member)
  | size now => exact .counted

namespace Leaves

variable {visibilityTimeoutMs : Millis} {before after : Contents Event Metadata}
  {call : Call Event Metadata} {answer : Answer Event Metadata}

theorem keyed (leaves : Leaves visibilityTimeoutMs before call answer after)
    (keyed : before.Keyed) : after.Keyed := by
  cases leaves with
  | rejected | nothingQueued | counted => exact keyed
  | enqueued => exact keyed.put _
  | nothingDue => exact keyed.reclaim _ _
  | dequeued => exact (keyed.reclaim _ _).claim _ _
  | acked => exact keyed.settle _
  | nacked => exact keyed.requeue _ _
  | evicted => exact keyed.drop _

def Absent (contents : Contents Event Metadata) (id : String) : Prop :=
  contents.queued id = none ∧ contents.inFlight id = none

def Spares (id : String) : Call Event Metadata → Prop
  | .enqueue record => record.id ≠ id
  | _ => True

def Without (id : String) (answer : Answer Event Metadata) : Prop :=
  ∀ record, answer = .record (some record) → record.id ≠ id

theorem absent_reclaim {contents : Contents Event Metadata} {id : String}
    (absent : Absent contents id) (nowMs : Millis) (ids : List String) :
    Absent (contents.reclaim nowMs ids) id := by
  rw [Absent, Contents.reclaim_queued, Contents.reclaim_inFlight, absent.1, absent.2, ite_self]
  exact ⟨ite_self none, rfl⟩

theorem Absent.put {contents : Contents Event Metadata} {id : String}
    (absent : Absent contents id) {record : RetryRecord Event Metadata Millis}
    (other : record.id ≠ id) : Absent (contents.put record) id := by
  rw [Absent, Contents.put_queued, Contents.put_inFlight, Function.update_of_ne other.symm]
  exact absent

theorem Absent.settle {contents : Contents Event Metadata} {id : String}
    (absent : Absent contents id) (recordId : String) : Absent (contents.settle recordId) id := by
  rw [Absent, Contents.settle_queued, Contents.settle_inFlight, Function.update_apply, absent.2,
    ite_self]
  exact ⟨absent.1, rfl⟩

theorem absent (leaves : Leaves visibilityTimeoutMs before call answer after)
    (keyed : before.Keyed) {id : String} (absent : Absent before id) (spares : Spares id call) :
    Absent after id ∧ Without id answer := by
  have silent : ∀ {answer : Answer Event Metadata},
      (∀ record, answer ≠ .record (some record)) → Without id answer :=
    fun never record handed => absurd handed (never record)
  cases leaves with
  | rejected | nothingQueued | counted => exact ⟨absent, silent fun _ handed => by cases handed⟩
  | nothingDue => exact ⟨absent_reclaim absent _ _, silent fun _ handed => by cases handed⟩
  | enqueued asserted =>
      have other := assertRecord_id asserted
      exact ⟨absent.put fun same => spares (other.symm.trans same),
        silent fun _ handed => by cases handed⟩
  | @dequeued nowMs ids record _ waits =>
      have reclaimed := absent_reclaim absent nowMs ids
      have other : record.id ≠ id := by
        intro same
        rw [same, reclaimed.1] at waits
        cases waits
      refine ⟨⟨?_, ?_⟩, ?_⟩
      · rw [Contents.claim_queued, Function.update_of_ne other.symm, reclaimed.1]
      · rw [Contents.claim_inFlight, Function.update_of_ne other.symm, reclaimed.2]
      · intro handed isHanded
        cases isHanded
        exact other
  | acked => exact ⟨absent.settle _, silent fun _ handed => by cases handed⟩
  | @nacked recordId requeueDelayMs now =>
      refine ⟨?_, silent fun _ handed => by cases handed⟩
      cases out : before.inFlight recordId with
      | none =>
          rw [Contents.requeue_of_none out]
          exact absent
      | some taken =>
          have key : taken.1.id = recordId := keyed.inFlight out
          rw [Contents.requeue_of_some out]
          refine (absent.settle recordId).put ?_
          intro same
          rw [← key, same, absent.2] at out
          cases out
  | @evicted record waits =>
      have other : record.id ≠ id := by
        intro same
        rw [same, absent.1] at waits
        cases waits
      refine ⟨⟨?_, absent.2⟩, ?_⟩
      · rw [Contents.drop_queued, Function.update_of_ne other.symm, absent.1]
      · intro handed isHanded
        cases isHanded
        exact other

end Leaves

theorem absent_ack {id : String} (unqueued : queue.queued.get? id = none) :
    Leaves.Absent (queue.ack id).contents id := by
  rw [Leaves.Absent, contents_ack, Contents.settle_queued, Contents.settle_inFlight,
    Function.update_self]
  exact ⟨Option.map_eq_none_iff.mpr unqueued, rfl⟩

theorem keyed_after (visibilityTimeoutMs : Millis) (calls : List (Call Event Metadata))
    (keyed : queue.contents.Keyed) :
    ((machine visibilityTimeoutMs).after queue calls).contents.Keyed :=
  Machine.invariant (motive := fun queue : MemoryRetryQueue Event Metadata =>
    queue.contents.Keyed) (fun call keyed => (leaves visibilityTimeoutMs keyed call).keyed keyed)
    keyed calls

theorem never_handed_out (visibilityTimeoutMs : Millis) {id : String}
    {calls : List (Call Event Metadata)} (keyed : queue.contents.Keyed)
    (absent : Leaves.Absent queue.contents id) (spares : ∀ call ∈ calls, Leaves.Spares id call) :
    ∀ answer ∈ (machine visibilityTimeoutMs).answers queue calls, Leaves.Without id answer :=
  Machine.answers_of_kept (motive := fun queue : MemoryRetryQueue Event Metadata =>
      queue.contents.Keyed ∧ Leaves.Absent queue.contents id)
    (fun kept spares =>
      have step := leaves visibilityTimeoutMs kept.1 _
      have next := step.absent kept.1 kept.2 spares
      ⟨⟨step.keyed kept.1, next.1⟩, next.2⟩)
    ⟨keyed, absent⟩ spares

/-! ## What is held -/

namespace Leaves

variable {visibilityTimeoutMs : Millis} {before after contents : Contents Event Metadata}
  {call : Call Event Metadata} {answer : Answer Event Metadata} {id : String}

theorem absent_of_put {record : RetryRecord Event Metadata Millis}
    (absent : Absent (contents.put record) id) : record.id ≠ id ∧ Absent contents id := by
  by_cases same : id = record.id
  · simp [Absent, same] at absent
  · simpa [Absent, same, Ne.symm same] using absent

theorem absent_of_reclaim {nowMs : Millis} {ids : List String}
    (absent : Absent (contents.reclaim nowMs ids) id) : Absent contents id := by
  rw [Absent, Contents.reclaim_queued, Contents.reclaim_inFlight] at absent
  by_cases ranOut : id ∈ ids
  · simpa [Absent, ranOut, and_comm] using absent
  · simpa [Absent, ranOut] using absent

def Keeps (id : String) (call : Call Event Metadata) (answer : Answer Event Metadata) : Prop :=
  call ≠ .ack id ∧ (call = .evictNewest → Without id answer)

theorem held (leaves : Leaves visibilityTimeoutMs before call answer after)
    (keyed : before.Keyed) (keeps : Keeps id call answer) (absent : Absent after id) :
    Absent before id := by
  cases leaves with
  | rejected | nothingQueued | counted => exact absent
  | enqueued => exact (absent_of_put absent).2
  | nothingDue => exact absent_of_reclaim absent
  | @dequeued nowMs ids record =>
      by_cases same : id = record.id
      · simp [Absent, same] at absent
      · exact absent_of_reclaim (by simpa [Absent, same] using absent)
  | @acked recordId =>
      have other : id ≠ recordId := fun same => keeps.1 (congrArg _ same.symm)
      simpa [Absent, other] using absent
  | @nacked recordId requeueDelayMs now =>
      cases out : before.inFlight recordId with
      | none =>
          rwa [Contents.requeue_of_none out] at absent
      | some taken =>
          rw [Contents.requeue_of_some out] at absent
          have key : taken.1.id = recordId := keyed.inFlight out
          have put := absent_of_put absent
          have other : id ≠ recordId := fun same => put.1 (key.trans same.symm)
          simpa [Absent, other] using put.2
  | @evicted record =>
      have other : id ≠ record.id := fun same => keeps.2 rfl record rfl same.symm
      simpa [Absent, other] using absent

end Leaves

/-- In every run what is held under an id stays held until it is acknowledged or evicted. -/
theorem held_until_settled (visibilityTimeoutMs : Millis) {id : String}
    {calls : List (Call Event Metadata)} (keyed : queue.contents.Keyed)
    (held : ¬Leaves.Absent queue.contents id)
    (keeps : (machine visibilityTimeoutMs).Meets (fun queue call => Leaves.Keeps id call
      ((machine visibilityTimeoutMs).step queue call).1) queue calls) :
    ¬Leaves.Absent ((machine visibilityTimeoutMs).after queue calls).contents id :=
  (Machine.invariant_of_meets (motive := fun queue : MemoryRetryQueue Event Metadata =>
      queue.contents.Keyed ∧ ¬Leaves.Absent queue.contents id)
    (fun kept keeps =>
      have step := leaves visibilityTimeoutMs kept.1 _
      ⟨step.keyed kept.1, fun absent => kept.2 (step.held kept.1 keeps absent)⟩)
    ⟨keyed, held⟩ keeps).2

/-- A record that runs out while another one is out, is handed out again and put back before the
other one is acknowledged. -/
theorem held_while_handed_out :
    let record : RetryRecord Unit Unit Millis := ⟨"id", (), "url", 1, 5, none, none, none⟩
    let other := { record with id := "other" }
    ¬Leaves.Absent ((machine 1000).after ((empty.setQueued record).setQueued other)
      [.dequeue 10, .dequeue 500, .dequeue 1200, .nack "id" (some 50) 1300,
        .ack "other"]).contents "id" := by
  intro record other
  let first := empty.setQueued record
  have waits := @contents_setQueued _ _ empty record
  have otherWaits := @contents_setQueued _ _ first other
  have keyed : first.contents.Keyed := waits ▸ contents_empty.put record
  refine held_until_settled 1000 (otherWaits ▸ keyed.put other) ?_
    ⟨⟨nofun, nofun⟩, ⟨nofun, nofun⟩, ⟨nofun, nofun⟩, ⟨nofun, nofun⟩, ⟨?_, nofun⟩, trivial⟩
  · intro absent
    exact (Leaves.absent_of_put (waits ▸ (Leaves.absent_of_put (otherWaits ▸ absent)).2)).1 rfl
  · intro same
    exact absurd (Call.ack.inj same) (by decide)

end MemoryRetryQueue

end Orbital.PulseWebhooks
