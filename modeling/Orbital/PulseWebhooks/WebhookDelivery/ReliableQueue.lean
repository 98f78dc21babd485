import Orbital.PulseWebhooks.MemoryRetryQueue
import Orbital.PulseWebhooks.WebhookDelivery.Delivery

/-! # What a delivery relies on in its retry queue

A record that is enqueued waits until it is handed out or evicted, and while nothing that
was handed out has run out nothing else comes in. `MemoryRetryQueue` is such a queue.
-/

namespace Orbital.PulseWebhooks

open Foundation

variable {Event Queue : Type}

def handed : Answer (Dispatched Event) Unit → List (Record Event)
  | .record (some record) => [record]
  | _ => []

structure ReliableQueue (Event Queue : Type) where
  machine : QueueMachine Event Queue
  queued : Queue → List (Record Event)
  inTime : Queue → Millis → Bool
  Valid : Queue → Prop
  valid : ∀ {queue} call, Valid queue → Valid (machine.step queue call).2
  enqueue : ∀ {queue record accepted}, Valid queue → assertRecord record = .ok accepted →
    accepted.id ∉ (queued queue).map RetryRecord.id →
    (machine.step queue (.enqueue record)).1 = .settled ∧
      (queued (machine.step queue (.enqueue record)).2).Perm (accepted :: queued queue)
  dequeue : ∀ {queue nowMs}, Valid queue → inTime queue nowMs = true →
    (∃ record, (machine.step queue (.dequeue nowMs)).1 = .record record) ∧
    (queued queue).Perm (handed (machine.step queue (.dequeue nowMs)).1 ++
      queued (machine.step queue (.dequeue nowMs)).2)
  evictNewest : ∀ {queue}, Valid queue →
    (∃ record, (machine.step queue .evictNewest).1 = .record record) ∧
    (queued queue).Perm (handed (machine.step queue .evictNewest).1 ++
      queued (machine.step queue .evictNewest).2)
  ack : ∀ {queue} recordId, Valid queue →
    (machine.step queue (.ack recordId)).1 = .settled ∧
      queued (machine.step queue (.ack recordId)).2 = queued queue
  size : ∀ {queue} now, Valid queue →
    (∃ count, (machine.step queue (.size now)).1 = .count count) ∧
      queued (machine.step queue (.size now)).2 = queued queue

namespace MemoryRetryQueue

variable {queue : MemoryRetryQueue (Dispatched Event) Unit}

def queuedRecords (queue : MemoryRetryQueue (Dispatched Event) Unit) : List (Record Event) :=
  queue.queued.values.map fun entry => entry.record

def inTime (queue : MemoryRetryQueue (Dispatched Event) Unit) (nowMs : Millis) : Bool :=
  queue.inFlight.values.all fun out => nowMs < out.expiresAt

theorem queuedRecords_setQueued {record : Record Event} (keyed : queue.contents.Keyed)
    (fresh : record.id ∉ queue.queuedRecords.map RetryRecord.id) :
    (queue.setQueued record).queuedRecords = queue.queuedRecords ++ [record] := by
  have absent : queue.queued.get? record.id = none := by
    cases found : queue.queued.get? record.id with
    | none => rfl
    | some entry =>
        have waits := contents_queued.mpr ⟨entry, found, rfl⟩
        have member : entry ∈ queue.queued.values := InsertionMap.mem_values_iff.mpr ⟨_, found⟩
        refine absurd ?_ fresh
        rw [← keyed.queued waits]
        exact List.mem_map_of_mem (List.mem_map.mpr ⟨entry, member, rfl⟩)
  rw [queuedRecords, setQueued]
  dsimp only
  rw [InsertionMap.values_set_of_absent absent, List.map_append]
  rfl

theorem perm_queuedRecords (keyed : queue.contents.Keyed)
    {entry : Entry (Dispatched Event) Unit} (member : entry ∈ queue.queued.values) :
    queue.queuedRecords.Perm
      (entry.record :: (queue.queued.delete entry.record.id).values.map
        fun entry => entry.record) := by
  have taken := InsertionMap.perm_delete (mem_values keyed member)
  have values := (taken.map Prod.snd).map fun entry : Entry (Dispatched Event) Unit => entry.record
  exact values

theorem dequeue_inTime (keyed : queue.contents.Keyed) {visibilityTimeoutMs nowMs : Millis}
    (inTime : queue.inTime nowMs = true) :
    queue.queuedRecords.Perm
      (handed (.record (queue.dequeue visibilityTimeoutMs nowMs).1) ++
        (queue.dequeue visibilityTimeoutMs nowMs).2.queuedRecords) := by
  have each : ∀ out ∈ queue.inFlight.values, nowMs < out.expiresAt := by
    intro out member
    exact of_decide_eq_true (List.all_eq_true.mp inTime out member)
  rw [dequeue, reclaim_inTime each]
  cases picked : pick earlier (queue.due nowMs) with
  | none => exact List.Perm.refl _
  | some best =>
      rcases pick_spec compares_earlier picked with ⟨member, -⟩
      exact perm_queuedRecords keyed (mem_due.mp member).1

theorem perm_evictNewest (keyed : queue.contents.Keyed) :
    queue.queuedRecords.Perm
      (handed (.record queue.evictNewest.1) ++ queue.evictNewest.2.queuedRecords) := by
  rw [evictNewest]
  cases picked : pick later queue.queued.values with
  | none => exact List.Perm.refl _
  | some newest =>
      rcases pick_spec compares_later picked with ⟨member, -⟩
      exact perm_queuedRecords keyed member

/-- `MemoryRetryQueue` as the queue of a delivery. -/
def reliable (visibilityTimeoutMs : Millis) :
    ReliableQueue Event (MemoryRetryQueue (Dispatched Event) Unit) where
  machine := machine visibilityTimeoutMs
  queued := queuedRecords
  inTime := inTime
  Valid := fun queue => queue.contents.Keyed
  valid := fun call keyed => (leaves visibilityTimeoutMs keyed call).keyed keyed
  enqueue := by
    intro queue record accepted keyed asserted fresh
    have step : (machine visibilityTimeoutMs).step queue (.enqueue record) =
        (.settled, queue.setQueued accepted) := by
      rw [machine]
      dsimp only
      rw [MemoryRetryQueue.enqueue, asserted]
      rfl
    rw [step]
    dsimp only
    rw [queuedRecords_setQueued keyed fresh]
    exact ⟨rfl, List.perm_append_singleton _ _⟩
  dequeue := fun keyed inTime => ⟨⟨_, rfl⟩, dequeue_inTime keyed inTime⟩
  evictNewest := fun keyed => ⟨⟨_, rfl⟩, perm_evictNewest keyed⟩
  ack := fun recordId keyed => ⟨rfl, rfl⟩
  size := fun now keyed => ⟨⟨_, rfl⟩, rfl⟩

end MemoryRetryQueue

namespace WebhookDelivery

/-! ## A delivery with a `MemoryRetryQueue` -/

def overMemory : ReliableQueue Unit (MemoryRetryQueue (Dispatched Unit) Unit) :=
  MemoryRetryQueue.reliable 30000

def threeAttempts : WebhookConfig Unit (MemoryRetryQueue (Dispatched Unit) Unit) :=
  WebhookConfig.withDefaults ["hook"] 3 (some overMemory.machine)

def fails (now : Nat) (delayMs : Millis) : List (DeliveryEvent Unit) :=
  [.resume 0 (.resolved (some ["203.0.113.1"])), .resume 0 (.responded (some "HTTP 500")),
    .resume 0 (.proceed now (some delayMs))]

def failsAndPersists (now : Nat) (delayMs : Millis) : List (DeliveryEvent Unit) :=
  fails now delayMs ++
    [.resume 0 (.proceed now (some delayMs)), .resume 0 (.proceed now none),
      .resume 0 (.proceed now none)]

def drainedToTheEnd : List (DeliveryEvent Unit) :=
  .emitted 0 () :: failsAndPersists 0 1000 ++
    [.drainTimerFired 0 1000, .resume 0 (.proceed 1000 none)] ++ failsAndPersists 1000 2000 ++
    [.resume 0 (.proceed 1000 none), .drainTimerFired 1 3000, .resume 0 (.proceed 3000 none)] ++
    fails 3000 4000

end WebhookDelivery

end Orbital.PulseWebhooks
