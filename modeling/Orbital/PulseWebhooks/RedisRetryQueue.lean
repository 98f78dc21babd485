import Orbital.Foundation.InsertionMap
import Orbital.Foundation.SortedSet
import Orbital.PulseWebhooks.RetryQueue

/-! # `RedisRetryQueue`

Two sorted sets of records written as JSON, each with a hash from the id of a record to
its member. Every change of the four keys is one script, which runs to its end before
anything else does.
-/

namespace Orbital.PulseWebhooks

open Foundation

variable {Event Metadata Member : Type} [LinearOrder Member]

/-- `JSON.stringify` and `JSON.parse` of a record. A record reads back as it was written. -/
structure RecordCodec (Event Metadata Member : Type) where
  stringify : RetryRecord Event Metadata Millis → Member
  parse : Member → Option (RetryRecord Event Metadata Millis)
  parse_stringify : ∀ record, parse (stringify record) = some record

structure RedisRetryQueue (Member : Type) [LinearOrder Member] where
  queue : SortedSet Member Millis
  index : InsertionMap String Member
  inFlight : SortedSet Member Millis
  inFlightIndex : InsertionMap String Member

namespace RedisRetryQueue

variable (codec : RecordCodec Event Metadata Member) (keys : RedisRetryQueue Member)

def empty : RedisRetryQueue Member where
  queue := .empty
  index := .empty
  inFlight := .empty
  inFlightIndex := .empty

def scanBatchSize : Nat := 10

/-! ## The scripts -/

def replaceQueued (id : String) (score : Millis) (member : Member) : RedisRetryQueue Member :=
  let queue :=
    match keys.index.get? id with
    | none => keys.queue
    | some previous => keys.queue.remove previous
  { keys with queue := queue.add member score, index := keys.index.set id member }

def enqueueScript (id : String) (score : Millis) (member : Member) : Nat × RedisRetryQueue Member :=
  (1, keys.replaceQueued id score member)

def claimScript (member : Member) (id : String) (expiresAt : Millis) :
    Nat × RedisRetryQueue Member :=
  if member ∉ keys.queue.members then (0, keys)
  else
    (1, {
      queue := keys.queue.remove member
      index := if keys.index.get? id = some member then keys.index.delete id else keys.index
      inFlight := keys.inFlight.add member expiresAt
      inFlightIndex := keys.inFlightIndex.set id member })

def ackScript (id : String) : Nat × RedisRetryQueue Member :=
  match keys.inFlightIndex.get? id with
  | none => (0, keys)
  | some member =>
      (1, { keys with
        inFlight := keys.inFlight.remove member
        inFlightIndex := keys.inFlightIndex.delete id })

def requeueScript (id : String) (score : Millis) (newMember expectedMember : Member) :
    Nat × RedisRetryQueue Member :=
  match keys.inFlightIndex.get? id with
  | none => (0, keys)
  | some member =>
      if member ≠ expectedMember then (0, keys)
      else if member ∉ keys.inFlight.members then
        (0, { keys with inFlightIndex := keys.inFlightIndex.delete id })
      else
        let keys := { keys with
          inFlight := keys.inFlight.remove member
          inFlightIndex := keys.inFlightIndex.delete id }
        (1, keys.replaceQueued id score newMember)

def reclaimScript (member : Member) (id : String) (score : Millis) (newMember : Member) :
    Nat × RedisRetryQueue Member :=
  if member ∉ keys.inFlight.members then (0, keys)
  else
    let keys := { keys with
      inFlight := keys.inFlight.remove member
      inFlightIndex :=
        if keys.inFlightIndex.get? id = some member then keys.inFlightIndex.delete id
        else keys.inFlightIndex }
    (1, keys.replaceQueued id score newMember)

def evictScript (member : Member) (id : String) : Nat × RedisRetryQueue Member :=
  if member ∉ keys.queue.members then (0, keys)
  else
    (1, { keys with
      queue := keys.queue.remove member
      index := if keys.index.get? id = some member then keys.index.delete id else keys.index })

/-! ## The queue -/

def enqueue (record : RetryRecord Event Metadata (Option Millis)) :
    Except String (RedisRetryQueue Member) := do
  let record ← assertRecord record
  return (keys.enqueueScript record.id record.nextRetryAt (codec.stringify record)).2

def reclaimBatch (nowMs : Millis) : List Member → Bool → RedisRetryQueue Member →
    Bool × RedisRetryQueue Member
  | [], progressed, keys => (progressed, keys)
  | member :: rest, progressed, keys =>
      match codec.parse member with
      | none =>
          reclaimBatch nowMs rest true { keys with inFlight := keys.inFlight.remove member }
      | some record =>
          let reclaimed := keys.reclaimScript member record.id nowMs
            (codec.stringify { record with nextRetryAt := nowMs })
          reclaimBatch nowMs rest (progressed || reclaimed.1 == 1) reclaimed.2

/-- The loop runs until nothing has expired or a batch puts nothing back. Every other
round takes a member out of the in-flight set, which bounds the rounds. -/
def reclaimLoop (nowMs : Millis) : Nat → RedisRetryQueue Member → RedisRetryQueue Member
  | 0, keys => keys
  | rounds + 1, keys =>
      match keys.inFlight.rangeByScore nowMs scanBatchSize with
      | [] => keys
      | member :: rest =>
          let batch := reclaimBatch codec nowMs (member :: rest) false keys
          if batch.1 then reclaimLoop nowMs rounds batch.2 else batch.2

def reclaimExpiredInFlight (nowMs : Millis) : RedisRetryQueue Member :=
  reclaimLoop codec nowMs (keys.inFlight.card + 1) keys

/-- The loop of `dequeue` over the members it has read. -/
def claimFirst (expiresAt : Millis) : List Member → RedisRetryQueue Member →
    Option (RetryRecord Event Metadata Millis) × RedisRetryQueue Member
  | [], keys => (none, keys)
  | member :: rest, keys =>
      match codec.parse member with
      | none => claimFirst expiresAt rest { keys with queue := keys.queue.remove member }
      | some record =>
          let claimed := keys.claimScript member record.id expiresAt
          if claimed.1 = 0 then claimFirst expiresAt rest claimed.2
          else (some record, claimed.2)

def dequeue (visibilityTimeoutMs nowMs : Millis) :
    Option (RetryRecord Event Metadata Millis) × RedisRetryQueue Member :=
  let keys := keys.reclaimExpiredInFlight codec nowMs
  claimFirst codec (nowMs + visibilityTimeoutMs) (keys.queue.rangeByScore nowMs scanBatchSize) keys

def ack (recordId : String) : RedisRetryQueue Member :=
  (keys.ackScript recordId).2

def nack (recordId : String) (requeueDelayMs : Option Millis) (now : Millis) :
    RedisRetryQueue Member :=
  match keys.inFlightIndex.get? recordId with
  | none => keys
  | some member =>
      match codec.parse member with
      | none => (keys.ackScript recordId).2
      | some record =>
          let nextRetryAt := now + requeueDelay requeueDelayMs
          (keys.requeueScript recordId nextRetryAt (codec.stringify { record with nextRetryAt })
            member).2

def evictNewest : Option (RetryRecord Event Metadata Millis) × RedisRetryQueue Member :=
  match keys.queue.last with
  | none => (none, keys)
  | some member =>
      let record := codec.parse member
      let evicted := keys.evictScript member ((record.map fun record => record.id).getD "")
      if evicted.1 = 0 then (none, evicted.2) else (record, evicted.2)

def size : Nat :=
  keys.queue.card

def machine (visibilityTimeoutMs : Millis) :
    Machine (RedisRetryQueue Member) (Call Event Metadata) (Answer Event Metadata) where
  step := fun keys call =>
    match call with
    | .enqueue record =>
        match keys.enqueue codec record with
        | .error error => (.rejected error, keys)
        | .ok keys => (.settled, keys)
    | .dequeue nowMs =>
        let taken := keys.dequeue codec visibilityTimeoutMs nowMs
        (.record taken.1, taken.2)
    | .ack recordId => (.settled, keys.ack recordId)
    | .nack recordId requeueDelayMs now => (.settled, keys.nack codec recordId requeueDelayMs now)
    | .evictNewest =>
        let evicted := keys.evictNewest codec
        (.record evicted.1, evicted.2)
    | .size _ => (.count keys.size, keys)

end RedisRetryQueue

end Orbital.PulseWebhooks
