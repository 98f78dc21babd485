import Orbital.Foundation.InsertionMap
import Orbital.Foundation.Selection
import Orbital.PulseWebhooks.RetryQueue

/-! # `PostgresRetryQueue`

One row for each id. A row that is locked until some time is out; what an expired lock
means is asked again by every statement.
-/

namespace Orbital.PulseWebhooks

open Foundation

variable {Event Metadata : Type}

/-- The furthest a `Date` is from the epoch. -/
def maxDate : Nat := 8640000000000000

/-- `new Date(ms).toISOString()`: whole milliseconds, cut off towards zero. -/
def toTimestamp (ms : Millis) : Except String Int :=
  let time := ms.num.tdiv ms.den
  if time.natAbs ≤ maxDate then .ok time else .error "Invalid time value"

structure RetryQueueRow (Event Metadata : Type) where
  id : String
  event : Event
  url : String
  attempt : Nat
  nextRetryAt : Int
  lockedUntil : Option Int
  lastError : Option String
  createdAt : Option Int
  metadata : Option Metadata

def mapRow (row : RetryQueueRow Event Metadata) : RetryRecord Event Metadata Millis where
  id := row.id
  event := row.event
  url := row.url
  attempt := row.attempt
  nextRetryAt := row.nextRetryAt
  lastError := row.lastError
  createdAt := row.createdAt.map fun time : Int => (time : Millis)
  metadata := row.metadata

/-- The order in which rows are looked at is up to the database. -/
structure Planner (Event Metadata : Type) where
  scan : List (RetryQueueRow Event Metadata) → List (RetryQueueRow Event Metadata)
  perm : ∀ rows, (scan rows).Perm rows

structure PostgresRetryQueue (Event Metadata : Type) where
  rows : InsertionMap String (RetryQueueRow Event Metadata)

namespace PostgresRetryQueue

variable (planner : Planner Event Metadata) (table : PostgresRetryQueue Event Metadata)

def empty : PostgresRetryQueue Event Metadata where
  rows := .empty

/-- `record.createdAt !== undefined ? toTimestamp(record.createdAt) : null` -/
def createdTimestamp (createdAt : Option Millis) : Except String (Option Int) :=
  match createdAt with
  | none => .ok none
  | some createdAt => (toTimestamp createdAt).map some

/-- The columns of the statement; `attempt` is a 32-bit integer. -/
def rowOf (record : RetryRecord Event Metadata Millis) :
    Except String (RetryQueueRow Event Metadata) := do
  let nextRetryAt ← toTimestamp record.nextRetryAt
  let createdAt ← createdTimestamp record.createdAt
  if record.attempt ≤ 2147483647 then
    .ok {
      id := record.id
      event := record.event
      url := record.url
      attempt := record.attempt
      nextRetryAt
      lockedUntil := none
      lastError := record.lastError
      createdAt
      metadata := record.metadata }
  else .error "integer out of range"

/-- `INSERT ... ON CONFLICT (id) DO UPDATE`: the row that is there keeps the column the
update leaves out. -/
def upsert (row : RetryQueueRow Event Metadata) : PostgresRetryQueue Event Metadata :=
  match table.rows.get? row.id with
  | none => { rows := table.rows.set row.id row }
  | some old => { rows := table.rows.set row.id { row with createdAt := old.createdAt } }

def enqueue (record : RetryRecord Event Metadata (Option Millis)) :
    Except String (PostgresRetryQueue Event Metadata) := do
  return table.upsert (← rowOf (← assertRecord record))

/-- `ORDER BY next_retry_at ASC` -/
def sooner (row best : RetryQueueRow Event Metadata) : Bool :=
  row.nextRetryAt < best.nextRetryAt

/-- `ORDER BY next_retry_at DESC` -/
def furtherOff (row newest : RetryQueueRow Event Metadata) : Bool :=
  row.nextRetryAt > newest.nextRetryAt

/-- `locked_until IS NULL OR locked_until <= $1` -/
def ready (now : Int) (row : RetryQueueRow Event Metadata) : Bool :=
  row.lockedUntil.all fun lockedUntil => lockedUntil ≤ now

def dequeue (visibilityTimeoutMs nowMs : Millis) :
    Except String
      (Option (RetryRecord Event Metadata Millis) × PostgresRetryQueue Event Metadata) := do
  let now ← toTimestamp nowMs
  let lockedUntil ← toTimestamp (nowMs + visibilityTimeoutMs)
  let rows := (planner.scan table.rows.values).filter fun row =>
    row.nextRetryAt ≤ now && ready now row
  match pick sooner rows with
  | none => return (none, table)
  | some row =>
      return (some (mapRow row),
        { rows := table.rows.set row.id { row with lockedUntil := some lockedUntil } })

/-- `DELETE ... WHERE id = $1` -/
def ack (recordId : String) : PostgresRetryQueue Event Metadata :=
  { rows := table.rows.delete recordId }

def nack (recordId : String) (requeueDelayMs : Option Millis) (now : Millis) :
    Except String (PostgresRetryQueue Event Metadata) := do
  let nextRetryAt ← toTimestamp (now + requeueDelay requeueDelayMs)
  match table.rows.get? recordId with
  | none => return table
  | some row =>
      return { rows := table.rows.set recordId { row with nextRetryAt, lockedUntil := none } }

def evictNewest : Option (RetryRecord Event Metadata Millis) × PostgresRetryQueue Event Metadata :=
  let rows := (planner.scan table.rows.values).filter fun row => row.lockedUntil.isNone
  match pick furtherOff rows with
  | none => (none, table)
  | some row => (some (mapRow row), { rows := table.rows.delete row.id })

def size (now : Millis) : Except String Nat := do
  let now ← toTimestamp now
  return (table.rows.values.filter (ready now)).length

/-- The queue as the interface shows it. A statement that fails changes nothing. -/
def machine (visibilityTimeoutMs : Millis) :
    Machine (PostgresRetryQueue Event Metadata) (Call Event Metadata)
      (Answer Event Metadata) where
  step := fun table call =>
    match call with
    | .enqueue record =>
        match table.enqueue record with
        | .error error => (.rejected error, table)
        | .ok table => (.settled, table)
    | .dequeue nowMs =>
        match table.dequeue planner visibilityTimeoutMs nowMs with
        | .error error => (.rejected error, table)
        | .ok (record, table) => (.record record, table)
    | .ack recordId => (.settled, table.ack recordId)
    | .nack recordId requeueDelayMs now =>
        match table.nack recordId requeueDelayMs now with
        | .error error => (.rejected error, table)
        | .ok table => (.settled, table)
    | .evictNewest =>
        let evicted := table.evictNewest planner
        (.record evicted.1, evicted.2)
    | .size now =>
        match table.size now with
        | .error error => (.rejected error, table)
        | .ok count => (.count count, table)

end PostgresRetryQueue

end Orbital.PulseWebhooks
