import Mathlib.Algebra.Order.Field.Rat
import Orbital.Foundation.InsertionMap
import Orbital.Foundation.MessageService
import Orbital.PulseWebhooks.RetryQueue

/-! # `SqsRetryQueue`

One message for each record that was sent, and two maps of what this adapter has received
and not settled yet. Every request can fail, with or without having had its effect.
-/

namespace Orbital.PulseWebhooks

open Foundation

variable {Event Metadata : Type}

structure SqsRetryQueueOptions where
  queueUrl : String
  visibilityTimeoutMs : Option Millis
  maxReceiveCount : Option Millis

namespace SqsRetryQueueOptions

variable (options : SqsRetryQueueOptions)

def defaultMaxReceiveCount : Millis := 1

/-- The furthest a message is delayed. -/
def sqsMaxDelaySeconds : Int := 900

def sqsMaxVisibilityTimeoutS : Int := 43200

def visibilityTimeoutS : Int :=
  min sqsMaxVisibilityTimeoutS
    (max 1 ⌈options.visibilityTimeoutMs.getD defaultVisibilityTimeoutMs / 1000⌉)

def receiveCount : Nat :=
  (min 10 (max 1 ⌊options.maxReceiveCount.getD defaultMaxReceiveCount⌋)).toNat

/-- `queueUrl.endsWith(".fifo")` -/
def isFifo : Bool :=
  ".fifo".toList.isSuffixOf options.queueUrl.toList

end SqsRetryQueueOptions

/-- A request to the service has its effect or not, and is answered or fails. -/
structure Outcome where
  effective : Bool
  answered : Bool

/-- What happens around one call: the clock and the requests by the round of the loop they
are made in. A message whose sending was acknowledged is kept. -/
structure Weather where
  clock : Nat → Millis
  received : Outcome
  send : Nat → Outcome
  delete : Nat → Outcome
  error : String
  durable : ∀ round, (send round).answered = true → (send round).effective = true

def deduplicationMs : Millis := 300000

/-- The service keeps what `parseRecord` makes of a body: a record reads back as it was
written, and `none` is what is not a record. -/
structure SqsRetryQueue (Event Metadata : Type) where
  inFlight : InsertionMap String ReceiptHandle
  inFlightRecords : InsertionMap String (RetryRecord Event Metadata Millis)
  service : MessageService (Option (RetryRecord Event Metadata Millis)) String Millis

namespace SqsRetryQueue

abbrev Result (Event Metadata Value : Type) :=
  Except String Value × SqsRetryQueue Event Metadata

variable (options : SqsRetryQueueOptions) (queue : SqsRetryQueue Event Metadata)
  (weather : Weather)

def empty : SqsRetryQueue Event Metadata where
  inFlight := .empty
  inFlightRecords := .empty
  service := .empty

/-! ## Requests -/

def delaySeconds (nextRetryAt now : Millis) : Int :=
  min SqsRetryQueueOptions.sqsMaxDelaySeconds (max 0 ⌈(nextRetryAt - now) / 1000⌉)

/-- The time from which a message sent now can be seen. A FIFO queue has no delay. -/
def visibleAt (record : RetryRecord Event Metadata Millis) (now : Millis) : Millis :=
  if options.isFifo then now else now + 1000 * delaySeconds record.nextRetryAt now

/-- The `MessageDeduplicationId` of a FIFO queue, and when it is free again. -/
def deduplicationKey (id : String) (now : Millis) : Option (String × Millis) :=
  if options.isFifo then some (id, now + deduplicationMs) else none

def request (outcome : Outcome) (done : SqsRetryQueue Event Metadata) :
    Result Event Metadata Unit :=
  (if outcome.answered then .ok () else .error weather.error,
    if outcome.effective then done else queue)

/-- `this.client.sendMessage(input)` -/
def sendMessage (record : RetryRecord Event Metadata Millis) (round : Nat) :
    Result Event Metadata Unit :=
  let now := weather.clock round
  queue.request weather (weather.send round)
    { queue with
      service := queue.service.send (some record) (deduplicationKey options record.id now) now
        (visibleAt options record now) }

/-- `this.client.deleteMessage({ QueueUrl, ReceiptHandle })` -/
def deleteMessage (handle : ReceiptHandle) (round : Nat) : Result Event Metadata Unit :=
  queue.request weather (weather.delete round)
    { queue with service := queue.service.delete handle }

/-- The numbers of the messages the service answers with. A FIFO queue gives its first
messages, and none while one that was received is hidden; another queue gives any. -/
def answeredWith (count : Nat) (now : Millis) (asked : List Nat) : List Nat :=
  if options.isFifo then
    if queue.service.messages.all fun message => message.visibleAt ≤ now then
      (queue.service.messages.take (min count asked.length)).map Message.number
    else []
  else asked.take count

/-- `this.client.receiveMessage(...)`; `asked` is what the service chooses. -/
def receiveMessage (count : Nat) (hiddenMs : Millis) (asked : List Nat) :
    Result Event Metadata
      (List (Message (Option (RetryRecord Event Metadata Millis)) Millis)) :=
  let now := weather.clock 0
  let numbers :=
    if weather.received.effective then answeredWith options queue count now asked else []
  let received := queue.service.receive numbers (now + hiddenMs)
  let queue := { queue with service := received.2 }
  if weather.received.answered then (.ok received.1, queue) else (.error weather.error, queue)

/-! ## The calls -/

def enqueue (record : RetryRecord Event Metadata (Option Millis)) : Result Event Metadata Unit :=
  match assertRecord record with
  | .error error => (.error error, queue)
  | .ok accepted => queue.sendMessage options weather accepted 0

/-- `inFlight.delete(id)` and `inFlightRecords.delete(id)` -/
def clear (recordId : String) : SqsRetryQueue Event Metadata :=
  { queue with
    inFlight := queue.inFlight.delete recordId
    inFlightRecords := queue.inFlightRecords.delete recordId }

def ack (recordId : String) : Result Event Metadata Unit :=
  match queue.inFlight.get? recordId with
  | none => (.ok (), queue)
  | some handle =>
      match queue.deleteMessage weather handle 0 with
      | (.error error, queue) => (.error error, queue)
      | (.ok (), queue) => (.ok (), queue.clear recordId)

def nack (recordId : String) (requeueDelayMs : Option Millis) (round : Nat) :
    Result Event Metadata Unit :=
  match queue.inFlight.get? recordId with
  | none => (.ok (), queue)
  | some handle =>
      match queue.inFlightRecords.get? recordId with
      | none =>
          match queue.deleteMessage weather handle round with
          | (.error error, queue) => (.error error, queue)
          | (.ok (), queue) =>
              (.ok (), { queue with inFlight := queue.inFlight.delete recordId })
      | some record =>
          let nextRetryAt := weather.clock round + requeueDelay requeueDelayMs
          match queue.sendMessage options weather { record with nextRetryAt } round with
          | (.error error, queue) => (.error error, queue)
          | (.ok (), queue) =>
              match queue.deleteMessage weather handle round with
              | (.error error, queue) => (.error error, queue)
              | (.ok (), queue) => (.ok (), queue.clear recordId)

def track (record : RetryRecord Event Metadata Millis) (handle : ReceiptHandle) :
    SqsRetryQueue Event Metadata :=
  { queue with
    inFlight := queue.inFlight.set record.id handle
    inFlightRecords := queue.inFlightRecords.set record.id record }

/-- The loop of `dequeue`: what is not due yet is put back, and the first record that is
due is handed out. -/
def takeDue (nowMs : Millis) :
    List (Message (Option (RetryRecord Event Metadata Millis)) Millis) → Nat →
      SqsRetryQueue Event Metadata →
      Result Event Metadata (Option (RetryRecord Event Metadata Millis))
  | [], _, queue => (.ok none, queue)
  | message :: rest, round, queue =>
      match message.body with
      | none => takeDue nowMs rest (round + 1) queue
      | some record =>
          let queue := queue.track record message.handle
          if record.nextRetryAt > nowMs then
            match queue.nack options weather record.id (some (record.nextRetryAt - nowMs))
                round with
            | (.error error, queue) => (.error error, queue)
            | (.ok (), queue) => takeDue nowMs rest (round + 1) queue
          else (.ok (some record), queue)

def dequeue (nowMs : Millis) (asked : List Nat) :
    Result Event Metadata (Option (RetryRecord Event Metadata Millis)) :=
  match queue.receiveMessage options weather options.receiveCount
      (1000 * options.visibilityTimeoutS) asked with
  | (.error error, queue) => (.error error, queue)
  | (.ok messages, queue) => takeDue options weather nowMs messages 0 queue

def evictNewest (asked : List Nat) :
    Result Event Metadata (Option (RetryRecord Event Metadata Millis)) :=
  match queue.receiveMessage options weather 1 0 asked with
  | (.error error, queue) => (.error error, queue)
  | (.ok [], queue) => (.ok none, queue)
  | (.ok (message :: _), queue) =>
      match queue.deleteMessage weather message.handle 0 with
      | (.error error, queue) => (.error error, queue)
      | (.ok (), queue) => (.ok message.body, queue)

def size : Nat :=
  queue.inFlight.size

/-! ## Runs -/

inductive SqsCall (Event Metadata : Type) where
  | enqueue (record : RetryRecord Event Metadata (Option Millis)) (weather : Weather)
  | dequeue (nowMs : Millis) (asked : List Nat) (weather : Weather)
  | ack (recordId : String) (weather : Weather)
  | nack (recordId : String) (requeueDelayMs : Option Millis) (weather : Weather)
  | evictNewest (asked : List Nat) (weather : Weather)
  | size

structure Ledger (Event Metadata : Type) where
  queue : SqsRetryQueue Event Metadata
  owed : List String

def Ledger.empty : Ledger Event Metadata where
  queue := .empty
  owed := []

def answer {Value : Type} (value : Value → Answer Event Metadata) :
    Except String Value → Answer Event Metadata
  | .error error => .rejected error
  | .ok result => value result

/-- The id of the record a call of `evictNewest` receives. -/
def evictedId (asked : List Nat) : Option String :=
  match (queue.receiveMessage options weather 1 0 asked).1 with
  | .ok (message :: _) => message.body.map fun record => record.id
  | _ => none

def owedBehind (ledger : Ledger Event Metadata) :
    SqsCall Event Metadata → Answer Event Metadata → List String
  | .enqueue record _, .settled => record.id :: ledger.owed
  | .ack recordId _, _ =>
      if ledger.queue.inFlight.has recordId then ledger.owed.filter fun id => id ≠ recordId
      else ledger.owed
  | .evictNewest asked weather, _ =>
      match evictedId options ledger.queue weather asked with
      | none => ledger.owed
      | some evicted => ledger.owed.filter fun id => id ≠ evicted
  | _, _ => ledger.owed

def perform (queue : SqsRetryQueue Event Metadata) :
    SqsCall Event Metadata → Answer Event Metadata × SqsRetryQueue Event Metadata
  | .enqueue record weather =>
      let result := queue.enqueue options weather record
      (answer (fun _ => .settled) result.1, result.2)
  | .dequeue nowMs asked weather =>
      let result := queue.dequeue options weather nowMs asked
      (answer .record result.1, result.2)
  | .ack recordId weather =>
      let result := queue.ack weather recordId
      (answer (fun _ => .settled) result.1, result.2)
  | .nack recordId requeueDelayMs weather =>
      let result := queue.nack options weather recordId requeueDelayMs 0
      (answer (fun _ => .settled) result.1, result.2)
  | .evictNewest asked weather =>
      let result := queue.evictNewest options weather asked
      (answer .record result.1, result.2)
  | .size => (.count queue.size, queue)

def machine : Machine (Ledger Event Metadata) (SqsCall Event Metadata) (Answer Event Metadata) where
  step := fun ledger call =>
    let done := perform options ledger.queue call
    (done.1, { queue := done.2, owed := owedBehind options ledger call done.1 })

end SqsRetryQueue

end Orbital.PulseWebhooks
