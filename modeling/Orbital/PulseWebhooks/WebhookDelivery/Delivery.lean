import Orbital.Foundation.InsertionMap
import Orbital.Foundation.Trace
import Orbital.PulseWebhooks.RetryQueue

/-! # `WebhookDelivery`

The calls under way are tasks, each at the `await` it is at. A call to the retry queue has
its effect when it is made; the task carries the answer. The lists at the end of the state
only record what happened.
-/

namespace Orbital.PulseWebhooks

open Foundation

variable {Event Queue : Type}

/-- An event with the identity of its object. The number only tells dispatches apart. -/
structure Dispatched (Event : Type) where
  number : Nat
  object : Nat
  event : Event
  deriving DecidableEq

/-- `{ event, url }` -/
structure Job (Event : Type) where
  event : Dispatched Event
  url : String
  deriving DecidableEq

def Job.number (job : Job Event) : Nat :=
  job.event.number

/-- What `deliveryIds` is keyed by. -/
def Job.key (job : Job Event) : Nat × String :=
  (job.event.object, job.url)

abbrev Record (Event : Type) := RetryRecord (Dispatched Event) Unit Millis

abbrev QueueMachine (Event Queue : Type) :=
  Machine Queue (Call (Dispatched Event) Unit) (Answer (Dispatched Event) Unit)

def RetryRecord.job (record : Record Event) : Job Event where
  event := record.event
  url := record.url

/-- `hostname` is the normalized host of a URL, if it is one. -/
structure WebhookConfig (Event Queue : Type) where
  urls : List String
  retries : Int
  maxConcurrentRetries : Int
  maxConcurrentDeliveries : Int
  hostname : String → Option String
  isLoopbackHostname : String → Bool
  isIpLiteral : String → Bool
  isBlockedIp : String → Bool
  urlValidator : Bool
  retryQueue : Option (QueueMachine Event Queue)

namespace WebhookConfig

def withDefaults (urls : List String) (retries : Int)
    (retryQueue : Option (QueueMachine Event Queue)) : WebhookConfig Event Queue where
  urls := urls
  retries := retries
  maxConcurrentRetries := 100
  maxConcurrentDeliveries := 100
  hostname := some
  isLoopbackHostname := fun _ => false
  isIpLiteral := fun _ => false
  isBlockedIp := fun _ => false
  urlValidator := false
  retryQueue := retryQueue

def oneSlot : WebhookConfig Unit Unit :=
  { withDefaults ["first", "second"] 3 none with maxConcurrentDeliveries := 1 }

variable (config : WebhookConfig Event Queue)

/-- `Math.max(1, this.config.maxConcurrentRetries)` -/
def retryCap : Nat :=
  (max 1 config.maxConcurrentRetries).toNat

/-- `Math.max(1, this.config.maxConcurrentDeliveries)` -/
def deliveryCap : Nat :=
  (max 1 config.maxConcurrentDeliveries).toNat

def blockedAddressError : String :=
  "Webhook URL points to a blocked private address"

def validateUrl (url : String) : Option String :=
  match config.hostname url with
  | none => some "Invalid webhook URL"
  | some hostname =>
      if config.isLoopbackHostname hostname || config.isBlockedIp hostname then
        some blockedAddressError
      else none

/-- `addresses` is the answer of the resolver, if it gives one. -/
def validateResolvedHostname (url : String) (addresses : Option (List String)) : Option String :=
  if (config.hostname url).any config.isIpLiteral then none
  else
    match addresses with
    | none => some "Webhook hostname could not be resolved"
    | some [] => some "Webhook hostname did not resolve to an IP address"
    | some addresses =>
        if addresses.any config.isBlockedIp then some blockedAddressError else none

end WebhookConfig

/-- `{ ok: false, error, terminal }` -/
structure AttemptFailure where
  error : String
  terminal : Bool
  deriving DecidableEq

inductive Driver (Event : Type) where
  | first
  | retryTimer
  | drain (nowMs : Millis) (record : Record Event)
  | poller (record : Record Event)

inductive Stage where
  | refused
  | validating
  | resolving
  | fetching
  | returned (result : Except AttemptFailure Unit)

/-- A call under way. In `persistRetry` the attempt is the one that is persisted. -/
inductive Task (Event : Type) where
  | attempting (driver : Driver Event) (job : Job Event) (attempt : Nat) (stage : Stage)
  | sizing (driver : Driver Event) (job : Job Event) (attempt : Nat) (lastError : String)
      (answer : Answer (Dispatched Event) Unit)
  | evicting (driver : Driver Event) (job : Job Event) (attempt : Nat) (lastError : String)
      (answer : Answer (Dispatched Event) Unit)
  | enqueueing (driver : Driver Event) (job : Job Event) (attempt : Nat)
      (answer : Answer (Dispatched Event) Unit)
  /-- A first delivery that is over, in front of its `.finally`. -/
  | settled
  | dequeuing (nowMs : Millis) (answer : Answer (Dispatched Event) Unit)
  | drained (nowMs : Millis) (answer : Answer (Dispatched Event) Unit)
  | polling (answer : Answer (Dispatched Event) Unit)
  /-- `processQueueRecord` behind its `ack`, with the failure it has to announce. -/
  | polled (answer : Answer (Dispatched Event) Unit) (failure : Option (Job Event × String × Nat))
  | putBack (answer : Answer (Dispatched Event) Unit)

/-- `made` counts the attempts that were made, and only records what happened. -/
structure DeadLetter (Event : Type) where
  job : Job Event
  error : String
  attempts : Nat
  made : Nat

structure HttpRequest (Event : Type) where
  job : Job Event
  attempt : Nat
  deliveryId : Nat

structure WebhookDelivery (Event Queue : Type) where
  stopped : Bool
  watcherStopped : Bool
  activeDeliveries : Nat
  overflowQueue : List (Job Event)
  retryTimers : InsertionMap Nat (Job Event × Nat)
  queueDrainTimers : List Nat
  pollerTimer : Bool
  /-- The handles of timers, `retrySeq` and `randomUUID()` never give one out twice. -/
  timerSeq : Nat
  retrySeq : Nat
  uuids : Nat
  deliveryIds : InsertionMap (Nat × String) Nat
  queue : Queue
  tasks : List (Task Event)
  deadLetters : List (DeadLetter Event)
  dispatched : List (Job Event)
  attempts : List (Job Event × Nat)
  requests : List (HttpRequest Event)
  delivered : List (Job Event × Nat)
  enqueued : List (Job Event × Nat)
  acknowledged : List (Record Event)
  cutShort : List (Job Event × Nat)

namespace WebhookDelivery

variable (config : WebhookConfig Event Queue) (state : WebhookDelivery Event Queue)

def initial (queue : Queue) : WebhookDelivery Event Queue where
  stopped := false
  watcherStopped := false
  activeDeliveries := 0
  overflowQueue := []
  retryTimers := .empty
  queueDrainTimers := []
  pollerTimer := config.retryQueue.isSome
  timerSeq := 0
  retrySeq := 0
  uuids := 0
  deliveryIds := .empty
  queue := queue
  tasks := []
  deadLetters := []
  dispatched := []
  attempts := []
  requests := []
  delivered := []
  enqueued := []
  acknowledged := []
  cutShort := []

def push (task : Task Event) : WebhookDelivery Event Queue :=
  { state with tasks := state.tasks ++ [task] }

def ask (call : Call (Dispatched Event) Unit) :
    Answer (Dispatched Event) Unit × WebhookDelivery Event Queue :=
  match config.retryQueue with
  | none => (.settled, state)
  | some machine =>
      ((machine.step state.queue call).1,
        { state with queue := (machine.step state.queue call).2 })

/-! ## `doAttempt` -/

/-- `doAttempt` up to its first `await`. -/
def doAttempt (driver : Driver Event) (job : Job Event) (attempt : Nat) :
    WebhookDelivery Event Queue :=
  if state.watcherStopped then state.push (.attempting driver job attempt .refused)
  else
    let state := { state with attempts := state.attempts ++ [(job, attempt)] }
    match config.validateUrl job.url with
    | some error =>
        state.push (.attempting driver job attempt (.returned (.error ⟨error, true⟩)))
    | none =>
        state.push (.attempting driver job attempt
          (if config.urlValidator then .validating else .resolving))

theorem doAttempt_overflowQueue (driver : Driver Event) (job : Job Event) (attempt : Nat) :
    (state.doAttempt config driver job attempt).overflowQueue = state.overflowQueue := by
  rw [doAttempt]
  split
  · rfl
  · dsimp only
    split <;> rfl

theorem doAttempt_activeDeliveries (driver : Driver Event) (job : Job Event) (attempt : Nat) :
    (state.doAttempt config driver job attempt).activeDeliveries = state.activeDeliveries := by
  rw [doAttempt]
  split
  · rfl
  · dsimp only
    split <;> rfl

theorem doAttempt_retryTimers (driver : Driver Event) (job : Job Event) (attempt : Nat) :
    (state.doAttempt config driver job attempt).retryTimers = state.retryTimers := by
  rw [doAttempt]
  split
  · rfl
  · dsimp only
    split <;> rfl

def sendRequest (job : Job Event) (attempt : Nat) : WebhookDelivery Event Queue :=
  match state.deliveryIds.get? job.key with
  | some deliveryId =>
      { state with requests := state.requests ++ [{ job, attempt, deliveryId }] }
  | none =>
      { state with
        uuids := state.uuids + 1
        deliveryIds := state.deliveryIds.set job.key state.uuids
        requests := state.requests ++ [{ job, attempt, deliveryId := state.uuids }] }

inductive Input where
  | validated (outcome : Except String (Option String))
  | resolved (addresses : Option (List String))
  | responded (error : Option String)
  /-- A promise of the delivery itself or the queue is settled. The clock and the backoff
  are read behind it; a delay that is no finite number is `none`. -/
  | proceed (now : Nat) (delay : Option Millis)

/-- `doAttempt` from one `await` to the next. -/
def continueAttempt (job : Job Event) (attempt : Nat) :
    Stage → Input → Option (WebhookDelivery Event Queue × Stage)
  | .validating, .validated outcome =>
      if state.watcherStopped then some (state, .returned (.error ⟨"stopped", true⟩))
      else
        match outcome with
        | .error error | .ok (some error) => some (state, .returned (.error ⟨error, true⟩))
        | .ok none => some (state, .resolving)
  | .resolving, .resolved addresses =>
      if state.watcherStopped then some (state, .returned (.error ⟨"stopped", true⟩))
      else
        match config.validateResolvedHostname job.url addresses with
        | some error =>
            some (state, .returned (.error ⟨error, error = WebhookConfig.blockedAddressError⟩))
        | none => some (state.sendRequest job attempt, .fetching)
  | .fetching, .responded none =>
      some ({ state with delivered := state.delivered ++ [(job, attempt)] }, .returned (.ok ()))
  | .fetching, .responded (some error) =>
      some (state,
        .returned (.error ⟨if state.watcherStopped then "stopped" else error, false⟩))
  | _, _ => none

/-! ## Failures -/

def emitFailure (job : Job Event) (error : String) (attempt : Nat) : WebhookDelivery Event Queue :=
  { state with
    deadLetters := state.deadLetters ++ [{ job, error, attempts := attempt, made := attempt }] }

/-- `made` is how often the event had been tried. -/
def emitDropped (job : Job Event) (made : Nat) : WebhookDelivery Event Queue :=
  { state with
    deadLetters := state.deadLetters ++
      [{ job, error := "retry_cap_exceeded", attempts := 0, made }] }

def cut (job : Job Event) (made : Nat) : WebhookDelivery Event Queue :=
  { state with cutShort := state.cutShort ++ [(job, made)] }

/-! ## Behind an attempt -/

/-- `deliverToUrl` returns to who called it. -/
def finishDelivery : Driver Event → WebhookDelivery Event Queue
  | .first => state.push .settled
  | .retryTimer => state
  | .drain nowMs record =>
      let asked := state.ask config (.ack record.id)
      { asked.2 with acknowledged := state.acknowledged ++ [record] }.push (.drained nowMs asked.1)
  | .poller _ => state

/-- `deliverToUrl` throws. -/
def throwDelivery : Driver Event → WebhookDelivery Event Queue
  | .first => state.push .settled
  | _ => state

def makeRoom : WebhookDelivery Event Queue :=
  if config.retryCap ≤ state.retryTimers.size then
    match state.retryTimers.entries.getLast? with
    | none => state
    | some (timer, job, attempt) =>
        { state with retryTimers := state.retryTimers.delete timer }.emitDropped job (attempt - 1)
  else state

def setRetryTimer (job : Job Event) (attempt : Nat) : WebhookDelivery Event Queue :=
  { state with
    retryTimers := state.retryTimers.set state.timerSeq (job, attempt)
    timerSeq := state.timerSeq + 1 }

/-- `deliverToUrl` behind its attempt. -/
def afterAttempt (driver : Driver Event) (job : Job Event) (attempt now : Nat) :
    Except AttemptFailure Unit → WebhookDelivery Event Queue
  | .ok () => state.finishDelivery config driver
  | .error failure =>
      if state.watcherStopped then (state.cut job attempt).finishDelivery config driver
      else if !failure.terminal && (attempt : Int) < config.retries then
        match config.retryQueue with
        | some _ =>
            let asked := state.ask config (.size now)
            asked.2.push (.sizing driver job (attempt + 1) failure.error asked.1)
        | none =>
            (((state.makeRoom config).setRetryTimer job (attempt + 1)).finishDelivery config
              driver)
      else (state.emitFailure job failure.error attempt).finishDelivery config driver

/-- `processQueueRecord` behind its attempt. -/
def afterPolledAttempt (record : Record Event) (delay : Option Millis) (now : Nat) :
    Except AttemptFailure Unit → WebhookDelivery Event Queue
  | .ok () =>
      if state.watcherStopped then state
      else
        let asked := state.ask config (.ack record.id)
        { asked.2 with acknowledged := state.acknowledged ++ [record] }.push (.polled asked.1 none)
  | .error failure =>
      if state.watcherStopped then state.cut record.job record.attempt
      else if !failure.terminal && (record.attempt : Int) < config.retries then
        let asked := state.ask config (.nack record.id delay now)
        asked.2.push (.putBack asked.1)
      else
        let asked := state.ask config (.ack record.id)
        { asked.2 with acknowledged := state.acknowledged ++ [record] }.push
          (.polled asked.1 (some (record.job, failure.error, record.attempt)))

/-! ## `persistRetry` -/

def retryId (now seq : Nat) : String :=
  "retry-" ++ toString now ++ "-" ++ toString seq

def retryRecord (job : Job Event) (attempt : Nat) (lastError : String) (now : Nat)
    (delay : Option Millis) : RetryRecord (Dispatched Event) Unit (Option Millis) where
  id := retryId now state.retrySeq
  event := job.event
  url := job.url
  attempt := attempt
  nextRetryAt := delay.map fun delay => now + delay
  lastError := some lastError
  createdAt := some now
  metadata := none

def enqueueRetry (driver : Driver Event) (job : Job Event) (attempt : Nat) (lastError : String)
    (now : Nat) (delay : Option Millis) : WebhookDelivery Event Queue :=
  let asked := { state with retrySeq := state.retrySeq + 1 }.ask config
    (.enqueue (state.retryRecord job attempt lastError now delay))
  asked.2.push (.enqueueing driver job attempt asked.1)

/-- Behind `queue.size()`. -/
def afterSize (driver : Driver Event) (job : Job Event) (attempt : Nat) (lastError : String)
    (now : Nat) (delay : Option Millis) :
    Answer (Dispatched Event) Unit → WebhookDelivery Event Queue
  | .count size =>
      if config.retryCap ≤ size then
        let asked := state.ask config .evictNewest
        asked.2.push (.evicting driver job attempt lastError asked.1)
      else state.enqueueRetry config driver job attempt lastError now delay
  | _ => state.throwDelivery driver

/-- Behind `queue.evictNewest()`. -/
def afterEvict (driver : Driver Event) (job : Job Event) (attempt : Nat) (lastError : String)
    (now : Nat) (delay : Option Millis) :
    Answer (Dispatched Event) Unit → WebhookDelivery Event Queue
  | .record (some evicted) =>
      (state.emitDropped evicted.job (evicted.attempt - 1)).enqueueRetry config driver job attempt
        lastError now delay
  | .record none => state.enqueueRetry config driver job attempt lastError now delay
  | _ => state.throwDelivery driver

/-- Behind `queue.enqueue(record)`. -/
def afterEnqueue (driver : Driver Event) (job : Job Event) (attempt : Nat) :
    Answer (Dispatched Event) Unit → WebhookDelivery Event Queue
  | .settled =>
      { state with
        enqueued := state.enqueued ++ [(job, attempt)]
        queueDrainTimers := state.queueDrainTimers ++ [state.timerSeq]
        timerSeq := state.timerSeq + 1 }.finishDelivery config driver
  | _ => state.throwDelivery driver

/-! ## Dispatching and draining -/

def dispatchDelivery (job : Job Event) : WebhookDelivery Event Queue :=
  if state.stopped then state
  else
    let state := { state with dispatched := state.dispatched ++ [job] }
    if config.deliveryCap ≤ state.activeDeliveries then
      { state with overflowQueue := state.overflowQueue ++ [job] }
    else
      { state with activeDeliveries := state.activeDeliveries + 1 }.doAttempt config .first job 1

def dispatchAll (object : Nat) (event : Event) :
    List String → WebhookDelivery Event Queue → WebhookDelivery Event Queue
  | [], state => state
  | url :: urls, state =>
      dispatchAll object event urls (state.dispatchDelivery config
        { event := { number := state.dispatched.length, object, event }, url })

def handleWatcherEvent (object : Nat) (event : Event) : WebhookDelivery Event Queue :=
  if state.stopped || state.watcherStopped then state
  else dispatchAll config object event config.urls state

/-- The loop of `drainOverflowQueue`. -/
def drainOverflow : List (Job Event) → WebhookDelivery Event Queue → WebhookDelivery Event Queue
  | [], state => state
  | job :: rest, state =>
      if state.activeDeliveries < config.deliveryCap then
        drainOverflow rest ({ state with
          overflowQueue := rest
          activeDeliveries := state.activeDeliveries + 1 }.doAttempt config .first job 1)
      else state

def drainOverflowQueue : WebhookDelivery Event Queue :=
  drainOverflow config state.overflowQueue state

/-- `drainDueRetries` at the head of its loop. -/
def drainDueRetries (nowMs : Millis) : WebhookDelivery Event Queue :=
  if config.retryQueue.isNone || state.watcherStopped then state
  else
    let asked := state.ask config (.dequeue nowMs)
    asked.2.push (.dequeuing nowMs asked.1)

/-! ## Stopping -/

def clearRetryTimers : WebhookDelivery Event Queue :=
  { state with retryTimers := .empty, queueDrainTimers := [] }

def stop : WebhookDelivery Event Queue :=
  if state.stopped then state
  else { state with stopped := true, pollerTimer := false }.clearRetryTimers

def restart : WebhookDelivery Event Queue :=
  { state with
    stopped := false
    watcherStopped := false
    activeDeliveries := 0
    overflowQueue := []
    retryTimers := .empty
    queueDrainTimers := []
    pollerTimer := config.retryQueue.isSome
    retrySeq := 0
    deliveryIds := .empty
    tasks := [] }

/-! ## Steps -/

def resume : Task Event → Input → Option (WebhookDelivery Event Queue)
  | .attempting (.poller _) job attempt .refused, .proceed _ _ =>
      some (state.cut job (attempt - 1))
  | .attempting driver job attempt .refused, .proceed _ _ =>
      some ((state.cut job (attempt - 1)).finishDelivery config driver)
  | .attempting (.poller record) _ _ (.returned result), .proceed now delay =>
      some (state.afterPolledAttempt config record delay now result)
  | .attempting driver job attempt (.returned result), .proceed now _ =>
      some (state.afterAttempt config driver job attempt now result)
  | .attempting driver job attempt stage, input =>
      (state.continueAttempt config job attempt stage input).map fun next =>
        next.1.push (.attempting driver job attempt next.2)
  | .sizing driver job attempt lastError answer, .proceed now delay =>
      some (state.afterSize config driver job attempt lastError now delay answer)
  | .evicting driver job attempt lastError answer, .proceed now delay =>
      some (state.afterEvict config driver job attempt lastError now delay answer)
  | .enqueueing driver job attempt answer, .proceed _ _ =>
      some (state.afterEnqueue config driver job attempt answer)
  | .settled, .proceed _ _ =>
      some ({ state with activeDeliveries := state.activeDeliveries - 1 }.drainOverflowQueue config)
  | .dequeuing nowMs (.record (some record)), .proceed _ _ =>
      some (state.doAttempt config (.drain nowMs record) record.job record.attempt)
  | .dequeuing _ _, .proceed _ _ => some state
  | .drained nowMs .settled, .proceed _ _ => some (state.drainDueRetries config nowMs)
  | .drained _ _, .proceed _ _ => some state
  | .polling (.record (some record)), .proceed _ _ =>
      if state.watcherStopped then some (state.cut record.job (record.attempt - 1))
      else some (state.doAttempt config (.poller record) record.job record.attempt)
  | .polling _, .proceed _ _ => some state
  | .polled .settled (some (job, error, attempt)), .proceed _ _ =>
      some (state.emitFailure job error attempt)
  | .polled _ _, .proceed _ _ | .putBack _, .proceed _ _ => some state
  | _, _ => none

inductive DeliveryEvent (Event : Type) where
  | emitted (object : Nat) (event : Event)
  | resume (index : Nat) (input : Input)
  | retryTimerFired (timer : Nat)
  | drainTimerFired (timer : Nat) (nowMs : Millis)
  | pollerTicked (nowMs : Millis)
  | drainCalled (nowMs : Millis)
  | stopCalled
  | watcherStopped
  | restarted

def step : DeliveryEvent Event → Option (WebhookDelivery Event Queue)
  | .emitted object event => some (state.handleWatcherEvent config object event)
  | .resume index input =>
      match state.tasks[index]? with
      | none => none
      | some task => resume config { state with tasks := state.tasks.eraseIdx index } task input
  | .retryTimerFired timer =>
      match state.retryTimers.get? timer with
      | none => none
      | some (job, attempt) =>
          some ({ state with retryTimers := state.retryTimers.delete timer }.doAttempt config
            .retryTimer job attempt)
  | .drainTimerFired timer nowMs =>
      if timer ∈ state.queueDrainTimers then
        some ({ state with
          queueDrainTimers := state.queueDrainTimers.erase timer }.drainDueRetries config nowMs)
      else none
  | .pollerTicked nowMs =>
      if state.pollerTimer then
        let asked := state.ask config (.dequeue nowMs)
        some (asked.2.push (.polling asked.1))
      else none
  | .drainCalled nowMs => some (state.drainDueRetries config nowMs)
  | .stopCalled => some state.stop
  | .watcherStopped => some { state with watcherStopped := true }.stop
  | .restarted => some (state.restart config)

abbrev Steps (config : WebhookConfig Event Queue) :
    WebhookDelivery Event Queue → DeliveryEvent Event → WebhookDelivery Event Queue → Prop :=
  Takes (step config)

end WebhookDelivery

end Orbital.PulseWebhooks
