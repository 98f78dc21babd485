import Orbital.Foundation.InsertionMap
import Orbital.Foundation.JsValue
import Orbital.Foundation.Machine

/-! # `MemoryWorkerStateStore.ts`, `PostgresWorkerStateStore.ts`, `migrateWorkerState.ts`

Two stores of the state of workers. One keeps it as it was given; the other writes it to
three tables and reads it back, with the history in the order of the fire times.
-/

namespace Orbital.WorkerCore.WorkerStateStore

open Foundation

/-! ## The state of a worker -/

structure WorkerFireRecord where
  windowStart : JsString
  windowEnd : JsString
  firedAt : JsString
  payload : JsValue

structure WorkerClaimRecord where
  windowId : JsString
  workerId : JsString
  claimedAt : JsString
  expiresAt : JsString

structure WorkerState where
  workerId : JsString
  registeredAt : JsString
  updatedAt : JsString
  lastFiredWindowStart : Option JsString
  lastFiredWindowEnd : Option JsString
  fireHistory : List WorkerFireRecord
  activeClaims : List WorkerClaimRecord
  metadata : JsValue

inductive Call
  | registerWorker (workerId : JsString) (registeredAt : Option JsString)
      (metadata : Option (List (JsString × JsValue)))
  | appendFireRecord (workerId : JsString) (record : WorkerFireRecord)
  | writeClaim (workerId : JsString) (claim : WorkerClaimRecord)
  | releaseClaim (workerId windowId : JsString)

def Call.workerId : Call → JsString
  | .registerWorker workerId _ _ => workerId
  | .appendFireRecord workerId _ => workerId
  | .writeClaim workerId _ => workerId
  | .releaseClaim workerId _ => workerId

inductive StoreError
  | notRegistered (workerId : JsString)
  /-- The database takes a value for none of the column's type. -/
  | refused

def StoreError.message : StoreError → JsString
  | notRegistered workerId =>
      js "WorkerStateStore: worker \"" ++ workerId ++
        js "\" is not registered. Call registerWorker first."
  | refused => js "invalid input syntax"

abbrev Result := Except StoreError WorkerState

/-! ## `MemoryWorkerStateStore` -/

abbrev MemoryWorkerStateStore := InsertionMap JsString WorkerState

namespace MemoryWorkerStateStore

variable (store : MemoryWorkerStateStore) (now : JsString)

def getWorker (workerId : JsString) : Option WorkerState :=
  store.get? workerId

def registered (workerId : JsString) (registeredAt : Option JsString)
    (metadata : Option (List (JsString × JsValue))) : WorkerState where
  workerId := workerId
  registeredAt := registeredAt.getD now
  updatedAt := now
  lastFiredWindowStart := none
  lastFiredWindowEnd := none
  fireHistory := []
  activeClaims := []
  metadata := .object (metadata.getD [])

def registerWorker (workerId : JsString) (registeredAt : Option JsString)
    (metadata : Option (List (JsString × JsValue))) : Result × MemoryWorkerStateStore :=
  match store.get? workerId with
  | some existing => (.ok existing, store)
  | none =>
      let state := registered now workerId registeredAt metadata
      (.ok state, store.set workerId state)

/-- The three methods that change the state of a worker that must be there. -/
def update (workerId : JsString) (change : WorkerState → WorkerState) :
    Result × MemoryWorkerStateStore :=
  match store.get? workerId with
  | none => (.error (.notRegistered workerId), store)
  | some existing =>
      let updated := { change existing with updatedAt := now }
      (.ok updated, store.set workerId updated)

def withRecord (record : WorkerFireRecord) (state : WorkerState) : WorkerState :=
  { state with
    lastFiredWindowStart := some record.windowStart
    lastFiredWindowEnd := some record.windowEnd
    fireHistory := state.fireHistory ++ [record] }

def withoutClaim (windowId : JsString) (state : WorkerState) : WorkerState :=
  { state with activeClaims := state.activeClaims.filter (·.windowId ≠ windowId) }

def withClaim (claim : WorkerClaimRecord) (state : WorkerState) : WorkerState :=
  { state with
    activeClaims := (withoutClaim claim.windowId state).activeClaims ++ [claim] }

def appendFireRecord (workerId : JsString) (record : WorkerFireRecord) :
    Result × MemoryWorkerStateStore :=
  update store now workerId (withRecord record)

def writeClaim (workerId : JsString) (claim : WorkerClaimRecord) :
    Result × MemoryWorkerStateStore :=
  update store now workerId (withClaim claim)

def releaseClaim (workerId windowId : JsString) : Result × MemoryWorkerStateStore :=
  update store now workerId (withoutClaim windowId)

def step : Call → Result × MemoryWorkerStateStore
  | .registerWorker workerId registeredAt metadata =>
      registerWorker store now workerId registeredAt metadata
  | .appendFireRecord workerId record => appendFireRecord store now workerId record
  | .writeClaim workerId claim => writeClaim store now workerId claim
  | .releaseClaim workerId windowId => releaseClaim store now workerId windowId

def getAllWorkers : List WorkerState :=
  store.values

end MemoryWorkerStateStore

/-! ## `PostgresWorkerStateStore` -/

section Tables

variable (Instant : Type)

structure RegistrationRow where
  registeredAt : Instant
  updatedAt : Instant
  lastFiredWindowStart : Option Instant
  lastFiredWindowEnd : Option Instant
  metadata : JsValue

structure FireRow where
  workerId : JsString
  windowStart : Instant
  windowEnd : Instant
  firedAt : Instant
  payload : Option JsValue

structure ClaimRow where
  claimedAt : Instant
  expiresAt : Instant

/-- The claims are keyed by the worker and the window. -/
structure Tables where
  registrations : InsertionMap JsString (RegistrationRow Instant)
  fireHistory : List (FireRow Instant)
  claims : InsertionMap (JsString × JsString) (ClaimRow Instant)

/-- The database and its client: what a `TIMESTAMPTZ` column takes and how the client shows
it, what is read back from a `JSONB` column, and the orders that the statements leave open. -/
structure Database [LinearOrder Instant] where
  instant : JsString → Option Instant
  shown : Instant → JsString
  jsonb : JsString → Option JsValue
  /-- `ORDER BY fired_at ASC` -/
  byFiredAt : List (FireRow Instant) → List (FireRow Instant)
  byFiredAt_perm : ∀ rows, (byFiredAt rows).Perm rows
  byFiredAt_sorted : ∀ rows,
    (byFiredAt rows).Pairwise fun row later => row.firedAt ≤ later.firedAt
  /-- `ORDER BY registered_at ASC` -/
  byRegisteredAt : List (JsString × RegistrationRow Instant) →
    List (JsString × RegistrationRow Instant)
  byRegisteredAt_perm : ∀ rows, (byRegisteredAt rows).Perm rows
  byRegisteredAt_sorted : ∀ rows,
    (byRegisteredAt rows).Pairwise fun row later => row.2.registeredAt ≤ later.2.registeredAt
  anyOrder : List ((JsString × JsString) × ClaimRow Instant) →
    List ((JsString × JsString) × ClaimRow Instant)
  anyOrder_perm : ∀ rows, (anyOrder rows).Perm rows

end Tables

namespace PostgresWorkerStateStore

variable {Instant : Type} [LinearOrder Instant] (database : Database Instant)

def empty : Tables Instant where
  registrations := .empty
  fireHistory := []
  claims := .empty

/-! ### Loading -/

/-- `payload ?? undefined` -/
def orUndefined : Option JsValue → JsValue
  | none => .leaf .undefined
  | some (.leaf .null) => .leaf .undefined
  | some payload => payload

/-- `metadata ?? {}` -/
def orEmpty : JsValue → JsValue
  | .leaf .null => .object []
  | .leaf .undefined => .object []
  | metadata => metadata

def fireRecord (row : FireRow Instant) : WorkerFireRecord where
  windowStart := database.shown row.windowStart
  windowEnd := database.shown row.windowEnd
  firedAt := database.shown row.firedAt
  payload := orUndefined row.payload

def claimRecord (entry : (JsString × JsString) × ClaimRow Instant) : WorkerClaimRecord where
  windowId := entry.1.2
  workerId := entry.1.1
  claimedAt := database.shown entry.2.claimedAt
  expiresAt := database.shown entry.2.expiresAt

variable (tables : Tables Instant) (now : JsString)

/-- `SELECT ... FROM worker_fire_history WHERE worker_id = $1` -/
def historyOf (workerId : JsString) : List (FireRow Instant) :=
  tables.fireHistory.filter (·.workerId = workerId)

def claimsOf (workerId : JsString) : List ((JsString × JsString) × ClaimRow Instant) :=
  tables.claims.entries.filter (·.1.1 = workerId)

def load (workerId : JsString) : Option WorkerState :=
  (tables.registrations.get? workerId).map fun row => {
    workerId
    registeredAt := database.shown row.registeredAt
    updatedAt := database.shown row.updatedAt
    lastFiredWindowStart := row.lastFiredWindowStart.map database.shown
    lastFiredWindowEnd := row.lastFiredWindowEnd.map database.shown
    fireHistory := (database.byFiredAt (historyOf tables workerId)).map (fireRecord database)
    activeClaims := (database.anyOrder (claimsOf tables workerId)).map (claimRecord database)
    metadata := orEmpty row.metadata }

def loaded (workerId : JsString) : Result × Tables Instant :=
  match load database tables workerId with
  | none => (.error (.notRegistered workerId), tables)
  | some state => (.ok state, tables)

/-! ### Statements -/

def refused : Result × Tables Instant :=
  (.error .refused, tables)

/-- `JSON.stringify(metadata ?? {})` as `jsonb` -/
def metadataColumn (metadata : Option (List (JsString × JsValue))) : Option JsValue :=
  (JsValue.stringify (.object (metadata.getD []))).bind database.jsonb

/-- The payload as `jsonb`. The inner `none` is `NULL`, which also stands for a value without
a JSON text. -/
def payloadColumn (payload : JsValue) : Option (Option JsValue) :=
  match JsValue.stringify payload with
  | none => some none
  | some text => (database.jsonb text).map some

def registrationRow (registeredAt : Option JsString)
    (metadata : Option (List (JsString × JsValue))) : Option (RegistrationRow Instant) := do
  let registeredAt ← database.instant (registeredAt.getD now)
  let updatedAt ← database.instant now
  let metadata ← metadataColumn database metadata
  return {
    registeredAt, updatedAt, metadata
    lastFiredWindowStart := none
    lastFiredWindowEnd := none }

def fireRow (workerId : JsString) (record : WorkerFireRecord) : Option (FireRow Instant) := do
  let windowStart ← database.instant record.windowStart
  let windowEnd ← database.instant record.windowEnd
  let firedAt ← database.instant record.firedAt
  let payload ← payloadColumn database record.payload
  return { workerId, windowStart, windowEnd, firedAt, payload }

def claimRow (claim : WorkerClaimRecord) : Option (ClaimRow Instant) := do
  let claimedAt ← database.instant claim.claimedAt
  let expiresAt ← database.instant claim.expiresAt
  return { claimedAt, expiresAt }

/-- `UPDATE worker_registrations SET updated_at = $1, ... WHERE worker_id = ...`, and what
the method returns. -/
def touch (workerId : JsString)
    (change : RegistrationRow Instant → RegistrationRow Instant) : Result × Tables Instant :=
  match database.instant now, tables.registrations.get? workerId with
  | none, _ => refused tables
  | some _, none => loaded database tables workerId
  | some updatedAt, some row =>
      loaded database
        { tables with
          registrations := tables.registrations.set workerId (change { row with updatedAt }) }
        workerId

/-! ### Methods -/

def registerWorker (workerId : JsString) (registeredAt : Option JsString)
    (metadata : Option (List (JsString × JsValue))) : Result × Tables Instant :=
  match registrationRow database now registeredAt metadata with
  | none => refused tables
  | some row =>
      -- `ON CONFLICT (worker_id) DO NOTHING`
      match tables.registrations.get? workerId with
      | some _ => loaded database tables workerId
      | none =>
          loaded database
            { tables with registrations := tables.registrations.set workerId row } workerId

def appendFireRecord (workerId : JsString) (record : WorkerFireRecord) : Result × Tables Instant :=
  match tables.registrations.get? workerId with
  | none => (.error (.notRegistered workerId), tables)
  | some _ =>
      match fireRow database workerId record with
      | none => refused tables
      | some fired =>
          touch database { tables with fireHistory := tables.fireHistory ++ [fired] } now workerId
            fun row => { row with
              lastFiredWindowStart := some fired.windowStart
              lastFiredWindowEnd := some fired.windowEnd }

def writeClaim (workerId : JsString) (claim : WorkerClaimRecord) : Result × Tables Instant :=
  match tables.registrations.get? workerId with
  | none => (.error (.notRegistered workerId), tables)
  | some _ =>
      match claimRow database claim with
      | none => refused tables
      | some row =>
          touch database
            { tables with claims := tables.claims.set (workerId, claim.windowId) row } now workerId id

def releaseClaim (workerId windowId : JsString) : Result × Tables Instant :=
  match tables.registrations.get? workerId with
  | none => (.error (.notRegistered workerId), tables)
  | some _ =>
      touch database { tables with claims := tables.claims.delete (workerId, windowId) } now
        workerId id

def step : Call → Result × Tables Instant
  | .registerWorker workerId registeredAt metadata =>
      registerWorker database tables now workerId registeredAt metadata
  | .appendFireRecord workerId record => appendFireRecord database tables now workerId record
  | .writeClaim workerId claim => writeClaim database tables now workerId claim
  | .releaseClaim workerId windowId => releaseClaim database tables now workerId windowId

def getAllWorkers : List WorkerState :=
  (database.byRegisteredAt tables.registrations.entries).filterMap fun entry =>
    load database tables entry.1

end PostgresWorkerStateStore

/-! ## Runs and migrations -/

section Machines

variable {Instant : Type} [LinearOrder Instant]

structure Moment (database : Database Instant) where
  text : JsString
  instant : Instant
  read : database.instant text = some instant

variable (database : Database Instant)

def memoryMachine : Machine MemoryWorkerStateStore (Moment database × Call) Result where
  step store call := store.step call.1.text call.2

def postgresMachine : Machine (Tables Instant) (Moment database × Call) Result where
  step tables call := PostgresWorkerStateStore.step database tables call.1.text call.2

/-- `{ ...metadata }` of an object. -/
def spread : JsValue → List (JsString × JsValue)
  | .object members => members
  | _ => []

def copyCalls (worker : WorkerState) : List Call :=
  .registerWorker worker.workerId (some worker.registeredAt) (some (spread worker.metadata)) ::
    (worker.fireHistory.map (Call.appendFireRecord worker.workerId) ++
      worker.activeClaims.map (Call.writeClaim worker.workerId))

def untilThrow {State : Type} (machine : Machine State (Moment database × Call) Result) :
    State → List (Moment database × Call) → Option StoreError × State
  | state, [] => (none, state)
  | state, call :: rest =>
      match machine.step state call with
      | (.error error, next) => (some error, next)
      | (.ok _, next) => untilThrow machine next rest

/-- `migrateWorkerState`, whose calls are made at the moments of a clock. -/
def migrateWorkerState {State : Type} (machine : Machine State (Moment database × Call) Result)
    (clock : Nat → Moment database) (workers : List WorkerState) (target : State) :
    Except StoreError Nat × State :=
  let calls := workers.flatMap copyCalls
  let timed := calls.mapIdx fun index call => (clock index, call)
  match untilThrow database machine target timed with
  | (some error, state) => (.error error, state)
  | (none, state) => (.ok workers.length, state)

end Machines

end Orbital.WorkerCore.WorkerStateStore
