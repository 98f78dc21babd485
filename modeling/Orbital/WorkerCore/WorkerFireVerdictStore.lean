import Mathlib.Data.List.Sort
import Orbital.Foundation.InsertionMap
import Orbital.Foundation.Machine
import Orbital.WorkerCore.ComputationVerdicts

/-! # `MemoryWorkerVerdictStore.ts`, `PostgresWorkerVerdictStore.ts`, `WorkerFireVerdictStore.ts`

Two stores of verdicts, to which records are only added. A record may supersede an earlier one;
of the records of a window the last one that is not superseded counts.
-/

namespace Orbital.WorkerCore.WorkerFireVerdictStore

open Foundation
open ComputationTrigger (WorkerFireVerdictStatus)

/-! ## Records -/

inductive WorkerVerdictReason
  | rejectedEarlyCall
  | beforeActivation
  | windowAlreadyOpen
  | missingLedger
  | noAttestation
  | attestationInvalid
  | attestationWindowMismatch
  | attestationUnretrievable
  deriving DecidableEq

structure Recorded (Time : Type) where
  recordId : JsString
  windowId : JsString
  workerId : JsString
  operator : JsString
  conditionLedger : Int
  deadlineLedger : Int
  status : WorkerFireVerdictStatus
  reason : Option WorkerVerdictReason
  invocationLedger : Option Int
  invocationTxHash : Option JsString
  latencyLedgers : Option Int
  engineVersion : JsString
  recordedAt : Time
  supersedes : Option JsString
  correctionReason : Option JsString
  deriving DecidableEq

def Recorded.withTime {Time Other : Type} (recorded : Recorded Time) (recordedAt : Other) :
    Recorded Other :=
  { recorded with recordedAt }

abbrev WorkerVerdictRecord := Recorded JsString

abbrev RecordVerdictInput := Recorded (Option JsString)

inductive StoreError
  | missingCorrectionReason (recordId : JsString)
  | duplicateVerdictRecord (recordId : JsString)
  /-- The database takes a value for none of the column's type, or a row that is referred to
  is not there. -/
  | refused
  deriving DecidableEq

def StoreError.message : StoreError → JsString
  | missingCorrectionReason recordId =>
      js "WorkerFireVerdictStore: record \"" ++ recordId ++
        js "\" sets supersedes without a correctionReason."
  | duplicateVerdictRecord recordId =>
      js "WorkerFireVerdictStore: a record with recordId \"" ++ recordId ++
        js "\" already exists. " ++
        js "Verdicts are immutable - write a new record with `supersedes` set instead."
  | refused => js "invalid input or foreign key violation"

structure WorkerVerdictQueryOptions where
  fromLedger : Option Int
  toLedger : Option Int
  latestOnly : Option Bool

inductive Query
  | getLatestForWindow (windowId : JsString)
  | getHistoryForWindow (windowId : JsString)
  | queryByWorker (workerId : JsString) (options : WorkerVerdictQueryOptions)
  | queryByOperator (operator : JsString) (options : WorkerVerdictQueryOptions)
  | queryByLedgerRange (fromLedger toLedger : Int) (latestOnly : Option Bool)

/-- `latestOf`, which both stores have. The sort is stable. -/
def latestOf (localeCompare : JsString → JsString → Int) (history : List WorkerVerdictRecord) :
    Option WorkerVerdictRecord :=
  let superseded := history.filterMap fun record =>
    record.supersedes.filter fun recordId => !recordId.isEmpty
  let notSuperseded := history.filter fun record => record.recordId ∉ superseded
  (notSuperseded.insertionSort fun first second =>
    let byTime := localeCompare first.recordedAt second.recordedAt
    if byTime ≠ 0 then byTime ≤ 0
    else localeCompare first.recordId second.recordId ≤ 0).getLast?

/-- `record`, over what a store writes. -/
def record {Store : Type} (write : WorkerVerdictRecord → Store → Except StoreError Store)
    (now : JsString) (input : RecordVerdictInput) (store : Store) :
    Except StoreError WorkerVerdictRecord × Store :=
  if input.supersedes.isSome ∧ (input.correctionReason.getD []).isEmpty then
    (.error (.missingCorrectionReason input.recordId), store)
  else
    let record := input.withTime (input.recordedAt.getD now)
    match write record store with
    | .ok written => (.ok record, written)
    | .error error => (.error error, store)

/-! ## `MemoryWorkerVerdictStore` -/

structure MemoryWorkerVerdictStore where
  byRecordId : InsertionMap JsString WorkerVerdictRecord
  byWindowId : InsertionMap JsString (List WorkerVerdictRecord)

namespace MemoryWorkerVerdictStore

def empty : MemoryWorkerVerdictStore where
  byRecordId := .empty
  byWindowId := .empty

def write (record : WorkerVerdictRecord) (store : MemoryWorkerVerdictStore) :
    Except StoreError MemoryWorkerVerdictStore :=
  if store.byRecordId.has record.recordId then
    .error (.duplicateVerdictRecord record.recordId)
  else
    .ok {
      byRecordId := store.byRecordId.set record.recordId record
      byWindowId := store.byWindowId.set record.windowId
        ((store.byWindowId.get? record.windowId).getD [] ++ [record]) }

variable (localeCompare : JsString → JsString → Int) (store : MemoryWorkerVerdictStore)

def getHistoryForWindow (windowId : JsString) : List WorkerVerdictRecord :=
  (store.byWindowId.get? windowId).getD []

def getLatestForWindow (windowId : JsString) : Option WorkerVerdictRecord :=
  latestOf localeCompare (store.getHistoryForWindow windowId)

def within (fromLedger toLedger : Option Int) (record : WorkerVerdictRecord) : Bool :=
  fromLedger.all (· ≤ record.deadlineLedger) && toLedger.all (record.conditionLedger ≤ ·)

def query (selects : WorkerVerdictRecord → Bool) (options : WorkerVerdictQueryOptions) :
    List WorkerVerdictRecord :=
  let selected := store.byRecordId.values.filter fun record =>
    selects record && within options.fromLedger options.toLedger record
  if options.latestOnly.getD true then
    (selected.map Recorded.windowId).eraseDups.filterMap fun windowId =>
      (store.getLatestForWindow localeCompare windowId).filter selects
  else selected

/-- What a query answers: the list, or the one record of `getLatestForWindow`. -/
def answer : Query → List WorkerVerdictRecord
  | .getLatestForWindow windowId => (store.getLatestForWindow localeCompare windowId).toList
  | .getHistoryForWindow windowId => store.getHistoryForWindow windowId
  | .queryByWorker workerId options =>
      store.query localeCompare (fun record => record.workerId = workerId) options
  | .queryByOperator operator options =>
      store.query localeCompare (fun record => record.operator = operator) options
  | .queryByLedgerRange fromLedger toLedger latestOnly =>
      store.query localeCompare
        (fun record => record.conditionLedger ≤ toLedger && fromLedger ≤ record.deadlineLedger)
        ⟨none, none, latestOnly⟩

end MemoryWorkerVerdictStore

/-! ## `PostgresWorkerVerdictStore` -/

/-- What a `BIGINT` column takes. -/
def IsBigint (value : Int) : Prop :=
  -2 ^ 63 ≤ value ∧ value < 2 ^ 63

instance (value : Int) : Decidable (IsBigint value) :=
  inferInstanceAs (Decidable (_ ∧ _))

/-- The database and its client: what a `TIMESTAMPTZ` column takes and how the client shows
it. -/
structure Database (Instant : Type) where
  instant : JsString → Option Instant
  shown : Instant → JsString

structure Arrangement (Instant : Type) [LinearOrder Instant] where
  /-- A statement without `ORDER BY`. -/
  selected : List (Recorded Instant) → List (Recorded Instant)
  selected_perm : ∀ rows, (selected rows).Perm rows
  /-- `ORDER BY recorded_at ASC` -/
  ordered : List (Recorded Instant) → List (Recorded Instant)
  ordered_perm : ∀ rows, (ordered rows).Perm rows
  ordered_sorted : ∀ rows,
    (ordered rows).Pairwise fun row later => row.recordedAt ≤ later.recordedAt

/-- The table `worker_verdicts`. -/
abbrev PostgresWorkerVerdictStore (Instant : Type) := List (Recorded Instant)

namespace PostgresWorkerVerdictStore

variable {Instant : Type} (database : Database Instant)

def rowToRecord (row : Recorded Instant) : WorkerVerdictRecord :=
  row.withTime (database.shown row.recordedAt)

def Fits {Time : Type} (recorded : Recorded Time) : Prop :=
  IsBigint recorded.conditionLedger ∧ IsBigint recorded.deadlineLedger ∧
    (∀ ledger ∈ recorded.invocationLedger, IsBigint ledger) ∧
    ∀ ledgers ∈ recorded.latencyLedgers, IsBigint ledgers

instance {Time : Type} (recorded : Recorded Time) : Decidable (Fits recorded) :=
  inferInstanceAs (Decidable (_ ∧ _ ∧ _ ∧ _))

def toRow (record : WorkerVerdictRecord) : Option (Recorded Instant) :=
  if Fits record then (database.instant record.recordedAt).map record.withTime else none

/-- `REFERENCES worker_verdicts(record_id)`; a row may refer to itself. -/
def Refers (rows : PostgresWorkerVerdictStore Instant) (row : Recorded Instant) : Prop :=
  ∀ recordId ∈ row.supersedes, recordId = row.recordId ∨ recordId ∈ rows.map Recorded.recordId

instance (rows : PostgresWorkerVerdictStore Instant) (row : Recorded Instant) :
    Decidable (Refers rows row) :=
  inferInstanceAs (Decidable (∀ _ ∈ _, _ ∨ _))

/-- `INSERT INTO worker_verdicts` -/
def write (record : WorkerVerdictRecord) (rows : PostgresWorkerVerdictStore Instant) :
    Except StoreError (PostgresWorkerVerdictStore Instant) :=
  match toRow database record with
  | none => .error .refused
  | some row =>
      if record.recordId ∈ rows.map Recorded.recordId then
        .error (.duplicateVerdictRecord record.recordId)
      else if Refers rows row then .ok (rows ++ [row])
      else .error .refused

variable [LinearOrder Instant] (arrangement : Arrangement Instant)
  (localeCompare : JsString → JsString → Int) (rows : PostgresWorkerVerdictStore Instant)

def getHistoryForWindow (windowId : JsString) : List WorkerVerdictRecord :=
  (arrangement.ordered (rows.filter (·.windowId = windowId))).map (rowToRecord database)

def getLatestForWindow (windowId : JsString) : Option WorkerVerdictRecord :=
  latestOf localeCompare (getHistoryForWindow database arrangement rows windowId)

/-- `condition` is what stands behind `WHERE`. -/
def runLatestOnlyAwareQuery (condition : Recorded Instant → Bool) (latestOnly : Bool) :
    List WorkerVerdictRecord :=
  let records := (arrangement.selected (rows.filter condition)).map (rowToRecord database)
  if latestOnly then
    (records.map Recorded.windowId).eraseDups.filterMap
      (getLatestForWindow database arrangement localeCompare rows)
  else records

/-- The database takes no bound that is no `BIGINT`. -/
def queryBy (column : Recorded Instant → JsString) (value : JsString)
    (options : WorkerVerdictQueryOptions) : Except StoreError (List WorkerVerdictRecord) :=
  if (∀ ledger ∈ options.fromLedger, IsBigint ledger) ∧
      ∀ ledger ∈ options.toLedger, IsBigint ledger then
    .ok (runLatestOnlyAwareQuery database arrangement localeCompare rows
      (fun row => column row = value && options.fromLedger.all (· ≤ row.deadlineLedger) &&
        options.toLedger.all (row.conditionLedger ≤ ·))
      (options.latestOnly.getD true))
  else .error .refused

def queryByLedgerRange (fromLedger toLedger : Int) (latestOnly : Option Bool) :
    Except StoreError (List WorkerVerdictRecord) :=
  if IsBigint fromLedger ∧ IsBigint toLedger then
    .ok (runLatestOnlyAwareQuery database arrangement localeCompare rows
      (fun row => row.conditionLedger ≤ toLedger && fromLedger ≤ row.deadlineLedger)
      (latestOnly.getD true))
  else .error .refused

def answer : Query → Except StoreError (List WorkerVerdictRecord)
  | .getLatestForWindow windowId =>
      .ok (getLatestForWindow database arrangement localeCompare rows windowId).toList
  | .getHistoryForWindow windowId =>
      .ok (getHistoryForWindow database arrangement rows windowId)
  | .queryByWorker workerId options =>
      queryBy database arrangement localeCompare rows Recorded.workerId workerId options
  | .queryByOperator operator options =>
      queryBy database arrangement localeCompare rows Recorded.operator operator options
  | .queryByLedgerRange fromLedger toLedger latestOnly =>
      queryByLedgerRange database arrangement localeCompare rows fromLedger toLedger latestOnly

end PostgresWorkerVerdictStore

/-! ## Both stores -/

structure Call where
  now : JsString
  input : RecordVerdictInput

structure Stores (Instant : Type) where
  memory : MemoryWorkerVerdictStore
  postgres : PostgresWorkerVerdictStore Instant

def Stores.empty {Instant : Type} : Stores Instant where
  memory := .empty
  postgres := []

structure Returned where
  memory : Except StoreError WorkerVerdictRecord
  postgres : Except StoreError WorkerVerdictRecord

def bothStores {Instant : Type} (database : Database Instant) :
    Machine (Stores Instant) Call Returned where
  step stores call :=
    let inMemory := record MemoryWorkerVerdictStore.write call.now call.input stores.memory
    let inPostgres :=
      record (PostgresWorkerVerdictStore.write database) call.now call.input stores.postgres
    (⟨inMemory.1, inPostgres.1⟩, ⟨inMemory.2, inPostgres.2⟩)

end Orbital.WorkerCore.WorkerFireVerdictStore

/-! ## When the two stores of verdicts agree

They hold the same records as long as the database keeps every record and the records of a
window come in the order of their times. A query is answered alike when the orders that its
statements leave open make no difference, and when what counts for a window is selected itself.
-/

namespace Orbital.WorkerCore.WorkerFireVerdictStore

open Foundation
open PostgresWorkerVerdictStore (rowToRecord toRow Refers)

variable {Instant : Type} [LinearOrder Instant] (database : Database Instant)
  (localeCompare : JsString → JsString → Int)

/-! ## The conditions -/

def Call.record (call : Call) : WorkerVerdictRecord :=
  call.input.withTime (call.input.recordedAt.getD call.now)

def Call.Unexplained (call : Call) : Prop :=
  call.input.supersedes.isSome ∧ (call.input.correctionReason.getD []).isEmpty

/-- Both refuse the call, or the database takes the record, shows its time as it was written,
finds the record that is superseded, and has recorded all others of the window earlier. -/
def Storable (stores : Stores Instant) (call : Call) : Prop :=
  call.Unexplained ∨ call.record.recordId ∈ stores.postgres.map Recorded.recordId ∨
    ∃ row, toRow database call.record = some row ∧
      database.shown row.recordedAt = call.record.recordedAt ∧ Refers stores.postgres row ∧
      ∀ earlier ∈ stores.postgres, earlier.windowId = row.windowId →
        earlier.recordedAt < row.recordedAt

/-- Whatever the orders, the database answers as the memory does. -/
def AnswersAlike (stores : Stores Instant) (query : Query) : Prop :=
  ∀ arrangement : Arrangement Instant,
    PostgresWorkerVerdictStore.answer database arrangement localeCompare stores.postgres query =
      .ok (stores.memory.answer localeCompare query)

section Settled

variable (store : MemoryWorkerVerdictStore)

/-- One record at most is found, and when only the latest count, it is selected itself. -/
def SettledIn (selects : WorkerVerdictRecord → Bool) (options : WorkerVerdictQueryOptions) : Prop :=
  let selected := store.byRecordId.values.filter fun record =>
    selects record && MemoryWorkerVerdictStore.within options.fromLedger options.toLedger record
  if options.latestOnly.getD true then
    let latest := (selected.map Recorded.windowId).eraseDups.filterMap
      (store.getLatestForWindow localeCompare)
    latest.length ≤ 1 ∧ ∀ record ∈ latest, selects record = true
  else selected.length ≤ 1

def Settled : Query → Prop
  | .getLatestForWindow _ | .getHistoryForWindow _ => True
  | .queryByWorker workerId options =>
      ((∀ ledger ∈ options.fromLedger, IsBigint ledger) ∧
        ∀ ledger ∈ options.toLedger, IsBigint ledger) ∧
      SettledIn localeCompare store (fun record => record.workerId = workerId) options
  | .queryByOperator operator options =>
      ((∀ ledger ∈ options.fromLedger, IsBigint ledger) ∧
        ∀ ledger ∈ options.toLedger, IsBigint ledger) ∧
      SettledIn localeCompare store (fun record => record.operator = operator) options
  | .queryByLedgerRange fromLedger toLedger latestOnly =>
      (IsBigint fromLedger ∧ IsBigint toLedger) ∧
      SettledIn localeCompare store
        (fun record => record.conditionLedger ≤ toLedger && fromLedger ≤ record.deadlineLedger)
        ⟨none, none, latestOnly⟩

end Settled

/-! ## Stores with the same records -/

structure Alike (stores : Stores Instant) : Prop where
  values : stores.memory.byRecordId.values = stores.postgres.map (rowToRecord database)
  has : ∀ recordId, stores.memory.byRecordId.has recordId = true ↔
    recordId ∈ stores.postgres.map Recorded.recordId
  windows : ∀ windowId, stores.memory.getHistoryForWindow windowId =
    (stores.postgres.filter (·.windowId = windowId)).map (rowToRecord database)
  different : (stores.postgres.map Recorded.recordId).Nodup
  ordered : stores.postgres.Pairwise fun row later =>
    row.windowId = later.windowId → row.recordedAt < later.recordedAt

theorem alike_empty : Alike database Stores.empty where
  values := rfl
  has := by
    intro recordId
    constructor
    · intro never
      cases never
    · intro never
      cases never
  windows := fun _ => rfl
  different := List.nodup_nil
  ordered := .nil

variable {database localeCompare} {stores : Stores Instant}

theorem Alike.ordered_window (alike : Alike database stores) (windowId : JsString) :
    (stores.postgres.filter (·.windowId = windowId)).Pairwise fun row later =>
      row.recordedAt < later.recordedAt := by
  apply List.Pairwise.imp_of_mem _ (alike.ordered.sublist List.filter_sublist)
  intro row later member memberToo earlier
  have inWindow := (List.mem_filter.mp member).2
  have inWindowToo := (List.mem_filter.mp memberToo).2
  rw [decide_eq_true_eq] at inWindow inWindowToo
  exact earlier (inWindow.trans inWindowToo.symm)

theorem Alike.ordered_eq (alike : Alike database stores) (arrangement : Arrangement Instant)
    (windowId : JsString) :
    arrangement.ordered (stores.postgres.filter (·.windowId = windowId)) =
      stores.postgres.filter (·.windowId = windowId) :=
  StableSort.arranged_eq ((alike.ordered_window windowId).imp Or.inr)
    (arrangement.ordered_sorted _) (arrangement.ordered_perm _)

theorem Alike.history (alike : Alike database stores) (arrangement : Arrangement Instant)
    (windowId : JsString) :
    PostgresWorkerVerdictStore.getHistoryForWindow database arrangement stores.postgres windowId =
      stores.memory.getHistoryForWindow windowId := by
  rw [PostgresWorkerVerdictStore.getHistoryForWindow, alike.ordered_eq, alike.windows]

theorem Alike.latest (alike : Alike database stores) (arrangement : Arrangement Instant) :
    PostgresWorkerVerdictStore.getLatestForWindow database arrangement localeCompare
      stores.postgres = stores.memory.getLatestForWindow localeCompare := by
  funext windowId
  rw [PostgresWorkerVerdictStore.getLatestForWindow, alike.history,
    MemoryWorkerVerdictStore.getLatestForWindow]

theorem mem_of_latestOf {history : List WorkerVerdictRecord} {record : WorkerVerdictRecord}
    (isLatest : latestOf localeCompare history = some record) : record ∈ history := by
  have inside := List.mem_of_getLast? isLatest
  rw [List.mem_insertionSort] at inside
  exact (List.mem_filter.mp inside).1

theorem Alike.latest_windowId (alike : Alike database stores) (windowId : JsString)
    (record : WorkerVerdictRecord)
    (isLatest : stores.memory.getLatestForWindow localeCompare windowId = some record) :
    record.windowId = windowId := by
  have inside := mem_of_latestOf isLatest
  rw [alike.windows] at inside
  rcases List.mem_map.mp inside with ⟨row, member, rfl⟩
  have inWindow := (List.mem_filter.mp member).2
  rw [decide_eq_true_eq] at inWindow
  exact inWindow

/-! ## Queries -/

def Arrangement.giving (target order : List (Recorded Instant)) (perm : order.Perm target) :
    Arrangement Instant where
  selected := fun rows => if rows = target then order else rows
  selected_perm := by
    intro rows
    split
    · rename_i same
      rw [same]
      exact perm
    · exact .refl rows
  ordered := List.insertionSort fun row later => row.recordedAt ≤ later.recordedAt
  ordered_perm := List.perm_insertionSort _
  ordered_sorted := StableSort.pairwise_byTime

theorem forall_selected (target : List (Recorded Instant))
    (Holds : List (Recorded Instant) → Prop) :
    (∀ arrangement : Arrangement Instant, Holds (arrangement.selected target)) ↔
      ∀ order : List (Recorded Instant), order.Perm target → Holds order := by
  constructor
  · intro holds order perm
    have given := holds (.giving target order perm)
    have isGiven : (Arrangement.giving target order perm).selected target = order := if_pos rfl
    rw [isGiven] at given
    exact given
  · exact fun holds arrangement => holds _ (arrangement.selected_perm target)

section Query

variable {condition : Recorded Instant → Bool} {selects : WorkerVerdictRecord → Bool}
  {options : WorkerVerdictQueryOptions}

def Translates (database : Database Instant) (condition : Recorded Instant → Bool)
    (selects : WorkerVerdictRecord → Bool) (options : WorkerVerdictQueryOptions) : Prop :=
  ∀ row, condition row = (selects (rowToRecord database row) &&
    MemoryWorkerVerdictStore.within options.fromLedger options.toLedger (rowToRecord database row))

theorem Alike.selected (alike : Alike database stores)
    (translates : Translates database condition selects options) :
    (stores.memory.byRecordId.values.filter fun record => selects record &&
      MemoryWorkerVerdictStore.within options.fromLedger options.toLedger record) =
    (stores.postgres.filter condition).map (rowToRecord database) := by
  rw [alike.values, List.filter_map]
  congr 2
  funext row
  exact (translates row).symm

omit [LinearOrder Instant] in
theorem map_windowId (rows : List (Recorded Instant)) :
    (rows.map (rowToRecord database)).map Recorded.windowId = rows.map Recorded.windowId := by
  rw [List.map_map]
  rfl

theorem Alike.nodup_selected (alike : Alike database stores) :
    ((stores.postgres.filter condition).map (rowToRecord database)).Nodup := by
  apply List.Nodup.of_map Recorded.recordId
  rw [List.map_map]
  exact alike.different.sublist (List.filter_sublist.map _)

theorem query_alike_iff (alike : Alike database stores)
    (translates : Translates database condition selects options) :
    (∀ arrangement : Arrangement Instant,
      PostgresWorkerVerdictStore.runLatestOnlyAwareQuery database arrangement localeCompare
        stores.postgres condition (options.latestOnly.getD true) =
      stores.memory.query localeCompare selects options) ↔
    SettledIn localeCompare stores.memory selects options := by
  unfold PostgresWorkerVerdictStore.runLatestOnlyAwareQuery MemoryWorkerVerdictStore.query
    SettledIn
  rw [alike.selected translates]
  cases options.latestOnly.getD true with
  | true =>
      have picks := AnyOrder.filterMap_filter Recorded.windowId
        (stores.memory.getLatestForWindow localeCompare) selects
        (stores.postgres.filter condition)
      simp only [if_true, alike.latest, map_windowId]
      rw [picks]
      exact (forall_selected _ fun order =>
        AnyOrder.latestEach Recorded.windowId
          (stores.memory.getLatestForWindow localeCompare) order = _).trans
        (AnyOrder.forall_latestEach_iff alike.latest_windowId selects _)
  | false =>
      simp only [Bool.false_eq_true, if_false, List.length_map]
      exact (forall_selected _ fun order => order.map (rowToRecord database) = _).trans
        (AnyOrder.forall_map_eq_iff alike.nodup_selected)

end Query

/-! ## Calls -/

section Calls

variable {call : Call} {row : Recorded Instant}

def Stores.added (stores : Stores Instant) (record : WorkerVerdictRecord)
    (rows : PostgresWorkerVerdictStore Instant) : Stores Instant where
  memory := {
    byRecordId := stores.memory.byRecordId.set record.recordId record
    byWindowId := stores.memory.byWindowId.set record.windowId
      (stores.memory.getHistoryForWindow record.windowId ++ [record]) }
  postgres := rows

def inserted (database : Database Instant) (record : WorkerVerdictRecord)
    (rows : PostgresWorkerVerdictStore Instant) : PostgresWorkerVerdictStore Instant :=
  match toRow database record with
  | none => rows
  | some row => if Refers rows row then rows ++ [row] else rows

omit [LinearOrder Instant] in
theorem step_unexplained (unexplained : call.Unexplained) :
    ((bothStores database).step stores call).2 = stores := by
  rw [Call.Unexplained] at unexplained
  show Stores.mk (record _ _ _ _).2 (record _ _ _ _).2 = stores
  rw [record, if_pos unexplained, record, if_pos unexplained]

theorem record_explained {Store : Type}
    {write : WorkerVerdictRecord → Store → Except StoreError Store} {store : Store}
    (explained : ¬ call.Unexplained) :
    (record write call.now call.input store).2 =
      (write call.record store).toOption.getD store := by
  rw [Call.Unexplained] at explained
  rw [record, if_neg explained, ← Call.record]
  dsimp only
  cases write call.record store <;> rfl

theorem step_repeated (alike : Alike database stores) (explained : ¬ call.Unexplained)
    (repeated : call.record.recordId ∈ stores.postgres.map Recorded.recordId) :
    ((bothStores database).step stores call).2 = stores := by
  show Stores.mk (record _ _ _ _).2 (record _ _ _ _).2 = stores
  rw [record_explained explained, record_explained explained, MemoryWorkerVerdictStore.write,
    if_pos ((alike.has _).mpr repeated), PostgresWorkerVerdictStore.write]
  cases toRow database call.record with
  | none => rfl
  | some row =>
      dsimp only
      rw [if_pos repeated]
      rfl

theorem step_fresh (alike : Alike database stores) (explained : ¬ call.Unexplained)
    (fresh : call.record.recordId ∉ stores.postgres.map Recorded.recordId) :
    ((bothStores database).step stores call).2 =
      stores.added call.record (inserted database call.record stores.postgres) := by
  show Stores.mk (record _ _ _ _).2 (record _ _ _ _).2 = _
  rw [record_explained explained, record_explained explained, MemoryWorkerVerdictStore.write,
    if_neg fun has => fresh ((alike.has _).mp has), PostgresWorkerVerdictStore.write, inserted]
  cases toRow database call.record with
  | none => rfl
  | some row =>
      dsimp only
      rw [if_neg fresh]
      by_cases refers : Refers stores.postgres row
      · rw [if_pos refers, if_pos refers]
        rfl
      · rw [if_neg refers, if_neg refers]
        rfl

omit [LinearOrder Instant] in
theorem toRow_eq {record : WorkerVerdictRecord} (isRow : toRow database record = some row) :
    row.recordId = record.recordId ∧ row.windowId = record.windowId ∧
      rowToRecord database row = record.withTime (database.shown row.recordedAt) := by
  rw [toRow] at isRow
  split at isRow
  · rcases Option.map_eq_some_iff.mp isRow with ⟨instant, _, rfl⟩
    exact ⟨rfl, rfl, rfl⟩
  · cases isRow

theorem Alike.history_added (alike : Alike database stores) (record : WorkerVerdictRecord)
    (rows : PostgresWorkerVerdictStore Instant) (windowId : JsString) :
    (stores.added record rows).memory.getHistoryForWindow windowId =
      (stores.postgres.filter (·.windowId = windowId)).map (rowToRecord database) ++
        if windowId = record.windowId then [record] else [] := by
  show ((stores.memory.byWindowId.set record.windowId _).get? windowId).getD [] = _
  rw [InsertionMap.get?_set]
  by_cases same : windowId = record.windowId
  · rw [if_pos same, if_pos same, Option.getD_some, alike.windows, same]
  · rw [if_neg same, if_neg same, List.append_nil, ← alike.windows]
    rfl

theorem added_kept (alike : Alike database stores) {record : WorkerVerdictRecord}
    (fresh : record.recordId ∉ stores.postgres.map Recorded.recordId)
    (isRow : toRow database record = some row)
    (shown : database.shown row.recordedAt = record.recordedAt)
    (later : ∀ earlier ∈ stores.postgres, earlier.windowId = row.windowId →
      earlier.recordedAt < row.recordedAt) :
    Alike database (stores.added record (stores.postgres ++ [row])) := by
  rcases toRow_eq isRow with ⟨sameId, sameWindow, read⟩
  rw [shown] at read
  have reads : rowToRecord database row = record := read
  have absent : stores.memory.byRecordId.get? record.recordId = none := by
    apply Option.not_isSome_iff_eq_none.mp
    exact fun has => fresh ((alike.has _).mp has)
  constructor
  · show (stores.memory.byRecordId.set record.recordId record).values = _
    rw [InsertionMap.values_set_of_absent absent, alike.values, Stores.added, List.map_append,
      List.map_singleton, reads]
  · intro recordId
    show ((stores.memory.byRecordId.set record.recordId record).get? recordId).isSome = true ↔
      recordId ∈ (stores.postgres ++ [row]).map Recorded.recordId
    rw [InsertionMap.get?_set, List.map_append, List.mem_append, List.map_singleton, sameId,
      List.mem_singleton]
    by_cases same : recordId = record.recordId
    · rw [if_pos same]
      exact iff_of_true rfl (Or.inr same)
    · rw [if_neg same, or_iff_left same]
      exact alike.has recordId
  · intro windowId
    rw [alike.history_added, Stores.added, List.filter_append, List.map_append]
    congr 1
    by_cases same : windowId = record.windowId
    · rw [if_pos same, List.filter_cons_of_pos (by simp [sameWindow, same]), List.filter_nil,
        List.map_singleton, reads]
    · rw [if_neg same, List.filter_cons_of_neg (by simpa [sameWindow] using Ne.symm same),
        List.filter_nil, List.map_nil]
  · show ((stores.postgres ++ [row]).map Recorded.recordId).Nodup
    rw [List.map_append, List.map_singleton, sameId]
    exact List.Nodup.append alike.different (List.nodup_singleton _)
      (List.disjoint_singleton.mpr fresh)
  · show (stores.postgres ++ [row]).Pairwise _
    rw [List.pairwise_append]
    refine ⟨alike.ordered, List.pairwise_singleton _ _, ?_⟩
    intro earlier member last isLast
    rw [List.mem_singleton.mp isLast]
    exact later earlier member

theorem Alike.kept (alike : Alike database stores) (storable : Storable database stores call) :
    Alike database ((bothStores database).step stores call).2 := by
  by_cases unexplained : call.Unexplained
  · rw [step_unexplained unexplained]
    exact alike
  · by_cases repeated : call.record.recordId ∈ stores.postgres.map Recorded.recordId
    · rw [step_repeated alike unexplained repeated]
      exact alike
    · rcases storable with never | never | ⟨row, isRow, shown, refers, later⟩
      · exact absurd never unexplained
      · exact absurd never repeated
      · rw [step_fresh alike unexplained repeated, inserted, isRow]
        dsimp only
        rw [if_pos refers]
        exact added_kept alike repeated isRow shown later

def Arrangement.backwards : Arrangement Instant where
  selected := id
  selected_perm := List.Perm.refl
  ordered := fun rows =>
    rows.reverse.insertionSort fun row later => row.recordedAt ≤ later.recordedAt
  ordered_perm := fun rows => (List.perm_insertionSort _ _).trans (List.reverse_perm rows)
  ordered_sorted := fun rows => StableSort.pairwise_byTime rows.reverse

theorem backwards_ordered {rows : List (Recorded Instant)}
    (ordered : rows.Pairwise fun row later => row.recordedAt < later.recordedAt)
    (early : ∃ other ∈ rows, row.recordedAt ≤ other.recordedAt) :
    (Arrangement.backwards.ordered (rows ++ [row])).getLast? = rows.getLast? := by
  have stays : (rows.reverse.insertionSort fun row later => row.recordedAt ≤ later.recordedAt) =
      rows := by
    apply @StableSort.arranged_eq _ _ _ Recorded.recordedAt _ _ (ordered.imp Or.inr)
    · exact StableSort.pairwise_byTime rows.reverse
    · exact (List.perm_insertionSort _ _).trans (List.reverse_perm rows)
  show ((rows ++ [row]).reverse.insertionSort _).getLast? = _
  rw [List.reverse_append, List.reverse_singleton, List.singleton_append, List.insertionSort_cons,
    stays]
  exact StableSort.getLast?_orderedInsert early

/-- Behind a call that does not meet the condition a history is not the same. -/
theorem Alike.lost (alike : Alike database stores) (refused : ¬ Storable database stores call) :
    ∃ windowId, ¬ AnswersAlike database localeCompare
      ((bothStores database).step stores call).2 (.getHistoryForWindow windowId) := by
  have explained : ¬ call.Unexplained := fun unexplained => refused (Or.inl unexplained)
  have fresh : call.record.recordId ∉ stores.postgres.map Recorded.recordId :=
    fun repeated => refused (Or.inr (Or.inl repeated))
  refine ⟨call.record.windowId, ?_⟩
  rw [step_fresh alike explained fresh]
  intro alikeToo
  have histories : ∀ arrangement : Arrangement Instant,
      (arrangement.ordered ((inserted database call.record stores.postgres).filter
        (·.windowId = call.record.windowId))).map (rowToRecord database) =
      (stores.postgres.filter (·.windowId = call.record.windowId)).map (rowToRecord database) ++
        [call.record] := by
    intro arrangement
    have same := Except.ok.inj (alikeToo arrangement)
    rw [MemoryWorkerVerdictStore.answer, alike.history_added, if_pos rfl] at same
    exact same
  -- Where the table stays as it was, it lacks the record.
  have missing : inserted database call.record stores.postgres ≠ stores.postgres := by
    intro unchanged
    rw [unchanged] at histories
    have lengths := congrArg List.length (histories Arrangement.backwards)
    rw [List.length_map, (Arrangement.backwards.ordered_perm _).length_eq, List.length_append,
      List.length_map, List.length_singleton] at lengths
    omega
  rw [inserted] at missing histories
  cases isRow : toRow database call.record with
  | none =>
      rw [isRow] at missing
      exact missing rfl
  | some row =>
      rw [isRow] at missing histories
      dsimp only at missing histories
      by_cases refers : Refers stores.postgres row
      · rcases toRow_eq isRow with ⟨sameId, sameWindow, read⟩
        have notOld : ∀ other ∈ stores.postgres, other.recordId ≠ call.record.recordId := by
          intro other member same
          exact fresh (same ▸ List.mem_map_of_mem member)
        rw [if_pos refers, List.filter_append,
          List.filter_cons_of_pos (by simpa using sameWindow), List.filter_nil] at histories
        apply refused
        refine Or.inr (Or.inr ⟨row, isRow, ?_, refers, ?_⟩)
        · have inside : call.record ∈ (Arrangement.backwards.ordered
              ((stores.postgres.filter (·.windowId = call.record.windowId)) ++ [row])).map
                (rowToRecord database) := by
            rw [histories]
            exact List.mem_append_right _ List.mem_cons_self
          rcases List.mem_map.mp inside with ⟨other, member, isRecord⟩
          rw [(Arrangement.backwards.ordered_perm _).mem_iff, List.mem_append,
            List.mem_singleton] at member
          rcases member with old | rfl
          · exact absurd (congrArg Recorded.recordId isRecord)
              (notOld other (List.mem_of_mem_filter old))
          · exact congrArg Recorded.recordedAt isRecord
        · intro earlier member inWindow
          by_contra notEarlier
          have last := @backwards_ordered _ _ row _ (alike.ordered_window call.record.windowId)
            ⟨earlier, List.mem_filter.mpr ⟨member, by simpa [sameWindow] using inWindow⟩,
              not_lt.mp notEarlier⟩
          have lastToo := congrArg List.getLast? (histories Arrangement.backwards)
          rw [List.getLast?_map, last, List.getLast?_concat] at lastToo
          rcases Option.map_eq_some_iff.mp lastToo with ⟨other, isLast, isRecord⟩
          have old := List.mem_of_getLast? isLast
          exact notOld other (List.mem_of_mem_filter old) (congrArg Recorded.recordId isRecord)
      · rw [if_neg refers] at missing
        exact missing rfl

end Calls

/-! ## The stores agree -/

/-- A bound that is no `BIGINT` is refused, whatever the order. -/
theorem bounded_iff {Bounded Alone : Prop} [Decidable Bounded]
    {found : Arrangement Instant → List WorkerVerdictRecord}
    {expected : List WorkerVerdictRecord}
    (iff : (∀ arrangement, found arrangement = expected) ↔ Alone) :
    (∀ arrangement, (if Bounded then .ok (found arrangement) else .error .refused) =
      (.ok expected : Except StoreError (List WorkerVerdictRecord))) ↔ Bounded ∧ Alone := by
  by_cases bounded : Bounded
  · rw [and_iff_right bounded, ← iff]
    apply forall_congr'
    intro arrangement
    rw [if_pos bounded, Except.ok.injEq]
  · apply iff_of_false
    · intro never
      have refused := never Arrangement.backwards
      rw [if_neg bounded] at refused
      cases refused
    · exact fun never => bounded never.1

theorem Alike.answers_iff (alike : Alike database stores) (query : Query) :
    AnswersAlike database localeCompare stores query ↔
      Settled localeCompare stores.memory query := by
  cases query with
  | getLatestForWindow windowId =>
      apply iff_of_true _ trivial
      intro arrangement
      rw [PostgresWorkerVerdictStore.answer, alike.latest, MemoryWorkerVerdictStore.answer]
  | getHistoryForWindow windowId =>
      apply iff_of_true _ trivial
      intro arrangement
      rw [PostgresWorkerVerdictStore.answer, alike.history, MemoryWorkerVerdictStore.answer]
  | queryByWorker workerId options | queryByOperator operator options =>
      exact bounded_iff (query_alike_iff alike fun row => Bool.and_assoc _ _ _)
  | queryByLedgerRange fromLedger toLedger latestOnly =>
      have translates : Translates database
          (fun row => row.conditionLedger ≤ toLedger && fromLedger ≤ row.deadlineLedger)
          (fun record => record.conditionLedger ≤ toLedger && fromLedger ≤ record.deadlineLedger)
          ⟨none, none, latestOnly⟩ :=
        fun row => (Bool.and_true _).symm
      exact bounded_iff (query_alike_iff alike translates)

/-- All histories on the way and the query at the end are answered alike exactly when every call
is storable and the query is settled. -/
theorem verdict_stores_agree_iff (database : Database Instant)
    (localeCompare : JsString → JsString → Int) (calls : List Call) (query : Query) :
    ((∀ front, front <+: calls → ∀ windowId, AnswersAlike database localeCompare
        ((bothStores database).after Stores.empty front) (.getHistoryForWindow windowId)) ∧
      AnswersAlike database localeCompare ((bothStores database).after Stores.empty calls) query) ↔
    (bothStores database).Meets (Storable database) Stores.empty calls ∧
      Settled localeCompare ((bothStores database).after Stores.empty calls).memory query := by
  have lost : ∀ {stores : Stores Instant} {call : Call}, Alike database stores →
      ¬ Storable database stores call → ¬ ∀ windowId, AnswersAlike database localeCompare
        ((bothStores database).step stores call).2 (.getHistoryForWindow windowId) := by
    intro stores call alike refused throughout
    rcases alike.lost refused with ⟨windowId, differs⟩
    exact differs (throughout windowId)
  have histories := @Machine.throughout_iff _ _ _ (bothStores database) (Alike database)
    (fun stores => ∀ windowId,
      AnswersAlike database localeCompare stores (.getHistoryForWindow windowId))
    (Storable database) (fun alike windowId => (alike.answers_iff _).mpr trivial) Alike.kept lost
    Stores.empty (alike_empty database) calls
  rw [histories]
  apply and_congr_right
  intro meets
  exact (Machine.invariant_of_meets Alike.kept (alike_empty database) meets).answers_iff query

/-! ### A correction that names another worker -/

def textDatabase : Database (List Nat) where
  instant := fun text => some (text.map UInt16.toNat)
  shown := fun instant => instant.map UInt16.ofNat

def firstVerdict : Call where
  now := js "2026-01-01T00:00:00.000Z"
  input := {
    recordId := js "w1:ev-1:v1"
    windowId := js "w1:ev-1"
    workerId := js "w1"
    operator := js "GOPERATOR"
    conditionLedger := 100
    deadlineLedger := 110
    status := .fired
    reason := none
    invocationLedger := some 105
    invocationTxHash := none
    latencyLedgers := none
    engineVersion := js "@orbital-stellar/worker-core@0.1.0"
    recordedAt := none
    supersedes := none
    correctionReason := none }

def correctedVerdict : Call where
  now := js "2026-01-02T00:00:00.000Z"
  input := { firstVerdict.input with
    recordId := js "w1:ev-1:v2"
    workerId := js "w2"
    supersedes := some (js "w1:ev-1:v1")
    correctionReason := some (js "wrong worker") }

/-- The memory answers that `w1` has no verdict, the database with the verdict of `w2`. -/
theorem verdict_of_another_worker :
    ¬ ∀ (calls : List Call) (query : Query), AnswersAlike textDatabase (fun _ _ => 0)
      ((bothStores textDatabase).after Stores.empty calls) query := by
  intro alike
  have same := alike [firstVerdict, correctedVerdict]
    (.queryByWorker (js "w1") ⟨none, none, none⟩) Arrangement.backwards
  have inDatabase : PostgresWorkerVerdictStore.answer textDatabase Arrangement.backwards
      (fun _ _ => 0) ((bothStores textDatabase).after Stores.empty
        [firstVerdict, correctedVerdict]).postgres
      (.queryByWorker (js "w1") ⟨none, none, none⟩) = .ok [correctedVerdict.record] := by
    decide
  have inMemory : ((bothStores textDatabase).after Stores.empty
      [firstVerdict, correctedVerdict]).memory.answer (fun _ _ => 0)
      (.queryByWorker (js "w1") ⟨none, none, none⟩) = [] := by
    decide
  rw [inDatabase, inMemory] at same
  cases same

end Orbital.WorkerCore.WorkerFireVerdictStore
