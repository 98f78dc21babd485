import Mathlib.Data.List.Forall2
import Mathlib.Data.List.Pairwise
import Orbital.WorkerCore.WorkerStateStore

/-! # The two stores load the same states

They do while every timestamp and every piece of data that is stored is read back as it was
written, claims name the worker that they are written for, and the records of a worker come
in the order of their fire times.
-/

namespace Orbital.WorkerCore.WorkerStateStore

open Foundation

/-! ## What is read back as it was written -/

section Kept

variable {Instant : Type} [LinearOrder Instant] (database : Database Instant)

def Kept (text : JsString) : Prop :=
  ∃ instant, database.instant text = some instant ∧ database.shown instant = text

def KeptData (value : JsValue) : Prop :=
  ∃ text read, JsValue.stringify value = some text ∧ database.jsonb text = some read ∧
    JsValue.SameData read value

/-- No payload, or one that is kept and is not `null`. -/
def KeptPayload (payload : JsValue) : Prop :=
  payload = .leaf .undefined ∨ (payload ≠ .leaf .null ∧ KeptData database payload)

structure KeptRecord (record : WorkerFireRecord) : Prop where
  windowStart : Kept database record.windowStart
  windowEnd : Kept database record.windowEnd
  firedAt : Kept database record.firedAt
  payload : KeptPayload database record.payload

structure KeptClaim (workerId : JsString) (claim : WorkerClaimRecord) : Prop where
  worker : claim.workerId = workerId
  claimedAt : Kept database claim.claimedAt
  expiresAt : Kept database claim.expiresAt

def Before (record later : WorkerFireRecord) : Prop :=
  record = later ∨ ∃ instant laterInstant, database.instant record.firedAt = some instant ∧
    database.instant later.firedAt = some laterInstant ∧ instant < laterInstant

/-- The calls after which the stores still agree, behind a state of the memory store. -/
def Allowed (store : MemoryWorkerStateStore) (call : Moment database × Call) : Prop :=
  match call.2 with
  | .registerWorker workerId registeredAt metadata =>
      store.get? workerId = none → Kept database (registeredAt.getD call.1.text) ∧
        KeptData database (.object (metadata.getD []))
  | .appendFireRecord workerId record =>
      ∀ state, store.get? workerId = some state → KeptRecord database record ∧
        ∀ earlier ∈ state.fireHistory, Before database earlier record
  | .writeClaim workerId claim =>
      (store.get? workerId).isSome → KeptClaim database workerId claim
  | .releaseClaim _ _ => True

end Kept

/-! ## The same state -/

structure SameRecord (record other : WorkerFireRecord) : Prop where
  windowStart : record.windowStart = other.windowStart
  windowEnd : record.windowEnd = other.windowEnd
  firedAt : record.firedAt = other.firedAt
  payload : JsValue.SameData record.payload other.payload

structure SameState (state other : WorkerState) : Prop where
  workerId : state.workerId = other.workerId
  registeredAt : state.registeredAt = other.registeredAt
  lastFiredWindowStart : state.lastFiredWindowStart = other.lastFiredWindowStart
  lastFiredWindowEnd : state.lastFiredWindowEnd = other.lastFiredWindowEnd
  fireHistory : List.Forall₂ SameRecord state.fireHistory other.fireHistory
  activeClaims : ∀ claim, claim ∈ state.activeClaims ↔ claim ∈ other.activeClaims
  metadata : JsValue.SameData state.metadata other.metadata

/-- Neither store has the worker, or both load the same state. -/
def SameLoaded : Option WorkerState → Option WorkerState → Prop :=
  Option.Rel SameState

/-! ## What the tables hold -/

section Stored

variable {Instant : Type} [LinearOrder Instant] (database : Database Instant)

open PostgresWorkerStateStore

structure Storable (state : WorkerState) : Prop where
  registeredAt : Kept database state.registeredAt
  metadata : KeptData database state.metadata
  members : ∃ members, state.metadata = .object members
  records : ∀ record ∈ state.fireHistory, KeptRecord database record
  ordered : state.fireHistory.Pairwise (Before database)
  claims : ∀ claim ∈ state.activeClaims, KeptClaim database state.workerId claim
  distinct : (state.activeClaims.map WorkerClaimRecord.windowId).Nodup
  lastStart : state.lastFiredWindowStart =
    state.fireHistory.getLast?.map WorkerFireRecord.windowStart
  lastEnd : state.lastFiredWindowEnd = state.fireHistory.getLast?.map WorkerFireRecord.windowEnd

structure Stored (state : WorkerState) (tables : Tables Instant) : Prop where
  row : ∃ row, tables.registrations.get? state.workerId = some row ∧
    database.shown row.registeredAt = state.registeredAt ∧
      row.lastFiredWindowStart.map database.shown = state.lastFiredWindowStart ∧
        row.lastFiredWindowEnd.map database.shown = state.lastFiredWindowEnd ∧
          JsValue.SameData row.metadata state.metadata
  history : List.Forall₂ (fun record row => fireRow database state.workerId record = some row)
    state.fireHistory (historyOf tables state.workerId)
  claims : ∀ windowId row, tables.claims.get? (state.workerId, windowId) = some row ↔
    ∃ claim ∈ state.activeClaims, claim.windowId = windowId ∧ claimRow database claim = some row

structure Absent (tables : Tables Instant) (workerId : JsString) : Prop where
  registration : tables.registrations.get? workerId = none
  history : historyOf tables workerId = []
  claims : ∀ windowId, tables.claims.get? (workerId, windowId) = none

structure Holds (store : MemoryWorkerStateStore) (tables : Tables Instant) : Prop where
  present : ∀ {workerId state}, store.get? workerId = some state →
    state.workerId = workerId ∧ Storable database state ∧ Stored database state tables
  absent : ∀ {workerId}, store.get? workerId = none → Absent tables workerId

structure SameRows (tables other : Tables Instant) (workerId : JsString) : Prop where
  registration : tables.registrations.get? workerId = other.registrations.get? workerId
  history : historyOf tables workerId = historyOf other workerId
  claims : ∀ windowId, tables.claims.get? (workerId, windowId) =
    other.claims.get? (workerId, windowId)

/-! ## Loading -/

variable {database}

theorem kept_eq {text : JsString} {instant : Instant} (kept : Kept database text)
    (read : database.instant text = some instant) : database.shown instant = text := by
  rcases kept with ⟨instant', read', same⟩
  rw [read] at read'
  cases read'
  exact same

variable {read payload : JsValue} {row : FireRow Instant} {records : List WorkerFireRecord}
  {rows : List (FireRow Instant)} {store : MemoryWorkerStateStore} {other : Tables Instant}
  {registeredAt : Option JsString} {metadata : Option (List (JsString × JsValue))}

theorem orEmpty_same {members : List (JsString × JsValue)}
    (same : JsValue.SameData read (.object members)) :
    JsValue.SameData (orEmpty read) (.object members) := by
  cases same with
  | object keys values => exact .object keys values

theorem orUndefined_same (defined : payload ≠ .leaf .null) (same : JsValue.SameData read payload) :
    JsValue.SameData (orUndefined (some read)) payload := by
  cases same with
  | array length items => exact .array length items
  | object keys values => exact .object keys values
  | leaf same =>
      rename_i first second
      cases first with
      | null =>
          cases second with
          | null => exact absurd rfl defined
          | undefined | boolean value | number value | string text | foreign value => cases same
      | undefined | boolean value | number value | string text | foreign value => exact .leaf same

variable {workerId now : JsString} {record : WorkerFireRecord} {claim : WorkerClaimRecord}
  {tables : Tables Instant} {state : WorkerState}

theorem fireRow_eq_some :
    fireRow database workerId record = some row ↔ row.workerId = workerId ∧
      database.instant record.windowStart = some row.windowStart ∧
        database.instant record.windowEnd = some row.windowEnd ∧
          database.instant record.firedAt = some row.firedAt ∧
            payloadColumn database record.payload = some row.payload := by
  rw [fireRow]
  constructor
  · intro written
    rcases Option.bind_eq_some_iff.mp written with ⟨windowStart, start, written⟩
    rcases Option.bind_eq_some_iff.mp written with ⟨windowEnd, ending, written⟩
    rcases Option.bind_eq_some_iff.mp written with ⟨firedAt, fired, written⟩
    rcases Option.bind_eq_some_iff.mp written with ⟨payload, carried, written⟩
    cases written
    exact ⟨rfl, start, ending, fired, carried⟩
  · rintro ⟨rfl, start, ending, fired, carried⟩
    rw [start, ending, fired, carried]
    rfl

theorem claimRow_eq_some {row : ClaimRow Instant} :
    claimRow database claim = some row ↔ database.instant claim.claimedAt = some row.claimedAt ∧
      database.instant claim.expiresAt = some row.expiresAt := by
  rw [claimRow]
  constructor
  · intro written
    rcases Option.bind_eq_some_iff.mp written with ⟨claimedAt, claimed, written⟩
    rcases Option.bind_eq_some_iff.mp written with ⟨expiresAt, expires, written⟩
    cases written
    exact ⟨claimed, expires⟩
  · rintro ⟨claimed, expires⟩
    rw [claimed, expires]
    rfl

theorem payload_same {column : Option JsValue} (kept : KeptPayload database payload)
    (written : payloadColumn database payload = some column) :
    JsValue.SameData (orUndefined column) payload := by
  rw [payloadColumn] at written
  rcases kept with rfl | ⟨defined, text, read, shown, isRead, same⟩
  · cases written
    exact .refl _
  · rw [shown] at written
    simp only [isRead, Option.map_some, Option.some.injEq] at written
    subst written
    exact orUndefined_same defined same

theorem fireRecord_same (kept : KeptRecord database record)
    (written : fireRow database workerId record = some row) :
    SameRecord (fireRecord database row) record := by
  rcases fireRow_eq_some.mp written with ⟨-, start, ending, fired, carried⟩
  exact ⟨kept_eq kept.windowStart start, kept_eq kept.windowEnd ending,
    kept_eq kept.firedAt fired, payload_same kept.payload carried⟩

theorem claimRecord_eq {row : ClaimRow Instant} (kept : KeptClaim database workerId claim)
    (written : claimRow database claim = some row) :
    claimRecord database ((workerId, claim.windowId), row) = claim := by
  rcases claimRow_eq_some.mp written with ⟨claimed, expires⟩
  rw [claimRecord, kept_eq kept.claimedAt claimed, kept_eq kept.expiresAt expires, ← kept.worker]

theorem claimRow_isSome (kept : KeptClaim database workerId claim) :
    ∃ row, claimRow database claim = some row := by
  rcases kept.claimedAt with ⟨claimedAt, claimed, -⟩
  rcases kept.expiresAt with ⟨expiresAt, expires, -⟩
  exact ⟨⟨claimedAt, expiresAt⟩, claimRow_eq_some.mpr ⟨claimed, expires⟩⟩

theorem rows_ordered
    (written : List.Forall₂ (fun record row => fireRow database workerId record = some row)
      records rows) (ordered : records.Pairwise (Before database)) :
    rows.Pairwise fun row later => row = later ∨ row.firedAt < later.firedAt := by
  induction written with
  | nil => exact .nil
  | cons first rest induction =>
      rename_i record row records rows
      rw [List.pairwise_cons] at ordered ⊢
      refine ⟨?_, induction ordered.2⟩
      intro later member
      rcases List.getElem_of_mem member with ⟨index, within, rfl⟩
      have within' : index < records.length := rest.length_eq ▸ within
      have written := List.forall₂_iff_get.mp rest |>.2 index within' within
      rcases ordered.1 records[index] (List.getElem_mem within') with same | before
      · rw [List.get_eq_getElem, ← same, first] at written
        exact .inl (Option.some.inj written)
      · rcases before with ⟨instant, laterInstant, fired, laterFired, earlier⟩
        have firedRow := (fireRow_eq_some.mp first).2.2.2.1
        have laterRow := (fireRow_eq_some.mp written).2.2.2.1
        rw [fired] at firedRow
        rw [List.get_eq_getElem, laterFired] at laterRow
        rw [List.get_eq_getElem] at laterRow
        exact .inr (Option.some.inj firedRow ▸ Option.some.inj laterRow ▸ earlier)

theorem history_same
    (written : List.Forall₂ (fun record row => fireRow database workerId record = some row)
      records rows) (kept : ∀ record ∈ records, KeptRecord database record) :
    List.Forall₂ SameRecord (rows.map (fireRecord database)) records := by
  induction written with
  | nil => exact .nil
  | cons first rest induction =>
      refine .cons (fireRecord_same (kept _ List.mem_cons_self) first) (induction ?_)
      exact fun record member => kept record (List.mem_cons_of_mem _ member)

omit [LinearOrder Instant] in
theorem mem_claimsOf {entry : (JsString × JsString) × ClaimRow Instant} :
    entry ∈ claimsOf tables workerId ↔
      entry.1.1 = workerId ∧ tables.claims.get? (workerId, entry.1.2) = some entry.2 := by
  rw [claimsOf, List.mem_filter, decide_eq_true_iff, InsertionMap.get?_eq_some_iff]
  constructor
  · rintro ⟨member, rfl⟩
    exact ⟨rfl, member⟩
  · rintro ⟨rfl, member⟩
    exact ⟨member, rfl⟩

theorem load_of_stored (storable : Storable database state)
    (stored : Stored database state tables) :
    ∃ loaded, load database tables state.workerId = some loaded ∧ SameState loaded state := by
  rcases stored.row with ⟨row, found, registeredAt, lastStart, lastEnd, metadata⟩
  rw [load, found]
  refine ⟨_, rfl, rfl, registeredAt, lastStart, lastEnd, ?_, ?_, ?_⟩
  · have inOrder := StableSort.arranged_eq (rows_ordered stored.history storable.ordered)
      (database.byFiredAt_sorted _) (database.byFiredAt_perm _)
    rw [inOrder]
    exact history_same stored.history storable.records
  · intro claim
    rw [List.mem_map]
    constructor
    · rintro ⟨⟨⟨workerId, windowId⟩, row⟩, member, rfl⟩
      rcases mem_claimsOf.mp ((database.anyOrder_perm _).mem_iff.mp member) with ⟨rfl, isRow⟩
      rcases (stored.claims _ _).mp isRow with ⟨claim, active, rfl, written⟩
      rw [claimRecord_eq (storable.claims claim active) written]
      exact active
    · intro active
      rcases claimRow_isSome (storable.claims claim active) with ⟨row, written⟩
      have isRow := (stored.claims claim.windowId row).mpr ⟨claim, active, rfl, written⟩
      refine ⟨((state.workerId, claim.windowId), row), ?_,
        claimRecord_eq (storable.claims claim active) written⟩
      exact (database.anyOrder_perm _).mem_iff.mpr (mem_claimsOf.mpr ⟨rfl, isRow⟩)
  · rcases storable.members with ⟨members, isObject⟩
    rw [isObject] at metadata ⊢
    exact orEmpty_same metadata

theorem Holds.sameLoaded (holds : Holds database store tables) (workerId : JsString) :
    SameLoaded (load database tables workerId)
      (MemoryWorkerStateStore.getWorker store workerId) := by
  rw [MemoryWorkerStateStore.getWorker]
  cases found : store.get? workerId with
  | none =>
      rw [load, (holds.absent found).registration]
      exact .none
  | some state =>
      rcases holds.present found with ⟨rfl, storable, stored⟩
      rcases load_of_stored storable stored with ⟨loaded, isLoaded, same⟩
      rw [isLoaded]
      exact .some same

/-! ## What a call changes -/

theorem Stored.congr (stored : Stored database state tables)
    (same : SameRows other tables state.workerId) : Stored database state other where
  row := same.registration ▸ stored.row
  history := same.history ▸ stored.history
  claims := fun windowId row => same.claims windowId ▸ stored.claims windowId row

omit [LinearOrder Instant] in
theorem Absent.congr (absent : Absent tables workerId) (same : SameRows other tables workerId) :
    Absent other workerId where
  registration := same.registration.trans absent.registration
  history := same.history.trans absent.history
  claims := fun windowId => (same.claims windowId).trans (absent.claims windowId)

theorem Holds.write {next : Tables Instant} (holds : Holds database store tables)
    (state : WorkerState) (storable : Storable database state) (stored : Stored database state next)
    (others : ∀ workerId, workerId ≠ state.workerId → SameRows next tables workerId) :
    Holds database (store.set state.workerId state) next where
  present := by
    intro workerId other found
    rw [InsertionMap.get?_set] at found
    split at found
    next same =>
      cases found
      exact ⟨same.symm, storable, stored⟩
    next different =>
      rcases holds.present found with ⟨rfl, otherStorable, otherStored⟩
      exact ⟨rfl, otherStorable, otherStored.congr (others _ different)⟩
  absent := by
    intro workerId found
    rw [InsertionMap.get?_set] at found
    split at found
    next => cases found
    next different => exact (holds.absent found).congr (others _ different)

/-! ## One call -/

theorem Storable.at (storable : Storable database state) (now : JsString) :
    Storable database { state with updatedAt := now } where
  registeredAt := storable.registeredAt
  metadata := storable.metadata
  members := storable.members
  records := storable.records
  ordered := storable.ordered
  claims := storable.claims
  distinct := storable.distinct
  lastStart := storable.lastStart
  lastEnd := storable.lastEnd

theorem Stored.at (stored : Stored database state tables) (now : JsString) :
    Stored database { state with updatedAt := now } tables where
  row := stored.row
  history := stored.history
  claims := stored.claims

theorem storable_registered (workerId : JsString) (kept : Kept database (registeredAt.getD now))
    (keptData : KeptData database (.object (metadata.getD []))) :
    Storable database
      (MemoryWorkerStateStore.registered now workerId registeredAt metadata) where
  registeredAt := kept
  metadata := keptData
  members := ⟨_, rfl⟩
  records := by
    intro record member
    cases member
  ordered := .nil
  claims := by
    intro claim member
    cases member
  distinct := .nil
  lastStart := rfl
  lastEnd := rfl

theorem storable_withRecord (storable : Storable database state) (kept : KeptRecord database record)
    (earlier : ∀ other ∈ state.fireHistory, Before database other record) :
    Storable database (MemoryWorkerStateStore.withRecord record state) where
  registeredAt := storable.registeredAt
  metadata := storable.metadata
  members := storable.members
  records := by
    intro other member
    rcases List.mem_append.mp member with older | last
    · exact storable.records other older
    · rw [List.mem_singleton.mp last]
      exact kept
  ordered := by
    rw [MemoryWorkerStateStore.withRecord]
    apply List.pairwise_append.mpr
    refine ⟨storable.ordered, List.pairwise_singleton _ _, ?_⟩
    intro other member last isLast
    rw [List.mem_singleton.mp isLast]
    exact earlier other member
  claims := storable.claims
  distinct := storable.distinct
  lastStart := by
    rw [MemoryWorkerStateStore.withRecord, List.getLast?_concat]
    rfl
  lastEnd := by
    rw [MemoryWorkerStateStore.withRecord, List.getLast?_concat]
    rfl

theorem storable_withoutClaim (storable : Storable database state) (windowId : JsString) :
    Storable database (MemoryWorkerStateStore.withoutClaim windowId state) where
  registeredAt := storable.registeredAt
  metadata := storable.metadata
  members := storable.members
  records := storable.records
  ordered := storable.ordered
  claims := fun claim member => storable.claims claim (List.mem_of_mem_filter member)
  distinct := storable.distinct.sublist (List.filter_sublist.map _)
  lastStart := storable.lastStart
  lastEnd := storable.lastEnd

theorem mem_withoutClaim {windowId : JsString} :
    claim ∈ (MemoryWorkerStateStore.withoutClaim windowId state).activeClaims ↔
      claim ∈ state.activeClaims ∧ claim.windowId ≠ windowId := by
  rw [MemoryWorkerStateStore.withoutClaim, List.mem_filter, decide_eq_true_iff]

theorem storable_withClaim (storable : Storable database state)
    (kept : KeptClaim database state.workerId claim) :
    Storable database (MemoryWorkerStateStore.withClaim claim state) where
  registeredAt := storable.registeredAt
  metadata := storable.metadata
  members := storable.members
  records := storable.records
  ordered := storable.ordered
  claims := by
    intro other member
    rcases List.mem_append.mp member with older | last
    · exact storable.claims other (mem_withoutClaim.mp older).1
    · rw [List.mem_singleton.mp last]
      exact kept
  distinct := by
    rw [MemoryWorkerStateStore.withClaim, List.map_append]
    apply List.Nodup.append
    · exact (storable_withoutClaim storable claim.windowId).distinct
    · exact List.nodup_singleton _
    · intro windowId older last
      rcases List.mem_map.mp older with ⟨other, member, rfl⟩
      exact (mem_withoutClaim.mp member).2 (List.mem_singleton.mp last)
  lastStart := storable.lastStart
  lastEnd := storable.lastEnd

theorem loaded_snd (tables : Tables Instant) (workerId : JsString) :
    (loaded database tables workerId).2 = tables := by
  rw [loaded]
  split <;> rfl

theorem touch_eq {registrations : InsertionMap JsString (RegistrationRow Instant)}
    {fireHistory : List (FireRow Instant)}
    {claims : InsertionMap (JsString × JsString) (ClaimRow Instant)} {updatedAt : Instant}
    {row : RegistrationRow Instant} (read : database.instant now = some updatedAt)
    (found : registrations.get? workerId = some row)
    (change : RegistrationRow Instant → RegistrationRow Instant) :
    touch database ⟨registrations, fireHistory, claims⟩ now workerId change =
      loaded database
        ⟨registrations.set workerId (change { row with updatedAt }), fireHistory, claims⟩
        workerId := by
  simp only [touch, read, found]

theorem loaded_absent (absent : tables.registrations.get? workerId = none) :
    loaded database tables workerId = (.error (.notRegistered workerId), tables) := by
  rw [loaded, load, absent]
  rfl

omit [LinearOrder Instant] in
theorem historyOf_append (tables : Tables Instant) (fired : FireRow Instant)
    (workerId : JsString) (registrations : InsertionMap JsString (RegistrationRow Instant))
    (claims : InsertionMap (JsString × JsString) (ClaimRow Instant)) :
    historyOf { registrations, fireHistory := tables.fireHistory ++ [fired], claims } workerId =
      if fired.workerId = workerId then historyOf tables workerId ++ [fired]
      else historyOf tables workerId := by
  rw [historyOf, List.filter_append, historyOf]
  split
  next same => rw [List.filter_singleton, decide_eq_true same]; rfl
  next different => rw [List.filter_singleton, decide_eq_false different]; exact List.append_nil _

variable {store : MemoryWorkerStateStore} {tables : Tables Instant}

theorem Holds.registerAgain (holds : Holds database store tables) {existing : WorkerState}
    (found : store.get? workerId = some existing) (registeredAt : Option JsString)
    (metadata : Option (List (JsString × JsValue))) :
    Holds database
      (MemoryWorkerStateStore.registerWorker store now workerId registeredAt metadata).2
      (registerWorker database tables now workerId registeredAt metadata).2 := by
  rcases holds.present found with ⟨rfl, storable, stored⟩
  rcases stored.row with ⟨row, isRow, -⟩
  rw [MemoryWorkerStateStore.registerWorker, found, registerWorker]
  cases registrationRow database now registeredAt metadata with
  | none => exact holds
  | some fresh =>
      simp only [isRow, loaded_snd]
      exact holds

theorem Holds.register (holds : Holds database store tables) (moment : Moment database)
    (found : store.get? workerId = none) (kept : Kept database (registeredAt.getD moment.text))
    (keptData : KeptData database (.object (metadata.getD []))) :
    ∃ next, registerWorker database tables moment.text workerId registeredAt metadata =
        loaded database next workerId ∧
      Holds database
        (MemoryWorkerStateStore.registerWorker store moment.text workerId registeredAt
          metadata).2 next := by
  have absent := holds.absent found
  have storable := storable_registered workerId kept keptData
  rcases kept with ⟨instant, read, shown⟩
  rcases keptData with ⟨text, value, stringified, isRead, same⟩
  have row : registrationRow database moment.text registeredAt metadata =
      some ⟨instant, moment.instant, none, none, value⟩ := by
    rw [registrationRow, metadataColumn, read, moment.read, stringified]
    simp only [Option.bind_some, isRead]
    rfl
  rw [registerWorker, row, MemoryWorkerStateStore.registerWorker, found]
  simp only [absent.registration]
  refine ⟨_, rfl, ?_⟩
  apply holds.write (MemoryWorkerStateStore.registered moment.text workerId registeredAt metadata)
    storable
  · constructor
    · exact ⟨_, InsertionMap.get?_set_same _ _ _, shown, rfl, rfl, same⟩
    · exact absent.history ▸ List.Forall₂.nil
    · intro windowId claim
      constructor
      · intro isClaim
        exact absurd (isClaim.symm.trans (absent.claims windowId)) (Option.some_ne_none _)
      · rintro ⟨other, member, -⟩
        cases member
  · intro other different
    exact ⟨InsertionMap.get?_set_other _ _ different, rfl, fun _ => rfl⟩

theorem Holds.append (holds : Holds database store tables) (moment : Moment database)
    (workerId : JsString) (record : WorkerFireRecord)
    (allowed : ∀ state, store.get? workerId = some state → KeptRecord database record ∧
      ∀ earlier ∈ state.fireHistory, Before database earlier record) :
    ∃ next, appendFireRecord database tables moment.text workerId record =
        loaded database next workerId ∧
      Holds database
        (MemoryWorkerStateStore.appendFireRecord store moment.text workerId record).2 next := by
  rw [MemoryWorkerStateStore.appendFireRecord, MemoryWorkerStateStore.update, appendFireRecord]
  cases found : store.get? workerId with
  | none =>
      have absent := (holds.absent found).registration
      rw [absent]
      exact ⟨tables, (loaded_absent absent).symm, holds⟩
  | some state =>
      rcases holds.present found with ⟨rfl, storable, stored⟩
      rcases allowed state found with ⟨kept, earlier⟩
      rcases stored.row with ⟨row, isRow, registeredAt, -, -, metadata⟩
      rcases kept.windowStart with ⟨windowStart, start, startShown⟩
      rcases kept.windowEnd with ⟨windowEnd, ending, endShown⟩
      rcases kept.firedAt with ⟨firedAt, fired, -⟩
      have carried : ∃ payload, payloadColumn database record.payload = some payload := by
        rw [payloadColumn]
        rcases kept.payload with none | ⟨-, text, read, stringified, isRead, -⟩
        · rw [none]
          exact ⟨_, rfl⟩
        · rw [stringified]
          exact ⟨_, congrArg (Option.map some) isRead⟩
      rcases carried with ⟨payload, carried⟩
      have written : fireRow database state.workerId record =
          some ⟨state.workerId, windowStart, windowEnd, firedAt, payload⟩ :=
        fireRow_eq_some.mpr ⟨rfl, start, ending, fired, carried⟩
      simp only [isRow, written]
      rw [touch_eq moment.read isRow]
      refine ⟨_, rfl, ?_⟩
      apply holds.write { MemoryWorkerStateStore.withRecord record state with updatedAt := moment.text }
      · exact (storable_withRecord storable kept earlier).at _
      · apply Stored.at
        constructor
        · exact ⟨_, InsertionMap.get?_set_same _ _ _, registeredAt, congrArg some startShown,
            congrArg some endShown, metadata⟩
        · dsimp only [MemoryWorkerStateStore.withRecord]
          rw [historyOf_append, if_pos rfl]
          exact List.rel_append stored.history (.cons written .nil)
        · exact stored.claims
      · intro other different
        refine ⟨InsertionMap.get?_set_other _ _ different, ?_, fun _ => rfl⟩
        rw [historyOf_append, if_neg]
        exact fun same => different same.symm

theorem Holds.writeClaim (holds : Holds database store tables) (moment : Moment database)
    (workerId : JsString) (claim : WorkerClaimRecord)
    (allowed : (store.get? workerId).isSome → KeptClaim database workerId claim) :
    ∃ next, PostgresWorkerStateStore.writeClaim database tables moment.text workerId claim =
        loaded database next workerId ∧
      Holds database (MemoryWorkerStateStore.writeClaim store moment.text workerId claim).2
        next := by
  rw [MemoryWorkerStateStore.writeClaim, MemoryWorkerStateStore.update,
    PostgresWorkerStateStore.writeClaim]
  cases found : store.get? workerId with
  | none =>
      have absent := (holds.absent found).registration
      rw [absent]
      exact ⟨tables, (loaded_absent absent).symm, holds⟩
  | some state =>
      rcases holds.present found with ⟨rfl, storable, stored⟩
      have kept := allowed (Option.isSome_iff_exists.mpr ⟨state, found⟩)
      rcases stored.row with ⟨row, isRow, rest⟩
      rcases claimRow_isSome kept with ⟨claimed, written⟩
      simp only [isRow, written]
      rw [touch_eq moment.read isRow]
      refine ⟨_, rfl, ?_⟩
      apply holds.write { MemoryWorkerStateStore.withClaim claim state with updatedAt := moment.text }
      · exact (storable_withClaim storable kept).at _
      · apply Stored.at
        constructor
        · exact ⟨_, InsertionMap.get?_set_same _ _ _, rest⟩
        · exact stored.history
        · intro windowId row
          dsimp only [MemoryWorkerStateStore.withClaim]
          rw [InsertionMap.get?_set]
          constructor
          · intro isRow
            split at isRow
            next same =>
              cases same
              cases isRow
              exact ⟨claim, List.mem_append_right _ (List.mem_singleton_self _), rfl, written⟩
            next different =>
              rcases (stored.claims windowId row).mp isRow with ⟨other, member, rfl, isWritten⟩
              refine ⟨other, List.mem_append_left _ (mem_withoutClaim.mpr ⟨member, ?_⟩), rfl,
                isWritten⟩
              intro same
              rw [same] at different
              exact different rfl
          · rintro ⟨other, member, rfl, isWritten⟩
            rcases List.mem_append.mp member with older | last
            · rcases mem_withoutClaim.mp older with ⟨wasMember, different⟩
              rw [if_neg]
              · exact (stored.claims _ row).mpr ⟨other, wasMember, rfl, isWritten⟩
              · intro same
                exact different (Prod.ext_iff.mp same).2
            · rw [List.mem_singleton.mp last] at isWritten ⊢
              rw [if_pos rfl, ← written, isWritten]
      · intro other different
        refine ⟨InsertionMap.get?_set_other _ _ different, rfl, fun windowId => ?_⟩
        apply InsertionMap.get?_set_other
        intro same
        exact different (Prod.ext_iff.mp same).1

theorem Holds.releaseClaim (holds : Holds database store tables) (moment : Moment database)
    (workerId windowId : JsString) :
    ∃ next, PostgresWorkerStateStore.releaseClaim database tables moment.text workerId windowId =
        loaded database next workerId ∧
      Holds database (MemoryWorkerStateStore.releaseClaim store moment.text workerId windowId).2
        next := by
  rw [MemoryWorkerStateStore.releaseClaim, MemoryWorkerStateStore.update,
    PostgresWorkerStateStore.releaseClaim]
  cases found : store.get? workerId with
  | none =>
      have absent := (holds.absent found).registration
      rw [absent]
      exact ⟨tables, (loaded_absent absent).symm, holds⟩
  | some state =>
      rcases holds.present found with ⟨rfl, storable, stored⟩
      rcases stored.row with ⟨row, isRow, rest⟩
      simp only [isRow]
      rw [touch_eq moment.read isRow]
      refine ⟨_, rfl, ?_⟩
      apply holds.write { MemoryWorkerStateStore.withoutClaim windowId state with updatedAt := moment.text }
      · exact (storable_withoutClaim storable windowId).at _
      · apply Stored.at
        constructor
        · exact ⟨_, InsertionMap.get?_set_same _ _ _, rest⟩
        · exact stored.history
        · intro other row
          rw [InsertionMap.get?_delete]
          constructor
          · intro isRow
            split at isRow
            next => cases isRow
            next different =>
              rcases (stored.claims other row).mp isRow with ⟨claim, member, rfl, isWritten⟩
              refine ⟨claim, mem_withoutClaim.mpr ⟨member, ?_⟩, rfl, isWritten⟩
              intro same
              rw [same] at different
              exact different rfl
          · rintro ⟨claim, member, rfl, isWritten⟩
            rcases mem_withoutClaim.mp member with ⟨wasMember, different⟩
            rw [if_neg]
            · exact (stored.claims _ row).mpr ⟨claim, wasMember, rfl, isWritten⟩
            · intro same
              exact different (Prod.ext_iff.mp same).2
      · intro other different
        refine ⟨InsertionMap.get?_set_other _ _ different, rfl, fun window => ?_⟩
        rw [InsertionMap.get?_delete, if_neg]
        intro same
        exact different (Prod.ext_iff.mp same).1

def Repeats (store : MemoryWorkerStateStore) : Call → Prop
  | .registerWorker workerId _ _ => (store.get? workerId).isSome
  | _ => False

theorem Holds.call (holds : Holds database store tables) {moment : Moment database} {call : Call}
    (allowed : Allowed database store (moment, call)) (fresh : ¬ Repeats store call) :
    ∃ next, (postgresMachine database).step tables (moment, call) =
        loaded database next call.workerId ∧
      Holds database ((memoryMachine database).step store (moment, call)).2 next := by
  cases call with
  | registerWorker workerId registeredAt metadata =>
      have found : store.get? workerId = none := Option.not_isSome_iff_eq_none.mp fresh
      rcases allowed found with ⟨kept, keptData⟩
      exact holds.register moment found kept keptData
  | appendFireRecord workerId record => exact holds.append moment workerId record allowed
  | writeClaim workerId claim => exact holds.writeClaim moment workerId claim allowed
  | releaseClaim workerId windowId => exact holds.releaseClaim moment workerId windowId

theorem Holds.step (holds : Holds database store tables) {call : Moment database × Call}
    (allowed : Allowed database store call) :
    Holds database ((memoryMachine database).step store call).2
      ((postgresMachine database).step tables call).2 := by
  rcases call with ⟨moment, call⟩
  by_cases repeats : Repeats store call
  · cases call with
    | registerWorker workerId registeredAt metadata =>
        rcases Option.isSome_iff_exists.mp repeats with ⟨existing, found⟩
        exact holds.registerAgain found registeredAt metadata
    | appendFireRecord workerId record | writeClaim workerId claim
    | releaseClaim workerId windowId => cases repeats
  · rcases holds.call allowed repeats with ⟨next, steps, holdsNext⟩
    rw [steps, loaded_snd]
    exact holdsNext

end Stored

end Orbital.WorkerCore.WorkerStateStore
