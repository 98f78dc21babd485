import Orbital.WorkerCore.StoreAgreement

/-! # What a migration leaves in the target

Replaying the records and the claims of a worker rebuilds its state, as long as the last
window is the one of its last record.
-/

namespace Orbital.WorkerCore.WorkerStateStore

open Foundation

/-! ## Rebuilding a state -/

def WorkerState.at (state : WorkerState) (now : JsString) : WorkerState :=
  { state with updatedAt := now }

structure Rebuilt (state : WorkerState) : Prop where
  members : ∃ members, state.metadata = .object members
  distinct : (state.activeClaims.map WorkerClaimRecord.windowId).Nodup
  lastStart : state.lastFiredWindowStart =
    state.fireHistory.getLast?.map WorkerFireRecord.windowStart
  lastEnd : state.lastFiredWindowEnd = state.fireHistory.getLast?.map WorkerFireRecord.windowEnd

theorem Storable.rebuilt {Instant : Type} [LinearOrder Instant] {database : Database Instant}
    {state : WorkerState} (storable : Storable database state) : Rebuilt state where
  members := storable.members
  distinct := storable.distinct
  lastStart := storable.lastStart
  lastEnd := storable.lastEnd

def change : Call → WorkerState → WorkerState
  | .registerWorker _ _ _, state => state
  | .appendFireRecord _ record, state => MemoryWorkerStateStore.withRecord record state
  | .writeClaim _ claim, state => MemoryWorkerStateStore.withClaim claim state
  | .releaseClaim _ windowId, state => MemoryWorkerStateStore.withoutClaim windowId state

def changes (calls : List Call) (state : WorkerState) : WorkerState :=
  calls.foldl (fun state call => change call state) state

theorem changes_at (calls : List Call) (state : WorkerState) (now : JsString) :
    changes calls (state.at now) = (changes calls state).at now := by
  induction calls generalizing state with
  | nil => rfl
  | cons call rest induction =>
      have first : change call (state.at now) = (change call state).at now := by
        cases call <;> rfl
      rw [changes, List.foldl_cons, first]
      exact induction (change call state)

theorem changes_records (workerId : JsString) (records : List WorkerFireRecord)
    (state : WorkerState)
    (lastStart : state.lastFiredWindowStart =
      state.fireHistory.getLast?.map WorkerFireRecord.windowStart)
    (lastEnd : state.lastFiredWindowEnd =
      state.fireHistory.getLast?.map WorkerFireRecord.windowEnd) :
    changes (records.map (Call.appendFireRecord workerId)) state = { state with
      lastFiredWindowStart :=
        (state.fireHistory ++ records).getLast?.map WorkerFireRecord.windowStart
      lastFiredWindowEnd := (state.fireHistory ++ records).getLast?.map WorkerFireRecord.windowEnd
      fireHistory := state.fireHistory ++ records } := by
  induction records generalizing state with
  | nil =>
      rw [List.append_nil, ← lastStart, ← lastEnd]
      rfl
  | cons record rest induction =>
      have next := induction (MemoryWorkerStateStore.withRecord record state)
        (by rw [MemoryWorkerStateStore.withRecord, List.getLast?_concat]; rfl)
        (by rw [MemoryWorkerStateStore.withRecord, List.getLast?_concat]; rfl)
      rw [List.map_cons, changes, List.foldl_cons]
      refine next.trans ?_
      simp only [MemoryWorkerStateStore.withRecord, List.append_assoc, List.singleton_append]

theorem changes_claims (workerId : JsString) (claims : List WorkerClaimRecord)
    (state : WorkerState)
    (distinct : ((state.activeClaims ++ claims).map WorkerClaimRecord.windowId).Nodup) :
    changes (claims.map (Call.writeClaim workerId)) state =
      { state with activeClaims := state.activeClaims ++ claims } := by
  induction claims generalizing state with
  | nil =>
      rw [List.append_nil]
      rfl
  | cons claim rest induction =>
      have kept : (MemoryWorkerStateStore.withoutClaim claim.windowId state).activeClaims =
          state.activeClaims := by
        rw [MemoryWorkerStateStore.withoutClaim]
        apply List.filter_eq_self.mpr
        intro other member
        rw [decide_eq_true_iff]
        intro same
        rw [List.map_append, List.nodup_append] at distinct
        exact distinct.2.2 _ (List.mem_map_of_mem member) _
          (List.mem_map_of_mem List.mem_cons_self) same
      have next := induction (MemoryWorkerStateStore.withClaim claim state)
        (by
          rw [MemoryWorkerStateStore.withClaim]
          simpa only [kept, List.append_assoc, List.singleton_append] using distinct)
      rw [List.map_cons, changes, List.foldl_cons]
      refine next.trans ?_
      simp only [MemoryWorkerStateStore.withClaim, kept, List.append_assoc,
        List.singleton_append]

def updateCalls (worker : WorkerState) : List Call :=
  worker.fireHistory.map (Call.appendFireRecord worker.workerId) ++
    worker.activeClaims.map (Call.writeClaim worker.workerId)

theorem changes_updateCalls {worker : WorkerState} (rebuilt : Rebuilt worker) (now : JsString) :
    changes (updateCalls worker) (MemoryWorkerStateStore.registered now worker.workerId
      (some worker.registeredAt) (some (spread worker.metadata))) = worker.at now := by
  rcases rebuilt.members with ⟨members, isObject⟩
  have records := changes_records worker.workerId worker.fireHistory
    (MemoryWorkerStateStore.registered now worker.workerId (some worker.registeredAt)
      (some (spread worker.metadata))) rfl rfl
  rw [changes] at records
  rw [updateCalls, changes, List.foldl_append, records]
  refine (changes_claims _ _ _ ?_).trans ?_
  · exact rebuilt.distinct
  · rw [MemoryWorkerStateStore.registered]
    simp only [List.nil_append, Option.getD_some, isObject, spread, ← rebuilt.lastStart,
      ← rebuilt.lastEnd]
    rw [WorkerState.at, ← isObject]

/-! ## Calls that do not throw -/

section Runs

variable {Instant : Type} [LinearOrder Instant] {database : Database Instant}

variable {State : Type} {machine : Machine State (Moment database × Call) Result} {state : State}
  {calls : List (Moment database × Call)} {workers : List WorkerState}
  {records : List WorkerFireRecord} {other loaded : WorkerState}

theorem untilThrow_append {middle : State} {front back : List (Moment database × Call)}
    (done : untilThrow database machine state front = (none, middle)) :
    untilThrow database machine state (front ++ back) =
      untilThrow database machine middle back := by
  induction front generalizing state with
  | nil =>
      cases done
      rfl
  | cons call rest induction =>
      rw [untilThrow] at done
      rw [List.cons_append, untilThrow]
      split at done
      next => cases done
      next => exact induction done

theorem after_untilThrow {last : State}
    (done : untilThrow database machine state calls = (none, last)) :
    machine.after state calls = last := by
  induction calls generalizing state with
  | nil =>
      cases done
      rfl
  | cons call rest induction =>
      rw [untilThrow] at done
      split at done
      next => cases done
      next answer next answered =>
        rw [Machine.after, answered]
        exact induction done

def Updates (workerId : JsString) : Call → Prop
  | .registerWorker _ _ _ => False
  | .appendFireRecord other _ => other = workerId
  | .writeClaim other _ => other = workerId
  | .releaseClaim other _ => other = workerId

variable {store next : MemoryWorkerStateStore} {state worker : WorkerState} {workerId : JsString}
  {moment : Moment database} {call : Call} {timed : List (Moment database × Call)}
  {tables : Tables Instant}

theorem step_updates (updates : Updates workerId call) (found : store.get? workerId = some state) :
    (memoryMachine database).step store (moment, call) =
      (.ok ((change call state).at moment.text),
        store.set workerId ((change call state).at moment.text)) := by
  have updated : ∀ effect : WorkerState → WorkerState,
      MemoryWorkerStateStore.update store moment.text workerId effect =
        (.ok ((effect state).at moment.text), store.set workerId ((effect state).at moment.text)) := by
    intro effect
    rw [MemoryWorkerStateStore.update, found]
    rfl
  cases call with
  | registerWorker other registeredAt metadata => cases updates
  | appendFireRecord other record | writeClaim other claim | releaseClaim other windowId =>
      subst updates
      exact updated _

theorem untilThrow_updates (updates : ∀ call ∈ timed, Updates workerId call.2)
    (found : store.get? workerId = some state) :
    ∃ next now, untilThrow database (memoryMachine database) store timed = (none, next) ∧
      next.get? workerId = some ((changes (timed.map Prod.snd) state).at now) ∧
        ∀ other, other ≠ workerId → next.get? other = store.get? other := by
  induction timed generalizing store state with
  | nil => exact ⟨store, state.updatedAt, rfl, found, fun _ _ => rfl⟩
  | cons call rest induction =>
      rcases call with ⟨moment, call⟩
      rw [untilThrow, step_updates (updates _ List.mem_cons_self) found]
      have later : ∀ call ∈ rest, Updates workerId call.2 := fun call member =>
        updates call (List.mem_cons_of_mem _ member)
      rcases induction later (InsertionMap.get?_set_same store workerId _) with
        ⟨next, now, done, isNext, others⟩
      refine ⟨next, now, done, ?_, ?_⟩
      · rw [isNext, changes_at]
        rfl
      · intro other different
        exact (others other different).trans (InsertionMap.get?_set_other _ _ different)

theorem updates_updateCalls (worker : WorkerState) :
    ∀ call ∈ updateCalls worker, Updates worker.workerId call := by
  intro call member
  rcases List.mem_append.mp member with isRecord | isClaim
  · rcases List.mem_map.mp isRecord with ⟨record, -, rfl⟩
    exact rfl
  · rcases List.mem_map.mp isClaim with ⟨claim, -, rfl⟩
    exact rfl

theorem untilThrow_copy (rebuilt : Rebuilt worker) (absent : store.get? worker.workerId = none)
    (calls : timed.map Prod.snd = copyCalls worker) :
    ∃ next now, untilThrow database (memoryMachine database) store timed = (none, next) ∧
      next.get? worker.workerId = some (worker.at now) ∧
        ∀ other, other ≠ worker.workerId → next.get? other = store.get? other := by
  cases timed with
  | nil => cases calls
  | cons first rest =>
      rcases first with ⟨moment, call⟩
      rcases List.cons.inj calls with ⟨isRegister, isUpdates⟩
      dsimp only at isRegister
      subst isRegister
      have updates : ∀ call ∈ rest, Updates worker.workerId call.2 := by
        intro call member
        apply updates_updateCalls worker
        rw [updateCalls, ← isUpdates]
        exact List.mem_map_of_mem member
      have registers : (memoryMachine database).step store (moment, .registerWorker
          worker.workerId (some worker.registeredAt) (some (spread worker.metadata))) =
          (.ok (MemoryWorkerStateStore.registered moment.text worker.workerId
            (some worker.registeredAt) (some (spread worker.metadata))),
            store.set worker.workerId (MemoryWorkerStateStore.registered moment.text
              worker.workerId (some worker.registeredAt) (some (spread worker.metadata)))) := by
        change MemoryWorkerStateStore.registerWorker _ _ _ _ _ = _
        rw [MemoryWorkerStateStore.registerWorker, absent]
      rcases untilThrow_updates updates (InsertionMap.get?_set_same store worker.workerId _) with
        ⟨next, now, done, isNext, others⟩
      refine ⟨next, now, ?_, ?_, ?_⟩
      · rw [untilThrow, registers]
        exact done
      · rw [isNext, isUpdates, ← updateCalls, changes_updateCalls rebuilt]
        rfl
      · intro other different
        exact (others other different).trans (InsertionMap.get?_set_other _ _ different)

theorem untilThrow_workers (rebuilt : ∀ worker ∈ workers, Rebuilt worker)
    (distinct : (workers.map WorkerState.workerId).Nodup)
    (absent : ∀ worker ∈ workers, store.get? worker.workerId = none)
    (calls : timed.map Prod.snd = workers.flatMap copyCalls) :
    ∃ next, untilThrow database (memoryMachine database) store timed = (none, next) ∧
      (∀ worker ∈ workers, ∃ now, next.get? worker.workerId = some (worker.at now)) ∧
        ∀ other, other ∉ workers.map WorkerState.workerId →
          next.get? other = store.get? other := by
  induction workers generalizing store timed with
  | nil =>
      rw [List.map_eq_nil_iff.mp calls]
      exact ⟨store, rfl, fun _ member => absurd member List.not_mem_nil, fun _ _ => rfl⟩
  | cons worker workers induction =>
      rw [List.flatMap_cons] at calls
      rcases List.map_eq_append_iff.mp calls with ⟨front, back, rfl, ofFirst, ofRest⟩
      rw [List.map_cons, List.nodup_cons] at distinct
      rcases untilThrow_copy (rebuilt worker List.mem_cons_self)
        (absent worker List.mem_cons_self) ofFirst with ⟨middle, now, copied, isMiddle, others⟩
      have apart : ∀ later ∈ workers, later.workerId ≠ worker.workerId := by
        intro later member same
        exact distinct.1 (same ▸ List.mem_map_of_mem member)
      rcases induction (fun later member => rebuilt later (List.mem_cons_of_mem _ member))
        distinct.2 (fun later member => (others _ (apart later member)).trans
          (absent later (List.mem_cons_of_mem _ member))) ofRest with
        ⟨next, done, areNext, untouched⟩
      refine ⟨next, (untilThrow_append copied).trans done, ?_, ?_⟩
      · intro copiedWorker member
        rcases List.mem_cons.mp member with rfl | later
        · exact ⟨now, (untouched _ distinct.1).trans isMiddle⟩
        · exact areNext copiedWorker later
      · intro other missing
        rw [List.map_cons, List.mem_cons, not_or] at missing
        exact (untouched other missing.2).trans (others other missing.1)

/-! ## Calls that the tables follow -/

def Fresh (database : Database Instant) (store : MemoryWorkerStateStore)
    (call : Moment database × Call) : Prop :=
  Allowed database store call ∧ ¬ Repeats store call.2

theorem fresh_of_updates (updates : Updates workerId call)
    (allowed : Allowed database store (moment, call)) : Fresh database store (moment, call) := by
  refine ⟨allowed, ?_⟩
  cases call with
  | registerWorker other registeredAt metadata => cases updates
  | appendFireRecord other record | writeClaim other claim | releaseClaim other windowId => exact id

theorem records_fresh (kept : ∀ record ∈ records, KeptRecord database record)
    (found : store.get? workerId = some state)
    (ordered : (state.fireHistory ++ records).Pairwise (Before database))
    (calls : timed.map Prod.snd = records.map (Call.appendFireRecord workerId)) :
    (memoryMachine database).Meets (Fresh database) store timed := by
  induction timed generalizing records store state with
  | nil => exact trivial
  | cons first rest induction =>
      cases records with
      | nil => cases calls
      | cons record records =>
          rcases first with ⟨moment, call⟩
          rcases List.cons.inj calls with ⟨isAppend, isRest⟩
          dsimp only at isAppend
          subst isAppend
          have updates : Updates workerId (.appendFireRecord workerId record) := rfl
          constructor
          · apply fresh_of_updates updates
            intro other isState
            rw [found] at isState
            cases isState
            refine ⟨kept record List.mem_cons_self, ?_⟩
            intro earlier member
            exact (List.pairwise_append.mp ordered).2.2 earlier member record List.mem_cons_self
          · rw [step_updates updates found]
            apply induction (fun later member => kept later (List.mem_cons_of_mem _ member))
              (InsertionMap.get?_set_same _ _ _) _ isRest
            simpa only [WorkerState.at, change, MemoryWorkerStateStore.withRecord,
              List.append_assoc, List.singleton_append] using ordered

theorem claims_fresh {claims : List WorkerClaimRecord}
    (kept : ∀ claim ∈ claims, KeptClaim database workerId claim) (store : MemoryWorkerStateStore)
    (calls : timed.map Prod.snd = claims.map (Call.writeClaim workerId)) :
    (memoryMachine database).Meets (Fresh database) store timed := by
  induction timed generalizing claims store with
  | nil => exact trivial
  | cons first rest induction =>
      cases claims with
      | nil => cases calls
      | cons claim claims =>
          rcases first with ⟨moment, call⟩
          rcases List.cons.inj calls with ⟨isWrite, isRest⟩
          dsimp only at isWrite
          subst isWrite
          constructor
          · exact fresh_of_updates rfl fun _ => kept claim List.mem_cons_self
          · exact induction (fun later member => kept later (List.mem_cons_of_mem _ member)) _
              isRest

theorem copy_fresh (storable : Storable database worker)
    (absent : store.get? worker.workerId = none) (calls : timed.map Prod.snd = copyCalls worker) :
    (memoryMachine database).Meets (Fresh database) store timed := by
  rcases storable.members with ⟨members, isObject⟩
  rcases List.map_eq_cons_iff.mp calls with ⟨⟨moment, call⟩, rest, rfl, rfl, isUpdates⟩
  rcases List.map_eq_append_iff.mp isUpdates with ⟨front, back, rfl, areRecords, areClaims⟩
  constructor
  · refine ⟨fun _ => ⟨storable.registeredAt, ?_⟩, ?_⟩
    · rw [Option.getD_some, isObject, spread, ← isObject]
      exact storable.metadata
    · rw [Repeats, absent]
      exact Bool.false_ne_true
  · apply Machine.meets_append.mpr
    refine ⟨?_, claims_fresh storable.claims _ areClaims⟩
    have registered : ((memoryMachine database).step store (moment, .registerWorker
        worker.workerId (some worker.registeredAt) (some (spread worker.metadata)))).2.get?
        worker.workerId = some (MemoryWorkerStateStore.registered moment.text worker.workerId
          (some worker.registeredAt) (some (spread worker.metadata))) := by
      change (MemoryWorkerStateStore.registerWorker _ _ _ _ _).2.get? _ = _
      rw [MemoryWorkerStateStore.registerWorker, absent]
      exact InsertionMap.get?_set_same _ _ _
    exact records_fresh storable.records registered storable.ordered areRecords

theorem workers_fresh (storable : ∀ worker ∈ workers, Storable database worker)
    (distinct : (workers.map WorkerState.workerId).Nodup)
    (absent : ∀ worker ∈ workers, store.get? worker.workerId = none)
    (calls : timed.map Prod.snd = workers.flatMap copyCalls) :
    (memoryMachine database).Meets (Fresh database) store timed := by
  induction workers generalizing store timed with
  | nil =>
      rw [List.map_eq_nil_iff.mp calls]
      exact trivial
  | cons worker workers induction =>
      rw [List.flatMap_cons] at calls
      rcases List.map_eq_append_iff.mp calls with ⟨front, back, rfl, ofFirst, ofRest⟩
      rw [List.map_cons, List.nodup_cons] at distinct
      have first := storable worker List.mem_cons_self
      have isAbsent := absent worker List.mem_cons_self
      apply Machine.meets_append.mpr
      refine ⟨copy_fresh first isAbsent ofFirst, ?_⟩
      rcases untilThrow_copy first.rebuilt isAbsent ofFirst with ⟨middle, now, copied, -, others⟩
      rw [after_untilThrow copied]
      apply induction (fun later member => storable later (List.mem_cons_of_mem _ member))
        distinct.2 _ ofRest
      intro later member
      rw [others later.workerId]
      · exact absent later (List.mem_cons_of_mem _ member)
      · intro same
        exact distinct.1 (same ▸ List.mem_map_of_mem member)

theorem update_present {now : JsString} {effect : WorkerState → WorkerState}
    (answered : MemoryWorkerStateStore.update store now workerId effect = (.ok state, next)) :
    ∃ present, next.get? workerId = some present := by
  rw [MemoryWorkerStateStore.update] at answered
  split at answered
  next => cases answered
  next existing found =>
    cases answered
    exact ⟨_, InsertionMap.get?_set_same _ _ _⟩

theorem ok_present
    (answered : (memoryMachine database).step store (moment, call) = (.ok state, next)) :
    ∃ present, next.get? call.workerId = some present := by
  cases call with
  | appendFireRecord workerId record | writeClaim workerId claim | releaseClaim workerId windowId =>
      exact update_present answered
  | registerWorker workerId registeredAt metadata =>
      change MemoryWorkerStateStore.registerWorker _ _ _ _ _ = _ at answered
      rw [MemoryWorkerStateStore.registerWorker] at answered
      split at answered
      next existing found =>
        cases answered
        exact ⟨_, found⟩
      next =>
        cases answered
        exact ⟨_, InsertionMap.get?_set_same _ _ _⟩

theorem Holds.untilThrow (holds : Holds database store tables)
    (fresh : (memoryMachine database).Meets (Fresh database) store timed)
    (done : WorkerStateStore.untilThrow database (memoryMachine database) store timed =
      (none, next)) :
    ∃ nextTables, WorkerStateStore.untilThrow database (postgresMachine database) tables timed =
      (none, nextTables) ∧ Holds database next nextTables := by
  induction timed generalizing store tables with
  | nil =>
      cases done
      exact ⟨tables, rfl, holds⟩
  | cons call rest induction =>
      rcases call with ⟨moment, call⟩
      rcases fresh with ⟨⟨allowed, unrepeated⟩, later⟩
      rcases holds.call allowed unrepeated with ⟨middleTables, steps, holdsMiddle⟩
      rw [WorkerStateStore.untilThrow] at done
      split at done
      next => cases done
      next state middle answered =>
        rw [answered] at later holdsMiddle
        rcases ok_present answered with ⟨present, found⟩
        rcases holdsMiddle.present found with ⟨sameId, storable, stored⟩
        rcases load_of_stored storable stored with ⟨loaded, isLoaded, -⟩
        have answers : (postgresMachine database).step tables (moment, call) =
            (.ok loaded, middleTables) := by
          rw [steps, PostgresWorkerStateStore.loaded, ← sameId, isLoaded]
        rcases induction holdsMiddle later done with ⟨nextTables, goesOn, holdsNext⟩
        refine ⟨nextTables, ?_, holdsNext⟩
        rw [WorkerStateStore.untilThrow, answers]
        exact goesOn

/-! ## From one store into the other -/

variable (database)

theorem holds_empty : Holds database .empty PostgresWorkerStateStore.empty where
  present := by
    intro workerId state found
    cases found
  absent := fun _ => ⟨rfl, rfl, fun _ => rfl⟩

variable {database}

theorem Holds.after (holds : Holds database store tables)
    (allowed : (memoryMachine database).Meets (Allowed database) store calls) :
    Holds database ((memoryMachine database).after store calls)
      ((postgresMachine database).after tables calls) := by
  induction calls generalizing store tables with
  | nil => exact holds
  | cons call rest induction => exact induction (holds.step allowed.1) allowed.2

theorem map_snd_mapIdx (clock : Nat → Moment database) (calls : List Call) :
    (calls.mapIdx fun index call => (clock index, call)).map Prod.snd = calls := by
  apply List.ext_getElem
  · simp
  · intro index _ _
    simp

theorem SameState.symm (same : SameState state other) : SameState other state where
  workerId := same.workerId.symm
  registeredAt := same.registeredAt.symm
  lastFiredWindowStart := same.lastFiredWindowStart.symm
  lastFiredWindowEnd := same.lastFiredWindowEnd.symm
  fireHistory := by
    apply List.Forall₂.flip
    apply same.fireHistory.imp
    intro record other sameRecord
    exact ⟨sameRecord.windowStart.symm, sameRecord.windowEnd.symm, sameRecord.firedAt.symm,
      sameRecord.payload.symm⟩
  activeClaims := fun claim => (same.activeClaims claim).symm
  metadata := same.metadata.symm

theorem SameState.at (same : SameState state other) (now : JsString) :
    SameState (state.at now) other where
  workerId := same.workerId
  registeredAt := same.registeredAt
  lastFiredWindowStart := same.lastFiredWindowStart
  lastFiredWindowEnd := same.lastFiredWindowEnd
  fireHistory := same.fireHistory
  activeClaims := same.activeClaims
  metadata := same.metadata

theorem SameState.refl (state : WorkerState) : SameState state state where
  workerId := rfl
  registeredAt := rfl
  lastFiredWindowStart := rfl
  lastFiredWindowEnd := rfl
  fireHistory := List.forall₂_same.mpr fun _ _ => ⟨rfl, rfl, rfl, .refl _⟩
  activeClaims := fun _ => Iff.rfl
  metadata := .refl _

theorem migrate_memory (holds : Holds database store tables) (clock : Nat → Moment database) :
    ∃ target, migrateWorkerState database (postgresMachine database) clock
        (MemoryWorkerStateStore.getAllWorkers store) PostgresWorkerStateStore.empty =
        (.ok (MemoryWorkerStateStore.getAllWorkers store).length, target) ∧
      ∀ workerId, SameLoaded (PostgresWorkerStateStore.load database target workerId)
        (MemoryWorkerStateStore.getWorker store workerId) := by
  have present : ∀ worker ∈ MemoryWorkerStateStore.getAllWorkers store,
      store.get? worker.workerId = some worker ∧ Storable database worker := by
    intro worker member
    rcases InsertionMap.mem_values_iff.mp member with ⟨workerId, found⟩
    rcases holds.present found with ⟨rfl, storable, -⟩
    exact ⟨found, storable⟩
  have distinct : ((MemoryWorkerStateStore.getAllWorkers store).map WorkerState.workerId).Nodup :=
    InsertionMap.nodup_names fun found => (holds.present found).1
  have calls := map_snd_mapIdx clock
    ((MemoryWorkerStateStore.getAllWorkers store).flatMap copyCalls)
  rcases untilThrow_workers (fun worker member => (present worker member).2.rebuilt) distinct
    (fun _ _ => InsertionMap.get?_empty _) calls with ⟨next, done, areNext, untouched⟩
  have fresh := workers_fresh (fun worker member => (present worker member).2) distinct
    (fun _ _ => InsertionMap.get?_empty _) calls
  rcases (holds_empty database).untilThrow fresh done with ⟨target, targetDone, holdsTarget⟩
  refine ⟨target, ?_, ?_⟩
  · simp only [migrateWorkerState, targetDone]
  · intro workerId
    have same := holdsTarget.sameLoaded workerId
    rw [MemoryWorkerStateStore.getWorker] at same ⊢
    cases found : store.get? workerId with
    | some worker =>
        rcases holds.present found with ⟨rfl, -, -⟩
        rcases areNext worker (InsertionMap.mem_values_iff.mpr ⟨_, found⟩) with ⟨now, isNext⟩
        rw [isNext] at same
        generalize PostgresWorkerStateStore.load database target worker.workerId = loaded
          at same ⊢
        cases same with
        | some same => exact .some (same.symm.at worker.updatedAt).symm
    | none =>
        have missing : workerId ∉
            (MemoryWorkerStateStore.getAllWorkers store).map WorkerState.workerId := by
          intro member
          rcases List.mem_map.mp member with ⟨worker, isWorker, rfl⟩
          rw [(present worker isWorker).1] at found
          cases found
        rw [untouched workerId missing, InsertionMap.get?_empty] at same
        exact same

theorem fields_of_same {others : List WorkerFireRecord}
    (same : List.Forall₂ SameRecord records others) :
    records.map WorkerFireRecord.windowStart = others.map WorkerFireRecord.windowStart ∧
      records.map WorkerFireRecord.windowEnd = others.map WorkerFireRecord.windowEnd := by
  induction same with
  | nil => exact ⟨rfl, rfl⟩
  | cons first rest induction =>
      simp only [List.map_cons, first.windowStart, first.windowEnd, induction, and_self]

omit [LinearOrder Instant] in
theorem windows_distinct (tables : Tables Instant) (workerId : JsString) :
    ((PostgresWorkerStateStore.claimsOf tables workerId).map fun entry => entry.1.2).Nodup := by
  have keys : ((PostgresWorkerStateStore.claimsOf tables workerId).map Prod.fst).Nodup :=
    tables.claims.nodup.sublist (List.filter_sublist.map _)
  have windows := keys.map_on (f := Prod.snd) (by
    intro key member other otherMember same
    rcases List.mem_map.mp member with ⟨entry, isEntry, rfl⟩
    rcases List.mem_map.mp otherMember with ⟨entry', isEntry', rfl⟩
    have ids := (mem_claimsOf.mp isEntry).1.trans
      (mem_claimsOf.mp isEntry').1.symm
    exact Prod.ext ids same)
  rw [List.map_map] at windows
  exact windows

theorem rebuilt_loaded (storable : Storable database state) (stored : Stored database state tables)
    (isLoaded : PostgresWorkerStateStore.load database tables state.workerId = some loaded) :
    Rebuilt loaded := by
  rcases load_of_stored storable stored with ⟨loaded', isLoaded', same⟩
  rw [isLoaded] at isLoaded'
  cases isLoaded'
  rcases fields_of_same same.fireHistory with ⟨starts, ends⟩
  constructor
  · rcases storable.members with ⟨members, isObject⟩
    have metadata := same.metadata
    rw [isObject] at metadata
    generalize loaded.metadata = written at metadata ⊢
    cases metadata with
    | object keys values => exact ⟨_, rfl⟩
  · rcases Option.map_eq_some_iff.mp isLoaded with ⟨row, -, rfl⟩
    rw [List.map_map]
    exact ((database.anyOrder_perm _).map _).nodup_iff.mpr (windows_distinct tables _)
  · rw [same.lastFiredWindowStart, storable.lastStart, ← List.getLast?_map, ← List.getLast?_map,
      starts]
  · rw [same.lastFiredWindowEnd, storable.lastEnd, ← List.getLast?_map, ← List.getLast?_map, ends]

theorem load_workerId
    (isLoaded : PostgresWorkerStateStore.load database tables workerId = some loaded) :
    loaded.workerId = workerId := by
  rcases Option.map_eq_some_iff.mp isLoaded with ⟨row, -, rfl⟩
  rfl

theorem mem_getAllWorkers :
    worker ∈ PostgresWorkerStateStore.getAllWorkers database tables ↔
      PostgresWorkerStateStore.load database tables worker.workerId = some worker := by
  rw [PostgresWorkerStateStore.getAllWorkers, List.mem_filterMap]
  constructor
  · rintro ⟨entry, -, isLoaded⟩
    rw [load_workerId isLoaded]
    exact isLoaded
  · intro isLoaded
    rcases Option.map_eq_some_iff.mp isLoaded with ⟨row, found, -⟩
    refine ⟨(worker.workerId, row), ?_, isLoaded⟩
    exact (database.byRegisteredAt_perm _).mem_iff.mpr (InsertionMap.get?_eq_some_iff.mp found)

theorem getAllWorkers_distinct (tables : Tables Instant) :
    ((PostgresWorkerStateStore.getAllWorkers database tables).map WorkerState.workerId).Nodup := by
  have keys : ((database.byRegisteredAt tables.registrations.entries).map Prod.fst).Nodup :=
    ((database.byRegisteredAt_perm _).map _).nodup_iff.mpr tables.registrations.nodup
  rw [PostgresWorkerStateStore.getAllWorkers]
  generalize database.byRegisteredAt tables.registrations.entries = entries at keys
  induction entries with
  | nil => exact .nil
  | cons entry entries induction =>
      rw [List.map_cons, List.nodup_cons] at keys
      rw [List.filterMap_cons]
      split
      next => exact induction keys.2
      next worker isLoaded =>
        rw [List.map_cons, List.nodup_cons]
        refine ⟨?_, induction keys.2⟩
        intro member
        rcases List.mem_map.mp member with ⟨other, isOther, same⟩
        rcases List.mem_filterMap.mp isOther with ⟨entry', isEntry', isLoaded'⟩
        rw [load_workerId isLoaded, load_workerId isLoaded'] at same
        exact keys.1 (same ▸ List.mem_map_of_mem isEntry')

theorem migrate_tables (holds : Holds database store tables) (clock : Nat → Moment database) :
    ∃ target, migrateWorkerState database (memoryMachine database) clock
        (PostgresWorkerStateStore.getAllWorkers database tables) .empty =
        (.ok (PostgresWorkerStateStore.getAllWorkers database tables).length, target) ∧
      ∀ workerId, SameLoaded (MemoryWorkerStateStore.getWorker target workerId)
        (PostgresWorkerStateStore.load database tables workerId) := by
  have rebuilt : ∀ worker ∈ PostgresWorkerStateStore.getAllWorkers database tables,
      Rebuilt worker := by
    intro worker member
    have isLoaded := mem_getAllWorkers.mp member
    rcases Option.map_eq_some_iff.mp isLoaded with ⟨row, isRow, -⟩
    cases found : store.get? worker.workerId with
    | none =>
        rw [(holds.absent found).registration] at isRow
        cases isRow
    | some state =>
        rcases holds.present found with ⟨sameId, storable, stored⟩
        rw [← sameId] at isLoaded
        exact rebuilt_loaded storable stored isLoaded
  have calls := map_snd_mapIdx clock
    ((PostgresWorkerStateStore.getAllWorkers database tables).flatMap copyCalls)
  rcases untilThrow_workers rebuilt (getAllWorkers_distinct tables)
    (fun _ _ => InsertionMap.get?_empty _) calls with ⟨target, done, areCopied, untouched⟩
  refine ⟨target, ?_, ?_⟩
  · simp only [migrateWorkerState, done]
  · intro workerId
    rw [MemoryWorkerStateStore.getWorker]
    cases isLoaded : PostgresWorkerStateStore.load database tables workerId with
    | some worker =>
        have sameId := load_workerId isLoaded
        subst sameId
        rcases areCopied worker (mem_getAllWorkers.mpr isLoaded) with ⟨now, isCopied⟩
        rw [isCopied]
        exact .some ((SameState.refl worker).at now)
    | none =>
        rw [untouched workerId, InsertionMap.get?_empty]
        · exact .none
        · intro member
          rcases List.mem_map.mp member with ⟨worker, isWorker, rfl⟩
          rw [mem_getAllWorkers.mp isWorker] at isLoaded
          cases isLoaded

end Runs

/-- Along calls that are allowed the two stores load the same states, and either one is
migrated into the other without a loss. -/
theorem stores_agree {Instant : Type} [LinearOrder Instant] (database : Database Instant)
    (clock : Nat → Moment database) (calls : List (Moment database × Call))
    (allowed : (memoryMachine database).Meets (Allowed database) .empty calls) :
    (∀ front, front <+: calls → ∀ workerId,
      SameLoaded
        (PostgresWorkerStateStore.load database
          ((postgresMachine database).after PostgresWorkerStateStore.empty front) workerId)
        (MemoryWorkerStateStore.getWorker ((memoryMachine database).after .empty front)
          workerId)) ∧
    (∃ count target, migrateWorkerState database (postgresMachine database) clock
        (MemoryWorkerStateStore.getAllWorkers ((memoryMachine database).after .empty calls))
        PostgresWorkerStateStore.empty = (.ok count, target) ∧
      ∀ workerId, SameLoaded (PostgresWorkerStateStore.load database target workerId)
        (MemoryWorkerStateStore.getWorker ((memoryMachine database).after .empty calls)
          workerId)) ∧
    ∃ count target, migrateWorkerState database (memoryMachine database) clock
        (PostgresWorkerStateStore.getAllWorkers database
          ((postgresMachine database).after PostgresWorkerStateStore.empty calls))
        .empty = (.ok count, target) ∧
      ∀ workerId, SameLoaded (MemoryWorkerStateStore.getWorker target workerId)
        (PostgresWorkerStateStore.load database
          ((postgresMachine database).after PostgresWorkerStateStore.empty calls) workerId) := by
  have holds := (holds_empty database).after allowed
  refine ⟨?_, ?_, ?_⟩
  · rintro front ⟨back, rfl⟩ workerId
    exact ((holds_empty database).after (Machine.meets_append.mp allowed).1).sameLoaded workerId
  · rcases migrate_memory holds clock with ⟨target, done, same⟩
    exact ⟨_, target, done, same⟩
  · rcases migrate_tables holds clock with ⟨target, done, same⟩
    exact ⟨_, target, done, same⟩

/-! ## Two fires that are appended in either order -/

section Example

/-- Timestamps are compared as texts, and `jsonb` keeps what `JSON.parse` reads. -/
def exampleDatabase : Database (List Nat) where
  instant := fun text => some (text.map UInt16.toNat)
  shown := fun instant => instant.map UInt16.ofNat
  jsonb := JsValue.parse
  byFiredAt := List.insertionSort fun row later => row.firedAt ≤ later.firedAt
  byFiredAt_perm := List.perm_insertionSort _
  byFiredAt_sorted := StableSort.pairwise_byTime
  byRegisteredAt := List.insertionSort fun row later =>
    row.2.registeredAt ≤ later.2.registeredAt
  byRegisteredAt_perm := List.perm_insertionSort _
  byRegisteredAt_sorted := StableSort.pairwise_byTime
  anyOrder := id
  anyOrder_perm := List.Perm.refl

theorem exampleDatabase_kept (text : JsString) : Kept exampleDatabase text := by
  refine ⟨_, rfl, ?_⟩
  dsimp only [exampleDatabase]
  rw [List.map_map]
  apply List.map_id''
  intro unit
  exact UInt16.ofNat_toNat

def exampleMoment : Moment exampleDatabase where
  text := js "2026-01-03T00:00:00.000Z"
  instant := (js "2026-01-03T00:00:00.000Z").map UInt16.toNat
  read := rfl

def firstFire : WorkerFireRecord where
  windowStart := js "2026-01-01T00:00:00.000Z"
  windowEnd := js "2026-01-01T01:00:00.000Z"
  firedAt := js "2026-01-01T01:00:01.000Z"
  payload := .leaf .undefined

def secondFire : WorkerFireRecord where
  windowStart := js "2026-01-02T00:00:00.000Z"
  windowEnd := js "2026-01-02T01:00:00.000Z"
  firedAt := js "2026-01-02T01:00:01.000Z"
  payload := .leaf .undefined

def fires (first second : WorkerFireRecord) : List (Moment exampleDatabase × Call) :=
  [(exampleMoment, .registerWorker (js "w") none none),
    (exampleMoment, .appendFireRecord (js "w") first),
    (exampleMoment, .appendFireRecord (js "w") second)]

/-- Fires that are appended in the order of their times are loaded alike. -/
theorem fires_in_order_agree :
    SameLoaded
      (PostgresWorkerStateStore.load exampleDatabase
        ((postgresMachine exampleDatabase).after PostgresWorkerStateStore.empty
          (fires firstFire secondFire)) (js "w"))
      (MemoryWorkerStateStore.getWorker
        ((memoryMachine exampleDatabase).after .empty (fires firstFire secondFire))
        (js "w")) := by
  have kept : ∀ {record : WorkerFireRecord}, record.payload = .leaf .undefined →
      KeptRecord exampleDatabase record := fun none =>
    ⟨exampleDatabase_kept _, exampleDatabase_kept _, exampleDatabase_kept _, .inl none⟩
  refine (stores_agree exampleDatabase (fun _ => exampleMoment) (fires firstFire secondFire)
    ⟨?_, ?_, ?_, trivial⟩).1 _ (List.prefix_refl _) _
  · intro _
    exact ⟨exampleDatabase_kept _, _, _, rfl, rfl, .refl _⟩
  · intro state found
    cases found
    exact ⟨kept rfl, fun _ member => absurd member List.not_mem_nil⟩
  · intro state found
    cases found
    refine ⟨kept rfl, ?_⟩
    intro earlier member
    rw [List.mem_singleton.mp member]
    exact .inr ⟨_, _, rfl, rfl, by decide⟩

/-- The history of a fire that is appended late is loaded in two orders. -/
theorem late_fire_is_reordered :
    ¬ ∀ (database : Database (List Nat)) (calls : List (Moment database × Call))
        (workerId : JsString),
      SameLoaded
        (PostgresWorkerStateStore.load database
          ((postgresMachine database).after PostgresWorkerStateStore.empty calls) workerId)
        (MemoryWorkerStateStore.getWorker ((memoryMachine database).after .empty calls)
          workerId) := by
  intro claim
  have same := claim exampleDatabase (fires secondFire firstFire) (js "w")
  cases same with
  | some same =>
      have first := List.forall₂_iff_get.mp same.fireHistory |>.2 0 (by decide) (by decide)
      have firedAt := first.firedAt
      revert firedAt
      decide

end Example

end Orbital.WorkerCore.WorkerStateStore
