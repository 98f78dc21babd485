import Orbital.PulseCore.CoalescingStore.Model

/-! # What every run without a rejected inner write keeps

Each key has a trail: the cursors the inner store wrote for it, then the one
in flight, then the one in the buffer. The trail is what was set for the key,
in the order it was set, and it ends with the last cursor set.
-/

namespace Orbital.PulseCore.CoalescingStore

open Orbital.Foundation

variable {Key Cursor : Type} [DecidableEq Key]

namespace State

def trail (store : State Key Cursor) (key : Key) : List Cursor :=
  writesTo key store.landed ++ writesTo key store.inFlight ++
    (store.buffer.get? key).toList

end State

/-- The event is not the inner store rejecting a `setMany`. -/
def Event.accepted : Event Key Cursor → Bool
  | .reject _ => false
  | _ => true

structure Invariant (origin : Key → Option Cursor) (store : State Key Cursor) :
    Prop where
  ordered : PromiseChain.Ordered store.flushInProgress
  healthy : ∀ link ∈ store.flushInProgress, link ≠ .failed ∧ link ≠ .skipped
  batches : (store.inFlight.map Prod.fst).Nodup
  sublist : ∀ key, (store.trail key).Sublist (writesTo key store.sets)
  last : ∀ key, (store.trail key).getLast? = lastWrite key store.sets
  inner : ∀ key, store.inner key = contents origin store.landed key

theorem initial_invariant (origin : Key → Option Cursor) : Invariant origin (initial origin) where
  ordered := .nil
  healthy := by simp [initial]
  batches := by simp [initial, State.inFlight, PromiseChain.works]
  sublist := by simp [initial, State.trail, State.inFlight, PromiseChain.works]
  last := by
    simp [initial, State.trail, State.inFlight, PromiseChain.works, lastWrite]
  inner := by simp [initial, contents, lastWrite]

/-! ## Calls -/

theorem set_trail_same (store : State Key Cursor) (key : Key) (cursor : Cursor) :
    (store.set key cursor).trail key =
      writesTo key store.landed ++ writesTo key store.inFlight ++ [cursor] := by
  simp [State.trail, State.set, State.inFlight]

variable {key : Key} {origin : Key → Option Cursor} {store next : State Key Cursor} {index : Nat}
  {link : Link (List (Key × Cursor))} {batch : List (Key × Cursor)}

theorem set_trail_other (store : State Key Cursor) {other : Key} (cursor : Cursor)
    (different : other ≠ key) : (store.set key cursor).trail other = store.trail other := by
  simp [State.trail, State.set, State.inFlight,
    InsertionMap.get?_set_other store.buffer cursor different]

theorem Invariant.set (holds : Invariant origin store) (key : Key) (cursor : Cursor) :
    Invariant origin (store.set key cursor) where
  ordered := holds.ordered
  healthy := holds.healthy
  batches := holds.batches
  inner := holds.inner
  sublist := by
    intro other
    by_cases same : other = key
    · subst same
      rw [set_trail_same]
      have shorter : (writesTo other store.landed ++ writesTo other store.inFlight).Sublist
          (writesTo other store.sets) :=
        (List.sublist_append_left _ _).trans (holds.sublist other)
      simpa [State.set] using shorter.append (List.Sublist.refl [cursor])
    · rw [set_trail_other store cursor same]
      simpa [State.set, writesTo_single_other cursor same] using holds.sublist other
  last := by
    intro other
    by_cases same : other = key
    · subst same
      rw [set_trail_same]
      simp [State.set, lastWrite]
    · rw [set_trail_other store cursor same, holds.last other]
      simp [State.set, lastWrite, writesTo_single_other cursor same]

theorem Invariant.setMany (holds : Invariant origin store) (entries : List (Key × Cursor)) :
    Invariant origin (store.setMany entries) := by
  induction entries generalizing store with
  | nil => exact holds
  | cons entry entries induction => exact induction (holds.set entry.1 entry.2)

theorem Invariant.of_same_store (holds : Invariant origin store)
    (buffer : next.buffer = store.buffer) (chain : next.flushInProgress = store.flushInProgress)
    (inner : next.inner = store.inner) (sets : next.sets = store.sets)
    (landed : next.landed = store.landed) : Invariant origin next := by
  have sameTrail : next.trail = store.trail := by
    funext key
    simp [State.trail, State.inFlight, buffer, chain, landed]
  have sameInFlight : next.inFlight = store.inFlight := by
    simp [State.inFlight, chain]
  exact {
    ordered := chain ▸ holds.ordered
    healthy := chain ▸ holds.healthy
    batches := sameInFlight ▸ holds.batches
    sublist := by rw [sameTrail, sets]; exact holds.sublist
    last := by rw [sameTrail, sets]; exact holds.last
    inner := by rw [inner, landed]; exact holds.inner }

omit [DecidableEq Key] in
theorem flush_inFlight (store : State Key Cursor) : store.flush.inFlight = store.inFlight := by
  simp [State.inFlight, State.flush]

theorem Invariant.flush (holds : Invariant origin store) : Invariant origin store.flush := by
  have sameTrail : store.flush.trail = store.trail := by
    funext key
    rw [State.trail, flush_inFlight]
    rfl
  exact {
    ordered := holds.ordered.chain
    healthy := by
      intro link member
      rcases List.mem_append.mp member with old | new
      · exact holds.healthy link old
      · simp [List.mem_singleton.mp new]
    batches := by rw [flush_inFlight]; exact holds.batches
    sublist := by rw [sameTrail]; exact holds.sublist
    last := by rw [sameTrail]; exact holds.last
    inner := holds.inner }

/-! ## The chained callbacks and the inner store -/

theorem Invariant.of_link (holds : Invariant origin store)
    (chain : next.flushInProgress = store.flushInProgress.set index link)
    (ordered : PromiseChain.Ordered (store.flushInProgress.set index link))
    (healthy : link ≠ .failed ∧ link ≠ .skipped) (batches : (next.inFlight.map Prod.fst).Nodup)
    (trail : ∀ key, next.trail key = store.trail key) (sets : next.sets = store.sets)
    (inner : ∀ key, next.inner key = contents origin next.landed key) : Invariant origin next where
  ordered := chain ▸ ordered
  healthy := by
    rw [chain]
    intro found member
    rcases List.mem_or_eq_of_mem_set member with old | new
    · exact holds.healthy found old
    · exact new ▸ healthy
  batches := batches
  sublist := by
    intro key
    rw [trail, sets]
    exact holds.sublist key
  last := by
    intro key
    rw [trail, sets]
    exact holds.last key
  inner := inner

theorem Invariant.inFlight_set (next : State Key Cursor) (changed : Link (List (Key × Cursor)))
    (holds : Invariant origin store) (atIndex : store.flushInProgress[index]? = some link)
    (unsettled : link.settled = false)
    (settled : (PromiseChain.predecessor store.flushInProgress index).settled = true)
    (chain : next.flushInProgress = store.flushInProgress.set index changed) :
    next.inFlight = (changed.work?).getD [] := by
  rw [State.inFlight, chain,
    holds.ordered.works_set changed atIndex unsettled settled]
  cases changed.work? <;> simp

theorem Invariant.inFlight_eq (holds : Invariant origin store)
    (atIndex : store.flushInProgress[index]? = some link) (unsettled : link.settled = false)
    (settled : (PromiseChain.predecessor store.flushInProgress index).settled = true) :
    store.inFlight = (link.work?).getD [] := by
  rw [State.inFlight, holds.ordered.works_eq atIndex unsettled settled]
  cases link.work? <;> simp

theorem writesTo_entries (buffer : InsertionMap Key Cursor) (key : Key) :
    writesTo key buffer.entries = (buffer.get? key).toList := by
  cases found : buffer.get? key with
  | some cursor =>
      exact writesTo_eq_singleton buffer.nodup (InsertionMap.get?_eq_some_iff.mp found)
  | none =>
      apply List.eq_nil_iff_forall_not_mem.mpr
      intro cursor written
      have present := InsertionMap.get?_eq_some_iff.mpr (mem_writesTo.mp written)
      simp [found] at present

theorem Invariant.predecessor_healthy (holds : Invariant origin store) (index : Nat) :
    PromiseChain.predecessor store.flushInProgress index ≠ .failed ∧
      PromiseChain.predecessor store.flushInProgress index ≠ .skipped := by
  cases index with
  | zero => simp [PromiseChain.predecessor]
  | succ index =>
      cases found : store.flushInProgress[index]? with
      | none => simp [PromiseChain.predecessor, found]
      | some link =>
          simpa [PromiseChain.predecessor, found] using
            holds.healthy link (List.mem_of_getElem? found)

theorem Invariant.doFlush (holds : Invariant origin store)
    (atIndex : store.flushInProgress[index]? = some .waiting)
    (turn : PromiseChain.predecessor store.flushInProgress index = .fulfilled) :
    Invariant origin (store.doFlush index) := by
  have settled : (PromiseChain.predecessor store.flushInProgress index).settled = true := by
    rw [turn]
    rfl
  have idle : store.inFlight = [] := holds.inFlight_eq atIndex rfl settled
  by_cases empty : store.buffer.size = 0
  · rw [State.doFlush, if_pos empty]
    have stillIdle : (store.setLink index .fulfilled).inFlight = [] :=
      holds.inFlight_set _ .fulfilled atIndex rfl settled rfl
    refine holds.of_link rfl (holds.ordered.call _ atIndex turn) (by simp) ?_ ?_ rfl holds.inner
    · simp [stillIdle]
    · intro key
      rw [State.trail, State.trail, stillIdle, idle]
      rfl
  · rw [State.doFlush, if_neg empty]
    have handedOver : ({ store.setLink index (.running store.buffer.entries) with
        buffer := .empty } : State Key Cursor).inFlight = store.buffer.entries :=
      holds.inFlight_set _ (.running store.buffer.entries) atIndex rfl settled rfl
    refine holds.of_link rfl (holds.ordered.call _ atIndex turn) (by simp) ?_ ?_ rfl holds.inner
    · rw [handedOver]
      exact store.buffer.nodup
    · intro key
      rw [State.trail, State.trail, handedOver, idle, writesTo_entries]
      simp [State.setLink]

omit [DecidableEq Key] in
theorem react_cases (taken : store.react index = some next) :
    store.flushInProgress[index]? = some .waiting ∧
      ((PromiseChain.predecessor store.flushInProgress index = .fulfilled ∧
          next = store.doFlush index) ∨
        ((PromiseChain.predecessor store.flushInProgress index = .failed ∨
            PromiseChain.predecessor store.flushInProgress index = .skipped) ∧
          next = store.setLink index .skipped)) := by
  unfold State.react at taken
  split at taken
  · rename_i atIndex
    refine ⟨atIndex, ?_⟩
    split at taken
    · rename_i turn
      exact .inl ⟨turn, (Option.some.inj taken).symm⟩
    · rename_i turn
      exact .inr ⟨.inl turn, (Option.some.inj taken).symm⟩
    · rename_i turn
      exact .inr ⟨.inr turn, (Option.some.inj taken).symm⟩
    · cases taken
    · cases taken
  · cases taken

theorem Invariant.react (holds : Invariant origin store) (taken : store.react index = some next) :
    Invariant origin next := by
  rcases react_cases taken with ⟨atIndex, ⟨turn, rfl⟩ | ⟨turn, _⟩⟩
  · exact holds.doFlush atIndex turn
  · -- Nothing is rejected, so no link waits behind a rejected one.
    have healthy := holds.predecessor_healthy index
    rcases turn with failed | skipped
    · exact absurd failed healthy.1
    · exact absurd skipped healthy.2

theorem Invariant.running_turn (holds : Invariant origin store)
    (atIndex : store.flushInProgress[index]? = some (.running batch)) :
    (PromiseChain.predecessor store.flushInProgress index).settled = true := by
  rw [holds.ordered.predecessor_of_started atIndex rfl]
  rfl

theorem Invariant.inFlight_of_running (holds : Invariant origin store)
    (atIndex : store.flushInProgress[index]? = some (.running batch)) : store.inFlight = batch := by
  rw [holds.inFlight_eq atIndex rfl (holds.running_turn atIndex)]
  rfl

theorem land_cases (taken : store.land index key = some next) :
    ∃ batch cursor,
      store.flushInProgress[index]? = some (.running batch) ∧
      InsertionMap.getEntry key batch = some cursor ∧
      next = store.landEntry index batch key cursor := by
  unfold State.land at taken
  split at taken
  · rename_i batch atIndex
    rcases Option.map_eq_some_iff.mp taken with ⟨cursor, found, equal⟩
    exact ⟨batch, cursor, atIndex, found, equal.symm⟩
  · cases taken

theorem Invariant.landEntry_inFlight (holds : Invariant origin store)
    (atIndex : store.flushInProgress[index]? = some (.running batch)) (key : Key)
    (cursor : Cursor) :
    (store.landEntry index batch key cursor).inFlight =
      store.inFlight.filter fun entry => entry.1 ≠ key := by
  rw [holds.inFlight_of_running atIndex]
  exact holds.inFlight_set _ (.running (batch.filter fun entry => entry.1 ≠ key))
    atIndex rfl (holds.running_turn atIndex) rfl

variable {cursor : Cursor} {final : State Key Cursor} {events : List (Event Key Cursor)}

theorem Invariant.getEntry_inFlight (holds : Invariant origin store)
    (atIndex : store.flushInProgress[index]? = some (.running batch))
    (found : InsertionMap.getEntry key batch = some cursor) :
    writesTo key store.inFlight = [cursor] := by
  have nodup := holds.batches
  rw [holds.inFlight_of_running atIndex] at nodup ⊢
  let handed : InsertionMap Key Cursor := ⟨batch, nodup⟩
  have held : handed.get? key = some cursor := found
  exact writesTo_eq_singleton nodup (InsertionMap.get?_eq_some_iff.mp held)

theorem Invariant.land (holds : Invariant origin store) (taken : store.land index key = some next) :
    Invariant origin next := by
  rcases land_cases taken with ⟨batch, cursor, atIndex, found, rfl⟩
  have left := holds.landEntry_inFlight atIndex key cursor
  have written := holds.getEntry_inFlight atIndex found
  refine holds.of_link rfl (holds.ordered.advance _ atIndex) (by simp) ?_ ?_ rfl ?_
  · rw [left]
    exact holds.batches.sublist ((List.filter_sublist).map Prod.fst)
  · intro other
    rw [State.trail, State.trail, left]
    by_cases same : other = key
    · subst same
      rw [writesTo_filter_same, written]
      simp [State.landEntry]
    · rw [writesTo_filter_other store.inFlight same]
      simp [State.landEntry, writesTo_single_other cursor same]
  · intro other
    by_cases same : other = key
    · subst same
      simp [State.landEntry]
    · simp [State.landEntry, same, holds.inner other,
        contents_append_other origin store.landed cursor same]

omit [DecidableEq Key] in
theorem resolve_cases (taken : store.resolve index = some next) :
    store.flushInProgress[index]? = some (.running []) ∧
      next = store.setLink index .fulfilled := by
  unfold State.resolve at taken
  split at taken
  · rename_i atIndex
    exact ⟨atIndex, (Option.some.inj taken).symm⟩
  · cases taken

theorem Invariant.resolve (holds : Invariant origin store)
    (taken : store.resolve index = some next) : Invariant origin next := by
  rcases resolve_cases taken with ⟨atIndex, rfl⟩
  have inFlight := holds.inFlight_of_running atIndex
  have left : (store.setLink index .fulfilled).inFlight = [] :=
    holds.inFlight_set _ .fulfilled atIndex rfl (holds.running_turn atIndex) rfl
  refine holds.of_link rfl (holds.ordered.advance _ atIndex) (by simp) ?_ ?_ rfl holds.inner
  · simp [left]
  · intro key
    rw [State.trail, State.trail, left, inFlight]
    rfl

omit [DecidableEq Key] in
theorem reject_cases (taken : store.reject index = some next) :
    ∃ batch, store.flushInProgress[index]? = some (.running batch) ∧
      next = store.setLink index .failed := by
  unfold State.reject at taken
  split at taken
  · rename_i batch atIndex
    exact ⟨batch, atIndex, (Option.some.inj taken).symm⟩
  · cases taken

omit [DecidableEq Key] in
theorem answer_cases {position : Nat} (taken : store.answer position = some next) :
    ∃ read : Read Key Cursor,
      store.reads[position]? = some read ∧ read.answer = none ∧
      next = { store with
        reads := store.reads.set position
          { read with answer := some (store.inner read.key) } } := by
  unfold State.answer at taken
  split at taken
  · rename_i key since window atPosition
    exact ⟨_, atPosition, rfl, (Option.some.inj taken).symm⟩
  · cases taken

theorem Invariant.step {event : Event Key Cursor} (holds : Invariant origin store)
    (accepted : event.accepted = true) (taken : CoalescingStore.step store event = some next) :
    Invariant origin next := by
  cases event with
  | set key cursor =>
      cases taken
      exact holds.set key cursor
  | setMany entries =>
      cases taken
      exact holds.setMany entries
  | get key =>
      cases taken
      unfold State.get
      split <;> exact holds.of_same_store rfl rfl rfl rfl rfl
  | getMany keys =>
      cases taken
      exact holds.of_same_store rfl rfl rfl rfl rfl
  | flush =>
      cases taken
      exact holds.flush
  | tick =>
      simp only [CoalescingStore.step] at taken
      split at taken
      · cases taken
        exact holds.flush
      · cases taken
  | dispose =>
      cases taken
      exact holds.of_same_store rfl rfl rfl rfl rfl
  | react index => exact holds.react taken
  | land index key => exact holds.land taken
  | resolve index => exact holds.resolve taken
  | reject index => simp [Event.accepted] at accepted
  | answer position =>
      rcases answer_cases taken with ⟨read, _, _, rfl⟩
      exact holds.of_same_store rfl rfl rfl rfl rfl

theorem Invariant.run {start : State Key Cursor} (holds : Invariant origin start)
    (run : Run start events final) (accepted : ∀ event ∈ events, event.accepted = true) :
    Invariant origin final := by
  apply (run.guarded accepted).invariant ?_ holds
  intro current event next holds step
  exact holds.step step.1 step.2

theorem Run.invariant (run : Run (initial origin) events final)
    (accepted : ∀ event ∈ events, event.accepted = true) : Invariant origin final :=
  (initial_invariant origin).run run accepted

/-! ## What the invariant says about a key -/

theorem Invariant.last_survives (holds : Invariant origin store)
    (last : lastWrite key store.sets = some cursor) :
    store.inner key = some cursor ∨ (key, cursor) ∈ store.inFlight ∨
      store.buffer.get? key = some cursor := by
  have end_ := holds.last key
  rw [last, State.trail] at end_
  cases buffered : store.buffer.get? key with
  | some held =>
      right
      right
      simpa [buffered] using end_
  | none =>
      rw [buffered, Option.toList_none, List.append_nil] at end_
      by_cases flying : writesTo key store.inFlight = []
      · left
        rw [flying, List.append_nil] at end_
        rw [holds.inner key]
        exact contents_of_lastWrite end_
      · right
        left
        rw [List.getLast?_append_of_ne_nil _ flying] at end_
        exact mem_writesTo.mp (List.mem_of_getLast? end_)

theorem Invariant.inner_of_quiet (holds : Invariant origin store)
    (notBuffered : store.buffer.get? key = none) (notInFlight : key ∉ store.inFlight.map Prod.fst) :
    store.inner key = contents origin store.sets key := by
  have quiet : writesTo key store.inFlight = [] := by
    apply List.eq_nil_iff_forall_not_mem.mpr
    intro cursor written
    exact notInFlight (List.mem_map.mpr ⟨(key, cursor), mem_writesTo.mp written, rfl⟩)
  rw [holds.inner key]
  apply contents_congr
  rw [← holds.last key, State.trail, quiet, notBuffered]
  simp [lastWrite]

end Orbital.PulseCore.CoalescingStore
