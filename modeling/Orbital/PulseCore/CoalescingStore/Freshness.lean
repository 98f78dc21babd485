import Orbital.PulseCore.CoalescingStore.Invariant

/-! # How new the cursors of a key are

`HeldSince origin store.sets since key value` says that `value` is what a plain
store would have held for `key` at some moment after the first `since` sets.
Once a key has left the buffer, all that is left of it in flight or in the inner
store is that new, and accepted steps keep it so.
-/

namespace Orbital.PulseCore.CoalescingStore

open Orbital.Foundation

variable {Key Cursor : Type} [DecidableEq Key]

/-! ## What a step does -/

def Event.writes : Event Key Cursor → List (Key × Cursor)
  | .set streamKey cursor => [(streamKey, cursor)]
  | .setMany entries => entries
  | _ => []

theorem setMany_sets (store : State Key Cursor) (entries : List (Key × Cursor)) :
    (store.setMany entries).sets = store.sets ++ entries := by
  induction entries generalizing store with
  | nil => simp [State.setMany]
  | cons entry entries induction =>
      have rest := induction (store.set entry.1 entry.2)
      rw [State.setMany] at rest
      rw [State.setMany, List.foldl_cons, rest]
      simp [State.set]

theorem setMany_same (store : State Key Cursor) (entries : List (Key × Cursor)) :
    (store.setMany entries).flushInProgress = store.flushInProgress ∧
      (store.setMany entries).inner = store.inner ∧
      (store.setMany entries).reads = store.reads := by
  induction entries generalizing store with
  | nil => exact ⟨rfl, rfl, rfl⟩
  | cons entry entries induction => exact induction (store.set entry.1 entry.2)

omit [DecidableEq Key] in
theorem doFlush_sets (store : State Key Cursor) (index : Nat) :
    (store.doFlush index).sets = store.sets := by
  rw [State.doFlush]
  split <;> rfl

omit [DecidableEq Key] in
theorem doFlush_inner (store : State Key Cursor) (index : Nat) :
    (store.doFlush index).inner = store.inner := by
  rw [State.doFlush]
  split <;> rfl

omit [DecidableEq Key] in
theorem doFlush_reads (store : State Key Cursor) (index : Nat) :
    (store.doFlush index).reads = store.reads := by
  rw [State.doFlush]
  split <;> rfl

theorem get_same (store : State Key Cursor) (streamKey : Key) :
    (store.get streamKey).buffer = store.buffer ∧
      (store.get streamKey).flushInProgress = store.flushInProgress ∧
      (store.get streamKey).inner = store.inner ∧
      (store.get streamKey).sets = store.sets := by
  rw [State.get]
  split <;> exact ⟨rfl, rfl, rfl, rfl⟩

variable {store next : State Key Cursor} {event : Event Key Cursor} {origin : Key → Option Cursor}
  {key : Key} {cursor : Cursor} {since : Nat}

theorem step_sets (taken : step store event = some next) :
    next.sets = store.sets ++ event.writes := by
  cases event with
  | set key cursor =>
      cases taken
      rfl
  | setMany entries =>
      cases taken
      exact setMany_sets store entries
  | get key =>
      cases taken
      simpa [Event.writes] using (get_same store key).2.2.2
  | getMany keys =>
      cases taken
      simp [Event.writes, State.getMany]
  | flush =>
      cases taken
      simp [Event.writes, State.flush]
  | tick =>
      simp only [step] at taken
      split at taken
      · cases taken
        simp [Event.writes, State.flush]
      · cases taken
  | dispose =>
      cases taken
      simp [Event.writes, State.dispose]
  | react index =>
      rcases (react_cases taken).2 with ⟨_, rfl⟩ | ⟨_, rfl⟩
      · simp [Event.writes, doFlush_sets]
      · simp [Event.writes]
  | land index key =>
      rcases land_cases taken with ⟨batch, cursor, _, _, rfl⟩
      simp [Event.writes, State.landEntry]
  | resolve index =>
      rcases resolve_cases taken with ⟨_, rfl⟩
      simp [Event.writes]
  | reject index =>
      rcases reject_cases taken with ⟨batch, _, rfl⟩
      simp [Event.writes]
  | answer position =>
      rcases answer_cases taken with ⟨read, _, _, rfl⟩
      simp [Event.writes]

theorem doFlush_inFlight {index : Nat} (holds : Invariant origin store)
    (atIndex : store.flushInProgress[index]? = some .waiting)
    (turn : PromiseChain.predecessor store.flushInProgress index = .fulfilled) :
    (store.doFlush index).inFlight = store.buffer.entries := by
  have settled : (PromiseChain.predecessor store.flushInProgress index).settled = true := by
    rw [turn]
    rfl
  rw [State.doFlush]
  split
  · rename_i empty
    have noEntries : store.buffer.entries = [] := List.length_eq_zero_iff.mp empty
    rw [noEntries]
    exact holds.inFlight_set _ .fulfilled atIndex rfl settled rfl
  · exact holds.inFlight_set _ (.running store.buffer.entries) atIndex rfl settled rfl

inductive Effect (store next : State Key Cursor) : Prop
  | same (inFlight : next.inFlight = store.inFlight) (inner : next.inner = store.inner)
  | handOver (idle : store.inFlight = []) (inFlight : next.inFlight = store.buffer.entries)
      (inner : next.inner = store.inner)
  | write (key : Key) (cursor : Cursor) (handed : (key, cursor) ∈ store.inFlight)
      (inFlight : next.inFlight = store.inFlight.filter fun entry => entry.1 ≠ key)
      (inner : next.inner = Function.update store.inner key (some cursor))

theorem Invariant.effect (holds : Invariant origin store) (accepted : event.accepted = true)
    (taken : CoalescingStore.step store event = some next) : Effect store next := by
  cases event with
  | set key cursor =>
      cases taken
      exact .same rfl rfl
  | setMany entries =>
      cases taken
      rcases setMany_same store entries with ⟨chain, inner, _⟩
      exact .same (by simp [State.inFlight, chain]) inner
  | get key =>
      cases taken
      rcases get_same store key with ⟨_, chain, inner, _⟩
      exact .same (by simp [State.inFlight, chain]) inner
  | getMany keys =>
      cases taken
      exact .same rfl rfl
  | flush =>
      cases taken
      exact .same (flush_inFlight store) rfl
  | tick =>
      simp only [CoalescingStore.step] at taken
      split at taken
      · cases taken
        exact .same (flush_inFlight store) rfl
      · cases taken
  | dispose =>
      cases taken
      exact .same rfl rfl
  | react index =>
      rcases react_cases taken with ⟨atIndex, ⟨turn, rfl⟩ | ⟨turn, rfl⟩⟩
      · have settled :
            (PromiseChain.predecessor store.flushInProgress index).settled = true := by
          rw [turn]
          rfl
        exact .handOver (holds.inFlight_eq atIndex rfl settled)
          (doFlush_inFlight holds atIndex turn) (doFlush_inner store index)
      · have healthy := holds.predecessor_healthy index
        rcases turn with failed | skipped
        · exact absurd failed healthy.1
        · exact absurd skipped healthy.2
  | land index key =>
      rcases land_cases taken with ⟨batch, cursor, atIndex, found, rfl⟩
      have written := holds.getEntry_inFlight atIndex found
      exact .write key cursor (mem_writesTo.mp (by simp [written]))
        (holds.landEntry_inFlight atIndex key cursor) rfl
  | resolve index =>
      rcases resolve_cases taken with ⟨atIndex, rfl⟩
      have left : (store.setLink index .fulfilled).inFlight = [] :=
        holds.inFlight_set _ .fulfilled atIndex rfl (holds.running_turn atIndex) rfl
      exact .same (by rw [left, holds.inFlight_of_running atIndex]) rfl
  | reject index => simp [Event.accepted] at accepted
  | answer position =>
      rcases answer_cases taken with ⟨read, _, _, rfl⟩
      exact .same rfl rfl

/-! ## Keys that have left the buffer -/

theorem Invariant.buffered_last (holds : Invariant origin store)
    (buffered : store.buffer.get? key = some cursor) :
    contents origin store.sets key = some cursor := by
  apply contents_of_lastWrite
  rw [← holds.last key, State.trail, buffered]
  simp

theorem Invariant.inFlight_last (holds : Invariant origin store)
    (notBuffered : store.buffer.get? key = none) (flying : (key, cursor) ∈ store.inFlight) :
    contents origin store.sets key = some cursor := by
  apply contents_of_lastWrite
  rw [← holds.last key, State.trail, notBuffered,
    writesTo_eq_singleton holds.batches flying]
  simp

structure Drained (origin : Key → Option Cursor) (since : Nat) (key : Key)
    (store : State Key Cursor) : Prop where
  inFlight : ∀ cursor, (key, cursor) ∈ store.inFlight →
    HeldSince origin store.sets since key (some cursor)
  inner : key ∉ store.inFlight.map Prod.fst →
    HeldSince origin store.sets since key (store.inner key)

theorem Invariant.drained (holds : Invariant origin store)
    (notBuffered : store.buffer.get? key = none) (inside : since ≤ store.sets.length) :
    Drained origin since key store where
  inFlight := by
    intro cursor flying
    rw [← holds.inFlight_last notBuffered flying]
    exact heldSince_now origin inside key
  inner := by
    intro notInFlight
    rw [holds.inner_of_quiet notBuffered notInFlight]
    exact heldSince_now origin inside key

theorem Drained.inFlight_step (drained : Drained origin since key store)
    (holds : Invariant origin store) (accepted : event.accepted = true)
    (inside : since ≤ store.sets.length) (taken : step store event = some next)
    (flying : (key, cursor) ∈ next.inFlight) :
    HeldSince origin next.sets since key (some cursor) := by
  rw [step_sets taken]
  apply HeldSince.append
  cases holds.effect accepted taken with
  | same inFlight =>
      rw [inFlight] at flying
      exact drained.inFlight cursor flying
  | handOver _ inFlight =>
      rw [inFlight] at flying
      have buffered := InsertionMap.get?_eq_some_iff.mpr flying
      rw [← holds.buffered_last buffered]
      exact heldSince_now origin inside key
  | write _ _ _ inFlight =>
      rw [inFlight] at flying
      exact drained.inFlight cursor (List.mem_filter.mp flying).1

theorem Drained.inner_step (drained : Drained origin since key store)
    (holds : Invariant origin store) (accepted : event.accepted = true)
    (held : HeldSince origin store.sets since key (store.inner key))
    (taken : step store event = some next) :
    HeldSince origin next.sets since key (next.inner key) := by
  rw [step_sets taken]
  apply HeldSince.append
  cases holds.effect accepted taken with
  | same _ inner => rwa [inner]
  | handOver _ _ inner => rwa [inner]
  | write written cursor handed _ inner =>
      rw [inner]
      by_cases same : key = written
      · subst same
        rw [Function.update_self]
        exact drained.inFlight cursor handed
      · rwa [Function.update_of_ne same]

theorem Drained.step (drained : Drained origin since key store) (holds : Invariant origin store)
    (accepted : event.accepted = true) (inside : since ≤ store.sets.length)
    (taken : CoalescingStore.step store event = some next) : Drained origin since key next where
  inFlight := fun _ flying => drained.inFlight_step holds accepted inside taken flying
  inner := by
    intro notInFlight
    by_cases wasInFlight : key ∈ store.inFlight.map Prod.fst
    · -- The key has left the flight, so this step wrote it.
      rw [step_sets taken]
      apply HeldSince.append
      cases holds.effect accepted taken with
      | same inFlight => exact absurd (inFlight ▸ wasInFlight) notInFlight
      | handOver idle => simp [idle] at wasInFlight
      | write written cursor handed inFlight inner =>
          by_cases same : key = written
          · subst same
            rw [inner, Function.update_self]
            exact drained.inFlight cursor handed
          · rcases List.mem_map.mp wasInFlight with ⟨entry, member, equal⟩
            refine absurd (List.mem_map.mpr ⟨entry, ?_, equal⟩) notInFlight
            rw [inFlight]
            exact List.mem_filter.mpr ⟨member, by simp [equal, same]⟩
    · exact drained.inner_step holds accepted (drained.inner wasInFlight) taken

end Orbital.PulseCore.CoalescingStore

/-! ## Reading one's own writes

A read of a key that is not buffered is handed on to the inner store. Between
the moment a flush clears the buffer and the moment the inner store has written
the batch, the last cursor set for a key is in neither place, and a read issued
then may be answered with an older one.
-/

namespace Orbital.PulseCore.CoalescingStore

open Orbital.Foundation

variable {Key Cursor : Type} [DecidableEq Key]

/-- The step neither rejects an inner write nor answers a read whose key has its
last cursor still on the way to the inner store. -/
def undisturbed (store : State Key Cursor) : Event Key Cursor → Bool
  | .reject _ => false
  | .answer position => (store.reads[position]?).all fun read => !read.window
  | _ => true

abbrev UndisturbedRun (start : State Key Cursor) (events : List (Event Key Cursor))
    (final : State Key Cursor) : Prop :=
  Trace (Guarded (fun store event => undisturbed store event = true) (Takes step))
    start events final

variable {store next : State Key Cursor} {event : Event Key Cursor} {origin : Key → Option Cursor}
  {read : Read Key Cursor} {key : Key}

omit [DecidableEq Key] in
theorem undisturbed_accepted (calm : undisturbed store event = true) : event.accepted = true := by
  cases event with
  | reject index => simp [undisturbed] at calm
  | _ => rfl

/-- An answered read returned what its key held at some moment since it was
issued; one still waiting will, unless its key is still on the way. -/
structure ReadOk (origin : Key → Option Cursor) (store : State Key Cursor)
    (read : Read Key Cursor) : Prop where
  inside : read.since ≤ store.sets.length
  answered : ∀ value, read.answer = some value →
    HeldSince origin store.sets read.since read.key value
  drained : read.answer = none → Drained origin read.since read.key store
  clear : read.answer = none → read.window = false →
    HeldSince origin store.sets read.since read.key (store.inner read.key)

theorem ReadOk.step (ok : ReadOk origin store read) (holds : Invariant origin store)
    (accepted : event.accepted = true) (taken : CoalescingStore.step store event = some next) :
    ReadOk origin next read where
  inside := by
    have bound := ok.inside
    rw [step_sets taken, List.length_append]
    omega
  answered := by
    intro value answer
    rw [step_sets taken]
    exact (ok.answered value answer).append event.writes
  drained := fun pending => (ok.drained pending).step holds accepted ok.inside taken
  clear := fun pending unobstructed =>
    (ok.drained pending).inner_step holds accepted (ok.clear pending unobstructed) taken

inductive Provenance (store next : State Key Cursor) (read : Read Key Cursor) : Prop
  | kept (member : read ∈ store.reads)
  | buffered (cursor : Cursor) (held : store.buffer.get? read.key = some cursor)
      (equal : read = store.bufferedRead read.key cursor)
  | missed (absent : store.buffer.get? read.key = none)
      (equal : read = store.innerRead read.key)
  | written (earlier : Read Key Cursor) (cursor : Cursor) (member : earlier ∈ store.reads)
      (handed : (read.key, cursor) ∈ store.inFlight)
      (inner : next.inner read.key = some cursor)
      (equal : read = { earlier with window := false })
  | answered (earlier : Read Key Cursor) (member : earlier ∈ store.reads)
      (pending : earlier.answer = none) (unobstructed : earlier.window = false)
      (equal : read = { earlier with answer := some (store.inner earlier.key) })

theorem get_provenance (store : State Key Cursor) (streamKey : Key)
    (member : read ∈ (store.get streamKey).reads) :
    Provenance store (store.get streamKey) read := by
  cases held : store.buffer.get? streamKey with
  | some cursor =>
      rw [State.get, held] at member
      rcases List.mem_append.mp member with old | new
      · exact .kept old
      · cases List.mem_singleton.mp new
        exact .buffered cursor held rfl
  | none =>
      rw [State.get, held] at member
      rcases List.mem_append.mp member with old | new
      · exact .kept old
      · cases List.mem_singleton.mp new
        exact .missed held rfl

theorem getMany_provenance (store : State Key Cursor) (keys : List Key)
    (member : read ∈ (store.getMany keys).reads) : Provenance store (store.getMany keys) read := by
  rw [State.getMany, List.mem_append, List.mem_append] at member
  rcases member with (old | new) | new
  · exact .kept old
  · rcases List.mem_filterMap.mp new with ⟨key, _, found⟩
    rcases Option.map_eq_some_iff.mp found with ⟨cursor, held, rfl⟩
    exact .buffered cursor held rfl
  · rcases List.mem_map.mp new with ⟨key, missed, rfl⟩
    have absent : store.buffer.get? key = none := by
      simpa [InsertionMap.has] using (List.mem_filter.mp missed).2
    exact .missed absent rfl

theorem land_provenance {index : Nat} {batch : List (Key × Cursor)} {cursor : Cursor}
    (holds : Invariant origin store)
    (atIndex : store.flushInProgress[index]? = some (.running batch))
    (found : InsertionMap.getEntry key batch = some cursor)
    (member : read ∈ (store.landEntry index batch key cursor).reads) :
    Provenance store (store.landEntry index batch key cursor) read := by
  rcases List.mem_map.mp member with ⟨earlier, old, equal⟩
  split at equal
  · rename_i same
    subst equal
    have written := holds.getEntry_inFlight atIndex found
    refine .written earlier cursor old (mem_writesTo.mp ?_) ?_ rfl
    · simp [same, written]
    · simp [same, State.landEntry]
  · exact .kept (equal ▸ old)

theorem Invariant.provenance (holds : Invariant origin store)
    (calm : undisturbed store event = true) (taken : CoalescingStore.step store event = some next)
    (member : read ∈ next.reads) : Provenance store next read := by
  cases event with
  | set key cursor =>
      cases taken
      exact .kept member
  | setMany entries =>
      cases taken
      rw [(setMany_same store entries).2.2] at member
      exact .kept member
  | get key =>
      cases taken
      exact get_provenance store key member
  | getMany keys =>
      cases taken
      exact getMany_provenance store keys member
  | flush =>
      cases taken
      exact .kept member
  | tick =>
      simp only [CoalescingStore.step] at taken
      split at taken
      · cases taken
        exact .kept member
      · cases taken
  | dispose =>
      cases taken
      exact .kept member
  | react index =>
      rcases react_cases taken with ⟨_, ⟨_, rfl⟩ | ⟨_, rfl⟩⟩
      · rw [doFlush_reads] at member
        exact .kept member
      · exact .kept member
  | land index key =>
      rcases land_cases taken with ⟨batch, cursor, atIndex, found, rfl⟩
      exact land_provenance holds atIndex found member
  | resolve index =>
      rcases resolve_cases taken with ⟨_, rfl⟩
      exact .kept member
  | reject index => simp [undisturbed] at calm
  | answer position =>
      rcases answer_cases taken with ⟨earlier, atPosition, pending, rfl⟩
      rcases List.mem_or_eq_of_mem_set member with old | new
      · exact .kept old
      · refine .answered earlier (List.mem_of_getElem? atPosition) pending ?_ new
        simpa [undisturbed, atPosition] using calm

theorem bufferedRead_ok (holds : Invariant origin store) {cursor : Cursor}
    (held : store.buffer.get? key = some cursor) :
    ReadOk origin store (store.bufferedRead key cursor) where
  inside := Nat.le_refl _
  answered := by
    rintro value answer
    cases answer
    rw [← holds.buffered_last held]
    exact heldSince_now origin (Nat.le_refl _) key
  drained := fun pending => by simp [State.bufferedRead] at pending
  clear := fun pending => by simp [State.bufferedRead] at pending

theorem innerRead_ok (holds : Invariant origin store) (absent : store.buffer.get? key = none) :
    ReadOk origin store (store.innerRead key) := by
  have drained : Drained origin store.sets.length key store :=
    holds.drained absent (Nat.le_refl _)
  refine ⟨Nat.le_refl _, ?_, fun _ => drained, ?_⟩
  · intro value answer
    simp [State.innerRead] at answer
  · intro _ unobstructed
    exact drained.inner (by simpa [State.innerRead] using unobstructed)

theorem reads_step (holds : Invariant origin store)
    (ok : ∀ read ∈ store.reads, ReadOk origin store read) (calm : undisturbed store event = true)
    (taken : step store event = some next) : ∀ read ∈ next.reads, ReadOk origin next read := by
  intro read member
  have accepted := undisturbed_accepted calm
  have advance : ∀ earlier, ReadOk origin store earlier → ReadOk origin next earlier :=
    fun earlier earlierOk => earlierOk.step holds accepted taken
  cases holds.provenance calm taken member with
  | kept old => exact advance read (ok read old)
  | buffered cursor held equal =>
      rw [equal]
      exact advance _ (bufferedRead_ok holds held)
  | missed absent equal =>
      rw [equal]
      exact advance _ (innerRead_ok holds absent)
  | written earlier cursor old handed inner equal =>
      have earlierOk := advance earlier (ok earlier old)
      subst equal
      refine ⟨earlierOk.inside, earlierOk.answered, earlierOk.drained, ?_⟩
      intro pending _
      have fresh := ((ok earlier old).drained pending).inFlight cursor handed
      rw [inner, step_sets taken]
      exact fresh.append event.writes
  | answered earlier old pending unobstructed equal =>
      have earlierOk := advance earlier (ok earlier old)
      subst equal
      refine ⟨earlierOk.inside, ?_, fun open_ => by simp at open_, fun open_ => by simp at open_⟩
      rintro value answer
      cases answer
      rw [step_sets taken]
      exact ((ok earlier old).clear pending unobstructed).append event.writes

/-- In an undisturbed run every answered read returned what a plain store held
for its key at some moment between its call and its answer. -/
theorem read_your_writes (origin : Key → Option Cursor)
    (events : List (Event Key Cursor)) (final : State Key Cursor)
    (run : UndisturbedRun (initial origin) events final)
    (read : Read Key Cursor) (member : read ∈ final.reads) (value : Option Cursor)
    (answer : read.answer = some value) :
    HeldSince origin final.sets read.since read.key value := by
  have both : Invariant origin final ∧ ∀ read ∈ final.reads, ReadOk origin final read := by
    refine run.invariant
      (motive := fun store => Invariant origin store ∧
        ∀ read ∈ store.reads, ReadOk origin store read)
      ?_ ⟨initial_invariant origin, by simp [initial]⟩
    rintro current event next ⟨holds, ok⟩ ⟨calm, taken⟩
    exact ⟨holds.step (undisturbed_accepted calm) taken, reads_step holds ok calm taken⟩
  exact (both.2 read member).answered value answer

/-- A read issued while its key is in flight and answered once it is written. -/
theorem read_your_writes_after_write :
    ∃ final : State String String,
      UndisturbedRun (initial fun _ => none)
        [.set "ledger" "7", .flush, .react 0, .get "ledger", .land 0 "ledger", .answer 0]
        final ∧
      HeldSince (fun _ => none) final.sets 1 "ledger" (some "7") := by
  have run : UndisturbedRun (initial fun _ => none)
      [.set "ledger" "7", .flush, .react 0, .get "ledger", .land 0 "ledger", .answer 0] _ :=
    trace_of_runGuarded rfl
  exact ⟨_, run, read_your_writes _ _ _ run ⟨"ledger", 1, some (some "7"), false⟩
    (by decide) (some "7") rfl⟩

/-- A read answered while the last cursor set for its key is on its way to the
inner store misses that cursor. -/
theorem read_in_window_misses_write :
    ∃ final : State String String,
      Run (initial fun _ => none)
        [.set "ledger" "7", .flush, .react 0, .get "ledger", .answer 0] final ∧
      (⟨"ledger", 1, some none, true⟩ : Read String String) ∈ final.reads ∧
      ¬ HeldSince (fun _ => none) final.sets 1 "ledger" none := by
  have run : Run (initial fun _ : String => (none : Option String))
      [.set "ledger" "7", .flush, .react 0, .get "ledger", .answer 0] _ :=
    trace_of_runEvents rfl
  refine ⟨_, run, by decide, ?_⟩
  rintro ⟨position, later, inside, equal⟩
  have onlyWrite : position = 1 := Nat.le_antisymm inside later
  subst onlyWrite
  have held : contents (fun _ => none) [("ledger", "7")] "ledger" = some "7" := by decide
  exact absurd (equal.trans held) (by simp)

end Orbital.PulseCore.CoalescingStore
