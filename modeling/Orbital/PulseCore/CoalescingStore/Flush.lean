import Orbital.PulseCore.CoalescingStore.Freshness

/-! # What a flush achieves

While the inner store rejects nothing, a resolved flush has written every
cursor set before it was called, or a newer one for the same key, and the store
refines a plain cursor store. After a rejection neither holds any more: the
entries handed over are gone and `#flushInProgress` stays rejected, so no later
flush runs.
-/

namespace Orbital.PulseCore.CoalescingStore

open Orbital.Foundation

variable {Key Cursor : Type} [DecidableEq Key]

/-! ## One flush -/

structure Flushing (origin : Key → Option Cursor) (since index : Nat) (key : Key)
    (store : State Key Cursor) : Prop where
  inside : since ≤ store.sets.length
  started : ∀ link, store.flushInProgress[index]? = some link →
    link.started = true → Drained origin since key store
  fulfilled : store.flushInProgress[index]? = some .fulfilled →
    HeldSince origin store.sets since key (store.inner key)

inductive Move (store next : State Key Cursor) (index : Nat) : Prop
  | stays (same : next.flushInProgress[index]? = store.flushInProgress[index]?)
  | chained (fresh : next.flushInProgress[index]? = some .waiting)
  | called (drained : next.buffer = .empty)
      (idle : next.flushInProgress[index]? = some .fulfilled → next.inFlight = [])
  | writing (batch left : List (Key × Cursor))
      (before : store.flushInProgress[index]? = some (.running batch))
      (after : next.flushInProgress[index]? = some (.running left))
  | finished (before : store.flushInProgress[index]? = some (.running []))
      (idle : next.inFlight = [])

omit [DecidableEq Key] in
theorem flush_move (store : State Key Cursor) (index : Nat) : Move store store.flush index := by
  rcases Nat.lt_trichotomy index store.flushInProgress.length with inside | last | outside
  · exact .stays (List.getElem?_append_left inside)
  · refine .chained ?_
    rw [last]
    exact List.getElem?_concat_length
  · refine .stays ?_
    rw [State.flush, List.getElem?_eq_none (by simp; omega), List.getElem?_eq_none (by omega)]

omit [DecidableEq Key] in
theorem doFlush_buffer (store : State Key Cursor) (index : Nat) :
    (store.doFlush index).buffer = .empty := by
  rw [State.doFlush]
  split
  · rename_i empty
    have noEntries : store.buffer.entries = [] := List.length_eq_zero_iff.mp empty
    show store.buffer = .empty
    cases held : store.buffer with
    | mk entries nodup =>
        rw [held] at noEntries
        cases noEntries
        rfl
  · rfl

variable {index : Nat} {origin : Key → Option Cursor} {store next start final : State Key Cursor}
  {event : Event Key Cursor} {events : List (Event Key Cursor)}

omit [DecidableEq Key] in
theorem doFlush_other (store : State Key Cursor) {other : Nat} (different : index ≠ other) :
    (store.doFlush index).flushInProgress[other]? = store.flushInProgress[other]? := by
  rw [State.doFlush]
  split <;> exact List.getElem?_set_ne different

theorem doFlush_idle (holds : Invariant origin store)
    (atIndex : store.flushInProgress[index]? = some .waiting)
    (turn : PromiseChain.predecessor store.flushInProgress index = .fulfilled)
    (done : (store.doFlush index).flushInProgress[index]? = some .fulfilled) :
    (store.doFlush index).inFlight = [] := by
  rw [doFlush_inFlight holds atIndex turn]
  have inside := (List.getElem?_eq_some_iff.mp atIndex).1
  by_cases empty : store.buffer.size = 0
  · exact List.length_eq_zero_iff.mp empty
  · rw [State.doFlush, if_neg empty] at done
    simp [State.setLink, inside] at done

theorem Invariant.move (holds : Invariant origin store) (accepted : event.accepted = true)
    (taken : CoalescingStore.step store event = some next) (index : Nat) :
    Move store next index := by
  cases event with
  | set key cursor =>
      cases taken
      exact .stays rfl
  | setMany entries =>
      cases taken
      exact .stays (by rw [(setMany_same store entries).1])
  | get key =>
      cases taken
      exact .stays (by rw [(get_same store key).2.1])
  | getMany keys =>
      cases taken
      exact .stays rfl
  | flush =>
      cases taken
      exact flush_move store index
  | tick =>
      simp only [CoalescingStore.step] at taken
      split at taken
      · cases taken
        exact flush_move store index
      · cases taken
  | dispose =>
      cases taken
      exact .stays rfl
  | react called =>
      rcases react_cases taken with ⟨atCalled, ⟨turn, rfl⟩ | ⟨turn, rfl⟩⟩
      · by_cases hit : called = index
        · subst hit
          exact .called (doFlush_buffer store called) (doFlush_idle holds atCalled turn)
        · exact .stays (doFlush_other store hit)
      · have healthy := holds.predecessor_healthy called
        rcases turn with failed | skipped
        · exact absurd failed healthy.1
        · exact absurd skipped healthy.2
  | land called key =>
      rcases land_cases taken with ⟨batch, cursor, atCalled, _, rfl⟩
      by_cases hit : called = index
      · subst hit
        exact .writing batch _ atCalled
          (List.getElem?_set_self (List.getElem?_eq_some_iff.mp atCalled).1)
      · exact .stays (List.getElem?_set_ne hit)
  | resolve called =>
      rcases resolve_cases taken with ⟨atCalled, rfl⟩
      by_cases hit : called = index
      · subst hit
        exact .finished atCalled
          (holds.inFlight_set _ .fulfilled atCalled rfl (holds.running_turn atCalled) rfl)
      · exact .stays (List.getElem?_set_ne hit)
  | reject called => simp [Event.accepted] at accepted
  | answer position =>
      rcases answer_cases taken with ⟨read, _, _, rfl⟩
      exact .stays rfl

theorem Flushing.step {since : Nat} {key : Key} (flushing : Flushing origin since index key store)
    (holds : Invariant origin store) (accepted : event.accepted = true)
    (taken : CoalescingStore.step store event = some next) :
    Flushing origin since index key next := by
  have nextHolds := holds.step accepted taken
  have inside : since ≤ next.sets.length := by
    have bound := flushing.inside
    rw [step_sets taken, List.length_append]
    omega
  have keeps : ∀ link, store.flushInProgress[index]? = some link →
      link.started = true → Drained origin since key next := by
    intro link atIndex started
    exact (flushing.started link atIndex started).step holds accepted flushing.inside taken
  cases holds.move accepted taken index with
  | stays same =>
      refine ⟨inside, ?_, ?_⟩
      · rw [same]
        exact keeps
      · intro done
        rw [same] at done
        exact (flushing.started _ done rfl).inner_step holds accepted
          (flushing.fulfilled done) taken
  | chained fresh =>
      refine ⟨inside, ?_, ?_⟩
      · intro link atIndex started
        rw [fresh] at atIndex
        cases atIndex
        simp [Link.started] at started
      · intro done
        simp [fresh] at done
  | called drained idle =>
      have notBuffered : next.buffer.get? key = none := by
        rw [drained]
        rfl
      have fresh := nextHolds.drained notBuffered inside
      refine ⟨inside, fun _ _ _ => fresh, ?_⟩
      intro done
      exact fresh.inner (by simp [idle done])
  | writing batch left before after =>
      refine ⟨inside, fun _ _ _ => keeps _ before rfl, ?_⟩
      intro done
      simp [after] at done
  | finished before idle =>
      have drained := keeps _ before rfl
      exact ⟨inside, fun _ _ _ => drained, fun _ => drained.inner (by simp [idle])⟩

theorem flushing_ahead (origin : Key → Option Cursor) (key : Key)
    (ahead : store.flushInProgress.length ≤ index) :
    Flushing origin store.sets.length index key store where
  inside := Nat.le_refl _
  started := by
    intro link atIndex
    simp [List.getElem?_eq_none ahead] at atIndex
  fulfilled := by
    intro done
    simp [List.getElem?_eq_none ahead] at done

theorem Run.flushing {since : Nat} {key : Key} (run : Run start events final)
    (accepted : ∀ event ∈ events, event.accepted = true) (holds : Invariant origin start)
    (flushing : Flushing origin since index key start) : Flushing origin since index key final := by
  have both : Invariant origin final ∧ Flushing origin since index key final := by
    refine (run.guarded accepted).invariant
      (motive := fun store => Invariant origin store ∧
        Flushing origin since index key store) ?_ ⟨holds, flushing⟩
    rintro current event next ⟨holds, flushing⟩ ⟨accepted, taken⟩
    exact ⟨holds.step accepted taken, flushing.step holds accepted taken⟩
  exact both.2

/-- A flush called after `start` has, once it is fulfilled, written for each key
what was last set before it was called, or something newer. -/
theorem Run.flushed (run : Run start events final)
    (accepted : ∀ event ∈ events, event.accepted = true) (holds : Invariant origin start)
    (later : start.flushInProgress.length ≤ index)
    (fulfilled : final.flushInProgress[index]? = some .fulfilled) (key : Key) :
    HeldSince origin final.sets start.sets.length key (final.inner key) :=
  (run.flushing accepted holds (flushing_ahead origin key later)).fulfilled fulfilled

/-! ## Refinement of a plain cursor store -/

theorem Invariant.landed_sublist (holds : Invariant origin store) (key : Key) :
    (writesTo key store.landed).Sublist (writesTo key store.sets) := by
  refine List.Sublist.trans ?_ (holds.sublist key)
  rw [State.trail, List.append_assoc]
  exact List.sublist_append_left _ _

theorem Run.sets_unchanged (run : Run start events final)
    (quiet : ∀ event ∈ events, event.writes = []) : final.sets = start.sets := by
  refine (run.guarded quiet).invariant
    (motive := fun store => store.sets = start.sets) ?_ rfl
  rintro current event next same ⟨quiet, taken⟩
  rw [step_sets taken, quiet, List.append_nil, same]

/-- While no inner write is rejected: inner writes do not overlap, each key is
written in the order it was set, and a flush called after the last set leaves
the inner store with the contents of a plain store. -/
theorem refines_plain_store (origin : Key → Option Cursor)
    (events : List (Event Key Cursor)) (final : State Key Cursor)
    (run : Run (initial origin) events final)
    (accepted : ∀ event ∈ events, event.accepted = true) :
    (∀ (left right : Nat) (leftBatch rightBatch : List (Key × Cursor)),
      final.flushInProgress[left]? = some (.running leftBatch) →
      final.flushInProgress[right]? = some (.running rightBatch) → left = right) ∧
    (∀ key, (writesTo key final.landed).Sublist (writesTo key final.sets)) ∧
    ∀ (before after : List (Event Key Cursor)) (called : State Key Cursor),
      events = before ++ .flush :: after →
      Run (initial origin) before called →
      (∀ event ∈ after, event.writes = []) →
      final.flushInProgress[called.flushInProgress.length]? = some .fulfilled →
      ∀ key, final.inner key = contents origin final.sets key := by
  have holds := run.invariant accepted
  refine ⟨?_, holds.landed_sublist, ?_⟩
  · intro left right leftBatch rightBatch atLeft atRight
    exact holds.ordered.running_unique atLeft atRight
  · rintro before after called rfl untilCall quiet fulfilled key
    rcases run.split with ⟨middle, first, second⟩
    have sameState : middle = called := first.unique untilCall
    subst sameState
    have calledHolds : Invariant origin middle :=
      Run.invariant first fun event member =>
        accepted event (List.mem_append_left _ member)
    have held := Run.flushed second
      (fun event member => accepted event (List.mem_append_right _ member))
      calledHolds (Nat.le_refl _) fulfilled key
    have noSets : final.sets = middle.sets := by
      apply Run.sets_unchanged second
      intro event member
      rcases List.mem_cons.mp member with first | later
      · rw [first]
        rfl
      · exact quiet event later
    rw [← noSets] at held
    exact held.eq_contents

/-- One flush between two sets of a key, and one after them. -/
theorem refines_plain_store_twice_flushed :
    ∃ final : State String String,
      Run (initial fun _ => none)
        [.set "ledger" "7", .flush, .react 0, .set "ledger" "8", .flush,
          .land 0 "ledger", .resolve 0, .react 1, .land 1 "ledger", .resolve 1] final ∧
      final.inner "ledger" = some "8" := by
  let before : List (Event String String) :=
    [.set "ledger" "7", .flush, .react 0, .set "ledger" "8"]
  let after : List (Event String String) :=
    [.land 0 "ledger", .resolve 0, .react 1, .land 1 "ledger", .resolve 1]
  have called : runEvents step (initial fun _ => none) before = some _ := rfl
  have run : runEvents step (initial fun _ => none) (before ++ .flush :: after) = some _ := rfl
  have correct := refines_plain_store (fun _ => none) _ _ (trace_of_runEvents run) (by decide)
  exact ⟨_, trace_of_runEvents run,
    correct.2.2 before after _ rfl (trace_of_runEvents called) (by decide) rfl "ledger"⟩

/-! ## Rejected inner writes -/

/-- What a caller may rely on: the last cursor set for a key is somewhere, and
in every continuation in which the inner store rejects nothing each flush makes
its own attempt and, once fulfilled, has written every key. -/
structure Survives (origin : Key → Option Cursor) (store : State Key Cursor) :
    Prop where
  pending : ∀ key cursor, lastWrite key store.sets = some cursor →
    store.inner key = some cursor ∨ (key, cursor) ∈ store.inFlight ∨
      store.buffer.get? key = some cursor
  attempted : ∀ events later, Run store events later →
    (∀ event ∈ events, event.accepted = true) →
      ∀ link ∈ later.flushInProgress, link ≠ .skipped
  written : ∀ events later, Run store events later →
    (∀ event ∈ events, event.accepted = true) →
      ∀ index, store.flushInProgress.length ≤ index →
        later.flushInProgress[index]? = some .fulfilled →
          ∀ key, HeldSince origin later.sets store.sets.length key (later.inner key)

theorem Invariant.survives (holds : Invariant origin store) : Survives origin store where
  pending := fun _ _ last => holds.last_survives last
  attempted := fun _ _ run accepted link member =>
    ((holds.run run accepted).healthy link member).2
  written := fun _ _ run accepted _ later fulfilled key =>
    run.flushed accepted holds later fulfilled key

inductive Change (chain next : PromiseChain (List (Key × Cursor))) : Prop
  | same (equal : next = chain)
  | chained (equal : next = chain ++ [.waiting])
  | called (index : Nat) (link : Link (List (Key × Cursor)))
      (atIndex : chain[index]? = some .waiting)
      (turn : PromiseChain.predecessor chain index = .fulfilled)
      (equal : next = chain.set index link)
  | skipped (index : Nat) (atIndex : chain[index]? = some .waiting)
      (settled : (PromiseChain.predecessor chain index).settled = true)
      (equal : next = chain.set index .skipped)
  | advanced (index : Nat) (batch : List (Key × Cursor)) (link : Link (List (Key × Cursor)))
      (atIndex : chain[index]? = some (.running batch))
      (equal : next = chain.set index link)

omit [DecidableEq Key] in
theorem doFlush_change (atIndex : store.flushInProgress[index]? = some .waiting)
    (turn : PromiseChain.predecessor store.flushInProgress index = .fulfilled) :
    Change store.flushInProgress (store.doFlush index).flushInProgress := by
  rw [State.doFlush]
  split
  · exact .called index .fulfilled atIndex turn rfl
  · exact .called index (.running store.buffer.entries) atIndex turn rfl

theorem step_change (taken : step store event = some next) :
    Change store.flushInProgress next.flushInProgress := by
  cases event with
  | set key cursor =>
      cases taken
      exact .same rfl
  | setMany entries =>
      cases taken
      exact .same (setMany_same store entries).1
  | get key =>
      cases taken
      exact .same (get_same store key).2.1
  | getMany keys =>
      cases taken
      exact .same rfl
  | flush =>
      cases taken
      exact .chained rfl
  | tick =>
      simp only [step] at taken
      split at taken
      · cases taken
        exact .chained rfl
      · cases taken
  | dispose =>
      cases taken
      exact .same rfl
  | react index =>
      rcases react_cases taken with ⟨atIndex, ⟨turn, rfl⟩ | ⟨turn, rfl⟩⟩
      · exact doFlush_change atIndex turn
      · refine .skipped index atIndex ?_ rfl
        rcases turn with failed | skipped
        · rw [failed]
          rfl
        · rw [skipped]
          rfl
  | land index key =>
      rcases land_cases taken with ⟨batch, cursor, atIndex, _, rfl⟩
      exact .advanced index batch _ atIndex rfl
  | resolve index =>
      rcases resolve_cases taken with ⟨atIndex, rfl⟩
      exact .advanced index [] _ atIndex rfl
  | reject index =>
      rcases reject_cases taken with ⟨batch, atIndex, rfl⟩
      exact .advanced index batch _ atIndex rfl
  | answer position =>
      rcases answer_cases taken with ⟨read, _, _, rfl⟩
      exact .same rfl

theorem Run.ordered (run : Run (initial origin) events final) :
    PromiseChain.Ordered final.flushInProgress := by
  refine Trace.invariant (motive := fun store => PromiseChain.Ordered store.flushInProgress)
    ?_ run .nil
  intro current event next ordered taken
  cases step_change taken with
  | same equal => rwa [equal]
  | chained equal =>
      rw [equal]
      exact ordered.chain
  | called index link atIndex turn equal =>
      rw [equal]
      exact ordered.call link atIndex turn
  | skipped index atIndex settled equal =>
      rw [equal]
      exact ordered.skip atIndex settled
  | advanced index batch link atIndex equal =>
      rw [equal]
      exact ordered.advance link atIndex

theorem failed_step (failed : store.flushInProgress[index]? = some .failed)
    (taken : step store event = some next) : next.flushInProgress[index]? = some .failed := by
  have other : ∀ (changed : Nat) (link found : Link (List (Key × Cursor))),
      store.flushInProgress[changed]? = some found → found ≠ .failed →
        (store.flushInProgress.set changed link)[index]? = some .failed := by
    intro changed link found atChanged notFailed
    have different : changed ≠ index := by
      rintro rfl
      rw [failed] at atChanged
      exact notFailed (Option.some.inj atChanged).symm
    rw [List.getElem?_set_ne different]
    exact failed
  cases step_change taken with
  | same equal => rwa [equal]
  | chained equal =>
      rw [equal, List.getElem?_append_left (List.getElem?_eq_some_iff.mp failed).1]
      exact failed
  | called changed link atChanged _ equal =>
      rw [equal]
      exact other changed link _ atChanged (by simp)
  | skipped changed atChanged _ equal =>
      rw [equal]
      exact other changed _ _ atChanged (by simp)
  | advanced changed batch link atChanged equal =>
      rw [equal]
      exact other changed link _ atChanged (by simp)

theorem Run.failed_of_reject (run : Run start events final) (rejected : .reject index ∈ events) :
    final.flushInProgress[index]? = some .failed := by
  rcases List.append_of_mem rejected with ⟨before, after, rfl⟩
  rcases run.split with ⟨called, _, second⟩
  cases second with
  | cons taken rest =>
      rcases reject_cases taken with ⟨batch, atIndex, rfl⟩
      refine Trace.invariant
        (motive := fun store => store.flushInProgress[index]? = some .failed) ?_ rest ?_
      · intro current event next failed taken
        exact failed_step failed taken
      · exact List.getElem?_set_self (List.getElem?_eq_some_iff.mp atIndex).1

theorem skipped_of_failed (ordered : PromiseChain.Ordered store.flushInProgress)
    (failed : store.flushInProgress[index]? = some .failed) :
    ∃ events later, Run store events later ∧
      (∀ event ∈ events, event.accepted = true) ∧ .skipped ∈ later.flushInProgress := by
  have inside := (List.getElem?_eq_some_iff.mp failed).1
  by_cases already : store.flushInProgress[index + 1]? = some .skipped
  · exact ⟨[], store, .nil store, by simp, List.mem_of_getElem? already⟩
  · have waiting : store.flush.flushInProgress[index + 1]? = some .waiting := by
      rw [State.flush]
      rcases Nat.lt_or_ge (index + 1) store.flushInProgress.length with more | last
      · have found := List.getElem?_eq_getElem more
        have precedes := ordered index (index + 1) _ _ (by omega) failed found
        rw [List.getElem?_append_left more, found]
        rw [found] at already
        cases link : store.flushInProgress[index + 1] <;>
          simp_all [Link.Precedes, Link.started]
      · have isLast : index + 1 = store.flushInProgress.length := by omega
        rw [isLast]
        exact List.getElem?_concat_length
    have behind : PromiseChain.predecessor store.flush.flushInProgress (index + 1) =
        .failed := by
      rw [PromiseChain.predecessor, State.flush, List.getElem?_append_left inside, failed]
      rfl
    have called : store.flush.react (index + 1) =
        some (store.flush.setLink (index + 1) .skipped) := by
      rw [State.react, waiting, behind]
    refine ⟨[.flush, .react (index + 1)], _, .cons rfl (.single called), by simp [Event.accepted],
      ?_⟩
    apply List.mem_of_getElem? (i := index + 1)
    exact List.getElem?_set_self (List.getElem?_eq_some_iff.mp waiting).1

/-- The store survives exactly the runs in which no inner write was rejected. -/
theorem survives_iff_accepted (origin : Key → Option Cursor)
    (events : List (Event Key Cursor)) (final : State Key Cursor)
    (run : Run (initial origin) events final) :
    Survives origin final ↔ ∀ event ∈ events, event.accepted = true := by
  constructor
  · intro survives event member
    cases event with
    | reject index =>
        have failed := Run.failed_of_reject run member
        rcases skipped_of_failed (Run.ordered run) failed with
          ⟨more, later, continued, accepted, skipped⟩
        exact absurd rfl (survives.attempted more later continued accepted _ skipped)
    | _ => rfl
  · intro accepted
    exact (Run.invariant run accepted).survives

theorem survives_iff_accepted_one_flush :
    ∃ final : State String String,
      Run (initial fun _ => none)
        [.set "ledger" "7", .flush, .react 0, .land 0 "ledger", .resolve 0] final ∧
      Survives (fun _ => none) final := by
  let events : List (Event String String) :=
    [.set "ledger" "7", .flush, .react 0, .land 0 "ledger", .resolve 0]
  have run : runEvents step (initial fun _ => none) events = some _ := rfl
  exact ⟨_, trace_of_runEvents run,
    (survives_iff_accepted _ _ _ (trace_of_runEvents run)).mpr (by decide)⟩

/-- A cursor whose inner write was rejected is nowhere, and the next flush never
attempts a write. -/
theorem rejected_flush_loses_cursor :
    ∃ final : State String String,
      Run (initial fun _ => none)
        [.set "ledger" "7", .flush, .react 0, .reject 0, .flush, .react 1] final ∧
      final.inner "ledger" = none ∧ final.inFlight = [] ∧
      final.buffer.get? "ledger" = none ∧
      final.flushInProgress = [.failed, .skipped] ∧
      ¬ Survives (fun _ => none) final := by
  let events : List (Event String String) :=
    [.set "ledger" "7", .flush, .react 0, .reject 0, .flush, .react 1]
  have run : runEvents step (initial fun _ => none) events = some _ := rfl
  refine ⟨_, trace_of_runEvents run, rfl, rfl, rfl, rfl, ?_⟩
  intro survives
  exact survives.attempted [] _ (.nil _) (by simp) .skipped (by decide) rfl

/-! ## Inner writes, whatever becomes of them -/

/-- In every run two inner writes never overlap, and none is under way once one was
rejected. -/
theorem inner_writes_take_turns (origin : Key → Option Cursor)
    (run : Run (initial origin) events final) {batch : List (Key × Cursor)}
    (writes : final.flushInProgress[index]? = some (.running batch)) :
    (∀ other batch, final.flushInProgress[other]? = some (.running batch) → other = index) ∧
      ∀ rejected, .reject rejected ∉ events := by
  have ordered := Run.ordered run
  have alone : ∀ other link, final.flushInProgress[other]? = some link → link ≠ .fulfilled →
      link ≠ .waiting → other = index := by
    intro other link atOther unfulfilled notWaiting
    rcases Nat.lt_trichotomy other index with earlier | same | later
    · exact absurd (ordered.before_started writes rfl other link earlier atOther) unfulfilled
    · exact same
    · exact absurd (ordered.behind_waiting writes rfl other link later atOther) notWaiting
  refine ⟨fun other batch writesToo => alone other _ writesToo nofun nofun, ?_⟩
  intro rejected wasRejected
  have failed := Run.failed_of_reject run wasRejected
  rw [alone rejected _ failed nofun nofun, writes] at failed
  cases failed

theorem inner_writes_take_turns_second_flush :
    ∃ final : State String String,
      Run (initial fun _ => none) [.set "ledger" "7", .flush, .flush, .react 0] final ∧
      ∀ other batch, final.flushInProgress[other]? = some (.running batch) → other = 0 := by
  let events : List (Event String String) := [.set "ledger" "7", .flush, .flush, .react 0]
  have run : runEvents step (initial fun _ => none) events = some _ := rfl
  exact ⟨_, trace_of_runEvents run, (inner_writes_take_turns _ (trace_of_runEvents run) rfl).1⟩

end Orbital.PulseCore.CoalescingStore
