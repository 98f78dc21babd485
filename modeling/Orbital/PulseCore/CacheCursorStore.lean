import Mathlib.Logic.Function.Basic
import Orbital.Foundation.InsertionMap
import Orbital.Foundation.Overlap

/-! # `pulse-core/src/cacheCursorStore.ts`

A cursor store with a cache in front of it. A `get` that misses asks the inner store and fills
the cache with the answer, a `set` drops the entry and asks the inner store. The inner store
may take any time over a request, and carries it out at one moment of it.
-/

namespace Orbital.PulseCore.CacheCursorStore

open Foundation

variable {Key Cursor : Type}

structure Entry (Cursor : Type) where
  value : Option Cursor
  expiresAt : Int

structure Store (Key Cursor : Type) where
  inner : Key → Option Cursor
  cache : InsertionMap Key (Entry Cursor)
  now : Int

inductive Call (Key Cursor : Type)
  | get (streamKey : Key)
  | set (streamKey : Key) (cursor : Cursor)

/-- Where a call is: a `get` waits for the inner store or for its turn to fill the cache, a
`set` waits for the inner store or for its turn to resolve. -/
inductive Phase (Cursor : Type)
  | reading
  | read (value : Option Cursor)
  | returned (value : Option Cursor)
  | writing
  | written
  | resolved
  | failed

inductive Outcome
  | resolves
  | rejects (carriedOut : Bool)

inductive Change
  | wait (ms : Nat)

section Steps

variable [DecidableEq Key] (ttlMs : Int)

def Store.write (store : Store Key Cursor) (streamKey : Key) (cursor : Cursor) : Store Key Cursor :=
  { store with inner := Function.update store.inner streamKey (some cursor) }

/-- The entry that `get` returns without asking. -/
def Store.fresh? (store : Store Key Cursor) (streamKey : Key) : Option (Entry Cursor) :=
  (store.cache.get? streamKey).filter fun entry => store.now < entry.expiresAt

def Store.fill (store : Store Key Cursor) (streamKey : Key) (value : Option Cursor) :
    Store Key Cursor :=
  { store with cache := store.cache.set streamKey ⟨value, store.now + ttlMs⟩ }

def start (store : Store Key Cursor) : Call Key Cursor → Store Key Cursor × Phase Cursor
  | .get streamKey =>
      match store.fresh? streamKey with
      | some entry => (store, .returned entry.value)
      | none => (store, .reading)
  | .set streamKey _ => ({ store with cache := store.cache.delete streamKey }, .writing)

def proceed (store : Store Key Cursor) :
    Call Key Cursor → Phase Cursor → Outcome → Option (Store Key Cursor × Phase Cursor)
  | .get streamKey, .reading, .resolves => some (store, .read (store.inner streamKey))
  | .get _, .reading, .rejects _ => some (store, .failed)
  | .get streamKey, .read value, _ => some (store.fill ttlMs streamKey value, .returned value)
  | .set streamKey cursor, .writing, .resolves => some (store.write streamKey cursor, .written)
  | .set streamKey cursor, .writing, .rejects carriedOut =>
      some (if carriedOut then store.write streamKey cursor else store, .failed)
  | .set _ _, .written, _ => some (store, .resolved)
  | _, _, _ => none

def change (store : Store Key Cursor) : Change → Store Key Cursor
  | .wait ms => { store with now := store.now + ms }

def tasks : Tasks (Store Key Cursor) (Call Key Cursor) (Phase Cursor) Outcome Change where
  start := start
  proceed := proceed ttlMs
  change := change

abbrev State (Key Cursor : Type) :=
  Overlap (Store Key Cursor) (Call Key Cursor) (Phase Cursor)

abbrev Event (Key Cursor : Type) :=
  Tasks.Event (Call Key Cursor) Outcome Change

def opened (inner : Key → Option Cursor) (now : Int) : State Key Cursor :=
  Tasks.opened ⟨inner, .empty, now⟩

def NoSet (current : State Key Cursor) (streamKey : Key) : Prop :=
  ∀ (index : Nat) (cursor : Cursor) (phase : Phase Cursor),
    current.calls[index]? ≠ some (.set streamKey cursor, phase)

def OnlySet (current : State Key Cursor) (index : Nat) (streamKey : Key) : Prop :=
  ∀ other cursor phase, current.calls[other]? = some (.set streamKey cursor, phase) →
    other = index

/-- Once the only `set` of a key has resolved, every `get` of it that is called then returns the
cursor. -/
def ReadsItsWrites (inner : Key → Option Cursor) (now : Int)
    (events : List (Event Key Cursor)) : Prop :=
  ∀ front back current final index streamKey cursor, events = front ++ back →
    Trace (Takes (tasks ttlMs).step) (opened inner now) front current →
    Trace (Takes (tasks ttlMs).step) current back final →
    current.calls[index]? = some (.set streamKey cursor, .resolved) →
    OnlySet final index streamKey →
      ∀ later value, current.calls.length ≤ later →
        final.calls[later]? = some (.get streamKey, .returned value) → value = some cursor

/-- With a cache that keeps entries, the only `set` of a key does not meet another value that
the inner store has answered a `get` with and that is not in the cache yet: neither when it is
called, nor as long as the inner store has not carried it out. -/
def Undisturbed (current : State Key Cursor) : Event Key Cursor → Prop
  | .start (.set streamKey cursor) =>
      0 < ttlMs → NoSet current streamKey → ∀ (index : Nat) value,
        current.calls[index]? = some (.get streamKey, .read value) → value = some cursor
  | .proceed index .resolves =>
      0 < ttlMs → ∀ (streamKey : Key) (set : Nat) (cursor : Cursor),
        current.calls[index]? = some (.get streamKey, .reading) →
        current.calls[set]? = some (.set streamKey cursor, .writing) →
        OnlySet current set streamKey → current.shared.inner streamKey = some cursor
  | _ => True

end Steps

/-! ## What a set leaves -/

section Settled

variable [DecidableEq Key] {ttlMs : Int}

/-- Until it fails, the only `set` of a key leaves no other value in the cache or on its way
there, and behind it the inner store holds its cursor. -/
structure SettledAt (ttlMs : Int) (current : State Key Cursor) (streamKey : Key)
    (cursor : Cursor) (phase : Phase Cursor) : Prop where
  onItsWay : 0 < ttlMs → ∀ {index : Nat} {value : Option Cursor},
    current.calls[index]? = some (.get streamKey, .read value) → value = some cursor
  cached : ∀ {entry : Entry Cursor}, current.shared.cache.get? streamKey = some entry →
    current.shared.now < entry.expiresAt → entry.value = some cursor
  inner : phase ≠ .writing → current.shared.inner streamKey = some cursor

def Settled (ttlMs : Int) (current : State Key Cursor) : Prop :=
  ∀ index streamKey cursor phase,
    current.calls[index]? = some (.set streamKey cursor, phase) →
    OnlySet current index streamKey → phase ≠ .failed →
      SettledAt ttlMs current streamKey cursor phase

variable {inner : Key → Option Cursor} {now : Int} {current next : State Key Cursor}
  {event : Event Key Cursor}

theorem settled_opened : Settled ttlMs (opened inner now) :=
  fun _ _ _ _ never => by cases never

theorem fresh?_eq_some_iff {store : Store Key Cursor} {streamKey : Key} {entry : Entry Cursor} :
    store.fresh? streamKey = some entry ↔
      store.cache.get? streamKey = some entry ∧ store.now < entry.expiresAt := by
  rw [Store.fresh?, Option.filter_eq_some_iff, decide_eq_true_iff]

theorem start_get (store : Store Key Cursor) (streamKey : Key) :
    start store (.get streamKey) = (store, .reading) ∨
      ∃ entry, store.fresh? streamKey = some entry ∧
        start store (.get streamKey) = (store, .returned entry.value) := by
  rw [start]
  cases found : store.fresh? streamKey with
  | none => exact Or.inl rfl
  | some entry => exact Or.inr ⟨entry, rfl, rfl⟩

theorem onlySet_of_moves (moves : (tasks ttlMs).Moves current event next) {index : Nat}
    {streamKey : Key} (only : OnlySet next index streamKey) :
    OnlySet current index streamKey := by
  intro other cursor phase found
  rcases moves.persists found with ⟨later, foundToo⟩
  exact only other cursor later foundToo

theorem SettledAt.keep {streamKey : Key} {cursor : Cursor} {phase later : Phase Cursor}
    (settled : SettledAt ttlMs current streamKey cursor phase)
    (onItsWay : ∀ {index : Nat} {value : Option Cursor},
      next.calls[index]? = some (.get streamKey, .read value) →
        current.calls[index]? = some (.get streamKey, .read value))
    (cached : next.shared.cache.get? streamKey = current.shared.cache.get? streamKey)
    (now : current.shared.now ≤ next.shared.now)
    (inner : later ≠ .writing → phase ≠ .writing)
    (same : next.shared.inner streamKey = current.shared.inner streamKey) :
    SettledAt ttlMs next streamKey cursor later where
  onItsWay := fun kept _ _ found => settled.onItsWay kept (onItsWay found)
  cached := by
    intro entry found fresh
    rw [cached] at found
    exact settled.cached found (by omega)
  inner := by
    intro notWriting
    rw [same]
    exact settled.inner (inner notWriting)

theorem settled_start (settled : Settled ttlMs current) (call : Call Key Cursor)
    (undisturbed : Undisturbed ttlMs current (.start call)) :
    Settled ttlMs ⟨(start current.shared call).1,
      current.calls ++ [(call, (start current.shared call).2)]⟩ := by
  intro index streamKey cursor phase found only unfailed
  have onlyBefore := @onlySet_of_moves _ _ _ ttlMs _ _ _ (.start call) _ _ only
  cases call with
  | get other =>
      have asks : (start current.shared (.get other)).1 = current.shared ∧
          ∀ value, (start current.shared (.get other)).2 ≠ .read value := by
        rcases start_get current.shared other with asks | ⟨entry, _, returns⟩
        · rw [asks]
          exact ⟨rfl, by simp⟩
        · rw [returns]
          exact ⟨rfl, by simp⟩
      rcases Tasks.found_append found with before | ⟨_, never⟩
      · have keeps := settled index streamKey cursor phase before onlyBefore unfailed
        rw [asks.1]
        refine keeps.keep ?_ rfl (Int.le_refl _) id rfl
        intro place value foundRead
        rcases Tasks.found_append foundRead with inside | ⟨_, same⟩
        · exact inside
        · exact absurd (Prod.ext_iff.mp same).2.symm (asks.2 value)
      · cases never
  | set other cursorToo =>
      have placed : (current.calls ++ [(Call.set other cursorToo, Phase.writing)])[
          current.calls.length]? = some (.set other cursorToo, .writing) :=
        List.getElem?_concat_length
      have onItsWay : ∀ {place : Nat} {key : Key} {value : Option Cursor},
          (current.calls ++ [(Call.set other cursorToo, Phase.writing)])[place]? =
            some (.get key, .read value) →
              current.calls[place]? = some (.get key, .read value) := by
        intro place key value foundRead
        rcases Tasks.found_append foundRead with inside | ⟨_, same⟩
        · exact inside
        · cases same
      rcases Tasks.found_append found with before | ⟨last, same⟩
      · have different : streamKey ≠ other := by
          rintro rfl
          have isLast := only _ _ _ placed
          have within := (List.getElem?_eq_some_iff.mp before).1
          omega
        have keeps := settled index streamKey cursor phase before onlyBefore unfailed
        refine keeps.keep onItsWay ?_ (Int.le_refl _) id rfl
        exact (InsertionMap.get?_delete _ _ _).trans (if_neg different)
      · cases same
        constructor
        · intro kept place value foundRead
          apply undisturbed kept _ place value (onItsWay foundRead)
          intro earlier cursorOther phaseOther foundSet
          have isLast := onlyBefore earlier cursorOther phaseOther foundSet
          have within := (List.getElem?_eq_some_iff.mp foundSet).1
          omega
        · intro entry foundEntry
          have gone : (current.shared.cache.delete streamKey).get? streamKey = none :=
            (InsertionMap.get?_delete _ _ _).trans (if_pos rfl)
          exact absurd (foundEntry.symm.trans gone) (by simp)
        · intro never
          exact absurd rfl never

theorem settled_proceed (settled : Settled ttlMs current) {moved : Nat} {call : Call Key Cursor}
    {before later : Phase Cursor} {outcome : Outcome} {store : Store Key Cursor}
    (atMoved : current.calls[moved]? = some (call, before))
    (proceeds : proceed ttlMs current.shared call before outcome = some (store, later))
    (undisturbed : Undisturbed ttlMs current (.proceed moved outcome)) :
    Settled ttlMs ⟨store, current.calls.set moved (call, later)⟩ := by
  intro index streamKey cursor phase found only unfailed
  have onlyBefore := onlySet_of_moves (.proceed atMoved proceeds) only
  -- The reads that a step which is none of a `get` leaves on their way.
  have onItsWay : (∀ value, later ≠ .read value) → ∀ {place : Nat} {key : Key}
      {value : Option Cursor}, (current.calls.set moved (call, later))[place]? =
        some (.get key, .read value) →
          current.calls[place]? = some (.get key, .read value) := by
    intro noRead place key value foundRead
    rcases Tasks.found_set foundRead with ⟨_, inside⟩ | ⟨_, same⟩
    · exact inside
    · exact absurd (Prod.ext_iff.mp same).2.symm (noRead value)
  cases call with
  | get other =>
      have inCurrent : current.calls[index]? = some (.set streamKey cursor, phase) := by
        rcases Tasks.found_set found with ⟨_, inside⟩ | ⟨_, never⟩
        · exact inside
        · cases never
      have keeps := settled index streamKey cursor phase inCurrent onlyBefore unfailed
      cases before with
      | reading =>
          cases outcome with
          | rejects carriedOut =>
              cases proceeds
              exact keeps.keep (onItsWay (by simp)) rfl (Int.le_refl _) id rfl
          | resolves =>
              cases proceeds
              refine ⟨?_, keeps.cached, keeps.inner⟩
              intro kept place value foundRead
              rcases Tasks.found_set foundRead with ⟨_, inside⟩ | ⟨_, same⟩
              · exact keeps.onItsWay kept inside
              · cases same
                by_cases waits : phase = .writing
                · rw [waits] at inCurrent
                  exact undisturbed kept streamKey index cursor atMoved inCurrent onlyBefore
                · exact keeps.inner waits
      | read value =>
          cases proceeds
          refine ⟨?_, ?_, keeps.inner⟩
          · exact fun kept _ _ foundRead =>
              keeps.onItsWay kept (onItsWay (by simp) foundRead)
          · intro entry foundEntry fresh
            by_cases same : streamKey = other
            · subst same
              have filled : entry = ⟨value, current.shared.now + ttlMs⟩ :=
                Option.some.inj (foundEntry.symm.trans (InsertionMap.get?_set_same _ _ _))
              rw [filled] at fresh ⊢
              have expires : current.shared.now < current.shared.now + ttlMs := fresh
              exact keeps.onItsWay (by omega) atMoved
            · apply keeps.cached _ fresh
              exact (InsertionMap.get?_set_other _ _ same).symm.trans foundEntry
      | returned value | writing | written | resolved | failed => cases proceeds
  | set other cursorToo =>
      by_cases same : streamKey = other
      · subst same
        have isOwn := onlyBefore moved cursorToo before atMoved
        subst isOwn
        cases (Tasks.set_found atMoved).symm.trans found
        cases before with
        | writing =>
            have keeps := settled _ _ _ _ atMoved onlyBefore (by simp)
            cases outcome with
            | resolves =>
                cases proceeds
                refine ⟨?_, keeps.cached, fun _ => Function.update_self _ _ _⟩
                exact fun kept _ _ foundRead =>
                  keeps.onItsWay kept (onItsWay (by simp) foundRead)
            | rejects carriedOut =>
                cases proceeds
                exact absurd rfl unfailed
        | written =>
            have keeps := settled _ _ _ _ atMoved onlyBefore (by simp)
            cases proceeds
            exact keeps.keep (onItsWay (by simp)) rfl (Int.le_refl _) (fun _ => by simp) rfl
        | reading | read value | returned value | resolved | failed => cases proceeds
      · have inCurrent : current.calls[index]? = some (.set streamKey cursor, phase) := by
          rcases Tasks.found_set found with ⟨_, inside⟩ | ⟨_, equal⟩
          · exact inside
          · cases equal
            exact absurd rfl same
        have keeps := settled index streamKey cursor phase inCurrent onlyBefore unfailed
        have written : (current.shared.write other cursorToo).inner streamKey =
            current.shared.inner streamKey :=
          Function.update_of_ne same _ _
        cases before with
        | writing =>
            cases outcome with
            | resolves =>
                cases proceeds
                exact keeps.keep (onItsWay (by simp)) rfl (Int.le_refl _) id written
            | rejects carriedOut =>
                cases proceeds
                cases carriedOut with
                | true => exact keeps.keep (onItsWay (by simp)) rfl (Int.le_refl _) id written
                | false => exact keeps.keep (onItsWay (by simp)) rfl (Int.le_refl _) id rfl
        | written =>
            cases proceeds
            exact keeps.keep (onItsWay (by simp)) rfl (Int.le_refl _) id rfl
        | reading | read value | returned value | resolved | failed => cases proceeds

theorem settled_moves (settled : Settled ttlMs current)
    (undisturbed : Undisturbed ttlMs current event)
    (moves : (tasks ttlMs).Moves current event next) : Settled ttlMs next := by
  cases moves with
  | start call => exact settled_start settled call undisturbed
  | proceed found proceeds => exact settled_proceed settled found proceeds undisturbed
  | change change =>
      intro index streamKey cursor phase found only unfailed
      have keeps := settled index streamKey cursor phase found only unfailed
      cases change with
      | wait ms =>
          exact keeps.keep id rfl (Int.le_add_of_nonneg_right (Int.natCast_nonneg ms)) id rfl

/-! ## Reads behind a set -/

/-- What a `get` has been answered. -/
def Phase.value? : Phase Cursor → Option (Option Cursor)
  | .read value => some value
  | .returned value => some value
  | _ => none

/-- Reads that were called behind a `set` have its cursor. -/
def ReadsCursor (current : State Key Cursor) (since : Nat) (streamKey : Key) (cursor : Cursor) :
    Prop :=
  ∀ (index : Nat) (phase : Phase Cursor) (value : Option Cursor), since ≤ index →
    current.calls[index]? = some (.get streamKey, phase) → phase.value? = some value →
      value = some cursor

theorem readsCursor_moves {since set : Nat} {streamKey : Key} {cursor : Cursor}
    (settled : Settled ttlMs current)
    (resolved : current.calls[set]? = some (.set streamKey cursor, .resolved))
    (only : OnlySet current set streamKey) (reads : ReadsCursor current since streamKey cursor)
    (moves : (tasks ttlMs).Moves current event next) :
    ReadsCursor next since streamKey cursor := by
  have holds := settled set streamKey cursor .resolved resolved only (by simp)
  intro index phase value behind found answered
  cases moves with
  | start call =>
      rcases Tasks.found_append found with inside | ⟨_, same⟩
      · exact reads _ _ _ behind inside answered
      · cases same
        have begins : (start current.shared (.get streamKey)).2.value? = some value := answered
        rcases start_get current.shared streamKey with asks | ⟨entry, fresh, returns⟩
        · rw [asks] at begins
          cases begins
        · rw [returns] at begins
          cases begins
          rcases fresh?_eq_some_iff.mp fresh with ⟨isEntry, notExpired⟩
          exact holds.cached isEntry notExpired
  | @proceed moved outcome call before later store atMoved proceeds =>
      rcases Tasks.found_set found with ⟨_, inside⟩ | ⟨rfl, same⟩
      · exact reads _ _ _ behind inside answered
      · cases same
        cases before with
        | reading =>
            cases outcome with
            | rejects carriedOut =>
                cases proceeds
                cases answered
            | resolves =>
                cases proceeds
                cases answered
                exact holds.inner (by simp)
        | read value =>
            cases proceeds
            exact reads _ _ _ behind atMoved answered
        | returned value | writing | written | resolved | failed => cases proceeds
  | change change => exact reads _ _ _ behind found answered

theorem resolved_moves {set : Nat} {streamKey : Key} {cursor : Cursor}
    (resolved : current.calls[set]? = some (.set streamKey cursor, .resolved))
    (moves : (tasks ttlMs).Moves current event next) :
    next.calls[set]? = some (.set streamKey cursor, .resolved) := by
  cases moves with
  | start call =>
      exact (List.getElem?_append_left (List.getElem?_eq_some_iff.mp resolved).1).trans resolved
  | @proceed moved outcome call before later store atMoved proceeds =>
      have other : moved ≠ set := by
        rintro rfl
        rw [resolved] at atMoved
        cases atMoved
        cases proceeds
      exact (Tasks.set_other other).trans resolved
  | change change => exact resolved

theorem readsCursor_run {events : List (Event Key Cursor)} {final : State Key Cursor}
    {since set : Nat} {streamKey : Key} {cursor : Cursor}
    (trace : Trace (Guarded (Undisturbed ttlMs) (Takes (tasks ttlMs).step)) current events final)
    (settled : Settled ttlMs current)
    (resolved : current.calls[set]? = some (.set streamKey cursor, .resolved))
    (only : OnlySet final set streamKey)
    (reads : ReadsCursor current since streamKey cursor) :
    ReadsCursor final since streamKey cursor := by
  have holds := by
    refine Tasks.invariant (motive := fun final => Settled ttlMs final ∧
      final.calls[set]? = some (.set streamKey cursor, .resolved) ∧
      (OnlySet final set streamKey → ReadsCursor final since streamKey cursor)) ?_ trace ?_
    · rintro current event next ⟨settled, resolved, reads⟩ undisturbed moves
      refine ⟨settled_moves settled undisturbed moves, resolved_moves resolved moves, ?_⟩
      intro only
      have onlyBefore := onlySet_of_moves moves only
      exact readsCursor_moves settled resolved onlyBefore (reads onlyBefore) moves
    · exact ⟨settled, resolved, fun _ => reads⟩
  exact holds.2.2 only

theorem reads_of_undisturbed {events : List (Event Key Cursor)} {final : State Key Cursor}
    (trace : Trace (Guarded (Undisturbed ttlMs) (Takes (tasks ttlMs).step)) (opened inner now)
      events final) : ReadsItsWrites ttlMs inner now events := by
  intro front back middle last index streamKey cursor split toMiddle toLast resolved only later
    value behind found
  subst split
  rcases trace.split with ⟨middleToo, guardedFront, guardedBack⟩
  have sameMiddle := (guardedFront.mono fun _ _ _ step => step.2).unique toMiddle
  subst sameMiddle
  have sameLast := (guardedBack.mono fun _ _ _ step => step.2).unique toLast
  subst sameLast
  have settled : Settled ttlMs middleToo :=
    Tasks.invariant (fun _ _ _ settled undisturbed moves =>
      settled_moves settled undisturbed moves) guardedFront settled_opened
  refine readsCursor_run guardedBack settled resolved only ?_ _ _ _ behind found rfl
  intro place phase other beyond foundPlace _
  have within := (List.getElem?_eq_some_iff.mp foundPlace).1
  omega

end Settled

/-! ## A stale value on its way -/

section Stale

variable [DecidableEq Key] {ttlMs : Int} {inner : Key → Option Cursor} {now : Int}
  {current : State Key Cursor}

theorem stale_run {read set : Nat} {streamKey : Key} {cursor : Cursor} {value : Option Cursor}
    (kept : 0 < ttlMs) (setting : current.calls[set]? = some (.set streamKey cursor, .writing))
    (reading : current.calls[read]? = some (.get streamKey, .read value)) :
    ∃ middle final, Trace (Takes (tasks ttlMs).step) current
        [.proceed set .resolves, .proceed set .resolves] middle ∧
      middle.calls = (current.calls.set set (.set streamKey cursor, .written)).set set
        (.set streamKey cursor, .resolved) ∧
      Trace (Takes (tasks ttlMs).step) middle
        [.proceed read .resolves, .start (.get streamKey)] final ∧
      final.calls = middle.calls.set read (.get streamKey, .returned value) ++
        [(.get streamKey, .returned value)] := by
  have different : set ≠ read := by
    rintro rfl
    rw [setting] at reading
    cases reading
  let written : State Key Cursor := ⟨current.shared.write streamKey cursor,
    current.calls.set set (.set streamKey cursor, .written)⟩
  have isWritten : written.calls[set]? = some (.set streamKey cursor, .written) :=
    Tasks.set_found setting
  let resolved : State Key Cursor :=
    ⟨written.shared, written.calls.set set (.set streamKey cursor, .resolved)⟩
  have stillReading : resolved.calls[read]? = some (.get streamKey, .read value) :=
    (Tasks.set_other different).trans ((Tasks.set_other different).trans reading)
  let filled : State Key Cursor := ⟨resolved.shared.fill ttlMs streamKey value,
    resolved.calls.set read (.get streamKey, .returned value)⟩
  have isFresh : filled.shared.fresh? streamKey =
      some ⟨value, resolved.shared.now + ttlMs⟩ := by
    apply fresh?_eq_some_iff.mpr
    refine ⟨InsertionMap.get?_set_same _ _ _, ?_⟩
    show resolved.shared.now < resolved.shared.now + ttlMs
    omega
  have writes : Takes (tasks ttlMs).step current (.proceed set .resolves) written :=
    (Tasks.moves_iff _).mpr (.proceed setting rfl)
  have resolves : Takes (tasks ttlMs).step written (.proceed set .resolves) resolved :=
    (Tasks.moves_iff _).mpr (.proceed isWritten rfl)
  have fills : Takes (tasks ttlMs).step resolved (.proceed read .resolves) filled :=
    (Tasks.moves_iff _).mpr (.proceed stillReading rfl)
  have returns : Takes (tasks ttlMs).step filled (.start (.get streamKey))
      ⟨filled.shared, filled.calls ++ [(.get streamKey, .returned value)]⟩ := by
    have begins : start filled.shared (.get streamKey) = (filled.shared, .returned value) := by
      rw [start.eq_def]
      simp only [isFresh]
    have step : Takes (tasks ttlMs).step filled (.start (.get streamKey))
        ⟨(start filled.shared (.get streamKey)).1, filled.calls ++
          [(.get streamKey, (start filled.shared (.get streamKey)).2)]⟩ :=
      (Tasks.moves_iff _).mpr (.start _)
    rw [begins] at step
    exact step
  exact ⟨resolved, _, .cons writes (.single resolves), rfl, .cons fills (.single returns), rfl⟩

theorem stale_read {events : List (Event Key Cursor)} {read set : Nat} {streamKey : Key}
    {cursor : Cursor} {value : Option Cursor}
    (trace : Trace (Takes (tasks ttlMs).step) (opened inner now) events current)
    (kept : 0 < ttlMs) (setting : current.calls[set]? = some (.set streamKey cursor, .writing))
    (only : OnlySet current set streamKey)
    (reading : current.calls[read]? = some (.get streamKey, .read value))
    (stale : value ≠ some cursor) :
    ∃ later final, Trace (Takes (tasks ttlMs).step) current later final ∧
      ¬ ReadsItsWrites ttlMs inner now (events ++ later) := by
  rcases stale_run kept setting reading with ⟨middle, final, front, calls, back, callsToo⟩
  refine ⟨_, final, front.append back, ?_⟩
  intro readsItsWrites
  have onlyFinal : OnlySet final set streamKey := by
    intro other cursorToo phase found
    rw [callsToo, calls] at found
    rcases Tasks.found_append found with inside | ⟨_, never⟩
    · rcases Tasks.found_set inside with ⟨_, inMiddle⟩ | ⟨_, never⟩
      · rcases Tasks.found_set inMiddle with ⟨_, inWritten⟩ | ⟨isSet, _⟩
        · rcases Tasks.found_set inWritten with ⟨_, inCurrent⟩ | ⟨isSet, _⟩
          · exact only other cursorToo phase inCurrent
          · exact isSet
        · exact isSet
      · cases never
    · cases never
  have resolved : middle.calls[set]? = some (.set streamKey cursor, .resolved) := by
    rw [calls]
    exact Tasks.set_found (Tasks.set_found setting)
  have last : final.calls[middle.calls.length]? = some (.get streamKey, .returned value) := by
    rw [callsToo, ← List.length_set]
    exact List.getElem?_concat_length
  rw [← List.append_assoc] at readsItsWrites
  exact stale (readsItsWrites _ _ middle final set streamKey cursor rfl (trace.append front) back
    resolved onlyFinal middle.calls.length value (Nat.le_refl _) last)

end Stale

/-- Along every run in which the only `set` of a key meets no other value on its way into the
cache the store reads its writes, and behind a step where it does it may come to return the
other value. -/
theorem reads_its_writes [DecidableEq Key] (ttlMs : Int) (inner : Key → Option Cursor)
    (now : Int) :
    Border (Takes (tasks ttlMs).step) (opened inner now) (Undisturbed ttlMs)
      (ReadsItsWrites ttlMs inner now) where
  holds := reads_of_undisturbed
  fails := by
    intro events current event next trace step disturbed
    have reached := trace.append (.single step)
    have moves := (Tasks.moves_iff _).mp step
    have continues : (∃ later final, Trace (Takes (tasks ttlMs).step) next later final ∧
        ¬ ReadsItsWrites ttlMs inner now (events ++ [event] ++ later)) →
        ∃ later final, Trace (Takes (tasks ttlMs).step) next later final ∧
          ¬ ReadsItsWrites ttlMs inner now (events ++ event :: later) := by
      rintro ⟨later, final, run, fails⟩
      rw [List.append_assoc] at fails
      exact ⟨later, final, run, fails⟩
    apply continues
    cases event with
    | change change => exact absurd trivial disturbed
    | start call =>
        cases call with
        | get streamKey => exact absurd trivial disturbed
        | set streamKey cursor =>
            rw [Undisturbed] at disturbed
            push Not at disturbed
            rcases disturbed with ⟨kept, noSet, index, value, reading, stale⟩
            cases moves with
            | start call =>
                have within := (List.getElem?_eq_some_iff.mp reading).1
                have only : OnlySet (⟨(start current.shared (.set streamKey cursor)).1,
                    current.calls ++ [(.set streamKey cursor, .writing)]⟩ : State Key Cursor)
                    current.calls.length streamKey := by
                  intro other cursorToo phase found
                  rcases Tasks.found_append found with inside | ⟨last, _⟩
                  · exact absurd inside (noSet other cursorToo phase)
                  · exact last
                exact stale_read reached kept List.getElem?_concat_length only
                  ((List.getElem?_append_left within).trans reading) stale
    | proceed index outcome =>
        cases outcome with
        | rejects carriedOut => exact absurd trivial disturbed
        | resolves =>
            rw [Undisturbed] at disturbed
            push Not at disturbed
            rcases disturbed with ⟨kept, streamKey, set, cursor, reading, writing, only, stale⟩
            have different : index ≠ set := by
              rintro rfl
              rw [reading] at writing
              cases writing
            cases moves with
            | proceed found proceeds =>
                rw [reading] at found
                cases found
                cases proceeds
                have onlyNext : OnlySet (⟨current.shared, current.calls.set index
                    (.get streamKey, .read (current.shared.inner streamKey))⟩ : State Key Cursor)
                    set streamKey := by
                  intro other cursorToo phase foundToo
                  rcases Tasks.found_set foundToo with ⟨_, inside⟩ | ⟨_, never⟩
                  · exact only other cursorToo phase inside
                  · cases never
                exact stale_read reached kept ((Tasks.set_other different).trans writing) onlyNext
                  (Tasks.set_found reading) stale

theorem undisturbed_of_free {Key Cursor : Type} [DecidableEq Key] {ttlMs : Int}
    {current : State Key Cursor} {index : Nat} {call : Call Key Cursor} {phase : Phase Cursor}
    (found : current.calls[index]? = some (call, phase))
    (free : phase = .reading → ∀ call ∈ current.calls, call.2 ≠ .writing) :
    Undisturbed ttlMs current (.proceed index .resolves) := by
  intro _ _ _ _ reading writing
  rw [found] at reading
  cases reading
  exact absurd rfl (free rfl _ (List.mem_of_getElem? writing))

/-- A `get` that fills the cache before a `set` of its key, and one that asks behind it. -/
theorem cached_in_turn :
    let events : List (Event Nat Nat) := [.start (.get 0), .proceed 0 .resolves,
      .proceed 0 .resolves, .start (.set 0 7), .proceed 1 .resolves, .start (.get 0),
      .proceed 2 .resolves, .proceed 1 .resolves, .proceed 2 .resolves, .start (.get 0)]
    (∃ final, Trace (Guarded (Undisturbed 1000) (Takes (tasks 1000).step))
        (opened (fun _ => none) 0) events final ∧
      final.calls[3]? = some (.get 0, .returned (some 7))) ∧
        ReadsItsWrites 1000 (fun _ => none) 0 events := by
  intro events
  have run : ∃ final, Trace (Guarded (Undisturbed 1000) (Takes (tasks 1000).step))
      (opened (fun _ => none) 0) events final ∧
        final.calls[3]? = some (.get 0, .returned (some 7)) := by
    refine ⟨_, .cons ⟨trivial, rfl⟩ (.cons ⟨undisturbed_of_free rfl ?_, rfl⟩
      (.cons ⟨undisturbed_of_free rfl nofun, rfl⟩ (.cons ⟨?_, rfl⟩
      (.cons ⟨undisturbed_of_free rfl nofun, rfl⟩ (.cons ⟨trivial, rfl⟩
      (.cons ⟨undisturbed_of_free rfl ?_, rfl⟩ (.cons ⟨undisturbed_of_free rfl nofun, rfl⟩
      (.cons ⟨undisturbed_of_free rfl nofun, rfl⟩ (.single ⟨trivial, rfl⟩))))))))), rfl⟩
    · exact fun _ => List.forall_mem_singleton.mpr nofun
    · intro _ _ index value reading
      cases List.mem_singleton.mp (List.mem_of_getElem? reading)
    · exact fun _ => List.forall_mem_cons.mpr ⟨nofun, List.forall_mem_cons.mpr
        ⟨nofun, List.forall_mem_singleton.mpr nofun⟩⟩
  rcases run with ⟨final, trace, returned⟩
  exact ⟨⟨final, trace, returned⟩, (reads_its_writes 1000 _ 0).holds trace⟩

/-- A `get` that is answered before a `set` and fills the cache behind it. -/
theorem stale_cache :
    ¬ ∀ (ttlMs : Int) (inner : Nat → Option Nat) (now : Int) (events : List (Event Nat Nat)),
      ReadsItsWrites ttlMs inner now events := by
  intro readsItsWrites
  let events : List (Event Nat Nat) := [.start (.get 0), .proceed 0 .resolves, .start (.set 0 7)]
  let current : State Nat Nat := ⟨⟨fun _ => none, .empty, 0⟩,
    [(.get 0, .read none), (.set 0 7, .writing)]⟩
  have trace : Trace (Takes (tasks 1000).step) (opened (fun _ => none) 0) events current :=
    trace_of_runEvents rfl
  have only : OnlySet current 1 0 := by
    intro other cursor phase found
    rcases other with - | - | other
    · cases found
    · rfl
    · cases found
  rcases stale_read trace (by decide) rfl only (rfl : current.calls[0]? = _) (by decide) with
    ⟨later, final, _, fails⟩
  exact fails (readsItsWrites 1000 _ 0 _)

end Orbital.PulseCore.CacheCursorStore
