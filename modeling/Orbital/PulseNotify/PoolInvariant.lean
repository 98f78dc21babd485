import Orbital.PulseNotify.ConnectionPool

/-! # One open source for each key that is wanted

A key has an open source, which is the pooled one, exactly while a handle of it is active.
This lasts until a handle empties an entry that another handle still uses, or empties once
more an entry that is closed while a newer one is pooled.
-/

namespace Orbital.PulseNotify.ConnectionPool

open Foundation

/-! ## Which keys share an entry -/

inductive StreamKey
  | address (key : ConnectionKey)
  | contract (key : ContractKey)

namespace StreamKey

def poolKey : StreamKey → JsString
  | address key => getConnectionKey key
  | contract key => getContractKey key

/-- The same events with the same rights. An empty token is none, and the topics, which must
all be present, may be named in any order. -/
def SameStream : StreamKey → StreamKey → Prop
  | address first, address second =>
      first.serverUrl = second.serverUrl ∧ first.address = second.address ∧
        first.token.getD [] = second.token.getD [] ∧
          first.withCredentials.getD false = second.withCredentials.getD false
  | contract first, contract second =>
      first.serverUrl = second.serverUrl ∧ first.contractId = second.contractId ∧
        (first.topics.getD []).Perm (second.topics.getD []) ∧
          first.token.getD [] = second.token.getD [] ∧
            first.withCredentials.getD false = second.withCredentials.getD false
  | _, _ => False

/-- No topic contains a comma, and the empty topic does not stand alone. -/
def Plain : StreamKey → Prop
  | address _ => True
  | contract key => (∀ topic ∈ key.topics.getD [], 0x2C ∉ topic) ∧ key.topics.getD [] ≠ [[]]

end StreamKey

variable {others topics : List JsString}

theorem keyText_inj {texts : List JsString} {flag other : Bool} :
    keyText texts flag = keyText others other ↔ texts = others ∧ flag = other := by
  constructor
  · intro same
    have items := JsonSyntax.print_injective same
    simp only [JsonTree.array.injEq] at items
    rcases List.append_inj' items rfl with ⟨front, back⟩
    constructor
    · apply List.map_injective_iff.mpr _ front
      intro text other equal
      simpa using equal
    · simpa using back
  · rintro ⟨rfl, rfl⟩
    rfl

theorem joined_inj (plain : ∀ topic ∈ topics, 0x2C ∉ topic) (some : topics ≠ [[]])
    (plain' : ∀ topic ∈ others, 0x2C ∉ topic) (some' : others ≠ [[]])
    (same : joined topics = joined others) : topics = others := by
  have alone : ∀ {rest : List JsString}, (∀ topic ∈ rest, 0x2C ∉ topic) → rest ≠ [[]] →
      joined rest = [] → rest = [] := by
    intro rest plain some empty
    by_contra present
    have split := List.splitOn_intercalate 0x2C plain present
    rw [joined] at empty
    rw [empty] at split
    exact some split.symm
  by_cases empty : topics = []
  · rw [empty] at same ⊢
    exact (alone plain' some' same.symm).symm
  · by_cases empty' : others = []
    · rw [empty'] at same ⊢
      exact alone plain some same
    · rw [← List.splitOn_intercalate 0x2C plain empty,
        ← List.splitOn_intercalate 0x2C plain' empty']
      exact congrArg _ same

theorem sortedTopics_eq (key : ContractKey) :
    sortedTopics key = joined (JsString.sort (key.topics.getD [])) := by
  rw [sortedTopics]
  cases key.topics with
  | none | some topics => rfl

theorem sort_eq_iff : JsString.sort topics = JsString.sort others ↔ topics.Perm others := by
  constructor
  · intro same
    exact (JsString.sort_perm topics).symm.trans (same ▸ JsString.sort_perm others)
  · exact JsString.sort_congr

theorem sort_plain (plain : (∀ topic ∈ topics, 0x2C ∉ topic) ∧ topics ≠ [[]]) :
    (∀ topic ∈ JsString.sort topics, 0x2C ∉ topic) ∧ JsString.sort topics ≠ [[]] := by
  constructor
  · intro topic member
    exact plain.1 topic ((JsString.sort_perm topics).mem_iff.mp member)
  · intro alone
    have reordered := JsString.sort_perm topics
    rw [alone] at reordered
    exact plain.2 (List.perm_singleton.mp reordered.symm)

theorem sortedTopics_eq_iff {first second : ContractKey}
    (plain : (StreamKey.contract first).Plain) (plain' : (StreamKey.contract second).Plain) :
    sortedTopics first = sortedTopics second ↔
      (first.topics.getD []).Perm (second.topics.getD []) := by
  rw [sortedTopics_eq, sortedTopics_eq, ← sort_eq_iff]
  constructor
  · intro same
    exact joined_inj (sort_plain plain).1 (sort_plain plain).2 (sort_plain plain').1
      (sort_plain plain').2 same
  · exact congrArg joined

/-- Plain keys share an entry exactly if they denote the same stream. -/
theorem poolKey_eq_iff {first second : StreamKey} (plain : first.Plain) (plain' : second.Plain) :
    first.poolKey = second.poolKey ↔ first.SameStream second := by
  cases first with
  | address first =>
      cases second with
      | address second =>
          simp only [StreamKey.poolKey, getConnectionKey, keyText_inj, List.cons.injEq, and_true,
            and_assoc, StreamKey.SameStream]
      | contract second =>
          simp only [StreamKey.poolKey, getConnectionKey, getContractKey, keyText_inj,
            List.cons.injEq, reduceCtorEq, and_false, false_and, StreamKey.SameStream]
  | contract first =>
      cases second with
      | address second =>
          simp only [StreamKey.poolKey, getConnectionKey, getContractKey, keyText_inj,
            List.cons.injEq, reduceCtorEq, and_false, false_and, StreamKey.SameStream]
      | contract second =>
          simp only [StreamKey.poolKey, getContractKey, keyText_inj, List.cons.injEq, and_true,
            and_assoc, sortedTopics_eq_iff plain plain', StreamKey.SameStream]

/-! ## Handles and sources -/

variable {Subscriber : Type}

namespace Callers

def Active (callers : Callers Subscriber) (handle : Nat) (connection : Connection Subscriber) :
    Prop :=
  callers.connections[handle]? = some connection ∧ handle ∉ callers.released

def Wanted (callers : Callers Subscriber) (poolKey : JsString) : Prop :=
  ∃ handle connection, callers.Active handle connection ∧ connection.poolKey = poolKey

def OpenFor (callers : Callers Subscriber) (poolKey : JsString) (entry : EntryRef) : Prop :=
  ∃ state, callers.pool.entries[entry]? = some state ∧ state.poolKey = poolKey ∧
    state.source.isOpen = true

structure Exact (callers : Callers Subscriber) (poolKey : JsString) : Prop where
  wanted : callers.Wanted poolKey → ∃ entry, callers.pool.keyed.get? poolKey = some entry ∧
    ∀ other, callers.OpenFor poolKey other ↔ other = entry
  unwanted : ¬ callers.Wanted poolKey → callers.pool.keyed.get? poolKey = none ∧
    ∀ entry, ¬ callers.OpenFor poolKey entry

/-- The handle holds the last subscriber of its entry, or the entry has none. -/
def Empties (connection : Connection Subscriber) (state : ConnectionEntry Subscriber) : Prop :=
  ∀ subscriber ∈ state.subscribers, subscriber = connection.subscriber

/-- A handle that empties its entry is the last active one of the entry, and no newer entry is
pooled when its own was closed before. -/
def Careful (callers : Callers Subscriber) : Call Subscriber → Prop
  | .unsubscribe handle =>
      ∀ connection state, callers.connections[handle]? = some connection →
        callers.pool.entries[connection.entry]? = some state →
          Empties connection state →
            (∀ other active, callers.Active other active → active.entry = connection.entry →
                other = handle) ∧
              (state.source.isOpen = false → callers.pool.keyed.get? connection.poolKey = none)
  | _ => True

/-! ## What careful callers keep -/

structure Sound (callers : Callers Subscriber) : Prop where
  pooled : ∀ {poolKey : JsString} {entry : EntryRef},
    callers.pool.keyed.get? poolKey = some entry ↔ callers.OpenFor poolKey entry
  held : ∀ {entry : EntryRef} {state : ConnectionEntry Subscriber},
    callers.pool.entries[entry]? = some state →
      (state.source.isOpen = true ↔ state.subscribers ≠ [])
  owned : ∀ {entry : EntryRef} {state : ConnectionEntry Subscriber} {subscriber : Subscriber},
    callers.pool.entries[entry]? = some state → subscriber ∈ state.subscribers →
      ∃ handle connection, callers.Active handle connection ∧ connection.entry = entry ∧
        connection.subscriber = subscriber
  known : ∀ {handle : Nat} {connection : Connection Subscriber},
    callers.connections[handle]? = some connection →
      ∃ state, callers.pool.entries[connection.entry]? = some state ∧
        state.poolKey = connection.poolKey
  live : ∀ {handle : Nat} {connection : Connection Subscriber}
    {state : ConnectionEntry Subscriber}, callers.Active handle connection →
      callers.pool.entries[connection.entry]? = some state → state.source.isOpen = true
  given : ∀ {handle : Nat}, handle ∈ callers.released → handle < callers.connections.length

theorem sound_initial : (initial : Callers Subscriber).Sound where
  pooled := by
    intro poolKey entry
    constructor
    · intro found
      cases found
    · rintro ⟨state, found, -⟩
      cases found
  held := by
    intro entry state found
    cases found
  owned := by
    intro entry state subscriber found
    cases found
  known := by
    intro handle connection found
    cases found
  live := by
    intro handle connection state active
    cases active.1
  given := by
    intro handle released
    cases released

namespace Sound

variable {callers : Callers Subscriber}

theorem openFor (sound : callers.Sound) {handle : Nat} {connection : Connection Subscriber}
    (active : callers.Active handle connection) :
    callers.OpenFor connection.poolKey connection.entry := by
  rcases sound.known active.1 with ⟨state, found, sameKey⟩
  exact ⟨state, found, sameKey, sound.live active found⟩

theorem wanted_of_openFor (sound : callers.Sound) {poolKey : JsString} {entry : EntryRef}
    (isOpen : callers.OpenFor poolKey entry) :
    ∃ handle connection, callers.Active handle connection ∧ connection.entry = entry ∧
      connection.poolKey = poolKey := by
  rcases isOpen with ⟨state, found, sameKey, isOpen⟩
  rcases List.exists_mem_of_ne_nil _ ((sound.held found).mp isOpen) with ⟨subscriber, member⟩
  rcases sound.owned found member with ⟨handle, connection, active, rfl, -⟩
  rcases sound.known active.1 with ⟨state', found', sameKey'⟩
  rw [found] at found'
  cases found'
  exact ⟨handle, connection, active, rfl, sameKey'.symm.trans sameKey⟩

theorem exact (sound : callers.Sound) (poolKey : JsString) : callers.Exact poolKey where
  wanted := by
    rintro ⟨handle, connection, active, rfl⟩
    have pooled := sound.pooled.mpr (sound.openFor active)
    refine ⟨connection.entry, pooled, fun other => ⟨?_, ?_⟩⟩
    · intro otherOpen
      have pooledToo := sound.pooled.mpr otherOpen
      rw [pooled] at pooledToo
      exact (Option.some.inj pooledToo).symm
    · rintro rfl
      exact sound.openFor active
  unwanted := by
    intro unwanted
    have closed : ∀ entry, ¬ callers.OpenFor poolKey entry := by
      intro entry isOpen
      rcases sound.wanted_of_openFor isOpen with ⟨handle, connection, active, -, sameKey⟩
      exact unwanted ⟨handle, connection, active, sameKey⟩
    refine ⟨?_, closed⟩
    cases found : callers.pool.keyed.get? poolKey with
    | none => rfl
    | some entry => exact absurd (sound.pooled.mp found) (closed entry)

end Sound

/-! ## Acquiring -/

variable {Value : Type} {callers : Callers Subscriber} {opens : JsString → Bool}

variable {values : List Value} {index handle : Nat} {connection : Connection Subscriber}
  {call : Call Subscriber}

theorem getElem?_concat_eq_some {last value : Value} :
    (values ++ [last])[index]? = some value ↔
      values[index]? = some value ∨ (index = values.length ∧ value = last) := by
  grind

theorem modify_concat (values : List Value) (last : Value) (change : Value → Value) :
    (values ++ [last]).modify values.length change = values ++ [change last] := by
  simp [List.modify_eq_take_drop]

theorem getElem?_modify_eq_some {change : Value → Value} {place : Nat} {changed : Value} :
    (values.modify place change)[index]? = some changed ↔
      ∃ value, values[index]? = some value ∧
        changed = if place = index then change value else value := by
  rw [List.getElem?_modify]
  simp [eq_comm]

theorem active_given (sound : callers.Sound) {pool : Pool Subscriber}
    {given : Connection Subscriber} :
    ({ callers with pool, connections := callers.connections ++ [given] } :
        Callers Subscriber).Active handle connection ↔
      callers.Active handle connection ∨
        (handle = callers.connections.length ∧ connection = given) := by
  rw [Active, getElem?_concat_eq_some]
  constructor
  · rintro ⟨found | last, kept⟩
    · exact .inl ⟨found, kept⟩
    · exact .inr last
  · rintro (⟨found, kept⟩ | ⟨rfl, rfl⟩)
    · exact ⟨.inl found, kept⟩
    · exact ⟨.inr ⟨rfl, rfl⟩, fun released => absurd (sound.given released) (lt_irrefl _)⟩

variable [DecidableEq Subscriber]

variable (entry : ConnectionEntry Subscriber) (subscriber : Subscriber)

@[simp] theorem add_poolKey : (entry.add subscriber).poolKey = entry.poolKey := by
  rw [ConnectionEntry.add]
  split <;> rfl

@[simp] theorem add_source : (entry.add subscriber).source = entry.source := by
  rw [ConnectionEntry.add]
  split <;> rfl

@[simp] theorem mem_add {entry : ConnectionEntry Subscriber} {subscriber other : Subscriber} :
    other ∈ (entry.add subscriber).subscribers ↔
      other ∈ entry.subscribers ∨ other = subscriber := by
  rw [ConnectionEntry.add]
  split
  · constructor
    · exact .inl
    · rintro (member | rfl)
      · exact member
      · assumption
  · exact List.mem_append.trans (or_congr_right List.mem_singleton)

theorem add_ne_nil : (entry.add subscriber).subscribers ≠ [] :=
  List.ne_nil_of_mem (mem_add.mpr (.inr rfl))

namespace Sound

variable {callers : Callers Subscriber}

theorem join (sound : callers.Sound) {poolKey : JsString} {entry : EntryRef}
    (found : callers.pool.keyed.get? poolKey = some entry) (subscriber : Subscriber) :
    ({ callers with
      pool := { callers.pool with entries := callers.pool.entries.modify entry (·.add subscriber) }
      connections := callers.connections ++ [⟨entry, poolKey, subscriber⟩] } :
        Callers Subscriber).Sound := by
  rcases sound.pooled.mp found with ⟨joined, isThere, sameKey, isOpen⟩
  constructor
  · intro other place
    rw [sound.pooled]
    simp only [OpenFor, getElem?_modify_eq_some]
    constructor
    · rintro ⟨state, isAt, key, opened⟩
      refine ⟨_, ⟨state, isAt, rfl⟩, ?_⟩
      split
      · exact ⟨(add_poolKey _ _).trans key, by rw [add_source]; exact opened⟩
      · exact ⟨key, opened⟩
    · rintro ⟨_, ⟨state, isAt, rfl⟩, key, opened⟩
      refine ⟨state, isAt, ?_⟩
      split at key
      · rw [if_pos ‹_›, add_source] at opened
        exact ⟨(add_poolKey _ _).symm.trans key, opened⟩
      · rw [if_neg ‹_›] at opened
        exact ⟨key, opened⟩
  · intro place state isAt
    rcases getElem?_modify_eq_some.mp isAt with ⟨before, wasAt, rfl⟩
    split
    next same =>
      subst same
      rw [isThere] at wasAt
      cases wasAt
      rw [add_source]
      exact iff_of_true isOpen (add_ne_nil _ _)
    next => exact sound.held wasAt
  · intro place state member isAt isMember
    rcases getElem?_modify_eq_some.mp isAt with ⟨before, wasAt, rfl⟩
    have whose : member ∈ before.subscribers ∨ entry = place ∧ member = subscriber := by
      split at isMember
      next same => exact (mem_add.mp isMember).imp_right fun joins => ⟨same, joins⟩
      next => exact .inl isMember
    rcases whose with wasMember | ⟨rfl, rfl⟩
    · rcases sound.owned wasAt wasMember with ⟨handle, connection, active, owns⟩
      exact ⟨handle, connection, (active_given sound).mpr (.inl active), owns⟩
    · exact ⟨_, _, (active_given sound).mpr (.inr ⟨rfl, rfl⟩), rfl, rfl⟩
  · intro handle connection isGiven
    have key : ∃ state, callers.pool.entries[connection.entry]? = some state ∧
        state.poolKey = connection.poolKey := by
      rcases getElem?_concat_eq_some.mp isGiven with wasGiven | ⟨-, rfl⟩
      · exact sound.known wasGiven
      · exact ⟨joined, isThere, sameKey⟩
    rcases key with ⟨state, wasAt, key⟩
    refine ⟨_, getElem?_modify_eq_some.mpr ⟨state, wasAt, rfl⟩, ?_⟩
    split
    · exact (add_poolKey _ _).trans key
    · exact key
  · intro handle connection state active isAt
    rcases getElem?_modify_eq_some.mp isAt with ⟨before, wasAt, rfl⟩
    have opened : before.source.isOpen = true := by
      rcases (active_given sound).mp active with wasActive | ⟨-, rfl⟩
      · exact sound.live wasActive wasAt
      · rw [isThere] at wasAt
        cases wasAt
        exact isOpen
    split
    · rw [add_source]
      exact opened
    · exact opened
  · intro handle released
    rw [List.length_append]
    exact Nat.lt_add_right _ (sound.given released)

omit [DecidableEq Subscriber] in
theorem begin (sound : callers.Sound) {poolKey : JsString}
    (absent : callers.pool.keyed.get? poolKey = none) {opened : ConnectionEntry Subscriber}
    (sameKey : opened.poolKey = poolKey) (isOpen : opened.source.isOpen = true)
    {subscriber : Subscriber} (alone : opened.subscribers = [subscriber]) :
    ({ callers with
      pool := {
        entries := callers.pool.entries ++ [opened]
        keyed := callers.pool.keyed.set poolKey callers.pool.entries.length }
      connections := callers.connections ++ [⟨callers.pool.entries.length, poolKey, subscriber⟩] } :
        Callers Subscriber).Sound := by
  constructor
  · intro other place
    rw [InsertionMap.get?_set]
    simp only [OpenFor, getElem?_concat_eq_some]
    split
    next same =>
      subst same
      constructor
      · intro last
        cases last
        exact ⟨opened, .inr ⟨rfl, rfl⟩, sameKey, isOpen⟩
      · rintro ⟨state, wasAt | ⟨rfl, -⟩, key, wasOpen⟩
        · have pooled := sound.pooled.mpr ⟨state, wasAt, key, wasOpen⟩
          rw [absent] at pooled
          cases pooled
        · rfl
    next different =>
      rw [sound.pooled]
      constructor
      · rintro ⟨state, wasAt, rest⟩
        exact ⟨state, .inl wasAt, rest⟩
      · rintro ⟨state, wasAt | ⟨-, rfl⟩, key, wasOpen⟩
        · exact ⟨state, wasAt, key, wasOpen⟩
        · exact absurd (key.symm.trans sameKey) different
  · intro place state isAt
    rcases getElem?_concat_eq_some.mp isAt with wasAt | ⟨-, rfl⟩
    · exact sound.held wasAt
    · rw [alone]
      exact iff_of_true isOpen (List.cons_ne_nil _ _)
  · intro place state member isAt isMember
    rcases getElem?_concat_eq_some.mp isAt with wasAt | ⟨rfl, rfl⟩
    · rcases sound.owned wasAt isMember with ⟨handle, connection, active, owns⟩
      exact ⟨handle, connection, (active_given sound).mpr (.inl active), owns⟩
    · rw [alone] at isMember
      exact ⟨_, _, (active_given sound).mpr (.inr ⟨rfl, rfl⟩), rfl,
        (List.mem_singleton.mp isMember).symm⟩
  · intro handle connection isGiven
    rcases getElem?_concat_eq_some.mp isGiven with wasGiven | ⟨-, rfl⟩
    · rcases sound.known wasGiven with ⟨state, wasAt, key⟩
      exact ⟨state, getElem?_concat_eq_some.mpr (.inl wasAt), key⟩
    · exact ⟨opened, getElem?_concat_eq_some.mpr (.inr ⟨rfl, rfl⟩), sameKey⟩
  · intro handle connection state active isAt
    rcases getElem?_concat_eq_some.mp isAt with wasAt | ⟨-, rfl⟩
    · rcases (active_given sound).mp active with wasActive | ⟨-, rfl⟩
      · exact sound.live wasActive wasAt
      · rw [List.getElem?_eq_none (le_refl _)] at wasAt
        cases wasAt
    · exact isOpen
  · intro handle released
    rw [List.length_append]
    exact Nat.lt_add_right _ (sound.given released)

theorem acquired (sound : callers.Sound) (poolKey : JsString) (url : Option JsString)
    (withCredentials : Option Bool) (subscriber : Subscriber) :
    (callers.acquired (callers.pool.acquireSseConnection poolKey url withCredentials
      subscriber)).2.Sound := by
  rw [Pool.acquireSseConnection, Pool.findOrOpen]
  cases found : callers.pool.keyed.get? poolKey with
  | some entry => exact sound.join found subscriber
  | none =>
      cases url with
      | none => exact sound
      | some url =>
          simp only [Option.map_some, modify_concat]
          exact sound.begin found rfl rfl rfl

/-! ## Unsubscribing -/

end Sound

section Unsubscribe

variable {callers : Callers Subscriber} {handle : Nat} {connection : Connection Subscriber}
  {state : ConnectionEntry Subscriber}

def unsubscribed (callers : Callers Subscriber) (handle : Nat)
    (connection : Connection Subscriber) : Callers Subscriber :=
  { callers with
    pool := callers.pool.unsubscribe connection
    released := handle :: callers.released }

theorem mem_delete {entry : ConnectionEntry Subscriber} {subscriber other : Subscriber} :
    other ∈ (entry.delete subscriber).subscribers ↔
      other ∈ entry.subscribers ∧ other ≠ subscriber := by
  rw [ConnectionEntry.delete, List.mem_filter, decide_eq_true_iff]

theorem delete_eq_nil_iff :
    (state.delete connection.subscriber).subscribers = [] ↔ Empties connection state := by
  rw [List.eq_nil_iff_forall_not_mem]
  simp only [mem_delete, not_and, not_not, Empties]

theorem unsubscribe_last (found : callers.pool.entries[connection.entry]? = some state)
    (empties : Empties connection state) :
    callers.pool.unsubscribe connection = {
      entries := callers.pool.entries.modify connection.entry fun entry =>
        (entry.delete connection.subscriber).close
      keyed := callers.pool.keyed.delete connection.poolKey } := by
  rw [Pool.unsubscribe, List.getElem?_modify_eq, found, if_pos, List.modify_modify_eq]
  · rfl
  · exact congrArg some (delete_eq_nil_iff.mpr empties)

theorem unsubscribe_shared (found : callers.pool.entries[connection.entry]? = some state)
    (shared : ¬ Empties connection state) :
    callers.pool.unsubscribe connection = { callers.pool with
      entries := callers.pool.entries.modify connection.entry
        (·.delete connection.subscriber) } := by
  rw [Pool.unsubscribe, List.getElem?_modify_eq, found, if_neg]
  intro empty
  exact shared (delete_eq_nil_iff.mp (Option.some.inj empty))

variable {other : Nat} {active : Connection Subscriber}

omit [DecidableEq Subscriber] in
theorem active_released {pool : Pool Subscriber} :
    ({ callers with pool, released := handle :: callers.released } :
        Callers Subscriber).Active other active ↔
      callers.Active other active ∧ other ≠ handle := by
  rw [Active, Active, List.mem_cons, not_or]
  exact ⟨fun ⟨found, different, kept⟩ => ⟨⟨found, kept⟩, different⟩,
    fun ⟨⟨found, kept⟩, different⟩ => ⟨found, different, kept⟩⟩

omit [DecidableEq Subscriber] in
theorem ne_of_connection (given : callers.connections[handle]? = some connection)
    (isActive : callers.Active other active) (different : active ≠ connection) :
    other ≠ handle := by
  rintro rfl
  rw [isActive.1] at given
  exact different (Option.some.inj given)

namespace Sound

theorem unsubscribed_last (sound : callers.Sound)
    (given : callers.connections[handle]? = some connection)
    (found : callers.pool.entries[connection.entry]? = some state)
    (empties : Empties connection state)
    (last : ∀ other active, callers.Active other active → active.entry = connection.entry →
      other = handle)
    (newest : state.source.isOpen = false →
      callers.pool.keyed.get? connection.poolKey = none) :
    (callers.unsubscribed handle connection).Sound := by
  have sameKey : state.poolKey = connection.poolKey := by
    rcases sound.known given with ⟨state', found', key⟩
    rw [found] at found'
    cases found'
    exact key
  rw [unsubscribed, unsubscribe_last found empties]
  constructor
  · intro other place
    rw [InsertionMap.get?_delete]
    simp only [OpenFor, getElem?_modify_eq_some]
    constructor
    · intro pooled
      split at pooled
      next => cases pooled
      next different =>
        rcases sound.pooled.mp pooled with ⟨before, wasAt, key, wasOpen⟩
        refine ⟨_, ⟨before, wasAt, rfl⟩, ?_⟩
        rw [if_neg]
        · exact ⟨key, wasOpen⟩
        · rintro rfl
          rw [found] at wasAt
          cases wasAt
          exact different (key.symm.trans sameKey)
    · rintro ⟨_, ⟨before, wasAt, rfl⟩, key, isOpen⟩
      have apart : connection.entry ≠ place := by
        rintro rfl
        rw [if_pos rfl] at isOpen
        cases isOpen
      rw [if_neg apart] at key isOpen
      have pooled := sound.pooled.mpr ⟨before, wasAt, key, isOpen⟩
      rw [if_neg]
      · exact pooled
      · rintro rfl
        cases wasOpen : state.source.isOpen with
        | false =>
            rw [newest wasOpen] at pooled
            cases pooled
        | true =>
            have pooledToo := sound.pooled.mpr ⟨state, found, sameKey, wasOpen⟩
            rw [pooledToo] at pooled
            exact apart (Option.some.inj pooled)
  · intro place after isAt
    rcases getElem?_modify_eq_some.mp isAt with ⟨before, wasAt, rfl⟩
    split
    next same =>
      subst same
      rw [found] at wasAt
      cases wasAt
      exact iff_of_false Bool.false_ne_true (not_not.mpr (delete_eq_nil_iff.mpr empties))
    next => exact sound.held wasAt
  · intro place after member isAt isMember
    rcases getElem?_modify_eq_some.mp isAt with ⟨before, wasAt, rfl⟩
    have apart : connection.entry ≠ place := by
      rintro rfl
      rw [found] at wasAt
      cases wasAt
      rw [if_pos rfl] at isMember
      exact List.ne_nil_of_mem isMember (delete_eq_nil_iff.mpr empties)
    rw [if_neg apart] at isMember
    rcases sound.owned wasAt isMember with ⟨other, active, isActive, rfl, owns⟩
    refine ⟨other, active, active_released.mpr ⟨isActive, ?_⟩, rfl, owns⟩
    exact ne_of_connection given isActive fun same => apart (congrArg _ same.symm)
  · intro other active isGiven
    rcases sound.known isGiven with ⟨before, wasAt, key⟩
    refine ⟨_, getElem?_modify_eq_some.mpr ⟨before, wasAt, rfl⟩, ?_⟩
    split <;> exact key
  · intro other active after isActive isAt
    rcases active_released.mp isActive with ⟨wasActive, different⟩
    rcases getElem?_modify_eq_some.mp isAt with ⟨before, wasAt, rfl⟩
    rw [if_neg]
    · exact sound.live wasActive wasAt
    · intro same
      exact different (last other active wasActive same.symm)
  · intro other released
    rcases List.mem_cons.mp released with rfl | wasReleased
    · exact List.getElem?_eq_some_iff.mp given |>.1
    · exact sound.given wasReleased

theorem unsubscribed_shared (sound : callers.Sound)
    (given : callers.connections[handle]? = some connection)
    (found : callers.pool.entries[connection.entry]? = some state)
    (shared : ¬ Empties connection state) :
    (callers.unsubscribed handle connection).Sound := by
  have kept : ∀ {place : EntryRef} {before : ConnectionEntry Subscriber},
      (if connection.entry = place then before.delete connection.subscriber else before).poolKey =
          before.poolKey ∧
        (if connection.entry = place then before.delete connection.subscriber
          else before).source = before.source := by
    intro place before
    split <;> exact ⟨rfl, rfl⟩
  rw [unsubscribed, unsubscribe_shared found shared]
  constructor
  · intro other place
    rw [sound.pooled]
    simp only [OpenFor, getElem?_modify_eq_some]
    constructor
    · rintro ⟨before, wasAt, key, wasOpen⟩
      exact ⟨_, ⟨before, wasAt, rfl⟩, kept.1.trans key, by rw [kept.2]; exact wasOpen⟩
    · rintro ⟨_, ⟨before, wasAt, rfl⟩, key, isOpen⟩
      rw [kept.1] at key
      rw [kept.2] at isOpen
      exact ⟨before, wasAt, key, isOpen⟩
  · intro place after isAt
    rcases getElem?_modify_eq_some.mp isAt with ⟨before, wasAt, rfl⟩
    split
    next same =>
      subst same
      rw [found] at wasAt
      cases wasAt
      have present : state.subscribers ≠ [] := by
        intro empty
        exact shared (by rw [Empties, empty]; exact fun _ member => absurd member List.not_mem_nil)
      exact iff_of_true ((sound.held found).mpr present) (mt delete_eq_nil_iff.mp shared)
    next => exact sound.held wasAt
  · intro place after member isAt isMember
    rcases getElem?_modify_eq_some.mp isAt with ⟨before, wasAt, rfl⟩
    have remains : member ∈ before.subscribers ∧
        (connection.entry = place → member ≠ connection.subscriber) := by
      split at isMember
      next => exact (mem_delete.mp isMember).imp_right fun different _ => different
      next apart => exact ⟨isMember, fun same => absurd same apart⟩
    rcases sound.owned wasAt remains.1 with ⟨other, active, isActive, rfl, rfl⟩
    refine ⟨other, active, active_released.mpr ⟨isActive, ?_⟩, rfl, rfl⟩
    apply ne_of_connection given isActive
    rintro rfl
    exact remains.2 rfl rfl
  · intro other active isGiven
    rcases sound.known isGiven with ⟨before, wasAt, key⟩
    exact ⟨_, getElem?_modify_eq_some.mpr ⟨before, wasAt, rfl⟩, kept.1.trans key⟩
  · intro other active after isActive isAt
    rcases getElem?_modify_eq_some.mp isAt with ⟨before, wasAt, rfl⟩
    rw [kept.2]
    exact sound.live (active_released.mp isActive).1 wasAt
  · intro other released
    rcases List.mem_cons.mp released with rfl | wasReleased
    · exact List.getElem?_eq_some_iff.mp given |>.1
    · exact sound.given wasReleased

end Sound

theorem not_exact_unsubscribed (sound : callers.Sound)
    (given : callers.connections[handle]? = some connection)
    (found : callers.pool.entries[connection.entry]? = some state)
    (empties : Empties connection state)
    (careless : ¬ ((∀ other active, callers.Active other active →
        active.entry = connection.entry → other = handle) ∧
      (state.source.isOpen = false →
        callers.pool.keyed.get? connection.poolKey = none))) :
    ¬ (callers.unsubscribed handle connection).Exact connection.poolKey := by
  intro exact
  have sameKey : state.poolKey = connection.poolKey := by
    rcases sound.known given with ⟨state', found', key⟩
    rw [found] at found'
    cases found'
    exact key
  have unwanted : ∀ {other : Nat} {active : Connection Subscriber}, callers.Active other active →
      active.poolKey = connection.poolKey → other = handle := by
    intro other active isActive key
    by_contra different
    rcases exact.wanted ⟨other, active, active_released.mpr ⟨isActive, different⟩, key⟩ with
      ⟨entry, pooled, -⟩
    rw [unsubscribed, unsubscribe_last found empties, InsertionMap.get?_delete, if_pos rfl]
      at pooled
    cases pooled
  apply careless
  constructor
  · intro other active isActive sameEntry
    rcases sound.known isActive.1 with ⟨before, wasAt, key⟩
    rw [sameEntry, found] at wasAt
    cases wasAt
    exact unwanted isActive (key.symm.trans sameKey)
  · intro closed
    cases pooled : callers.pool.keyed.get? connection.poolKey with
    | none => rfl
    | some entry =>
        rcases sound.wanted_of_openFor (sound.pooled.mp pooled) with
          ⟨other, active, isActive, -, key⟩
        have same := unwanted isActive key
        subst same
        have live := isActive.1
        rw [given] at live
        cases live
        rw [sound.live isActive found] at closed
        cases closed

end Unsubscribe

/-! ## Whole runs -/

omit [DecidableEq Subscriber] in
theorem Sound.told (sound : callers.Sound) (entry : EntryRef) (connected : Bool) :
    ({ callers with
      pool := { callers.pool with
        entries := callers.pool.entries.modify entry fun state => { state with connected } } } :
        Callers Subscriber).Sound := by
  have kept : ∀ {place : EntryRef} {before : ConnectionEntry Subscriber},
      (if entry = place then { before with connected } else before) =
        { before with
          connected := if entry = place then connected else before.connected } := by
    intro place before
    split <;> rfl
  constructor
  · intro other place
    rw [sound.pooled]
    simp only [OpenFor, getElem?_modify_eq_some, kept]
    constructor
    · rintro ⟨before, wasAt, rest⟩
      exact ⟨_, ⟨before, wasAt, rfl⟩, rest⟩
    · rintro ⟨_, ⟨before, wasAt, rfl⟩, rest⟩
      exact ⟨before, wasAt, rest⟩
  · intro place state isAt
    rcases getElem?_modify_eq_some.mp isAt with ⟨before, wasAt, rfl⟩
    have holds := sound.held wasAt
    rw [kept]
    exact holds
  · intro place state member isAt isMember
    rcases getElem?_modify_eq_some.mp isAt with ⟨before, wasAt, rfl⟩
    rw [kept] at isMember
    exact sound.owned wasAt isMember
  · intro handle connection isGiven
    rcases sound.known isGiven with ⟨before, wasAt, key⟩
    refine ⟨_, getElem?_modify_eq_some.mpr ⟨before, wasAt, rfl⟩, ?_⟩
    rw [kept]
    exact key
  · intro handle connection state active isAt
    rcases getElem?_modify_eq_some.mp isAt with ⟨before, wasAt, rfl⟩
    have isOpen := sound.live active wasAt
    rw [kept]
    exact isOpen
  · exact sound.given

theorem step_unsubscribe (given : callers.connections[handle]? = some connection) :
    (callers.step opens (.unsubscribe handle)).2 = callers.unsubscribed handle connection := by
  rw [step, given]
  rfl

theorem Sound.step (sound : callers.Sound) (careful : callers.Careful call) :
    (callers.step opens call).2.Sound := by
  cases call with
  | acquireEventConnection key subscriber | acquireContractEventConnection key subscriber =>
      exact sound.acquired _ _ _ _
  | source entry event => exact sound.told entry _
  | unsubscribe handle =>
      cases given : callers.connections[handle]? with
      | none =>
          rw [Callers.step, given]
          exact sound
      | some connection =>
          rw [step_unsubscribe given]
          rcases sound.known given with ⟨state, found, -⟩
          by_cases empties : Empties connection state
          · rcases careful connection state given found empties with ⟨last, newest⟩
            exact sound.unsubscribed_last given found empties last newest
          · exact sound.unsubscribed_shared given found empties

theorem Sound.not_exact (sound : callers.Sound) (careless : ¬ callers.Careful call) :
    ¬ ∀ poolKey, (callers.step opens call).2.Exact poolKey := by
  intro exact
  cases call with
  | unsubscribe handle =>
      apply careless
      intro connection state given found empties
      by_contra lost
      apply not_exact_unsubscribed sound given found empties lost
      rw [← step_unsubscribe given]
      exact exact connection.poolKey
  | acquireEventConnection key subscriber | acquireContractEventConnection key subscriber
  | source entry event => exact careless trivial

end Callers

/-- Every key has exactly the source it should throughout a run exactly if every call of the
run is careful, and keys without commas in their topics share an entry exactly if they denote
the same stream. -/
theorem pool_invariant_iff [DecidableEq Subscriber] (opens : JsString → Bool)
    (calls : List (Call Subscriber)) :
    ((∀ front, front <+: calls → ∀ poolKey,
        ((Callers.machine opens).after Callers.initial front).Exact poolKey) ↔
      (Callers.machine opens).Meets Callers.Careful Callers.initial calls) ∧
    ∀ first second : StreamKey, first.Plain → second.Plain →
      (first.poolKey = second.poolKey ↔ first.SameStream second) := by
  constructor
  · exact Machine.throughout_iff (motive := Callers.Sound)
      (fun sound => sound.exact) (fun sound careful => sound.step careful)
      (fun sound careless => sound.not_exact careless) Callers.sound_initial
  · intro first second plain plain'
    exact poolKey_eq_iff plain plain'

/-! ## A handle that is unsubscribed late -/

def exampleKey : ConnectionKey where
  serverUrl := js "https://events.example.com"
  address := js "GABC"
  token := none
  withCredentials := none

def exampleCalls : List (Call Nat) :=
  [.acquireEventConnection exampleKey 0, .unsubscribe 0, .acquireEventConnection exampleKey 1,
    .unsubscribe 0]

/-- The second subscriber is active and its source open, but no longer pooled. -/
theorem stale_unsubscribe :
    ¬ ∀ (opens : JsString → Bool) (calls : List (Call Nat)) (poolKey : JsString),
      ((Callers.machine opens).after Callers.initial calls).Exact poolKey := by
  intro claim
  have exact := claim (fun _ => true) exampleCalls (getConnectionKey exampleKey)
  rcases exact.wanted ⟨1, ⟨1, getConnectionKey exampleKey, 1⟩, ⟨rfl, by decide⟩, rfl⟩ with
    ⟨entry, pooled, -⟩
  have absent : ((Callers.machine fun _ => true).after Callers.initial exampleCalls).pool.keyed.get?
      (getConnectionKey exampleKey) = none := by
    decide
  rw [absent] at pooled
  cases pooled

end Orbital.PulseNotify.ConnectionPool
