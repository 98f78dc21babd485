import Orbital.Foundation.Callbacks
import Orbital.PulseCore.EventEngine.Subscriptions

/-! # Who gets a contract event

`dispatchContractEvent` of `EventEngine.ts` goes through the subscriptions by id
only. Before it `route` may look up an ABI spec, and tells the same watchers when
that fails. What the filters of a subscription by configuration mean is nowhere in
the engine; it is a parameter here.
-/

namespace Orbital.PulseCore.EventEngine

open Orbital.Foundation
open Orbital.PulseCore.SorobanSubscriber

variable {Value : Type}

inductive Channel
  | typed (type : EventType)
  | all
  deriving DecidableEq

structure Emission where
  watcher : Nat
  channel : Channel
  deriving DecidableEq

inductive SpecLookup (Value : Type)
  | decoded (payload : Value)
  | failed (payload : Value) (error : String) (throws : Nat → Bool)

def looked (lookup : Option (SpecLookup Value)) (event : ContractEvent Value) :
    ContractEvent Value :=
  match event.type, lookup with
  | .emitted, some (.decoded payload) => { event with payload }
  | .emitted, some (.failed payload _ _) => { event with payload }
  | _, _ => event

namespace Engine

def passesFilter (engine : Engine Value) (id : String) (event : NormalizedEvent Value) : Bool :=
  match engine.filters.get? id with
  | none => true
  | some filter => (filter event).getD false

def emit (engine : Engine Value) (watcher : Nat) (channel : Channel) : List Emission :=
  if watcher ∈ engine.stopped then [] else [{ watcher, channel }]

def matchesEntry (engine : Engine Value) (event : ContractEvent Value)
    (entry : String × ContractEntry) : Bool :=
  matchesContractFilters event entry.2.filters && engine.passesFilter entry.1 (.contract event)

def plannedEmissions (engine : Engine Value) (event : ContractEvent Value) : List Emission :=
  engine.contractRegistry.entries.flatMap fun entry =>
    if engine.matchesEntry event entry then
      engine.emit entry.2.watcher (.typed (.contract event.type)) ++
        engine.emit entry.2.watcher .all
    else []

def dispatchContractEvent (engine : Engine Value) (throws : Emission → Bool)
    (event : ContractEvent Value) : List Emission :=
  untilThrow throws (engine.plannedEmissions event)

/-- The watchers that `emitDecodeFailedNotification` goes through. -/
def decodeFailedWatchers (engine : Engine Value) (event : ContractEvent Value) : List Nat :=
  (engine.contractRegistry.entries.filter (engine.matchesEntry event)).filterMap fun entry =>
    if entry.2.watcher ∈ engine.stopped then none else some entry.2.watcher

/-- A listener of the notice `event.decode_failed` throws. -/
def noticeThrows (engine : Engine Value) (lookup : Option (SpecLookup Value))
    (event : ContractEvent Value) : Bool :=
  match event.type, lookup with
  | .emitted, some (.failed payload _ throws) =>
      (engine.decodeFailedWatchers { event with payload }).any throws
  | _, _ => false

/-- What `route` emits of a contract event behind its checks. The dispatch stands behind the
notice, in the same continuation. -/
def routeContract (engine : Engine Value) (lookup : Option (SpecLookup Value))
    (throws : Emission → Bool) (event : ContractEvent Value) : List Emission :=
  if engine.noticeThrows lookup event then []
  else engine.dispatchContractEvent throws (looked lookup event)

/-! ## The watchers of a reachable engine -/

def contractWatchers (engine : Engine Value) : List Nat :=
  engine.contractRegistry.values.map ContractEntry.watcher

def configWatchers (engine : Engine Value) : List Nat :=
  engine.contractConfigRegistry.values

structure Registered (engine : Engine Value) : Prop where
  distinct : (engine.contractWatchers ++ engine.configWatchers).Nodup
  created : ∀ watcher ∈ engine.contractWatchers ++ engine.configWatchers, watcher < engine.watchers
  stoppedCreated : ∀ watcher ∈ engine.stopped, watcher < engine.watchers
  live : ∀ watcher ∈ engine.contractWatchers ++ engine.configWatchers, watcher ∉ engine.stopped

theorem initial_registered (subscriber : Option (Subscriber Value)) :
    Registered (initial subscriber) := by
  constructor <;> simp [initial, contractWatchers, configWatchers, InsertionMap.values,
    InsertionMap.empty]

variable {engine next : Engine Value}

theorem Registered.of_same (holds : Registered engine)
    (sameContracts : next.contractRegistry = engine.contractRegistry)
    (sameConfigs : next.contractConfigRegistry = engine.contractConfigRegistry)
    (sameWatchers : next.watchers = engine.watchers) (sameStopped : next.stopped = engine.stopped) :
    Registered next := by
  have contracts : next.contractWatchers = engine.contractWatchers := by
    rw [contractWatchers, contractWatchers, sameContracts]
  have configs : next.configWatchers = engine.configWatchers := by
    rw [configWatchers, configWatchers, sameConfigs]
  constructor
  · rw [contracts, configs]
    exact holds.distinct
  · rw [contracts, configs, sameWatchers]
    exact holds.created
  · rw [sameStopped, sameWatchers]
    exact holds.stoppedCreated
  · rw [contracts, configs, sameStopped]
    exact holds.live

theorem Registered.register (holds : Registered engine)
    (added : (next.contractWatchers ++ next.configWatchers).Perm
      (engine.watchers :: (engine.contractWatchers ++ engine.configWatchers)))
    (created : next.watchers = engine.watchers + 1) (sameStopped : next.stopped = engine.stopped) :
    Registered next := by
  have isNew : ∀ watcher ∈ engine.contractWatchers ++ engine.configWatchers,
      watcher ≠ engine.watchers := by
    intro watcher member
    have old := holds.created watcher member
    omega
  constructor
  · apply added.nodup_iff.mpr
    apply List.nodup_cons.mpr
    exact ⟨fun member => isNew _ member rfl, holds.distinct⟩
  · intro watcher member
    rw [created]
    rcases List.mem_cons.mp (added.mem_iff.mp member) with new | old
    · omega
    · have before := holds.created watcher old
      omega
  · intro watcher member
    rw [sameStopped] at member
    have before := holds.stoppedCreated watcher member
    omega
  · intro watcher member
    rw [sameStopped]
    rcases List.mem_cons.mp (added.mem_iff.mp member) with new | old
    · intro stopped
      have before := holds.stoppedCreated watcher stopped
      omega
    · exact holds.live watcher old

theorem Registered.remove {watcher : Nat} (holds : Registered engine)
    (removed : (engine.contractWatchers ++ engine.configWatchers).Perm
      (watcher :: (next.contractWatchers ++ next.configWatchers)))
    (sameWatchers : next.watchers = engine.watchers)
    (stopped : next.stopped = engine.stopped ++ [watcher]) : Registered next := by
  have distinct := List.nodup_cons.mp (removed.nodup_iff.mp holds.distinct)
  have member : ∀ other, other ∈ next.contractWatchers ++ next.configWatchers →
      other ∈ engine.contractWatchers ++ engine.configWatchers :=
    fun other isLeft => removed.mem_iff.mpr (List.mem_cons_of_mem _ isLeft)
  constructor
  · exact distinct.2
  · intro other isLeft
    rw [sameWatchers]
    exact holds.created other (member other isLeft)
  · intro other isStopped
    rw [sameWatchers]
    rw [stopped] at isStopped
    rcases List.mem_append.mp isStopped with before | now
    · exact holds.stoppedCreated other before
    · rw [List.mem_singleton.mp now]
      exact holds.created watcher (removed.mem_iff.mpr (List.mem_cons_self))
  · intro other isLeft isStopped
    rw [stopped] at isStopped
    rcases List.mem_append.mp isStopped with before | now
    · exact holds.live other (member other isLeft) before
    · rw [List.mem_singleton.mp now] at isLeft
      exact distinct.1 isLeft

theorem Registered.release (holds : Registered engine) (key : RefKey) :
    Registered (engine.release key).1 := by
  rw [Engine.release]
  split
  · exact holds
  · split
    · exact holds.of_same rfl rfl rfl rfl
    · exact holds.of_same rfl rfl rfl rfl

theorem Registered.subscribeContractConfig (holds : Registered engine)
    (filters : List ContractFilter) : Registered (engine.subscribeContractConfig filters).1 := by
  unfold Engine.subscribeContractConfig
  split
  · exact holds
  · split
    · exact holds.of_same rfl rfl rfl rfl
    · rename_i absent
      refine holds.register ?_ rfl rfl
      have added : (engine.registerConfig (stableFilterKey filters)).configWatchers =
          engine.configWatchers ++ [engine.watchers] :=
        InsertionMap.values_set_of_absent absent
      change (engine.contractWatchers ++ (engine.registerConfig _).configWatchers).Perm _
      rw [added, ← List.append_assoc]
      exact List.perm_append_singleton _ _

theorem Registered.registerContract (holds : Registered engine) {id : String}
    (absent : engine.contractRegistry.get? id = none)
    (options : Option (ContractSubscribeOptions Value)) :
    Registered (engine.registerContract id options) := by
  refine holds.register ?_ rfl rfl
  have added : (engine.registerContract id options).contractWatchers =
      engine.contractWatchers ++ [engine.watchers] := by
    rw [contractWatchers, Engine.registerContract, InsertionMap.values_set_of_absent absent,
      List.map_append]
    rfl
  rw [added, List.append_assoc]
  exact List.perm_middle

theorem Registered.subscribeContractId (holds : Registered engine) (id : String)
    (options : Option (ContractSubscribeOptions Value)) :
    Registered (engine.subscribeContractId id options).1 := by
  unfold Engine.subscribeContractId
  split
  · exact holds.of_same rfl rfl rfl rfl
  · rename_i absent
    have registered := holds.registerContract absent options
    cases engine.isRunning with
    | true => exact registered.of_same rfl rfl rfl rfl
    | false => exact registered

theorem Registered.stopContractWatcher (holds : Registered engine) {id : String}
    {entry : ContractEntry} (present : engine.contractRegistry.get? id = some entry) :
    Registered (engine.stopContractWatcher id entry) := by
  have removed : Registered (engine.removeContract id entry) := by
    refine holds.remove ?_ rfl rfl
    have taken := ((InsertionMap.perm_delete present).map Prod.snd).map ContractEntry.watcher
    exact taken.append_right engine.configWatchers
  unfold Engine.stopContractWatcher
  split
  · exact removed.of_same rfl rfl rfl rfl
  · exact removed

theorem Registered.stopConfigWatcher (holds : Registered engine) {key : List ContractFilter}
    {watcher : Nat} (present : engine.contractConfigRegistry.get? key = some watcher) :
    Registered (engine.stopConfigWatcher key watcher) := by
  refine holds.remove ?_ rfl rfl
  have taken := (InsertionMap.perm_delete present).map Prod.snd
  exact (taken.append_left engine.contractWatchers).trans List.perm_middle

theorem Registered.unsubscribeContractId (holds : Registered engine) (id : String) :
    Registered (engine.unsubscribeContractId id) := by
  unfold Engine.unsubscribeContractId
  split
  · exact holds
  · rename_i entry present
    have released := holds.release (.contract id)
    have sameRegistry := (release_registries engine (.contract id)).1
    split
    · rename_i after last
      rw [last] at released sameRegistry
      exact released.stopContractWatcher (sameRegistry ▸ present)
    · rename_i after shared
      rw [shared] at released
      exact released

theorem Registered.unsubscribeContractConfig (holds : Registered engine)
    (filters : List ContractFilter) : Registered (engine.unsubscribeContractConfig filters) := by
  unfold Engine.unsubscribeContractConfig
  split
  · exact holds
  · rename_i watcher present
    have released := holds.release (.config (stableFilterKey filters))
    have sameRegistry := (release_registries engine (.config (stableFilterKey filters))).2
    split
    · rename_i after last
      rw [last] at released sameRegistry
      exact released.stopConfigWatcher (sameRegistry ▸ present)
    · rename_i after shared
      rw [shared] at released
      exact released

theorem Registered.step {options : Options} {event : Event Value} (holds : Registered engine)
    (taken : engine.step options event = some next) : Registered next := by
  cases event with
  | start cachedNetwork strict =>
      cases taken
      unfold Engine.start
      split
      · exact holds
      · split
        · exact holds
        · exact holds.of_same rfl rfl rfl rfl
        · split
          · exact holds.of_same rfl rfl rfl rfl
          · exact holds.of_same rfl rfl rfl rfl
  | stop =>
      cases taken
      exact holds.of_same rfl rfl rfl rfl
  | probeSettles info =>
      simp only [Engine.step] at taken
      split at taken
      · cases taken
        exact holds.of_same rfl rfl rfl rfl
      · cases taken
  | verified index =>
      simp only [Engine.step, Engine.verified] at taken
      split at taken
      · cases taken
        split
        · exact holds.of_same rfl rfl rfl rfl
        · split
          · exact holds.of_same rfl rfl rfl rfl
          · exact holds.of_same rfl rfl rfl rfl
      · cases taken
  | subscribeContractId id options =>
      cases taken
      exact holds.subscribeContractId id options
  | subscribeContractConfig filters =>
      cases taken
      exact holds.subscribeContractConfig filters
  | unsubscribeContractId id =>
      cases taken
      exact holds.unsubscribeContractId id
  | unsubscribeContractConfig filters =>
      cases taken
      exact holds.unsubscribeContractConfig filters
  | poller event =>
      simp only [Engine.step] at taken
      split at taken
      · rcases Option.bind_eq_some_iff.mp taken with ⟨poller, configured, stepped⟩
        rcases Option.map_eq_some_iff.mp stepped with ⟨after, _, rfl⟩
        exact holds.of_same rfl rfl rfl rfl
      · cases taken

/-! ## What a dispatch delivers -/

def wants (configMeaning : List ContractFilter → ContractEvent Value → Bool)
    (engine : Engine Value) (event : ContractEvent Value) (watcher : Nat) : Bool :=
  engine.contractRegistry.entries.any (fun entry =>
      entry.2.watcher = watcher && engine.matchesEntry event entry) ||
    engine.contractConfigRegistry.entries.any fun entry =>
      entry.2 = watcher && configMeaning entry.1 event

theorem wants_iff {configMeaning : List ContractFilter → ContractEvent Value → Bool}
    {event : ContractEvent Value} {watcher : Nat} :
    engine.wants configMeaning event watcher = true ↔
      (∃ entry ∈ engine.contractRegistry.entries,
          entry.2.watcher = watcher ∧ engine.matchesEntry event entry = true) ∨
        ∃ entry ∈ engine.contractConfigRegistry.entries,
          entry.2 = watcher ∧ configMeaning entry.1 event = true := by
  simp only [wants, Bool.or_eq_true, List.any_eq_true, Bool.and_eq_true, decide_eq_true_eq]

/-- The watchers that want the event get it once on its typed channel and once
on `"*"`, and nobody else gets it. -/
def Covers (configMeaning : List ContractFilter → ContractEvent Value → Bool)
    (engine : Engine Value) (event : ContractEvent Value) (emissions : List Emission) : Prop :=
  ∀ watcher channel, emissions.count { watcher, channel } =
    if (channel = .typed (.contract event.type) ∨ channel = .all) ∧
      engine.wants configMeaning event watcher = true then 1 else 0

theorem mem_plannedEmissions (registered : Registered engine) (event : ContractEvent Value)
    (emission : Emission) :
    emission ∈ engine.plannedEmissions event ↔
      (emission.channel = .typed (.contract event.type) ∨ emission.channel = .all) ∧
        ∃ entry ∈ engine.contractRegistry.entries, entry.2.watcher = emission.watcher ∧
          engine.matchesEntry event entry = true := by
  have live : ∀ entry ∈ engine.contractRegistry.entries, entry.2.watcher ∉ engine.stopped := by
    intro entry member
    apply registered.live
    apply List.mem_append_left
    exact List.mem_map.mpr ⟨entry.2, List.mem_map.mpr ⟨entry, member, rfl⟩, rfl⟩
  rcases emission with ⟨watcher, channel⟩
  rw [plannedEmissions, List.mem_flatMap]
  constructor
  · rintro ⟨entry, member, emitted⟩
    split at emitted
    · rename_i isMatch
      simp only [emit, live entry member, if_false, List.cons_append, List.nil_append,
        List.mem_cons, Emission.mk.injEq, List.not_mem_nil, or_false] at emitted
      rcases emitted with ⟨rfl, rfl⟩ | ⟨rfl, rfl⟩
      · exact ⟨.inl rfl, entry, member, rfl, isMatch⟩
      · exact ⟨.inr rfl, entry, member, rfl, isMatch⟩
    · cases emitted
  · rintro ⟨isChannel, entry, member, rfl, isMatch⟩
    refine ⟨entry, member, ?_⟩
    rw [if_pos isMatch]
    simpa [emit, live entry member] using isChannel

theorem nodup_plannedEmissions (registered : Registered engine) (event : ContractEvent Value) :
    (engine.plannedEmissions event).Nodup := by
  have distinct : (engine.contractRegistry.entries.map fun entry => entry.2.watcher).Nodup := by
    have watchers := (List.nodup_append.mp registered.distinct).1
    rw [contractWatchers, InsertionMap.values, List.map_map] at watchers
    exact watchers
  have ofWatcher : ∀ (entry : String × ContractEntry) (emission : Emission),
      (emission ∈ if engine.matchesEntry event entry then
        engine.emit entry.2.watcher (.typed (.contract event.type)) ++
          engine.emit entry.2.watcher .all
      else []) → emission.watcher = entry.2.watcher := by
    intro entry emission emitted
    split at emitted
    · simp only [emit] at emitted
      split at emitted
      · cases emitted
      · simp only [List.cons_append, List.nil_append, List.mem_cons, List.not_mem_nil,
          or_false] at emitted
        rcases emitted with rfl | rfl
        · rfl
        · rfl
    · cases emitted
  apply List.nodup_flatMap.mpr
  constructor
  · intro entry _
    split
    · simp only [emit]
      split
      · exact .nil
      · simp
    · exact .nil
  · refine (List.pairwise_map.mp distinct).imp ?_
    intro first second different emission inFirst inSecond
    exact different ((ofWatcher first emission inFirst).symm.trans
      (ofWatcher second emission inSecond))

theorem covers_dispatch_iff (registered : Registered engine)
    (configMeaning : List ContractFilter → ContractEvent Value → Bool)
    (throws : Emission → Bool) (event : ContractEvent Value) :
    engine.Covers configMeaning event (engine.dispatchContractEvent throws event) ↔
      (∀ entry ∈ engine.contractConfigRegistry.entries, configMeaning entry.1 event = false) ∧
        ∀ emission ∈ (engine.plannedEmissions event).dropLast, throws emission = false := by
  have planned := mem_plannedEmissions registered event
  have distinct := nodup_plannedEmissions registered event
  have dispatched : (engine.dispatchContractEvent throws event).Nodup :=
    distinct.sublist (untilThrow_isPrefix throws _).sublist
  rw [← untilThrow_eq_self_iff]
  constructor
  · intro covers
    constructor
    · intro entry member
      apply Bool.eq_false_of_not_eq_true
      intro wanted
      have isWanted : engine.wants configMeaning event entry.2 = true :=
        wants_iff.mpr (.inr ⟨entry, member, rfl, wanted⟩)
      have once := covers entry.2 .all
      rw [if_pos ⟨.inr rfl, isWanted⟩] at once
      have emitted := (untilThrow_isPrefix throws _).subset
        (List.count_pos_iff.mp (once ▸ Nat.one_pos))
      rcases (planned _).mp emitted with ⟨_, other, inContracts, sameWatcher, _⟩
      -- No watcher is in both registries.
      have contract : entry.2 ∈ engine.contractWatchers :=
        List.mem_map.mpr ⟨other.2, List.mem_map.mpr ⟨other, inContracts, rfl⟩, sameWatcher⟩
      have config : entry.2 ∈ engine.configWatchers := List.mem_map.mpr ⟨entry, member, rfl⟩
      exact (List.nodup_append.mp registered.distinct).2.2 _ contract _ config rfl
    · apply untilThrow_eq_self_of_mem distinct
      intro emission isPlanned
      rcases (planned emission).mp isPlanned with ⟨isChannel, entry, member, sameWatcher, isMatch⟩
      have isWanted : engine.wants configMeaning event emission.watcher = true :=
        wants_iff.mpr (.inl ⟨entry, member, sameWatcher, isMatch⟩)
      have once := covers emission.watcher emission.channel
      rw [if_pos ⟨isChannel, isWanted⟩] at once
      exact List.count_pos_iff.mp (once ▸ Nat.one_pos)
  · rintro ⟨noConfig, allCalled⟩ watcher channel
    have byContract : engine.wants configMeaning event watcher = true ↔
        ∃ entry ∈ engine.contractRegistry.entries, entry.2.watcher = watcher ∧
          engine.matchesEntry event entry = true := by
      rw [wants_iff, or_iff_left]
      rintro ⟨entry, member, -, wanted⟩
      rw [noConfig entry member] at wanted
      cases wanted
    have member : (⟨watcher, channel⟩ : Emission) ∈ engine.dispatchContractEvent throws event ↔
        (channel = .typed (.contract event.type) ∨ channel = .all) ∧
          engine.wants configMeaning event watcher = true := by
      rw [dispatchContractEvent, allCalled, planned, byContract]
    rw [List.Nodup.count dispatched]
    exact if_congr member rfl rfl

theorem wants_of_noticeThrows (configMeaning : List ContractFilter → ContractEvent Value → Bool)
    {lookup : Option (SpecLookup Value)} {event : ContractEvent Value}
    (throws : engine.noticeThrows lookup event = true) :
    ∃ watcher, engine.wants configMeaning (looked lookup event) watcher = true := by
  unfold noticeThrows at throws
  split at throws
  · rename_i payload error throwing isEmitted
    rcases List.any_eq_true.mp throws with ⟨watcher, told, -⟩
    rcases List.mem_filterMap.mp told with ⟨entry, inside, -⟩
    rcases List.mem_filter.mp inside with ⟨member, isMatch⟩
    have same : looked (some (.failed payload error throwing)) event = { event with payload } := by
      simp only [looked, isEmitted]
    refine ⟨entry.2.watcher, ?_⟩
    rw [same]
    exact wants_iff.mpr (.inl ⟨entry, member, rfl, isMatch⟩)
  · cases throws

/-- In every state the engine can reach, `route` gives a contract event to all watchers that
want it and to nobody else, exactly when no watcher subscribed by configuration wants it, no
listener of a failed lookup throws, and no listener of the event but the last that is called. -/
theorem route_covers_iff (configMeaning : List ContractFilter → ContractEvent Value → Bool)
    (options : Options) (subscriber : Option (Subscriber Value)) (events : List (Event Value))
    (engine : Engine Value) (run : Run options (initial subscriber) events engine)
    (lookup : Option (SpecLookup Value)) (throws : Emission → Bool)
    (event : ContractEvent Value) :
    engine.Covers configMeaning (looked lookup event)
        (engine.routeContract lookup throws event) ↔
      (∀ entry ∈ engine.contractConfigRegistry.entries,
          configMeaning entry.1 (looked lookup event) = false) ∧
        engine.noticeThrows lookup event = false ∧
          ∀ emission ∈ (engine.plannedEmissions (looked lookup event)).dropLast,
            throws emission = false := by
  have registered : Registered engine := by
    refine run.invariant (motive := Registered) ?_ (initial_registered subscriber)
    exact fun _ _ _ holds taken => holds.step taken
  rw [routeContract]
  cases told : engine.noticeThrows lookup event with
  | false =>
      rw [if_neg Bool.false_ne_true, covers_dispatch_iff registered, and_iff_right rfl]
  | true =>
      rw [if_pos rfl]
      refine iff_of_false (fun covers => ?_) fun holds => absurd holds.2.1 (by decide)
      rcases wants_of_noticeThrows configMeaning told with ⟨watcher, wanted⟩
      have once := covers watcher .all
      rw [if_pos ⟨.inr rfl, wanted⟩] at once
      cases once

def contractIdsMeaning (filters : List ContractFilter) (event : ContractEvent Unit) : Bool :=
  filters.any fun filter =>
    filter.contractIds.all fun contractIds => contractIds.contains event.contractId

def transfer : ContractEvent Unit where
  type := .emitted
  contractId := "C1"
  topics := ["transfer"]
  payload := ()

def byId (contractId : String) : ContractSubscribeOptions Unit where
  filters := some [{ type := none, contractIds := some [contractId], topicFilters := none }]
  filter := none

def byConfig (contractId : String) : List ContractFilter :=
  [{ type := some .contract, contractIds := some [contractId], topics := none }]

/-- Two watchers by id and one by configuration. The lookup fails, which one of the former is
told before it gets the event. -/
theorem route_covers_one_watcher :
    ∃ engine : Engine Unit,
      Run .default (initial none)
        [.subscribeContractId "first" (some (byId "C1")),
          .subscribeContractConfig (byConfig "C2"),
          .subscribeContractId "second" (some (byId "C2"))] engine ∧
      engine.routeContract (some (.failed () "no spec" fun watcher => watcher = 2))
          (fun _ => false) transfer =
        [⟨0, .typed (.contract .emitted)⟩, ⟨0, .all⟩] ∧
      engine.Covers contractIdsMeaning transfer
        (engine.routeContract (some (.failed () "no spec" fun watcher => watcher = 2))
          (fun _ => false) transfer) := by
  have run : Run .default (initial none : Engine Unit)
      [.subscribeContractId "first" (some (byId "C1")),
        .subscribeContractConfig (byConfig "C2"),
        .subscribeContractId "second" (some (byId "C2"))] _ := trace_of_runEvents rfl
  exact ⟨_, run, by decide,
    (route_covers_iff contractIdsMeaning .default none _ _ run _ (fun _ => false) transfer).mpr
      ⟨by decide, by decide, fun _ _ => rfl⟩⟩

/-- A watcher by configuration gets no event. -/
theorem config_watcher_gets_nothing :
    ∃ engine : Engine Unit,
      Run .default (initial none) [.subscribeContractConfig (byConfig "C1")] engine ∧
      engine.wants contractIdsMeaning transfer 0 = true ∧
      engine.routeContract none (fun _ => false) transfer = [] ∧
      ¬ engine.Covers contractIdsMeaning transfer
        (engine.routeContract none (fun _ => false) transfer) := by
  refine ⟨_, trace_of_runEvents rfl, by decide, by decide, ?_⟩
  intro covers
  exact absurd (covers 0 .all) (by decide)

end Engine

end Orbital.PulseCore.EventEngine

/-! ## Who gets a normalized event

The part of `route` of `EventEngine.ts` behind its checks: the addresses a
classic event names, in the order in which their watchers are called. Contract
events go to the contract subscriptions.
-/

namespace Orbital.PulseCore.EventEngine

open Orbital.Foundation

variable {Value : Type}

/-- The account watchers by their address, besides the contract subscriptions of
an engine. Both use the engine's `filters`. -/
structure Registrations (Value : Type) where
  engine : Engine Value
  registry : InsertionMap String Nat
  distinct : registry.values.Nodup

namespace Registrations

def reached? (registrations : Registrations Value) (address : String)
    (event : NormalizedEvent Value) : Option Nat :=
  (registrations.registry.get? address).filter fun _ =>
    registrations.engine.passesFilter address event

def emitTo (registrations : Registrations Value) (address : String)
    (event : NormalizedEvent Value) : List Emission :=
  match registrations.reached? address event with
  | none => []
  | some watcher =>
      registrations.engine.emit watcher (.typed event.type) ++
        registrations.engine.emit watcher .all

def notifyClaimants (registrations : Registrations Value) (event : NormalizedEvent Value)
    (notified : List String) : List String → List String
  | [] => notified
  | claimant :: rest =>
      if (registrations.reached? claimant event).isSome && !notified.contains claimant then
        registrations.notifyClaimants event (notified ++ [claimant]) rest
      else registrations.notifyClaimants event notified rest

def recipients (registrations : Registrations Value) (event : ClassicEvent) (payload : Value) :
    List (String × ClassicEvent) :=
  match event with
  | .accountCreated funder account =>
      (funder, event) :: if account ≠ funder then [(account, event)] else []
  | .accountOptions source => [(source, event)]
  | .offer _ source => [(source, event)]
  | .trustline _ account => [(account, event)]
  | .accountMerge source destination => [(source, event), (destination, event)]
  | .bumpSequence source => [(source, event)]
  | .data _ source => [(source, event)]
  | .claimableCreated sponsor claimants =>
      let notified := registrations.notifyClaimants (.classic event payload) [] claimants
      notified.map (·, event) ++ if notified.contains sponsor then [] else [(sponsor, event)]
  | .claimableClaimed claimant => [(claimant, event)]
  | .liquidityPool _ source => [(source, event)]
  | .trustAuth _ trustor issuer =>
      (issuer, event) :: if trustor ≠ issuer then [(trustor, event)] else []
  | .payment (some _) _ _ => []
  | .payment none toAddress fromAddress =>
      if fromAddress = toAddress then
        [(toAddress, .payment (some .self) toAddress fromAddress)]
      else
        [(toAddress, .payment (some .received) toAddress fromAddress),
          (fromAddress, .payment (some .sent) toAddress fromAddress)]

def fanOut (registrations : Registrations Value) : NormalizedEvent Value → List Emission
  | .classic event payload =>
      (registrations.recipients event payload).flatMap fun recipient =>
        registrations.emitTo recipient.1 (.classic recipient.2 payload)
  | .contract event => registrations.engine.plannedEmissions event

/-! ## No watcher gets a classic event twice -/

/-- A merge names two accounts; on the ledger they are different ones. -/
def mergesIntoItself : ClassicEvent → Bool
  | .accountMerge source destination => source = destination
  | _ => false

end Registrations

end Orbital.PulseCore.EventEngine
