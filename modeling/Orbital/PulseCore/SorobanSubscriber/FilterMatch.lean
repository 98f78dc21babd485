import Orbital.PulseCore.NormalizedEvent
import Orbital.PulseCore.SorobanSubscriber.PollRun

/-! # Whose handler gets an event

`dispatch` looks at the contract ids of a filter and leaves its type and its topics to the
RPC, which answers for all filters of a batch at once.
-/

namespace Orbital.PulseCore.SorobanSubscriber

open Orbital.Foundation

variable {Value : Type}

/-! ## What the filters ask for -/

def ContractEventType.text : ContractEventType → String
  | .invoked => "contract.invoked"
  | .emitted => "contract.emitted"

def satisfiesFilter (event : SorobanEvent Value) (filter : ContractSubscriptionFilter) : Bool :=
  eventMatchesFilter event filter &&
    filter.type.all (fun type => event.type = some type.text) &&
    filter.topicFilters.all (topicsMatch · event.topic)

def satisfiesSubscription (event : SorobanEvent Value) (sub : SorobanSubscription) : Bool :=
  sub.filters.isEmpty || sub.filters.any (satisfiesFilter event)

def satisfyingDeliveries (options : Options) (subscriptions : List SorobanSubscription)
    (event : SorobanEvent Value) : List (Notice Value) :=
  ((subscriptions.filter (satisfiesSubscription event)).filterMap fun sub =>
    sub.onEvent.or options.onEvent).map (.onEvent · event)

/-! ## What `dispatch` gives -/

/-- Of the items that one test lets pass and that have a result, another test that lets fewer
pass takes none away exactly if all of them pass it. -/
theorem filterMap_filter_eq_iff {Item Result : Type} {result : Item → Option Result}
    {test stricter : Item → Bool} (narrower : ∀ item, stricter item = true → test item = true)
    (items : List Item) :
    (items.filter test).filterMap result = (items.filter stricter).filterMap result ↔
      ∀ item ∈ items, result item ≠ none → test item = true → stricter item = true := by
  constructor
  · intro same
    have lengths := congrArg List.length same
    rw [List.length_filterMap_eq_countP, List.length_filterMap_eq_countP, List.countP_filter,
      List.countP_filter, List.countP_eq_length_filter] at lengths
    have strict : items.countP (fun item => (result item).isSome && stricter item) =
        (items.filter fun item => (result item).isSome && test item).countP stricter := by
      rw [List.countP_filter]
      apply List.countP_congr
      intro item _
      have passes := narrower item
      grind
    rw [strict, eq_comm, List.countP_eq_length] at lengths
    intro item inside some passes
    have present := Option.isSome_iff_ne_none.mpr some
    exact lengths item (List.mem_filter.mpr ⟨inside, by simp [passes, present]⟩)
  · intro passed
    rw [List.filterMap_filter, List.filterMap_filter]
    apply List.filterMap_congr
    intro item inside
    have passes := narrower item
    have stays := passed item inside
    cases given : result item <;> grind

theorem matches_of_satisfies {event : SorobanEvent Value} {sub : SorobanSubscription}
    (satisfies : satisfiesSubscription event sub = true) :
    eventMatchesSubscription event sub = true := by
  rw [satisfiesSubscription, Bool.or_eq_true, List.any_eq_true] at satisfies
  rw [eventMatchesSubscription, Bool.or_eq_true, List.any_eq_true]
  rcases satisfies with unfiltered | ⟨filter, inside, all⟩
  · exact .inl unfiltered
  · simp only [satisfiesFilter, Bool.and_eq_true] at all
    exact .inr ⟨filter, inside, all.1.1⟩

/-- In subscription mode an event is given to the handlers of the subscriptions it satisfies
exactly if, whenever a filter of a subscription with a handler names its contract, one that
does also has its type and its topics. -/
theorem dispatch_satisfying_iff (options : Options) (rpc : Rpc Value) (stored : Option String)
    (subscriber : Subscriber Value) (event : SorobanEvent Value)
    (subscribed : subscriber.subscriptions ≠ []) :
    ((dispatch options event).run rpc.respond stored subscriber).state.notices =
        subscriber.notices ++
          satisfyingDeliveries options subscriber.subscriptions (eventToEmit options event) ↔
      ∀ sub ∈ subscriber.subscriptions, sub.onEvent.or options.onEvent ≠ none →
        (∃ filter ∈ sub.filters, eventMatchesFilter (eventToEmit options event) filter = true) →
          ∃ filter ∈ sub.filters, satisfiesFilter (eventToEmit options event) filter = true := by
  have isEmpty : subscriber.subscriptions.isEmpty = false := by simpa using subscribed
  have injective : Function.Injective fun name : String =>
      Notice.onEvent name (eventToEmit options event) := by
    intro name other same
    cases same
    rfl
  have called : handlers options subscriber.subscriptions event =
      (subscriber.subscriptions.filter
        (eventMatchesSubscription (eventToEmit options event))).filterMap
          fun sub => sub.onEvent.or options.onEvent := by
    rw [handlers, isEmpty, if_neg Bool.false_ne_true, List.filterMap_filter]
    simp only [eventMatches_eventToEmit]
  rw [run_dispatch, Subscriber.delivered, List.append_cancel_left_eq, deliveries, called,
    satisfyingDeliveries, (List.map_injective_iff.mpr injective).eq_iff,
    filterMap_filter_eq_iff fun sub => matches_of_satisfies]
  refine forall₃_congr fun sub _ _ => ?_
  rw [eventMatchesSubscription, satisfiesSubscription]
  cases filtered : sub.filters with
  | nil => simp
  | cons filter rest => simp [← List.any_eq_true]

def callsAndEvents : Subscriber Unit :=
  let filter (type : ContractEventType) : ContractSubscriptionFilter :=
    { type := some type, contractIds := some ["C"], topicFilters := none }
  { Subscriber.new none with
    subscriptions := [⟨"calls", [filter .invoked], some "onCall"⟩,
      ⟨"events", [filter .emitted], some "onEvent"⟩] }

def emittedEvent : SorobanEvent Unit where
  id := "1-0"
  pagingToken := "1-0"
  topic := []
  value := ()
  contractId := some "C"
  type := some "contract"
  decodedData := none
  ledger := some 1

def noEvents : Rpc Unit where
  latestLedger := 1
  getEvents _ := { events := [], latestLedger := none, cursor := none }

theorem emitted_given_to_both :
    ¬ ∀ (options : Options) (rpc : Rpc Unit) (stored : Option String)
      (subscriber : Subscriber Unit) (event : SorobanEvent Unit), subscriber.subscriptions ≠ [] →
        ((dispatch options event).run rpc.respond stored subscriber).state.notices =
          subscriber.notices ++ satisfyingDeliveries options subscriber.subscriptions
            (eventToEmit options event) := by
  intro always
  have given := always .default noEvents none callsAndEvents emittedEvent (by decide)
  rw [run_dispatch] at given
  revert given
  decide

/-- Of three subscriptions the two that the event satisfies are given it. -/
theorem satisfying_subscription : let subscriber := { callsAndEvents with
      subscriptions := callsAndEvents.subscriptions.tail ++
        [⟨"others", [contractFilter "D"], some "onOther"⟩, ⟨"all", [], some "onAny"⟩] }
    let event := eventToEmit .default emittedEvent
    ((dispatch .default emittedEvent).run noEvents.respond none subscriber).state.notices =
      [.onEvent "onEvent" event, .onEvent "onAny" event] :=
  (dispatch_satisfying_iff .default noEvents none _ emittedEvent (by decide)).mpr
    (by decide)

end Orbital.PulseCore.SorobanSubscriber
