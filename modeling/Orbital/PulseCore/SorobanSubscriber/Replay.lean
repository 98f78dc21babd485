import Orbital.Foundation.Paging
import Orbital.PulseCore.SorobanSubscriber.PollRun

/-! # Bounded replay

`replayContracts` of `EventEngine.ts` builds a subscriber over a ledger range,
which its caller polls until `onDone`. The subscriber asks for every event,
whatever filters the replay was given, and takes the first empty page for the
end of the stream.
-/

namespace Orbital.PulseCore.SorobanSubscriber

open Orbital.Foundation

variable {Value : Type}

structure ReplayOptions where
  hasLatestLedger : Bool
  filters : List ContractSubscriptionFilter
  startLedger : Nat
  endLedger : Nat
  onEvent : String
  pageLimit : PageLimit

namespace ReplayOptions

/-- The options `replayContracts` gives its subscriber; the filters are not
among them. -/
def subscriberOptions (replay : ReplayOptions) : Options :=
  { Options.default with
    hasLatestLedger := replay.hasLatestLedger
    onEvent := some replay.onEvent
    endLedger := some replay.endLedger
    pageLimit := replay.pageLimit }

/-- The subscriber `replayContracts` returns, over a cursor store that keeps
nothing. -/
def replayContracts (replay : ReplayOptions) : Position Value where
  stored := none
  subscriber := .new (some replay.startLedger)

def request (replay : ReplayOptions) (cursor : Option String) : EventsRequest :=
  fetchEvents replay.subscriberOptions (some replay.startLedger) cursor []

def delivery (replay : ReplayOptions) (event : SorobanEvent Value) : Notice Value :=
  .onEvent replay.onEvent (eventToEmit replay.subscriberOptions event)

def reaches (replay : ReplayOptions) (event : SorobanEvent Value) : Bool :=
  reachesEnd replay.subscriberOptions event

end ReplayOptions

/-! ## What the RPC returns, page after page -/

def lastToken (events : List (SorobanEvent Value)) : Option String :=
  events.getLast?.map fun event => event.pagingToken

def answered (replay : ReplayOptions) :
    Option String → List (Rpc Value) → List (SorobanEvent Value) × Bool
  | _, [] => ([], false)
  | cursor, rpc :: rest =>
      let page := rpc.getEvents (replay.request cursor)
      if page.events.isEmpty then ([], true)
      else
        let later := answered replay (page.cursor.or (lastToken page.events)) rest
        (page.events ++ later.1, later.2)

/-! ## The subscriber during a replay -/

structure Replaying (replay : ReplayOptions) (cursor : Option String)
    (given : List (SorobanEvent Value)) (subscriber : Subscriber Value) : Prop where
  running : subscriber.isStopped = false
  legacy : subscriber.subscriptions = []
  startLedger : subscriber.startLedger = some replay.startLedger
  unfinished : subscriber.replayDone = false
  connected : subscriber.reconnectAttempt = 0
  cursor : subscriber.replayCursor = cursor
  notices : subscriber.notices = given.map replay.delivery
  seen : ∀ id ∈ subscriber.seen, id ∈ given.map fun event => event.id

structure Replayed (replay : ReplayOptions) (given : List (SorobanEvent Value))
    (subscriber : Subscriber Value) : Prop where
  finished : subscriber.replayDone = true
  notices : subscriber.notices = given.map replay.delivery ++ [.onDone]

theorem replayContracts_replaying (replay : ReplayOptions) :
    Replaying replay none [] (replay.replayContracts : Position Value).subscriber where
  running := rfl
  legacy := rfl
  startLedger := rfl
  unfinished := rfl
  connected := rfl
  cursor := rfl
  notices := rfl
  seen := by simp [ReplayOptions.replayContracts, Subscriber.new]

variable {replay : ReplayOptions} {cursor : Option String}
  {given events history : List (SorobanEvent Value)} {subscriber : Subscriber Value}
  {position : Position Value}

theorem Replaying.finish (holds : Replaying replay cursor given subscriber) :
    Replayed replay given subscriber.finishReplay := by
  have finished : subscriber.finishReplay =
      { subscriber with replayDone := true }.notify .onDone := by
    rw [Subscriber.finishReplay, if_neg (by simp [holds.unfinished])]
  rw [finished]
  exact ⟨rfl, by rw [Subscriber.notify, ← holds.notices]⟩

theorem Replaying.deliver (holds : Replaying replay cursor given subscriber) (size : Nat)
    (event : SorobanEvent Value) :
    Replaying replay cursor (given ++ [event])
      ((subscriber.delivered replay.subscriberOptions event).recordSeen size event.id) where
  running := holds.running
  legacy := holds.legacy
  startLedger := holds.startLedger
  unfinished := holds.unfinished
  connected := holds.connected
  cursor := holds.cursor
  notices := by
    simp [Subscriber.recordSeen, Subscriber.delivered, deliveries, handlers, holds.legacy,
      holds.notices, ReplayOptions.delivery, ReplayOptions.subscriberOptions]
  seen := by
    intro id inSeen
    rw [List.map_append, List.mem_append]
    rcases List.mem_append.mp (List.mem_of_mem_drop inSeen) with old | new
    · exact .inl (holds.seen id (List.mem_of_mem_erase old))
    · exact .inr (by simpa using new)

theorem Replaying.deliverPage (holds : Replaying replay cursor given subscriber)
    (distinct : ((given ++ events).map fun event => event.id).Nodup) :
    let delivered := Subscriber.deliverPage replay.subscriberOptions events subscriber
    if events.any replay.reaches then
      delivered.2 = false ∧
        Replayed replay (given ++ events.takeWhile fun event => !replay.reaches event) delivered.1
    else delivered.2 = true ∧ Replaying replay cursor (given ++ events) delivered.1 := by
  induction events generalizing given subscriber with
  | nil => simpa [Subscriber.deliverPage] using holds
  | cons event rest induction =>
      have notSeen : event.id ∉ subscriber.seen := by
        intro inSeen
        rw [List.map_append, List.nodup_append] at distinct
        exact distinct.2.2 _ (holds.seen _ inSeen) event.id (by simp) rfl
      rw [Subscriber.deliverPage]
      simp only [holds.running, Bool.false_eq_true, if_false]
      cases reaching : replay.reaches event with
      | true =>
          have atEnd : reachesEnd replay.subscriberOptions event = true := reaching
          simp only [atEnd, if_true, List.any_cons, reaching, Bool.true_or]
          refine ⟨trivial, ?_⟩
          rw [List.takeWhile_cons_of_neg (by simp [reaching]), List.append_nil]
          exact holds.finish
      | false =>
          have notEnd : reachesEnd replay.subscriberOptions event = false := reaching
          have regroup : given ++ event :: rest = given ++ [event] ++ rest := by simp
          simp only [notEnd, notSeen, Bool.false_eq_true, if_false, List.any_cons, reaching,
            Bool.false_or]
          have later := induction (holds.deliver replay.subscriberOptions.dedupCacheSize event)
            (regroup ▸ distinct)
          rw [List.takeWhile_cons_of_pos (by simp [reaching])]
          simpa using later

/-! ## One poll of a replay -/

theorem mergePages_single {page : Page Value}
    (distinct : (page.events.map fun event => event.id).Nodup) :
    mergePages options [page] 1 = page.events := by
  have entries : (InsertionMap.empty.setAll
      (page.events.map fun event => (event.id, event))).entries =
      page.events.map fun event => (event.id, event) := by
    rw [InsertionMap.entries_setAll]
    · rfl
    · simpa [InsertionMap.empty, Function.comp_def] using distinct
  simp [mergePages, InsertionMap.values, entries, Function.comp_def]

theorem Replaying.pages (holds : Replaying replay cursor given position.subscriber)
    (rpc : Rpc Value) :
    position.pages replay.subscriberOptions rpc = [rpc.getEvents (replay.request cursor)] ∧
      position.subscriber.ready replay.subscriberOptions rpc
        (position.cursor replay.subscriberOptions) = position.subscriber := by
  have cursorRead : position.cursor replay.subscriberOptions = cursor := by
    rw [Position.cursor, ← holds.cursor]
    rfl
  have ready : position.subscriber.ready replay.subscriberOptions rpc cursor =
      position.subscriber := by
    rw [Subscriber.ready, if_neg (by simp [holds.startLedger])]
  have calls : rpcCalls position.subscriber.subscriptions = [[]] := by
    rw [holds.legacy]
    rfl
  constructor
  · rw [Position.pages, Position.requests, cursorRead, ready, calls, holds.startLedger]
    rfl
  · rw [cursorRead, ready]

theorem next_replayed (isOver : Replayed replay given position.subscriber) (rpc : Rpc Value) :
    poll replay.subscriberOptions position rpc = position := by
  rw [poll_eq, Position.next, if_pos]
  rw [isOver.finished]
  rfl

theorem Replaying.poll_eq (holds : Replaying replay cursor given position.subscriber)
    (rpc : Rpc Value) :
    poll replay.subscriberOptions position rpc =
      position.process replay.subscriberOptions [rpc.getEvents (replay.request cursor)] 1 := by
  rcases holds.pages rpc with ⟨pages, ready⟩
  rw [SorobanSubscriber.poll_eq, Position.next, if_neg (by simp [holds.unfinished]), pages, ready]
  rfl

theorem Replaying.poll (holds : Replaying replay cursor given position.subscriber) (rpc : Rpc Value)
    (distinct : ((given ++ (rpc.getEvents (replay.request cursor)).events).map
      fun event => event.id).Nodup) :
    let page := rpc.getEvents (replay.request cursor)
    let next := (SorobanSubscriber.poll replay.subscriberOptions position rpc).subscriber
    if page.events.isEmpty then Replayed replay given next
    else if page.events.any replay.reaches then
      Replayed replay (given ++ page.events.takeWhile fun event => !replay.reaches event) next
    else Replaying replay (page.cursor.or (lastToken page.events)) (given ++ page.events) next := by
  rw [holds.poll_eq rpc]
  generalize rpc.getEvents (replay.request cursor) = page at distinct
  have connected : noteReconnected position.subscriber = position.subscriber := by
    rw [noteReconnected, if_neg (by simp [holds.connected])]
  have merged : mergePages replay.subscriberOptions [page] 1 = page.events := by
    apply mergePages_single
    rw [List.map_append] at distinct
    exact (List.nodup_append.mp distinct).2.1
  have replayMode : replay.subscriberOptions.isReplayMode = true := rfl
  simp only [Position.process, merged, connected, replayMode, Bool.true_and]
  cases empty : page.events.isEmpty with
  | true => exact holds.finish
  | false =>
      have polling : Replaying replay cursor given { position.subscriber with isPolling := true } :=
        { holds with }
      have delivered := polling.deliverPage distinct
      cases reaching : page.events.any replay.reaches with
      | true =>
          simp only [reaching, if_true] at delivered
          simp only [delivered.1, Bool.false_eq_true, if_false, if_true]
          exact { delivered.2 with }
      | false =>
          simp only [reaching, Bool.false_eq_true, if_false] at delivered
          have passed : nextCursor [page] page.events = page.cursor.or (lastToken page.events) := by
            cases cursor : page.cursor <;> simp [nextCursor, lastToken, cursor]
          have some : ∃ cursor, page.cursor.or (lastToken page.events) = some cursor := by
            cases events : page.events with
            | nil => simp [events] at empty
            | cons head tail =>
                cases page.cursor <;> simp [lastToken, List.getLast?_cons]
          rcases some with ⟨next, isNext⟩
          simp only [delivered.1, Bool.false_eq_true, if_false, if_true, passed, isNext,
            Position.saveCursor, replayMode]
          exact { delivered.2 with cursor := rfl }

/-! ## A whole replay -/

def polls (replay : ReplayOptions) (position : Position Value) (rpcs : List (Rpc Value)) :
    Position Value :=
  rpcs.foldl (poll replay.subscriberOptions) position

theorem Replayed.polls (isOver : Replayed replay given position.subscriber)
    (rpcs : List (Rpc Value)) : SorobanSubscriber.polls replay position rpcs = position := by
  induction rpcs with
  | nil => rfl
  | cons rpc rest induction =>
      rw [SorobanSubscriber.polls, List.foldl_cons, next_replayed isOver rpc]
      exact induction

/-- Once an event has reached the end or a page has come back empty, the replay
is over; what was given to the handler are the events before that. -/
theorem Replaying.polls (holds : Replaying replay cursor given position.subscriber)
    (rpcs : List (Rpc Value))
    (distinct : ((given ++ (answered replay cursor rpcs).1).map fun event => event.id).Nodup)
    (isOver : (answered replay cursor rpcs).2 = true) :
    Replayed replay
      (given ++ (answered replay cursor rpcs).1.takeWhile fun event => !replay.reaches event)
      (SorobanSubscriber.polls replay position rpcs).subscriber := by
  induction rpcs generalizing cursor given position with
  | nil => simp [answered] at isOver
  | cons rpc rest induction =>
      rw [SorobanSubscriber.polls, List.foldl_cons]
      change Replayed replay _
        (SorobanSubscriber.polls replay (SorobanSubscriber.poll replay.subscriberOptions
          position rpc) rest).subscriber
      have pageDistinct : ((given ++ (rpc.getEvents (replay.request cursor)).events).map
          fun event => event.id).Nodup := by
        refine List.Nodup.sublist ?_ distinct
        apply List.Sublist.map
        apply List.Sublist.append_left
        rw [answered]
        split
        · rename_i empty
          rw [List.isEmpty_iff.mp empty]
        · exact List.sublist_append_left _ _
      have polled := holds.poll rpc pageDistinct
      cases empty : (rpc.getEvents (replay.request cursor)).events.isEmpty with
      | true =>
          simp only [empty, if_true] at polled
          simp only [answered, empty, if_true, List.takeWhile_nil, List.append_nil]
          rw [polled.polls]
          exact polled
      | false =>
          simp only [answered, empty, Bool.false_eq_true, if_false] at distinct isOver ⊢
          simp only [empty, Bool.false_eq_true, if_false] at polled
          cases reaching : (rpc.getEvents (replay.request cursor)).events.any replay.reaches with
          | true =>
              simp only [reaching, if_true] at polled
              rcases List.any_eq_true.mp reaching with ⟨event, inPage, atEnd⟩
              rw [takeWhile_append_of_stop inPage (by simp [atEnd]), polled.polls]
              exact polled
          | false =>
              simp only [reaching, Bool.false_eq_true, if_false] at polled
              rw [List.takeWhile_append_of_pos (by simpa using reaching), ← List.append_assoc]
              rw [← List.append_assoc] at distinct
              exact induction polled distinct isOver

/-! ## A ledger history and its pages -/

structure LedgerHistory (history : List (SorobanEvent Value)) : Prop where
  distinct : (history.map fun event => event.id).Nodup
  ordered : history.Pairwise fun first second => first.pagingToken < second.pagingToken
  inLedger : ∀ event ∈ history, (extractLedger event).isSome
  ledgers : history.Pairwise fun first second =>
    ∀ earlier ∈ extractLedger first, ∀ later ∈ extractLedger second, earlier ≤ later

def fromLedger (startLedger : Nat) (event : SorobanEvent Value) : Bool :=
  (extractLedger event).any fun ledger => decide (startLedger ≤ ledger)

def fromStart (history : List (SorobanEvent Value)) (request : EventsRequest) :
    List (SorobanEvent Value) :=
  match request.cursor, request.startLedger with
  | none, some startLedger => history.filter (fromLedger startLedger)
  | _, _ => history

/-- The RPC answers with the events a request is about, in order and cut off
anywhere; a cursor it reports lies right behind the page. -/
structure ServesRange (meaning : FilterMeaning Value) (history : List (SorobanEvent Value))
    (rpc : Rpc Value) : Prop where
  page : ∀ request, ∃ count, count ≤ request.limit ∧
    (rpc.getEvents request).events =
      (eligible meaning (fromStart history request) request).take count
  cursor : ∀ request cursor, (rpc.getEvents request).cursor = some cursor →
    ∀ event ∈ eligible meaning (fromStart history request) request,
      (event.pagingToken ≤ cursor ↔ event ∈ (rpc.getEvents request).events)

def ReplayOptions.ahead (replay : ReplayOptions) (history : List (SorobanEvent Value))
    (cursor : Option String) : List (SorobanEvent Value) :=
  (fromStart history (replay.request cursor)).filter (afterCursor cursor)

theorem eligible_request (meaning : FilterMeaning Value) (replay : ReplayOptions)
    (history : List (SorobanEvent Value)) (cursor : Option String) :
    eligible meaning (fromStart history (replay.request cursor)) (replay.request cursor) =
      replay.ahead history cursor := by
  have sameCursor : (replay.request cursor).cursor = cursor := by
    rw [ReplayOptions.request, fetchEvents]
    split <;> rfl
  have noFilters : (replay.request cursor).filters = [] := by
    rw [ReplayOptions.request, fetchEvents]
    split <;> rfl
  simp [eligible, ReplayOptions.ahead, sameCursor, noFilters, FilterMeaning.admitsAny]

theorem ahead_some (replay : ReplayOptions) (history : List (SorobanEvent Value))
    (cursor : String) : replay.ahead history (some cursor) =
      history.filter fun event => decide (cursor < event.pagingToken) := by
  have sameCursor : (replay.request (some cursor)).cursor = some cursor := by
    rw [ReplayOptions.request, fetchEvents]
    split <;> rfl
  rw [ReplayOptions.ahead, fromStart, sameCursor]
  rfl

theorem LedgerHistory.fromLedger_suffix (ledger : LedgerHistory history) (startLedger : Nat) :
    history.filter (fromLedger startLedger) <:+ history := by
  apply filter_suffix
  refine ledger.ledgers.imp_of_mem ?_
  intro first second firstIn secondIn inOrder reached
  rcases Option.isSome_iff_exists.mp (ledger.inLedger first firstIn) with ⟨earlier, isEarlier⟩
  rcases Option.isSome_iff_exists.mp (ledger.inLedger second secondIn) with ⟨later, isLater⟩
  have above := inOrder earlier isEarlier later isLater
  simp only [fromLedger, isEarlier, isLater, Option.any_some, decide_eq_true_eq] at reached ⊢
  omega

theorem LedgerHistory.ahead_none_suffix (ledger : LedgerHistory history) (replay : ReplayOptions) :
    replay.ahead history none <:+ history := by
  have all : (afterCursor none : SorobanEvent Value → Bool) = fun _ => true := rfl
  rw [ReplayOptions.ahead, all, List.filter_true, fromStart]
  split
  · exact ledger.fromLedger_suffix _
  · exact List.suffix_refl _

theorem LedgerHistory.ahead_next {meaning : FilterMeaning Value} (ledger : LedgerHistory history)
    {rpc : Rpc Value} (serves : ServesRange meaning history rpc)
    (suffix : replay.ahead history cursor <:+ history)
    (some : (rpc.getEvents (replay.request cursor)).events ≠ []) :
    let page := rpc.getEvents (replay.request cursor)
    page.events ++ replay.ahead history (page.cursor.or (lastToken page.events)) =
      replay.ahead history cursor := by
  have pages := serves.page (replay.request cursor)
  have reported := serves.cursor (replay.request cursor)
  rw [eligible_request] at pages reported
  generalize rpc.getEvents (replay.request cursor) = page at *
  rcases pages with ⟨count, _, taken⟩
  rcases suffix with ⟨before, whole⟩
  have split : page.events ++ (replay.ahead history cursor).drop count =
      replay.ahead history cursor := by
    rw [taken, List.take_append_drop]
  have ordered := ledger.ordered
  rw [← whole, ← split] at ordered
  have inOrder := (List.pairwise_append.mp ordered).2.1
  have restIsNew : ∀ event ∈ (replay.ahead history cursor).drop count, event ∉ page.events :=
    fun event inRest inPage =>
      absurd ((List.pairwise_append.mp inOrder).2.2 event inPage event inRest) (lt_irrefl _)
  have separates : ∃ next, page.cursor.or (lastToken page.events) = Option.some next ∧
      (∀ event ∈ page.events, event.pagingToken ≤ next) ∧
      ∀ event ∈ (replay.ahead history cursor).drop count, next < event.pagingToken := by
    cases isReported : page.cursor with
    | some next =>
        refine ⟨next, rfl, ?_, ?_⟩
        · intro event inPage
          exact (reported next isReported event (split ▸ List.mem_append_left _ inPage)).mpr inPage
        · intro event inRest
          apply lt_of_not_ge
          intro passed
          exact restIsNew event inRest
            ((reported next isReported event (List.mem_of_mem_drop inRest)).mp passed)
    | none =>
        refine ⟨(page.events.getLast some).pagingToken, ?_,
          last_separates inOrder (List.getLast?_eq_some_getLast some)⟩
        rw [lastToken, List.getLast?_eq_some_getLast some]
        rfl
  rcases separates with ⟨next, isNext, upTo, beyond⟩
  have rest := filter_after ordered some upTo beyond
  rw [split, whole] at rest
  change page.events ++ replay.ahead history (page.cursor.or (lastToken page.events)) = _
  rw [isNext, ahead_some, rest]
  exact split

theorem LedgerHistory.answered_prefix {meaning : FilterMeaning Value}
    (ledger : LedgerHistory history) (replay : ReplayOptions) (rpcs : List (Rpc Value))
    (serves : ∀ rpc ∈ rpcs, ServesRange meaning history rpc)
    (suffix : replay.ahead history cursor <:+ history) :
    (answered replay cursor rpcs).1 <+: replay.ahead history cursor := by
  induction rpcs generalizing cursor with
  | nil => exact List.nil_prefix
  | cons rpc rest induction =>
      have rpcServes := serves rpc (by simp)
      rw [answered]
      split
      · exact List.nil_prefix
      · rename_i some
        have next := ledger.ahead_next rpcServes suffix (by simpa using some)
        rw [← next]
        apply (List.prefix_append_right_inj _).mpr
        apply induction fun later member => serves later (List.mem_cons_of_mem rpc member)
        exact List.IsSuffix.trans ⟨_, next⟩ suffix

theorem length_le_answered (replay : ReplayOptions) (rpcs : List (Rpc Value))
    (cursor : Option String) (noEmpty : (answered replay cursor rpcs).2 = false) :
    rpcs.length ≤ (answered replay cursor rpcs).1.length := by
  induction rpcs generalizing cursor with
  | nil => simp
  | cons rpc rest induction =>
      rw [answered] at noEmpty ⊢
      split at noEmpty
      · cases noEmpty
      · rename_i some
        rw [if_neg some]
        have later := induction _ noEmpty
        have page : 0 < (rpc.getEvents (replay.request cursor)).events.length := by
          apply List.length_pos_iff.mpr
          simpa using some
        simp only [List.length_cons, List.length_append]
        omega

/-! ## What a replay delivers -/

def ReplayOptions.asksFor (meaning : FilterMeaning Value) (replay : ReplayOptions)
    (event : SorobanEvent Value) : Bool :=
  fromLedger replay.startLedger event && !replay.reaches event &&
    meaning.admitsAny replay.filters event

theorem LedgerHistory.takeWhile_reaches (ledger : LedgerHistory history) (replay : ReplayOptions)
    (part : events.Sublist history) :
    events.takeWhile (fun event => !replay.reaches event) =
      events.filter fun event => !replay.reaches event := by
  apply takeWhile_eq_filter
  refine (ledger.ledgers.sublist part).imp_of_mem ?_
  intro first second firstIn secondIn inOrder before
  rcases Option.isSome_iff_exists.mp (ledger.inLedger first (part.subset firstIn)) with
    ⟨earlier, isEarlier⟩
  rcases Option.isSome_iff_exists.mp (ledger.inLedger second (part.subset secondIn)) with
    ⟨later, isLater⟩
  have above := inOrder earlier isEarlier later isLater
  simp only [ReplayOptions.reaches, reachesEnd, ReplayOptions.subscriberOptions, isEarlier,
    isLater, Bool.not_eq_true', decide_eq_false_iff_not, not_le] at before ⊢
  omega

theorem LedgerHistory.sublist_ext {first second : List (SorobanEvent Value)}
    (ledger : LedgerHistory history) (firstPart : first.Sublist history)
    (secondPart : second.Sublist history) (same : ∀ event, event ∈ first ↔ event ∈ second) :
    first = second := by
  have antisymm : Std.Antisymm fun first second : SorobanEvent Value =>
      first.pagingToken < second.pagingToken :=
    ⟨fun _ _ less greater => absurd less (lt_asymm greater)⟩
  have irrefl : Std.Irrefl fun first second : SorobanEvent Value =>
      first.pagingToken < second.pagingToken := ⟨fun _ => lt_irrefl _⟩
  exact (ledger.ordered.sublist firstPart).eq_of_mem_iff (ledger.ordered.sublist secondPart) same

theorem LedgerHistory.mem_map_delivery (ledger : LedgerHistory history) (replay : ReplayOptions)
    (part : events.Sublist history) {event : SorobanEvent Value} (member : event ∈ history) :
    replay.delivery event ∈ events.map replay.delivery ↔ event ∈ events := by
  constructor
  · intro delivered
    rcases List.mem_map.mp delivered with ⟨other, inEvents, same⟩
    have sameId : other.id = event.id := by
      injection same with _ sameEvent
      change (eventToEmit replay.subscriberOptions other).id = _
      rw [sameEvent]
      rfl
    rw [← List.inj_on_of_nodup_map ledger.distinct (part.subset inEvents) member sameId]
    exact inEvents
  · exact List.mem_map_of_mem

/-- A replay polled often enough delivers the events it was asked for, in the
order of the history and each once, and then calls `onDone`, exactly when the
RPC returns no other event before the end ledger and leaves out none of them
before its first empty page. -/
theorem replay_delivers_range (meaning : FilterMeaning Value) (replay : ReplayOptions)
    (history : List (SorobanEvent Value)) (rpcs : List (Rpc Value))
    (ledger : LedgerHistory history)
    (serves : ∀ rpc ∈ rpcs, ServesRange meaning history rpc)
    (enough : history.length < rpcs.length) :
    (polls replay replay.replayContracts rpcs).subscriber.notices =
        (history.filter (replay.asksFor meaning)).map replay.delivery ++ [.onDone] ↔
      (∀ event ∈ (answered replay none rpcs).1, replay.reaches event = false →
        replay.asksFor meaning event = true) ∧
      ∀ event ∈ history, replay.asksFor meaning event = true →
        event ∈ (answered replay none rpcs).1 := by
  have suffix := ledger.ahead_none_suffix replay
  have part : (answered replay none rpcs).1.Sublist history :=
    (ledger.answered_prefix replay rpcs serves suffix).sublist.trans suffix.sublist
  have isOver : (answered replay none rpcs).2 = true := by
    apply Bool.eq_true_of_not_eq_false
    intro noEmpty
    have returned := length_le_answered replay rpcs none noEmpty
    have atMost := part.length_le
    omega
  have replayed := (replayContracts_replaying replay).polls rpcs
    (ledger.distinct.sublist (part.map fun event => event.id)) isOver
  rw [replayed.notices, List.nil_append, ledger.takeWhile_reaches replay part,
    List.append_cancel_right_eq]
  have givenPart : ((answered replay none rpcs).1.filter
      fun event => !replay.reaches event).Sublist history :=
    List.filter_sublist.trans part
  have askedPart : (history.filter (replay.asksFor meaning)).Sublist history :=
    List.filter_sublist
  constructor
  · intro same
    have sameMembers : ∀ event ∈ history,
        (event ∈ (answered replay none rpcs).1 ∧ replay.reaches event = false ↔
          replay.asksFor meaning event = true) := by
      intro event member
      have delivered : replay.delivery event ∈ List.map replay.delivery
          ((answered replay none rpcs).1.filter fun event => !replay.reaches event) ↔
            replay.delivery event ∈ List.map replay.delivery
              (history.filter (replay.asksFor meaning)) := by
        rw [same]
      rw [ledger.mem_map_delivery replay givenPart member,
        ledger.mem_map_delivery replay askedPart member] at delivered
      simpa [member] using delivered
    constructor
    · intro event returned before
      exact (sameMembers event (part.subset returned)).mp ⟨returned, before⟩
    · intro event member asked
      exact ((sameMembers event member).mpr asked).1
  · rintro ⟨onlyAsked, allReturned⟩
    apply congrArg
    apply ledger.sublist_ext givenPart askedPart
    intro event
    rw [List.mem_filter, List.mem_filter]
    constructor
    · rintro ⟨returned, before⟩
      exact ⟨part.subset returned, onlyAsked event returned (by simpa using before)⟩
    · rintro ⟨member, asked⟩
      have before : (!replay.reaches event) = true := by
        rw [ReplayOptions.asksFor, Bool.and_eq_true, Bool.and_eq_true] at asked
        exact asked.1.2
      exact ⟨allReturned event member asked, before⟩

/-! ## A replay of one contract -/

def fullPagesFrom (meaning : FilterMeaning Value) (history : List (SorobanEvent Value)) :
    Rpc Value where
  latestLedger := 0
  getEvents := fun request =>
    (fullPages meaning (fromStart history request)).getEvents request

theorem fullPagesFrom_serves (meaning : FilterMeaning Value) (ledger : LedgerHistory history) :
    ServesRange meaning history (fullPagesFrom meaning history) := by
  have ordered : ∀ request, (fromStart history request).Pairwise
      fun first second => first.pagingToken < second.pagingToken := by
    intro request
    rw [fromStart]
    split
    · exact ledger.ordered.filter _
    · exact ledger.ordered
  constructor
  · intro request
    exact (fullPages_serves meaning (ordered request)).page request
  · intro request cursor reported event isEligible
    constructor
    · exact (fullPages_serves meaning (ordered request)).cursor request cursor reported event
        isEligible
    · intro inPage
      rcases Option.map_eq_some_iff.mp reported with ⟨last, isLast, rfl⟩
      have sorted : (eligible meaning (fromStart history request) request).Pairwise
          fun first second => first.pagingToken < second.pagingToken := (ordered request).filter _
      rw [← List.take_append_drop request.limit
        (eligible meaning (fromStart history request) request)] at sorted
      exact (last_separates sorted isLast).1 event inPage

def replayOf (contractId : String) : ReplayOptions where
  hasLatestLedger := true
  filters := [contractFilter contractId]
  startLedger := 1
  endLedger := 3
  onEvent := "handler"
  pageLimit := Options.default.pageLimit

/-- The contract's events are the only ones. -/
theorem replay_delivers_range_one_contract :
    (polls (replayOf "C1") (replayOf "C1").replayContracts
        (List.replicate 4 (fullPagesFrom contractMeaning
          [eventOf "C1" "0001" 1, eventOf "C1" "0002" 2,
            eventOf "C1" "0003" 3]))).subscriber.notices =
      [eventOf "C1" "0001" 1, eventOf "C1" "0002" 2].map (replayOf "C1").delivery ++ [.onDone] := by
  have ledger : LedgerHistory
      [eventOf "C1" "0001" 1, eventOf "C1" "0002" 2, eventOf "C1" "0003" 3] :=
    ⟨by decide, by decide, by decide, by decide⟩
  exact (replay_delivers_range contractMeaning (replayOf "C1") _ _ ledger
    (fun rpc member => List.eq_of_mem_replicate member ▸ fullPagesFrom_serves _ ledger)
    (by decide)).mpr ⟨by decide, by decide⟩

def twoContracts : List (SorobanEvent Unit) :=
  [eventOf "C1" "0001" 1, eventOf "C2" "0002" 2]

/-- The replay of one contract delivers the events of another. -/
theorem replay_ignores_filters :
    LedgerHistory twoContracts ∧
      ServesRange contractMeaning twoContracts (fullPagesFrom contractMeaning twoContracts) ∧
      (polls (replayOf "C1") (replayOf "C1").replayContracts
          (List.replicate 3 (fullPagesFrom contractMeaning twoContracts))).subscriber.notices ≠
        (twoContracts.filter ((replayOf "C1").asksFor contractMeaning)).map
          (replayOf "C1").delivery ++ [.onDone] := by
  have ledger : LedgerHistory twoContracts := ⟨by decide, by decide, by decide, by decide⟩
  exact ⟨ledger, fullPagesFrom_serves contractMeaning ledger, by decide⟩

end Orbital.PulseCore.SorobanSubscriber
