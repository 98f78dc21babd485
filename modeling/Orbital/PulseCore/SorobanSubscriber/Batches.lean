import Orbital.Foundation.Paging
import Orbital.PulseCore.SorobanSubscriber.PollRun

/-! # Polling in several batches

More than five filters are asked for in several `getEvents` calls, whose pages
are cut off independently, and one cursor is saved for all of them: the first
one a page reports, else the token of the last event. A poll loses events when
that cursor passes an event that its own page had no room for.
-/

namespace Orbital.PulseCore.SorobanSubscriber

open Orbital.Foundation

variable {Value : Type}

/-! ## The calls of a poll cover the subscriptions -/

theorem flatten_filterBatches (filters : List ContractSubscriptionFilter) :
    (filterBatches filters).flatten = filters := by
  induction filters using filterBatches.induct with
  | case1 first second third fourth fifth rest induction =>
      rw [filterBatches, List.flatten_cons, induction]
      rfl
  | case2 => rfl
  | case3 short notLong notEmpty =>
      rw [filterBatches]
      · simp
      · exact notLong
      · exact notEmpty

def OwnKeys (found : InsertionMap FilterKey ContractSubscriptionFilter) : Prop :=
  ∀ key filter, found.get? key = some filter → filterKey filter = key

variable {found : InsertionMap FilterKey ContractSubscriptionFilter}
  {filter : ContractSubscriptionFilter} {subscriptions : List SorobanSubscription}
  {sub : SorobanSubscription} {calls : Nat} {page : Page Value}

theorem ownKeys_addFilter (own : OwnKeys found) (filter : ContractSubscriptionFilter) :
    OwnKeys (addFilter found filter) := by
  intro key kept atKey
  rw [addFilter] at atKey
  split at atKey
  · exact own key kept atKey
  · rw [InsertionMap.get?_set] at atKey
    split at atKey
    · rename_i same
      cases atKey
      exact same.symm
    · exact own key kept atKey

theorem has_addFilter {key : FilterKey} (covered : found.has key = true ∨ filterKey filter = key) :
    (addFilter found filter).has key = true := by
  rw [addFilter]
  split
  · rename_i present
    rcases covered with already | same
    · exact already
    · exact same ▸ present
  · rw [InsertionMap.has, InsertionMap.get?_set]
    rcases covered with already | same
    · split
      · rfl
      · exact already
    · simp [same]

theorem coalesceFilters_cover (filters : List ContractSubscriptionFilter)
    (member : filter ∈ filters) :
    ∃ kept ∈ coalesceFilters filters, filterKey kept = filterKey filter := by
  have collected : ∀ (rest : List ContractSubscriptionFilter)
      (found : InsertionMap FilterKey ContractSubscriptionFilter), OwnKeys found →
      (found.has (filterKey filter) = true ∨ filter ∈ rest) →
        OwnKeys (rest.foldl addFilter found) ∧
          (rest.foldl addFilter found).has (filterKey filter) = true := by
    intro rest
    induction rest with
    | nil => exact fun found own covered => ⟨own, by simpa using covered⟩
    | cons head tail induction =>
        intro found own covered
        refine induction (addFilter found head) (ownKeys_addFilter own head) ?_
        rcases covered with already | listed
        · exact .inl (has_addFilter (.inl already))
        · rcases List.mem_cons.mp listed with same | later
          · exact .inl (has_addFilter (.inr (same ▸ rfl)))
          · exact .inr later
  have noKeys : OwnKeys .empty := by
    intro key kept atKey
    simp at atKey
  rcases collected filters .empty noKeys (.inr member) with ⟨own, covered⟩
  rcases InsertionMap.has_iff.mp covered with ⟨kept, atKey⟩
  refine ⟨kept, ?_, own _ kept atKey⟩
  exact List.mem_map.mpr ⟨(filterKey filter, kept), InsertionMap.get?_eq_some_iff.mp atKey, rfl⟩

variable {event : SorobanEvent Value} {pages : List (Page Value)} {options : Options}
  {history : List (SorobanEvent Value)} {position : Position Value} {rpc : Rpc Value}
  {meaning : FilterMeaning Value}

theorem rpcCalls_cover (meaning : FilterMeaning Value) (member : sub ∈ subscriptions)
    (admitted : meaning.admitsAny sub.filters event = true) :
    ∃ call ∈ rpcCalls subscriptions, meaning.admitsAny call event = true := by
  have someSubs : subscriptions.isEmpty = false := by
    cases subscriptions with
    | nil => cases member
    | cons head tail => rfl
  rw [rpcCalls]
  simp only [someSubs, Bool.false_eq_true, if_false]
  split
  · exact ⟨[], by simp, rfl⟩
  · rename_i noMatchAll
    have filtered : sub.filters.isEmpty = false := by
      cases empty : sub.filters.isEmpty with
      | false => rfl
      | true => exact absurd (List.any_eq_true.mpr ⟨sub, member, empty⟩) noMatchAll
    rw [FilterMeaning.admitsAny, filtered, Bool.false_or, List.any_eq_true] at admitted
    rcases admitted with ⟨filter, inSub, admits⟩
    rcases coalesceFilters_cover (subscriptions.flatMap fun sub => sub.filters)
      (List.mem_flatMap.mpr ⟨sub, member, inSub⟩) with ⟨kept, inUnique, sameKey⟩
    split
    · exact ⟨[], by simp, rfl⟩
    · rw [← flatten_filterBatches (coalesceFilters _)] at inUnique
      rcases List.mem_flatten.mp inUnique with ⟨batch, inBatches, inBatch⟩
      refine ⟨batch, inBatches, ?_⟩
      rw [FilterMeaning.admitsAny, Bool.or_eq_true]
      refine .inr (List.any_eq_true.mpr ⟨kept, inBatch, ?_⟩)
      rw [meaning.sameKey kept filter sameKey]
      exact admits

/-! ## Merging -/

theorem mem_mergePages (member : event ∈ mergePages options pages calls) :
    ∃ page ∈ pages, event ∈ page.events := by
  have collected : event ∈ (InsertionMap.empty.setAll
      ((pages.flatMap fun page => page.events).map fun event => (event.id, event))).values := by
    rw [mergePages] at member
    split at member
    · exact (List.mem_insertionSort _).mp member
    · exact member
  rcases List.mem_map.mp collected with ⟨entry, inMap, rfl⟩
  rcases InsertionMap.get?_setAll (InsertionMap.get?_eq_some_iff.mpr inMap) with before | written
  · simp at before
  · rcases List.mem_map.mp written with ⟨found, inPages, equal⟩
    have same : found = entry.2 := (Prod.mk.inj equal).2
    exact List.mem_flatMap.mp (same ▸ inPages)

theorem id_mem_mergePages (options : Options) (calls : Nat) (inPages : page ∈ pages)
    (inPage : event ∈ page.events) :
    ∃ merged ∈ mergePages options pages calls, merged.id = event.id := by
  let entries := (pages.flatMap fun page => page.events).map fun event => (event.id, event)
  let collected : InsertionMap String (SorobanEvent Value) := InsertionMap.empty.setAll entries
  have listed : event.id ∈ entries.map Prod.fst := by
    refine List.mem_map.mpr ⟨(event.id, event), ?_, rfl⟩
    exact List.mem_map.mpr ⟨event, List.mem_flatMap.mpr ⟨page, inPages, inPage⟩, rfl⟩
  have present : (collected.get? event.id).isSome :=
    InsertionMap.get?_setAll_isSome (.inr listed)
  rcases Option.isSome_iff_exists.mp present with ⟨merged, atId⟩
  have inValues : merged ∈ collected.values :=
    List.mem_map.mpr ⟨(event.id, merged), InsertionMap.get?_eq_some_iff.mp atId, rfl⟩
  refine ⟨merged, ?_, ?_⟩
  · rw [mergePages]
    split
    · exact (List.mem_insertionSort _).mpr inValues
    · exact inValues
  · rcases InsertionMap.get?_setAll atId with before | written
    · simp at before
    · rcases List.mem_map.mp written with ⟨found, _, equal⟩
      have parts := Prod.mk.inj equal
      rw [← parts.2]
      exact parts.1

/-! ## Delivery -/

def Dispatched (options : Options) (subscriber : Subscriber Value)
    (event : SorobanEvent Value) : Prop :=
  ∀ notice ∈ deliveries options subscriber.subscriptions event, notice ∈ subscriber.notices

def SeenOk (options : Options) (history : List (SorobanEvent Value))
    (subscriber : Subscriber Value) : Prop :=
  ∀ event ∈ history, event.id ∈ subscriber.seen → Dispatched options subscriber event

theorem Dispatched.mono {subscriber later : Subscriber Value}
    (dispatched : Dispatched options subscriber event)
    (subscriptions : later.subscriptions = subscriber.subscriptions)
    (notices : subscriber.notices ⊆ later.notices) : Dispatched options later event := by
  intro notice member
  rw [subscriptions] at member
  exact notices (dispatched notice member)

theorem mem_touchSeen (subscriber : Subscriber Value) (id other : String) :
    other ∈ (subscriber.touchSeen id).seen → other ∈ subscriber.seen := by
  rw [Subscriber.touchSeen]
  split
  · rename_i present
    intro member
    rcases List.mem_append.mp member with old | new
    · exact List.mem_of_mem_erase old
    · exact List.mem_singleton.mp new ▸ present
  · exact fun member => member

theorem mem_recordSeen (subscriber : Subscriber Value) (size : Nat) (id other : String) :
    other ∈ (subscriber.recordSeen size id).seen → other ∈ subscriber.seen ∨ other = id := by
  intro member
  rcases List.mem_append.mp (List.mem_of_mem_drop member) with old | new
  · exact .inl (List.mem_of_mem_erase old)
  · exact .inr (List.mem_singleton.mp new)

structure Delivered (options : Options) (history events : List (SorobanEvent Value))
    (before after : Subscriber Value) : Prop where
  running : after.isStopped = false
  subscriptions : after.subscriptions = before.subscriptions
  notices : before.notices ⊆ after.notices
  seen : SeenOk options history after
  dispatched : ∀ event ∈ events, Dispatched options after event

theorem deliverPage_live (live : options.endLedger = none)
    (distinct : (history.map fun event => event.id).Nodup) (events : List (SorobanEvent Value))
    (inHistory : events ⊆ history) (subscriber : Subscriber Value)
    (running : subscriber.isStopped = false) (seen : SeenOk options history subscriber) :
    (Subscriber.deliverPage options events subscriber).2 = true ∧
      Delivered options history events subscriber
        (Subscriber.deliverPage options events subscriber).1 := by
  induction events generalizing subscriber with
  | nil => exact ⟨rfl, running, rfl, List.Subset.refl _, seen, by simp⟩
  | cons event rest induction =>
      have eventInHistory : event ∈ history := inHistory List.mem_cons_self
      have restInHistory : rest ⊆ history := fun _ member =>
        inHistory (List.mem_cons_of_mem event member)
      have notEnd : reachesEnd options event = false := by simp [reachesEnd, live]
      -- Both branches go on with a subscriber that has dispatched the event.
      have step : ∀ next : Subscriber Value, next.isStopped = false →
          next.subscriptions = subscriber.subscriptions →
          subscriber.notices ⊆ next.notices → SeenOk options history next →
          Dispatched options next event →
          (Subscriber.deliverPage options rest next).2 = true ∧
            Delivered options history (event :: rest) subscriber
              (Subscriber.deliverPage options rest next).1 := by
        intro next nextRunning nextSubscriptions nextNotices nextSeen nextDispatched
        rcases induction restInHistory next nextRunning nextSeen with ⟨complete, delivered⟩
        refine ⟨complete, delivered.running, delivered.subscriptions.trans nextSubscriptions,
          fun _ member => delivered.notices (nextNotices member), delivered.seen, ?_⟩
        intro found member
        rcases List.mem_cons.mp member with head | tail
        · rw [head]
          exact nextDispatched.mono delivered.subscriptions delivered.notices
        · exact delivered.dispatched found tail
      rw [Subscriber.deliverPage]
      simp only [running, notEnd, Bool.false_eq_true, if_false]
      split
      · rename_i known
        have same : (subscriber.touchSeen event.id).subscriptions = subscriber.subscriptions ∧
            (subscriber.touchSeen event.id).notices = subscriber.notices ∧
            (subscriber.touchSeen event.id).isStopped = false := by
          rw [Subscriber.touchSeen]
          split <;> exact ⟨rfl, rfl, running⟩
        have notices : subscriber.notices ⊆ (subscriber.touchSeen event.id).notices := by
          rw [same.2.1]
          exact List.Subset.refl _
        refine step _ same.2.2 same.1 notices ?_ ?_
        · intro found member inSeen
          exact (seen found member (mem_touchSeen subscriber _ _ inSeen)).mono same.1 notices
        · exact (seen event eventInHistory known).mono same.1 notices
      · have notices : subscriber.notices ⊆
            ((subscriber.delivered options event).recordSeen options.dedupCacheSize
              event.id).notices := List.subset_append_left _ _
        have dispatched : Dispatched options ((subscriber.delivered options event).recordSeen
            options.dedupCacheSize event.id) event :=
          fun notice member => List.mem_append_right _ member
        refine step _ running rfl notices ?_ dispatched
        intro found member inSeen
        rcases mem_recordSeen _ _ _ _ inSeen with old | new
        · exact (seen found member old).mono rfl notices
        · have same : found = event := List.inj_on_of_nodup_map distinct member eventInHistory new
          exact same ▸ dispatched

/-! ## One poll -/

def Position.merged (options : Options) (position : Position Value) (rpc : Rpc Value) :
    List (SorobanEvent Value) :=
  mergePages options (position.pages options rpc) (position.pages options rpc).length

/-- An event with this token is at or before the cursor the pages lead to: the
first one a page reports, else the last token returned. -/
def passedBy (pages : List (Page Value)) (event : SorobanEvent Value) : Bool :=
  match pages.findSome? fun page => page.cursor with
  | some cursor => decide (event.pagingToken ≤ cursor)
  | none => pages.any fun page => page.events.any fun returned =>
      decide (event.pagingToken ≤ returned.pagingToken)

def wanted (meaning : FilterMeaning Value) (subscriptions : List SorobanSubscription)
    (event : SorobanEvent Value) : Bool :=
  subscriptions.any fun sub => meaning.admitsAny sub.filters event

def nothingSkipped (meaning : FilterMeaning Value) (options : Options)
    (history : List (SorobanEvent Value)) (position : Position Value) (rpc : Rpc Value) : Bool :=
  let pages := position.pages options rpc
  history.all fun event =>
    !(wanted meaning position.subscriber.subscriptions event &&
        afterCursor position.stored event && passedBy pages event) ||
      pages.any fun page => page.events.any fun returned => decide (returned.id = event.id)

/-- A poller, and what the pages have had so far. -/
structure Polled (Value : Type) where
  position : Position Value
  returned : List (SorobanEvent Value)

namespace Polled

variable (options : Options) (polled : Polled Value) (rpc : Rpc Value)

def answers : List (SorobanEvent Value) :=
  (polled.position.pages options rpc).flatMap fun page => page.events

def poll : Polled Value where
  position := SorobanSubscriber.poll options polled.position rpc
  returned := polled.returned ++ polled.answers options rpc

def bringsNew : Bool :=
  (polled.answers options rpc).any fun event =>
    !polled.returned.any fun returned => returned.id = event.id

def cutsOff (meaning : FilterMeaning Value) (history : List (SorobanEvent Value)) : Bool :=
  (polled.position.requests options rpc).any fun request =>
    (eligible meaning history request).any fun event =>
      !(polled.poll options rpc).returned.any fun returned => returned.id = event.id

/-- A poll skips nothing, and if its pages are cut off they have something new. -/
def KeepsUp (meaning : FilterMeaning Value) (history : List (SorobanEvent Value)) : Prop :=
  nothingSkipped meaning options history polled.position rpc = true ∧
    (polled.cutsOff options rpc meaning history = true → polled.bringsNew options rpc = true)

variable {options polled rpc}

theorem returned_of_answers (nothingNew : polled.bringsNew options rpc = false)
    (answered : event ∈ polled.answers options rpc) :
    ∃ returned ∈ polled.returned, returned.id = event.id := by
  have notNew := List.any_eq_false.mp nothingNew event answered
  rw [Bool.not_eq_true, Bool.not_eq_false', List.any_eq_true] at notNew
  rcases notNew with ⟨returned, member, sameId⟩
  exact ⟨returned, member, of_decide_eq_true sameId⟩

/-- A poll that keeps up and brings nothing new leaves nothing behind that it asks for. -/
theorem KeepsUp.returned (keepsUp : polled.KeepsUp options rpc meaning history)
    (nothingNew : polled.bringsNew options rpc = false) {request : EventsRequest}
    (requested : request ∈ polled.position.requests options rpc)
    (isEligible : event ∈ eligible meaning history request) :
    ∃ returned ∈ polled.returned, returned.id = event.id := by
  have notCut : polled.cutsOff options rpc meaning history = false := by
    apply Bool.eq_false_of_not_eq_true
    intro cut
    rw [keepsUp.2 cut] at nothingNew
    cases nothingNew
  have known := List.any_eq_false.mp (Bool.eq_false_iff.mpr
    (List.any_eq_false.mp notCut request requested)) event isEligible
  rw [Bool.not_eq_true, Bool.not_eq_false', List.any_eq_true] at known
  rcases known with ⟨found, isReturned, sameId⟩
  have sameEvent : found.id = event.id := of_decide_eq_true sameId
  rcases List.mem_append.mp isReturned with old | now
  · exact ⟨found, old, sameEvent⟩
  · rcases returned_of_answers nothingNew now with ⟨old, inOld, oldId⟩
    exact ⟨old, inOld, oldId.trans sameEvent⟩

end Polled

structure CaughtUp (meaning : FilterMeaning Value) (options : Options)
    (history : List (SorobanEvent Value)) (start : Position Value)
    (polled : Polled Value) : Prop where
  running : polled.position.subscriber.isStopped = false
  subscriptions : polled.position.subscriber.subscriptions = start.subscriber.subscriptions
  seen : SeenOk options history polled.position.subscriber
  returned : ∀ event ∈ polled.returned,
    event ∈ history ∧ Dispatched options polled.position.subscriber event
  behind : ∀ event ∈ history, wanted meaning start.subscriber.subscriptions event = true →
    afterCursor start.stored event = true → afterCursor polled.position.stored event = false →
      Dispatched options polled.position.subscriber event

theorem mem_pages_of_request (member : page ∈ position.pages options rpc) :
    ∃ request ∈ position.requests options rpc, page = rpc.getEvents request := by
  rcases List.mem_map.mp member with ⟨request, isRequest, rfl⟩
  exact ⟨request, isRequest, rfl⟩

theorem Serves.inHistory (serves : Serves meaning history rpc) (request : EventsRequest) :
    (rpc.getEvents request).events ⊆ history := by
  rcases serves.page request with ⟨count, _, equal⟩
  intro event member
  rw [equal] at member
  exact (List.mem_filter.mp (List.mem_of_mem_take member)).1

theorem noteReconnected_keeps (subscriber : Subscriber Value) :
    ((noteReconnected subscriber).isStopped = subscriber.isStopped ∧
      (noteReconnected subscriber).subscriptions = subscriber.subscriptions ∧
      (noteReconnected subscriber).seen = subscriber.seen) ∧
    subscriber.notices ⊆ (noteReconnected subscriber).notices := by
  rw [noteReconnected]
  split
  · exact ⟨⟨rfl, rfl, rfl⟩, List.subset_append_left _ _⟩
  · exact ⟨⟨rfl, rfl, rfl⟩, List.Subset.refl _⟩

theorem ready_keeps (rpc : Rpc Value) (options : Options) (cursor : Option String)
    (subscriber : Subscriber Value) :
    (subscriber.ready options rpc cursor).isStopped = subscriber.isStopped ∧
      (subscriber.ready options rpc cursor).subscriptions = subscriber.subscriptions ∧
      (subscriber.ready options rpc cursor).seen = subscriber.seen ∧
      (subscriber.ready options rpc cursor).notices = subscriber.notices := by
  rw [Subscriber.ready]
  split <;> exact ⟨rfl, rfl, rfl, rfl⟩

theorem next_live (live : options.endLedger = none)
    (distinct : (history.map fun event => event.id).Nodup)
    (inHistory : position.merged options rpc ⊆ history)
    (running : position.subscriber.isStopped = false)
    (seen : SeenOk options history position.subscriber) :
    Delivered options history (position.merged options rpc) position.subscriber
        (position.next options rpc).subscriber ∧
      (position.next options rpc).stored = (nextCursor (position.pages options rpc)
        (position.merged options rpc)).or position.stored := by
  have notReplay : options.isReplayMode = false := by simp [Options.isReplayMode, live]
  let connected := noteReconnected
    (position.subscriber.ready options rpc (position.cursor options))
  have kept : connected.isStopped = false ∧
      connected.subscriptions = position.subscriber.subscriptions ∧
      connected.seen = position.subscriber.seen ∧
      position.subscriber.notices ⊆ connected.notices := by
    have ready := ready_keeps rpc options (position.cursor options) position.subscriber
    rcases noteReconnected_keeps
      (position.subscriber.ready options rpc (position.cursor options)) with ⟨same, grown⟩
    refine ⟨?_, ?_, ?_, ?_⟩
    · rw [same.1, ready.1, running]
    · rw [same.2.1, ready.2.1]
    · rw [same.2.2, ready.2.2.1]
    · rw [← ready.2.2.2]
      exact grown
  have seenPolling : SeenOk options history { connected with isPolling := true } := by
    intro event member inSeen
    rw [kept.2.2.1] at inSeen
    exact (seen event member inSeen).mono kept.2.1 kept.2.2.2
  rcases deliverPage_live live distinct _ inHistory { connected with isPolling := true }
    kept.1 seenPolling with ⟨complete, delivered⟩
  have next : position.next options rpc =
      { stored := (nextCursor (position.pages options rpc) (position.merged options rpc)).or
          position.stored
        subscriber := { (Subscriber.deliverPage options (position.merged options rpc)
          { connected with isPolling := true }).1 with isPolling := false } } := by
    rw [Position.merged] at complete ⊢
    rw [Position.next, Position.process]
    simp only [notReplay, Bool.false_and, Bool.false_eq_true, if_false]
    rw [if_pos complete]
    cases nextCursor (position.pages options rpc) (mergePages options
      (position.pages options rpc) (position.pages options rpc).length) with
    | none => rfl
    | some cursor =>
        simp only [Position.saveCursor, notReplay, Bool.false_eq_true, if_false]
        rfl
  rw [next]
  refine ⟨⟨delivered.running, delivered.subscriptions.trans kept.2.1, ?_, ?_, ?_⟩, rfl⟩
  · exact fun _ member => delivered.notices (kept.2.2.2 member)
  · exact delivered.seen
  · exact delivered.dispatched

/-- The saved cursor passes nothing `passedBy` does not. -/
theorem passedBy_of_nextCursor {stored : Option String}
    (passed : afterCursor ((nextCursor pages (mergePages options pages calls)).or stored) event =
      false) :
    afterCursor stored event = false ∨ passedBy pages event = true := by
  rw [nextCursor] at passed
  rw [passedBy]
  cases reported : pages.findSome? fun page => page.cursor with
  | some cursor =>
      right
      rw [reported, Option.some_or, Option.some_or] at passed
      exact decide_eq_true (not_afterCursor.mp passed)
  | none =>
      cases last : (mergePages options pages calls).getLast? with
      | none =>
          left
          simpa [reported, last] using passed
      | some lastEvent =>
          right
          rcases mem_mergePages (List.mem_of_getLast? last) with ⟨page, inPages, inPage⟩
          rw [reported, last, Option.none_or, Option.map_some, Option.some_or] at passed
          have bound : event.pagingToken ≤ lastEvent.pagingToken := not_afterCursor.mp passed
          refine List.any_eq_true.mpr ⟨page, inPages, ?_⟩
          exact List.any_eq_true.mpr ⟨lastEvent, inPage, decide_eq_true bound⟩

theorem CaughtUp.poll {start : Position Value} {polled : Polled Value}
    (caughtUp : CaughtUp meaning options history start polled) (live : options.endLedger = none)
    (distinct : (history.map fun event => event.id).Nodup) (serves : Serves meaning history rpc)
    (complete : nothingSkipped meaning options history polled.position rpc = true) :
    CaughtUp meaning options history start (polled.poll options rpc) := by
  have pageInHistory : ∀ page ∈ polled.position.pages options rpc, page.events ⊆ history := by
    intro page member
    rcases mem_pages_of_request member with ⟨request, _, rfl⟩
    exact serves.inHistory request
  have merged : polled.position.merged options rpc ⊆ history := by
    intro event member
    rcases mem_mergePages member with ⟨page, inPages, inPage⟩
    exact pageInHistory page inPages inPage
  rcases next_live live distinct merged caughtUp.running caughtUp.seen with ⟨delivered, stored⟩
  -- Of events with one id the merge keeps one, which is the event of the history.
  have answered : ∀ page ∈ polled.position.pages options rpc, ∀ event ∈ page.events,
      event ∈ history ∧
        Dispatched options (polled.position.next options rpc).subscriber event := by
    intro page inPages event inPage
    have member := pageInHistory page inPages inPage
    refine ⟨member, ?_⟩
    rcases id_mem_mergePages options (polled.position.pages options rpc).length inPages inPage with
      ⟨kept, isMerged, keptId⟩
    have same : kept = event :=
      List.inj_on_of_nodup_map distinct (merged isMerged) member keptId
    exact delivered.dispatched event (same ▸ isMerged)
  rw [Polled.poll, poll_eq]
  refine ⟨delivered.running, delivered.subscriptions.trans caughtUp.subscriptions,
    delivered.seen, ?_, ?_⟩
  · intro event member
    rcases List.mem_append.mp member with before | now
    · rcases caughtUp.returned event before with ⟨inHistory, dispatched⟩
      exact ⟨inHistory, dispatched.mono delivered.subscriptions delivered.notices⟩
    · rcases List.mem_flatMap.mp now with ⟨page, inPages, inPage⟩
      exact answered page inPages event inPage
  · intro event member isWanted inScope passed
    rw [stored] at passed
    cases already : afterCursor polled.position.stored event with
    | false =>
        exact (caughtUp.behind event member isWanted inScope already).mono
          delivered.subscriptions delivered.notices
    | true =>
        have isPassed : passedBy (polled.position.pages options rpc) event = true := by
          rcases passedBy_of_nextCursor passed with before | now
          · simp [already] at before
          · exact now
        have returned := List.all_eq_true.mp complete event member
        rw [caughtUp.subscriptions, isWanted, already, isPassed] at returned
        simp only [Bool.and_self, Bool.not_true, Bool.false_or, List.any_eq_true,
          decide_eq_true_eq] at returned
        rcases returned with ⟨page, inPages, found, inPage, sameId⟩
        rcases answered page inPages found inPage with ⟨inHistory, dispatched⟩
        have same : found = event := List.inj_on_of_nodup_map distinct inHistory member sameId
        exact same ▸ dispatched

/-- Some call of a poll asks for every wanted event that is still to come. -/
theorem request_for_wanted (rpc : Rpc Value) (live : options.endLedger = none) (member : event ∈ history)
    (isWanted : wanted meaning position.subscriber.subscriptions event = true)
    (pending : afterCursor position.stored event = true) :
    ∃ request ∈ position.requests options rpc, event ∈ eligible meaning history request := by
  rcases List.any_eq_true.mp isWanted with ⟨sub, subscribed, admitted⟩
  rcases rpcCalls_cover meaning subscribed admitted with ⟨call, isCall, callAdmits⟩
  let request := fetchEvents options (position.subscriber.ready options rpc
    (position.cursor options)).startLedger (position.cursor options) call
  refine ⟨request, ?_, ?_⟩
  · refine List.mem_map.mpr ⟨call, ?_, rfl⟩
    rw [ready_subscriptions]
    exact isCall
  · have cursor : request.cursor = position.stored := by
      simp only [request, fetchEvents, Position.cursor, Options.isReplayMode, live]
      split <;> rfl
    have filters : request.filters = call := by
      simp only [request, fetchEvents]
      split <;> rfl
    refine List.mem_filter.mpr ⟨member, ?_⟩
    rw [cursor, filters, pending, callAdmits]
    rfl

/-! ## Runs of polls -/

theorem mem_handlers (meaning : FilterMeaning Value) (options : Options) {name : String}
    (member : sub ∈ subscriptions) (admitted : meaning.admitsAny sub.filters event = true)
    (handler : sub.onEvent.or options.onEvent = some name) :
    name ∈ handlers options subscriptions event := by
  have matched : eventMatchesSubscription event sub = true := by
    rw [FilterMeaning.admitsAny, Bool.or_eq_true] at admitted
    rw [eventMatchesSubscription, Bool.or_eq_true]
    rcases admitted with noFilters | byFilter
    · exact .inl noFilters
    · rcases List.any_eq_true.mp byFilter with ⟨filter, inSub, admits⟩
      exact .inr (List.any_eq_true.mpr ⟨filter, inSub, meaning.contract filter event admits⟩)
  rw [handlers]
  split
  · rename_i none
    simp [List.isEmpty_iff.mp none] at member
  · exact List.mem_filterMap.mpr ⟨sub, member, by simp [matched, handler]⟩

/-- Where every poll keeps up and the polling goes on until one returns nothing new, every event
behind the starting cursor that matches a subscription has been given to the handler of that
subscription. -/
theorem polls_lose_nothing (meaning : FilterMeaning Value) (options : Options)
    (history : List (SorobanEvent Value)) (subscriptions : List SorobanSubscription)
    (stored : Option String) (startLedger : Option Nat) (rpcs : List (Rpc Value))
    (final : Polled Value) (last : Rpc Value)
    (live : options.endLedger = none)
    (distinct : (history.map fun event => event.id).Nodup)
    (serves : ∀ rpc ∈ rpcs, Serves meaning history rpc)
    (run : Trace (Guarded (fun polled rpc => polled.KeepsUp options rpc meaning history)
        (Takes fun polled rpc => some (polled.poll options rpc)))
      ⟨{ stored, subscriber := { Subscriber.new startLedger with subscriptions } }, []⟩ rpcs final)
    (keepsUp : final.KeepsUp options last meaning history)
    (nothingNew : final.bringsNew options last = false)
    (event : SorobanEvent Value) (member : event ∈ history)
    (inScope : afterCursor stored event = true)
    (sub : SorobanSubscription) (subscribed : sub ∈ subscriptions)
    (admitted : meaning.admitsAny sub.filters event = true)
    (name : String) (handler : sub.onEvent.or options.onEvent = some name) :
    .onEvent name (eventToEmit options event) ∈ final.position.subscriber.notices := by
  let start : Position Value :=
    { stored, subscriber := { Subscriber.new startLedger with subscriptions } }
  have initially : CaughtUp meaning options history start ⟨start, []⟩ := by
    refine ⟨rfl, rfl, ?_, ?_, ?_⟩
    · intro found _ inSeen
      simp [start, Subscriber.new] at inSeen
    · exact fun _ none => absurd none List.not_mem_nil
    · intro found _ _ after before
      simp [after] at before
  have caughtUp : CaughtUp meaning options history start final := by
    refine (run.guarded serves).invariant
      (motive := fun polled => CaughtUp meaning options history start polled) ?_ initially
    rintro current rpc next holds ⟨rpcServes, keeps, taken⟩
    cases taken
    exact holds.poll live distinct rpcServes keeps.1
  have isWanted : wanted meaning start.subscriber.subscriptions event = true :=
    List.any_eq_true.mpr ⟨sub, subscribed, admitted⟩
  have dispatched : Dispatched options final.position.subscriber event := by
    cases pending : afterCursor final.position.stored event with
    | false => exact caughtUp.behind event member isWanted inScope pending
    | true =>
        -- Some call asks for the event, and its page was not cut off.
        have stillWanted : wanted meaning final.position.subscriber.subscriptions event = true := by
          rw [caughtUp.subscriptions]
          exact isWanted
        rcases request_for_wanted last live member stillWanted pending with
          ⟨request, requested, isEligible⟩
        rcases keepsUp.returned nothingNew requested isEligible with ⟨old, inOld, oldId⟩
        rcases caughtUp.returned old inOld with ⟨inHistory, isDispatched⟩
        exact List.inj_on_of_nodup_map distinct inHistory member oldId ▸ isDispatched
  apply dispatched
  rw [caughtUp.subscriptions]
  exact List.mem_map.mpr ⟨name, mem_handlers meaning options subscribed admitted handler, rfl⟩

/-! ## Two batches of filters over one ledger -/

def sixContracts : List SorobanSubscription :=
  ["C1", "C2", "C3", "C4", "C5", "C6"].map fun contractId =>
    { id := contractId, filters := [contractFilter contractId], onEvent := some contractId }

def twoBatchHistory : List (SorobanEvent Unit) :=
  [eventOf "C6" "0001" 1, eventOf "C6" "0002" 2, eventOf "C1" "0003" 3]

theorem twoBatchHistory_ordered : twoBatchHistory.Pairwise fun first second =>
    first.pagingToken < second.pagingToken := by
  decide

def onePerPage : Options :=
  { Options.default with pageLimit := { value := 1, atLeast := by decide, atMost := by decide } }

def evenHistory : List (SorobanEvent Unit) :=
  [eventOf "C1" "0001" 1, eventOf "C6" "0002" 2, eventOf "C1" "0003" 3, eventOf "C6" "0004" 4]

theorem evenHistory_ordered : evenHistory.Pairwise fun first second =>
    first.pagingToken < second.pagingToken := by
  decide

/-- With one event a page and the batches taking turns, three polls deliver all four events and
the fourth has nothing new. -/
theorem polls_lose_nothing_turns :
    ∃ final : Polled Unit,
      Trace (Takes fun (polled : Polled Unit) rpc => some (polled.poll onePerPage rpc))
        ⟨{ stored := none, subscriber := { Subscriber.new none with
            subscriptions := sixContracts } }, []⟩
        (List.replicate 3 (fullPages contractMeaning evenHistory)) final ∧
      .onEvent "C6" (eventToEmit onePerPage (eventOf "C6" "0004" 4)) ∈
        final.position.subscriber.notices := by
  have run : Trace (Guarded
        (fun (polled : Polled Unit) rpc => polled.KeepsUp onePerPage rpc contractMeaning evenHistory)
        (Takes fun polled rpc => some (polled.poll onePerPage rpc)))
      ⟨{ stored := none, subscriber := { Subscriber.new none with
          subscriptions := sixContracts } }, []⟩
      (List.replicate 3 (fullPages contractMeaning evenHistory)) _ :=
    .cons ⟨⟨by decide, fun _ => by decide⟩, rfl⟩
      (.cons ⟨⟨by decide, fun _ => by decide⟩, rfl⟩
        (.single ⟨⟨by decide, fun _ => by decide⟩, rfl⟩))
  have serves := fullPages_serves contractMeaning evenHistory_ordered
  refine ⟨_, run.mono fun _ _ _ step => step.2, ?_⟩
  exact polls_lose_nothing contractMeaning onePerPage evenHistory sixContracts none none
    _ _ (fullPages contractMeaning evenHistory) rfl (by decide)
    (fun _ member => List.eq_of_mem_replicate member ▸ serves) run ⟨by decide, by decide⟩
    (by decide) (eventOf "C6" "0004" 4) (by decide) rfl
    { id := "C6", filters := [contractFilter "C6"], onEvent := some "C6" } (by decide) (by decide)
    "C6" rfl

/-- With one event a page, the first batch's cursor passes the second event of
the other batch, which no poll returns any more. -/
theorem shared_cursor_skips_event :
    ∃ final : Position Unit,
      Trace (Takes fun position rpc => some (poll onePerPage position rpc))
        { stored := none, subscriber := { Subscriber.new none with
            subscriptions := sixContracts } }
        [fullPages contractMeaning twoBatchHistory] final ∧
      Serves contractMeaning twoBatchHistory (fullPages contractMeaning twoBatchHistory) ∧
      (∀ page ∈ final.pages onePerPage (fullPages contractMeaning twoBatchHistory),
        page.events = []) ∧
      eventOf "C6" "0002" 2 ∈ twoBatchHistory ∧
      ∀ notice ∈ final.subscriber.notices,
        notice ≠ .onEvent "C6" (eventToEmit onePerPage (eventOf "C6" "0002" 2)) :=
  ⟨_, .single rfl, fullPages_serves contractMeaning twoBatchHistory_ordered, by decide, by decide,
    by decide⟩

end Orbital.PulseCore.SorobanSubscriber
