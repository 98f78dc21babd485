import Orbital.PulseCore.EventEngine.PauseResume

/-! # A movement seen on both transports

`route` notes an event in the dedupe window before it looks whether the source is
paused. The copy that comes in on the other transport is suppressed, also when the
first one was discarded or a listener kept it from its watchers.
-/

namespace Orbital.PulseCore

open Orbital.Foundation

namespace DedupeWindow

variable {window : DedupeWindow} {key : String} {transport : DedupeTransport}

theorem suppressed_entry (suppressed : (window.seenFrom key transport).1 = true) :
    ∃ transports, window.seen.get? key = some transports ∧ transport ∉ transports := by
  unfold DedupeWindow.seenFrom at suppressed
  split at suppressed
  · cases suppressed
  · rename_i transports present
    split at suppressed
    · cases suppressed
    · rename_i isNew
      exact ⟨transports, present, by simpa using isNew⟩

theorem not_suppressed_of_absent (absent : window.seen.get? key = none) :
    (window.seenFrom key transport).1 = false := by
  unfold DedupeWindow.seenFrom
  rw [absent]

end DedupeWindow

namespace EventEngine

variable {Value : Type}

namespace EventQueue

variable {options : QueueOptions} {router : Router Value} {queue next : EventQueue Value}
  {routed : List (Routed Value)}

/-! ## When a movement is kept -/

/-- The first copy of a movement that comes to `route` finds its source open, and no
listener throws that another one comes after. -/
def keepsMovement (router : Router Value) (throws : Emission → Bool) (queue : EventQueue Value)
    (item : QueuedEvent Value) : Bool :=
  match item.dedupe with
  | none => true
  | some dedupe =>
      (queue.dedupeWindow.seen.get? dedupe.key).isSome ||
        (decide (sourceOf item.event ∉ queue.pausedSources) &&
          callsAll throws (router.registrations.fanOut item.event))

/-! ## The invariant -/

def DeliveredOn (router : Router Value) (queue : EventQueue Value) (routed : List (Routed Value))
    (key : String) (transport : DedupeTransport) : Prop :=
  ∃ call ∈ routed, call.verdict = .fannedOut ∧ call.item.dedupe = some { key, transport } ∧
    { event := call.item.event
      delivered := call.item.event
      emissions := router.registrations.fanOut call.item.event } ∈ queue.dispatched

def SuppressedDelivered (router : Router Value) (queue : EventQueue Value)
    (routed : List (Routed Value)) : Prop :=
  ∀ call ∈ routed, call.verdict = .suppressed →
    ∃ dedupe transport, call.item.dedupe = some dedupe ∧ transport ≠ dedupe.transport ∧
      DeliveredOn router queue routed dedupe.key transport

def Keyed (item : QueuedEvent Value) : Prop :=
  item.dedupe.isSome → NormalizedEvent.mayHaveKey item.event = true

structure MovementsKept (router : Router Value) (queue : EventQueue Value)
    (routed : List (Routed Value)) : Prop where
  suppressed : SuppressedDelivered router queue routed
  window : ∀ key transports, queue.dedupeWindow.seen.get? key = some transports →
    ∃ first rest, transports = first :: rest ∧ DeliveredOn router queue routed key first
  keyed : ∀ item ∈ queue.eventQueue, Keyed item

theorem initial_movementsKept : MovementsKept router (initial : EventQueue Value) [] where
  suppressed := fun _ member => absurd member List.not_mem_nil
  window := fun _ _ found => nomatch found
  keyed := fun _ member => absurd member List.not_mem_nil

theorem DeliveredOn.mono {key : String} {transport : DedupeTransport} {more : List (Routed Value)}
    (delivered : DeliveredOn router queue routed key transport)
    (grows : queue.dispatched ⊆ next.dispatched) :
    DeliveredOn router next (routed ++ more) key transport := by
  rcases delivered with ⟨call, member, isOut, isCopy, dispatched⟩
  exact ⟨call, List.mem_append_left _ member, isOut, isCopy, grows dispatched⟩

theorem MovementsKept.moveOn (holds : MovementsKept router queue routed)
    (grows : queue.dispatched ⊆ next.dispatched)
    (sameWindow : next.dedupeWindow = queue.dedupeWindow)
    (keyed : ∀ item ∈ next.eventQueue, Keyed item) : MovementsKept router next routed where
  suppressed := by
    intro call member isSuppressed
    rcases holds.suppressed call member isSuppressed with
      ⟨dedupe, transport, isRef, isOther, delivered⟩
    have still : DeliveredOn router next (routed ++ []) _ _ := delivered.mono grows
    exact ⟨dedupe, transport, isRef, isOther, by simpa using still⟩
  window := by
    intro key transports found
    rw [sameWindow] at found
    rcases holds.window key transports found with ⟨first, rest, isFirst, delivered⟩
    have still : DeliveredOn router next (routed ++ []) _ _ := delivered.mono grows
    exact ⟨first, rest, isFirst, by simpa using still⟩
  keyed := keyed

/-! ### Routing an event -/

theorem route_dedupeWindow (router : Router Value) (throws : Emission → Bool)
    (queue : EventQueue Value) (item : QueuedEvent Value) :
    (queue.route router throws item).dedupeWindow = (queue.seen item).2 := by
  rw [route]
  split
  · rfl
  · split
    · rfl
    · exact (fanOut_frame router throws _ _).2.2.2

theorem route_dispatched (router : Router Value) (throws : Emission → Bool)
    (queue : EventQueue Value) (item : QueuedEvent Value) :
    queue.dispatched ⊆ (queue.route router throws item).dispatched := by
  rw [route]
  split
  · exact List.Subset.refl _
  · split
    · exact List.Subset.refl _
    · rw [EventQueue.fanOut]
      split
      · exact List.Subset.refl _
      · exact List.subset_append_left _ _

theorem looksUp_of_mayHaveKey {event : NormalizedEvent Value}
    (keyed : NormalizedEvent.mayHaveKey event = true) : looksUp router event = none := by
  cases event with
  | classic event payload => rfl
  | contract event => cases keyed

variable {throws : Emission → Bool} {item : QueuedEvent Value}

theorem route_first {dedupe : DedupeRef} (isRef : item.dedupe = some dedupe) (keyed : Keyed item)
    (isFirst : queue.dedupeWindow.seen.get? dedupe.key = none)
    (kept : queue.keepsMovement router throws item = true) :
    queue.verdict item = .fannedOut ∧
      { event := item.event
        delivered := item.event
        emissions := router.registrations.fanOut item.event } ∈
          (queue.route router throws item).dispatched := by
  rw [keepsMovement, isRef] at kept
  simp only [isFirst, Option.isSome_none, Bool.false_or, Bool.and_eq_true,
    decide_eq_true_eq] at kept
  have notSeen : (queue.seen item).1 = false := by
    rw [seen, isRef]
    exact DedupeWindow.not_suppressed_of_absent isFirst
  have classic : looksUp router item.event = none :=
    looksUp_of_mayHaveKey (keyed (by simp [isRef]))
  constructor
  · rw [verdict, if_neg (ne_true_of_eq_false notSeen), if_neg kept.1]
  · rw [route, if_neg (ne_true_of_eq_false notSeen), if_neg kept.1, EventQueue.fanOut, classic]
    simp only [dispatch]
    rw [callsAll_iff.mp kept.2]
    exact List.mem_append_right _ (List.mem_singleton.mpr rfl)

theorem MovementsKept.windowBehind (holds : MovementsKept router queue routed) (queued : Bool)
    (keyed : Keyed item) (kept : queue.keepsMovement router throws item = true) (key : String)
    (transports : List DedupeTransport)
    (found : (queue.seen item).2.seen.get? key = some transports) :
    ∃ first rest, transports = first :: rest ∧
      DeliveredOn router (queue.route router throws item)
        (routed ++ [{ item, queued, verdict := queue.verdict item }]) key first := by
  have grows := route_dispatched router throws queue item
  have before : queue.dedupeWindow.seen.get? key = some transports →
      ∃ first rest, transports = first :: rest ∧
        DeliveredOn router (queue.route router throws item)
          (routed ++ [{ item, queued, verdict := queue.verdict item }]) key first := by
    intro wasFound
    rcases holds.window key transports wasFound with ⟨first, rest, isFirst, delivered⟩
    exact ⟨first, rest, isFirst, delivered.mono grows⟩
  cases isRef : item.dedupe with
  | none =>
      rw [seen, isRef] at found
      exact before found
  | some dedupe =>
      rw [seen, isRef] at found
      rcases DedupeWindow.seenFrom_entry found with wasFound | ⟨rfl, written⟩
      · exact before wasFound
      · cases old : queue.dedupeWindow.seen.get? dedupe.key with
        | none =>
            rcases route_first isRef keyed old kept with ⟨isOut, dispatched⟩
            rw [old, Option.getD_none, List.nil_append] at written
            refine ⟨dedupe.transport, [], written, _, List.mem_append_right _
              (List.mem_singleton.mpr rfl), isOut, isRef, dispatched⟩
        | some others =>
            rcases holds.window dedupe.key others old with ⟨first, rest, isFirst, delivered⟩
            rw [old, Option.getD_some, isFirst] at written
            exact ⟨first, rest ++ [dedupe.transport], written, delivered.mono grows⟩

theorem MovementsKept.route (holds : MovementsKept router queue routed) (queued : Bool)
    (keyed : Keyed item) (kept : queue.keepsMovement router throws item = true) :
    MovementsKept router (queue.route router throws item)
      (routed ++ [{ item, queued, verdict := queue.verdict item }]) where
  suppressed := by
    have grows := route_dispatched router throws queue item
    intro call member isSuppressed
    rcases List.mem_append.mp member with earlier | isCall
    · rcases holds.suppressed call earlier isSuppressed with
        ⟨dedupe, transport, isRef, isOther, delivered⟩
      exact ⟨dedupe, transport, isRef, isOther, delivered.mono grows⟩
    · rw [List.mem_singleton.mp isCall] at isSuppressed ⊢
      have isSeen : (queue.seen item).1 = true := by
        simp only [verdict] at isSuppressed
        split at isSuppressed
        · assumption
        · split at isSuppressed
          · cases isSuppressed
          · cases isSuppressed
      cases isRef : item.dedupe with
      | none =>
          rw [seen, isRef] at isSeen
          cases isSeen
      | some dedupe =>
          rw [seen, isRef] at isSeen
          rcases DedupeWindow.suppressed_entry isSeen with ⟨transports, found, isNew⟩
          rcases holds.window dedupe.key transports found with ⟨first, rest, isFirst, delivered⟩
          refine ⟨dedupe, first, rfl, ?_, delivered.mono grows⟩
          rintro rfl
          exact isNew (isFirst ▸ List.mem_cons_self)
  window := by
    rw [route_dedupeWindow]
    exact holds.windowBehind queued keyed kept
  keyed := by
    rw [(route_frame router throws queue item).1]
    exact holds.keyed

end EventQueue

namespace Transports

variable {options : QueueOptions} {router : EventQueue.Router Value}
  {transports next : Transports Value}

/-! ## Runs -/

def keepsMovement (router : EventQueue.Router Value) (transports : Transports Value) :
    Event Value → Bool
  | .dispatchUnifiedEvent event dedupeKey throws =>
      transports.queue.keepsMovement router throws (unifiedItem event dedupeKey)
  | .goOn (.routeNext throws) =>
      transports.queue.eventQueue.head?.all (transports.queue.keepsMovement router throws)
  | _ => true

def MovementsKept (router : EventQueue.Router Value) (transports : Transports Value) : Prop :=
  EventQueue.MovementsKept router transports.queue transports.routed

theorem MovementsKept.onmessage (holds : MovementsKept router transports)
    (cursor : Option String) {event : Option (NormalizedEvent Value)} {dedupeKey : Option String}
    (keyed : dedupeKey.isSome → event.any NormalizedEvent.mayHaveKey = true)
    (noticeThrows : Bool) :
    MovementsKept router (transports.onmessage options cursor event dedupeKey noticeThrows) := by
  cases event with
  | none => exact holds
  | some event =>
      rcases EventQueue.enqueueEvent_frame options transports.queue
        (EventQueue.recordOf event dedupeKey) noticeThrows with ⟨sameDispatched, _, sameWindow⟩
      apply EventQueue.MovementsKept.moveOn holds (sameDispatched ▸ List.Subset.refl _) sameWindow
      intro item member
      rcases EventQueue.enqueueEvent_cases options transports.queue
        (EventQueue.recordOf event dedupeKey) noticeThrows with
        ⟨_, sameQueue⟩ | ⟨_, _, kept, isKept, queued⟩
      · exact holds.keyed item (sameQueue ▸ member)
      · simp only [queued] at member
        rcases List.mem_append.mp member with before | isNew
        · exact holds.keyed item (isKept.subset before)
        · rw [List.mem_singleton.mp isNew]
          intro hasKey
          exact keyed (by simpa [EventQueue.recordOf] using hasKey)

variable {event : EventQueue.Event Value} {queue : EventQueue Value}

theorem MovementsKept.moveOn (holds : MovementsKept router transports)
    (routesNothing : routes transports.queue event = [])
    (grows : transports.queue.dispatched ⊆ queue.dispatched)
    (sameWindow : queue.dedupeWindow = transports.queue.dedupeWindow)
    (keyed : ∀ item ∈ queue.eventQueue, EventQueue.Keyed item) :
    MovementsKept router (transports.goOn event queue) := by
  rw [MovementsKept, Transports.goOn, routesNothing, List.append_nil]
  exact EventQueue.MovementsKept.moveOn holds grows sameWindow keyed

theorem MovementsKept.goOn (holds : MovementsKept router transports)
    (kept : transports.keepsMovement router (.goOn event) = true)
    (moved : EventQueue.GoesOn options router transports.queue event queue) :
    MovementsKept router (transports.goOn event queue) := by
  cases moved with
  | @routeNext throws item rest isDraining queued =>
      have routesItem : routes transports.queue (.routeNext throws) =
          [{ item, queued := true, verdict := transports.queue.verdict item }] := by
        rw [routes, queued]
        rfl
      have member : item ∈ transports.queue.eventQueue := queued ▸ List.mem_cons_self
      have taken : EventQueue.MovementsKept router
          { transports.queue with eventQueue := rest, phase := .routing } transports.routed := by
        refine EventQueue.MovementsKept.moveOn holds (List.Subset.refl _) rfl ?_
        exact fun other isLeft => holds.keyed other (queued ▸ List.mem_cons_of_mem _ isLeft)
      have keptItem : transports.queue.keepsMovement router throws item = true := by
        simpa [keepsMovement, queued] using kept
      rw [MovementsKept, Transports.goOn, routesItem]
      exact taken.route true (holds.keyed item member) keptItem
  | routed isRouting =>
      rcases EventQueue.routed_frame options transports.queue with
        ⟨sameQueue, sameWindow, _, _, sameDispatched⟩
      refine holds.moveOn rfl (sameDispatched ▸ List.Subset.refl _) sameWindow ?_
      exact fun item member => holds.keyed item (sameQueue ▸ member)
  | notified isNotifying | drained isDraining isEmpty | specFailed found =>
      exact holds.moveOn rfl (List.Subset.refl _) rfl holds.keyed
  | specSettled found => exact holds.moveOn rfl (List.subset_append_left _ _) rfl holds.keyed

theorem MovementsKept.step (holds : MovementsKept router transports) {event : Event Value}
    (kept : transports.keepsMovement router event = true)
    (taken : transports.step options router event = some next) : MovementsKept router next := by
  cases moves_of_step taken with
  | onmessage keyed => exact holds.onmessage _ keyed _
  | unified keyed => exact EventQueue.MovementsKept.route holds false (fun _ => keyed) kept
  | @soroban event throws =>
      have noKey : EventQueue.Keyed (sorobanItem event) := fun hasKey => Bool.noConfusion hasKey
      exact EventQueue.MovementsKept.route holds false noKey rfl
  | goOn moved => exact holds.goOn kept moved
  | pauseSource => exact EventQueue.MovementsKept.moveOn holds (List.Subset.refl _) rfl holds.keyed
  | resumeSource =>
      exact EventQueue.MovementsKept.moveOn holds (List.Subset.refl _) rfl holds.keyed
  | openStream | streamCursorResolved => exact holds
  | stop => exact EventQueue.MovementsKept.moveOn holds (List.Subset.refl _) rfl holds.keyed

/-- In every run in which the first copy of each movement finds its source open and
reaches all its watchers, a suppressed event was delivered on the other transport. -/
theorem suppressed_was_delivered (options : QueueOptions) (router : EventQueue.Router Value)
    (events : List (Event Value)) (final : Transports Value)
    (run : Trace (Guarded (fun transports event => transports.keepsMovement router event = true)
      (Takes (step options router))) initial events final) :
    EventQueue.SuppressedDelivered router final.queue final.routed := by
  have kept : MovementsKept router final := by
    refine run.invariant (motive := MovementsKept router) ?_ EventQueue.initial_movementsKept
    rintro current event next holds ⟨kept, taken⟩
    exact holds.step kept taken
  exact kept.suppressed

open EventQueue (marks neverThrows oneWatcher)

def paymentTo (account : String) : NormalizedEvent Unit :=
  .classic (.payment none account "GDEF") ()

/-- Both transports report a payment. -/
theorem suppressed_was_delivered_payment :
    ∃ final : Transports Unit,
      Run (marks 2) oneWatcher
        [.openStream, .dispatchUnifiedEvent (paymentTo "GABC") (some "tx:1") neverThrows,
          .onmessage (some "1") (some (paymentTo "GABC")) (some "tx:1") false, routesNext,
          .goOn .routed, .goOn .drained] final ∧
      final.routed.map Routed.verdict = [.fannedOut, .suppressed] ∧
      EventQueue.SuppressedDelivered oneWatcher final.queue final.routed := by
  have run : Trace (Guarded
      (fun transports event => transports.keepsMovement oneWatcher event = true)
      (Takes (step (marks 2) oneWatcher))) initial
      [.openStream, .dispatchUnifiedEvent (paymentTo "GABC") (some "tx:1") neverThrows,
        .onmessage (some "1") (some (paymentTo "GABC")) (some "tx:1") false, routesNext,
        .goOn .routed, .goOn .drained] _ := trace_of_runGuarded rfl
  exact ⟨_, run.mono fun _ _ _ guarded => guarded.2, rfl,
    suppressed_was_delivered (marks 2) oneWatcher _ _ run⟩

/-- The unified copy comes in while the source is paused, the Horizon copy when it has
been resumed. No watcher gets the payment. -/
theorem pause_loses_movement :
    ∃ final : Transports Unit,
      Run (marks 2) oneWatcher
        [.openStream, .pauseSource .horizon,
          .dispatchUnifiedEvent (paymentTo "GABC") (some "tx:1") neverThrows,
          .resumeSource .horizon,
          .onmessage (some "1") (some (paymentTo "GABC")) (some "tx:1") false, routesNext,
          .goOn .routed, .goOn .drained] final ∧
      final.routed.map Routed.verdict = [.discarded, .suppressed] ∧
      final.queue.dispatched = [] ∧
      ¬ EventQueue.SuppressedDelivered oneWatcher final.queue final.routed := by
  refine ⟨_, trace_of_runEvents rfl, rfl, rfl, ?_⟩
  intro holds
  rcases holds _ (List.mem_cons_of_mem _ List.mem_cons_self) rfl with
    ⟨_, _, _, _, _, _, _, _, dispatched⟩
  cases dispatched

end Transports

end EventEngine

end Orbital.PulseCore
