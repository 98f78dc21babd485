import Orbital.Foundation.Intervals
import Orbital.WorkerCore.BackstopSubscription

/-! # What the record of a subscription says

Operations one after the other, with a store and hooks that may fail. A store that fails
stores nothing. Along every such course the record, the state and the announcements agree.
-/

namespace Orbital.WorkerCore.Subscription

open Foundation

/-! ## Courses -/

inductive Operation
  | renew (atLedger : LedgerArgument)
  | beginExpiring (atLedger lapsesAtLedger : LedgerArgument)
  | lapse (atLedger : LedgerArgument)
  | cancel (atLedger : LedgerArgument)
  | reactivate (atLedger : LedgerArgument)
  | sealTo (atLedger : LedgerArgument)

def Operation.method : Operation → Method Unit
  | .renew atLedger => BackstopSubscription.renew atLedger
  | .beginExpiring atLedger lapsesAtLedger =>
      BackstopSubscription.beginExpiring atLedger lapsesAtLedger
  | .lapse atLedger => BackstopSubscription.lapse atLedger
  | .cancel atLedger => BackstopSubscription.cancel atLedger
  | .reactivate atLedger => BackstopSubscription.reactivate atLedger
  | .sealTo atLedger => (BackstopSubscription.sealTo atLedger).bind fun _ => .done ()

structure Faults where
  append : Option JsString
  hook : Option JsString

structure World where
  coverage : InMemoryCoverageLedger
  calls : List HookCall

def Faults.hookResult (faults : Faults) : Except Failure Unit :=
  match faults.hook with
  | some message => .error (.other message)
  | none => .ok ()

def respond (faults : Faults) : Async.Responder World Response Failure
  | world, .append window =>
      match faults.append with
      | some message => (world, .error (.other message))
      | none =>
          match world.coverage.append window with
          | .ok coverage => ({ world with coverage }, .ok ())
          | .error error => (world, .error (.coverage error))
  | world, .fire call =>
      ({ world with calls := world.calls ++ [call] }, faults.hookResult)

inductive Occurrence
  | changed (atLedger : Int) (state : SubscriptionState)
  | called (call : HookCall)
  deriving DecidableEq

structure Course where
  world : World
  subscription : BackstopSubscription
  log : List Occurrence

namespace Course

def start (world : World) (subscription : BackstopSubscription) : Course where
  world
  subscription
  log := [.changed subscription.openedAt subscription.currentState,
    .called (.onActivated (subscription.event subscription.openedAt none))]

def changes (before after : BackstopSubscription) : List Occurrence :=
  if before.currentState = after.currentState then []
  else [.changed after.openedAt after.currentState]

def follow (course : Course) (world : World) (subscription : BackstopSubscription) : Course where
  world
  subscription
  log := course.log ++ changes course.subscription subscription ++
    (world.calls.drop course.world.calls.length).map .called

def step (course : Course) (operation : Operation) (faults : Faults) : Course :=
  let outcome := operation.method.run (respond faults) course.world course.subscription
  course.follow outcome.world outcome.state

def run (course : Course) (operations : List (Operation × Faults)) : Course :=
  operations.foldl (fun course made => course.step made.1 made.2) course

def history (course : Course) : List CoverageWindow :=
  course.world.coverage.history course.subscription.subscriptionId

end Course

def Occurrence.change? : Occurrence → Option (Int × SubscriptionState)
  | .changed atLedger state => some (atLedger, state)
  | .called _ => none

def timeline (log : List Occurrence) : List (Int × SubscriptionState) :=
  log.filterMap Occurrence.change?

def inForce (log : List Occurrence) (ledger : Int) : Option SubscriptionState :=
  (((timeline log).filter fun change => change.1 ≤ ledger).getLast?).map Prod.snd

/-! ## What an operation does -/

structure Wrote (world : World) (subscription : BackstopSubscription)
    (ledger : Int) (coverage : InMemoryCoverageLedger) : Prop where
  isLedger : IsLedger ledger
  advances : subscription.openedAt < ledger
  stored : world.coverage.append (subscription.openWindow ledger) = .ok coverage

section Runs

variable {faults : Faults} {world : World} {subscription : BackstopSubscription}

abbrev Result (Value : Type) :=
  Async.Outcome World BackstopSubscription Failure Value

def Refused {Value : Type} (world : World) (subscription : BackstopSubscription)
    (outcome : Result Value) : Prop :=
  ∃ failure, outcome = ⟨world, subscription, .error failure⟩

theorem run_assertLedger (argument : LedgerArgument) (label : JsString) :
    Refused world subscription ((assertLedger argument label).run (respond faults) world
        subscription) ∨
      ∃ ledger, argument = .whole ledger ∧ IsLedger ledger ∧
        (assertLedger argument label).run (respond faults) world subscription =
          ⟨world, subscription, .ok ledger⟩ := by
  cases argument with
  | other text => exact Or.inl ⟨_, rfl⟩
  | whole value =>
      rw [assertLedger]
      by_cases isLedger : IsLedger value
      · rw [if_pos isLedger]
        exact Or.inr ⟨value, rfl, isLedger, rfl⟩
      · rw [if_neg isLedger]
        exact Or.inl ⟨_, rfl⟩

theorem run_writeOpenWindow (atLedger : LedgerArgument) :
    Refused world subscription ((BackstopSubscription.writeOpenWindow atLedger).run
        (respond faults) world subscription) ∨
      ∃ ledger coverage, atLedger = .whole ledger ∧ faults.append = none ∧
        Wrote world subscription ledger coverage ∧
        (BackstopSubscription.writeOpenWindow atLedger).run (respond faults) world subscription =
          ⟨{ world with coverage }, { subscription with openedAt := ledger },
            .ok (subscription.openWindow ledger)⟩ := by
  rw [BackstopSubscription.writeOpenWindow, Async.bind_eq, Async.run_bind]
  rcases run_assertLedger atLedger (js "atLedger") with ⟨failure, refused⟩ | passes
  · rw [refused]
    exact Or.inl ⟨failure, rfl⟩
  · rcases passes with ⟨ledger, rfl, isLedger, passes⟩
    rw [passes, Async.Outcome.andThen_ok, Async.bind_eq, Async.run_bind, Async.run_get,
      Async.Outcome.andThen_ok]
    by_cases advances : ledger ≤ subscription.openedAt
    · rw [if_pos advances]
      exact Or.inl ⟨_, rfl⟩
    · rw [if_neg advances, Async.bind_eq, Async.run_bind, BackstopSubscription.append,
        Async.run_call, respond]
      cases works : faults.append with
      | some message => exact Or.inl ⟨_, rfl⟩
      | none =>
          dsimp only
          cases stored : world.coverage.append (subscription.openWindow ledger) with
          | error error => exact Or.inl ⟨_, rfl⟩
          | ok coverage =>
              have wrote : Wrote world subscription ledger coverage :=
                ⟨isLedger, not_le.mp advances, stored⟩
              exact Or.inr ⟨ledger, coverage, rfl, rfl, wrote, rfl⟩

theorem run_transition (after : SubscriptionState) (atLedger : LedgerArgument) :
    Refused world subscription ((BackstopSubscription.transition after atLedger).run
        (respond faults) world subscription) ∨
      ∃ ledger coverage, atLedger = .whole ledger ∧
        subscription.currentState.isLegalTransition after = true ∧ faults.append = none ∧
        Wrote world subscription ledger coverage ∧
        (BackstopSubscription.transition after atLedger).run (respond faults) world
            subscription =
          ⟨{ world with coverage },
            { subscription with openedAt := ledger, currentState := after },
            .ok (subscription.openWindow ledger)⟩ := by
  rw [BackstopSubscription.transition, Async.bind_eq, Async.run_bind, Async.run_get,
    Async.Outcome.andThen_ok]
  by_cases legal : subscription.currentState.isLegalTransition after = true
  · rw [if_pos legal, Async.bind_eq, Async.run_bind]
    rcases run_writeOpenWindow atLedger with ⟨failure, refused⟩ | writes
    · rw [refused]
      exact Or.inl ⟨failure, rfl⟩
    · rcases writes with ⟨ledger, coverage, same, works, wrote, writes⟩
      rw [writes]
      exact Or.inr ⟨ledger, coverage, same, legal, works, wrote, rfl⟩
  · rw [if_neg legal]
    exact Or.inl ⟨_, rfl⟩

/-- What a transition says of a lapse: one to `expiring` announces it in time, and one to
`lapsed` is not before the ledger that was announced. -/
structure Speaks (subscription : BackstopSubscription) (after : SubscriptionState)
    (ledger : Int) (announced : Option Int) (call : HookCall) : Prop where
  notice : after = .expiring → ∃ event lapsesAtLedger,
    call = .onExpiring event lapsesAtLedger ∧ event.atLedger = ledger ∧
      announced = some lapsesAtLedger ∧ ledger + subscription.windowLedgers ≤ lapsesAtLedger
  due : after = .lapsed → ∀ lapsesAtLedger ∈ subscription.announcedLapseLedger,
    lapsesAtLedger ≤ ledger

inductive Effect (world : World) (subscription : BackstopSubscription) :
    World → BackstopSubscription → Prop
  | refused : Effect world subscription world subscription
  | sealed {ledger : Int} {coverage : InMemoryCoverageLedger}
      (wrote : Wrote world subscription ledger coverage) :
      Effect world subscription { world with coverage } { subscription with openedAt := ledger }
  | moved {ledger : Int} {coverage : InMemoryCoverageLedger} {after : SubscriptionState}
      {announced : Option Int} {call : HookCall}
      (legal : subscription.currentState.isLegalTransition after = true)
      (wrote : Wrote world subscription ledger coverage)
      (speaks : Speaks subscription after ledger announced call) :
      Effect world subscription { coverage, calls := world.calls ++ [call] } {
        subscription with
        openedAt := ledger
        currentState := after
        announcedLapseLedger := announced }

def HasEffect (faults : Faults) (world : World) (subscription : BackstopSubscription)
    (method : Method Unit) : Prop :=
  let outcome := method.run (respond faults) world subscription
  Effect world subscription outcome.world outcome.state

variable {after : SubscriptionState}

theorem hasEffect_transition {atLedger : LedgerArgument} {rest : CoverageWindow → Method Unit}
    (follows : ∀ ledger coverage, atLedger = .whole ledger →
      ∃ announced call, Speaks subscription after ledger announced call ∧
        ∃ result, (rest (subscription.openWindow ledger)).run (respond faults)
            { world with coverage }
            { subscription with openedAt := ledger, currentState := after } =
          ⟨{ coverage, calls := world.calls ++ [call] }, {
            subscription with
            openedAt := ledger
            currentState := after
            announcedLapseLedger := announced }, result⟩) :
    HasEffect faults world subscription
      ((BackstopSubscription.transition after atLedger).bind rest) := by
  rw [HasEffect, Async.run_bind]
  rcases run_transition after atLedger with ⟨failure, refused⟩ | moves
  · rw [refused]
    exact .refused
  · rcases moves with ⟨ledger, coverage, same, legal, -, wrote, moves⟩
    rcases follows ledger coverage same with ⟨announced, call, speaks, result, runs⟩
    rw [moves, Async.Outcome.andThen_ok, runs]
    exact .moved legal wrote speaks

theorem run_fire (call : HookCall) :
    (BackstopSubscription.fire call).run (respond faults) world subscription =
      ⟨{ world with calls := world.calls ++ [call] }, subscription, faults.hookResult⟩ :=
  Async.run_call (respond faults) _ world subscription

theorem speaks_other (notExpiring : after ≠ .expiring) (notLapsed : after ≠ .lapsed) (ledger : Int)
    (announced : Option Int) (call : HookCall) :
    Speaks subscription after ledger announced call where
  notice := fun isExpiring => absurd isExpiring notExpiring
  due := fun isLapsed => absurd isLapsed notLapsed

theorem hasEffect_renew (atLedger : LedgerArgument) :
    HasEffect faults world subscription (BackstopSubscription.renew atLedger) := by
  apply hasEffect_transition
  intro ledger coverage _
  exact ⟨none, _, speaks_other (by decide) (by decide) _ _ _, _, run_fire _⟩

theorem hasEffect_cancel (atLedger : LedgerArgument) :
    HasEffect faults world subscription (BackstopSubscription.cancel atLedger) := by
  apply hasEffect_transition
  intro ledger coverage _
  exact ⟨none, _, speaks_other (by decide) (by decide) _ _ _, _, run_fire _⟩

theorem hasEffect_reactivate (atLedger : LedgerArgument) :
    HasEffect faults world subscription (BackstopSubscription.reactivate atLedger) := by
  apply hasEffect_transition
  intro ledger coverage _
  exact ⟨subscription.announcedLapseLedger, _, speaks_other (by decide) (by decide) _ _ _, _,
    run_fire _⟩

theorem hasEffect_sealTo (atLedger : LedgerArgument) :
    HasEffect faults world subscription (Operation.sealTo atLedger).method := by
  rw [HasEffect, Operation.method, BackstopSubscription.sealTo, Async.run_bind]
  rcases run_writeOpenWindow atLedger with ⟨failure, refused⟩ | writes
  · rw [refused]
    exact .refused
  · rcases writes with ⟨ledger, coverage, -, -, wrote, writes⟩
    rw [writes]
    exact .sealed wrote

theorem hasEffect_lapse (atLedger : LedgerArgument) :
    HasEffect faults world subscription (BackstopSubscription.lapse atLedger) := by
  rw [HasEffect, BackstopSubscription.lapse, Async.bind_eq, Async.run_bind]
  rcases run_assertLedger atLedger (js "atLedger") with ⟨failure, refused⟩ | passes
  · rw [refused]
    exact .refused
  · rcases passes with ⟨ledger, rfl, _, passes⟩
    rw [passes, Async.Outcome.andThen_ok, Async.bind_eq, Async.run_bind, Async.run_get,
      Async.Outcome.andThen_ok]
    cases early : subscription.premature ledger with
    | some announced => exact .refused
    | none =>
        apply hasEffect_transition
        intro same coverage isLedger
        cases isLedger
        refine ⟨none, _, ⟨(fun isExpiring => by cases isExpiring), ?_⟩, _, run_fire _⟩
        intro _ lapsesAtLedger isAnnounced
        rw [BackstopSubscription.premature, Option.filter_eq_none_iff] at early
        have notEarly := early lapsesAtLedger isAnnounced
        simpa using notEarly

theorem hasEffect_beginExpiring (atLedger lapsesAtLedger : LedgerArgument) :
    HasEffect faults world subscription
      (BackstopSubscription.beginExpiring atLedger lapsesAtLedger) := by
  rw [HasEffect, BackstopSubscription.beginExpiring, Async.bind_eq, Async.run_bind]
  rcases run_assertLedger atLedger (js "atLedger") with ⟨failure, refused⟩ | passes
  · rw [refused]
    exact .refused
  · rcases passes with ⟨ledger, rfl, _, passes⟩
    rw [passes, Async.Outcome.andThen_ok, Async.bind_eq, Async.run_bind]
    rcases run_assertLedger lapsesAtLedger (js "lapsesAtLedger") with ⟨failure, refused⟩ | again
    · rw [refused]
      exact .refused
    · rcases again with ⟨lapse, rfl, _, passesToo⟩
      rw [passesToo, Async.Outcome.andThen_ok, Async.bind_eq, Async.run_bind, Async.run_get,
        Async.Outcome.andThen_ok]
      by_cases short : lapse - ledger < subscription.windowLedgers
      · rw [if_pos short]
        exact .refused
      · rw [if_neg short]
        apply hasEffect_transition
        intro same coverage isLedger
        cases isLedger
        refine ⟨some lapse, _, ⟨?_, (fun isLapsed => by cases isLapsed)⟩, _, run_fire _⟩
        intro _
        refine ⟨_, lapse, rfl, rfl, rfl, ?_⟩
        omega

theorem hasEffect_operation (operation : Operation) :
    HasEffect faults world subscription operation.method := by
  cases operation with
  | renew atLedger => exact hasEffect_renew atLedger
  | beginExpiring atLedger lapsesAtLedger => exact hasEffect_beginExpiring atLedger lapsesAtLedger
  | lapse atLedger => exact hasEffect_lapse atLedger
  | cancel atLedger => exact hasEffect_cancel atLedger
  | reactivate atLedger => exact hasEffect_reactivate atLedger
  | sealTo atLedger => exact hasEffect_sealTo atLedger

end Runs

/-! ## Integrity -/

/-- The windows from the activation on up to the open ledger, each with the coverage of the
states in force; a chain of legal transitions; and no lapse without an announcement. -/
structure Integrity (activation : Int) (course : Course) : Prop where
  partition : Tiles CoverageWindow.startLedger CoverageWindow.endLedger activation
    course.history course.subscription.openedAt
  covered : ∀ window ∈ course.history, ∀ ledger, window.startLedger ≤ ledger →
    ledger < window.endLedger →
      (inForce course.log ledger).map SubscriptionState.isCoveredState = some window.covered
  legal : ((timeline course.log).map Prod.snd).IsChain fun before after =>
    before.isLegalTransition after = true
  current : ((timeline course.log).map Prod.snd).getLast? =
    some course.subscription.currentState
  announced : ∀ front atLedger back, course.log = front ++ .changed atLedger .lapsed :: back →
    ∃ earlier event lapsesAtLedger,
      front = earlier ++
        [.changed event.atLedger .expiring, .called (.onExpiring event lapsesAtLedger)] ∧
      event.atLedger + course.subscription.windowLedgers ≤ lapsesAtLedger ∧
      lapsesAtLedger ≤ atLedger

/-- The announcement of the expiry is the last that has happened. -/
def Announced (course : Course) : Prop :=
  ∃ earlier event lapsesAtLedger,
    course.log = earlier ++
      [.changed event.atLedger .expiring, .called (.onExpiring event lapsesAtLedger)] ∧
    course.subscription.announcedLapseLedger = some lapsesAtLedger ∧
    event.atLedger + course.subscription.windowLedgers ≤ lapsesAtLedger

structure Consistent (activation : Int) (course : Course) : Prop
    extends Integrity activation course where
  isLedger : IsLedger course.subscription.openedAt
  past : ∀ change ∈ timeline course.log, change.1 ≤ course.subscription.openedAt
  expiring : course.subscription.currentState = .expiring → Announced course

section Timeline

variable {log : List Occurrence} {ledger atLedger : Int} {state : SubscriptionState}
  {call : HookCall}

theorem timeline_append (front back : List Occurrence) :
    timeline (front ++ back) = timeline front ++ timeline back :=
  List.filterMap_append

theorem timeline_moved (log : List Occurrence) (atLedger : Int) (state : SubscriptionState)
    (call : HookCall) :
    timeline (log ++ [.changed atLedger state, .called call]) =
      timeline log ++ [(atLedger, state)] :=
  timeline_append log _

theorem inForce_moved (later : ledger < atLedger) :
    inForce (log ++ [.changed atLedger state, .called call]) ledger = inForce log ledger := by
  rw [inForce, timeline_moved, List.filter_append, List.filter_singleton]
  simp [not_le.mpr later, inForce]

theorem inForce_last (past : ∀ change ∈ timeline log, change.1 ≤ ledger) :
    inForce log ledger = ((timeline log).map Prod.snd).getLast? := by
  have all : (timeline log).filter (fun change => change.1 ≤ ledger) = timeline log := by
    apply List.filter_eq_self.mpr
    intro change member
    exact decide_eq_true (past change member)
  rw [inForce, all, List.getLast?_map]

end Timeline

section Steps

variable {activation : Int} {course : Course}

variable {ledger : Int} {coverage : InMemoryCoverageLedger}

theorem Consistent.stores (consistent : Consistent activation course)
    (wrote : Wrote course.world course.subscription ledger coverage) :
    coverage.history course.subscription.subscriptionId =
      course.history ++ [course.subscription.openWindow ledger] := by
  have agrees : course.subscription.currentState.isCoveredState =
      isCoveredReason course.subscription.currentState.reason := by
    cases course.subscription.currentState <;> rfl
  have tiles := consistent.partition
  have ordered : course.history.Pairwise fun first second =>
      first.startLedger ≤ second.startLedger := by
    apply tiles.pairwise.imp_of_mem
    intro first second inside _ before
    exact le_trans (le_of_lt (tiles.proper inside)) before
  rcases course.world.coverage.append_behind (course.subscription.openWindow ledger)
    consistent.isLedger wrote.isLedger
    wrote.advances agrees ordered (by
      intro stored inside
      have before := tiles.last_le inside
      exact ⟨le_trans (le_of_lt (tiles.proper inside)) before, before⟩) with
    ⟨next, appends, stored⟩
  rw [wrote.stored] at appends
  cases appends
  exact stored

theorem Consistent.inForce_open (consistent : Consistent activation course)
    (open' : course.subscription.openedAt ≤ ledger) :
    inForce course.log ledger = some course.subscription.currentState := by
  rw [inForce_last fun change member => le_trans (consistent.past change member) open']
  exact consistent.current

theorem Consistent.partition_stored (consistent : Consistent activation course)
    (wrote : Wrote course.world course.subscription ledger coverage) :
    Tiles CoverageWindow.startLedger CoverageWindow.endLedger activation
      (coverage.history course.subscription.subscriptionId) ledger := by
  rw [consistent.stores wrote]
  exact consistent.partition.append_singleton rfl wrote.advances

theorem Consistent.covered_stored (consistent : Consistent activation course)
    (wrote : Wrote course.world course.subscription ledger coverage) {window : CoverageWindow}
    (member : window ∈ coverage.history course.subscription.subscriptionId) {position : Int}
    (behind : window.startLedger ≤ position) (before : position < window.endLedger) :
    position < ledger ∧
      (inForce course.log position).map SubscriptionState.isCoveredState =
        some window.covered := by
  rw [consistent.stores wrote] at member
  rcases List.mem_append.mp member with earlier | new
  · constructor
    · exact lt_of_lt_of_le before
        (le_trans (consistent.partition.last_le earlier) (le_of_lt wrote.advances))
    · exact consistent.covered window earlier position behind before
  · rw [List.mem_singleton.mp new] at behind before ⊢
    exact ⟨before, congrArg (Option.map SubscriptionState.isCoveredState)
      (consistent.inForce_open behind)⟩

def Course.sealed (course : Course) (ledger : Int) (coverage : InMemoryCoverageLedger) : Course where
  world := { course.world with coverage }
  subscription := { course.subscription with openedAt := ledger }
  log := course.log

theorem Consistent.sealed (consistent : Consistent activation course)
    (wrote : Wrote course.world course.subscription ledger coverage) :
    Consistent activation (course.sealed ledger coverage) where
  partition := consistent.partition_stored wrote
  covered := fun _ member _ behind before =>
    (consistent.covered_stored wrote member behind before).2
  legal := consistent.legal
  current := consistent.current
  announced := consistent.announced
  isLedger := wrote.isLedger
  past := fun change member =>
    le_trans (consistent.past change member) (le_of_lt wrote.advances)
  expiring := consistent.expiring

def Course.moved (course : Course) (ledger : Int) (coverage : InMemoryCoverageLedger)
    (after : SubscriptionState) (announced : Option Int) (call : HookCall) : Course where
  world := { coverage, calls := course.world.calls ++ [call] }
  subscription := {
    course.subscription with
    openedAt := ledger
    currentState := after
    announcedLapseLedger := announced }
  log := course.log ++ [.changed ledger after, .called call]

variable {after : SubscriptionState} {call : HookCall}

theorem split_moved {log front back : List Occurrence} {atLedger : Int}
    (split : log ++ [.changed ledger after, .called call] =
      front ++ .changed atLedger .lapsed :: back) :
    (∃ rest, log = front ++ .changed atLedger .lapsed :: rest) ∨
      (front = log ∧ atLedger = ledger ∧ after = .lapsed) := by
  rcases List.append_eq_append_iff.mp split with ⟨more, isFront, rest⟩ | ⟨more, isLog, rest⟩
  · rcases List.cons_eq_append_iff.mp rest with ⟨rfl, same⟩ | ⟨later, rfl, same⟩
    · rw [List.append_nil] at isFront
      cases same
      exact Or.inr ⟨isFront, rfl, rfl⟩
    · rcases List.cons_eq_append_iff.mp same with ⟨rfl, called⟩ | ⟨last, rfl, empty⟩
      · cases called
      · simp at empty
  · rcases List.cons_eq_append_iff.mp rest with ⟨rfl, same⟩ | ⟨later, rfl, _⟩
    · rw [List.append_nil] at isLog
      cases same
      exact Or.inr ⟨isLog.symm, rfl, rfl⟩
    · exact Or.inl ⟨later, isLog⟩

theorem expiring_of_legal {before : SubscriptionState}
    (legal : before.isLegalTransition .lapsed = true) : before = .expiring := by
  cases before with
  | expiring => rfl
  | active | lapsed | cancelled => cases legal

theorem Consistent.moved (consistent : Consistent activation course) {announced : Option Int}
    (legal : course.subscription.currentState.isLegalTransition after = true)
    (wrote : Wrote course.world course.subscription ledger coverage)
    (speaks : Speaks course.subscription after ledger announced call) :
    Consistent activation (course.moved ledger coverage after announced call) where
  partition := consistent.partition_stored wrote
  covered := by
    intro window member position behind before
    rcases consistent.covered_stored wrote member behind before with ⟨past, covered⟩
    rw [Course.moved, inForce_moved past]
    exact covered
  legal := by
    rw [Course.moved, timeline_moved, List.map_append]
    apply List.isChain_append.mpr
    refine ⟨consistent.legal, List.isChain_singleton _, ?_⟩
    intro last isLast next isNext
    rw [consistent.current] at isLast
    cases isLast
    cases isNext
    exact legal
  current := by
    rw [Course.moved, timeline_moved, List.map_append]
    exact List.getLast?_concat
  announced := by
    intro front atLedger back split
    rcases split_moved split with ⟨rest, earlier⟩ | ⟨rfl, rfl, rfl⟩
    · exact consistent.announced front atLedger rest earlier
    · rcases consistent.expiring (expiring_of_legal legal) with
        ⟨earlier, event, lapsesAtLedger, log, isAnnounced, notice⟩
      exact ⟨earlier, event, lapsesAtLedger, log, notice, speaks.due rfl _ isAnnounced⟩
  isLedger := wrote.isLedger
  past := by
    rw [Course.moved, timeline_moved]
    intro change member
    rcases List.mem_append.mp member with earlier | new
    · exact le_trans (consistent.past change earlier) (le_of_lt wrote.advances)
    · rw [List.mem_singleton.mp new]
  expiring := by
    intro isExpiring
    rcases speaks.notice isExpiring with ⟨event, lapsesAtLedger, rfl, rfl, rfl, notice⟩
    cases isExpiring
    exact ⟨course.log, event, lapsesAtLedger, rfl, rfl, notice⟩

theorem not_legal_self (state : SubscriptionState) : state.isLegalTransition state = false := by
  cases state <;> rfl

theorem follow_quiet {world : World} {subscription : BackstopSubscription}
    (same : subscription.currentState = course.subscription.currentState)
    (quiet : world.calls = course.world.calls) :
    course.follow world subscription = { world, subscription, log := course.log } := by
  rw [Course.follow, Course.changes, if_pos same.symm, quiet, List.drop_length]
  simp

theorem Consistent.step (consistent : Consistent activation course) (operation : Operation)
    (faults : Faults) : Consistent activation (course.step operation faults) := by
  have effect : HasEffect faults course.world course.subscription operation.method :=
    hasEffect_operation operation
  rw [HasEffect] at effect
  rw [Course.step]
  generalize operation.method.run (respond faults) course.world course.subscription = outcome
    at effect
  rcases outcome with ⟨world, subscription, result⟩
  dsimp only at effect ⊢
  cases effect with
  | refused =>
      rw [follow_quiet (by rfl) (by rfl)]
      exact consistent
  | sealed wrote =>
      rw [follow_quiet (by rfl) (by rfl)]
      exact consistent.sealed wrote
  | @moved ledger coverage after announced call legal wrote speaks =>
      have differs : course.subscription.currentState ≠ after := by
        rintro rfl
        rw [not_legal_self] at legal
        cases legal
      rw [Course.follow, Course.changes, if_neg differs, List.drop_left, List.append_assoc]
      exact consistent.moved legal wrote speaks

end Steps

/-! ## The beginning -/

variable {subscription : BackstopSubscription}

theorem fresh_of_activate {subscriptionId tier : JsString} {windowLedgers atLedger : LedgerArgument}
    (activated : BackstopSubscription.activate subscriptionId tier windowLedgers atLedger =
      .ok subscription) :
    IsLedger subscription.openedAt ∧ subscription.currentState = .active ∧
      subscription.announcedLapseLedger = none := by
  unfold BackstopSubscription.activate at activated
  split at activated
  · cases activated
  · split at activated
    · cases activated
    · split at activated
      · cases activated
      · split at activated
        · split at activated
          · cases activated
          · split at activated
            · rename_i isLedger
              cases activated
              exact ⟨isLedger, rfl, rfl⟩
            · cases activated
        · cases activated

theorem consistent_start {world : World} (isLedger : IsLedger subscription.openedAt)
    (isActive : subscription.currentState = .active)
    (fresh : world.coverage.history subscription.subscriptionId = []) :
    Consistent subscription.openedAt (Course.start world subscription) where
  partition := by
    rw [Course.history, Course.start, fresh]
    exact .nil _
  covered := by
    intro window member
    rw [Course.history, Course.start, fresh] at member
    cases member
  legal := List.isChain_singleton _
  current := rfl
  announced := by
    intro front atLedger back split
    have first : Occurrence.changed atLedger .lapsed ∈ (Course.start world subscription).log := by
      rw [split]
      exact List.mem_append_right _ List.mem_cons_self
    rw [Course.start, isActive] at first
    simp at first
  isLedger := isLedger
  past := by
    intro change member
    rw [List.mem_singleton.mp member]
    exact le_refl _
  expiring := by
    intro isExpiring
    rw [Course.start, isActive] at isExpiring
    cases isExpiring

/-- Whatever operations follow the activation, whatever fails in them: the record, the state
and the announcements agree. -/
theorem integrity {subscriptionId tier : JsString} {windowLedgers atLedger : LedgerArgument}
    {subscription : BackstopSubscription}
    (activated : BackstopSubscription.activate subscriptionId tier windowLedgers atLedger =
      .ok subscription)
    {world : World} (fresh : world.coverage.history subscription.subscriptionId = [])
    (operations : List (Operation × Faults)) :
    Integrity subscription.openedAt ((Course.start world subscription).run operations) := by
  rcases fresh_of_activate activated with ⟨isLedger, isActive, -⟩
  have start := consistent_start isLedger isActive fresh
  have runs : ∀ course, Consistent subscription.openedAt course →
      Consistent subscription.openedAt (course.run operations) := by
    induction operations with
    | nil => exact fun course consistent => consistent
    | cons made rest induction =>
        intro course consistent
        exact induction _ (consistent.step made.1 made.2)
  exact (runs _ start).toIntegrity

def exampleOperations : List (Operation × Faults) :=
  [(.beginExpiring (.whole 1100) (.whole 1250), ⟨none, some (js "down")⟩),
    (.sealTo (.whole 1200), ⟨some (js "down"), none⟩), (.lapse (.whole 1200), ⟨none, none⟩),
    (.lapse (.whole 1300), ⟨none, none⟩), (.reactivate (.whole 1400), ⟨none, none⟩)]

theorem integrity_lapse :
    ∃ subscription, BackstopSubscription.activate (js "s") (js "basic") (.whole 100)
        (.whole 1000) = .ok subscription ∧
      ((Course.start ⟨.empty, []⟩ subscription).run exampleOperations).history.length = 3 ∧
      Integrity subscription.openedAt
        ((Course.start ⟨.empty, []⟩ subscription).run exampleOperations) := by
  have activated : BackstopSubscription.activate (js "s") (js "basic") (.whole 100)
      (.whole 1000) = .ok ⟨js "s", js "basic", 100, .active, 1000, none⟩ := rfl
  exact ⟨_, activated, by decide, integrity activated rfl exampleOperations⟩

end Orbital.WorkerCore.Subscription
