import Orbital.WorkerCore.SubscriptionIntegrity

/-! # The announced lapse

Whether a lapse is announced shows the state, as long as no subscription that expires is
reactivated instead of renewed: that path keeps the announcement.
-/

namespace Orbital.WorkerCore.Subscription

open Foundation

/-! ## What an operation makes of the state -/

def Operation.aim : Operation → BackstopSubscription → SubscriptionState × Option Int
  | .renew _, _ => (.active, none)
  | .beginExpiring _ (.whole lapsesAtLedger), _ => (.expiring, some lapsesAtLedger)
  | .beginExpiring _ (.other _), subscription =>
      (subscription.currentState, subscription.announcedLapseLedger)
  | .lapse _, _ => (.lapsed, none)
  | .cancel _, _ => (.cancelled, none)
  | .reactivate _, subscription => (.active, subscription.announcedLapseLedger)
  | .sealTo _, subscription => (subscription.currentState, subscription.announcedLapseLedger)

def Operation.atLedger : Operation → LedgerArgument
  | .renew atLedger | .beginExpiring atLedger _ | .lapse atLedger | .cancel atLedger
  | .reactivate atLedger | .sealTo atLedger => atLedger

def BackstopSubscription.standing (subscription : BackstopSubscription) :
    SubscriptionState × Option Int :=
  (subscription.currentState, subscription.announcedLapseLedger)

def Accepts (faults : Faults) (world : World) (subscription : BackstopSubscription)
    (atLedger : LedgerArgument) : Prop :=
  faults.append = none ∧ ∃ ledger coverage, atLedger = .whole ledger ∧
    Wrote world subscription ledger coverage

section Runs

variable {faults : Faults} {world : World} {subscription : BackstopSubscription}

theorem run_writeOpenWindow_of_accepts {atLedger : LedgerArgument}
    (accepts : Accepts faults world subscription atLedger) :
    ¬ Refused world subscription ((BackstopSubscription.writeOpenWindow atLedger).run
      (respond faults) world subscription) := by
  rcases accepts with ⟨works, ledger, coverage, rfl, wrote⟩
  rintro ⟨failure, refused⟩
  have passes : assertLedger (.whole ledger) (js "atLedger") = .done ledger :=
    if_pos wrote.isLedger
  rw [BackstopSubscription.writeOpenWindow, passes, Async.bind_eq, Async.run_bind,
    Async.run_done, Async.Outcome.andThen_ok, Async.bind_eq, Async.run_bind, Async.run_get,
    Async.Outcome.andThen_ok,
    if_neg (not_le.mpr wrote.advances), Async.bind_eq, Async.run_bind,
    BackstopSubscription.append, Async.run_call, respond, works] at refused
  dsimp only at refused
  rw [wrote.stored] at refused
  have results := congrArg Async.Outcome.result refused
  cases results

def Turns (faults : Faults) (world : World) (before : BackstopSubscription)
    (atLedger : LedgerArgument) (aim : SubscriptionState × Option Int)
    (after : BackstopSubscription) : Prop :=
  after.standing = before.standing ∨
    before.currentState.isLegalTransition aim.1 = true ∧ Accepts faults world before atLedger ∧
      after.standing = aim

theorem turns_transition {after : SubscriptionState} {atLedger : LedgerArgument}
    {announced : Option Int} {rest : CoverageWindow → Method Unit}
    (follows : ∀ ledger coverage, atLedger = .whole ledger →
      ((rest (subscription.openWindow ledger)).run (respond faults) { world with coverage }
        { subscription with openedAt := ledger, currentState := after }).state.standing =
          (after, announced)) :
    Turns faults world subscription atLedger (after, announced)
      (((BackstopSubscription.transition after atLedger).bind rest).run (respond faults) world
        subscription).state := by
  rw [Async.run_bind]
  rcases run_transition after atLedger with ⟨failure, refused⟩ | moves
  · rw [refused]
    exact .inl rfl
  · rcases moves with ⟨ledger, coverage, same, legal, works, wrote, moves⟩
    rw [moves, Async.Outcome.andThen_ok]
    exact .inr ⟨legal, ⟨works, ledger, coverage, same, wrote⟩, follows ledger coverage same⟩

theorem standing_fire (call : HookCall) :
    ((BackstopSubscription.fire call).run (respond faults) world subscription).state.standing =
      subscription.standing := by
  rw [run_fire]

theorem turns_lapse (atLedger : LedgerArgument) :
    Turns faults world subscription atLedger (.lapsed, none)
      ((BackstopSubscription.lapse atLedger).run (respond faults) world subscription).state := by
  rw [BackstopSubscription.lapse, Async.bind_eq, Async.run_bind]
  rcases run_assertLedger atLedger (js "atLedger") with ⟨failure, refused⟩ | passes
  · rw [refused]
    exact .inl rfl
  · rcases passes with ⟨ledger, rfl, -, passes⟩
    rw [passes, Async.Outcome.andThen_ok, Async.bind_eq, Async.run_bind, Async.run_get,
      Async.Outcome.andThen_ok]
    cases subscription.premature ledger with
    | some announced => exact .inl rfl
    | none => exact turns_transition fun _ _ _ => standing_fire _

theorem turns_beginExpiring (atLedger lapsesAtLedger : LedgerArgument) :
    Turns faults world subscription atLedger
      ((Operation.beginExpiring atLedger lapsesAtLedger).aim subscription)
      ((BackstopSubscription.beginExpiring atLedger lapsesAtLedger).run (respond faults) world
        subscription).state := by
  rw [BackstopSubscription.beginExpiring, Async.bind_eq, Async.run_bind]
  rcases run_assertLedger atLedger (js "atLedger") with ⟨failure, refused⟩ | passes
  · rw [refused]
    exact .inl rfl
  · rcases passes with ⟨ledger, rfl, -, passes⟩
    rw [passes, Async.Outcome.andThen_ok, Async.bind_eq, Async.run_bind]
    rcases run_assertLedger lapsesAtLedger (js "lapsesAtLedger") with ⟨failure, refused⟩ | again
    · rw [refused]
      exact .inl rfl
    · rcases again with ⟨lapse, rfl, -, passesToo⟩
      rw [passesToo, Async.Outcome.andThen_ok, Async.bind_eq, Async.run_bind, Async.run_get,
        Async.Outcome.andThen_ok]
      by_cases short : lapse - ledger < subscription.windowLedgers
      · rw [if_pos short]
        exact .inl rfl
      · rw [if_neg short]
        exact turns_transition fun _ _ _ => standing_fire _

theorem turns_sealTo (atLedger : LedgerArgument) (aim : SubscriptionState × Option Int) :
    Turns faults world subscription atLedger aim
      ((Operation.sealTo atLedger).method.run (respond faults) world subscription).state := by
  rw [Operation.method, BackstopSubscription.sealTo, Async.run_bind]
  rcases run_writeOpenWindow atLedger with ⟨failure, refused⟩ | writes
  · rw [refused]
    exact .inl rfl
  · rcases writes with ⟨ledger, coverage, -, -, -, writes⟩
    rw [writes]
    exact .inl rfl

theorem turns_operation (operation : Operation) :
    Turns faults world subscription operation.atLedger (operation.aim subscription)
      (operation.method.run (respond faults) world subscription).state := by
  cases operation with
  | renew atLedger => exact turns_transition fun _ _ _ => standing_fire _
  | beginExpiring atLedger lapsesAtLedger => exact turns_beginExpiring atLedger lapsesAtLedger
  | lapse atLedger => exact turns_lapse atLedger
  | cancel atLedger | reactivate atLedger => exact turns_transition fun _ _ _ => standing_fire _
  | sealTo atLedger => exact turns_sealTo atLedger _

theorem standing_reactivate {atLedger : LedgerArgument}
    (expiring : subscription.currentState = .expiring)
    (accepts : Accepts faults world subscription atLedger) :
    ((BackstopSubscription.reactivate atLedger).run (respond faults) world
      subscription).state.standing = (.active, subscription.announcedLapseLedger) := by
  have legal : subscription.currentState.isLegalTransition .active = true := by
    rw [expiring]
    rfl
  rcases run_writeOpenWindow atLedger with refused | writes
  · exact absurd refused (run_writeOpenWindow_of_accepts accepts)
  · rcases writes with ⟨ledger, coverage, -, -, -, writes⟩
    rw [BackstopSubscription.reactivate, Async.bind_eq, Async.run_bind,
      BackstopSubscription.transition, Async.bind_eq, Async.run_bind, Async.run_get,
      Async.Outcome.andThen_ok, if_pos legal, Async.bind_eq, Async.run_bind, writes]
    exact standing_fire _

end Runs

/-! ## Episodes -/

def Entered (start : Course) (operations : List (Operation × Faults)) (announced : Int) : Prop :=
  ∃ front atLedger faults back,
    operations = front ++ (.beginExpiring atLedger (.whole announced), faults) :: back ∧
      (start.run front).subscription.currentState ≠ .expiring ∧
      ∀ during, during <+: back →
        (start.run (front ++ (.beginExpiring atLedger (.whole announced), faults) ::
          during)).subscription.currentState = .expiring

/-- A lapse is announced exactly while the subscription expires, and it is the one of the call
that entered the episode. -/
structure Announces (start : Course) (operations : List (Operation × Faults)) : Prop where
  present_iff : (start.run operations).subscription.announcedLapseLedger ≠ none ↔
    (start.run operations).subscription.currentState = .expiring
  entered : (start.run operations).subscription.currentState = .expiring →
    ∃ announced, (start.run operations).subscription.announcedLapseLedger = some announced ∧
      Entered start operations announced

def Recalls (course : Course) (operation : Operation) (faults : Faults) : Prop :=
  course.subscription.currentState = .expiring ∧ ∃ atLedger, operation = .reactivate atLedger ∧
    Accepts faults course.world course.subscription atLedger

section Episodes

variable {start : Course} {operations : List (Operation × Faults)} {operation : Operation}
  {faults : Faults}

theorem run_concat (start : Course) (operations : List (Operation × Faults))
    (operation : Operation) (faults : Faults) :
    start.run (operations ++ [(operation, faults)]) =
      (start.run operations).step operation faults := by
  rw [Course.run, List.foldl_append]
  rfl

variable {announced : Int} {state : SubscriptionState}

theorem Entered.concat (entered : Entered start operations announced)
    (stays : (start.run (operations ++ [(operation, faults)])).subscription.currentState =
      .expiring) : Entered start (operations ++ [(operation, faults)]) announced := by
  rcases entered with ⟨front, atLedger, entry, back, rfl, before, lasts⟩
  refine ⟨front, atLedger, entry, back ++ [(operation, faults)], ?_, before, ?_⟩
  · rw [List.append_assoc, List.cons_append]
  · intro during isDuring
    rcases List.prefix_concat_iff.mp isDuring with rfl | shorter
    · rw [List.append_assoc, List.cons_append] at stays
      exact stays
    · exact lasts during shorter

theorem entered_of_begin {atLedger : LedgerArgument}
    (before : (start.run operations).subscription.currentState ≠ .expiring)
    (expiring : (start.run (operations ++ [(.beginExpiring atLedger (.whole announced),
      faults)])).subscription.currentState = .expiring) :
    Entered start (operations ++ [(.beginExpiring atLedger (.whole announced), faults)])
      announced := by
  refine ⟨operations, atLedger, faults, [], rfl, before, ?_⟩
  intro during isDuring
  rw [List.prefix_nil.mp isDuring]
  exact expiring

theorem not_expiring_of_legal (legal : state.isLegalTransition .expiring = true) :
    state ≠ .expiring := by
  rintro rfl
  cases legal

theorem announces_quiet (standing : (start.run operations).subscription.standing = (state, none))
    (other : state ≠ .expiring) : Announces start operations := by
  have isState : (start.run operations).subscription.currentState = state :=
    congrArg Prod.fst standing
  have notAnnounced : (start.run operations).subscription.announcedLapseLedger = none :=
    congrArg Prod.snd standing
  rw [← isState] at other
  exact ⟨iff_of_false (fun present => present notAnnounced) other,
    fun expiring => absurd expiring other⟩

theorem Announces.stays (announces : Announces start operations)
    (same : (start.run (operations ++ [(operation, faults)])).subscription.standing =
      (start.run operations).subscription.standing) :
    Announces start (operations ++ [(operation, faults)]) := by
  have state := congrArg Prod.fst same
  have announced := congrArg Prod.snd same
  dsimp only [BackstopSubscription.standing] at state announced
  constructor
  · rw [state, announced]
    exact announces.present_iff
  · intro expiring
    rcases announces.entered (state ▸ expiring) with ⟨lapse, isAnnounced, entered⟩
    exact ⟨lapse, announced.trans isAnnounced, entered.concat expiring⟩

theorem Announces.concat (announces : Announces start operations)
    (fair : ¬ Recalls (start.run operations) operation faults) :
    Announces start (operations ++ [(operation, faults)]) := by
  have turns := @turns_operation faults (start.run operations).world
    (start.run operations).subscription operation
  have made : (start.run (operations ++ [(operation, faults)])).subscription =
      ((start.run operations).step operation faults).subscription := by
    rw [run_concat]
  rcases turns with same | ⟨legal, accepts, moved⟩
  · exact announces.stays ((congrArg BackstopSubscription.standing made).trans same)
  · have standing := (congrArg BackstopSubscription.standing made).trans moved
    cases operation with
    | renew atLedger | lapse atLedger | cancel atLedger =>
        exact announces_quiet standing (by decide)
    | sealTo atLedger =>
        rw [Operation.aim, not_legal_self] at legal
        cases legal
    | beginExpiring atLedger lapsesAtLedger =>
        cases lapsesAtLedger with
        | other text =>
            rw [Operation.aim, not_legal_self] at legal
            cases legal
        | whole lapse =>
            have state := congrArg Prod.fst standing
            have announced := congrArg Prod.snd standing
            refine ⟨iff_of_true ?_ state, fun _ => ⟨lapse, announced, ?_⟩⟩
            · exact fun absent => Option.some_ne_none lapse (announced.symm.trans absent)
            · exact entered_of_begin (not_expiring_of_legal legal) state
    | reactivate atLedger =>
        have before : (start.run operations).subscription.currentState ≠ .expiring :=
          fun expiring => fair ⟨expiring, atLedger, rfl, accepts⟩
        have absent : (start.run operations).subscription.announcedLapseLedger = none :=
          Classical.not_not.mp fun present => before (announces.present_iff.mp present)
        rw [Operation.aim, absent] at standing
        exact announces_quiet standing (by decide)

/-- A recall leaves an active subscription with an announced lapse. -/
theorem not_announces_of_recalls (announces : Announces start operations)
    (recalls : Recalls (start.run operations) operation faults) :
    ¬ Announces start (operations ++ [(operation, faults)]) := by
  rcases recalls with ⟨expiring, atLedger, rfl, accepts⟩
  rcases announces.entered expiring with ⟨lapse, isAnnounced, -⟩
  have standing : (start.run (operations ++ [(.reactivate atLedger,
      faults)])).subscription.standing = (.active, some lapse) := by
    rw [run_concat, ← isAnnounced]
    exact standing_reactivate expiring accepts
  intro announcesToo
  have active := congrArg Prod.fst standing
  have announced := congrArg Prod.snd standing
  have stillExpiring := announcesToo.present_iff.mp fun absent =>
    Option.some_ne_none lapse (announced.symm.trans absent)
  cases active.symm.trans stillExpiring

end Episodes

/-! ## Runs -/

/-- Behind every call of a course the announcement shows the state and the episode if and only
if no call of it recalls a subscription that expires. -/
theorem announces_iff {subscriptionId tier : JsString} {windowLedgers atLedger : LedgerArgument}
    {subscription : BackstopSubscription}
    (activated : BackstopSubscription.activate subscriptionId tier windowLedgers atLedger =
      .ok subscription)
    (world : World) (operations : List (Operation × Faults)) :
    (∀ front, front <+: operations → Announces (Course.start world subscription) front) ↔
      ∀ front operation faults back, operations = front ++ (operation, faults) :: back →
        ¬ Recalls ((Course.start world subscription).run front) operation faults := by
  constructor
  · rintro announces front operation faults back rfl recalls
    have before := announces front (List.prefix_append _ _)
    refine not_announces_of_recalls before recalls (announces _ ⟨back, ?_⟩)
    rw [List.append_assoc, List.singleton_append]
  · intro fair front
    induction front using List.reverseRecOn with
    | nil =>
        intro _
        have standing : subscription.standing = (.active, none) :=
          Prod.ext (fresh_of_activate activated).2.1 (fresh_of_activate activated).2.2
        exact announces_quiet standing (by decide)
    | append_singleton front made induction =>
        rintro ⟨back, rfl⟩
        refine (induction ⟨made :: back, ?_⟩).concat (fair front made.1 made.2 back ?_)
        · rw [List.append_assoc, List.singleton_append]
        · rw [List.append_assoc, List.singleton_append]

/-! ### A recall, and a renewal -/

def sampleSubscription : BackstopSubscription :=
  ⟨js "s", js "basic", 100, .active, 1000, none⟩

/-- The lapse that was announced is still there in the active subscription. -/
theorem recalled :
    BackstopSubscription.activate (js "s") (js "basic") (.whole 100) (.whole 1000) =
        .ok sampleSubscription ∧
      ¬ Announces (Course.start ⟨.empty, []⟩ sampleSubscription)
        [(.beginExpiring (.whole 1100) (.whole 1250), ⟨none, none⟩),
          (.reactivate (.whole 1200), ⟨none, none⟩)] := by
  refine ⟨rfl, ?_⟩
  intro announces
  have present : ((Course.start ⟨.empty, []⟩ sampleSubscription).run
      [(.beginExpiring (.whole 1100) (.whole 1250), ⟨none, none⟩),
        (.reactivate (.whole 1200), ⟨none, none⟩)]).subscription.announcedLapseLedger ≠ none := by
    decide
  exact absurd (announces.present_iff.mp present) (by decide)

def renewedOperations : List (Operation × Faults) :=
  [(.beginExpiring (.whole 1100) (.whole 1250), ⟨none, some (js "down")⟩),
    (.sealTo (.whole 1200), ⟨some (js "down"), none⟩), (.renew (.whole 1200), ⟨none, none⟩)]

theorem renewed : Announces (Course.start ⟨.empty, []⟩ sampleSubscription) renewedOperations := by
  have activated : BackstopSubscription.activate (js "s") (js "basic") (.whole 100)
      (.whole 1000) = .ok sampleSubscription := rfl
  apply (announces_iff activated ⟨.empty, []⟩ renewedOperations).mpr _ _ List.prefix_rfl
  rintro front operation faults back split ⟨-, atLedger, rfl, -⟩
  have member : (Operation.reactivate atLedger, faults) ∈ renewedOperations := by
    rw [split]
    exact List.mem_append_right _ List.mem_cons_self
  simp [renewedOperations] at member

end Orbital.WorkerCore.Subscription
