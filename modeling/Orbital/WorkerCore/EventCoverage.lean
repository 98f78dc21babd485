import Orbital.WorkerCore.EventTrigger

/-! # The windows of a plan

Every matching event of a batch ends in one decision or in one skip, the windows of the
decisions lie behind each other, and what counts as an entry lies in one of them.
-/

namespace Orbital.WorkerCore.EventTrigger

open Foundation

variable {Payload : Type}

inductive Outcome
  | decided (decision : FireDecision)
  | skipped (skip : SkippedEvent)
  deriving DecidableEq

namespace Outcome

def decision : Outcome → Option FireDecision
  | .decided decision => some decision
  | .skipped _ => none

def skip : Outcome → Option SkippedEvent
  | .decided _ => none
  | .skipped skip => some skip

def isDuplicate : Outcome → Bool
  | .decided _ => false
  | .skipped skip => skip.reason = .duplicate

def conditionEventId : Outcome → Option JsString
  | .decided decision => some decision.conditionEventId
  | .skipped skip => skip.conditionEventId

def conditionLedger : Outcome → Option Int
  | .decided decision => some decision.conditionLedger
  | .skipped skip => skip.conditionLedger

end Outcome

structure Tiled (decisions : List FireDecision) : Prop where
  disjoint : decisions.Pairwise fun first second => first.deadlineLedger < second.conditionLedger
  ordered : decisions.Pairwise fun first second => first.conditionLedger < second.conditionLedger
  inhabited : ∀ decision ∈ decisions, decision.conditionLedger ≤ decision.deadlineLedger
  distinct : (decisions.map FireDecision.windowId).Nodup

namespace EventTriggerPlanner

variable (planner : EventTriggerPlanner Payload)

def Names (outcome : Outcome) (event : SourceEvent Payload) : Prop :=
  outcome.conditionEventId = eventIdentity event ∧ outcome.conditionLedger = ledgerOf event

structure Accounts (events : List (SourceEvent Payload)) (result : PlanResult)
    (outcomes : List (SourceEvent Payload × Outcome)) : Prop where
  matching : (outcomes.map Prod.fst).Perm (events.filter planner.predicate)
  decisions : outcomes.filterMap (fun entry => entry.2.decision) = result.decisions
  skipped : outcomes.filterMap (fun entry => entry.2.skip) = result.skipped
  names : ∀ entry ∈ outcomes, Names entry.2 entry.1

def MarksDuplicates (outcomes : List (SourceEvent Payload × Outcome)) : Prop :=
  ∀ front entry back, outcomes = front ++ entry :: back →
    (entry.2.isDuplicate = true ↔ ∃ identity ledger,
      planner.eligible entry.1 = some (identity, ledger) ∧
        ∃ earlier ∈ front, ∃ before, planner.eligible earlier.1 = some (identity, before))

def Covered (decisions : List FireDecision) (event : SourceEvent Payload) : Prop :=
  ∃ ledger, ledgerOf event = some ledger ∧ ∃ decision ∈ decisions,
    decision.conditionLedger ≤ ledger ∧ ledger ≤ decision.deadlineLedger

/-! ## One round -/

def outcome (state : PlanState) (event : SourceEvent Payload) : Option Outcome :=
  match planner.refusal event with
  | some skipped => some (.skipped skipped)
  | none =>
      (planner.eligible event).map fun entry =>
        if entry.1 ∈ state.seen then .skipped (duplicate entry)
        else if Cooldown.Covers state.openUntilLedger entry.2 then .skipped (alreadyOpen entry)
        else .decided (planner.decision entry)

def trace (state : PlanState) : List (SourceEvent Payload) → List (SourceEvent Payload × Outcome)
  | [] => []
  | event :: rest =>
      match planner.outcome state event with
      | none => trace (planner.consider state event) rest
      | some outcome => (event, outcome) :: trace (planner.consider state event) rest

theorem eligible_names {event : SourceEvent Payload} {entry : JsString × Int}
    (isEntry : planner.eligible event = some entry) :
    planner.predicate event = true ∧ some entry.1 = eventIdentity event ∧
      some entry.2 = ledgerOf event := by
  rw [eligible] at isEntry
  split at isEntry
  · rename_i isMatch
    split at isEntry
    · rename_i ledger identity hasLedger hasIdentity
      split at isEntry
      · cases isEntry
      · cases isEntry
        exact ⟨isMatch, hasIdentity.symm, hasLedger.symm⟩
    · cases isEntry
  · cases isEntry

theorem refusal_names {event : SourceEvent Payload} {skipped : SkippedEvent}
    (refused : planner.refusal event = some skipped) :
    planner.predicate event = true ∧ Names (.skipped skipped) event ∧
      Outcome.isDuplicate (.skipped skipped) = false := by
  rw [refusal] at refused
  split at refused
  · rename_i isMatch
    split at refused
    · rename_i hasLedger
      cases refused
      exact ⟨isMatch, ⟨rfl, hasLedger.symm⟩, rfl⟩
    · rename_i hasLedger hasIdentity
      cases refused
      exact ⟨isMatch, ⟨hasIdentity.symm, hasLedger.symm⟩, rfl⟩
    · rename_i hasLedger hasIdentity
      split at refused
      · cases refused
        exact ⟨isMatch, ⟨hasIdentity.symm, hasLedger.symm⟩, rfl⟩
      · cases refused
  · cases refused

theorem eligible_of_matching {event : SourceEvent Payload}
    (isMatch : planner.predicate event = true) (noRefusal : planner.refusal event = none) :
    ∃ entry, planner.eligible event = some entry := by
  rw [refusal, if_pos isMatch] at noRefusal
  rw [eligible, if_pos isMatch]
  split at noRefusal
  · cases noRefusal
  · cases noRefusal
  · rename_i ledger identity hasLedger hasIdentity
    rw [hasLedger, hasIdentity]
    split at noRefusal
    · cases noRefusal
    · rename_i active
      exact ⟨_, if_neg active⟩

structure Round (state : PlanState) (event : SourceEvent Payload) (outcome : Outcome) :
    Prop where
  isMatch : planner.predicate event = true
  decisions : (planner.consider state event).decisions =
    state.decisions ++ outcome.decision.toList
  skipped : (planner.consider state event).skipped = state.skipped ++ outcome.skip.toList
  names : Names outcome event
  refused : planner.eligible event = none →
    outcome.isDuplicate = false ∧ (planner.consider state event).seen = state.seen
  isEntry : ∀ entry, planner.eligible event = some entry →
    (outcome.isDuplicate = true ↔ entry.1 ∈ state.seen) ∧
      (planner.consider state event).seen =
        if entry.1 ∈ state.seen then state.seen else entry.1 :: state.seen

theorem round_of_eligible {state : PlanState} {event : SourceEvent Payload}
    {entry : JsString × Int} {outcome : Outcome} (isEntry : planner.eligible event = some entry)
    (decisions : (planner.consider state event).decisions =
      state.decisions ++ outcome.decision.toList)
    (skipped : (planner.consider state event).skipped = state.skipped ++ outcome.skip.toList)
    (identity : outcome.conditionEventId = some entry.1)
    (ledger : outcome.conditionLedger = some entry.2)
    (repeated : outcome.isDuplicate = true ↔ entry.1 ∈ state.seen)
    (seen : (planner.consider state event).seen =
      if entry.1 ∈ state.seen then state.seen else entry.1 :: state.seen) :
    planner.Round state event outcome := by
  rcases planner.eligible_names isEntry with ⟨isMatch, hasIdentity, hasLedger⟩
  refine ⟨isMatch, decisions, skipped,
    ⟨identity.trans hasIdentity, ledger.trans hasLedger⟩, ?_, ?_⟩
  · rw [isEntry]
    intro never
    cases never
  · intro other same
    rw [isEntry] at same
    cases same
    exact ⟨repeated, seen⟩

variable (state : PlanState) (events : List (SourceEvent Payload))

theorem outcome_cases (event : SourceEvent Payload) :
    (planner.outcome state event = none ∧ planner.predicate event = false ∧
      planner.eligible event = none ∧ planner.consider state event = state) ∨
    ∃ outcome, planner.outcome state event = some outcome ∧
      planner.Round state event outcome := by
  rw [outcome]
  rcases planner.consider_cases state event with
    ⟨noEntry, noRefusal, same⟩ | ⟨skipped, noEntry, refused, next⟩ |
      ⟨entry, isEntry, noRefusal, next⟩
  · left
    rw [noRefusal, noEntry]
    refine ⟨rfl, ?_, rfl, same⟩
    by_contra isMatch
    rcases planner.eligible_of_matching (Bool.eq_true_of_not_eq_false isMatch) noRefusal with
      ⟨entry, isEntry⟩
    rw [noEntry] at isEntry
    cases isEntry
  · right
    rw [refused]
    rcases planner.refusal_names refused with ⟨isMatch, names, isNew⟩
    refine ⟨_, rfl, isMatch, ?_, ?_, names, ?_, ?_⟩
    · rw [next]
      exact (List.append_nil _).symm
    · rw [next]
      rfl
    · intro _
      rw [next]
      exact ⟨isNew, rfl⟩
    · intro entry isEntry
      rw [noEntry] at isEntry
      cases isEntry
  · right
    rw [noRefusal, isEntry]
    by_cases old : entry.1 ∈ state.seen
    · rw [if_pos old] at next
      refine ⟨.skipped (duplicate entry), congrArg some (if_pos old),
        planner.round_of_eligible isEntry ?_ ?_ rfl rfl ?_ ?_⟩
      · rw [next]
        exact (List.append_nil _).symm
      · rw [next]
        rfl
      · exact ⟨fun _ => old, fun _ => rfl⟩
      · rw [next, if_pos old]
        rfl
    · rw [if_neg old] at next
      by_cases covered : Cooldown.Covers state.openUntilLedger entry.2
      · rw [if_pos covered] at next
        refine ⟨.skipped (alreadyOpen entry), congrArg some ((if_neg old).trans (if_pos covered)),
          planner.round_of_eligible isEntry ?_ ?_ rfl rfl ?_ ?_⟩
        · rw [next]
          exact (List.append_nil _).symm
        · rw [next]
          rfl
        · simp [Outcome.isDuplicate, alreadyOpen, old]
        · rw [next, if_neg old]
      · rw [if_neg covered] at next
        refine ⟨.decided (planner.decision entry),
          congrArg some ((if_neg old).trans (if_neg covered)),
          planner.round_of_eligible isEntry ?_ ?_ rfl rfl ?_ ?_⟩
        · rw [next]
          rfl
        · rw [next]
          exact (List.append_nil _).symm
        · simp [Outcome.isDuplicate, old]
        · rw [next, if_neg old]

theorem seen_of_round {state : PlanState} {event : SourceEvent Payload} {outcome : Outcome}
    (round : planner.Round state event outcome) (identity : JsString) :
    identity ∈ (planner.consider state event).seen ↔ identity ∈ state.seen ∨
      ∃ ledger, planner.eligible event = some (identity, ledger) := by
  cases isEntry : planner.eligible event with
  | none =>
      rw [(round.refused isEntry).2]
      simp
  | some entry =>
      rw [(round.isEntry entry isEntry).2]
      by_cases old : entry.1 ∈ state.seen
      · rw [if_pos old]
        constructor
        · exact Or.inl
        · rintro (inside | ⟨ledger, same⟩)
          · exact inside
          · cases same
            exact old
      · rw [if_neg old, List.mem_cons]
        constructor
        · rintro (rfl | inside)
          · exact Or.inr ⟨entry.2, rfl⟩
          · exact Or.inl inside
        · rintro (inside | ⟨ledger, same⟩)
          · exact Or.inr inside
          · cases same
            exact Or.inl rfl

/-! ## The whole loop -/

theorem trace_matching :
    (planner.trace state events).map Prod.fst = events.filter planner.predicate := by
  induction events generalizing state with
  | nil => rfl
  | cons event rest induction =>
      rw [trace]
      rcases planner.outcome_cases state event with
        ⟨none, noMatch, _⟩ | ⟨outcome, made, round⟩
      · rw [none, List.filter_cons_of_neg (by simp [noMatch])]
        exact induction _
      · rw [made, List.filter_cons_of_pos round.isMatch]
        exact congrArg (List.cons event) (induction _)

theorem foldl_trace :
    (events.foldl planner.consider state).decisions = state.decisions ++
        (planner.trace state events).filterMap (fun entry => entry.2.decision) ∧
      (events.foldl planner.consider state).skipped = state.skipped ++
        (planner.trace state events).filterMap (fun entry => entry.2.skip) := by
  induction events generalizing state with
  | nil => exact ⟨(List.append_nil _).symm, (List.append_nil _).symm⟩
  | cons event rest induction =>
      rw [List.foldl_cons, trace]
      rcases planner.outcome_cases state event with
        ⟨none, _, _, same⟩ | ⟨outcome, made, round⟩
      · rw [none, same]
        exact induction state
      · rcases induction (planner.consider state event) with ⟨decisions, skipped⟩
        rw [made, decisions, skipped, round.decisions, round.skipped, List.append_assoc,
          List.append_assoc]
        cases outcome with
        | decided decision | skipped skip => exact ⟨rfl, rfl⟩

theorem trace_names : ∀ entry ∈ planner.trace state events, Names entry.2 entry.1 := by
  induction events generalizing state with
  | nil =>
      intro entry never
      cases never
  | cons event rest induction =>
      rw [trace]
      rcases planner.outcome_cases state event with ⟨none, _⟩ | ⟨outcome, made, round⟩
      · rw [none]
        exact induction _
      · rw [made]
        intro entry member
        rcases List.mem_cons.mp member with rfl | further
        · exact round.names
        · exact induction _ entry further

theorem trace_duplicates (front : List (SourceEvent Payload × Outcome))
    (entry : SourceEvent Payload × Outcome) (back : List (SourceEvent Payload × Outcome))
    (split : planner.trace state events = front ++ entry :: back) :
    entry.2.isDuplicate = true ↔ ∃ identity ledger,
      planner.eligible entry.1 = some (identity, ledger) ∧ (identity ∈ state.seen ∨
        ∃ earlier ∈ front, ∃ before, planner.eligible earlier.1 = some (identity, before)) := by
  induction events generalizing state front with
  | nil =>
      have never := congrArg List.length split
      simp [trace] at never
  | cons event rest induction =>
      rw [trace] at split
      rcases planner.outcome_cases state event with
        ⟨none, _, _, same⟩ | ⟨outcome, made, round⟩
      · rw [none, same] at split
        exact induction state front split
      · rw [made] at split
        cases front with
        | nil =>
            cases split
            cases isEntry : planner.eligible event with
            | none =>
                have isNew := (round.refused isEntry).1
                simp [isNew]
            | some found =>
                rcases found with ⟨identity, ledger⟩
                have repeated := (round.isEntry _ isEntry).1
                simp [repeated]
        | cons first front =>
            rcases List.cons.inj split with ⟨rfl, inRest⟩
            rw [induction _ front inRest]
            apply exists_congr
            intro identity
            apply exists_congr
            intro ledger
            apply and_congr_right
            intro _
            rw [planner.seen_of_round round identity, or_assoc]
            simp [or_comm]

theorem trace_firsts :
    ∀ entry ∈ planner.trace state events, entry.2.isDuplicate = false →
      ∀ found, planner.eligible entry.1 = some found →
        found ∈ Cooldown.firsts state.seen (planner.entries events) := by
  induction events generalizing state with
  | nil =>
      intro entry never
      cases never
  | cons event rest induction =>
      rw [trace, entries, List.filterMap_cons]
      rcases planner.outcome_cases state event with
        ⟨none, _, noEntry, same⟩ | ⟨outcome, made, round⟩
      · rw [none, noEntry, same]
        exact induction state
      · rw [made]
        intro entry member isNew found isFound
        rcases List.mem_cons.mp member with rfl | further
        · have firstSeen : found.1 ∉ state.seen := by
            intro old
            rw [(round.isEntry found isFound).1.mpr old] at isNew
            cases isNew
          dsimp only at isFound
          rw [isFound, Cooldown.firsts, if_neg firstSeen]
          exact List.mem_cons_self
        · have inRest := induction (planner.consider state event) entry further isNew found isFound
          cases isEntry : planner.eligible event with
          | none =>
              rw [(round.refused isEntry).2] at inRest
              exact inRest
          | some head =>
              rw [(round.isEntry head isEntry).2] at inRest
              dsimp only
              rw [Cooldown.firsts]
              by_cases old : head.1 ∈ state.seen
              · rw [if_pos old] at inRest ⊢
                exact inRest
              · rw [if_neg old] at inRest ⊢
                exact List.mem_cons_of_mem head inRest

theorem plan_tiled : Tiled (planner.plan events).decisions := by
  have times := Cooldown.times_ordered (planner.entries_ordered events)
  have keys := (Cooldown.nodup_keys_firsts [] (planner.entries (ordered events))).sublist
    ((Cooldown.opened_sublist planner.deadline none _).map Prod.fst)
  rw [plan_decisions]
  constructor
  · have apart := @Cooldown.openings_apart _ _ planner.deadline none _ times
    rw [← Cooldown.map_opened, List.pairwise_map] at apart
    exact List.pairwise_map.mpr apart
  · have increasing := Cooldown.pairwise_openings planner.later none times
    rw [← Cooldown.map_opened, List.pairwise_map] at increasing
    exact List.pairwise_map.mpr increasing
  · intro decision member
    rcases List.mem_map.mp member with ⟨entry, _, rfl⟩
    exact planner.later entry.2
  · rw [List.map_map]
    have injective : Function.Injective fun identity : JsString =>
        planner.definition.workerId ++ js ":" ++ identity := by
      intro first second same
      exact List.append_cancel_left same
    have ids := keys.map injective
    rw [List.map_map] at ids
    exact ids

/-- Every matching event has one place in the plan, and every one with an identity and a
ledger after the activation, unless it repeats an identity, lies in one of the windows, which
lie behind each other. -/
theorem plan_covers (events : List (SourceEvent Payload)) :
    Tiled (planner.plan events).decisions ∧ ∃ outcomes,
      planner.Accounts events (planner.plan events) outcomes ∧
      planner.MarksDuplicates outcomes ∧
      ∀ entry ∈ outcomes, entry.2.isDuplicate = false → eventIdentity entry.1 ≠ none →
        (∃ ledger, ledgerOf entry.1 = some ledger ∧
          planner.definition.activationLedger ≤ ledger) →
        Covered (planner.plan events).decisions entry.1 := by
  refine ⟨planner.plan_tiled events, planner.trace .initial (ordered events), ?_, ?_, ?_⟩
  · rcases planner.foldl_trace .initial (ordered events) with ⟨decisions, skipped⟩
    constructor
    · rw [trace_matching]
      exact (ordered_perm events).filter _
    · rw [plan, decisions]
      rfl
    · rw [plan, skipped]
      rfl
    · exact planner.trace_names .initial (ordered events)
  · intro front entry back split
    rw [planner.trace_duplicates .initial (ordered events) front entry back split]
    simp [PlanState.initial]
  · rintro entry member isNew hasIdentity ⟨ledger, hasLedger, active⟩
    have isMatch : planner.predicate entry.1 = true := by
      have inside := List.mem_map_of_mem (f := Prod.fst) member
      rw [trace_matching] at inside
      exact (List.mem_filter.mp inside).2
    rcases Option.ne_none_iff_exists'.mp hasIdentity with ⟨identity, isIdentity⟩
    have isEntry : planner.eligible entry.1 = some (identity, ledger) := by
      rw [eligible, if_pos isMatch, hasLedger, isIdentity]
      exact if_neg (not_lt.mpr active)
    have first := planner.trace_firsts .initial (ordered events) entry member isNew _ isEntry
    have sorted := (planner.entries_ordered events).sublist (Cooldown.firsts_sublist [] _)
    rcases @Cooldown.covers_opened _ _ _ _ planner.later none _ sorted _ first with
      never | ⟨opener, opens, window⟩
    · cases never
    · refine ⟨ledger, hasLedger, planner.decision opener, ?_, window⟩
      rw [plan_decisions]
      exact List.mem_map_of_mem opens

/-- An event without an id and a transaction is skipped, in no window. -/
theorem unidentified :
    ¬ ∀ (planner : EventTriggerPlanner Unit) (events : List (SourceEvent Unit)),
      Tiled (planner.plan events).decisions ∧ ∃ outcomes,
        planner.Accounts events (planner.plan events) outcomes ∧
        planner.MarksDuplicates outcomes ∧
        ∀ entry ∈ outcomes, entry.2.isDuplicate = false →
          (∃ ledger, ledgerOf entry.1 = some ledger ∧
            planner.definition.activationLedger ≤ ledger) →
          Covered (planner.plan events).decisions entry.1 := by
  intro covers
  rcases covers exampleTrigger [⟨none, none, .finite 5, ()⟩] with
    ⟨_, outcomes, accounts, _, covered⟩
  have noDecision : (exampleTrigger.plan [⟨none, none, .finite 5, ()⟩]).decisions = [] := by
    decide
  have oneSkip : (exampleTrigger.plan [⟨none, none, .finite 5, ()⟩]).skipped =
      [⟨.missingEventId, none, some 5⟩] := by decide
  rcases List.map_eq_singleton_iff.mp (List.perm_singleton.mp accounts.matching) with
    ⟨⟨event, outcome⟩, rfl, rfl⟩
  have isSkip : outcome = .skipped ⟨.missingEventId, none, some 5⟩ := by
    have decisions := accounts.decisions
    have skipped := accounts.skipped
    rw [noDecision] at decisions
    rw [oneSkip] at skipped
    cases outcome with
    | decided decision => cases decisions
    | skipped skip =>
        rw [List.cons.inj skipped |>.1]
  rcases covered _ List.mem_cons_self (by rw [isSkip]; rfl) ⟨5, rfl, by decide⟩ with
    ⟨ledger, _, decision, inside, _⟩
  rw [noDecision] at inside
  cases inside

end EventTriggerPlanner

end Orbital.WorkerCore.EventTrigger
