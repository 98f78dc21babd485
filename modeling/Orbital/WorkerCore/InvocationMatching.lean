import Orbital.Foundation.Selection
import Orbital.WorkerCore.ComputationVerdicts

/-! # How a window is resolved

`resolveWindow` of `WorkerVerificationEngine.ts` goes through all invocations once. It ends
with the earliest that succeeded, and knows whether one was rejected.
-/

namespace Orbital.WorkerCore.ComputationTrigger

open Foundation
open EventTrigger (LedgerField)

/-! ## Attempts -/

section Attempts

variable (worker : WorkerDefinition) (window : Window)

def attempt? (event : InvocationEvent) : Option Int :=
  if isInvocationOf worker event then
    match event.ledger with
    | .finite ledger => if ledger < window.conditionLedger then none else some ledger
    | _ => none
  else none

def success? (event : InvocationEvent) : Option Int :=
  if event.inSuccessfulContractCall = some false then none else attempt? worker window event

def rejection? (event : InvocationEvent) : Option Int :=
  if event.inSuccessfulContractCall = some false then attempt? worker window event else none

def earlier {Tag : Type} (first second : Int × Tag) : Bool :=
  first.1 < second.1

def successes (events : List InvocationEvent) : List (Int × Option JsString) :=
  events.filterMap fun event => (success? worker window event).map (·, event.txHash)

def anyRejected (events : List InvocationEvent) : Bool :=
  events.any fun event => (rejection? worker window event).isSome

variable {worker window}

theorem consider_of_none {event : InvocationEvent}
    (none : attempt? worker window event = none) (search : Search) :
    search.consider worker window event = search := by
  rw [attempt?] at none
  rw [Search.consider]
  split
  · rename_i invocation
    rw [if_pos invocation] at none
    cases isLedger : event.ledger with
    | missing | other text => rfl
    | finite ledger =>
        rw [isLedger] at none
        dsimp only at none ⊢
        split at none
        · rename_i early
          exact if_pos early
        · cases none
  · rfl

theorem consider_of_some {event : InvocationEvent} {ledger : Int}
    (some : attempt? worker window event = some ledger) (search : Search) :
    search.consider worker window event =
      if event.inSuccessfulContractCall = .some false then
        { search with sawRejectedAttempt := true }
      else { search with best := keepBetter earlier search.best (ledger, event.txHash) } := by
  rw [attempt?] at some
  rw [Search.consider]
  split at some
  · rename_i invocation
    rw [if_pos invocation]
    cases isLedger : event.ledger with
    | missing | other text =>
        rw [isLedger] at some
        cases some
    | finite found =>
        rw [isLedger] at some
        dsimp only at some ⊢
        split at some
        · cases some
        · rename_i notEarly
          cases some
          rw [if_neg notEarly]
          apply if_congr Iff.rfl rfl
          rcases search with ⟨best, sawRejectedAttempt⟩
          cases best with
          | none => rfl
          | some best =>
              dsimp only
              rw [keepBetter, earlier]
              by_cases before : ledger < best.1
              · rw [if_pos before, if_pos (decide_eq_true before)]
              · rw [if_neg before, if_neg (by simp [before])]
  · cases some

theorem mem_successes {events : List InvocationEvent} {success : Int × Option JsString} :
    success ∈ successes worker window events ↔
      ∃ event ∈ events, success? worker window event = some success.1 ∧
        event.txHash = success.2 := by
  rw [successes, List.mem_filterMap]
  apply exists_congr
  intro event
  apply and_congr_right
  intro _
  rw [Option.map_eq_some_iff]
  constructor
  · rintro ⟨ledger, succeeded, rfl⟩
    exact ⟨succeeded, rfl⟩
  · rintro ⟨succeeded, isHash⟩
    exact ⟨success.1, succeeded, by rw [isHash]⟩

theorem compares_earlier {Tag : Type} :
    Compares (@earlier Tag) fun first second => first.1 ≤ second.1 where
  refl := fun _ => le_refl _
  trans := le_trans
  taken := fun taken => le_of_lt (of_decide_eq_true taken)
  passed := fun passed => not_lt.mp (of_decide_eq_false passed)

variable (worker window)

theorem foldl_consider (events : List InvocationEvent) (search : Search) :
    events.foldl (Search.consider worker window) search = {
      best := (successes worker window events).foldl (keepBetter earlier) search.best
      sawRejectedAttempt := search.sawRejectedAttempt || anyRejected worker window events } := by
  induction events generalizing search with
  | nil => simp [successes, anyRejected]
  | cons event rest induction =>
      rw [List.foldl_cons, induction, successes, successes, anyRejected, anyRejected,
        List.filterMap_cons, List.any_cons, success?, rejection?]
      cases attempted : attempt? worker window event with
      | none =>
          rw [consider_of_none attempted]
          simp
      | some ledger =>
          rw [consider_of_some attempted]
          by_cases rejected : event.inSuccessfulContractCall = some false
          · rw [if_pos rejected, if_pos rejected, if_pos rejected]
            simp
          · rw [if_neg rejected, if_neg rejected, if_neg rejected]
            simp

theorem resolveWindow_eq (events : List InvocationEvent) (toLedger horizon : Int) :
    resolveWindow worker events toLedger horizon window =
      if toLedger - window.deadlineLedger < horizon then
        ⟨window, .pending, none, none, none, none⟩
      else
        match pick earlier (successes worker window events) with
        | some (ledger, txHash) =>
            if ledger ≤ window.deadlineLedger then
              ⟨window, .fired, none, some ledger, txHash, none⟩
            else
              ⟨window, .late, none, some ledger, txHash, some (ledger - window.deadlineLedger)⟩
        | none =>
            if anyRejected worker window events then
              ⟨window, .notDue, some .rejectedEarlyCall, none, none, none⟩
            else ⟨window, .missed, none, none, none, none⟩ := by
  rw [resolveWindow, foldl_consider]
  rfl

end Attempts

end Orbital.WorkerCore.ComputationTrigger

/-! ## The invocation that determines a verdict

`resolveWindow` of `WorkerVerificationEngine.ts` looks for the invocation of every window
anew. Nothing keeps an invocation that has counted for one window from counting for another.
-/

namespace Orbital.WorkerCore.ComputationTrigger

open Foundation

section Matching

variable (worker : WorkerDefinition) (events : List InvocationEvent) (toLedger horizon : Int)

/-- The verdict of a window is a decided one, and the invocation alone gives it as well. -/
def Decides (window : Window) (event : InvocationEvent) : Prop :=
  resolveWindow worker [event] toLedger horizon window =
      resolveWindow worker events toLedger horizon window ∧
    (resolveWindow worker events toLedger horizon window).status ≠ .pending ∧
      (resolveWindow worker events toLedger horizon window).status ≠ .missed

/-- The invocation at a place of the list determines the verdict of a window: it is the
first that gives this verdict. -/
def Determines (window : Window) (place : Nat) : Prop :=
  (∃ event ∈ events[place]?, Decides worker events toLedger horizon window event) ∧
    ∀ earlier < place, ∀ event ∈ events[earlier]?,
      ¬Decides worker events toLedger horizon window event

/-- The search for the verdict ends with the invocation at a place: it is the earliest
success, or there is none and it is the first attempt that was rejected. -/
def Finds (window : Window) (place : Nat) : Prop :=
  ¬toLedger - window.deadlineLedger < horizon ∧
    (Leads (success? worker window) events place ∨
      ((∀ event ∈ events, success? worker window event = none) ∧
        Leads (fun event => (rejection? worker window event).map fun _ => ()) events place))

structure OneToOne (windows : Set Window) : Prop where
  window : ∀ first ∈ windows, ∀ second ∈ windows, ∀ place,
    Determines worker events toLedger horizon first place →
      Determines worker events toLedger horizon second place → first = second
  invocation : ∀ window ∈ windows, ∀ first second,
    Determines worker events toLedger horizon window first →
      Determines worker events toLedger horizon window second → first = second

/-- What counts for the later of two windows does not count for the earlier one, because
that has an attempt of its own. -/
structure Apart (first second : Window) : Prop where
  success : (∃ event ∈ events, (success? worker second event).isSome) →
    ∃ event ∈ events, ∃ ledger ∈ success? worker first event, ledger < second.conditionLedger
  rejection : (∀ event ∈ events, success? worker first event = none) →
    ∀ (place : Nat) (event : InvocationEvent), events[place]? = some event →
      (rejection? worker second event).isSome →
        ∃ earlier < place, ∃ other, events[earlier]? = some other ∧
          ∃ ledger ∈ rejection? worker first other, ledger < second.conditionLedger

variable {worker events toLedger horizon}

theorem rejection?_of_success {window other : Window} {event : InvocationEvent} {ledger : Int}
    (succeeded : success? worker window event = some ledger) :
    rejection? worker other event = none := by
  rw [success?] at succeeded
  split at succeeded
  · cases succeeded
  · rename_i notRejected
    rw [rejection?, if_neg notRejected]

theorem leads_rejection {window : Window} {place : Nat}
    (leads : Leads (fun event => (rejection? worker window event).map fun _ => ()) events place) :
    ∃ event ledger, events[place]? = some event ∧ rejection? worker window event = some ledger ∧
      ∀ earlier < place, ∀ other, events[earlier]? = some other →
        rejection? worker window other = none := by
  rcases leads with ⟨event, key, atPlace, keyed, least⟩
  rcases Option.map_eq_some_iff.mp keyed with ⟨ledger, rejected, _⟩
  refine ⟨event, ledger, atPlace, rejected, ?_⟩
  intro earlier before other atEarlier
  cases found : rejection? worker window other with
  | none => rfl
  | some later =>
      have otherKeyed : (rejection? worker window other).map (fun _ => ()) = some () := by
        rw [found, Option.map_some]
      exact absurd ((least earlier other () atEarlier otherKeyed).2 before) (lt_irrefl _)

theorem finds_unique {window : Window} {first second : Nat}
    (finds : Finds worker events toLedger horizon window first)
    (findsToo : Finds worker events toLedger horizon window second) :
    first = second := by
  rcases finds with ⟨_, leads | ⟨noSuccess, leads⟩⟩
  · rcases findsToo with ⟨_, leadsToo | ⟨noSuccess, _⟩⟩
    · exact leads_unique leads leadsToo
    · rcases leads with ⟨event, ledger, atPlace, succeeded, _⟩
      rw [noSuccess event (List.mem_of_getElem? atPlace)] at succeeded
      cases succeeded
  · rcases findsToo with ⟨_, leadsToo | ⟨_, leadsToo⟩⟩
    · rcases leadsToo with ⟨event, ledger, atPlace, succeeded, _⟩
      rw [noSuccess event (List.mem_of_getElem? atPlace)] at succeeded
      cases succeeded
    · exact leads_unique leads leadsToo

/-! ## What the search ends with -/

section Found

variable {window : Window} {place : Nat} {event : InvocationEvent}

theorem pick_of_leads (leads : Leads (success? worker window) events place)
    (atPlace : events[place]? = some event) :
    ∃ ledger, success? worker window event = some ledger ∧
      pick earlier (successes worker window events) = some (ledger, event.txHash) := by
  rcases leads with ⟨leader, ledger, isLeader, succeeded, least⟩
  cases atPlace.symm.trans isLeader
  refine ⟨ledger, succeeded, ?_⟩
  rcases List.getElem?_eq_some_iff.mp atPlace with ⟨within, isEvent⟩
  have cut : events = events.take place ++ event :: events.drop (place + 1) := by
    rw [← isEvent, ← List.drop_eq_getElem_cons within, List.take_append_drop]
  have parts : successes worker window events =
      successes worker window (events.take place) ++
        (ledger, event.txHash) :: successes worker window (events.drop (place + 1)) := by
    conv_lhs => rw [cut]
    rw [successes, List.filterMap_append, List.filterMap_cons, succeeded]
    rfl
  rw [parts]
  apply pick_middle
  · intro other inside
    rcases mem_successes.mp inside with ⟨found, member, foundSucceeded, -⟩
    rcases List.mem_iff_getElem?.mp member with ⟨number, atNumber⟩
    rw [List.getElem?_take] at atNumber
    split at atNumber
    · rename_i before
      exact decide_eq_true ((least number found _ atNumber foundSucceeded).2 before)
    · cases atNumber
  · intro other inside
    rcases mem_successes.mp inside with ⟨found, member, foundSucceeded, -⟩
    rcases List.mem_iff_getElem?.mp member with ⟨number, atNumber⟩
    rw [List.getElem?_drop] at atNumber
    exact decide_eq_false (not_lt.mpr (least _ found _ atNumber foundSucceeded).1)

theorem successes_eq_nil (noSuccess : ∀ event ∈ events, success? worker window event = none) :
    successes worker window events = [] := by
  rw [successes, List.filterMap_eq_nil_iff]
  intro event inside
  rw [noSuccess event inside, Option.map_none]

/-- The verdict that an invocation gives alone has the ledger of its success, and speaks of
a rejected call only if it was rejected. -/
theorem resolveWindow_singleton (decided : ¬toLedger - window.deadlineLedger < horizon) :
    (resolveWindow worker [event] toLedger horizon window).invocationLedger =
        success? worker window event ∧
      ((resolveWindow worker [event] toLedger horizon window).status = .notDue →
        (rejection? worker window event).isSome) := by
  rw [resolveWindow_eq, if_neg decided, anyRejected, List.any_cons, List.any_nil, Bool.or_false]
  cases succeeded : success? worker window event with
  | none =>
      rw [successes_eq_nil (List.forall_mem_singleton.mpr succeeded)]
      dsimp only [pick, List.foldl_nil]
      split
      · rename_i rejected
        exact ⟨rfl, fun _ => rejected⟩
      · exact ⟨rfl, fun notDue => nomatch notDue⟩
  | some ledger =>
      have alone : successes worker window [event] = [(ledger, event.txHash)] := by
        rw [successes, List.filterMap_cons, succeeded]
        rfl
      rw [alone]
      dsimp only [pick, List.foldl_cons, List.foldl_nil, keepBetter]
      split
      · exact ⟨rfl, fun notDue => nomatch notDue⟩
      · exact ⟨rfl, fun notDue => nomatch notDue⟩

theorem Finds.decides (finds : Finds worker events toLedger horizon window place)
    (atPlace : events[place]? = some event) :
    Decides worker events toLedger horizon window event := by
  rcases finds with ⟨decided, leads | ⟨noSuccess, leads⟩⟩
  · rcases pick_of_leads leads atPlace with ⟨ledger, succeeded, picked⟩
    have alone : pick earlier (successes worker window [event]) = some (ledger, event.txHash) := by
      rw [successes, List.filterMap_cons, succeeded]
      rfl
    rw [Decides, resolveWindow_eq, resolveWindow_eq, if_neg decided, if_neg decided, picked, alone]
    dsimp only
    split
    · exact ⟨rfl, nofun, nofun⟩
    · exact ⟨rfl, nofun, nofun⟩
  · rcases leads_rejection leads with ⟨found, ledger, isFound, rejected, -⟩
    cases atPlace.symm.trans isFound
    have inside := List.mem_of_getElem? atPlace
    have present : (rejection? worker window event).isSome := by
      rw [rejected, Option.isSome_some]
    have any : anyRejected worker window events = true :=
      List.any_eq_true.mpr ⟨event, inside, present⟩
    have alone : anyRejected worker window [event] = true :=
      List.any_eq_true.mpr ⟨event, List.mem_cons_self, present⟩
    rw [Decides, resolveWindow_eq, resolveWindow_eq, if_neg decided, if_neg decided,
      successes_eq_nil noSuccess,
      successes_eq_nil (List.forall_mem_singleton.mpr (noSuccess event inside))]
    dsimp only [pick, List.foldl_nil]
    rw [any, alone]
    exact ⟨rfl, nofun, nofun⟩

theorem Finds.isInvocation (finds : Finds worker events toLedger horizon window place) :
    ∃ event, events[place]? = some event := by
  rcases finds.2 with ⟨leader, _, atPlace, _⟩ | ⟨_, leader, _, atPlace, _⟩
  · exact ⟨leader, atPlace⟩
  · exact ⟨leader, atPlace⟩

theorem Finds.not_decides (finds : Finds worker events toLedger horizon window place)
    {earlier : Nat} (before : earlier < place) (atEarlier : events[earlier]? = some event) :
    ¬Decides worker events toLedger horizon window event := by
  rintro ⟨same, -⟩
  have decided := finds.1
  rcases finds.isInvocation with ⟨leader, atPlace⟩
  have sameAlone := same.trans (finds.decides atPlace).1.symm
  have ledgers := congrArg WorkerFireVerdict.invocationLedger sameAlone
  rw [(resolveWindow_singleton decided).1, (resolveWindow_singleton decided).1] at ledgers
  rcases finds.2 with leads | ⟨noSuccess, leads⟩
  · rcases leads with ⟨found, ledger, isFound, succeeded, least⟩
    cases atPlace.symm.trans isFound
    rw [succeeded] at ledgers
    exact absurd ((least _ event ledger atEarlier ledgers).2 before) (lt_irrefl _)
  · rcases leads_rejection leads with ⟨found, ledger, isFound, rejected, noneBefore⟩
    cases atPlace.symm.trans isFound
    have status : (resolveWindow worker [leader] toLedger horizon window).status = .notDue := by
      rw [resolveWindow_eq, if_neg decided, successes_eq_nil (List.forall_mem_singleton.mpr
        (noSuccess leader (List.mem_of_getElem? atPlace))), anyRejected, List.any_cons, rejected]
      rfl
    rw [← sameAlone] at status
    have present := (resolveWindow_singleton decided).2 status
    rw [noneBefore earlier before event atEarlier] at present
    cases present

theorem exists_finds_iff :
    (∃ place, Finds worker events toLedger horizon window place) ↔
      (resolveWindow worker events toLedger horizon window).status ≠ .pending ∧
        (resolveWindow worker events toLedger horizon window).status ≠ .missed := by
  constructor
  · rintro ⟨place, finds⟩
    rcases finds.isInvocation with ⟨leader, atPlace⟩
    exact (finds.decides atPlace).2
  · rintro ⟨notPending, notMissed⟩
    rw [resolveWindow_eq] at notPending notMissed
    split at notPending
    · exact absurd rfl notPending
    · rename_i decided
      rw [if_neg decided] at notMissed
      by_cases success : ∃ event ∈ events, (success? worker window event).isSome
      · rcases success with ⟨event, inside, present⟩
        rcases Option.isSome_iff_exists.mp present with ⟨ledger, succeeded⟩
        rcases exists_leads inside succeeded with ⟨place, leads⟩
        exact ⟨place, decided, .inl leads⟩
      · have noSuccess : ∀ event ∈ events, success? worker window event = none :=
          fun event inside => Option.not_isSome_iff_eq_none.mp fun present =>
            success ⟨event, inside, present⟩
        rw [successes_eq_nil noSuccess] at notMissed
        dsimp only [pick, List.foldl_nil] at notMissed
        split at notMissed
        · rename_i any
          rcases List.any_eq_true.mp any with ⟨event, inside, present⟩
          rcases Option.isSome_iff_exists.mp present with ⟨ledger, rejected⟩
          have keyed : (rejection? worker window event).map (fun _ => ()) = some () := by
            rw [rejected, Option.map_some]
          have leader : ∃ place, Leads (fun event => (rejection? worker window event).map
              fun _ => ()) events place := exists_leads inside keyed
          rcases leader with ⟨place, leads⟩
          exact ⟨place, decided, .inr ⟨noSuccess, leads⟩⟩
        · exact absurd rfl notMissed

theorem determines_iff_finds :
    Determines worker events toLedger horizon window place ↔
      Finds worker events toLedger horizon window place := by
  constructor
  · rintro ⟨⟨event, atPlace, decides⟩, first⟩
    rcases exists_finds_iff.mpr decides.2 with ⟨found, finds⟩
    rcases Nat.lt_trichotomy place found with before | same | behind
    · exact absurd decides (finds.not_decides before atPlace)
    · exact same ▸ finds
    · rcases finds.isInvocation with ⟨leader, atFound⟩
      exact absurd (finds.decides atFound) (first found behind leader atFound)
  · intro finds
    rcases finds.isInvocation with ⟨leader, atPlace⟩
    exact ⟨⟨leader, atPlace, finds.decides atPlace⟩,
      fun earlier before event atEarlier => finds.not_decides before atEarlier⟩

/-- Exactly the pending and the missed windows have no invocation that determines them. -/
theorem exists_determines_iff :
    (∃ place, Determines worker events toLedger horizon window place) ↔
      (resolveWindow worker events toLedger horizon window).status ≠ .pending ∧
        (resolveWindow worker events toLedger horizon window).status ≠ .missed :=
  (exists_congr fun _ => determines_iff_finds).trans exists_finds_iff

end Found

/-! ## Two windows -/

section Two

variable {first second : Window}

theorem attempt?_later (later : first.conditionLedger ≤ second.conditionLedger)
    (event : InvocationEvent) :
    attempt? worker second event =
      (attempt? worker first event).filter fun ledger => second.conditionLedger ≤ ledger := by
  rw [attempt?, attempt?]
  split
  · cases event.ledger with
    | finite ledger =>
        dsimp only
        by_cases early : ledger < first.conditionLedger
        · rw [if_pos early, if_pos (lt_of_lt_of_le early later)]
          rfl
        · rw [if_neg early]
          by_cases between : ledger < second.conditionLedger
          · rw [if_pos between, Option.filter_some, if_neg (by simpa using between)]
          · rw [if_neg between, Option.filter_some, if_pos (by simpa using between)]
    | missing | other text => rfl
  · rfl

theorem success?_later (later : first.conditionLedger ≤ second.conditionLedger)
    (event : InvocationEvent) :
    success? worker second event =
      (success? worker first event).filter fun ledger => second.conditionLedger ≤ ledger := by
  rw [success?, success?, attempt?_later later]
  split
  · rfl
  · rfl

theorem rejection?_later (later : first.conditionLedger ≤ second.conditionLedger)
    (event : InvocationEvent) :
    rejection? worker second event =
      (rejection? worker first event).filter fun ledger => second.conditionLedger ≤ ledger := by
  rw [rejection?, rejection?, attempt?_later later]
  split
  · rfl
  · rfl

theorem Apart.not_shared (apart : Apart worker events first second)
    (later : first.conditionLedger ≤ second.conditionLedger) {place : Nat}
    (finds : Finds worker events toLedger horizon first place)
    (findsToo : Finds worker events toLedger horizon second place) : False := by
  rcases finds with ⟨_, leads | ⟨noSuccess, leads⟩⟩
  · rcases leads with ⟨event, ledger, atPlace, succeeded, least⟩
    rcases findsToo with ⟨_, leadsToo | ⟨_, leadsToo⟩⟩
    · rcases leadsToo with ⟨same, ledgerToo, atPlaceToo, succeededToo, _⟩
      cases atPlace.symm.trans atPlaceToo
      have inside := List.mem_of_getElem? atPlace
      rcases apart.success ⟨event, inside, by rw [succeededToo, Option.isSome_some]⟩ with
        ⟨other, otherInside, otherLedger, otherSucceeded, before⟩
      rcases List.mem_iff_getElem?.mp otherInside with ⟨number, atNumber⟩
      have atMost := (least number other otherLedger atNumber otherSucceeded).1
      rw [success?_later later, succeeded] at succeededToo
      have within := of_decide_eq_true (Option.filter_eq_some_iff.mp succeededToo).2
      rcases Option.filter_eq_some_iff.mp succeededToo with ⟨sameLedger, _⟩
      cases sameLedger
      omega
    · rcases leads_rejection leadsToo with ⟨same, ledgerToo, atPlaceToo, rejected, _⟩
      cases atPlace.symm.trans atPlaceToo
      rw [rejection?_of_success succeeded] at rejected
      cases rejected
  · rcases leads_rejection leads with ⟨event, ledger, atPlace, rejected, noneBefore⟩
    rcases findsToo with ⟨_, leadsToo | ⟨_, leadsToo⟩⟩
    · rcases leadsToo with ⟨same, ledgerToo, atPlaceToo, succeededToo, _⟩
      rw [success?_later later, noSuccess same (List.mem_of_getElem? atPlaceToo)] at succeededToo
      cases succeededToo
    · rcases leads_rejection leadsToo with ⟨same, ledgerToo, atPlaceToo, rejectedToo, _⟩
      have present : (rejection? worker second same).isSome := by
        rw [rejectedToo, Option.isSome_some]
      rcases apart.rejection noSuccess place same atPlaceToo present with
        ⟨earlier, before, other, atEarlier, otherLedger, otherRejected, _⟩
      rw [noneBefore earlier before other atEarlier] at otherRejected
      cases otherRejected

theorem apart_of_not_shared (later : first.conditionLedger ≤ second.conditionLedger)
    (decided : ¬toLedger - first.deadlineLedger < horizon)
    (decidedToo : ¬toLedger - second.deadlineLedger < horizon)
    (notShared : ∀ place, Finds worker events toLedger horizon first place →
      ¬Finds worker events toLedger horizon second place) :
    Apart worker events first second := by
  constructor
  · rintro ⟨event, inside, present⟩
    rcases Option.isSome_iff_exists.mp present with ⟨ledger, succeeded⟩
    rw [success?_later later] at succeeded
    rcases exists_leads inside (Option.filter_eq_some_iff.mp succeeded).1 with ⟨place, leads⟩
    rcases leads with ⟨leader, least, atPlace, isLeast, below⟩
    refine ⟨leader, List.mem_of_getElem? atPlace, least, isLeast, ?_⟩
    -- a leader behind the condition of the later window would lead for both
    apply lt_of_not_ge
    intro behind
    apply notShared place ⟨decided, Or.inl ⟨leader, least, atPlace, isLeast, below⟩⟩
    refine ⟨decidedToo, Or.inl ?_⟩
    apply Leads.narrow ⟨leader, least, atPlace, isLeast, below⟩ atPlace
    · rw [success?_later later, isLeast, Option.filter_some, if_pos (decide_eq_true behind)]
    · intro other value found
      rw [success?_later later] at found
      exact (Option.filter_eq_some_iff.mp found).1
  · intro noSuccess place event atPlace present
    rcases Option.isSome_iff_exists.mp present with ⟨ledger, rejected⟩
    have rejectedFirst := rejected
    rw [rejection?_later later] at rejectedFirst
    rcases Option.filter_eq_some_iff.mp rejectedFirst with ⟨isRejection, behind⟩
    have keyed : (rejection? worker first event).map (fun _ => ()) = some () := by
      rw [isRejection, Option.map_some]
    have leader : ∃ number,
        Leads (fun event => (rejection? worker first event).map fun _ => ()) events number :=
      exists_leads (List.mem_of_getElem? atPlace) keyed
    rcases leader with ⟨number, leads⟩
    rcases leads_rejection leads with ⟨head, headLedger, atNumber, headRejected, noneBefore⟩
    by_cases before : headLedger < second.conditionLedger
    · refine ⟨number, ?_, head, atNumber, headLedger, headRejected, before⟩
      apply lt_of_not_ge
      intro notBefore
      rcases lt_or_eq_of_le notBefore with earlier | same
      · rw [noneBefore place earlier event atPlace] at isRejection
        cases isRejection
      · rw [← same, atPlace] at atNumber
        cases atNumber
        cases isRejection.symm.trans headRejected
        exact absurd before (not_lt.mpr (of_decide_eq_true behind))
    · -- the first rejected attempt is behind the condition of the later window as well
      exfalso
      apply notShared number ⟨decided, Or.inr ⟨noSuccess, leads⟩⟩
      refine ⟨decidedToo, Or.inr ⟨?_, ?_⟩⟩
      · intro other inside
        rw [success?_later later, noSuccess other inside]
        rfl
      · apply leads.narrow atNumber
        · rw [rejection?_later later, headRejected, Option.filter_some,
            if_pos (by simpa using before)]
        · intro other value found
          rcases Option.map_eq_some_iff.mp found with ⟨otherLedger, otherRejected, _⟩
          rw [rejection?_later later] at otherRejected
          rw [(Option.filter_eq_some_iff.mp otherRejected).1, Option.map_some]

end Two

/-- The windows share no invocation if and only if any two that are not pending are apart. -/
theorem oneToOne_iff (worker : WorkerDefinition) (events : List InvocationEvent)
    (toLedger horizon : Int) (windows : Set Window) :
    OneToOne worker events toLedger horizon windows ↔
      ∀ first ∈ windows, ∀ second ∈ windows, first ≠ second →
        ¬toLedger - first.deadlineLedger < horizon →
          ¬toLedger - second.deadlineLedger < horizon →
            first.conditionLedger ≤ second.conditionLedger → Apart worker events first second := by
  constructor
  · intro oneToOne first member second memberToo different decided decidedToo later
    apply apart_of_not_shared later decided decidedToo
    intro place finds findsToo
    exact different (oneToOne.window first member second memberToo place
      (determines_iff_finds.mpr finds) (determines_iff_finds.mpr findsToo))
  · intro apart
    constructor
    · intro first member second memberToo place determines determinesToo
      rw [determines_iff_finds] at determines determinesToo
      by_contra different
      rcases le_total first.conditionLedger second.conditionLedger with later | later
      · exact (apart first member second memberToo different determines.1 determinesToo.1
          later).not_shared later determines determinesToo
      · exact (apart second memberToo first member (Ne.symm different) determinesToo.1
          determines.1 later).not_shared later determinesToo determines
    · intro window _ first second determines determinesToo
      exact finds_unique (determines_iff_finds.mp determines)
        (determines_iff_finds.mp determinesToo)

end Matching

/-! ## A late fire that is also in time -/

namespace Example

def early : Window :=
  ⟨js "w:a", js "w", 10, 12⟩

def next : Window :=
  ⟨js "w:b", js "w", 20, 22⟩

def fire : InvocationEvent where
  type := js "contract.invoked"
  contractId := some (js "C")
  function := some (js "run")
  ledger := .finite 21
  inSuccessfulContractCall := some true
  txHash := some (js "t")

/-- The fire at ledger 21 makes the first window late and the second one fired. -/
theorem one_fire_two_windows :
    ¬ ∀ (worker : WorkerDefinition) (events : List InvocationEvent) (toLedger horizon : Int)
      (windows : Set Window), OneToOne worker events toLedger horizon windows := by
  intro oneToOne
  have determines : ∀ window ∈ [early, next], Determines worker [fire] 30 0 window 0 := by
    intro window inside
    refine ⟨⟨fire, rfl, rfl, ?_⟩, fun earlier before => absurd before (Nat.not_lt_zero _)⟩
    revert window
    decide
  have same := (oneToOne worker [fire] 30 0 {early, next}).window early (by simp) next (by simp) 0
    (determines early (by simp)) (determines next (by simp))
  revert same
  decide

end Example

end Orbital.WorkerCore.ComputationTrigger
