import Orbital.PulseCore.EventEngine.AccountSubscriptions

/-! # The life of an account's watcher

A watcher lives as long as `subscribe` has been called more often for its address than
`unsubscribe`, unless it is stopped outright: by `unsubscribeAll`, which ignores the
reference counts, or by its own `stop`.
-/

namespace Orbital.PulseCore.EventEngine

open Orbital.Foundation

namespace AccountSubscriptions

variable {Predicate : Type}

/-! ## The maps stay well kept -/

variable {current next : AccountSubscriptions Predicate} {address : String} {number : Nat}

theorem WellKept.afterCounted (kept : WellKept current) {count : Nat}
    (registered : current.registry.get? address = some number) (positive : 0 < count)
    (change : Counted current address count next) : WellKept next where
  registered := by
    rw [change.registry, change.watchers]
    exact kept.registered
  counted := by
    intro other
    rw [change.refCounts, change.registry]
    split
    · rename_i same
      rw [same, registered]
      rfl
    · exact kept.counted other
  positive := by
    intro other value present
    rw [change.refCounts] at present
    split at present
    · cases present
      exact positive
    · exact kept.positive other value present
  filtered := by
    rw [change.registry, change.filters]
    exact kept.filtered

theorem WellKept.afterCreated (kept : WellKept current) {filter : Option Predicate}
    (absent : current.registry.get? address = none) (change : Created current address filter next) :
    WellKept next where
  registered := by
    intro other number
    rw [change.registry, change.watchers]
    split
    · rename_i same
      rw [same]
      constructor
      · intro registered
        cases registered
        exact List.getElem?_concat_length
      · intro isLive
        rw [List.getElem?_append] at isLive
        split at isLive
        · rename_i before
          have registered := (kept.registered address number).mpr isLive
          rw [absent] at registered
          cases registered
        · rename_i notBefore
          rcases List.getElem?_eq_some_iff.mp isLive with ⟨inside, _⟩
          rw [List.length_singleton] at inside
          congr 1
          omega
    · rename_i different
      rw [kept.registered other number]
      constructor
      · intro isLive
        rcases List.getElem?_eq_some_iff.mp isLive with ⟨inside, _⟩
        rw [List.getElem?_append_left inside]
        exact isLive
      · intro isLive
        rw [List.getElem?_append] at isLive
        split at isLive
        · exact isLive
        · rcases List.getElem?_eq_some_iff.mp isLive with ⟨inside, created⟩
          rw [List.getElem_singleton] at created
          cases created
          exact absurd rfl different
  counted := by
    intro other
    rw [change.refCounts, change.registry]
    split
    · rfl
    · exact kept.counted other
  positive := by
    intro other value present
    rw [change.refCounts] at present
    split at present
    · cases present
      exact Nat.one_pos
    · exact kept.positive other value present
  filtered := by
    intro other unregistered
    rw [change.registry] at unregistered
    rw [change.filters]
    split at unregistered
    · cases unregistered
    · rename_i different
      rw [if_neg different]
      exact kept.filtered other unregistered

theorem getElem?_set_stopped {watchers : List Watcher}
    (isLive : watchers[number]? = some { address := address, stopped := false }) (other : Nat) :
    (watchers.set number { address := address, stopped := true })[other]? =
      if other = number then some { address := address, stopped := true }
      else watchers[other]? := by
  rw [List.getElem?_set]
  by_cases same : number = other
  · rw [if_pos same, if_pos same.symm, if_pos (List.getElem?_eq_some_iff.mp isLive).1]
  · rw [if_neg same, if_neg (Ne.symm same)]

theorem WellKept.afterEnded (kept : WellKept current) (change : Ended current number address next) :
    WellKept next where
  registered := by
    intro other watcher
    rw [change.registry, change.watchers, getElem?_set_stopped change.live]
    have registered := (kept.registered address number).mpr change.live
    split
    · rename_i same
      constructor
      · intro isNone
        cases isNone
      · intro isLive
        split at isLive
        · cases isLive
        · rename_i different
          have registeredToo := (kept.registered other watcher).mpr isLive
          rw [same, registered] at registeredToo
          cases registeredToo
          exact absurd rfl different
    · rename_i different
      split
      · rename_i same
        constructor
        · intro registeredToo
          have isLive := (kept.registered other watcher).mp registeredToo
          rw [same, change.live] at isLive
          cases isLive
          exact absurd rfl different
        · intro isLive
          cases isLive
      · exact kept.registered other watcher
  counted := by
    intro other
    rw [change.refCounts, change.registry]
    split
    · rfl
    · exact kept.counted other
  positive := by
    intro other value present
    rw [change.refCounts] at present
    split at present
    · cases present
    · exact kept.positive other value present
  filtered := by
    intro other unregistered
    rw [change.registry] at unregistered
    rw [change.filters]
    split
    · rfl
    · rename_i different
      rw [if_neg different] at unregistered
      exact kept.filtered other unregistered

end AccountSubscriptions

namespace SubscriptionCalls

open AccountSubscriptions

variable {Predicate : Type}

/-! ## Steps on the maps -/

/-- The event calls the `stop` of a watcher, whoever holds it. -/
def Event.stops (number : Nat) : Event Predicate → Bool
  | .stop other => other = number
  | .stopNext other => other = number
  | _ => false

inductive Change (current : AccountSubscriptions Predicate) :
    Event Predicate → AccountSubscriptions Predicate → Prop
  | joined (address filter number count next) :
      current.registry.get? address = some number →
      current.refCounts.get? address = some count →
      Counted current address (count + 1) next →
      Change current (.subscribe address filter) next
  | created (address filter next) :
      current.registry.get? address = none → Created current address filter next →
      Change current (.subscribe address filter) next
  | left (address number count next) :
      current.registry.get? address = some number →
      current.refCounts.get? address = some count → 1 < count →
      Counted current address (count - 1) next → Change current (.unsubscribe address) next
  | lastLeft (address number next) :
      current.registry.get? address = some number →
      current.refCounts.get? address = some 1 → Ended current number address next →
      Change current (.unsubscribe address) next
  | nobodyLeft (address) :
      current.registry.get? address = none → Change current (.unsubscribe address) current
  | stopped (event : Event Predicate) (number address next) :
      event.stops number = true → Ended current number address next → Change current event next
  | nothing (event : Event Predicate) :
      (∀ address filter, event ≠ .subscribe address filter) →
      (∀ address, event ≠ .unsubscribe address) →
      (∀ number address, event.stops number = true →
        current.watchers[number]? ≠ some { address := address, stopped := false }) →
      Change current event current

variable {event : Event Predicate} {state next : SubscriptionCalls Predicate}

theorem change_of_stop (current : AccountSubscriptions Predicate) {number : Nat}
    (stops : ∀ other, event.stops other = true ↔ number = other) :
    Change current event (current.stop number) := by
  rcases stop_cases current number with ⟨address, ended⟩ | ⟨dead, same⟩
  · exact .stopped _ _ _ _ ((stops number).mpr rfl) ended
  · rw [same]
    refine .nothing _ ?_ ?_ ?_
    · rintro address filter rfl
      cases (stops number).mpr rfl
    · rintro address rfl
      cases (stops number).mpr rfl
    · intro other address otherStops
      rw [← (stops other).mp otherStops]
      exact dead address

theorem stopNext_cases {number : Nat} (taken : state.stopNext number = some next) :
    ∃ call remaining drains,
      state.drains = { call := call, remaining := number :: remaining } :: drains ∧
      next = { state with
        subscriptions := state.subscriptions.stop number
        drains := { call := call, remaining := remaining } :: drains } := by
  rw [stopNext] at taken
  split at taken
  · rename_i call first remaining drains isTop
    split at taken
    · rename_i isNext
      cases taken
      rw [isNext] at isTop
      exact ⟨call, remaining, drains, isTop, rfl⟩
    · cases taken
  · cases taken

theorem returns_cases {call : Nat} (taken : state.returns call = some next) :
    ∃ drains, state.drains = { call := call, remaining := [] } :: drains ∧
      next = { state with drains := drains } := by
  rw [returns] at taken
  split at taken
  · rename_i first drains isTop
    split at taken
    · rename_i isOwn
      cases taken
      rw [isOwn] at isTop
      exact ⟨drains, isTop, rfl⟩
    · cases taken
  · cases taken

theorem throws_cases (taken : state.throws = some next) :
    ∃ drain drains, state.drains = drain :: drains ∧ next = { state with drains := drains } := by
  rw [throws] at taken
  split at taken
  · rename_i drain drains isTop
    cases taken
    exact ⟨drain, drains, isTop, rfl⟩
  · cases taken

theorem change_of_step {current : SubscriptionCalls Predicate}
    (kept : WellKept current.subscriptions) (taken : current.step event = some next) :
    Change current.subscriptions event next.subscriptions := by
  cases event with
  | subscribe address filter =>
      cases taken
      rcases subscribe_cases kept address filter with
        ⟨number, count, registered, present, _, counted⟩ | ⟨absent, _, created⟩
      · exact .joined _ _ _ _ _ registered present counted
      · exact .created _ _ _ absent created
  | unsubscribe address =>
      cases taken
      rcases unsubscribe_cases kept address with
        ⟨absent, same⟩ | ⟨number, count, registered, present, ⟨shared, counted⟩ | ⟨last, ended⟩⟩
      · change Change _ _ (current.subscriptions.unsubscribe address)
        rw [same]
        exact .nobodyLeft _ absent
      · exact .left _ _ _ _ registered present shared counted
      · rw [last] at present
        exact .lastLeft _ _ _ registered present ended
  | stop number =>
      cases taken
      exact change_of_stop _ fun other => decide_eq_true_iff
  | stopNext number =>
      rcases stopNext_cases taken with ⟨_, _, _, _, rfl⟩
      exact change_of_stop _ fun other => decide_eq_true_iff
  | unsubscribeAll =>
      cases taken
      exact .nothing _ nofun nofun nofun
  | returns call =>
      rcases returns_cases taken with ⟨_, _, rfl⟩
      exact .nothing _ nofun nofun nofun
  | throws =>
      rcases throws_cases taken with ⟨_, _, _, rfl⟩
      exact .nothing _ nofun nofun nofun

theorem Change.wellKept {current next : AccountSubscriptions Predicate}
    (change : Change current event next) (kept : WellKept current) : WellKept next := by
  cases change with
  | joined address filter number count _ registered _ counted =>
      exact kept.afterCounted registered (Nat.succ_pos count) counted
  | created address filter _ absent created => exact kept.afterCreated absent created
  | left address number count _ registered _ shared counted =>
      exact kept.afterCounted registered (Nat.sub_pos_of_lt shared) counted
  | lastLeft address number _ _ _ ended => exact kept.afterEnded ended
  | nobodyLeft => exact kept
  | stopped _ number address _ _ ended => exact kept.afterEnded ended
  | nothing => exact kept

theorem wellKept_step {current : SubscriptionCalls Predicate}
    (kept : WellKept current.subscriptions) (taken : current.step event = some next) :
    WellKept next.subscriptions :=
  (change_of_step kept taken).wellKept kept

theorem wellKept_run {start final : SubscriptionCalls Predicate} {events : List (Event Predicate)}
    (run : Run start events final) (kept : WellKept start.subscriptions) :
    WellKept final.subscriptions := by
  induction run with
  | nil => exact kept
  | cons taken _ induction => exact induction (wellKept_step kept taken)

end SubscriptionCalls

/-! ## Other addresses -/

namespace AccountSubscriptions

variable {Predicate : Type}

structure SameFor (address : String) (current next : AccountSubscriptions Predicate) : Prop where
  watchers : ∀ (number : Nat) (stopped : Bool),
    next.watchers[number]? = some { address := address, stopped := stopped } ↔
      current.watchers[number]? = some { address := address, stopped := stopped }
  refCounts : next.refCounts.get? address = current.refCounts.get? address
  filters : next.filters.get? address = current.filters.get? address

variable {current next : AccountSubscriptions Predicate} {address other : String}
  {filter : Option Predicate} {number subscribed unsubscribed unsubscribedToo : Nat}
  {outright : Bool}

theorem Counted.sameFor {count : Nat} (change : Counted current other count next)
    (different : address ≠ other) : SameFor address current next where
  watchers _ _ := by rw [change.watchers]
  refCounts := (change.refCounts address).trans (if_neg different)
  filters := by rw [change.filters]

theorem Created.sameFor (change : Created current other filter next) (different : address ≠ other) :
    SameFor address current next where
  watchers := by
    intro number stopped
    rw [change.watchers]
    constructor
    · intro found
      rw [List.getElem?_append] at found
      split at found
      · exact found
      · rcases List.getElem?_eq_some_iff.mp found with ⟨inside, created⟩
        rw [List.getElem_singleton] at created
        cases created
        exact absurd rfl different
    · intro found
      rcases List.getElem?_eq_some_iff.mp found with ⟨inside, _⟩
      rw [List.getElem?_append_left inside]
      exact found
  refCounts := (change.refCounts address).trans (if_neg different)
  filters := (change.filters address).trans (if_neg different)

theorem Ended.sameFor {ended : Nat} (change : Ended current ended other next)
    (different : address ≠ other) : SameFor address current next where
  watchers := by
    intro number stopped
    rw [change.watchers, getElem?_set_stopped change.live]
    split
    · rename_i same
      rw [same, change.live]
      constructor
      · intro found
        cases found
        exact absurd rfl different
      · intro found
        cases found
        exact absurd rfl different
    · exact Iff.rfl
  refCounts := (change.refCounts address).trans (if_neg different)
  filters := (change.filters address).trans (if_neg different)

/-! ## The ledger of a watcher -/

structure Ledger (number : Nat) (address : String) (filter : Option Predicate)
    (subscribed unsubscribed : Nat) (outright : Bool)
    (subscriptions : AccountSubscriptions Predicate) : Prop where
  recorded : ∃ stopped,
    subscriptions.watchers[number]? = some { address := address, stopped := stopped }
  live : subscriptions.watchers[number]? = some { address := address, stopped := false } →
    unsubscribed < subscribed ∧ outright = false ∧
      subscriptions.refCounts.get? address = some (subscribed - unsubscribed) ∧
      subscriptions.filters.get? address = filter
  dead : subscriptions.watchers[number]? = some { address := address, stopped := true } →
    subscribed ≤ unsubscribed ∨ outright = true
  alone : ∀ other,
    subscriptions.watchers[other]? = some { address := address, stopped := false } →
      other = number

def Newest (number : Nat) (address : String) (subscriptions : AccountSubscriptions Predicate) :
    Prop :=
  ∀ other stopped,
    subscriptions.watchers[other]? = some { address := address, stopped := stopped } →
      other ≤ number

theorem Ledger.frame
    (ledger : Ledger number address filter subscribed unsubscribed outright current)
    (same : SameFor address current next) :
    Ledger number address filter subscribed unsubscribed outright next where
  recorded := by
    rcases ledger.recorded with ⟨stopped, recorded⟩
    exact ⟨stopped, (same.watchers number stopped).mpr recorded⟩
  live := by
    intro isLive
    rw [same.refCounts, same.filters]
    exact ledger.live ((same.watchers number false).mp isLive)
  dead := by
    intro isDead
    exact ledger.dead ((same.watchers number true).mp isDead)
  alone := by
    intro other isLive
    exact ledger.alone other ((same.watchers other false).mp isLive)

theorem Ledger.of_created (kept : WellKept current) (absent : current.registry.get? address = none)
    (change : Created current address filter next) :
    Ledger current.watchers.length address filter 1 0 false next where
  recorded := by
    rw [change.watchers]
    exact ⟨false, List.getElem?_concat_length⟩
  live := by
    intro _
    rw [change.refCounts, change.filters, if_pos rfl, if_pos rfl]
    exact ⟨Nat.one_pos, rfl, rfl, rfl⟩
  dead := by
    intro isDead
    rw [change.watchers, List.getElem?_concat_length] at isDead
    cases isDead
  alone := by
    intro other isLive
    have registered := ((kept.afterCreated absent change).registered address other).mpr isLive
    rw [change.registry, if_pos rfl] at registered
    exact (Option.some.inj registered).symm

theorem Ledger.registered (kept : WellKept current)
    (ledger : Ledger number address filter subscribed unsubscribed outright current) {other : Nat}
    (registered : current.registry.get? address = some other) :
    other = number ∧
      current.watchers[number]? = some { address := address, stopped := false } := by
  have isLive := (kept.registered address other).mp registered
  have same := ledger.alone other isLive
  rw [same] at isLive
  exact ⟨same, isLive⟩

theorem Ledger.counted (kept : WellKept current)
    (ledger : Ledger number address filter subscribed unsubscribed outright current)
    {other count : Nat} (registered : current.registry.get? address = some other)
    (present : current.refCounts.get? address = some count) :
    other = number ∧
      current.watchers[number]? = some { address := address, stopped := false } ∧
      unsubscribed < subscribed ∧ count = subscribed - unsubscribed := by
  rcases ledger.registered kept registered with ⟨sameNumber, isLive⟩
  rcases ledger.live isLive with ⟨more, _, counts, _⟩
  rw [present] at counts
  exact ⟨sameNumber, isLive, more, Option.some.inj counts⟩

theorem Ledger.not_created {given : Option Predicate}
    (ledger : Ledger number address filter subscribed unsubscribed outright current)
    (change : Created current address given next) : ¬ Newest number address next := by
  intro newest
  have fresh : next.watchers[current.watchers.length]? =
      some { address := address, stopped := false } := by
    rw [change.watchers]
    exact List.getElem?_concat_length
  have atMost := newest _ _ fresh
  rcases ledger.recorded with ⟨_, recorded⟩
  rcases List.getElem?_eq_some_iff.mp recorded with ⟨inside, _⟩
  exact absurd inside (Nat.not_lt_of_le atMost)

theorem Ledger.recount {subscribedToo : Nat}
    (ledger : Ledger number address filter subscribed unsubscribed outright current)
    (isLive : current.watchers[number]? = some { address := address, stopped := false })
    (change : Counted current address (subscribedToo - unsubscribedToo) next)
    (more : unsubscribedToo < subscribedToo) :
    Ledger number address filter subscribedToo unsubscribedToo outright next where
  recorded := by
    rw [change.watchers]
    exact ledger.recorded
  live := by
    intro _
    rw [change.refCounts, if_pos rfl, change.filters]
    rcases ledger.live isLive with ⟨_, notOutright, _, filtered⟩
    exact ⟨more, notOutright, rfl, filtered⟩
  dead := by
    intro isDead
    rw [change.watchers, isLive] at isDead
    cases isDead
  alone := by
    rw [change.watchers]
    exact ledger.alone

theorem Ledger.close {outrightToo : Bool}
    (ledger : Ledger number address filter subscribed unsubscribed outright current)
    (change : Ended current number address next)
    (closed : subscribed ≤ unsubscribedToo ∨ outrightToo = true) :
    Ledger number address filter subscribed unsubscribedToo outrightToo next where
  recorded := by
    rw [change.watchers, getElem?_set_stopped change.live, if_pos rfl]
    exact ⟨true, rfl⟩
  live := by
    intro isLive
    rw [change.watchers, getElem?_set_stopped change.live, if_pos rfl] at isLive
    cases isLive
  dead := by
    intro _
    exact closed
  alone := by
    intro other isLive
    rw [change.watchers, getElem?_set_stopped change.live] at isLive
    split at isLive
    · cases isLive
    · exact ledger.alone other isLive

theorem Ledger.stay {outrightToo : Bool}
    (ledger : Ledger number address filter subscribed unsubscribed outright current)
    (notLive : current.watchers[number]? ≠ some { address := address, stopped := false })
    (moreCalls : unsubscribed ≤ unsubscribedToo) (stays : outright = true → outrightToo = true) :
    Ledger number address filter subscribed unsubscribedToo outrightToo current where
  recorded := ledger.recorded
  live isLive := absurd isLive notLive
  dead := by
    intro isDead
    rcases ledger.dead isDead with balanced | wasOutright
    · exact .inl (Nat.le_trans balanced moreCalls)
    · exact .inr (stays wasOutright)
  alone := ledger.alone

end AccountSubscriptions

namespace SubscriptionCalls

open AccountSubscriptions

variable {Predicate : Type}

def Event.subscribes (address : String) : Event Predicate → Bool
  | .subscribe other _ => other = address
  | _ => false

def Event.unsubscribes (address : String) : Event Predicate → Bool
  | .unsubscribe other => other = address
  | _ => false

variable {event : Event Predicate} {number subscribed unsubscribed call : Nat} {address : String}
  {filter : Option Predicate} {outright : Bool}
  {current next start final : SubscriptionCalls Predicate} {events : List (Event Predicate)}
  {copied : List Nat}

theorem Event.stops_unique {first second : Nat} (stopsFirst : event.stops first = true)
    (stopsSecond : event.stops second = true) : first = second := by
  cases event with
  | stop number | stopNext number =>
      exact (of_decide_eq_true stopsFirst).symm.trans (of_decide_eq_true stopsSecond)
  | subscribe | unsubscribe | unsubscribeAll | returns | throws => cases stopsFirst

theorem Event.stops_only (stops : event.stops number = true) (address : String) :
    event.subscribes address = false ∧ event.unsubscribes address = false := by
  cases event with
  | stop | stopNext => exact ⟨rfl, rfl⟩
  | subscribe | unsubscribe | unsubscribeAll | returns | throws => cases stops

theorem Event.subscribes_false (noSubscribe : ∀ address filter, event ≠ .subscribe address filter)
    (address : String) : event.subscribes address = false := by
  cases event with
  | subscribe other given => exact absurd rfl (noSubscribe other given)
  | unsubscribe | stop | unsubscribeAll | stopNext | returns | throws => rfl

theorem Event.unsubscribes_false (noUnsubscribe : ∀ address, event ≠ .unsubscribe address)
    (address : String) : event.unsubscribes address = false := by
  cases event with
  | unsubscribe other => exact absurd rfl (noUnsubscribe other)
  | subscribe | stop | unsubscribeAll | stopNext | returns | throws => rfl

theorem ledger_step {current next : AccountSubscriptions Predicate} (kept : WellKept current)
    (change : Change current event next) (newest : Newest number address next)
    (ledger : Ledger number address filter subscribed unsubscribed outright current) :
    Ledger number address filter
      (subscribed + if event.subscribes address then 1 else 0)
      (unsubscribed + if event.unsubscribes address then 1 else 0)
      (outright || event.stops number) next := by
  cases change with
  | joined other given watcher count _ registered present counted =>
      change Ledger _ _ _ (subscribed + if decide (other = address) = true then 1 else 0)
        unsubscribed (outright || false) next
      rw [Bool.or_false]
      by_cases same : other = address
      · subst same
        rcases ledger.counted kept registered present with ⟨rfl, isLive, more, rfl⟩
        rw [decide_eq_true rfl]
        refine ledger.recount isLive ?_ (Nat.lt_succ_of_lt more)
        rw [← Nat.sub_add_comm (Nat.le_of_lt more)] at counted
        exact counted
      · rw [decide_eq_false same]
        exact ledger.frame (counted.sameFor (Ne.symm same))
  | created other given _ absent created =>
      change Ledger _ _ _ (subscribed + if decide (other = address) = true then 1 else 0)
        unsubscribed (outright || false) next
      rw [Bool.or_false]
      by_cases same : other = address
      · subst same
        exact absurd newest (ledger.not_created created)
      · rw [decide_eq_false same]
        exact ledger.frame (created.sameFor (Ne.symm same))
  | left other watcher count _ registered present shared counted =>
      change Ledger _ _ _ subscribed
        (unsubscribed + if decide (other = address) = true then 1 else 0) (outright || false) next
      rw [Bool.or_false]
      by_cases same : other = address
      · subst same
        rcases ledger.counted kept registered present with ⟨rfl, isLive, _, rfl⟩
        rw [decide_eq_true rfl]
        exact ledger.recount isLive counted (Nat.lt_sub_iff_add_lt'.mp shared)
      · rw [decide_eq_false same]
        exact ledger.frame (counted.sameFor (Ne.symm same))
  | lastLeft other watcher _ registered present ended =>
      change Ledger _ _ _ subscribed
        (unsubscribed + if decide (other = address) = true then 1 else 0) (outright || false) next
      rw [Bool.or_false]
      by_cases same : other = address
      · subst same
        rcases ledger.counted kept registered present with ⟨rfl, isLive, _, lastOne⟩
        rw [decide_eq_true rfl]
        refine ledger.close ended (.inl ?_)
        change subscribed ≤ unsubscribed + 1
        omega
      · rw [decide_eq_false same]
        exact ledger.frame (ended.sameFor (Ne.symm same))
  | nobodyLeft other absent =>
      change Ledger _ _ _ subscribed
        (unsubscribed + if decide (other = address) = true then 1 else 0) (outright || false)
        current
      rw [Bool.or_false]
      by_cases same : other = address
      · subst same
        refine ledger.stay ?_ (Nat.le_add_right _ _) ?_
        · intro isLive
          have registered := (kept.registered other number).mpr isLive
          rw [absent] at registered
          cases registered
        · exact id
      · rw [decide_eq_false same]
        exact ledger
  | stopped _ watcher other _ stops ended =>
      rcases Event.stops_only stops address with ⟨noSubscribe, noUnsubscribe⟩
      rw [noSubscribe, noUnsubscribe]
      by_cases same : other = address
      · subst same
        have sameWatcher := ledger.alone watcher ended.live
        subst sameWatcher
        refine ledger.close ended (.inr ?_)
        rw [stops, Bool.or_true]
      · have other : event.stops number = false := by
          refine Bool.eq_false_iff.mpr ?_
          intro stopsNumber
          have sameWatcher := Event.stops_unique stops stopsNumber
          subst sameWatcher
          rcases ledger.recorded with ⟨_, recorded⟩
          rw [ended.live] at recorded
          cases recorded
          exact same rfl
        rw [other, Bool.or_false]
        exact ledger.frame (ended.sameFor (Ne.symm same))
  | nothing _ noSubscribe noUnsubscribe dead =>
      rw [Event.subscribes_false noSubscribe, Event.unsubscribes_false noUnsubscribe]
      cases stops : event.stops number with
      | false =>
          rw [Bool.or_false]
          exact ledger
      | true =>
          refine ledger.stay (dead number address stops) (Nat.le_refl _) ?_
          intro _
          exact Bool.or_true _

theorem Change.record {current next : AccountSubscriptions Predicate}
    (change : Change current event next) {watcher : Watcher}
    (found : current.watchers[number]? = some watcher) :
    ∃ stopped, next.watchers[number]? = some { address := watcher.address, stopped := stopped } ∧
      (watcher.stopped = true → stopped = true) := by
  have ofEnded : ∀ {ended : Nat} {address : String}, Ended current ended address next →
      ∃ stopped, next.watchers[number]? =
        some { address := watcher.address, stopped := stopped } ∧
        (watcher.stopped = true → stopped = true) := by
    intro ended address change
    rw [change.watchers, getElem?_set_stopped change.live]
    split
    · rename_i same
      rw [same, change.live] at found
      cases found
      exact ⟨true, rfl, fun _ => rfl⟩
    · exact ⟨watcher.stopped, found, id⟩
  cases change with
  | joined _ _ _ _ _ _ _ counted =>
      rw [counted.watchers]
      exact ⟨watcher.stopped, found, id⟩
  | created _ _ _ _ created =>
      rcases List.getElem?_eq_some_iff.mp found with ⟨inside, _⟩
      rw [created.watchers, List.getElem?_append_left inside]
      exact ⟨watcher.stopped, found, id⟩
  | left _ _ _ _ _ _ _ counted =>
      rw [counted.watchers]
      exact ⟨watcher.stopped, found, id⟩
  | lastLeft _ _ _ _ _ ended => exact ofEnded ended
  | nobodyLeft => exact ⟨watcher.stopped, found, id⟩
  | stopped _ _ _ _ _ ended => exact ofEnded ended
  | nothing => exact ⟨watcher.stopped, found, id⟩

theorem newest_of_step (kept : WellKept current.subscriptions)
    (taken : current.step event = some next) (newest : Newest number address next.subscriptions) :
    Newest number address current.subscriptions := by
  intro other stopped found
  rcases (change_of_step kept taken).record found with ⟨_, foundToo, _⟩
  exact newest other _ foundToo

theorem newest_of_run (run : Run start events final) (kept : WellKept start.subscriptions)
    (newest : Newest number address final.subscriptions) :
    Newest number address start.subscriptions := by
  induction run with
  | nil => exact newest
  | cons taken _ induction =>
      exact newest_of_step kept taken (induction (wellKept_step kept taken) newest)

theorem ledger_run (run : Run start events final) (kept : WellKept start.subscriptions)
    (newest : Newest number address final.subscriptions)
    (ledger : Ledger number address filter subscribed unsubscribed outright start.subscriptions) :
    Ledger number address filter
      (subscribed + events.countP (Event.subscribes address))
      (unsubscribed + events.countP (Event.unsubscribes address))
      (outright || events.any (Event.stops number)) final.subscriptions := by
  induction run generalizing subscribed unsubscribed outright with
  | nil =>
      rw [List.any_nil, Bool.or_false]
      exact ledger
  | @cons current middle final event events taken rest induction =>
      have keptToo := wellKept_step kept taken
      have stepped := ledger_step kept (change_of_step kept taken)
        (newest_of_run rest keptToo newest) ledger
      have ran := induction keptToo newest stepped
      rw [List.countP_cons, List.countP_cons, List.any_cons, ← Bool.or_assoc,
        Nat.add_comm (List.countP _ _), Nat.add_comm (List.countP _ _), ← Nat.add_assoc,
        ← Nat.add_assoc]
      exact ran

/-! ## A call of `unsubscribeAll` -/

def Stopped (number : Nat) (subscriptions : AccountSubscriptions Predicate) : Prop :=
  ∃ address, subscriptions.watchers[number]? = some { address := address, stopped := true }

theorem stopped_of_step (kept : WellKept current.subscriptions)
    (taken : current.step event = some next) (stopped : Stopped number current.subscriptions) :
    Stopped number next.subscriptions := by
  rcases stopped with ⟨address, found⟩
  rcases (change_of_step kept taken).record found with ⟨_, foundToo, stays⟩
  rw [stays rfl] at foundToo
  exact ⟨address, foundToo⟩

theorem stopped_of_run (run : Run start events final) (kept : WellKept start.subscriptions)
    (stopped : Stopped number start.subscriptions) : Stopped number final.subscriptions := by
  induction run with
  | nil => exact stopped
  | cons taken _ induction =>
      exact induction (wellKept_step kept taken) (stopped_of_step kept taken stopped)

theorem stopped_stop {subscriptions : AccountSubscriptions Predicate} {watcher : Watcher}
    (found : subscriptions.watchers[number]? = some watcher) :
    Stopped number (subscriptions.stop number) := by
  rcases watcher with ⟨address, stopped⟩
  cases stopped with
  | true =>
      refine ⟨address, ?_⟩
      rw [AccountSubscriptions.stop, found]
      exact found
  | false =>
      refine ⟨address, ?_⟩
      rw [(stop_live found).watchers, getElem?_set_stopped found, if_pos rfl]

structure Draining (call : Nat) (copied : List Nat) (state : SubscriptionCalls Predicate) :
    Prop where
  recorded : ∀ number ∈ copied, ∃ watcher, state.subscriptions.watchers[number]? = some watcher
  called : call < state.drainCalls
  remaining : ∀ drain ∈ state.drains, drain.call = call →
    ∀ number ∈ copied, number ∈ drain.remaining ∨ Stopped number state.subscriptions

theorem Draining.step (kept : WellKept current.subscriptions)
    (draining : Draining call copied current) (taken : current.step event = some next) :
    Draining call copied next := by
  have recorded : ∀ number ∈ copied,
      ∃ watcher, next.subscriptions.watchers[number]? = some watcher := by
    intro number member
    rcases draining.recorded number member with ⟨_, found⟩
    rcases (change_of_step kept taken).record found with ⟨_, foundToo, _⟩
    exact ⟨_, foundToo⟩
  have stays : ∀ number, Stopped number current.subscriptions →
      Stopped number next.subscriptions := by
    intro number stopped
    exact stopped_of_step kept taken stopped
  have same : ∀ drain ∈ current.drains, drain.call = call →
      ∀ number ∈ copied, number ∈ drain.remaining ∨ Stopped number next.subscriptions := by
    intro drain member isCall number isCopied
    rcases draining.remaining drain member isCall number isCopied with remains | stopped
    · exact .inl remains
    · exact .inr (stays number stopped)
  cases event with
  | subscribe address filter | unsubscribe address | stop number =>
      cases taken
      exact ⟨recorded, draining.called, same⟩
  | unsubscribeAll =>
      cases taken
      refine ⟨recorded, Nat.lt_succ_of_lt draining.called, ?_⟩
      intro drain member isCall
      rcases List.mem_cons.mp member with isNew | member
      · rw [isNew] at isCall
        exact absurd isCall (Nat.ne_of_gt draining.called)
      · exact same drain member isCall
  | stopNext number =>
      rcases stopNext_cases taken with ⟨own, remaining, drains, isTop, rfl⟩
      refine ⟨recorded, draining.called, ?_⟩
      intro drain member isCall other isCopied
      rcases List.mem_cons.mp member with rfl | member
      · have before := same { call := own, remaining := number :: remaining }
          (by rw [isTop]; exact List.mem_cons_self) isCall other isCopied
        rcases before with remains | stopped
        · rcases List.mem_cons.mp remains with rfl | remains
          · rcases draining.recorded other isCopied with ⟨_, found⟩
            exact .inr (stopped_stop found)
          · exact .inl remains
        · exact .inr stopped
      · exact same drain (by rw [isTop]; exact List.mem_cons_of_mem _ member) isCall other
          isCopied
  | returns other =>
      rcases returns_cases taken with ⟨drains, isTop, rfl⟩
      refine ⟨recorded, draining.called, ?_⟩
      intro drain member
      exact same drain (by rw [isTop]; exact List.mem_cons_of_mem _ member)
  | throws =>
      rcases throws_cases taken with ⟨first, drains, isTop, rfl⟩
      refine ⟨recorded, draining.called, ?_⟩
      intro drain member
      exact same drain (by rw [isTop]; exact List.mem_cons_of_mem _ member)

theorem Draining.returned (draining : Draining call copied current)
    (taken : current.returns call = some next) (member : number ∈ copied) :
    Stopped number next.subscriptions := by
  rcases returns_cases taken with ⟨drains, isTop, rfl⟩
  have onTop : { call := call, remaining := [] } ∈ current.drains := by
    rw [isTop]
    exact List.mem_cons_self
  rcases draining.remaining _ onTop rfl number member with remains | stopped
  · cases remains
  · exact stopped

theorem Draining.run (run : Run start events final) (kept : WellKept start.subscriptions)
    (draining : Draining call copied start) (returned : .returns call ∈ events)
    (member : number ∈ copied) : Stopped number final.subscriptions := by
  induction run with
  | nil => cases returned
  | @cons current middle final event events taken rest induction =>
      have keptToo := wellKept_step kept taken
      rcases List.mem_cons.mp returned with isFirst | later
      · subst isFirst
        exact stopped_of_run rest keptToo (draining.returned taken member)
      · exact induction keptToo (draining.step kept taken) later

def DrainsCalled (state : SubscriptionCalls Predicate) : Prop :=
  ∀ drain ∈ state.drains, drain.call < state.drainCalls

theorem DrainsCalled.step (called : DrainsCalled current) (taken : current.step event = some next) :
    DrainsCalled next := by
  cases event with
  | subscribe | unsubscribe | stop =>
      cases taken
      exact called
  | unsubscribeAll =>
      cases taken
      intro drain member
      rcases List.mem_cons.mp member with isNew | member
      · rw [isNew]
        exact Nat.lt_succ_self _
      · exact Nat.lt_succ_of_lt (called drain member)
  | stopNext number =>
      rcases stopNext_cases taken with ⟨own, remaining, drains, isTop, rfl⟩
      intro drain member
      rcases List.mem_cons.mp member with rfl | member
      · exact called { call := own, remaining := number :: remaining }
          (by rw [isTop]; exact List.mem_cons_self)
      · exact called drain (by rw [isTop]; exact List.mem_cons_of_mem _ member)
  | returns call =>
      rcases returns_cases taken with ⟨drains, isTop, rfl⟩
      intro drain member
      exact called drain (by rw [isTop]; exact List.mem_cons_of_mem _ member)
  | throws =>
      rcases throws_cases taken with ⟨first, drains, isTop, rfl⟩
      intro drain member
      exact called drain (by rw [isTop]; exact List.mem_cons_of_mem _ member)

theorem draining_unsubscribeAll {state : SubscriptionCalls Predicate}
    (kept : WellKept state.subscriptions) (called : DrainsCalled state) :
    Draining state.drainCalls state.subscriptions.registry.values state.unsubscribeAll where
  recorded := by
    intro number member
    rcases List.mem_map.mp member with ⟨entry, present, rfl⟩
    have registered := InsertionMap.get?_eq_some_iff.mpr present
    exact ⟨_, (kept.registered entry.1 entry.2).mp registered⟩
  called := Nat.lt_succ_self _
  remaining := by
    intro drain member isCall number isCopied
    rcases List.mem_cons.mp member with isNew | member
    · rw [isNew]
      exact .inl isCopied
    · exact absurd isCall (Nat.ne_of_lt (called drain member))

/-! ## Every schedule -/

structure Live (number : Nat) (address : String) (filter : Option Predicate)
    (subscriptions : AccountSubscriptions Predicate) : Prop where
  notStopped : subscriptions.watchers[number]? = some { address := address, stopped := false }
  registered : subscriptions.registry.get? address = some number
  filtered : subscriptions.filters.get? address = filter

structure Lifecycle (events : List (Event Predicate)) (final : SubscriptionCalls Predicate) :
    Prop where
  kept : WellKept final.subscriptions
  live_iff : ∀ before address filter since middle,
    events = before ++ .subscribe address filter :: since → Run initial before middle →
    middle.subscriptions.registry.get? address = none →
    Newest middle.subscriptions.watchers.length address final.subscriptions →
    (Live middle.subscriptions.watchers.length address filter final.subscriptions ↔
      since.countP (Event.unsubscribes address) <
          (.subscribe address filter :: since).countP (Event.subscribes address) ∧
        since.any (Event.stops middle.subscriptions.watchers.length) = false)
  drained : ∀ before since middle, events = before ++ .unsubscribeAll :: since →
    Run initial before middle → .returns middle.drainCalls ∈ since →
    ∀ number ∈ middle.subscriptions.registry.values, Stopped number final.subscriptions

theorem live_iff_of_ledger {subscriptions : AccountSubscriptions Predicate}
    (kept : WellKept subscriptions)
    (ledger : Ledger number address filter subscribed unsubscribed outright subscriptions) :
    Live number address filter subscriptions ↔
      unsubscribed < subscribed ∧ outright = false := by
  constructor
  · intro live
    rcases ledger.live live.notStopped with ⟨more, notOutright, _, _⟩
    exact ⟨more, notOutright⟩
  · rintro ⟨more, notOutright⟩
    rcases ledger.recorded with ⟨stopped, recorded⟩
    cases stopped with
    | false =>
        rcases ledger.live recorded with ⟨_, _, _, filtered⟩
        exact ⟨recorded, (kept.registered address number).mpr recorded, filtered⟩
    | true =>
        rcases ledger.dead recorded with balanced | wasOutright
        · exact absurd more (Nat.not_lt_of_le balanced)
        · rw [notOutright] at wasOutright
          cases wasOutright

theorem kept_of_run (run : Run initial events final) :
    WellKept final.subscriptions ∧ DrainsCalled final := by
  refine ⟨wellKept_run run wellKept_initial, ?_⟩
  refine run.invariant (motive := DrainsCalled) ?_ ?_
  · intro current event next called taken
    exact called.step taken
  · intro drain member
    cases member

theorem subscription_lifecycle {events : List (Event Predicate)}
    {final : SubscriptionCalls Predicate} (run : Run initial events final) :
    Lifecycle events final where
  kept := (kept_of_run run).1
  live_iff := by
    rintro before address filter since middle rfl reached absent newest
    rcases run.split with ⟨start, front, back⟩
    have same := front.unique reached
    subst same
    have kept := (kept_of_run reached).1
    cases back with
    | cons taken rest =>
        have keptToo := wellKept_step kept taken
        cases taken
        have created : Ledger start.subscriptions.watchers.length address filter 1 0 false
            (start.subscriptions.subscribe address filter).1 := by
          rcases subscribe_cases kept address filter with
            ⟨_, _, registered, _⟩ | ⟨_, _, created⟩
          · rw [absent] at registered
            cases registered
          · exact .of_created kept absent created
        have ledger := ledger_run rest keptToo newest created
        rw [Nat.zero_add, Bool.false_or, Nat.add_comm] at ledger
        have own : Event.subscribes address (.subscribe address filter) = true :=
          decide_eq_true rfl
        rw [List.countP_cons, own, if_pos rfl]
        exact live_iff_of_ledger (kept_of_run run).1 ledger
  drained := by
    rintro before since middle rfl reached returned number member
    rcases run.split with ⟨start, front, back⟩
    have same := front.unique reached
    subst same
    rcases kept_of_run reached with ⟨kept, called⟩
    cases back with
    | cons taken rest =>
        cases taken
        exact (draining_unsubscribeAll kept called).run rest kept returned member

/-- Two callers share a watcher and one of them leaves. -/
theorem shared_watcher_lifecycle :
    ∃ final : SubscriptionCalls Unit,
      Lifecycle [.subscribe "G" none, .subscribe "G" none, .unsubscribe "G"] final :=
  ⟨_, subscription_lifecycle (.cons rfl (.cons rfl (.cons rfl (.nil _))))⟩

/-- `unsubscribeAll` stops a watcher that has a holder, and a watcher without a filter has
no entry in the map of filters. -/
theorem unsubscribeAll_ignores_holders :
    (∃ (events : List (Event Unit)) (final : SubscriptionCalls Unit),
      Run initial events final ∧
        events.countP (Event.unsubscribes "G") < events.countP (Event.subscribes "G") ∧
        final.subscriptions.registry.get? "G" = none ∧ Stopped 0 final.subscriptions) ∧
    ∃ final : SubscriptionCalls Unit,
      Run initial [.subscribe "G" none] final ∧
        final.subscriptions.registry.get? "G" = some 0 ∧
        final.subscriptions.filters.get? "G" = none := by
  constructor
  · exact ⟨[.subscribe "G" none, .unsubscribeAll, .stopNext 0, .returns 0], _,
      .cons rfl (.cons rfl (.cons rfl (.cons rfl (.nil _)))), by decide, rfl, "G", rfl⟩
  · exact ⟨_, .cons rfl (.nil _), rfl, rfl⟩

end SubscriptionCalls

end Orbital.PulseCore.EventEngine
