import Mathlib.Data.List.Basic

/-! # Chained promises

A tail promise that is replaced again and again by `tail.then(callback)`. Link
`n + 1` is chained on link `n`, and link zero on a promise that is already
fulfilled. The callback of a link runs once the link before it is fulfilled;
when the link before it is rejected the callback never runs and the rejection
is passed on. `Work` is what a running callback still has to do.
-/

namespace Orbital.Foundation

inductive Link (Work : Type u)
  | waiting
  | running (work : Work)
  | fulfilled
  /-- The callback of this link ran and was rejected. -/
  | failed
  /-- The callback of this link never ran: an earlier link was rejected. -/
  | skipped
  deriving DecidableEq

namespace Link

variable {Work : Type u}

def settled : Link Work → Bool
  | .fulfilled | .failed | .skipped => true
  | .waiting | .running _ => false

def started : Link Work → Bool
  | .running _ | .fulfilled | .failed => true
  | .waiting | .skipped => false

def work? : Link Work → Option Work
  | .running work => some work
  | _ => none

def Precedes (earlier later : Link Work) : Prop :=
  (later ≠ .waiting → earlier.settled = true) ∧
    (later.started = true → earlier = .fulfilled)

theorem precedes_waiting (earlier : Link Work) : earlier.Precedes .waiting :=
  ⟨fun different => absurd rfl different, fun impossible => by simp [started] at impossible⟩

theorem fulfilled_precedes (later : Link Work) : Link.fulfilled.Precedes later :=
  ⟨fun _ => rfl, fun _ => rfl⟩

theorem precedes_skipped {earlier : Link Work} (settled : earlier.settled = true) :
    earlier.Precedes .skipped :=
  ⟨fun _ => settled, fun impossible => by simp [started] at impossible⟩

theorem Precedes.later_waiting {earlier later : Link Work}
    (precedes : earlier.Precedes later) (unsettled : earlier.settled = false) :
    later = .waiting := by
  by_contra notWaiting
  simp [precedes.1 notWaiting] at unsettled

end Link

abbrev PromiseChain (Work : Type u) := List (Link Work)

namespace PromiseChain

variable {Work : Type u}

/-- The promise link `index` was chained on. -/
def predecessor (chain : PromiseChain Work) : Nat → Link Work
  | 0 => .fulfilled
  | index + 1 => (chain[index]?).getD .waiting

def Ordered (chain : PromiseChain Work) : Prop :=
  ∀ (earlier later : Nat) (first second : Link Work), earlier < later →
    chain[earlier]? = some first → chain[later]? = some second →
      first.Precedes second

theorem Ordered.nil : Ordered ([] : PromiseChain Work) := by
  intro earlier later first second _ atEarlier
  simp at atEarlier

theorem Ordered.chain {chain : PromiseChain Work} (ordered : Ordered chain) :
    Ordered (chain ++ [.waiting]) := by
  intro earlier later first second before atEarlier atLater
  by_cases inside : later < chain.length
  · have earlierInside : earlier < chain.length := Nat.lt_trans before inside
    rw [List.getElem?_append_left inside] at atLater
    rw [List.getElem?_append_left earlierInside] at atEarlier
    exact ordered earlier later first second before atEarlier atLater
  · have last : later = chain.length := by
      have bound := (List.getElem?_eq_some_iff.mp atLater).1
      simp only [List.length_append, List.length_singleton] at bound
      omega
    subst last
    have isWaiting : second = .waiting := by simpa using atLater.symm
    rw [isWaiting]
    exact first.precedes_waiting

variable {index : Nat} {link : Link Work}

theorem Ordered.replace {chain : PromiseChain Work} (ordered : Ordered chain)
    (before : ∀ (earlier : Nat) first, earlier < index →
      chain[earlier]? = some first →
        Link.Precedes first link) (behind : ∀ (later : Nat) second, index < later →
      chain[later]? = some second → second = .waiting) : Ordered (chain.set index link) := by
  intro earlier later first second ordering atEarlier atLater
  rw [List.getElem?_set] at atEarlier atLater
  by_cases earlierHit : index = earlier
  · have laterMiss : index ≠ later := by omega
    rw [if_neg laterMiss] at atLater
    rw [behind later second (by omega) atLater]
    exact first.precedes_waiting
  · rw [if_neg earlierHit] at atEarlier
    by_cases laterHit : index = later
    · subst laterHit
      rw [if_pos rfl] at atLater
      split at atLater
      · cases atLater
        exact before earlier first ordering atEarlier
      · cases atLater
    · rw [if_neg laterHit] at atLater
      exact ordered earlier later first second ordering atEarlier atLater

theorem Ordered.behind_waiting {chain : PromiseChain Work} (ordered : Ordered chain)
    (atIndex : chain[index]? = some link) (unsettled : link.settled = false) :
    ∀ (later : Nat) second, index < later → chain[later]? = some second →
      second = .waiting := by
  intro later second ordering atLater
  exact (ordered index later link second ordering atIndex atLater).later_waiting unsettled

theorem Ordered.before_started {chain : PromiseChain Work} (ordered : Ordered chain)
    (atIndex : chain[index]? = some link) (started : link.started = true) :
    ∀ (earlier : Nat) first, earlier < index → chain[earlier]? = some first →
      first = .fulfilled := by
  intro earlier first ordering atEarlier
  exact (ordered earlier index first link ordering atEarlier atIndex).2 started

theorem Ordered.before_fulfilled {chain : PromiseChain Work} (ordered : Ordered chain)
    (fulfilled : predecessor chain index = .fulfilled) :
    ∀ (earlier : Nat) first, earlier < index → chain[earlier]? = some first →
      first = .fulfilled := by
  intro earlier first ordering atEarlier
  cases index with
  | zero => omega
  | succ index =>
      have atPredecessor : chain[index]? = some .fulfilled := by
        cases found : chain[index]? with
        | none => simp [predecessor, found] at fulfilled
        | some link => simpa [predecessor, found] using fulfilled
      by_cases last : earlier = index
      · subst last
        rw [atPredecessor] at atEarlier
        exact (Option.some.inj atEarlier).symm
      · exact ordered.before_started atPredecessor rfl earlier first (by omega) atEarlier

theorem Ordered.call {chain : PromiseChain Work} (ordered : Ordered chain) (link : Link Work)
    (atIndex : chain[index]? = some .waiting) (fulfilled : predecessor chain index = .fulfilled) :
    Ordered (chain.set index link) := by
  apply ordered.replace
  · intro earlier first ordering atEarlier
    rw [ordered.before_fulfilled fulfilled earlier first ordering atEarlier]
    exact link.fulfilled_precedes
  · exact ordered.behind_waiting atIndex rfl

theorem Ordered.before_settled {chain : PromiseChain Work} (ordered : Ordered chain)
    (settled : (predecessor chain index).settled = true) :
    ∀ (earlier : Nat) first, earlier < index → chain[earlier]? = some first →
      first.settled = true := by
  intro earlier first ordering atEarlier
  cases index with
  | zero => omega
  | succ index =>
      cases found : chain[index]? with
      | none => simp [predecessor, found, Link.settled] at settled
      | some link =>
          have linkSettled : link.settled = true := by
            simpa [predecessor, found] using settled
          by_cases last : earlier = index
          · subst last
            rw [found] at atEarlier
            cases atEarlier
            exact linkSettled
          · have notWaiting : link ≠ .waiting := by
              intro equal
              simp [equal, Link.settled] at linkSettled
            exact (ordered earlier index first link (by omega) atEarlier found).1 notWaiting

theorem Ordered.skip {chain : PromiseChain Work} (ordered : Ordered chain)
    (atIndex : chain[index]? = some .waiting) (settled : (predecessor chain index).settled = true) :
    Ordered (chain.set index .skipped) := by
  apply ordered.replace
  · intro earlier first ordering atEarlier
    exact Link.precedes_skipped (ordered.before_settled settled earlier first ordering atEarlier)
  · exact ordered.behind_waiting atIndex rfl

theorem Ordered.advance {chain : PromiseChain Work} (ordered : Ordered chain) {work : Work}
    (link : Link Work) (atIndex : chain[index]? = some (.running work)) :
    Ordered (chain.set index link) := by
  apply ordered.replace
  · intro earlier first ordering atEarlier
    rw [ordered.before_started atIndex rfl earlier first ordering atEarlier]
    exact link.fulfilled_precedes
  · exact ordered.behind_waiting atIndex rfl

theorem Ordered.running_unique {chain : PromiseChain Work} (ordered : Ordered chain)
    {left right : Nat} {leftWork rightWork : Work}
    (atLeft : chain[left]? = some (.running leftWork))
    (atRight : chain[right]? = some (.running rightWork)) : left = right := by
  rcases Nat.lt_trichotomy left right with less | equal | greater
  · have impossible := ordered.before_started atRight rfl left _ less atLeft
    cases impossible
  · exact equal
  · have impossible := ordered.before_started atLeft rfl right _ greater atRight
    cases impossible

theorem Ordered.predecessor_of_started {chain : PromiseChain Work} (ordered : Ordered chain)
    (atIndex : chain[index]? = some link) (started : link.started = true) :
    predecessor chain index = .fulfilled := by
  cases index with
  | zero => rfl
  | succ index =>
      have inside : index < chain.length := by
        have bound := (List.getElem?_eq_some_iff.mp atIndex).1
        omega
      have found : chain[index]? = some chain[index] := List.getElem?_eq_getElem inside
      have fulfilled := ordered.before_started atIndex started index _ (by omega) found
      rw [predecessor, found, fulfilled]
      rfl

/-! ## The work in progress -/

def works (chain : PromiseChain Work) : List Work :=
  chain.filterMap Link.work?

@[simp] theorem works_chain (chain : PromiseChain Work) :
    works (chain ++ [.waiting]) = works chain := by
  simp [works, Link.work?]

theorem works_set {chain : PromiseChain Work} (inside : index < chain.length)
    (idle : ∀ (other : Nat) found, other ≠ index → chain[other]? = some found →
      found.work? = none) : works (chain.set index link) = link.work?.toList := by
  induction chain generalizing index with
  | nil => simp at inside
  | cons head tail induction =>
      cases index with
      | zero =>
          have tailIdle : ∀ found ∈ tail, found.work? = none := by
            intro found member
            obtain ⟨position, atPosition⟩ := List.mem_iff_getElem?.mp member
            exact idle (position + 1) found (by omega) (by simpa using atPosition)
          rw [List.set_cons_zero, works, List.filterMap_cons,
            List.filterMap_eq_nil_iff.mpr tailIdle]
          cases link.work? <;> rfl
      | succ index =>
          have headIdle : head.work? = none := idle 0 head (by omega) rfl
          have rest : works (tail.set index link) = link.work?.toList := by
            apply induction (by simpa using inside)
            intro other found different atOther
            exact idle (other + 1) found (by omega) (by simpa using atOther)
          rw [List.set_cons_succ]
          simpa [works, headIdle] using rest

theorem Ordered.others_idle {chain : PromiseChain Work} (ordered : Ordered chain)
    (atIndex : chain[index]? = some link) (unsettled : link.settled = false)
    (settled : (predecessor chain index).settled = true) :
    ∀ (other : Nat) found, other ≠ index → chain[other]? = some found →
      found.work? = none := by
  intro other found different atOther
  rcases Nat.lt_or_gt_of_ne different with less | greater
  · have foundSettled := ordered.before_settled settled other found less atOther
    cases found <;> simp_all [Link.settled, Link.work?]
  · rw [ordered.behind_waiting atIndex unsettled other found greater atOther]
    rfl

theorem Ordered.works_set {chain : PromiseChain Work} (ordered : Ordered chain) (next : Link Work)
    (atIndex : chain[index]? = some link) (unsettled : link.settled = false)
    (settled : (predecessor chain index).settled = true) :
    works (chain.set index next) = next.work?.toList :=
  PromiseChain.works_set (List.getElem?_eq_some_iff.mp atIndex).1
    (ordered.others_idle atIndex unsettled settled)

theorem Ordered.works_eq {chain : PromiseChain Work} (ordered : Ordered chain)
    (atIndex : chain[index]? = some link) (unsettled : link.settled = false)
    (settled : (predecessor chain index).settled = true) : works chain = link.work?.toList := by
  have same : chain.set index link = chain := by
    obtain ⟨inside, equal⟩ := List.getElem?_eq_some_iff.mp atIndex
    rw [← equal, List.set_getElem_self]
  rw [← ordered.works_set link atIndex unsettled settled, same]

end PromiseChain

end Orbital.Foundation
