import Orbital.PulseCore.SorobanSubscriber.PollLoop

/-! # How many polls execute at once

Links that wait one behind the other start their polls one after the other. A
second line opens when a tick finds a poll in `inflightPoll` while a link chained
earlier still waits for the `pollOnce` that started that poll.
-/

namespace Orbital.PulseCore.SorobanSubscriber

open Orbital.Foundation

variable {Value : Type}

namespace PollLoop

def executes (loop : PollLoop Value) (index : Nat) : Bool :=
  (loop.polls[index]?).any PollTask.executing

def isCleaned (loop : PollLoop Value) (index : Nat) : Bool :=
  (loop.polls[index]?).any PollTask.cleaned

/-- A link chained now joins the one line: it is chained on the last link, or no
link waits. -/
def lineOpen (loop : PollLoop Value) : Bool :=
  match loop.inflightPoll with
  | some (.link _) => true
  | _ => loop.links.all fun link => link.status ≠ .waiting

def inOrder (loop : PollLoop Value) : Event Value → Bool
  | .start => loop.isRunning || loop.lineOpen
  | .tick => loop.lineOpen
  | .retryFires _ => loop.subscriber.isStopped || loop.lineOpen
  | _ => true

inductive Follows (loop : PollLoop Value) (index : Nat) : Source → Prop
  | poll : Follows loop index (.poll index)
  | caller (position : Nat) (link : ChainedPoll)
      (atPosition : loop.links[position]? = some link)
      (called : link.status = .called (some index)) : Follows loop index (.link position)

structure SingleFile (first : Nat) (loop : PollLoop Value) : Prop where
  bound : first ≤ loop.links.length
  before : ∀ (index : Nat) link, index < first → loop.links[index]? = some link →
    link.status ≠ .waiting
  behind : ∀ (index : Nat) link, first ≤ index → loop.links[index]? = some link →
    link.status = .waiting
  lined : ∀ (index : Nat) link, first ≤ index → loop.links[index + 1]? = some link →
    link.source = .link index
  alone : ∀ left right, loop.executes left = true → loop.executes right = true →
    left = right
  head : ∀ index link, loop.executes index = true → loop.links[first]? = some link →
    Follows loop index link.source
  next : ∀ index, loop.executes index = true → first = loop.links.length →
    loop.inflightPoll = some (.poll index)
  last : ∀ index, loop.inflightPoll = some (.link index) → index + 1 = loop.links.length
  uncleaned : ∀ index, loop.executes index = true → loop.isCleaned index = false

theorem initial_singleFile (subscriber : Subscriber Value) :
    SingleFile 0 (initial subscriber : PollLoop Value) where
  bound := Nat.le_refl _
  before := by simp
  behind := by simp [initial]
  lined := by simp [initial]
  alone := by simp [initial, executes]
  head := by simp [initial]
  next := by simp [initial, executes]
  last := by simp [initial]
  uncleaned := by simp [initial, executes]

/-! ## Small facts -/

variable {loop next : PollLoop Value} {index first : Nat}

theorem executes_iff :
    loop.executes index = true ↔
      ∃ task, loop.polls[index]? = some task ∧ task.executing = true := by
  simp [executes, Option.any_eq_true]

theorem not_settled_of_executes (executing : loop.executes index = true) :
    loop.settled (.poll index) = none := by
  rcases executes_iff.mp executing with ⟨task, atIndex, awaiting⟩
  cases body : task.body with
  | await request resume => simp [settled, atIndex, body]
  | _ => simp [PollTask.executing, Async.awaiting, body] at awaiting

variable {source : Source} {link : ChainedPoll} {options : Options}

theorem Follows.not_settled (follows : Follows loop index source)
    (executing : loop.executes index = true) : loop.settled source = none := by
  cases follows with
  | poll => exact not_settled_of_executes executing
  | caller position link atPosition called => simp [settled, atPosition, called]

theorem Follows.transfer (follows : Follows loop index source)
    (keeps : ∀ (position : Nat) link, loop.links[position]? = some link →
      link.status = .called (some index) → next.links[position]? = some link) :
    Follows next index source := by
  cases follows with
  | poll => exact .poll
  | caller position link atPosition called =>
      exact .caller position link (keeps position link atPosition called) called

theorem setStatus_links_other (loop : PollLoop Value) {other : Nat} (status : LinkStatus)
    (different : index ≠ other) :
    (loop.setStatus index status).links[other]? = loop.links[other]? := by
  simp [setStatus, different]

theorem setStatus_links_same (loop : PollLoop Value) (index : Nat) (status : LinkStatus) :
    (loop.setStatus index status).links[index]? =
      (loop.links[index]?).map fun link => { link with status } := by
  simp [setStatus]

theorem setStatus_length (loop : PollLoop Value) (index : Nat) (status : LinkStatus) :
    (loop.setStatus index status).links.length = loop.links.length := by
  simp [setStatus]

/-! ## Chaining -/

theorem SingleFile.of_same (holds : SingleFile first loop)
    (inflight : next.inflightPoll = loop.inflightPoll) (polls : next.polls = loop.polls)
    (links : next.links = loop.links) : SingleFile first next := by
  rcases next with ⟨subscriber, isRunning, pollTimer, inflightPoll, nextPolls, nextLinks⟩
  rcases loop with ⟨_, _, _, _, _, _⟩
  cases inflight
  cases polls
  cases links
  exact {
    bound := holds.bound
    before := holds.before
    behind := holds.behind
    lined := holds.lined
    alone := holds.alone
    head := fun index link executing atFirst =>
      (holds.head index link executing atFirst).transfer fun _ _ found _ => found
    next := holds.next
    last := holds.last
    uncleaned := holds.uncleaned }

theorem SingleFile.nobody_waits (holds : SingleFile first loop)
    (noneWaiting : (loop.links.all fun link => link.status ≠ .waiting) = true) :
    first = loop.links.length := by
  rcases Nat.lt_or_ge first loop.links.length with inside | outside
  · have found := List.getElem?_eq_getElem inside
    have waiting := holds.behind first _ (Nat.le_refl _) found
    have notWaiting := List.all_eq_true.mp noneWaiting _ (List.getElem_mem inside)
    simp [waiting] at notWaiting
  · exact Nat.le_antisymm holds.bound outside

theorem SingleFile.chain (holds : SingleFile first loop) (lineIsOpen : loop.lineOpen = true) :
    SingleFile first loop.chain := by
  have newLink : loop.chain.links[loop.links.length]? =
      some { source := loop.inflightPoll.getD .resolved, status := .waiting } :=
    List.getElem?_concat_length
  have oldLink : ∀ index, index < loop.links.length →
      loop.chain.links[index]? = loop.links[index]? :=
    fun index inside => List.getElem?_append_left inside
  have position : ∀ (index : Nat) link, loop.chain.links[index]? = some link →
      index < loop.links.length ∨ index = loop.links.length := by
    intro index link found
    have inside := (List.getElem?_eq_some_iff.mp found).1
    simp only [PollLoop.chain, List.length_append, List.length_singleton] at inside
    omega
  -- With nobody waiting, an executing poll is the one chained on.
  have sourceOfFirst : first = loop.links.length → ∀ index, loop.executes index = true →
      loop.inflightPoll = some (.poll index) :=
    fun nobodyWaits index executing => holds.next index executing nobodyWaits
  exact {
    bound := by
      have bound := holds.bound
      simp only [PollLoop.chain, List.length_append, List.length_singleton]
      omega
    before := by
      intro index link early found
      have inside : index < loop.links.length := Nat.lt_of_lt_of_le early holds.bound
      rw [oldLink index inside] at found
      exact holds.before index link early found
    behind := by
      intro index link late found
      rcases position index link found with inside | isNew
      · rw [oldLink index inside] at found
        exact holds.behind index link late found
      · rw [isNew, newLink] at found
        cases found
        rfl
    lined := by
      intro index link late found
      rcases position (index + 1) link found with inside | isNew
      · rw [oldLink (index + 1) inside] at found
        exact holds.lined index link late found
      · rw [isNew, newLink] at found
        cases found
        -- The line is open and somebody waits, so the new link is on the last one.
        cases inflight : loop.inflightPoll with
        | none =>
            rw [lineOpen, inflight] at lineIsOpen
            have nobody := holds.nobody_waits lineIsOpen
            omega
        | some source =>
            cases source with
            | link previous =>
                have isLast := holds.last previous inflight
                have same : previous = index := by omega
                rw [same]
                rfl
            | _ =>
                rw [lineOpen, inflight] at lineIsOpen
                have nobody := holds.nobody_waits lineIsOpen
                omega
    alone := holds.alone
    head := by
      intro index link executing found
      rcases position first link found with inside | isNew
      · rw [oldLink first inside] at found
        refine (holds.head index link executing found).transfer ?_
        intro position caller atPosition _
        rw [oldLink position (List.getElem?_eq_some_iff.mp atPosition).1]
        exact atPosition
      · have inflight := sourceOfFirst isNew index executing
        rw [isNew, newLink, inflight] at found
        rw [← Option.some.inj found]
        exact .poll
    next := by
      intro index executing full
      have bound := holds.bound
      simp only [PollLoop.chain, List.length_append, List.length_singleton] at full
      omega
    last := by
      intro index inflight
      cases inflight
      simp [PollLoop.chain]
    uncleaned := holds.uncleaned }

/-! ## Reactions -/

theorem SingleFile.due (holds : SingleFile first loop) (atIndex : loop.links[index]? = some link)
    (waiting : link.status = .waiting) (settled : loop.settled link.source ≠ none) :
    index = first ∧ ∀ poll, loop.executes poll = false := by
  have late : first ≤ index := by
    rcases Nat.lt_or_ge index first with early | late
    · exact absurd waiting (holds.before index link early atIndex)
    · exact late
  have isFirst : index = first := by
    rcases Nat.eq_or_lt_of_le late with same | behind
    · exact same.symm
    · exfalso
      rcases index with _ | previous
      · omega
      · have source := holds.lined previous link (by omega) atIndex
        have inside : previous < loop.links.length := by
          have bound := (List.getElem?_eq_some_iff.mp atIndex).1
          omega
        have found := List.getElem?_eq_getElem inside
        have previousWaits := holds.behind previous _ (by omega) found
        apply settled
        simp [source, PollLoop.settled, found, previousWaits]
  refine ⟨isFirst, ?_⟩
  intro poll
  cases executing : loop.executes poll with
  | false => rfl
  | true =>
      subst isFirst
      exact absurd ((holds.head poll link executing atIndex).not_settled executing) settled

theorem SingleFile.react (holds : SingleFile first loop) (status : LinkStatus)
    (inside : first < loop.links.length) (notWaiting : status ≠ .waiting)
    (links : next.links = (loop.setStatus first status).links)
    (started : ∀ index, next.executes index = true →
      status = .called (some index) ∧ next.inflightPoll = some (.poll index) ∧
        next.isCleaned index = false) (last : ∀ index, next.inflightPoll = some (.link index) →
      loop.inflightPoll = some (.link index)) : SingleFile (first + 1) next := by
  have sameLength : next.links.length = loop.links.length := by
    rw [links, setStatus_length]
  have other : ∀ index, index ≠ first → next.links[index]? = loop.links[index]? := by
    intro index different
    rw [links, setStatus_links_other loop status different.symm]
  have found := List.getElem?_eq_getElem inside
  have atFirst : next.links[first]? = some { loop.links[first] with status } := by
    rw [links, setStatus_links_same, found]
    rfl
  exact {
    bound := by
      rw [sameLength]
      exact inside
    before := by
      intro index link early atIndex
      rcases Nat.lt_or_ge index first with before | same
      · rw [other index (by omega)] at atIndex
        exact holds.before index link before atIndex
      · have isFirst : index = first := by omega
        rw [isFirst, atFirst] at atIndex
        cases atIndex
        exact notWaiting
    behind := by
      intro index link late atIndex
      rw [other index (by omega)] at atIndex
      exact holds.behind index link (by omega) atIndex
    lined := by
      intro index link late atIndex
      rw [other (index + 1) (by omega)] at atIndex
      exact holds.lined index link (by omega) atIndex
    alone := by
      intro left right leftExecutes rightExecutes
      have leftStatus := (started left leftExecutes).1
      have rightStatus := (started right rightExecutes).1
      rw [leftStatus] at rightStatus
      simpa using rightStatus
    head := by
      intro index link executing atNext
      rw [other (first + 1) (by omega)] at atNext
      rw [holds.lined first link (Nat.le_refl _) atNext]
      exact .caller first _ atFirst (started index executing).1
    next := fun index executing _ => (started index executing).2.1
    last := by
      intro index inflight
      rw [sameLength]
      exact holds.last index (last index inflight)
    uncleaned := fun index executing => (started index executing).2.2 }

theorem SingleFile.pollOnce (options : Options) (holds : SingleFile first loop)
    (inside : first < loop.links.length) (idle : ∀ poll, loop.executes poll = false) :
    SingleFile (first + 1) (loop.pollOnce options first) := by
  rw [PollLoop.pollOnce]
  split
  · refine holds.react (.called none) inside (by simp) rfl ?_ (fun _ inflight => inflight)
    intro index executing
    have notExecuting : loop.executes index = false := idle index
    simp only [executes, setStatus] at executing notExecuting
    simp [notExecuting] at executing
  · refine holds.react (.called (some loop.polls.length)) inside (by simp) rfl ?_ ?_
    · intro index executing
      rcases executes_iff.mp executing with ⟨task, atIndex, awaiting⟩
      rcases Nat.lt_trichotomy index loop.polls.length with old | new | outside
      · rw [List.getElem?_append_left old] at atIndex
        have wasExecuting := executes_iff.mpr ⟨task, atIndex, awaiting⟩
        simp [idle index] at wasExecuting
      · subst new
        exact ⟨rfl, rfl, by simp [isCleaned]⟩
      · have inside := (List.getElem?_eq_some_iff.mp atIndex).1
        simp only [List.length_append, List.length_singleton] at inside
        omega
    · intro index inflight
      cases inflight

theorem SingleFile.callLink (holds : SingleFile first loop)
    (taken : loop.callLink options index = some next) : ∃ first, SingleFile first next := by
  rcases callLink_cases taken with ⟨source, atIndex, ⟨settled, rfl⟩ | ⟨settled, rfl⟩⟩
  · have inside := (List.getElem?_eq_some_iff.mp atIndex).1
    rcases holds.due atIndex rfl (by simp [settled]) with ⟨rfl, idle⟩
    exact ⟨index + 1, holds.pollOnce options inside idle⟩
  · have inside := (List.getElem?_eq_some_iff.mp atIndex).1
    rcases holds.due atIndex rfl (by simp [settled]) with ⟨rfl, idle⟩
    refine ⟨index + 1, holds.react .rejected inside (by simp) rfl ?_
      (fun _ inflight => inflight)⟩
    intro poll executing
    have notExecuting : loop.executes poll = false := idle poll
    simp only [executes, setStatus] at executing notExecuting
    simp [notExecuting] at executing

theorem SingleFile.of_poll {task changed : PollTask Value} (holds : SingleFile first loop)
    (atIndex : loop.polls[index]? = some task) (links : next.links = loop.links)
    (polls : next.polls = loop.polls.set index changed)
    (still : changed.executing = true → task.executing = true ∧ changed.cleaned = task.cleaned)
    (inflight : ∀ other, next.executes other = true →
      loop.inflightPoll = some (.poll other) → next.inflightPoll = some (.poll other))
    (last : ∀ other, next.inflightPoll = some (.link other) →
      loop.inflightPoll = some (.link other)) : SingleFile first next := by
  have inside := (List.getElem?_eq_some_iff.mp atIndex).1
  have was : ∀ other, next.executes other = true →
      loop.executes other = true ∧ next.isCleaned other = loop.isCleaned other := by
    intro other executing
    by_cases same : index = other
    · subst same
      have changedExecutes : changed.executing = true := by
        simpa [executes, polls, inside] using executing
      rcases still changedExecutes with ⟨taskExecutes, cleaned⟩
      refine ⟨executes_iff.mpr ⟨task, atIndex, taskExecutes⟩, ?_⟩
      rw [isCleaned, isCleaned, polls, List.getElem?_set_self inside, atIndex]
      exact cleaned
    · simpa [executes, isCleaned, polls, List.getElem?_set_ne same] using executing
  exact {
    bound := links ▸ holds.bound
    before := links ▸ holds.before
    behind := links ▸ holds.behind
    lined := links ▸ holds.lined
    alone := fun left right leftExecutes rightExecutes =>
      holds.alone left right (was left leftExecutes).1 (was right rightExecutes).1
    head := by
      intro other link executing atFirst
      rw [links] at atFirst
      refine (holds.head other link (was other executing).1 atFirst).transfer ?_
      intro position caller atPosition _
      rw [links]
      exact atPosition
    next := by
      intro other executing full
      rw [links] at full
      exact inflight other executing (holds.next other (was other executing).1 full)
    last := by
      intro other isLink
      rw [links]
      exact holds.last other (last other isLink)
    uncleaned := by
      intro other executing
      rw [(was other executing).2]
      exact holds.uncleaned other (was other executing).1 }

theorem SingleFile.respond
    {answer : (request : Request Value) → Except Failure (Response Value request)}
    (holds : SingleFile first loop) (taken : loop.respond index answer = some next) :
    SingleFile first next := by
  rcases respond_cases taken with ⟨task, atIndex, awaiting, rfl⟩
  exact holds.of_poll atIndex rfl rfl (fun _ => ⟨awaiting, rfl⟩)
    (fun _ _ inflight => inflight) (fun _ inflight => inflight)

theorem SingleFile.cleanUp (holds : SingleFile first loop)
    (taken : loop.cleanUp index = some next) : SingleFile first next := by
  rcases cleanUp_cases taken with ⟨task, atIndex, notExecuting, rfl⟩
  have inside := (List.getElem?_eq_some_iff.mp atIndex).1
  refine holds.of_poll atIndex rfl rfl ?_ ?_ ?_
  · intro executing
    exact absurd executing (by simpa [PollTask.executing] using notExecuting)
  · intro other executing inflight
    have different : index ≠ other := by
      intro same
      subst same
      simp [executes, inside, PollTask.executing] at executing
      simp [PollTask.executing, executing] at notExecuting
    simp [inflight, Ne.symm different]
  · intro other inflight
    split at inflight
    · cases inflight
    · exact inflight

theorem SingleFile.settle (status : LinkStatus) (holds : SingleFile first loop)
    (atIndex : loop.links[index]? = some link) (notWaiting : status ≠ .waiting)
    (called : link.status ≠ .waiting)
    (isOver : ∀ poll, loop.executes poll = true → link.status ≠ .called (some poll)) :
    SingleFile first (loop.setStatus index status) := by
  have early : index < first := by
    rcases Nat.lt_or_ge index first with early | late
    · exact early
    · exact absurd (holds.behind index link late atIndex) called
  have other : ∀ position, position ≠ index →
      (loop.setStatus index status).links[position]? = loop.links[position]? :=
    fun position different => setStatus_links_other loop status different.symm
  have settledLink : (loop.setStatus index status).links[index]? =
      some { link with status } := by
    rw [setStatus_links_same, atIndex]
    rfl
  exact {
    bound := by
      rw [setStatus_length]
      exact holds.bound
    before := by
      intro position found before atPosition
      by_cases same : position = index
      · subst same
        rw [settledLink] at atPosition
        cases atPosition
        exact notWaiting
      · rw [other position same] at atPosition
        exact holds.before position found before atPosition
    behind := by
      intro position found late atPosition
      rw [other position (by omega)] at atPosition
      exact holds.behind position found late atPosition
    lined := by
      intro position found late atPosition
      rw [other (position + 1) (by omega)] at atPosition
      exact holds.lined position found late atPosition
    alone := holds.alone
    head := by
      intro poll found executing atFirst
      rw [other first (by omega)] at atFirst
      refine (holds.head poll found executing atFirst).transfer ?_
      intro position caller atPosition callerCalled
      by_cases same : position = index
      · subst same
        rw [atIndex] at atPosition
        cases atPosition
        exact absurd callerCalled (isOver poll executing)
      · rw [other position same]
        exact atPosition
    next := by
      intro poll executing full
      rw [setStatus_length] at full
      exact holds.next poll executing full
    last := by
      intro position inflight
      rw [setStatus_length]
      exact holds.last position inflight
    uncleaned := holds.uncleaned }

theorem SingleFile.settleLink (holds : SingleFile first loop)
    (taken : loop.settleLink index = some next) : SingleFile first next := by
  rcases settleLink_cases taken with ⟨source, called, status, atIndex, isOver, rfl, due⟩
  refine holds.settle status atIndex ?_ (by simp) ?_
  · rcases isOver with rfl | rfl
    · simp
    · simp
  · intro poll executing same
    have cleaned := (due poll (LinkStatus.called.inj same)).1
    have uncleaned := holds.uncleaned poll executing
    simp only [isCleaned] at uncleaned
    simp [uncleaned] at cleaned

/-! ## Steps and runs -/

theorem SingleFile.step {event : Event Value} (holds : SingleFile first loop)
    (orderly : loop.inOrder event = true) (taken : PollLoop.step options loop event = some next) :
    ∃ first, SingleFile first next := by
  cases event with
  | start =>
      cases taken
      rw [PollLoop.start]
      split
      · exact ⟨first, holds⟩
      · rename_i notRunning
        have lineIsOpen : loop.lineOpen = true := by simpa [inOrder, notRunning] using orderly
        exact ⟨first, (holds.chain lineIsOpen).of_same rfl rfl rfl⟩
  | stop =>
      cases taken
      exact ⟨first, holds.of_same rfl rfl rfl⟩
  | tick =>
      cases tick_cases taken
      exact ⟨first, holds.chain orderly⟩
  | retryFires timer =>
      rcases retryFires_cases taken with ⟨timers, ⟨_, rfl⟩ | ⟨notStopped, rfl⟩⟩
      · exact ⟨first, holds.of_same rfl rfl rfl⟩
      · have lineIsOpen : loop.lineOpen = true := by simpa [inOrder, notStopped] using orderly
        exact ⟨first, (holds.chain lineIsOpen).of_same rfl rfl rfl⟩
  | respond index answer => exact ⟨first, holds.respond taken⟩
  | cleanUp index => exact ⟨first, holds.cleanUp taken⟩
  | callLink index => exact holds.callLink taken
  | settleLink index => exact ⟨first, holds.settleLink taken⟩

/-- As long as every tick, retry timer and start finds the line open, at most one
poll executes at any moment. -/
theorem single_flight (options : Options) (subscriber : Subscriber Value)
    (events : List (Event Value)) (final : PollLoop Value)
    (run : Trace (Guarded (fun loop event => loop.inOrder event = true)
      (Takes (PollLoop.step options))) (initial subscriber) events final)
    (left right : Nat) (leftExecutes : final.executes left = true)
    (rightExecutes : final.executes right = true) : left = right := by
  have line : ∃ first, SingleFile first final := by
    refine run.invariant (motive := fun loop => ∃ first, SingleFile first loop) ?_
      ⟨0, initial_singleFile subscriber⟩
    rintro current event next ⟨first, holds⟩ ⟨orderly, taken⟩
    exact holds.step orderly taken
  rcases line with ⟨first, holds⟩
  exact holds.alone left right leftExecutes rightExecutes

def quietAnswer : (request : Request Value) → Except Failure (Response Value request)
  | .getCursor => .ok (some "41")
  | .saveCursor _ => .ok ()
  | .getLatestLedger => .ok 0
  | .getEvents _ => .ok []
  | .getFallbackPage _ => .ok { events := [], latestLedger := none, cursor := none }
  | .onEvent _ _ => .ok ()

/-- Two polls run one after the other, the second chained during the first. -/
theorem single_flight_two_polls :
    ∃ final : PollLoop Unit,
      Trace (Guarded (fun loop event => loop.inOrder event = true)
        (Takes (PollLoop.step .default))) (initial (.new none))
        [.start, .callLink 0, .tick, .respond 0 quietAnswer, .respond 0 quietAnswer,
          .cleanUp 0, .callLink 1] final ∧
      final.executes 1 = true ∧ ∀ index, final.executes index = true → index = 1 := by
  have run : Trace (Guarded (fun loop event => loop.inOrder event = true)
      (Takes (PollLoop.step .default))) (initial (.new none) : PollLoop Unit)
      [.start, .callLink 0, .tick, .respond 0 quietAnswer, .respond 0 quietAnswer,
        .cleanUp 0, .callLink 1] _ :=
    trace_of_runGuarded rfl
  refine ⟨_, run, rfl, ?_⟩
  intro index executing
  exact single_flight .default (.new none) _ _ run index 1 executing rfl

/-- Two ticks during a slow poll leave two links waiting; a third tick during the
next poll opens a second line, and two polls execute at once. -/
theorem late_ticks_overlap :
    ∃ final : PollLoop Unit,
      Run .default (initial (.new none))
        [.start, .callLink 0, .tick, .tick, .respond 0 quietAnswer, .respond 0 quietAnswer,
          .cleanUp 0, .callLink 1, .settleLink 0, .tick, .respond 1 quietAnswer,
          .respond 1 quietAnswer, .cleanUp 1, .callLink 3, .settleLink 1, .callLink 2]
        final ∧
      final.executes 2 = true ∧ final.executes 3 = true :=
  ⟨_, trace_of_runEvents rfl, rfl, rfl⟩

end PollLoop

end Orbital.PulseCore.SorobanSubscriber
