import Orbital.Foundation.RelyGuarantee
import Orbital.PulseCore.SorobanSubscriber.SingleFlight

/-! # The stop flag

A poll reads `isStopped` and never writes it, so a stopped subscriber stays stopped
until `start` is called.
-/

namespace Orbital.PulseCore.SorobanSubscriber

open Orbital.Foundation
open Orbital.Foundation.Async

variable {Value : Type}

abbrev Stopped (subscriber : Subscriber Value) : Prop :=
  subscriber.isStopped = true

namespace Subscriber

variable {subscriber : Subscriber Value}

theorem stopped_finishReplay (stopped : Stopped subscriber) : Stopped subscriber.finishReplay := by
  rw [finishReplay]
  split
  · exact stopped
  · exact stopped

theorem stopped_scheduleRetry (stopped : Stopped subscriber) (delay : Delay) :
    Stopped (subscriber.scheduleRetry delay) := by
  rw [scheduleRetry, if_pos stopped]
  exact stopped

theorem stopped_touchSeen (stopped : Stopped subscriber) (id : String) :
    Stopped (subscriber.touchSeen id) := by
  rw [touchSeen]
  split
  · exact stopped
  · exact stopped

end Subscriber

variable {subscriber : Subscriber Value}

theorem stopped_noteReconnected (stopped : Stopped subscriber) :
    Stopped (noteReconnected subscriber) := by
  rw [noteReconnected]
  split
  · exact stopped
  · exact stopped

theorem stopped_retryLater (stopped : Stopped subscriber) (options : Options)
    (error : SorobanRpcError) (currentCursor : Option String) :
    Stopped (retryLater options error currentCursor subscriber) := by
  change Stopped (ite _ (ite _ _ _) (ite _ _ _))
  split
  · split
    · exact stopped
    · exact stopped
  · split
    · refine Subscriber.stopped_scheduleRetry ?_ _
      exact stopped
    · refine Subscriber.stopped_scheduleRetry ?_ _
      exact stopped

variable {options : Options}

/-! ## The parts of a poll -/

theorem preserves_chooseStartLedger (cursor : Option String) :
    Preserves Stopped (chooseStartLedger options cursor : Poll Value Unit) := by
  refine preserves_get.bind ?_
  intro subscriber
  split
  · refine (preserves_call _).bind ?_
    intro latestLedger
    exact preserves_modify fun _ stopped => stopped
  · trivial

theorem preserves_fetchPages (cursor : Option String)
    (calls : List (List ContractSubscriptionFilter)) :
    Preserves Stopped (fetchPages options cursor calls : Poll Value (List (Page Value))) := by
  refine (preserves_chooseStartLedger cursor).bind ?_
  intro _
  refine preserves_get.bind ?_
  intro subscriber
  exact preserves_call _

theorem preserves_currentCursor (subscriber : Subscriber Value) :
    Preserves Stopped (currentCursor options subscriber) := by
  rw [currentCursor]
  split
  · trivial
  · exact preserves_call _

theorem preserves_handleRpcError (error : SorobanRpcError) (cursor : Option String) :
    Preserves Stopped (handleRpcError options error cursor : Poll Value Unit) := by
  rw [handleRpcError]
  split
  · exact preserves_modify fun _ stopped => stopped_retryLater stopped options error cursor
  · split
    · exact preserves_modify fun _ stopped => stopped
    · trivial

theorem preserves_recoverExpired :
    Preserves Stopped (recoverExpired options : Poll Value Bool) := by
  refine Preserves.orElse ?_ fun _ => trivial
  refine (preserves_call _).bind ?_
  intro fallbackPage
  cases fallbackPage.latestLedger with
  | none => trivial
  | some latestLedger =>
      have retry : Preserves Stopped (do
          Async.modify fun subscriber =>
            subscriber.scheduleRetry (.exactly options.retryDelayMs)
          return true : Poll Value Bool) := by
        refine (preserves_modify ?_).bind fun _ => trivial
        intro subscriber stopped
        exact Subscriber.stopped_scheduleRetry stopped _
      change Preserves Stopped (ite _ _ _)
      split
      · exact (preserves_modify fun _ stopped => stopped).bind fun _ => retry
      · exact (preserves_call _).bind fun _ => retry

theorem preserves_handleFetchFailure (failure : Failure) (cursor : Option String) :
    Preserves Stopped (handleFetchFailure options failure cursor : Poll Value Unit) := by
  cases failure with
  | abort | other message => trivial
  | rpc error =>
      rw [handleFetchFailure]
      split
      · refine (preserves_modify fun _ stopped => stopped).bind ?_
        intro _
        refine preserves_recoverExpired.bind ?_
        intro recovered
        split
        · trivial
        · exact preserves_handleRpcError error cursor
      · exact preserves_handleRpcError error cursor

theorem preserves_callHandler (handler : Option String) (event : SorobanEvent Value) :
    Preserves Stopped (callHandler handler event) := by
  cases handler with
  | none => trivial
  | some name =>
      refine (preserves_modify fun _ stopped => stopped).bind ?_
      intro _
      exact preserves_call _

theorem preserves_dispatchTo (event : SorobanEvent Value)
    (subscriptions : List SorobanSubscription) :
    Preserves Stopped (dispatchTo options event subscriptions) := by
  induction subscriptions with
  | nil => trivial
  | cons sub rest induction =>
      rw [dispatchTo]
      split
      · exact (preserves_callHandler _ event).bind fun _ => induction
      · exact induction

theorem preserves_dispatch (event : SorobanEvent Value) :
    Preserves Stopped (dispatch options event) := by
  refine preserves_get.bind ?_
  intro subscriber
  split
  · exact preserves_callHandler _ _
  · exact preserves_dispatchTo _ _

theorem preserves_deliver (events : List (SorobanEvent Value)) :
    Preserves Stopped (deliver options events) := by
  induction events with
  | nil => trivial
  | cons event rest induction =>
      rw [deliver]
      refine preserves_get.bind ?_
      intro subscriber
      split
      · trivial
      · split
        · refine (preserves_modify ?_).bind fun _ => trivial
          exact fun _ stopped => Subscriber.stopped_finishReplay stopped
        · split
          · refine (preserves_modify ?_).bind fun _ => induction
            exact fun _ stopped => Subscriber.stopped_touchSeen stopped event.id
          · refine (preserves_dispatch event).bind ?_
            intro _
            exact (preserves_modify fun _ stopped => stopped).bind fun _ => induction

theorem preserves_advanceCursor (cursor : Option String) :
    Preserves Stopped (advanceCursor options cursor : Poll Value Unit) := by
  cases cursor with
  | none => trivial
  | some cursor =>
      rw [advanceCursor]
      split
      · exact preserves_modify fun _ stopped => stopped
      · exact preserves_call _

theorem preserves_deliverPages (pages : List (Page Value))
    (uniqueEvents : List (SorobanEvent Value)) :
    Preserves Stopped (deliverPages options pages uniqueEvents) := by
  refine (preserves_deliver uniqueEvents).bind ?_
  intro complete
  split
  · exact preserves_advanceCursor _
  · trivial

theorem preserves_processPages (pages : List (Page Value)) (calls : Nat) :
    Preserves Stopped (processPages options pages calls) := by
  refine (preserves_modify fun _ stopped => stopped_noteReconnected stopped).bind ?_
  intro _
  change Preserves Stopped (ite _ _ _)
  split
  · exact preserves_modify fun _ stopped => Subscriber.stopped_finishReplay stopped
  · refine (preserves_modify fun _ stopped => stopped).bind ?_
    intro _
    exact (preserves_deliverPages pages _).tryFinally fun _ stopped => stopped

theorem preserves_doPoll : Preserves Stopped (doPoll options : Poll Value Unit) := by
  refine preserves_get.bind ?_
  intro subscriber
  split
  · trivial
  · refine (preserves_currentCursor subscriber).bind ?_
    intro cursor
    refine (preserves_fetchPages cursor _).attempt.bind ?_
    intro fetched
    cases fetched with
    | error failure => exact preserves_handleFetchFailure failure cursor
    | ok pages => exact preserves_processPages pages _

/-! ## A stopped loop -/

namespace PollLoop

def Steady (loop : PollLoop Value) : Prop :=
  ∀ (index : Nat) task, loop.polls[index]? = some task → Preserves Stopped task.body

def linkDue (loop : PollLoop Value) (link : ChainedPoll) : Prop :=
  (link.status = .waiting ∧ loop.settled link.source ≠ none) ∨ link.status = .called none ∨
    ∃ poll, link.status = .called (some poll) ∧ loop.settled (.poll poll) ≠ none

def KeepsLinks (loop next : PollLoop Value) : Prop :=
  ∀ (index : Nat) link, loop.links[index]? = some link →
    next.links[index]? = some link ∨ loop.linkDue link

variable {loop next : PollLoop Value} {index : Nat} {options : Options}

theorem keepsLinks_setStatus {link : ChainedPoll} {status : LinkStatus}
    (atIndex : loop.links[index]? = some link) (due : loop.linkDue link)
    (links : next.links = (loop.setStatus index status).links) : KeepsLinks loop next := by
  intro other found atOther
  rw [links]
  by_cases same : index = other
  · subst same
    rw [atIndex] at atOther
    cases atOther
    exact .inr due
  · refine .inl ?_
    rw [setStatus_links_other loop status same]
    exact atOther

theorem keepsLinks_chain (loop : PollLoop Value) : KeepsLinks loop loop.chain := by
  intro index link atIndex
  exact .inl ((List.getElem?_append_left (List.getElem?_eq_some_iff.mp atIndex).1).trans atIndex)

theorem keepsLinks_refl (links : next.links = loop.links) : KeepsLinks loop next := by
  intro index link atIndex
  rw [links]
  exact .inl atIndex

structure Idles (loop next : PollLoop Value) : Prop where
  stopped : Stopped next.subscriber
  notices : next.subscriber.notices = loop.subscriber.notices
  bodies : ∀ index : Nat,
    (next.polls[index]?).map PollTask.body = (loop.polls[index]?).map PollTask.body
  links : KeepsLinks loop next

structure Answers (loop : PollLoop Value) (index : Nat) (task : PollTask Value)
    (answer : (request : Request Value) → Except Failure (Response Value request))
    (next : PollLoop Value) : Prop where
  atIndex : loop.polls[index]? = some task
  awaiting : task.body.awaiting = true
  subscriber : next.subscriber = (task.body.answer answer loop.subscriber).1
  polls : next.polls =
    loop.polls.set index { task with body := (task.body.answer answer loop.subscriber).2 }
  links : next.links = loop.links
  inflightPoll : next.inflightPoll = loop.inflightPoll

variable {answer : (request : Request Value) → Except Failure (Response Value request)}
  {event : Event Value}

theorem answers_of_respond (taken : loop.respond index answer = some next) :
    ∃ task, Answers loop index task answer next := by
  rcases respond_cases taken with ⟨task, atIndex, executing, rfl⟩
  exact ⟨task, atIndex, executing, rfl, rfl, rfl, rfl⟩

theorem stopped_step (stopped : Stopped loop.subscriber) (noStart : event ≠ .start)
    (taken : loop.step options event = some next) :
    Idles loop next ∨ ∃ index task answer, Answers loop index task answer next := by
  cases event with
  | start => exact absurd rfl noStart
  | stop =>
      cases taken
      exact .inl ⟨rfl, rfl, fun _ => rfl, keepsLinks_refl rfl⟩
  | tick =>
      cases tick_cases taken
      exact .inl ⟨stopped, rfl, fun _ => rfl, keepsLinks_chain loop⟩
  | retryFires timer =>
      rcases retryFires_cases taken with ⟨timers, ⟨_, rfl⟩ | ⟨_, rfl⟩⟩
      · exact .inl ⟨stopped, rfl, fun _ => rfl, keepsLinks_refl rfl⟩
      · exact .inl ⟨stopped, rfl, fun _ => rfl, keepsLinks_chain loop⟩
  | respond index answer =>
      rcases answers_of_respond taken with ⟨task, answers⟩
      exact .inr ⟨index, task, answer, answers⟩
  | cleanUp index =>
      rcases cleanUp_cases taken with ⟨task, atIndex, _, rfl⟩
      refine .inl ⟨stopped, rfl, ?_, keepsLinks_refl rfl⟩
      intro other
      by_cases same : index = other
      · subst same
        rw [List.getElem?_set_self (List.getElem?_eq_some_iff.mp atIndex).1, atIndex]
        rfl
      · rw [List.getElem?_set_ne same]
  | callLink index =>
      rcases callLink_cases taken with ⟨source, atIndex, ⟨settled, rfl⟩ | ⟨settled, rfl⟩⟩
      · rw [pollOnce, if_pos stopped]
        exact .inl ⟨stopped, rfl, fun _ => rfl, keepsLinks_setStatus atIndex
          (.inl ⟨rfl, by rw [settled]; exact Option.some_ne_none _⟩) rfl⟩
      · exact .inl ⟨stopped, rfl, fun _ => rfl, keepsLinks_setStatus atIndex
          (.inl ⟨rfl, by rw [settled]; exact Option.some_ne_none _⟩) rfl⟩
  | settleLink index =>
      rcases settleLink_cases taken with ⟨source, called, status, atIndex, _, rfl, due⟩
      refine .inl ⟨stopped, rfl, fun _ => rfl, keepsLinks_setStatus atIndex ?_ rfl⟩
      cases called with
      | none => exact .inr (.inl rfl)
      | some poll => exact .inr (.inr ⟨poll, rfl, (due poll rfl).2⟩)

/-! ## Runs -/

theorem Answers.poll {other : Nat} {task found : PollTask Value}
    (answers : Answers loop index task answer next) (atOther : next.polls[other]? = some found) :
    (other = index ∧ found.body = (task.body.answer answer loop.subscriber).2) ∨
      loop.polls[other]? = some found := by
  rw [answers.polls, List.getElem?_set] at atOther
  split at atOther
  · rename_i same
    split at atOther
    · cases atOther
      exact .inl ⟨same.symm, rfl⟩
    · cases atOther
  · exact .inr atOther

theorem Steady.step (steady : Steady loop) (taken : loop.step options event = some next) :
    Steady next := by
  intro index task atIndex
  by_cases answersOne : ∃ index answer, event = .respond index answer
  · rcases answersOne with ⟨answered, answer, rfl⟩
    rcases answers_of_respond taken with ⟨before, answers⟩
    rcases answers.poll atIndex with ⟨_, same⟩ | unchanged
    · rw [same]
      exact (steady answered before answers.atIndex).answer answer loop.subscriber
    · exact steady index task unchanged
  · have noAnswer : ∀ index answer, event ≠ .respond index answer := by
      intro index answer same
      exact answersOne ⟨index, answer, same⟩
    rcases step_polls noAnswer taken index task atIndex with ⟨before, found, same⟩ | started
    · rw [← same]
      exact steady index before found
    · rw [started]
      exact preserves_doPoll.advance loop.subscriber

theorem steady_run {subscriber : Subscriber Value} {events : List (Event Value)}
    {final : PollLoop Value} (run : Run options (initial subscriber) events final) :
    Steady final := by
  refine run.invariant (motive := Steady) ?_ ?_
  · intro current event next steady taken
    exact steady.step taken
  · intro index task atIndex
    cases atIndex

end PollLoop

end Orbital.PulseCore.SorobanSubscriber
