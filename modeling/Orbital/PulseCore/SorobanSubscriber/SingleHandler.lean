import Orbital.PulseCore.SorobanSubscriber.Shutdown

/-! # A subscriber with one handler

A subscriber that has no subscriptions gives each event to the handler of its options,
and to no other. The delivery loop looks at `isStopped` before each event, so such a
subscriber calls no handler once it is stopped, whatever its polls still do.
-/

namespace Orbital.PulseCore.SorobanSubscriber

open Orbital.Foundation
open Orbital.Foundation.Async

variable {Value : Type}

def Subscriber.handlerCalls (subscriber : Subscriber Value) : List (Notice Value) :=
  subscriber.notices.filter Notice.isHandlerCall

structure Quietly (subscriber next : Subscriber Value) : Prop where
  subscriptions : next.subscriptions = subscriber.subscriptions
  stopped : Stopped subscriber → Stopped next
  calls : Stopped subscriber → next.handlerCalls = subscriber.handlerCalls

theorem Quietly.trans {first second third : Subscriber Value} (before : Quietly first second)
    (behind : Quietly second third) : Quietly first third where
  subscriptions := behind.subscriptions.trans before.subscriptions
  stopped stopped := behind.stopped (before.stopped stopped)
  calls stopped := (behind.calls (before.stopped stopped)).trans (before.calls stopped)

def silence : Contract (Subscriber Value) where
  rely subscriber := subscriber.subscriptions = []
  guarantee := Quietly
  refl _ := ⟨rfl, id, fun _ => rfl⟩
  trans := Quietly.trans
  stable relies quietly := quietly.subscriptions.trans relies

/-! ## The updates of a poll -/

namespace Quietly

variable {subscriber next : Subscriber Value}

theorem of_same (subscriptions : next.subscriptions = subscriber.subscriptions)
    (isStopped : next.isStopped = subscriber.isStopped)
    (notices : next.notices = subscriber.notices) : Quietly subscriber next where
  subscriptions := subscriptions
  stopped stopped := isStopped.trans stopped
  calls _ := congrArg (List.filter Notice.isHandlerCall) notices

theorem notify (subscriber : Subscriber Value) {notice : Notice Value}
    (noCall : notice.isHandlerCall = false) : Quietly subscriber (subscriber.notify notice) where
  subscriptions := rfl
  stopped := id
  calls _ := by
    simp [Subscriber.handlerCalls, Subscriber.notify, noCall]

theorem of_running (subscriptions : next.subscriptions = subscriber.subscriptions)
    (running : ¬ Stopped subscriber) : Quietly subscriber next where
  subscriptions := subscriptions
  stopped stopped := absurd stopped running
  calls stopped := absurd stopped running

theorem scheduleRetry (subscriber : Subscriber Value) (delay : Delay) :
    Quietly subscriber (subscriber.scheduleRetry delay) := by
  rw [Subscriber.scheduleRetry]
  split
  · exact .of_same rfl rfl rfl
  · exact .of_same rfl rfl rfl

theorem finishReplay (subscriber : Subscriber Value) :
    Quietly subscriber subscriber.finishReplay := by
  rw [Subscriber.finishReplay]
  split
  · exact .of_same rfl rfl rfl
  · have marked : Quietly subscriber { subscriber with replayDone := true } :=
      .of_same rfl rfl rfl
    exact marked.trans (.notify _ rfl)

theorem touchSeen (subscriber : Subscriber Value) (id : String) :
    Quietly subscriber (subscriber.touchSeen id) := by
  rw [Subscriber.touchSeen]
  split
  · exact .of_same rfl rfl rfl
  · exact .of_same rfl rfl rfl

theorem noteReconnected (subscriber : Subscriber Value) :
    Quietly subscriber (noteReconnected subscriber) := by
  rw [SorobanSubscriber.noteReconnected]
  split
  · have reset : Quietly subscriber { subscriber with reconnectAttempt := 0 } :=
      .of_same rfl rfl rfl
    exact reset.trans (.notify _ rfl)
  · exact .of_same rfl rfl rfl

theorem retryLater (options : Options) (error : SorobanRpcError) (currentCursor : Option String)
    (subscriber : Subscriber Value) :
    Quietly subscriber (retryLater options error currentCursor subscriber) := by
  have increased : Quietly subscriber
      { subscriber with reconnectAttempt := subscriber.reconnectAttempt + 1 } :=
    .of_same rfl rfl rfl
  have counted : Quietly subscriber ({ subscriber with
      reconnectAttempt := subscriber.reconnectAttempt + 1 }.notify (.onRetryableError error)) :=
    increased.trans (.notify _ rfl)
  change Quietly subscriber (ite _ (ite _ _ _) (ite _ _ _))
  split
  · split
    · exact counted.trans (.notify _ rfl)
    · exact counted
  · split
    · exact (counted.trans (.notify _ rfl)).trans (.scheduleRetry _ _)
    · exact (counted.trans (.notify _ rfl)).trans (.scheduleRetry _ _)

end Quietly

variable {options : Options} {subscriber : Subscriber Value}

/-! ## The parts of a poll -/

theorem honours_currentCursor (found : Subscriber Value) :
    Honours silence (currentCursor options found) subscriber := by
  rw [currentCursor]
  split
  · trivial
  · exact honours_call _

theorem honours_chooseStartLedger (cursor : Option String) :
    Honours silence (chooseStartLedger options cursor) subscriber := by
  apply honours_get_bind
  split
  · intro answer found relies
    cases answer with
    | ok latestLedger => exact honours_modify (.of_same rfl rfl rfl)
    | error failure => trivial
  · trivial

theorem honours_fetchPages (relies : subscriber.subscriptions = []) (cursor : Option String)
    (calls : List (List ContractSubscriptionFilter)) :
    Honours silence (fetchPages options cursor calls) subscriber := by
  apply Honours.bind relies (honours_chooseStartLedger cursor)
  intro _ found reliesThen
  apply honours_get_bind
  exact honours_call _

theorem honours_handleRpcError (error : SorobanRpcError) (cursor : Option String) :
    Honours silence (handleRpcError options error cursor) subscriber := by
  rw [handleRpcError]
  split
  · exact honours_modify (.retryLater options error cursor subscriber)
  · split
    · exact honours_modify (.notify subscriber rfl)
    · trivial

theorem honours_recoverExpired (relies : subscriber.subscriptions = []) :
    Honours silence (recoverExpired options) subscriber := by
  refine Honours.orElse relies ?_ ?_
  · apply Honours.bind relies (honours_call _)
    intro fallbackPage found reliesThen
    cases fallbackPage.latestLedger with
    | none => trivial
    | some latestLedger =>
        have retry : ∀ after : Subscriber Value, Honours silence (do
            Async.modify fun subscriber =>
              subscriber.scheduleRetry (.exactly options.retryDelayMs)
            return true : Poll Value Bool) after :=
          fun after => honours_modify_bind (.scheduleRetry after _) trivial
        change Honours silence (ite _ _ _) found
        split
        · exact honours_modify_bind (.of_same rfl rfl rfl) (retry _)
        · exact (honours_call _).bind reliesThen fun _ after _ => retry after
  · intro _ _ _
    trivial

theorem honours_handleFetchFailure (relies : subscriber.subscriptions = []) (failure : Failure)
    (cursor : Option String) :
    Honours silence (handleFetchFailure options failure cursor) subscriber := by
  cases failure with
  | abort | other message => trivial
  | rpc error =>
      rw [handleFetchFailure]
      split
      · apply honours_modify_bind (Quietly.notify subscriber rfl)
        apply Honours.bind relies (honours_recoverExpired relies)
        intro recovered found _
        split
        · trivial
        · exact honours_handleRpcError error cursor
      · exact honours_handleRpcError error cursor

theorem honours_dispatch (relies : subscriber.subscriptions = []) (running : ¬ Stopped subscriber)
    (event : SorobanEvent Value) : Honours silence (dispatch options event) subscriber := by
  apply honours_get_bind
  rw [if_pos (List.isEmpty_iff.mpr relies)]
  cases options.onEvent with
  | none => trivial
  | some handler =>
      have called : Quietly subscriber
          (subscriber.notify (.onEvent handler (eventToEmit options event))) :=
        .of_running rfl running
      exact honours_modify_bind called (honours_call _)

theorem honours_deliver (relies : subscriber.subscriptions = [])
    (events : List (SorobanEvent Value)) : Honours silence (deliver options events) subscriber := by
  induction events generalizing subscriber with
  | nil => trivial
  | cons event rest induction =>
      rw [deliver]
      apply honours_get_bind
      split
      · trivial
      · rename_i running
        split
        · exact honours_modify_bind (.finishReplay subscriber) trivial
        · split
          · have touched := Quietly.touchSeen subscriber event.id
            exact honours_modify_bind touched (induction (touched.subscriptions.trans relies))
          · apply Honours.bind relies (honours_dispatch relies running event)
            intro _ found reliesThen
            exact honours_modify_bind (.of_same rfl rfl rfl) (induction reliesThen)

theorem honours_advanceCursor (cursor : Option String) :
    Honours silence (advanceCursor options cursor) subscriber := by
  cases cursor with
  | none => trivial
  | some cursor =>
      rw [advanceCursor]
      split
      · exact honours_modify (.of_same rfl rfl rfl)
      · exact honours_call _

theorem honours_deliverPages (relies : subscriber.subscriptions = [])
    (pages : List (Page Value)) (uniqueEvents : List (SorobanEvent Value)) :
    Honours silence (deliverPages options pages uniqueEvents) subscriber := by
  apply Honours.bind relies (honours_deliver relies uniqueEvents)
  intro complete found _
  split
  · exact honours_advanceCursor _
  · trivial

theorem honours_processPages (relies : subscriber.subscriptions = [])
    (pages : List (Page Value)) (calls : Nat) :
    Honours silence (processPages options pages calls) subscriber := by
  have noted := Quietly.noteReconnected subscriber
  have reliesThen := noted.subscriptions.trans relies
  apply honours_modify_bind noted
  change Honours silence (ite _ _ _) _
  split
  · exact honours_modify (.finishReplay _)
  · refine honours_modify_bind (Quietly.of_same rfl rfl rfl) ?_
    have polling : ({ noteReconnected subscriber with isPolling := true } :
        Subscriber Value).subscriptions = [] := reliesThen
    refine Honours.tryFinally polling (honours_deliverPages polling pages _) ?_
    intro found _
    exact Quietly.of_same rfl rfl rfl

theorem honours_doPoll (relies : subscriber.subscriptions = []) :
    Honours silence (doPoll options) subscriber := by
  apply honours_get_bind
  split
  · trivial
  · apply Honours.bind relies (honours_currentCursor subscriber)
    intro cursor found reliesThen
    apply (honours_fetchPages reliesThen cursor _).attempt.bind reliesThen
    intro fetched after reliesLater
    cases fetched with
    | error failure => exact honours_handleFetchFailure reliesLater failure cursor
    | ok pages => exact honours_processPages reliesLater pages _

/-! ## The loop -/

namespace PollLoop

structure OneHandler (loop : PollLoop Value) : Prop where
  subscriptions : loop.subscriber.subscriptions = []
  polls : ∀ (index : Nat) task, loop.polls[index]? = some task →
    ∀ found : Subscriber Value, found.subscriptions = [] → Honours silence task.body found

theorem initial_oneHandler (startLedger : Option Nat) :
    OneHandler (initial (.new startLedger) : PollLoop Value) where
  subscriptions := rfl
  polls index task atIndex := by cases atIndex

variable {loop next : PollLoop Value} {event : Event Value}

/-- Only `start` and `stop` set the flag; the loop calls handlers in its polls alone. -/
theorem OneHandler.quietly_step (holds : OneHandler loop) (noStart : event ≠ .start)
    (taken : loop.step options event = some next) : Quietly loop.subscriber next.subscriber := by
  cases event with
  | start => exact absurd rfl noStart
  | stop =>
      cases taken
      exact ⟨rfl, fun _ => rfl, fun _ => rfl⟩
  | tick =>
      cases tick_cases taken
      exact .of_same rfl rfl rfl
  | retryFires timer =>
      rcases retryFires_cases taken with ⟨timers, ⟨_, rfl⟩ | ⟨_, rfl⟩⟩
      · exact .of_same rfl rfl rfl
      · exact .of_same rfl rfl rfl
  | respond index answer =>
      rcases answers_of_respond taken with ⟨task, answers⟩
      rw [answers.subscriber]
      have honours := holds.polls index task answers.atIndex _ holds.subscriptions
      exact honours.answer_state holds.subscriptions answer
  | cleanUp index =>
      rcases cleanUp_cases taken with ⟨_, _, _, rfl⟩
      exact .of_same rfl rfl rfl
  | callLink index =>
      rcases callLink_cases taken with ⟨_, _, ⟨_, rfl⟩ | ⟨_, rfl⟩⟩
      · rw [pollOnce]
        split
        · exact .of_same rfl rfl rfl
        · exact (honours_doPoll holds.subscriptions).advance_state
      · exact .of_same rfl rfl rfl
  | settleLink index =>
      rcases settleLink_cases taken with ⟨_, _, _, _, _, rfl, _⟩
      exact .of_same rfl rfl rfl

theorem start_subscriptions (loop : PollLoop Value) :
    loop.start.subscriber.subscriptions = loop.subscriber.subscriptions := by
  rw [start]
  split
  · rfl
  · rfl

theorem OneHandler.step (holds : OneHandler loop) (taken : loop.step options event = some next) :
    OneHandler next := by
  constructor
  · by_cases isStart : event = .start
    · subst isStart
      cases taken
      exact (start_subscriptions loop).trans holds.subscriptions
    · exact (holds.quietly_step isStart taken).subscriptions.trans holds.subscriptions
  · intro index task atIndex found relies
    by_cases answersOne : ∃ index answer, event = .respond index answer
    · rcases answersOne with ⟨answered, answer, rfl⟩
      rcases answers_of_respond taken with ⟨before, answers⟩
      rcases answers.poll atIndex with ⟨_, same⟩ | unchanged
      · rw [same]
        have honours := holds.polls answered before answers.atIndex _ holds.subscriptions
        exact honours.answer holds.subscriptions answer found
      · exact holds.polls index task unchanged found relies
    · have noAnswer : ∀ index answer, event ≠ .respond index answer := by
        intro index answer same
        exact answersOne ⟨index, answer, same⟩
      rcases step_polls noAnswer taken index task atIndex with ⟨before, wasAt, same⟩ | started
      · rw [← same]
        exact holds.polls index before wasAt found relies
      · rw [started]
        exact (honours_doPoll holds.subscriptions).advance found

theorem OneHandler.start (holds : OneHandler loop) : OneHandler loop.start := by
  have taken : loop.step Options.default .start = some loop.start := rfl
  exact holds.step taken

theorem OneHandler.stop (holds : OneHandler loop) : OneHandler loop.stop := by
  have taken : loop.step Options.default .stop = some loop.stop := rfl
  exact holds.step taken

end PollLoop

end Orbital.PulseCore.SorobanSubscriber
