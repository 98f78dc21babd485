import Orbital.PulseCore.SorobanSubscriber.StopFlag

/-! # A poll that awaits a handler

What such a poll still does when the subscriber is stopped meanwhile: the delivery loop
looks at `isStopped` before each event, but neither between the handlers of an event nor
before the cursor is saved.
-/

namespace Orbital.PulseCore.SorobanSubscriber

open Orbital.Foundation

variable {Value : Type}

structure Delivery (Value : Type) where
  handler : String
  event : SorobanEvent Value
  remaining : List SorobanSubscription
  rest : List (SorobanEvent Value)
  pages : List (Page Value)
  uniqueEvents : List (SorobanEvent Value)

namespace Delivery

def goOn (options : Options) (delivery : Delivery Value) : Poll Value Bool :=
  (Async.modify fun subscriber =>
    subscriber.recordSeen options.dedupCacheSize delivery.event.id).bind fun _ =>
      deliver options delivery.rest

def finish (options : Options) (delivery : Delivery Value) (complete : Bool) : Poll Value Unit :=
  if complete then advanceCursor options (nextCursor delivery.pages delivery.uniqueEvents)
  else return ()

def endPolling (subscriber : Subscriber Value) : Subscriber Value :=
  { subscriber with isPolling := false }

def body (options : Options) (delivery : Delivery Value) : Poll Value Unit :=
  Async.tryFinally
    ((((onEvent delivery.handler (eventToEmit options delivery.event)).bind fun _ =>
      dispatchTo options (eventToEmit options delivery.event) delivery.remaining).bind fun _ =>
        delivery.goOn options).bind (delivery.finish options))
    endPolling

def Silent (options : Options) (event : SorobanEvent Value)
    (subscriptions : List SorobanSubscription) : Prop :=
  ∀ sub ∈ subscriptions, eventMatchesSubscription event sub = true →
    sub.onEvent.or options.onEvent = none

def SavesNothing (options : Options) (delivery : Delivery Value) : Prop :=
  delivery.rest ≠ [] ∨ options.isReplayMode = true ∨
    nextCursor delivery.pages delivery.uniqueEvents = none

structure IsLast (options : Options) (delivery : Delivery Value) : Prop where
  silent : Silent options (eventToEmit options delivery.event) delivery.remaining
  savesNothing : delivery.SavesNothing options

variable {options : Options}

/-! ## The dispatch of an event -/

theorem dispatchTo_silent {event : SorobanEvent Value}
    {subscriptions : List SorobanSubscription} (silent : Silent options event subscriptions) :
    dispatchTo options event subscriptions = .done () := by
  induction subscriptions with
  | nil => rfl
  | cons sub rest induction =>
      have restSilent : Silent options event rest := by
        intro other member
        exact silent other (List.mem_cons_of_mem _ member)
      rw [dispatchTo]
      split
      · rename_i isMatch
        rw [silent sub List.mem_cons_self isMatch]
        exact induction restSilent
      · exact induction restSilent

/-! ## A stopped subscriber -/

variable {subscriber : Subscriber Value}

theorem advance_deliver_stopped {events : List (SorobanEvent Value)}
    (stopped : Stopped subscriber) :
    (deliver options events).advance subscriber = (subscriber, .done events.isEmpty) := by
  cases events with
  | nil => rfl
  | cons event rest =>
      have leaves : (deliver options (event :: rest)).advance subscriber =
          (if subscriber.isStopped then (return false : Poll Value Bool)
            else if reachesEnd options event then do
              Async.modify Subscriber.finishReplay
              return false
            else if event.id ∈ subscriber.seen then do
              Async.modify fun subscriber => subscriber.touchSeen event.id
              deliver options rest
            else do
              dispatch options event
              Async.modify fun subscriber =>
                subscriber.recordSeen options.dedupCacheSize event.id
              deliver options rest).advance subscriber := rfl
      rw [leaves, if_pos stopped]
      rfl

theorem advance_goOn (delivery : Delivery Value) (stopped : Stopped subscriber) :
    (delivery.goOn options).advance subscriber =
      (subscriber.recordSeen options.dedupCacheSize delivery.event.id,
        .done delivery.rest.isEmpty) := by
  change (deliver options delivery.rest).advance
    (subscriber.recordSeen options.dedupCacheSize delivery.event.id) = _
  exact advance_deliver_stopped stopped

variable {delivery : Delivery Value}

theorem advance_finish (savesNothing : delivery.SavesNothing options)
    (subscriber : Subscriber Value) :
    ∃ after, (delivery.finish options delivery.rest.isEmpty).advance subscriber =
      (after, .done ()) ∧ after.notices = subscriber.notices := by
  rw [finish]
  cases isRest : delivery.rest with
  | cons event rest => exact ⟨subscriber, rfl, rfl⟩
  | nil =>
      rw [SavesNothing, isRest] at savesNothing
      change ∃ after, (advanceCursor options
        (nextCursor delivery.pages delivery.uniqueEvents)).advance subscriber = _ ∧ _
      rcases savesNothing with more | replays | noCursor
      · exact absurd rfl more
      · cases nextCursor delivery.pages delivery.uniqueEvents with
        | none => exact ⟨subscriber, rfl, rfl⟩
        | some cursor =>
            rw [advanceCursor, if_pos replays]
            exact ⟨{ subscriber with replayCursor := some cursor }, rfl, rfl⟩
      · rw [noCursor]
        exact ⟨subscriber, rfl, rfl⟩

theorem answer_body (delivery : Delivery Value)
    (answer : (request : Request Value) → Except Failure (Response Value request))
    (subscriber : Subscriber Value) :
    (delivery.body options).answer answer subscriber =
      (Async.tryFinally
        ((((Async.answered (answer (.onEvent delivery.handler
          (eventToEmit options delivery.event)))).bind fun _ =>
            dispatchTo options (eventToEmit options delivery.event)
              delivery.remaining).bind fun _ =>
              delivery.goOn options).bind (delivery.finish options))
        endPolling).advance subscriber := by
  rw [body, onEvent, Async.call_eq]
  rfl

theorem IsLast.ends (isLast : delivery.IsLast options)
    (answer : (request : Request Value) → Except Failure (Response Value request))
    (stopped : Stopped subscriber) :
    ((delivery.body options).answer answer subscriber).2.awaiting = false ∧
      ((delivery.body options).answer answer subscriber).1.notices = subscriber.notices := by
  rw [answer_body, dispatchTo_silent isLast.silent]
  cases answer (.onEvent delivery.handler (eventToEmit options delivery.event)) with
  | error failure => exact ⟨rfl, rfl⟩
  | ok value =>
      rcases advance_finish isLast.savesNothing
        (subscriber.recordSeen options.dedupCacheSize delivery.event.id) with
        ⟨after, finished, notices⟩
      have wentOn : (delivery.goOn options).advance subscriber = _ := advance_goOn delivery stopped
      have ends := Async.advance_tryFinally_done
        ((Async.advance_bind_done wentOn (delivery.finish options)).trans finished) endPolling
      refine ⟨?_, ?_⟩
      · exact congrArg (fun outcome => outcome.2.awaiting) ends
      · exact (congrArg (fun outcome => outcome.1.notices) ends).trans notices

end Delivery

end Orbital.PulseCore.SorobanSubscriber

/-! ## What comes after `stop`

`stop` awaits the promise in `inflightPoll`, unless events are being delivered: the call
may then come from a handler that the poll awaits. Such a `stop` is resolved at once,
and what the poll still does comes after it.
-/

namespace Orbital.PulseCore.SorobanSubscriber

open Orbital.Foundation

variable {Value : Type}

def Notice.isHandlerCall : Notice Value → Bool
  | .onEvent _ _ => true
  | _ => false

namespace PollLoop

/-! ## The promise of `stop` -/

/-- What a `stop` call awaits; without it the call is resolved at once. -/
def stopAwaits (loop : PollLoop Value) : Option Source :=
  if loop.subscriber.isPolling then none else loop.inflightPoll

def Fulfilled (loop : PollLoop Value) : Option Source → Prop
  | none => True
  | some source => loop.settled source = some true

instance Fulfilled.decidable (loop : PollLoop Value) :
    (awaits : Option Source) → Decidable (loop.Fulfilled awaits)
  | none => isTrue trivial
  | some source => inferInstanceAs (Decidable (loop.settled source = some true))

def handlerCalls (loop : PollLoop Value) : List (Notice Value) :=
  loop.subscriber.notices.filter Notice.isHandlerCall

def Saves (loop : PollLoop Value) : Prop :=
  ∃ (index : Nat) (task : PollTask Value) (cursor : String),
    loop.polls[index]? = some task ∧ task.body.request? = some (.saveCursor cursor)

/-- After each `stop` whose promise is fulfilled no handler is called and no cursor is
saved, as long as `start` is not called. -/
def QuietAfterStop (options : Options) (start : PollLoop Value) (events : List (Event Value)) :
    Prop :=
  ∀ front since later back loop fulfilled final,
    events = front ++ .stop :: (since ++ (later ++ back)) →
    .start ∉ since → .start ∉ later →
    Run options start front loop → Run options loop.stop since fulfilled →
    fulfilled.Fulfilled loop.stopAwaits → Run options fulfilled later final →
    final.handlerCalls = fulfilled.handlerCalls ∧ ¬ final.Saves

/-! ## Which polls a promise waits for -/

inductive WaitsFor (loop : PollLoop Value) (index : Nat) : Source → Prop
  | follows (source : Source) : Follows loop index source → WaitsFor loop index source
  | behind (position : Nat) (link : ChainedPoll) :
      loop.links[position]? = some link → link.status = .waiting →
      WaitsFor loop index link.source → WaitsFor loop index (.link position)

variable {loop next : PollLoop Value} {index : Nat} {options : Options} {awaits : Option Source}

variable {source : Source} {event : Event Value} {start final : PollLoop Value}
  {events : List (Event Value)}

theorem WaitsFor.not_settled (waits : WaitsFor loop index source)
    (executing : loop.executes index = true) : loop.settled source = none := by
  cases waits with
  | follows _ follows => exact follows.not_settled executing
  | behind position link atPosition waiting _ => simp [settled, atPosition, waiting]

theorem WaitsFor.keep (waits : WaitsFor loop index source) (executing : loop.executes index = true)
    (links : KeepsLinks loop next) : WaitsFor next index source := by
  induction waits with
  | follows source follows =>
      refine .follows source (follows.transfer ?_)
      intro position link atPosition called
      rcases links position link atPosition with kept | due
      · exact kept
      · rcases due with ⟨waiting, _⟩ | calledNone | ⟨poll, calledPoll, isOver⟩
        · rw [called] at waiting
          cases waiting
        · rw [called] at calledNone
          cases calledNone
        · rw [called] at calledPoll
          cases calledPoll
          exact absurd (not_settled_of_executes executing) isOver
  | behind position link atPosition waiting waits induction =>
      rcases links position link atPosition with kept | due
      · exact .behind position link kept waiting induction
      · rcases due with ⟨_, settled⟩ | calledNone | ⟨poll, calledPoll, _⟩
        · exact absurd (waits.not_settled executing) settled
        · rw [waiting] at calledNone
          cases calledNone
        · rw [waiting] at calledPoll
          cases calledPoll

/-! ## A clean stop -/

/-- The poll awaits a handler and is over once that one has returned. -/
def AtLastHandler (options : Options) (body : Poll Value Unit) : Prop :=
  ∃ delivery : Delivery Value, body = delivery.body options ∧ delivery.IsLast options

/-- What a `stop` call awaits waits for every poll that executes, except for one that is
at its last handler. -/
def Covers (options : Options) (loop : PollLoop Value) (awaits : Option Source) : Prop :=
  ∀ (index : Nat) task, loop.polls[index]? = some task → task.executing = true →
    (∃ source, awaits = some source ∧ WaitsFor loop index source) ∨
      AtLastHandler options task.body

/-- A `stop` call finds no poll that it would leave behind at work. -/
def StopsCleanly (options : Options) (loop : PollLoop Value) : Event Value → Prop
  | .stop => loop.Covers options loop.stopAwaits
  | _ => True

structure Quieting (options : Options) (awaits : Option Source) (loop : PollLoop Value) : Prop where
  stopped : Stopped loop.subscriber
  steady : Steady loop
  covered : loop.Covers options awaits

theorem AtLastHandler.ends {body : Poll Value Unit} (atLast : AtLastHandler options body)
    (answer : (request : Request Value) → Except Failure (Response Value request))
    {subscriber : Subscriber Value} (stopped : Stopped subscriber) :
    (body.answer answer subscriber).2.awaiting = false ∧
      (body.answer answer subscriber).1.notices = subscriber.notices := by
  rcases atLast with ⟨delivery, rfl, isLast⟩
  exact isLast.ends answer stopped

theorem AtLastHandler.not_saving {body : Poll Value Unit} (atLast : AtLastHandler options body)
    (cursor : String) : body.request? ≠ some (.saveCursor cursor) := by
  rcases atLast with ⟨delivery, rfl, _⟩
  intro saves
  cases saves

theorem Quieting.stop (steady : Steady loop) (covered : loop.Covers options awaits) :
    Quieting options awaits loop.stop := by
  refine ⟨rfl, steady, ?_⟩
  intro index task atIndex executing
  rcases covered index task atIndex executing with ⟨source, isAwaited, waits⟩ | atLast
  · have keeps : KeepsLinks loop loop.stop := keepsLinks_refl rfl
    exact .inl ⟨source, isAwaited, waits.keep (executes_iff.mpr ⟨task, atIndex, executing⟩) keeps⟩
  · exact .inr atLast

theorem Quieting.step (quieting : Quieting options awaits loop) (noStart : event ≠ .start)
    (taken : loop.step options event = some next) : Quieting options awaits next := by
  have steady := quieting.steady.step taken
  rcases stopped_step quieting.stopped noStart taken with idles | ⟨index, task, answer, answers⟩
  · refine ⟨idles.stopped, steady, ?_⟩
    intro other found atOther executing
    have bodies := idles.bodies other
    rw [atOther] at bodies
    rcases Option.map_eq_some_iff.mp bodies.symm with ⟨before, wasAt, same⟩
    have executed : before.executing = true := by
      rw [PollTask.executing, same]
      exact executing
    rw [← same]
    rcases quieting.covered other before wasAt executed with ⟨source, isAwaited, waits⟩ | atLast
    · exact .inl ⟨source, isAwaited,
        waits.keep (executes_iff.mpr ⟨before, wasAt, executed⟩) idles.links⟩
    · exact .inr atLast
  · refine ⟨?_, steady, ?_⟩
    · rw [answers.subscriber]
      exact (quieting.steady index task answers.atIndex).answer_state answer quieting.stopped
    · intro other found atOther executing
      have links : KeepsLinks loop next := keepsLinks_refl answers.links
      rcases answers.poll atOther with ⟨rfl, same⟩ | unchanged
      · rcases quieting.covered other task answers.atIndex answers.awaiting with
          ⟨source, isAwaited, waits⟩ | atLast
        · exact .inl ⟨source, isAwaited, waits.keep
            (executes_iff.mpr ⟨task, answers.atIndex, answers.awaiting⟩) links⟩
        · rw [PollTask.executing, same, (atLast.ends answer quieting.stopped).1] at executing
          cases executing
      · rcases quieting.covered other found unchanged executing with
          ⟨source, isAwaited, waits⟩ | atLast
        · exact .inl ⟨source, isAwaited,
            waits.keep (executes_iff.mpr ⟨found, unchanged, executing⟩) links⟩
        · exact .inr atLast

theorem Quieting.run (run : Run options start events final) (noStart : .start ∉ events)
    (quieting : Quieting options awaits start) : Quieting options awaits final := by
  induction run with
  | nil => exact quieting
  | @cons current middle final event events taken _ induction =>
      have notFirst : event ≠ .start := by
        rintro rfl
        exact noStart List.mem_cons_self
      exact induction (fun member => noStart (List.mem_cons_of_mem event member))
        (quieting.step notFirst taken)

/-! ## Once the promise is fulfilled -/

theorem Quieting.fulfilled (quieting : Quieting options awaits loop)
    (isFulfilled : loop.Fulfilled awaits) : Quieting options none loop := by
  refine ⟨quieting.stopped, quieting.steady, ?_⟩
  intro index task atIndex executing
  rcases quieting.covered index task atIndex executing with ⟨source, rfl, waits⟩ | atLast
  · have settled := waits.not_settled (executes_iff.mpr ⟨task, atIndex, executing⟩)
    rw [Fulfilled, settled] at isFulfilled
    cases isFulfilled
  · exact .inr atLast

theorem Quieting.atLast (quieting : Quieting options none loop) {task : PollTask Value}
    (atIndex : loop.polls[index]? = some task) (executing : task.executing = true) :
    AtLastHandler options task.body := by
  rcases quieting.covered index task atIndex executing with ⟨source, isAwaited, _⟩ | atLast
  · cases isAwaited
  · exact atLast

theorem Quieting.not_saving (quieting : Quieting options none loop) : ¬ loop.Saves := by
  rintro ⟨index, task, cursor, atIndex, saves⟩
  have executing : task.executing = true := by
    rw [PollTask.executing]
    cases body : task.body with
    | await request resume => rfl
    | done | fail | step =>
        rw [body] at saves
        cases saves
  exact (quieting.atLast atIndex executing).not_saving cursor saves

theorem Quieting.quiet_step (quieting : Quieting options none loop) (noStart : event ≠ .start)
    (taken : loop.step options event = some next) : next.handlerCalls = loop.handlerCalls := by
  rw [handlerCalls, handlerCalls]
  rcases stopped_step quieting.stopped noStart taken with idles | ⟨index, task, answer, answers⟩
  · rw [idles.notices]
  · have atLast := quieting.atLast answers.atIndex answers.awaiting
    rw [answers.subscriber, (atLast.ends answer quieting.stopped).2]

theorem Quieting.quiet_run (run : Run options start events final) (noStart : .start ∉ events)
    (quieting : Quieting options none start) : final.handlerCalls = start.handlerCalls := by
  induction run with
  | nil => rfl
  | @cons current middle final event events taken _ induction =>
      have notFirst : event ≠ .start := by
        rintro rfl
        exact noStart List.mem_cons_self
      have later := induction (fun member => noStart (List.mem_cons_of_mem event member))
        (quieting.step notFirst taken)
      exact later.trans (quieting.quiet_step notFirst taken)

theorem quiet_after_stop (options : Options) (subscriber : Subscriber Value)
    (events : List (Event Value)) (final : PollLoop Value)
    (run : Trace (Guarded (fun loop event => loop.StopsCleanly options event)
      (Takes (PollLoop.step options))) (initial subscriber) events final) :
    QuietAfterStop options (initial subscriber) events := by
  rintro front since later back loop fulfilled last rfl noStart noLaterStart reached ran
    isFulfilled ranLater
  rcases run.split with ⟨middle, toStop, fromStop⟩
  have same : middle = loop :=
    (toStop.mono fun _ _ _ guarded => guarded.2).unique reached
  subst same
  cases fromStop with
  | cons stops _ =>
      have quieting := Quieting.stop (steady_run reached) stops.1
      have atFulfilled := (quieting.run ran noStart).fulfilled isFulfilled
      exact ⟨atFulfilled.quiet_run ranLater noLaterStart,
        (atFulfilled.run ranLater noLaterStart).not_saving⟩

def oneEventAnswer : (request : Request Unit) → Except Failure (Response Unit request)
  | .getCursor => .ok (some "41")
  | .saveCursor _ => .ok ()
  | .getLatestLedger => .ok 0
  | .getEvents _ => .ok [{
      events := [{
        id := "7-0"
        pagingToken := "42"
        topic := []
        value := ()
        contractId := none
        type := none
        decodedData := none
        ledger := none }]
      latestLedger := none
      cursor := none }]
  | .getFallbackPage _ => .ok { events := [], latestLedger := none, cursor := none }
  | .onEvent _ _ => .ok ()

def withHandler : Options :=
  { Options.default with onEvent := some "handler" }

/-- A `stop` that finds a poll at its request for events. -/
theorem quiet_after_stop_during_request :
    QuietAfterStop withHandler (initial (.new none))
      [.start, .callLink 0, .respond 0 oneEventAnswer, .stop, .respond 0 oneEventAnswer] := by
  refine quiet_after_stop withHandler (.new none) _ _
    (.cons ⟨trivial, rfl⟩ (.cons ⟨trivial, rfl⟩ (.cons ⟨trivial, rfl⟩
      (.cons ⟨?_, rfl⟩ (.cons ⟨trivial, rfl⟩ (.nil _))))))
  intro index task atIndex _
  cases index with
  | zero => exact .inl ⟨.poll 0, rfl, .follows _ .poll⟩
  | succ index => cases atIndex

/-! ## A stop during a delivery -/

/-- The `stop` during the handler of the last event is resolved before the poll saves its
cursor. -/
theorem stop_before_save :
    ¬ QuietAfterStop withHandler (initial (.new none))
      [.start, .callLink 0, .respond 0 oneEventAnswer, .respond 0 oneEventAnswer, .stop,
        .respond 0 oneEventAnswer] := by
  intro quiet
  have noStart : .start ∉ [Event.respond 0 oneEventAnswer] := by simp
  have after := quiet
    [.start, .callLink 0, .respond 0 oneEventAnswer, .respond 0 oneEventAnswer]
    [] [.respond 0 oneEventAnswer] [] _ _ _ rfl List.not_mem_nil noStart
    (trace_of_runEvents rfl) (.nil _) trivial (trace_of_runEvents rfl)
  exact after.2 ⟨0, _, "42", rfl, rfl⟩

end PollLoop

end Orbital.PulseCore.SorobanSubscriber
