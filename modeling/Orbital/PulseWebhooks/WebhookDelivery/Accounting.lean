import Orbital.Foundation.Attempts
import Orbital.PulseWebhooks.WebhookDelivery.Operations
import Orbital.PulseWebhooks.WebhookDelivery.ReliableQueue

/-! # Where deliveries are

Every dispatched delivery is in one place: the overflow queue, a call under way, a retry
timer, the retry queue, or among those that are over. With it goes how often it was tried.
Within a step a delivery can be in hand, between two places.
-/

namespace Orbital.PulseWebhooks

open Foundation

variable {Event Queue : Type}

/-- How often a delivery may be tried: at least once. -/
def WebhookConfig.attemptLimit (config : WebhookConfig Event Queue) : Nat :=
  (max 1 config.retries).toNat

def waiting (records : List (Record Event)) : List (Job Event × Nat) :=
  records.map fun record => (record.job, record.attempt - 1)

def queuedRecords (reliable : Option (ReliableQueue Event Queue)) (queue : Queue) :
    List (Record Event) :=
  match reliable with
  | none => []
  | some reliable => reliable.queued queue

def InTime (reliable : Option (ReliableQueue Event Queue)) (queue : Queue) (nowMs : Millis) :
    Prop :=
  ∀ queueIs ∈ reliable, queueIs.inTime queue nowMs = true

instance (reliable : Option (ReliableQueue Event Queue)) (queue : Queue) (nowMs : Millis) :
    Decidable (InTime reliable queue nowMs) :=
  inferInstanceAs (Decidable (∀ _ ∈ _, _ = true))

/-- What a call under way holds. A delivery that got through is among the delivered, and
one that was persisted in the queue. -/
def Task.held : Task Event → List (Job Event × Nat)
  | .attempting _ job attempt .refused => [(job, attempt - 1)]
  | .attempting _ _ _ (.returned (.ok _)) => []
  | .attempting _ job attempt _ => [(job, attempt)]
  | .sizing _ job attempt _ _ => [(job, attempt - 1)]
  | .evicting _ job attempt _ answer => (job, attempt - 1) :: waiting (handed answer)
  | .dequeuing _ answer | .polling answer => waiting (handed answer)
  | .polled _ (some (job, _, attempt)) => [(job, attempt)]
  | _ => []

def WebhookConfig.Allows (config : WebhookConfig Event Queue) (attempt : Nat) : Prop :=
  1 ≤ attempt ∧ attempt ≤ config.attemptLimit

def Driver.Matches (config : WebhookConfig Event Queue) (driver : Driver Event) (job : Job Event)
    (attempt : Nat) : Prop :=
  ∀ record, driver = .poller record →
    config.retryQueue.isSome = true ∧ record.job = job ∧ record.attempt = attempt

def Task.Sane (config : WebhookConfig Event Queue) (watcherStopped : Bool) : Task Event → Prop
  | .attempting driver job attempt stage => config.Allows attempt ∧
      driver.Matches config job attempt ∧ (stage = .refused → watcherStopped = true)
  | .sizing _ _ attempt _ answer => config.Allows attempt ∧ config.retryQueue.isSome = true ∧
      ∃ count, answer = .count count
  | .evicting _ _ attempt _ answer => config.Allows attempt ∧ config.retryQueue.isSome = true ∧
      ∃ record, answer = .record record
  | .enqueueing _ _ _ answer | .polled answer _ => answer = .settled
  | .dequeuing _ answer | .polling answer => ∀ record ∈ handed answer,
      config.Allows record.attempt ∧ config.retryQueue.isSome = true
  | _ => True

namespace WebhookDelivery

def held (reliable : Option (ReliableQueue Event Queue)) (state : WebhookDelivery Event Queue) :
    List (Job Event × Nat) :=
  state.overflowQueue.map (fun job => (job, 0)) ++ state.tasks.flatMap Task.held ++
    state.retryTimers.values.map (fun timer => (timer.1, timer.2 - 1)) ++
    waiting (queuedRecords reliable state.queue) ++ state.delivered ++
    state.deadLetters.map (fun letter => (letter.job, letter.made)) ++ state.cutShort

structure Sound (config : WebhookConfig Event Queue)
    (reliable : Option (ReliableQueue Event Queue)) (state : WebhookDelivery Event Queue)
    (hand : List (Job Event × Nat)) : Prop where
  accounted : Accounted Job.number config.attemptLimit state.dispatched state.attempts
    (hand ++ state.held reliable)
  numbered : ∀ job ∈ state.dispatched, job.number < state.dispatched.length
  valid : ∀ queueIs ∈ reliable, queueIs.Valid state.queue
  tasks : ∀ task ∈ state.tasks, task.Sane config state.watcherStopped
  timers : ∀ timer ∈ state.retryTimers.values, config.Allows timer.2
  handles : ∀ timer found, state.retryTimers.get? timer = some found → timer < state.timerSeq
  records : ∀ record ∈ queuedRecords reliable state.queue, config.Allows record.attempt ∧
    ∃ now seq, record.id = retryId now seq ∧ seq < state.retrySeq
  untimed : config.retryQueue.isSome = true → state.retryTimers.entries = []
  uncut : state.watcherStopped = false → state.cutShort = []

variable {config : WebhookConfig Event Queue} {reliable : Option (ReliableQueue Event Queue)}
  {state : WebhookDelivery Event Queue} {hand : List (Job Event × Nat)}

/-! ## Places -/

theorem held_push (task : Task Event) :
    ((state.push task).held reliable).Perm (task.held ++ state.held reliable) := by
  classical
  rw [List.perm_iff_count]
  intro entry
  simp only [held, push, List.flatMap_append, List.flatMap_singleton, List.count_append]
  omega

theorem held_without {index : Nat} {task : Task Event} (found : state.tasks[index]? = some task) :
    (state.held reliable).Perm (task.held ++
      ({ state with tasks := state.tasks.eraseIdx index } :
        WebhookDelivery Event Queue).held reliable) := by
  classical
  rcases List.getElem?_eq_some_iff.mp found with ⟨inside, rfl⟩
  have taken := ((List.getElem_cons_eraseIdx_perm inside).flatMap_right Task.held).symm
  rw [List.perm_iff_count]
  intro entry
  have counts := taken.count_eq entry
  simp only [List.flatMap_cons, List.count_append] at counts
  simp only [held, List.count_append]
  omega

theorem held_cut (job : Job Event) (made : Nat) :
    ((state.cut job made).held reliable).Perm ((job, made) :: state.held reliable) := by
  rw [held, cut, ← List.append_assoc]
  exact List.perm_append_singleton _ _

theorem held_deliver (job : Job Event) (attempt : Nat) :
    (({ state with delivered := state.delivered ++ [(job, attempt)] } :
      WebhookDelivery Event Queue).held reliable).Perm
        ((job, attempt) :: state.held reliable) := by
  classical
  rw [List.perm_iff_count]
  intro entry
  simp only [held, List.count_append, List.count_cons, List.count_nil]
  omega

theorem held_deadLetter (letter : DeadLetter Event) :
    (({ state with deadLetters := state.deadLetters ++ [letter] } :
      WebhookDelivery Event Queue).held reliable).Perm
        ((letter.job, letter.made) :: state.held reliable) := by
  classical
  rw [List.perm_iff_count]
  intro entry
  simp only [held, List.map_append, List.map_cons, List.map_nil, List.count_append,
    List.count_cons, List.count_nil]
  omega

theorem held_setRetryTimer {job : Job Event} {attempt : Nat}
    (fresh : state.retryTimers.get? state.timerSeq = none) :
    ((state.setRetryTimer job attempt).held reliable).Perm
      ((job, attempt - 1) :: state.held reliable) := by
  classical
  rw [List.perm_iff_count]
  intro entry
  simp only [held, setRetryTimer, InsertionMap.values_set_of_absent fresh, List.map_append,
    List.map_cons, List.map_nil, List.count_append, List.count_cons, List.count_nil]
  omega

theorem held_deleteTimer {timer : Nat} {job : Job Event} {attempt : Nat}
    (found : state.retryTimers.get? timer = some (job, attempt)) :
    (state.held reliable).Perm ((job, attempt - 1) ::
      ({ state with retryTimers := state.retryTimers.delete timer } :
        WebhookDelivery Event Queue).held reliable) := by
  classical
  have taken := ((InsertionMap.perm_delete found).map Prod.snd).map
    fun timer : Job Event × Nat => (timer.1, timer.2 - 1)
  rw [List.perm_iff_count]
  intro entry
  have counts := taken.count_eq entry
  simp only [List.map_cons, List.count_cons] at counts
  simp only [held, InsertionMap.values, List.count_append, List.count_cons] at counts ⊢
  omega

theorem held_queue {queue : Queue} {out : List (Record Event)}
    (moved : (queuedRecords reliable state.queue).Perm (out ++ queuedRecords reliable queue)) :
    (state.held reliable).Perm
      (waiting out ++ ({ state with queue } : WebhookDelivery Event Queue).held reliable) := by
  classical
  have taken := moved.map fun record => (record.job, record.attempt - 1)
  rw [List.perm_iff_count]
  intro entry
  have counts := taken.count_eq entry
  simp only [List.map_append, List.count_append] at counts
  simp only [held, waiting, List.count_append]
  omega

theorem held_overflow (job : Job Event) :
    (({ state with overflowQueue := state.overflowQueue ++ [job] } :
      WebhookDelivery Event Queue).held reliable).Perm ((job, 0) :: state.held reliable) := by
  classical
  rw [List.perm_iff_count]
  intro entry
  simp only [held, List.map_append, List.map_cons, List.map_nil, List.count_append,
    List.count_cons, List.count_nil]
  omega

theorem handed_eq_nil {answer : Answer (Dispatched Event) Unit}
    (unhanded : ∀ record, answer ≠ .record (some record)) : handed answer = [] := by
  cases answer with
  | record record =>
      cases record with
      | none => rfl
      | some record => exact absurd rfl (unhanded record)
  | settled | rejected error | count size => rfl

/-! ## Record ids -/

theorem behind_last {Mark : Type} {mark : Mark} {front back front' back' : List Mark}
    (same : front ++ mark :: back = front' ++ mark :: back') (absent : mark ∉ back)
    (absent' : mark ∉ back') : back = back' := by
  rcases List.append_eq_append_iff.mp same with ⟨between, -, rest⟩ | ⟨between, -, rest⟩
  · cases between with
    | nil => exact (List.cons.inj rest).2
    | cons first more =>
        have inside := (List.cons.inj rest).2
        rw [inside] at absent
        exact absurd (List.mem_append_right more List.mem_cons_self) absent
  · cases between with
    | nil => exact (List.cons.inj rest).2.symm
    | cons first more =>
        have inside := (List.cons.inj rest).2
        rw [inside] at absent'
        exact absurd (List.mem_append_right more List.mem_cons_self) absent'

/-- A number of the counter gives every record an id of its own. -/
theorem retryId_injective {now seq now' seq' : Nat} (same : retryId now seq = retryId now' seq') :
    seq = seq' := by
  have texts := congrArg String.toList same
  simp only [retryId, Nat.toString_eq_repr, String.toList_append, Nat.toList_repr] at texts
  have undashed : ∀ number : Nat, '-' ∉ Nat.toDigits 10 number := by
    intro number member
    have digit := Nat.isDigit_of_mem_toDigits (by decide) (by decide) member
    revert digit
    decide
  have digits : Nat.toDigits 10 seq = Nat.toDigits 10 seq' := by
    have split : ("retry-".toList ++ Nat.toDigits 10 now) ++ '-' :: Nat.toDigits 10 seq =
        ("retry-".toList ++ Nat.toDigits 10 now') ++ '-' :: Nat.toDigits 10 seq' := by
      simpa using texts
    exact behind_last split (undashed seq) (undashed seq')
  have values := congrArg (fun digits => Nat.ofDigitChars 10 digits 0) digits
  simpa only [Nat.ofDigitChars_ten_toDigits] using values

theorem retryId_ne_empty (now seq : Nat) : retryId now seq ≠ "" := by
  intro empty
  have texts := congrArg String.toList empty
  simp [retryId] at texts

theorem assertRecord_retryRecord (state : WebhookDelivery Event Queue) (job : Job Event)
    (attempt : Nat) (lastError : String) (now : Nat) (delayMs : Millis) :
    assertRecord (state.retryRecord job attempt lastError now (some delayMs)) =
      .ok { state.retryRecord job attempt lastError now (some delayMs) with
        nextRetryAt := now + delayMs } := by
  rw [assertRecord]
  exact if_neg (retryId_ne_empty now state.retrySeq)

/-! ## What the operations keep -/

theorem allows_one (config : WebhookConfig Event Queue) : config.Allows 1 := by
  rw [WebhookConfig.Allows, WebhookConfig.attemptLimit]
  omega

theorem allows_next {attempt : Nat} (retried : (attempt : Int) < config.retries) :
    config.Allows (attempt + 1) := by
  rw [WebhookConfig.Allows, WebhookConfig.attemptLimit]
  omega

theorem perm_place {Item : Type} {item : Item} {hand before after : List Item}
    (same : after.Perm (item :: before)) : (hand ++ after).Perm (item :: hand ++ before) :=
  (same.append_left hand).trans List.perm_middle

theorem perm_take {Item : Type} {item : Item} {hand before after : List Item}
    (same : before.Perm (item :: after)) : (item :: hand ++ after).Perm (hand ++ before) :=
  (perm_place same).symm

namespace Sound

variable {job : Job Event} {attempt made : Nat}

theorem inHand {moved : List (Job Event × Nat)} (same : moved.Perm hand)
    (sound : Sound config reliable state hand) : Sound config reliable state moved :=
  { sound with accounted := sound.accounted.rearrange (same.append_right _) }

theorem push (task : Task Event) (sane : task.Sane config state.watcherStopped)
    (sound : Sound config reliable state (task.held ++ hand)) :
    Sound config reliable (state.push task) hand :=
  { sound with
    accounted := sound.accounted.rearrange (by
      refine ((held_push task).append_left hand).trans ?_
      rw [List.append_assoc]
      exact List.perm_append_comm_assoc _ _ _)
    tasks := by
      intro other member
      rcases List.mem_append.mp member with old | new
      · exact sound.tasks other old
      · rw [List.mem_singleton.mp new]
        exact sane }

theorem cut (stopped : state.watcherStopped = true)
    (sound : Sound config reliable state ((job, made) :: hand)) :
    Sound config reliable (state.cut job made) hand :=
  { sound with
    accounted := sound.accounted.rearrange (perm_place (held_cut job made))
    uncut := by
      intro running
      rw [show (state.cut job made).watcherStopped = state.watcherStopped from rfl,
        stopped] at running
      cases running }

theorem deliver (sound : Sound config reliable state ((job, attempt) :: hand)) :
    Sound config reliable { state with delivered := state.delivered ++ [(job, attempt)] } hand :=
  { sound with accounted := sound.accounted.rearrange (perm_place (held_deliver job attempt)) }

theorem emitFailure (error : String)
    (sound : Sound config reliable state ((job, attempt) :: hand)) :
    Sound config reliable (state.emitFailure job error attempt) hand :=
  { sound with accounted := sound.accounted.rearrange (perm_place (held_deadLetter _)) }

theorem emitDropped (sound : Sound config reliable state ((job, made) :: hand)) :
    Sound config reliable (state.emitDropped job made) hand :=
  { sound with accounted := sound.accounted.rearrange (perm_place (held_deadLetter _)) }

theorem log (allowed : config.Allows attempt)
    (sound : Sound config reliable state ((job, attempt - 1) :: hand)) :
    Sound config reliable { state with attempts := state.attempts ++ [(job, attempt)] }
      ((job, attempt) :: hand) := by
  have next : attempt - 1 + 1 = attempt := Nat.sub_add_cancel allowed.1
  have room : attempt - 1 + 1 ≤ config.attemptLimit := next.symm ▸ allowed.2
  have tried := Accounted.attempt sound.accounted room
  rw [next] at tried
  exact { sound with accounted := tried }

theorem doAttempt {driver : Driver Event} (allowed : config.Allows attempt)
    (driven : driver.Matches config job attempt)
    (sound : Sound config reliable state ((job, attempt - 1) :: hand)) :
    Sound config reliable (state.doAttempt config driver job attempt) hand := by
  rw [WebhookDelivery.doAttempt]
  split
  · rename_i stopped
    exact push (.attempting driver job attempt .refused) ⟨allowed, driven, fun _ => stopped⟩ sound
  · have logged := sound.log allowed
    dsimp only
    split
    · exact push (.attempting driver job attempt (.returned (.error _)))
        ⟨allowed, driven, fun refused => by cases refused⟩ logged
    · cases config.urlValidator with
      | false =>
          exact push (.attempting driver job attempt .resolving)
            ⟨allowed, driven, fun refused => by cases refused⟩ logged
      | true =>
          exact push (.attempting driver job attempt .validating)
            ⟨allowed, driven, fun refused => by cases refused⟩ logged

theorem sendRequest (sound : Sound config reliable state hand) (job : Job Event) (attempt : Nat) :
    Sound config reliable (state.sendRequest job attempt) hand := by
  rw [WebhookDelivery.sendRequest]
  split
  · exact { sound with }
  · exact { sound with }

theorem continueAttempt {driver : Driver Event} {stage : Stage}
    {continued : WebhookDelivery Event Queue × Stage} (allowed : config.Allows attempt)
    (driven : driver.Matches config job attempt)
    (sound : Sound config reliable state
      ((Task.attempting driver job attempt stage).held ++ hand))
    (continues : Continues state job attempt stage continued) :
    Sound config reliable (continued.1.push (.attempting driver job attempt continued.2)) hand := by
  have sane (stage : Stage) (accepted : stage ≠ .refused) :
      (Task.attempting driver job attempt stage).Sane config state.watcherStopped :=
    ⟨allowed, driven, fun refused => absurd refused accepted⟩
  cases continues with
  | resolves => exact push _ (sane .resolving Stage.noConfusion) sound
  | fails failure waits =>
      apply push _ (sane (.returned (.error failure)) Stage.noConfusion)
      rcases waits with rfl | rfl | rfl
      · exact sound
      · exact sound
      · exact sound
  | sends =>
      have sent := sound.sendRequest job attempt
      exact push _ ⟨allowed, driven, fun refused => by cases refused⟩ sent
  | delivers =>
      exact push (.attempting driver job attempt (.returned (.ok ())))
        (sane (.returned (.ok ())) Stage.noConfusion) (deliver sound)

/-! ### Retry timers -/

theorem deleteTimer {timer : Nat} {job : Job Event} {attempt : Nat}
    (found : state.retryTimers.get? timer = some (job, attempt))
    (sound : Sound config reliable state hand) :
    Sound config reliable { state with retryTimers := state.retryTimers.delete timer }
      ((job, attempt - 1) :: hand) :=
  { sound with
    accounted := sound.accounted.rearrange (perm_take (held_deleteTimer found))
    timers := by
      intro other member
      rcases InsertionMap.mem_values_iff.mp member with ⟨key, isFound⟩
      rw [InsertionMap.get?_delete] at isFound
      split at isFound
      · cases isFound
      · exact sound.timers other (InsertionMap.mem_values_iff.mpr ⟨key, isFound⟩)
    handles := by
      intro key other isFound
      rw [InsertionMap.get?_delete] at isFound
      split at isFound
      · cases isFound
      · exact sound.handles key other isFound
    untimed := by
      intro isUsed
      have member := InsertionMap.get?_eq_some_iff.mp found
      rw [sound.untimed isUsed] at member
      cases member }

theorem makeRoom (sound : Sound config reliable state hand) :
    Sound config reliable (state.makeRoom config) hand := by
  rw [WebhookDelivery.makeRoom]
  split
  · cases last : state.retryTimers.entries.getLast? with
    | none => exact sound
    | some entry =>
        rcases entry with ⟨timer, job, attempt⟩
        have found := InsertionMap.get?_eq_some_iff.mpr (List.mem_of_getLast? last)
        exact (sound.deleteTimer found).emitDropped
  · exact sound

theorem setRetryTimer {job : Job Event} {attempt : Nat} (allowed : config.Allows attempt)
    (unused : config.retryQueue = none)
    (sound : Sound config reliable state ((job, attempt - 1) :: hand)) :
    Sound config reliable (state.setRetryTimer job attempt) hand := by
  have fresh : state.retryTimers.get? state.timerSeq = none := by
    cases found : state.retryTimers.get? state.timerSeq with
    | none => rfl
    | some timer => exact absurd (sound.handles _ _ found) (Nat.lt_irrefl _)
  exact { sound with
    accounted := sound.accounted.rearrange (perm_place (held_setRetryTimer fresh))
    timers := by
      intro timer member
      have listed : timer ∈ (state.retryTimers.set state.timerSeq (job, attempt)).values := member
      rw [InsertionMap.values_set_of_absent fresh] at listed
      rcases List.mem_append.mp listed with old | new
      · exact sound.timers timer old
      · rw [List.mem_singleton.mp new]
        exact allowed
    handles := by
      intro key timer isFound
      have listed : (state.retryTimers.set state.timerSeq (job, attempt)).get? key = some timer :=
        isFound
      rw [InsertionMap.get?_set] at listed
      split at listed
      · rename_i same
        exact same ▸ Nat.lt_succ_self _
      · exact Nat.lt_succ_of_lt (sound.handles key timer listed)
    untimed := by
      intro isUsed
      rw [unused] at isUsed
      cases isUsed }

/-! ### The retry queue -/

theorem queue {next : Queue} {out : List (Record Event)}
    (sound : Sound config reliable state hand) (valid : ∀ queueIs ∈ reliable, queueIs.Valid next)
    (moved : (queuedRecords reliable state.queue).Perm (out ++ queuedRecords reliable next)) :
    Sound config reliable { state with queue := next } (waiting out ++ hand) :=
  { sound with
    accounted := sound.accounted.rearrange (by
      refine List.Perm.trans ?_ ((held_queue moved).symm.append_left hand)
      rw [List.append_assoc]
      exact List.perm_append_comm_assoc _ _ _)
    valid := valid
    records := fun record member =>
      sound.records record (moved.mem_iff.mpr (List.mem_append_right out member)) }

theorem enqueued {queueIs : ReliableQueue Event Queue} {next : Queue} {accepted : Record Event}
    {now : Nat} (allowed : config.Allows accepted.attempt) (valid : queueIs.Valid next)
    (named : accepted.id = retryId now state.retrySeq)
    (arrived : (queueIs.queued next).Perm (accepted :: queueIs.queued state.queue))
    (sound : Sound config (some queueIs) state ((accepted.job, accepted.attempt - 1) :: hand)) :
    Sound config (some queueIs)
      { state with retrySeq := state.retrySeq + 1, queue := next } hand :=
  { sound with
    accounted := sound.accounted.rearrange (perm_place
      (@held_queue _ _ (some queueIs)
        { state with retrySeq := state.retrySeq + 1, queue := next } state.queue [accepted]
        arrived))
    valid := by
      intro used same
      cases same
      exact valid
    records := by
      intro record member
      rcases List.mem_cons.mp (arrived.mem_iff.mp member) with rfl | old
      · exact ⟨allowed, now, state.retrySeq, named, Nat.lt_succ_self _⟩
      · rcases sound.records record old with ⟨isAllowed, oldNow, seq, oldNamed, before⟩
        exact ⟨isAllowed, oldNow, seq, oldNamed, Nat.lt_succ_of_lt before⟩ }

section Uses

variable (uses : config.retryQueue = reliable.map ReliableQueue.machine)

include uses

theorem valid_step (sound : Sound config reliable state hand)
    (call : Call (Dispatched Event) Unit) :
    ∀ queueIs ∈ reliable, queueIs.Valid (state.ask config call).2.queue := by
  intro queueIs member
  rw [Option.mem_def.mp member] at uses
  rw [ask, uses]
  exact queueIs.valid call (sound.valid queueIs member)

theorem ask_ack (recordId : String) (sound : Sound config reliable state hand) :
    (state.ask config (.ack recordId)).1 = .settled ∧
      Sound config reliable (state.ask config (.ack recordId)).2 hand := by
  have valid := sound.valid_step uses (.ack recordId)
  cases isReliable : reliable with
  | none =>
      rw [isReliable] at uses sound
      rw [ask, uses]
      exact ⟨rfl, sound⟩
  | some queueIs =>
      rw [isReliable] at uses sound valid
      have law := queueIs.ack recordId (sound.valid queueIs rfl)
      rw [ask, uses] at valid ⊢
      have moved : (queueIs.queued state.queue).Perm ([] ++
          queueIs.queued (queueIs.machine.step state.queue (.ack recordId)).2) := .of_eq law.2.symm
      exact ⟨law.1, sound.queue valid moved⟩

theorem ask_size (now : Millis) (isUsed : config.retryQueue.isSome = true)
    (sound : Sound config reliable state hand) :
    (∃ count, (state.ask config (.size now)).1 = .count count) ∧
      Sound config reliable (state.ask config (.size now)).2 hand := by
  have valid := sound.valid_step uses (.size now)
  cases isReliable : reliable with
  | none =>
      rw [uses, isReliable] at isUsed
      cases isUsed
  | some queueIs =>
      rw [isReliable] at uses sound valid
      have law := queueIs.size now (sound.valid queueIs rfl)
      rw [ask, uses] at valid ⊢
      have moved : (queueIs.queued state.queue).Perm ([] ++
          queueIs.queued (queueIs.machine.step state.queue (.size now)).2) := .of_eq law.2.symm
      exact ⟨law.1, sound.queue valid moved⟩

theorem ask_evictNewest (isUsed : config.retryQueue.isSome = true)
    (sound : Sound config reliable state hand) :
    (∃ record, (state.ask config .evictNewest).1 = .record record) ∧
      Sound config reliable (state.ask config .evictNewest).2
        (waiting (handed (state.ask config .evictNewest).1) ++ hand) := by
  have valid := sound.valid_step uses .evictNewest
  cases isReliable : reliable with
  | none =>
      rw [uses, isReliable] at isUsed
      cases isUsed
  | some queueIs =>
      rw [isReliable] at uses sound valid
      have law := queueIs.evictNewest (sound.valid queueIs rfl)
      rw [ask, uses] at valid ⊢
      exact ⟨law.1, sound.queue valid law.2⟩

/-- What a call of `dequeue` hands out has an attempt to make. -/
theorem ask_dequeue {nowMs : Millis} (inTime : InTime reliable state.queue nowMs)
    (sound : Sound config reliable state hand) :
    (∀ record ∈ handed (state.ask config (.dequeue nowMs)).1,
        config.Allows record.attempt ∧ config.retryQueue.isSome = true) ∧
      Sound config reliable (state.ask config (.dequeue nowMs)).2
        (waiting (handed (state.ask config (.dequeue nowMs)).1) ++ hand) := by
  have valid := sound.valid_step uses (.dequeue nowMs)
  cases isReliable : reliable with
  | none =>
      rw [isReliable] at uses sound
      rw [ask, uses]
      exact ⟨fun _ none => absurd none List.not_mem_nil, sound⟩
  | some queueIs =>
      rw [isReliable] at uses sound valid
      have law := queueIs.dequeue (sound.valid queueIs rfl) (inTime queueIs isReliable)
      rw [ask, uses] at valid ⊢
      refine ⟨?_, sound.queue valid law.2⟩
      intro record member
      exact ⟨(sound.records record
        (law.2.mem_iff.mpr (List.mem_append_left _ member))).1, rfl⟩

theorem finishDelivery (driver : Driver Event) (sound : Sound config reliable state hand) :
    Sound config reliable (state.finishDelivery config driver) hand := by
  cases driver with
  | first => exact push .settled trivial sound
  | retryTimer => exact sound
  | drain nowMs record =>
      have asked := (sound.ask_ack uses record.id).2
      exact push (.drained nowMs _) trivial { asked with }
  | poller record => exact sound

variable {driver : Driver Event} {job : Job Event} {attempt now : Nat} {lastError : String}
  {delay : Option Millis}

theorem enqueueRetry (isUsed : config.retryQueue.isSome = true) (allowed : config.Allows attempt)
    (finite : delay.isSome = true)
    (sound : Sound config reliable state ((job, attempt - 1) :: hand)) :
    Sound config reliable (state.enqueueRetry config driver job attempt lastError now delay)
      hand := by
  cases isReliable : reliable with
  | none =>
      rw [uses, isReliable] at isUsed
      cases isUsed
  | some queueIs =>
      rw [isReliable] at uses sound
      rcases Option.isSome_iff_exists.mp finite with ⟨delayMs, rfl⟩
      have asserted := assertRecord_retryRecord state job attempt lastError now delayMs
      have valid := sound.valid queueIs rfl
      have law := queueIs.enqueue valid asserted (by
        intro member
        rcases List.mem_map.mp member with ⟨old, inside, same⟩
        rcases (sound.records old inside).2 with ⟨oldNow, oldSeq, named, before⟩
        rw [named] at same
        exact absurd before (retryId_injective same ▸ Nat.lt_irrefl _))
      have arrived := sound.enqueued allowed (queueIs.valid _ valid) rfl law.2
      have asks : (({ state with retrySeq := state.retrySeq + 1 } :
          WebhookDelivery Event Queue).ask config
            (.enqueue (state.retryRecord job attempt lastError now (some delayMs)))) =
          ((queueIs.machine.step state.queue
              (.enqueue (state.retryRecord job attempt lastError now (some delayMs)))).1,
            { state with
              retrySeq := state.retrySeq + 1
              queue := (queueIs.machine.step state.queue
                (.enqueue (state.retryRecord job attempt lastError now (some delayMs)))).2 }) := by
        rw [ask, uses]
        rfl
      rw [WebhookDelivery.enqueueRetry, asks, law.1]
      exact push (.enqueueing driver job attempt .settled) rfl arrived

theorem afterSize {size : Nat} (isUsed : config.retryQueue.isSome = true)
    (allowed : config.Allows attempt) (finite : delay.isSome = true)
    (sound : Sound config reliable state ((job, attempt - 1) :: hand)) :
    Sound config reliable
      (state.afterSize config driver job attempt lastError now delay (.count size)) hand := by
  rw [WebhookDelivery.afterSize]
  split
  · rcases sound.ask_evictNewest uses isUsed with ⟨answered, asked⟩
    exact push (.evicting driver job attempt lastError _) ⟨allowed, isUsed, answered⟩
      (asked.inHand List.perm_middle.symm)
  · exact sound.enqueueRetry uses isUsed allowed finite

theorem afterEvict {evicted : Option (Record Event)} (isUsed : config.retryQueue.isSome = true)
    (allowed : config.Allows attempt) (finite : delay.isSome = true)
    (sound : Sound config reliable state
      ((Task.evicting driver job attempt lastError (.record evicted)).held ++ hand)) :
    Sound config reliable
      (state.afterEvict config driver job attempt lastError now delay (.record evicted)) hand := by
  cases evicted with
  | none => exact sound.enqueueRetry uses isUsed allowed finite
  | some evicted =>
      have dropped := emitDropped (sound.inHand (.swap _ _ _))
      exact dropped.enqueueRetry uses isUsed allowed finite

theorem afterEnqueue (job : Job Event) (attempt : Nat) (sound : Sound config reliable state hand) :
    Sound config reliable (state.afterEnqueue config driver job attempt .settled) hand :=
  finishDelivery uses driver
    { sound with
      handles := fun timer found isFound =>
        Nat.lt_succ_of_lt (sound.handles timer found isFound) }

theorem afterAttempt {result : Except AttemptFailure Unit} (sound : Sound config reliable state
      ((Task.attempting driver job attempt (.returned result)).held ++ hand)) :
    Sound config reliable (state.afterAttempt config driver job attempt now result) hand := by
  cases result with
  | ok done => exact sound.finishDelivery uses driver
  | error failure =>
      have inHand : Sound config reliable state ((job, attempt) :: hand) := sound
      rw [WebhookDelivery.afterAttempt]
      split
      · rename_i stopped
        exact (inHand.cut stopped).finishDelivery uses driver
      · split
        · rename_i retried
          have next := allows_next (of_decide_eq_true (Bool.and_eq_true_iff.mp retried).2)
          cases isUsed : config.retryQueue with
          | none => exact (inHand.makeRoom.setRetryTimer next isUsed).finishDelivery uses driver
          | some machine =>
              have used : config.retryQueue.isSome = true := by
                rw [isUsed]
                rfl
              rcases inHand.ask_size uses now used with ⟨answered, asked⟩
              exact push (.sizing driver job (attempt + 1) failure.error _) ⟨next, used, answered⟩
                asked
        · exact (inHand.emitFailure failure.error).finishDelivery uses driver

theorem afterPolledAttempt {record : Record Event} {result : Except AttemptFailure Unit}
    (final : ∀ failure, result = .error failure → state.watcherStopped = true ∨
      failure.terminal = true ∨ config.retries ≤ record.attempt)
    (sound : Sound config reliable state
      ((Task.attempting (.poller record) record.job record.attempt (.returned result)).held ++
        hand)) :
    Sound config reliable (state.afterPolledAttempt config record delay now result) hand := by
  cases result with
  | ok done =>
      rw [WebhookDelivery.afterPolledAttempt]
      split
      · exact sound
      · rcases sound.ask_ack uses record.id with ⟨answered, asked⟩
        exact push (.polled _ none) answered { asked with }
  | error failure =>
      have inHand : Sound config reliable state ((record.job, record.attempt) :: hand) := sound
      rw [WebhookDelivery.afterPolledAttempt]
      split
      · rename_i stopped
        exact inHand.cut stopped
      · rename_i running
        split
        · rename_i retried
          have more := Bool.and_eq_true_iff.mp retried
          rcases final failure rfl with stopped | terminal | last
          · exact absurd stopped running
          · rw [terminal] at more
            cases more.1
          · exact absurd (of_decide_eq_true more.2) (not_lt.mpr last)
        · rcases inHand.ask_ack uses record.id with ⟨answered, asked⟩
          exact push (.polled _ (some (record.job, failure.error, record.attempt))) answered
            { asked with }

theorem drainDueRetries {nowMs : Millis} (inTime : InTime reliable state.queue nowMs)
    (sound : Sound config reliable state hand) :
    Sound config reliable (state.drainDueRetries config nowMs) hand := by
  rw [WebhookDelivery.drainDueRetries]
  split
  · exact sound
  · rcases sound.ask_dequeue uses inTime with ⟨allowed, asked⟩
    exact push (.dequeuing nowMs _) allowed asked

end Uses

/-! ### Dispatching -/

theorem dispatchDelivery {job : Job Event} (numbered : job.number = state.dispatched.length)
    (sound : Sound config reliable state hand) :
    Sound config reliable (state.dispatchDelivery config job) hand := by
  have fresh : job.number ∉ state.dispatched.map Job.number := by
    intro member
    rcases List.mem_map.mp member with ⟨old, inside, same⟩
    have before := sound.numbered old inside
    rw [same, numbered] at before
    exact Nat.lt_irrefl _ before
  have accepted : Sound config reliable { state with dispatched := state.dispatched ++ [job] }
      ((job, 0) :: hand) :=
    { sound with
      accounted := sound.accounted.accept fresh
      numbered := by
        intro other member
        rw [List.length_append, List.length_singleton]
        rcases List.mem_append.mp member with old | new
        · exact Nat.lt_succ_of_lt (sound.numbered other old)
        · rw [List.mem_singleton.mp new, numbered]
          exact Nat.lt_succ_self _ }
  rw [WebhookDelivery.dispatchDelivery]
  split
  · exact sound
  · dsimp only
    split
    · exact { accepted with
        accounted := accepted.accounted.rearrange (perm_place (held_overflow job)) }
    · have counted : Sound config reliable
          { state with
            dispatched := state.dispatched ++ [job]
            activeDeliveries := state.activeDeliveries + 1 } ((job, 0) :: hand) :=
        { accepted with }
      exact counted.doAttempt (allows_one config) (fun _ none => by cases none)

theorem dispatchAll (object : Nat) (event : Event) (urls : List String)
    (sound : Sound config reliable state hand) :
    Sound config reliable (dispatchAll config object event urls state) hand := by
  induction urls generalizing state with
  | nil => exact sound
  | cons url urls induction => exact induction (sound.dispatchDelivery rfl)

theorem handleWatcherEvent (object : Nat) (event : Event)
    (sound : Sound config reliable state hand) :
    Sound config reliable (state.handleWatcherEvent config object event) hand := by
  rw [WebhookDelivery.handleWatcherEvent]
  split
  · exact sound
  · exact sound.dispatchAll object event config.urls

theorem drainOverflow {overflow : List (Job Event)} (same : state.overflowQueue = overflow)
    (sound : Sound config reliable state hand) :
    Sound config reliable (drainOverflow config overflow state) hand := by
  induction overflow generalizing state with
  | nil => exact sound
  | cons job rest induction =>
      rw [WebhookDelivery.drainOverflow]
      split
      · have taken : Sound config reliable
            { state with
              overflowQueue := rest
              activeDeliveries := state.activeDeliveries + 1 } ((job, 0) :: hand) :=
          { sound with
            accounted := sound.accounted.rearrange (perm_take (by
              rw [held, held, same]
              exact List.Perm.refl _)) }
        refine induction ?_ (taken.doAttempt (allows_one config) (fun _ none => by cases none))
        exact doAttempt_overflowQueue _ _ _ _ _
      · exact sound

end Sound

/-! ## Steps -/

/-- The poller puts no record back, a backoff is a finite number, and nothing that the
queue handed out has run out when the next record is asked for. -/
def RegularTask (config : WebhookConfig Event Queue)
    (reliable : Option (ReliableQueue Event Queue)) (state : WebhookDelivery Event Queue)
    (delay : Option Millis) : Task Event → Prop
  | .attempting (.poller record) _ _ (.returned (.error failure)) =>
      state.watcherStopped = true ∨ failure.terminal = true ∨ config.retries ≤ record.attempt
  | .sizing .. | .evicting .. => delay.isSome = true
  | .drained nowMs _ => InTime reliable state.queue nowMs
  | _ => True

def Regular (config : WebhookConfig Event Queue)
    (reliable : Option (ReliableQueue Event Queue)) (state : WebhookDelivery Event Queue) :
    DeliveryEvent Event → Prop
  | .resume index (.proceed _ delay) => ∀ task ∈ state.tasks[index]?,
      RegularTask config reliable state delay task
  | .drainTimerFired _ nowMs | .pollerTicked nowMs | .drainCalled nowMs =>
      InTime reliable state.queue nowMs
  | .stopCalled | .watcherStopped => reliable.isSome = true
  | .restarted => False
  | _ => True

namespace Sound

variable (uses : config.retryQueue = reliable.map ReliableQueue.machine)

include uses

theorem resume {task : Task Event} {input : Input} {next : WebhookDelivery Event Queue}
    (sound : Sound config reliable state (task.held ++ hand))
    (sane : task.Sane config state.watcherStopped)
    (regular : ∀ now delay, input = .proceed now delay →
      RegularTask config reliable state delay task)
    (resumes : state.resume config task input = some next) :
    Sound config reliable next hand := by
  rw [WebhookDelivery.resume.eq_def] at resumes
  split at resumes
  · cases resumes
    exact sound.cut (sane.2.2 rfl)
  · cases resumes
    exact (sound.cut (sane.2.2 rfl)).finishDelivery uses _
  · cases resumes
    rcases sane.2.1 _ rfl with ⟨-, rfl, rfl⟩
    refine sound.afterPolledAttempt uses ?_
    intro failure same
    subst same
    exact regular _ _ rfl
  · cases resumes
    exact sound.afterAttempt uses
  · rcases Option.map_eq_some_iff.mp resumes with ⟨continued, continues, rfl⟩
    exact sound.continueAttempt sane.1 sane.2.1 (continues_of_continueAttempt continues)
  · cases resumes
    rcases sane with ⟨allowed, isUsed, count, rfl⟩
    exact sound.afterSize uses isUsed allowed (regular _ _ rfl)
  · cases resumes
    rcases sane with ⟨allowed, isUsed, evicted, rfl⟩
    exact sound.afterEvict uses isUsed allowed (regular _ _ rfl)
  · cases resumes
    cases sane
    exact sound.afterEnqueue uses _ _
  · cases resumes
    exact drainOverflow rfl { sound with }
  · cases resumes
    rename_i record _ _
    exact sound.doAttempt (sane record List.mem_cons_self).1 fun _ none => by cases none
  · cases resumes
    rename_i answer _ _ unhanded
    have none := handed_eq_nil fun record same => unhanded record same
    rw [Task.held, none] at sound
    exact sound
  · cases resumes
    exact sound.drainDueRetries uses (regular _ _ rfl)
  · cases resumes
    exact sound
  · rename_i record _ _
    rcases sane record List.mem_cons_self with ⟨allowed, isUsed⟩
    split at resumes
    · rename_i stopped
      cases resumes
      exact sound.cut stopped
    · cases resumes
      refine sound.doAttempt allowed ?_
      intro other same
      cases same
      exact ⟨isUsed, rfl, rfl⟩
  · cases resumes
    rename_i unhanded
    have none := handed_eq_nil fun record same => unhanded record same
    rw [Task.held, none] at sound
    exact sound
  · cases resumes
    exact sound.emitFailure _
  · cases resumes
    rename_i failure _ _ unannounced
    cases sane
    cases failure with
    | none => exact sound
    | some failure => exact absurd rfl (unannounced failure.1 failure.2.1 failure.2.2 rfl)
  · cases resumes
    exact sound
  · cases resumes

omit uses in
theorem take {index : Nat} {task : Task Event} (found : state.tasks[index]? = some task)
    (sound : Sound config reliable state []) :
    Sound config reliable { state with tasks := state.tasks.eraseIdx index } (task.held ++ []) :=
  { sound with
    accounted := sound.accounted.rearrange (by
      rw [List.append_nil]
      exact (held_without found).symm)
    tasks := fun other member => sound.tasks other (List.mem_of_mem_eraseIdx member) }

omit uses in
theorem stop (untimed : state.retryTimers.entries = [])
    (sound : Sound config reliable state hand) : Sound config reliable state.stop hand := by
  rw [WebhookDelivery.stop]
  split
  · exact sound
  · have none : state.retryTimers.values = [] := by
      rw [InsertionMap.values, untimed]
      rfl
    exact { sound with
      accounted := sound.accounted.rearrange (by
        rw [held, held, none]
        exact List.Perm.refl _)
      timers := fun timer member => absurd member List.not_mem_nil
      handles := fun timer found isFound => by cases isFound
      untimed := fun _ => rfl }

omit uses in
theorem stopWatcher (sound : Sound config reliable state hand) :
    Sound config reliable { state with watcherStopped := true } hand :=
  { sound with
    tasks := by
      intro task member
      have sane := sound.tasks task member
      cases task with
      | attempting driver job attempt stage => exact ⟨sane.1, sane.2.1, fun _ => rfl⟩
      | _ => exact sane
    uncut := fun running => by cases running }

theorem step {event : DeliveryEvent Event} {next : WebhookDelivery Event Queue}
    (regular : Regular config reliable state event) (sound : Sound config reliable state [])
    (taken : state.step config event = some next) : Sound config reliable next [] := by
  cases event with
  | emitted object event =>
      cases taken
      exact sound.handleWatcherEvent object event
  | resume index input =>
      rcases step_resume taken with ⟨task, found, resumes⟩
      refine (sound.take found).resume uses (sound.tasks task (List.mem_of_getElem? found)) ?_
        resumes
      intro now delay same
      subst same
      exact regular task found
  | retryTimerFired timer =>
      rcases step_retryTimerFired taken with ⟨job, attempt, found, rfl⟩
      have allowed := sound.timers _ (InsertionMap.mem_values_iff.mpr ⟨timer, found⟩)
      exact (sound.deleteTimer found).doAttempt allowed fun _ none => by cases none
  | drainTimerFired timer nowMs =>
      rcases step_drainTimerFired taken with ⟨-, rfl⟩
      exact drainDueRetries uses regular { sound with }
  | pollerTicked nowMs =>
      rcases step_pollerTicked taken with ⟨-, rfl⟩
      rcases sound.ask_dequeue uses regular with ⟨allowed, asked⟩
      exact push (.polling _) allowed asked
  | drainCalled nowMs =>
      cases taken
      exact sound.drainDueRetries uses regular
  | stopCalled =>
      cases taken
      have isUsed : config.retryQueue.isSome = true := by
        rw [uses, Option.isSome_map]
        exact regular
      exact sound.stop (sound.untimed isUsed)
  | watcherStopped =>
      cases taken
      have isUsed : config.retryQueue.isSome = true := by
        rw [uses, Option.isSome_map]
        exact regular
      exact sound.stopWatcher.stop (sound.untimed isUsed)
  | restarted => exact absurd regular id

omit uses in
theorem initial (config : WebhookConfig Event Queue)
    (reliable : Option (ReliableQueue Event Queue)) {queue : Queue}
    (valid : ∀ queueIs ∈ reliable, queueIs.Valid queue)
    (empty : queuedRecords reliable queue = []) :
    Sound config reliable (WebhookDelivery.initial config queue) [] where
  accounted := by
    have nothing : (WebhookDelivery.initial config queue).held reliable = [] := by
      rw [held, WebhookDelivery.initial]
      dsimp only
      rw [empty]
      rfl
    rw [nothing]
    exact .nil _ _
  numbered := fun _ none => absurd none List.not_mem_nil
  valid := valid
  tasks := fun _ none => absurd none List.not_mem_nil
  timers := fun _ none => absurd none List.not_mem_nil
  handles := fun timer found isFound => by cases isFound
  records := by
    intro record member
    have listed : record ∈ queuedRecords reliable queue := member
    rw [empty] at listed
    cases listed
  untimed := fun _ => rfl
  uncut := fun _ => rfl

theorem run {start final : WebhookDelivery Event Queue} {events : List (DeliveryEvent Event)}
    (sound : Sound config reliable start [])
    (trace : Trace (Guarded (Regular config reliable) (Steps config)) start events final) :
    Sound config reliable final [] := by
  refine trace.invariant (motive := fun state => Sound config reliable state []) ?_ sound
  intro current event next sound guarded
  exact sound.step uses guarded.1 guarded.2

end Sound

end WebhookDelivery

end Orbital.PulseWebhooks
