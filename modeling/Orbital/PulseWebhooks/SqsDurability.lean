import Orbital.PulseWebhooks.SqsRetryQueue

/-! # What SQS keeps

A record that was enqueued stays in some message until it is acknowledged or evicted, as
long as no sending that has to replace a message is dropped. Only a FIFO queue drops what
it accepts: a key that was used in the last five minutes.
-/

namespace Orbital.PulseWebhooks

open Foundation

variable {Event Metadata : Type}

namespace SqsRetryQueue

variable (options : SqsRetryQueueOptions) (queue : SqsRetryQueue Event Metadata)
  (weather : Weather)

def Kept (id : String) : Prop :=
  ∃ message ∈ queue.service.messages, message.body.any fun record => record.id = id

def KeptApart (id : String) (handle : ReceiptHandle) : Prop :=
  ∃ message ∈ queue.service.messages,
    message.number ≠ handle.number ∧ message.body.any fun record => record.id = id

/-- What is sent for the id is accepted and not kept. -/
def Dropped (id : String) (now : Millis) : Prop :=
  options.isFifo = true ∧ queue.service.InUse id now

instance (id : String) : Decidable (queue.Kept id) :=
  inferInstanceAs (Decidable (∃ _ ∈ _, _ = true))

instance (id : String) (handle : ReceiptHandle) : Decidable (queue.KeptApart id handle) :=
  inferInstanceAs (Decidable (∃ _ ∈ _, _ ≠ _ ∧ _ = true))

instance (id : String) (now : Millis) : Decidable (Dropped options queue id now) :=
  inferInstanceAs (Decidable (_ = true ∧ _))

/-! ## The condition on a call -/

def Replaced (recordId : String) (round : Nat) : Prop :=
  ∀ handle ∈ queue.inFlight.get? recordId,
    ¬ Dropped options queue recordId (weather.clock round) ∨ queue.KeptApart recordId handle

instance (recordId : String) (round : Nat) :
    Decidable (Replaced options queue weather recordId round) :=
  inferInstanceAs (Decidable (∀ _ ∈ _, ¬ _ ∨ _))

/-- What the loop of `dequeue` puts back: the id, the round, and the state before. -/
def putBacks (nowMs : Millis) :
    List (Message (Option (RetryRecord Event Metadata Millis)) Millis) → Nat →
      SqsRetryQueue Event Metadata → List (String × Nat × SqsRetryQueue Event Metadata)
  | [], _, _ => []
  | message :: rest, round, queue =>
      match message.body with
      | none => putBacks nowMs rest (round + 1) queue
      | some record =>
          let queue := queue.track record message.handle
          if record.nextRetryAt > nowMs then
            (record.id, round, queue) ::
              match queue.nack options weather record.id (some (record.nextRetryAt - nowMs))
                  round with
              | (.error _, _) => []
              | (.ok (), queue) => putBacks nowMs rest (round + 1) queue
          else []

def putBacksOfDequeue (nowMs : Millis) (asked : List Nat) :
    List (String × Nat × SqsRetryQueue Event Metadata) :=
  match queue.receiveMessage options weather options.receiveCount
      (1000 * options.visibilityTimeoutS) asked with
  | (.error _, _) => []
  | (.ok messages, queue) => putBacks options weather nowMs messages 0 queue

def Safe (ledger : Ledger Event Metadata) : SqsCall Event Metadata → Prop
  | .enqueue record weather => ∀ accepted ∈ (assertRecord record).toOption,
      ¬ Dropped options ledger.queue accepted.id (weather.clock 0) ∨
        ledger.queue.Kept accepted.id
  | .dequeue nowMs asked weather =>
      ∀ item ∈ putBacksOfDequeue options ledger.queue weather nowMs asked,
        Replaced options item.2.2 weather item.1 item.2.1
  | .nack recordId _ weather => Replaced options ledger.queue weather recordId 0
  | _ => True

instance (ledger : Ledger Event Metadata) (call : SqsCall Event Metadata) :
    Decidable (Safe options ledger call) :=
  match call with
  | .enqueue _ _ => inferInstanceAs (Decidable (∀ _ ∈ _, ¬ _ ∨ _))
  | .dequeue _ _ _ => inferInstanceAs (Decidable (∀ _ ∈ _, Replaced _ _ _ _ _))
  | .ack _ _ => inferInstanceAs (Decidable True)
  | .nack _ _ _ => inferInstanceAs (Decidable (Replaced _ _ _ _ _))
  | .evictNewest _ _ => inferInstanceAs (Decidable True)
  | .size => inferInstanceAs (Decidable True)

/-! ## The invariant -/

variable {options queue weather}

structure Sound (queue : SqsRetryQueue Event Metadata) : Prop where
  numbered : queue.service.Numbered
  written : ∀ {number body}, queue.service.Holds number body → ∃ record, body = some record
  sent : ∀ {id handle}, queue.inFlight.get? id = some handle →
    handle.number < queue.service.sends
  points : ∀ {id handle record}, queue.inFlight.get? id = some handle →
    queue.service.Holds handle.number (some record) → record.id = id
  recorded : ∀ {id handle}, queue.inFlight.get? id = some handle →
    ∃ record, queue.inFlightRecords.get? id = some record ∧ record.id = id

structure Keeps (lost : String → Prop) (queue next : SqsRetryQueue Event Metadata) : Prop where
  sound : next.Sound
  sends : queue.service.sends ≤ next.service.sends
  old : ∀ {number body}, next.service.Holds number body → number < queue.service.sends →
    queue.service.Holds number body
  kept : ∀ {id}, ¬ lost id → queue.Kept id → next.Kept id

variable {id : String} {handle : ReceiptHandle} {next : SqsRetryQueue Event Metadata}
  {record : RetryRecord Event Metadata Millis} {ledger : Ledger Event Metadata} {time : Millis}

theorem kept_iff :
    queue.Kept id ↔ ∃ number record, queue.service.Holds number (some record) ∧ record.id = id := by
  constructor
  · rintro ⟨message, member, names⟩
    rcases Option.any_eq_true _ _ |>.mp names with ⟨record, body, same⟩
    exact ⟨message.number, record, ⟨message, member, rfl, body⟩, of_decide_eq_true same⟩
  · rintro ⟨number, record, ⟨message, member, -, body⟩, same⟩
    refine ⟨message, member, ?_⟩
    rw [body, Option.any_some]
    exact decide_eq_true same

theorem keptApart_iff :
    queue.KeptApart id handle ↔ ∃ number record, queue.service.Holds number (some record) ∧
      number ≠ handle.number ∧ record.id = id := by
  constructor
  · rintro ⟨message, member, apart, names⟩
    rcases Option.any_eq_true _ _ |>.mp names with ⟨record, body, same⟩
    exact ⟨message.number, record, ⟨message, member, rfl, body⟩, apart, of_decide_eq_true same⟩
  · rintro ⟨number, record, ⟨message, member, rfl, body⟩, apart, same⟩
    refine ⟨message, member, apart, ?_⟩
    rw [body, Option.any_some]
    exact decide_eq_true same

namespace Keeps

variable {lost : String → Prop} {next last : SqsRetryQueue Event Metadata}

theorem refl (sound : queue.Sound) : Keeps lost queue queue where
  sound := sound
  sends := Nat.le_refl _
  old := fun holds _ => holds
  kept := fun _ kept => kept

theorem trans (first : Keeps lost queue next) (second : Keeps lost next last) :
    Keeps lost queue last where
  sound := second.sound
  sends := Nat.le_trans first.sends second.sends
  old := fun holds before =>
    first.old (second.old holds (Nat.lt_of_lt_of_le before first.sends)) before
  kept := fun spared kept => second.kept spared (first.kept spared kept)

end Keeps

theorem Sound.of_maps (sound : queue.Sound) (service : next.service = queue.service)
    (tracked : ∀ {id handle}, next.inFlight.get? id = some handle →
      handle.number < queue.service.sends ∧
        (∀ record, queue.service.Holds handle.number (some record) → record.id = id) ∧
          ∃ record, next.inFlightRecords.get? id = some record ∧ record.id = id) : next.Sound where
  numbered := service ▸ sound.numbered
  written := fun holds => sound.written (service ▸ holds)
  sent := fun found => service ▸ (tracked found).1
  points := fun found holds => (tracked found).2.1 _ (service ▸ holds)
  recorded := fun found => (tracked found).2.2

theorem Sound.of_service (sound : queue.Sound) (inFlight : next.inFlight = queue.inFlight)
    (inFlightRecords : next.inFlightRecords = queue.inFlightRecords)
    (numbered : next.service.Numbered) (sends : queue.service.sends ≤ next.service.sends)
    (written : ∀ {number body}, next.service.Holds number body → ∃ record, body = some record)
    (old : ∀ {number body}, next.service.Holds number body → number < queue.service.sends →
      queue.service.Holds number body) : next.Sound where
  numbered := numbered
  written := written
  sent := fun found => Nat.lt_of_lt_of_le (sound.sent (inFlight ▸ found)) sends
  points := fun found holds =>
    have before : queue.inFlight.get? _ = some _ := inFlight ▸ found
    sound.points before (old holds (sound.sent before))
  recorded := fun found => inFlightRecords ▸ sound.recorded (inFlight ▸ found)

theorem sound_empty : (empty : SqsRetryQueue Event Metadata).Sound where
  numbered := .empty
  written := fun holds => absurd holds MessageService.not_holds_empty
  sent := fun none => by cases none
  points := fun none => by cases none
  recorded := fun none => by cases none

/-! ## Requests -/

variable {lost : String → Prop} {round number : Nat} {nowMs : Millis} {asked : List Nat}

theorem Keeps.of_service (sound : next.Sound) (sends : queue.service.sends ≤ next.service.sends)
    (old : ∀ {number body}, next.service.Holds number body → number < queue.service.sends →
      queue.service.Holds number body)
    (holds : ∀ {number record}, ¬ lost record.id → queue.service.Holds number (some record) →
      next.service.Holds number (some record)) : Keeps lost queue next where
  sound := sound
  sends := sends
  old := old
  kept := by
    intro id spared kept
    rcases kept_iff.mp kept with ⟨number, record, held, rfl⟩
    exact kept_iff.mpr ⟨number, record, holds spared held, rfl⟩

theorem request_cases (queue : SqsRetryQueue Event Metadata) (weather : Weather)
    (outcome : Outcome) (done : SqsRetryQueue Event Metadata) :
    (queue.request weather outcome done).2 = done ∨
      outcome.effective = false ∧ (queue.request weather outcome done).2 = queue := by
  rw [request]
  cases effective : outcome.effective with
  | false => exact .inr ⟨rfl, rfl⟩
  | true => exact .inl rfl

def sentTo (options : SqsRetryQueueOptions) (queue : SqsRetryQueue Event Metadata)
    (record : RetryRecord Event Metadata Millis) (now : Millis) : SqsRetryQueue Event Metadata :=
  { queue with
    service := queue.service.send (some record) (deduplicationKey options record.id now) now
      (visibleAt options record now) }

theorem sentTo_cases (options : SqsRetryQueueOptions) (queue : SqsRetryQueue Event Metadata)
    (record : RetryRecord Event Metadata Millis) (now : Millis) :
    (sentTo options queue record now = queue ∧ Dropped options queue record.id now) ∨
    ((sentTo options queue record now).service.sends = queue.service.sends + 1 ∧
      ∀ {number body}, (sentTo options queue record now).service.Holds number body ↔
        queue.service.Holds number body ∨
          number = queue.service.sends ∧ body = some record) := by
  rcases queue.service.send_cases (some record) (deduplicationKey options record.id now) now
    (visibleAt options record now) with ⟨same, used, inUse, busy⟩ | ⟨-, messages, sends⟩
  · refine .inl ⟨?_, ?_⟩
    · rw [sentTo, same]
    · rw [deduplicationKey] at inUse
      split at inUse
      · rename_i isFifo
        cases inUse
        exact ⟨isFifo, busy⟩
      · cases inUse
  · refine .inr ⟨sends, ?_⟩
    intro number body
    rw [← MessageService.holds_append]
    rw [MessageService.Holds, MessageService.Holds, ← messages]
    rfl

theorem keeps_sentTo (options : SqsRetryQueueOptions) (lost : String → Prop)
    (sound : queue.Sound) (record : RetryRecord Event Metadata Millis) (now : Millis) :
    Keeps lost queue (sentTo options queue record now) := by
  rcases sentTo_cases options queue record now with ⟨same, -⟩ | ⟨sends, holds⟩
  · rw [same]
    exact .refl sound
  · have more : queue.service.sends ≤ (sentTo options queue record now).service.sends := by
      rw [sends]
      exact Nat.le_succ _
    have old : ∀ {number body}, (sentTo options queue record now).service.Holds number body →
        number < queue.service.sends → queue.service.Holds number body := by
      intro number body held before
      rcases holds.mp held with earlier | ⟨same, -⟩
      · exact earlier
      · exact absurd before (same ▸ Nat.lt_irrefl _)
    refine .of_service (sound.of_service rfl rfl ?_ more ?_ old) more old
      fun _ held => holds.mpr (.inl held)
    · exact (sound.numbered.append (some record) now).of_subset sends fun held =>
        MessageService.holds_append.mpr (holds.mp held)
    · intro number body held
      rcases holds.mp held with earlier | ⟨-, body⟩
      · exact sound.written earlier
      · exact ⟨record, body⟩

theorem sendMessage_spec (options : SqsRetryQueueOptions) (weather : Weather)
    (lost : String → Prop) (sound : queue.Sound) (record : RetryRecord Event Metadata Millis)
    (round : Nat) :
    Keeps lost queue (queue.sendMessage options weather record round).2 ∧
      (queue.sendMessage options weather record round).2.inFlight = queue.inFlight ∧
      (∀ {number body}, queue.service.Holds number body →
        (queue.sendMessage options weather record round).2.service.Holds number body) ∧
      ((queue.sendMessage options weather record round).1 = .ok () →
        Dropped options queue record.id (weather.clock round) ∨
          (queue.sendMessage options weather record round).2.service.Holds
            queue.service.sends (some record)) := by
  have asRequest : queue.sendMessage options weather record round =
      queue.request weather (weather.send round)
        (sentTo options queue record (weather.clock round)) := rfl
  rw [asRequest]
  rcases request_cases queue weather (weather.send round)
      (sentTo options queue record (weather.clock round)) with done | ⟨ineffective, same⟩
  · rw [done]
    refine ⟨keeps_sentTo options lost sound record _, rfl, ?_, ?_⟩
    · intro number body held
      rcases sentTo_cases options queue record (weather.clock round) with
        ⟨same, -⟩ | ⟨-, holds⟩
      · rw [same]
        exact held
      · exact holds.mpr (.inl held)
    · intro _
      rcases sentTo_cases options queue record (weather.clock round) with
        ⟨-, dropped⟩ | ⟨-, holds⟩
      · exact .inl dropped
      · exact .inr (holds.mpr (.inr ⟨rfl, rfl⟩))
  · rw [same]
    refine ⟨.refl sound, rfl, id, ?_⟩
    -- A sending that had no effect is not acknowledged.
    intro answered
    have unanswered : (weather.send round).answered = false := by
      cases isAnswered : (weather.send round).answered with
      | false => rfl
      | true => exact absurd (weather.durable round isAnswered) (ineffective ▸ Bool.false_ne_true)
    rw [request, unanswered] at answered
    cases answered

theorem deleteMessage_spec (weather : Weather) (sound : queue.Sound)
    (points : ∀ record, queue.service.Holds handle.number (some record) → record.id = id)
    (round : Nat) :
    Keeps (fun other => other = id) queue (queue.deleteMessage weather handle round).2 ∧
      (queue.deleteMessage weather handle round).2.inFlight = queue.inFlight ∧
      (queue.KeptApart id handle → (queue.deleteMessage weather handle round).2.Kept id) := by
  have asRequest : queue.deleteMessage weather handle round =
      queue.request weather (weather.delete round)
        { queue with service := queue.service.delete handle } := rfl
  rw [asRequest]
  rcases request_cases queue weather (weather.delete round)
      { queue with service := queue.service.delete handle } with done | ⟨-, same⟩
  · rw [done]
    have deleted : ∀ {number body}, (queue.service.delete handle).Holds number body →
        queue.service.Holds number body := fun held => (MessageService.holds_delete.mp held).1
    refine ⟨.of_service (sound.of_service rfl rfl (sound.numbered.delete handle) (Nat.le_refl _)
      (fun held => sound.written (deleted held)) fun held _ => deleted held) (Nat.le_refl _)
      (fun held _ => deleted held) ?_, rfl, ?_⟩
    · intro number record spared held
      refine MessageService.holds_delete.mpr ⟨held, ?_⟩
      intro same
      exact spared (points record (same ▸ held))
    · intro apart
      rcases keptApart_iff.mp apart with ⟨number, record, held, different, same⟩
      exact kept_iff.mpr ⟨number, record, MessageService.holds_delete.mpr ⟨held, different⟩, same⟩
  · rw [same]
    refine ⟨.refl sound, rfl, ?_⟩
    intro apart
    rcases keptApart_iff.mp apart with ⟨number, record, held, -, same⟩
    exact kept_iff.mpr ⟨number, record, held, same⟩

theorem keeps_clear (lost : String → Prop) (sound : queue.Sound) (recordId : String) :
    Keeps lost queue (queue.clear recordId) := by
  have sound : (queue.clear recordId).Sound := by
    refine sound.of_maps rfl ?_
    intro id handle found
    rw [clear] at found ⊢
    dsimp only at found ⊢
    rw [InsertionMap.get?_delete] at found
    rw [InsertionMap.get?_delete]
    split at found
    · cases found
    · rename_i different
      rw [if_neg different]
      exact ⟨sound.sent found, fun _ => sound.points found, sound.recorded found⟩
  exact .of_service sound (Nat.le_refl _) (fun held _ => held) fun _ held => held

theorem keeps_track (lost : String → Prop) (sound : queue.Sound)
    (sent : handle.number < queue.service.sends)
    (points : ∀ body, queue.service.Holds handle.number body → body = some record) :
    Keeps lost queue (queue.track record handle) := by
  have sound : (queue.track record handle).Sound := by
    refine sound.of_maps rfl ?_
    intro id found isFound
    rw [track] at isFound ⊢
    dsimp only at isFound ⊢
    rw [InsertionMap.get?_set] at isFound
    rw [InsertionMap.get?_set]
    split at isFound
    · rename_i same
      cases isFound
      rw [if_pos same]
      refine ⟨sent, ?_, record, rfl, same.symm⟩
      intro other held
      cases points _ held
      exact same.symm
    · rename_i different
      rw [if_neg different]
      exact ⟨sound.sent isFound, fun _ => sound.points isFound, sound.recorded isFound⟩
  exact .of_service sound (Nat.le_refl _) (fun held _ => held) fun _ held => held

/-! ## The calls -/

def nothing (_ : String) : Prop :=
  False

theorem receiveMessage_spec (options : SqsRetryQueueOptions) (weather : Weather)
    (lost : String → Prop) (sound : queue.Sound) (count : Nat) (hiddenMs : Millis)
    (asked : List Nat) :
    Keeps lost queue (queue.receiveMessage options weather count hiddenMs asked).2 ∧
      (queue.receiveMessage options weather count hiddenMs asked).2.inFlight = queue.inFlight ∧
      ∀ messages, (queue.receiveMessage options weather count hiddenMs asked).1 = .ok messages →
        ∀ message ∈ messages, queue.service.Holds message.number message.body := by
  rw [receiveMessage]
  generalize (if weather.received.effective then
    answeredWith options queue count (weather.clock 0) asked else []) = numbers
  have hidden : Keeps lost queue { queue with
      service := (queue.service.receive numbers (weather.clock 0 + hiddenMs)).2 } := by
    refine .of_service (sound.of_service rfl rfl (sound.numbered.receive _ _) (Nat.le_refl _)
      (fun held => sound.written (MessageService.holds_receive.mp held))
      fun held _ => MessageService.holds_receive.mp held) (Nat.le_refl _)
      (fun held _ => MessageService.holds_receive.mp held)
      fun _ held => MessageService.holds_receive.mpr held
  cases weather.received.answered with
  | false =>
      refine ⟨hidden, rfl, ?_⟩
      intro messages failed
      cases failed
  | true =>
      refine ⟨hidden, rfl, ?_⟩
      intro messages answered message member
      cases answered
      exact MessageService.holds_of_received member

theorem nack_spec (sound : queue.Sound) {recordId : String} (requeueDelayMs : Option Millis)
    (replaced : Replaced options queue weather recordId round) :
    Keeps nothing queue (queue.nack options weather recordId requeueDelayMs round).2 := by
  rw [nack]
  cases tracked : queue.inFlight.get? recordId with
  | none => exact .refl sound
  | some handle =>
      rcases sound.recorded tracked with ⟨record, recorded, same⟩
      rw [recorded]
      dsimp only
      rcases sendMessage_spec options weather nothing sound
        { record with nextRetryAt := weather.clock round + requeueDelay requeueDelayMs } round
        with ⟨sent, inFlight, stays, arrives⟩
      generalize queue.sendMessage options weather { record with
        nextRetryAt := weather.clock round + requeueDelay requeueDelayMs } round = sending at *
      rcases sending with ⟨result, next⟩
      cases result with
      | error error => exact sent
      | ok answered =>
          have trackedNext : next.inFlight.get? recordId = some handle := inFlight ▸ tracked
          rcases deleteMessage_spec weather sent.sound
            (fun _ => sent.sound.points trackedNext) round with ⟨deleted, -, remains⟩
          -- The record itself is in another message.
          have apart : next.KeptApart recordId handle := by
            rcases replaced handle tracked with stored | another
            · rcases arrives rfl with dropped | arrived
              · exact absurd (same ▸ dropped) stored
              · refine keptApart_iff.mpr ⟨_, _, arrived, ?_, same⟩
                exact (sound.sent tracked).ne'
            · rcases keptApart_iff.mp another with ⟨number, other, held, different, named⟩
              exact keptApart_iff.mpr ⟨number, other, stays held, different, named⟩
          have all : Keeps nothing next (next.deleteMessage weather handle round).2 := by
            refine ⟨deleted.sound, deleted.sends, deleted.old, ?_⟩
            intro id _ kept
            by_cases isRecord : id = recordId
            · exact isRecord ▸ remains apart
            · exact deleted.kept isRecord kept
          have both := sent.trans all
          dsimp only
          generalize next.deleteMessage weather handle round = deleting at *
          rcases deleting with ⟨result, last⟩
          cases result with
          | error error => exact both
          | ok done => exact both.trans (keeps_clear nothing both.sound recordId)

theorem takeDue_spec (sound : queue.Sound)
    {messages : List (Message (Option (RetryRecord Event Metadata Millis)) Millis)}
    (given : ∀ message ∈ messages, message.number < queue.service.sends ∧
      ∀ body, queue.service.Holds message.number body → body = message.body)
    (replaced : ∀ item ∈ putBacks options weather nowMs messages round queue,
      Replaced options item.2.2 weather item.1 item.2.1) :
    Keeps nothing queue (takeDue options weather nowMs messages round queue).2 := by
  induction messages generalizing queue round with
  | nil => exact .refl sound
  | cons message rest induction =>
      rcases given message List.mem_cons_self with ⟨sent, points⟩
      rw [takeDue]
      rw [putBacks] at replaced
      cases body : message.body with
      | none =>
          rw [body] at replaced
          exact induction sound (fun later member => given later (List.mem_cons_of_mem _ member))
            replaced
      | some record =>
          rw [body] at replaced points
          have tracked : Keeps nothing queue (queue.track record message.handle) :=
            keeps_track nothing sound sent points
          dsimp only at replaced ⊢
          by_cases early : record.nextRetryAt > nowMs
          · rw [if_pos early] at replaced ⊢
            have back := nack_spec tracked.sound (some (record.nextRetryAt - nowMs))
              (replaced _ List.mem_cons_self)
            have both := tracked.trans back
            have behind := fun item member => replaced item (List.mem_cons_of_mem _ member)
            dsimp only at back both behind
            generalize (queue.track record message.handle).nack options weather record.id
              (some (record.nextRetryAt - nowMs)) round = putBack at *
            rcases putBack with ⟨result, next⟩
            cases result with
            | error error => exact both
            | ok done =>
                refine both.trans (induction both.sound ?_ behind)
                intro later member
                rcases given later (List.mem_cons_of_mem _ member) with ⟨laterSent, laterPoints⟩
                refine ⟨Nat.lt_of_lt_of_le laterSent both.sends, ?_⟩
                intro held isHeld
                exact laterPoints held (both.old isHeld laterSent)
          · rw [if_neg early]
            exact tracked

theorem dequeue_spec (sound : queue.Sound)
    (replaced : ∀ item ∈ putBacksOfDequeue options queue weather nowMs asked,
      Replaced options item.2.2 weather item.1 item.2.1) :
    Keeps nothing queue (queue.dequeue options weather nowMs asked).2 := by
  rw [dequeue]
  rw [putBacksOfDequeue] at replaced
  rcases receiveMessage_spec options weather nothing sound options.receiveCount
    (1000 * options.visibilityTimeoutS) asked with ⟨hidden, -, received⟩
  generalize queue.receiveMessage options weather options.receiveCount
    (1000 * options.visibilityTimeoutS) asked = receiving at *
  rcases receiving with ⟨result, next⟩
  cases result with
  | error error => exact hidden
  | ok messages =>
      refine hidden.trans (takeDue_spec hidden.sound ?_ replaced)
      intro message member
      have held := received messages rfl message member
      have sent := sound.numbered.lt held
      refine ⟨Nat.lt_of_lt_of_le sent hidden.sends, ?_⟩
      intro body isHeld
      exact sound.numbered.unique (hidden.old isHeld sent) held

theorem enqueue_spec (options : SqsRetryQueueOptions) (weather : Weather) (sound : queue.Sound)
    (record : RetryRecord Event Metadata (Option Millis)) :
    Keeps nothing queue (queue.enqueue options weather record).2 ∧
      ((queue.enqueue options weather record).1 = .ok () →
        ∀ accepted ∈ (assertRecord record).toOption,
          Dropped options queue accepted.id (weather.clock 0) ∨
            (queue.enqueue options weather record).2.Kept accepted.id) := by
  rw [enqueue]
  cases asserted : assertRecord record with
  | error error =>
      refine ⟨.refl sound, ?_⟩
      intro failed
      cases failed
  | ok accepted =>
      rcases sendMessage_spec options weather nothing sound accepted 0 with ⟨sent, -, -, arrives⟩
      refine ⟨sent, ?_⟩
      intro answered other same
      cases same
      rcases arrives answered with dropped | arrived
      · exact .inl dropped
      · exact .inr (kept_iff.mpr ⟨_, _, arrived, rfl⟩)

theorem ack_spec (weather : Weather) (sound : queue.Sound) (recordId : String) :
    Keeps (fun id => queue.inFlight.has recordId = true ∧ id = recordId) queue
      (queue.ack weather recordId).2 := by
  rw [ack]
  cases tracked : queue.inFlight.get? recordId with
  | none => exact .refl sound
  | some handle =>
      rcases deleteMessage_spec weather sound (fun _ => sound.points tracked) 0 with
        ⟨deleted, -⟩
      have settled : Keeps (fun id => queue.inFlight.has recordId = true ∧ id = recordId) queue
          (queue.deleteMessage weather handle 0).2 := by
        refine ⟨deleted.sound, deleted.sends, deleted.old, ?_⟩
        intro id spared
        exact deleted.kept fun same => spared ⟨InsertionMap.has_iff.mpr ⟨handle, tracked⟩, same⟩
      dsimp only
      generalize queue.deleteMessage weather handle 0 = deleting at *
      rcases deleting with ⟨result, next⟩
      cases result with
      | error error => exact settled
      | ok done => exact settled.trans (keeps_clear _ settled.sound recordId)

theorem evictNewest_spec (options : SqsRetryQueueOptions) (weather : Weather)
    (sound : queue.Sound) (asked : List Nat) :
    Keeps (fun id => evictedId options queue weather asked = some id) queue
      (queue.evictNewest options weather asked).2 := by
  rcases receiveMessage_spec options weather
    (fun id => evictedId options queue weather asked = some id) sound 1 0 asked with
    ⟨hidden, -, received⟩
  rw [evictNewest]
  rw [evictedId] at hidden ⊢
  generalize queue.receiveMessage options weather 1 0 asked = receiving at *
  rcases receiving with ⟨result, next⟩
  cases result with
  | error error => exact hidden
  | ok messages =>
      cases messages with
      | nil => exact hidden
      | cons message rest =>
          have held := received _ rfl message List.mem_cons_self
          rcases sound.written held with ⟨record, body⟩
          have points : ∀ other, next.service.Holds message.handle.number (some other) →
              other.id = record.id := by
            intro other isHeld
            have same := sound.numbered.unique
              (hidden.old isHeld (sound.numbered.lt held)) held
            rw [body] at same
            cases same
            rfl
          rcases deleteMessage_spec weather hidden.sound points 0 with ⟨deleted, -⟩
          dsimp only at hidden deleted ⊢
          rw [body] at hidden ⊢
          have all : Keeps _ _ (next.deleteMessage weather message.handle 0).2 := hidden.trans
            ⟨deleted.sound, deleted.sends, deleted.old,
              fun spared => deleted.kept fun same => spared (congrArg some same.symm)⟩
          generalize next.deleteMessage weather message.handle 0 = deleting at *
          rcases deleting with ⟨result, last⟩
          cases result with
          | error error | ok done => exact all

/-! ## Runs -/

structure Paid (ledger : Ledger Event Metadata) : Prop where
  sound : ledger.queue.Sound
  kept : ∀ id ∈ ledger.owed, ledger.queue.Kept id

theorem Paid.of_keeps {owed : List String} (paid : Paid ledger)
    (keeps : Keeps lost ledger.queue next) (still : ∀ id ∈ owed, id ∈ ledger.owed ∧ ¬ lost id) :
    Paid { queue := next, owed } where
  sound := keeps.sound
  kept := fun id owes =>
    keeps.kept (still id owes).2 (paid.kept id (still id owes).1)

theorem Paid.of_keeps_all (paid : Paid ledger) (keeps : Keeps nothing ledger.queue next) :
    Paid { queue := next, owed := ledger.owed } :=
  paid.of_keeps keeps fun _ owes => ⟨owes, fun none => none⟩

theorem Paid.enqueue (paid : Paid ledger) (record : RetryRecord Event Metadata (Option Millis))
    (weather : Weather) (safe : Safe options ledger (.enqueue record weather)) :
    Paid ((machine options).step ledger (.enqueue record weather)).2 := by
  have step : (machine options).step ledger (.enqueue record weather) =
      (answer (fun _ => .settled) (ledger.queue.enqueue options weather record).1,
        { queue := (ledger.queue.enqueue options weather record).2
          owed := owedBehind options ledger (.enqueue record weather)
            (answer (fun _ => .settled) (ledger.queue.enqueue options weather record).1) }) := rfl
  rw [step]
  rcases enqueue_spec options weather paid.sound record with ⟨keeps, arrives⟩
  cases result : (ledger.queue.enqueue options weather record).1 with
  | error error => exact paid.of_keeps_all keeps
  | ok done =>
      refine ⟨keeps.sound, ?_⟩
      intro id owes
      rcases List.mem_cons.mp owes with rfl | before
      · have accepts : ∃ accepted, assertRecord record = .ok accepted := by
          rw [SqsRetryQueue.enqueue] at result
          cases asserted : assertRecord record with
          | error error =>
              rw [asserted] at result
              cases result
          | ok accepted => exact ⟨accepted, rfl⟩
        rcases accepts with ⟨accepted, asserted⟩
        have member : accepted ∈ (assertRecord record).toOption := by
          rw [asserted]
          rfl
        rw [← assertRecord_id asserted]
        rcases arrives result accepted member with dropped | arrived
        · rcases safe accepted member with stored | kept
          · exact absurd dropped stored
          · exact keeps.kept (fun none => none) kept
        · exact arrived
      · exact keeps.kept (fun none => none) (paid.kept id before)

theorem Paid.ack (paid : Paid ledger) (recordId : String) (weather : Weather) :
    Paid ((machine options).step ledger (.ack recordId weather)).2 := by
  refine paid.of_keeps (ack_spec weather paid.sound recordId) ?_
  intro id owes
  have listed : id ∈ if ledger.queue.inFlight.has recordId then
      ledger.owed.filter fun id => id ≠ recordId else ledger.owed := owes
  split at listed
  · rcases List.mem_filter.mp listed with ⟨member, different⟩
    exact ⟨member, fun lost => of_decide_eq_true different lost.2⟩
  · rename_i untracked
    exact ⟨listed, fun lost => untracked lost.1⟩

theorem Paid.evictNewest (paid : Paid ledger) (asked : List Nat) (weather : Weather) :
    Paid ((machine options).step ledger (.evictNewest asked weather)).2 := by
  refine paid.of_keeps (evictNewest_spec options weather paid.sound asked) ?_
  intro id owes
  have listed : id ∈ owedBehind options ledger (.evictNewest asked weather)
    (answer .record (ledger.queue.evictNewest options weather asked).1) := owes
  rw [owedBehind] at listed
  cases evicted : evictedId options ledger.queue weather asked with
  | none =>
      rw [evicted] at listed
      exact ⟨listed, fun lost => by cases lost⟩
  | some gone =>
      rw [evicted] at listed
      rcases List.mem_filter.mp listed with ⟨member, different⟩
      refine ⟨member, ?_⟩
      intro lost
      cases lost
      exact of_decide_eq_true different rfl

theorem Paid.step (paid : Paid ledger) {call : SqsCall Event Metadata}
    (safe : Safe options ledger call) : Paid ((machine options).step ledger call).2 := by
  cases call with
  | enqueue record weather => exact paid.enqueue record weather safe
  | dequeue nowMs asked weather => exact paid.of_keeps_all (dequeue_spec paid.sound safe)
  | ack recordId weather => exact paid.ack recordId weather
  | nack recordId requeueDelayMs weather =>
      exact paid.of_keeps_all (nack_spec paid.sound requeueDelayMs safe)
  | evictNewest asked weather => exact paid.evictNewest asked weather
  | size => exact paid.of_keeps_all (.refl paid.sound)

theorem Paid.after {calls : List (SqsCall Event Metadata)} (paid : Paid ledger)
    (safe : (machine options).Meets (Safe options) ledger calls) :
    Paid ((machine options).after ledger calls) := by
  induction calls generalizing ledger with
  | nil => exact paid
  | cons call rest induction => exact induction (paid.step safe.1) safe.2

theorem safe_of_standard (standard : options.isFifo = false) (ledger : Ledger Event Metadata)
    (calls : List (SqsCall Event Metadata)) :
    (machine options).Meets (Safe options) ledger calls := by
  have stored : ∀ (queue : SqsRetryQueue Event Metadata) (id : String) (now : Millis),
      ¬ Dropped options queue id now := by
    rintro queue id now ⟨isFifo, -⟩
    rw [standard] at isFifo
    cases isFifo
  have safe : ∀ (ledger : Ledger Event Metadata) call, Safe options ledger call := by
    intro ledger call
    cases call with
    | enqueue record weather => exact fun accepted _ => .inl (stored _ _ _)
    | dequeue nowMs asked weather => exact fun item _ handle _ => .inl (stored _ _ _)
    | ack recordId weather => trivial
    | nack recordId requeueDelayMs weather => exact fun handle _ => .inl (stored _ _ _)
    | evictNewest asked weather | size => trivial
  induction calls generalizing ledger with
  | nil => trivial
  | cons call rest induction => exact ⟨safe ledger call, induction _⟩

/-! ## What is kept comes again -/

def calm (time : Millis) : Weather where
  clock := fun _ => time
  received := ⟨true, true⟩
  send := fun _ => ⟨true, true⟩
  delete := fun _ => ⟨true, true⟩
  error := ""
  durable := fun _ _ => rfl

def Ordinary (id : String) (ledger : Ledger Event Metadata) : SqsCall Event Metadata → Prop
  | .dequeue _ asked weather => ∀ message ∈ ledger.queue.service.messages,
      message.number ∈ asked → message.visibleAt ≤ weather.clock 0
  | .ack recordId _ => recordId ≠ id
  | _ => False

def Ripe (time : Millis) (queue : SqsRetryQueue Event Metadata) : Prop :=
  ∀ message ∈ queue.service.messages,
    message.visibleAt ≤ time ∧ ∀ record ∈ message.body, record.nextRetryAt ≤ time

theorem exists_ripe (queue : SqsRetryQueue Event Metadata) : ∃ time, Ripe time queue := by
  have bounded : ∀ messages : List (Message (Option (RetryRecord Event Metadata Millis)) Millis),
      ∃ time, ∀ message ∈ messages,
        message.visibleAt ≤ time ∧ ∀ record ∈ message.body, record.nextRetryAt ≤ time := by
    intro messages
    induction messages with
    | nil => exact ⟨0, fun _ none => absurd none List.not_mem_nil⟩
    | cons message rest induction =>
        rcases induction with ⟨time, ripe⟩
        have due : ∃ due, ∀ record ∈ message.body, record.nextRetryAt ≤ due := by
          cases message.body with
          | none => exact ⟨0, fun _ none => by cases none⟩
          | some record =>
              refine ⟨record.nextRetryAt, ?_⟩
              intro other same
              cases same
              exact le_refl _
        rcases due with ⟨due, isDue⟩
        refine ⟨max time (max message.visibleAt due), ?_⟩
        intro other member
        rcases List.mem_cons.mp member with rfl | later
        · exact ⟨(le_max_left _ _).trans (le_max_right _ _),
            fun record inside => (isDue record inside).trans
              ((le_max_right _ _).trans (le_max_right _ _))⟩
        · exact ⟨(ripe other later).1.trans (le_max_left _ _),
            fun record inside => ((ripe other later).2 record inside).trans (le_max_left _ _)⟩
  exact bounded queue.service.messages

theorem one_le_receiveCount (options : SqsRetryQueueOptions) : 1 ≤ options.receiveCount := by
  rw [SqsRetryQueueOptions.receiveCount]
  omega

theorem step_dequeue (options : SqsRetryQueueOptions) (ledger : Ledger Event Metadata)
    (nowMs : Millis) (asked : List Nat) (weather : Weather) :
    (machine options).step ledger (.dequeue nowMs asked weather) =
      (answer .record (ledger.queue.dequeue options weather nowMs asked).1,
        { queue := (ledger.queue.dequeue options weather nowMs asked).2, owed := ledger.owed }) :=
  rfl

theorem step_ack (options : SqsRetryQueueOptions) (ledger : Ledger Event Metadata)
    (id : String) (weather : Weather) :
    ((machine options).step ledger (.ack id weather)).2.queue = (ledger.queue.ack weather id).2 :=
  rfl

theorem dequeue_ripe (sound : queue.Sound) (held : queue.service.Holds number (some record))
    (due : record.nextRetryAt ≤ time)
    (one : answeredWith options queue options.receiveCount time asked = [number]) :
    ∃ handle : ReceiptHandle, handle.number = number ∧
      queue.dequeue options (calm time) time asked =
        (.ok (some record),
          ({ queue with service := (queue.service.receive [number]
              (time + 1000 * options.visibilityTimeoutS)).2 }).track record handle) := by
  rcases MessageService.receive_one (time + 1000 * options.visibilityTimeoutS) held with
    ⟨message, handed, named⟩
  have inside : message ∈ (queue.service.receive [number]
      (time + 1000 * options.visibilityTimeoutS)).1 := by
    rw [handed]
    exact List.mem_singleton_self _
  have body : message.body = some record :=
    sound.numbered.unique (named ▸ MessageService.holds_of_received inside) held
  have received : queue.receiveMessage options (calm time) options.receiveCount
      (1000 * options.visibilityTimeoutS) asked =
        (.ok (queue.service.receive [number] (time + 1000 * options.visibilityTimeoutS)).1,
          { queue with service :=
              (queue.service.receive [number] (time + 1000 * options.visibilityTimeoutS)).2 }) := by
    rw [← one]
    rfl
  refine ⟨message.handle, named, ?_⟩
  rw [dequeue, received, handed]
  dsimp only
  rw [takeDue, body]
  dsimp only
  rw [if_neg (not_lt.mpr due)]

theorem answeredWith_standard (standard : options.isFifo = false) (time : Millis)
    (number : Nat) :
    answeredWith options queue options.receiveCount time [number] = [number] := by
  rw [answeredWith, standard]
  exact List.take_of_length_le (one_le_receiveCount options)

theorem answeredWith_fifo (isFifo : options.isFifo = true)
    {message : Message (Option (RetryRecord Event Metadata Millis)) Millis}
    {rest : List (Message (Option (RetryRecord Event Metadata Millis)) Millis)}
    (messages : queue.service.messages = message :: rest) (ripe : Ripe time queue) :
    answeredWith options queue options.receiveCount time [message.number] =
      [message.number] := by
  have visible : (queue.service.messages.all fun message => message.visibleAt ≤ time) = true := by
    rw [List.all_eq_true]
    intro other member
    exact decide_eq_true (ripe other member).1
  rw [answeredWith, isFifo, if_pos rfl, visible, if_pos rfl, messages]
  have one : min options.receiveCount [message.number].length = 1 :=
    Nat.min_eq_right (one_le_receiveCount options)
  rw [one]
  rfl

theorem ack_tracked (time : Millis) (queue : SqsRetryQueue Event Metadata)
    (record : RetryRecord Event Metadata Millis) (handle : ReceiptHandle) :
    ((queue.track record handle).ack (calm time) record.id).2.service =
      queue.service.delete handle := by
  have tracked : (queue.track record handle).inFlight.get? record.id = some handle :=
    InsertionMap.get?_set_same queue.inFlight record.id handle
  rw [ack, tracked]
  rfl

theorem settle_first (time : Millis) (sound : queue.Sound)
    (held : queue.service.Holds number (some record)) (named : handle.number = number)
    (hiddenUntil : Millis) {taken : SqsRetryQueue Event Metadata}
    (isTaken : taken = ({ queue with service :=
      (queue.service.receive [number] hiddenUntil).2 }).track record handle) :
    (taken.ack (calm time) record.id).2.Sound ∧
      (∀ {id}, record.id ≠ id → queue.Kept id → (taken.ack (calm time) record.id).2.Kept id) ∧
      (taken.ack (calm time) record.id).2.service.messages =
        (queue.service.delete handle).messages := by
  subst named
  have received : Keeps nothing queue
      { queue with service := (queue.service.receive [handle.number] hiddenUntil).2 } :=
    .of_service (sound.of_service rfl rfl (sound.numbered.receive _ _) (Nat.le_refl _)
      (fun isHeld => sound.written (MessageService.holds_receive.mp isHeld))
      fun isHeld _ => MessageService.holds_receive.mp isHeld) (Nat.le_refl _)
      (fun isHeld _ => MessageService.holds_receive.mp isHeld)
      fun _ isHeld => MessageService.holds_receive.mpr isHeld
  have tracked : Keeps nothing queue taken := by
    rw [isTaken]
    refine received.trans (keeps_track nothing received.sound (sound.numbered.lt held) ?_)
    intro body isHeld
    exact sound.numbered.unique (MessageService.holds_receive.mp isHeld) held
  have acked := ack_spec (calm time) tracked.sound record.id
  refine ⟨acked.sound, ?_, ?_⟩
  · intro id different kept
    exact acked.kept (fun lost => different lost.2.symm) (tracked.kept (fun none => none) kept)
  · rw [isTaken, ack_tracked]
    exact MessageService.delete_receive queue.service handle hiddenUntil

theorem comes_again_fifo (isFifo : options.isFifo = true) (bound : Nat) (sound : ledger.queue.Sound)
    (kept : ledger.queue.Kept id) (ripe : Ripe time ledger.queue)
    (short : ledger.queue.service.messages.length ≤ bound) :
    ∃ later, (machine options).Meets (Ordinary id) ledger later ∧
      ∃ record, .record (some record) ∈ (machine options).answers ledger later ∧
        record.id = id := by
  induction bound generalizing ledger with
  | zero =>
      rcases kept with ⟨message, member, -⟩
      rw [List.length_eq_zero_iff.mp (Nat.le_zero.mp short)] at member
      cases member
  | succ bound induction =>
      cases messages : ledger.queue.service.messages with
      | nil =>
          rcases kept with ⟨message, member, -⟩
          rw [messages] at member
          cases member
      | cons first rest =>
          have inside : first ∈ ledger.queue.service.messages := by
            rw [messages]
            exact List.mem_cons_self
          have isHeld : ledger.queue.service.Holds first.number first.body :=
            ⟨first, inside, rfl, rfl⟩
          rcases sound.written isHeld with ⟨record, body⟩
          have held : ledger.queue.service.Holds first.number (some record) := body ▸ isHeld
          rcases dequeue_ripe sound held ((ripe first inside).2 record body)
            (answeredWith_fifo isFifo messages ripe) with ⟨handle, named, handedOut⟩
          have allowed : Ordinary id ledger (.dequeue time [first.number] (calm time)) :=
            fun message member _ => (ripe message member).1
          have answered : ((machine options).step ledger
              (.dequeue time [first.number] (calm time))).1 = .record (some record) := by
            rw [step_dequeue, handedOut]
            rfl
          by_cases same : record.id = id
          · refine ⟨[.dequeue time [first.number] (calm time)], ⟨allowed, trivial⟩, record, ?_,
              same⟩
            rw [Machine.answers, answered]
            exact List.mem_cons_self
          · rcases settle_first time sound held named _
              (congrArg Prod.snd handedOut) with ⟨nextSound, nextKept, left⟩
            obtain ⟨next, isNext⟩ : ∃ next : Ledger Event Metadata,
                next = ((machine options).step ((machine options).step ledger
                  (.dequeue time [first.number] (calm time))).2 (.ack record.id (calm time))).2 :=
              ⟨_, rfl⟩
            have nextQueue : next.queue = ((ledger.queue.dequeue options (calm time) time
                [first.number]).2.ack (calm time) record.id).2 := by
              rw [isNext, step_dequeue, step_ack]
            rw [← nextQueue] at nextSound nextKept left
            have others : (ledger.queue.service.delete handle).messages =
                rest.filter fun message => message.number ≠ handle.number := by
              rw [MessageService.delete, messages]
              dsimp only
              rw [List.filter_cons_of_neg]
              simp [named]
            rw [others] at left
            have nextRipe : Ripe time next.queue := by
              intro message member
              rw [left] at member
              have earlier : message ∈ ledger.queue.service.messages := by
                rw [messages]
                exact List.mem_cons_of_mem _ (List.mem_filter.mp member).1
              exact ripe message earlier
            have nextShort : next.queue.service.messages.length ≤ bound := by
              rw [messages, List.length_cons] at short
              rw [left]
              exact (List.length_filter_le _ rest).trans (Nat.le_of_succ_le_succ short)
            rcases induction nextSound (nextKept same kept) nextRipe nextShort with
              ⟨later, meets, found, answers, isFound⟩
            subst isNext
            refine ⟨.dequeue time [first.number] (calm time) ::
              .ack record.id (calm time) :: later, ⟨allowed, same, meets⟩, found, ?_, isFound⟩
            exact List.mem_cons_of_mem _ (List.mem_cons_of_mem _ answers)

theorem comes_again_standard (standard : options.isFifo = false) (sound : ledger.queue.Sound)
    (kept : ledger.queue.Kept id) (ripe : Ripe time ledger.queue) :
    ∃ later, (machine options).Meets (Ordinary id) ledger later ∧
      ∃ record, .record (some record) ∈ (machine options).answers ledger later ∧
        record.id = id := by
  rcases kept_iff.mp kept with ⟨number, record, held, same⟩
  rcases held with ⟨message, member, rfl, body⟩
  rcases dequeue_ripe sound ⟨message, member, rfl, body⟩ ((ripe message member).2 record body)
    (answeredWith_standard standard time message.number) with ⟨handle, -, handedOut⟩
  refine ⟨[.dequeue time [message.number] (calm time)], ⟨?_, trivial⟩, record, ?_, same⟩
  · exact fun message member _ => (ripe message member).1
  · rw [Machine.answers, step_dequeue, handedOut]
    exact List.mem_cons_self

/-- Whatever was enqueued and neither acknowledged nor evicted is in some message and can
be handed out again, in a standard queue always, and in a FIFO queue where no sending it
depends on is dropped. -/
theorem no_record_lost (options : SqsRetryQueueOptions) (calls : List (SqsCall Event Metadata))
    (safe : options.isFifo = true → (machine options).Meets (Safe options) .empty calls) :
    ∀ id ∈ ((machine options).after .empty calls).owed,
      ((machine options).after .empty calls).queue.Kept id ∧
      ∃ later, (machine options).Meets (Ordinary id) ((machine options).after .empty calls)
          later ∧
        ∃ record, .record (some record) ∈ (machine options).answers
            ((machine options).after .empty calls) later ∧ record.id = id := by
  have start : Paid (Ledger.empty : Ledger Event Metadata) :=
    ⟨sound_empty, fun id none => absurd none List.not_mem_nil⟩
  intro id owes
  cases fifo : options.isFifo with
  | false =>
      have paid := start.after (safe_of_standard fifo .empty calls)
      rcases exists_ripe ((machine options).after .empty calls).queue with ⟨time, ripe⟩
      exact ⟨paid.kept id owes,
        comes_again_standard fifo paid.sound (paid.kept id owes) ripe⟩
  | true =>
      have paid := start.after (safe fifo)
      rcases exists_ripe ((machine options).after .empty calls).queue with ⟨time, ripe⟩
      exact ⟨paid.kept id owes,
        comes_again_fifo fifo _ paid.sound (paid.kept id owes) ripe (Nat.le_refl _)⟩

/-! ## A record that is lost -/

def fifoQueue : SqsRetryQueueOptions where
  queueUrl := "https://sqs.us-east-1.amazonaws.com/123/retries.fifo"
  visibilityTimeoutMs := none
  maxReceiveCount := none

def dueAt (nextRetryAt : Millis) : RetryRecord Unit Empty (Option Millis) where
  id := "retry"
  event := ()
  url := "https://example.com/hook"
  attempt := 2
  nextRetryAt := some nextRetryAt
  lastError := none
  createdAt := none
  metadata := none

def putBack : List (SqsCall Unit Empty) :=
  [.enqueue (dueAt 1000) (calm 0), .dequeue 1000 [0] (calm 1000),
    .nack "retry" (some 2000) (calm 1200)]

def askedTooSoon : List (SqsCall Unit Empty) :=
  [.enqueue (dueAt 1000) (calm 0), .dequeue 500 [0] (calm 500)]

/-- The sending that would replace the message is dropped, and the message deleted. -/
theorem put_back_is_lost :
    (((machine fifoQueue).after .empty putBack).owed = ["retry"] ∧
      ((machine fifoQueue).after .empty putBack).queue.service.messages.length = 0) ∧
    ((machine fifoQueue).after .empty askedTooSoon).owed = ["retry"] ∧
      ((machine fifoQueue).after .empty askedTooSoon).queue.service.messages.length = 0 := by
  decide +kernel

def putBackLate : List (SqsCall Unit Empty) :=
  [.enqueue (dueAt 1000) (calm 0), .dequeue 400000 [0] (calm 400000),
    .nack "retry" (some 2000) (calm 400100)]

theorem put_back_late_is_kept :
    ((machine fifoQueue).after .empty putBackLate).queue.Kept "retry" ∧
      ∃ later, (machine fifoQueue).Meets (Ordinary "retry")
          ((machine fifoQueue).after .empty putBackLate) later ∧
        ∃ record, .record (some record) ∈ (machine fifoQueue).answers
            ((machine fifoQueue).after .empty putBackLate) later ∧ record.id = "retry" := by
  have owes : "retry" ∈ ((machine fifoQueue).after .empty putBackLate).owed := by
    decide +kernel
  exact no_record_lost fifoQueue putBackLate (fun _ => by decide +kernel) "retry" owes

end SqsRetryQueue

end Orbital.PulseWebhooks
