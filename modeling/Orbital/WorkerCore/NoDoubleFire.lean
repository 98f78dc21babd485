import Orbital.WorkerCore.FireParties

/-! # Each window is submitted once

Over the windows in memory, a window is won once. Over claims that expire it is won once as
long as nobody claims it when the record of an earlier claim has expired.
-/

namespace Orbital.WorkerCore.Fires

open Foundation Foundation.Async
open EventTrigger (FireDecision)
open Idempotency
open Backstop

inductive SharedStore
  | inMemory
  | claimStore
  deriving DecidableEq

def FireClaims.shared : FireClaims → SharedStore
  | .inMemory => .inMemory
  | .expiring _ _ _ _ => .claimStore

def Submission.windowId : Submission → Option JsString
  | .fire _ => none
  | .window decision => some decision.windowId

/-! ## The protocol of a party -/

inductive FirePhase
  | idle
  | won (windowId : JsString)
  | settled
  deriving DecidableEq

namespace FirePhase

def allows (shared : SharedStore) : FirePhase → Request → Prop
  | .idle, .verdictFor _ _ => True
  | .idle, .add _ => shared = .inMemory
  | .idle, .claim _ _ _ => shared = .claimStore
  | .won windowId, .submit submission => submission.windowId = some windowId
  | .settled, .record _ | .settled, .notify _ => True
  | _, _ => False

def next (phase : FirePhase) : (request : Request) → Except Failure (Response request) → FirePhase
  | .verdictFor _ _, .ok _ => phase
  | .add windowId, .ok true => .won windowId
  | .claim key _ _, .ok true => .won key
  | _, _ => .settled

end FirePhase

def fireProtocol (shared : SharedStore) : Protocol FirePhase Response Failure where
  allows := FirePhase.allows shared
  next := FirePhase.next

def anyhow {Phase Value : Type} : Phase → Except Failure Value → Prop :=
  fun _ _ => True

def wonOrSettled (windowId : JsString) : FirePhase → Except Failure Bool → Prop
  | phase, .ok true => phase = .won windowId
  | phase, _ => phase = .settled

section Keeps

variable {shared : SharedStore} {claims : FireClaims}

theorem keeps_claim (same : claims.shared = shared) (windowId : JsString) :
    Keeps (fireProtocol shared) (wonOrSettled windowId) .idle (claims.store.claim windowId) := by
  cases claims with
  | inMemory | expiring ownerId claimTtlMs positive owned =>
      apply keeps_call
      · exact same.symm
      · intro answer
        cases answer with
        | error failure => rfl
        | ok won => cases won <;> rfl

theorem keeps_submit {windowId : JsString} {decision : FireDecision}
    (same : decision.windowId = windowId) :
    Keeps (fireProtocol shared) (fun phase _ => phase = .settled) (.won windowId)
      (ask (.submit (.window decision))) := by
  apply keeps_call
  · exact congrArg some same
  · exact fun _ => rfl

theorem keeps_record (intervention : Intervention) :
    Keeps (fireProtocol shared) (fun phase _ => phase = .settled) .settled
      (ask (.record intervention)) :=
  keeps_call trivial fun _ => rfl

theorem keeps_fireWindow (same : claims.shared = shared) (decision : FireDecision) :
    Keeps (fireProtocol shared) anyhow .idle (fireWindow claims decision) := by
  apply (keeps_claim same decision.windowId).bind
  · intro phase won wins
    cases won with
    | false => trivial
    | true =>
        cases wins
        exact (keeps_submit rfl).bindIn (fun _ => trivial) fun _ => trivial
  · exact fun _ _ _ => trivial

variable {this : Nat} {subscription : WatchedSubscription} {notifies : Bool}

theorem keeps_notifySubscriber (intervention : Intervention) :
    Keeps (fireProtocol shared) anyhow .settled
      ((watcherOf this subscription notifies claims).notifySubscriber intervention) := by
  cases notifies with
  | false => trivial
  | true =>
      have notifies : Keeps (fireProtocol shared) anyhow .settled (ask (.notify intervention)) :=
        keeps_call trivial fun _ => trivial
      exact notifies.orElse (fun _ _ _ => trivial) fun _ _ _ => trivial

theorem keeps_intervene (decision : FireDecision) (intervention : Intervention) :
    Keeps (fireProtocol shared) anyhow (.won decision.windowId)
      ((watcherOf this subscription notifies claims).intervene decision intervention) := by
  have submits : Keeps (fireProtocol shared) (fun phase _ => phase = .settled)
      (.won decision.windowId) (ask (.submit (.window decision))).attempt :=
    (keeps_submit rfl).attempt
  apply submits.bindIn
  · exact fun _ => trivial
  · intro outcome
    cases outcome with
    | error cause =>
        apply keeps_modify_bind
        exact (keeps_record intervention).bindIn (fun _ => trivial) fun _ => trivial
    | ok submitted =>
        apply (keeps_record intervention).bindIn
        · exact fun _ => trivial
        · intro _
          apply keeps_modify_bind
          apply (keeps_notifySubscriber intervention).bind
          · exact fun _ _ _ => trivial
          · exact fun _ _ _ => trivial

theorem keeps_claimAndIntervene (same : claims.shared = shared) (decision : FireDecision)
    (verdict : WindowVerdict) (currentLedger : Int) :
    Keeps (fireProtocol shared) anyhow .idle
      ((watcherOf this subscription notifies claims).claimAndIntervene decision verdict
        currentLedger) := by
  apply (keeps_claim same decision.windowId).bind
  · intro phase won wins
    cases won with
    | false =>
        apply keeps_modify_bind
        trivial
    | true =>
        cases wins
        exact keeps_intervene decision _
  · exact fun _ _ _ => trivial

theorem keeps_standDown (decision : FireDecision) (verdict : WindowVerdict) (phase : FirePhase) :
    Keeps (fireProtocol shared) anyhow phase
      ((watcherOf this subscription notifies claims).standDown decision verdict) :=
  keeps_modify_bind _ trivial

theorem keeps_evaluate (same : claims.shared = shared) (decision : FireDecision)
    (currentLedger : Int) :
    Keeps (fireProtocol shared) anyhow .idle
      ((watcherOf this subscription notifies claims).evaluate decision currentLedger) := by
  apply keeps_modify_bind
  dsimp only
  split
  · apply keeps_modify_bind
    trivial
  · have asks : Keeps (fireProtocol shared)
        (fun phase result => result.isOk → phase = .idle) .idle
        (ask (.verdictFor decision.windowId currentLedger)) := by
      apply keeps_call
      · trivial
      · intro answer
        cases answer with
        | error failure => exact fun absurd => by cases absurd
        | ok verdict => exact fun _ => rfl
    apply asks.bind
    · intro phase verdict idle
      rw [idle rfl]
      cases verdict with
      | none => exact keeps_standDown decision _ _
      | some verdict =>
          dsimp only
          split
          · exact keeps_claimAndIntervene same decision verdict currentLedger
          · exact keeps_standDown decision verdict _
    · exact fun _ _ _ => trivial

theorem keeps_party {party : Party} (same : party.claims.shared = shared) :
    Keeps (fireProtocol shared) anyhow .idle party.program := by
  cases party with
  | primary claims decision =>
      exact (keeps_fireWindow same decision).bind (fun _ _ _ => trivial) fun _ _ _ => trivial
  | watcher this subscription notifies claims decision currentLedger =>
      exact (keeps_evaluate same decision currentLedger).bind (fun _ _ _ => trivial)
        fun _ _ _ => trivial

end Keeps

/-! ## A window is won once -/

def World.submissionsOf (world : World) (windowId : JsString) : Nat :=
  world.submissions.countP fun entry => entry.submission.windowId = some windowId

def entitled (windowId : JsString) (stages : List (Stage FirePhase)) : Nat :=
  stages.countP fun stage => stage.phase = .won windowId ∧ stage.waiting = false

def World.Taken (world : World) : SharedStore → JsString → Prop
  | .inMemory, windowId => windowId ∈ world.fires.claimed
  | .claimStore, windowId => (world.claims.map.get? windowId).isSome

def InTime (world : World) : Step → Prop
  | .answered _ (.claim key _ _) _ =>
      ∀ record ∈ world.claims.map.get? key, world.now < record.expiresAt
  | _ => True

instance (world : World) (step : Step) : Decidable (InTime world step) := by
  unfold InTime
  split
  · infer_instance
  · infer_instance

structure WonOnce (shared : SharedStore) (world : World) (stages : List (Stage FirePhase)) :
    Prop where
  once : ∀ windowId, world.submissionsOf windowId + entitled windowId stages ≤ 1
  taken : ∀ windowId, 0 < world.submissionsOf windowId + entitled windowId stages →
    world.Taken shared windowId

section Stored

variable {world next : World} {shared : SharedStore}

structure World.Preserves (shared : SharedStore) (world next : World) : Prop where
  submissionsOf : ∀ windowId, next.submissionsOf windowId = world.submissionsOf windowId
  taken : ∀ windowId, world.Taken shared windowId → next.Taken shared windowId

theorem World.Preserves.refl (shared : SharedStore) (world : World) : world.Preserves shared world where
  submissionsOf := fun _ => rfl
  taken := fun _ => id

theorem preserves_add (windowId : JsString) : world.Preserves shared (world.add windowId).2 where
  submissionsOf := fun _ => rfl
  taken := by
    intro other taken
    cases shared with
    | claimStore => exact taken
    | inMemory =>
        rw [World.add, InMemoryFireClaimStore.claim]
        split
        · exact taken
        · exact List.mem_append_left _ taken

theorem preserves_claimed (caller : Nat) (key owner : JsString) (ttlMs : Nat) :
    world.Preserves shared (world.claim caller key owner ttlMs).2 := by
  rw [World.claim, InMemoryClaimStore.claim_eq]
  split
  · exact .refl shared world
  · constructor
    · exact fun _ => rfl
    · intro windowId taken
      cases shared with
      | inMemory => exact taken
      | claimStore =>
          rw [World.Taken] at taken ⊢
          simp only [if_true, InMemoryClaimStore.get?_put]
          split
          · rfl
          · exact taken

theorem preserves_failed (caller : Nat) : world.Preserves shared (world.failed caller) where
  submissionsOf := by
    intro windowId
    rw [World.submissionsOf, World.failed, List.countP_map]
    congr 1
    funext entry
    rw [Function.comp_apply]
    split <;> rfl
  taken := fun _ => id

theorem preserves_stored {Value : Type} (preserves : world.Preserves shared next) (value : Value)
    (carriedOut : Bool) (result : Except Failure Value) :
    world.Preserves shared (world.stored next value carriedOut result).1 := by
  cases result with
  | ok _ => exact preserves
  | error failure =>
      cases carriedOut with
      | true => exact preserves
      | false => exact .refl shared world

theorem preserves_answer (world : World) {phase : FirePhase} {request : Request}
    (allowed : phase.allows shared request) (caller : Nat) (reply : Reply) :
    world.Preserves shared (world.answer caller request reply).1 := by
  cases request with
  | claim key owner ttlMs => exact preserves_stored (preserves_claimed caller key owner ttlMs) _ _ _
  | add windowId => exact preserves_stored (preserves_add windowId) _ _ _
  | release key owner => cases phase <;> cases allowed
  | submit submission =>
      rw [World.answer]
      split
      · exact .refl shared world
      · exact preserves_failed caller
  | chainCheck | verdictFor | record | notify => exact .refl shared world

theorem answer_won {phase : FirePhase} {request : Request} {caller : Nat} {reply : Reply}
    (allowed : phase.allows shared request)
    (inTime : InTime world (.answered caller request reply)) {windowId : JsString}
    (wins : phase.next request (world.answer caller request reply).2 = .won windowId) :
    ¬ world.Taken shared windowId ∧
      (world.answer caller request reply).1.Taken shared windowId := by
  cases request with
  | claim key owner ttlMs =>
      cases phase with
      | won | settled => cases allowed
      | idle =>
          cases allowed
          rw [World.answer] at wins ⊢
          cases result : reply.respond (.claim key owner ttlMs) with
          | error failure =>
              rw [result] at wins
              cases wins
          | ok _ =>
              rw [result] at wins
              rw [World.stored, World.claim, InMemoryClaimStore.claim_eq] at wins ⊢
              split at wins
              · cases wins
              · rename_i free
                cases wins
                have absent : world.claims.map.get? windowId = none := by
                  cases found : world.claims.map.get? windowId with
                  | none => rfl
                  | some record =>
                      have fresh := not_le.mpr (inTime record found)
                      rw [InMemoryClaimStore.get, found] at free
                      simp [fresh] at free
                rw [if_neg free, World.Taken, World.Taken, absent]
                simp
  | add added =>
      cases phase with
      | won | settled => cases allowed
      | idle =>
          cases allowed
          rw [World.answer] at wins ⊢
          cases result : reply.respond (.add added) with
          | error failure =>
              rw [result] at wins
              cases wins
          | ok _ =>
              rw [result] at wins
              rw [World.stored, World.add, InMemoryFireClaimStore.claim] at wins ⊢
              split at wins
              · cases wins
              · rename_i absent
                cases wins
                rw [if_neg absent]
                exact ⟨absent, List.mem_append_right _ List.mem_cons_self⟩
  | verdictFor asked atLedger =>
      cases phase with
      | won | settled => cases allowed
      | idle =>
          generalize (world.answer caller (.verdictFor asked atLedger) reply).2 = outcome at wins
          cases outcome <;> cases wins
  | release | chainCheck | submit | record | notify => cases wins

end Stored

section Steps

variable {shared : SharedStore} {stages : List (Stage FirePhase)} {index : Nat}
  {phase : FirePhase}

theorem entitled_called (windowId : JsString) :
    entitled windowId (stages ++ [⟨.idle, false⟩]) = entitled windowId stages := by
  rw [entitled, List.countP_append]
  rfl

theorem entitled_waits (atIndex : stages[index]? = some ⟨phase, false⟩) (windowId : JsString) :
    entitled windowId (stages.set index ⟨phase, true⟩) +
      (if phase = .won windowId then 1 else 0) = entitled windowId stages := by
  have changes := countP_set_add
    (fun stage : Stage FirePhase => decide (stage.phase = .won windowId ∧ stage.waiting = false))
    atIndex ⟨phase, true⟩
  simpa [entitled] using changes

theorem entitled_answered (atIndex : stages[index]? = some ⟨phase, true⟩) (next : FirePhase)
    (windowId : JsString) :
    entitled windowId (stages.set index ⟨next, false⟩) =
      entitled windowId stages + (if next = .won windowId then 1 else 0) := by
  have changes := countP_set_add
    (fun stage : Stage FirePhase => decide (stage.phase = .won windowId ∧ stage.waiting = false))
    atIndex ⟨next, false⟩
  simpa [entitled] using changes

theorem submissionsOf_made (world : World) {request : Request}
    (allowed : phase.allows shared request) (caller : Nat) (windowId : JsString) :
    (world.made caller request).submissionsOf windowId ≤
      world.submissionsOf windowId + (if phase = .won windowId then 1 else 0) := by
  cases request with
  | submit submission =>
      cases phase with
      | idle | settled => cases allowed
      | won won =>
          have isWon : submission.windowId = some won := allowed
          rw [World.made, World.submissionsOf, List.countP_append, List.countP_singleton, isWon]
          simp [World.submissionsOf]
  | claim | release | add | chainCheck | verdictFor | record | notify =>
      exact Nat.le_add_right _ _

theorem wonOnce_step {world : World} {later : List (Stage FirePhase)} {step : Step}
    (wonOnce : WonOnce shared world stages) (inTime : InTime world step)
    (taken : StageStep (fireProtocol shared) setting .idle world stages step later) :
    WonOnce shared (setting.act world step) later := by
  cases taken with
  | called =>
      constructor
      · intro windowId
        rw [entitled_called]
        exact wonOnce.once windowId
      · intro windowId
        rw [entitled_called]
        exact wonOnce.taken windowId
  | @ended index phase running =>
      constructor
      · intro windowId
        have waits := entitled_waits running windowId
        have once := wonOnce.once windowId
        dsimp only [Setting.act]
        omega
      · intro windowId some
        have waits := entitled_waits running windowId
        apply wonOnce.taken windowId
        dsimp only [Setting.act] at some
        omega
  | @made index phase request running allowed =>
      have same : ∀ windowId, world.Taken shared windowId →
          (world.made index request).Taken shared windowId := by
        intro windowId before
        cases request <;> exact before
      constructor
      · intro windowId
        have waits := entitled_waits running windowId
        have more := submissionsOf_made world allowed index windowId
        have once := wonOnce.once windowId
        change (world.made index request).submissionsOf windowId + _ ≤ 1
        omega
      · intro windowId positive
        apply same
        apply wonOnce.taken windowId
        have waits := entitled_waits running windowId
        have more := submissionsOf_made world allowed index windowId
        change 0 < (world.made index request).submissionsOf windowId + _ at positive
        omega
  | @answered index phase request reply waits allowed =>
      have preserved := preserves_answer world allowed index reply
      have isWon : ∀ {windowId}, phase.next request (world.answer index request reply).2 =
          .won windowId → ¬ world.Taken shared windowId ∧
            (world.answer index request reply).1.Taken shared windowId :=
        fun wins => answer_won allowed inTime wins
      have counts := entitled_answered waits
        (phase.next request (world.answer index request reply).2)
      constructor
      · intro windowId
        apply le_of_eq_of_le (congrArg₂ (· + ·) (preserved.submissionsOf windowId) (counts windowId))
        have once := wonOnce.once windowId
        split
        · rename_i wins
          have unspent : ¬ 0 < world.submissionsOf windowId + entitled windowId stages :=
            fun some => (isWon wins).1 (wonOnce.taken windowId some)
          omega
        · exact once
      · intro windowId positive
        have before := lt_of_lt_of_eq positive
          (congrArg₂ (· + ·) (preserved.submissionsOf windowId) (counts windowId))
        split at before
        · rename_i wins
          exact (isWon wins).2
        · exact preserved.taken windowId (wonOnce.taken windowId before)
  | changed ms =>
      constructor
      · exact wonOnce.once
      · intro windowId positive
        have before := wonOnce.taken windowId positive
        cases shared <;> exact before

end Steps

def Sharing (shared : SharedStore) (events : List Event) : Prop :=
  ∀ program, .call program ∈ events →
    ∃ party : Party, party.claims.shared = shared ∧ program = party.program

/-- With the windows in memory any step is taken, with claims that expire those in time. -/
def KeepsClaims (shared : SharedStore) (world : World) (step : Step) : Prop :=
  shared = .claimStore → InTime world step

instance (shared : SharedStore) (world : World) (step : Step) :
    Decidable (KeepsClaims shared world step) :=
  inferInstanceAs (Decidable (_ → _))

theorem inTime_of_inMemory {stages later : List (Stage FirePhase)} {world : World} {step : Step}
    (taken : StageStep (fireProtocol .inMemory) setting .idle world stages step later) :
    InTime world step := by
  cases taken with
  | @answered index phase request reply _ allowed =>
      cases request with
      | claim key owner ttlMs => cases phase <;> cases allowed
      | release | add | chainCheck | verdictFor | submit | record | notify => trivial
  | called | ended | made | changed => trivial

theorem wonOnce_initial (shared : SharedStore) (now : Int) :
    WonOnce shared (World.initial now) [] where
  once := fun _ => Nat.zero_le 1
  taken := fun _ some => absurd some (Nat.lt_irrefl 0)

/-- In every run of parties that share a store, each window is submitted at most once, with
claims that expire as long as no key is claimed behind the expiry of its record. -/
theorem submitted_once {shared : SharedStore} {now : Int} {events : List Event} {final : Parties}
    (sharing : Sharing shared events)
    (trace : Trace (Ensemble.Moves setting (KeepsClaims shared)) (Parties.initial now) events
      final)
    (windowId : JsString) : final.world.submissionsOf windowId ≤ 1 := by
  have starts : ∀ program, .call program ∈ events →
      Keeps (fireProtocol shared) (fun _ _ => True) .idle program := by
    intro program member
    rcases sharing program member with ⟨party, same, rfl⟩
    exact keeps_party same
  have kept : ∀ world stages step later, WonOnce shared world stages →
      KeepsClaims shared world step →
        StageStep (fireProtocol shared) setting .idle world stages step later →
          WonOnce shared (setting.act world step) later := by
    intro world stages step later wonOnce keeps taken
    apply wonOnce_step wonOnce _ taken
    cases shared with
    | inMemory => exact inTime_of_inMemory taken
    | claimStore => exact keeps rfl
  rcases Ensemble.invariant kept starts trace .nil (wonOnce_initial shared now) with
    ⟨stages, _, wonOnce⟩
  exact le_trans (Nat.le_add_right _ _) (wonOnce.once windowId)

/-! ## A submission that outlasts its claim -/

def exampleDecision : FireDecision where
  windowId := js "w:t:5"
  workerId := js "w"
  conditionEventId := js "t:5"
  conditionLedger := 5
  deadlineLedger := 10

def exampleVerdict : WindowVerdict :=
  { Backstop.BackstopWatcher.unknownVerdict exampleDecision with verdict := .missed }

def exampleReply : Reply where
  carriedOut := true
  respond := fun request =>
    match request with
    | .claim _ _ _ | .add _ => .ok true
    | .chainCheck _ => .ok false
    | .verdictFor _ _ => .ok (some exampleVerdict)
    | .release _ _ => .ok ()
    | .submit _ => .ok ()
    | .record _ => .ok ()
    | .notify _ => .ok ()

def examplePrimary : Party :=
  .primary (.expiring (js "primary") 5 (by decide) (by decide)) exampleDecision

def exampleWatcher : Party :=
  .watcher 0 ⟨js "s", 2⟩ true (.expiring (js "backstop") 5 (by decide) (by decide))
    exampleDecision 20

def slowSubmission (ms : Nat) : List Event :=
  [.call examplePrimary.program, .resume 0, .answer 0 exampleReply, .resume 0, .change ms,
    .call exampleWatcher.program, .resume 1, .answer 1 exampleReply, .resume 1,
    .answer 1 exampleReply, .resume 1]

theorem sharing_slowSubmission (ms : Nat) : Sharing .claimStore (slowSubmission ms) := by
  intro program member
  simp only [slowSubmission, List.mem_cons, List.not_mem_nil, or_false, false_or,
    Ensemble.Event.call.injEq, reduceCtorEq] at member
  rcases member with rfl | rfl
  · exact ⟨examplePrimary, rfl, rfl⟩
  · exact ⟨exampleWatcher, rfl, rfl⟩

/-- The watcher claims the window ten milliseconds later and submits as well. -/
theorem submitted_twice :
    ¬ ∀ (shared : SharedStore) (now : Int) (events : List Event) (final : Parties),
      Sharing shared events →
        Trace (Ensemble.Moves setting fun _ _ => True) (Parties.initial now) events final →
          ∀ windowId, final.world.submissionsOf windowId ≤ 1 := by
  intro once
  have count : (runEvents (Ensemble.guardedStep setting fun _ _ => True) (Parties.initial 0)
      (slowSubmission 10)).map (fun final => final.world.submissionsOf (js "w:t:5")) =
        some 2 := by
    rfl
  rcases Option.map_eq_some_iff.mp count with ⟨final, run, twice⟩
  have bound := once .claimStore 0 _ final (sharing_slowSubmission 10)
    (Ensemble.trace_of_run setting run) (js "w:t:5")
  omega

/-- Three milliseconds later the watcher finds the claim of the primary. -/
theorem submitted_in_time :
    ∃ final, Trace (Ensemble.Moves setting (KeepsClaims .claimStore)) (Parties.initial 0)
      (slowSubmission 3) final ∧ final.world.submissionsOf (js "w:t:5") ≤ 1 := by
  have ran : (runEvents (Ensemble.guardedStep setting (KeepsClaims .claimStore))
      (Parties.initial 0) (slowSubmission 3)).isSome = true := by
    decide
  rcases Option.isSome_iff_exists.mp ran with ⟨final, run⟩
  have trace := Ensemble.trace_of_run setting run
  exact ⟨final, trace, submitted_once (sharing_slowSubmission 3) trace (js "w:t:5")⟩

end Orbital.WorkerCore.Fires
