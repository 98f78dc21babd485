import Orbital.WorkerCore.NoDoubleFire
import Orbital.WorkerCore.WindowIdentity

/-! # A submission for each key

The manager claims a key, asks the chain, and submits without another look at its claim. A
caller whose answer from the chain comes in time still holds its claim, and then the key is
submitted once as long as a check of the chain finds what was submitted before.
-/

namespace Orbital.WorkerCore.Fires

open Foundation Foundation.Async
open Idempotency
open Backstop

/-! ## The protocol of a call -/

def Submission.keyText : Submission → Option JsString
  | .fire key => some (fireKeyToString key)
  | .window _ => none

inductive CallPhase
  | idle
  | won (key owner : JsString)
  | checked (key owner : JsString)
  | executed (key owner : JsString)
  | settled

namespace CallPhase

def allows : CallPhase → Request → Prop
  | .idle, .claim _ _ _ | .won _ _, .chainCheck _ => True
  | .checked key _, .submit submission => submission.keyText = some key
  | .executed key owner, .release released by' => released = key ∧ by' = some owner
  | _, _ => False

def next : CallPhase → (request : Request) → Except Failure (Response request) → CallPhase
  | .idle, .claim key owner _, .ok true => .won key owner
  | .won key owner, .chainCheck _, .ok false => .checked key owner
  | .won key owner, .chainCheck _, .ok true => .executed key owner
  | _, _, _ => .settled

def held : CallPhase → Option (JsString × JsString)
  | .won key owner => some (key, owner)
  | .checked key owner => some (key, owner)
  | .executed key owner => some (key, owner)
  | .idle | .settled => none

end CallPhase

def callProtocol : Protocol CallPhase Response Failure where
  allows := CallPhase.allows
  next := CallPhase.next

theorem keeps_caller (caller : Caller) :
    Keeps callProtocol (fun _ _ => True) .idle caller.program := by
  refine ⟨trivial, ?_⟩
  intro claimed
  cases claimed with
  | error failure => trivial
  | ok won =>
      cases won with
      | false => trivial
      | true =>
          refine ⟨trivial, ?_⟩
          intro executed
          cases executed with
          | error failure => trivial
          | ok found =>
              cases found with
              | true =>
                  refine ⟨⟨rfl, rfl⟩, ?_⟩
                  intro released
                  cases released <;> trivial
              | false =>
                  refine ⟨rfl, ?_⟩
                  intro submitted
                  cases submitted <;> trivial

/-! ## Claims of their own -/

/-- A caller goes on to its submission before its claim expires, releases no claim of
another caller, and a chain check finds a submission that has not failed. -/
def Timely (world : World) : Step → Prop
  | .made caller (.submit _) => ∀ claim ∈ world.claimed caller, world.now < claim.2
  | .answered caller (.release key owner) _ =>
      ∀ record ∈ world.claims.map.get? key, owner = some record.owner →
        world.holders key = some caller
  | .answered caller (.chainCheck windowStartLedger) reply =>
      reply.respond (.chainCheck windowStartLedger) = .ok false →
        ∀ claim ∈ world.claimed caller, ∀ entry ∈ world.submissions,
          entry.submission.keyText = some claim.1 → entry.failed = true
  | _ => True

instance (world : World) (step : Step) : Decidable (Timely world step) := by
  unfold Timely
  split <;> infer_instance

def World.Failed (world : World) (key : JsString) : Prop :=
  ∀ entry ∈ world.submissions, entry.submission.keyText = some key → entry.failed = true

def World.Owns (world : World) (caller : Nat) (key owner : JsString) (expiresAt : Int) : Prop :=
  world.holders key = some caller ∧ world.claims.map.get? key = some ⟨owner, expiresAt⟩

structure OwnClaims (world : World) (stages : List (Stage CallPhase)) : Prop where
  owns : ∀ caller stage key owner, stages[caller]? = some stage →
    stage.phase.held = some (key, owner) →
      ∃ expiresAt, world.claimed caller = some (key, expiresAt) ∧
        (world.now < expiresAt → world.Owns caller key owner expiresAt)
  failed : ∀ caller key owner expiresAt, stages[caller]? = some ⟨.checked key owner, false⟩ →
    world.claimed caller = some (key, expiresAt) → world.now < expiresAt → world.Failed key

section Steps

variable {world : World} {stages : List (Stage CallPhase)}

variable {index : Nat} {key owner : JsString}

theorem stage_of_set {caller : Nat} {new stage : Stage CallPhase}
    (atCaller : (stages.set index new)[caller]? = some stage) :
    (caller = index ∧ stage = new) ∨ (caller ≠ index ∧ stages[caller]? = some stage) := by
  by_cases same : caller = index
  · rw [same, List.getElem?_set_self' ] at atCaller
    rcases Option.map_eq_some_iff.mp atCaller with ⟨old, _, isNew⟩
    exact Or.inl ⟨same, isNew.symm⟩
  · rw [List.getElem?_set_ne (Ne.symm same)] at atCaller
    exact Or.inr ⟨same, atCaller⟩

theorem OwnClaims.waits (own : OwnClaims world stages) {phase : CallPhase}
    (running : stages[index]? = some ⟨phase, false⟩) :
    OwnClaims world (stages.set index ⟨phase, true⟩) where
  owns := by
    intro caller stage key owner atCaller holds
    rcases stage_of_set atCaller with ⟨rfl, rfl⟩ | ⟨_, before⟩
    · exact own.owns caller ⟨phase, false⟩ key owner running holds
    · exact own.owns caller stage key owner before holds
  failed := by
    intro caller key owner expiresAt atCaller
    rcases stage_of_set atCaller with ⟨_, same⟩ | ⟨_, before⟩
    · cases same
    · exact own.failed caller key owner expiresAt before

/-- The submissions of a key that other callers watch over do not change with one whose own
claim has not expired. -/
theorem OwnClaims.submits (own : OwnClaims world stages)
    (running : stages[index]? = some ⟨.checked key owner, false⟩) {submission : Submission}
    (isKey : submission.keyText = some key)
    (inTime : ∀ claim ∈ world.claimed index, world.now < claim.2) :
    OwnClaims (world.made index (.submit submission))
      (stages.set index ⟨.checked key owner, true⟩) where
  owns := (own.waits running).owns
  failed := by
    intro caller other ownerToo expiresAt atCaller claimed unexpired entry member isOther
    rcases stage_of_set atCaller with ⟨_, same⟩ | ⟨differs, before⟩
    · cases same
    · rcases List.mem_append.mp member with earlier | new
      · exact own.failed caller other ownerToo expiresAt before claimed unexpired entry earlier
          isOther
      · rw [List.mem_singleton.mp new, isKey, Option.some.injEq] at isOther
        rcases own.owns index _ key owner running rfl with ⟨until', mine, owns⟩
        rcases own.owns caller _ other ownerToo before rfl with ⟨limit, theirs, ownsToo⟩
        have sameLimit : limit = expiresAt :=
          congrArg Prod.snd (Option.some.inj (theirs.symm.trans claimed))
        have holder := (owns (inTime _ mine)).1
        have holderToo := (ownsToo (sameLimit ▸ unexpired)).1
        rw [isOther, holderToo] at holder
        exact absurd (Option.some.inj holder) differs

theorem OwnClaims.settled (own : OwnClaims world stages) (index : Nat) :
    OwnClaims world (stages.set index ⟨.settled, false⟩) where
  owns := by
    intro caller stage key owner atCaller holds
    rcases stage_of_set atCaller with ⟨_, rfl⟩ | ⟨_, before⟩
    · cases holds
    · exact own.owns caller stage key owner before holds
  failed := by
    intro caller key owner expiresAt atCaller
    rcases stage_of_set atCaller with ⟨_, same⟩ | ⟨_, before⟩
    · cases same
    · exact own.failed caller key owner expiresAt before

theorem OwnClaims.failedCaller (own : OwnClaims world stages) (caller : Nat) :
    OwnClaims (world.failed caller) stages where
  owns := own.owns
  failed := by
    intro other key owner expiresAt atOther claimed unexpired entry member isKey
    rcases List.mem_map.mp member with ⟨earlier, inside, rfl⟩
    by_cases mine : earlier.caller = caller
    · rw [if_pos mine]
    · rw [if_neg mine] at isKey ⊢
      exact own.failed other key owner expiresAt atOther claimed unexpired earlier inside isKey

theorem OwnClaims.releases (own : OwnClaims world stages)
    (mine : ∀ record ∈ world.claims.map.get? key, some owner = some record.owner →
      world.holders key = some index) :
    OwnClaims (world.release key (some owner)) (stages.set index ⟨.settled, false⟩) where
  owns := by
    intro caller stage other ownerToo atCaller holds
    rcases stage_of_set atCaller with ⟨_, rfl⟩ | ⟨differs, before⟩
    · cases holds
    · rcases own.owns caller stage other ownerToo before holds with ⟨expiresAt, claimed, owns⟩
      refine ⟨expiresAt, claimed, ?_⟩
      intro unexpired
      rcases owns unexpired with ⟨holder, record⟩
      refine ⟨holder, ?_⟩
      change (world.claims.release key (some owner)).map.get? other = _
      rw [InMemoryClaimStore.get?_release, if_neg, record]
      rintro ⟨rfl, released⟩
      rcases released _ record with absent | same
      · cases absent
      · have holderToo := mine _ record same
        rw [holder] at holderToo
        exact differs (Option.some.inj holderToo)
  failed := (own.settled index).failed

theorem OwnClaims.checks (own : OwnClaims world stages)
    (waits : stages[index]? = some ⟨.won key owner, true⟩) {next : CallPhase}
    (held : next.held = some (key, owner)) (finds : next = .checked key owner → world.Failed key) :
    OwnClaims world (stages.set index ⟨next, false⟩) where
  owns := by
    intro caller stage other ownerToo atCaller holds
    rcases stage_of_set atCaller with ⟨rfl, rfl⟩ | ⟨_, before⟩
    · rw [held] at holds
      exact own.owns caller _ other ownerToo waits holds
    · exact own.owns caller stage other ownerToo before holds
  failed := by
    intro caller other ownerToo expiresAt atCaller claimed unexpired
    rcases stage_of_set atCaller with ⟨_, same⟩ | ⟨_, before⟩
    · have isChecked : CallPhase.checked other ownerToo = next := congrArg Stage.phase same
      rw [← isChecked, CallPhase.held, Option.some.injEq] at held
      cases held
      exact finds isChecked.symm
    · exact own.failed caller other ownerToo expiresAt before claimed unexpired

theorem OwnClaims.claims (own : OwnClaims world stages) {ttlMs : Nat}
    (free : ¬ (world.claims.get world.now key).isSome) {next : CallPhase}
    (isNext : next = .won key owner ∨ next = .settled) :
    OwnClaims (world.claim index key owner ttlMs).2 (stages.set index ⟨next, false⟩) := by
  have wins : (world.claim index key owner ttlMs).2 = {
      world with
      claims := world.claims.put key ⟨owner, world.now + ttlMs⟩
      holders := Function.update world.holders key (some index)
      claimed := Function.update world.claimed index (some (key, world.now + ttlMs)) } := by
    rw [World.claim, InMemoryClaimStore.claim_eq, if_neg free]
    rfl
  rw [wins]
  constructor
  · intro caller stage other ownerToo atCaller holds
    rcases stage_of_set atCaller with ⟨rfl, rfl⟩ | ⟨differs, before⟩
    · rcases isNext with rfl | rfl
      · cases holds
        refine ⟨world.now + ttlMs, Function.update_self _ _ _, ?_⟩
        intro _
        refine ⟨Function.update_self _ _ _, ?_⟩
        change (world.claims.put key _).map.get? key = _
        rw [InMemoryClaimStore.get?_put, if_pos rfl]
      · cases holds
    · rcases own.owns caller stage other ownerToo before holds with ⟨expiresAt, claimed, owns⟩
      refine ⟨expiresAt, ?_, ?_⟩
      · exact (Function.update_of_ne differs _ _).trans claimed
      · intro unexpired
        rcases owns unexpired with ⟨holder, record⟩
        have otherKey : other ≠ key := by
          rintro rfl
          apply free
          rw [InMemoryClaimStore.get, record]
          simp [not_le.mpr unexpired]
        refine ⟨(Function.update_of_ne otherKey _ _).trans holder, ?_⟩
        change (world.claims.put key _).map.get? other = _
        rw [InMemoryClaimStore.get?_put, if_neg otherKey, record]
  · intro caller other ownerToo expiresAt atCaller claimed unexpired
    rcases stage_of_set atCaller with ⟨_, same⟩ | ⟨differs, before⟩
    · rcases isNext with rfl | rfl <;> cases same
    · have claimedBefore := (Function.update_of_ne differs _ _).symm.trans claimed
      exact own.failed caller other ownerToo expiresAt before claimedBefore unexpired

theorem ownClaims_answer (own : OwnClaims world stages) {phase : CallPhase} {request : Request}
    {reply : Reply} (waits : stages[index]? = some ⟨phase, true⟩) (allowed : phase.allows request)
    (timely : Timely world (.answered index request reply)) :
    OwnClaims (world.answer index request reply).1
      (stages.set index ⟨phase.next request (world.answer index request reply).2, false⟩) := by
  cases phase with
  | settled => cases request <;> cases allowed
  | idle =>
      cases request with
      | release | add | chainCheck | verdictFor | submit | record | notify => cases allowed
      | claim key owner ttlMs =>
          rw [World.answer]
          by_cases taken : (world.claims.get world.now key).isSome
          · have loses : world.claim index key owner ttlMs = (false, world) := by
              rw [World.claim, InMemoryClaimStore.claim_eq, if_pos taken]
              rfl
            rw [loses]
            cases reply.respond (.claim key owner ttlMs) with
            | ok _ => exact own.settled index
            | error failure => cases reply.carriedOut <;> exact own.settled index
          · have wins : (world.claim index key owner ttlMs).1 = true := by
              rw [World.claim, InMemoryClaimStore.claim_eq, if_neg taken]
              rfl
            rw [wins]
            cases reply.respond (.claim key owner ttlMs) with
            | ok _ => exact own.claims taken (Or.inl rfl)
            | error failure =>
                cases reply.carriedOut with
                | true => exact own.claims taken (Or.inr rfl)
                | false => exact own.settled index
  | won key owner =>
      cases request with
      | claim | release | add | verdictFor | submit | record | notify => cases allowed
      | chainCheck windowStartLedger =>
          change OwnClaims world (stages.set index
            ⟨CallPhase.next _ _ (reply.respond (.chainCheck windowStartLedger)), false⟩)
          cases found : reply.respond (.chainCheck windowStartLedger) with
          | error failure => exact own.settled index
          | ok executed =>
              cases executed with
              | true => exact own.checks waits rfl fun absurd => by cases absurd
              | false =>
                  apply own.checks waits rfl
                  intro _
                  rcases own.owns index _ key owner waits rfl with ⟨expiresAt, claimed, _⟩
                  exact timely found _ claimed
  | checked key owner =>
      cases request with
      | claim | release | add | verdictFor | chainCheck | record | notify => cases allowed
      | submit submission =>
          rw [World.answer]
          cases reply.respond (.submit submission) with
          | ok _ => exact own.settled index
          | error failure => exact (own.failedCaller index).settled index
  | executed key owner =>
      cases request with
      | claim | submit | add | verdictFor | chainCheck | record | notify => cases allowed
      | release released by' =>
          rcases allowed with ⟨rfl, rfl⟩
          rw [World.answer]
          cases reply.respond (.release released (some owner)) with
          | ok _ => exact own.releases timely
          | error failure =>
              cases reply.carriedOut with
              | true => exact own.releases timely
              | false => exact own.settled index

theorem ownClaims_step {step : Step} {later : List (Stage CallPhase)}
    (own : OwnClaims world stages) (timely : Timely world step)
    (taken : StageStep callProtocol setting .idle world stages step later) :
    OwnClaims (setting.act world step) later := by
  cases taken with
  | called =>
      constructor
      · intro caller stage key owner atCaller holds
        rw [List.getElem?_append] at atCaller
        split at atCaller
        · exact own.owns caller stage key owner atCaller holds
        · rw [List.mem_singleton.mp (List.mem_of_getElem? atCaller)] at holds
          cases holds
      · intro caller key owner expiresAt atCaller
        rw [List.getElem?_append] at atCaller
        split at atCaller
        · exact own.failed caller key owner expiresAt atCaller
        · cases List.mem_singleton.mp (List.mem_of_getElem? atCaller)
  | ended running => exact own.waits running
  | @made index phase request running allowed =>
      cases request with
      | submit submission =>
          cases phase with
          | checked key owner => exact own.submits running allowed timely
          | idle | won | executed | settled => cases allowed
      | claim | release | add | verdictFor | chainCheck | record | notify =>
          exact own.waits running
  | @answered index phase request reply waits allowed =>
      exact ownClaims_answer own waits allowed timely
  | changed ms =>
      have later : ∀ {expiresAt : Int}, world.now + ms < expiresAt → world.now < expiresAt := by
        intro expiresAt before
        omega
      constructor
      · intro caller stage key owner atCaller holds
        rcases own.owns caller stage key owner atCaller holds with ⟨expiresAt, claimed, owns⟩
        exact ⟨expiresAt, claimed, fun unexpired => owns (later unexpired)⟩
      · intro caller key owner expiresAt atCaller claimed unexpired
        exact own.failed caller key owner expiresAt atCaller claimed (later unexpired)

end Steps

/-! ## Runs -/

/-- Every call is one of `claimThenSubmit`. -/
def Callers (events : List Event) : Prop :=
  ∀ program, .call program ∈ events → ∃ caller : Caller, program = caller.program

/-- The caller starts `submitFn` for the key. -/
def Starts (current : Parties) (event : Event) (caller : Nat) (key : FireKey) : Prop :=
  ∃ next, current.step setting event = some (.made caller (.submit (.fire key)), next)

def World.HoldsClaim (world : World) (caller : Nat) (key : FireKey) : Prop :=
  world.holders (fireKeyToString key) = some caller ∧
    (world.claims.get world.now (fireKeyToString key)).isSome

def StartsSafely (current : Parties) (event : Event) (_ : Parties) : Prop :=
  ∀ caller key, Starts current event caller key →
    (∀ entry ∈ current.world.submissions, entry.submission = .fire key → entry.failed = true) ∧
      current.world.HoldsClaim caller key

theorem startsSafely_of_own {current next : Parties} {event : Event}
    {stages : List (Stage CallPhase)} (own : OwnClaims current.world stages)
    (matching : List.Forall₂ (InStage callProtocol) current.processes stages)
    (starts : ∀ program, event = .call program →
      Keeps callProtocol (fun _ _ => True) .idle program)
    (moves : Ensemble.Moves setting Timely current event next) :
    StartsSafely current event next := by
  intro caller key ⟨after, submits⟩
  rcases moves with ⟨step, taken, timely⟩
  rw [taken, Option.some.injEq] at submits
  cases submits
  rcases stageStep_of_step starts matching taken with ⟨later, seen, _⟩
  cases seen with
  | @made _ phase _ running allowed =>
      cases phase with
      | idle | won | executed | settled => cases allowed
      | checked text owner =>
          have isText : fireKeyToString key = text := Option.some.inj allowed
          rcases own.owns caller _ text owner running rfl with ⟨expiresAt, claimed, owns⟩
          have unexpired : current.world.now < expiresAt := timely _ claimed
          have failed := own.failed caller text owner expiresAt running claimed unexpired
          rcases owns unexpired with ⟨holder, record⟩
          rw [World.HoldsClaim, isText, InMemoryClaimStore.get, record]
          refine ⟨?_, holder, ?_⟩
          · intro entry member isFire
            exact failed entry member (by rw [isFire, Submission.keyText, isText])
          · simp [not_le.mpr unexpired]

theorem ownClaims_initial (now : Int) : OwnClaims (World.initial now) [] where
  owns := by
    intro caller stage key owner atCaller
    cases atCaller
  failed := by
    intro caller key owner expiresAt atCaller
    cases atCaller

/-- In every run of callers in which the answers from the chain come in time and find what was
submitted, each submission is started safely. -/
theorem submits_once {now : Int} {events : List Event} (callers : Callers events) :
    Throughout (Ensemble.Moves setting Timely) (Parties.initial now) events StartsSafely := by
  intro front event back current next split trace moves
  have starts : ∀ program, .call program ∈ events →
      Keeps callProtocol (fun _ _ => True) .idle program := by
    intro program member
    rcases callers program member with ⟨caller, rfl⟩
    exact keeps_caller caller
  have kept : ∀ world stages step later, OwnClaims world stages → Timely world step →
      StageStep callProtocol setting .idle world stages step later →
        OwnClaims (setting.act world step) later :=
    fun world stages step later own timely taken => ownClaims_step own timely taken
  rw [split] at starts
  have before : ∀ program, .call program ∈ front →
      Keeps callProtocol (fun _ _ => True) .idle program :=
    fun program member => starts program (List.mem_append_left _ member)
  rcases Ensemble.invariant kept before trace .nil (ownClaims_initial now) with
    ⟨stages, matching, own⟩
  apply startsSafely_of_own own matching _ moves
  rintro program rfl
  exact starts program (List.mem_append_right _ List.mem_cons_self)

/-! ## A check that outlasts the claim -/

def exampleRacer (ownerId : String) : Caller where
  key := ⟨js "w", 5⟩
  ownerId := js ownerId
  claimTtlMs := 5
  positive := Nat.succ_pos 4

def slowCheck (ms : Nat) : List Event :=
  [.call (exampleRacer "a").program, .resume 0, .answer 0 exampleReply, .resume 0, .change ms,
    .call (exampleRacer "b").program, .resume 1, .answer 1 exampleReply, .resume 1]

def takesOver : List Event :=
  [.answer 1 exampleReply, .resume 1, .answer 0 exampleReply]

theorem callers_slowCheck (ms : Nat) (rest : List Event)
    (noCalls : ∀ program, .call program ∉ rest) : Callers (slowCheck ms ++ rest) := by
  intro program member
  rcases List.mem_append.mp member with inFront | inRest
  · simp only [slowCheck, List.mem_cons, List.not_mem_nil, or_false, false_or,
      Ensemble.Event.call.injEq, reduceCtorEq] at inFront
    rcases inFront with rfl | rfl
    · exact ⟨exampleRacer "a", rfl⟩
    · exact ⟨exampleRacer "b", rfl⟩
  · exact absurd inRest (noCalls program)

/-- The first caller submits ten milliseconds after its claim, which the other one has taken
over. -/
theorem submits_without_claim :
    ¬ ∀ (now : Int) (events : List Event), Callers events →
      Throughout (Ensemble.Moves setting Anyhow) (Parties.initial now) events StartsSafely := by
  intro safe
  have runs : ∃ current next,
      runEvents (Ensemble.guardedStep setting Anyhow) (Parties.initial 0)
        (slowCheck 10 ++ takesOver) = some current ∧
      current.step setting (.resume 0) = some (.made 0 (.submit (.fire ⟨js "w", 5⟩)), next) ∧
      current.world.submissions = [⟨1, .fire ⟨js "w", 5⟩, false⟩] :=
    ⟨_, _, rfl, rfl, rfl⟩
  rcases runs with ⟨current, next, run, submits, submissions⟩
  have callers : Callers (slowCheck 10 ++ (takesOver ++ [.resume 0])) := by
    apply callers_slowCheck
    simp [takesOver]
  have started := safe 0 _ callers (slowCheck 10 ++ takesOver) (.resume 0) [] current next
    (List.append_assoc _ _ _).symm (Ensemble.trace_of_run setting run)
    ⟨_, submits, trivial⟩ 0 ⟨js "w", 5⟩ ⟨next, submits⟩
  have failed := started.1 ⟨1, .fire ⟨js "w", 5⟩, false⟩
    (by rw [submissions]; exact List.mem_cons_self) rfl
  cases failed

/-- Three milliseconds later the other caller finds the key claimed. -/
theorem submits_in_time :
    (∃ current next,
      runEvents (Ensemble.guardedStep setting Timely) (Parties.initial 0)
        (slowCheck 3 ++ [.answer 0 exampleReply]) = some current ∧
      current.step setting (.resume 0) =
        some (.made 0 (.submit (.fire ⟨js "w", 5⟩)), next)) ∧
    Throughout (Ensemble.Moves setting Timely) (Parties.initial 0)
      (slowCheck 3 ++ [.answer 0 exampleReply, .resume 0]) StartsSafely := by
  constructor
  · exact ⟨_, _, rfl, rfl⟩
  · apply submits_once
    apply callers_slowCheck
    simp

end Orbital.WorkerCore.Fires
