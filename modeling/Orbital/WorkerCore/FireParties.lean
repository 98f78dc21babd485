import Orbital.Foundation.Protocol
import Orbital.WorkerCore.Idempotency

/-! # `worker-core/src/backstop/BackstopWatcher.ts`

The watcher that fires the fallback for a window that the primary has missed, and the claim
stores in `eventTrigger.ts` that it shares with the primary.
-/

namespace Orbital.WorkerCore.Backstop

open Foundation
open EventTrigger (FireDecision)
open Idempotency (ClaimStore)

/-! ## `windowVerdict.ts` and `intervention.ts` -/

inductive WindowOutcome
  | notDue
  | fired
  | late
  | missed
  | unverifiable
  | pending
  deriving DecidableEq

inductive WindowOutcomeReason
  | rejectedEarlyCall
  | preconditionSatisfied
  | beforeActivation
  | conditionRecurredInWindow
  | missingLedger
  | decodeUnavailable
  | specNotLedgerVersioned
  | noAttestation
  | attestationInvalid
  deriving DecidableEq

structure WindowVerdict where
  windowId : JsString
  workerId : JsString
  verdict : WindowOutcome
  conditionLedger : Int
  deadlineLedger : Int
  firedLedger : Option Int
  latencyLedgers : Option Int
  reason : Option WindowOutcomeReason
  deriving DecidableEq

inductive InterventionCause
  | primaryMissed
  deriving DecidableEq

structure Intervention where
  windowId : JsString
  workerId : JsString
  subscriptionId : JsString
  cause : InterventionCause
  verdict : WindowVerdict
  decidedAtLedger : Int
  primaryDeadlineLedger : Int
  graceLedgers : Int
  deriving DecidableEq

section Stores

variable {State Request : Type} {Response : Request → Type} {Failure : Type}

/-- `FireClaimStore`, by the method that is called. -/
structure FireClaimStore (State : Type) {Request : Type} (Response : Request → Type)
    (Failure : Type) where
  claim : JsString → Async State Response Failure Bool

/-- Windows that were claimed. -/
structure InMemoryFireClaimStore where
  claimed : List JsString

def InMemoryFireClaimStore.claim (store : InMemoryFireClaimStore) (windowId : JsString) :
    Bool × InMemoryFireClaimStore :=
  if windowId ∈ store.claimed then (false, store) else (true, ⟨store.claimed ++ [windowId]⟩)

/-- The constructor throws without an owner and for any other duration. -/
structure ClaimStoreFireClaims (State : Type) {Request : Type} (Response : Request → Type)
    (Failure : Type) where
  store : ClaimStore State Response Failure
  ownerId : JsString
  claimTtlMs : Nat
  positive : 0 < claimTtlMs
  owned : ownerId ≠ []

def ClaimStoreFireClaims.toFireClaimStore
    (claims : ClaimStoreFireClaims State Response Failure) :
    FireClaimStore State Response Failure where
  claim := fun windowId => claims.store.claim windowId claims.ownerId claims.claimTtlMs

end Stores

/-! ## The watcher -/

structure WatchedSubscription where
  subscriptionId : JsString
  graceLedgers : Int
  deriving DecidableEq

inductive BackstopOutcome (Failure : Type)
  | waiting (windowId : JsString) (firesAtLedger : Int)
  | noIntervention (windowId : JsString) (verdict : WindowVerdict)
  | primaryWon (windowId : JsString)
  | intervened (windowId : JsString) (intervention : Intervention)
  | submissionFailed (windowId : JsString) (error : Failure)

structure BackstopStats where
  windowsWatched : Nat
  windowsWaiting : Nat
  windowsNoIntervention : Nat
  windowsPrimaryWon : Nat
  interventions : Nat
  submissionFailures : Nat
  deriving DecidableEq

abbrev Memory :=
  Nat → BackstopStats

variable {Request : Type} {Response : Request → Type} {Failure : Type}

structure BackstopDeps {Request : Type} (Response : Request → Type) (Failure : Type) where
  verdictFor : JsString → Int → Async Memory Response Failure (Option WindowVerdict)
  claims : FireClaimStore Memory Response Failure
  submit : FireDecision → Async Memory Response Failure Unit
  record : Intervention → Async Memory Response Failure Unit
  notify : Option (Intervention → Async Memory Response Failure Unit)

structure BackstopWatcher {Request : Type} (Response : Request → Type) (Failure : Type) where
  this : Nat
  subscription : WatchedSubscription
  deps : BackstopDeps Response Failure

namespace BackstopWatcher

variable (watcher : BackstopWatcher Response Failure)

def count (change : BackstopStats → BackstopStats) : Async Memory Response Failure Unit :=
  Async.modify fun stats => Function.update stats watcher.this (change (stats watcher.this))

/-- What is reported for a window that verification does not know. -/
def unknownVerdict (decision : FireDecision) : WindowVerdict where
  windowId := decision.windowId
  workerId := decision.workerId
  verdict := .unverifiable
  conditionLedger := decision.conditionLedger
  deadlineLedger := decision.deadlineLedger
  firedLedger := none
  latencyLedgers := none
  reason := none

def intervention (decision : FireDecision) (verdict : WindowVerdict) (currentLedger : Int) :
    Intervention where
  windowId := decision.windowId
  workerId := decision.workerId
  subscriptionId := watcher.subscription.subscriptionId
  cause := .primaryMissed
  verdict
  decidedAtLedger := currentLedger
  primaryDeadlineLedger := decision.deadlineLedger
  graceLedgers := watcher.subscription.graceLedgers

def notifySubscriber (intervention : Intervention) : Async Memory Response Failure Unit :=
  match watcher.deps.notify with
  | some notify => (notify intervention).orElse fun _ => return ()
  | none => return ()

/-- The end of `evaluate`, once the claim is won. -/
def intervene (decision : FireDecision) (intervention : Intervention) :
    Async Memory Response Failure (BackstopOutcome Failure) := do
  match ← (watcher.deps.submit decision).attempt with
  | .error cause =>
      watcher.count fun stats => { stats with submissionFailures := stats.submissionFailures + 1 }
      watcher.deps.record intervention
      return .submissionFailed decision.windowId cause
  | .ok () =>
      watcher.deps.record intervention
      watcher.count fun stats => { stats with interventions := stats.interventions + 1 }
      watcher.notifySubscriber intervention
      return .intervened decision.windowId intervention

/-- The part of `evaluate` from the claim on. -/
def claimAndIntervene (decision : FireDecision) (verdict : WindowVerdict) (currentLedger : Int) :
    Async Memory Response Failure (BackstopOutcome Failure) := do
  let won ← watcher.deps.claims.claim decision.windowId
  if won then watcher.intervene decision (watcher.intervention decision verdict currentLedger)
  else
    watcher.count fun stats => { stats with windowsPrimaryWon := stats.windowsPrimaryWon + 1 }
    return .primaryWon decision.windowId

/-- The part of `evaluate` that stands down without a definite miss. -/
def standDown (decision : FireDecision) (verdict : WindowVerdict) :
    Async Memory Response Failure (BackstopOutcome Failure) := do
  watcher.count fun stats =>
    { stats with windowsNoIntervention := stats.windowsNoIntervention + 1 }
  return .noIntervention decision.windowId verdict

def evaluate (decision : FireDecision) (currentLedger : Int) :
    Async Memory Response Failure (BackstopOutcome Failure) := do
  watcher.count fun stats => { stats with windowsWatched := stats.windowsWatched + 1 }
  let firesAtLedger := decision.deadlineLedger + watcher.subscription.graceLedgers
  if currentLedger ≤ firesAtLedger then
    watcher.count fun stats => { stats with windowsWaiting := stats.windowsWaiting + 1 }
    return .waiting decision.windowId firesAtLedger
  else
    match ← watcher.deps.verdictFor decision.windowId currentLedger with
    | none => watcher.standDown decision (unknownVerdict decision)
    | some verdict =>
        if verdict.verdict = .missed then
          watcher.claimAndIntervene decision verdict currentLedger
        else watcher.standDown decision verdict

end BackstopWatcher

end Orbital.WorkerCore.Backstop

/-! ## Parties that fire over one claim store

Managers, primaries and watchers side by side, each in one call. The stores carry out what
they are asked; chain checks, verdicts and submissions are answered elsewhere, as late as
may be. A request to a store may fail as well, before or after it was carried out.
-/

namespace Orbital.WorkerCore.Fires

open Foundation Foundation.Async
open EventTrigger (FireDecision)
open Idempotency
open Backstop

/-! ## Requests -/

inductive Submission
  | fire (key : FireKey)
  | window (decision : FireDecision)
  deriving DecidableEq

inductive Request
  | claim (key owner : JsString) (ttlMs : Nat)
  | release (key : JsString) (owner : Option JsString)
  | add (windowId : JsString)
  | chainCheck (windowStartLedger : Int)
  | verdictFor (windowId : JsString) (atLedger : Int)
  | submit (submission : Submission)
  | record (intervention : Intervention)
  | notify (intervention : Intervention)

abbrev Response : Request → Type
  | .claim _ _ _ | .add _ | .chainCheck _ => Bool
  | .verdictFor _ _ => Option WindowVerdict
  | .release _ _ | .submit _ | .record _ | .notify _ => Unit

abbrev Failure := JsString

/-! ## The world -/

structure SubmissionRecord where
  caller : Nat
  submission : Submission
  failed : Bool
  deriving DecidableEq

structure World where
  now : Int
  claims : InMemoryClaimStore
  fires : InMemoryFireClaimStore
  holders : JsString → Option Nat
  claimed : Nat → Option (JsString × Int)
  submissions : List SubmissionRecord

structure Reply where
  /-- A store that fails has carried out the request. -/
  carriedOut : Bool
  respond : (request : Request) → Except Failure (Response request)

namespace World

def initial (now : Int) : World where
  now
  claims := .empty
  fires := ⟨[]⟩
  holders := fun _ => none
  claimed := fun _ => none
  submissions := []

def claim (world : World) (caller : Nat) (key owner : JsString) (ttlMs : Nat) : Bool × World :=
  let answer := world.claims.claim world.now key owner ttlMs
  if answer.1 then
    (true, {
      world with
      claims := answer.2
      holders := Function.update world.holders key (some caller)
      claimed := Function.update world.claimed caller (some (key, world.now + ttlMs)) })
  else (false, world)

def release (world : World) (key : JsString) (owner : Option JsString) : World :=
  { world with claims := world.claims.release key owner }

def add (world : World) (windowId : JsString) : Bool × World :=
  let answer := world.fires.claim windowId
  (answer.1, { world with fires := answer.2 })

def failed (world : World) (caller : Nat) : World :=
  { world with
    submissions := world.submissions.map fun entry =>
      if entry.caller = caller then { entry with failed := true } else entry }

def stored (world next : World) (value : Value) (carriedOut : Bool) :
    Except Failure Value → World × Except Failure Value
  | .ok _ => (next, .ok value)
  | .error failure => (if carriedOut then next else world, .error failure)

def answer (world : World) (caller : Nat) :
    (request : Request) → Reply → World × Except Failure (Response request)
  | .claim key owner ttlMs, reply =>
      let answer := world.claim caller key owner ttlMs
      world.stored answer.2 answer.1 reply.carriedOut (reply.respond (.claim key owner ttlMs))
  | .release key owner, reply =>
      world.stored (world.release key owner) () reply.carriedOut
        (reply.respond (.release key owner))
  | .add windowId, reply =>
      let answer := world.add windowId
      world.stored answer.2 answer.1 reply.carriedOut (reply.respond (.add windowId))
  | .submit submission, reply =>
      match reply.respond (.submit submission) with
      | .ok () => (world, .ok ())
      | .error failure => (world.failed caller, .error failure)
  | request, reply => (world, reply.respond request)

def made (world : World) (caller : Nat) : Request → World
  | .submit submission =>
      { world with submissions := world.submissions ++ [⟨caller, submission, false⟩] }
  | _ => world

def wait (world : World) (ms : Nat) : World :=
  { world with now := world.now + ms }

end World

def setting : Setting World Reply Nat Response Failure where
  made := World.made
  answer := World.answer
  changed := World.wait

/-! ## The parties -/

inductive Result
  | submitted (submitted : Bool)
  | evaluated (outcome : BackstopOutcome Failure)

abbrev Program (Value : Type) :=
  Async Memory Response Failure Value

def ask (request : Request) : Program (Response request) :=
  call request

def claimStore : ClaimStore Memory Response Failure where
  claim := fun key owner ttlMs => ask (.claim key owner ttlMs)
  release := fun key owner => ask (.release key owner)

structure Caller where
  key : FireKey
  ownerId : JsString
  claimTtlMs : Nat
  positive : 0 < claimTtlMs

def Caller.manager (caller : Caller) : IdempotencyManager Memory Response Failure where
  store := claimStore
  chainCheck := fun windowStartLedger => ask (.chainCheck windowStartLedger)
  claimTtlMs := caller.claimTtlMs
  positive := caller.positive

def Caller.program (caller : Caller) : Program Result :=
  (caller.manager.claimThenSubmit caller.key caller.ownerId
    (ask (.submit (.fire caller.key)))).bind fun submitted => .done (.submitted submitted)

/-- The fire claims of a party: the windows in memory, or claims of its own in the store. -/
inductive FireClaims
  | inMemory
  | expiring (ownerId : JsString) (claimTtlMs : Nat) (positive : 0 < claimTtlMs)
      (owned : ownerId ≠ [])

def FireClaims.store : FireClaims → FireClaimStore Memory Response Failure
  | .inMemory => { claim := fun windowId => ask (.add windowId) }
  | .expiring ownerId claimTtlMs positive owned =>
      { store := claimStore, ownerId, claimTtlMs, positive, owned :
        ClaimStoreFireClaims Memory Response Failure }.toFireClaimStore

/-- A primary that claims a window and submits if it has won, or a call of `evaluate`. -/
inductive Party
  | primary (claims : FireClaims) (decision : FireDecision)
  | watcher (this : Nat) (subscription : WatchedSubscription) (notifies : Bool)
      (claims : FireClaims) (decision : FireDecision) (currentLedger : Int)

def fireWindow (claims : FireClaims) (decision : FireDecision) : Program Bool := do
  let won ← claims.store.claim decision.windowId
  if won then
    ask (.submit (.window decision))
    return true
  else return false

def watcherOf (this : Nat) (subscription : WatchedSubscription) (notifies : Bool)
    (claims : FireClaims) : BackstopWatcher Response Failure where
  this
  subscription
  deps := {
    verdictFor := fun windowId atLedger => ask (.verdictFor windowId atLedger)
    claims := claims.store
    submit := fun decision => ask (.submit (.window decision))
    record := fun intervention => ask (.record intervention)
    notify := if notifies then some fun intervention => ask (.notify intervention) else none }

namespace Party

def claims : Party → FireClaims
  | .primary claims _ => claims
  | .watcher _ _ _ claims _ _ => claims

def program : Party → Program Result
  | .primary claims decision =>
      (fireWindow claims decision).bind fun submitted => .done (.submitted submitted)
  | .watcher this subscription notifies claims decision currentLedger =>
      ((watcherOf this subscription notifies claims).evaluate decision currentLedger).bind
        fun outcome => .done (.evaluated outcome)

end Party

abbrev Parties := Ensemble World Memory Response Failure Result

abbrev Event := Ensemble.Event Reply Nat Memory Response Failure Result

abbrev Step := Action Reply Nat Request

def Parties.initial (now : Int) : Parties where
  world := .initial now
  state := fun _ => ⟨0, 0, 0, 0, 0, 0⟩
  processes := []

end Orbital.WorkerCore.Fires
