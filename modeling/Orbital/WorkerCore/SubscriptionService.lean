import Orbital.Foundation.Machine
import Orbital.Foundation.NumberText
import Orbital.Foundation.Trace

/-! # `worker-core/src/subscription/SubscriptionService.ts`

The changes of one subscription. Each reads the record from a store, and puts the changed
record into it some time later.
-/

namespace Orbital.WorkerCore.SubscriptionService

open Foundation

inductive SubscriptionStatus
  | active
  | paused
  | cancelled
  deriving DecidableEq

def SubscriptionStatus.text : SubscriptionStatus → JsString
  | active => js "active"
  | paused => js "paused"
  | cancelled => js "cancelled"

/-! ## Tiers -/

inductive SubscriptionTier
  | timeInsensitive
  | latencySensitive
  deriving DecidableEq

namespace SubscriptionTier

def text : SubscriptionTier → JsString
  | timeInsensitive => js "time-insensitive"
  | latencySensitive => js "latency-sensitive"

def latencySensitiveEnabled : Bool :=
  false

def registrable : SubscriptionTier → Bool
  | timeInsensitive => true
  | latencySensitive => latencySensitiveEnabled

def enabledBy : SubscriptionTier → JsString
  | timeInsensitive => js "21.3"
  | latencySensitive => js "22.4"

end SubscriptionTier

/-! ## Records -/

inductive SubscriptionAction
  | create
  | pause
  | resume
  | cancel
  | changeTier
  deriving DecidableEq

def SubscriptionAction.text : SubscriptionAction → JsString
  | create => js "create"
  | pause => js "pause"
  | resume => js "resume"
  | cancel => js "cancel"
  | changeTier => js "change-tier"

structure SubscriptionAuditEntry where
  action : SubscriptionAction
  version : Nat
  tier : SubscriptionTier
  time : Int
  previous : Option SubscriptionStatus
  next : SubscriptionStatus
  window : Int
  reason : Option JsString
  deriving DecidableEq

structure SubscriptionRecord where
  id : JsString
  version : Nat
  subscriber : JsString
  offering : JsString
  webhookTarget : JsString
  tier : SubscriptionTier
  status : SubscriptionStatus
  createdAt : Int
  updatedAt : Int
  cancelEffectiveWindow : Option Int
  audit : List SubscriptionAuditEntry
  deriving DecidableEq

inductive SubscriptionErrorCode
  | notFound
  | alreadyCancelled
  | invalidTransition
  | tierNotRegistrable
  deriving DecidableEq

structure SubscriptionError where
  code : SubscriptionErrorCode
  message : JsString
  deriving DecidableEq

/-! ## The changes -/

structure Circumstances where
  time : Int
  window : Int
  reason : Option JsString
  deriving DecidableEq

def entry (action : SubscriptionAction) (previous : Option SubscriptionStatus)
    (next : SubscriptionStatus) (version : Nat) (tier : SubscriptionTier)
    (circumstances : Circumstances) : SubscriptionAuditEntry where
  action := action
  version := version
  tier := tier
  time := circumstances.time
  previous := previous
  next := next
  window := circumstances.window
  -- An empty reason is left out, as a missing one is.
  reason := circumstances.reason.filter fun reason => reason ≠ []

def notFound (id : JsString) : SubscriptionError :=
  ⟨.notFound, js "subscription " ++ id ++ js " not found"⟩

def alreadyCancelled (id : JsString) : SubscriptionError :=
  ⟨.alreadyCancelled,
    js "subscription " ++ id ++ js " is cancelled; cancellation is terminal"⟩

def assertRegistrable (tier : SubscriptionTier) : Except SubscriptionError Unit :=
  if tier.registrable then .ok ()
  else .error ⟨.tierNotRegistrable,
    js "tier \"" ++ tier.text ++ js "\" is defined but not registrable: it is enabled by " ++
      tier.enabledBy ++ js ", once the infrastructure exists to keep the guarantee it sells"⟩

/-- What `transition` puts, from the record it got. -/
def transition (id : JsString) (action : SubscriptionAction) (next : SubscriptionStatus)
    (allowedFrom : List SubscriptionStatus) (circumstances : Circumstances)
    (current : SubscriptionRecord) : Except SubscriptionError SubscriptionRecord :=
  if current.status = .cancelled then .error (alreadyCancelled id)
  else if current.status ∉ allowedFrom then
    .error ⟨.invalidTransition, js "cannot " ++ action.text ++
      js " a subscription in state \"" ++ current.status.text ++ js "\""⟩
  else .ok { current with
    status := next
    updatedAt := circumstances.time
    cancelEffectiveWindow :=
      if next = .cancelled then some (circumstances.window + 1) else current.cancelEffectiveWindow
    audit := current.audit ++
      [entry action (some current.status) next current.version current.tier circumstances] }

/-- What `changeTier` puts, from the record it got. -/
def changeTier (id : JsString) (tier : SubscriptionTier) (circumstances : Circumstances)
    (current : SubscriptionRecord) : Except SubscriptionError SubscriptionRecord :=
  if current.status = .cancelled then .error (alreadyCancelled id)
  else
    match assertRegistrable tier with
    | .error error => .error error
    | .ok () =>
        if tier = current.tier then
          .error ⟨.invalidTransition,
            js "subscription " ++ id ++ js " is already on tier \"" ++ tier.text ++ js "\""⟩
        else .ok { current with
          tier := tier
          version := current.version + 1
          updatedAt := circumstances.time
          audit := current.audit ++ [entry .changeTier (some current.status) current.status
            (current.version + 1) tier circumstances] }

inductive Operation
  | pause
  | resume
  | cancel
  | changeTier (tier : SubscriptionTier)
  deriving DecidableEq

structure Request where
  operation : Operation
  circumstances : Circumstances
  deriving DecidableEq

def update (id : JsString) (request : Request) (current : SubscriptionRecord) :
    Except SubscriptionError SubscriptionRecord :=
  match request.operation with
  | .pause => transition id .pause .paused [.active] request.circumstances current
  | .resume => transition id .resume .active [.paused] request.circumstances current
  | .cancel => transition id .cancel .cancelled [.active, .paused] request.circumstances current
  | .changeTier tier => changeTier id tier request.circumstances current

def machine (id : JsString) :
    Machine (Option SubscriptionRecord) Request (Except SubscriptionError SubscriptionRecord) where
  step stored request :=
    match stored with
    | none => (.error (notFound id), none)
    | some current =>
        match update id request current with
        | .error error => (.error error, some current)
        | .ok updated => (.ok updated, some updated)

/-! ## Overlapping requests -/

/-- Where a request is. The record it has read is kept until its own is in the store. -/
inductive RequestPhase
  | getting
  | putting (current updated : SubscriptionRecord)
  | done (answer : Except SubscriptionError SubscriptionRecord)

def RequestPhase.answer? : RequestPhase → Option (Except SubscriptionError SubscriptionRecord)
  | .done answer => some answer
  | _ => none

structure Store where
  stored : Option SubscriptionRecord
  requests : List (Request × RequestPhase)

namespace Store

variable (store : Store)

def holding (stored : Option SubscriptionRecord) : Store where
  stored := stored
  requests := []

def goes (index : Nat) (request : Request) (phase : RequestPhase) : Store :=
  { store with requests := store.requests.set index (request, phase) }

/-- What a request does with the record that `get` finds. -/
def got (id : JsString) (request : Request) : RequestPhase :=
  match store.stored with
  | none => .done (.error (notFound id))
  | some current =>
      match update id request current with
      | .error error => .done (.error error)
      | .ok updated => .putting current updated

inductive Event
  | start (request : Request)
  | proceed (index : Nat)

def proceed (id : JsString) (index : Nat) (request : Request) : RequestPhase → Option Store
  | .getting => some (store.goes index request (store.got id request))
  | .putting _ updated =>
      some ({ store with stored := some updated }.goes index request (.done (.ok updated)))
  | .done _ => none

def step (id : JsString) (store : Store) : Event → Option Store
  | .start request => some { store with requests := store.requests ++ [(request, .getting)] }
  | .proceed index =>
      store.requests[index]?.bind fun request => store.proceed id index request.1 request.2

/-- A record is put while the store still has the one that was read for it. -/
def Ready : RequestPhase → Prop
  | .putting current _ => store.stored = some current
  | _ => True

instance : (phase : RequestPhase) → Decidable (store.Ready phase)
  | .putting current _ => inferInstanceAs (Decidable (store.stored = some current))
  | .getting | .done _ => isTrue trivial

def Unchanged : Event → Prop
  | .start _ => True
  | .proceed index => ∀ request ∈ store.requests[index]?, store.Ready request.2

instance : (event : Event) → Decidable (store.Unchanged event)
  | .start _ => isTrue trivial
  | .proceed index =>
      inferInstanceAs (Decidable (∀ request ∈ store.requests[index]?, store.Ready request.2))

end Store

end Orbital.WorkerCore.SubscriptionService

/-! ## Overlapping changes of one subscription

A change that finds the record it has read still in the store takes effect where it is put.
-/

namespace Orbital.WorkerCore.SubscriptionService

open Foundation

variable {id : JsString} {request : Request} {current updated : SubscriptionRecord}

/-! ## One change -/

def Operation.action : Operation → SubscriptionAction
  | .pause => .pause
  | .resume => .resume
  | .cancel => .cancel
  | .changeTier _ => .changeTier

structure Changes (request : Request) (current updated : SubscriptionRecord) : Prop where
  alive : current.status ≠ .cancelled
  audit : ∃ entry, entry.action = request.operation.action ∧
    entry.time = request.circumstances.time ∧ updated.audit = current.audit ++ [entry]
  cancels : request.operation = .cancel → updated.status = .cancelled

variable {circumstances : Circumstances}

theorem transition_eq_ok {action : SubscriptionAction} {next : SubscriptionStatus}
    {allowedFrom : List SubscriptionStatus}
    (succeeds : transition id action next allowedFrom circumstances current = .ok updated) :
    current.status ≠ .cancelled ∧ updated.status = next ∧
      updated.audit = current.audit ++
        [entry action (some current.status) next current.version current.tier circumstances] := by
  rw [transition] at succeeds
  split at succeeds
  · cases succeeds
  · rename_i alive
    split at succeeds
    · cases succeeds
    · cases succeeds
      exact ⟨alive, rfl, rfl⟩

theorem changeTier_eq_ok {tier : SubscriptionTier}
    (succeeds : changeTier id tier circumstances current = .ok updated) :
    current.status ≠ .cancelled ∧
      updated.audit = current.audit ++ [entry .changeTier (some current.status) current.status
        (current.version + 1) tier circumstances] := by
  rw [changeTier] at succeeds
  split at succeeds
  · cases succeeds
  · rename_i alive
    split at succeeds
    · cases succeeds
    · split at succeeds
      · cases succeeds
      · cases succeeds
        exact ⟨alive, rfl⟩

theorem changes_of_update (succeeds : update id request current = .ok updated) :
    Changes request current updated := by
  rcases request with ⟨operation, circumstances⟩
  cases operation with
  | pause | resume =>
      rcases transition_eq_ok succeeds with ⟨alive, -, audit⟩
      exact ⟨alive, ⟨_, rfl, rfl, audit⟩, fun never => by cases never⟩
  | cancel =>
      rcases transition_eq_ok succeeds with ⟨alive, status, audit⟩
      exact ⟨alive, ⟨_, rfl, rfl, audit⟩, fun _ => status⟩
  | changeTier tier =>
      rcases changeTier_eq_ok succeeds with ⟨alive, audit⟩
      exact ⟨alive, ⟨_, rfl, rfl, audit⟩, fun never => by cases never⟩

theorem Changes.isPrefix (changes : Changes request current updated) :
    current.audit <+: updated.audit := by
  rcases changes.audit with ⟨entry, -, -, appended⟩
  rw [appended]
  exact List.prefix_append _ _

/-! ## Stores with requests -/

namespace Store

variable {store next : Store} {start : Option SubscriptionRecord} {index : Nat}
  {phase later : RequestPhase}

def history (store : Store) : List (Request × Except SubscriptionError SubscriptionRecord) :=
  Machine.answered RequestPhase.answer? store.requests

def Succeeded (store : Store) (index : Nat) (request : Request) (updated : SubscriptionRecord) :
    Prop :=
  store.requests[index]? = some (request, .done (.ok updated))

structure Sound (id : JsString) (start : Option SubscriptionRecord) (store : Store) : Prop where
  explained : (machine id).Explains start store.history store.stored
  kept : ∀ index request updated, store.Succeeded index request updated →
    ∃ final, store.stored = some final ∧ updated.audit <+: final.audit

structure Consistent (id : JsString) (start : Option SubscriptionRecord) (store : Store) : Prop
    extends Sound id start store where
  putting : ∀ (index : Nat) request current updated,
    store.requests[index]? = some (request, RequestPhase.putting current updated) →
      update id request current = .ok updated
  cancelled : ∀ index request updated, store.Succeeded index request updated →
    request.operation = .cancel → ∃ final, store.stored = some final ∧ final.status = .cancelled

theorem consistent_holding (id : JsString) (start : Option SubscriptionRecord) :
    (holding start).Consistent id start where
  explained := Machine.explains_nil _ _
  kept _ _ _ never := by cases never
  putting _ _ _ _ never := by cases never
  cancelled _ _ _ never := by cases never

/-! ## What a step does -/

inductive Moves (id : JsString) (store : Store) : Store → Prop
  | starts (made : Request) :
      Moves id store { store with requests := store.requests ++ [(made, .getting)] }
  | rejects {index : Nat} {request : Request} {error : SubscriptionError} :
      store.requests[index]? = some (request, .getting) →
      (machine id).step store.stored request = (.error error, store.stored) →
      Moves id store (store.goes index request (.done (.error error)))
  | gets {index : Nat} {request : Request} {current updated : SubscriptionRecord} :
      store.requests[index]? = some (request, .getting) →
      update id request current = .ok updated →
      Moves id store (store.goes index request (.putting current updated))
  | puts {index : Nat} {request : Request} {current updated : SubscriptionRecord} :
      store.requests[index]? = some (request, .putting current updated) →
      store.stored = some current →
      Moves id store
        ({ store with stored := some updated }.goes index request (.done (.ok updated)))

theorem moves_of_step {event : Event} (unchanged : store.Unchanged event)
    (taken : store.step id event = some next) : Moves id store next := by
  cases event with
  | start request =>
      cases taken
      exact .starts request
  | proceed index =>
      rcases Option.bind_eq_some_iff.mp taken with ⟨⟨request, phase⟩, atIndex, taken⟩
      have ready : store.Ready phase := unchanged (request, phase) atIndex
      cases phase with
      | getting =>
          cases taken
          show Moves id store (store.goes index request (store.got id request))
          cases found : store.stored with
          | none =>
              simp only [got, found]
              exact .rejects atIndex (by rw [found]; rfl)
          | some current =>
              cases changed : update id request current with
              | error error =>
                  simp only [got, found, changed]
                  exact .rejects atIndex (by simp only [machine, found, changed])
              | ok updated =>
                  simp only [got, found, changed]
                  exact .gets atIndex changed
      | putting current updated =>
          cases taken
          exact .puts atIndex ready
      | done answer => cases taken

variable {place : Nat} {other : Request} {final : SubscriptionRecord}

theorem requests_goes
    (isThere : (store.goes index request later).requests[place]? = some (other, phase)) :
    (index = place ∧ request = other ∧ later = phase) ∨
      store.requests[place]? = some (other, phase) := by
  rw [goes, List.getElem?_set] at isThere
  split at isThere
  · rename_i same
    split at isThere
    · cases isThere
      exact .inl ⟨same, rfl, rfl⟩
    · cases isThere
  · exact .inr isThere

theorem requests_start {made : Request}
    (isThere : (store.requests ++ [(made, .getting)])[place]? = some (other, phase)) :
    RequestPhase.getting = phase ∨ store.requests[place]? = some (other, phase) := by
  rw [List.getElem?_append] at isThere
  split at isThere
  · exact .inr isThere
  · rw [List.getElem?_singleton] at isThere
    split at isThere
    · cases isThere
      exact .inl rfl
    · cases isThere

theorem Moves.succeeded (moves : Moves id store next) {record : SubscriptionRecord}
    (completed : next.Succeeded place other record) :
    store.Succeeded place other record ∨
      next.stored = some record ∧ ∃ current, store.stored = some current ∧
        store.requests[place]? = some (other, .putting current record) := by
  cases moves with
  | starts made =>
      rcases requests_start completed with never | old
      · cases never
      · exact .inl old
  | rejects atIndex answer | gets atIndex changed =>
      rcases requests_goes completed with ⟨-, -, never⟩ | old
      · cases never
      · exact .inl old
  | puts atIndex found =>
      rcases requests_goes completed with ⟨samePlace, sameRequest, sameAnswer⟩ | old
      · cases samePlace
        cases sameRequest
        cases sameAnswer
        exact .inr ⟨rfl, _, found, atIndex⟩
      · exact .inl old

theorem Moves.putting (moves : Moves id store next)
    (puts : next.requests[place]? = some (other, .putting current updated)) :
    store.requests[place]? = some (other, .putting current updated) ∨
      update id other current = .ok updated := by
  cases moves with
  | starts made =>
      rcases requests_start puts with never | old
      · cases never
      · exact .inl old
  | rejects atIndex answer =>
      rcases requests_goes puts with ⟨-, -, never⟩ | old
      · cases never
      · exact .inl old
  | gets atIndex changed =>
      rcases requests_goes puts with ⟨-, sameRequest, samePhase⟩ | old
      · cases sameRequest
        cases samePhase
        exact .inr changed
      · exact .inl old
  | puts atIndex found =>
      rcases requests_goes puts with ⟨-, -, never⟩ | old
      · cases never
      · exact .inl old

theorem Moves.stored (moves : Moves id store next) :
    next.stored = store.stored ∨
      ∃ (place : Nat) (request : Request) (current updated : SubscriptionRecord),
        store.requests[place]? = some (request, .putting current updated) ∧
          store.stored = some current ∧ next.stored = some updated := by
  cases moves with
  | starts made | rejects atIndex answer | gets atIndex changed => exact .inl rfl
  | puts atIndex found => exact .inr ⟨_, _, _, _, atIndex, found, rfl⟩

/-! ## The steps keep it -/

theorem history_start (store : Store) (made : Request) :
    { store with requests := store.requests ++ [(made, RequestPhase.getting)] }.history =
      store.history := by
  rw [history, Machine.answered_append]
  exact List.append_nil _

theorem history_goes_same (store : Store) (later : RequestPhase)
    (atIndex : store.requests[index]? = some (request, phase))
    (same : later.answer? = phase.answer?) :
    (store.goes index request later).history = store.history :=
  Machine.answered_set_of_same atIndex same

theorem history_goes_new (store : Store) (later : RequestPhase)
    (atIndex : store.requests[index]? = some (request, phase))
    (waits : phase.answer? = none) {answer : Except SubscriptionError SubscriptionRecord}
    (isAnswered : later.answer? = some answer) :
    (store.goes index request later).history.Perm ((request, answer) :: store.history) :=
  Machine.answered_set_of_new atIndex waits isAnswered

theorem Consistent.explained_moves (consistent : store.Consistent id start)
    (moves : Moves id store next) : (machine id).Explains start next.history next.stored := by
  cases moves with
  | starts made => exact consistent.explained.perm (.of_eq (history_start store made).symm)
  | @rejects index request error atIndex answer =>
      have step := consistent.explained.step request
      rw [answer] at step
      exact step.perm (history_goes_new store (.done (.error error)) atIndex rfl rfl).symm
  | @gets index request current updated atIndex changed =>
      refine consistent.explained.perm (.of_eq ?_)
      exact (history_goes_same store (.putting current updated) atIndex rfl).symm
  | @puts index request current updated atIndex found =>
      have step := consistent.explained.step request
      have answer : (machine id).step store.stored request = (.ok updated, some updated) := by
        simp only [machine, found, consistent.putting _ _ _ _ atIndex]
      rw [answer] at step
      exact step.perm (history_goes_new { store with stored := some updated }
        (.done (.ok updated)) atIndex rfl rfl).symm

theorem Consistent.grows (consistent : store.Consistent id start) (moves : Moves id store next)
    {before : SubscriptionRecord} (isBefore : store.stored = some before) :
    ∃ after, next.stored = some after ∧ before.audit <+: after.audit := by
  rcases moves.stored with same | ⟨place, request, current, updated, puts, found, isNext⟩
  · exact ⟨before, same.trans isBefore, List.prefix_rfl⟩
  · cases found.symm.trans isBefore
    exact ⟨updated, isNext, (changes_of_update (consistent.putting _ _ _ _ puts)).isPrefix⟩

theorem Consistent.stays (consistent : store.Consistent id start) (moves : Moves id store next)
    (isFinal : store.stored = some final) (cancelled : final.status = .cancelled) :
    next.stored = some final := by
  rcases moves.stored with same | ⟨place, request, current, updated, puts, found, isNext⟩
  · exact same.trans isFinal
  · cases found.symm.trans isFinal
    exact absurd cancelled (changes_of_update (consistent.putting _ _ _ _ puts)).alive

theorem Consistent.moves (consistent : store.Consistent id start) (moves : Moves id store next) :
    next.Consistent id start where
  explained := consistent.explained_moves moves
  kept index request updated completed := by
    rcases moves.succeeded completed with old | ⟨isNext, -⟩
    · rcases consistent.kept _ _ _ old with ⟨before, isBefore, kept⟩
      rcases consistent.grows moves isBefore with ⟨after, isAfter, grows⟩
      exact ⟨after, isAfter, kept.trans grows⟩
    · exact ⟨updated, isNext, List.prefix_rfl⟩
  putting index request current updated puts := by
    rcases moves.putting puts with old | changed
    · exact consistent.putting _ _ _ _ old
    · exact changed
  cancelled index request updated completed isCancel := by
    rcases moves.succeeded completed with old | ⟨isNext, current, -, puts⟩
    · rcases consistent.cancelled _ _ _ old isCancel with ⟨final, isFinal, cancelled⟩
      exact ⟨final, consistent.stays moves isFinal cancelled, cancelled⟩
    · have changes := changes_of_update (consistent.putting _ _ _ _ puts)
      exact ⟨updated, isNext, changes.cancels isCancel⟩

/-! ## Runs -/

theorem consistent_of_trace {events : List Event}
    (trace : Trace (Guarded Unchanged (Takes (step id))) store events next)
    (consistent : store.Consistent id start) : next.Consistent id start :=
  trace.invariant (fun _ _ _ kept taken => kept.moves (moves_of_step taken.1 taken.2)) consistent

structure Ended (id : JsString) (start : Option SubscriptionRecord) (final : SubscriptionRecord)
    (middle store : Store) : Prop where
  consistent : store.Consistent id start
  stored : store.stored = some final
  succeeded : ∀ index request updated,
    store.Succeeded index request updated → middle.Succeeded index request updated

theorem Ended.moves (cancelled : final.status = .cancelled) {middle : Store}
    (ended : Ended id start final middle store) (moves : Moves id store next) :
    Ended id start final middle next where
  consistent := ended.consistent.moves moves
  stored := ended.consistent.stays moves ended.stored cancelled
  succeeded index request updated completed := by
    rcases moves.succeeded completed with old | ⟨-, current, found, puts⟩
    · exact ended.succeeded _ _ _ old
    · cases found.symm.trans ended.stored
      have changes := changes_of_update (ended.consistent.putting _ _ _ _ puts)
      exact absurd cancelled changes.alive

def Cancelled (store : Store) : Prop :=
  ∃ index request updated, store.Succeeded index request updated ∧ request.operation = .cancel

/-- In every run in which no record changes between the read and the put of a request, the
requests have been made one after the other, and none succeeds after a completed cancel. -/
theorem sound_of_unchanged (id : JsString) (start : Option SubscriptionRecord)
    (before after : List Event) (middle store : Store)
    (first : Trace (Guarded Unchanged (Takes (step id))) (holding start) before middle)
    (second : Trace (Guarded Unchanged (Takes (step id))) middle after store) :
    Sound id start store ∧
      (middle.Cancelled → ∀ index request updated,
        store.Succeeded index request updated → middle.Succeeded index request updated) := by
  have consistent := consistent_of_trace first (consistent_holding id start)
  refine ⟨(consistent_of_trace second consistent).toSound, ?_⟩
  rintro ⟨index, request, updated, completed, isCancel⟩
  rcases consistent.cancelled _ _ _ completed isCancel with ⟨final, isFinal, cancelled⟩
  have ended : Ended id start final middle middle := ⟨consistent, isFinal, fun _ _ _ old => old⟩
  have kept : Ended id start final middle store :=
    second.invariant (fun _ _ _ ended taken =>
      ended.moves cancelled (moves_of_step taken.1 taken.2)) ended
  exact kept.succeeded

/-! ## A pause and a cancel -/

def gold : SubscriptionRecord where
  id := js "sub-1"
  version := 1
  subscriber := js "alice"
  offering := js "gold"
  webhookTarget := js "https://a.example/hook"
  tier := .timeInsensitive
  status := .active
  createdAt := 0
  updatedAt := 0
  cancelEffectiveWindow := none
  audit := []

def pause : Request :=
  ⟨.pause, ⟨1, 7, none⟩⟩

def cancel : Request :=
  ⟨.cancel, ⟨2, 7, none⟩⟩

def changed (request : Request) (record : SubscriptionRecord) : SubscriptionRecord :=
  (update (js "sub-1") request record).toOption.getD record

/-- Both read the active record, and the cancel is completed before the pause puts its own. -/
theorem cancel_undone :
    ∃ middle store,
      runEvents (step (js "sub-1")) (holding gold) ([.start pause, .start cancel] ++
        [0, 1, 1].map .proceed) = some middle ∧
      runEvents (step (js "sub-1")) middle [.proceed 0] = some store ∧
      ¬ Sound (js "sub-1") gold store ∧ middle.Cancelled ∧
      store.Succeeded 0 pause (changed pause gold) ∧
      ¬ middle.Succeeded 0 pause (changed pause gold) := by
  refine ⟨⟨some (changed cancel gold), [(pause, .putting gold (changed pause gold)),
    (cancel, .done (.ok (changed cancel gold)))]⟩, ⟨some (changed pause gold),
    [(pause, .done (.ok (changed pause gold))), (cancel, .done (.ok (changed cancel gold)))]⟩,
    rfl, rfl, ?_, ⟨1, cancel, _, rfl, rfl⟩, rfl, ?_⟩
  · intro sound
    rcases sound.kept 1 cancel _ rfl with ⟨final, isFinal, kept⟩
    cases isFinal
    exact absurd kept (by decide)
  · intro never
    cases never

theorem paused_then_cancelled :
    ∃ middle store,
      runEvents (fun store event => if Unchanged store event then step (js "sub-1") store event
        else none) (holding gold) ([.start pause, .start cancel] ++
          [0, 0, 1, 1].map .proceed) = some middle ∧
      runEvents (fun store event => if Unchanged store event then step (js "sub-1") store event
        else none) middle [.start pause, .proceed 2] = some store ∧
      Sound (js "sub-1") gold store := by
  refine ⟨⟨some (changed cancel (changed pause gold)), [(pause, .done (.ok (changed pause gold))),
    (cancel, .done (.ok (changed cancel (changed pause gold))))]⟩,
    ⟨some (changed cancel (changed pause gold)), [(pause, .done (.ok (changed pause gold))),
    (cancel, .done (.ok (changed cancel (changed pause gold)))),
    (pause, .done (.error (alreadyCancelled (js "sub-1"))))]⟩, rfl, rfl, ?_⟩
  exact (sound_of_unchanged (js "sub-1") gold ([.start pause, .start cancel] ++
    [0, 0, 1, 1].map .proceed) [.start pause, .proceed 2] _ _ (trace_of_runGuarded rfl)
    (trace_of_runGuarded rfl)).1

end Store

end Orbital.WorkerCore.SubscriptionService
