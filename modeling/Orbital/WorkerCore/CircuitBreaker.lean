import Orbital.Foundation.NumberText

/-! # `worker-core/src/guards/circuitBreaker.ts`

The breaker that halts a worker after consecutive guard trips until a human re-enables it.
Each trip is handed to a callback before the breaker counts it, and an error of the callback
leaves the call.
-/

namespace Orbital.WorkerCore.Guards

open Foundation

structure GuardTripRecord (Detail : Type) where
  workerId : JsString
  occurredAtUnix : Int
  reason : JsString
  detail : Detail

structure ReenableRecord where
  reenabledBy : JsString
  reenabledAtUnix : Int
  rationale : JsString

inductive CircuitBreakerState (Detail : Type)
  | closed (consecutiveTrips : Nat)
  | open (trippedAtUnix : Int) (trippingTrips : List (GuardTripRecord Detail))

structure CircuitBreakerConfig where
  maxConsecutiveTrips : Int

inductive Failure
  | onTrip
  | circuitBreakerNotOpen
  deriving DecidableEq

abbrev OnTrip := Nat → Bool

structure CircuitBreaker (Detail : Type) where
  state : CircuitBreakerState Detail
  trips : List (GuardTripRecord Detail)
  reenables : List ReenableRecord

variable {Detail : Type}

def slice (list : List (GuardTripRecord Detail)) (start : Int) : List (GuardTripRecord Detail) :=
  if start < 0 then list.drop (list.length - start.natAbs) else list.drop start.natAbs

namespace CircuitBreaker

def initial : CircuitBreaker Detail where
  state := .closed 0
  trips := []
  reenables := []

def isOpen (breaker : CircuitBreaker Detail) : Bool :=
  match breaker.state with
  | .closed _ => false
  | .open _ _ => true

def throws (onTrip : Option OnTrip) (number : Nat) : Bool :=
  match onTrip with
  | none => false
  | some onTrip => onTrip number

section Calls

variable (config : CircuitBreakerConfig) (onTrip : Option OnTrip)

def recordTrip (breaker : CircuitBreaker Detail) (record : GuardTripRecord Detail) :
    Except Failure (CircuitBreakerState Detail) × CircuitBreaker Detail :=
  let trips := breaker.trips ++ [record]
  let breaker' := { breaker with trips }
  if throws onTrip breaker.trips.length then (.error .onTrip, breaker')
  else
    let trippingTrips := slice trips (-config.maxConsecutiveTrips)
    let state :=
      match breaker.state with
      | .open trippedAtUnix _ => .open trippedAtUnix trippingTrips
      | .closed consecutiveTrips =>
          if config.maxConsecutiveTrips ≤ consecutiveTrips + 1 then
            .open record.occurredAtUnix trippingTrips
          else .closed (consecutiveTrips + 1)
    (.ok state, { breaker' with state })

def recordSuccess (breaker : CircuitBreaker Detail) :
    Except Failure (CircuitBreakerState Detail) × CircuitBreaker Detail :=
  let state :=
    match breaker.state with
    | .closed _ => .closed 0
    | .open trippedAtUnix trippingTrips => .open trippedAtUnix trippingTrips
  (.ok state, { breaker with state })

def manualReenable (breaker : CircuitBreaker Detail) (record : ReenableRecord) :
    Except Failure (CircuitBreakerState Detail) × CircuitBreaker Detail :=
  match breaker.state with
  | .closed _ => (.error .circuitBreakerNotOpen, breaker)
  | .open _ _ =>
      (.ok (.closed 0),
        { breaker with state := .closed 0, reenables := breaker.reenables ++ [record] })

inductive Call (Detail : Type)
  | trip (record : GuardTripRecord Detail)
  | success
  | reenable (record : ReenableRecord)

def Call.isTrip : Call Detail → Bool
  | .trip _ => true
  | .success | .reenable _ => false

def Call.isReenable : Call Detail → Bool
  | .trip _ | .success => false
  | .reenable _ => true

def call (breaker : CircuitBreaker Detail) :
    Call Detail → Except Failure (CircuitBreakerState Detail) × CircuitBreaker Detail
  | .trip record => breaker.recordTrip config onTrip record
  | .success => breaker.recordSuccess
  | .reenable record => breaker.manualReenable record

def run (breaker : CircuitBreaker Detail) (calls : List (Call Detail)) : CircuitBreaker Detail :=
  calls.foldl (fun breaker made => (breaker.call config onTrip made).2) breaker

/-- The configured number of trips in a row opens the breaker, until it is re-enabled. -/
def HoldsOpen (calls : List (Call Detail)) : Prop :=
  ∀ front trips since back, calls = front ++ trips ++ since ++ back →
    (∀ made ∈ trips, made.isTrip = true) → trips ≠ [] →
    config.maxConsecutiveTrips ≤ trips.length → (∀ made ∈ since, made.isReenable = false) →
      (initial.run config onTrip (front ++ trips ++ since)).isOpen = true

def ReturnsWhileClosed (breaker : CircuitBreaker Detail) (calls : List (Call Detail)) : Prop :=
  ∀ front record back, calls = front ++ .trip record :: back →
    (breaker.run config onTrip front).isOpen = false →
      throws onTrip (breaker.run config onTrip front).trips.length = false

end Calls

variable {config : CircuitBreakerConfig} {onTrip : Option OnTrip} {breaker : CircuitBreaker Detail}

@[simp] theorem run_nil : breaker.run config onTrip [] = breaker :=
  rfl

@[simp] theorem run_cons (made : Call Detail) (calls : List (Call Detail)) :
    breaker.run config onTrip (made :: calls) =
      (breaker.call config onTrip made).2.run config onTrip calls :=
  rfl

theorem run_append (front back : List (Call Detail)) :
    breaker.run config onTrip (front ++ back) =
      (breaker.run config onTrip front).run config onTrip back :=
  List.foldl_append

/-! ## One call -/

theorem isOpen_eq_false_iff : breaker.isOpen = false ↔ ∃ trips, breaker.state = .closed trips := by
  rw [isOpen]
  cases breaker.state with
  | closed consecutiveTrips => simp
  | «open» trippedAtUnix trippingTrips => simp

theorem isOpen_call (opened : breaker.isOpen = true) {made : Call Detail}
    (noReenable : made.isReenable = false) :
    (breaker.call config onTrip made).2.isOpen = true := by
  rw [isOpen] at opened
  cases state : breaker.state with
  | closed consecutiveTrips =>
      rw [state] at opened
      cases opened
  | «open» trippedAtUnix trippingTrips =>
      cases made with
      | trip record =>
          rw [call, recordTrip]
          split
          · simp only [state, isOpen]
          · simp only [state, isOpen]
      | success => simp only [call, recordSuccess, state, isOpen]
      | reenable record => cases noReenable

variable {consecutiveTrips : Nat} {calls : List (Call Detail)}

theorem state_trip (closed : breaker.state = .closed consecutiveTrips)
    (returns : throws onTrip breaker.trips.length = false) (record : GuardTripRecord Detail) :
    (breaker.call config onTrip (.trip record)).2.isOpen = true ∨
      (breaker.call config onTrip (.trip record)).2.state = .closed (consecutiveTrips + 1) ∧
        (consecutiveTrips + 1 : Int) < config.maxConsecutiveTrips := by
  rw [call, recordTrip, if_neg (by simp [returns])]
  simp only [closed]
  by_cases reached : config.maxConsecutiveTrips ≤ consecutiveTrips + 1
  · left
    simp only [if_pos reached, isOpen]
  · right
    rw [if_neg reached]
    exact ⟨rfl, lt_of_not_ge reached⟩

theorem call_thrown (thrown : throws onTrip breaker.trips.length = true)
    (record : GuardTripRecord Detail) :
    (breaker.call config onTrip (.trip record)).2 =
      { breaker with trips := breaker.trips ++ [record] } := by
  rw [call, recordTrip, if_pos thrown]

theorem trips_call (made : Call Detail) :
    (breaker.call config onTrip made).2.trips.length =
      breaker.trips.length + if made.isTrip then 1 else 0 := by
  cases made with
  | trip record =>
      rw [call, recordTrip]
      split
      · exact List.length_append
      · exact List.length_append
  | success => rfl
  | reenable record =>
      rw [call, manualReenable]
      split
      · rfl
      · rfl

/-! ## Runs -/

theorem isOpen_run (opened : breaker.isOpen = true)
    (noReenable : ∀ made ∈ calls, made.isReenable = false) :
    (breaker.run config onTrip calls).isOpen = true := by
  induction calls generalizing breaker with
  | nil => exact opened
  | cons made calls induction =>
      rcases List.forall_mem_cons.mp noReenable with ⟨first, others⟩
      exact induction (isOpen_call opened first) others

theorem not_isReenable (trips : ∀ made ∈ calls, made.isTrip = true) :
    ∀ made ∈ calls, made.isReenable = false := by
  intro made member
  have isTrip := trips made member
  cases made with
  | trip record | success => rfl
  | reenable record => cases isTrip

theorem counted_run (closed : breaker.state = .closed consecutiveTrips)
    (trips : ∀ made ∈ calls, made.isTrip = true) (some : calls ≠ [])
    (returns : ReturnsWhileClosed config onTrip breaker calls) :
    (breaker.run config onTrip calls).isOpen = true ∨
      (consecutiveTrips + calls.length : Int) < config.maxConsecutiveTrips := by
  induction calls generalizing breaker consecutiveTrips with
  | nil => exact absurd rfl some
  | cons made calls induction =>
      rcases List.forall_mem_cons.mp trips with ⟨first, others⟩
      cases made with
      | success | reenable record => cases first
      | trip record =>
          have atFirst := returns [] record calls rfl (isOpen_eq_false_iff.mpr ⟨_, closed⟩)
          rw [run_cons]
          rcases @state_trip _ config _ _ _ closed atFirst record with opened | ⟨next, below⟩
          · exact Or.inl (isOpen_run opened (not_isReenable others))
          · by_cases last : calls = []
            · rw [last]
              exact Or.inr below
            · have later : ReturnsWhileClosed config onTrip
                  (breaker.call config onTrip (.trip record)).2 calls := by
                intro front other back split stillClosed
                exact returns (.trip record :: front) other back (by rw [split]; rfl) stillClosed
              rcases induction next others last later with opened | small
              · exact Or.inl opened
              · right
                rw [List.length_cons]
                omega

theorem holdsOpen_of_returns (returns : ReturnsWhileClosed config onTrip initial calls) :
    HoldsOpen config onTrip calls := by
  intro front trips since back split allTrips some reached noReenable
  rw [run_append, run_append]
  refine isOpen_run ?_ noReenable
  cases opened : (initial.run config onTrip front).isOpen with
  | true => exact isOpen_run opened (not_isReenable allTrips)
  | false =>
      rcases isOpen_eq_false_iff.mp opened with ⟨consecutiveTrips, closed⟩
      have inTrips : ReturnsWhileClosed config onTrip (initial.run config onTrip front) trips := by
        intro before record after cut stillClosed
        rw [← run_append] at stillClosed ⊢
        apply returns (front ++ before) record (after ++ since ++ back) _ stillClosed
        rw [split, cut]
        simp only [List.append_assoc, List.cons_append]
      rcases counted_run closed allTrips some inTrips with held | small
      · exact held
      · omega

/-! ## A callback that throws -/

def scattered (record : GuardTripRecord Detail) (reenable : ReenableRecord) :
    Nat → List (Call Detail)
  | 0 => []
  | count + 1 => scattered record reenable count ++ [.trip record, .reenable reenable, .success]

theorem state_reenable_success (reenable : ReenableRecord) :
    (breaker.run config onTrip [.reenable reenable, .success]).state = .closed 0 := by
  rw [run_cons, run_cons, run_nil, call, call, manualReenable, recordSuccess]
  cases state : breaker.state with
  | closed consecutiveTrips => simp only [state]
  | «open» trippedAtUnix trippingTrips => rfl

theorem run_scattered (record : GuardTripRecord Detail) (reenable : ReenableRecord)
    (count : Nat) :
    (initial.run config onTrip (scattered record reenable count)).state = .closed 0 ∧
      (initial.run config onTrip (scattered record reenable count)).trips.length = count := by
  induction count with
  | zero => exact ⟨rfl, rfl⟩
  | succ count induction =>
      rw [scattered, run_append, run_cons]
      constructor
      · exact state_reenable_success reenable
      · rw [run_cons, run_cons, run_nil, trips_call, trips_call, trips_call, induction.2]
        rfl

theorem closed_run (closed : breaker.state = .closed consecutiveTrips)
    (record : GuardTripRecord Detail) {count : Nat}
    (small : (consecutiveTrips + count : Int) < config.maxConsecutiveTrips) :
    (breaker.run config onTrip (List.replicate count (.trip record))).isOpen = false := by
  induction count generalizing breaker consecutiveTrips with
  | zero => exact isOpen_eq_false_iff.mpr ⟨_, closed⟩
  | succ count induction =>
      rw [List.replicate_succ, run_cons]
      cases thrown : throws onTrip breaker.trips.length with
      | true =>
          apply @induction _ consecutiveTrips
          · rw [call_thrown thrown]
            exact closed
          · omega
      | false =>
          apply @induction _ (consecutiveTrips + 1)
          · rw [call, recordTrip, if_neg (by simp [thrown])]
            simp only [closed]
            rw [if_neg (by omega)]
          · omega

theorem closed_thrown (closed : breaker.state = .closed 0)
    (thrown : throws onTrip breaker.trips.length = true) (record : GuardTripRecord Detail) :
    (breaker.run config onTrip (.trip record ::
      List.replicate (config.maxConsecutiveTrips - 1).toNat (.trip record))).isOpen = false := by
  rw [run_cons]
  have next : (breaker.call config onTrip (.trip record)).2.state = .closed 0 := by
    rw [call_thrown thrown]
    exact closed
  by_cases positive : 0 < config.maxConsecutiveTrips
  · apply closed_run next record
    omega
  · have none : (config.maxConsecutiveTrips - 1).toNat = 0 := by omega
    rw [none]
    exact isOpen_eq_false_iff.mpr ⟨0, next⟩

/-- A callback that throws at one call keeps the breaker closed in some run. -/
theorem not_holdsOpen [Inhabited Detail] {number : Nat} (thrown : throws onTrip number = true) :
    ∃ calls : List (Call Detail), ¬ HoldsOpen config onTrip calls := by
  let record : GuardTripRecord Detail := ⟨[], 0, [], default⟩
  let trips : List (Call Detail) :=
    .trip record :: List.replicate (config.maxConsecutiveTrips - 1).toNat (.trip record)
  rcases @run_scattered Detail config onTrip record ⟨[], 0, []⟩ number with ⟨closed, count⟩
  refine ⟨scattered record ⟨[], 0, []⟩ number ++ trips, ?_⟩
  intro holds
  have allTrips : ∀ made ∈ trips, made.isTrip = true := by
    intro made member
    rcases List.mem_cons.mp member with rfl | further
    · rfl
    · rw [List.eq_of_mem_replicate further]
      rfl
  have enough : config.maxConsecutiveTrips ≤ trips.length := by
    rw [List.length_cons, List.length_replicate]
    omega
  have opened := holds (scattered record ⟨[], 0, []⟩ number) trips [] []
    (by rw [List.append_nil, List.append_nil]) allTrips (List.cons_ne_nil _ _) enough
    (fun made never => absurd never List.not_mem_nil)
  rw [List.append_nil, run_append, closed_thrown closed (by rw [count]; exact thrown)] at opened
  cases opened

/-- In every run in which the callback returns from the trips of a closed breaker, and so in
all runs exactly when it never throws, the breaker opens and stays open. -/
theorem holdsOpen_iff [Inhabited Detail] (config : CircuitBreakerConfig)
    (onTrip : Option OnTrip) :
    (∀ calls : List (Call Detail), ReturnsWhileClosed config onTrip initial calls →
      HoldsOpen config onTrip calls) ∧
    ((∀ calls : List (Call Detail), HoldsOpen config onTrip calls) ↔
      ∀ number, throws onTrip number = false) := by
  constructor
  · exact fun calls returns => holdsOpen_of_returns returns
  · constructor
    · intro holds number
      by_contra thrown
      rcases @not_holdsOpen Detail config onTrip _ number (Bool.eq_true_of_not_eq_false thrown) with
        ⟨calls, fails⟩
      exact fails (holds calls)
    · intro never calls
      exact holdsOpen_of_returns fun front record back split closed => never _

/-- A callback that always throws, and a breaker that is to open at the first trip. -/
theorem thrown_away :
    ¬ ∀ (config : CircuitBreakerConfig) (onTrip : Option OnTrip) (calls : List (Call Unit)),
      HoldsOpen config onTrip calls := by
  intro holds
  have opened := holds ⟨1⟩ (some fun _ => true) [.trip ⟨js "w", 7, js "stale-price", ()⟩] []
    [.trip ⟨js "w", 7, js "stale-price", ()⟩] [] [] rfl (by simp [Call.isTrip])
    (List.cons_ne_nil _ _) (by decide) (by simp)
  revert opened
  decide

end CircuitBreaker

end Orbital.WorkerCore.Guards
