import Mathlib
import Orbital.Foundation.Fallible

/-! # `contracts/payroll/src/lib.rs`

The payroll contract over a token that moves exactly what it is told or fails. An entry
point that fails leaves nothing behind. The history lists the transfers and the events of
the calls that succeeded.
-/

namespace Orbital.Contracts.Payroll

open Foundation (bind_eq_ok)

variable {Address : Type} [DecidableEq Address]

def maxRecipients : Nat :=
  25

inductive Error
  | notConfigured
  | alreadyConfigured
  | notDue
  | insufficientBalance
  | invalidRecipients
  | invalidPeriod
  | invalidAmount
  deriving DecidableEq

/-- The host stops a call, or the call returns an error. -/
inductive Failure
  | trap
  | returned (error : Error)
  deriving DecidableEq

structure Recipient (Address : Type) where
  to' : Address
  amount : Int
  deriving DecidableEq

structure Config (Address : Type) where
  owner : Address
  token : Address
  recipients : List (Recipient Address)
  period : Nat
  start : Nat
  deriving DecidableEq

structure Disbursed (Address : Type) where
  window : Nat
  token : Address
  windowStart : Nat
  total : Int
  recipients : Nat
  deriving DecidableEq

inductive Entry (Address : Type)
  | funded (source : Address) (amount : Int)
  | paid (window : Nat) (target : Address) (amount : Int)
  | disbursed (event : Disbursed Address) (timestamp : Nat)
  | withdrawn (target : Address) (amount : Int)
  deriving DecidableEq

abbrev Balances (Address : Type) :=
  Address → Address → Int

structure State (Address : Type) where
  config : Option (Config Address)
  nextWindow : Option Nat
  balances : Balances Address
  history : List (Entry Address)

def State.deployed (balances : Balances Address) : State Address where
  config := none
  nextWindow := none
  balances
  history := []

/-- Who has authorized a call, the ledger it runs in and the transfers that the token does
not refuse. The contract authorizes nothing itself. -/
structure Env (Address : Type) (contract : Address) where
  signers : List Address
  silent : contract ∉ signers
  timestamp : Nat
  accepts : Balances Address → Address → Address → Address → Int → Bool

section Host

/-- The sum or product of two numbers of 64 bits traps when it needs more. -/
def u64 (value : Nat) : Except Failure Nat :=
  if value < 2 ^ 64 then .ok value else .error .trap

/-- The sum of two signed numbers of 128 bits traps when it needs more. -/
def i128 (value : Int) : Except Failure Int :=
  if -2 ^ 127 ≤ value ∧ value < 2 ^ 127 then .ok value else .error .trap

variable {contract : Address}

def requireAuth (env : Env Address contract) (address : Address) : Except Failure Unit :=
  if address ∈ env.signers then .ok () else .error .trap

def rejectIf (refused : Prop) [Decidable refused] (error : Error) : Except Failure Unit :=
  if refused then .error (.returned error) else .ok ()

def moved (balances : Balances Address) (token source target : Address) (amount : Int) :
    Balances Address :=
  let debited := Function.update (balances token) source (balances token source - amount)
  Function.update balances token (Function.update debited target (debited target + amount))

def transfer (env : Env Address contract) (token source target : Address) (amount : Int)
    (balances : Balances Address) : Except Failure (Balances Address) :=
  if env.accepts balances token source target amount then
    .ok (moved balances token source target amount)
  else .error .trap

end Host

def loadConfig (state : State Address) : Except Failure (Config Address) :=
  match state.config with
  | some config => .ok config
  | none => .error (.returned .notConfigured)

section Entrypoints

variable {contract : Address} (env : Env Address contract)

def configure (owner token : Address) (recipients : List (Recipient Address)) (period : Nat)
    (state : State Address) : Except Failure (State Address) := do
  requireAuth env owner
  rejectIf (state.config ≠ none) .alreadyConfigured
  rejectIf (recipients = [] ∨ maxRecipients < recipients.length) .invalidRecipients
  rejectIf (period = 0) .invalidPeriod
  rejectIf (∃ line ∈ recipients, line.amount ≤ 0) .invalidAmount
  return { state with
    config := some { owner, token, recipients, period, start := env.timestamp }
    nextWindow := some 0 }

def fund (source : Address) (amount : Int) (state : State Address) :
    Except Failure (State Address) := do
  requireAuth env source
  rejectIf (amount ≤ 0) .invalidAmount
  let config ← loadConfig state
  let balances ← transfer env config.token source contract amount state.balances
  return { state with balances, history := state.history ++ [.funded source amount] }

def pay (config : Config Address) (window : Nat) (state : State Address)
    (line : Recipient Address) : Except Failure (State Address) := do
  let balances ← transfer env config.token contract line.to' line.amount state.balances
  return { state with
    balances
    history := state.history ++ [.paid window line.to' line.amount] }

def disburse (state : State Address) : Except Failure (State Address) := do
  let config ← loadConfig state
  let window := state.nextWindow.getD 0
  let windowStart ← u64 (config.start + (← u64 (window * config.period)))
  let dueAt ← u64 (windowStart + config.period)
  rejectIf (env.timestamp < dueAt) .notDue
  let total ← config.recipients.foldlM (fun total line => i128 (total + line.amount)) 0
  rejectIf (state.balances config.token contract < total) .insufficientBalance
  let next ← u64 (window + 1)
  let paid ← config.recipients.foldlM (pay env config window) { state with nextWindow := some next }
  return { paid with
    history := paid.history ++ [.disbursed {
      window
      token := config.token
      windowStart
      total
      recipients := config.recipients.length } env.timestamp] }

def withdraw (amount : Int) (state : State Address) : Except Failure (State Address) := do
  let config ← loadConfig state
  requireAuth env config.owner
  rejectIf (amount ≤ 0) .invalidAmount
  rejectIf (state.balances config.token contract < amount) .insufficientBalance
  let balances ← transfer env config.token contract config.owner amount state.balances
  return { state with balances, history := state.history ++ [.withdrawn config.owner amount] }

omit [DecidableEq Address] in
def nextDueAt (state : State Address) : Except Failure Nat := do
  let config ← loadConfig state
  let following ← u64 (state.nextWindow.getD 0 + 1)
  u64 (config.start + (← u64 (following * config.period)))

end Entrypoints

inductive Call (Address : Type)
  | configure (owner token : Address) (recipients : List (Recipient Address)) (period : Nat)
  | fund (source : Address) (amount : Int)
  | disburse
  | withdraw (amount : Int)

def Call.run {contract : Address} (env : Env Address contract) :
    Call Address → State Address → Except Failure (State Address)
  | .configure owner token recipients period => Payroll.configure env owner token recipients period
  | .fund source amount => Payroll.fund env source amount
  | .disburse => Payroll.disburse env
  | .withdraw amount => Payroll.withdraw env amount

def State.step {contract : Address} (state : State Address)
    (invocation : Env Address contract × Call Address) : State Address :=
  match invocation.2.run invocation.1 state with
  | .ok next => next
  | .error _ => state

def State.after {contract : Address} (balances : Balances Address)
    (invocations : List (Env Address contract × Call Address)) : State Address :=
  invocations.foldl State.step (.deployed balances)

/-! ## What the entry points do -/

theorem u64_eq_ok {number checked : Nat} (succeeded : u64 number = .ok checked) :
    checked = number := by
  rw [u64] at succeeded
  split at succeeded
  · cases succeeded
    rfl
  · cases succeeded

theorem i128_eq_ok {number checked : Int} (succeeded : i128 number = .ok checked) :
    checked = number := by
  rw [i128] at succeeded
  split at succeeded
  · cases succeeded
    rfl
  · cases succeeded

theorem rejectIf_eq_ok {refused : Prop} [Decidable refused] {error : Error} {done : Unit}
    (succeeded : rejectIf refused error = .ok done) : ¬ refused := by
  rw [rejectIf] at succeeded
  split at succeeded
  · cases succeeded
  · assumption

omit [DecidableEq Address] in
theorem loadConfig_eq_ok {state : State Address} {config : Config Address}
    (succeeded : loadConfig state = .ok config) : state.config = some config := by
  rw [loadConfig] at succeeded
  split at succeeded
  · rename_i found
    cases succeeded
    exact found
  · cases succeeded

section Outcomes

variable {contract : Address} {env : Env Address contract} {state next : State Address}

theorem requireAuth_eq_ok {address : Address} {done : Unit}
    (succeeded : requireAuth env address = .ok done) : address ≠ contract := by
  rw [requireAuth] at succeeded
  split at succeeded
  · rename_i signed
    rintro rfl
    exact env.silent signed
  · cases succeeded

variable {token source : Address} {amount : Int} {lines : List (Recipient Address)}

theorem transfer_eq_ok {target : Address} {balances after : Balances Address}
    (succeeded : transfer env token source target amount balances = .ok after) :
    after = moved balances token source target amount := by
  rw [transfer] at succeeded
  split at succeeded
  · cases succeeded
    rfl
  · cases succeeded

theorem configure_eq_ok {owner : Address} {recipients : List (Recipient Address)} {period : Nat}
    (succeeded : configure env owner token recipients period state = .ok next) :
    state.config = none ∧ owner ≠ contract ∧
      next = { state with
        config := some { owner, token, recipients, period, start := env.timestamp }
        nextWindow := some 0 } := by
  rcases bind_eq_ok.mp succeeded with ⟨signed, authorized, succeeded⟩
  rcases bind_eq_ok.mp succeeded with ⟨free, unconfigured, succeeded⟩
  rcases bind_eq_ok.mp succeeded with ⟨-, -, succeeded⟩
  rcases bind_eq_ok.mp succeeded with ⟨-, -, succeeded⟩
  rcases bind_eq_ok.mp succeeded with ⟨-, -, succeeded⟩
  cases succeeded
  exact ⟨Classical.not_not.mp (rejectIf_eq_ok unconfigured), requireAuth_eq_ok authorized, rfl⟩

theorem fund_eq_ok (succeeded : fund env source amount state = .ok next) :
    ∃ config, state.config = some config ∧ source ≠ contract ∧
      next = { state with
        balances := moved state.balances config.token source contract amount
        history := state.history ++ [.funded source amount] } := by
  rcases bind_eq_ok.mp succeeded with ⟨signed, authorized, succeeded⟩
  rcases bind_eq_ok.mp succeeded with ⟨-, -, succeeded⟩
  rcases bind_eq_ok.mp succeeded with ⟨config, loaded, succeeded⟩
  rcases bind_eq_ok.mp succeeded with ⟨balances, transferred, succeeded⟩
  cases succeeded
  rw [transfer_eq_ok transferred]
  exact ⟨config, loadConfig_eq_ok loaded, requireAuth_eq_ok authorized, rfl⟩

theorem withdraw_eq_ok (succeeded : withdraw env amount state = .ok next) :
    ∃ config, state.config = some config ∧ config.owner ≠ contract ∧
      next = { state with
        balances := moved state.balances config.token contract config.owner amount
        history := state.history ++ [.withdrawn config.owner amount] } := by
  rcases bind_eq_ok.mp succeeded with ⟨config, loaded, succeeded⟩
  rcases bind_eq_ok.mp succeeded with ⟨signed, authorized, succeeded⟩
  rcases bind_eq_ok.mp succeeded with ⟨-, -, succeeded⟩
  rcases bind_eq_ok.mp succeeded with ⟨-, -, succeeded⟩
  rcases bind_eq_ok.mp succeeded with ⟨balances, transferred, succeeded⟩
  cases succeeded
  rw [transfer_eq_ok transferred]
  exact ⟨config, loadConfig_eq_ok loaded, requireAuth_eq_ok authorized, rfl⟩

def allPaid (contract : Address) (config : Config Address) (window : Nat)
    (lines : List (Recipient Address)) (state : State Address) : State Address where
  config := state.config
  nextWindow := state.nextWindow
  balances := lines.foldl (fun balances line =>
    moved balances config.token contract line.to' line.amount) state.balances
  history := state.history ++ lines.map fun line => .paid window line.to' line.amount

theorem pay_foldlM_eq_ok {config : Config Address} {window : Nat} {state next : State Address}
    (succeeded : lines.foldlM (pay env config window) state = .ok next) :
    next = allPaid contract config window lines state := by
  induction lines generalizing state with
  | nil =>
      cases succeeded
      rw [allPaid, List.map_nil, List.append_nil]
      rfl
  | cons line lines induction =>
      rw [List.foldlM_cons] at succeeded
      rcases bind_eq_ok.mp succeeded with ⟨middle, first, rest⟩
      rcases bind_eq_ok.mp first with ⟨balances, transferred, made⟩
      cases made
      rw [induction rest, transfer_eq_ok transferred]
      simp only [allPaid, List.foldl_cons, List.map_cons, List.append_assoc,
        List.singleton_append]

omit [DecidableEq Address] in
theorem total_eq_ok {first total : Int}
    (succeeded : lines.foldlM (fun total line => i128 (total + line.amount)) first = .ok total) :
    total = first + (lines.map Recipient.amount).sum := by
  induction lines generalizing first with
  | nil =>
      cases succeeded
      simp
  | cons line lines induction =>
      rw [List.foldlM_cons] at succeeded
      rcases bind_eq_ok.mp succeeded with ⟨middle, added, rest⟩
      rw [induction rest, i128_eq_ok added, List.map_cons, List.sum_cons, add_assoc]

theorem disburse_eq_ok (succeeded : disburse env state = .ok next) :
    ∃ config, state.config = some config ∧
      config.start + (state.nextWindow.getD 0 + 1) * config.period ≤ env.timestamp ∧
      next = { allPaid contract config (state.nextWindow.getD 0) config.recipients state with
        nextWindow := some (state.nextWindow.getD 0 + 1)
        history := (allPaid contract config (state.nextWindow.getD 0) config.recipients
            state).history ++
          [.disbursed {
            window := state.nextWindow.getD 0
            token := config.token
            windowStart := config.start + state.nextWindow.getD 0 * config.period
            total := (config.recipients.map Recipient.amount).sum
            recipients := config.recipients.length } env.timestamp] } := by
  rcases bind_eq_ok.mp succeeded with ⟨config, loaded, succeeded⟩
  rcases bind_eq_ok.mp succeeded with ⟨elapsed, product, succeeded⟩
  rcases bind_eq_ok.mp succeeded with ⟨windowStart, started, succeeded⟩
  rcases bind_eq_ok.mp succeeded with ⟨dueAt, due, succeeded⟩
  rcases bind_eq_ok.mp succeeded with ⟨elapsedToo, onTime, succeeded⟩
  rcases bind_eq_ok.mp succeeded with ⟨total, summed, succeeded⟩
  rcases bind_eq_ok.mp succeeded with ⟨-, -, succeeded⟩
  rcases bind_eq_ok.mp succeeded with ⟨following, advanced, succeeded⟩
  rcases bind_eq_ok.mp succeeded with ⟨paid, transferred, succeeded⟩
  cases succeeded
  have reached := rejectIf_eq_ok onTime
  rw [u64_eq_ok due, u64_eq_ok started, u64_eq_ok product] at reached
  refine ⟨config, loadConfig_eq_ok loaded, ?_, ?_⟩
  · rw [Nat.succ_mul, ← Nat.add_assoc]
    exact Nat.not_lt.mp reached
  · rw [pay_foldlM_eq_ok transferred, total_eq_ok summed, u64_eq_ok advanced, u64_eq_ok started,
      u64_eq_ok product, zero_add]
    rfl

end Outcomes

end Orbital.Contracts.Payroll
