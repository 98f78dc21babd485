import Mathlib.Data.List.Range
import Mathlib.Tactic.Ring
import Orbital.Contracts.Payroll

/-! # What a payroll has paid

After every run the windows that were paid are the first ones in order, each after it has
elapsed, and the holdings of the contract and of every recipient are accounted for by the
configuration and the number of payments.
-/

namespace Orbital.Contracts.Payroll

variable {Address : Type} [DecidableEq Address]

/-! ## Sums over the history -/

def Entry.window? : Entry Address → Option Nat
  | .disbursed event _ => some event.window
  | _ => none

def tally (amount : Entry Address → Int) (history : List (Entry Address)) : Int :=
  (history.map amount).sum

section History

variable (history : List (Entry Address))

def windows : List Nat :=
  history.filterMap Entry.window?

def disbursements : Nat :=
  (windows history).length

def funded : Int :=
  tally (fun
    | .funded _ amount => amount
    | _ => 0) history

def withdrawn : Int :=
  tally (fun
    | .withdrawn _ amount => amount
    | _ => 0) history

def fundedBy (holder : Address) : Int :=
  tally (fun
    | .funded source amount => if source = holder then amount else 0
    | _ => 0) history

def received (holder : Address) : Int :=
  tally (fun
    | .paid _ target amount => if target = holder then amount else 0
    | _ => 0) history

end History

def lineTotal (lines : List (Recipient Address)) : Int :=
  (lines.map Recipient.amount).sum

def lineShare (lines : List (Recipient Address)) (holder : Address) : Int :=
  (lines.map fun line => if line.to' = holder then line.amount else 0).sum

section Tally

omit [DecidableEq Address] in
theorem tally_append (amount : Entry Address → Int) (front back : List (Entry Address)) :
    tally amount (front ++ back) = tally amount front + tally amount back := by
  rw [tally, List.map_append, List.sum_append]
  rfl

omit [DecidableEq Address] in
theorem tally_concat (amount : Entry Address → Int) (history : List (Entry Address))
    (entry : Entry Address) :
    tally amount (history ++ [entry]) = tally amount history + amount entry := by
  rw [tally_append, tally, tally, List.map_singleton, List.sum_singleton]

omit [DecidableEq Address] in
theorem tally_paid_zero (amount : Entry Address → Int) (window : Nat)
    (lines : List (Recipient Address))
    (zero : ∀ target paid, amount (.paid window target paid) = 0) :
    tally amount (lines.map fun line => .paid window line.to' line.amount) = 0 := by
  rw [tally, List.map_map]
  apply List.sum_eq_zero
  intro value member
  rcases List.mem_map.mp member with ⟨line, -, rfl⟩
  exact zero line.to' line.amount

theorem received_paid (window : Nat) (lines : List (Recipient Address)) (holder : Address) :
    received (lines.map fun line => .paid window line.to' line.amount) holder =
      lineShare lines holder := by
  rw [received, tally, lineShare, List.map_map]
  rfl

omit [DecidableEq Address] in
theorem windows_append (front back : List (Entry Address)) :
    windows (front ++ back) = windows front ++ windows back :=
  List.filterMap_append ..

variable {history : List (Entry Address)} {entry : Entry Address}

omit [DecidableEq Address] in
theorem windows_quiet (quiet : entry.window? = none) :
    windows (history ++ [entry]) = windows history := by
  rw [windows_append, windows, windows, List.filterMap_cons, quiet]
  exact List.append_nil _

omit [DecidableEq Address] in
theorem disbursements_quiet (quiet : entry.window? = none) :
    disbursements (history ++ [entry]) = disbursements history :=
  congrArg List.length (windows_quiet quiet)

omit [DecidableEq Address] in
theorem windows_paid (window : Nat) (lines : List (Recipient Address)) :
    windows (lines.map fun line => .paid window line.to' line.amount) = [] := by
  rw [windows, List.filterMap_map]
  exact List.filterMap_eq_nil_iff.mpr fun line _ => rfl

end Tally

/-! ## Transfers -/

theorem moved_apply (balances : Balances Address) (token source target holder : Address)
    (amount : Int) :
    moved balances token source target amount token holder =
      balances token holder - (if holder = source then amount else 0) +
        (if holder = target then amount else 0) := by
  have debited : Function.update (balances token) source (balances token source - amount) holder =
      balances token holder - (if holder = source then amount else 0) := by
    by_cases isSource : holder = source
    · subst isSource
      rw [Function.update_self, if_pos rfl]
    · rw [Function.update_of_ne isSource, if_neg isSource, sub_zero]
  rw [moved, Function.update_self, ← debited]
  by_cases isTarget : holder = target
  · subst isTarget
    rw [Function.update_self, if_pos rfl]
  · rw [Function.update_of_ne isTarget, if_neg isTarget, add_zero]

theorem allPaid_balances (contract : Address) (config : Config Address)
    (lines : List (Recipient Address)) (balances : Balances Address) (holder : Address) :
    lines.foldl (fun balances line =>
        moved balances config.token contract line.to' line.amount) balances config.token holder =
      balances config.token holder - (if holder = contract then lineTotal lines else 0) +
        lineShare lines holder := by
  induction lines generalizing balances with
  | nil => simp [lineTotal, lineShare]
  | cons line lines induction =>
      rw [List.foldl_cons, induction, moved_apply]
      by_cases isContract : holder = contract
      · by_cases isTarget : line.to' = holder
        · simp only [lineTotal, lineShare, List.map_cons, List.sum_cons, if_pos isContract,
            if_pos isTarget, if_pos isTarget.symm]
          ring
        · simp only [lineTotal, lineShare, List.map_cons, List.sum_cons, if_pos isContract,
            if_neg isTarget, if_neg (Ne.symm isTarget)]
          ring
      · by_cases isTarget : line.to' = holder
        · simp only [lineShare, List.map_cons, List.sum_cons, if_neg isContract, if_pos isTarget,
            if_pos isTarget.symm]
          ring
        · simp only [lineShare, List.map_cons, List.sum_cons, if_neg isContract, if_neg isTarget,
            if_neg (Ne.symm isTarget)]
          ring

theorem lineShare_eq_zero {lines : List (Recipient Address)} {holder : Address}
    (absent : ∀ line ∈ lines, line.to' ≠ holder) : lineShare lines holder = 0 := by
  apply List.sum_eq_zero
  intro value member
  rcases List.mem_map.mp member with ⟨line, inside, rfl⟩
  exact if_neg (absent line inside)

/-! ## The account -/

structure Account (contract : Address) (initial : Balances Address) (config : Config Address)
    (state : State Address) : Prop where
  configured : state.config = some config
  next : state.nextWindow = some (disbursements state.history)
  inOrder : windows state.history = List.range (disbursements state.history)
  elapsed : ∀ event timestamp, .disbursed event timestamp ∈ state.history →
    config.start + (event.window + 1) * config.period ≤ timestamp
  balance : state.balances config.token contract =
    initial config.token contract + funded state.history -
      disbursements state.history * lineTotal config.recipients - withdrawn state.history
  receipts : ∀ holder, received state.history holder =
    disbursements state.history * lineShare config.recipients holder
  holdings : ∀ holder, holder ≠ contract → state.balances config.token holder =
    initial config.token holder + received state.history holder -
      fundedBy state.history holder +
      (if holder = config.owner then withdrawn state.history else 0)

structure Untouched (initial : Balances Address) (state : State Address) : Prop where
  next : state.nextWindow = none
  balances : state.balances = initial
  history : state.history = []

/-- The account holds as soon as there is a configuration without the contract among its
recipients. -/
def Accounted (contract : Address) (initial : Balances Address) (state : State Address) : Prop :=
  match state.config with
  | none => Untouched initial state
  | some config =>
      (∀ line ∈ config.recipients, line.to' ≠ contract) → Account contract initial config state

section Step

variable {contract : Address} {initial : Balances Address} {state : State Address}
  {config : Config Address}

theorem Untouched.account (untouched : Untouched initial state) (config : Config Address) :
    Account contract initial config
      { state with config := some config, nextWindow := some 0 } := by
  rcases untouched with ⟨-, balances, history⟩
  constructor
  · rfl
  · rw [history]
    rfl
  · rw [history]
    rfl
  · rw [history]
    intro event timestamp member
    cases member
  · rw [balances, history]
    simp [funded, withdrawn, tally, disbursements, windows]
  · rw [history]
    simp [received, tally, disbursements, windows]
  · rw [balances, history]
    simp [received, fundedBy, withdrawn, tally]

variable {amount : Int} {env : Env Address contract} {call : Call Address} {next : State Address}

theorem Account.fund {source : Address} (account : Account contract initial config state)
    (other : source ≠ contract) :
    Account contract initial config { state with
      balances := moved state.balances config.token source contract amount
      history := state.history ++ [.funded source amount] } := by
  have count : disbursements (state.history ++ [.funded source amount]) =
      disbursements state.history := disbursements_quiet rfl
  constructor
  · exact account.configured
  · rw [count]
    exact account.next
  · rw [count, windows_quiet rfl]
    exact account.inOrder
  · intro event timestamp member
    rcases List.mem_append.mp member with earlier | last
    · exact account.elapsed event timestamp earlier
    · cases List.mem_singleton.mp last
  · dsimp only
    rw [moved_apply, if_neg other.symm, if_pos rfl, account.balance, count]
    simp only [funded, withdrawn, tally_concat]
    ring
  · intro holder
    rw [count, ← account.receipts holder, received, tally_concat, add_zero]
    rfl
  · intro holder different
    dsimp only
    rw [moved_apply, if_neg different, account.holdings holder different]
    simp only [received, fundedBy, withdrawn, tally_concat, add_zero, @eq_comm _ source]
    ring

theorem Account.withdraw (account : Account contract initial config state)
    (other : config.owner ≠ contract) :
    Account contract initial config { state with
      balances := moved state.balances config.token contract config.owner amount
      history := state.history ++ [.withdrawn config.owner amount] } := by
  have count : disbursements (state.history ++ [.withdrawn config.owner amount]) =
      disbursements state.history := disbursements_quiet rfl
  constructor
  · exact account.configured
  · rw [count]
    exact account.next
  · rw [count, windows_quiet rfl]
    exact account.inOrder
  · intro event timestamp member
    rcases List.mem_append.mp member with earlier | last
    · exact account.elapsed event timestamp earlier
    · cases List.mem_singleton.mp last
  · dsimp only
    rw [moved_apply, if_pos rfl, if_neg other.symm, account.balance, count]
    simp only [funded, withdrawn, tally_concat]
    ring
  · intro holder
    rw [count, ← account.receipts holder, received, tally_concat, add_zero]
    rfl
  · intro holder different
    dsimp only
    rw [moved_apply, if_neg different, account.holdings holder different]
    simp only [received, fundedBy, withdrawn, tally_concat, add_zero]
    by_cases isOwner : holder = config.owner
    · rw [if_pos isOwner, if_pos isOwner, if_pos isOwner]
      ring
    · rw [if_neg isOwner, if_neg isOwner, if_neg isOwner]
      ring

def disbursal (window : Nat) (lines : List (Recipient Address)) (event : Disbursed Address)
    (timestamp : Nat) : List (Entry Address) :=
  (lines.map fun line => .paid window line.to' line.amount) ++ [.disbursed event timestamp]

omit [DecidableEq Address] in
theorem windows_disbursal (window : Nat) (lines : List (Recipient Address))
    (event : Disbursed Address) (timestamp : Nat) :
    windows (disbursal window lines event timestamp) = [event.window] := by
  rw [disbursal, windows_append, windows_paid]
  rfl

omit [DecidableEq Address] in
theorem tally_disbursal_zero (amount : Entry Address → Int) (window : Nat)
    (lines : List (Recipient Address)) (event : Disbursed Address) (timestamp : Nat)
    (zero : ∀ target paid, amount (.paid window target paid) = 0)
    (zeroToo : amount (.disbursed event timestamp) = 0) :
    tally amount (disbursal window lines event timestamp) = 0 := by
  rw [disbursal, tally_concat, tally_paid_zero amount window lines zero, zeroToo, add_zero]

theorem Account.disburse (account : Account contract initial config state)
    (apart : ∀ line ∈ config.recipients, line.to' ≠ contract)
    (event : Disbursed Address) (timestamp : Nat)
    (isNext : event.window = disbursements state.history)
    (elapsed : config.start + (event.window + 1) * config.period ≤ timestamp) :
    Account contract initial config {
      config := state.config
      nextWindow := some (disbursements state.history + 1)
      balances := config.recipients.foldl (fun balances line =>
        moved balances config.token contract line.to' line.amount) state.balances
      history := state.history ++ disbursal event.window config.recipients event timestamp } := by
  have count : disbursements
      (state.history ++ disbursal event.window config.recipients event timestamp) =
        disbursements state.history + 1 := by
    rw [disbursements, windows_append, List.length_append, windows_disbursal]
    rfl
  have funds : funded (state.history ++ disbursal event.window config.recipients event timestamp) =
      funded state.history := by
    rw [funded, tally_append, tally_disbursal_zero _ _ _ _ _ (fun _ _ => rfl) rfl, add_zero]
    rfl
  have withdrawals : withdrawn
      (state.history ++ disbursal event.window config.recipients event timestamp) =
        withdrawn state.history := by
    rw [withdrawn, tally_append, tally_disbursal_zero _ _ _ _ _ (fun _ _ => rfl) rfl, add_zero]
    rfl
  have funders : ∀ holder, fundedBy
      (state.history ++ disbursal event.window config.recipients event timestamp) holder =
        fundedBy state.history holder := by
    intro holder
    rw [fundedBy, tally_append, tally_disbursal_zero _ _ _ _ _ (fun _ _ => rfl) rfl, add_zero]
    rfl
  have payments : ∀ holder, received
      (state.history ++ disbursal event.window config.recipients event timestamp) holder =
        received state.history holder + lineShare config.recipients holder := by
    intro holder
    rw [received, tally_append, disbursal, tally_concat, add_zero, ← received_paid event.window]
    rfl
  constructor
  · exact account.configured
  · rw [count]
  · rw [count, windows_append, windows_disbursal, List.range_succ, account.inOrder, isNext]
  · intro old time member
    rcases List.mem_append.mp member with earlier | new
    · exact account.elapsed old time earlier
    · rcases List.mem_append.mp new with payment | last
      · rcases List.mem_map.mp payment with ⟨line, -, different⟩
        cases different
      · cases List.mem_singleton.mp last
        exact elapsed
  · dsimp only
    rw [allPaid_balances, if_pos rfl, lineShare_eq_zero apart, account.balance, count, funds,
      withdrawals, Nat.cast_succ]
    ring
  · intro holder
    rw [payments, account.receipts, count, Nat.cast_succ]
    ring
  · intro holder different
    dsimp only
    rw [allPaid_balances, if_neg different, account.holdings holder different, payments, funders,
      withdrawals]
    ring

theorem accounted_iff {state : State Address} (config : Config Address)
    (configured : state.config = some config) :
    Accounted contract initial state ↔
      ((∀ line ∈ config.recipients, line.to' ≠ contract) →
        Account contract initial config state) := by
  rw [Accounted, configured]

theorem Accounted.run (accounted : Accounted contract initial state)
    (succeeded : call.run env state = .ok next) : Accounted contract initial next := by
  cases call with
  | configure owner token recipients period =>
      rcases configure_eq_ok succeeded with ⟨unconfigured, -, rfl⟩
      rw [Accounted, unconfigured] at accounted
      exact fun _ => accounted.account _
  | fund source amount =>
      rcases fund_eq_ok succeeded with ⟨config, configured, other, rfl⟩
      refine (accounted_iff config ?_).mpr ?_
      · exact configured
      · exact fun apart => ((accounted_iff config configured).mp accounted apart).fund other
  | withdraw amount =>
      rcases withdraw_eq_ok succeeded with ⟨config, configured, other, rfl⟩
      refine (accounted_iff config ?_).mpr ?_
      · exact configured
      · exact fun apart => ((accounted_iff config configured).mp accounted apart).withdraw other
  | disburse =>
      rcases disburse_eq_ok succeeded with ⟨config, configured, elapsed, rfl⟩
      refine (accounted_iff config ?_).mpr ?_
      · exact configured
      · intro apart
        have account := (accounted_iff config configured).mp accounted apart
        have isNext : state.nextWindow.getD 0 = disbursements state.history := by
          rw [account.next]
          rfl
        rw [isNext] at elapsed
        rw [isNext, allPaid, List.append_assoc]
        exact account.disburse apart {
          window := disbursements state.history
          token := config.token
          windowStart := config.start + disbursements state.history * config.period
          total := lineTotal config.recipients
          recipients := config.recipients.length } env.timestamp rfl elapsed

theorem run_config (configured : state.config = some config)
    (succeeded : call.run env state = .ok next) : next.config = some config := by
  cases call with
  | configure owner token recipients period =>
      rcases configure_eq_ok succeeded with ⟨unconfigured, -, rfl⟩
      rw [configured] at unconfigured
      cases unconfigured
  | fund source amount =>
      rcases fund_eq_ok succeeded with ⟨-, -, -, rfl⟩
      exact configured
  | withdraw amount =>
      rcases withdraw_eq_ok succeeded with ⟨-, -, -, rfl⟩
      exact configured
  | disburse =>
      rcases disburse_eq_ok succeeded with ⟨-, -, -, rfl⟩
      exact configured

theorem Accounted.step (accounted : Accounted contract initial state)
    (invocation : Env Address contract × Call Address) :
    Accounted contract initial (state.step invocation) := by
  rw [State.step]
  split
  · rename_i next succeeded
    exact accounted.run succeeded
  · exact accounted

theorem step_config (configured : state.config = some config)
    (invocation : Env Address contract × Call Address) :
    (state.step invocation).config = some config := by
  rw [State.step]
  split
  · rename_i next succeeded
    exact run_config configured succeeded
  · exact configured

end Step

/-! ## Runs -/

section Run

variable {contract : Address}

theorem accounted_after (initial : Balances Address)
    (invocations : List (Env Address contract × Call Address)) :
    Accounted contract initial (State.after initial invocations) := by
  have run : ∀ (state : State Address), Accounted contract initial state →
      Accounted contract initial (invocations.foldl State.step state) := by
    induction invocations with
    | nil => exact fun state accounted => accounted
    | cons invocation rest induction =>
        exact fun state accounted => induction _ (accounted.step invocation)
  exact run (.deployed initial) ⟨rfl, rfl, rfl⟩

theorem config_foldl {state : State Address} {config : Config Address}
    (configured : state.config = some config)
    (invocations : List (Env Address contract × Call Address)) :
    (invocations.foldl State.step state).config = some config := by
  induction invocations generalizing state with
  | nil => exact configured
  | cons invocation rest induction => exact induction (step_config configured invocation)

/-- Without a configuration nothing has happened. With one, it is kept in every later run,
and when the contract is not one of its recipients the windows paid are the first ones in
order, each after it has elapsed, and the holdings are accounted for. -/
theorem payroll_invariant (initial : Balances Address)
    (invocations : List (Env Address contract × Call Address)) :
    ((State.after initial invocations).config = none →
      Untouched initial (State.after initial invocations)) ∧
    ∀ config, (State.after initial invocations).config = some config →
      (∀ more, (State.after initial (invocations ++ more)).config = some config) ∧
      ((∀ line ∈ config.recipients, line.to' ≠ contract) →
        Account contract initial config (State.after initial invocations)) := by
  have accounted := accounted_after initial invocations
  constructor
  · intro unconfigured
    rw [Accounted, unconfigured] at accounted
    exact accounted
  · intro config configured
    constructor
    · intro more
      rw [State.after, List.foldl_append]
      exact config_foldl configured more
    · intro apart
      exact (accounted_iff config configured).mp accounted apart

end Run

def exampleEnv (timestamp : Nat) : Env Nat 9 where
  signers := [1, 2]
  silent := by decide
  timestamp
  accepts := fun _ _ _ _ _ => true

def exampleConfig : Config Nat where
  owner := 1
  token := 5
  recipients := [⟨3, 10⟩, ⟨4, 2⟩]
  period := 60
  start := 100

def exampleRun : List (Env Nat 9 × Call Nat) :=
  [(exampleEnv 100, .configure 1 5 exampleConfig.recipients 60),
    (exampleEnv 101, .fund 2 30),
    (exampleEnv 159, .disburse),
    (exampleEnv 220, .disburse),
    (exampleEnv 220, .disburse),
    (exampleEnv 221, .withdraw 5)]

example : windows (State.after (fun _ _ => 0) exampleRun).history = [0, 1] := by decide

theorem exampleRun_account :
    Account 9 (fun _ _ => 0) exampleConfig (State.after (fun _ _ => 0) exampleRun) :=
  ((payroll_invariant (fun _ _ => 0) exampleRun).2 exampleConfig (by decide)).2 (by decide)

end Orbital.Contracts.Payroll
