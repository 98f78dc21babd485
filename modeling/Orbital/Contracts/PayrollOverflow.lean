import Orbital.Contracts.PayrollLedger

/-! # Arithmetic at the ends of the types

Which payrolls cannot be disbursed, or asked when they are due, because a number needs more
than its type has. The token refuses nothing here: a trap is one of arithmetic.
-/

namespace Orbital.Contracts.Payroll

open Foundation (bind_eq_ok bind_ne_error)

variable {Address : Type} [DecidableEq Address]

/-! ## Steps that do not trap -/

theorem u64_ne_trap {number : Nat} : u64 number ≠ .error .trap ↔ number < 2 ^ 64 := by
  rw [u64]
  split
  · rename_i fits
    exact iff_of_true (fun trapped => by cases trapped) fits
  · rename_i exceeds
    exact iff_of_false (fun ends => ends rfl) exceeds

theorem i128_ne_trap {number : Int} :
    i128 number ≠ .error .trap ↔ -2 ^ 127 ≤ number ∧ number < 2 ^ 127 := by
  rw [i128]
  split
  · rename_i fits
    exact iff_of_true (fun trapped => by cases trapped) fits
  · rename_i exceeds
    exact iff_of_false (fun ends => ends rfl) exceeds

theorem rejectIf_ne_trap (refused : Prop) [Decidable refused] (error : Error) :
    rejectIf refused error ≠ .error .trap := by
  rw [rejectIf]
  split
  · intro trapped
    cases trapped
  · intro trapped
    cases trapped

omit [DecidableEq Address] in
theorem lineTotal_nonneg {lines : List (Recipient Address)}
    (positive : ∀ line ∈ lines, 0 < line.amount) : 0 ≤ lineTotal lines := by
  apply List.sum_nonneg
  intro amount member
  rcases List.mem_map.mp member with ⟨line, inside, rfl⟩
  exact (positive line inside).le

omit [DecidableEq Address] in
theorem total_ne_trap {lines : List (Recipient Address)} {first : Int} (counted : 0 ≤ first)
    (fits : first < 2 ^ 127) (positive : ∀ line ∈ lines, 0 < line.amount) :
    lines.foldlM (fun total line => i128 (total + line.amount)) first ≠ .error .trap ↔
      first + lineTotal lines < 2 ^ 127 := by
  induction lines generalizing first with
  | nil =>
      refine iff_of_true (fun trapped => by cases trapped) ?_
      rw [lineTotal, List.map_nil, List.sum_nil, add_zero]
      exact fits
  | cons line lines induction =>
      rcases List.forall_mem_cons.mp positive with ⟨isPositive, others⟩
      have rest := lineTotal_nonneg others
      have whole : first + lineTotal (line :: lines) =
          first + line.amount + lineTotal lines := by
        rw [lineTotal, List.map_cons, List.sum_cons, add_assoc]
        rfl
      rw [List.foldlM_cons, bind_ne_error, i128_ne_trap, whole]
      constructor
      · rintro ⟨⟨-, small⟩, ends⟩
        exact (induction (by omega) small others).mp (ends _ (if_pos ⟨by omega, small⟩))
      · intro small
        refine ⟨⟨by omega, by omega⟩, ?_⟩
        intro total added
        cases i128_eq_ok added
        exact (induction (by omega) (by omega) others).mpr small

omit [DecidableEq Address] in
theorem loadConfig_ne_trap (state : State Address) : loadConfig state ≠ .error .trap := by
  rw [loadConfig]
  split
  · intro trapped
    cases trapped
  · intro trapped
    cases trapped

/-! ## The entry points -/

def dueAt (config : Config Address) (window : Nat) : Nat :=
  config.start + (window + 1) * config.period

structure Accepted (config : Config Address) : Prop where
  period : 0 < config.period
  amounts : ∀ line ∈ config.recipients, 0 < line.amount

section Entrypoints

variable {contract : Address}

def Env.trusting (env : Env Address contract) : Env Address contract :=
  { env with accepts := fun _ _ _ _ _ => true }

/-- The entry points that anyone may call return a value or an error of the contract. -/
def Disbursable (env : Env Address contract) (state : State Address) : Prop :=
  disburse env.trusting state ≠ .error .trap ∧ nextDueAt state ≠ .error .trap

variable {env : Env Address contract} {state : State Address} {config : Config Address}

theorem pay_ne_trap (config : Config Address) (window : Nat) (lines : List (Recipient Address))
    (state : State Address) :
    lines.foldlM (pay env.trusting config window) state ≠ .error .trap := by
  induction lines generalizing state with
  | nil =>
      intro trapped
      cases trapped
  | cons line lines induction => exact induction _

omit [DecidableEq Address] in
theorem small_of_dueAt (accepted : Accepted config) {window : Nat}
    (fits : dueAt config window < 2 ^ 64) :
    window + 1 < 2 ^ 64 ∧ (window + 1) * config.period < 2 ^ 64 ∧
      config.start + window * config.period < 2 ^ 64 := by
  have longer : window + 1 ≤ (window + 1) * config.period :=
    Nat.le_mul_of_pos_right _ accepted.period
  have shorter : window * config.period ≤ (window + 1) * config.period :=
    Nat.mul_le_mul_right _ (Nat.le_succ window)
  rw [dueAt] at fits
  omega

omit [DecidableEq Address] in
theorem nextDueAt_ne_trap (configured : state.config = some config) (accepted : Accepted config) :
    nextDueAt state ≠ .error .trap ↔ dueAt config (state.nextWindow.getD 0) < 2 ^ 64 := by
  have loaded : loadConfig state = .ok config := by
    rw [loadConfig, configured]
  constructor
  · intro ends
    have ends := (bind_ne_error.mp ends).2 config loaded
    rcases bind_ne_error.mp ends with ⟨following, ends⟩
    have ends := ends _ (if_pos (u64_ne_trap.mp following))
    rcases bind_ne_error.mp ends with ⟨product, ends⟩
    exact u64_ne_trap.mp (ends _ (if_pos (u64_ne_trap.mp product)))
  · intro fits
    rcases small_of_dueAt accepted fits with ⟨following, product, -⟩
    refine bind_ne_error.mpr ⟨loadConfig_ne_trap state, ?_⟩
    intro same isLoaded
    cases loaded.symm.trans isLoaded
    refine bind_ne_error.mpr ⟨u64_ne_trap.mpr following, ?_⟩
    intro next isNext
    cases u64_eq_ok isNext
    refine bind_ne_error.mpr ⟨u64_ne_trap.mpr product, ?_⟩
    intro periods isPeriods
    cases u64_eq_ok isPeriods
    exact u64_ne_trap.mpr fits

theorem disburse_ne_trap (configured : state.config = some config) (accepted : Accepted config) :
    disburse env.trusting state ≠ .error .trap ↔
      dueAt config (state.nextWindow.getD 0) < 2 ^ 64 ∧
        (dueAt config (state.nextWindow.getD 0) ≤ env.timestamp →
          lineTotal config.recipients < 2 ^ 127) := by
  have loaded : loadConfig state = .ok config := by
    rw [loadConfig, configured]
  have due : config.start + state.nextWindow.getD 0 * config.period + config.period =
      dueAt config (state.nextWindow.getD 0) := by
    rw [dueAt, Nat.succ_mul, Nat.add_assoc]
  have total := @total_ne_trap Address config.recipients 0 (le_refl 0) (by decide)
    accepted.amounts
  rw [zero_add] at total
  constructor
  · intro ends
    have ends := (bind_ne_error.mp ends).2 config loaded
    rcases bind_ne_error.mp ends with ⟨product, ends⟩
    have ends := ends _ (if_pos (u64_ne_trap.mp product))
    rcases bind_ne_error.mp ends with ⟨windowStart, ends⟩
    have ends := ends _ (if_pos (u64_ne_trap.mp windowStart))
    rcases bind_ne_error.mp ends with ⟨dueToo, ends⟩
    have fits := u64_ne_trap.mp dueToo
    have ends := ends _ (if_pos fits)
    rw [due] at fits ends
    refine ⟨fits, ?_⟩
    intro elapsed
    have ends := (bind_ne_error.mp ends).2 () (if_neg (Nat.not_lt.mpr elapsed))
    exact total.mp (bind_ne_error.mp ends).1
  · rintro ⟨fits, summed⟩
    rcases small_of_dueAt accepted fits with ⟨following, -, windowStart⟩
    have product : state.nextWindow.getD 0 * config.period < 2 ^ 64 :=
      Nat.lt_of_le_of_lt (Nat.le_add_left _ _) windowStart
    refine bind_ne_error.mpr ⟨loadConfig_ne_trap state, ?_⟩
    intro same isLoaded
    cases loaded.symm.trans isLoaded
    refine bind_ne_error.mpr ⟨u64_ne_trap.mpr product, ?_⟩
    intro periods isPeriods
    cases u64_eq_ok isPeriods
    refine bind_ne_error.mpr ⟨u64_ne_trap.mpr windowStart, ?_⟩
    intro begins isBegins
    cases u64_eq_ok isBegins
    refine bind_ne_error.mpr ⟨u64_ne_trap.mpr (due ▸ fits), ?_⟩
    intro dueTime isDue
    cases u64_eq_ok isDue
    refine bind_ne_error.mpr ⟨rejectIf_ne_trap _ _, ?_⟩
    intro _ onTime
    have elapsed := rejectIf_eq_ok onTime
    rw [due] at elapsed
    refine bind_ne_error.mpr ⟨total.mpr (summed (Nat.not_lt.mp elapsed)), ?_⟩
    intro sum _
    refine bind_ne_error.mpr ⟨rejectIf_ne_trap _ _, ?_⟩
    intro _ _
    refine bind_ne_error.mpr ⟨u64_ne_trap.mpr following, ?_⟩
    intro next _
    refine bind_ne_error.mpr ⟨pay_ne_trap _ _ _ _, ?_⟩
    intro paid _ trapped
    cases trapped

/-! ## Every state of a payroll -/

/-- The configuration, if there is one, has passed the checks of `configure`. -/
def Checked (state : State Address) : Prop :=
  ∀ config, state.config = some config → Accepted config

theorem accepted_of_configure {owner token : Address} {recipients : List (Recipient Address)}
    {period : Nat} {next : State Address}
    (succeeded : configure env owner token recipients period state = .ok next) :
    Checked next := by
  rcases bind_eq_ok.mp succeeded with ⟨-, -, succeeded⟩
  rcases bind_eq_ok.mp succeeded with ⟨-, -, succeeded⟩
  rcases bind_eq_ok.mp succeeded with ⟨-, -, succeeded⟩
  rcases bind_eq_ok.mp succeeded with ⟨_, someTime, succeeded⟩
  rcases bind_eq_ok.mp succeeded with ⟨_, someAmounts, succeeded⟩
  cases succeeded
  intro config isConfig
  cases isConfig
  refine ⟨Nat.pos_of_ne_zero (rejectIf_eq_ok someTime), ?_⟩
  intro line member
  exact not_le.mp fun nothing => rejectIf_eq_ok someAmounts ⟨line, member, nothing⟩

theorem Checked.step (checked : Checked state) (invocation : Env Address contract × Call Address) :
    Checked (state.step invocation) := by
  rw [State.step]
  split
  · rename_i next succeeded
    cases invoked : invocation.2 with
    | configure owner token recipients period =>
        rw [invoked] at succeeded
        exact accepted_of_configure succeeded
    | fund source amount =>
        rw [invoked] at succeeded
        rcases fund_eq_ok succeeded with ⟨-, -, -, rfl⟩
        exact checked
    | withdraw amount =>
        rw [invoked] at succeeded
        rcases withdraw_eq_ok succeeded with ⟨-, -, -, rfl⟩
        exact checked
    | disburse =>
        rw [invoked] at succeeded
        rcases disburse_eq_ok succeeded with ⟨-, -, -, rfl⟩
        exact checked
  · exact checked

theorem checked_after (initial : Balances Address)
    (invocations : List (Env Address contract × Call Address)) :
    Checked (State.after initial invocations) := by
  have run : ∀ state : State Address, Checked state →
      Checked (invocations.foldl State.step state) := by
    induction invocations with
    | nil => exact fun state checked => checked
    | cons invocation rest induction =>
        exact fun state checked => induction _ (checked.step invocation)
  exact run _ fun config configured => by cases configured

/-- In every state that calls lead to, and at every ledger timestamp, a configured payroll can
be disbursed and asked for its due time if and only if that time fits its type, and the total
does when the time has come. -/
theorem disbursable_iff (initial : Balances Address)
    (invocations : List (Env Address contract × Call Address)) (env : Env Address contract) :
    Disbursable env (State.after initial invocations) ↔
      ∀ config, (State.after initial invocations).config = some config →
        dueAt config ((State.after initial invocations).nextWindow.getD 0) < 2 ^ 64 ∧
          (dueAt config ((State.after initial invocations).nextWindow.getD 0) ≤ env.timestamp →
            lineTotal config.recipients < 2 ^ 127) := by
  cases configured : (State.after initial invocations).config with
  | none =>
      refine iff_of_true ⟨?_, ?_⟩ fun config isConfig => by cases isConfig
      · rw [disburse, loadConfig, configured]
        intro trapped
        cases trapped
      · rw [nextDueAt, loadConfig, configured]
        intro trapped
        cases trapped
  | some config =>
      have accepted := checked_after initial invocations config configured
      rw [Disbursable, disburse_ne_trap configured accepted,
        nextDueAt_ne_trap configured accepted]
      constructor
      · rintro ⟨both, -⟩ other isConfig
        cases isConfig
        exact both
      · intro fits
        exact ⟨fits config rfl, (fits config rfl).1⟩

end Entrypoints

/-! ### A period, and amounts, that are too large -/

def configuredWith (recipients : List (Recipient Nat)) (period : Nat) : State Nat :=
  State.after (fun _ _ => 0) [(exampleEnv 100, .configure 1 5 recipients period)]

def tooLong : State Nat :=
  configuredWith [⟨3, 10⟩] (2 ^ 64 - 1)

def tooMuch : State Nat :=
  configuredWith [⟨3, 2 ^ 127 - 1⟩, ⟨4, 1⟩] 60

/-- The first window would be due behind the last timestamp, or the sum has no number. -/
theorem traps :
    tooLong.config = some ⟨1, 5, [⟨3, 10⟩], 2 ^ 64 - 1, 100⟩ ∧
      ¬ Disbursable (exampleEnv 100) tooLong ∧
        tooMuch.config = some ⟨1, 5, [⟨3, 2 ^ 127 - 1⟩, ⟨4, 1⟩], 60, 100⟩ ∧
          ¬ Disbursable (exampleEnv 160) tooMuch := by
  have long : tooLong.config = some ⟨1, 5, [⟨3, 10⟩], 2 ^ 64 - 1, 100⟩ := rfl
  have much : tooMuch.config = some ⟨1, 5, [⟨3, 2 ^ 127 - 1⟩, ⟨4, 1⟩], 60, 100⟩ := rfl
  refine ⟨long, ?_, much, ?_⟩
  · intro disbursable
    have accepted := checked_after (fun _ _ => 0) _ _ long
    exact absurd ((nextDueAt_ne_trap long accepted).mp disbursable.2) (by decide)
  · intro disbursable
    have accepted := checked_after (fun _ _ => 0) _ _ much
    have total := ((disburse_ne_trap much accepted).mp disbursable.1).2 (by decide)
    exact absurd total (by decide)

end Orbital.Contracts.Payroll
