import Orbital.Foundation.Fallible
import Orbital.Foundation.InsertionMap
import Orbital.Foundation.Machine
import Orbital.Foundation.NumberText

/-! # `worker-core/src/sponsorshipPolicy.ts`

What may be sponsored: bumps of one account in a rolling window, the base fee of a bump and
the spend of a day. Times are whole milliseconds, fees are stroops, and amounts of XLM are
numbers of 64 bits.
-/

namespace Orbital.WorkerCore

open Foundation

def bigintText (number : Int) : JsString :=
  (if number < 0 then js "-" else []) ++ Digits.text (Digits.ofNat number.natAbs)

def toFixed7 : JsNumber → JsString
  | .finite negative magnitude =>
      if 10 ^ 21 * 2 ^ places ≤ magnitude.units then JsNumber.text (.finite negative magnitude)
      else
        let scaled := (2 * magnitude.units * 10 ^ 7 + 2 ^ places) / (2 * 2 ^ places)
        (if negative && magnitude != .zero then js "-" else []) ++
          Digits.text (Digits.ofNat (scaled / 10 ^ 7)) ++ js "." ++
          Digits.text (Digits.padded 7 scaled)
  | number => number.text

/-! ## Days -/

/-- The year, month and day of a number of days since the epoch. -/
def civilDate (days : Int) : Int × Nat × Nat :=
  -- Years are counted from March, so that a leap day is the last day of its year.
  let shifted := days + 719468
  let dayOfEra := (shifted % 146097).toNat
  let yearOfEra := (dayOfEra - dayOfEra / 1460 + dayOfEra / 36524 - dayOfEra / 146096) / 365
  let dayOfYear := dayOfEra - (365 * yearOfEra + yearOfEra / 4 - yearOfEra / 100)
  let monthFromMarch := (5 * dayOfYear + 2) / 153
  let month := if monthFromMarch < 10 then monthFromMarch + 3 else monthFromMarch - 9
  let year := shifted / 146097 * 400 + yearOfEra + if month ≤ 2 then 1 else 0
  (year, month, dayOfYear - (153 * monthFromMarch + 2) / 5 + 1)

/-- The date in front of the time in `toISOString()`. -/
def isoDate (days : Int) : JsString :=
  let padded (count : Nat) (number : Nat) : JsString := Digits.text (Digits.padded count number)
  let (year, month, day) := civilDate days
  let yearText :=
    if 0 ≤ year ∧ year ≤ 9999 then padded 4 year.toNat
    else (if year < 0 then js "-" else js "+") ++ padded 6 year.natAbs
  yearText ++ js "-" ++ padded 2 month ++ js "-" ++ padded 2 day

/-- `new Date(nowMs).toISOString().slice(0, 10)` -/
def utcDateString (nowMs : Int) : JsString :=
  (isoDate (nowMs / 86400000)).take 10

example : utcDateString 1709251199999 = js "2024-02-29" := by decide +kernel

/-! ## Errors -/

/-- No time to wait is no number. -/
inductive SponsorshipError
  | rateLimited (userId : JsString) (retryAfterMs : Option Int)
  | feeTooHigh (requestedFee maxFee : Int)
  | floatExhausted (dailySpentXlm ceilingXlm : JsNumber)
  deriving DecidableEq

def SponsorshipError.message : SponsorshipError → JsString
  | rateLimited userId retryAfterMs =>
      js "[paymaster] rate limit exceeded for account " ++ userId ++ js ". Retry after " ++
        retryAfterMs.elim (js "NaN") bigintText ++ js "ms."
  | feeTooHigh requestedFee maxFee =>
      js "[paymaster] requested base fee " ++ bigintText requestedFee ++
        js " stroops exceeds max allowed " ++ bigintText maxFee ++ js " stroops."
  | floatExhausted dailySpentXlm ceilingXlm =>
      js "[paymaster] daily XLM float exhausted: spent " ++ toFixed7 dailySpentXlm ++
        js " XLM of " ++ toFixed7 ceilingXlm ++
        js " XLM ceiling. Operator must top up the paymaster account."

/-! ## Configuration -/

/-- The ceiling is finite and not negative, as its documentation asks. -/
structure SponsorshipPolicyConfig where
  maxBumpsPerUserPerWindow : Option Nat
  windowMs : Option Int
  maxFeePerBump : Option Int
  dailyXlmCeiling : Option Magnitude

structure ResolvedPolicy where
  maxBumpsPerUserPerWindow : Nat
  windowMs : Int
  maxFeePerBump : Int
  dailyXlmCeiling : Magnitude

def stroopPerXlm : Nat :=
  10000000

def tenXlm : Magnitude where
  significand := 5 * 2 ^ 50
  exponent := 1025
  significand_lt := by decide
  exponent_le := by decide
  normal := .inr (by decide)

example : tenXlm.units = 10 * 2 ^ places := by decide +kernel

def resolvePolicy (config : SponsorshipPolicyConfig) : ResolvedPolicy where
  maxBumpsPerUserPerWindow := config.maxBumpsPerUserPerWindow.getD 10
  windowMs := config.windowMs.getD 60000
  maxFeePerBump := config.maxFeePerBump.getD 10000
  dailyXlmCeiling := config.dailyXlmCeiling.getD tenXlm

/-! ## The policy -/

structure UserBucket where
  timestamps : List Int

structure DailySpend where
  date : JsString
  stroops : Nat

structure SponsorshipPolicy where
  policy : ResolvedPolicy
  buckets : InsertionMap JsString UserBucket
  daily : DailySpend

namespace SponsorshipPolicy

def new (config : SponsorshipPolicyConfig) : SponsorshipPolicy where
  policy := resolvePolicy config
  buckets := .empty
  daily := ⟨[], 0⟩

variable (policy : SponsorshipPolicy)

def windowStart (nowMs : Int) : Int :=
  nowMs - policy.policy.windowMs

def recent (bucket : UserBucket) (nowMs : Int) : List Int :=
  bucket.timestamps.filter fun time => policy.windowStart nowMs < time

def checkRateLimit (userId : JsString) (nowMs : Int) : Except SponsorshipError Unit :=
  match policy.buckets.get? userId with
  | none => .ok ()
  | some bucket =>
      if policy.policy.maxBumpsPerUserPerWindow ≤ (policy.recent bucket nowMs).length then
        .error (.rateLimited userId ((policy.recent bucket nowMs).head?.map fun oldestInWindow =>
          max 0 (oldestInWindow + policy.policy.windowMs - nowMs)))
      else .ok ()

def checkFeeCap (requestedBaseFee : Int) : Except SponsorshipError Unit :=
  if policy.policy.maxFeePerBump < requestedBaseFee then
    .error (.feeTooHigh requestedBaseFee policy.policy.maxFeePerBump)
  else .ok ()

def spentOn (date : JsString) : Nat :=
  if policy.daily.date = date then policy.daily.stroops else 0

/-- `Number(stroops) / Number(STROOP_PER_XLM)`. No finite number is infinite. -/
def xlmOfStroops (stroops : Nat) : Option Magnitude := do
  let number ← Decimal.toMagnitude ⟨stroops, 0⟩
  nearest number.units stroopPerXlm

def checkDailyFloat (nowMs : Int) : Except SponsorshipError Unit :=
  let spentXlm := xlmOfStroops (policy.spentOn (utcDateString nowMs))
  let error := SponsorshipError.floatExhausted (.ofRounded false spentXlm)
    (.finite false policy.policy.dailyXlmCeiling)
  match spentXlm with
  | none => .error error
  | some spent =>
      if policy.policy.dailyXlmCeiling.units ≤ spent.units then .error error else .ok ()

def check (userId : JsString) (requestedBaseFee nowMs : Int) : Except SponsorshipError Unit := do
  policy.checkRateLimit userId nowMs
  policy.checkFeeCap requestedBaseFee
  policy.checkDailyFloat nowMs

def recordRateLimit (userId : JsString) (nowMs : Int) : SponsorshipPolicy :=
  let bucket := (policy.buckets.get? userId).getD ⟨[]⟩
  { policy with buckets := policy.buckets.set userId ⟨policy.recent bucket nowMs ++ [nowMs]⟩ }

def recordDailySpend (totalFeeStroops : Nat) (nowMs : Int) : SponsorshipPolicy :=
  let today := utcDateString nowMs
  { policy with daily := ⟨today, policy.spentOn today + totalFeeStroops⟩ }

def record (userId : JsString) (totalFeeStroops : Nat) (nowMs : Int) : SponsorshipPolicy :=
  (policy.recordRateLimit userId nowMs).recordDailySpend totalFeeStroops nowMs

end SponsorshipPolicy

end Orbital.WorkerCore

/-! ## `worker-core/src/Paymaster.ts`

Signed transactions of users are wrapped in fee bumps that the operator pays. Transactions
are parsed and fee bumps are built by the SDK of the network.
-/

namespace Orbital.WorkerCore

open Foundation

/-! ## The SDK -/

structure Transaction where
  source : JsString
  operations : Nat
  signatures : Nat
  envelopeXdr : JsString
  deriving DecidableEq

inductive ParsedTransaction
  | transaction (inner : Transaction)
  | feeBumpTransaction

structure FeeBump where
  fee : Nat
  envelopeXdr : JsString
  deriving DecidableEq

structure StellarSdk (Keypair : Type) where
  publicKey : Keypair → JsString
  fromXDR : (xdr networkPassphrase : JsString) → Except JsString ParsedTransaction
  /-- Builds the fee bump with a base fee, and signs it with the same key pair. -/
  buildFeeBumpTransaction :
    Keypair → (baseFee : JsString) → Transaction → (networkPassphrase : JsString) →
      Except JsString FeeBump

/-! ## Errors -/

inductive BumpError
  | selfWrap (operatorAddress : JsString)
  | invalidInnerTransaction (reason : JsString)
  | policy (error : SponsorshipError)
  | sdk (message : JsString)
  deriving DecidableEq

def BumpError.message : BumpError → JsString
  | selfWrap operatorAddress =>
      js "[paymaster] refused to wrap an inner transaction whose source is the operator account (" ++
        operatorAddress ++ js "). Wrapping the operator's own transactions is not permitted."
  | invalidInnerTransaction reason => js "[paymaster] invalid inner transaction: " ++ reason
  | policy error => error.message
  | sdk message => message

/-! ## The paymaster -/

structure Paymaster (Keypair : Type) where
  keypair : Keypair
  network : JsString
  policy : SponsorshipPolicy

structure BumpRequest where
  innerXdr : JsString
  baseFee : Int
  nowMs : Int

structure BumpResult where
  feeBumpXdr : JsString
  totalFeeStroops : Nat
  innerSource : JsString
  deriving DecidableEq

namespace Paymaster

variable {Keypair : Type} (sdk : StellarSdk Keypair) (paymaster : Paymaster Keypair)

def new (keypair : Keypair) (network : JsString) (config : SponsorshipPolicyConfig) :
    Paymaster Keypair where
  keypair := keypair
  network := network
  policy := .new config

def parseInner (xdr : JsString) : Except BumpError Transaction :=
  match sdk.fromXDR xdr paymaster.network with
  | .error _ => .error (.invalidInnerTransaction
      (js "XDR could not be parsed as a Stellar transaction envelope"))
  | .ok .feeBumpTransaction => .error (.invalidInnerTransaction
      (js "inner transaction must be a regular Transaction, not a FeeBumpTransaction " ++
        js "(nesting fee bumps is not permitted by the Stellar protocol)"))
  | .ok (.transaction inner) =>
      if inner.operations = 0 then .error (.invalidInnerTransaction
        (js "inner transaction has no operations; fee-bump requires at least one"))
      else if inner.signatures = 0 then .error (.invalidInnerTransaction
        (js "inner transaction has no signatures; the user must sign before the paymaster wraps"))
      else .ok inner

def bump (request : BumpRequest) : Except BumpError (BumpResult × Paymaster Keypair) := do
  let innerTx ← paymaster.parseInner sdk request.innerXdr
  let operatorAddress := sdk.publicKey paymaster.keypair
  if innerTx.source = operatorAddress then
    .error (.selfWrap operatorAddress)
  else
    (paymaster.policy.check innerTx.source request.baseFee request.nowMs).mapError .policy
    let feeBump ← (sdk.buildFeeBumpTransaction paymaster.keypair (bigintText request.baseFee)
      innerTx paymaster.network).mapError .sdk
    return ({
      feeBumpXdr := feeBump.envelopeXdr
      totalFeeStroops := feeBump.fee
      innerSource := innerTx.source }, { paymaster with
        policy := paymaster.policy.record innerTx.source feeBump.fee request.nowMs })

/-! ## What a call does -/

structure Grants (request : BumpRequest) (innerTx : Transaction) (feeBump : FeeBump) : Prop where
  parsed : paymaster.parseInner sdk request.innerXdr = .ok innerTx
  other : innerTx.source ≠ sdk.publicKey paymaster.keypair
  checked : paymaster.policy.check innerTx.source request.baseFee request.nowMs = .ok ()
  built : sdk.buildFeeBumpTransaction paymaster.keypair (bigintText request.baseFee) innerTx
    paymaster.network = .ok feeBump

variable {sdk paymaster} {request : BumpRequest} {result : BumpResult}
  {next : Paymaster Keypair}

theorem bump_eq_ok (called : paymaster.bump sdk request = .ok (result, next)) :
    ∃ innerTx feeBump, paymaster.Grants sdk request innerTx feeBump ∧
      result = ⟨feeBump.envelopeXdr, feeBump.fee, innerTx.source⟩ ∧
      next = { paymaster with
        policy := paymaster.policy.record innerTx.source feeBump.fee request.nowMs } := by
  rcases bind_eq_ok.mp called with ⟨innerTx, parsed, called⟩
  dsimp only at called
  split at called
  · cases called
  · rename_i other
    rcases bind_eq_ok.mp called with ⟨_, checked, called⟩
    rcases bind_eq_ok.mp called with ⟨feeBump, built, called⟩
    cases called
    exact ⟨innerTx, feeBump, ⟨parsed, other, mapError_eq_ok.mp checked, mapError_eq_ok.mp built⟩,
      rfl, rfl⟩

theorem Grants.bump_eq {innerTx : Transaction} {feeBump : FeeBump}
    (grants : paymaster.Grants sdk request innerTx feeBump) :
    paymaster.bump sdk request = .ok (⟨feeBump.envelopeXdr, feeBump.fee, innerTx.source⟩,
      { paymaster with
        policy := paymaster.policy.record innerTx.source feeBump.fee request.nowMs }) := by
  rw [bump, grants.parsed]
  show (if _ then _ else _) = _
  rw [if_neg grants.other, grants.checked, grants.built]
  rfl

/-! ## Runs -/

variable (sdk paymaster)

def machine : Machine (Paymaster Keypair) BumpRequest (Except BumpError BumpResult) where
  step paymaster request :=
    match paymaster.bump sdk request with
    | .error error => (.error error, paymaster)
    | .ok (result, next) => (.ok result, next)

structure SignedBump where
  nowMs : Int
  result : BumpResult
  deriving DecidableEq

def signed (paymaster : Paymaster Keypair) : List BumpRequest → List SignedBump
  | [] => []
  | request :: rest =>
      match paymaster.bump sdk request with
      | .error _ => paymaster.signed rest
      | .ok (result, next) => ⟨request.nowMs, result⟩ :: next.signed rest

end Paymaster

end Orbital.WorkerCore
