import Mathlib.Algebra.Order.Field.Power
import Mathlib.Algebra.Order.Field.Rat
import Orbital.Foundation.NumberText
import Orbital.Foundation.Ratios

/-! # `worker-core/src/guards/priceGuard.ts`

The checks of a price before a worker builds a transaction: its age, and how far two sources
are apart. Seconds are exact numbers.
-/

namespace Orbital.WorkerCore.Guards

open Foundation

structure PriceReading where
  price : Int
  decimals : Int
  observedAtUnix : ℚ
  source : JsString
  deriving DecidableEq

structure StalenessBound where
  maxAgeSeconds : ℚ
  deriving DecidableEq

/-- A number of basis points that a bound may have. -/
inductive BasisPoints
  | finite (bps : ℚ)
  | infinite (negative : Bool)
  | nan
  deriving DecidableEq

structure DeviationBound where
  maxDivergenceBps : BasisPoints
  deriving DecidableEq

structure PriceGuardConfig where
  staleness : StalenessBound
  deviation : DeviationBound

inductive PriceGuardVerdict
  | ok
  | stale (source : JsString) (ageSeconds : ℚ) (bound : StalenessBound)
  | diverging (divergenceBps : JsNumber) (bound : DeviationBound)
      (readings : PriceReading × PriceReading)
  deriving DecidableEq

/-- What `BigInt` throws for a number that is no integer. -/
inductive PriceGuardError
  | rangeError
  deriving DecidableEq

/-- `BigInt(number)` -/
def BasisPoints.bigInt : BasisPoints → Except PriceGuardError Int
  | finite bps => if bps.den = 1 then .ok bps.num else .error .rangeError
  | infinite _ | nan => .error .rangeError

/-- `Number(integer)` for an integer that is not negative. -/
def numberOf (integer : Int) : JsNumber :=
  NumberLiteral.toNumber ⟨false, integer.toNat, [], none⟩

def checkStaleness (reading : PriceReading) (bound : StalenessBound) (nowUnix : ℚ) :
    PriceGuardVerdict :=
  let ageSeconds := nowUnix - reading.observedAtUnix
  if ageSeconds < 0 ∨ bound.maxAgeSeconds < ageSeconds then
    .stale reading.source ageSeconds bound
  else .ok

def scaleTo (reading : PriceReading) (targetDecimals : Int) : Int :=
  let diff := targetDecimals - reading.decimals
  if diff = 0 then reading.price
  else if 0 < diff then reading.price * 10 ^ diff.toNat
  else reading.price.tdiv (10 ^ (-diff).toNat)

def checkDeviation (a b : PriceReading) (bound : DeviationBound) :
    Except PriceGuardError PriceGuardVerdict :=
  let targetDecimals := max a.decimals b.decimals
  let scaledA := scaleTo a targetDecimals
  let scaledB := scaleTo b targetDecimals
  if scaledA ≤ 0 ∨ scaledB ≤ 0 then .ok (.diverging (.infinite false) bound (a, b))
  else
    let diff := if scaledB < scaledA then scaledA - scaledB else scaledB - scaledA
    let smaller := if scaledA < scaledB then scaledA else scaledB
    let divergenceBpsExact := (diff * 10000).tdiv smaller
    match bound.maxDivergenceBps.bigInt with
    | .error error => .error error
    | .ok maxDivergenceBps =>
        if maxDivergenceBps < divergenceBpsExact then
          .ok (.diverging (numberOf divergenceBpsExact) bound (a, b))
        else .ok .ok

def checkPriceGuard (primary secondary : PriceReading) (config : PriceGuardConfig)
    (nowUnix : ℚ) : Except PriceGuardError PriceGuardVerdict :=
  match checkStaleness primary config.staleness nowUnix with
  | .ok =>
      match checkStaleness secondary config.staleness nowUnix with
      | .ok => checkDeviation primary secondary config.deviation
      | verdict => .ok verdict
  | verdict => .ok verdict

/-! ## The exact deviation -/

def PriceReading.worth (reading : PriceReading) : ℚ :=
  reading.price / 10 ^ reading.decimals

def BasisPoints.Allows (deviation : ℚ) : BasisPoints → Prop
  | finite bps => deviation ≤ bps / 10000
  | infinite negative => negative = false
  | nan => False

def PriceGuardVerdict.swap : PriceGuardVerdict → PriceGuardVerdict
  | ok => ok
  | stale source ageSeconds bound => stale source ageSeconds bound
  | diverging divergenceBps bound readings => diverging divergenceBps bound readings.swap

structure ExactCheck (a b : PriceReading) (bound : DeviationBound) : Prop where
  accepts : checkDeviation a b bound = .ok .ok ↔
    bound.maxDivergenceBps.Allows (deviation a.worth b.worth)
  symmetric : checkDeviation b a bound = (checkDeviation a b bound).map PriceGuardVerdict.swap

/-- An integer bound is not less than one basis point below the exact deviation, and another
bound does not allow it. -/
def Decided (bound : DeviationBound) (deviation : ℚ) : Prop :=
  match bound.maxDivergenceBps.bigInt with
  | .ok bps => ¬ (bps < deviation * 10000 ∧ deviation * 10000 < bps + 1)
  | .error _ => ¬ bound.maxDivergenceBps.Allows deviation

section Scaled

variable {a b : PriceReading} {bound : DeviationBound}

variable {reading : PriceReading} {targetDecimals : Int}

theorem scaleTo_of_le (le : reading.decimals ≤ targetDecimals) :
    scaleTo reading targetDecimals =
      reading.price * 10 ^ (targetDecimals - reading.decimals).toNat := by
  rw [scaleTo]
  split
  · rename_i same
    rw [same, Int.toNat_zero, pow_zero, mul_one]
  · rename_i different
    rw [if_pos (by omega)]

theorem scaleTo_eq (le : reading.decimals ≤ targetDecimals) :
    (scaleTo reading targetDecimals : ℚ) = 10 ^ targetDecimals * reading.worth := by
  have places : (10 : ℚ) ^ (targetDecimals - reading.decimals).toNat =
      10 ^ (targetDecimals - reading.decimals) := by
    rw [← zpow_natCast, Int.toNat_of_nonneg (by omega)]
  rw [scaleTo_of_le le, PriceReading.worth, Int.cast_mul, Int.cast_pow, Int.cast_ofNat, places,
    zpow_sub₀ (by norm_num), mul_div_assoc', mul_div_assoc', mul_comm]

theorem scaleTo_pos (le : reading.decimals ≤ targetDecimals) (positive : 0 < reading.price) :
    0 < scaleTo reading targetDecimals := by
  rw [scaleTo_of_le le]
  exact Int.mul_pos positive (Int.pow_pos (by decide))

def scaled (a b : PriceReading) : Int × Int :=
  (scaleTo a (max a.decimals b.decimals), scaleTo b (max a.decimals b.decimals))

theorem scaled_swap (a b : PriceReading) : scaled b a = (scaled a b).swap := by
  rw [scaled, scaled, max_comm]
  rfl

theorem scaled_pos (positiveA : 0 < a.price) (positiveB : 0 < b.price) :
    0 < (scaled a b).1 ∧ 0 < (scaled a b).2 :=
  ⟨scaleTo_pos (le_max_left _ _) positiveA, scaleTo_pos (le_max_right _ _) positiveB⟩

theorem deviation_scaled (a b : PriceReading) :
    deviation ((scaled a b).1 : ℚ) (scaled a b).2 = deviation a.worth b.worth := by
  rw [scaled, scaleTo_eq (le_max_left _ _), scaleTo_eq (le_max_right _ _)]
  exact deviation_mul (zpow_pos (by norm_num) _) _ _

def divergence (prices : Int × Int) : Int × Int :=
  (|prices.1 - prices.2| * 10000, min prices.1 prices.2)

theorem divergence_swap (prices : Int × Int) : divergence prices.swap = divergence prices := by
  rw [divergence, divergence, Prod.fst_swap, Prod.snd_swap, abs_sub_comm, min_comm]

theorem div_divergence (prices : Int × Int) :
    ((divergence prices).1 : ℚ) / (divergence prices).2 =
      deviation (prices.1 : ℚ) prices.2 * 10000 := by
  rw [divergence, deviation]
  push_cast
  rw [div_mul_eq_mul_div]

theorem checkDeviation_eq (positiveA : 0 < a.price) (positiveB : 0 < b.price) :
    checkDeviation a b bound =
      match bound.maxDivergenceBps.bigInt with
      | .error error => .error error
      | .ok bps =>
          let divergenceBps := (divergence (scaled a b)).1.tdiv (divergence (scaled a b)).2
          if bps < divergenceBps then
            .ok (.diverging (numberOf divergenceBps) bound (a, b))
          else .ok .ok := by
  have positive := scaled_pos positiveA positiveB
  have diff : (if (scaled a b).2 < (scaled a b).1 then (scaled a b).1 - (scaled a b).2
      else (scaled a b).2 - (scaled a b).1) = |(scaled a b).1 - (scaled a b).2| := by
    split
    · rename_i lt
      rw [abs_of_pos (by omega)]
    · rename_i le
      rw [abs_sub_comm, abs_of_nonneg (by omega)]
  have smaller : (if (scaled a b).1 < (scaled a b).2 then (scaled a b).1 else (scaled a b).2) =
      min (scaled a b).1 (scaled a b).2 := by
    rw [min_def]
    split <;> split <;> omega
  rw [checkDeviation]
  dsimp only [divergence]
  rw [← diff, ← smaller]
  exact if_neg (by simpa [scaled] using positive)

theorem checkDeviation_swap (positiveA : 0 < a.price) (positiveB : 0 < b.price) :
    checkDeviation b a bound = (checkDeviation a b bound).map PriceGuardVerdict.swap := by
  rw [checkDeviation_eq positiveA positiveB, checkDeviation_eq positiveB positiveA, scaled_swap,
    divergence_swap]
  cases bound.maxDivergenceBps.bigInt with
  | error error => rfl
  | ok bps =>
      dsimp only
      split <;> rfl

theorem accepts_iff (positiveA : 0 < a.price) (positiveB : 0 < b.price) :
    checkDeviation a b bound = .ok .ok ↔
      ∃ bps, bound.maxDivergenceBps.bigInt = .ok bps ∧
        (divergence (scaled a b)).1.tdiv (divergence (scaled a b)).2 ≤ bps := by
  rw [checkDeviation_eq positiveA positiveB]
  cases bound.maxDivergenceBps.bigInt with
  | error error => simp
  | ok bps =>
      dsimp only
      split
      · rename_i above
        simp only [Except.ok.injEq, reduceCtorEq, exists_eq_left', false_iff]
        exact not_le.mpr above
      · rename_i within
        simp only [Except.ok.injEq, exists_eq_left', true_iff]
        exact not_lt.mp within

end Scaled

theorem BasisPoints.allows_iff {bound : BasisPoints} {bps : Int} (integer : bound.bigInt = .ok bps)
    (deviation : ℚ) : bound.Allows deviation ↔ deviation * 10000 ≤ bps := by
  cases bound with
  | finite number =>
      rw [bigInt] at integer
      split at integer
      · rename_i isInteger
        cases integer
        rw [Allows, le_div_iff₀ (by norm_num), Rat.coe_int_num_of_den_eq_one isInteger]
      · cases integer
  | infinite negative | nan => cases integer

/-- Of two positive prices the check is exact if and only if the bound is decided: the exact
deviation is not above an integer bound by less than a basis point, and no other bound allows
it. -/
theorem checkDeviation_exact_iff (a b : PriceReading) (bound : DeviationBound)
    (positiveA : 0 < a.price) (positiveB : 0 < b.price) :
    ExactCheck a b bound ↔ Decided bound (deviation a.worth b.worth) := by
  have accepts : ExactCheck a b bound ↔ (checkDeviation a b bound = .ok .ok ↔
      bound.maxDivergenceBps.Allows (deviation a.worth b.worth)) :=
    ⟨ExactCheck.accepts, fun accepts => ⟨accepts, checkDeviation_swap positiveA positiveB⟩⟩
  rw [accepts, accepts_iff positiveA positiveB, Decided]
  cases integer : bound.maxDivergenceBps.bigInt with
  | error error => simp
  | ok bps =>
      have positive := scaled_pos positiveA positiveB
      have isQuotient : ((divergence (scaled a b)).1 : ℚ) / (divergence (scaled a b)).2 =
          deviation a.worth b.worth * 10000 := by
        rw [div_divergence, deviation_scaled]
      have numerator : 0 ≤ (divergence (scaled a b)).1 := mul_nonneg (abs_nonneg _) (by decide)
      have denominator : 0 < (divergence (scaled a b)).2 := lt_min positive.1 positive.2
      have decided := tdiv_le_iff_div_le_iff (K := ℚ) numerator denominator bps
      rw [isQuotient] at decided
      rw [BasisPoints.allows_iff integer]
      simpa using decided

/-! ### A deviation just above the bound -/

def sampleReading (price : Int) : PriceReading where
  price
  decimals := 4
  observedAtUnix := 1800000000
  source := js "reflector:CEX"

/-- A deviation of four thirds of a basis point passes a bound of one. -/
theorem deviation_above_bound_passes :
    ¬ ∀ (a b : PriceReading) (bound : DeviationBound), 0 < a.price → 0 < b.price →
      ExactCheck a b bound := by
  intro always
  have check := always (sampleReading 30000) (sampleReading 30004) ⟨.finite 1⟩ (by decide)
    (by decide)
  have accepted : checkDeviation (sampleReading 30000) (sampleReading 30004) ⟨.finite 1⟩ =
      .ok .ok := by decide
  have allowed := check.accepts.mp accepted
  rw [BasisPoints.Allows, PriceReading.worth, PriceReading.worth, sampleReading, sampleReading,
    deviation_of_le (by norm_num)] at allowed
  norm_num at allowed

theorem deviation_far_above_bound :
    ExactCheck (sampleReading 30000) (sampleReading 33000) ⟨.finite 100⟩ := by
  apply (checkDeviation_exact_iff _ _ _ (by decide) (by decide)).mpr
  rw [Decided, PriceReading.worth, PriceReading.worth, sampleReading, sampleReading,
    deviation_of_le (by norm_num)]
  norm_num [BasisPoints.bigInt]

end Orbital.WorkerCore.Guards
