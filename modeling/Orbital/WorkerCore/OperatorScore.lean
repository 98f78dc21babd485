import Mathlib.Algebra.Order.Floor.Ring
import Mathlib.Analysis.SpecialFunctions.Pow.Real
import Mathlib.Data.List.Sort
import Orbital.Foundation.NumberText
import Orbital.Foundation.Ratios

/-! # `worker-core/src/reputation/window.ts`

The verdicts of an operator in a window of time, and what they are counted to. Numbers are
exact.
-/

namespace Orbital.WorkerCore.Reputation

open Foundation

inductive VerdictOutcome
  | success
  | miss
  deriving DecidableEq

structure Verdict (K : Type) where
  id : JsString
  operatorId : JsString
  atMs : K
  outcome : VerdictOutcome
  latencyMs : K
  deriving DecidableEq

structure WindowSelection (K : Type) where
  operatorId : JsString
  windowStart : K
  windowEnd : K
  verdicts : List (Verdict K)

structure WindowMetrics (K : Type) where
  operatorId : JsString
  windowStart : K
  windowEnd : K
  total : Nat
  successes : Nat
  misses : Nat
  uptime : K
  missRate : K
  latencyP50Ms : Option K
  latencyP95Ms : Option K

inductive ReputationError (K : Type)
  | emptySample
  | percentileOutOfRange (p : K)
  | formulaVersion (given : JsString)
  deriving DecidableEq

def scoreFormulaVersion : JsString :=
  js "1.0.0"

def ReputationError.message {K : Type} (numberText : K → JsString) : ReputationError K → JsString
  | emptySample => js "[worker-core] percentile requires a non-empty array"
  | percentileOutOfRange p => js "[worker-core] percentile p must be in [0, 1], got " ++ numberText p
  | formulaVersion given =>
      js "[worker-core] scoreOperator: config.formulaVersion \"" ++ given ++
        js "\" does not match SCORE_FORMULA_VERSION \"" ++ scoreFormulaVersion ++ js "\". " ++
        js "Bump the constant and re-stamp rather than mixing versions."

variable {K : Type} [Field K] [LinearOrder K]

def inWindow (operatorId : JsString) (windowStart asOf : K) (verdict : Verdict K) : Bool :=
  verdict.operatorId = operatorId && windowStart ≤ verdict.atMs && verdict.atMs ≤ asOf

def selectWindow (verdicts : List (Verdict K)) (operatorId : JsString) (windowMs asOf : K) :
    WindowSelection K :=
  let windowStart := asOf - windowMs
  { operatorId
    windowStart
    windowEnd := asOf
    verdicts := (verdicts.filter (inWindow operatorId windowStart asOf)).insertionSort
      fun first second => first.atMs ≤ second.atMs }

def latencies (selection : WindowSelection K) : List K :=
  ((selection.verdicts.filter fun verdict => verdict.outcome = .success).map
    Verdict.latencyMs).insertionSort (· ≤ ·)

variable [FloorRing K]

def betweenRanks (sorted : List K) (p : K) : K :=
  if sorted.length = 1 then sorted.getD 0 0
  else
    let idx := p * ((sorted.length : K) - 1)
    let lo := ⌊idx⌋
    let hi := ⌈idx⌉
    let loVal := sorted.getD lo.toNat 0
    let hiVal := sorted.getD hi.toNat 0
    if lo = hi then loVal
    else
      let frac := idx - lo
      loVal + frac * (hiVal - loVal)

def percentile (sorted : List K) (p : K) : Except (ReputationError K) K :=
  if sorted.length = 0 then .error .emptySample
  else if p < 0 ∨ 1 < p then .error (.percentileOutOfRange p)
  else .ok (betweenRanks sorted p)

def latencyPercentile (latencies : List K) (p : K) : Except (ReputationError K) (Option K) :=
  if latencies.length = 0 then .ok none else some <$> percentile latencies p

def computeWindowMetrics (selection : WindowSelection K) :
    Except (ReputationError K) (WindowMetrics K) := do
  let total := selection.verdicts.length
  let successes := selection.verdicts.countP fun verdict => verdict.outcome = .success
  let misses := selection.verdicts.countP fun verdict => verdict.outcome ≠ .success
  let latencyP50Ms ← latencyPercentile (latencies selection) (1 / 2)
  let latencyP95Ms ← latencyPercentile (latencies selection) (19 / 20)
  return {
    operatorId := selection.operatorId
    windowStart := selection.windowStart
    windowEnd := selection.windowEnd
    total
    successes
    misses
    uptime := if total = 0 then 0 else successes / total
    missRate := if total = 0 then 0 else misses / total
    latencyP50Ms
    latencyP95Ms }

end Orbital.WorkerCore.Reputation

/-! ## `worker-core/src/reputation/score.ts`

The score of an operator and what it is attributed to. The weight of a verdict of some age is
a parameter, since the powers of one half are no exact numbers; the real ones are below.
A number that is not there is `NaN`.
-/

namespace Orbital.WorkerCore.Reputation

open Foundation

structure Weights (K : Type) where
  availability : K
  latency : K

structure ScoreConfig (K : Type) where
  formulaVersion : JsString
  windowMs : K
  halfLifeMs : K
  minSamples : K
  latencyTargetMs : K
  weights : Option (Weights K)

inductive ScoreContributorReason
  | miss
  | slow
  deriving DecidableEq

structure ScoreContributor (K : Type) where
  verdict : Verdict K
  reason : ScoreContributorReason
  impact : Option K

structure Components (K : Type) where
  availability : K
  missRate : K
  latencyP50Ms : Option K
  latencyP95Ms : Option K
  latencyQuality : Option K

structure InsufficientDataScore (K : Type) where
  operatorId : JsString
  formulaVersion : JsString
  windowStart : K
  windowEnd : K
  samples : Nat
  minSamples : K

structure ScoredScore (K : Type) where
  operatorId : JsString
  formulaVersion : JsString
  score : Option Int
  windowStart : K
  windowEnd : K
  samples : Nat
  components : Components K
  contributors : List (ScoreContributor K)

inductive OperatorScore (K : Type)
  | insufficientData (score : InsufficientDataScore K)
  | scored (score : ScoredScore K)

variable {K : Type} [Field K] [LinearOrder K]

def defaultWeights : Weights K where
  availability := 7 / 10
  latency := 3 / 10

def clamp01 (x : K) : K :=
  if x < 0 then 0 else if 1 < x then 1 else x

def clampScore (x : K) : K :=
  if x < 0 then 0 else if 1000 < x then 1000 else x

def Weights.scaled (weights : Weights K) : Weights K :=
  let totalWeightScale := weights.availability + weights.latency
  { availability := if totalWeightScale = 0 then 0 else weights.availability / totalWeightScale
    latency := if totalWeightScale = 0 then 0 else weights.latency / totalWeightScale }

def ScoreConfig.scaledWeights (config : ScoreConfig K) : Weights K :=
  (config.weights.getD defaultWeights).scaled

def outcomeWeight (weigh : Verdict K → K) (outcome : VerdictOutcome)
    (verdicts : List (Verdict K)) : K :=
  ((verdicts.filter fun verdict => verdict.outcome = outcome).map weigh).sum

def rate (part total : K) : K :=
  if total = 0 then 0 else part / total

/-- Where the target is zero, the quotient is infinite or, of zero, no number. -/
def latencyQuality (p95 : Option K) (latencyTargetMs : K) : Option K :=
  match p95 with
  | none => some 0
  | some p95 =>
      let excess := max 0 (p95 - latencyTargetMs)
      if latencyTargetMs = 0 then if excess = 0 then none else some 0
      else some (clamp01 (1 - excess / latencyTargetMs))

/-- `base`, the score that is rounded. -/
def unroundedScore (scaled : Weights K) (availability : K) (latencyQuality : Option K) : Option K :=
  latencyQuality.map fun latencyQuality =>
    clampScore (1000 * (scaled.availability * availability + scaled.latency * latencyQuality))

def missContributors (weigh : Verdict K → K) (missWeight missPenaltyPoints : K)
    (verdicts : List (Verdict K)) : List (ScoreContributor K) :=
  if 0 < missWeight then
    (verdicts.filter fun verdict => verdict.outcome ≠ .success).map fun verdict =>
      { verdict
        reason := .miss
        impact := some (-(weigh verdict / missWeight * missPenaltyPoints)) }
  else []

def slowVerdicts (p95 : Option K) (latencyTargetMs : K) (verdicts : List (Verdict K)) :
    List (Verdict K) :=
  if p95.isSome then
    verdicts.filter fun verdict =>
      verdict.outcome = .success && latencyTargetMs < verdict.latencyMs
  else []

def slowContributors (slowVerdicts : List (Verdict K)) (slowPenaltyPoints : Option K) :
    List (ScoreContributor K) :=
  slowVerdicts.map fun verdict =>
    { verdict
      reason := .slow
      impact := slowPenaltyPoints.map fun points => -(points / (slowVerdicts.length : K)) }

/-! ### The weights of verdicts -/

section Weights

variable {weights : Weights K} {weigh : Verdict K → K} {verdicts : List (Verdict K)}

theorem Weights.scaled_eq (some' : 0 < weights.availability + weights.latency) :
    weights.scaled = ⟨share weights.availability weights.latency,
      share weights.latency weights.availability⟩ := by
  rw [Weights.scaled, if_neg (ne_of_gt some'), if_neg (ne_of_gt some'), share, share,
    add_comm weights.latency]

theorem rate_eq_share (part other : K) : rate part (part + other) = share part other := by
  rw [rate, share]
  split
  · rename_i zero
    rw [zero, div_zero]
  · rfl

omit [LinearOrder K] in
theorem outcomeWeight_of_none {outcome : VerdictOutcome}
    (none : ∀ verdict ∈ verdicts, verdict.outcome ≠ outcome) :
    outcomeWeight weigh outcome verdicts = 0 := by
  have empty : verdicts.filter (fun verdict => verdict.outcome = outcome) = [] := by
    simpa [List.filter_eq_nil_iff] using none
  rw [outcomeWeight, empty]
  rfl

variable [IsStrictOrderedRing K]

theorem outcomeWeight_nonneg (positive : ∀ verdict, 0 < weigh verdict) (outcome : VerdictOutcome) :
    0 ≤ outcomeWeight weigh outcome verdicts := by
  apply List.sum_nonneg
  intro value member
  rcases List.mem_map.mp member with ⟨verdict, -, rfl⟩
  exact le_of_lt (positive verdict)

theorem outcomeWeight_pos (positive : ∀ verdict, 0 < weigh verdict) {outcome : VerdictOutcome}
    {verdict : Verdict K} (member : verdict ∈ verdicts) (has : verdict.outcome = outcome) :
    0 < outcomeWeight weigh outcome verdicts := by
  apply sum_pos_of_ne_nil fun other _ => positive other
  exact List.ne_nil_of_mem (List.mem_filter.mpr ⟨member, decide_eq_true has⟩)

end Weights

variable [FloorRing K]

def mathRound (x : K) : Int :=
  ⌊x + 1 / 2⌋

structure Workings (K : Type) where
  scaled : Weights K
  missWeight : K
  availability : K
  missRate : K
  latencyQuality : Option K
  base : Option K

def workings (weigh : Verdict K → K) (config : ScoreConfig K) (selection : WindowSelection K)
    (metrics : WindowMetrics K) : Workings K :=
  let scaled := config.scaledWeights
  let successWeight := outcomeWeight weigh .success selection.verdicts
  let missWeight := outcomeWeight weigh .miss selection.verdicts
  let totalWeight := successWeight + missWeight
  let availability := rate successWeight totalWeight
  let latencyQuality := latencyQuality metrics.latencyP95Ms config.latencyTargetMs
  { scaled
    missWeight
    availability
    missRate := rate missWeight totalWeight
    latencyQuality
    base := unroundedScore scaled availability latencyQuality }

def contributors (weigh : Verdict K → K) (config : ScoreConfig K)
    (selection : WindowSelection K) (metrics : WindowMetrics K) (workings : Workings K) :
    List (ScoreContributor K) :=
  let missPenaltyPoints := 1000 * workings.scaled.availability * (1 - workings.availability)
  let slowPenaltyPoints := workings.latencyQuality.map fun latencyQuality =>
    1000 * workings.scaled.latency * (1 - latencyQuality)
  missContributors weigh workings.missWeight missPenaltyPoints selection.verdicts ++
    slowContributors
      (slowVerdicts metrics.latencyP95Ms config.latencyTargetMs selection.verdicts)
      slowPenaltyPoints

def weightAt (recencyWeight : K → K → K) (config : ScoreConfig K) (asOf : K)
    (verdict : Verdict K) : K :=
  recencyWeight (asOf - verdict.atMs) config.halfLifeMs

def scoreOperator (recencyWeight : K → K → K) (verdicts : List (Verdict K))
    (operatorId : JsString) (config : ScoreConfig K) (asOf : K) :
    Except (ReputationError K) (OperatorScore K) := do
  if config.formulaVersion ≠ scoreFormulaVersion then
    .error (.formulaVersion config.formulaVersion)
  else
    let selection := selectWindow verdicts operatorId config.windowMs asOf
    let metrics ← computeWindowMetrics selection
    if (metrics.total : K) < config.minSamples then
      return .insufficientData {
        operatorId
        formulaVersion := scoreFormulaVersion
        windowStart := selection.windowStart
        windowEnd := selection.windowEnd
        samples := metrics.total
        minSamples := config.minSamples }
    else
      let weigh := weightAt recencyWeight config asOf
      let workings := workings weigh config selection metrics
      return .scored {
        operatorId
        formulaVersion := scoreFormulaVersion
        score := workings.base.map mathRound
        windowStart := selection.windowStart
        windowEnd := selection.windowEnd
        samples := metrics.total
        components := {
          availability := workings.availability
          missRate := workings.missRate
          latencyP50Ms := metrics.latencyP50Ms
          latencyP95Ms := metrics.latencyP95Ms
          latencyQuality := workings.latencyQuality }
        contributors := contributors weigh config selection metrics workings }

/-! ### Attribution -/

def totalImpact (contributors : List (ScoreContributor K)) : Option K :=
  (contributors.mapM ScoreContributor.impact).map fun impacts => (impacts.map abs).sum

/-- An unrounded score and the impacts of contributors make up the full score. -/
def FullyAttributed (base : Option K) (contributors : List (ScoreContributor K)) : Prop :=
  ∃ score total, base = some score ∧ totalImpact contributors = some total ∧ score + total = 1000

/-- The latencies have a quality, and it is a success's, or does not count next to a miss. -/
def Attributable (config : ScoreConfig K) (selection : WindowSelection K) : Prop :=
  (config.latencyTargetMs = 0 → ∀ latencyMs,
      latencyPercentile (latencies selection) (19 / 20) = .ok (some latencyMs) → 0 < latencyMs) ∧
    ((∃ verdict ∈ selection.verdicts, verdict.outcome = .success) ∨
      selection.verdicts ≠ [] ∧ (config.weights.getD defaultWeights).latency = 0)

/-! ### What a score is made of -/

section MadeOf

def rankOf (selection : WindowSelection K) (p : K) : Option K :=
  if latencies selection = [] then none else some (betweenRanks (latencies selection) p)

def metricsOf (selection : WindowSelection K) : WindowMetrics K where
  operatorId := selection.operatorId
  windowStart := selection.windowStart
  windowEnd := selection.windowEnd
  total := selection.verdicts.length
  successes := selection.verdicts.countP fun verdict => verdict.outcome = .success
  misses := selection.verdicts.countP fun verdict => verdict.outcome ≠ .success
  uptime := if selection.verdicts.length = 0 then 0 else
    (selection.verdicts.countP fun verdict => verdict.outcome = .success) /
      selection.verdicts.length
  missRate := if selection.verdicts.length = 0 then 0 else
    (selection.verdicts.countP fun verdict => verdict.outcome ≠ .success) /
      selection.verdicts.length
  latencyP50Ms := rankOf selection (1 / 2)
  latencyP95Ms := rankOf selection (19 / 20)

theorem latencyPercentile_eq (selection : WindowSelection K) {p : K} (nonneg : 0 ≤ p)
    (atMost : p ≤ 1) :
    latencyPercentile (latencies selection) p = .ok (rankOf selection p) := by
  have inside : ¬ (p < 0 ∨ 1 < p) := not_or.mpr ⟨not_lt.mpr nonneg, not_lt.mpr atMost⟩
  rw [latencyPercentile, rankOf, percentile, if_neg inside]
  cases latencies selection <;> rfl

variable [IsStrictOrderedRing K]

theorem computeWindowMetrics_eq (selection : WindowSelection K) :
    computeWindowMetrics selection = .ok (metricsOf selection) := by
  rw [computeWindowMetrics, latencyPercentile_eq selection (by norm_num) (by norm_num),
    latencyPercentile_eq selection (by norm_num) (by norm_num)]
  rfl

variable (recencyWeight : K → K → K) (verdicts : List (Verdict K)) (operatorId : JsString)
  (config : ScoreConfig K) (asOf : K)

def workingsOf : Workings K :=
  let selection := selectWindow verdicts operatorId config.windowMs asOf
  workings (weightAt recencyWeight config asOf) config selection (metricsOf selection)

def contributorsOf : List (ScoreContributor K) :=
  let selection := selectWindow verdicts operatorId config.windowMs asOf
  contributors (weightAt recencyWeight config asOf) config selection (metricsOf selection)
    (workingsOf recencyWeight verdicts operatorId config asOf)

variable {recencyWeight verdicts operatorId config asOf}

theorem scored_cases {score : ScoredScore K}
    (scored : scoreOperator recencyWeight verdicts operatorId config asOf = .ok (.scored score)) :
    score.score =
        (workingsOf recencyWeight verdicts operatorId config asOf).base.map mathRound ∧
      score.contributors = contributorsOf recencyWeight verdicts operatorId config asOf := by
  rw [scoreOperator] at scored
  split at scored
  · cases scored
  · dsimp only at scored
    rw [computeWindowMetrics_eq] at scored
    dsimp only [bind, Except.bind, pure, Except.pure] at scored
    split at scored
    · cases scored
    · cases scored
      exact ⟨rfl, rfl⟩

theorem exists_scored_iff :
    (∃ score, scoreOperator recencyWeight verdicts operatorId config asOf = .ok (.scored score)) ↔
      config.formulaVersion = scoreFormulaVersion ∧
        config.minSamples ≤ (selectWindow verdicts operatorId config.windowMs asOf).verdicts.length := by
  rw [scoreOperator]
  split
  · rename_i other
    simp [other]
  · rename_i version
    dsimp only
    rw [computeWindowMetrics_eq]
    dsimp only [bind, Except.bind, pure, Except.pure, metricsOf]
    split
    · rename_i few
      simp [few]
    · rename_i enough
      simp [not_not.mp version, not_lt.mp enough]

end MadeOf

/-! ### The weights of the source -/

noncomputable def recencyWeight (ageMs halfLifeMs : ℝ) : ℝ :=
  if ageMs ≤ 0 then 1 else (1 / 2 : ℝ) ^ (ageMs / halfLifeMs)

theorem recencyWeight_pos (ageMs halfLifeMs : ℝ) : 0 < recencyWeight ageMs halfLifeMs := by
  rw [recencyWeight]
  split
  · exact one_pos
  · exact Real.rpow_pos_of_pos (by norm_num) _

/-- An older verdict weighs no more. -/
theorem recencyWeight_antitone {halfLifeMs : ℝ} (positive : 0 < halfLifeMs) :
    Antitone fun ageMs => recencyWeight ageMs halfLifeMs := by
  intro younger older isOlder
  simp only [recencyWeight]
  split
  · split
    · exact le_rfl
    · exact absurd (le_trans isOlder ‹_›) ‹_›
  · split
    · rename_i aged _
      exact Real.rpow_le_one (by norm_num) (by norm_num)
        (div_nonneg (le_of_lt (not_le.mp aged)) (le_of_lt positive))
    · apply Real.rpow_le_rpow_of_exponent_ge (by norm_num) (by norm_num)
      exact div_le_div_of_nonneg_right isOlder (le_of_lt positive)

/-! ### Samples -/

def judged (outcome : VerdictOutcome) (atMs latencyMs : ℚ) : Verdict ℚ where
  id := js "verdict"
  operatorId := js "operator"
  atMs
  outcome
  latencyMs

def scoring (weights : Option (Weights ℚ)) : ScoreConfig ℚ where
  formulaVersion := scoreFormulaVersion
  windowMs := 100
  halfLifeMs := 50
  minSamples := 1
  latencyTargetMs := 2000
  weights

end Orbital.WorkerCore.Reputation
