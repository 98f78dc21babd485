import Orbital.WorkerCore.OperatorScore

/-! # `worker-core/src/reputation/score.ts`: what the lost points are attributed to

The unrounded score and the impacts of the contributors make up the full score, unless there is
no success whose latency could be judged.
-/

namespace Orbital.WorkerCore.Reputation

open Foundation

/-! ## Latencies -/

section Latencies

variable {K : Type} [LinearOrder K] {selection : WindowSelection K}

theorem latencies_eq_nil_iff :
    latencies selection = [] ↔ ∀ verdict ∈ selection.verdicts, verdict.outcome ≠ .success := by
  rw [latencies, ← List.length_eq_zero_iff, List.length_insertionSort, List.length_map,
    List.length_eq_zero_iff, List.filter_eq_nil_iff]
  simp only [decide_eq_true_eq, ne_eq]

theorem mem_latencies {latencyMs : K} :
    latencyMs ∈ latencies selection ↔
      ∃ verdict ∈ selection.verdicts, verdict.outcome = .success ∧
        verdict.latencyMs = latencyMs := by
  rw [latencies, List.mem_insertionSort, List.mem_map]
  simp only [List.mem_filter, decide_eq_true_eq, and_assoc]

end Latencies

variable {K : Type} [Field K] [LinearOrder K] [IsStrictOrderedRing K]

/-! ## Ranks -/

section Ranks

variable {sorted : List K} {p bound : K}

omit [IsStrictOrderedRing K] in
theorem getD_le (index : Nat) (inside : index < sorted.length)
    (bounded : ∀ value ∈ sorted, value ≤ bound) : sorted.getD index 0 ≤ bound := by
  rw [List.getD_eq_getElem?_getD, List.getElem?_eq_getElem inside, Option.getD_some]
  exact bounded _ (List.getElem_mem inside)

variable [FloorRing K]

theorem betweenRanks_le (nonempty : sorted ≠ []) (nonneg : 0 ≤ p) (atMost : p ≤ 1)
    (bounded : ∀ value ∈ sorted, value ≤ bound) : betweenRanks sorted p ≤ bound := by
  have some' : 0 < sorted.length := List.length_pos_iff.mpr nonempty
  rw [betweenRanks]
  split
  · exact getD_le 0 some' bounded
  · have last : ((sorted.length - 1 : Nat) : K) = (sorted.length : K) - 1 := by
      rw [Nat.cast_sub some', Nat.cast_one]
    have lastNonneg : (0 : K) ≤ (sorted.length : K) - 1 := last ▸ Nat.cast_nonneg _
    have behind : 0 ≤ p * ((sorted.length : K) - 1) := mul_nonneg nonneg lastNonneg
    have before : p * ((sorted.length : K) - 1) ≤ ((sorted.length - 1 : Nat) : Int) := by
      rw [Int.cast_natCast, last]
      exact mul_le_of_le_one_left lastNonneg atMost
    have high : ⌈p * ((sorted.length : K) - 1)⌉ ≤ ((sorted.length - 1 : Nat) : Int) :=
      Int.ceil_le.mpr before
    have low : ⌊p * ((sorted.length : K) - 1)⌋ ≤ ⌈p * ((sorted.length : K) - 1)⌉ :=
      Int.floor_le_ceil _
    have isLow := getD_le (⌊p * ((sorted.length : K) - 1)⌋.toNat) (by omega) bounded
    have isHigh := getD_le (⌈p * ((sorted.length : K) - 1)⌉.toNat) (by omega) bounded
    dsimp only
    split
    · exact isLow
    · exact interpolate_le isLow isHigh (Int.fract_nonneg _) (le_of_lt (Int.fract_lt_one _))

end Ranks

/-! ## Impacts -/

section Impacts

variable {weigh : Verdict K → K} {verdicts slow : List (Verdict K)} {points : K}

omit [IsStrictOrderedRing K] in
theorem totalImpact_append {front back : List (ScoreContributor K)} {total totalToo : K}
    (isTotal : totalImpact front = some total) (isTotalToo : totalImpact back = some totalToo) :
    totalImpact (front ++ back) = some (total + totalToo) := by
  rcases Option.map_eq_some_iff.mp isTotal with ⟨impacts, isFront, rfl⟩
  rcases Option.map_eq_some_iff.mp isTotalToo with ⟨impactsToo, isBack, rfl⟩
  rw [totalImpact, List.mapM_append, isFront, isBack]
  simp

omit [IsStrictOrderedRing K] in
theorem totalImpact_map {Item : Type} (items : List Item) (toContributor : Item → ScoreContributor K)
    (impact : Item → K) (given : ∀ item, (toContributor item).impact = some (impact item)) :
    totalImpact (items.map toContributor) = some (items.map fun item => |impact item|).sum := by
  have impacts : (items.map toContributor).mapM ScoreContributor.impact =
      some (items.map impact) := by
    induction items with
    | nil => rfl
    | cons item items induction => simp [given, induction]
  rw [totalImpact, impacts, Option.map_some, List.map_map]
  rfl

theorem filter_ne_success {K : Type} (verdicts : List (Verdict K)) :
    verdicts.filter (fun verdict => verdict.outcome ≠ .success) =
      verdicts.filter fun verdict => verdict.outcome = .miss := by
  apply List.filter_congr
  intro verdict _
  cases verdict.outcome <;> rfl

/-- The misses share the penalty in proportion to their weights. -/
theorem totalImpact_missContributors (positive : ∀ verdict, 0 < weigh verdict)
    (nonneg : 0 ≤ points) :
    totalImpact (missContributors weigh (outcomeWeight weigh .miss verdicts) points verdicts) =
      some (if ∃ verdict ∈ verdicts, verdict.outcome = .miss then points else 0) := by
  have misses : (∃ verdict ∈ verdicts, verdict.outcome = .miss) ↔
      verdicts.filter (fun verdict => verdict.outcome = .miss) ≠ [] := by
    simp [List.filter_eq_nil_iff]
  rw [missContributors, outcomeWeight, filter_ne_success, ← if_congr misses.symm rfl rfl]
  generalize verdicts.filter (fun verdict => verdict.outcome = .miss) = missed
  by_cases nonempty : missed = []
  · rw [nonempty, List.map_nil, List.sum_nil, if_neg (lt_irrefl _), if_neg (not_not.mpr rfl)]
    rfl
  · have weight : 0 < (missed.map weigh).sum :=
      sum_pos_of_ne_nil (fun verdict _ => positive verdict) nonempty
    have sizes (verdict : Verdict K) :
        |-(weigh verdict / (missed.map weigh).sum * points)| =
          weigh verdict / (missed.map weigh).sum * points := by
      rw [abs_neg, abs_of_nonneg]
      exact mul_nonneg (div_nonneg (le_of_lt (positive verdict)) (le_of_lt weight)) nonneg
    rw [if_pos weight, if_pos nonempty, totalImpact_map missed _ _ fun verdict => rfl]
    simp only [sizes]
    rw [sum_shares missed weigh (ne_of_gt weight) points]

/-- The slow successes share the penalty evenly. -/
theorem totalImpact_slowContributors (nonneg : 0 ≤ points) :
    totalImpact (slowContributors slow (some points)) =
      some (if slow = [] then 0 else points) := by
  have size : |-(points / (slow.length : K))| = points / (slow.length : K) := by
    rw [abs_neg, abs_of_nonneg (div_nonneg nonneg (Nat.cast_nonneg _))]
  rw [slowContributors, totalImpact_map slow _ _ fun verdict => rfl, size]
  by_cases empty : slow = []
  · rw [if_pos empty, empty]
    rfl
  · rw [if_neg empty, sum_even_shares empty]

end Impacts

/-! ## Qualities -/

section Quality

variable {p95 target quality : K}

theorem clamp01_nonneg (x : K) : 0 ≤ clamp01 x := by
  rw [clamp01]
  split
  · exact le_rfl
  · split
    · exact zero_le_one
    · exact not_lt.mp ‹_›

theorem clamp01_le_one (x : K) : clamp01 x ≤ 1 := by
  rw [clamp01]
  split
  · exact zero_le_one
  · split
    · exact le_rfl
    · exact not_lt.mp ‹_›

omit [IsStrictOrderedRing K] in
theorem clampScore_of_mem {x : K} (nonneg : 0 ≤ x) (atMost : x ≤ 1000) : clampScore x = x := by
  rw [clampScore, if_neg (not_lt.mpr nonneg), if_neg (not_lt.mpr atMost)]

omit [IsStrictOrderedRing K] in
/-- The quality is a number, unless the target is zero and not exceeded. -/
theorem latencyQuality_eq_none_iff (p95 : Option K) (target : K) :
    latencyQuality p95 target = none ↔ target = 0 ∧ ∃ latencyMs ∈ p95, latencyMs ≤ 0 := by
  cases p95 with
  | none => simp [latencyQuality]
  | some p95 =>
      rw [latencyQuality]
      by_cases zero : target = 0
      · rw [if_pos zero, zero, sub_zero]
        simp
      · rw [if_neg zero]
        simp [zero]

theorem latencyQuality_mem {p95 : Option K} (isQuality : latencyQuality p95 target = some quality) :
    0 ≤ quality ∧ quality ≤ 1 := by
  cases p95 with
  | none =>
      cases isQuality
      exact ⟨le_rfl, zero_le_one⟩
  | some p95 =>
      rw [latencyQuality] at isQuality
      split at isQuality
      · split at isQuality
        · cases isQuality
        · cases isQuality
          exact ⟨le_rfl, zero_le_one⟩
      · cases isQuality
        exact ⟨clamp01_nonneg _, clamp01_le_one _⟩

theorem latencyQuality_of_le (within : p95 ≤ target)
    (isQuality : latencyQuality (some p95) target = some quality) : quality = 1 := by
  rw [latencyQuality, max_eq_left (sub_nonpos.mpr within)] at isQuality
  split at isQuality
  · rw [if_pos rfl] at isQuality
    cases isQuality
  · rw [zero_div, sub_zero, clamp01, if_neg (not_lt.mpr zero_le_one), if_neg (lt_irrefl _),
      Option.some.injEq] at isQuality
    exact isQuality.symm

end Quality

/-! ## The attribution -/

section Attribution

variable {weigh : Verdict K → K}

theorem missPenalty_eq (positive : ∀ verdict, 0 < weigh verdict) {verdicts : List (Verdict K)}
    (success : ∃ verdict ∈ verdicts, verdict.outcome = .success) (points : K) :
    (if ∃ verdict ∈ verdicts, verdict.outcome = .miss then
        points * (1 - share (outcomeWeight weigh .success verdicts)
          (outcomeWeight weigh .miss verdicts)) else 0) =
      points * (1 - share (outcomeWeight weigh .success verdicts)
        (outcomeWeight weigh .miss verdicts)) := by
  split
  · rfl
  · rename_i noMiss
    rcases success with ⟨verdict, member, isSuccess⟩
    have some' := outcomeWeight_pos positive member isSuccess
    have noWeight : outcomeWeight weigh .miss verdicts = 0 :=
      outcomeWeight_of_none fun other isOther isMiss => noMiss ⟨other, isOther, isMiss⟩
    rw [noWeight, share_zero_right (ne_of_gt some'), sub_self, mul_zero]

variable [FloorRing K]

variable {config : ScoreConfig K} {selection : WindowSelection K} {quality : K}

theorem quality_of_slow_eq_nil
    (success : ∃ verdict ∈ selection.verdicts, verdict.outcome = .success)
    (isQuality : latencyQuality (rankOf selection (19 / 20)) config.latencyTargetMs = some quality)
    (none : slowVerdicts (rankOf selection (19 / 20)) config.latencyTargetMs selection.verdicts =
      []) :
    quality = 1 := by
  have nonempty : latencies selection ≠ [] := by
    intro empty
    rcases success with ⟨verdict, member, isSuccess⟩
    exact latencies_eq_nil_iff.mp empty verdict member isSuccess
  rw [rankOf, if_neg nonempty] at isQuality none
  apply latencyQuality_of_le _ isQuality
  apply betweenRanks_le nonempty (by norm_num) (by norm_num)
  intro latencyMs member
  rcases mem_latencies.mp member with ⟨verdict, isVerdict, isSuccess, rfl⟩
  rw [slowVerdicts, Option.isSome_some, if_pos rfl, List.filter_eq_nil_iff] at none
  simpa [isSuccess] using none verdict isVerdict

structure Weights.Parts (weights : Weights K) : Prop where
  availability : 0 ≤ weights.availability
  latency : 0 ≤ weights.latency
  whole : weights.availability + weights.latency = 1

omit [FloorRing K] in
theorem Weights.parts_scaled {weights : Weights K} (availability : 0 ≤ weights.availability)
    (latency : 0 ≤ weights.latency) (some' : 0 < weights.availability + weights.latency) :
    weights.scaled.Parts := by
  rw [Weights.scaled_eq some']
  exact ⟨share_nonneg availability latency, share_nonneg latency availability,
    share_add_share (ne_of_gt some')⟩

theorem base_eq (positive : ∀ verdict, 0 < weigh verdict) (parts : config.scaledWeights.Parts)
    (isQuality : latencyQuality (rankOf selection (19 / 20)) config.latencyTargetMs =
      some quality) :
    (workings weigh config selection (metricsOf selection)).base =
      some (1000 * (config.scaledWeights.availability *
        share (outcomeWeight weigh .success selection.verdicts)
          (outcomeWeight weigh .miss selection.verdicts) +
        config.scaledWeights.latency * quality)) := by
  have available : 0 ≤ outcomeWeight weigh .success selection.verdicts :=
    outcomeWeight_nonneg positive _
  have missed : 0 ≤ outcomeWeight weigh .miss selection.verdicts := outcomeWeight_nonneg positive _
  have qualities := latencyQuality_mem isQuality
  show unroundedScore config.scaledWeights (rate _ _) (latencyQuality (rankOf selection _) _) = _
  rw [isQuality, rate_eq_share, unroundedScore, Option.map_some, clampScore_of_mem]
  · exact mul_nonneg (by norm_num)
      (add_nonneg (mul_nonneg parts.availability (share_nonneg available missed))
        (mul_nonneg parts.latency qualities.1))
  · have first := mul_le_of_le_one_right parts.availability (share_le_one available missed)
    have second := mul_le_of_le_one_right parts.latency qualities.2
    have whole := parts.whole
    linarith

theorem totalImpact_eq (positive : ∀ verdict, 0 < weigh verdict)
    (parts : config.scaledWeights.Parts)
    (isQuality : latencyQuality (rankOf selection (19 / 20)) config.latencyTargetMs =
      some quality) :
    totalImpact (contributors weigh config selection (metricsOf selection)
        (workings weigh config selection (metricsOf selection))) =
      some ((if ∃ verdict ∈ selection.verdicts, verdict.outcome = .miss then
          1000 * config.scaledWeights.availability *
            (1 - share (outcomeWeight weigh .success selection.verdicts)
              (outcomeWeight weigh .miss selection.verdicts)) else 0) +
        if slowVerdicts (rankOf selection (19 / 20)) config.latencyTargetMs
            selection.verdicts = [] then 0
        else 1000 * config.scaledWeights.latency * (1 - quality)) := by
  have available : 0 ≤ outcomeWeight weigh .success selection.verdicts :=
    outcomeWeight_nonneg positive _
  have missed : 0 ≤ outcomeWeight weigh .miss selection.verdicts := outcomeWeight_nonneg positive _
  show totalImpact (missContributors weigh (outcomeWeight weigh .miss selection.verdicts)
    (1000 * config.scaledWeights.availability * (1 - rate _ _)) selection.verdicts ++
      slowContributors _ ((latencyQuality (rankOf selection _) _).map _)) = _
  rw [isQuality, rate_eq_share, Option.map_some]
  apply totalImpact_append
  · apply totalImpact_missContributors positive
    exact mul_nonneg (mul_nonneg (by norm_num) parts.availability)
      (sub_nonneg.mpr (share_le_one available missed))
  · apply totalImpact_slowContributors
    exact mul_nonneg (mul_nonneg (by norm_num) parts.latency)
      (sub_nonneg.mpr (latencyQuality_mem isQuality).2)

theorem attributed_of_success (positive : ∀ verdict, 0 < weigh verdict)
    (parts : config.scaledWeights.Parts)
    (isQuality : latencyQuality (rankOf selection (19 / 20)) config.latencyTargetMs =
      some quality)
    (success : ∃ verdict ∈ selection.verdicts, verdict.outcome = .success) :
    FullyAttributed (workings weigh config selection (metricsOf selection)).base
      (contributors weigh config selection (metricsOf selection)
        (workings weigh config selection (metricsOf selection))) := by
  refine ⟨_, _, base_eq positive parts isQuality, totalImpact_eq positive parts isQuality, ?_⟩
  have slow : (if slowVerdicts (rankOf selection (19 / 20)) config.latencyTargetMs
      selection.verdicts = [] then 0 else 1000 * config.scaledWeights.latency * (1 - quality)) =
        1000 * config.scaledWeights.latency * (1 - quality) := by
    split
    · rename_i none
      rw [quality_of_slow_eq_nil success isQuality none, sub_self, mul_zero]
    · rfl
  rw [missPenalty_eq positive success, slow]
  linear_combination 1000 * parts.whole

theorem attributed_of_no_success_iff (positive : ∀ verdict, 0 < weigh verdict)
    (parts : config.scaledWeights.Parts)
    (noSuccess : ∀ verdict ∈ selection.verdicts, verdict.outcome ≠ .success) :
    FullyAttributed (workings weigh config selection (metricsOf selection)).base
        (contributors weigh config selection (metricsOf selection)
          (workings weigh config selection (metricsOf selection))) ↔
      selection.verdicts ≠ [] ∧ config.scaledWeights.latency = 0 := by
  have noRank : rankOf selection (19 / 20) = none :=
    if_pos (latencies_eq_nil_iff.mpr noSuccess)
  have isQuality : latencyQuality (rankOf selection (19 / 20)) config.latencyTargetMs =
      some 0 := by
    rw [noRank]
    rfl
  have misses : (∃ verdict ∈ selection.verdicts, verdict.outcome = .miss) ↔
      selection.verdicts ≠ [] := by
    constructor
    · rintro ⟨verdict, member, -⟩
      exact List.ne_nil_of_mem member
    · intro nonempty
      rcases List.exists_mem_of_ne_nil _ nonempty with ⟨verdict, member⟩
      refine ⟨verdict, member, ?_⟩
      cases outcome : verdict.outcome with
      | success => exact absurd outcome (noSuccess verdict member)
      | miss => rfl
  have whole := parts.whole
  simp only [FullyAttributed, base_eq positive parts isQuality,
    totalImpact_eq positive parts isQuality, outcomeWeight_of_none noSuccess, share_zero_left,
    noRank, slowVerdicts, misses, Option.isSome_none, Bool.false_eq_true, if_false, if_true,
    Option.some.injEq, mul_zero, add_zero, sub_zero, mul_one]
  split
  · rename_i nonempty
    rw [and_iff_right nonempty]
    constructor
    · rintro ⟨score, total, rfl, rfl, full⟩
      linarith
    · intro none
      rw [none, add_zero] at whole
      exact ⟨0, 1000 * config.scaledWeights.availability, rfl, rfl, by rw [whole]; norm_num⟩
  · rename_i empty
    simp [empty]

end Attribution

/-- The unrounded score and the impacts of the contributors make up the full score if and only if
the latency is judged by a success, or does not count where there are misses only. -/
theorem fullyAttributed_iff [FloorRing K] (recencyWeight : K → K → K)
    (verdicts : List (Verdict K)) (operatorId : JsString) (config : ScoreConfig K) (asOf : K)
    (score : ScoredScore K) (positive : ∀ ageMs, 0 < recencyWeight ageMs config.halfLifeMs)
    (nonnegAvailability : 0 ≤ (config.weights.getD defaultWeights).availability)
    (nonnegLatency : 0 ≤ (config.weights.getD defaultWeights).latency)
    (some' : 0 < (config.weights.getD defaultWeights).availability +
      (config.weights.getD defaultWeights).latency)
    (scored : scoreOperator recencyWeight verdicts operatorId config asOf =
      .ok (.scored score)) :
    FullyAttributed (workingsOf recencyWeight verdicts operatorId config asOf).base
        score.contributors ↔
      Attributable config (selectWindow verdicts operatorId config.windowMs asOf) := by
  have parts : config.scaledWeights.Parts :=
    Weights.parts_scaled nonnegAvailability nonnegLatency some'
  have weighs (verdict : Verdict K) : 0 < weightAt recencyWeight config asOf verdict :=
    positive _
  have noLatency : config.scaledWeights.latency = 0 ↔
      (config.weights.getD defaultWeights).latency = 0 := by
    rw [ScoreConfig.scaledWeights, Weights.scaled_eq some']
    show share _ _ = 0 ↔ _
    rw [share, div_eq_zero_iff, add_comm, or_iff_left (ne_of_gt some')]
  rw [(scored_cases scored).2, Attributable, latencyPercentile_eq _ (by norm_num) (by norm_num)]
  simp only [Except.ok.injEq]
  cases quality : latencyQuality (rankOf (selectWindow verdicts operatorId config.windowMs asOf)
      (19 / 20)) config.latencyTargetMs with
  | none =>
      have noBase : (workingsOf recencyWeight verdicts operatorId config asOf).base = none := by
        show unroundedScore _ _ (latencyQuality (rankOf _ _) _) = none
        rw [quality]
        rfl
      rcases (latencyQuality_eq_none_iff _ _).mp quality with ⟨zero, latencyMs, isRank, nonpos⟩
      constructor
      · rintro ⟨score, total, isBase, -⟩
        rw [noBase] at isBase
        cases isBase
      · intro judged
        exact absurd (judged.1 zero latencyMs isRank) (not_lt.mpr nonpos)
  | some value =>
      have judged : config.latencyTargetMs = 0 → ∀ latencyMs,
          rankOf (selectWindow verdicts operatorId config.windowMs asOf) (19 / 20) =
            some latencyMs → 0 < latencyMs := by
        intro zero latencyMs isRank
        by_contra nonpos
        have noQuality := (latencyQuality_eq_none_iff _ _).mpr
          ⟨zero, latencyMs, isRank, not_lt.mp nonpos⟩
        rw [quality] at noQuality
        cases noQuality
      rw [and_iff_right judged]
      by_cases success : ∃ verdict ∈ (selectWindow verdicts operatorId config.windowMs
          asOf).verdicts, verdict.outcome = .success
      · exact iff_of_true (attributed_of_success weighs parts quality success) (.inl success)
      · rw [or_iff_right success, ← noLatency]
        exact attributed_of_no_success_iff weighs parts fun verdict member isSuccess =>
          success ⟨verdict, member, isSuccess⟩

/-! ### Misses only -/

/-- Of a single miss 300 of 1000 lost points have no contributor. -/
theorem lost_points_of_miss :
    ¬ ∀ (recencyWeight : ℚ → ℚ → ℚ) (verdicts : List (Verdict ℚ)) (operatorId : JsString)
      (config : ScoreConfig ℚ) (asOf : ℚ) (score : ScoredScore ℚ),
      (∀ ageMs, 0 < recencyWeight ageMs config.halfLifeMs) →
        0 ≤ (config.weights.getD defaultWeights).availability →
          0 ≤ (config.weights.getD defaultWeights).latency →
            0 < (config.weights.getD defaultWeights).availability +
              (config.weights.getD defaultWeights).latency →
              scoreOperator recencyWeight verdicts operatorId config asOf = .ok (.scored score) →
                FullyAttributed (workingsOf recencyWeight verdicts operatorId config asOf).base
                  score.contributors := by
  intro always
  have scored : ∃ score, scoreOperator (fun _ _ => 1) [judged .miss 0 0] (js "operator")
      (scoring none) 0 = .ok (.scored score) :=
    exists_scored_iff.mpr ⟨rfl, by decide +kernel⟩
  rcases scored with ⟨score, scored⟩
  have full := always (fun _ _ => 1) [judged .miss 0 0] (js "operator") (scoring none)
    0 score (fun _ => one_pos) (by decide +kernel) (by decide +kernel) (by decide +kernel) scored
  have parts : (scoring none).scaledWeights.Parts :=
    Weights.parts_scaled (by decide +kernel) (by decide +kernel) (by decide +kernel)
  rw [(scored_cases scored).2] at full
  have none := (attributed_of_no_success_iff (fun _ => one_pos) parts (by decide +kernel)).mp full
  exact absurd none.2 (by decide +kernel)

theorem fullyAttributed_slow_success :
    ∃ score, scoreOperator (fun _ _ => 1) [judged .miss 0 0, judged .success 0 3000]
        (js "operator") (scoring none) 0 = .ok (.scored score) ∧
      (FullyAttributed (workingsOf (fun _ _ => 1)
          [judged .miss 0 0, judged .success 0 3000] (js "operator")
          (scoring none) 0).base score.contributors ↔
        Attributable (scoring none) (selectWindow
          [judged .miss 0 0, judged .success 0 3000] (js "operator") 100 0)) := by
  have scored : ∃ score, scoreOperator (fun _ _ => 1)
      [judged .miss 0 0, judged .success 0 3000] (js "operator")
      (scoring none) 0 = .ok (.scored score) :=
    exists_scored_iff.mpr ⟨rfl, by decide +kernel⟩
  rcases scored with ⟨score, scored⟩
  exact ⟨score, scored, fullyAttributed_iff _ _ _ _ _ score (fun _ => one_pos) (by decide +kernel)
    (by decide +kernel) (by decide +kernel) scored⟩

end Orbital.WorkerCore.Reputation
