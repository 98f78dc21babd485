import Orbital.Foundation.StableSort
import Orbital.WorkerCore.OperatorScore

/-! # `worker-core/src/reputation/score.ts`: misses never raise a score

Two histories that differ by misses have the same successes. The one whose misses weigh more in
the window has no higher score.
-/

namespace Orbital.WorkerCore.Reputation

open Foundation

variable {K : Type} [Field K] [LinearOrder K]

/-! ## Histories that differ by misses -/

section Histories

variable {operatorId : JsString} {windowMs asOf : K} {front back misses : List (Verdict K)}
  {weigh : Verdict K → K}

omit [LinearOrder K] in
theorem outcomeWeight_perm {outcome : VerdictOutcome} {verdicts others : List (Verdict K)}
    (same : verdicts.Perm others) :
    outcomeWeight weigh outcome verdicts = outcomeWeight weigh outcome others :=
  ((same.filter _).map weigh).sum_eq

theorem outcomeWeight_selectWindow (outcome : VerdictOutcome) (verdicts : List (Verdict K)) :
    outcomeWeight weigh outcome (selectWindow verdicts operatorId windowMs asOf).verdicts =
      outcomeWeight weigh outcome
        (verdicts.filter (inWindow operatorId (asOf - windowMs) asOf)) :=
  outcomeWeight_perm (List.perm_insertionSort _ _)

omit [LinearOrder K] in
theorem outcomeWeight_append (outcome : VerdictOutcome) (front back : List (Verdict K)) :
    outcomeWeight weigh outcome (front ++ back) =
      outcomeWeight weigh outcome front + outcomeWeight weigh outcome back := by
  simp [outcomeWeight]

omit [LinearOrder K] in
theorem outcomeWeight_single {miss : Verdict K}
    (isMiss : miss.outcome = .miss) (keep : Verdict K → Bool) :
    outcomeWeight weigh .miss ([miss].filter keep) = if keep miss then weigh miss else 0 := by
  by_cases kept : keep miss
  · simp [outcomeWeight, kept, isMiss]
  · simp [outcomeWeight, kept]

theorem missWeight_middle (front misses back : List (Verdict K)) :
    outcomeWeight weigh .miss
        (selectWindow (front ++ misses ++ back) operatorId windowMs asOf).verdicts =
      outcomeWeight weigh .miss
          (front.filter (inWindow operatorId (asOf - windowMs) asOf)) +
        outcomeWeight weigh .miss (misses.filter (inWindow operatorId (asOf - windowMs) asOf)) +
          outcomeWeight weigh .miss
            (back.filter (inWindow operatorId (asOf - windowMs) asOf)) := by
  rw [outcomeWeight_selectWindow, List.filter_append, List.filter_append, outcomeWeight_append,
    outcomeWeight_append]

theorem successes_perm (isMiss : ∀ verdict ∈ misses, verdict.outcome = .miss) :
    ((selectWindow (front ++ misses ++ back) operatorId windowMs asOf).verdicts.filter
        fun verdict => verdict.outcome = .success).Perm
      (((front ++ back).filter (inWindow operatorId (asOf - windowMs) asOf)).filter
        fun verdict => verdict.outcome = .success) := by
  apply ((List.perm_insertionSort _ _).filter _).trans
  have none : (misses.filter (inWindow operatorId (asOf - windowMs) asOf)).filter
      (fun verdict => verdict.outcome = .success) = [] := by
    apply List.filter_eq_nil_iff.mpr
    intro verdict member
    simp [isMiss verdict (List.mem_filter.mp member).1]
  simp only [List.filter_append, none, List.append_nil]
  exact .refl _

theorem latencies_eq (isMiss : ∀ verdict ∈ misses, verdict.outcome = .miss) :
    latencies (selectWindow (front ++ misses ++ back) operatorId windowMs asOf) =
      (((((front ++ back).filter (inWindow operatorId (asOf - windowMs) asOf)).filter
        fun verdict => verdict.outcome = .success).map Verdict.latencyMs)).insertionSort
          (· ≤ ·) :=
  StableSort.insertionSort_congr ((successes_perm isMiss).map _)
    fun _ _ _ _ => le_antisymm

theorem successWeight_eq (isMiss : ∀ verdict ∈ misses, verdict.outcome = .miss) :
    outcomeWeight weigh .success
        (selectWindow (front ++ misses ++ back) operatorId windowMs asOf).verdicts =
      ((((front ++ back).filter (inWindow operatorId (asOf - windowMs) asOf)).filter
        fun verdict => verdict.outcome = .success).map weigh).sum :=
  ((successes_perm isMiss).map weigh).sum_eq

end Histories

/-! ## Scores that fall with misses -/

variable [IsStrictOrderedRing K]

/-- A score that is no higher than the one before, or no number like it. -/
def NotRaised (before after : Option Int) : Prop :=
  (before = none ∧ after = none) ∨
    ∃ score lower, before = some score ∧ after = some lower ∧ lower ≤ score

theorem clampScore_mono {x y : K} (le : x ≤ y) : clampScore x ≤ clampScore y := by
  simp only [clampScore]
  split <;> split <;> try split
  all_goals first | linarith | (split <;> linarith)

variable [FloorRing K]

theorem mathRound_mono {x y : K} (le : x ≤ y) : mathRound x ≤ mathRound y :=
  Int.floor_le_floor (add_le_add_left le _)

theorem notRaised_of_missWeight {scaled : Weights K} {success miss more : K}
    (nonneg : 0 ≤ scaled.availability) (available : 0 ≤ success) (missed : 0 ≤ miss)
    (grows : miss ≤ more) (quality : Option K) :
    NotRaised ((unroundedScore scaled (share success miss) quality).map mathRound)
      ((unroundedScore scaled (share success more) quality).map mathRound) := by
  cases quality with
  | none => exact .inl ⟨rfl, rfl⟩
  | some quality =>
      refine .inr ⟨_, _, rfl, rfl, ?_⟩
      have falls := mul_le_mul_of_nonneg_left (share_le_share available missed grows) nonneg
      exact mathRound_mono (clampScore_mono (by linarith))

section Scores

variable {recencyWeight : K → K → K} {config : ScoreConfig K} {operatorId : JsString} {asOf : K}
  {front back misses others : List (Verdict K)} {before after : ScoredScore K}

/-- Two histories whose misses alone differ. -/
theorem notRaised_of_misses (positive : ∀ ageMs, 0 < recencyWeight ageMs config.halfLifeMs)
    (nonneg : 0 ≤ config.scaledWeights.availability)
    (isMiss : ∀ verdict ∈ misses, verdict.outcome = .miss)
    (isMissToo : ∀ verdict ∈ others, verdict.outcome = .miss)
    (grows : outcomeWeight (weightAt recencyWeight config asOf) .miss
        (misses.filter (inWindow operatorId (asOf - config.windowMs) asOf)) ≤
      outcomeWeight (weightAt recencyWeight config asOf) .miss
        (others.filter (inWindow operatorId (asOf - config.windowMs) asOf)))
    (scored : scoreOperator recencyWeight (front ++ misses ++ back) operatorId config asOf =
      .ok (.scored before))
    (scoredToo : scoreOperator recencyWeight (front ++ others ++ back) operatorId config asOf =
      .ok (.scored after)) :
    NotRaised before.score after.score := by
  have weighs (verdict : Verdict K) : 0 < weightAt recencyWeight config asOf verdict :=
    positive _
  have ranks : rankOf (selectWindow (front ++ others ++ back) operatorId config.windowMs asOf)
        (19 / 20) =
      rankOf (selectWindow (front ++ misses ++ back) operatorId config.windowMs asOf)
        (19 / 20) := by
    rw [rankOf, rankOf, latencies_eq isMiss, latencies_eq isMissToo]
  rw [(scored_cases scored).1, (scored_cases scoredToo).1]
  show NotRaised ((unroundedScore _ (rate _ _) (latencyQuality (rankOf _ _) _)).map mathRound)
    ((unroundedScore _ (rate _ _) (latencyQuality (rankOf _ _) _)).map mathRound)
  have success : 0 ≤ outcomeWeight (weightAt recencyWeight config asOf) .success
      (selectWindow (front ++ misses ++ back) operatorId config.windowMs asOf).verdicts :=
    outcomeWeight_nonneg weighs _
  rw [successWeight_eq isMiss] at success
  rw [rate_eq_share, rate_eq_share, ranks, successWeight_eq isMiss, successWeight_eq isMissToo]
  apply notRaised_of_missWeight nonneg success (outcomeWeight_nonneg weighs _)
  rw [missWeight_middle, missWeight_middle]
  linarith

end Scores

/-- A miss that is added, or moved to a later time at which the window still has it, raises no
score, where availability does not count against the operator. -/
theorem score_not_raised_by_miss (recencyWeight : K → K → K) (front back : List (Verdict K))
    (miss : Verdict K) (operatorId : JsString) (config : ScoreConfig K) (asOf : K)
    (positive : ∀ ageMs, 0 < recencyWeight ageMs config.halfLifeMs)
    (antitone : Antitone fun ageMs => recencyWeight ageMs config.halfLifeMs)
    (isMiss : miss.outcome = .miss) (nonneg : 0 ≤ config.scaledWeights.availability) :
    (∀ before after : ScoredScore K,
      scoreOperator recencyWeight (front ++ back) operatorId config asOf =
          .ok (.scored before) →
        scoreOperator recencyWeight (front ++ miss :: back) operatorId config asOf =
            .ok (.scored after) →
          NotRaised before.score after.score) ∧
      ∀ (laterMs : K) (before after : ScoredScore K), miss.atMs ≤ laterMs →
        (inWindow operatorId (asOf - config.windowMs) asOf miss → laterMs ≤ asOf) →
          scoreOperator recencyWeight (front ++ miss :: back) operatorId config asOf =
              .ok (.scored before) →
            scoreOperator recencyWeight (front ++ { miss with atMs := laterMs } :: back)
                operatorId config asOf = .ok (.scored after) →
              NotRaised before.score after.score := by
  have isMissOnly (miss : Verdict K) (isMiss : miss.outcome = .miss) :
      ∀ verdict ∈ [miss], verdict.outcome = .miss := by
    simpa using isMiss
  constructor
  · intro before after scored scoredToo
    have without : scoreOperator recencyWeight (front ++ [] ++ back) operatorId config asOf =
        .ok (.scored before) := by simpa using scored
    have with' : scoreOperator recencyWeight (front ++ [miss] ++ back) operatorId config asOf =
        .ok (.scored after) := by simpa using scoredToo
    refine notRaised_of_misses positive nonneg (by simp) (isMissOnly miss isMiss) ?_ without with'
    rw [outcomeWeight_single isMiss]
    split
    · exact le_of_lt (positive _)
    · exact le_rfl
  · intro laterMs before after later stays scored scoredToo
    have isMissToo : ({ miss with atMs := laterMs } : Verdict K).outcome = .miss := isMiss
    have early : scoreOperator recencyWeight (front ++ [miss] ++ back) operatorId config asOf =
        .ok (.scored before) := by simpa using scored
    have late : scoreOperator recencyWeight (front ++ [{ miss with atMs := laterMs }] ++ back)
        operatorId config asOf = .ok (.scored after) := by simpa using scoredToo
    refine notRaised_of_misses positive nonneg (isMissOnly miss isMiss) (isMissOnly _ isMissToo) ?_
      early late
    rw [outcomeWeight_single isMiss, outcomeWeight_single isMissToo]
    by_cases inside : inWindow operatorId (asOf - config.windowMs) asOf miss
    · have insideToo : inWindow operatorId (asOf - config.windowMs) asOf
          { miss with atMs := laterMs } := by
        have inTime := stays inside
        simp only [inWindow, Bool.and_eq_true, decide_eq_true_eq] at inside ⊢
        exact ⟨⟨inside.1.1, le_trans inside.1.2 later⟩, inTime⟩
      rw [if_pos inside, if_pos insideToo]
      exact antitone (sub_le_sub_left later asOf)
    · rw [if_neg inside]
      split
      · exact le_of_lt (positive _)
      · exact le_rfl

/-! ### A miss that leaves the window, and availability that counts against an operator -/

/-- A miss that is moved behind the end of the window raises the score from 650 to 1000, and a
miss that is added from 0 to 500 where the availability's weight is negative. -/
theorem miss_raises_score :
    (¬ ∀ (recencyWeight : ℚ → ℚ → ℚ) (front back : List (Verdict ℚ)) (miss : Verdict ℚ)
        (operatorId : JsString) (config : ScoreConfig ℚ) (asOf laterMs : ℚ)
        (before after : ScoredScore ℚ),
        (∀ ageMs, 0 < recencyWeight ageMs config.halfLifeMs) →
          (Antitone fun ageMs => recencyWeight ageMs config.halfLifeMs) →
            miss.outcome = .miss → miss.atMs ≤ laterMs →
              scoreOperator recencyWeight (front ++ miss :: back) operatorId config asOf =
                  .ok (.scored before) →
                scoreOperator recencyWeight (front ++ { miss with atMs := laterMs } :: back)
                    operatorId config asOf = .ok (.scored after) →
                  NotRaised before.score after.score) ∧
      ¬ ∀ (recencyWeight : ℚ → ℚ → ℚ) (front back : List (Verdict ℚ)) (miss : Verdict ℚ)
        (operatorId : JsString) (config : ScoreConfig ℚ) (asOf : ℚ)
        (before after : ScoredScore ℚ),
        (∀ ageMs, 0 < recencyWeight ageMs config.halfLifeMs) →
          (Antitone fun ageMs => recencyWeight ageMs config.halfLifeMs) →
            miss.outcome = .miss →
              scoreOperator recencyWeight (front ++ back) operatorId config asOf =
                  .ok (.scored before) →
                scoreOperator recencyWeight (front ++ miss :: back) operatorId config asOf =
                    .ok (.scored after) →
                  NotRaised before.score after.score := by
  have raised {before after : Int} (rise : before < after) :
      ¬ NotRaised (some before) (some after) := by
    rintro (⟨never, -⟩ | ⟨score, lower, isScore, isLower, le⟩)
    · cases never
    · cases isScore
      cases isLower
      exact absurd le (not_le.mpr rise)
  have scored (weights : Option (Weights ℚ)) (miss : List (Verdict ℚ)) (latencyMs : ℚ)
      (enough : (scoring weights).minSamples ≤ ((selectWindow
        ([judged .success 0 latencyMs] ++ miss) (js "operator") 100 0).verdicts.length : ℚ)) :
      ∃ score, scoreOperator (fun _ _ => 1) ([judged .success 0 latencyMs] ++ miss)
        (js "operator") (scoring weights) 0 = .ok (.scored score) :=
    exists_scored_iff.mpr ⟨rfl, enough⟩
  constructor
  · intro always
    rcases scored none [judged .miss 0 0] 0 (by decide +kernel) with ⟨before, isBefore⟩
    rcases scored none [judged .miss 1 0] 0 (by decide +kernel) with ⟨after, isAfter⟩
    have kept := always (fun _ _ => 1) [judged .success 0 0] [] (judged .miss 0 0)
      (js "operator") (scoring none) 0 1 before after (fun _ => one_pos) (fun _ _ _ => le_rfl)
      rfl (by decide +kernel) isBefore isAfter
    have first : before.score = some 650 := (scored_cases isBefore).1.trans (by decide +kernel)
    have second : after.score = some 1000 := (scored_cases isAfter).1.trans (by decide +kernel)
    rw [first, second] at kept
    exact raised (by decide) kept
  · intro always
    rcases scored (some ⟨-1, 2⟩) [] 3000 (by decide +kernel) with ⟨before, isBefore⟩
    rcases scored (some ⟨-1, 2⟩) [judged .miss 0 0] 3000 (by decide +kernel) with
      ⟨after, isAfter⟩
    have kept := always (fun _ _ => 1) [judged .success 0 3000] [] (judged .miss 0 0)
      (js "operator") (scoring (some ⟨-1, 2⟩)) 0 before after (fun _ => one_pos)
      (fun _ _ _ => le_rfl) rfl isBefore isAfter
    have first : before.score = some 0 := (scored_cases isBefore).1.trans (by decide +kernel)
    have second : after.score = some 500 := (scored_cases isAfter).1.trans (by decide +kernel)
    rw [first, second] at kept
    exact raised (by decide) kept

theorem score_not_raised_by_later_miss :
    ∃ before after : ScoredScore ℚ,
      scoreOperator (fun _ _ => 1) [judged .success 0 0, judged .miss (-5) 0] (js "operator")
          (scoring none) 0 = .ok (.scored before) ∧
        scoreOperator (fun _ _ => 1) [judged .success 0 0, judged .miss (-1) 0] (js "operator")
            (scoring none) 0 = .ok (.scored after) ∧
          NotRaised before.score after.score := by
  have scored (atMs : ℚ) (enough : (scoring none).minSamples ≤ ((selectWindow
      [judged .success 0 0, judged .miss atMs 0] (js "operator") 100 0).verdicts.length : ℚ)) :
      ∃ score, scoreOperator (fun _ _ => 1) [judged .success 0 0, judged .miss atMs 0]
        (js "operator") (scoring none) 0 = .ok (.scored score) :=
    exists_scored_iff.mpr ⟨rfl, enough⟩
  rcases scored (-5) (by decide +kernel) with ⟨before, isBefore⟩
  rcases scored (-1) (by decide +kernel) with ⟨after, isAfter⟩
  refine ⟨before, after, isBefore, isAfter, ?_⟩
  have kept := (score_not_raised_by_miss (fun _ _ => 1) [judged .success 0 0] []
    (judged .miss (-5) 0) (js "operator") (scoring none) 0 (fun _ => one_pos)
    (fun _ _ _ => le_rfl) rfl (by decide +kernel)).2
  exact kept (-1) before after (by decide +kernel) (fun _ => by decide +kernel) isBefore isAfter

end Orbital.WorkerCore.Reputation
