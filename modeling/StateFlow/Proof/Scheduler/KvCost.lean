import StateFlow.Proof.Scheduler.BudgetFilter

namespace StateFlow.Scheduler
open Python State Binary64 Float64

/-- The same target with another local cache. -/
def withLocalKv (target : TargetCandidate) (localKvTokens : Int) : TargetCandidate :=
  { target with localKvTokens := localKvTokens }

section Breakdown
variable (limits : RequestLimits) (target : TargetCandidate)

/-- More local tokens replace remote and missing ones. -/
theorem kvBreakdown_shift {first second : Int} (more : first ≤ second) :
    (kvBreakdown limits (withLocalKv target first)).localTokens
        ≤ (kvBreakdown limits (withLocalKv target second)).localTokens ∧
      (kvBreakdown limits (withLocalKv target second)).remoteTokens
        ≤ (kvBreakdown limits (withLocalKv target first)).remoteTokens ∧
      (kvBreakdown limits (withLocalKv target second)).missTokens
        ≤ (kvBreakdown limits (withLocalKv target first)).missTokens := by
  unfold kvBreakdown withLocalKv
  simp only
  split
  · omega
  · omega

end Breakdown

/-- The decay of the value of a cache until the next call. -/
def decayFactor (host : Host) (outlook : KvOutlook) (config : SchedulerConfig) : ℚ :=
  host.exp (-(max 0 outlook.predictedTimeUntilNextModelCallSeconds) /
    max (1 / 1000000) config.futureValueDecaySeconds)

/-- The expected reuses of one cached token. -/
def expectedReuses (host : Host) (outlook : KvOutlook) (config : SchedulerConfig) : ℚ :=
  clamp outlook.continuationProbability * clamp outlook.kvReuseProbability *
    max 0 outlook.predictedRemainingTurns * decayFactor host outlook config

/-- The tokens that a later turn can reuse. -/
def reusableTokens (target : TargetCandidate) (localKvTokens remoteKvTokens : Int) : ℚ :=
  (max 0 localKvTokens : Int) + (max 0 remoteKvTokens : Int) * clamp target.remoteKvReuseFactor

section Value
variable {host : Host} {outlook : KvOutlook} {config : SchedulerConfig}

theorem expectedReuses_nonneg (decays : 0 ≤ decayFactor host outlook config) :
    0 ≤ expectedReuses host outlook config :=
  mul_nonneg (mul_nonneg (mul_nonneg (clamp_nonneg _) (clamp_nonneg _)) (le_max_left _ _)) decays

theorem reusableTokens_nonneg (target : TargetCandidate) (localKvTokens remoteKvTokens : Int) :
    0 ≤ reusableTokens target localKvTokens remoteKvTokens :=
  add_nonneg (Int.cast_nonneg (le_max_left _ _))
    (mul_nonneg (Int.cast_nonneg (le_max_left _ _)) (clamp_nonneg _))

/-- The future value is a product with one clamp. -/
theorem futureKvValue_max (host : Host) (outlook : KvOutlook) (target : TargetCandidate)
    (config : SchedulerConfig) (localKvTokens remoteKvTokens : Int) :
    futureKvValue host outlook target config localKvTokens remoteKvTokens =
      max 0 (expectedReuses host outlook config *
        reusableTokens target localKvTokens remoteKvTokens * max 0 target.kvRecomputeCostPerToken) := by
  unfold expectedReuses
  change max 0 (_ * _ * _ * _ * _ * _) = _
  congr 1
  unfold decayFactor reusableTokens
  ring

/-- The future value prices the expected reuses of the reusable tokens. -/
theorem futureKvValue_eq (decays : 0 ≤ decayFactor host outlook config)
    (target : TargetCandidate) (localKvTokens remoteKvTokens : Int) :
    futureKvValue host outlook target config localKvTokens remoteKvTokens
      = expectedReuses host outlook config * reusableTokens target localKvTokens remoteKvTokens *
        max 0 target.kvRecomputeCostPerToken := by
  have nonneg := mul_nonneg (mul_nonneg (expectedReuses_nonneg decays)
    (reusableTokens_nonneg target localKvTokens remoteKvTokens))
    (le_max_left 0 target.kvRecomputeCostPerToken)
  rw [futureKvValue_max, max_eq_right nonneg]

/-- More local tokens never lower the reusable ones. -/
theorem reusableTokens_shift (limits : RequestLimits) (target : TargetCandidate)
    {first second : Int} (more : first ≤ second) :
    reusableTokens target (kvBreakdown limits (withLocalKv target first)).localTokens
        (kvBreakdown limits (withLocalKv target first)).remoteTokens
      ≤ reusableTokens target (kvBreakdown limits (withLocalKv target second)).localTokens
        (kvBreakdown limits (withLocalKv target second)).remoteTokens := by
  obtain ⟨before, startLocal, startRemote, -⟩ := kvBreakdown_parts limits (withLocalKv target first)
  obtain ⟨after, endLocal, endRemote, -⟩ := kvBreakdown_parts limits (withLocalKv target second)
  obtain ⟨_, fewer, missed⟩ := kvBreakdown_shift limits target more
  unfold reusableTokens
  rw [max_eq_right startLocal, max_eq_right startRemote, max_eq_right endLocal,
    max_eq_right endRemote]
  -- The local tokens grow by at least as much as the remote ones shrink.
  have gained : ((kvBreakdown limits (withLocalKv target first)).remoteTokens : ℚ) -
      (kvBreakdown limits (withLocalKv target second)).remoteTokens
        ≤ (kvBreakdown limits (withLocalKv target second)).localTokens -
          (kvBreakdown limits (withLocalKv target first)).localTokens := by
    exact_mod_cast (by omega)
  have moved : (0 : ℚ) ≤ (kvBreakdown limits (withLocalKv target first)).remoteTokens -
      (kvBreakdown limits (withLocalKv target second)).remoteTokens :=
    sub_nonneg.mpr (Int.cast_le.mpr fewer)
  have weighted := mul_le_of_le_one_right moved (clamp_le_one target.remoteKvReuseFactor)
  linarith

/-- More local tokens never lower the credit. -/
theorem futureCredit_shift (limits : RequestLimits) (target : TargetCandidate)
    (credited : 0 ≤ config.lambdaFuture) (decays : 0 ≤ decayFactor host outlook config)
    {first second : Int} (more : first ≤ second) :
    futureCredit host limits outlook (withLocalKv target first) config
      ≤ futureCredit host limits outlook (withLocalKv target second) config := by
  unfold futureCredit
  apply mul_le_mul_of_nonneg_left _ credited
  rw [futureKvValue_eq decays, futureKvValue_eq decays]
  apply mul_le_mul_of_nonneg_right _ (le_max_left _ _)
  exact mul_le_mul_of_nonneg_left (reusableTokens_shift limits target more)
    (expectedReuses_nonneg decays)

/-- More local tokens never raise the effective cost. -/
theorem effectiveCost_shift (limits : RequestLimits) (target : TargetCandidate)
    (estimate : SuccessEstimate) (credited : 0 ≤ config.lambdaFuture)
    (decays : 0 ≤ decayFactor host outlook config) {first second : Int} (more : first ≤ second) :
    (effectiveCost host limits outlook (withLocalKv target second) estimate config).effectiveCost
      ≤ (effectiveCost host limits outlook (withLocalKv target first) estimate config).effectiveCost := by
  obtain ⟨-, fewer, missed⟩ := kvBreakdown_shift limits target more
  have fetch : ((kvBreakdown limits (withLocalKv target second)).remoteTokens : ℚ) *
      max 0 target.kvFetchCostPerToken
        ≤ (kvBreakdown limits (withLocalKv target first)).remoteTokens *
          max 0 target.kvFetchCostPerToken :=
    mul_le_mul_of_nonneg_right (Int.cast_le.mpr fewer) (le_max_left _ _)
  have recompute : ((kvBreakdown limits (withLocalKv target second)).missTokens : ℚ) *
      max 0 target.kvRecomputeCostPerToken
        ≤ (kvBreakdown limits (withLocalKv target first)).missTokens *
          max 0 target.kvRecomputeCostPerToken :=
    mul_le_mul_of_nonneg_right (Int.cast_le.mpr missed) (le_max_left _ _)
  have lower : costLowerBound limits (withLocalKv target second)
      ≤ costLowerBound limits (withLocalKv target first) := by
    unfold costLowerBound
    apply add_le_add _ le_rfl
    apply add_le_add _ recompute
    exact add_le_add le_rfl fetch
  have credit := futureCredit_shift limits target credited decays more
  have retry : retryCost (withLocalKv target second) estimate
      = retryCost (withLocalKv target first) estimate := rfl
  rw [effectiveCost_eq, effectiveCost_eq, retry]
  exact max_le_max le_rfl (sub_le_sub (add_le_add lower le_rfl) credit)

end Value

/-- The future value is a number from zero on that never exceeds the price of the reusable tokens. Nor
does a credit of at most the whole value. -/
structure CreditBounded (value bound : Float64) : Prop where
  nonneg : 0 ≤ value
  bounded : ¬ bound < value
  credit : ∀ share ≤ 1, ¬ bound < share * value

section Credit
variable (exp : Float64 → Float64) (horizon : Horizon Float64) (rates : Rates Float64)
  (config : CreditConfig Float64) (localKvTokens remoteKvTokens : Int)

/-- A share of at most one never exceeds a bound of the whole value. -/
theorem creditBounded_iff_le {value bound : Float64} (nonneg : 0 ≤ value) :
    CreditBounded value bound ↔ ¬ bound < value := by
  refine ⟨CreditBounded.bounded, fun bounded => ⟨nonneg, bounded, fun share small exceeds => ?_⟩⟩
  have present := (ne_nan_of_le (le_of_lt exceeds)).2
  exact bounded (lt_of_lt_of_le exceeds (mul_le_of_le_one small nonneg present))

/-- Without tokens there is no value and no bound. -/
theorem reused_void (none : max 0 localKvTokens + max 0 remoteKvTokens = 0) :
    Void (reusedTokens horizon rates localKvTokens remoteKvTokens) ∧
      Void (recomputeBound rates localKvTokens remoteKvTokens) := by
  have zero : Void (((0 : Int) : Float64)) := .inl zero_count
  have noLocal : max 0 localKvTokens = 0 := by omega
  have noRemote : max 0 remoteKvTokens = 0 := by omega
  unfold reusedTokens recomputeBound
  rw [noLocal, noRemote]
  exact ⟨((zero.add (zero.mul_right _)).mul_left _).mul_right _, zero.mul_right _⟩

/-- The bound has the sign of the price when there are tokens. -/
theorem recomputeBound_sign (some : 0 < max 0 localKvTokens + max 0 remoteKvTokens) :
    (rates.kvRecomputeCostPerToken < 0 → recomputeBound rates localKvTokens remoteKvTokens < 0) ∧
      (0 < rates.kvRecomputeCostPerToken → 0 < recomputeBound rates localKvTokens remoteKvTokens) ∧
      (Void rates.kvRecomputeCostPerToken → Void (recomputeBound rates localKvTokens remoteKvTokens)) :=
  ⟨count_mul_neg some, count_mul_pos some, fun void => void.mul_left _⟩

end Credit

/-- Fifteen expected turns at a fifteenth exceed the bound by the rounding alone. -/
example :
    recomputeBound cachedRates 125 0 <
      futureValue (fun _ => 1) ⟨double (1 / 15), 1, 15, 0⟩ cachedRates plainCredit 125 0 := by
  decide +kernel

end StateFlow.Scheduler
