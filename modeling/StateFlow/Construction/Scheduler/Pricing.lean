import StateFlow.Construction.Scheduler.Filter
import StateFlow.Library.Float64

namespace StateFlow.Scheduler
open Python Binary64

/-- The prices of a target and the share of its remote tokens that a later turn can reuse. -/
structure Rates (F : Type) where
  inferenceCost : F
  inputCostPerToken : F
  outputCostPerToken : F
  kvFetchCostPerToken : F
  kvRecomputeCostPerToken : F
  fallbackPathCost : F
  routingOverheadCost : F
  remoteKvReuseFactor : F

/-- The later turns that a view expects. -/
structure Horizon (F : Type) where
  continuationProbability : F
  kvReuseProbability : F
  predictedRemainingTurns : Int
  predictedTimeUntilNextModelCallSeconds : F

/-- The weight and the decay of the future value. -/
structure CreditConfig (F : Type) where
  lambdaFuture : F
  futureValueDecaySeconds : F

section Costs
variable {F : Type} [Arithmetic F] [DecidableLT F]

/-- `clamp` with its default bounds -/
def clampOf (value : F) : F := greatest 0 (least 1 value)

/-- A count at a price. A negative price counts as zero. -/
def charge (count : Int) (price : F) : F := count * greatest 0 price

/-- `inference` of `effective_cost` -/
def inferenceCharge (limits : RequestLimits) (rates : Rates F) : F :=
  greatest 0 rates.inferenceCost
    + charge (max 0 limits.promptTokens) rates.inputCostPerToken
    + charge (max 0 limits.predictedOutputTokens) rates.outputCostPerToken

/-- The charges for the tokens of a request, without a retry and the overhead of the routing. -/
def tokenCharge (limits : RequestLimits) (target : TargetCandidate) (rates : Rates F) : F :=
  let split := kvBreakdown limits target
  inferenceCharge limits rates
    + charge split.remoteTokens rates.kvFetchCostPerToken
    + charge split.missTokens rates.kvRecomputeCostPerToken

/-- `lower_bound` of `hard_filter` -/
def lowerBound (limits : RequestLimits) (target : TargetCandidate) (rates : Rates F) : F :=
  tokenCharge limits target rates + greatest 0 rates.routingOverheadCost

/-- `expected_retry` of `effective_cost` -/
def retryCharge (predictedSuccess : F) (rates : Rates F) : F :=
  greatest 0 (1 - predictedSuccess) * greatest 0 rates.fallbackPathCost

/-- The tokens that the later turns are expected to reuse. -/
def reusedTokens (horizon : Horizon F) (rates : Rates F) (localKvTokens remoteKvTokens : Int) : F :=
  let effectiveReusableTokens :=
    (max 0 localKvTokens : Int) + (max 0 remoteKvTokens : Int) * clampOf rates.remoteKvReuseFactor
  clampOf horizon.continuationProbability * clampOf horizon.kvReuseProbability
    * effectiveReusableTokens * (max 0 horizon.predictedRemainingTurns : Int)

/-- `decay` of `future_kv_value` -/
def decayOf (exp : F → F) (horizon : Horizon F) (config : CreditConfig F) : F :=
  let gap := greatest 0 horizon.predictedTimeUntilNextModelCallSeconds
  let decayScale := greatest ((1 / 1000000 : ℚ) : F) config.futureValueDecaySeconds
  exp (-gap / decayScale)

/-- `future_kv_value` -/
def futureValue (exp : F → F) (horizon : Horizon F) (rates : Rates F) (config : CreditConfig F)
    (localKvTokens remoteKvTokens : Int) : F :=
  greatest 0 (reusedTokens horizon rates localKvTokens remoteKvTokens
    * greatest 0 rates.kvRecomputeCostPerToken * decayOf exp horizon config)

/-- The credit for the tokens that later turns reuse. -/
def creditOf (exp : F → F) (limits : RequestLimits) (target : TargetCandidate) (horizon : Horizon F)
    (rates : Rates F) (config : CreditConfig F) : F :=
  let split := kvBreakdown limits target
  config.lambdaFuture * futureValue exp horizon rates config split.localTokens split.remoteTokens

/-- The charges of a request with the retry. -/
def fullCharge (limits : RequestLimits) (target : TargetCandidate) (predictedSuccess : F)
    (rates : Rates F) : F :=
  tokenCharge limits target rates + retryCharge predictedSuccess rates
    + greatest 0 rates.routingOverheadCost

/-- The `effective_cost` of the breakdown -/
def effectiveCharge (exp : F → F) (limits : RequestLimits) (target : TargetCandidate)
    (horizon : Horizon F) (predictedSuccess : F) (rates : Rates F) (config : CreditConfig F) : F :=
  greatest 0 (fullCharge limits target predictedSuccess rates
    - creditOf exp limits target horizon rates config)

end Costs

section Calls
variable {F : Type} [Arithmetic F] [DecidableLT F]

/-- Larger counts have no `float`. -/
def CountedRequest (limits : RequestLimits) : Prop :=
  limits.promptTokens < floatLimit ∧ limits.predictedOutputTokens < floatLimit

instance (limits : RequestLimits) : Decidable (CountedRequest limits) :=
  inferInstanceAs (Decidable (_ ∧ _))

/-- The budget check of `hard_filter` -/
def hardCostReasons (limits : RequestLimits) (target : TargetCandidate) (rates : Rates F) (budget : F) :
    Except Exception (List String) :=
  if CountedRequest limits then
    .ok (if budget < lowerBound limits target rates then ["hard_cost_budget_exceeded"] else [])
  else .error .overflowError

/-- `effective_cost` converts the counts of the request and of the later turns. -/
def effectiveCostOf (exp : F → F) (limits : RequestLimits) (target : TargetCandidate)
    (horizon : Horizon F) (predictedSuccess : F) (rates : Rates F) (config : CreditConfig F) :
    Except Exception F :=
  if CountedRequest limits ∧ horizon.predictedRemainingTurns < floatLimit then
    .ok (effectiveCharge exp limits target horizon predictedSuccess rates config)
  else .error .overflowError

/-- `future_kv_value` converts its counts. -/
def futureKvValueOf (exp : F → F) (horizon : Horizon F) (rates : Rates F) (config : CreditConfig F)
    (localKvTokens remoteKvTokens : Int) : Except Exception F :=
  if localKvTokens < floatLimit ∧ remoteKvTokens < floatLimit ∧
      horizon.predictedRemainingTurns < floatLimit then
    .ok (futureValue exp horizon rates config localKvTokens remoteKvTokens)
  else .error .overflowError

/-- The cost of recomputing the reusable tokens -/
def recomputeBound (rates : Rates F) (localKvTokens remoteKvTokens : Int) : F :=
  (max 0 localKvTokens + max 0 remoteKvTokens : Int) * rates.kvRecomputeCostPerToken

end Calls

section Exact

/-- The numbers of a target -/
def TargetCandidate.rates (target : TargetCandidate) : Rates ℚ where
  inferenceCost := target.inferenceCost
  inputCostPerToken := target.inputCostPerToken
  outputCostPerToken := target.outputCostPerToken
  kvFetchCostPerToken := target.kvFetchCostPerToken
  kvRecomputeCostPerToken := target.kvRecomputeCostPerToken
  fallbackPathCost := target.fallbackPathCost
  routingOverheadCost := target.routingOverheadCost
  remoteKvReuseFactor := target.remoteKvReuseFactor

def Horizon.outlook (horizon : Horizon ℚ) : KvOutlook where
  continuationProbability := horizon.continuationProbability
  kvReuseProbability := horizon.kvReuseProbability
  predictedRemainingTurns := horizon.predictedRemainingTurns
  predictedTimeUntilNextModelCallSeconds := horizon.predictedTimeUntilNextModelCallSeconds

def SchedulerConfig.credit (config : SchedulerConfig) : CreditConfig ℚ where
  lambdaFuture := config.lambdaFuture
  futureValueDecaySeconds := config.futureValueDecaySeconds

variable (host : Host) (limits : RequestLimits) (target : TargetCandidate) (horizon : Horizon ℚ)
  (estimate : SuccessEstimate) (config : SchedulerConfig)

theorem clampOf_exact (value : ℚ) : clampOf value = State.clamp value := by
  unfold clampOf State.clamp
  rw [greatest_rat, least_rat]

/-- Exact arithmetic is an instance: the bound of the filter, -/
theorem lowerBound_exact : lowerBound limits target target.rates = costLowerBound limits target := by
  unfold lowerBound tokenCharge inferenceCharge charge costLowerBound inferenceCost
  simp only [greatest_rat]
  rfl

/-- the future value, -/
theorem futureValue_exact (localKvTokens remoteKvTokens : Int) :
    futureValue host.exp horizon target.rates config.credit localKvTokens remoteKvTokens =
      futureKvValue host horizon.outlook target config localKvTokens remoteKvTokens := by
  have turns : ((max 0 horizon.predictedRemainingTurns : Int) : ℚ) =
      max 0 (horizon.predictedRemainingTurns : ℚ) := by rw [Int.cast_max, Int.cast_zero]
  unfold futureValue reusedTokens decayOf futureKvValue
  simp only [greatest_rat, clampOf_exact, turns]
  rfl

/-- and the effective cost. -/
theorem effectiveCharge_exact :
    effectiveCharge host.exp limits target horizon estimate.predictedSuccess target.rates config.credit =
      (effectiveCost host limits horizon.outlook target estimate config).effectiveCost := by
  unfold effectiveCharge fullCharge creditOf tokenCharge inferenceCharge charge retryCharge
    effectiveCost inferenceCost
  simp only [greatest_rat, futureValue_exact]
  rfl

end Exact

end StateFlow.Scheduler
