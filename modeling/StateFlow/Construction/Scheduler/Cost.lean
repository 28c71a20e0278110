import StateFlow.Construction.Scheduler.Types

namespace StateFlow.Scheduler
open Python Table State

/-- A prompt splits into local, remote, and missing tokens. -/
structure KvBreakdown where
  localTokens : Int
  remoteTokens : Int
  missTokens : Int

def kvBreakdown (limits : RequestLimits) (target : TargetCandidate) : KvBreakdown :=
  let promptTokens := max 0 limits.promptTokens
  let localTokens := min promptTokens (max 0 target.localKvTokens)
  let remoteTokens :=
    if !limits.remoteKvAllowed || !target.supportsRemoteKv then 0
    else min (promptTokens - localTokens) (max 0 target.remoteKvTokens)
  ⟨localTokens, remoteTokens, max 0 (promptTokens - localTokens - remoteTokens)⟩

/-- The expected value of keeping the reusable tokens for later turns. -/
def futureKvValue (host : Host) (outlook : KvOutlook) (target : TargetCandidate)
    (config : SchedulerConfig) (localKvTokens remoteKvTokens : Int) : ℚ :=
  let localTokens : ℚ := (max 0 localKvTokens : Int)
  let remoteTokens : ℚ := (max 0 remoteKvTokens : Int)
  let effectiveReusableTokens := localTokens + remoteTokens * clamp target.remoteKvReuseFactor
  let remainingTurns := max 0 outlook.predictedRemainingTurns
  let recomputeCost := max 0 target.kvRecomputeCostPerToken
  let gap := max 0 outlook.predictedTimeUntilNextModelCallSeconds
  let decayScale := max (1 / 1000000) config.futureValueDecaySeconds
  let decay := host.exp (-gap / decayScale)
  max 0 (clamp outlook.continuationProbability * clamp outlook.kvReuseProbability *
    effectiveReusableTokens * remainingTurns * recomputeCost * decay)

/-- The price of the tokens of a request. -/
def inferenceCost (limits : RequestLimits) (target : TargetCandidate) : ℚ :=
  max 0 target.inferenceCost
    + (max 0 limits.promptTokens : Int) * max 0 target.inputCostPerToken
    + (max 0 limits.predictedOutputTokens : Int) * max 0 target.outputCostPerToken

/-- The effective cost credits the future value of the cache and never falls below zero. -/
def effectiveCost (host : Host) (limits : RequestLimits) (outlook : KvOutlook)
    (target : TargetCandidate) (estimate : SuccessEstimate) (config : SchedulerConfig) :
    CostBreakdown :=
  let split := kvBreakdown limits target
  let inference := inferenceCost limits target
  let fetch := split.remoteTokens * max 0 target.kvFetchCostPerToken
  let recompute := split.missTokens * max 0 target.kvRecomputeCostPerToken
  let expectedRetry := max 0 (1 - estimate.predictedSuccess) * max 0 target.fallbackPathCost
  let overhead := max 0 target.routingOverheadCost
  let future := futureKvValue host outlook target config split.localTokens split.remoteTokens
  { inferenceCost := inference
    kvFetchCost := fetch
    kvRecomputeCost := recompute
    expectedRetryCost := expectedRetry
    routingOverheadCost := overhead
    futureKvValue := future
    effectiveCost := max 0 (inference + fetch + recompute + expectedRetry + overhead
      - config.lambdaFuture * future)
    localKvTokens := split.localTokens
    remoteKvTokens := split.remoteTokens
    missTokens := split.missTokens }

theorem effectiveCost_nonneg (host : Host) (limits : RequestLimits) (outlook : KvOutlook)
    (target : TargetCandidate) (estimate : SuccessEstimate) (config : SchedulerConfig) :
    0 ≤ (effectiveCost host limits outlook target estimate config).effectiveCost :=
  le_max_left _ _

/-- The latency of a request from its queue, cache, prefill, and decode parts. -/
def predictedLatency (limits : RequestLimits) (urgency : ℚ) (target : TargetCandidate) :
    LatencyBreakdown :=
  let split := kvBreakdown limits target
  let kvLatency := split.remoteTokens * max 0 target.kvFetchLatencyPerToken
    + split.missTokens * max 0 target.kvRecomputeLatencyPerToken
  let prefill := split.missTokens / max (1 / 1000000000) target.prefillTokensPerSecond
  let decode := (max 0 limits.predictedOutputTokens : Int)
    / max (1 / 1000000000) target.decodeTokensPerSecond
  let queue := max 0 target.queueLatencySeconds
  let total := queue + kvLatency + prefill + decode
  let criticalFactor := 1 + 0 * max 0 urgency
  { queueLatencySeconds := queue
    kvLatencySeconds := kvLatency
    prefillLatencySeconds := prefill
    decodeLatencySeconds := decode
    predictedLatencySeconds := total
    criticalPathLatencySeconds := total * criticalFactor }

end StateFlow.Scheduler
