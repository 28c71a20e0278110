import StateFlow.Construction.State.View

namespace StateFlow.Scheduler
open Python Table State

/-- The scheduling policy. -/
structure SchedulerConfig where
  sMin : ℚ := 9 / 10
  epsilonSuccess : ℚ := 3 / 100
  beta : ℚ := 1
  epsilonCost : ℚ := 1 / 20
  lambdaFuture : ℚ := 1
  failureStreakOverride : ℚ := 2
  deescalationStableSteps : ℚ := 2
  errorSeverityOverride : ℚ := 3 / 4
  spinningScoreOverride : ℚ := 7 / 10
  minStateCompletenessForDowngrade : ℚ := 1 / 2
  predictorUncertaintyOverride : ℚ := 1 / 4
  futureValueDecaySeconds : ℚ := 5
  schedulerVersion : String := "success-first-0.1"

/-- The process supplies the text conversions and the exponential function. -/
structure Host extends Text where
  exp : ℚ → ℚ

/-- A target is one replica of a model behind an endpoint. -/
structure TargetCandidate where
  modelId : String
  endpointId : String
  replicaId : String
  tier : String := "efficient"
  capabilities : List String := []
  contextWindowTokens : Int := 128000
  region : String := "default"
  securityDomain : String := "default"
  cacheDomain : String := "default"
  backendKey : String := "default"
  available : Bool := true
  healthy : Bool := true
  supportsRemoteKv : Bool := true
  compatible : Bool := true
  baseSuccess : ℚ := 4 / 5
  baseUncertainty : ℚ := 3 / 100
  inferenceCost : ℚ := 0
  inputCostPerToken : ℚ := 0
  outputCostPerToken : ℚ := 0
  kvFetchCostPerToken : ℚ := 0
  kvRecomputeCostPerToken : ℚ := 0
  fallbackPathCost : ℚ := 0
  routingOverheadCost : ℚ := 0
  queueLatencySeconds : ℚ := 0
  kvFetchLatencyPerToken : ℚ := 0
  kvRecomputeLatencyPerToken : ℚ := 0
  prefillTokensPerSecond : ℚ := 10000
  decodeTokensPerSecond : ℚ := 100
  loadBalanceScore : ℚ := 0
  localKvTokens : Int := 0
  remoteKvTokens : Int := 0
  remoteKvReuseFactor : ℚ := 1 / 2
  metadata : List (String × Value) := []

/-- A candidate key names a model, an endpoint, and a replica. -/
abbrev CandidateKey := String × String × String

def TargetCandidate.key (target : TargetCandidate) : CandidateKey :=
  (target.modelId, target.endpointId, target.replicaId)

structure FilterRejection where
  modelId : String
  endpointId : String
  replicaId : String
  reasons : List String

def FilterRejection.key (rejection : FilterRejection) : CandidateKey :=
  (rejection.modelId, rejection.endpointId, rejection.replicaId)

/-- The rejection of a target repeats its key. -/
def TargetCandidate.reject (target : TargetCandidate) (reasons : List String) : FilterRejection :=
  ⟨target.modelId, target.endpointId, target.replicaId, reasons⟩

structure FilterResult where
  eligible : List TargetCandidate
  rejected : List FilterRejection

/-- A predictor estimates the success of a whole task. -/
structure SuccessEstimate where
  predictedSuccess : ℚ
  uncertainty : ℚ
  confidence : ℚ
  predictorVersion : String := "heuristic-0.1"
  notes : List String := []

/-- The lower confidence bound stays inside the unit interval. -/
def SuccessEstimate.lowerConfidenceBound (estimate : SuccessEstimate) (beta : ℚ) : ℚ :=
  clamp (estimate.predictedSuccess - beta * estimate.uncertainty)

structure CostBreakdown where
  inferenceCost : ℚ
  kvFetchCost : ℚ
  kvRecomputeCost : ℚ
  expectedRetryCost : ℚ
  routingOverheadCost : ℚ
  futureKvValue : ℚ
  effectiveCost : ℚ
  localKvTokens : Int
  remoteKvTokens : Int
  missTokens : Int

structure LatencyBreakdown where
  queueLatencySeconds : ℚ
  kvLatencySeconds : ℚ
  prefillLatencySeconds : ℚ
  decodeLatencySeconds : ℚ
  predictedLatencySeconds : ℚ
  criticalPathLatencySeconds : ℚ

/-- The trace entry of one candidate. An entry that no stage reached keeps the defaults. -/
structure CandidateEvaluation where
  modelId : String
  endpointId : String
  replicaId : String
  tier : String
  eligible : Bool := false
  rejectionReasons : List String := []
  predictedSuccess : ℚ := 0
  successUncertainty : ℚ := 1
  successConfidence : ℚ := 0
  successLcb : ℚ := 0
  successGate : Bool := false
  costGate : Bool := false
  selected : Bool := false
  inferenceCost : ℚ := 0
  kvFetchCost : ℚ := 0
  kvRecomputeCost : ℚ := 0
  expectedRetryCost : ℚ := 0
  routingOverheadCost : ℚ := 0
  futureKvValue : ℚ := 0
  effectiveCost : ℚ := 0
  queueLatencySeconds : ℚ := 0
  kvLatencySeconds : ℚ := 0
  prefillLatencySeconds : ℚ := 0
  decodeLatencySeconds : ℚ := 0
  predictedLatencySeconds : ℚ := 0
  criticalPathLatencySeconds : ℚ := 0
  localKvTokens : Int := 0
  remoteKvTokens : Int := 0
  missTokens : Int := 0
  metadata : List (String × Value) := []

def CandidateEvaluation.key (evaluation : CandidateEvaluation) : CandidateKey :=
  (evaluation.modelId, evaluation.endpointId, evaluation.replicaId)

def CandidateEvaluation.withCost (evaluation : CandidateEvaluation) (cost : CostBreakdown) :
    CandidateEvaluation :=
  { evaluation with
    inferenceCost := cost.inferenceCost
    kvFetchCost := cost.kvFetchCost
    kvRecomputeCost := cost.kvRecomputeCost
    expectedRetryCost := cost.expectedRetryCost
    routingOverheadCost := cost.routingOverheadCost
    futureKvValue := cost.futureKvValue
    effectiveCost := cost.effectiveCost
    localKvTokens := cost.localKvTokens
    remoteKvTokens := cost.remoteKvTokens
    missTokens := cost.missTokens }

def CandidateEvaluation.withLatency (evaluation : CandidateEvaluation)
    (latency : LatencyBreakdown) : CandidateEvaluation :=
  { evaluation with
    queueLatencySeconds := latency.queueLatencySeconds
    kvLatencySeconds := latency.kvLatencySeconds
    prefillLatencySeconds := latency.prefillLatencySeconds
    decodeLatencySeconds := latency.decodeLatencySeconds
    predictedLatencySeconds := latency.predictedLatencySeconds
    criticalPathLatencySeconds := latency.criticalPathLatencySeconds }

/-- The stored form of a trace entry. -/
def CandidateEvaluation.toDict (evaluation : CandidateEvaluation) : Value :=
  .dict [("model_id", .str evaluation.modelId), ("endpoint_id", .str evaluation.endpointId),
    ("replica_id", .str evaluation.replicaId), ("tier", .str evaluation.tier),
    ("eligible", .bool evaluation.eligible),
    ("rejection_reasons", .list (evaluation.rejectionReasons.map .str)),
    ("predicted_success", .float evaluation.predictedSuccess),
    ("success_uncertainty", .float evaluation.successUncertainty),
    ("success_confidence", .float evaluation.successConfidence),
    ("success_lcb", .float evaluation.successLcb), ("success_gate", .bool evaluation.successGate),
    ("cost_gate", .bool evaluation.costGate), ("selected", .bool evaluation.selected),
    ("inference_cost", .float evaluation.inferenceCost),
    ("kv_fetch_cost", .float evaluation.kvFetchCost),
    ("kv_recompute_cost", .float evaluation.kvRecomputeCost),
    ("expected_retry_cost", .float evaluation.expectedRetryCost),
    ("routing_overhead_cost", .float evaluation.routingOverheadCost),
    ("future_kv_value", .float evaluation.futureKvValue),
    ("effective_cost", .float evaluation.effectiveCost),
    ("queue_latency_seconds", .float evaluation.queueLatencySeconds),
    ("kv_latency_seconds", .float evaluation.kvLatencySeconds),
    ("prefill_latency_seconds", .float evaluation.prefillLatencySeconds),
    ("decode_latency_seconds", .float evaluation.decodeLatencySeconds),
    ("predicted_latency_seconds", .float evaluation.predictedLatencySeconds),
    ("critical_path_latency_seconds", .float evaluation.criticalPathLatencySeconds),
    ("local_kv_tokens", .int evaluation.localKvTokens),
    ("remote_kv_tokens", .int evaluation.remoteKvTokens),
    ("miss_tokens", .int evaluation.missTokens), ("metadata", .dict evaluation.metadata)]

/-- The reason that a decision reports. -/
inductive DecisionReason where
  | criticalOverride | successDominant | costDominant | kvAffinity | loadBalance
  | latencyTiebreak | hysteresisHold | fallback
  deriving DecidableEq, Repr

def DecisionReason.value : DecisionReason → String
  | criticalOverride => "CRITICAL_OVERRIDE"
  | successDominant => "SUCCESS_DOMINANT"
  | costDominant => "COST_DOMINANT"
  | kvAffinity => "KV_AFFINITY"
  | loadBalance => "LOAD_BALANCE"
  | latencyTiebreak => "LATENCY_TIEBREAK"
  | hysteresisHold => "HYSTERESIS_HOLD"
  | fallback => "FALLBACK"

/-- A decision carries its full candidate trace. -/
structure RoutingDecision where
  selectedModel : String
  selectedEndpoint : String
  selectedReplica : String
  predictedSuccess : ℚ
  predictedCost : ℚ
  predictedLatencySeconds : ℚ
  decisionReason : DecisionReason
  candidates : List CandidateEvaluation
  schedulerVersion : String
  stateId : Value
  stateVersion : Value
  decisionId : String
  timestamp : Int
  overrideReasons : List String
  fallback : Bool

def RoutingDecision.selectedKey (decision : RoutingDecision) : CandidateKey :=
  (decision.selectedModel, decision.selectedEndpoint, decision.selectedReplica)

/-- The stored form of a decision. -/
def RoutingDecision.toDict (decision : RoutingDecision) : Value :=
  .dict [("selected_model", .str decision.selectedModel),
    ("selected_endpoint", .str decision.selectedEndpoint),
    ("selected_replica", .str decision.selectedReplica),
    ("predicted_success", .float decision.predictedSuccess),
    ("predicted_cost", .float decision.predictedCost),
    ("predicted_latency_seconds", .float decision.predictedLatencySeconds),
    ("decision_reason", .str decision.decisionReason.value),
    ("candidates", .list (decision.candidates.map CandidateEvaluation.toDict)),
    ("scheduler_version", .str decision.schedulerVersion), ("state_id", decision.stateId),
    ("state_version", decision.stateVersion), ("decision_id", .str decision.decisionId),
    ("timestamp", .datetime decision.timestamp),
    ("override_reasons", .list (decision.overrideReasons.map .str)),
    ("fallback", .bool decision.fallback)]

/-- A decision receives a generated identifier and the current instant. -/
structure DecisionStamp where
  decisionId : String
  timestamp : Int

/-- Scheduling fails for want of a target or through an exception of the process. -/
inductive ScheduleError where
  | noFeasibleTarget (message : String) (rejections : List FilterRejection)
  | raised (exception : Exception)

/-- A predictor returns an estimate or raises an exception of some class. -/
abbrev SuccessPredictor := HarnessSchedulingView → TargetCandidate → Except String SuccessEstimate

/-- These are the attributes that the hard filter and the cost model read. -/
structure RequestLimits where
  promptTokens : Int
  predictedOutputTokens : Int
  requiredCapabilities : List String
  allowedModels : List Value
  allowedRegions : List Value
  allowedCacheDomains : List Value
  securityDomain : Value
  remoteKvAllowed : Bool
  costBudget : Option ℚ

/-- These are the attributes that the critical override reads. -/
structure RiskSignals where
  criticalError : Bool
  errorSeverity : ℚ
  failureStreak : ℚ
  consecutiveFailures : ℚ
  spinningScore : ℚ
  recoveryScore : ℚ
  contextCompactionNeeded : Bool
  criticalStep : Bool
  securitySensitive : Bool
  phase : String
  stateCompleteness : ℚ

/-- These are the attributes that the value of a cache depends on. -/
structure KvOutlook where
  continuationProbability : ℚ
  kvReuseProbability : ℚ
  predictedRemainingTurns : ℚ
  predictedTimeUntilNextModelCallSeconds : ℚ

/-- These are the attributes that the placement reads. -/
structure SessionPlace where
  sessionTurn : ℚ
  preferredReplica : Value
  preferredEndpoint : Value
  migrationPenalty : ℚ

/-- A count is declared as an integer. A float lies outside the declared type and has no count here. -/
def integer (value : Value) : Except Exception Int :=
  match value with
  | .int count => .ok count
  | .bool flag => .ok (if flag then 1 else 0)
  | _ => .error .typeError

/-- A capability that no target declares has to be a text. -/
def capabilityText (value : Value) : Except Exception String :=
  match value.text? with
  | some name => .ok name
  | none => .error .typeError

/-- A budget is absent or a number. -/
def budget (value : Value) : Except Exception (Option ℚ) :=
  match value with
  | .none => .ok none
  | _ => do return some (← value.number)

section Reads
variable (view : HarnessSchedulingView)

def limits : Except Exception RequestLimits := do
  return {
    promptTokens := ← integer view.promptTokens
    predictedOutputTokens := ← integer view.predictedOutputTokens
    requiredCapabilities := ← view.requiredCapabilities.mapM capabilityText
    allowedModels := view.allowedModels
    allowedRegions := view.allowedRegions
    allowedCacheDomains := view.allowedCacheDomains
    securityDomain := view.securityDomain
    remoteKvAllowed := view.remoteKvAllowed.truthy
    costBudget := ← budget view.costBudget }

/-- A phase is a member of its enumeration. -/
def phaseText (value : Value) : Except Exception String :=
  match value with
  | .enum _ member => .ok member
  | _ => .error .attributeError

def risks : Except Exception RiskSignals := do
  return {
    criticalError := view.criticalError.truthy
    errorSeverity := view.errorSeverity
    failureStreak := ← view.failureStreak.number
    consecutiveFailures := ← view.consecutiveFailures.number
    spinningScore := view.spinningScore
    recoveryScore := view.recoveryScore
    contextCompactionNeeded := view.contextCompactionNeeded.truthy
    criticalStep := view.criticalStep
    securitySensitive := view.securitySensitive.truthy
    phase := ← phaseText view.phase
    stateCompleteness := view.stateCompleteness }

def outlook : Except Exception KvOutlook := do
  return {
    continuationProbability := view.continuationProbability
    kvReuseProbability := view.kvReuseProbability
    predictedRemainingTurns := ← view.predictedRemainingTurns.number
    predictedTimeUntilNextModelCallSeconds :=
      ← view.predictedTimeUntilNextModelCallSeconds.number }

def place : Except Exception SessionPlace := do
  return {
    sessionTurn := ← view.sessionTurn.number
    preferredReplica := view.preferredReplica
    preferredEndpoint := view.preferredEndpoint
    migrationPenalty := ← view.migrationPenalty.number }

end Reads

end StateFlow.Scheduler
