import StateFlow.Construction.Scheduler.Gates

namespace StateFlow.Scheduler
open Python Table State Selection

/-- The rank of a tier. An unknown tier has the lowest rank. -/
def tierRank (host : Host) (tier : String) : Nat :=
  let name := host.lower tier
  if name ∈ ["capable", "strong"] then 1
  else if name ∈ ["frontier", "premium"] then 2
  else 0

section Predictor
variable (estimate : TargetCandidate → Except String SuccessEstimate)

/-- An exception of the predictor becomes a conservative estimate. -/
def safeEstimate (target : TargetCandidate) : SuccessEstimate :=
  match estimate target with
  | .ok result => result
  | .error name =>
      { predictedSuccess := 0, uncertainty := 1, confidence := 0
        predictorVersion := "fallback-unavailable", notes := ["predictor_error:" ++ name] }

/-- The first target of a model decides the estimate of the model. -/
def estimateByModel (targets : List TargetCandidate) : List (String × SuccessEstimate) :=
  targets.foldl (fun estimates target =>
    if (estimates.lookup target.modelId).isSome then estimates
    else estimates ++ [(target.modelId, safeEstimate estimate target)]) []

end Predictor

/-- A failed or uncertain estimate asks for the safe policy. -/
def requiresSafeMode (config : SchedulerConfig) (estimates : List (String × SuccessEstimate)) :
    Bool :=
  let threshold := max 0 config.predictorUncertaintyOverride
  estimates.any fun entry =>
    decide (threshold ≤ entry.2.uncertainty) || entry.2.notes.any fun note =>
      note.startsWith "predictor_error:"
        || decide ("out_of_distribution".toList <:+: note.toList)

/-- A policy restricts the eligible targets and holds their estimates. -/
structure Policy where
  override : CriticalOverride
  targets : List TargetCandidate
  estimates : List (String × SuccessEstimate)

/-- Unsafe estimates switch to the capable targets and are computed again. -/
def choosePolicy (host : Host) (config : SchedulerConfig)
    (estimate : TargetCandidate → Except String SuccessEstimate) (risks : RiskSignals)
    (eligible : List TargetCandidate) : Except Exception Policy := do
  let override := criticalOverride risks config
  let targets ← if override.active then capableOnly host eligible else .ok eligible
  let estimates := estimateByModel estimate targets
  if !override.active && requiresSafeMode config estimates then
    let capable ← capableOnly host eligible
    return ⟨⟨true, ["predictor_uncertainty_or_ood"]⟩, capable, estimateByModel estimate capable⟩
  return ⟨override, targets, estimates⟩

/-- The trace entry of an evaluated target. -/
def initialEvaluation (config : SchedulerConfig) (target : TargetCandidate)
    (estimate : SuccessEstimate) : CandidateEvaluation where
  modelId := target.modelId
  endpointId := target.endpointId
  replicaId := target.replicaId
  tier := target.tier
  eligible := true
  predictedSuccess := estimate.predictedSuccess
  successUncertainty := estimate.uncertainty
  successConfidence := estimate.confidence
  successLcb := estimate.lowerConfidenceBound config.beta
  metadata := [("predictor_version", .str estimate.predictorVersion),
    ("predictor_notes", .list (estimate.notes.map .str)),
    ("load_balance_score", .float target.loadBalanceScore)]

/-- The estimate of a model. Each evaluated target has one. -/
def Policy.estimate (policy : Policy) (modelId : String) : SuccessEstimate :=
  getD policy.estimates modelId ⟨0, 1, 0, "", []⟩

def Policy.evaluate (config : SchedulerConfig) (policy : Policy) : List EvaluatedTarget :=
  policy.targets.zipIdx.map fun entry =>
    let estimate := policy.estimate entry.1.modelId
    ⟨entry.2, entry.1, initialEvaluation config entry.1 estimate, estimate⟩

def EvaluatedTarget.key (item : EvaluatedTarget) : CandidateKey := item.evaluation.key

def gateSuccess (config : SchedulerConfig) (evaluated : List EvaluatedTarget) : SuccessGateResult :=
  successGate (evaluated.map EvaluatedTarget.evaluation) config.sMin config.epsilonSuccess

def markSuccess (gate : SuccessGateResult) (item : EvaluatedTarget) : EvaluatedTarget :=
  let passed := decide (item.target.modelId ∈ gate.modelIds)
  { item with evaluation := { item.evaluation with successGate := passed } }

def priceTarget (host : Host) (config : SchedulerConfig) (limits : RequestLimits)
    (outlook : KvOutlook) (item : EvaluatedTarget) : EvaluatedTarget :=
  let cost := effectiveCost host limits outlook item.target item.estimate config
  { item with evaluation := item.evaluation.withCost cost }

/-- The budget check tolerates rounding. -/
def withinBudget (limits : RequestLimits) (item : EvaluatedTarget) : Bool :=
  limits.costBudget.all fun budget => decide (item.effectiveCost ≤ budget + 1 / 1000000000000)

def markCost (keys : List CandidateKey) (item : EvaluatedTarget) : EvaluatedTarget :=
  let passed := decide (item.key ∈ keys)
  { item with evaluation := { item.evaluation with costGate := passed } }

/-- A keyed table of the items supplies the target whose latency counts. -/
def timeTarget (limits : RequestLimits) (urgency : ℚ) (items : List EvaluatedTarget)
    (item : EvaluatedTarget) : EvaluatedTarget :=
  let target := ((lastWith EvaluatedTarget.key item.key items).getD item).target
  { item with
    target := target
    evaluation := item.evaluation.withLatency (predictedLatency limits urgency target) }

/-- A higher current tier is held inside the stable window. -/
def shouldHoldTier (host : Host) (config : SchedulerConfig) (view : HarnessSchedulingView)
    (selected : EvaluatedTarget) (pairs : List EvaluatedTarget) : Except Exception Bool :=
  if !view.currentTier.truthy || !view.currentModel.truthy then .ok false
  else
    match view.currentTier.text? with
    | none => .error .attributeError
    | some tier =>
        if tierRank host selected.evaluation.tier < tierRank host tier then do
          let steps ← view.stableSteps.number
          return decide (steps < config.deescalationStableSteps)
            && pairs.any fun pair => (Value.str pair.target.modelId).eq view.currentModel
        else .ok false

def selectReason (override : CriticalOverride) (fallback : Bool)
    (successItems costItems : List EvaluatedTarget) (placementReason : String) : DecisionReason :=
  if override.active then .criticalOverride
  else if fallback then .fallback
  else if (successItems.map fun item => item.target.modelId).dedup.length = 1 then .successDominant
  else if placementReason = "KV_AFFINITY" then .kvAffinity
  else if placementReason = "LOAD_BALANCE" then .loadBalance
  else if costItems.length < successItems.length then .costDominant
  else .latencyTiebreak

/-- The stages keep every version of a trace entry. The first stage with the slot is the latest. -/
def latestEvaluation (stages : List (List EvaluatedTarget)) (item : EvaluatedTarget) :
    CandidateEvaluation :=
  ((stages.findSome? fun stage => stage.find? fun other => other.slot = item.slot).getD
    item).evaluation

/-- The trace entry of a target that no gate evaluated. -/
def ineligible (target : TargetCandidate) (reasons : List String) : CandidateEvaluation where
  modelId := target.modelId
  endpointId := target.endpointId
  replicaId := target.replicaId
  tier := target.tier
  rejectionReasons := reasons

/-- The trace has one entry for each target of the request. -/
def traceEntry (evaluated : List EvaluatedTarget) (rejected : List FilterRejection)
    (latest : EvaluatedTarget → CandidateEvaluation) (target : TargetCandidate) :
    CandidateEvaluation :=
  match lastWith EvaluatedTarget.key target.key evaluated with
  | some item => latest item
  | none =>
      match lastWith FilterRejection.key target.key rejected with
      | some rejection => ineligible target rejection.reasons
      | none => ineligible target ["critical_override_capable_only"]

/-- The selected entry is marked in place. -/
def markSelected (selected : EvaluatedTarget) (latest : EvaluatedTarget → CandidateEvaluation)
    (item : EvaluatedTarget) : CandidateEvaluation :=
  let entry := latest item
  if item.slot = selected.slot then { entry with selected := true } else entry

/-- An exception of the process leaves the scheduler. -/
def raising {A : Type} (result : Except Exception A) : Except ScheduleError A :=
  match result with
  | .ok value => .ok value
  | .error exception => .error (.raised exception)

/-- These items reach the placement with the items of the earlier stages. -/
structure Stages where
  policy : Policy
  evaluated : List EvaluatedTarget
  gate : SuccessGateResult
  priced : List EvaluatedTarget
  budgeted : List EvaluatedTarget
  timed : List EvaluatedTarget

def rejectOverBudget (item : EvaluatedTarget) : FilterRejection :=
  item.target.reject ["effective_cost_budget_exceeded"]

/-- The success gate, the budget, and the cost gate leave the candidates of the placement. -/
def runGates (host : Host) (config : SchedulerConfig) (limits : RequestLimits) (outlook : KvOutlook)
    (urgency : ℚ) (policy : Policy) : Except ScheduleError Stages :=
  let evaluated := policy.evaluate config
  let gate := gateSuccess config evaluated
  let marked := evaluated.map (markSuccess gate)
  let successItems := marked.filter fun item => item.target.modelId ∈ gate.modelIds
  if successItems.isEmpty then
    .error (.noFeasibleTarget "success predictor produced no usable candidate" [])
  else
    let priced := successItems.map (priceTarget host config limits outlook)
    let within := priced.filter (withinBudget limits)
    if within.isEmpty then
      .error (.noFeasibleTarget "all success-eligible targets exceeded the hard cost budget"
        (priced.map rejectOverBudget))
    else
      let costKeys := (costGate within config.epsilonCost).map EvaluatedTarget.key
      let budgeted := within.map (markCost costKeys)
      let timed := (costGate budgeted config.epsilonCost).map (timeTarget limits urgency budgeted)
      .ok ⟨policy, marked, gate, priced, budgeted, timed⟩

/-- The placement chooses among the cost survivors, or among those of the held model. -/
def selectTarget (host : Host) (config : SchedulerConfig) (view : HarnessSchedulingView)
    (stages : Stages) : Except Exception (EvaluatedTarget × DecisionReason) := do
  let place ← place view
  match choosePlacement place stages.timed with
  | none => throw .valueError
  | some placement =>
      let reason := selectReason stages.policy.override stages.gate.fallback stages.budgeted
        stages.timed placement.reason
      if stages.policy.override.active then return (placement.chosen, reason)
      if ← shouldHoldTier host config view placement.chosen stages.timed then
        let held := stages.timed.filter fun pair =>
          (Value.str pair.target.modelId).eq view.currentModel
        match choosePlacement place held with
        | some placement => return (placement.chosen, .hysteresisHold)
        | none => return (placement.chosen, reason)
      return (placement.chosen, reason)

def buildRoutingDecision (config : SchedulerConfig) (stamp : DecisionStamp)
    (view : HarnessSchedulingView) (selected : EvaluatedTarget)
    (candidates : List CandidateEvaluation) (reason : DecisionReason) (overrideReasons : List String)
    (fallback : Bool) : RoutingDecision where
  selectedModel := selected.evaluation.modelId
  selectedEndpoint := selected.evaluation.endpointId
  selectedReplica := selected.evaluation.replicaId
  predictedSuccess := selected.evaluation.predictedSuccess
  predictedCost := selected.evaluation.effectiveCost
  predictedLatencySeconds := selected.evaluation.predictedLatencySeconds
  decisionReason := reason
  candidates := candidates
  schedulerVersion := config.schedulerVersion
  stateId := view.stateId
  stateVersion := view.stateVersion
  decisionId := stamp.decisionId
  timestamp := stamp.timestamp
  overrideReasons := overrideReasons
  fallback := fallback

/-- The stages from the latest to the earliest. -/
def Stages.versions (stages : Stages) : List (List EvaluatedTarget) :=
  [stages.timed, stages.budgeted, stages.priced]

/-- `schedule` returns a decision for one normalized request. -/
def schedule (host : Host) (config : SchedulerConfig) (predictor : SuccessPredictor)
    (stamp : DecisionStamp) (view : HarnessSchedulingView) (targets : List TargetCandidate) :
    Except ScheduleError RoutingDecision := do
  if targets.isEmpty then throw (.noFeasibleTarget "no scheduling targets were registered" [])
  let limits ← raising (limits view)
  let filtered := filterTargets limits targets
  if filtered.eligible.isEmpty then
    throw (.noFeasibleTarget "all scheduling targets failed hard capability/security filters"
      filtered.rejected)
  let risks ← raising (risks view)
  let policy ← raising (choosePolicy host config (predictor view) risks filtered.eligible)
  let outlook ← raising (outlook view)
  let stages ← runGates host config limits outlook view.criticalPathUrgency policy
  let (selected, reason) ← raising (selectTarget host config view stages)
  let latest := markSelected selected (latestEvaluation stages.versions)
  let candidates := targets.map (traceEntry stages.evaluated filtered.rejected latest)
  return buildRoutingDecision config stamp view selected candidates reason
    stages.policy.override.reasons stages.gate.fallback

end StateFlow.Scheduler
