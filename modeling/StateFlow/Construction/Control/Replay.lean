import StateFlow.Construction.Control.Journal
import StateFlow.Library.Selection

namespace StateFlow.Control
open Python Table Selection Predictions

/-- A share lies in the unit interval. -/
def IsShare (value : ℚ) : Prop := 0 ≤ value ∧ value ≤ 1

theorem isShare_zero : IsShare 0 := ⟨le_rfl, zero_le_one⟩

theorem isShare_tolerance : IsShare (3 / 100) := by constructor <;> norm_num

/-- The hard constraints of a replay are valid bounds. -/
structure ReplayConstraints where
  minConfidence : ℚ := 0
  minSuccessProbability : Option ℚ := none
  maxLatencySeconds : Option ℚ := none
  maxMonetaryCost : Option ℚ := none
  modelVersion : String := ""
  allowFallback : Bool := true
  confidenceShare : IsShare minConfidence := by exact isShare_zero
  successShare : ∀ bound ∈ minSuccessProbability, IsShare bound := by simp
  latencyNonneg : ∀ bound ∈ maxLatencySeconds, 0 ≤ bound := by simp
  costNonneg : ∀ bound ∈ maxMonetaryCost, 0 ≤ bound := by simp

/-- The tolerances of a replay are shares. -/
structure ReplayPolicyConfig where
  successAbsoluteTolerance : ℚ := 3 / 100
  latencyRelativeTolerance : ℚ := 0
  costRelativeTolerance : ℚ := 0
  throughputRelativeTolerance : ℚ := 0
  successShare : IsShare successAbsoluteTolerance := by exact isShare_tolerance
  latencyShare : IsShare latencyRelativeTolerance := by exact isShare_zero
  costShare : IsShare costRelativeTolerance := by exact isShare_zero
  throughputShare : IsShare throughputRelativeTolerance := by exact isShare_zero

/-- One evaluated objective with its best value and its survivors. -/
structure ObjectiveTrace where
  objective : Objective
  bestValue : ℚ
  candidateIds : List String

structure ReplayDecision where
  sourceDecisionId : String
  snapshotId : String
  policyName : String
  policyVersion : String
  baselineCandidateId : String
  selectedCandidateId : String
  selectedPredictionId : String
  candidateIds : List String
  eligibleCandidateIds : List String
  objectiveValues : List (String × ℚ)
  potentialGain : List (String × ℚ)
  rejections : List (String × List String)
  selectionTrace : List ObjectiveTrace
  changed : Bool
  dryRun : Bool := true

/-- An unknown value and a value above the maximum are reasons. A negative value raises. -/
def maximumConstraint (value maximum : Option ℚ) (name : String) : Except Exception (List String) :=
  match maximum with
  | none => .ok []
  | some bound =>
      match value with
      | none => .ok ["missing_constraint:" ++ name]
      | some value =>
          if value < 0 then .error .valueError
          else if bound < value then .ok [name ++ "_above_maximum"]
          else .ok []

def successConstraint (value minimum : Option ℚ) : Except Exception (List String) :=
  match minimum with
  | none => .ok []
  | some bound =>
      match value with
      | none => .ok ["missing_constraint:success"]
      | some value =>
          if value < 0 ∨ 1 < value then .error .valueError
          else if value < bound then .ok ["success_below_minimum"]
          else .ok []

/-- The reasons of the hard constraints against a prediction. -/
def constraintReasons (constraints : ReplayConstraints) (prediction : Prediction) :
    Except Exception (List String) := do
  let confident := if prediction.confidence.value < constraints.minConfidence then
    ["confidence_below_minimum"] else []
  let version := if constraints.modelVersion ≠ ""
      ∧ prediction.modelVersion ≠ constraints.modelVersion then ["model_version_mismatch"] else []
  let fallback := if !constraints.allowFallback ∧ prediction.fallback ≠ "none" then
    ["fallback_prediction"] else []
  let latency ← maximumConstraint prediction.performance.e2eSeconds constraints.maxLatencySeconds
    "latency"
  let cost ← maximumConstraint prediction.cost.monetaryCost constraints.maxMonetaryCost "cost"
  let success ← successConstraint prediction.reliability.successProbability
    constraints.minSuccessProbability
  return confident ++ version ++ fallback ++ latency ++ cost ++ success

/-- The recorded value of an objective. -/
def rawObjective (prediction : Prediction) : Objective → Option ℚ
  | .success => prediction.reliability.successProbability
  | .latency => prediction.performance.e2eSeconds
  | .cost => prediction.cost.monetaryCost
  | .throughput => prediction.performance.throughput
  | .energy => none

/-- A recorded value out of its range raises. -/
def objectiveValue (objective : Objective) (prediction : Prediction) :
    Except Exception (Option ℚ) :=
  match rawObjective prediction objective with
  | none => .ok none
  | some value =>
      if value < 0 ∨ objective = .success ∧ 1 < value then .error .valueError
      else .ok (some value)

def Objective.maximize (objective : Objective) : Bool :=
  objective = .success || objective = .throughput

/-- The distance from the best value that an objective tolerates. -/
def tolerance (config : ReplayPolicyConfig) (best : ℚ) : Objective → ℚ
  | .success => config.successAbsoluteTolerance
  | .latency => |best| * config.latencyRelativeTolerance
  | .cost => |best| * config.costRelativeTolerance
  | .throughput => |best| * config.throughputRelativeTolerance
  | .energy => 0

abbrev Scored := Prediction × ℚ

/-- The best value of an objective among the scored candidates. -/
def bestScored (objective : Objective) (available : List Scored) : Option Scored :=
  if objective.maximize then available.argmax Prod.snd else available.argmin Prod.snd

def nearBest (config : ReplayPolicyConfig) (objective : Objective) (best item : Scored) : Bool :=
  let slack := tolerance config best.2 objective
  if objective.maximize then decide (best.2 - slack ≤ item.2) else decide (item.2 ≤ best.2 + slack)

def objectiveSurvivors (config : ReplayPolicyConfig) (objective : Objective)
    (available : List Scored) : List Scored :=
  survivors (bestScored objective available) (nearBest config objective) available

/-- A replay carries its remaining candidates, its rejections, and its trace. -/
structure ReplayState where
  eligible : List Prediction
  rejections : List (String × List String)
  trace : List ObjectiveTrace

def addReason (candidateId reason : String) (table : List (String × List String)) :
    List (String × List String) :=
  assign candidateId (getD table candidateId [] ++ [reason]) table

/-- The candidates with a known value and that value. -/
def scored (objective : Objective) : List Prediction → Except Exception (List (Prediction × Option ℚ))
  | [] => .ok []
  | prediction :: rest => do
      let value ← objectiveValue objective prediction
      return (prediction, value) :: (← scored objective rest)

/-- One objective removes the candidates that are unknown or far from the best. -/
def applyObjective (config : ReplayPolicyConfig) (objective : Objective) (replay : ReplayState) :
    Except Exception ReplayState := do
  let known ← scored objective replay.eligible
  let available := known.filterMap fun entry => entry.2.map fun value => (entry.1, value)
  match bestScored objective available with
  | none => throw .runtimeError
  | some best =>
      let missing := known.filter fun entry => entry.2.isNone
      let kept := (objectiveSurvivors config objective available).map Prod.fst
      let keptIds := kept.map Prediction.candidateId
      let gated := available.filter fun entry => entry.1.candidateId ∉ keptIds
      let withMissing := missing.foldl (fun table entry =>
        addReason entry.1.candidateId ("missing_objective:" ++ objective.value) table) replay.rejections
      let withGated := gated.foldl (fun table entry =>
        addReason entry.1.candidateId ("objective_gate:" ++ objective.value) table) withMissing
      return ⟨kept, withGated, replay.trace ++ [⟨objective, best.2, keptIds⟩]⟩

/-- The objectives apply in order until one candidate is left. -/
def applyObjectives (config : ReplayPolicyConfig) : List Objective → ReplayState →
    Except Exception ReplayState
  | [], replay => .ok replay
  | objective :: rest, replay => do
      let next ← applyObjective config objective replay
      if next.eligible.length = 1 then return next
      applyObjectives config rest next

/-- The baseline is the prediction of the recorded action. -/
def baselinePrediction (record : JoinedControlRecord) : Except Exception Prediction :=
  let candidateId := record.decision.selectedAction.candidateId
  let matches_ := record.predictions.filter fun item => (Value.str item.candidateId).eq candidateId
  match candidateId.truthy, record.predictions, matches_ with
  | false, [prediction], _ => .ok prediction
  | _, _, [prediction] => .ok prediction
  | _, _, _ => .error .valueError

def gain (key : String) (first second : Option ℚ) : List (String × ℚ) :=
  match first, second with
  | some first, some second => [(key, first - second)]
  | _, _ => []

def potentialGain (selected baseline : Prediction) : List (String × ℚ) :=
  gain "success_delta" selected.reliability.successProbability
    baseline.reliability.successProbability
  ++ gain "latency_reduction_seconds" baseline.performance.e2eSeconds
    selected.performance.e2eSeconds
  ++ gain "monetary_cost_reduction" baseline.cost.monetaryCost selected.cost.monetaryCost
  ++ gain "throughput_delta" selected.performance.throughput baseline.performance.throughput

def objectiveValues (policy : PolicyIntent) (selected : Prediction) :
    Except Exception (List (String × ℚ)) := do
  let values ← policy.objectives.mapM fun objective => do
    return (objective.value, ← objectiveValue objective selected)
  return values.foldl (fun table entry => match entry.2 with
    | some value => assign entry.1 value table
    | none => table) []

/-- The candidates that pass the hard constraints, with the reasons of all. -/
def applyConstraints (constraints : ReplayConstraints) (predictions : List Prediction) :
    Except Exception ReplayState := do
  let judged ← predictions.mapM fun prediction => do
    return (prediction, ← constraintReasons constraints prediction)
  return {
    eligible := (judged.filter fun entry => entry.2.isEmpty).map Prod.fst
    rejections := judged.map fun entry => (entry.1.candidateId, entry.2)
    trace := [] }

/-- `controlled_replay` selects the first candidate that survives every objective. -/
def controlledReplay (record : JoinedControlRecord) (policy : PolicyIntent)
    (constraints : ReplayConstraints) (config : ReplayPolicyConfig) :
    Except Exception ReplayDecision := do
  if policy.objectives.isEmpty then throw .valueError
  if record.predictions.isEmpty then throw .runtimeError
  if ¬ (record.predictions.map Prediction.candidateId).Nodup then throw .valueError
  let start ← applyConstraints constraints record.predictions
  if start.eligible.isEmpty then throw .runtimeError
  let final ← applyObjectives config policy.objectives start
  match final.eligible with
  | [] => throw .valueError
  | selected :: _ =>
      let baseline ← baselinePrediction record
      let values ← objectiveValues policy selected
      return {
        sourceDecisionId := record.decision.decisionId
        snapshotId := record.decision.snapshotId
        policyName := policy.name
        policyVersion := policy.version
        baselineCandidateId := baseline.candidateId
        selectedCandidateId := selected.candidateId
        selectedPredictionId := selected.predictionId
        candidateIds := record.predictions.map Prediction.candidateId
        eligibleCandidateIds := start.eligible.map Prediction.candidateId
        objectiveValues := values
        potentialGain := potentialGain selected baseline
        rejections := final.rejections.filter fun entry => !entry.2.isEmpty
        selectionTrace := final.trace
        changed := selected.candidateId ≠ baseline.candidateId }

end StateFlow.Control
