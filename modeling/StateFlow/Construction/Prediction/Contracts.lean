import StateFlow.Construction.Scheduler.Types
import StateFlow.Library.Mapping

namespace StateFlow.Predictions
open Python Table State Scheduler

/-- A candidate action carries the parameters of its proposal. -/
structure CandidateAction where
  actionType : String
  targetComponent : String
  parameters : List (String × Value) := []
  candidateId : String

structure PerformancePrediction where
  ttftSeconds : Option ℚ := none
  tpotSeconds : Option ℚ := none
  e2eSeconds : Option ℚ := none
  throughput : Option ℚ := none
  transferEtaSeconds : Option ℚ := none
  deriving DecidableEq

structure ReliabilityPrediction where
  successProbability : Option ℚ := none
  oomProbability : Option ℚ := none
  timeoutProbability : Option ℚ := none
  sloViolationProbability : Option ℚ := none
  deriving DecidableEq

structure CostPrediction where
  gpuSeconds : Option ℚ := none
  memoryTime : Option ℚ := none
  networkBytes : Option Int := none
  storageIoBytes : Option Int := none
  monetaryCost : Option ℚ := none
  deriving DecidableEq

structure FutureStatePrediction where
  queueDepth : Option ℚ := none
  hbmPressure : Option ℚ := none
  kvLocation : Option String := none
  demand : Option ℚ := none
  contention : Option ℚ := none
  values : Mapping String ℚ := ∅
  deriving DecidableEq

/-- A confidence lies in the unit interval. -/
structure Confidence where
  value : ℚ
  nonneg : 0 ≤ value
  le_one : value ≤ 1
  deriving DecidableEq

/-- The constructor of a prediction clamps its confidence. -/
def Confidence.of (value : ℚ) : Confidence := ⟨clamp value, clamp_nonneg value, clamp_le_one value⟩

structure Prediction where
  snapshotId : String
  candidateId : String
  performance : PerformancePrediction := {}
  reliability : ReliabilityPrediction := {}
  cost : CostPrediction := {}
  futureState : FutureStatePrediction := {}
  confidence : Confidence := .of 0
  modelVersion : String := "analytical-0.1"
  applicability : String := "unknown"
  featureFreshnessMs : Mapping String Int := ∅
  calibrationError : Option ℚ := none
  fallback : String := "baseline"
  notes : List String := []
  predictionId : String
  deriving DecidableEq

/-- A trace entry lists its notes as texts. -/
def predictorNotes (evaluation : CandidateEvaluation) : List String :=
  match evaluation.metadata.lookup "predictor_notes" with
  | some (.list items) => items.filterMap Value.text?
  | _ => []

/-- A trace entry reports moved bytes as an integer. -/
def transferBytes (evaluation : CandidateEvaluation) : Option Int :=
  match evaluation.metadata.lookup "kv_transfer_bytes" with
  | some (.int bytes) => some bytes
  | _ => none

/-- `from_routing_evaluation` copies the defaults of an entry that no gate evaluated. -/
def Prediction.fromRoutingEvaluation (snapshotId : String) (candidate : CandidateAction)
    (evaluation : CandidateEvaluation) (modelVersion predictionId : String) : Prediction where
  snapshotId := snapshotId
  candidateId := candidate.candidateId
  performance := { e2eSeconds := some evaluation.predictedLatencySeconds }
  reliability := { successProbability := some evaluation.predictedSuccess }
  cost := { networkBytes := transferBytes evaluation
            monetaryCost := some evaluation.effectiveCost }
  futureState := { values := .ofList [("future_kv_value", evaluation.futureKvValue)] }
  confidence := .of evaluation.successConfidence
  modelVersion := modelVersion
  applicability := "routing"
  notes := predictorNotes evaluation
  predictionId := predictionId

end StateFlow.Predictions
