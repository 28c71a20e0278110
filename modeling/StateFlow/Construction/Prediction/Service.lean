import StateFlow.Construction.Prediction.Model

namespace StateFlow.Predictions
open Python Table Effect State Plane

/-- A request names a frozen snapshot and a candidate. -/
structure PredictionRequest where
  snapshotId : String
  candidateAction : CandidateAction

/-- The journal keeps the inputs and the output of each prediction. -/
structure PredictionRecord where
  request : PredictionRequest
  snapshot : Snapshot
  prediction : Prediction

/-- The table of frozen snapshots stores each one under its token. -/
structure SnapshotTable where
  read : String → Option Snapshot
  token_eq : ∀ {token snapshot}, read token = some snapshot → snapshot.token = token

/-- The service runs the analytical model and falls back below a confidence. -/
structure PredictionService where
  lower : String → String
  minConfidence : ℚ := 1 / 2
  fallback : String := "success-first-heuristic"
  nonneg : 0 ≤ minConfidence := by norm_num
  le_one : minConfidence ≤ 1 := by norm_num

section Service
variable (service : PredictionService)

/-- The class name of an exception. -/
def exceptionName : Exception → String
  | .typeError => "TypeError"
  | .valueError => "ValueError"
  | .attributeError => "AttributeError"
  | .overflowError => "OverflowError"
  | .keyError => "KeyError"
  | .permissionError => "PermissionError"
  | .runtimeError => "RuntimeError"
  | .statePlaneHttpError => "StatePlaneHTTPError"
  | .statePlaneGrpcError => "StatePlaneGRPCError"

/-- An exception of the model becomes an unavailable prediction. -/
def evaluate (snapshot : Snapshot) (request : PredictionRequest) (predictionId : String) :
    Prediction :=
  match predict snapshot request.candidateAction service.lower predictionId with
  | .error exception =>
      { snapshotId := snapshot.token, candidateId := request.candidateAction.candidateId
        applicability := "unavailable", fallback := service.fallback
        notes := ["predictor_error:" ++ exceptionName exception], predictionId := predictionId }
  | .ok prediction =>
      if service.minConfidence ≤ prediction.confidence.value then prediction
      else { prediction with
        fallback := service.fallback
        notes := prediction.notes ++ ["low_confidence_fallback"] }

/-- A journaled prediction keeps its identifier. -/
def predictOne (snapshots : SnapshotTable) (request : PredictionRequest) (predictionId : String) :
    EStateM Exception (List PredictionRecord) Prediction := do
  match snapshots.read request.snapshotId with
  | none => throw .keyError
  | some snapshot =>
      let prediction := evaluate service snapshot request predictionId
      if (← get).any fun record => record.prediction.predictionId = predictionId then
        throw .valueError
      modify fun records => records ++ [⟨request, snapshot, prediction⟩]
      return prediction

/-- Each request receives its own generated identifier. -/
def predictMany (snapshots : SnapshotTable) (requests : List (PredictionRequest × String)) :
    EStateM Exception (List PredictionRecord) (List Prediction) :=
  requests.mapM fun request => predictOne service snapshots request.1 request.2

end Service

end StateFlow.Predictions
