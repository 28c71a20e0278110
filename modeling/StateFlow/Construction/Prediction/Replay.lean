import StateFlow.Construction.Prediction.Service
import StateFlow.Construction.Plane.Reads

namespace StateFlow.Predictions
open Python Table Effect State Plane

/-- A prediction without the identifier that is generated for it. -/
def Prediction.unnamed (prediction : Prediction) : Prediction := { prediction with predictionId := "" }

/-- A model answers a snapshot and a candidate or raises an exception of some class. Apart from the
generated identifier the answer is determined, and it bears the version of the model. -/
structure PredictionModel where
  version : String
  predict : Snapshot → CandidateAction → String → Except String Prediction
  determined : ∀ snapshot candidate first second,
    (predict snapshot candidate first).map Prediction.unnamed =
      (predict snapshot candidate second).map Prediction.unnamed
  stamps : ∀ snapshot candidate unique prediction,
    predict snapshot candidate unique = .ok prediction → prediction.modelVersion = version

/-- The arguments of a service over any model. -/
structure ServiceConfig where
  plane : PlaneConfig
  model : PredictionModel
  minConfidence : ℚ := 1 / 2
  fallback : String := "success-first-heuristic"

/-- A service reads its plane and keeps its models and its journal. -/
structure ServiceState where
  plane : InMemoryStatePlane
  models : List (String × PredictionModel)
  journal : List (String × PredictionRecord)

abbrev ServiceAction (A : Type) := EStateM Exception ServiceState A

section Service
variable (service : ServiceConfig)

/-- A new service knows its own model. -/
def ServiceState.start (plane : InMemoryStatePlane) (journal : List (String × PredictionRecord)) :
    ServiceState :=
  { plane := plane, models := [(service.model.version, service.model)], journal := journal }

/-- A prediction of low confidence names the fallback. -/
def markFallback (prediction : Prediction) : Prediction :=
  if service.minConfidence ≤ prediction.confidence.value then prediction
  else { prediction with
    fallback := service.fallback
    notes := prediction.notes ++ ["low_confidence_fallback"] }

/-- `_evaluate` replaces an exception and marks a low confidence. -/
def evaluateModel (snapshot : Snapshot) (request : PredictionRequest) (model : PredictionModel)
    (unique : String) : Prediction :=
  match model.predict snapshot request.candidateAction unique with
  | .error name =>
      { snapshotId := snapshot.token, candidateId := request.candidateAction.candidateId
        confidence := .of 0, modelVersion := model.version, applicability := "unavailable"
        fallback := service.fallback, notes := ["predictor_error:" ++ name]
        predictionId := unique }
  | .ok prediction => markFallback service prediction

/-- The journal keeps each identifier once. -/
def appendRecord (record : PredictionRecord) : ServiceAction Unit := do
  if ((← get).journal.lookup record.prediction.predictionId).isSome then throw .valueError
  modify fun state => { state with
    journal := assign record.prediction.predictionId record state.journal }

def readPlane (token : String) : ServiceAction Snapshot :=
  zoom ServiceState.plane (fun state plane => { state with plane := plane }) (readSnapshot token)

/-- `predict` evaluates the frozen snapshot of a request and journals what it returns. -/
def predictModel (request : PredictionRequest) (unique : String) : ServiceAction Prediction := do
  let snapshot ← readPlane request.snapshotId
  let prediction := evaluateModel service snapshot request service.model unique
  appendRecord ⟨request, snapshot, prediction⟩
  return prediction

/-- `register_model` without `replace` rejects a known version. -/
def registerModel (model : PredictionModel) : ServiceAction Unit := do
  if ((← get).models.lookup model.version).isSome then throw .valueError
  modify fun state => { state with models := assign model.version model state.models }

/-- The entry of a table under a key that it has to know. -/
def entryOf {A : Type} (table : List (String × A)) (key : String) : Except Exception A :=
  match table.lookup key with
  | some entry => .ok entry
  | none => .error .keyError

/-- `replay` evaluates the journaled inputs again. An unnamed version is the journaled one. -/
def replay (predictionId modelVersion unique : String) : ServiceAction Prediction := do
  let record ← lift (entryOf (← get).journal predictionId)
  let version := if modelVersion ≠ "" then modelVersion else record.prediction.modelVersion
  let model ← lift (entryOf (← get).models version)
  let replayed := evaluateModel service record.snapshot record.request model unique
  if version = record.prediction.modelVersion then
    return { replayed with predictionId := predictionId }
  else return replayed

/-- A call of the service, a write of its plane, or the loss of a snapshot. -/
inductive ServiceCall where
  | predict (request : PredictionRequest) (unique : String)
  | operate (operation : Operation)
  | evict (token : String)
  | registerModel (model : PredictionModel)
  | replay (predictionId modelVersion unique : String)

/-- The state after a call, also when the call raises. -/
def ServiceCall.apply (state : ServiceState) : ServiceCall → ServiceState
  | .predict request unique => finalState (predictModel service request unique state)
  | .operate operation => { state with plane := operation.apply service.plane state.plane }
  | .evict token => { state with plane := { state.plane with
      snapshots := state.plane.snapshots.filter fun entry => entry.1 ≠ token } }
  | .registerModel model => finalState (Predictions.registerModel model state)
  | .replay predictionId modelVersion unique =>
      finalState (Predictions.replay service predictionId modelVersion unique state)

/-- The state after a run. -/
def runService (calls : List ServiceCall) (state : ServiceState) : ServiceState :=
  calls.foldl (ServiceCall.apply service) state

end Service

/-- The analytical model names its exceptions and bears its version. -/
def predictAnalytical (lower : String → String) (version : String) (snapshot : Snapshot)
    (candidate : CandidateAction) (unique : String) : Except String Prediction :=
  match predict snapshot candidate lower unique with
  | .ok prediction => .ok { prediction with modelVersion := version }
  | .error exception => .error (exceptionName exception)

end StateFlow.Predictions
