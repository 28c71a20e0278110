import StateFlow.Construction.Control.Journal

namespace StateFlow.Scheduler
open Python Table Predictions Control

/-- The control record of a routing decision with its predictions. -/
structure RoutingControlBundle where
  decision : DecisionRecord
  predictions : List Prediction

/-- The process generates the identifiers of the candidates and of the predictions. -/
structure BundleIds where
  candidate : Nat → String
  prediction : Nat → String

section Bridge
variable (text : Text) (ids : BundleIds) (routing : RoutingDecision)

/-- A trace entry proposes to route to its target. -/
def routeCandidate (ids : BundleIds) (index : Nat) (evaluation : CandidateEvaluation) :
    CandidateAction where
  actionType := "route"
  targetComponent := evaluation.endpointId
  parameters := [("model_id", .str evaluation.modelId), ("endpoint_id", .str evaluation.endpointId),
    ("replica_id", .str evaluation.replicaId), ("tier", .str evaluation.tier)]
  candidateId := ids.candidate index

def bundleSnapshot (snapshotId : String) : String :=
  if snapshotId = "" then
    "agent-state:" ++ text.str routing.stateId ++ ":" ++ text.str routing.stateVersion
  else snapshotId

def routeAction (candidate : CandidateAction) (evaluation : CandidateEvaluation) : Action where
  targetComponent := evaluation.endpointId
  actionType := "route"
  parameters := assign "candidate_id" (.str candidate.candidateId) candidate.parameters
  preconditions := [("candidate_eligible", .bool evaluation.eligible)]
  idempotencyKey := "route:" ++ routing.decisionId
  actionId := "action:" ++ routing.decisionId

/-- Every trace entry becomes a prediction. An entry that no gate evaluated keeps its zeros. -/
def routingControlBundle (snapshotId policyVersion : String) :
    Except Exception RoutingControlBundle :=
  let snapshotId := bundleSnapshot text routing snapshotId
  let entries := routing.candidates.zipIdx
  let candidates := entries.map fun entry => routeCandidate ids entry.2 entry.1
  let predictions := entries.map fun entry => Prediction.fromRoutingEvaluation snapshotId
    (routeCandidate ids entry.2 entry.1) entry.1 routing.schedulerVersion (ids.prediction entry.2)
  match (entries.filter fun entry => entry.1.selected).getLast? with
  | none => .error .valueError
  | some entry => .ok {
      decision := {
        decisionId := routing.decisionId
        snapshotId := snapshotId
        policyVersion := policyVersion
        candidateIds := candidates.map CandidateAction.candidateId
        predictionIds := predictions.map Prediction.predictionId
        modelVersions := sortedSet (predictions.map Prediction.modelVersion)
        selectedAction := routeAction routing (routeCandidate ids entry.2 entry.1) entry.1
        reason := routing.decisionReason.value
        constraints := sortedSet (routing.candidates.flatMap CandidateEvaluation.rejectionReasons)
        timestamp := routing.timestamp }
      predictions := predictions }

end Bridge

end StateFlow.Scheduler
