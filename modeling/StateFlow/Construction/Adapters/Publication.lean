import StateFlow.Construction.Adapters.Dcgm
import StateFlow.Construction.Adapters.Gateway

namespace StateFlow.Adapters
open Python Effect Plane
open Gateway (ProviderNeutralRequest)
open Scheduler (TargetCandidate CandidateEvaluation)

/-- One call of a semantic adapter or of the projector of the gateway. -/
inductive Publication where
  | runtime (observation : RuntimeObservation)
  | kv (observation : KVObservation)
  | deployment (observation : DeploymentObservation)
  | hardware (observation : HardwareObservation)
  | request (request : ProviderNeutralRequest) (targets : List TargetCandidate)
  | decision (request : ProviderNeutralRequest) (decisionId : String)
      (selected : CandidateEvaluation)

namespace Publication

/-- The types that the component of the caller declares. -/
def managesTypes : Publication → List String
  | runtime _ => runtimeAdapter.managesTypes
  | kv _ => kvAdapter.managesTypes
  | deployment _ => kubernetesAdapter.managesTypes
  | hardware _ => dcgmAdapter.managesTypes
  | request _ _ | decision _ _ _ => gatewayComponent.managesTypes

variable (text : Text) (config : PlaneConfig) (now : Int)

def run : Publication → EStateM Exception World Unit
  | runtime observation => do let _ ← publish config now observation
  | kv observation => do let _ ← publishKv config now observation
  | deployment observation => do let _ ← publishDeployment config now observation
  | hardware observation => do let _ ← publishHardware config now observation
  | request incoming targets => recordRequest text config now incoming targets
  | decision incoming decisionId selected => recordDecision config now incoming decisionId selected

end Publication

end StateFlow.Adapters
