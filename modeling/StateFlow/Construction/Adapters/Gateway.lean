import StateFlow.Construction.Adapters.Runtime
import StateFlow.Construction.Gateway.Service

namespace StateFlow.Adapters
open Python Table Effect Plane
open Gateway (ProviderNeutralRequest)
open Scheduler (TargetCandidate CandidateEvaluation)

/-- The projector writes under its own name. -/
def gatewayProducer : String := "stateflow-gateway-adapter"

/-- The component of the gateway. -/
def gatewayComponent : ComponentDescriptor where
  componentId := "stateflow-gateway"
  kind := "request_scheduler"
  implementation := "stateflow"
  version := "0.3"
  producesState := ["request.context_tokens", "request.expected_output_tokens",
    "request.target_instance"]
  managesTypes := ["request"]
  relationCapabilities := ["executing_on"]

def gatewayRef : String := "component/component/stateflow-gateway"

section Project
variable (text : Text) (config : PlaneConfig) (now : Int)

/-- The projector registers the gateway when it is built. -/
def buildProjector : PlaneAction Unit := do
  registerComponent gatewayComponent
  upsertEntity config now (← lift (GraphEntity.make gatewayRef .component "component" "ready" ""
    [("kind", "request_scheduler")]))

/-- The projector registers a runtime for the endpoint of a target. -/
def targetDescriptor (target : TargetCandidate) : ComponentDescriptor where
  componentId := target.endpointId
  kind := "inference_runtime"
  implementation := text.str (getD target.metadata "engine" (.str "unknown"))
  version := text.str (getD target.metadata "version" (.str ""))
  producesState := ["runtime.queue_depth", "runtime.health"]
  managesTypes := ["runtime_object"]
  relationCapabilities := ["deployed_on", "executes"]
  updateMode := "direct_query"
  endpoint := target.endpointId

def componentEntity (target : TargetCandidate) (componentRef : String) :
    Except Exception GraphEntity :=
  GraphEntity.make componentRef .component "component"
    (if target.available && target.healthy then "ready" else "degraded") ""
    [("model_id", target.modelId)]

def targetInstance (target : TargetCandidate) (componentRef instanceRef : String) :
    Except Exception GraphEntity :=
  GraphEntity.make instanceRef .deployment "instance"
    (if target.available then "ready" else "unavailable") componentRef
    [("replica_id", target.replicaId), ("model_id", target.modelId)]

def targetNode (nodeRef : String) : Except Exception GraphEntity :=
  GraphEntity.make nodeRef .deployment "node" "ready" "" []

def targetNodeId (target : TargetCandidate) : String :=
  text.str (getD target.metadata "node_id" (.str ""))

def gatewayRelation (sourceRef relationType targetRef suffix : String) : RelationUpdate where
  sourceRef := sourceRef
  relationType := relationType
  targetRef := targetRef
  producer := gatewayProducer
  timestamp := now
  authority := .structuredLifecycle
  idempotencyKey := suffix

def deployedOn (componentRef instanceRef : String) : RelationUpdate :=
  gatewayRelation now componentRef "deployed_on" instanceRef
    ("deployed_on:" ++ componentRef ++ ":" ++ instanceRef)

/-- The values of a target are guesses of the gateway. -/
def guess (entityRef key : String) (value : Value) : StateUpdate where
  entityRef := entityRef
  key := key
  value := value
  producer := gatewayProducer
  timestamp := now
  authority := .derived
  semantic := .derived
  confidence := 1 / 2

/-- A present metadata value is converted and guessed. -/
def metadataGuess (target : TargetCandidate) (name entityRef key : String)
    (convert : Value → Except Exception Value) : Except Exception (List StateUpdate) :=
  match target.metadata.lookup name with
  | some value => do return [guess now entityRef key (← convert value)]
  | none => .ok []

def targetUpdates (target : TargetCandidate) (componentRef instanceRef : String) :
    Except Exception (List StateUpdate) := do
  let health := guess now componentRef "runtime.health"
    (.str (if target.healthy then "healthy" else "unhealthy"))
  let ready := guess now instanceRef "instance.ready" (.bool target.available)
  let depth ← metadataGuess now target "queue_depth" componentRef "runtime.queue_depth"
    fun value => do return .int (← text.int value)
  let gpu ← metadataGuess now target "allocated_gpu" instanceRef "instance.allocated_gpu"
    fun value => do return .float (← text.float value)
  return [health, ready] ++ depth ++ gpu

/-- A target is bound and registered before it is projected. -/
def admitTarget (target : TargetCandidate) : EStateM Exception World (String × String) := do
  let componentRef ← lift (runtimeRef target.endpointId)
  let instanceRef ← lift (instanceRef target.replicaId)
  onBindings (bind componentRef [("component_id", target.endpointId)])
  onBindings (bind instanceRef [("instance_id", target.replicaId)])
  onPlane (registerComponent (targetDescriptor text target))
  return (componentRef, instanceRef)

/-- The component and the instance of a target are projected in any case. -/
def projectTarget (target : TargetCandidate) (componentRef instanceRef : String) :
    PlaneAction Unit := do
  upsertEntity config now (← lift (componentEntity target componentRef))
  upsertEntity config now (← lift (targetInstance target componentRef instanceRef))

/-- The node that the metadata of a target names. -/
def projectNode (target : TargetCandidate) (instanceRef : String) :
    PlaneAction (List RelationUpdate) := do
  if targetNodeId text target = "" then return []
  let nodeRef ← lift (nodeRef (targetNodeId text target))
  upsertEntity config now (← lift (targetNode nodeRef))
  return [gatewayRelation now nodeRef "contains" instanceRef
    ("contains:" ++ nodeRef ++ ":" ++ instanceRef)]

/-- `record_target` registers a target and projects its component, its instance, and its node. -/
def recordTarget (target : TargetCandidate) : EStateM Exception World Unit := do
  let (componentRef, instanceRef) ← admitTarget text target
  onPlane (projectTarget config now target componentRef instanceRef)
  let contained ← onPlane (projectNode text config now target instanceRef)
  let _ ← onPlane (upsertRelations config (deployedOn now componentRef instanceRef :: contained))
  let updates ← lift (targetUpdates text now target componentRef instanceRef)
  let _ ← onPlane (publishState config updates)

section Request
variable (request : ProviderNeutralRequest)

def gatewayCorrelation (actionId : String) : CorrelationIdentity where
  traceId := request.traceId
  sessionId := request.sessionId
  requestId := request.requestId
  actionId := actionId
  componentId := gatewayComponent.componentId

def requestEntity (requestRef : String) : Except Exception GraphEntity :=
  GraphEntity.make requestRef .component "request" "queued" gatewayRef
    [("tenant_id", request.tenantId), ("model", request.model)]

def requestUpdate (requestRef key suffix : String) (value : Int) : StateUpdate where
  entityRef := requestRef
  key := key
  value := .int value
  producer := gatewayProducer
  timestamp := now
  authority := .structuredLifecycle
  correlation := gatewayCorrelation request ""
  idempotencyKey := request.requestId ++ suffix

def requestUpdates (requestRef : String) : List StateUpdate :=
  [requestUpdate now request requestRef "request.context_tokens" ":context_tokens"
      request.promptTokens,
    requestUpdate now request requestRef "request.expected_output_tokens" ":expected_output_tokens"
      request.predictedOutputTokens]

/-- The request itself is projected before its targets. -/
def projectRequest : EStateM Exception World Unit := do
  let requestRef ← lift (requestRef request.requestId)
  onBindings (bind requestRef [("request_id", request.requestId), ("session_id", request.sessionId),
    ("trace_id", request.traceId)])
  onPlane do upsertEntity config now (← lift (requestEntity request requestRef))
  let _ ← onPlane (publishState config (requestUpdates now request requestRef))

/-- `record_request` projects a request and its targets in order. -/
def recordRequest (targets : List TargetCandidate) : EStateM Exception World Unit := do
  projectRequest config now request
  targets.forM (recordTarget text config now)

/-- `record_decision` from the selected candidate on. -/
def recordDecision (decisionId : String) (selected : CandidateEvaluation) :
    EStateM Exception World Unit := do
  let requestRef ← lift (requestRef request.requestId)
  let runtimeRef ← lift (runtimeRef selected.endpointId)
  let instanceRef ← lift (instanceRef selected.replicaId)
  onBindings (bind requestRef [("action_id", decisionId)])
  let target : StateUpdate := {
    entityRef := requestRef
    key := "request.target_instance"
    value := .str instanceRef
    producer := gatewayProducer
    timestamp := now
    authority := .authoritativeDomain
    correlation := gatewayCorrelation request decisionId
    idempotencyKey := request.requestId ++ ":target:" ++ decisionId }
  let _ ← onPlane (publishState config [target])
  let onRuntime := { gatewayRelation now requestRef "executing_on" runtimeRef
    ("exec-runtime:" ++ request.requestId ++ ":" ++ decisionId) with
    authority := .authoritativeDomain }
  let onInstance := { gatewayRelation now requestRef "executing_on" instanceRef
    ("exec-instance:" ++ request.requestId ++ ":" ++ decisionId) with
    authority := .authoritativeDomain }
  let _ ← onPlane (upsertRelations config [onRuntime, onInstance])

end Request

end Project

end StateFlow.Adapters
