import StateFlow.Construction.State.Routing
import StateFlow.Construction.Scheduler.Schedule

namespace StateFlow.Gateway
open Python Table Effect State Scheduler

/-- A normalized request. Its sets hold texts. -/
structure ProviderNeutralRequest where
  requestId : String
  sessionId : String
  taskId : String := "default-task"
  turnId : Int := 0
  stepId : String := ""
  attemptId : String := ""
  traceId : String := ""
  model : String := ""
  promptTokens : Int := 0
  predictedOutputTokens : Int := 0
  requiredCapabilities : List String := []
  tenantId : String := "default"
  securityDomain : String := "default"
  allowedModels : List String := []
  allowedRegions : List String := []
  allowedCacheDomains : List String := []
  remoteKvAllowed : Bool := true
  costBudget : Option ℚ := none

def ProviderNeutralRequest.key (request : ProviderNeutralRequest) : StateKey :=
  (request.sessionId, request.taskId)

/-- A set of texts as a sorted list. -/
def sorted (names : List String) : Value :=
  .list ((names.dedup.insertionSort (· ≤ ·)).map .str)

/-- `to_state_payload` projects a request to metadata. -/
def ProviderNeutralRequest.toStatePayload (request : ProviderNeutralRequest) :
    List (String × Value) :=
  [("model", .str request.model), ("logical_model", .str request.model),
    ("prompt_tokens", .int request.promptTokens),
    ("predicted_output_tokens", .int request.predictedOutputTokens),
    ("required_capabilities", sorted request.requiredCapabilities),
    ("request_id", .str request.requestId),
    ("identity", .dict [("tenant_id", .str request.tenantId)]),
    ("security", .dict [("tenant_id", .str request.tenantId),
      ("security_domain", .str request.securityDomain),
      ("allowed_models", sorted request.allowedModels),
      ("allowed_regions", sorted request.allowedRegions),
      ("allowed_cache_domains", sorted request.allowedCacheDomains),
      ("remote_kv_allowed", .bool request.remoteKvAllowed)])]
  ++ match request.costBudget with
    | some budget => [("qos", .dict [("task_cost_budget", .float budget)])]
    | none => []

section Events
variable (request : ProviderNeutralRequest) (now : Int)

/-- The gateway sends its events in epoch zero without a sequence number. -/
def gatewayEvent (eventType : String) (payload : List (String × Value)) : AgentStateEvent where
  eventType := eventType
  sessionId := request.sessionId
  taskId := request.taskId
  turnId := request.turnId
  stepId := request.stepId
  requestId := request.requestId
  attemptId := request.attemptId
  traceId := request.traceId
  source := "stateflow-gateway"
  observedAt := now
  payload := payload
  authoritative := true

def modelRequestEvent : AgentStateEvent :=
  gatewayEvent request now "MODEL_REQUESTED" request.toStatePayload

def modelResponseEvent (outputTokens : Int) : AgentStateEvent :=
  gatewayEvent request now "MODEL_RESPONSE_RECEIVED"
    [("success", .bool true), ("output_tokens", .int outputTokens)]

def failureEvent (component error : String) : AgentStateEvent :=
  gatewayEvent request now "MODEL_FAILED"
    [("failed_component", .str component), ("error", .str error), ("error_severity", .float (4 / 5))]

end Events

/-- The request overwrites its own attributes of the view. -/
def ProviderNeutralRequest.overwrite (request : ProviderNeutralRequest)
    (view : HarnessSchedulingView) : HarnessSchedulingView :=
  { view with
    promptTokens := .int request.promptTokens
    predictedOutputTokens := .int request.predictedOutputTokens
    logicalModel := (Value.str request.model).orElse view.logicalModel
    requiredCapabilities :=
      distinct (view.requiredCapabilities ++ request.requiredCapabilities.map .str) }

structure BackendResponse where
  statusCode : Int
  payload : Value
  outputTokens : Int

structure GatewayResponse where
  statusCode : Int
  payload : Value
  decision : Option RoutingDecision := none
  headers : List (String × String) := []

/-- The gateway holds a scheduler, a target registry, and the backend adapters. -/
structure RequestGateway where
  env : Environment
  exp : ℚ → ℚ
  config : SchedulerConfig
  predictor : SuccessPredictor
  targets : List TargetCandidate
  send : ProviderNeutralRequest → TargetCandidate → Except String BackendResponse

def RequestGateway.host (gateway : RequestGateway) : Host := { gateway.env.toText with exp := gateway.exp }

/-- The generated identifiers and the instants of one call. -/
structure Moment where
  requested : Fresh
  viewed : Fresh
  stamp : DecisionStamp
  written : Fresh
  finished : Fresh

/-- Routing finds a target or none. -/
inductive Routed where
  | target (view : HarnessSchedulingView) (decision : RoutingDecision) (target : TargetCandidate)
  | noFeasibleTarget (message : String) (rejections : List FilterRejection)

section Handle
variable (gateway : RequestGateway) (moment : Moment) (request : ProviderNeutralRequest)

def selectedTarget (decision : RoutingDecision) : Option TargetCandidate :=
  gateway.targets.find? fun target => target.key = decision.selectedKey

/-- A view becomes a decision and the first registered target with its key. -/
def routeView (view : HarnessSchedulingView) : Except Exception Routed :=
  match schedule gateway.host gateway.config gateway.predictor moment.stamp view gateway.targets with
  | .ok decision =>
      match selectedTarget gateway decision with
      | some target => .ok (.target view decision target)
      | none => .error .valueError
  | .error (.noFeasibleTarget message rejections) => .ok (.noFeasibleTarget message rejections)
  | .error (.raised exception) => .error exception

/-- Routing reads the hot view of the session. -/
def route (store : Store) : Except Exception Routed := do
  let view ← getSchedulingView gateway.env moment.viewed store request.sessionId request.taskId
  routeView gateway moment (request.overwrite view)

/-- An exception of the decision sink never leaves the scheduler. -/
def suppressed (sink : EStateM Exception Store Unit) : EStateM Exception Store Unit :=
  fun store => .ok () (finalState (sink store))

def append (fresh : Fresh) (event : AgentStateEvent) : EStateM Exception Store Unit := do
  let _ ← appendEvent gateway.env fresh event
  return

def FilterRejection.toDict (rejection : FilterRejection) : Value :=
  .dict [("model_id", .str rejection.modelId), ("endpoint_id", .str rejection.endpointId),
    ("replica_id", .str rejection.replicaId), ("reasons", .list (rejection.reasons.map .str))]

def noFeasibleResponse (message : String) (rejections : List FilterRejection) : GatewayResponse where
  statusCode := 503
  payload := .dict [("error", .dict [("type", .str "no_feasible_target"), ("message", .str message),
    ("rejections", .list (rejections.map FilterRejection.toDict))])]

def backendErrorResponse (decision : RoutingDecision) (message : String) : GatewayResponse where
  statusCode := 502
  payload := .dict [("error", .dict [("type", .str "backend_error"), ("message", .str message)])]
  decision := some decision
  headers := [("x-stateflow-decision-id", decision.decisionId)]

def backendResponse (decision : RoutingDecision) (response : BackendResponse) :
    GatewayResponse where
  statusCode := response.statusCode
  payload := response.payload
  decision := some decision
  headers := [("x-stateflow-decision-id", decision.decisionId),
    ("x-stateflow-selected-model", decision.selectedModel),
    ("x-stateflow-selected-replica", decision.selectedReplica)]

/-- A routed request reaches its backend and reports the outcome to the store. -/
def finish (routed : Routed) : EStateM Exception Store GatewayResponse := do
  let finished := moment.finished
  match routed with
  | .noFeasibleTarget message rejections => do
      append gateway finished (failureEvent request finished.now "NO_FEASIBLE_TARGET" message)
      return noFeasibleResponse message rejections
  | .target view decision target => do
      suppressed (recordRoutingDecision moment.written view decision)
      match gateway.send request target with
      | .error message => do
          append gateway finished (failureEvent request finished.now "BACKEND" message)
          return backendErrorResponse decision message
      | .ok response => do
          append gateway finished (modelResponseEvent request finished.now response.outputTokens)
          return backendResponse decision response

/-- `handle` records the request, routes it, and records the outcome. -/
def handle : EStateM Exception Store GatewayResponse := do
  append gateway moment.requested (modelRequestEvent request moment.requested.now)
  let routed ← lift (route gateway moment request (← get))
  finish gateway moment request routed

end Handle

end StateFlow.Gateway
