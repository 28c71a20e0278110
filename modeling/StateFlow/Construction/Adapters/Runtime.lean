import StateFlow.Construction.Adapters.Identity

namespace StateFlow.Adapters
open Python Table Effect Plane

/-- One window of a runtime in its decision-oriented form. -/
structure RuntimeObservation where
  runtimeId : String
  instanceId : String
  observedAt : Int
  nodeId : String := ""
  requestId : String := ""
  traceId : String := ""
  queueDepth : Option Int := none
  running : Option Int := none
  ttftP95Seconds : Option Floating := none
  tpotP95Seconds : Option Floating := none
  prefillTokensPerSecond : Option Floating := none
  decodeTokensPerSecond : Option Floating := none
  kvUsageRatio : Option Floating := none
  health : Option String := none
  ready : Option Bool := none
  implementation : String := "unknown"
  version : String := ""
  watermark : String := ""
  observationId : String := ""
  sourceRef : Option SourceRef := none

def RuntimeObservation.source (observation : RuntimeObservation) : SourceRef :=
  observation.sourceRef.getD
    ⟨"runtime", observation.runtimeId ++ "/" ++ observation.instanceId, "", ""⟩

/-- An observation without an identifier has no idempotency keys. -/
def RuntimeObservation.key (observation : RuntimeObservation) (suffix : String) : String :=
  if observation.observationId = "" then ""
  else "runtime:" ++ observation.observationId ++ ":" ++ suffix

/-- The present values of an observation under their canonical keys. -/
def RuntimeObservation.stateValues (observation : RuntimeObservation) : List (String × Value) :=
  ([("runtime.queue_depth", observation.queueDepth.map Value.int),
    ("runtime.running", observation.running.map Value.int),
    ("runtime.ttft_p95", observation.ttftP95Seconds.map Floating.value),
    ("runtime.tpot_p95", observation.tpotP95Seconds.map Floating.value),
    ("runtime.prefill_tps", observation.prefillTokensPerSecond.map Floating.value),
    ("runtime.decode_tps", observation.decodeTokensPerSecond.map Floating.value),
    ("runtime.kv_usage", observation.kvUsageRatio.map Floating.value),
    ("runtime.health", observation.health.map Value.str)] : List (String × Option Value)).filterMap
      fun entry => entry.2.map fun value => (entry.1, value)

def runtimeStateKeys : List String :=
  ["runtime.queue_depth", "runtime.running", "runtime.ttft_p95", "runtime.tpot_p95",
    "runtime.prefill_tps", "runtime.decode_tps", "runtime.kv_usage", "runtime.health"]

/-- The component of the adapter. -/
def runtimeAdapter : ComponentDescriptor where
  componentId := "stateflow-runtime-adapter"
  kind := "runtime_adapter"
  implementation := "runtime-observability"
  version := "0.3"
  producesState := runtimeStateKeys ++ ["instance.ready"]
  managesTypes := ["component"]
  relationCapabilities := ["deployed_on", "executing_on"]

section Publish
variable (config : PlaneConfig) (now : Int) (observation : RuntimeObservation)

def RuntimeObservation.descriptor (observation : RuntimeObservation) : ComponentDescriptor where
  componentId := observation.runtimeId
  kind := "inference_runtime"
  implementation := observation.implementation
  version := observation.version
  producesState := runtimeStateKeys
  managesTypes := ["runtime_object"]
  relationCapabilities := ["deployed_on", "executes"]
  updateMode := "metric_and_event"

/-- A known component keeps its descriptor. -/
def registerRuntime : PlaneAction Unit := do
  if ((← get).components.lookup observation.runtimeId).isNone then
    registerComponent observation.descriptor

def RuntimeObservation.relation (observation : RuntimeObservation) (sourceRef relationType targetRef : String)
    (authority : SourceAuthority) (suffix : String) : RelationUpdate where
  sourceRef := sourceRef
  relationType := relationType
  targetRef := targetRef
  producer := runtimeAdapter.componentId
  timestamp := observation.observedAt
  authority := authority
  attributes := sourceAttributes observation.source
  idempotencyKey := observation.key suffix

def RuntimeObservation.correlation (observation : RuntimeObservation) : CorrelationIdentity where
  traceId := observation.traceId
  requestId := observation.requestId
  componentId := observation.runtimeId
  instanceId := observation.instanceId

def RuntimeObservation.update (observation : RuntimeObservation) (entityRef key : String)
    (value : Value) (authority : SourceAuthority) : StateUpdate where
  entityRef := entityRef
  key := key
  value := value
  producer := runtimeAdapter.componentId
  timestamp := observation.observedAt
  authority := authority
  sourceRef := some observation.source
  correlation := observation.correlation
  idempotencyKey := observation.key key

def RuntimeObservation.updates (observation : RuntimeObservation) (runtimeRef instanceRef : String) :
    List StateUpdate :=
  (observation.stateValues.map fun entry =>
    observation.update runtimeRef entry.1 entry.2 .directTelemetry)
  ++ match observation.ready with
    | some ready =>
        [observation.update instanceRef "instance.ready" (.bool ready) .structuredLifecycle]
    | none => []

/-- The runtime and its instance are projected on every observation. -/
def projectEntities (runtimeRef instanceRef : String) : PlaneAction Unit := do
  let lifecycle := match observation.health with
    | none => "ready"
    | some health => if health = "healthy" then "ready" else "degraded"
  upsertEntity config now (← lift (GraphEntity.make runtimeRef .component "component" lifecycle ""
    [("kind", "inference_runtime")]))
  let lifecycle := if observation.ready = some false then "unavailable" else "ready"
  upsertEntity config now (← lift (GraphEntity.make instanceRef .deployment "instance" lifecycle
    runtimeRef [("runtime_id", observation.runtimeId)]))

/-- A named node contains the instance. -/
def relateNode (instanceRef : String) : EStateM Exception World (List RelationUpdate) := do
  if observation.nodeId = "" then return []
  let nodeRef ← lift (nodeRef observation.nodeId)
  onPlane do
    ensureEntity config now (← lift (GraphEntity.make nodeRef .deployment "node" "" ""
      [("node_id", observation.nodeId)]))
  onBindings (bind nodeRef [("node_id", observation.nodeId)])
  return [observation.relation nodeRef "contains" instanceRef .structuredLifecycle
    "node_contains_instance"]

/-- A named request executes on the runtime and on its instance. -/
def relateRequest (runtimeRef instanceRef : String) :
    EStateM Exception World (List RelationUpdate) := do
  if observation.requestId = "" then return []
  let requestRef ← lift (requestRef observation.requestId)
  onPlane do
    ensureEntity config now (← lift (GraphEntity.make requestRef .component "request" "running" ""
      []))
  onBindings (bind requestRef
    [("request_id", observation.requestId), ("trace_id", observation.traceId)])
  return [observation.relation requestRef "executing_on" runtimeRef .authoritativeDomain
      "request_exec_runtime",
    observation.relation requestRef "executing_on" instanceRef .authoritativeDomain
      "request_exec_instance"]

/-- The report keeps the results of the state and of the relations. -/
structure AdapterPublishReport where
  stateResults : List WriteResult
  relationResults : List WriteResult

/-- `publish` materializes an observation in the plane. -/
def publish : EStateM Exception World AdapterPublishReport := do
  let runtimeRef ← lift (runtimeRef observation.runtimeId)
  let instanceRef ← lift (instanceRef observation.instanceId)
  onPlane (registerRuntime observation)
  onPlane (projectEntities config now observation runtimeRef instanceRef)
  onBindings (bind runtimeRef [("component_id", observation.runtimeId)])
  onBindings (bind instanceRef [("instance_id", observation.instanceId)])
  let deployed := observation.relation runtimeRef "deployed_on" instanceRef .structuredLifecycle
    "deployed_on"
  let contained ← relateNode config now observation instanceRef
  let executing ← relateRequest config now observation runtimeRef instanceRef
  let stateResults ← onPlane (publishState config (observation.updates runtimeRef instanceRef))
  let relationResults ← onPlane (upsertRelations config (deployed :: contained ++ executing))
  onPlane (heartbeat (adapterHeartbeat runtimeAdapter.componentId observation.watermark
    observation.observedAt))
  return ⟨stateResults, relationResults⟩

end Publish

/-- The values that a profile reads from one metrics text. -/
structure RuntimeMetrics where
  queueDepth : Option ℚ := none
  running : Option ℚ := none
  ttftP95Seconds : Option ℚ := none
  tpotP95Seconds : Option ℚ := none
  prefillTokensPerSecond : Option ℚ := none
  decodeTokensPerSecond : Option ℚ := none
  kvUsageRatio : Option ℚ := none

/-- A client reads one endpoint through a profile. -/
structure PrometheusRuntimeSourceClient where
  endpoint : String
  runtimeId : String
  instanceId : String
  nodeId : String := ""
  profileName : String
  sourceBackend : String
  project : String → Except Exception RuntimeMetrics

/-- One poll of a client returns a metrics text at an instant. -/
structure Poll where
  client : PrometheusRuntimeSourceClient
  payload : String
  requestId : String := ""
  traceId : String := ""
  observedAt : Int

/-- `collect` identifies an observation by the watermark of its text. -/
def collect (stableWatermark : String → String) (poll : Poll) :
    Except Exception RuntimeObservation := do
  let values ← poll.client.project poll.payload
  let watermark := stableWatermark poll.payload
  return {
    runtimeId := poll.client.runtimeId
    instanceId := poll.client.instanceId
    observedAt := poll.observedAt
    nodeId := poll.client.nodeId
    requestId := poll.requestId
    traceId := poll.traceId
    queueDepth := values.queueDepth.map roundHalfEven
    running := values.running.map roundHalfEven
    ttftP95Seconds := values.ttftP95Seconds.map .finite
    tpotP95Seconds := values.tpotP95Seconds.map .finite
    prefillTokensPerSecond := values.prefillTokensPerSecond.map .finite
    decodeTokensPerSecond := values.decodeTokensPerSecond.map .finite
    kvUsageRatio := values.kvUsageRatio.map .finite
    health := some "healthy"
    ready := some true
    implementation := poll.client.profileName
    watermark := watermark
    observationId := watermark
    sourceRef := some ⟨poll.client.sourceBackend, poll.client.endpoint, poll.traceId, ""⟩ }

/-- `collect_and_publish` stores what one poll observed. -/
def collectAndPublish (config : PlaneConfig) (stableWatermark : String → String) (poll : Poll) :
    EStateM Exception World AdapterPublishReport := do
  let observation ← lift (collect stableWatermark poll)
  publish config poll.observedAt observation

end StateFlow.Adapters
