import StateFlow.Construction.Adapters.Runtime
import StateFlow.Library.Double

namespace StateFlow.Adapters
open Python Table Effect Plane

def clusterRef (clusterId : String) : Except Exception String :=
  entityRef .deployment "cluster" clusterId

/-- One observation of a node, or of an instance on a node. -/
structure DeploymentObservation where
  clusterId : String
  nodeId : String
  observedAt : Int
  instanceId : String := ""
  runtimeId : String := ""
  namespaceName : String := ""
  podUid : String := ""
  nodeHealth : Option String := none
  nodeAllocatable : Option (List (String × Value)) := none
  instanceReady : Option Bool := none
  allocatedGpu : Option Floating := none
  labels : List (String × String) := []
  watermark : String := ""
  observationId : String := ""
  sourceRef : Option SourceRef := none
  deleted : Bool := false

namespace DeploymentObservation

def source (observation : DeploymentObservation) : SourceRef :=
  observation.sourceRef.getD ⟨"kubernetes",
    if observation.podUid = "" then observation.clusterId ++ "/" ++ observation.nodeId
    else observation.podUid, "", ""⟩

def key (observation : DeploymentObservation) (suffix : String) : String :=
  if observation.observationId = "" then ""
  else "k8s:" ++ observation.observationId ++ ":" ++ suffix

/-- A deletion overrides the health of the node. An unreported health counts as ready. -/
def nodeLifecycle (observation : DeploymentObservation) : String :=
  if observation.deleted then "deleted"
  else if observation.nodeHealth ∈ [none, some "healthy", some "ready"] then "ready"
  else "degraded"

def instanceLifecycle (observation : DeploymentObservation) : String :=
  if observation.deleted then "deleted"
  else if observation.instanceReady ≠ some false then "ready"
  else "unavailable"

/-- The labels of an observation replace the labels of the adapter. -/
def withLabels (observation : DeploymentObservation) (own : List (String × String)) :
    List (String × String) :=
  observation.labels.foldl (fun labels entry => assign entry.1 entry.2 labels) own

def nodeLabels (observation : DeploymentObservation) : List (String × String) :=
  observation.withLabels [("node_id", observation.nodeId)]

def instanceLabels (observation : DeploymentObservation) : List (String × String) :=
  observation.withLabels
    [("namespace", observation.namespaceName), ("pod_uid", observation.podUid)]

/-- An instance without a runtime has no owner. -/
def ownerRef (observation : DeploymentObservation) : Except Exception String :=
  if observation.runtimeId = "" then .ok "" else runtimeRef observation.runtimeId

def clusterEntity (observation : DeploymentObservation) (clusterRef : String) :
    Except Exception GraphEntity :=
  GraphEntity.make clusterRef .deployment "cluster" "active" ""
    [("cluster_id", observation.clusterId)]

/-- Every observation projects its node. -/
def nodeEntity (observation : DeploymentObservation) (clusterRef nodeRef : String) :
    Except Exception GraphEntity := do
  let entity ← GraphEntity.make nodeRef .deployment "node" observation.nodeLifecycle ""
    observation.nodeLabels
  return { entity with parentRef := clusterRef }

def instanceEntity (observation : DeploymentObservation) (nodeRef instanceRef runtimeRef : String) :
    Except Exception GraphEntity := do
  let entity ← GraphEntity.make instanceRef .deployment "instance" observation.instanceLifecycle
    runtimeRef observation.instanceLabels
  return { entity with parentRef := nodeRef }

def relation (observation : DeploymentObservation) (producer sourceRef relationType targetRef suffix : String) :
    RelationUpdate where
  sourceRef := sourceRef
  relationType := relationType
  targetRef := targetRef
  producer := producer
  timestamp := observation.observedAt
  authority := .authoritativeDomain
  attributes := sourceAttributes observation.source
  idempotencyKey := observation.key suffix

def update (observation : DeploymentObservation) (producer entityRef key : String) (value : Value) :
    StateUpdate where
  entityRef := entityRef
  key := key
  value := value
  producer := producer
  timestamp := observation.observedAt
  authority := .authoritativeDomain
  sourceRef := some observation.source
  idempotencyKey := observation.key key

end DeploymentObservation

/-- The component of the adapter. -/
def kubernetesAdapter : ComponentDescriptor where
  componentId := "stateflow-kubernetes-adapter"
  kind := "deployment_adapter"
  implementation := "kubernetes"
  version := "0.3"
  producesState := ["node.allocatable", "node.health", "instance.ready", "instance.allocated_gpu"]
  managesTypes := ["cluster", "node", "instance"]
  relationCapabilities := ["contains", "deployed_on"]

section Publish
variable (config : PlaneConfig) (now : Int) (observation : DeploymentObservation)

/-- The present values of an observation. An instance without a reference has none. -/
def deploymentUpdates (observation : DeploymentObservation) (nodeRef instanceRef : String) :
    List StateUpdate :=
  let producer := kubernetesAdapter.componentId
  let values : List (String × String × Option Value) :=
    [(nodeRef, "node.allocatable", observation.nodeAllocatable.map .dict),
      (nodeRef, "node.health", observation.nodeHealth.map .str)]
    ++ if instanceRef = "" then []
      else [(instanceRef, "instance.ready", observation.instanceReady.map .bool),
        (instanceRef, "instance.allocated_gpu", observation.allocatedGpu.map Floating.value)]
  values.filterMap fun entry => entry.2.2.map (observation.update producer entry.1 entry.2.1)

/-- A named runtime is deployed on the instance. -/
def relateRuntime (runtimeRef instanceRef : String) :
    EStateM Exception World (List RelationUpdate) := do
  if runtimeRef = "" then return []
  onPlane do
    ensureEntity config now (← lift (GraphEntity.make runtimeRef .component "component" "" ""
      [("kind", "inference_runtime")]))
  onBindings (bind runtimeRef [("component_id", observation.runtimeId)])
  return [observation.relation kubernetesAdapter.componentId runtimeRef "deployed_on" instanceRef
    "runtime_deployed_on_instance"]

/-- An observation of an instance projects it and relates it to its node and its runtime. -/
def projectInstance (nodeRef : String) :
    EStateM Exception World (String × List RelationUpdate) := do
  if observation.instanceId = "" then return ("", [])
  let instanceRef ← lift (instanceRef observation.instanceId)
  let runtimeRef ← lift observation.ownerRef
  onPlane do
    upsertEntity config now (← lift (observation.instanceEntity nodeRef instanceRef runtimeRef))
  onBindings (bind instanceRef
    [("instance_id", observation.instanceId), ("pod_uid", observation.podUid)])
  let contained := observation.relation kubernetesAdapter.componentId nodeRef "contains" instanceRef
    "node_contains_instance"
  let deployed ← relateRuntime config now observation runtimeRef instanceRef
  return (instanceRef, contained :: deployed)

/-- The values and the relations of an observation precede its heartbeat. -/
def publishWrites (updates : List StateUpdate) (relations : List RelationUpdate) :
    EStateM Exception World AdapterPublishReport := do
  let stateResults ← onPlane (publishState config updates)
  let relationResults ← onPlane (upsertRelations config relations)
  onPlane (heartbeat (adapterHeartbeat kubernetesAdapter.componentId observation.watermark
    observation.observedAt))
  return ⟨stateResults, relationResults⟩

/-- `publish` projects the cluster, the node, and the instance of an observation. -/
def publishDeployment : EStateM Exception World AdapterPublishReport := do
  let clusterRef ← lift (clusterRef observation.clusterId)
  let nodeRef ← lift (nodeRef observation.nodeId)
  onPlane do upsertEntity config now (← lift (observation.clusterEntity clusterRef))
  onPlane do upsertEntity config now (← lift (observation.nodeEntity clusterRef nodeRef))
  onBindings (bind clusterRef [("cluster_id", observation.clusterId)])
  onBindings (bind nodeRef [("node_id", observation.nodeId)])
  let hosted := observation.relation kubernetesAdapter.componentId clusterRef "contains" nodeRef
    "cluster_contains_node"
  let (instanceRef, relations) ← projectInstance config now observation nodeRef
  publishWrites config observation (deploymentUpdates observation nodeRef instanceRef)
    (hosted :: relations)

end Publish

/-- A source fails by its answer, by a status, by an expired version, or by an exception. -/
inductive SourceFailure where
  | client
  | http (status : Int)
  | expired
  | raised (exception : Exception)
  deriving DecidableEq, Repr

/-- An exception of the process leaves the client. -/
def raised {A : Type} : Except Exception A → Except SourceFailure A
  | .ok value => .ok value
  | .error exception => .error (.raised exception)

/-- A client belongs to a cluster. An unnamed namespace stands for all of them. -/
structure KubernetesSourceClient where
  clusterId : String
  namespaceName : String := ""

section Decode
variable (text : Text)

def mapping : Value → Except SourceFailure (List (String × Value))
  | .dict items => .ok items
  | _ => .error .client

/-- The items of a list payload are objects. -/
def listItems (payload : Value) : Except SourceFailure (List (List (String × Value))) := do
  match getD (← mapping payload) "items" .none with
  | .list items => items.mapM mapping
  | _ => throw .client

def stringMapping : Value → List (String × String)
  | .dict items => items.map fun entry => (entry.1, text.str entry.2)
  | _ => []

def textOf (items : List (String × Value)) (name fallback : String) : String :=
  text.str (getD items name (.str fallback))

/-- The items of an absent, an empty, or an iterable value. -/
def iterated (items : List (String × Value)) (name : String) : Except Exception (List Value) :=
  ((getD items name (.tuple [])).orElse (.tuple [])).iter

/-- The first condition of the type `Ready` decides before the phase. -/
def isReady (status : List (String × Value)) : Except Exception Bool := do
  let conditions ← iterated status "conditions"
  let decided := conditions.findSome? fun condition =>
    match condition with
    | .dict items =>
        if (getD items "type" .none).eq (.str "Ready") then
          some (decide (text.lower (textOf text items "status" "") = "true"))
        else none
    | _ => none
  return decided.getD (decide (text.lower (textOf text status "phase" "") = "running"))

def withoutSuffix (suffix value : String) : Option String :=
  if suffix.toList <:+ value.toList then
    some (String.ofList (value.toList.take (value.length - suffix.length)))
  else none

def cpuCores (value : String) : Except Exception ℚ :=
  match withoutSuffix "m" value with
  | some amount => do return Double.nearest ((← text.float (.str amount)) / 1000)
  | none => text.float (.str value)

def byteSuffixes : List (String × ℚ) :=
  [("Ki", 1024), ("Mi", 1024 ^ 2), ("Gi", 1024 ^ 3), ("Ti", 1024 ^ 4), ("K", 1000), ("M", 1000 ^ 2),
    ("G", 1000 ^ 3), ("T", 1000 ^ 4)]

def byteCount (value : String) : Except Exception Int :=
  let scaled := byteSuffixes.findSome? fun entry =>
    (withoutSuffix entry.1 value).map fun amount => (amount, entry.2)
  match scaled with
  | some (amount, multiplier) => do
      text.int (.float (Double.nearest ((← text.float (.str amount)) * multiplier)))
  | none => do text.int (.float (← text.float (.str value)))

/-- A present quantity adds its number to the raw allocatable values. -/
def addQuantity (raw : List (String × String)) (name target : String)
    (parse : String → Except Exception Value) (result : List (String × Value)) :
    Except Exception (List (String × Value)) :=
  match raw.lookup name with
  | some value => do return assign target (← parse value) result
  | none => .ok result

def allocatable (value : Value) : Except Exception (List (String × Value)) := do
  let raw := stringMapping text value
  let result := raw.map fun entry => (entry.1, Value.str entry.2)
  let result ← addQuantity raw "cpu" "cpu_cores"
    (fun value => do return .float (← cpuCores text value)) result
  let result ← addQuantity raw "memory" "memory_bytes"
    (fun value => do return .int (← byteCount text value)) result
  addQuantity raw "nvidia.com/gpu" "gpu"
    (fun value => do return .float (← text.float (.str value))) result

/-- The graphics processors that the limits or the requests of a container name. -/
def containerGpu : Value → Except Exception (Option ℚ)
  | .dict container =>
      match getD container "resources" (.dict []) with
      | .dict resources =>
          match ((getD resources "limits" .none).orElse (getD resources "requests" .none)).orElse
            (.dict []) with
          | .dict values =>
              match values.lookup "nvidia.com/gpu" with
              | some amount => do return some (← text.float amount)
              | none => .ok none
          | _ => .ok none
      | _ => .ok none
  | _ => .ok none

/-- Each addition rounds to a double. -/
def podGpu (spec : List (String × Value)) : Except Exception (Option ℚ) := do
  let found := (← (← iterated spec "containers").mapM (containerGpu text)).filterMap id
  let total := found.foldl (fun total amount => Double.nearest (total + amount)) 0
  return if found.isEmpty then none else some total

/-- The first text that is not empty, or the last one. -/
def firstText : List String → String
  | [] => ""
  | [last] => last
  | first :: rest => if first = "" then firstText rest else first

variable (client : KubernetesSourceClient) (timestamp : Int) (deleted : Bool)

/-- A deleted object is not ready, whatever its status says. -/
def observedReady (deleted : Bool) (status : List (String × Value)) : Except SourceFailure Bool :=
  if deleted then .ok false else raised (isReady text status)

def observedHealth (deleted : Bool) (status : List (String × Value)) :
    Except SourceFailure String :=
  if deleted then .ok "deleted"
  else do return if ← raised (isReady text status) then "healthy" else "unhealthy"

/-- A node without a name has no observation. -/
def decodeNode (node : List (String × Value)) :
    Except SourceFailure (Option DeploymentObservation) := do
  let metadata ← mapping (getD node "metadata" .none)
  let status ← mapping (getD node "status" .none)
  let nodeId := textOf text metadata "name" ""
  if nodeId = "" then return none
  let version := textOf text metadata "resourceVersion" ""
  let health ← observedHealth text deleted status
  let quantities ← raised (allocatable text (getD status "allocatable" .none))
  return some {
    clusterId := client.clusterId
    nodeId := nodeId
    observedAt := timestamp
    nodeHealth := some health
    nodeAllocatable := some quantities
    labels := stringMapping text (getD metadata "labels" .none)
    watermark := version
    observationId := "node:" ++ textOf text metadata "uid" nodeId ++ ":" ++ version
    sourceRef := some ⟨"kubernetes", "nodes/" ++ nodeId ++ "@" ++ version, "", ""⟩
    deleted := deleted }

/-- A label names the instance before the identifier and the name of its pod. -/
def podInstance (metadata : List (String × Value)) (labels : List (String × String)) : String :=
  firstText [getD labels "stateflow.io/instance-id" "", textOf text metadata "uid" "",
    textOf text metadata "name" ""]

def podRuntime (labels annotations : List (String × String)) : String :=
  firstText [getD labels "stateflow.io/runtime-id" "", getD annotations "stateflow.io/runtime-id" "",
    getD labels "app.kubernetes.io/name" ""]

/-- A pod that no node runs has no observation. -/
def decodePod (pod : List (String × Value)) :
    Except SourceFailure (Option DeploymentObservation) := do
  let metadata ← mapping (getD pod "metadata" .none)
  let spec ← mapping (getD pod "spec" .none)
  let status ← mapping (getD pod "status" .none)
  let nodeId := textOf text spec "nodeName" ""
  if nodeId = "" then return none
  let labels := stringMapping text (getD metadata "labels" .none)
  let annotations := stringMapping text (getD metadata "annotations" .none)
  let instanceId := podInstance text metadata labels
  let version := textOf text metadata "resourceVersion" ""
  let ready ← observedReady text deleted status
  let gpu ← raised (podGpu text spec)
  return some {
    clusterId := client.clusterId
    nodeId := nodeId
    observedAt := timestamp
    instanceId := instanceId
    runtimeId := podRuntime labels annotations
    namespaceName := textOf text metadata "namespace" client.namespaceName
    podUid := textOf text metadata "uid" ""
    instanceReady := some ready
    allocatedGpu := gpu.map .finite
    labels := labels
    watermark := version
    observationId := "pod:" ++ instanceId ++ ":" ++ version
    sourceRef := some ⟨"kubernetes", "pods/" ++ textOf text metadata "namespace" "" ++ "/"
      ++ textOf text metadata "name" "" ++ "@" ++ version, "", ""⟩
    deleted := deleted }

/-- `decode` reads the nodes of one list and then the pods of another one. -/
def decode (nodePayload podPayload : Value) : Except SourceFailure (List DeploymentObservation) := do
  let nodes ← listItems nodePayload
  let pods ← listItems podPayload
  let nodeObservations ← nodes.mapM (decodeNode text client timestamp deleted)
  let podObservations ← pods.mapM (decodePod text client timestamp deleted)
  return (nodeObservations ++ podObservations).filterMap id

end Decode

end StateFlow.Adapters
