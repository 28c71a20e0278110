import StateFlow.Construction.Adapters.Client
import StateFlow.Construction.Adapters.Dcgm

namespace StateFlow.Adapters
open Python Calendar Effect Plane

/-- One observation of a semantic adapter. -/
inductive Observation where
  | runtime (observation : RuntimeObservation)
  | kv (observation : KVObservation)
  | deployment (observation : DeploymentObservation)
  | hardware (observation : HardwareObservation)

namespace Observation

/-- The component of the adapter that publishes the observation. -/
def component : Observation → ComponentDescriptor
  | runtime _ => runtimeAdapter
  | kv _ => kvAdapter
  | deployment _ => kubernetesAdapter
  | hardware _ => dcgmAdapter

def source : Observation → SourceRef
  | runtime observation => observation.source
  | kv observation => observation.source
  | deployment observation => observation.source
  | hardware observation => observation.source

def observedAt : Observation → Int
  | runtime observation => observation.observedAt
  | kv observation => observation.observedAt
  | deployment observation => observation.observedAt
  | hardware observation => observation.observedAt

def watermark : Observation → String
  | runtime observation => observation.watermark
  | kv observation => observation.watermark
  | deployment observation => observation.watermark
  | hardware observation => observation.watermark

/-- The heartbeat of an adapter has the timestamp of the observation. -/
def heartbeat (observation : Observation) (zone : Int) : Heartbeat :=
  { adapterHeartbeat observation.component.componentId observation.watermark
      observation.observedAt with zone := zone }

end Observation

/-- The timestamp of an observation names its zone. -/
structure Sighting where
  observation : Observation
  shown : DateTime
  zone : Int
  dated : observation.observedAt = shown.instant
  aware : shown.offset = some zone

/-- The records of an observation that follow its entities. -/
structure Batches where
  updates : List StateUpdate
  relations : List RelationUpdate

def inZone (zone : Int) (update : RelationUpdate) : RelationUpdate := { update with zone := zone }

def runtimeEntity (observation : RuntimeObservation) (runtimeRef : String) :
    Except Exception GraphEntity :=
  GraphEntity.make runtimeRef .component "component"
    (match observation.health with
      | none => "ready"
      | some health => if health = "healthy" then "ready" else "degraded") ""
    [("kind", "inference_runtime")]

def replicaEntity (observation : RuntimeObservation) (runtimeRef instanceRef : String) :
    Except Exception GraphEntity :=
  GraphEntity.make instanceRef .deployment "instance"
    (if observation.ready = some false then "unavailable" else "ready") runtimeRef
    [("runtime_id", observation.runtimeId)]

namespace AdapterStatePlane
variable (writer : AdapterStatePlane)

/-- A malformed entity raises before the writer is called. -/
def project (entity : Except Exception GraphEntity) : EStateM Exception World Unit :=
  onPlane do writer.upsertEntity (← lift entity)

/-- `ensure_entity` -/
def refer (entity : Except Exception GraphEntity) : EStateM Exception World Unit :=
  onPlane do
    let entity ← lift entity
    if (← writer.getEntity entity.ref).isNone then writer.upsertEntity entity

/-- `_register_runtime` -/
def registerRuntime (observation : RuntimeObservation) : PlaneAction Unit := do
  if (← writer.listComponents).any fun item => item.componentId = observation.runtimeId then return
  writer.registerComponent observation.descriptor

section Runtime
variable (observation : RuntimeObservation)

def relateNode (instanceRef : String) : EStateM Exception World (List RelationUpdate) := do
  if observation.nodeId = "" then return []
  let nodeRef ← lift (nodeRef observation.nodeId)
  writer.refer (GraphEntity.make nodeRef .deployment "node" "" "" [("node_id", observation.nodeId)])
  onBindings (bind nodeRef [("node_id", observation.nodeId)])
  return [observation.relation nodeRef "contains" instanceRef .structuredLifecycle
    "node_contains_instance"]

def relateRequest (runtimeRef instanceRef : String) :
    EStateM Exception World (List RelationUpdate) := do
  if observation.requestId = "" then return []
  let requestRef ← lift (requestRef observation.requestId)
  writer.refer (GraphEntity.make requestRef .component "request" "running" "" [])
  onBindings (bind requestRef
    [("request_id", observation.requestId), ("trace_id", observation.traceId)])
  return [observation.relation requestRef "executing_on" runtimeRef .authoritativeDomain
      "request_exec_runtime",
    observation.relation requestRef "executing_on" instanceRef .authoritativeDomain
      "request_exec_instance"]

/-- `RuntimeStateAdapter.publish` up to its batches -/
def prepareRuntime : EStateM Exception World Batches := do
  let runtimeRef ← lift (runtimeRef observation.runtimeId)
  let instanceRef ← lift (instanceRef observation.instanceId)
  onPlane (writer.registerRuntime observation)
  writer.project (runtimeEntity observation runtimeRef)
  writer.project (replicaEntity observation runtimeRef instanceRef)
  onBindings (bind runtimeRef [("component_id", observation.runtimeId)])
  onBindings (bind instanceRef [("instance_id", observation.instanceId)])
  let deployed := observation.relation runtimeRef "deployed_on" instanceRef .structuredLifecycle
    "deployed_on"
  let contained ← writer.relateNode observation instanceRef
  let executing ← writer.relateRequest observation runtimeRef instanceRef
  return ⟨observation.updates runtimeRef instanceRef, deployed :: contained ++ executing⟩

end Runtime

section KV
variable (observation : KVObservation)

def relateLocation (kvRef : String) (location : KVLocation) :
    EStateM Exception World (String × RelationUpdate) := do
  let ref ← resolveLocation location
  writer.refer (locationEntity ref location)
  return (ref, observation.relation kvRef "located_on" ref (locationAttributes observation location)
    ("located_on:" ++ ref))

def relateUse (kvRef requestId : String) : EStateM Exception World RelationUpdate := do
  let ref ← lift (requestRef requestId)
  writer.refer (GraphEntity.make ref .component "request" "active" "" [])
  onBindings (bind ref [("request_id", requestId), ("trace_id", observation.traceId)])
  return observation.relation ref "uses" kvRef (sourceAttributes observation.source)
    ("request_uses:" ++ requestId)

/-- `KVStateAdapter.publish` up to its batches -/
def prepareKv : EStateM Exception World Batches := do
  let kvRef ← lift (kvRef observation.kvId)
  let ownerRef ← lift (componentRef kvAdapter.componentId)
  writer.project (kvEntity observation kvRef ownerRef)
  onBindings (bind kvRef [("kv_id", observation.kvId), ("trace_id", observation.traceId)])
  let located ← observation.locations.mapM (writer.relateLocation observation kvRef)
  let used ← observation.requestIds.mapM (writer.relateUse observation kvRef)
  let updates ← lift (kvUpdates observation kvRef (located.map Prod.fst))
  return ⟨updates, located.map Prod.snd ++ used⟩

end KV

section Deployment
variable (observation : DeploymentObservation)

def relateRuntime (runtimeRef instanceRef : String) :
    EStateM Exception World (List RelationUpdate) := do
  if runtimeRef = "" then return []
  writer.refer (GraphEntity.make runtimeRef .component "component" "" ""
    [("kind", "inference_runtime")])
  onBindings (bind runtimeRef [("component_id", observation.runtimeId)])
  return [observation.relation kubernetesAdapter.componentId runtimeRef "deployed_on" instanceRef
    "runtime_deployed_on_instance"]

def projectInstance (nodeRef : String) :
    EStateM Exception World (String × List RelationUpdate) := do
  if observation.instanceId = "" then return ("", [])
  let instanceRef ← lift (instanceRef observation.instanceId)
  let runtimeRef ← lift observation.ownerRef
  writer.project (observation.instanceEntity nodeRef instanceRef runtimeRef)
  onBindings (bind instanceRef
    [("instance_id", observation.instanceId), ("pod_uid", observation.podUid)])
  let contained := observation.relation kubernetesAdapter.componentId nodeRef "contains" instanceRef
    "node_contains_instance"
  let deployed ← writer.relateRuntime observation runtimeRef instanceRef
  return (instanceRef, contained :: deployed)

/-- `KubernetesStateAdapter.publish` up to its batches -/
def prepareDeployment : EStateM Exception World Batches := do
  let clusterRef ← lift (clusterRef observation.clusterId)
  let nodeRef ← lift (nodeRef observation.nodeId)
  writer.project (observation.clusterEntity clusterRef)
  writer.project (observation.nodeEntity clusterRef nodeRef)
  onBindings (bind clusterRef [("cluster_id", observation.clusterId)])
  onBindings (bind nodeRef [("node_id", observation.nodeId)])
  let hosted := observation.relation kubernetesAdapter.componentId clusterRef "contains" nodeRef
    "cluster_contains_node"
  let (instanceRef, relations) ← writer.projectInstance observation nodeRef
  return ⟨deploymentUpdates observation nodeRef instanceRef, hosted :: relations⟩

end Deployment

section Hardware
variable (observation : HardwareObservation)

def projectLink (nodeRef : String) : EStateM Exception World Batches := do
  match observation.effectiveBandwidthBytesPerSecond with
  | none => return ⟨[], []⟩
  | some bandwidth =>
      if observation.peerNodeId = "" then return ⟨[], []⟩
      let peerRef ← lift (Adapters.nodeRef observation.peerNodeId)
      let linkRef ← lift (linkRef observation.linkId)
      writer.refer (HardwareObservation.nodeEntity peerRef observation.peerNodeId)
      writer.project (HardwareObservation.linkEntity nodeRef peerRef linkRef)
      onBindings (bind peerRef [("node_id", observation.peerNodeId)])
      onBindings (bind linkRef [("link_id", observation.linkId)])
      return ⟨[observation.linkUpdate linkRef bandwidth],
        [observation.relation nodeRef "connected_to" peerRef [("link_ref", .str linkRef)]
          "node_connected_to_peer"]⟩

/-- `DCGMStateAdapter.publish` up to its batches -/
def prepareHardware : EStateM Exception World Batches := do
  let nodeRef ← lift (Adapters.nodeRef observation.nodeId)
  let resourceRef ← lift (resourceRef observation.resourceId)
  writer.refer (HardwareObservation.nodeEntity nodeRef observation.nodeId)
  writer.project (observation.resourceEntity nodeRef resourceRef)
  onBindings (bind nodeRef [("node_id", observation.nodeId)])
  onBindings (bind resourceRef
    [("resource_id", observation.resourceId), ("gpu_id", observation.gpuId)])
  let contained := observation.relation nodeRef "contains" resourceRef [] "node_contains_gpu"
  let linked ← writer.projectLink observation nodeRef
  return ⟨observation.updates nodeRef resourceRef ++ linked.updates, contained :: linked.relations⟩

end Hardware

/-- Every adapter projects its entities before it writes its batches. -/
def prepare : Observation → EStateM Exception World Batches
  | .runtime observation => writer.prepareRuntime observation
  | .kv observation => writer.prepareKv observation
  | .deployment observation => writer.prepareDeployment observation
  | .hardware observation => writer.prepareHardware observation

/-- The state precedes the relations, and the heartbeat is last. -/
def deliver (observation : Observation) (zone : Int) (batches : Batches) :
    PlaneAction AdapterPublishReport := do
  let stateResults ← writer.publishState batches.updates
  let relationResults ← writer.upsertRelations (batches.relations.map (inZone zone))
  writer.heartbeat (observation.heartbeat zone)
  return ⟨stateResults, relationResults⟩

/-- `publish` of an adapter that is bound to the writer -/
def publish (sighting : Sighting) : EStateM Exception World AdapterPublishReport := do
  let batches ← writer.prepare sighting.observation
  onPlane (writer.deliver sighting.observation sighting.zone batches)

end AdapterStatePlane

/-- The adapter is bound to the plane in its process. -/
def publishDirect (config : PlaneConfig) (now : Int) (sighting : Sighting) :
    EStateM Exception World AdapterPublishReport :=
  (inProcess config now).publish sighting

/-- The adapter is bound to the client of a server. -/
def publishRemote (text : Text) (other : Value → Value) (config : PlaneConfig) (now : Int)
    (arrival : DateTime) (sighting : Sighting) : EStateM Exception World AdapterPublishReport :=
  (httpClient text other config now arrival sighting.shown).publish sighting

end StateFlow.Adapters
