import StateFlow.Construction.Adapters.KV

namespace StateFlow.Adapters
open Python Table Effect Plane

def linkRef (linkId : String) : Except Exception String := entityRef .deployment "link" linkId

/-- One window of the hardware counters of a processor. -/
structure HardwareObservation where
  nodeId : String
  gpuId : String
  observedAt : Int
  hbmUsedBytes : Option Int := none
  hbmReservedBytes : Option Int := none
  gpuUtilRatio : Option Floating := none
  nodeHealth : Option String := none
  peerNodeId : String := ""
  effectiveBandwidthBytesPerSecond : Option Floating := none
  watermark : String := ""
  observationId : String := ""
  sourceRef : Option SourceRef := none

/-- The component of the adapter. -/
def dcgmAdapter : ComponentDescriptor where
  componentId := "stateflow-dcgm-adapter"
  kind := "hardware_adapter"
  implementation := "dcgm-nvml-nic"
  version := "0.3"
  producesState := ["resource.hbm.used", "resource.hbm.reserved", "resource.gpu.util",
    "node.health", "link.effective_bw"]
  managesTypes := ["resource", "link"]
  relationCapabilities := ["contains", "connected_to"]

namespace HardwareObservation

def resourceId (observation : HardwareObservation) : String :=
  observation.nodeId ++ "/gpu/" ++ observation.gpuId

def linkId (observation : HardwareObservation) : String :=
  observation.nodeId ++ "->" ++ observation.peerNodeId

def source (observation : HardwareObservation) : SourceRef :=
  observation.sourceRef.getD ⟨"dcgm", observation.resourceId, "", ""⟩

def key (observation : HardwareObservation) (suffix : String) : String :=
  if observation.observationId = "" then ""
  else "dcgm:" ++ observation.observationId ++ ":" ++ suffix

def nodeEntity (nodeRef nodeId : String) : Except Exception GraphEntity :=
  GraphEntity.make nodeRef .deployment "node" "" "" [("node_id", nodeId)]

def resourceEntity (observation : HardwareObservation) (nodeRef resourceRef : String) :
    Except Exception GraphEntity := do
  let lifecycle := if observation.nodeHealth = some "unhealthy" then "degraded" else "healthy"
  let entity ← GraphEntity.make resourceRef .deployment "resource" lifecycle ""
    [("kind", "gpu"), ("gpu_id", observation.gpuId)]
  return { entity with parentRef := nodeRef }

def linkEntity (nodeRef peerRef linkRef : String) : Except Exception GraphEntity :=
  GraphEntity.make linkRef .deployment "link" "active" "" [("source", nodeRef), ("target", peerRef)]

def relation (observation : HardwareObservation) (sourceRef relationType targetRef : String)
    (attributes : List (String × Value)) (suffix : String) : RelationUpdate where
  sourceRef := sourceRef
  relationType := relationType
  targetRef := targetRef
  producer := dcgmAdapter.componentId
  timestamp := observation.observedAt
  authority := .directTelemetry
  attributes := sourceAttributes observation.source ++ attributes
  idempotencyKey := observation.key suffix

def update (observation : HardwareObservation) (entityRef key : String) (value : Value) :
    StateUpdate where
  entityRef := entityRef
  key := key
  value := value
  producer := dcgmAdapter.componentId
  timestamp := observation.observedAt
  authority := .directTelemetry
  sourceRef := some observation.source
  idempotencyKey := observation.key key

/-- The present values of an observation. The bandwidth belongs to the link. -/
def updates (observation : HardwareObservation) (nodeRef resourceRef : String) :
    List StateUpdate :=
  ([(resourceRef, "resource.hbm.used", observation.hbmUsedBytes.map Value.int),
    (resourceRef, "resource.hbm.reserved", observation.hbmReservedBytes.map Value.int),
    (resourceRef, "resource.gpu.util", observation.gpuUtilRatio.map Floating.value),
    (nodeRef, "node.health", observation.nodeHealth.map Value.str)] :
    List (String × String × Option Value)).filterMap
      fun entry => entry.2.2.map (observation.update entry.1 entry.2.1)

/-- The bandwidth is derived from the counters. -/
def linkUpdate (observation : HardwareObservation) (linkRef : String) (bandwidth : Floating) :
    StateUpdate :=
  { observation.update linkRef "link.effective_bw" bandwidth.value with
    authority := .derived, semantic := .derived }

end HardwareObservation

section Publish
variable (config : PlaneConfig) (now : Int) (observation : HardwareObservation)

/-- A peer and a bandwidth together describe a link. -/
def projectLink (nodeRef : String) :
    EStateM Exception World (List StateUpdate × List RelationUpdate) := do
  match observation.effectiveBandwidthBytesPerSecond with
  | none => return ([], [])
  | some bandwidth =>
      if observation.peerNodeId = "" then return ([], [])
      let peerRef ← lift (Adapters.nodeRef observation.peerNodeId)
      let linkRef ← lift (linkRef observation.linkId)
      onPlane do
        ensureEntity config now
          (← lift (HardwareObservation.nodeEntity peerRef observation.peerNodeId))
      onPlane do
        upsertEntity config now (← lift (HardwareObservation.linkEntity nodeRef peerRef linkRef))
      onBindings (bind peerRef [("node_id", observation.peerNodeId)])
      onBindings (bind linkRef [("link_id", observation.linkId)])
      return ([observation.linkUpdate linkRef bandwidth],
        [observation.relation nodeRef "connected_to" peerRef [("link_ref", .str linkRef)]
          "node_connected_to_peer"])

/-- `publish` projects a processor on its node and the link to a peer. -/
def publishHardware : EStateM Exception World AdapterPublishReport := do
  let nodeRef ← lift (Adapters.nodeRef observation.nodeId)
  let resourceRef ← lift (resourceRef observation.resourceId)
  onPlane do
    ensureEntity config now (← lift (HardwareObservation.nodeEntity nodeRef observation.nodeId))
  onPlane do upsertEntity config now (← lift (observation.resourceEntity nodeRef resourceRef))
  onBindings (bind nodeRef [("node_id", observation.nodeId)])
  onBindings (bind resourceRef
    [("resource_id", observation.resourceId), ("gpu_id", observation.gpuId)])
  let contained := observation.relation nodeRef "contains" resourceRef [] "node_contains_gpu"
  let (linkUpdates, linked) ← projectLink config now observation nodeRef
  let stateResults ← onPlane
    (publishState config (observation.updates nodeRef resourceRef ++ linkUpdates))
  let relationResults ← onPlane (upsertRelations config (contained :: linked))
  onPlane (heartbeat (adapterHeartbeat dcgmAdapter.componentId observation.watermark
    observation.observedAt))
  return ⟨stateResults, relationResults⟩

end Publish

end StateFlow.Adapters
