import StateFlow.Construction.Adapters.Kubernetes

namespace StateFlow.Adapters
open Python Table Effect Plane

def componentRef (componentId : String) : Except Exception String :=
  entityRef .component "component" componentId

def kvRef (kvId : String) : Except Exception String :=
  entityRef .component "stateful_object" kvId

def resourceRef (resourceId : String) : Except Exception String :=
  entityRef .deployment "resource" resourceId

/-- The location of a copy is a resource or a node. -/
structure KVLocation where
  identifier : String
  entityType : String := "resource"
  tier : String := ""
  primary : Bool := false
  typeKnown : entityType ∈ ["resource", "node"] := by decide

/-- The metadata of one cached object. -/
structure KVObservation where
  kvId : String
  observedAt : Int
  requestIds : List String := []
  locations : List KVLocation := []
  sizeBytes : Option Int := none
  replicaCount : Option Int := none
  cacheHit : Option Bool := none
  transferState : Option String := none
  softPin : Option Bool := none
  lifecycle : String := "active"
  traceId : String := ""
  watermark : String := ""
  observationId : String := ""
  sourceRef : Option SourceRef := none

/-- The component of the adapter. -/
def kvAdapter : ComponentDescriptor where
  componentId := "stateflow-kv-adapter"
  kind := "kv_adapter"
  implementation := "kv-manager"
  version := "0.3"
  producesState := ["kv.location", "kv.size", "kv.replica_count", "kv.cache_hit",
    "kv.transfer_state", "kv.soft_pin"]
  managesTypes := ["stateful_object"]
  relationCapabilities := ["located_on", "uses"]

namespace KVObservation

def source (observation : KVObservation) : SourceRef :=
  observation.sourceRef.getD ⟨"kv", observation.kvId, "", ""⟩

def key (observation : KVObservation) (suffix : String) : String :=
  if observation.observationId = "" then "" else "kv:" ++ observation.observationId ++ ":" ++ suffix

def relation (observation : KVObservation) (sourceRef relationType targetRef : String)
    (attributes : List (String × Value)) (suffix : String) : RelationUpdate where
  sourceRef := sourceRef
  relationType := relationType
  targetRef := targetRef
  producer := kvAdapter.componentId
  timestamp := observation.observedAt
  authority := .authoritativeDomain
  attributes := attributes
  idempotencyKey := observation.key suffix

def update (observation : KVObservation) (entityRef key : String) (value : Value)
    (requestId suffix : String) : StateUpdate where
  entityRef := entityRef
  key := key
  value := value
  producer := kvAdapter.componentId
  timestamp := observation.observedAt
  authority := .authoritativeDomain
  sourceRef := some observation.source
  correlation := { traceId := observation.traceId, requestId := requestId,
                   componentId := kvAdapter.componentId }
  idempotencyKey := observation.key suffix

/-- Only a single request identifies the values of an object. -/
def onlyRequest (observation : KVObservation) : String :=
  match observation.requestIds with
  | [requestId] => requestId
  | _ => ""

/-- An unreported replica count is the number of the locations. -/
def replicas (observation : KVObservation) : Option Int :=
  match observation.replicaCount with
  | some count => some count
  | none =>
      if observation.locations = [] then none else some (observation.locations.length : Int)

/-- The present values of an observation under their canonical keys. -/
def stateValues (observation : KVObservation) (location : Option String) :
    List (String × Value) :=
  ([("kv.location", location.map Value.str),
    ("kv.size", observation.sizeBytes.map Value.int),
    ("kv.replica_count", observation.replicas.map Value.int),
    ("kv.transfer_state", observation.transferState.map Value.str),
    ("kv.soft_pin", observation.softPin.map Value.bool)] : List (String × Option Value)).filterMap
      fun entry => entry.2.map fun value => (entry.1, value)

/-- The first primary location, or else the first location. -/
def primaryLocation (observation : KVObservation) (locationRefs : List String) : Option String :=
  match (locationRefs.zip observation.locations).find? fun entry => entry.2.primary with
  | some entry => some entry.1
  | none => locationRefs.head?

end KVObservation

section Publish
variable (config : PlaneConfig) (now : Int) (observation : KVObservation)

def locationEntity (locationRef : String) (location : KVLocation) : Except Exception GraphEntity :=
  GraphEntity.make locationRef .deployment location.entityType "" ""
    (if location.tier = "" then [] else [("tier", location.tier)])

def locationAttributes (observation : KVObservation) (location : KVLocation) :
    List (String × Value) :=
  sourceAttributes observation.source
    ++ (if location.tier = "" then [] else [("tier", .str location.tier)])
    ++ [("primary", .str (if location.primary then "true" else "false"))]

/-- A node is bound under its identifier. A resource is not. -/
def resolveLocation (location : KVLocation) : EStateM Exception World String := do
  if location.entityType = "resource" then
    lift (resourceRef location.identifier)
  else
    let ref ← lift (nodeRef location.identifier)
    onBindings (bind ref [("node_id", location.identifier)])
    return ref

/-- The object is located on each of its locations. -/
def relateLocation (kvRef : String) (location : KVLocation) :
    EStateM Exception World (String × RelationUpdate) := do
  let ref ← resolveLocation location
  onPlane do ensureEntity config now (← lift (locationEntity ref location))
  return (ref, observation.relation kvRef "located_on" ref (locationAttributes observation location)
    ("located_on:" ++ ref))

/-- Each named request uses the object. -/
def relateUse (kvRef requestId : String) : EStateM Exception World RelationUpdate := do
  let ref ← lift (requestRef requestId)
  onPlane do ensureEntity config now (← lift (GraphEntity.make ref .component "request" "active" "" []))
  onBindings (bind ref [("request_id", requestId), ("trace_id", observation.traceId)])
  return observation.relation ref "uses" kvRef (sourceAttributes observation.source)
    ("request_uses:" ++ requestId)

/-- A cache hit is a value of each request. -/
def cacheUpdates (observation : KVObservation) : Except Exception (List StateUpdate) :=
  match observation.cacheHit with
  | some hit => observation.requestIds.mapM fun requestId => do
      let ref ← requestRef requestId
      return observation.update ref "kv.cache_hit" (.bool hit) requestId ("cache_hit:" ++ requestId)
  | none => .ok []

def kvUpdates (observation : KVObservation) (kvRef : String) (locationRefs : List String) :
    Except Exception (List StateUpdate) := do
  let values := observation.stateValues (observation.primaryLocation locationRefs)
  let own := values.map fun entry =>
    observation.update kvRef entry.1 entry.2 observation.onlyRequest entry.1
  return own ++ (← cacheUpdates observation)

def kvEntity (observation : KVObservation) (kvRef ownerRef : String) :
    Except Exception GraphEntity :=
  GraphEntity.make kvRef .component "stateful_object" observation.lifecycle ownerRef
    [("kind", "kv_cache")]

/-- `publish` projects a cached object, its locations, and its requests. -/
def publishKv : EStateM Exception World AdapterPublishReport := do
  let kvRef ← lift (kvRef observation.kvId)
  let ownerRef ← lift (componentRef kvAdapter.componentId)
  onPlane do upsertEntity config now (← lift (kvEntity observation kvRef ownerRef))
  onBindings (bind kvRef [("kv_id", observation.kvId), ("trace_id", observation.traceId)])
  let located ← observation.locations.mapM (relateLocation config now observation kvRef)
  let used ← observation.requestIds.mapM (relateUse config now observation kvRef)
  let updates ← lift (kvUpdates observation kvRef (located.map Prod.fst))
  let stateResults ← onPlane (publishState config updates)
  let relationResults ← onPlane (upsertRelations config (located.map Prod.snd ++ used))
  onPlane (heartbeat (adapterHeartbeat kvAdapter.componentId observation.watermark
    observation.observedAt))
  return ⟨stateResults, relationResults⟩

end Publish

end StateFlow.Adapters
