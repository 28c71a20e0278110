import StateFlow.Library.Effect
import StateFlow.Construction.Plane.Registry

namespace StateFlow.Plane
open Python Table Effect

abbrev EntityStateKey := String × String

abbrev RelationKey := String × String × String

/-- The plane holds its tables in insertion order. -/
structure InMemoryStatePlane where
  components : List (String × ComponentDescriptor) := []
  entities : List (String × GraphEntity) := []
  state : List (EntityStateKey × StateValue) := []
  relations : List (RelationKey × GraphRelation) := []
  metrics : List MetricSample := []
  events : List (String × StateEvent) := []
  heartbeats : List (String × Heartbeat) := []
  idempotency : List (String × WriteResult) := []
  snapshots : List (String × Snapshot) := []
  changes : List StateChange := []
  revision : Nat := 0

/-- The registry and the lengths of the logs stay fixed. -/
structure PlaneConfig where
  registry : CanonicalKeyRegistry
  maxSnapshots : Nat := 128
  maxChanges : Nat := 10000
  maxMetrics : Nat := 100000
  maxEvents : Nat := 100000

abbrev PlaneAction (A : Type) := EStateM Exception InMemoryStatePlane A

section Plane
variable (config : PlaneConfig)

/-- A change takes the next revision as its cursor. -/
def recordChange (plane : InMemoryStatePlane) (kind subjectRef keyOrRelation : String)
    (version timestamp : Int) : InMemoryStatePlane :=
  let revision := plane.revision + 1
  let change : StateChange := ⟨revision, kind, subjectRef, keyOrRelation, version, timestamp⟩
  let changes := plane.changes ++ [change]
  { plane with
    revision := revision
    changes := changes.drop (changes.length - config.maxChanges) }

def registerComponent (descriptor : ComponentDescriptor) : PlaneAction Unit := do
  let plane ← get
  match plane.components.lookup descriptor.componentId with
  | some existing => if existing ≠ descriptor then throw .valueError
  | none => pure ()
  set { plane with components := assign descriptor.componentId descriptor plane.components }

/-- An entity keeps its graph. An equal entity changes nothing. -/
def upsertEntity (now : Int) (entity : GraphEntity) : PlaneAction Unit := do
  let plane ← get
  match plane.entities.lookup entity.ref with
  | some previous =>
      if previous.graph ≠ entity.graph then throw .valueError
      if previous = entity then return
  | none => pure ()
  let stored := { plane with entities := assign entity.ref entity plane.entities }
  set (recordChange config stored "entity" entity.ref entity.entityType 1 now)

def heartbeat (beat : Heartbeat) : PlaneAction Unit := do
  let plane ← get
  if (plane.entities.lookup beat.subjectRef).isNone
      && (plane.components.lookup beat.subjectRef).isNone then
    throw .keyError
  set { plane with heartbeats := assign beat.subjectRef beat plane.heartbeats }

/-- The attributes of a stored record that decide about a write. -/
structure Held where
  authority : SourceAuthority
  timestamp : Int
  version : Int
  fresh : Except Exception Bool

def StateValue.held (value : StateValue) (timestamp : Int) : Held :=
  ⟨value.authority, value.timestamp, value.version, .ok (value.isFresh timestamp none)⟩

def GraphRelation.held (relation : GraphRelation) (timestamp : Int) : Held :=
  ⟨relation.authority, relation.timestamp, relation.version, relation.isFresh timestamp⟩

/-- An absent record has version zero. -/
def actualVersion (held : Option Held) : Int := (held.map Held.version).getD 0

/-- An expected version has to match the stored one. -/
def casConflict (held : Option Held) (expectedVersion : Option Int) : Option String :=
  match expectedVersion with
  | some expected =>
      if actualVersion held ≠ expected then
        some ("CAS conflict: expected " ++ toString expected ++ ", got "
          ++ toString (actualVersion held))
      else none
  | none => none

/-- A stored record resists a lower authority, an earlier time, and an old version. -/
def heldConflict (noun : String) (held : Held) (authority : SourceAuthority)
    (timestamp version : Int) : Except Exception (Option String) := do
  if authority.rank < held.authority.rank then
    if ← held.fresh then
      return some ("lower-authority source cannot replace fresh " ++ noun)
  if authority = held.authority && timestamp < held.timestamp then
    return some ("out-of-order " ++ noun ++ " update")
  if version ≠ 0 && version ≤ held.version then
    return some (noun ++ " version must increase")
  return none

def writeConflict (noun : String) (held : Option Held) (expectedVersion : Option Int)
    (authority : SourceAuthority) (timestamp version : Int) :
    Except Exception (Option String) :=
  match casConflict held expectedVersion with
  | some reason => .ok (some reason)
  | none =>
      match held with
      | some held => heldConflict noun held authority timestamp version
      | none => .ok none

/-- A write without a version continues the stored one. -/
def nextVersion (held : Option Held) (version : Int) : Int :=
  if version ≠ 0 then version
  else match held with
    | some held => held.version + 1
    | none => 1

/-- A remembered key answers every later write that carries it. -/
def InMemoryStatePlane.duplicate (plane : InMemoryStatePlane) (idempotencyKey : String) :
    Option WriteResult :=
  if idempotencyKey = "" then none
  else (plane.idempotency.lookup idempotencyKey).map fun previous =>
    { previous with accepted := false, duplicate := true, reason := "duplicate idempotency key" }

def InMemoryStatePlane.remember (plane : InMemoryStatePlane) (idempotencyKey : String)
    (result : WriteResult) : InMemoryStatePlane :=
  if idempotencyKey = "" then plane
  else { plane with idempotency := assign idempotencyKey result plane.idempotency }

def rejected (update : StateUpdate) (reason : String) (conflict : Bool) : WriteResult :=
  { accepted := false, conflict := conflict, entityRef := update.entityRef, key := update.key,
    reason := reason }

def InMemoryStatePlane.heldState (plane : InMemoryStatePlane) (update : StateUpdate)
    (key : String) : Option Held :=
  (plane.state.lookup (update.entityRef, key)).map fun value => value.held update.timestamp

/-- The value that an accepted update stores. -/
def storedValue (update : StateUpdate) (definition : CanonicalKey) (held : Option Held) :
    StateValue where
  entityRef := update.entityRef
  key := definition.key
  value := update.value
  producer := update.producer
  timestamp := update.timestamp
  ttl := match update.ttl with
    | some ttl => some ttl
    | none => definition.ttl
  authority := update.authority
  version := nextVersion held update.version
  semantic := update.semantic
  confidence := max 0 (min 1 update.confidence)
  sourceRef := update.sourceRef
  correlation := update.correlation

/-- An update is answered with a result or accepted with the value to store. -/
def judgeState (plane : InMemoryStatePlane) (update : StateUpdate) :
    Except Exception (Except WriteResult StateValue) := do
  match plane.duplicate update.idempotencyKey with
  | some result => return .error result
  | none =>
    match plane.entities.lookup update.entityRef with
    | none => return .error (rejected update "entity is not registered" false)
    | some entity =>
      match config.registry.resolve update.key with
      | none => return .error (rejected update "canonical key is not registered" false)
      | some definition =>
        if entity.entityType ∉ definition.entityTypes then
          return .error (rejected update
            ("key is invalid for entity type " ++ entity.entityType) false)
        if !validateValue definition update.value then
          return .error (rejected update
            ("value does not match declared type " ++ definition.valueType) false)
        let held := plane.heldState update definition.key
        match ← writeConflict "state" held update.expectedVersion update.authority
            update.timestamp update.version with
        | some reason => return .error (rejected update reason true)
        | none => return .ok (storedValue update definition held)

def acceptedState (value : StateValue) : WriteResult :=
  { accepted := true, entityRef := value.entityRef, key := value.key, version := value.version,
    reason := "accepted" }

/-- An accepted value enters the state, the change log, and the idempotency table. -/
def acceptState (plane : InMemoryStatePlane) (update : StateUpdate) (value : StateValue) :
    InMemoryStatePlane :=
  let stored := { plane with state := assign (value.entityRef, value.key) value plane.state }
  let recorded := recordChange config stored "state" value.entityRef value.key value.version
    value.timestamp
  recorded.remember update.idempotencyKey (acceptedState value)

/-- `_publish_one` checks an update and stores its value. -/
def publishOne (update : StateUpdate) : PlaneAction WriteResult := do
  match ← lift (judgeState config (← get) update) with
  | .error result => return result
  | .ok value =>
      modify fun plane => acceptState config plane update value
      return acceptedState value

def publishState (updates : List StateUpdate) : PlaneAction (List WriteResult) :=
  updates.mapM (publishOne config)

def relationRejected (update : RelationUpdate) (reason : String) (conflict : Bool) : WriteResult :=
  { accepted := false, conflict := conflict, entityRef := update.sourceRef,
    key := update.relationType, reason := reason }

/-- A relation connects types that its graphs declare for it. -/
def relationAllowed (source target : GraphEntity) (relationType : String) : Bool :=
  match source.graph, target.graph with
  | .component, .component =>
      if relationType = "manages" then source.entityType = "component"
      else if relationType ∈ ["parent_of", "depends_on"] then
        source.entityType ∈ ["agent", "session", "task", "request", "tool_call"]
      else if relationType ∈ ["serves", "executes"] then
        source.entityType = "component" && target.entityType ∈ ["request", "tool_call"]
      else if relationType ∈ ["owns", "uses"] then target.entityType = "stateful_object"
      else if relationType = "produces_state" then
        source.entityType = "component" && target.entityType = "state_key_catalog"
      else if relationType = "executing_on" then
        source.entityType ∈ ["request", "tool_call"] && target.entityType = "component"
      else false
  | .deployment, .deployment =>
      if relationType = "contains" then
        source.entityType ∈ ["cluster", "node"]
          && target.entityType ∈ ["node", "instance", "resource"]
      else if relationType = "allocated_to" then
        source.entityType = "instance" && target.entityType = "resource"
      else if relationType = "connected_to" then
        source.entityType ∈ ["node", "resource"] && target.entityType ∈ ["node", "resource"]
      else false
  | .component, .deployment =>
      if relationType = "deployed_on" then
        source.entityType = "component" && target.entityType ∈ ["instance", "node"]
      else if relationType = "executing_on" then
        source.entityType ∈ ["request", "tool_call"] && target.entityType = "instance"
      else if relationType = "located_on" then
        source.entityType = "stateful_object" && target.entityType ∈ ["resource", "node"]
      else false
  | .deployment, .component => false

def RelationUpdate.relationKey (update : RelationUpdate) : RelationKey :=
  (update.sourceRef, update.relationType, update.targetRef)

def InMemoryStatePlane.heldRelation (plane : InMemoryStatePlane) (update : RelationUpdate) :
    Option Held :=
  (plane.relations.lookup update.relationKey).map fun relation => relation.held update.timestamp

def storedRelation (update : RelationUpdate) (held : Option Held) : GraphRelation where
  sourceRef := update.sourceRef
  relationType := update.relationType
  targetRef := update.targetRef
  producer := update.producer
  timestamp := update.timestamp
  zone := update.zone
  authority := update.authority
  attributes := update.attributes
  ttl := update.ttl
  version := nextVersion held update.version

/-- The freshness of a stored relation may raise. -/
def judgeRelation (plane : InMemoryStatePlane) (update : RelationUpdate) :
    Except Exception (Except WriteResult GraphRelation) := do
  match plane.duplicate update.idempotencyKey with
  | some result => return .error result
  | none =>
    match plane.entities.lookup update.sourceRef, plane.entities.lookup update.targetRef with
    | some source, some target =>
        if !relationAllowed source target update.relationType then
          return .error (relationRejected update
            "relation type is not allowed for these graphs" false)
        let held := plane.heldRelation update
        match ← writeConflict "relation" held update.expectedVersion update.authority
            update.timestamp update.version with
        | some reason => return .error (relationRejected update reason true)
        | none => return .ok (storedRelation update held)
    | _, _ => return .error (relationRejected update "relation endpoints must be registered" false)

def acceptedRelation (relation : GraphRelation) : WriteResult :=
  { accepted := true, entityRef := relation.sourceRef, key := relation.relationType,
    version := relation.version, reason := "accepted" }

def acceptRelation (plane : InMemoryStatePlane) (update : RelationUpdate)
    (relation : GraphRelation) : InMemoryStatePlane :=
  let stored := { plane with relations := assign update.relationKey relation plane.relations }
  let recorded := recordChange config stored "relation" update.sourceRef update.relationType
    relation.version relation.timestamp
  recorded.remember update.idempotencyKey (acceptedRelation relation)

/-- `_upsert_relation` checks an update and stores its relation. -/
def upsertRelation (update : RelationUpdate) : PlaneAction WriteResult := do
  match ← lift (judgeRelation (← get) update) with
  | .error result => return result
  | .ok relation =>
      modify fun plane => acceptRelation config plane update relation
      return acceptedRelation relation

def upsertRelations (updates : List RelationUpdate) : PlaneAction (List WriteResult) :=
  updates.mapM (upsertRelation config)

/-- A rejected metric or event names its subject and its key. -/
def unaccepted (entityRef key reason : String) (duplicate : Bool) : WriteResult :=
  { accepted := false, duplicate := duplicate, entityRef := entityRef, key := key,
    reason := reason }

/-- Only the latest items of a bounded log stay. -/
def latest {A : Type} (limit : Nat) (items : List A) : List A := items.drop (items.length - limit)

def acceptMetric (plane : InMemoryStatePlane) (sample : MetricSample) (definition : CanonicalKey)
    (value : ℚ) : InMemoryStatePlane :=
  let normalized := { sample with metricKey := definition.key, value := .float value }
  { plane with metrics := latest (max 1 config.maxMetrics) (plane.metrics ++ [normalized]) }

/-- The value of a metric is an integer or a float. -/
def metricNumber : Value → Option ℚ
  | .int value => some value
  | .float value => some value
  | _ => none

/-- One sample of `publish_metrics`. -/
def publishMetric (sample : MetricSample) : PlaneAction WriteResult := do
  let plane ← get
  match plane.entities.lookup sample.entityRef with
  | none => return unaccepted sample.entityRef sample.metricKey "entity is not registered" false
  | some entity =>
    match config.registry.resolve sample.metricKey with
    | none =>
        return unaccepted sample.entityRef sample.metricKey "canonical key is not registered" false
    | some definition =>
      if entity.entityType ∉ definition.entityTypes then
        return unaccepted sample.entityRef definition.key "metric is invalid for entity type" false
      else
        match metricNumber sample.value with
        | none =>
            return unaccepted sample.entityRef definition.key "metric value must be numeric" false
        | some value =>
            set (acceptMetric config plane sample definition value)
            return { accepted := true, entityRef := sample.entityRef, key := definition.key,
                     version := plane.revision, reason := "accepted" }

def publishMetrics (samples : List MetricSample) : PlaneAction (List WriteResult) :=
  samples.mapM (publishMetric config)

/-- The oldest events leave a full log. -/
def acceptEvent (plane : InMemoryStatePlane) (event : StateEvent) : InMemoryStatePlane :=
  let events := assign event.eventId event plane.events
  let stored := { plane with events := latest (max 1 config.maxEvents) events }
  recordChange config stored "event" event.subjectRef event.eventType 1 event.timestamp

/-- One event of `publish_events`. -/
def publishEvent (event : StateEvent) : PlaneAction WriteResult := do
  let plane ← get
  if (plane.events.lookup event.eventId).isSome then
    return unaccepted event.subjectRef event.eventType "duplicate event_id" true
  else if (plane.entities.lookup event.subjectRef).isNone then
    return unaccepted event.subjectRef event.eventType "subject entity is not registered" false
  else
    let next := acceptEvent config plane event
    set next
    return { accepted := true, entityRef := event.subjectRef, key := event.eventType,
             version := next.revision, reason := "accepted" }

def publishEvents (events : List StateEvent) : PlaneAction (List WriteResult) :=
  events.mapM (publishEvent config)

end Plane

end StateFlow.Plane
