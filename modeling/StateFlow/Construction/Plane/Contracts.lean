import StateFlow.Library.Mapping
import StateFlow.Library.Value

namespace StateFlow.Plane
open Python Table

/-- A larger authority takes precedence. -/
inductive SourceAuthority where
  | logHint | derived | directTelemetry | structuredLifecycle | authoritativeDomain
  deriving DecidableEq, Repr

def SourceAuthority.rank : SourceAuthority → Nat
  | logHint => 0
  | derived => 1
  | directTelemetry => 2
  | structuredLifecycle => 3
  | authoritativeDomain => 4

inductive StateSemantic where
  | observed | derived | reserved | committed
  deriving DecidableEq, Repr

inductive GraphKind where
  | component | deployment
  deriving DecidableEq, Repr

def GraphKind.value : GraphKind → String
  | component => "component"
  | deployment => "deployment"

def componentEntityTypes : List String :=
  ["component", "agent", "session", "task", "request", "tool_call", "stateful_object",
    "runtime_object", "state_key_catalog"]

def deploymentEntityTypes : List String := ["cluster", "node", "instance", "resource", "link"]

def GraphKind.entityTypes : GraphKind → List String
  | component => componentEntityTypes
  | deployment => deploymentEntityTypes

/-- The prefix of every reference of a type. -/
def GraphKind.refPrefix (graph : GraphKind) (entityType : String) : String :=
  graph.value ++ "/" ++ entityType ++ "/"

structure SourceRef where
  backend : String
  reference : String
  traceId : String := ""
  spanId : String := ""
  deriving DecidableEq, Repr

structure CorrelationIdentity where
  traceId : String := ""
  spanId : String := ""
  agentId : String := ""
  sessionId : String := ""
  requestId : String := ""
  actionId : String := ""
  componentId : String := ""
  instanceId : String := ""
  deriving DecidableEq, Repr

/-- The definition of a canonical key. -/
structure CanonicalKey where
  key : String
  entityTypes : List String
  valueType : String
  unit : String := ""
  semantic : StateSemantic := .observed
  sourcePriority : List SourceAuthority := []
  ttl : Option Int := none
  deprecated : Bool := false
  aliases : List String := []

structure ComponentDescriptor where
  componentId : String
  kind : String
  implementation : String := ""
  version : String := ""
  schemaVersions : List String := ["1.1"]
  producesState : List String := []
  consumesState : List String := []
  producesMetrics : List String := []
  consumesMetrics : List String := []
  managesTypes : List String := []
  relationCapabilities : List String := []
  updateMode : String := "event"
  endpoint : String := ""
  deriving DecidableEq, Repr

/-- An entity type belongs to its graph and the reference of an entity names both. -/
structure GraphEntity where
  ref : String
  graph : GraphKind
  entityType : String
  lifecycle : String := ""
  ownerComponentRef : String := ""
  parentRef : String := ""
  labels : Mapping String String := ∅
  schemaVersion : String := "1.1"
  typeAllowed : entityType ∈ graph.entityTypes
  refNamed : ref.startsWith (graph.refPrefix entityType) ∧
    ref.length ≠ (graph.refPrefix entityType).length
  deriving DecidableEq

theorem component_allowed : "component" ∈ GraphKind.component.entityTypes := by decide

theorem statefulObject_allowed : "stateful_object" ∈ GraphKind.component.entityTypes := by decide

/-- The constructor of an entity rejects a malformed one. -/
def GraphEntity.make (ref : String) (graph : GraphKind) (entityType : String)
    (lifecycle : String) (ownerComponentRef : String) (labels : List (String × String)) :
    Except Exception GraphEntity :=
  if typeAllowed : entityType ∈ graph.entityTypes then
    if refNamed : ref.startsWith (graph.refPrefix entityType) ∧
        ref.length ≠ (graph.refPrefix entityType).length then
      .ok { ref, graph, entityType, lifecycle, ownerComponentRef, labels := .ofList labels,
            typeAllowed, refNamed }
    else .error .valueError
  else .error .valueError

/-- The wall clock of a timestamp runs ahead of the instant by its zone, in microseconds. -/
structure RelationUpdate where
  sourceRef : String
  relationType : String
  targetRef : String
  producer : String
  timestamp : Int
  zone : Int := 0
  authority : SourceAuthority := .structuredLifecycle
  attributes : List (String × Value) := []
  ttl : Option Int := none
  version : Int := 0
  expectedVersion : Option Int := none
  idempotencyKey : String := ""

structure GraphRelation where
  sourceRef : String
  relationType : String
  targetRef : String
  producer : String
  timestamp : Int
  zone : Int
  authority : SourceAuthority
  attributes : List (String × Value)
  ttl : Option Int
  version : Int

/-- The sum of a timestamp and a lifetime has to exist on the wall clock of the timestamp. -/
def expiry (timestamp zone ttl : Int) : Except Exception Int := do
  return (← addDuration (timestamp + zone) ttl) - zone

/-- A relation expires at an instant that has to exist. -/
def GraphRelation.isFresh (relation : GraphRelation) (now : Int) : Except Exception Bool :=
  match relation.ttl with
  | none => .ok true
  | some ttl => do return decide (now ≤ (← expiry relation.timestamp relation.zone ttl))

structure StateUpdate where
  entityRef : String
  key : String
  value : Value
  producer : String
  timestamp : Int
  ttl : Option Int := none
  authority : SourceAuthority := .directTelemetry
  version : Int := 0
  semantic : StateSemantic := .observed
  confidence : ℚ := 1
  sourceRef : Option SourceRef := none
  correlation : CorrelationIdentity := {}
  expectedVersion : Option Int := none
  idempotencyKey : String := ""

structure StateValue where
  entityRef : String
  key : String
  value : Value
  producer : String
  timestamp : Int
  ttl : Option Int
  authority : SourceAuthority
  version : Int
  semantic : StateSemantic
  confidence : ℚ
  sourceRef : Option SourceRef
  correlation : CorrelationIdentity

def StateValue.age (value : StateValue) (now : Int) : Int := max 0 (now - value.timestamp)

/-- The shorter one of the lifetime and the requested age limits a value. -/
def StateValue.isFresh (value : StateValue) (now : Int) (maxAge : Option Int) : Bool :=
  let limit := match maxAge, value.ttl with
    | some age, some ttl => some (if age < ttl then age else ttl)
    | some age, none => some age
    | none, ttl => ttl
  limit.all fun limit => decide (value.age now ≤ limit)

structure WriteResult where
  accepted : Bool
  duplicate : Bool := false
  conflict : Bool := false
  entityRef : String := ""
  key : String := ""
  version : Int := 0
  reason : String := ""
  deriving DecidableEq, Repr

structure Heartbeat where
  subjectRef : String
  producer : String
  sourceWatermark : String := ""
  schemaVersion : String := "1.1"
  timestamp : Int
  zone : Int := 0
  ttl : Int := 10000000

/-- An adapter is stale after the lifetime of its heartbeat. -/
def Heartbeat.isStale (beat : Heartbeat) (now : Int) : Except Exception Bool := do
  return decide ((← expiry beat.timestamp beat.zone beat.ttl) < now)

structure MetricSample where
  entityRef : String
  metricKey : String
  value : Value
  unit : String
  producer : String
  timestamp : Int
  labels : List (String × String) := []
  correlation : CorrelationIdentity := {}

structure StateEvent where
  eventId : String
  eventType : String
  subjectRef : String
  producer : String
  timestamp : Int
  correlation : CorrelationIdentity := {}
  payload : List (String × Value) := []
  sourceRef : Option SourceRef := none

structure StateChange where
  cursor : Nat
  kind : String
  subjectRef : String
  keyOrRelation : String
  version : Int
  timestamp : Int

structure SnapshotRequest where
  entities : List String
  keys : List String
  maxAgeMs : List (String × Int) := []
  minAuthority : SourceAuthority := .logHint
  includeRelations : Bool := true

/-- A snapshot freezes the selected values at one instant. -/
structure Snapshot where
  token : String
  logicalTime : Nat
  createdAt : Int
  completeness : ℚ
  values : List StateValue
  relations : List GraphRelation := []
  missing : List String := []
  stale : List String := []

end StateFlow.Plane
