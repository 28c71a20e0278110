import StateFlow.Construction.Plane.Snapshot

namespace StateFlow.Plane
open Python Table Effect

/-- A plane without arguments knows the default keys. -/
def defaultConfig : PlaneConfig := { registry := defaultKeyRegistry.toOption.getD {} }

/-- One call of a client of the plane. -/
inductive Operation where
  | registerComponent (descriptor : ComponentDescriptor)
  | upsertEntity (now : Int) (entity : GraphEntity)
  | heartbeat (beat : Heartbeat)
  | publishState (updates : List StateUpdate)
  | upsertRelations (updates : List RelationUpdate)
  | publishMetrics (samples : List MetricSample)
  | publishEvents (events : List StateEvent)
  | getSnapshot (now : Int) (unique : String) (request : SnapshotRequest)

/-- A write goes to a state value or to a relation. -/
inductive WriteKey where
  | state (key : EntityStateKey)
  | relation (key : RelationKey)
  deriving DecidableEq

def storedVersion (plane : InMemoryStatePlane) : WriteKey → Option Int
  | .state key => (plane.state.lookup key).map StateValue.version
  | .relation key => (plane.relations.lookup key).map GraphRelation.version

/-- An accepted write with the stored versions before and after it. -/
structure AcceptedWrite where
  key : WriteKey
  expected : Option Int
  version : Int
  before : Option Int
  after : Option Int
  deriving DecidableEq

section Log
variable (config : PlaneConfig)

def logEntry (key : WriteKey) (expected : Option Int) (version : Int)
    (before after : InMemoryStatePlane) : AcceptedWrite :=
  ⟨key, expected, version, storedVersion before key, storedVersion after key⟩

/-- Only an accepted result enters the log. -/
def stateLog (plane : InMemoryStatePlane) (update : StateUpdate) : List AcceptedWrite :=
  match publishOne config update plane with
  | .ok result next =>
      if result.accepted then
        [logEntry (.state (update.entityRef, result.key)) update.expectedVersion update.version
          plane next]
      else []
  | .error _ _ => []

def relationLog (plane : InMemoryStatePlane) (update : RelationUpdate) : List AcceptedWrite :=
  match upsertRelation config update plane with
  | .ok result next =>
      if result.accepted then
        [logEntry (.relation update.relationKey) update.expectedVersion update.version plane next]
      else []
  | .error _ _ => []

/-- A batch stops at its first exception. -/
def batchLog {U : Type} (single : U → PlaneAction WriteResult)
    (log : InMemoryStatePlane → U → List AcceptedWrite) :
    List U → InMemoryStatePlane → List AcceptedWrite
  | [], _ => []
  | update :: rest, plane =>
      log plane update ++ match single update plane with
        | .ok _ next => batchLog single log rest next
        | .error _ _ => []

/-- The plane after a call, also when the call raises. -/
def Operation.apply (plane : InMemoryStatePlane) : Operation → InMemoryStatePlane
  | .registerComponent descriptor => finalState (Plane.registerComponent descriptor plane)
  | .upsertEntity now entity => finalState (Plane.upsertEntity config now entity plane)
  | .heartbeat beat => finalState (Plane.heartbeat beat plane)
  | .publishState updates => finalState (Plane.publishState config updates plane)
  | .upsertRelations updates => finalState (Plane.upsertRelations config updates plane)
  | .publishMetrics samples => finalState (Plane.publishMetrics config samples plane)
  | .publishEvents events => finalState (Plane.publishEvents config events plane)
  | .getSnapshot now unique request => finalState (Plane.getSnapshot config now unique request plane)

/-- The accepted writes of a call in their order. -/
def Operation.log (plane : InMemoryStatePlane) : Operation → List AcceptedWrite
  | .publishState updates => batchLog (publishOne config) (stateLog config) updates plane
  | .upsertRelations updates => batchLog (upsertRelation config) (relationLog config) updates plane
  | _ => []

/-- The accepted writes of a run. -/
def runLog : List Operation → InMemoryStatePlane → List AcceptedWrite
  | [], _ => []
  | operation :: rest, plane =>
      operation.log config plane ++ runLog rest (operation.apply config plane)

end Log

end StateFlow.Plane
