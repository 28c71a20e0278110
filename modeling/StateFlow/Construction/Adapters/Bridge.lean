import StateFlow.Construction.Adapters.Identity
import StateFlow.Construction.Plane.Retention

namespace StateFlow.Adapters
open Python Table Effect Plane

/-- `resolve` answers with the only match of an identity. -/
def resolve (bindings : Bindings) (namespaceName value : String) : Option String :=
  match getD bindings (namespaceName, value) [] with
  | [ref] => some ref
  | _ => none

/-- The reference of a request comes from a binding or from its identifier. -/
def requestRefOf (bindings : Bindings) (requestId : String) : Except Exception String :=
  match resolve bindings "request_id" requestId with
  | some ref => .ok ref
  | none => requestRef requestId

structure MaterializedRequestView where
  requestRef : String
  graph : GraphQueryResult
  snapshot : Snapshot

/-- The keys that a materialization asks for by default. -/
def defaultKeys : List String :=
  ["request.*", "runtime.*", "kv.*", "node.*", "instance.*", "resource.*", "link.*"]

/-- The parts of the tokens that an activity may draw. -/
def drawn : Activity → List String
  | .operate (.getSnapshot _ unique _) => [unique]
  | .getState _ unique _ => [unique]
  | _ => []

/-- A call of `materialize_request`. The plane serves other clients between its three reads, and no
token is drawn twice. -/
structure Materialization where
  requestId : String
  keys : List String := defaultKeys
  depth : Int := 3
  minAuthority : SourceAuthority := .logHint
  now : Int
  unique : String
  between : List Activity := []
  afterwards : List Activity := []
  distinct : (unique :: afterwards.flatMap drawn).Nodup

namespace Materialization

def query (call : Materialization) (ref : String) : GraphQuery where
  roots := [ref]
  depth := call.depth

def request (call : Materialization) (entities : List GraphEntity) : SnapshotRequest where
  entities := entities.map GraphEntity.ref
  keys := call.keys
  minAuthority := call.minAuthority
  includeRelations := true

/-- `materialize_request` finds the entities of a request, takes a snapshot of them, and reads the
graph again through the snapshot. -/
def run (config : PlaneConfig) (bindings : Bindings) (call : Materialization) :
    PlaneAction MaterializedRequestView := do
  let ref ← lift (requestRefOf bindings call.requestId)
  let graph ← queryGraph (call.query ref)
  if graph.entities.isEmpty then throw .keyError
  modify (runActivities config call.between)
  let snapshot ← getSnapshot config call.now call.unique (call.request graph.entities)
  modify (runActivities config call.afterwards)
  let frozen ← queryGraph { call.query ref with snapshot := snapshot.token }
  return ⟨ref, frozen, snapshot⟩

end Materialization

end StateFlow.Adapters
