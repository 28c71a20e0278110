import StateFlow.Construction.Adapters.Identity
import StateFlow.Construction.Plane.Wire

namespace StateFlow.Adapters
open Python Table Calendar Effect Plane

/-- The subset of a plane that the adapters write to and ask. -/
structure AdapterStatePlane where
  listComponents : PlaneAction (List ComponentDescriptor)
  registerComponent : ComponentDescriptor → PlaneAction Unit
  upsertEntity : GraphEntity → PlaneAction Unit
  getEntity : String → PlaneAction (Option GraphEntity)
  publishState : List StateUpdate → PlaneAction (List WriteResult)
  upsertRelations : List RelationUpdate → PlaneAction (List WriteResult)
  heartbeat : Heartbeat → PlaneAction Unit

/-- Components are listed by their identifiers. -/
def listComponents (plane : InMemoryStatePlane) : List ComponentDescriptor :=
  (plane.components.map Prod.snd).mergeSort fun first second =>
    decide (first.componentId ≤ second.componentId)

/-- This is a plane in the process of the adapter. -/
def inProcess (config : PlaneConfig) (now : Int) : AdapterStatePlane where
  listComponents := do return listComponents (← get)
  registerComponent := Plane.registerComponent
  upsertEntity := Plane.upsertEntity config now
  getEntity ref := do return (← get).entities.lookup ref
  publishState := Plane.publishState config
  upsertRelations := Plane.upsertRelations config
  heartbeat := Plane.heartbeat

def jsonTexts (items : List String) : Value := .list (items.map .str)

/-- `to_jsonable` of a component -/
def encodeComponent (descriptor : ComponentDescriptor) : List (String × Value) :=
  [("component_id", .str descriptor.componentId), ("kind", .str descriptor.kind),
    ("implementation", .str descriptor.implementation), ("version", .str descriptor.version),
    ("schema_versions", jsonTexts descriptor.schemaVersions),
    ("produces_state", jsonTexts descriptor.producesState),
    ("consumes_state", jsonTexts descriptor.consumesState),
    ("produces_metrics", jsonTexts descriptor.producesMetrics),
    ("consumes_metrics", jsonTexts descriptor.consumesMetrics),
    ("manages_types", jsonTexts descriptor.managesTypes),
    ("relation_capabilities", jsonTexts descriptor.relationCapabilities),
    ("update_mode", .str descriptor.updateMode), ("endpoint", .str descriptor.endpoint)]

/-- `to_jsonable` of an entity -/
def encodeEntity (entity : GraphEntity) : List (String × Value) :=
  [("ref", .str entity.ref), ("graph", .str entity.graph.value),
    ("entity_type", .str entity.entityType), ("lifecycle", .str entity.lifecycle),
    ("owner_component_ref", .str entity.ownerComponentRef), ("parent_ref", .str entity.parentRef),
    ("labels", .dict (entity.labels.entries.map fun label => (label.1, .str label.2))),
    ("schema_version", .str entity.schemaVersion)]

/-- `to_jsonable` of a write result -/
def encodeResult (result : WriteResult) : List (String × Value) :=
  [("accepted", .bool result.accepted), ("duplicate", .bool result.duplicate),
    ("conflict", .bool result.conflict), ("entity_ref", .str result.entityRef),
    ("key", .str result.key), ("version", .int result.version), ("reason", .str result.reason)]

/-- An answer of the server has a status and a JSON object. -/
structure StatePlaneAPIResponse where
  statusCode : Nat
  payload : List (String × Value)

/-- A batch with a rejected item is a conflict. -/
def writeResponse (results : List WriteResult) : StatePlaneAPIResponse :=
  let accepted := results.countP WriteResult.accepted
  ⟨if accepted = results.length then 200 else 409,
    [("accepted", .int accepted), ("rejected", .int (results.length - accepted)),
      ("results", .list (results.map fun result => .dict (encodeResult result)))]⟩

def objectOf (failure : Exception) : Value → Except Exception (List (String × Value))
  | .dict entries => .ok entries
  | _ => .error failure

/-- `_batch` takes the body itself as its only item when it has no list. -/
def batch (body : List (String × Value)) (key : String) :
    Except Exception (List (List (String × Value))) :=
  match jsonGet body key with
  | .none => .ok [body]
  | .list [] | .tuple [] => .error .valueError
  | .list items | .tuple items => items.mapM (objectOf .valueError)
  | _ => .error .valueError

section Decode
variable (text : Text)

/-- `_strings` also splits one text at its commas. -/
def stringsOf : Value → Except Exception (List String)
  | .none => .ok []
  | .str value => .ok (((value.splitOn ",").map strip).filter fun item => item ≠ "")
  | .list items | .tuple items | .set items => .ok (items.map text.str)
  | _ => .error .valueError

/-- `_component_descriptor` -/
def decodeDescriptor (json : List (String × Value)) : Except Exception ComponentDescriptor := do
  let componentId := jsonText text json "component_id" ""
  let kind := jsonText text json "kind" ""
  if componentId = "" || kind = "" then throw .valueError
  let strings := fun key (default : List Value) => stringsOf text (getD json key (.tuple default))
  return {
    componentId, kind
    implementation := jsonText text json "implementation" ""
    version := jsonText text json "version" ""
    schemaVersions := ← strings "schema_versions" [.str "1.1"]
    producesState := ← strings "produces_state" []
    consumesState := ← strings "consumes_state" []
    producesMetrics := ← strings "produces_metrics" []
    consumesMetrics := ← strings "consumes_metrics" []
    managesTypes := ← strings "manages_types" []
    relationCapabilities := ← strings "relation_capabilities" []
    updateMode := jsonText text json "update_mode" "event"
    endpoint := jsonText text json "endpoint" "" }

def graphKindOf : String → Except Exception GraphKind
  | "component" => .ok .component
  | "deployment" => .ok .deployment
  | _ => .error .valueError

/-- The server and the client build an entity from the same fields. -/
def entityOf (json : List (String × Value)) (ref : String) (graph : GraphKind) (entityType : String)
    (labels : List (String × String)) : Except Exception GraphEntity := do
  let entity ← GraphEntity.make ref graph entityType (jsonText text json "lifecycle" "")
    (jsonText text json "owner_component_ref" "") labels
  return { entity with
    parentRef := jsonText text json "parent_ref" ""
    schemaVersion := jsonText text json "schema_version" "1.1" }

def stringLabels (entries : List (String × Value)) : List (String × String) :=
  entries.map fun entry => (entry.1, text.str entry.2)

/-- `_graph_entity` -/
def decodeGraphEntity (json : List (String × Value)) : Except Exception GraphEntity := do
  let ref ← requiredText text json "ref"
  let graph ← graphKindOf (← requiredText text json "graph")
  let entityType ← requiredText text json "entity_type"
  entityOf text json ref graph entityType (stringLabels text (← mappingOf (jsonGet json "labels")))

/-- `decode_entity` -/
def decodeEntity (json : List (String × Value)) : Except Exception GraphEntity := do
  let graph ← graphKindOf (jsonText text json "graph" "")
  let labels := match jsonGet json "labels" with
    | .dict entries => stringLabels text entries
    | _ => []
  entityOf text json (jsonText text json "ref" "") graph (jsonText text json "entity_type" "") labels

/-- The client reads a list of texts or nothing. -/
def textsOf : Value → List String
  | .list items => items.map text.str
  | _ => []

/-- `decode_component` -/
def decodeComponent (json : List (String × Value)) : ComponentDescriptor where
  componentId := jsonText text json "component_id" ""
  kind := jsonText text json "kind" ""
  implementation := jsonText text json "implementation" ""
  version := jsonText text json "version" ""
  schemaVersions := textsOf text (jsonGet json "schema_versions")
  producesState := textsOf text (jsonGet json "produces_state")
  consumesState := textsOf text (jsonGet json "consumes_state")
  producesMetrics := textsOf text (jsonGet json "produces_metrics")
  consumesMetrics := textsOf text (jsonGet json "consumes_metrics")
  managesTypes := textsOf text (jsonGet json "manages_types")
  relationCapabilities := textsOf text (jsonGet json "relation_capabilities")
  updateMode := jsonText text json "update_mode" "event"
  endpoint := jsonText text json "endpoint" ""

/-- `decode_objects` rejects an answer without a list of objects. -/
def decodeObjects : Value → Except Exception (List (List (String × Value)))
  | .list items => items.mapM (objectOf .statePlaneHttpError)
  | _ => .error .statePlaneHttpError

/-- One item of `decode_write_results` -/
def decodeResult (json : List (String × Value)) : Except Exception WriteResult := do
  let flag := fun key => (getD json key (.bool false)).truthy
  return {
    accepted := flag "accepted", duplicate := flag "duplicate", conflict := flag "conflict"
    entityRef := jsonText text json "entity_ref" "", key := jsonText text json "key" ""
    version := ← text.int (getD json "version" (.int 0)), reason := jsonText text json "reason" "" }

def decodeWriteResults (payload : List (String × Value)) : Except Exception (List WriteResult) := do
  (← decodeObjects (jsonGet payload "results")).mapM (decodeResult text)

end Decode

section Api
variable (text : Text) (config : PlaneConfig) (now : Int) (arrival : DateTime)

/-- The answer to `GET /components` -/
def getComponents : PlaneAction StatePlaneAPIResponse := do
  let components := listComponents (← get)
  return ⟨200, [("components", .list (components.map fun component => .dict (encodeComponent component)))]⟩

/-- The answer to `POST /components/register` -/
def postComponent (body : List (String × Value)) : PlaneAction StatePlaneAPIResponse := do
  let descriptor ← lift (decodeDescriptor text body)
  registerComponent descriptor
  return ⟨201, [("component", .dict (encodeComponent descriptor))]⟩

/-- The answer to `POST /entities/upsert` -/
def postEntities (body : List (String × Value)) : PlaneAction StatePlaneAPIResponse := do
  let items ← lift (batch body "entities")
  let entities ← lift (items.mapM (decodeGraphEntity text))
  entities.forM (upsertEntity config now)
  return ⟨200, [("accepted", .int entities.length),
    ("entities", .list (entities.map fun entity => .dict (encodeEntity entity)))]⟩

/-- The answer to `POST /state/publish` -/
def postState (body : List (String × Value)) : PlaneAction StatePlaneAPIResponse := do
  let items ← lift (batch body "updates")
  let updates ← lift (items.mapM (decodeStateUpdate text arrival))
  return writeResponse (← publishState config (updates.map Prod.fst))

/-- The answer to `POST /relations/upsert` -/
def postRelations (body : List (String × Value)) : PlaneAction StatePlaneAPIResponse := do
  let items ← lift (batch body "relations")
  let updates ← lift (items.mapM (decodeRelationUpdate text arrival))
  return writeResponse (← upsertRelations config (updates.map Prod.fst))

/-- The answer to `POST /heartbeat` -/
def postHeartbeat (body : List (String × Value)) : PlaneAction StatePlaneAPIResponse := do
  let (beat, shown) ← lift (decodeHeartbeat text arrival body)
  heartbeat beat
  return ⟨200, [("heartbeat", .dict (encodeHeartbeat beat shown))]⟩

/-- The answer to `POST /graph/query` of depth zero, which finds its roots and no relation. -/
def postGraph (body : List (String × Value)) : PlaneAction StatePlaneAPIResponse := do
  let roots := (← lift ((jsonGet body "roots").orElse (.tuple [])).iter).map text.str
  if roots = [] then throw .valueError
  let visited := roots.dedup.mergeSort fun first second => decide (first ≤ second)
  let plane ← get
  let entities := visited.filterMap fun ref => plane.entities.lookup ref
  return ⟨200, [("snapshot_token", .str ""),
    ("entities", .list (entities.map fun entity => .dict (encodeEntity entity))),
    ("relations", .list [])]⟩

end Api

/-- The server answers an exception with a status. -/
def failureResponse : Exception → StatePlaneAPIResponse
  | .valueError => ⟨400, [("error", .dict [("type", .str "invalid_request")])]⟩
  | .keyError => ⟨404, [("error", .dict [("type", .str "not_found")])]⟩
  | _ => ⟨500, [("error", .dict [("type", .str "internal_error")])]⟩

/-- The server answers every request. -/
def serve (handler : PlaneAction StatePlaneAPIResponse) : PlaneAction StatePlaneAPIResponse :=
  fun plane =>
    match handler plane with
    | .ok response last => .ok response last
    | .error exception last => .ok (failureResponse exception) last

/-- `_request` raises a `StatePlaneHTTPError` for a status that the caller does not accept. -/
def request (accepted : List Nat) (handler : PlaneAction StatePlaneAPIResponse) :
    PlaneAction (List (String × Value)) := do
  let response ← serve handler
  if response.statusCode ∈ accepted then return response.payload
  else throw .statePlaneHttpError

section Client
variable (text : Text) (other : Value → Value) (config : PlaneConfig) (now : Int)
variable (arrival shown : DateTime)

/-- `StatePlaneHTTPClient` encodes each call as a request. The clock of the observation shows the
timestamp of every record. -/
def httpClient : AdapterStatePlane where
  listComponents := do
    let payload ← request [200, 201] getComponents
    return (← lift (decodeObjects (jsonGet payload "components"))).map (decodeComponent text)
  registerComponent descriptor := do
    let _ ← request [200, 201] (postComponent text (encodeComponent descriptor))
  upsertEntity entity := do
    let _ ← request [200, 201]
      (postEntities text config now [("entities", .list [.dict (encodeEntity entity)])])
  getEntity ref := do
    let payload ← request [200, 201]
      (postGraph text [("roots", .list [.str ref]), ("depth", .int 0)])
    match ← lift (decodeObjects (jsonGet payload "entities")) with
    | [] => return none
    | first :: _ => return some (← lift (decodeEntity text first))
  publishState updates := do
    let items := updates.map fun update => .dict (encodeStateUpdate other update shown)
    let payload ← request [200, 409] (postState text config arrival [("updates", .list items)])
    lift (decodeWriteResults text payload)
  upsertRelations updates := do
    let items := updates.map fun update => .dict (encodeRelationUpdate other update shown)
    let payload ← request [200, 409]
      (postRelations text config arrival [("relations", .list items)])
    lift (decodeWriteResults text payload)
  heartbeat beat := do
    let _ ← request [200, 201] (postHeartbeat text arrival (encodeHeartbeat beat shown))

end Client

end StateFlow.Adapters
