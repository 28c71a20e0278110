import StateFlow.Construction.Adapters.Client
import StateFlow.Construction.Plane.Metrics
import StateFlow.Construction.Plane.Retention

namespace StateFlow.Plane
open Binary64 Python Table Calendar Effect Adapters

/-- The parsed query of a request has some texts for each key. -/
abbrev Query := List (String × List String)

/-- What an answer shows. An answer to a client of the adapters is a JSON object already. -/
inductive Reply where
  | json (payload : List (String × Value))
  | heartbeats (beats : List Heartbeat)
  | definition (definition : CanonicalKey)
  | definitions (definitions : List CanonicalKey)
  | values (values : List StateValue) (snapshotToken : String)
  | snapshot (snapshot : Snapshot)
  | changes (changes : List StateChange) (nextCursor : Int)
  | metrics (response : MetricResponse)
  | freshness (report : FreshnessReport)

structure ApiResponse where
  statusCode : Nat
  reply : Reply

/-- The process supplies the JSON form of a stored relation and the sum of its floats. An answer without a
text raises in `_write` of the HTTP server or in `_response` of the RPC server. -/
structure ApiHost where
  text : Text
  config : PlaneConfig
  shown : GraphRelation → Value
  sum : List Float64 → Float64 := Float64.plainSum
  written : ApiResponse → Except Exception Unit := fun _ => .ok ()
  dumped : ApiResponse → Except Exception Unit := fun _ => .ok ()

/-- What the process generates for one request. -/
structure ApiArrival where
  now : Int
  unique : String
  clock : DateTime

def jsonResponse (response : StatePlaneAPIResponse) : ApiResponse :=
  ⟨response.statusCode, .json response.payload⟩

def jsonAction (action : PlaneAction StatePlaneAPIResponse) : PlaneAction ApiResponse := do
  return jsonResponse (← action)

section Queries
variable (text : Text) (clock : DateTime) (query : Query) (key : String)

/-- `_first` -/
def Query.first : String := ((query.lookup key).bind List.head?).getD ""

/-- `_required_query` -/
def requiredQuery : Except Exception String :=
  let value := Query.first query key
  if value = "" then .error .valueError else .ok value

/-- `_csv_query` splits each text at its commas. -/
def csvQuery : List String :=
  ((query.lookup key).getD []).flatMap fun value =>
    ((value.splitOn ",").map strip).filter fun item => item ≠ ""

/-- `_optional_int` -/
def optionalInt : Except Exception (Option Int) :=
  let value := Query.first query key
  if value = "" then .ok none else do return some (← text.int (.str value))

/-- `_optional_datetime` -/
def optionalDatetime : Except Exception (Option Int) :=
  let value := Query.first query key
  if value = "" then .ok none
  else do return some (← datetimeOf text clock (.str value)).instant

/-- A query without an authority accepts log hints. -/
def queryAuthority : Except Exception SourceAuthority :=
  let value := Query.first query key
  if value = "" then .ok .logHint else authorityOf text (.str value)

end Queries

section Decode
variable (text : Text) (clock : DateTime) (json : List (String × Value))

/-- `_number` rejects a boolean. -/
def numberOf (key : String) : Except Exception ℚ :=
  match json.lookup key with
  | none | some (.bool _) => .error .valueError
  | some value =>
      match text.float value with
      | .error .typeError => .error .valueError
      | number => number

/-- `_metric_sample` -/
def decodeMetricSample : Except Exception MetricSample := do
  let entityRef ← requiredText text json "entity_ref"
  let metricKey ← requiredText text json "metric_key"
  let value ← numberOf text json "value"
  let producer ← requiredText text json "producer"
  let timestamp ← datetimeOf text clock (jsonGet json "timestamp")
  let labels ← mappingOf (jsonGet json "labels")
  let correlation ← correlationOf text (jsonGet json "correlation")
  return {
    entityRef, metricKey, value := .float value, unit := jsonText text json "unit" "", producer
    timestamp := timestamp.instant, labels := stringLabels text labels, correlation }

/-- `_state_event` -/
def decodeStateEvent : Except Exception StateEvent := do
  let eventId ← requiredText text json "event_id"
  let eventType ← requiredText text json "event_type"
  let subjectRef ← requiredText text json "subject_ref"
  let producer ← requiredText text json "producer"
  let timestamp ← datetimeOf text clock (jsonGet json "timestamp")
  let correlation ← correlationOf text (jsonGet json "correlation")
  let payload ← mappingOf (jsonGet json "payload")
  let sourceRef ← sourceRefOf text (jsonGet json "source_ref")
  return {
    eventId, eventType, subjectRef, producer, timestamp := timestamp.instant, correlation, payload
    sourceRef }

/-- `_snapshot_request` -/
def decodeSnapshotRequest : Except Exception SnapshotRequest := do
  let entities ← stringsOf text (getD json "entities" (.tuple []))
  let keys ← stringsOf text (getD json "keys" (.tuple []))
  if entities = [] || keys = [] then throw .valueError
  let ages ← mappingOf (jsonGet json "max_age_ms")
  let maxAgeMs ← ages.mapM fun entry => do return (entry.1, ← text.int entry.2)
  let minAuthority ← authorityOf text (getD json "min_authority" (.int 0))
  return {
    entities, keys, maxAgeMs, minAuthority
    includeRelations := (getD json "include_relations" (.bool true)).truthy }

/-- The texts of a sequence that may be missing. -/
def textsAt (key : String) : Except Exception (List String) := do
  return (← ((jsonGet json key).orElse (.tuple [])).iter).map text.str

/-- The arguments of a graph query -/
def decodeGraphQuery : Except Exception GraphQuery := do
  let roots ← textsAt text json "roots"
  if roots = [] then throw .valueError
  let relationTypes ← textsAt text json "relation_types"
  let depth ← text.int (getD json "depth" (.int 1))
  return { roots, relationTypes, depth, snapshot := jsonText text json "snapshot_token" "" }

end Decode

/-- Components and heartbeats are listed by their references. -/
def listHeartbeats (plane : InMemoryStatePlane) : List Heartbeat :=
  (plane.heartbeats.mergeSort fun first second => decide (first.1 ≤ second.1)).map Prod.snd

/-- The number of a sample, when it has one. -/
def numericOf (sample : MetricSample) : Option NumericSample :=
  match known : floatOf sample.value with
  | some number => if present : number ≠ .nan then some ⟨sample, ⟨number, present⟩, known⟩ else none
  | none => none

section Get
variable (host : ApiHost) (arrival : ApiArrival) (query : Query)

def getHeartbeats : PlaneAction ApiResponse := do
  return ⟨200, .heartbeats (listHeartbeats (← get))⟩

/-- A schema request without a key lists the current definitions. -/
def getSchema : PlaneAction ApiResponse :=
  let key := Query.first query "key"
  if key = "" then return ⟨200, .definitions host.config.registry.list⟩
  else
    match host.config.registry.resolve key with
    | some definition => return ⟨200, .definition definition⟩
    | none => throw .keyError

/-- The arguments of `get_state` -/
def stateQuery : Except Exception StateQuery := do
  let entityRef ← requiredQuery query "entity_ref"
  let keys := csvQuery query "keys"
  if keys = [] then throw .valueError
  let maxAge ← optionalInt host.text query "max_age_ms"
  let minAuthority ← queryAuthority host.text query "min_authority"
  return {
    entityRef, keys, maxAgeMs := (maxAge.map fun age => ("", age)).toList, minAuthority
    snapshot := Query.first query "snapshot_token" }

def getStateValues : PlaneAction ApiResponse := do
  let asked ← lift (stateQuery host query)
  let values ← getState host.config arrival.now arrival.unique asked
  return ⟨200, .values values asked.snapshot⟩

def getKeptSnapshot (token : String) : PlaneAction ApiResponse := do
  if token = "" then throw .valueError
  return ⟨200, .snapshot (← readSnapshot token)⟩

/-- A missing or zero limit is a hundred changes. -/
def getChanges : PlaneAction ApiResponse := do
  let afterCursor := (← lift (optionalInt host.text query "after_cursor")).getD 0
  let limit ← lift (optionalInt host.text query "limit")
  let asked : ChangeQuery := {
    entityPrefix := Query.first query "entity_prefix", keys := csvQuery query "keys"
    limit := if limit.getD 0 = 0 then 100 else limit.getD 0 }
  let changes := (← get).changesAfter asked afterCursor
  return ⟨200, .changes changes (nextCursor afterCursor changes)⟩

def getMetrics : PlaneAction ApiResponse := do
  let entityRefs := csvQuery query "entity_refs"
  let start ← lift (optionalDatetime host.text arrival.clock query "start")
  let stop ← lift (optionalDatetime host.text arrival.clock query "end")
  let samples := queryMetrics (← get) {
    entityRefs := if entityRefs = [] then csvQuery query "entity_ref" else entityRefs
    keys := csvQuery query "keys", start, stop }
  let aggregation := Query.first query "agg"
  let response ← lift (metricResponse host.sum (samples.filterMap numericOf)
    (host.text.lower (if aggregation = "" then "raw" else aggregation)))
  return ⟨200, .metrics response⟩

def getFreshness : PlaneAction ApiResponse := do
  return ⟨200, .freshness (← lift (Plane.freshness (← get) arrival.now))⟩

end Get

section Post
variable (host : ApiHost) (arrival : ApiArrival) (body : List (String × Value))

def postMetrics : PlaneAction StatePlaneAPIResponse := do
  let items ← lift (batch body "samples")
  let samples ← lift (items.mapM (decodeMetricSample host.text arrival.clock))
  return writeResponse (← publishMetrics host.config samples)

def postEvents : PlaneAction StatePlaneAPIResponse := do
  let items ← lift (batch body "events")
  let events ← lift (items.mapM (decodeStateEvent host.text arrival.clock))
  return writeResponse (← publishEvents host.config events)

/-- Two endpoints take a snapshot and answer with different statuses. -/
def postSnapshot (statusCode : Nat) : PlaneAction ApiResponse := do
  let request ← lift (decodeSnapshotRequest host.text body)
  return ⟨statusCode, .snapshot (← getSnapshot host.config arrival.now arrival.unique request)⟩

def postQuery : PlaneAction StatePlaneAPIResponse := do
  let query ← lift (decodeGraphQuery host.text body)
  let result ← queryGraph query
  return ⟨200, [("snapshot_token", .str result.snapshot),
    ("entities", .list (result.entities.map fun entity => .dict (encodeEntity entity))),
    ("relations", .list (result.relations.map host.shown))]⟩

end Post

def apiPrefix : String := "/v1/state-plane"

/-- `handles` -/
def handles (path : String) : Bool :=
  path = apiPrefix || (apiPrefix ++ "/").toList.isPrefixOf path.toList

/-- `_relative` -/
def relativeOf (path : String) : Except Exception String :=
  if handles path then .ok (String.ofList (path.toList.drop apiPrefix.length)) else .error .keyError

section Dispatch
variable (host : ApiHost) (arrival : ApiArrival)

/-- `StatePlaneAPI.get` behind its prefix -/
def getRelative (relative : String) (query : Query) : PlaneAction ApiResponse :=
  if relative = "/components" then jsonAction getComponents
  else if relative = "/heartbeats" then getHeartbeats
  else if relative = "/schema" then getSchema host query
  else if relative = "/state" then getStateValues host arrival query
  else if "/snapshots/".toList.isPrefixOf relative.toList then
    getKeptSnapshot (String.ofList (removePrefix "/snapshots/" relative.toList))
  else if relative = "/changes" then getChanges host query
  else if relative = "/metrics" then getMetrics host arrival query
  else if relative ∈ ["", "/health", "/freshness"] then getFreshness arrival
  else throw .keyError

/-- `StatePlaneAPI.post` behind its prefix -/
def postRelative (relative : String) (body : List (String × Value)) : PlaneAction ApiResponse :=
  if relative = "/components/register" then jsonAction (postComponent host.text body)
  else if relative = "/entities/upsert" then
    jsonAction (postEntities host.text host.config arrival.now body)
  else if relative = "/state/publish" then
    jsonAction (postState host.text host.config arrival.clock body)
  else if relative = "/state/batch-get" then postSnapshot host arrival body 200
  else if relative = "/relations/upsert" then
    jsonAction (postRelations host.text host.config arrival.clock body)
  else if relative = "/metrics/publish" then jsonAction (postMetrics host arrival body)
  else if relative = "/events/publish" then jsonAction (postEvents host arrival body)
  else if relative = "/heartbeat" then jsonAction (postHeartbeat host.text arrival.clock body)
  else if relative = "/snapshots" then postSnapshot host arrival body 201
  else if relative = "/graph/query" then jsonAction (postQuery host body)
  else throw .keyError

/-- A request to the API of a plane. -/
inductive ApiRequest where
  | fetch (path : String) (query : Query)
  | post (path : String) (body : List (String × Value))

def ApiRequest.path : ApiRequest → String
  | .fetch path _ => path
  | .post path _ => path

/-- `StatePlaneAPI.get` and `StatePlaneAPI.post` -/
def ApiRequest.run (request : ApiRequest) : PlaneAction ApiResponse := do
  let relative ← lift (relativeOf request.path)
  match request with
  | .fetch _ query => getRelative host arrival relative query
  | .post _ body => postRelative host arrival relative body

end Dispatch

end StateFlow.Plane
