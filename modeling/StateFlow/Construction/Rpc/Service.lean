import StateFlow.Construction.Gateway.Server
import StateFlow.Construction.Plane.Endpoints

namespace StateFlow.Rpc
open Python Table Calendar Effect Plane Adapters

inductive Method where
  | fetch
  | post
  deriving DecidableEq

/-- The path of an operation may end in the token of its payload. -/
structure Route where
  method : Method
  path : String
  token : Bool := false
  deriving DecidableEq

/-- `RPC_OPERATIONS` -/
def rpcOperations : List (String × Route) :=
  [("RegisterComponent", ⟨.post, "/components/register", false⟩),
    ("UpsertEntities", ⟨.post, "/entities/upsert", false⟩),
    ("PublishState", ⟨.post, "/state/publish", false⟩),
    ("PublishMetrics", ⟨.post, "/metrics/publish", false⟩),
    ("PublishEvents", ⟨.post, "/events/publish", false⟩),
    ("UpsertRelations", ⟨.post, "/relations/upsert", false⟩),
    ("Heartbeat", ⟨.post, "/heartbeat", false⟩),
    ("GetState", ⟨.fetch, "/state", false⟩),
    ("GetSnapshot", ⟨.post, "/snapshots", false⟩),
    ("ReadSnapshot", ⟨.fetch, "/snapshots/", true⟩),
    ("QueryGraph", ⟨.post, "/graph/query", false⟩),
    ("QueryMetrics", ⟨.fetch, "/metrics", false⟩),
    ("GetFreshness", ⟨.fetch, "/freshness", false⟩),
    ("ListSchema", ⟨.fetch, "/schema", false⟩),
    ("ListComponents", ⟨.fetch, "/components", false⟩),
    ("ListHeartbeats", ⟨.fetch, "/heartbeats", false⟩)]

/-- A request message has the text of a payload and one value for each key of its query. -/
structure RpcRequest where
  operation : String
  payload : Gateway.Body := .absent
  query : List (String × String) := []

inductive StatusCode where
  | invalidArgument
  | notFound
  | internal
  deriving DecidableEq

/-- A call returns a response or is aborted. -/
inductive RpcOutcome where
  | answered (response : ApiResponse)
  | aborted (code : StatusCode)

section Servicer
variable (host : ApiHost) (arrival : ApiArrival) (message : RpcRequest)

/-- `_payload` reads a missing payload as an empty object. -/
def payloadOf : Gateway.Body → Except Exception (List (String × Value))
  | .absent => .ok []
  | body => Gateway.readJson body

/-- `_query` -/
def queryOf (query : List (String × String)) : Query := query.map fun entry => (entry.1, [entry.2])

/-- The relative path of an operation. A route with a token needs one in the payload. -/
def Route.relative (route : Route) (text : Text) (payload : List (String × Value)) :
    Except Exception String :=
  if route.token then
    let token := jsonText text payload "token" ""
    if token = "" then .error .valueError else .ok (route.path ++ token)
  else .ok route.path

/-- The request to the API that an operation stands for -/
def Route.apiRequest (route : Route) (relative : String) (payload : List (String × Value))
    (query : Query) : ApiRequest :=
  match route.method with
  | .fetch => .fetch (apiPrefix ++ relative) query
  | .post => .post (apiPrefix ++ relative) payload

/-- `_call` before its exception aborts it. -/
def dispatch : PlaneAction ApiResponse := do
  match rpcOperations.lookup message.operation with
  | none => throw .keyError
  | some route => do
      let payload ← lift (payloadOf message.payload)
      let relative ← lift (route.relative host.text payload)
      let response ← (route.apiRequest relative payload (queryOf message.query)).run host arrival
      lift (host.dumped response)
      return response

def codeOf : Exception → StatusCode
  | .valueError => .invalidArgument
  | .keyError => .notFound
  | _ => .internal

/-- `_call` answers every request. -/
def serveCall : PlaneAction RpcOutcome := fun plane =>
  match dispatch host arrival message plane with
  | .ok response last => .ok (.answered response) last
  | .error exception last => .ok (.aborted (codeOf exception)) last

end Servicer

/-- A client of the plane asks over HTTP or over gRPC. -/
inductive PlaneTraffic where
  | fetch (arrival : ApiArrival) (path : String) (query : Query)
  | post (arrival : ApiArrival) (path : String) (body : Gateway.Body)
  | call (arrival : ApiArrival) (message : RpcRequest)

/-- The effect of a request, without its answer -/
def PlaneTraffic.run (host : ApiHost) : PlaneTraffic → PlaneAction Unit
  | .fetch arrival path query => do let _ ← Gateway.fetchPlane host arrival path query
  | .post arrival path body => do let _ ← Gateway.postPlane host arrival path body
  | .call arrival message => do let _ ← serveCall host arrival message

section Client
variable (host : ApiHost) (arrival : ApiArrival) (other : Value → Value) (clock : DateTime)

/-- `call` raises a `StatePlaneGRPCError` for an aborted call. The adapters call operations whose replies
are JSON objects. -/
def call (operation : String) (payload : List (String × Value)) :
    PlaneAction (Nat × List (String × Value)) := do
  if (rpcOperations.lookup operation).isNone then throw .valueError
  match ← serveCall host arrival ⟨operation, .json (.dict payload), []⟩ with
  | .answered ⟨statusCode, .json reply⟩ => return (statusCode, reply)
  | .answered _ => throw .statePlaneGrpcError
  | .aborted _ => throw .statePlaneGrpcError

/-- `_require_success` -/
def requireSuccess (statusCode : Nat) : PlaneAction Unit :=
  if 200 ≤ statusCode ∧ statusCode < 300 then return else throw .statePlaneGrpcError

def succeed (operation : String) (payload : List (String × Value)) :
    PlaneAction (List (String × Value)) := do
  let (statusCode, reply) ← call host arrival operation payload
  requireSuccess statusCode
  return reply

/-- A batch of writes also accepts a conflict. -/
def write (operation : String) (payload : List (String × Value)) : PlaneAction (List WriteResult) := do
  let (statusCode, reply) ← call host arrival operation payload
  if statusCode ≠ 200 ∧ statusCode ≠ 409 then requireSuccess statusCode
  lift (decodeWriteResults host.text reply)

/-- `StatePlaneGRPCClient` encodes each call as an operation. -/
def grpcClient : AdapterStatePlane where
  listComponents := do
    let payload ← succeed host arrival "ListComponents" []
    return (← lift (decodeObjects (jsonGet payload "components"))).map (decodeComponent host.text)
  registerComponent descriptor := do
    let _ ← succeed host arrival "RegisterComponent" (encodeComponent descriptor)
  upsertEntity entity := do
    let _ ← succeed host arrival "UpsertEntities" [("entities", .list [.dict (encodeEntity entity)])]
  getEntity ref := do
    let payload ← succeed host arrival "QueryGraph" [("roots", .list [.str ref]), ("depth", .int 0)]
    match ← lift (decodeObjects (jsonGet payload "entities")) with
    | [] => return none
    | first :: _ => return some (← lift (decodeEntity host.text first))
  publishState updates := write host arrival "PublishState"
    [("updates", .list (updates.map fun update => .dict (encodeStateUpdate other update clock)))]
  upsertRelations updates := write host arrival "UpsertRelations"
    [("relations", .list (updates.map fun update => .dict (encodeRelationUpdate other update clock)))]
  heartbeat beat := do
    let _ ← succeed host arrival "Heartbeat" (encodeHeartbeat beat clock)

end Client

end StateFlow.Rpc
