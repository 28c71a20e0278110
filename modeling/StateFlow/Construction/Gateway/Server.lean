import StateFlow.Construction.Gateway.Backend
import StateFlow.Construction.Plane.Endpoints
import StateFlow.Construction.State.Event

namespace StateFlow.Gateway
open Python Table Effect State Scheduler

/-- A request has no body, a body that is no JSON text, or a JSON value. -/
inductive Body where
  | absent
  | malformed
  | json (value : Value)

/-- `_read_json` requires an object. -/
def readJson : Body → Except Exception (List (String × Value))
  | .json (.dict entries) => .ok entries
  | _ => .error .valueError

/-- `dict` of the headers of a message. A name of any case reads the first header of that name. -/
def messageDict (text : Text) (fields : List (String × String)) : List (String × String) :=
  let first := fun name => (fields.find? fun field => text.lower field.1 = text.lower name).map Prod.snd
  fields.foldl (fun table field => assign field.1 ((first field.1).getD field.2) table) []

/-- The content of an answer. -/
inductive Content where
  | health
  | view (view : HarnessSchedulingView)
  | appended (result : AppendResult)
  | model (response : GatewayResponse)
  | failed (kind : String)

structure HttpResponse where
  statusCode : Int
  content : Content

/-- The boundary answers each class of exceptions with a status and a name. -/
def failureOf : Exception → HttpResponse
  | .valueError => ⟨400, .failed "invalid_request"⟩
  | .keyError => ⟨404, .failed "not_found"⟩
  | _ => ⟨500, .failed "internal_error"⟩

/-- A request to the server, with what the process generates for it. -/
structure Received where
  moment : Moment
  now : Int
  unique : String
  path : String
  query : List (String × List String) := []
  headers : List (String × String) := []
  body : Body := .absent

/-- The first value of a query parameter -/
def Received.parameter (received : Received) (name default : String) : String :=
  ((received.query.lookup name).bind List.head?).getD default

section Server
variable (gateway : RequestGateway) (backends : BackendRegistry) (received : Received)

/-- `do_GET` before its answer is written. -/
def answerGet (store : Store) : Except Exception HttpResponse :=
  if received.path = "/healthz" then .ok ⟨200, .health⟩
  else if received.path = "/v1/state/view" then
    let sessionId := received.parameter "session_id" ""
    let taskId := received.parameter "task_id" "default-task"
    if sessionId = "" then .ok ⟨400, .failed ""⟩
    else do
      let view ← getSchedulingView gateway.env received.moment.viewed store sessionId taskId
      return ⟨200, .view view⟩
  else .ok ⟨404, .failed ""⟩

/-- `do_GET` with `to_dict` and `_write` of its answer. It catches no exception. -/
def doGet (written : HttpResponse → Except Exception Unit) (store : Store) :
    Except Exception HttpResponse := do
  let response ← answerGet gateway received store
  written response
  return response

/-- A report is appended to the store. A field of another type than its declared one is outside this
model. -/
def postEvent (entries : List (String × Value)) : EStateM Exception Store HttpResponse := do
  let fields ← lift (fromMapping received.now entries)
  match eventOf fields with
  | some event => do
      let result ← appendEvent gateway.env received.moment.requested event
      return ⟨200, .appended result⟩
  | none => throw .typeError

def Received.call (received : Received) (text : Text) (entries : List (String × Value)) : ModelCall :=
  ⟨received.moment, received.unique, received.path, entries, messageDict text received.headers⟩

/-- `do_POST` before its exception is answered. -/
def respond : EStateM Exception Store HttpResponse := do
  let entries ← lift (readJson received.body)
  if received.path = "/v1/state/events" then postEvent gateway received entries
  else if received.path ∈ ["/v1/chat/completions", "/v1/responses", "/v1/messages"] then do
    let response ← submit gateway backends (received.call gateway.env.toText entries)
    return ⟨response.statusCode, .model response⟩
  else return ⟨404, .failed ""⟩

/-- `do_POST` answers every request. -/
def doPost : EStateM Exception Store HttpResponse := fun store =>
  match respond gateway backends received store with
  | .ok response last => .ok response last
  | .error exception last => .ok (failureOf exception) last

/-- A server answers reads and writes. A read that raises leaves no answer. -/
inductive HttpRequest where
  | fetch (received : Received)
  | post (received : Received)

def HttpRequest.run (written : HttpResponse → Except Exception Unit) :
    HttpRequest → EStateM Exception Store HttpResponse
  | .fetch received => do lift (doGet gateway received written (← get))
  | .post received => doPost gateway backends received

end Server

section Plane
open Plane

/-- The server answers a request to its plane as the API or with a failure. -/
inductive PlaneAnswer where
  | answered (response : ApiResponse)
  | failed (response : HttpResponse)

variable (host : ApiHost) (arrival : ApiArrival)

/-- A request to the API with `_write` of its answer -/
def writePlane (request : ApiRequest) : PlaneAction ApiResponse := do
  let response ← request.run host arrival
  lift (host.written response)
  return response

/-- `do_GET` of a path of the plane answers two classes of exceptions. -/
def fetchPlane (path : String) (query : Query) : PlaneAction PlaneAnswer := fun plane =>
  match writePlane host arrival (.fetch path query) plane with
  | .ok response last => .ok (.answered response) last
  | .error .keyError last => .ok (.failed (failureOf .keyError)) last
  | .error .valueError last => .ok (.failed (failureOf .valueError)) last
  | .error exception last => .error exception last

/-- `do_POST` of a path of the plane answers every exception. An answer that cannot be written is a failure
after the effect of its request. -/
def postPlane (path : String) (body : Body) : PlaneAction PlaneAnswer := fun plane =>
  match (do writePlane host arrival (.post path (← lift (readJson body))) : PlaneAction ApiResponse)
      plane with
  | .ok response last => .ok (.answered response) last
  | .error exception last => .ok (.failed (failureOf exception)) last

end Plane

end StateFlow.Gateway
