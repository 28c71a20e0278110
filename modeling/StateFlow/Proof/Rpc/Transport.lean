import StateFlow.Proof.Adapters.Client
import StateFlow.Proof.Plane.Graph
import StateFlow.Proof.Rpc.Traffic

namespace StateFlow.Rpc
open Python Table Effect Plane Adapters Gateway

section Paths
variable {host : ApiHost} {arrival : ApiArrival} {relative : String}

theorem relativeOf_below (below : '/' ∈ relative.toList.head?) :
    relativeOf (apiPrefix ++ relative) = .ok relative := by
  have handled : handles (apiPrefix ++ relative) = true := by
    refine Bool.or_eq_true_iff.mpr (.inr (List.isPrefixOf_iff_prefix.mpr ?_))
    obtain ⟨rest, split⟩ := List.head?_eq_some_iff.mp below
    rw [String.toList_append, String.toList_append, split]
    exact ⟨rest, by simp⟩
  unfold relativeOf
  rw [if_pos handled, String.toList_append, List.drop_left' String.length_toList, String.ofList_toList]

theorem run_below (below : '/' ∈ relative.toList.head?) (query : Query) :
    (ApiRequest.fetch (apiPrefix ++ relative) query).run host arrival =
      getRelative host arrival relative query := by
  change (lift (relativeOf (apiPrefix ++ relative)) >>= _) = _
  rw [relativeOf_below below]
  rfl

theorem post_below (below : '/' ∈ relative.toList.head?) (body : List (String × Value)) :
    (ApiRequest.post (apiPrefix ++ relative) body).run host arrival =
      postRelative host arrival relative body := by
  change (lift (relativeOf (apiPrefix ++ relative)) >>= _) = _
  rw [relativeOf_below below]
  rfl

end Paths

/-- A call of a known operation with an object as its payload. -/
structure RpcCall where
  arrival : ApiArrival
  operation : String
  route : Route
  known : rpcOperations.lookup operation = some route
  payload : List (String × Value)
  query : List (String × String)

def RpcCall.run (host : ApiHost) (call : RpcCall) : PlaneAction RpcOutcome :=
  serveCall host call.arrival ⟨call.operation, .json (.dict call.payload), call.query⟩

/-- The path that the route of a call stands for -/
def RpcCall.path (text : Text) (call : RpcCall) : String :=
  call.route.path ++ if call.route.token then jsonText text call.payload "token" "" else ""

/-- The request to the API that both transports make -/
def RpcCall.request (text : Text) (call : RpcCall) : ApiRequest :=
  call.route.apiRequest (call.path text) call.payload (queryOf call.query)

def RpcCall.inProcess (host : ApiHost) (call : RpcCall) : PlaneAction ApiResponse :=
  (call.request host.text).run host call.arrival

/-- The same request over HTTP -/
def RpcCall.http (host : ApiHost) (call : RpcCall) : PlaneAction PlaneAnswer :=
  match call.route.method with
  | .fetch => fetchPlane host call.arrival (apiPrefix ++ call.path host.text) (queryOf call.query)
  | .post => postPlane host call.arrival (apiPrefix ++ call.path host.text) (.json (.dict call.payload))

/-- A transport gives a response its text. -/
def texted (write : ApiResponse → Except Exception Unit) (result : Except Exception ApiResponse) :
    Except Exception ApiResponse := do
  let response ← result
  write response
  return response

/-- The RPC server aborts a call that raises and a response without a text. -/
def rpcAnswer (host : ApiHost) (result : Except Exception ApiResponse) : RpcOutcome :=
  match texted host.dumped result with
  | .ok response => .answered response
  | .error exception => .aborted (codeOf exception)

/-- The HTTP server answers them with a status, but only two classes of exceptions of a read. -/
def httpAnswer (host : ApiHost) (method : Method) (result : Except Exception ApiResponse) :
    Except Exception PlaneAnswer :=
  match texted host.written result with
  | .ok response => .ok (.answered response)
  | .error exception =>
      if method = .fetch ∧ exception ≠ .keyError ∧ exception ≠ .valueError then .error exception
      else .ok (.failed (failureOf exception))

/-- The code of an HTTP status. A read without an answer is an internal error. -/
def statusAnswer : Except Exception PlaneAnswer → RpcOutcome
  | .ok (.answered response) => .answered response
  | .ok (.failed response) => .aborted (if response.statusCode = 400 then .invalidArgument
      else if response.statusCode = 404 then .notFound else .internal)
  | .error _ => .aborted .internal

section Agreement
variable {host : ApiHost}

theorem statusAnswer_failed (exception : Exception) :
    statusAnswer (.ok (.failed (failureOf exception))) = .aborted (codeOf exception) := by
  cases exception <;> rfl

/-- Both servers answer alike when both have a text or raise the same exception. -/
theorem statusAnswer_http {method : Method} {result : Except Exception ApiResponse}
    (same : texted host.dumped result = texted host.written result) :
    rpcAnswer host result = statusAnswer (httpAnswer host method result) := by
  unfold rpcAnswer httpAnswer
  rw [same]
  cases texted host.written result with
  | ok response => rfl
  | error exception =>
      dsimp only
      split_ifs with unanswered
      · obtain ⟨_, missing, invalid⟩ := unanswered
        cases exception <;> first | rfl | contradiction
      · exact (statusAnswer_failed exception).symm

/-- The path of a snapshot ends in its token. -/
theorem fetch_snapshot {arrival : ApiArrival} {query : Query} (token : String) :
    getRelative host arrival ("/snapshots/" ++ token) query = getKeptSnapshot token := by
  have below : "/snapshots/".toList.isPrefixOf ("/snapshots/" ++ token).toList = true := by
    rw [String.toList_append, List.isPrefixOf_iff_prefix]
    exact List.prefix_append _ _
  have apart (other : String) (differs : ¬ "/snapshots/".toList <+: other.toList) :
      "/snapshots/" ++ token ≠ other := by
    intro same
    rw [same, List.isPrefixOf_iff_prefix] at below
    exact differs below
  have left : String.ofList (removePrefix "/snapshots/" ("/snapshots/" ++ token).toList) = token := by
    unfold removePrefix
    rw [if_pos below, String.toList_append, List.drop_left' String.length_toList, String.ofList_toList]
  unfold getRelative
  rw [if_neg (apart _ (by decide)), if_neg (apart _ (by decide)), if_neg (apart _ (by decide)),
    if_neg (apart _ (by decide)), if_pos below, left]

/-- The token of a route is the end of a read. -/
theorem token_fetches {call : RpcCall} (token : call.route.token = true) :
    call.route = ⟨.fetch, "/snapshots/", true⟩ := by
  have listed := mem_of_lookup call.known
  generalize call.route = route at token listed
  simp only [rpcOperations, List.mem_cons, List.not_mem_nil, or_false, Prod.mk.injEq] at listed
  rcases listed with same | same | same | same | same | same | same | same | same | same | same |
    same | same | same | same | same <;> rw [same.2] at token ⊢ <;> cases token

/-- A call dispatches as its request, with the text of its response. -/
theorem dispatch_call (call : RpcCall) :
    dispatch host call.arrival ⟨call.operation, .json (.dict call.payload), call.query⟩ = (do
      let response ← call.inProcess host
      lift (host.dumped response)
      return response) := by
  unfold dispatch
  rw [call.known]
  change (lift (call.route.relative host.text call.payload) >>= _) = _
  unfold RpcCall.inProcess RpcCall.request Route.relative RpcCall.path
  by_cases token : call.route.token = true
  · rw [if_pos token, if_pos token]
    by_cases empty : jsonText host.text call.payload "token" "" = ""
    · rw [if_pos empty, empty, token_fetches token]
      change throw .valueError =
        ((ApiRequest.fetch (apiPrefix ++ ("/snapshots/" ++ "")) _).run host call.arrival >>= _)
      rw [run_below (by decide), fetch_snapshot]
      rfl
    · rw [if_neg empty]
      rfl
  · rw [if_neg token, if_neg token, String.append_empty]
    rfl

/-- The text of a response changes its outcome but not the plane. -/
theorem outcome_texted (program : PlaneAction ApiResponse) (write : ApiResponse → Except Exception Unit)
    (plane : InMemoryStatePlane) :
    outcome ((do let response ← program; lift (write response); return response :
      PlaneAction ApiResponse) plane) = texted write (outcome (program plane)) := by
  cases ran : program plane with
  | ok response last =>
      rw [bind_of_ok ran]
      change outcome ((do lift (write response); return response : PlaneAction ApiResponse) last) =
        (do write response; return response)
      cases write response <;> rfl
  | error exception last =>
      rw [bind_of_error ran]
      rfl

theorem rpc_outcome (call : RpcCall) (plane : InMemoryStatePlane) :
    outcome (call.run host plane) = .ok (rpcAnswer host (outcome (call.inProcess host plane))) ∧
      finalState (call.run host plane) = finalState (call.inProcess host plane) := by
  have shown := outcome_texted (call.inProcess host) host.dumped plane
  have kept := finalState_checked (call.inProcess host) host.dumped plane
  unfold RpcCall.run serveCall rpcAnswer
  rw [dispatch_call, ← shown, ← kept]
  cases (do let response ← call.inProcess host; lift (host.dumped response); return response :
    PlaneAction ApiResponse) plane <;> exact ⟨rfl, rfl⟩

theorem http_outcome (call : RpcCall) (plane : InMemoryStatePlane) :
    outcome (call.http host plane) =
        httpAnswer host call.route.method (outcome (call.inProcess host plane)) ∧
      finalState (call.http host plane) = finalState (call.inProcess host plane) := by
  have shown := outcome_texted (call.inProcess host) host.written plane
  have kept := finalState_checked (call.inProcess host) host.written plane
  unfold RpcCall.http httpAnswer
  rw [← shown, ← kept]
  have asked : call.inProcess host = (call.request host.text).run host call.arrival := rfl
  rw [asked]
  unfold RpcCall.request Route.apiRequest
  cases call.route.method with
  | fetch =>
      dsimp only
      unfold fetchPlane writePlane
      cases (do let response ← (ApiRequest.fetch (apiPrefix ++ call.path host.text)
          (queryOf call.query)).run host call.arrival; lift (host.written response); return response :
        PlaneAction ApiResponse) plane with
      | ok response last => exact ⟨rfl, rfl⟩
      | error exception last => cases exception <;> exact ⟨rfl, rfl⟩
  | post =>
      dsimp only
      unfold postPlane
      simp only [readJson, lift_ok_bind]
      unfold writePlane
      cases (do let response ← (ApiRequest.post (apiPrefix ++ call.path host.text)
          call.payload).run host call.arrival; lift (host.written response); return response :
        PlaneAction ApiResponse) plane with
      | ok response last => exact ⟨rfl, rfl⟩
      | error exception last => exact ⟨rfl, rfl⟩

end Agreement

/-- Both transports translate the outcomes of one run of requests to the API, and all three runs reach the
same plane. A response that both servers can write, or both with the same exception, is answered alike. -/
theorem transports_agree (host : ApiHost) (calls : List RpcCall) (plane : InMemoryStatePlane) :
    let outcomes := transcript (RpcCall.inProcess host) calls plane
    ((transcript (RpcCall.run host) calls plane).map Prod.snd =
        outcomes.map (fun entry => .ok (rpcAnswer host entry.2)) ∧
      (transcript (RpcCall.http host) calls plane).map Prod.snd =
        outcomes.map (fun entry => httpAnswer host entry.1.route.method entry.2)) ∧
    (runAll (RpcCall.run host) calls plane = runAll (RpcCall.inProcess host) calls plane ∧
      runAll (RpcCall.http host) calls plane = runAll (RpcCall.inProcess host) calls plane) ∧
    ∀ method result, texted host.dumped result = texted host.written result →
      rpcAnswer host result = statusAnswer (httpAnswer host method result) := by
  have rpc := @run_translated _ _ _ _ _ _ _ (RpcCall.inProcess host) (RpcCall.run host) id
    (fun _ result => .ok (rpcAnswer host result)) calls
    (fun call _ reached => rpc_outcome call reached) plane
  have http := @run_translated _ _ _ _ _ _ _ (RpcCall.inProcess host) (RpcCall.http host) id
    (fun call result => httpAnswer host call.route.method result) calls
    (fun call _ reached => http_outcome call reached) plane
  rw [List.map_id] at rpc http
  exact ⟨⟨rpc.1, http.1⟩, ⟨rpc.2, http.2⟩, fun _ _ same => statusAnswer_http same⟩

/-- Every answer of a handler has one of the statuses. -/
def Answers (statuses : List Nat) (handler : PlaneAction StatePlaneAPIResponse) : Prop :=
  ∀ plane response last, handler plane = .ok response last → response.statusCode ∈ statuses

section Statuses
variable {statuses : List Nat}

theorem answers_pure {response : StatePlaneAPIResponse} (listed : response.statusCode ∈ statuses) :
    Answers statuses (pure response) := by
  intro plane answer last ran
  cases ran
  exact listed

theorem answers_bind {A : Type} {program : PlaneAction A} {next : A → PlaneAction StatePlaneAPIResponse}
    (rest : ∀ value, Answers statuses (next value)) : Answers statuses (program >>= next) := by
  intro plane answer last ran
  obtain ⟨value, middle, _, finished⟩ := bind_ok ran
  exact rest value middle answer last finished

theorem writeResponse_status (results : List WriteResult) :
    (writeResponse results).statusCode ∈ [200, 409] := by
  unfold writeResponse
  dsimp only
  split <;> simp

end Statuses

/-- Both clients raise the same exception, or each raises its own error. -/
def OwnError (grpc http : Exception) : Prop :=
  grpc = http ∨ grpc = .statePlaneGrpcError ∧ http = .statePlaneHttpError

/-- Each method of two clients has the same outcome, up to their own errors. -/
structure AlikeClients (grpc http : AdapterStatePlane) : Prop where
  listComponents : Raises OwnError grpc.listComponents http.listComponents
  registerComponent : ∀ descriptor,
    Raises OwnError (grpc.registerComponent descriptor) (http.registerComponent descriptor)
  upsertEntity : ∀ entity, Raises OwnError (grpc.upsertEntity entity) (http.upsertEntity entity)
  getEntity : ∀ ref, Raises OwnError (grpc.getEntity ref) (http.getEntity ref)
  publishState : ∀ updates, Raises OwnError (grpc.publishState updates) (http.publishState updates)
  upsertRelations : ∀ updates,
    Raises OwnError (grpc.upsertRelations updates) (http.upsertRelations updates)
  heartbeat : ∀ beat, Raises OwnError (grpc.heartbeat beat) (http.heartbeat beat)

section Client
variable {host : ApiHost} {arrival : ApiArrival} {operation : String} {payload : List (String × Value)}
variable {handler : PlaneAction StatePlaneAPIResponse}

theorem raises_own {A : Type} (program : PlaneAction A) : Raises OwnError program program :=
  raises_refl (fun _ => .inl rfl) program

/-- An operation that dispatches to a handler of the adapters -/
structure Handles (host : ApiHost) (arrival : ApiArrival) (operation : String)
    (payload : List (String × Value)) (handler : PlaneAction StatePlaneAPIResponse) : Prop where
  known : (rpcOperations.lookup operation).isNone = false
  dispatched : dispatch host arrival ⟨operation, .json (.dict payload), []⟩ = jsonAction handler

theorem Handles.call_ok (handles : Handles host arrival operation payload handler)
    {plane last : InMemoryStatePlane} {response : StatePlaneAPIResponse}
    (ran : handler plane = .ok response last) :
    call host arrival operation payload plane = .ok (response.statusCode, response.payload) last := by
  have served : serveCall host arrival ⟨operation, .json (.dict payload), []⟩ plane =
      .ok (.answered (jsonResponse response)) last := by
    unfold serveCall
    rw [handles.dispatched, show jsonAction handler plane = .ok (jsonResponse response) last by
      unfold jsonAction; rw [bind_of_ok ran]; rfl]
  unfold call
  rw [if_neg (by rw [handles.known]; exact Bool.false_ne_true)]
  change (serveCall host arrival ⟨operation, .json (.dict payload), []⟩ >>= _) plane = _
  rw [bind_of_ok served]
  rfl

theorem Handles.call_error (handles : Handles host arrival operation payload handler)
    {plane last : InMemoryStatePlane} {exception : Exception} (ran : handler plane = .error exception last) :
    call host arrival operation payload plane = .error .statePlaneGrpcError last := by
  have served : serveCall host arrival ⟨operation, .json (.dict payload), []⟩ plane =
      .ok (.aborted (codeOf exception)) last := by
    unfold serveCall
    rw [handles.dispatched, show jsonAction handler plane = .error exception last by
      unfold jsonAction; rw [bind_of_error ran]]
  unfold call
  rw [if_neg (by rw [handles.known]; exact Bool.false_ne_true)]
  change (serveCall host arrival ⟨operation, .json (.dict payload), []⟩ >>= _) plane = _
  rw [bind_of_ok served]
  rfl

/-- A call that has to succeed acts as the request that accepts both successes. -/
theorem succeed_alike (handles : Handles host arrival operation payload handler)
    (answers : Answers [200, 201] handler) :
    Raises OwnError (succeed host arrival operation payload) (request [200, 201] handler) := by
  intro plane
  cases ran : handler plane with
  | ok response last =>
      have listed := answers plane response last ran
      have success : 200 ≤ response.statusCode ∧ response.statusCode < 300 := by
        simp only [List.mem_cons, List.not_mem_nil, or_false] at listed
        omega
      refine .inl ⟨response.payload, last, ?_, request_of_ok ran listed⟩
      rw [succeed, bind_of_ok (handles.call_ok ran)]
      dsimp only
      rw [show requireSuccess response.statusCode = pure () from if_pos success]
      rfl
  | error exception last =>
      refine .inr ⟨_, _, last, .inr ⟨rfl, rfl⟩, ?_, request_of_error refused_single ran⟩
      rw [succeed, bind_of_error (handles.call_error ran)]

/-- A call of a batch also accepts its conflict. -/
theorem write_alike (handles : Handles host arrival operation payload handler)
    (answers : Answers [200, 409] handler) :
    Raises OwnError (write host arrival operation payload)
      (do lift (decodeWriteResults host.text (← request [200, 409] handler))) := by
  intro plane
  cases ran : handler plane with
  | ok response last =>
      have listed := answers plane response last ran
      have batch : ¬ (response.statusCode ≠ 200 ∧ response.statusCode ≠ 409) := by
        simp only [List.mem_cons, List.not_mem_nil, or_false] at listed
        omega
      rw [bind_of_ok (request_of_ok ran listed), write, bind_of_ok (handles.call_ok ran)]
      dsimp only
      rw [if_neg batch]
      exact raises_own _ last
  | error exception last =>
      rw [bind_of_error (request_of_error refused_batch ran), write,
        bind_of_error (handles.call_error ran)]
      exact .inr ⟨_, _, last, .inr ⟨rfl, rfl⟩, rfl, rfl⟩

/-- A query of one root without a hop finds that root. -/
theorem postQuery_root (ref : String) :
    postQuery host [("roots", .list [.str ref]), ("depth", .int 0)] =
      postGraph host.text [("roots", .list [.str ref]), ("depth", .int 0)] := by
  funext plane
  let query : GraphQuery := { roots := [ref], depth := 0 }
  have decoded : decodeGraphQuery host.text [("roots", .list [.str ref]), ("depth", .int 0)] =
      .ok query := rfl
  have source : relationSource query.snapshot plane = .ok (plane.relations.map Prod.snd) plane := rfl
  have single : sortedTexts [ref] = [ref] := by simp [sortedTexts]
  have alone : ([ref].dedup.mergeSort fun first second => decide (first ≤ second)) = [ref] := by simp
  have found : queryGraph query plane =
      .ok ⟨"", [ref].filterMap fun ref => plane.entities.lookup ref, []⟩ plane := by
    rw [queryGraph_run source]
    change EStateM.Result.ok (GraphQueryResult.mk "" ((sortedTexts [ref]).filterMap _) []) plane = _
    rw [single]
  unfold postQuery
  rw [decoded, lift_ok_bind, bind_of_ok found]
  change _ = EStateM.Result.ok (⟨200, [("snapshot_token", .str ""), ("entities", .list
    ((([ref].dedup.mergeSort fun first second => decide (first ≤ second)).filterMap
      fun ref => plane.entities.lookup ref).map fun entity => .dict (encodeEntity entity))),
    ("relations", .list [])]⟩ : StatePlaneAPIResponse) plane
  rw [alone]
  rfl

variable (renders : ∀ response, host.dumped (jsonResponse response) = .ok ())
include renders

/-- An operation whose request runs a handler of the adapters dispatches to it. -/
theorem handles_of_run {route : Route} (known : rpcOperations.lookup operation = some route)
    (served : RpcCall.inProcess host ⟨arrival, operation, route, known, payload, []⟩ = jsonAction handler) :
    Handles host arrival operation payload handler := by
  refine ⟨by rw [known]; rfl, ?_⟩
  rw [@dispatch_call host ⟨arrival, operation, route, known, payload, []⟩, served]
  unfold jsonAction
  simp only [bind_assoc, pure_bind, renders, lift_ok_bind]

/-- An operation whose route is a write dispatches to its endpoint. -/
theorem handles_post {relative : String}
    (known : rpcOperations.lookup operation = some ⟨.post, relative, false⟩)
    (below : '/' ∈ relative.toList.head?)
    (served : postRelative host arrival relative payload = jsonAction handler) :
    Handles host arrival operation payload handler := by
  refine handles_of_run renders known ?_
  change (ApiRequest.post (apiPrefix ++ (relative ++ "")) payload).run host arrival = _
  rw [String.append_empty, post_below below, served]

theorem handles_components : Handles host arrival "ListComponents" [] getComponents := by
  have known : rpcOperations.lookup "ListComponents" = some ⟨.fetch, "/components", false⟩ := by decide
  refine handles_of_run renders known ?_
  change (ApiRequest.fetch (apiPrefix ++ ("/components" ++ "")) []).run host arrival = _
  rw [String.append_empty, run_below (by decide)]
  exact if_pos rfl

end Client

section Operations
variable {host : ApiHost} {arrival : ApiArrival}
variable (renders : ∀ response, host.dumped (jsonResponse response) = .ok ())
variable (body : List (String × Value))
include renders

theorem handles_register :
    Handles host arrival "RegisterComponent" body (postComponent host.text body) :=
  handles_post renders
    (show rpcOperations.lookup "RegisterComponent" = some ⟨.post, "/components/register", false⟩ by decide)
    (by decide) (if_pos rfl)

theorem handles_upsert : Handles host arrival "UpsertEntities" body
    (postEntities host.text host.config arrival.now body) :=
  handles_post renders
    (show rpcOperations.lookup "UpsertEntities" = some ⟨.post, "/entities/upsert", false⟩ by decide)
    (by decide) (by simp [postRelative])

theorem handles_query : Handles host arrival "QueryGraph" body (postQuery host body) :=
  handles_post renders
    (show rpcOperations.lookup "QueryGraph" = some ⟨.post, "/graph/query", false⟩ by decide)
    (by decide) (by simp [postRelative])

theorem handles_publish : Handles host arrival "PublishState" body
    (postState host.text host.config arrival.clock body) :=
  handles_post renders
    (show rpcOperations.lookup "PublishState" = some ⟨.post, "/state/publish", false⟩ by decide)
    (by decide) (by simp [postRelative])

theorem handles_relate : Handles host arrival "UpsertRelations" body
    (postRelations host.text host.config arrival.clock body) :=
  handles_post renders
    (show rpcOperations.lookup "UpsertRelations" = some ⟨.post, "/relations/upsert", false⟩ by decide)
    (by decide) (by simp [postRelative])

theorem handles_heartbeat :
    Handles host arrival "Heartbeat" body (postHeartbeat host.text arrival.clock body) :=
  handles_post renders
    (show rpcOperations.lookup "Heartbeat" = some ⟨.post, "/heartbeat", false⟩ by decide)
    (by decide) (by simp [postRelative])

end Operations

/-- On a server that can write its JSON replies, both clients of the adapters act alike on every plane. -/
theorem clients_alike (host : ApiHost) (arrival : ApiArrival) (other : Value → Value)
    (clock : Calendar.DateTime) (renders : ∀ response, host.dumped (jsonResponse response) = .ok ()) :
    AlikeClients (grpcClient host arrival other clock)
      (httpClient host.text other host.config arrival.now arrival.clock clock) := by
  constructor
  case listComponents =>
    exact raises_bind (succeed_alike (handles_components renders)
      (answers_bind fun _ => answers_pure (by simp))) fun _ => raises_own _
  case registerComponent =>
    intro descriptor
    refine raises_bind (succeed_alike (handles_register renders _) ?_) fun _ => raises_own _
    exact answers_bind fun _ => answers_bind fun _ => answers_pure (by simp)
  case upsertEntity =>
    intro entity
    refine raises_bind (succeed_alike (handles_upsert renders _) ?_) fun _ => raises_own _
    exact answers_bind fun _ => answers_bind fun _ => answers_bind fun _ => answers_pure (by simp)
  case getEntity =>
    intro ref
    have answers (body : List (String × Value)) : Answers [200, 201] (postQuery host body) :=
      answers_bind fun _ => answers_bind fun _ => answers_pure (by simp)
    have asked := succeed_alike (@handles_query host arrival renders
      [("roots", .list [.str ref]), ("depth", .int 0)]) (answers _)
    rw [postQuery_root] at asked
    exact raises_bind asked fun _ => raises_own _
  case publishState =>
    intro updates
    refine write_alike (handles_publish renders _) ?_
    exact answers_bind fun _ => answers_bind fun _ => answers_bind fun results =>
      answers_pure (writeResponse_status results)
  case upsertRelations =>
    intro updates
    refine write_alike (handles_relate renders _) ?_
    exact answers_bind fun _ => answers_bind fun _ => answers_bind fun results =>
      answers_pure (writeResponse_status results)
  case heartbeat =>
    intro beat
    refine raises_bind (succeed_alike (handles_heartbeat renders _) ?_) fun _ => raises_own _
    exact answers_bind fun _ => answers_bind fun _ => answers_pure (by simp)

/-- A host that writes every answer. -/
def plainHost : ApiHost where
  text := asciiText
  config := defaultConfig
  shown := fun _ => .none

theorem clients_alike_of_plain :
    AlikeClients (grpcClient plainHost ⟨0, "", epochClock⟩ id epochClock)
      (httpClient asciiText id defaultConfig 0 epochClock epochClock) :=
  clients_alike plainHost ⟨0, "", epochClock⟩ id epochClock fun _ => rfl

end StateFlow.Rpc
