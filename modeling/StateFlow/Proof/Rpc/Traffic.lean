import StateFlow.Proof.Plane.Endpoints

namespace StateFlow.Rpc
open Python Table Effect Plane Adapters Gateway

/-- The request to the API that a call stands for, when its payload parses. -/
def RpcRequest.api (text : Text) (message : RpcRequest) : Except Exception ApiRequest :=
  match rpcOperations.lookup message.operation with
  | none => .error .keyError
  | some route => do
      let payload ← payloadOf message.payload
      let relative ← route.relative text payload
      return route.apiRequest relative payload (queryOf message.query)

/-- The request to the API that a client asks for over a transport -/
def PlaneTraffic.api (text : Text) : PlaneTraffic → ApiArrival × Except Exception ApiRequest
  | .fetch arrival path query => (arrival, .ok (.fetch path query))
  | .post arrival path body => (arrival, (readJson body).map (.post path))
  | .call arrival message => (arrival, message.api text)

/-- The effect of a request in the process. A request that does not parse has none. -/
def applyRequest (host : ApiHost) (asked : ApiArrival × Except Exception ApiRequest)
    (plane : InMemoryStatePlane) : InMemoryStatePlane :=
  match asked.2 with
  | .ok request => finalState (request.run host asked.1 plane)
  | .error _ => plane

section Served
variable {host : ApiHost} {arrival : ApiArrival}

theorem applyRequest_ok {asked : ApiArrival × Except Exception ApiRequest} {request : ApiRequest}
    (found : asked.2 = .ok request) (plane : InMemoryStatePlane) :
    applyRequest host asked plane = finalState (request.run host asked.1 plane) := by
  unfold applyRequest
  rw [found]

theorem applyRequest_error {asked : ApiArrival × Except Exception ApiRequest} {exception : Exception}
    (failed : asked.2 = .error exception) (plane : InMemoryStatePlane) :
    applyRequest host asked plane = plane := by
  unfold applyRequest
  rw [failed]

/-- The text of an answer does not change the plane. -/
theorem finalState_checked {A B : Type} (program : PlaneAction A) (check : A → Except Exception B)
    (plane : InMemoryStatePlane) :
    finalState ((do let answer ← program; let _ ← lift (check answer); return answer :
      PlaneAction A) plane) = finalState (program plane) := by
  cases ran : program plane with
  | ok answer last =>
      rw [bind_of_ok ran]
      cases check answer <;> rfl
  | error exception last => rw [bind_of_error ran]

theorem finalState_writePlane (request : ApiRequest) (plane : InMemoryStatePlane) :
    finalState (writePlane host arrival request plane) = finalState (request.run host arrival plane) :=
  finalState_checked _ host.written plane

theorem finalState_fetchPlane (path : String) (query : Query) (plane : InMemoryStatePlane) :
    finalState (fetchPlane host arrival path query plane) =
      finalState (writePlane host arrival (.fetch path query) plane) := by
  unfold fetchPlane
  cases writePlane host arrival (.fetch path query) plane with
  | ok response last => rfl
  | error exception last => cases exception <;> rfl

theorem finalState_postPlane (path : String) (body : Body) (plane : InMemoryStatePlane) :
    finalState (postPlane host arrival path body plane) =
      finalState ((do writePlane host arrival (.post path (← lift (readJson body))) :
        PlaneAction ApiResponse) plane) := by
  unfold postPlane
  cases (do writePlane host arrival (.post path (← lift (readJson body))) :
    PlaneAction ApiResponse) plane <;> rfl

theorem finalState_serveCall (message : RpcRequest) (plane : InMemoryStatePlane) :
    finalState (serveCall host arrival message plane) =
      finalState (dispatch host arrival message plane) := by
  unfold serveCall
  cases dispatch host arrival message plane <;> rfl

/-- A call dispatches to its request. -/
theorem dispatch_eq (message : RpcRequest) :
    dispatch host arrival message = (do
      let request ← lift (message.api host.text)
      let response ← request.run host arrival
      lift (host.dumped response)
      return response) := by
  unfold dispatch RpcRequest.api
  cases rpcOperations.lookup message.operation with
  | none => rfl
  | some route =>
      dsimp only
      cases read : payloadOf message.payload with
      | error exception => rfl
      | ok payload =>
          simp only [lift_ok_bind]
          cases found : route.relative host.text payload with
          | error exception =>
              change _ = (lift (route.relative host.text payload >>= _) >>= _)
              rw [found]
              rfl
          | ok relative =>
              change _ = (lift (route.relative host.text payload >>= _) >>= _)
              rw [found]
              rfl

/-- A request over a transport acts as its request in the process, whatever becomes of its answer. -/
theorem finalState_traffic (traffic : PlaneTraffic) (plane : InMemoryStatePlane) :
    finalState (traffic.run host plane) = applyRequest host (traffic.api host.text) plane := by
  have shown {A : Type} (program : PlaneAction A) :
      finalState ((do let _ ← program : PlaneAction Unit) plane) = finalState (program plane) := by
    cases ran : program plane with
    | ok answer last => rw [bind_of_ok ran]; rfl
    | error exception last =>
        rw [bind_of_error ran]
        rfl
  cases traffic with
  | fetch arrival path query =>
      refine (shown _).trans ?_
      rw [finalState_fetchPlane, finalState_writePlane]
      rfl
  | post arrival path body =>
      refine (shown _).trans ?_
      rw [finalState_postPlane]
      cases read : readJson body with
      | error exception =>
          rw [applyRequest_error (congrArg (Except.map (ApiRequest.post path)) read)]
          rfl
      | ok entries =>
          rw [applyRequest_ok (congrArg (Except.map (ApiRequest.post path)) read), lift_ok_bind]
          exact finalState_writePlane _ plane
  | call arrival message =>
      refine (shown _).trans ?_
      rw [finalState_serveCall, dispatch_eq]
      cases found : message.api host.text with
      | error exception =>
          have failed : ((PlaneTraffic.call arrival message).api host.text).2 = .error exception := found
          rw [applyRequest_error failed]
          rfl
      | ok request =>
          have asked : ((PlaneTraffic.call arrival message).api host.text).2 = .ok request := found
          rw [applyRequest_ok asked, lift_ok_bind]
          exact finalState_checked _ host.dumped plane

theorem within_traffic (traffic : PlaneTraffic) :
    Within (activityFrame host.config) (traffic.run host) := by
  intro plane
  rw [finalState_traffic]
  unfold applyRequest
  cases (traffic.api host.text).2 with
  | error exception => exact (activityFrame host.config).refl plane
  | ok request => exact within_request request plane

end Served

/-- Any traffic over both transports acts on a plane as some calls of clients in the process. On the plane
that it reaches, each request acts as its request in the process, also when its answer has no text. There a
request that raises changes nothing unless it is a batch of entities or of relations, and a read changes
nothing but the snapshots. -/
theorem traffic_refines (host : ApiHost) (traffic : List PlaneTraffic) (plane : InMemoryStatePlane) :
    let reached := runAll (PlaneTraffic.run host) traffic plane
    (∃ activities, runActivities host.config activities plane = reached) ∧
    (∀ next : PlaneTraffic, finalState (next.run host reached) =
      applyRequest host (next.api host.text) reached) ∧
    (∀ arrival (request : ApiRequest) exception last, ¬ request.Partial →
      request.run host arrival reached = .error exception last → last = reached) ∧
    ∀ arrival (request : ApiRequest), request.Reads →
      (finalState (request.run host arrival reached)).records = reached.records := by
  intro reached
  have inside : (activityFrame host.config).rel plane reached := by
    have each : ∀ rest start, (activityFrame host.config).rel start
        (runAll (PlaneTraffic.run host) rest start) := by
      intro rest
      induction rest with
      | nil => exact fun start => (activityFrame host.config).refl start
      | cons item rest ih =>
          exact fun start => (activityFrame host.config).trans (within_traffic item start) (ih _)
    exact each traffic plane
  exact ⟨inside, fun next => finalState_traffic next reached,
    fun arrival request exception last whole raised => atomic_request whole reached exception last raised,
    fun arrival request reads => records_request reads reached⟩

end StateFlow.Rpc
