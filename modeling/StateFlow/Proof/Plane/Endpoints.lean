import StateFlow.Construction.Rpc.Service
import StateFlow.Library.Atomic
import StateFlow.Library.Locality
import StateFlow.Proof.Plane.Freshness
import StateFlow.Proof.Plane.Retention

namespace StateFlow.Plane
open Python Table Effect Adapters

/-- Some activities lead from one plane to the other. -/
def activityFrame (config : PlaneConfig) : Frame InMemoryStatePlane where
  rel before after := ∃ activities, runActivities config activities before = after
  refl _ := ⟨[], rfl⟩
  trans := by
    intro _ _ _ first second
    obtain ⟨early, rfl⟩ := first
    obtain ⟨late, rfl⟩ := second
    exact ⟨early ++ late, List.foldl_append⟩

/-- The part of a plane that no read changes. -/
def InMemoryStatePlane.records (plane : InMemoryStatePlane) : InMemoryStatePlane :=
  { plane with snapshots := [] }

section Activities
variable {A : Type} {config : PlaneConfig} {program : PlaneAction A}

/-- A computation that does what an activity does. -/
theorem within_activity (activity : Activity)
    (same : ∀ plane, finalState (program plane) = activity.apply config plane) :
    Within (activityFrame config) program :=
  fun plane => ⟨[activity], (same plane).symm⟩

theorem within_operation (operation : Operation)
    (same : ∀ plane, finalState (program plane) = operation.apply config plane) :
    Within (activityFrame config) program :=
  within_activity (.operate operation) same

/-- A read stays inside every frame. -/
theorem within_of_reads {frame : Frame InMemoryStatePlane} (reads : Within (Frame.fixes id) program) :
    Within frame program := by
  intro plane
  rw [show finalState (program plane) = plane from reads plane]
  exact frame.refl plane

theorem within_jsonAction {frame : Frame InMemoryStatePlane} {action : PlaneAction StatePlaneAPIResponse}
    (inside : Within frame action) : Within frame (jsonAction action) :=
  within_bind inside fun _ => within_pure _

theorem atomic_jsonAction {action : PlaneAction StatePlaneAPIResponse} (atomic : Atomic action) :
    Atomic (jsonAction action) :=
  atomic_bind_total atomic fun _ => total_pure _

end Activities

section Writes
variable (config : PlaneConfig)

theorem publishState_total (updates : List StateUpdate) : Total (publishState config updates) := by
  refine total_mapM fun update plane _ => ?_
  obtain ⟨verdict, judged⟩ := judgeState_returns config plane update
  rw [publishOne_run, judged]
  cases verdict <;> exact ⟨_, _, rfl, trivial⟩

theorem publishMetrics_total (samples : List MetricSample) : Total (publishMetrics config samples) := by
  refine total_mapM fun sample => total_get_bind fun plane => ?_
  split
  · exact total_pure _
  · split
    · exact total_pure _
    · split
      · exact total_pure _
      · split
        · exact total_pure _
        · exact total_bind (total_set _) fun _ => total_pure _

theorem publishEvents_total (events : List StateEvent) : Total (publishEvents config events) := by
  refine total_mapM fun event => total_get_bind fun plane => ?_
  split
  · exact total_pure _
  · split
    · exact total_pure _
    · exact total_bind (total_set _) fun _ => total_pure _

theorem registerComponent_atomic (descriptor : ComponentDescriptor) :
    Atomic (registerComponent descriptor) := by
  refine atomic_get_bind fun plane => ?_
  split
  · split
    · exact atomic_throw _
    · exact (total_set _).atomic
  · exact (total_set _).atomic

theorem heartbeat_atomic (beat : Heartbeat) : Atomic (heartbeat beat) := by
  refine atomic_get_bind fun plane => ?_
  split
  · exact atomic_throw _
  · exact (total_set _).atomic

theorem getSnapshot_atomic (now : Int) (unique : String) (request : SnapshotRequest) :
    Atomic (getSnapshot config now unique request) :=
  atomic_get_bind fun _ => atomic_lift_bind fun _ =>
    (total_bind (total_modify _) fun _ => total_pure _).atomic

theorem getState_atomic (now : Int) (unique : String) (query : StateQuery) :
    Atomic (getState config now unique query) :=
  atomic_ite (atomic_read_bind (within_readSnapshot _) fun _ => atomic_pure _)
    (atomic_bind_total (getSnapshot_atomic config now unique _) fun _ => total_pure _)

theorem getSnapshot_records (now : Int) (unique : String) (request : SnapshotRequest) :
    Within (Frame.fixes InMemoryStatePlane.records) (getSnapshot config now unique request) :=
  within_bind within_get fun _ => within_lift_bind fun _ _ =>
    within_bind (within_modify _ fun _ => rfl) fun _ => within_pure _

theorem getState_records (now : Int) (unique : String) (query : StateQuery) :
    Within (Frame.fixes InMemoryStatePlane.records) (getState config now unique query) :=
  within_ite
    (fun _ => within_bind (within_of_reads (within_readSnapshot _)) fun _ => within_pure _)
    fun _ => within_bind (getSnapshot_records config now unique _) fun _ => within_pure _

end Writes

section Fetch
variable {host : ApiHost} {arrival : ApiArrival} {query : Query} {frame : Frame InMemoryStatePlane}

theorem reads_components : Within (Frame.fixes id) getComponents :=
  within_bind within_get fun _ => within_pure _

theorem reads_heartbeats : Within (Frame.fixes id) getHeartbeats :=
  within_bind within_get fun _ => within_pure _

theorem reads_schema : Within (Frame.fixes id) (getSchema host query) := by
  refine within_ite (fun _ => within_pure _) fun _ => ?_
  split
  · exact within_pure _
  · exact within_throw _

theorem reads_keptSnapshot (token : String) : Within (Frame.fixes id) (getKeptSnapshot token) := by
  refine within_ite (fun _ => within_bind (within_throw _) fun _ => ?_) fun _ => ?_
  all_goals exact within_bind (within_readSnapshot token) fun _ => within_pure _

theorem reads_changes : Within (Frame.fixes id) (getChanges host query) :=
  within_lift_bind fun _ _ => within_lift_bind fun _ _ => within_bind within_get fun _ => within_pure _

theorem reads_metrics : Within (Frame.fixes id) (getMetrics host arrival query) :=
  within_lift_bind fun _ _ => within_lift_bind fun _ _ => within_bind within_get fun _ =>
    within_lift_bind fun _ _ => within_pure _

theorem reads_freshness : Within (Frame.fixes id) (getFreshness arrival) :=
  within_bind within_get fun _ => within_lift_bind fun _ _ => within_pure _

/-- Only a request for the state may write, and it stays inside a frame of its read. -/
theorem within_fetch (relative : String)
    (states : ∀ asked, Within frame (getState host.config arrival.now arrival.unique asked)) :
    Within frame (getRelative host arrival relative query) := by
  unfold getRelative
  refine within_ite (fun _ => within_jsonAction (within_of_reads reads_components)) fun _ => ?_
  refine within_ite (fun _ => within_of_reads reads_heartbeats) fun _ => ?_
  refine within_ite (fun _ => within_of_reads reads_schema) fun _ => ?_
  refine within_ite (fun _ => within_lift_bind fun asked _ => ?_) fun _ => ?_
  · exact within_bind (states asked) fun _ => within_pure _
  refine within_ite (fun _ => within_of_reads (reads_keptSnapshot _)) fun _ => ?_
  refine within_ite (fun _ => within_of_reads reads_changes) fun _ => ?_
  refine within_ite (fun _ => within_of_reads reads_metrics) fun _ => ?_
  exact within_ite (fun _ => within_of_reads reads_freshness) fun _ => within_throw _

/-- A read that raises leaves the plane. -/
theorem atomic_fetch (relative : String) : Atomic (getRelative host arrival relative query) := by
  have kept {A : Type} {program : PlaneAction A} (reads : Within (Frame.fixes id) program) :
      Atomic program := by
    intro plane exception last raised
    have same := reads plane
    rw [raised] at same
    exact same
  unfold getRelative
  refine atomic_ite (atomic_jsonAction (kept reads_components)) ?_
  refine atomic_ite (kept reads_heartbeats) (atomic_ite (kept reads_schema) (atomic_ite ?_ ?_))
  · exact atomic_lift_bind fun asked =>
      atomic_bind_total (getState_atomic host.config arrival.now arrival.unique asked)
        fun _ => total_pure _
  refine atomic_ite (kept (reads_keptSnapshot _)) (atomic_ite (kept reads_changes) ?_)
  exact atomic_ite (kept reads_metrics) (atomic_ite (kept reads_freshness) (atomic_throw _))

end Fetch

section Post
variable {host : ApiHost} {arrival : ApiArrival} {body : List (String × Value)}

/-- Each endpoint parses its request and then calls the plane. -/
theorem within_post (relative : String) :
    Within (activityFrame host.config) (postRelative host arrival relative body) := by
  unfold postRelative
  refine within_ite (fun _ => within_jsonAction (within_lift_bind fun descriptor _ => ?_)) fun _ => ?_
  · exact within_seq (within_operation (.registerComponent descriptor) fun _ => rfl) (within_pure _)
  refine within_ite (fun _ => within_jsonAction ?_) fun _ => ?_
  · refine within_lift_bind fun _ _ => within_lift_bind fun entities _ => ?_
    refine within_bind (within_forM fun entity _ => ?_) fun _ => within_pure _
    exact within_operation (.upsertEntity arrival.now entity) fun _ => rfl
  refine within_ite (fun _ => within_jsonAction ?_) fun _ => ?_
  · refine within_lift_bind fun _ _ => within_lift_bind fun updates _ => ?_
    exact within_bind (within_operation (.publishState (updates.map Prod.fst)) fun _ => rfl)
      fun _ => within_pure _
  have snapshots (statusCode : Nat) :
      Within (activityFrame host.config) (postSnapshot host arrival body statusCode) :=
    within_lift_bind fun request _ => within_bind
      (within_operation (.getSnapshot arrival.now arrival.unique request) fun _ => rfl)
      fun _ => within_pure _
  refine within_ite (fun _ => snapshots 200) fun _ => ?_
  refine within_ite (fun _ => within_jsonAction ?_) fun _ => ?_
  · refine within_lift_bind fun _ _ => within_lift_bind fun updates _ => ?_
    exact within_bind (within_operation (.upsertRelations (updates.map Prod.fst)) fun _ => rfl)
      fun _ => within_pure _
  refine within_ite (fun _ => within_jsonAction ?_) fun _ => ?_
  · refine within_lift_bind fun _ _ => within_lift_bind fun samples _ => ?_
    exact within_bind (within_operation (.publishMetrics samples) fun _ => rfl) fun _ => within_pure _
  refine within_ite (fun _ => within_jsonAction ?_) fun _ => ?_
  · refine within_lift_bind fun _ _ => within_lift_bind fun events _ => ?_
    exact within_bind (within_operation (.publishEvents events) fun _ => rfl) fun _ => within_pure _
  refine within_ite (fun _ => within_jsonAction ?_) fun _ => ?_
  · refine within_lift_bind fun shown _ => ?_
    exact within_seq (within_operation (.heartbeat shown.1) fun _ => rfl) (within_pure _)
  refine within_ite (fun _ => snapshots 201) fun _ => ?_
  refine within_ite (fun _ => within_jsonAction ?_) fun _ => within_throw _
  exact within_lift_bind fun query _ =>
    within_bind (within_of_reads (within_queryGraph query)) fun _ => within_pure _

/-- The batches that keep the writes before the one that raised. -/
def partialBatches : List String := ["/entities/upsert", "/relations/upsert"]

/-- Every other endpoint that raises leaves the plane. -/
theorem atomic_post {relative : String} (whole : relative ∉ partialBatches) :
    Atomic (postRelative host arrival relative body) := by
  obtain ⟨entities, relations⟩ : relative ≠ "/entities/upsert" ∧ relative ≠ "/relations/upsert" := by
    simpa [partialBatches] using whole
  have snapshots (statusCode : Nat) : Atomic (postSnapshot host arrival body statusCode) :=
    atomic_lift_bind fun request =>
      atomic_bind_total (getSnapshot_atomic host.config arrival.now arrival.unique request)
        fun _ => total_pure _
  unfold postRelative
  rw [if_neg entities]
  refine atomic_ite (atomic_jsonAction (atomic_lift_bind fun descriptor => ?_)) ?_
  · exact atomic_bind_total (registerComponent_atomic descriptor) fun _ => total_pure _
  refine atomic_ite (atomic_jsonAction ?_) (atomic_ite (snapshots 200) ?_)
  · exact atomic_lift_bind fun _ => atomic_lift_bind fun updates =>
      (total_bind (publishState_total host.config _) fun _ => total_pure _).atomic
  rw [if_neg relations]
  refine atomic_ite (atomic_jsonAction ?_) (atomic_ite (atomic_jsonAction ?_) ?_)
  · exact atomic_lift_bind fun _ => atomic_lift_bind fun samples =>
      (total_bind (publishMetrics_total host.config samples) fun _ => total_pure _).atomic
  · exact atomic_lift_bind fun _ => atomic_lift_bind fun events =>
      (total_bind (publishEvents_total host.config events) fun _ => total_pure _).atomic
  refine atomic_ite (atomic_jsonAction (atomic_lift_bind fun shown => ?_)) ?_
  · exact atomic_bind_total (heartbeat_atomic shown.1) fun _ => total_pure _
  refine atomic_ite (snapshots 201) (atomic_ite (atomic_jsonAction ?_) (atomic_throw _))
  exact atomic_lift_bind fun query =>
    atomic_read_bind (within_queryGraph query) fun _ => atomic_pure _

end Post

section Requests
variable {host : ApiHost} {arrival : ApiArrival}

theorem within_request (request : ApiRequest) :
    Within (activityFrame host.config) (request.run host arrival) := by
  refine within_lift_bind fun relative _ => ?_
  cases request with
  | fetch path query =>
      exact within_fetch relative fun asked =>
        within_activity (.getState arrival.now arrival.unique asked) fun _ => rfl
  | post path body => exact within_post relative

/-- A request to a batch that may be stored in part -/
def ApiRequest.Partial (request : ApiRequest) : Prop :=
  ∃ relative ∈ partialBatches, request.path = apiPrefix ++ relative

/-- A handled path is the prefix of the API with its relative path. -/
theorem path_of_relative {path relative : String} (found : relativeOf path = .ok relative) :
    path = apiPrefix ++ relative := by
  unfold relativeOf at found
  split at found
  · rename_i handled
    have starts : apiPrefix.toList <+: path.toList := by
      rcases Bool.or_eq_true_iff.mp handled with same | below
      · rw [of_decide_eq_true same]
      · rw [String.toList_append] at below
        exact (List.prefix_append _ _).trans (List.isPrefixOf_iff_prefix.mp below)
    obtain ⟨rest, split⟩ := starts
    cases found
    apply String.toList_injective
    rw [String.toList_append, String.toList_ofList, ← split, List.drop_left' (String.length_toList)]
  · cases found

theorem atomic_request {request : ApiRequest} (whole : ¬ request.Partial) :
    Atomic (request.run host arrival) := by
  unfold ApiRequest.run
  cases found : relativeOf request.path with
  | error exception => exact atomic_throw exception
  | ok relative =>
      cases request with
      | fetch path query => exact atomic_fetch relative
      | post path body =>
          exact atomic_post fun listed => whole ⟨relative, listed, path_of_relative found⟩

/-- The reads that are posted -/
def postedReads : List String := ["/state/batch-get", "/snapshots", "/graph/query"]

/-- A request that reads the plane -/
def ApiRequest.Reads : ApiRequest → Prop
  | .fetch _ _ => True
  | .post path _ => ∃ relative ∈ postedReads, path = apiPrefix ++ relative

theorem records_post {relative : String} (posted : relative ∈ postedReads)
    (body : List (String × Value)) :
    Within (Frame.fixes InMemoryStatePlane.records) (postRelative host arrival relative body) := by
  have snapshots (statusCode : Nat) :
      Within (Frame.fixes InMemoryStatePlane.records) (postSnapshot host arrival body statusCode) :=
    within_lift_bind fun request _ =>
      within_bind (getSnapshot_records host.config arrival.now arrival.unique request)
        fun _ => within_pure _
  simp only [postedReads, List.mem_cons, List.not_mem_nil, or_false] at posted
  rcases posted with rfl | rfl | rfl
  · have served : postRelative host arrival "/state/batch-get" body = postSnapshot host arrival body 200 := by
      simp [postRelative]
    rw [served]
    exact snapshots 200
  · have served : postRelative host arrival "/snapshots" body = postSnapshot host arrival body 201 := by
      simp [postRelative]
    rw [served]
    exact snapshots 201
  · have served : postRelative host arrival "/graph/query" body = jsonAction (postQuery host body) := by
      simp [postRelative]
    rw [served]
    exact within_jsonAction (within_lift_bind fun query _ =>
      within_bind (within_of_reads (within_queryGraph query)) fun _ => within_pure _)

/-- A read changes nothing but the snapshots. -/
theorem records_request {request : ApiRequest} (reads : request.Reads) :
    Within (Frame.fixes InMemoryStatePlane.records) (request.run host arrival) := by
  refine within_lift_bind fun relative found => ?_
  cases request with
  | fetch path query =>
      exact within_fetch relative fun asked =>
        getState_records host.config arrival.now arrival.unique asked
  | post path body =>
      obtain ⟨read, listed, same⟩ := reads
      have named := (path_of_relative found).symm.trans same
      have relative : relative = read := by
        have letters := congrArg String.toList named
        rw [String.toList_append, String.toList_append, List.append_cancel_left_eq] at letters
        exact String.toList_injective letters
      exact records_post (relative ▸ listed) body

end Requests

end StateFlow.Plane
