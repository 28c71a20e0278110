import StateFlow.Proof.Adapters.Relist

namespace StateFlow.Adapters
open Python Table Effect Plane Replica

section View

/-- The lifecycle that a plane holds for an entity of a resource. -/
def view (resource : Resource) (plane : InMemoryStatePlane) (ref : String) : Option String :=
  ((plane.entities.lookup ref).filter fun entity =>
    decide (entity.entityType = resource.entityType)).map GraphEntity.lifecycle

variable {config : PlaneConfig} {now : Int} {observation : DeploymentObservation}
  {resource : Resource} {ref : String}

/-- A reference of another type has no lifecycle. -/
theorem view_untyped {plane : InMemoryStatePlane} (named : Named plane)
    (untyped : ¬ HasType resource.entityType ref) : view resource plane ref = none := by
  unfold view
  cases found : plane.entities.lookup ref with
  | none => rfl
  | some entity =>
      have other : entity.entityType ≠ resource.entityType := fun same =>
        untyped ⟨entity, named ref entity found, same⟩
      simp [Option.filter, other]

theorem hasType_of_status {lifecycle : String}
    (found : resource.status observation = some (ref, lifecycle)) :
    HasType resource.entityType ref := by
  obtain ⟨entity, projected, rfl, _⟩ := status_some found
  exact ⟨entity, rfl, (projection_ok projected).1⟩

theorem view_of_lookup {plane : InMemoryStatePlane} {entity : GraphEntity}
    (projected : resource.projection observation = .ok entity)
    (found : plane.entities.lookup entity.ref = some entity) :
    view resource plane entity.ref = some entity.lifecycle := by
  unfold view
  rw [found]
  simp [Option.filter, (projection_ok projected).1]

theorem status_of_projection {entity : GraphEntity}
    (projected : resource.projection observation = .ok entity) :
    resource.status observation = some (entity.ref, entity.lifecycle) := by
  unfold Resource.status
  rw [projected]
  rfl

/-- What an observation leaves of an entity. -/
def told (resource : Resource) (observation : DeploymentObservation) (held : Option String)
    (ref : String) : Option String :=
  (latest (resource.status observation).toList ref).or held

theorem told_of_stored {before after : InMemoryStatePlane}
    (stored : after.entities.lookup ref =
      leaves (resource.projection observation) ref (before.entities.lookup ref)) :
    view resource after ref = told resource observation (view resource before ref) ref := by
  unfold told
  cases projected : resource.projection observation with
  | error exception =>
      rw [projected] at stored
      have none : resource.status observation = none := by
        unfold Resource.status
        rw [projected]
        rfl
      rw [none]
      unfold view
      rw [stored]
      rfl
  | ok entity =>
      rw [projected] at stored
      rw [status_of_projection projected]
      have single := latest_concat [] (entity.ref, entity.lifecycle) ref
      simp only [List.nil_append, latest_nil] at single
      rw [Option.toList_some, single]
      by_cases same : ref = entity.ref
      · subst same
        rw [view_of_lookup projected (stored.trans (if_pos rfl)), if_pos rfl]
        rfl
      · rw [leaves, if_neg same] at stored
        rw [if_neg (Ne.symm same)]
        unfold view
        rw [stored]
        rfl

theorem told_of_untyped {before after : InMemoryStatePlane} (named : Named before)
    (kept : Named after) (untyped : ¬ HasType resource.entityType ref) :
    view resource after ref = told resource observation (view resource before ref) ref := by
  have absent : latest (resource.status observation).toList ref = none := by
    apply latest_eq_none.mpr
    intro member
    obtain ⟨entry, inside, rfl⟩ := List.mem_map.mp member
    exact untyped (hasType_of_status (Option.mem_toList.mp inside))
  unfold told
  rw [absent, view_untyped named untyped, view_untyped kept untyped]
  rfl

/-- A returned observation tells its entities their lifecycles. -/
theorem publishDeployment_view {world next : World} {report : AdapterPublishReport}
    (named : Named world.plane)
    (returned : publishDeployment config now observation world = .ok report next) :
    view resource next.plane ref = told resource observation (view resource world.plane ref) ref := by
  have kept := (publishDeployment_keepsNamed config now observation).returned returned named
  by_cases typed : HasType resource.entityType ref
  · apply told_of_stored
    cases resource with
    | nodes =>
        have stored := @publishDeployment_node observation config now world named ref typed
        rw [returned] at stored
        exact stored
    | pods => exact publishDeployment_instance named returned typed
  · exact told_of_untyped named kept typed

theorem mayTell_of_told {before after : InMemoryStatePlane}
    (same : view resource after ref = told resource observation (view resource before ref) ref) :
    view resource after ref = view resource before ref ∨ ∃ lifecycle,
      resource.status observation = some (ref, lifecycle) ∧
      view resource after ref = some lifecycle := by
  unfold told at same
  cases entry : latest (resource.status observation).toList ref with
  | none =>
      rw [entry] at same
      exact Or.inl same
  | some lifecycle =>
      rw [entry] at same
      exact Or.inr ⟨lifecycle, Option.mem_toList.mp (mem_of_latest entry), same⟩

/-- Any observation tells its entities their lifecycles or leaves them alone. -/
theorem publishDeployment_mayTell {world next : World} (named : Named world.plane)
    (ran : finalState (publishDeployment config now observation world) = next) :
    Named next.plane ∧ ∀ ref, view resource next.plane ref = view resource world.plane ref ∨
      ∃ lifecycle, resource.status observation = some (ref, lifecycle) ∧
        view resource next.plane ref = some lifecycle := by
  have kept := publishDeployment_keepsNamed config now observation world named
  rw [ran] at kept
  refine ⟨kept, fun ref => ?_⟩
  by_cases typed : HasType resource.entityType ref
  · cases resource with
    | nodes =>
        have stored := @publishDeployment_node observation config now world named ref typed
        rw [ran] at stored
        exact mayTell_of_told (told_of_stored stored)
    | pods =>
        have stored := @publishDeployment_mayStore observation config now world named ref typed
        rw [ran] at stored
        rcases stored with same | ⟨entity, projected, rfl, stored⟩
        · refine Or.inl ?_
          unfold view
          rw [same]
        · refine Or.inr ⟨entity.lifecycle, ?_, view_of_lookup projected stored⟩
          exact status_of_projection projected
  · exact Or.inl ((view_untyped kept typed).trans (view_untyped named typed).symm)

end View

section Batch
variable (config : PlaneConfig) (clock : Int)

/-- A batch publishes its observations in order. -/
def publishBatch (observations : List DeploymentObservation) :
    EStateM SourceFailure KubernetesProcess (List AdapterPublishReport) :=
  observations.mapM fun observation => onWorld (publishDeployment config clock observation)

/-- This frame keeps the cursor. It tells each entity one of the entries or leaves it alone. -/
def mayTell (resource : Resource) (entries : List (String × String)) : Frame KubernetesProcess where
  rel before after := after.cursor = before.cursor ∧ (Named before.world.plane →
    Named after.world.plane ∧ ∀ ref, view resource after.world.plane ref =
      view resource before.world.plane ref ∨ ∃ lifecycle, (ref, lifecycle) ∈ entries ∧
        view resource after.world.plane ref = some lifecycle)
  refl _ := ⟨rfl, fun named => ⟨named, fun _ => Or.inl rfl⟩⟩
  trans first second := by
    refine ⟨second.1.trans first.1, fun named => ?_⟩
    obtain ⟨middle, early⟩ := first.2 named
    obtain ⟨last, late⟩ := second.2 middle
    refine ⟨last, fun ref => ?_⟩
    rcases late ref with kept | told
    · rw [kept]
      exact early ref
    · exact Or.inr told

variable {config clock}

theorem finalState_onWorld {A : Type} (action : EStateM Exception World A)
    (process : KubernetesProcess) : finalState (onWorld action process) =
      { process with world := finalState (action process.world) } := by
  unfold onWorld
  cases action process.world <;> rfl

theorem publishBatch_mayTell (resource : Resource) (observations : List DeploymentObservation) :
    Within (mayTell resource (statuses resource observations))
      (publishBatch config clock observations) := by
  apply within_mapM
  intro observation member process
  rw [finalState_onWorld]
  generalize ran : finalState (publishDeployment config clock observation process.world) = next
  refine ⟨rfl, fun named => ?_⟩
  obtain ⟨kept, tells⟩ := @publishDeployment_mayTell config clock observation resource _ _ named ran
  refine ⟨kept, fun ref => ?_⟩
  rcases tells ref with same | ⟨lifecycle, status, told⟩
  · exact Or.inl same
  · exact Or.inr ⟨lifecycle, List.mem_filterMap.mpr ⟨observation, member, status⟩, told⟩

theorem onWorld_ok {A : Type} {action : EStateM Exception World A}
    {process next : KubernetesProcess} {value : A}
    (returned : onWorld action process = .ok value next) :
    action process.world = .ok value next.world ∧ next.cursor = process.cursor := by
  unfold onWorld at returned
  cases ran : action process.world with
  | ok found world =>
      rw [ran] at returned
      cases returned
      exact ⟨rfl, rfl⟩
  | error exception world =>
      rw [ran] at returned
      cases returned

/-- A batch that returned tells the entities their latest lifecycles. -/
theorem publishBatch_view {observations : List DeploymentObservation}
    {process next : KubernetesProcess} {reports : List AdapterPublishReport}
    (named : Named process.world.plane)
    (returned : publishBatch config clock observations process = .ok reports next)
    (resource : Resource) (ref : String) :
    view resource next.world.plane ref = (latest (statuses resource observations) ref).or
      (view resource process.world.plane ref) := by
  induction observations generalizing process reports with
  | nil => cases returned; rfl
  | cons observation rest ih =>
      unfold publishBatch at returned
      rw [List.mapM_cons] at returned
      obtain ⟨report, middle, first, continued⟩ := bind_ok returned
      obtain ⟨others, last, later, finished⟩ := bind_ok continued
      cases finished
      obtain ⟨ran, _⟩ := onWorld_ok first
      have kept := (publishDeployment_keepsNamed config clock observation).returned ran named
      rw [ih kept later, publishDeployment_view named ran]
      unfold told
      have parts : statuses resource (observation :: rest) =
          (resource.status observation).toList ++ statuses resource rest := by
        unfold statuses
        cases found : resource.status observation <;> simp [found]
      rw [parts, latest_append, Option.or_assoc]

end Batch

section Collect
variable (config : PlaneConfig) (text : Text) (client : KubernetesSourceClient) (cluster : Cluster)

/-- A poll fails before it publishes, or while it publishes, or moves the cursor. -/
theorem collectKubernetes_cases (answers : ApiAnswers) (process : KubernetesProcess) :
    finalState (collectKubernetes config text client answers process) = process ∨
      ∃ batch, collectBatch text client answers process.cursor = .ok batch ∧
        (finalState (collectKubernetes config text client answers process) =
            finalState (publishBatch config answers.clock batch.observations process) ∨
          ∃ reports next, publishBatch config answers.clock batch.observations process =
              .ok reports next ∧
            finalState (collectKubernetes config text client answers process) =
              { next with cursor := batch.cursor }) := by
  unfold collectKubernetes
  rw [get_bind]
  cases collected : collectBatch text client answers process.cursor with
  | error failure => exact Or.inl rfl
  | ok batch =>
      rw [bind_of_ok (lift_of_ok rfl process)]
      refine Or.inr ⟨batch, rfl, ?_⟩
      cases ran : publishBatch config answers.clock batch.observations process with
      | error failure next =>
          unfold publishBatch at ran
          rw [bind_of_error ran]
          exact Or.inl rfl
      | ok reports next =>
          refine Or.inr ⟨reports, next, rfl, ?_⟩
          unfold publishBatch at ran
          rw [bind_of_ok ran]
          rfl

/-- The marks behind a cursor, and the marks that it has not read. -/
def readMarks (resource : Resource) (cursor : KubernetesWatchCursor) : List (String × String) :=
  marks text client resource (seen cluster cursor resource)

def unreadMarks (resource : Resource) (cursor : KubernetesWatchCursor) : List (String × String) :=
  marks text client resource ((cluster.changes resource).drop
    (cluster.position resource (cursor.version resource)))

/-- The pods of a batch tell the latest lifecycle of their nodes, and no list hides the removal of
an entity that the plane does not hold as deleted. -/
structure Harmless (process : KubernetesProcess) (answers : ApiAnswers) : Prop where
  pods : ∀ batch, collectBatch text client answers process.cursor = .ok batch →
    ∀ pod ∈ batch.observations, pod.ofNode = false → ∀ ref lifecycle status,
      Resource.nodes.status pod = some (ref, lifecycle) →
      latest (readMarks text client cluster .nodes batch.cursor) ref = some status →
      lifecycle = status
  lists : ∀ batch, collectBatch text client answers process.cursor = .ok batch →
    batch.relisted = true → ∀ resource ref,
      latest (readMarks text client cluster resource batch.cursor) ref = some "deleted" →
      ∀ lifecycle, view resource process.world.plane ref = some lifecycle → lifecycle = "deleted"

/-- The plane holds the latest lifecycle of each entity that no unread change marks. -/
structure Follows (process : KubernetesProcess) : Prop where
  named : Named process.world.plane
  tracks : ∀ resource, Tracks (readMarks text client cluster resource process.cursor)
    (unreadMarks text client cluster resource process.cursor)
    (view resource process.world.plane)

variable {config text client cluster} {resource : Resource} {cursor next : KubernetesWatchCursor}
  {part : List ClusterChange} {relisted : Bool} {entries extra : List (String × String)}
  {replica after : String → Option String}

/-- The seen changes extend the read marks by those of the part. -/
theorem Brings.marks (brings : Brings text client resource (seen cluster cursor resource)
    (seen cluster next resource) part relisted entries) :
    readMarks text client cluster resource next =
        readMarks text client cluster resource cursor ++ marks text client resource part ∧
      unreadMarks text client cluster resource cursor =
        marks text client resource part ++ unreadMarks text client cluster resource next := by
  have advances := brings.advances
  constructor
  · unfold readMarks
    rw [advances, marks_append]
  · unfold unreadMarks
    rw [← marks_append]
    congr 1
    have early := List.take_append_drop
      (cluster.position resource (cursor.version resource)) (cluster.changes resource)
    have late := List.take_append_drop
      (cluster.position resource (next.version resource)) (cluster.changes resource)
    unfold seen at advances
    rw [advances, List.append_assoc] at late
    exact List.append_cancel_left (early.trans late.symm)

section Step
variable (tracks : Tracks (readMarks text client cluster resource cursor)
    (unreadMarks text client cluster resource cursor) replica)
  (brings : Brings text client resource (seen cluster cursor resource)
    (seen cluster next resource) part relisted entries)
  (own : OwnEntities text client resource (seen cluster next resource))
  (agree : ∀ ref lifecycle status, (ref, lifecycle) ∈ extra →
    latest (readMarks text client cluster resource next) ref = some status → lifecycle = status)
include tracks brings own agree

/-- A batch that is published in part leaves the marks of the plane to be read again. -/
theorem tracks_interrupted
    (written : ∀ ref, after ref = replica ref ∨
      ∃ lifecycle, (ref, lifecycle) ∈ entries ++ extra ∧ after ref = some lifecycle) :
    Tracks (readMarks text client cluster resource cursor)
      (unreadMarks text client cluster resource cursor) after := by
  obtain ⟨read, unread⟩ := brings.marks
  rw [unread] at tracks ⊢
  refine tracks.interrupted (fun entry member => ?_) written
  rcases List.mem_append.mp member with brought | other
  · exact brings.each own brought
  · refine Or.inr fun status last => agree entry.1 entry.2 status other ?_
    rw [read]
    exact last

/-- A whole batch tells the plane the marks that it reads. -/
theorem tracks_delivered
    (gaps : relisted = true → ∀ ref,
      latest (readMarks text client cluster resource next) ref = some "deleted" →
      ∀ lifecycle, replica ref = some lifecycle → lifecycle = "deleted")
    (written : ∀ ref, after ref = (latest (entries ++ extra) ref).or (replica ref)) :
    Tracks (readMarks text client cluster resource next)
      (unreadMarks text client cluster resource next) after := by
  obtain ⟨read, unread⟩ := brings.marks
  rw [unread] at tracks
  rw [read] at agree gaps ⊢
  refine tracks.delivered ?_ ?_ written
  · intro ref lifecycle status told last
    rw [latest_append] at told
    cases other : latest extra ref with
    | some pod =>
        rw [other] at told
        cases told
        exact agree ref _ status (mem_of_latest other) last
    | none =>
        rw [other] at told
        rw [← read] at last
        exact brings.final own told last
  · intro ref status lifecycle absent mentioned last held
    rw [List.map_append, List.mem_append, not_or] at absent
    obtain ⟨again, rfl⟩ := brings.missing own absent.1 mentioned (by
      rw [← read] at last
      exact last)
    exact gaps again ref last lifecycle held

end Step

theorem statuses_append (first second : List DeploymentObservation) :
    statuses resource (first ++ second) = statuses resource first ++ statuses resource second :=
  List.filterMap_append

theorem mem_statuses {observations : List DeploymentObservation} {entry : String × String} :
    entry ∈ statuses resource observations ↔
      ∃ observation ∈ observations, resource.status observation = some entry :=
  List.mem_filterMap

/-- The entries of a batch are brought by its resource or agree with its latest marks. -/
theorem collectBatch_told {process : KubernetesProcess} {answers : ApiAnswers}
    {batch : KubernetesWatchBatch} (honest : Honest text cluster process.cursor answers)
    (harmless : Harmless text client cluster process answers)
    (collected : collectBatch text client answers process.cursor = .ok batch)
    (resource : Resource) :
    ∃ part entries extra, statuses resource batch.observations = entries ++ extra ∧
      Brings text client resource (seen cluster process.cursor resource)
        (seen cluster batch.cursor resource) part batch.relisted entries ∧
      ∀ ref lifecycle status, (ref, lifecycle) ∈ extra →
        latest (readMarks text client cluster resource batch.cursor) ref = some status →
        lifecycle = status := by
  obtain ⟨nodes, pods, split, areNodes, arePods, ⟨nodePart, bringsNodes⟩, podPart, bringsPods⟩ :=
    collectBatch_brings honest collected
  cases resource with
  | nodes =>
      refine ⟨nodePart, _, statuses .nodes pods, ?_, bringsNodes, ?_⟩
      · rw [split, statuses_append]
      · intro ref lifecycle status member last
        obtain ⟨pod, inside, told⟩ := mem_statuses.mp member
        exact harmless.pods batch collected pod (split ▸ List.mem_append_right _ inside)
          (arePods pod inside) ref lifecycle status told last
  | pods =>
      refine ⟨podPart, _, [], ?_, bringsPods, fun _ _ _ impossible => nomatch impossible⟩
      have none : statuses .pods nodes = [] :=
        List.filterMap_eq_nil_iff.mpr fun node member => status_of_node (areNodes node member)
      rw [split, statuses_append, none, List.nil_append, List.append_nil]

/-- A poll keeps the plane behind its cursor. -/
theorem follows_collect {process : KubernetesProcess} {answers : ApiAnswers}
    (follows : Follows text client cluster process)
    (own : ∀ resource, OwnEntities text client resource (cluster.changes resource))
    (honest : Honest text cluster process.cursor answers)
    (harmless : Harmless text client cluster process answers) :
    Follows text client cluster
      (finalState (collectKubernetes config text client answers process)) := by
  have ownSeen : ∀ cursor resource,
      OwnEntities text client resource (seen cluster cursor resource) := by
    intro cursor resource
    have whole := own resource
    unfold OwnEntities at whole
    rw [← List.take_append_drop (cluster.position resource (cursor.version resource))
      (cluster.changes resource)] at whole
    exact whole.of_append
  rcases collectKubernetes_cases config text client answers process with
    unchanged | ⟨batch, collected, stopped | ⟨reports, next, ran, moved⟩⟩
  · rw [unchanged]
    exact follows
  · rw [stopped]
    refine ⟨?_, fun resource => ?_⟩
    · exact ((publishBatch_mayTell .nodes batch.observations process).2 follows.named).1
    · obtain ⟨part, entries, extra, split, brings, agree⟩ :=
        collectBatch_told honest harmless collected resource
      obtain ⟨kept, tells⟩ := publishBatch_mayTell resource batch.observations process
      rw [kept]
      apply tracks_interrupted (follows.tracks resource) brings (ownSeen _ resource) agree
      rw [← split]
      exact (tells follows.named).2
  · rw [moved]
    have named := ((publishBatch_mayTell .nodes batch.observations).returned ran).2 follows.named
    refine ⟨named.1, fun resource => ?_⟩
    obtain ⟨part, entries, extra, split, brings, agree⟩ :=
      collectBatch_told honest harmless collected resource
    apply tracks_delivered (follows.tracks resource) brings (ownSeen _ resource) agree
    · intro again
      exact harmless.lists batch collected again resource
    · intro ref
      rw [← split]
      exact publishBatch_view follows.named ran resource ref

end Collect

section Run
variable (config : PlaneConfig) (text : Text) (client : KubernetesSourceClient) (cluster : Cluster)

/-- The processes that polls of a server reach. Each poll meets a condition. -/
inductive Reached (meets : KubernetesProcess → ApiAnswers → Prop) : KubernetesProcess → Prop
  | start (operations : List Operation) (bindings : Bindings) :
      Reached meets { world := ⟨runPlane config operations {}, bindings⟩ }
  | poll {process : KubernetesProcess} {answers : ApiAnswers} (before : Reached meets process)
      (honest : Honest text cluster process.cursor answers) (met : meets process answers) :
      Reached meets (finalState (collectKubernetes config text client answers process))

/-- A cursor has caught up when it has read all of the changes. -/
def CaughtUp (cursor : KubernetesWatchCursor) : Prop :=
  ∀ resource, (cluster.changes resource).length ≤
    cluster.position resource (cursor.version resource)

/-- No existing object marks an entity that the changes mark. -/
def Vanished (resource : Resource) (ref : String) : Prop :=
  ref ∈ (marks text client resource (cluster.changes resource)).map Prod.fst ∧
    ∀ change, Exists text resource (cluster.changes resource) change →
      (mark text client resource change).map Prod.fst ≠ some ref

/-- Each materialized entity has its latest lifecycle, and a vanished one is deleted. -/
def Settled (plane : InMemoryStatePlane) : Prop :=
  ∀ resource ref lifecycle, view resource plane ref = some lifecycle →
    (∀ status, latest (marks text client resource (cluster.changes resource)) ref = some status →
      lifecycle = status) ∧
    (Vanished text client cluster resource ref → lifecycle = "deleted")

variable {config text client cluster}

theorem follows_start (operations : List Operation) (bindings : Bindings) :
    Follows text client cluster { world := ⟨runPlane config operations {}, bindings⟩ } := by
  refine ⟨runPlane_named config operations named_empty, fun resource => ?_⟩
  have none : readMarks text client cluster resource {} = [] := by
    unfold readMarks seen
    have blank : ({} : KubernetesWatchCursor).version resource = "" := by cases resource <;> rfl
    rw [blank, cluster.position_empty, List.take_zero]
    rfl
  rw [none]
  exact tracks_nil _ _

/-- Harmless polls keep the plane behind the cursor in every reached process. -/
theorem Reached.follows {process : KubernetesProcess}
    (reached : Reached config text client cluster (Harmless text client cluster) process)
    (own : ∀ resource, OwnEntities text client resource (cluster.changes resource)) :
    Follows text client cluster process := by
  induction reached with
  | start operations bindings => exact follows_start operations bindings
  | poll before honest harmless ih => exact follows_collect ih own honest harmless

/-- A plane that has followed all of the changes is settled. -/
theorem Follows.settled {process : KubernetesProcess}
    (follows : Follows text client cluster process)
    (own : ∀ resource, OwnEntities text client resource (cluster.changes resource))
    (caught : CaughtUp cluster process.cursor) :
    Settled text client cluster process.world.plane := by
  intro resource ref lifecycle held
  have tracks := follows.tracks resource
  have read : readMarks text client cluster resource process.cursor =
      marks text client resource (cluster.changes resource) := by
    unfold readMarks seen
    rw [List.take_of_length_le (caught resource)]
  have unread : unreadMarks text client cluster resource process.cursor = [] := by
    unfold unreadMarks
    rw [List.drop_of_length_le (caught resource)]
    rfl
  rw [read, unread] at tracks
  refine ⟨fun status last => tracks.settled last held, ?_⟩
  rintro ⟨mentioned, none⟩
  cases last : latest (marks text client resource (cluster.changes resource)) ref with
  | none => exact absurd mentioned (latest_eq_none.mp last)
  | some status =>
      rw [tracks.settled last held]
      obtain ⟨change, inside, marked, removed | existing⟩ := live_or_removed (own resource) last
      · exact mark_of_removal removed marked
      · exact absurd (by rw [marked]; rfl) (none change existing)

/-- After harmless polls a process that has caught up holds the latest lifecycles, and it holds
each vanished entity as deleted. -/
theorem settled_of_harmless {process : KubernetesProcess}
    (own : ∀ resource, OwnEntities text client resource (cluster.changes resource))
    (reached : Reached config text client cluster (Harmless text client cluster) process)
    (caught : CaughtUp cluster process.cursor) :
    Settled text client cluster process.world.plane :=
  (reached.follows own).settled own caught

end Run

section Demo

def nodeItemAt (version : String) : List (String × Value) :=
  [("metadata", .dict [("name", .str "node-a"), ("resourceVersion", .str version)]),
    ("status", readyStatus)]

/-- A node is added, and then it is removed. -/
def shortCluster : Cluster where
  changes
    | .nodes => [⟨nodeItemAt "1", false⟩, ⟨nodeItemAt "2", true⟩]
    | .pods => []
  position
    | .nodes, version => if version = "1" then 1 else if version = "2" then 2 else 0
    | .pods, _ => 0
  position_empty := by
    intro resource
    cases resource <;> rfl

def listed (version : String) (items : List Value) : Value :=
  .dict [("metadata", .dict [("resourceVersion", .str version)]), ("items", .list items)]

/-- The node is listed. -/
def firstAnswers : ApiAnswers where
  list
    | .nodes => .ok (listed "1" [.dict (nodeItemAt "1")])
    | .pods => .ok (listed "1" [])
  watch _ _ := .error .client
  clock := 0

/-- The removal is watched. -/
def watchedAnswers : ApiAnswers where
  list _ := .error .client
  watch
    | .nodes, _ => .ok [.dict [("type", .str "DELETED"), ("object", .dict (nodeItemAt "2"))]]
    | .pods, _ => .ok []
  clock := 1

/-- The version of the cursor has expired, and the node is not listed again. -/
def gapAnswers : ApiAnswers where
  list
    | .nodes => .ok (listed "2" [])
    | .pods => .ok (listed "1" [])
  watch _ _ := .error .expired
  clock := 1

def demoClient : KubernetesSourceClient := ⟨"cluster", ""⟩

/-- The adapter is registered before its first poll. -/
def firstOperations : List Operation := [.registerComponent kubernetesAdapter]

def firstProcess : KubernetesProcess :=
  { world := ⟨runPlane defaultConfig firstOperations {}, []⟩ }

/-- The process after the answers of some polls. -/
def polled (answers : List ApiAnswers) : KubernetesProcess :=
  answers.foldl (fun process answers =>
    finalState (collectKubernetes defaultConfig asciiText demoClient answers process)) firstProcess

/-- One more poll reaches the process after its answers. -/
theorem reached_polled {meets : KubernetesProcess → ApiAnswers → Prop} {answers : List ApiAnswers}
    {last : ApiAnswers}
    (reached : Reached defaultConfig asciiText demoClient shortCluster meets (polled answers))
    (honest : Honest asciiText shortCluster (polled answers).cursor last)
    (met : meets (polled answers) last) :
    Reached defaultConfig asciiText demoClient shortCluster meets (polled (answers ++ [last])) := by
  rw [polled, List.foldl_concat]
  exact .poll reached honest met

theorem exists_nodes (item : List (String × Value)) :
    (item ∈ [nodeItemAt "1"] ↔ ∃ change : ClusterChange, change.item = item ∧
      Exists asciiText .nodes ((shortCluster.changes .nodes).take 1) change) ∧
    (item ∈ [] ↔ ∃ change : ClusterChange, change.item = item ∧
      Exists asciiText .nodes ((shortCluster.changes .nodes).take 2) change) := by
  have first : ∀ change, Exists asciiText .nodes ((shortCluster.changes .nodes).take 1) change ↔
      change = ⟨nodeItemAt "1", false⟩ := by
    intro change
    change Live _ _ ([] ++ [⟨nodeItemAt "1", false⟩]) change ↔ _
    rw [live_concat]
    constructor
    · rintro (⟨_, rfl⟩ | ⟨live, _⟩)
      · rfl
      · exact absurd live not_live_nil
    · rintro rfl
      exact Or.inl ⟨rfl, rfl⟩
  have second : ∀ change,
      ¬ Exists asciiText .nodes ((shortCluster.changes .nodes).take 2) change := by
    intro change existing
    change Live _ _ ([⟨nodeItemAt "1", false⟩] ++ [⟨nodeItemAt "2", true⟩]) change at existing
    rcases live_concat.mp existing with ⟨kept, rfl⟩ | ⟨live, other⟩
    · cases kept
    · obtain rfl := (first change).mp live
      exact other (by decide)
  constructor
  · constructor
    · intro member
      rw [List.mem_singleton.mp member]
      exact ⟨_, rfl, (first _).mpr rfl⟩
    · rintro ⟨change, rfl, existing⟩
      rw [(first change).mp existing]
      exact List.mem_singleton.mpr rfl
  · refine ⟨(nomatch ·), ?_⟩
    rintro ⟨change, _, existing⟩
    exact absurd existing (second change)

theorem no_pods (item : List (String × Value)) (count : Nat) :
    item ∈ [] ↔ ∃ change : ClusterChange, change.item = item ∧
      Exists asciiText .pods ((shortCluster.changes .pods).take count) change := by
  refine ⟨(nomatch ·), ?_⟩
  rintro ⟨change, _, existing⟩
  have none : (shortCluster.changes .pods).take count = [] := List.take_nil
  rw [none] at existing
  exact absurd existing not_live_nil

theorem honest_first : Honest asciiText shortCluster {} firstAnswers where
  watches resource values events answered := nomatch answered
  advances resource payload version _ _ := by
    have blank : ({} : KubernetesWatchCursor).version resource = "" := by cases resource <;> rfl
    rw [blank, shortCluster.position_empty]
    exact Nat.zero_le _
  lists resource payload items version answered read versioned item := by
    cases resource with
    | nodes => cases answered; cases read; cases versioned; exact (exists_nodes item).1
    | pods => cases answered; cases read; cases versioned; exact no_pods item _

theorem honest_gap : Honest asciiText shortCluster ⟨"1", "1"⟩ gapAnswers where
  watches resource values events answered := nomatch answered
  advances resource payload version answered versioned := by
    cases resource <;> cases answered <;> cases versioned <;> decide
  lists resource payload items version answered read versioned item := by
    cases resource with
    | nodes => cases answered; cases read; cases versioned; exact (exists_nodes item).2
    | pods => cases answered; cases read; cases versioned; exact no_pods item _

theorem honest_watched : Honest asciiText shortCluster ⟨"1", "1"⟩ watchedAnswers where
  watches resource values events answered read := by
    cases resource with
    | nodes =>
        cases answered
        cases read
        exact ⟨_, .change rfl rfl (by decide +kernel) (by decide) (by decide) (.done 2)⟩
    | pods =>
        cases answered
        cases read
        exact ⟨_, .done 0⟩
  advances resource payload version answered := nomatch answered
  lists resource payload items version answered := nomatch answered

theorem marks_short :
    mark asciiText demoClient .nodes ⟨nodeItemAt "1", false⟩ =
        some ("deployment/node/node-a", "ready") ∧
      mark asciiText demoClient .nodes ⟨nodeItemAt "2", true⟩ =
        some ("deployment/node/node-a", "deleted") := by
  decide +kernel

theorem own_short (resource : Resource) :
    OwnEntities asciiText demoClient resource (shortCluster.changes resource) := by
  intro before change between later after split kept others entry marked
  cases resource with
  | pods => simp [shortCluster] at split
  | nodes =>
      have lengths := congrArg List.length split
      simp [shortCluster] at lengths
      obtain rfl : before = [] := List.length_eq_zero_iff.mp (by omega)
      obtain rfl : between = [] := List.length_eq_zero_iff.mp (by omega)
      obtain rfl : after = [] := List.length_eq_zero_iff.mp (by omega)
      simp only [shortCluster, List.nil_append, List.cons.injEq, and_true] at split
      obtain ⟨rfl, rfl⟩ := split
      cases marks_short.1.symm.trans marked
      rw [marks_short.2]
      exact ⟨fun _ => rfl, fun _ => rfl⟩

/-- The facts that a batch of the demonstration is checked for. -/
def checks (answers : ApiAnswers) (cursor next : KubernetesWatchCursor) (relisted : Bool) : Bool :=
  match collectBatch asciiText demoClient answers cursor with
  | .ok batch => decide (batch.cursor.nodeResourceVersion = next.nodeResourceVersion) &&
      decide (batch.cursor.podResourceVersion = next.podResourceVersion) &&
      batch.relisted == relisted && batch.observations.all DeploymentObservation.ofNode
  | .error _ => false

theorem checks_ok {answers : ApiAnswers} {cursor next : KubernetesWatchCursor} {relisted : Bool}
    (checked : checks answers cursor next relisted = true) {batch : KubernetesWatchBatch}
    (collected : collectBatch asciiText demoClient answers cursor = .ok batch) :
    batch.cursor = next ∧ batch.relisted = relisted ∧
      ∀ observation ∈ batch.observations, observation.ofNode = true := by
  unfold checks at checked
  rw [collected] at checked
  simp only [Bool.and_eq_true, decide_eq_true_eq, beq_iff_eq, List.all_eq_true] at checked
  obtain ⟨⟨⟨nodes, pods⟩, again⟩, own⟩ := checked
  refine ⟨?_, again, own⟩
  cases cursor' : batch.cursor
  cases next
  simp_all

theorem batches_checked :
    checks firstAnswers {} ⟨"1", "1"⟩ true = true ∧
      checks watchedAnswers ⟨"1", "1"⟩ ⟨"2", "1"⟩ false = true := by
  decide +kernel

/-- Both versions of a cursor. -/
def versions (cursor : KubernetesWatchCursor) : String × String :=
  (cursor.nodeResourceVersion, cursor.podResourceVersion)

theorem cursor_of_versions {cursor : KubernetesWatchCursor} {nodes pods : String}
    (read : versions cursor = (nodes, pods)) : cursor = ⟨nodes, pods⟩ := by
  cases cursor
  cases read
  rfl

/-- The versions that the demonstration reads, and the lifecycle that its gap leaves. -/
theorem polls_computed :
    versions (polled [firstAnswers]).cursor = ("1", "1") ∧
      versions (polled [firstAnswers, watchedAnswers]).cursor = ("2", "1") ∧
      versions (polled [firstAnswers, gapAnswers]).cursor = ("2", "1") ∧
      view .nodes (polled [firstAnswers, gapAnswers]).world.plane "deployment/node/node-a" =
        some "ready" := by
  decide +kernel

theorem polled_cursor : (polled [firstAnswers]).cursor = ⟨"1", "1"⟩ :=
  cursor_of_versions polls_computed.1

theorem caughtUp_short {cursor : KubernetesWatchCursor} (read : versions cursor = ("2", "1")) :
    CaughtUp shortCluster cursor := by
  rw [cursor_of_versions read]
  intro resource
  cases resource <;> decide

theorem reached_first {meets : KubernetesProcess → ApiAnswers → Prop}
    (met : meets firstProcess firstAnswers) :
    Reached defaultConfig asciiText demoClient shortCluster meets (polled [firstAnswers]) :=
  @reached_polled meets [] firstAnswers (.start firstOperations []) honest_first met

theorem harmless_first :
    Harmless asciiText demoClient shortCluster firstProcess firstAnswers := by
  have checked := batches_checked.1
  have nodes : readMarks asciiText demoClient shortCluster .nodes ⟨"1", "1"⟩ =
      [("deployment/node/node-a", "ready")] := by
    change List.filterMap _ [_] = _
    rw [List.filterMap_cons, marks_short.1]
    rfl
  constructor
  · intro batch collected pod member isPod
    have own := (checks_ok checked collected).2.2 pod member
    rw [isPod] at own
    cases own
  · intro batch collected again resource ref last
    rw [(checks_ok checked collected).1] at last
    have member := mem_of_latest last
    cases resource with
    | nodes =>
        rw [nodes] at member
        simp at member
    | pods => cases member

theorem harmless_watched :
    Harmless asciiText demoClient shortCluster (polled [firstAnswers]) watchedAnswers := by
  have checked := batches_checked.2
  constructor
  · intro batch collected pod member isPod
    rw [polled_cursor] at collected
    have own := (checks_ok checked collected).2.2 pod member
    rw [isPod] at own
    cases own
  · intro batch collected again
    rw [polled_cursor] at collected
    rw [(checks_ok checked collected).2.1] at again
    cases again

/-- A list and the watch of a removal settle the node. -/
theorem settled_of_watch : Settled asciiText demoClient shortCluster
    (polled [firstAnswers, watchedAnswers]).world.plane :=
  settled_of_harmless own_short
    (reached_polled (reached_first harmless_first) (polled_cursor ▸ honest_watched)
      harmless_watched)
    (caughtUp_short polls_computed.2.1)

/-- The node of a gap stays ready. -/
theorem gap_keeps_vanished : ∃ process,
    Reached defaultConfig asciiText demoClient shortCluster (fun _ _ => True) process ∧
      CaughtUp shortCluster process.cursor ∧
      Vanished asciiText demoClient shortCluster .nodes "deployment/node/node-a" ∧
      view .nodes process.world.plane "deployment/node/node-a" = some "ready" ∧
      ¬ Settled asciiText demoClient shortCluster process.world.plane := by
  have vanished : Vanished asciiText demoClient shortCluster .nodes "deployment/node/node-a" := by
    have mentioned : ("deployment/node/node-a", "ready") ∈
        marks asciiText demoClient .nodes (shortCluster.changes .nodes) :=
      List.mem_filterMap.mpr ⟨_, List.mem_cons_self, marks_short.1⟩
    refine ⟨List.mem_map_of_mem mentioned, fun change existing => ?_⟩
    have gone := (exists_nodes change.item).2.mpr ⟨change, rfl, existing⟩
    cases gone
  obtain ⟨_, _, read, ready⟩ := polls_computed
  refine ⟨polled [firstAnswers, gapAnswers],
    reached_polled (reached_first trivial) (polled_cursor ▸ honest_gap) trivial,
    caughtUp_short read, vanished, ready, fun settled => ?_⟩
  have wrong := (settled .nodes _ _ ready).2 vanished
  exact absurd wrong (by decide)

end Demo

end StateFlow.Adapters
