import StateFlow.Construction.Adapters.KubernetesWatch
import StateFlow.Library.Selection
import StateFlow.Proof.Adapters.Polls
import StateFlow.Proof.Plane.Entities

namespace StateFlow.Adapters
open Python Table Effect Plane Selection

section Refs

theorem quote_ne_empty {text : String} (present : text ≠ "") : quote text ≠ "" := by
  intro empty
  have letters : text.toList ≠ [] := fun none => present (String.toList_eq_nil_iff.mp none)
  obtain ⟨letter, rest, split⟩ := List.exists_cons_of_ne_nil letters
  have quoted := congrArg String.toList empty
  unfold quote at quoted
  rw [split] at quoted
  simp only [List.flatMap_cons, String.toList_ofList, String.toList_empty, List.append_eq_nil_iff,
    List.flatMap_eq_nil_iff] at quoted
  have bytes : String.utf8EncodeChar letter ≠ [] := by
    intro none
    have size := String.length_utf8EncodeChar letter
    rw [none] at size
    exact absurd size (Char.utf8Size_pos letter).ne
  obtain ⟨byte, _, first⟩ := List.exists_cons_of_ne_nil bytes
  have blank := quoted.1 byte (first ▸ List.mem_cons_self)
  unfold quoteByte at blank
  split at blank <;> cases blank

/-- A reference is its prefix and a quoted identifier. -/
theorem entityRef_ok {graph : GraphKind} {entityType identifier ref : String}
    (built : entityRef graph entityType identifier = .ok ref) :
    strip identifier ≠ "" ∧ ref = graph.refPrefix entityType ++ quote (strip identifier) := by
  unfold entityRef at built
  simp only at built
  split at built
  · cases built
  · rename_i present
    cases built
    exact ⟨present, rfl⟩

theorem entityRef_ne_empty {graph : GraphKind} {entityType identifier ref : String}
    (built : entityRef graph entityType identifier = .ok ref) : ref ≠ "" := by
  obtain ⟨_, rfl⟩ := entityRef_ok built
  intro empty
  have letters := congrArg String.toList empty
  rw [GraphKind.refPrefix, String.toList_append, String.toList_append, String.toList_append,
    String.toList_append] at letters
  simp at letters

/-- A built reference names an entity of its type. -/
theorem make_of_entityRef {graph : GraphKind} {entityType identifier ref : String}
    (built : entityRef graph entityType identifier = .ok ref)
    (allowed : entityType ∈ graph.entityTypes) (lifecycle owner : String)
    (labels : List (String × String)) :
    ∃ entity, GraphEntity.make ref graph entityType lifecycle owner labels = .ok entity ∧
      entity.lifecycle = lifecycle ∧ entity.labels = .ofList labels := by
  unfold entityRef at built
  simp only at built
  split at built
  · cases built
  · rename_i present
    cases built
    have quoted := quote_ne_empty present
    have named : (graph.refPrefix entityType ++ quote (strip identifier)).startsWith
          (graph.refPrefix entityType) = true ∧
        (graph.refPrefix entityType ++ quote (strip identifier)).length ≠
          (graph.refPrefix entityType).length := by
      constructor
      · rw [String.startsWith_string_iff, String.toList_append]
        exact List.prefix_append _ _
      · rw [String.length_append]
        intro same
        exact quoted (String.length_eq_zero_iff.mp (by omega))
    unfold GraphEntity.make
    rw [dif_pos allowed, dif_pos named]
    exact ⟨_, rfl, rfl, rfl⟩

end Refs

section Projection
variable (observation : DeploymentObservation)

/-- The node entity that an observation projects. A blank identifier projects none. -/
def nodeProjection : Except Exception GraphEntity := do
  let clusterRef ← clusterRef observation.clusterId
  let nodeRef ← nodeRef observation.nodeId
  observation.nodeEntity clusterRef nodeRef

/-- These facts hold of a projected node. -/
structure ProjectsNode (entity : GraphEntity) : Prop where
  entityType : entity.entityType = "node"
  lifecycle : entity.lifecycle = observation.nodeLifecycle
  labels : entity.labels = .ofList observation.nodeLabels

variable {observation} in
theorem ProjectsNode.label {entity : GraphEntity} (projects : ProjectsNode observation entity)
    (name : String) : entity.labels.lookup name = observation.nodeLabels.lookup name := by
  rw [projects.labels, Mapping.lookup_ofList]

theorem nodeEntity_ok {clusterRef nodeRef : String} {entity : GraphEntity}
    (made : observation.nodeEntity clusterRef nodeRef = .ok entity) :
    entity.ref = nodeRef ∧ ProjectsNode observation entity := by
  unfold DeploymentObservation.nodeEntity at made
  obtain ⟨plain, built, finished⟩ := except_bind_ok made
  obtain ⟨named, _, typed⟩ := make_ok built
  unfold GraphEntity.make at built
  split at built
  · split at built
    · cases built
      cases finished
      exact ⟨rfl, rfl, rfl, rfl⟩
    · cases built
  · cases built

theorem nodeProjection_ok {entity : GraphEntity}
    (projected : nodeProjection observation = .ok entity) : ProjectsNode observation entity := by
  unfold nodeProjection at projected
  obtain ⟨clusterRef, _, named⟩ := except_bind_ok projected
  obtain ⟨nodeRef, _, made⟩ := except_bind_ok named
  exact (nodeEntity_ok observation made).2

end Projection

section Publish
variable {config : PlaneConfig} {now : Int} {observation : DeploymentObservation}

/-- A type of the deployment graph. -/
def HasType (entityType ref : String) : Prop :=
  ∃ entity : GraphEntity, entity.ref = ref ∧ entity.entityType = entityType

theorem ref_ne_of_type {entity : GraphEntity} {entityType ref : String}
    (typed : HasType entityType ref) (other : entity.entityType ≠ entityType) :
    ref ≠ entity.ref := by
  obtain ⟨own, rfl, same⟩ := typed
  intro equal
  exact other ((kind_of_ref equal).2 ▸ same)

/-- A reference has one type. -/
theorem not_hasType {first second ref : String} (typed : HasType first ref)
    (other : second ≠ first) : ¬ HasType second ref := by
  rintro ⟨entity, same, type⟩
  exact ref_ne_of_type typed (by rw [type]; exact other) same.symm

/-- This frame keeps one entity. -/
def holdsEntity (ref : String) : Frame InMemoryStatePlane :=
  Frame.fixes fun plane => plane.entities.lookup ref

theorem holdsEntity_of_entities {A : Type} {program : PlaneAction A} (ref : String)
    (fixed : Within (Frame.fixes InMemoryStatePlane.entities) program) :
    Within (holdsEntity ref) program := by
  intro plane
  exact congrArg (fun entities => List.lookup ref entities) (fixed plane)

theorem upsertEntity_elsewhere {entity : GraphEntity} {ref : String} (other : ref ≠ entity.ref) :
    Within (holdsEntity ref) (upsertEntity config now entity) := by
  intro plane
  rw [upsertEntity_run]
  split
  · split
    · rfl
    · split
      · rfl
      · exact lookup_assign_other other _ _
  · exact lookup_assign_other other _ _

theorem ensureEntity_elsewhere {entity : GraphEntity} {ref : String} (other : ref ≠ entity.ref) :
    Within (holdsEntity ref) (ensureEntity config now entity) := by
  unfold ensureEntity
  apply within_bind within_get
  intro plane
  split
  · exact upsertEntity_elsewhere other
  · exact within_pure _

/-- The entity of a runtime never replaces one of the deployment graph. -/
theorem relateRuntime_elsewhere {entityType ref : String} (typed : HasType entityType ref)
    (deployed : entityType ≠ "component") (runtimeRef instanceRef : String) :
    Within ((holdsEntity ref).on World.plane)
      (relateRuntime config now observation runtimeRef instanceRef) := by
  unfold relateRuntime
  split
  · exact within_pure _
  · apply within_seq
    · apply onPlane_within
      apply within_lift_bind
      intro entity made
      apply ensureEntity_elsewhere (ref_ne_of_type typed ?_)
      rw [(make_ok made).2.2]
      exact deployed.symm
    · exact within_seq (onBindings_within _ _) (within_pure _)

/-- The writes of an observation leave the entities alone. -/
theorem publishWrites_frame {frame : Frame InMemoryStatePlane}
    (kept : ∀ {C : Type} {program : PlaneAction C},
      Within (Frame.fixes InMemoryStatePlane.entities) program → Within frame program)
    (updates : List StateUpdate) (relations : List RelationUpdate) :
    Within (frame.on World.plane) (publishWrites config observation updates relations) := by
  unfold publishWrites
  apply within_bind (onPlane_within (kept (within_mapM fun update _ =>
    publishOne_entities config update)))
  intro stateResults
  apply within_bind (onPlane_within (kept (within_mapM fun update _ =>
    upsertRelation_entities config update)))
  intro relationResults
  exact within_seq (onPlane_within (kept (heartbeat_entities _))) (within_pure _)

theorem ensureEntity_keepsNamed (config : PlaneConfig) (now : Int) (entity : GraphEntity) :
    Within (Frame.keeps Named) (ensureEntity config now entity) := by
  unfold ensureEntity
  apply within_bind within_get
  intro plane
  split
  · exact upsertEntity_keepsNamed config now entity
  · exact within_pure _

theorem relateRuntime_keepsNamed (runtimeRef instanceRef : String) :
    Within ((Frame.keeps Named).on World.plane)
      (relateRuntime config now observation runtimeRef instanceRef) := by
  unfold relateRuntime
  split
  · exact within_pure _
  · apply within_seq
    · exact onPlane_within (within_lift_bind fun entity _ => ensureEntity_keepsNamed config now entity)
    · exact within_seq (onBindings_within _ _) (within_pure _)

theorem instanceEntity_ok {nodeRef instanceRef runtimeRef : String} {entity : GraphEntity}
    (made : observation.instanceEntity nodeRef instanceRef runtimeRef = .ok entity) :
    entity.ref = instanceRef ∧ entity.entityType = "instance" ∧
      entity.lifecycle = observation.instanceLifecycle := by
  unfold DeploymentObservation.instanceEntity at made
  obtain ⟨plain, built, finished⟩ := except_bind_ok made
  unfold GraphEntity.make at built
  split at built
  · split at built
    · cases built
      cases finished
      exact ⟨rfl, rfl, rfl⟩
    · cases built
  · cases built

/-- An instance never replaces an entity of another type. -/
theorem projectInstance_elsewhere {entityType ref : String} (typed : HasType entityType ref)
    (other : entityType ∉ ["instance", "component"]) (nodeRef : String) :
    Within ((holdsEntity ref).on World.plane)
      (projectInstance config now observation nodeRef) := by
  simp only [List.mem_cons, List.not_mem_nil, or_false, not_or] at other
  unfold projectInstance
  split
  · exact within_pure _
  · apply within_lift_bind
    intro instanceRef _
    apply within_bind (within_lift _)
    intro runtimeRef
    apply within_seq
    · apply onPlane_within
      apply within_lift_bind
      intro entity made
      apply upsertEntity_elsewhere (ref_ne_of_type typed ?_)
      rw [(instanceEntity_ok made).2.1]
      exact Ne.symm other.1
    · apply within_seq (onBindings_within _ _)
      exact within_bind (relateRuntime_elsewhere typed other.2 _ _) fun _ => within_pure _

theorem projectInstance_keepsNamed (nodeRef : String) :
    Within ((Frame.keeps Named).on World.plane)
      (projectInstance config now observation nodeRef) := by
  unfold projectInstance
  split
  · exact within_pure _
  · apply within_bind (within_lift _)
    intro instanceRef
    apply within_bind (within_lift _)
    intro runtimeRef
    apply within_seq
    · exact onPlane_within (within_lift_bind fun entity _ =>
        upsertEntity_keepsNamed config now entity)
    · apply within_seq (onBindings_within _ _)
      exact within_bind (relateRuntime_keepsNamed _ _) fun _ => within_pure _

/-- What `publish` does after the projection of its node. -/
def publishRest (config : PlaneConfig) (now : Int) (observation : DeploymentObservation)
    (clusterRef nodeRef : String) : EStateM Exception World AdapterPublishReport := do
  onBindings (bind clusterRef [("cluster_id", observation.clusterId)])
  onBindings (bind nodeRef [("node_id", observation.nodeId)])
  let projected ← projectInstance config now observation nodeRef
  publishWrites config observation (deploymentUpdates observation nodeRef projected.1)
    (observation.relation kubernetesAdapter.componentId clusterRef "contains" nodeRef
      "cluster_contains_node" :: projected.2)

theorem publishRest_frame {frame : Frame InMemoryStatePlane} {clusterRef nodeRef : String}
    (kept : ∀ {C : Type} {program : PlaneAction C},
      Within (Frame.fixes InMemoryStatePlane.entities) program → Within frame program)
    (projects : Within (frame.on World.plane) (projectInstance config now observation nodeRef)) :
    Within (frame.on World.plane) (publishRest config now observation clusterRef nodeRef) := by
  unfold publishRest
  apply within_seq (onBindings_within _ _)
  apply within_seq (onBindings_within _ _)
  exact within_bind projects fun _ => publishWrites_frame kept _ _

theorem onPlane_of_ok {A : Type} {action : PlaneAction A} {world : World} {value : A}
    {plane : InMemoryStatePlane} (ran : action world.plane = .ok value plane) :
    onPlane action world = .ok value { world with plane := plane } :=
  zoom_of_ok ran

/-- A named world stores the cluster and the node before the rest of an observation. -/
theorem publishDeployment_run (config : PlaneConfig) (now : Int) {world : World} {entity : GraphEntity}
    (named : Named world.plane) (projected : nodeProjection observation = .ok entity) :
    ∃ clusterRef middle, publishDeployment config now observation world =
        publishRest config now observation clusterRef entity.ref middle ∧
      Named middle.plane ∧ ∀ ref, ¬ HasType "cluster" ref → middle.plane.entities.lookup ref =
        if ref = entity.ref then some entity else world.plane.entities.lookup ref := by
  unfold nodeProjection at projected
  obtain ⟨clusterRef, cluster, naming⟩ := except_bind_ok projected
  obtain ⟨nodeRef, node, made⟩ := except_bind_ok naming
  obtain ⟨rfl, _⟩ := nodeEntity_ok observation made
  obtain ⟨clusterEntity, clusterMade, _⟩ := make_of_entityRef cluster (by decide) "active" ""
    [("cluster_id", observation.clusterId)]
  obtain ⟨first, ranFirst, storedFirst⟩ := upsertEntity_named config now clusterEntity named
  have namedFirst := named_of_lookup named storedFirst
  obtain ⟨second, ranSecond, storedSecond⟩ := upsertEntity_named config now entity namedFirst
  refine ⟨clusterRef, ⟨second, world.bindings⟩, ?_, named_of_lookup namedFirst storedSecond, ?_⟩
  · have clusterBuilt : observation.clusterEntity clusterRef = .ok clusterEntity := clusterMade
    unfold publishDeployment
    rw [bind_of_ok (lift_of_ok cluster world), bind_of_ok (lift_of_ok node world),
      bind_of_ok (onPlane_of_ok ((bind_of_ok (lift_of_ok clusterBuilt world.plane)).trans ranFirst)),
      bind_of_ok (onPlane_of_ok ((bind_of_ok (lift_of_ok made first)).trans ranSecond))]
    rfl
  · intro ref apart
    rw [storedSecond]
    split
    · rfl
    · rw [storedFirst, if_neg]
      intro same
      exact apart ⟨clusterEntity, same.symm, (make_ok clusterMade).2.2⟩

/-- An observation without a projection changes nothing. -/
theorem publishDeployment_unprojected (config : PlaneConfig) (now : Int) (world : World)
    {exception : Exception} (failed : nodeProjection observation = .error exception) :
    publishDeployment config now observation world = .error exception world := by
  unfold publishDeployment
  unfold nodeProjection at failed
  cases cluster : clusterRef observation.clusterId with
  | error raised =>
      rw [cluster] at failed
      cases failed
      rfl
  | ok clusterRef =>
      rw [cluster] at failed
      rw [bind_of_ok (lift_of_ok rfl world)]
      cases node : nodeRef observation.nodeId with
      | error raised =>
          rw [node] at failed
          cases failed
          rfl
      | ok nodeRef =>
          rw [node] at failed
          obtain ⟨plain, made, _⟩ := make_of_entityRef node (by decide) observation.nodeLifecycle ""
            observation.nodeLabels
          change observation.nodeEntity clusterRef nodeRef = _ at failed
          unfold DeploymentObservation.nodeEntity at failed
          rw [made] at failed
          cases failed

theorem publishDeployment_keepsNamed (config : PlaneConfig) (now : Int)
    (observation : DeploymentObservation) :
    Within ((Frame.keeps Named).on World.plane) (publishDeployment config now observation) := by
  intro world named
  cases projected : nodeProjection observation with
  | error exception =>
      rw [publishDeployment_unprojected config now world projected]
      exact named
  | ok entity =>
      obtain ⟨clusterRef, middle, ran, kept, _⟩ := publishDeployment_run config now named projected
      rw [ran]
      exact publishRest_frame keepsNamed_of_entities (projectInstance_keepsNamed _) middle kept

/-- What a projected entity leaves of the entity under a reference. -/
def leaves (projected : Except Exception GraphEntity) (ref : String) (held : Option GraphEntity) :
    Option GraphEntity :=
  match projected with
  | .ok entity => if ref = entity.ref then some entity else held
  | .error _ => held

/-- An observation sets the entity of its node and no other node. -/
theorem publishDeployment_node (config : PlaneConfig) (now : Int) {world : World}
    (named : Named world.plane) {ref : String} (typed : HasType "node" ref) :
    (finalState (publishDeployment config now observation world)).plane.entities.lookup ref =
      leaves (nodeProjection observation) ref (world.plane.entities.lookup ref) := by
  cases projected : nodeProjection observation with
  | error exception => rw [publishDeployment_unprojected config now world projected]; rfl
  | ok entity =>
      obtain ⟨clusterRef, middle, ran, _, stored⟩ :=
        publishDeployment_run config now named projected
      have rest : Within ((holdsEntity ref).on World.plane)
          (publishRest config now observation clusterRef entity.ref) :=
        publishRest_frame (holdsEntity_of_entities ref)
          (projectInstance_elsewhere typed (by decide) _)
      rw [ran]
      exact (rest middle).trans (stored ref (not_hasType typed (by decide)))

/-- The instance entity that an observation projects. -/
def instanceProjection (observation : DeploymentObservation) : Except Exception GraphEntity := do
  let node ← nodeProjection observation
  if observation.instanceId = "" then throw .valueError
  let instanceRef ← instanceRef observation.instanceId
  let runtimeRef ← observation.ownerRef
  observation.instanceEntity node.ref instanceRef runtimeRef

theorem instanceProjection_eq {node : GraphEntity} {instanceRef runtimeRef : String}
    (projected : nodeProjection observation = .ok node) (present : observation.instanceId ≠ "")
    (named : Adapters.instanceRef observation.instanceId = .ok instanceRef)
    (owned : observation.ownerRef = .ok runtimeRef) :
    instanceProjection observation =
      observation.instanceEntity node.ref instanceRef runtimeRef := by
  unfold instanceProjection
  rw [projected, named, owned]
  simp only [if_neg present]
  rfl

theorem instanceProjection_ok {entity : GraphEntity}
    (projected : instanceProjection observation = .ok entity) :
    entity.entityType = "instance" ∧ entity.lifecycle = observation.instanceLifecycle := by
  unfold instanceProjection at projected
  obtain ⟨node, _, first⟩ := except_bind_ok projected
  split at first
  · obtain ⟨_, raised, _⟩ := except_bind_ok first
    cases raised
  · obtain ⟨instanceRef, _, second⟩ := except_bind_ok first
    obtain ⟨runtimeRef, _, made⟩ := except_bind_ok second
    exact (instanceEntity_ok made).2

/-- This frame keeps an entity or stores the instance of an observation. -/
def mayStore (observation : DeploymentObservation) (ref : String) : Frame InMemoryStatePlane where
  rel before after := after.entities.lookup ref = before.entities.lookup ref ∨
    ∃ entity, instanceProjection observation = .ok entity ∧ entity.ref = ref ∧
      after.entities.lookup ref = some entity
  refl _ := Or.inl rfl
  trans first second := by
    rcases second with kept | stored
    · rcases first with same | ⟨entity, projected, named, found⟩
      · exact Or.inl (kept.trans same)
      · exact Or.inr ⟨entity, projected, named, kept.trans found⟩
    · exact Or.inr stored

theorem mayStore_of_holds {A : Type} {program : EStateM Exception World A} {ref : String}
    (inside : Within ((holdsEntity ref).on World.plane) program) :
    Within ((mayStore observation ref).on World.plane) program :=
  fun world => Or.inl (inside world)

theorem projectInstance_mayStore {node : GraphEntity} {ref : String}
    (projected : nodeProjection observation = .ok node) (typed : HasType "instance" ref) :
    Within ((mayStore observation ref).on World.plane)
      (projectInstance config now observation node.ref) := by
  unfold projectInstance
  split
  · exact within_pure _
  · rename_i present
    apply within_lift_bind
    intro instanceRef named
    apply within_lift_bind
    intro runtimeRef owned
    apply within_seq
    · apply onPlane_within
      apply within_lift_bind
      intro entity made plane
      have projects := (instanceProjection_eq projected present named owned).trans made
      rw [upsertEntity_run]
      by_cases own : ref = entity.ref
      · split
        · split
          · exact Or.inl rfl
          · split
            · exact Or.inl rfl
            · exact Or.inr ⟨entity, projects, own.symm, own ▸ lookup_assign_same _ _ _⟩
        · exact Or.inr ⟨entity, projects, own.symm, own ▸ lookup_assign_same _ _ _⟩
      · rw [← upsertEntity_run]
        exact Or.inl (upsertEntity_elsewhere own plane)
    · apply within_seq (mayStore_of_holds (onBindings_within _ _))
      apply within_bind (mayStore_of_holds (relateRuntime_elsewhere typed (by decide) _ _))
      intro deployed
      exact within_pure _

/-- An observation sets the entity of its instance or leaves it, also when it raises. -/
theorem publishDeployment_mayStore (config : PlaneConfig) (now : Int) {world : World}
    (named : Named world.plane) {ref : String} (typed : HasType "instance" ref) :
    (mayStore observation ref).rel world.plane
      (finalState (publishDeployment config now observation world)).plane := by
  cases projected : nodeProjection observation with
  | error exception =>
      rw [publishDeployment_unprojected config now world projected]
      exact Or.inl rfl
  | ok node =>
      obtain ⟨clusterRef, middle, ran, _, stored⟩ :=
        publishDeployment_run config now named projected
      have rest : Within ((mayStore observation ref).on World.plane)
          (publishRest config now observation clusterRef node.ref) :=
        publishRest_frame (fun fixed plane => Or.inl (holdsEntity_of_entities ref fixed plane))
          (projectInstance_mayStore projected typed)
      have before := stored ref (not_hasType typed (by decide))
      rw [if_neg (ref_ne_of_type typed (by rw [(nodeProjection_ok _ projected).entityType]; decide))]
        at before
      rw [ran]
      exact (mayStore observation ref).trans (Or.inl before) (rest middle)

/-- A returned projection of an instance sets its entity and no other instance. -/
theorem projectInstance_stored {node : GraphEntity} {ref : String} {world next : World}
    {result : String × List RelationUpdate} (projected : nodeProjection observation = .ok node)
    (typed : HasType "instance" ref)
    (returned : projectInstance config now observation node.ref world = .ok result next) :
    next.plane.entities.lookup ref =
      leaves (instanceProjection observation) ref (world.plane.entities.lookup ref) := by
  unfold projectInstance at returned
  split at returned
  · rename_i blank
    cases returned
    have none : instanceProjection observation = .error .valueError := by
      unfold instanceProjection
      rw [projected]
      simp only [if_pos blank]
      rfl
    rw [none]
    rfl
  · rename_i present
    obtain ⟨instanceRef, _, lifted, first⟩ := bind_ok returned
    obtain ⟨named, rfl⟩ := lift_ok lifted
    obtain ⟨runtimeRef, _, relifted, second⟩ := bind_ok first
    obtain ⟨owned, rfl⟩ := lift_ok relifted
    obtain ⟨_, upserted, upserts, third⟩ := bind_ok second
    obtain ⟨_, bound, binds, fourth⟩ := bind_ok third
    obtain ⟨deployed, related, relates, finished⟩ := bind_ok fourth
    cases finished
    obtain ⟨plane, inner, rfl⟩ := zoom_ok upserts
    obtain ⟨entity, _, making, storing⟩ := bind_ok inner
    obtain ⟨made, rfl⟩ := lift_ok making
    have projects := (instanceProjection_eq projected present named owned).trans made
    have kept : next.plane.entities.lookup ref = plane.entities.lookup ref := by
      have late := (relateRuntime_elsewhere typed (by decide) runtimeRef instanceRef).returned
        relates
      have early := (onBindings_within (holdsEntity ref) _).returned binds
      exact late.trans early
    rw [kept, projects, leaves]
    split
    · rename_i own
      rw [own]
      exact upsertEntity_ok storing
    · rename_i other
      exact (upsertEntity_elsewhere other).returned storing

/-- A returned observation sets the entity of its instance and no other instance. -/
theorem publishDeployment_instance {world next : World} {report : AdapterPublishReport}
    (named : Named world.plane)
    (returned : publishDeployment config now observation world = .ok report next) {ref : String}
    (typed : HasType "instance" ref) :
    next.plane.entities.lookup ref =
      leaves (instanceProjection observation) ref (world.plane.entities.lookup ref) := by
  cases projected : nodeProjection observation with
  | error exception =>
      rw [publishDeployment_unprojected config now world projected] at returned
      cases returned
  | ok node =>
      obtain ⟨clusterRef, middle, ran, _, stored⟩ :=
        publishDeployment_run config now named projected
      have before := stored ref (not_hasType typed (by decide))
      rw [if_neg (ref_ne_of_type typed (by rw [(nodeProjection_ok _ projected).entityType]; decide))]
        at before
      rw [ran] at returned
      unfold publishRest at returned
      obtain ⟨_, bound, binds, first⟩ := bind_ok returned
      obtain ⟨_, rebound, rebinds, second⟩ := bind_ok first
      obtain ⟨result, related, projects, third⟩ := bind_ok second
      have stored := projectInstance_stored projected typed projects
      have kept : next.plane.entities.lookup ref = related.plane.entities.lookup ref :=
        (publishWrites_frame (holdsEntity_of_entities ref) _ _).returned third
      have same : rebound.plane.entities.lookup ref = world.plane.entities.lookup ref := by
        have early := (onBindings_within (holdsEntity ref) _).returned binds
        have late := (onBindings_within (holdsEntity ref) _).returned rebinds
        exact (late.trans early).trans before
      rw [kept, stored, same]

end Publish

section Run
variable (config : PlaneConfig)

/-- An observation arrives at an instant. -/
structure Arrival where
  now : Int
  observation : DeploymentObservation

/-- The world after some observations, also when some of them raise. -/
def publishAll (arrivals : List Arrival) (world : World) : World :=
  arrivals.foldl (fun world arrival =>
    finalState (publishDeployment config arrival.now arrival.observation world)) world

/-- Only an observation of a node reports its health. -/
def DeploymentObservation.ofNode (observation : DeploymentObservation) : Bool :=
  observation.nodeHealth.isSome

/-- The reference of the node that an observation projects. -/
def projectedRef (observation : DeploymentObservation) : Option String :=
  (nodeProjection observation).toOption.map GraphEntity.ref

/-- The latest observation of the node with a reference. -/
def latestNode (arrivals : List Arrival) (ref : String) : Option DeploymentObservation :=
  (lastWith projectedRef (some ref)
    ((arrivals.map Arrival.observation).filter DeploymentObservation.ofNode))

/-- Two observations agree on the lifecycle and on the labels of the node. -/
def SameFace (first second : DeploymentObservation) : Prop :=
  first.nodeLifecycle = second.nodeLifecycle ∧
    ∀ name, first.nodeLabels.lookup name = second.nodeLabels.lookup name

/-- Each observed node has the lifecycle and the labels of its latest observation. -/
def NodesFollow (arrivals : List Arrival) (plane : InMemoryStatePlane) : Prop :=
  ∀ ref observation, latestNode arrivals ref = some observation →
    ∃ entity, plane.entities.lookup ref = some entity ∧
      entity.lifecycle = observation.nodeLifecycle ∧
      ∀ name, entity.labels.lookup name = observation.nodeLabels.lookup name

/-- Each observation of a pod agrees with the latest observation of its node. -/
def PodsAgree (arrivals : List Arrival) : Prop :=
  ∀ before pod after, arrivals = before ++ pod :: after → pod.observation.ofNode = false →
    ∀ ref observation, projectedRef pod.observation = some ref →
      latestNode before ref = some observation → SameFace pod.observation observation

variable {config}

theorem projectedRef_some {observation : DeploymentObservation} {ref : String}
    (projected : projectedRef observation = some ref) :
    ∃ entity, nodeProjection observation = .ok entity ∧ entity.ref = ref := by
  unfold projectedRef at projected
  cases found : nodeProjection observation with
  | error exception => rw [found] at projected; cases projected
  | ok entity =>
      rw [found] at projected
      cases projected
      exact ⟨entity, rfl, rfl⟩

theorem hasType_of_projectedRef {observation : DeploymentObservation} {ref : String}
    (projected : projectedRef observation = some ref) : HasType "node" ref := by
  obtain ⟨entity, found, rfl⟩ := projectedRef_some projected
  exact ⟨entity, rfl, (nodeProjection_ok observation found).entityType⟩

theorem publishAll_concat (config : PlaneConfig) (arrivals : List Arrival) (arrival : Arrival)
    (world : World) : publishAll config (arrivals ++ [arrival]) world =
      finalState (publishDeployment config arrival.now arrival.observation
        (publishAll config arrivals world)) := by
  unfold publishAll
  rw [List.foldl_append]
  rfl

theorem publishAll_named (config : PlaneConfig) (arrivals : List Arrival) {world : World}
    (named : Named world.plane) : Named (publishAll config arrivals world).plane := by
  induction arrivals generalizing world with
  | nil => exact named
  | cons arrival rest ih =>
      exact ih (publishDeployment_keepsNamed config arrival.now arrival.observation world named)

/-- The last arrival that projects a node decides its entity. -/
theorem publishAll_projected (config : PlaneConfig) (arrivals : List Arrival) {arrival : Arrival}
    (world : World) (named : Named world.plane) {ref : String}
    (projected : projectedRef arrival.observation = some ref) :
    ∃ entity, (publishAll config (arrivals ++ [arrival]) world).plane.entities.lookup ref =
      some entity ∧ ProjectsNode arrival.observation entity := by
  have typed := hasType_of_projectedRef projected
  obtain ⟨entity, found, rfl⟩ := projectedRef_some projected
  refine ⟨entity, ?_, nodeProjection_ok _ found⟩
  rw [publishAll_concat, publishDeployment_node config arrival.now
    (publishAll_named config arrivals named) typed, found]
  exact if_pos rfl

/-- An arrival of another node keeps the entity. -/
theorem publishAll_unprojected (config : PlaneConfig) (arrivals : List Arrival) {arrival : Arrival}
    {world : World} (named : Named world.plane) {ref : String} (typed : HasType "node" ref)
    (other : projectedRef arrival.observation ≠ some ref) :
    (publishAll config (arrivals ++ [arrival]) world).plane.entities.lookup ref =
      (publishAll config arrivals world).plane.entities.lookup ref := by
  rw [publishAll_concat, publishDeployment_node config arrival.now
    (publishAll_named config arrivals named) typed]
  cases found : nodeProjection arrival.observation with
  | error exception => rfl
  | ok entity =>
      apply if_neg
      rintro rfl
      apply other
      unfold projectedRef
      rw [found]
      rfl

theorem latestNode_concat (arrivals : List Arrival) (arrival : Arrival) (ref : String) :
    latestNode (arrivals ++ [arrival]) ref =
      if arrival.observation.ofNode = true ∧ projectedRef arrival.observation = some ref then
        some arrival.observation
      else latestNode arrivals ref := by
  unfold latestNode
  rw [List.map_append, List.filter_append]
  by_cases node : arrival.observation.ofNode = true
  · simp [node, lastWith_concat]
  · simp [node]

theorem latestNode_projected {arrivals : List Arrival} {ref : String}
    {observation : DeploymentObservation} (latest : latestNode arrivals ref = some observation) :
    projectedRef observation = some ref :=
  (lastWith_some projectedRef latest).2

/-- One more arrival keeps the nodes when its pod agrees with its node. -/
theorem nodesFollow_concat (config : PlaneConfig) {arrivals : List Arrival} {arrival : Arrival}
    {world : World} (named : Named world.plane)
    (follow : NodesFollow arrivals (publishAll config arrivals world).plane)
    (agrees : arrival.observation.ofNode = false → ∀ ref observation,
      projectedRef arrival.observation = some ref → latestNode arrivals ref = some observation →
      SameFace arrival.observation observation) :
    NodesFollow (arrivals ++ [arrival])
      (publishAll config (arrivals ++ [arrival]) world).plane := by
  intro ref observation latest
  have typed := hasType_of_projectedRef (latestNode_projected latest)
  rw [latestNode_concat] at latest
  by_cases projected : projectedRef arrival.observation = some ref
  · obtain ⟨entity, stored, projects⟩ :=
      publishAll_projected config arrivals world named projected
    refine ⟨entity, stored, ?_⟩
    simp only [projects.lifecycle, projects.label]
    by_cases node : arrival.observation.ofNode = true
    · rw [if_pos ⟨node, projected⟩] at latest
      cases latest
      exact ⟨rfl, fun _ => rfl⟩
    · rw [if_neg fun both => node both.1] at latest
      exact agrees (by simpa using node) ref observation projected latest
  · rw [if_neg fun both => projected both.2] at latest
    rw [publishAll_unprojected config arrivals named typed projected]
    exact follow ref observation latest

/-- After every part of a run the observed nodes have the lifecycles and the labels of their latest
observations exactly when each observation of a pod agrees with the latest one of its node. -/
theorem nodes_follow_iff (config : PlaneConfig) (operations : List Operation) (bindings : Bindings)
    (arrivals : List Arrival) :
    (∀ before after, arrivals = before ++ after → NodesFollow before
      (publishAll config before ⟨runPlane config operations {}, bindings⟩).plane) ↔
    PodsAgree arrivals := by
  have named := runPlane_named config operations named_empty
  constructor
  · intro follow before pod after split isPod ref observation projected latest
    obtain ⟨entity, stored, projects⟩ := publishAll_projected config before
      ⟨runPlane config operations {}, bindings⟩ named projected
    have kept : latestNode (before ++ [pod]) ref = some observation := by
      rw [latestNode_concat, if_neg (by simp [isPod]), latest]
    obtain ⟨other, found, lifecycle, labels⟩ :=
      follow (before ++ [pod]) after (by rw [split, List.append_assoc]; rfl) ref observation kept
    cases stored.symm.trans found
    refine ⟨projects.lifecycle.symm.trans lifecycle, fun name => ?_⟩
    exact (projects.label name).symm.trans (labels name)
  · intro agree before
    induction before using List.reverseRecOn with
    | nil =>
        intro after _ ref observation latest
        cases latest
    | append_singleton before arrival ih =>
        intro after split
        apply nodesFollow_concat config named
        · exact ih (arrival :: after) (by rw [split, List.append_assoc]; rfl)
        · exact agree before arrival after (by rw [split, List.append_assoc]; rfl)

end Run

section Decode
variable {text : Text} {client : KubernetesSourceClient} {timestamp : Int} {deleted : Bool}
  {item : List (String × Value)} {observation : DeploymentObservation}

/-- A decoded node reports its health. -/
theorem decodeNode_ofNode
    (decoded : decodeNode text client timestamp deleted item = .ok (some observation)) :
    observation.ofNode = true := by
  unfold decodeNode at decoded
  obtain ⟨metadata, _, first⟩ := except_bind_ok decoded
  obtain ⟨status, _, second⟩ := except_bind_ok first
  simp only at second
  split at second
  · cases second
  · obtain ⟨health, _, third⟩ := except_bind_ok second
    obtain ⟨quantities, _, finished⟩ := except_bind_ok third
    cases finished
    rfl

/-- A decoded pod does not. -/
theorem decodePod_ofNode
    (decoded : decodePod text client timestamp deleted item = .ok (some observation)) :
    observation.ofNode = false := by
  unfold decodePod at decoded
  obtain ⟨metadata, _, first⟩ := except_bind_ok decoded
  obtain ⟨spec, _, second⟩ := except_bind_ok first
  obtain ⟨status, _, third⟩ := except_bind_ok second
  simp only at third
  split at third
  · cases third
  · obtain ⟨ready, _, fourth⟩ := except_bind_ok third
    obtain ⟨gpu, _, finished⟩ := except_bind_ok fourth
    cases finished
    rfl

end Decode

def readyStatus : Value :=
  .dict [("conditions", .list [.dict [("type", .str "Ready"), ("status", .str "True")]])]

def nodeItem : List (String × Value) :=
  [("metadata", .dict [("name", .str "node-a"), ("resourceVersion", .str "1")]),
    ("status", readyStatus)]

def podItem : List (String × Value) :=
  [("metadata", .dict [("name", .str "pod-a"), ("uid", .str "uid-a"),
      ("resourceVersion", .str "1")]),
    ("spec", .dict [("nodeName", .str "node-a")]), ("status", readyStatus)]

/-- A pod turns the ready node of an observation into a deleted one. -/
def podDeletes : Except SourceFailure (Option DeploymentObservation) →
    Except SourceFailure (Option DeploymentObservation) → Bool
  | .ok (some node), .ok (some pod) =>
      decide (projectedRef node = some "deployment/node/node-a") &&
      decide (node.nodeLifecycle = "ready") &&
      decide (((publishAll defaultConfig [⟨0, node⟩, ⟨0, pod⟩] ⟨{}, []⟩).plane.entities.lookup
        "deployment/node/node-a").map GraphEntity.lifecycle = some "deleted")
  | _, _ => false

/-- The deletion of a pod marks its ready node as deleted. -/
theorem pod_deletion_deletes_node : ∃ node pod,
    decodeNode asciiText ⟨"cluster", ""⟩ 0 false nodeItem = .ok (some node) ∧
    decodePod asciiText ⟨"cluster", ""⟩ 0 true podItem = .ok (some pod) ∧
    ¬ NodesFollow [⟨0, node⟩, ⟨0, pod⟩]
      (publishAll defaultConfig [⟨0, node⟩, ⟨0, pod⟩] ⟨{}, []⟩).plane := by
  have checked : podDeletes (decodeNode asciiText ⟨"cluster", ""⟩ 0 false nodeItem)
      (decodePod asciiText ⟨"cluster", ""⟩ 0 true podItem) = true := by decide +kernel
  unfold podDeletes at checked
  split at checked
  · rename_i node pod decodedNode decodedPod
    simp only [Bool.and_eq_true, decide_eq_true_eq] at checked
    obtain ⟨⟨projected, ready⟩, deleted⟩ := checked
    refine ⟨node, pod, decodedNode, decodedPod, fun follow => ?_⟩
    have latest : latestNode [⟨0, node⟩, ⟨0, pod⟩] "deployment/node/node-a" = some node := by
      have second := latestNode_concat [⟨0, node⟩] ⟨0, pod⟩ "deployment/node/node-a"
      have first := latestNode_concat [] ⟨0, node⟩ "deployment/node/node-a"
      rw [if_neg (by simp [decodePod_ofNode decodedPod])] at second
      rw [if_pos ⟨decodeNode_ofNode decodedNode, projected⟩] at first
      exact second.trans first
    obtain ⟨entity, stored, lifecycle, _⟩ := follow _ _ latest
    rw [stored, Option.map_some, lifecycle, ready] at deleted
    exact absurd deleted (by decide)
  · cases checked

end StateFlow.Adapters
