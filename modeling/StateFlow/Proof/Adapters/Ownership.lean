import StateFlow.Construction.Adapters.Publication
import StateFlow.Library.Ascii
import StateFlow.Library.Ownership
import StateFlow.Proof.Adapters.Deployments

namespace StateFlow.Adapters
open Python Table Effect Plane
open Gateway (ProviderNeutralRequest)
open Scheduler (TargetCandidate CandidateEvaluation)

/-- The described parts of an entity. -/
structure Projection where
  lifecycle : String
  owner : String := ""
  parent : String := ""
  labels : Mapping String String
  deriving DecidableEq

def projection (entity : GraphEntity) : Projection :=
  ⟨entity.lifecycle, entity.ownerComponentRef, entity.parentRef, entity.labels⟩

/-- The order of the labels does not count. -/
structure Projection.Same (first second : Projection) : Prop where
  lifecycle : second.lifecycle = first.lifecycle
  owner : second.owner = first.owner
  parent : second.parent = first.parent
  labels : ∀ name, second.labels.lookup name = first.labels.lookup name

theorem Projection.Same.refl (described : Projection) : described.Same described :=
  ⟨rfl, rfl, rfl, fun _ => rfl⟩

/-- An adapter owns the references of the types that it manages. -/
def Managed (managed : List String) (ref : String) : Prop :=
  ∃ entityType ∈ managed, HasType entityType ref

/-- Every present entity of an unmanaged type keeps its description. -/
def LeavesOthers (managed : List String) (before after : InMemoryStatePlane) : Prop :=
  ∀ ref old, before.entities.lookup ref = some old → old.entityType ∉ managed →
    ∃ new, after.entities.lookup ref = some new ∧ (projection old).Same (projection new)

section Frames
variable {managed : List String} {config : PlaneConfig} {now : Int}

theorem unmanaged_iff {plane : InMemoryStatePlane} (named : Named plane) {ref : String}
    {old : GraphEntity} (found : plane.entities.lookup ref = some old) :
    ¬ Managed managed ref ↔ old.entityType ∉ managed := by
  have own := named _ _ found
  constructor
  · exact fun apart member => apart ⟨_, member, old, own, rfl⟩
  · rintro apart ⟨entityType, member, entity, same, typed⟩
    rw [← own] at same
    exact apart ((kind_of_ref same).2 ▸ typed ▸ member)

theorem leavesOthers_iff {before after : InMemoryStatePlane} (named : Named before) :
    LeavesOthers managed before after ↔ Spares (Managed managed) projection Projection.Same
      before.entities after.entities := by
  constructor
  · exact fun left ref old apart found => left ref old found ((unmanaged_iff named found).mp apart)
  · exact fun spared ref old found apart =>
      spared ref old ((unmanaged_iff named found).mpr apart) found

/-- This frame leaves the entities of the other owners as they were. -/
def sparing (managed : List String) : Frame InMemoryStatePlane where
  rel before after := Named before → Named after ∧
    Overwrites (Managed managed) projection [] before.entities after.entities
  refl _ named := ⟨named, overwrites_refl _⟩
  trans first second named := ⟨(second (first named).1).1,
    (first named).2.trans (second (first named).1).2⟩

theorem sparing_of_entities {A : Type} {program : PlaneAction A}
    (fixed : Within (Frame.fixes InMemoryStatePlane.entities) program) :
    Within (sparing managed) program := by
  intro plane named
  refine ⟨keepsNamed_of_entities fixed plane named, ?_⟩
  have same := fixed plane
  rw [Frame.fixes_rel] at same
  rw [same]
  exact overwrites_refl _

/-- An adapter replaces the entities of its own types. -/
theorem upsertEntity_sparing {entity : GraphEntity} (owned : entity.entityType ∈ managed) :
    Within (sparing managed) (upsertEntity config now entity) := by
  intro plane named
  obtain ⟨next, ran, stored⟩ := upsertEntity_named config now entity named
  rw [ran]
  exact ⟨named_of_lookup named stored,
    overwrites_of_free ⟨_, owned, entity, rfl, rfl⟩ stored⟩

/-- A referenced entity of any type is only created. -/
theorem ensureEntity_sparing (entity : GraphEntity) :
    Within (sparing managed) (ensureEntity config now entity) := by
  intro plane named
  unfold ensureEntity
  rw [get_bind]
  split
  · rename_i absent
    obtain ⟨next, ran, stored⟩ := upsertEntity_named config now entity named
    rw [ran]
    refine ⟨named_of_lookup named stored, overwrites_of_grows fun ref old found => ?_⟩
    rw [finalState_ok, stored, if_neg]
    · exact found
    · intro own
      rw [own, Option.isNone_iff_eq_none.mp absent] at found
      cases found
  · exact ⟨named, overwrites_refl _⟩

theorem publishState_sparing (updates : List StateUpdate) :
    Within (sparing managed) (publishState config updates) :=
  sparing_of_entities (within_mapM fun update _ => publishOne_entities config update)

theorem upsertRelations_sparing (updates : List RelationUpdate) :
    Within (sparing managed) (upsertRelations config updates) :=
  sparing_of_entities (within_mapM fun update _ => upsertRelation_entities config update)

/-- The last three calls of every adapter. -/
theorem writes_sparing {A : Type} (updates : List StateUpdate) (relations : List RelationUpdate)
    (beat : Heartbeat) (report : List WriteResult → List WriteResult → A) :
    Within ((sparing managed).on World.plane) (do
      let stateResults ← onPlane (publishState config updates)
      let relationResults ← onPlane (upsertRelations config relations)
      onPlane (heartbeat beat)
      return report stateResults relationResults) := by
  apply within_bind (onPlane_within (publishState_sparing updates))
  intro stateResults
  apply within_bind (onPlane_within (upsertRelations_sparing relations))
  intro relationResults
  exact within_seq (onPlane_within (sparing_of_entities (heartbeat_entities beat))) (within_pure _)

theorem ensure_sparing (made : Except Exception GraphEntity) :
    Within ((sparing managed).on World.plane)
      (onPlane do ensureEntity config now (← lift made)) :=
  onPlane_within (within_lift_bind fun entity _ => ensureEntity_sparing entity)

theorem replace_sparing {made : Except Exception GraphEntity}
    (owned : ∀ entity, made = .ok entity → entity.entityType ∈ managed) :
    Within ((sparing managed).on World.plane)
      (onPlane do upsertEntity config now (← lift made)) :=
  onPlane_within (within_lift_bind fun entity built => upsertEntity_sparing (owned entity built))

/-- A made entity of a managed type is owned. -/
theorem owned_of_make {ref entityType lifecycle owner : String} {graph : GraphKind}
    {labels : List (String × String)} (member : entityType ∈ managed) :
    ∀ entity, GraphEntity.make ref graph entityType lifecycle owner labels = .ok entity →
      entity.entityType ∈ managed := by
  intro entity made
  rw [(make_ok made).2.2]
  exact member

end Frames

section Owners
variable (config : PlaneConfig) (now : Int)

theorem relateLocation_sparing (managed : List String) (observation : KVObservation)
    (kvRef : String) (location : KVLocation) : Within ((sparing managed).on World.plane)
      (relateLocation config now observation kvRef location) := by
  unfold relateLocation resolveLocation
  apply within_bind
  · apply within_ite
    · exact fun _ => within_lift _
    · exact fun _ => within_bind (within_lift _) fun ref =>
        within_seq (onBindings_within _ _) (within_pure _)
  · exact fun ref => within_seq (ensure_sparing _) (within_pure _)

theorem relateUse_sparing (managed : List String) (observation : KVObservation)
    (kvRef requestId : String) : Within ((sparing managed).on World.plane)
      (relateUse config now observation kvRef requestId) := by
  unfold relateUse
  apply within_bind (within_lift _)
  intro ref
  exact within_seq (ensure_sparing _) (within_seq (onBindings_within _ _) (within_pure _))

/-- The manager of the cached objects leaves the other owners alone. -/
theorem publishKv_sparing (observation : KVObservation) :
    Within ((sparing kvAdapter.managesTypes).on World.plane)
      (publishKv config now observation) := by
  unfold publishKv
  apply within_bind (within_lift _)
  intro kvRef
  apply within_bind (within_lift _)
  intro ownerRef
  apply within_seq (replace_sparing (owned_of_make (by decide)))
  apply within_seq (onBindings_within _ _)
  apply within_bind (within_mapM fun location _ => relateLocation_sparing config now _ _ _ location)
  intro located
  apply within_bind (within_mapM fun requestId _ => relateUse_sparing config now _ _ _ requestId)
  intro used
  apply within_bind (within_lift _)
  intro updates
  exact writes_sparing _ _ _ _

theorem projectLink_sparing (observation : HardwareObservation) (nodeRef : String) :
    Within ((sparing dcgmAdapter.managesTypes).on World.plane)
      (projectLink config now observation nodeRef) := by
  unfold projectLink
  split
  · exact within_pure _
  · split
    · exact within_pure _
    · apply within_bind (within_lift _)
      intro peerRef
      apply within_bind (within_lift _)
      intro linkRef
      apply within_seq (ensure_sparing _)
      apply within_seq (replace_sparing (owned_of_make (by decide)))
      exact within_seq (onBindings_within _ _) (within_seq (onBindings_within _ _) (within_pure _))

theorem resourceEntity_owned {observation : HardwareObservation} {nodeRef resourceRef : String} :
    ∀ entity, observation.resourceEntity nodeRef resourceRef = .ok entity →
      entity.entityType ∈ dcgmAdapter.managesTypes := by
  intro entity built
  unfold HardwareObservation.resourceEntity at built
  obtain ⟨plain, made, finished⟩ := except_bind_ok built
  cases finished
  exact owned_of_make (by decide) plain made

/-- The manager of the resources and of the links leaves the other owners alone. -/
theorem publishHardware_sparing (observation : HardwareObservation) :
    Within ((sparing dcgmAdapter.managesTypes).on World.plane)
      (publishHardware config now observation) := by
  unfold publishHardware
  apply within_bind (within_lift _)
  intro nodeRef
  apply within_bind (within_lift _)
  intro resourceRef
  apply within_seq (ensure_sparing _)
  apply within_seq (replace_sparing resourceEntity_owned)
  apply within_seq (onBindings_within _ _)
  apply within_seq (onBindings_within _ _)
  apply within_bind (projectLink_sparing config now observation nodeRef)
  intro linked
  exact writes_sparing _ _ _ _

theorem relateRuntime_sparing (managed : List String) (observation : DeploymentObservation)
    (runtimeRef instanceRef : String) : Within ((sparing managed).on World.plane)
      (relateRuntime config now observation runtimeRef instanceRef) := by
  unfold relateRuntime
  split
  · exact within_pure _
  · exact within_seq (ensure_sparing _) (within_seq (onBindings_within _ _) (within_pure _))

theorem nodeEntity_owned {observation : DeploymentObservation} {clusterRef nodeRef : String} :
    ∀ entity, observation.nodeEntity clusterRef nodeRef = .ok entity →
      entity.entityType ∈ kubernetesAdapter.managesTypes := by
  intro entity built
  rw [(nodeEntity_ok observation built).2.entityType]
  decide

theorem instanceEntity_owned {observation : DeploymentObservation}
    {nodeRef instanceRef runtimeRef : String} :
    ∀ entity, observation.instanceEntity nodeRef instanceRef runtimeRef = .ok entity →
      entity.entityType ∈ kubernetesAdapter.managesTypes := by
  intro entity built
  rw [(instanceEntity_ok built).2.1]
  decide

theorem projectInstance_sparing (observation : DeploymentObservation) (nodeRef : String) :
    Within ((sparing kubernetesAdapter.managesTypes).on World.plane)
      (projectInstance config now observation nodeRef) := by
  unfold projectInstance
  split
  · exact within_pure _
  · apply within_bind (within_lift _)
    intro instanceRef
    apply within_bind (within_lift _)
    intro runtimeRef
    apply within_seq (replace_sparing instanceEntity_owned)
    apply within_seq (onBindings_within _ _)
    exact within_bind (relateRuntime_sparing config now _ _ _ _) fun _ => within_pure _

/-- The manager of the deployment leaves the other owners alone. -/
theorem publishDeployment_sparing (observation : DeploymentObservation) :
    Within ((sparing kubernetesAdapter.managesTypes).on World.plane)
      (publishDeployment config now observation) := by
  unfold publishDeployment
  apply within_bind (within_lift _)
  intro clusterRef
  apply within_bind (within_lift _)
  intro nodeRef
  apply within_seq (replace_sparing (owned_of_make (by decide)))
  apply within_seq (replace_sparing nodeEntity_owned)
  apply within_seq (onBindings_within _ _)
  apply within_seq (onBindings_within _ _)
  apply within_bind (projectInstance_sparing config now observation nodeRef)
  intro projected
  exact writes_sparing _ _ _ _

end Owners

theorem onPlane_of_error {A : Type} {action : PlaneAction A} {world : World}
    {exception : Exception} {plane : InMemoryStatePlane}
    (ran : action world.plane = .error exception plane) :
    onPlane action world = .error exception { world with plane := plane } := by
  unfold onPlane zoom
  rw [ran]

section Writes
variable {managed : List String} {config : PlaneConfig} {now : Int}

theorem projection_of_make {ref entityType lifecycle owner : String} {graph : GraphKind}
    {labels : List (String × String)} {entity : GraphEntity}
    (made : GraphEntity.make ref graph entityType lifecycle owner labels = .ok entity) :
    projection entity = ⟨lifecycle, owner, "", .ofList labels⟩ := by
  unfold GraphEntity.make at made
  split at made
  · split at made
    · cases made
      rfl
    · cases made
  · cases made

/-- A call leaves a named plane and overwrites the listed entities. -/
structure Wrote (managed : List String) (writes : List (String × Projection))
    (before after : InMemoryStatePlane) : Prop where
  named : Named after
  entities : Overwrites (Managed managed) projection writes before.entities after.entities

theorem Wrote.trans {early late : List (String × Projection)}
    {first second third : InMemoryStatePlane} (before : Wrote managed early first second)
    (after : Wrote managed late second third) : Wrote managed (early ++ late) first third :=
  ⟨after.named, before.entities.trans after.entities⟩

theorem Wrote.refl {plane : InMemoryStatePlane} (named : Named plane) :
    Wrote managed [] plane plane := ⟨named, overwrites_refl _⟩

/-- The rest of a program spares what its first part wrote. -/
theorem Wrote.spared {A : Type} {writes : List (String × Projection)} {before : InMemoryStatePlane}
    {middle : World} {program : EStateM Exception World A}
    (wrote : Wrote managed writes before middle.plane)
    (inside : Within ((sparing managed).on World.plane) program) :
    Wrote managed writes before (finalState (program middle)).plane := by
  have reached := inside middle wrote.named
  have rest : Wrote managed [] middle.plane (finalState (program middle)).plane :=
    ⟨reached.1, reached.2⟩
  have whole := wrote.trans rest
  rwa [List.append_nil] at whole

theorem Wrote.same {writes : List (String × Projection)} {before middle after : InMemoryStatePlane}
    (wrote : Wrote managed writes middle after) (same : middle.entities = before.entities) :
    Wrote managed writes before after := ⟨wrote.named, same ▸ wrote.entities⟩

/-- An entity of a named plane is replaced in any case. -/
theorem upsertEntity_wrote (managed : List String) (config : PlaneConfig) (now : Int)
    {plane : InMemoryStatePlane} (named : Named plane)
    {made : Except Exception GraphEntity} {entity : GraphEntity} (built : made = .ok entity) :
    ∃ next, (do upsertEntity config now (← lift made)) plane = .ok () next ∧
      Wrote managed [(entity.ref, projection entity)] plane next := by
  obtain ⟨next, ran, stored⟩ := upsertEntity_named config now entity named
  exact ⟨next, (bind_of_ok (lift_of_ok built plane)).trans ran,
    named_of_lookup named stored, overwrites_of_lookup stored⟩

theorem upsertBoth_wrote (managed : List String) (config : PlaneConfig) (now : Int)
    {plane : InMemoryStatePlane} (named : Named plane)
    {early late : Except Exception GraphEntity} {first second : GraphEntity}
    (firstBuilt : early = .ok first) (secondBuilt : late = .ok second) :
    ∃ next, (do
        upsertEntity config now (← lift early)
        upsertEntity config now (← lift late)) plane = .ok () next ∧
      Wrote managed [(first.ref, projection first), (second.ref, projection second)] plane next := by
  obtain ⟨middle, ranFirst, wroteFirst⟩ :=
    upsertEntity_wrote managed config now named firstBuilt
  obtain ⟨next, ranSecond, wroteSecond⟩ :=
    upsertEntity_wrote managed config now wroteFirst.named secondBuilt
  refine ⟨next, ?_, wroteFirst.trans wroteSecond⟩
  rw [bind_of_ok (lift_of_ok firstBuilt plane)] at ranFirst ⊢
  rw [bind_of_ok ranFirst]
  exact ranSecond

end Writes

section Runtime
variable (config : PlaneConfig) (now : Int) (observation : RuntimeObservation)

def runtimeLifecycle : String :=
  match observation.health with
  | none => "ready"
  | some health => if health = "healthy" then "ready" else "degraded"

/-- The instance that a runtime observation describes. -/
def runtimeInstance (runtimeRef : String) : Projection where
  lifecycle := if observation.ready = some false then "unavailable" else "ready"
  owner := runtimeRef
  labels := .ofList [("runtime_id", observation.runtimeId)]

/-- The entities that a runtime observation replaces. -/
def runtimeWrites : List (String × Projection) :=
  match runtimeRef observation.runtimeId, instanceRef observation.instanceId with
  | .ok runtimeRef, .ok instanceRef =>
      [(runtimeRef, { lifecycle := runtimeLifecycle observation
                      labels := .ofList [("kind", "inference_runtime")] }),
        (instanceRef, runtimeInstance observation runtimeRef)]
  | _, _ => []

theorem registerRuntime_returns (plane : InMemoryStatePlane) :
    ∃ next, registerRuntime observation plane = .ok () next ∧ next.entities = plane.entities := by
  unfold registerRuntime
  rw [get_bind]
  split
  · rename_i absent
    rw [registerComponent_run]
    have unknown : plane.components.lookup observation.descriptor.componentId = none :=
      Option.isNone_iff_eq_none.mp absent
    rw [unknown]
    exact ⟨_, rfl, rfl⟩
  · exact ⟨plane, rfl, rfl⟩

theorem relateNode_sparing (managed : List String) (instanceRef : String) :
    Within ((sparing managed).on World.plane)
      (relateNode config now observation instanceRef) := by
  unfold relateNode
  split
  · exact within_pure _
  · apply within_bind (within_lift _)
    intro nodeRef
    exact within_seq (ensure_sparing _) (within_seq (onBindings_within _ _) (within_pure _))

theorem relateRequest_sparing (managed : List String) (runtimeRef instanceRef : String) :
    Within ((sparing managed).on World.plane)
      (relateRequest config now observation runtimeRef instanceRef) := by
  unfold relateRequest
  split
  · exact within_pure _
  · apply within_bind (within_lift _)
    intro requestRef
    exact within_seq (ensure_sparing _) (within_seq (onBindings_within _ _) (within_pure _))

/-- A runtime observation replaces its component and its instance, and it spares the rest. -/
theorem publish_wrote {world : World} (named : Named world.plane) :
    Wrote runtimeAdapter.managesTypes (runtimeWrites observation) world.plane
      (finalState (publish config now observation world)).plane := by
  unfold publish runtimeWrites
  cases runtime : runtimeRef observation.runtimeId with
  | error exception => exact Wrote.refl named
  | ok runtimeRef =>
      rw [bind_of_ok (lift_of_ok rfl world)]
      cases hosted : instanceRef observation.instanceId with
      | error exception => exact Wrote.refl named
      | ok instanceRef =>
          rw [bind_of_ok (lift_of_ok rfl world)]
          obtain ⟨registered, ran, same⟩ := registerRuntime_returns observation world.plane
          rw [bind_of_ok (onPlane_of_ok ran)]
          obtain ⟨component, componentMade, _⟩ := make_of_entityRef runtime component_allowed
            (runtimeLifecycle observation) "" [("kind", "inference_runtime")]
          obtain ⟨entity, entityMade, _⟩ := make_of_entityRef hosted (by decide)
            (runtimeInstance observation runtimeRef).lifecycle runtimeRef
            [("runtime_id", observation.runtimeId)]
          have registeredNamed : Named registered := fun ref other found =>
            named ref other (same ▸ found)
          obtain ⟨projected, ranBoth, wrote⟩ := upsertBoth_wrote runtimeAdapter.managesTypes config
            now registeredNamed componentMade entityMade
          rw [(make_ok componentMade).1, (make_ok entityMade).1, projection_of_make componentMade,
            projection_of_make entityMade] at wrote
          have projects : projectEntities config now observation runtimeRef instanceRef registered =
              .ok () projected := ranBoth
          rw [bind_of_ok (onPlane_of_ok projects)]
          refine Wrote.spared (wrote.same same : Wrote _ _ _ (World.mk projected _).plane) ?_
          apply within_seq (onBindings_within _ _)
          apply within_seq (onBindings_within _ _)
          apply within_bind (relateNode_sparing config now observation _ instanceRef)
          intro contained
          apply within_bind (relateRequest_sparing config now observation _ _ _)
          intro executing
          exact writes_sparing _ _ _ _

end Runtime

section Gateway
variable (text : Text) (config : PlaneConfig) (now : Int)

/-- The component and the instance that a target describes. -/
def targetComponent (target : TargetCandidate) : Projection where
  lifecycle := if target.available && target.healthy then "ready" else "degraded"
  labels := .ofList [("model_id", target.modelId)]

def targetHost (target : TargetCandidate) (componentRef : String) : Projection where
  lifecycle := if target.available then "ready" else "unavailable"
  owner := componentRef
  labels := .ofList [("replica_id", target.replicaId), ("model_id", target.modelId)]

def nodeWrites (target : TargetCandidate) : List (String × Projection) :=
  if targetNodeId text target = "" then []
  else match nodeRef (targetNodeId text target) with
    | .ok nodeRef => [(nodeRef, { lifecycle := "ready", labels := ∅ })]
    | .error _ => []

/-- The entities that an admitted target replaces. -/
def targetWrites (target : TargetCandidate) : List (String × Projection) :=
  match runtimeRef target.endpointId, instanceRef target.replicaId with
  | .ok componentRef, .ok instanceRef =>
      [(componentRef, targetComponent target), (instanceRef, targetHost target componentRef)]
        ++ nodeWrites text target
  | _, _ => []

/-- The loop reaches a target when the earlier ones returned and it is admitted itself. -/
def reached : List TargetCandidate → World → List TargetCandidate
  | [], _ => []
  | target :: rest, world =>
      match admitTarget text target world with
      | .error _ _ => []
      | .ok _ _ => target :: match recordTarget text config now target world with
          | .ok _ next => reached rest next
          | .error _ _ => []

/-- The entities that a request replaces through its targets. -/
def requestWrites (request : ProviderNeutralRequest) (targets : List TargetCandidate)
    (world : World) : List (String × Projection) :=
  match projectRequest config now request world with
  | .ok _ next => (reached text config now targets next).flatMap (targetWrites text)
  | .error _ _ => []

theorem admitTarget_entities (target : TargetCandidate) :
    Within ((Frame.fixes InMemoryStatePlane.entities).on World.plane) (admitTarget text target) := by
  unfold admitTarget
  apply within_bind (within_lift _)
  intro componentRef
  apply within_bind (within_lift _)
  intro instanceRef
  apply within_seq (onBindings_within _ _)
  apply within_seq (onBindings_within _ _)
  exact within_seq (onPlane_within (registerComponent_entities _)) (within_pure _)

theorem admitTarget_ok {target : TargetCandidate} {world middle : World} {refs : String × String}
    (admitted : admitTarget text target world = .ok refs middle) :
    runtimeRef target.endpointId = .ok refs.1 ∧ instanceRef target.replicaId = .ok refs.2 ∧
      middle.plane.entities = world.plane.entities := by
  have same := (admitTarget_entities text target).returned admitted
  unfold admitTarget at admitted
  obtain ⟨componentRef, _, lifted, naming⟩ := bind_ok admitted
  obtain ⟨component, rfl⟩ := lift_ok lifted
  obtain ⟨instanceRef, _, relifted, binding⟩ := bind_ok naming
  obtain ⟨hosted, rfl⟩ := lift_ok relifted
  obtain ⟨_, _, _, bindingInstance⟩ := bind_ok binding
  obtain ⟨_, _, _, registering⟩ := bind_ok bindingInstance
  obtain ⟨_, _, _, finishing⟩ := bind_ok registering
  cases finishing
  exact ⟨component, hosted, same⟩

theorem projectTarget_wrote (target : TargetCandidate) {componentRef instanceRef : String}
    (component : runtimeRef target.endpointId = .ok componentRef)
    (hosted : Adapters.instanceRef target.replicaId = .ok instanceRef)
    {plane : InMemoryStatePlane} (named : Named plane) :
    ∃ next, projectTarget config now target componentRef instanceRef plane = .ok () next ∧
      Wrote gatewayComponent.managesTypes [(componentRef, targetComponent target),
        (instanceRef, targetHost target componentRef)] plane next := by
  obtain ⟨runtime, runtimeMade, _⟩ := make_of_entityRef component component_allowed
    (targetComponent target).lifecycle "" [("model_id", target.modelId)]
  obtain ⟨host, hostMade, _⟩ := make_of_entityRef hosted (by decide)
    (targetHost target componentRef).lifecycle componentRef
    [("replica_id", target.replicaId), ("model_id", target.modelId)]
  obtain ⟨next, ran, wrote⟩ := upsertBoth_wrote gatewayComponent.managesTypes config now named
    runtimeMade hostMade
  rw [(make_ok runtimeMade).1, (make_ok hostMade).1, projection_of_make runtimeMade,
    projection_of_make hostMade] at wrote
  exact ⟨next, ran, wrote⟩

/-- The node of a target is replaced unless its identifier is blank. -/
theorem projectNode_wrote (target : TargetCandidate) (instanceRef : String)
    {plane : InMemoryStatePlane} (named : Named plane) :
    Wrote gatewayComponent.managesTypes (nodeWrites text target) plane
      (finalState (projectNode text config now target instanceRef plane)) := by
  unfold projectNode nodeWrites
  split
  · exact Wrote.refl named
  · cases node : nodeRef (targetNodeId text target) with
    | error exception => exact Wrote.refl named
    | ok nodeRef =>
        obtain ⟨entity, made, _⟩ := make_of_entityRef node (by decide) "ready" "" []
        obtain ⟨next, ran, wrote⟩ :=
          upsertEntity_wrote gatewayComponent.managesTypes config now named made
        rw [(make_ok made).1, projection_of_make made] at wrote
        rw [bind_of_ok (lift_of_ok made plane)] at ran
        rw [bind_of_ok (lift_of_ok rfl plane)]
        unfold targetNode
        rw [bind_of_ok (lift_of_ok made plane), bind_of_ok ran]
        exact wrote

/-- An admitted target replaces its entities, also when it raises later. -/
theorem recordTarget_wrote {target : TargetCandidate} {world middle : World}
    {refs : String × String} (named : Named world.plane)
    (admitted : admitTarget text target world = .ok refs middle) :
    Wrote gatewayComponent.managesTypes (targetWrites text target) world.plane
      (finalState (recordTarget text config now target world)).plane := by
  obtain ⟨component, hosted, same⟩ := admitTarget_ok text admitted
  have middleNamed : Named middle.plane := fun ref other found => named ref other (same ▸ found)
  obtain ⟨projected, ran, wroteBoth⟩ :=
    projectTarget_wrote config now target component hosted middleNamed
  have wroteNode := projectNode_wrote text config now target refs.2 wroteBoth.named
  have wrote := (wroteBoth.trans wroteNode).same same
  unfold recordTarget targetWrites
  rw [component, hosted, bind_of_ok admitted]
  dsimp only
  rw [bind_of_ok (onPlane_of_ok ran)]
  cases node : projectNode text config now target refs.2 projected with
  | error exception stopped =>
      rw [node] at wrote
      rw [bind_of_error (onPlane_of_error node)]
      exact wrote
  | ok contained next =>
      rw [node] at wrote
      rw [bind_of_ok (onPlane_of_ok node)]
      refine Wrote.spared (wrote : Wrote _ _ _ (World.mk next _).plane) ?_
      apply within_bind (onPlane_within (upsertRelations_sparing _))
      intro related
      apply within_bind (within_lift _)
      intro updates
      exact within_bind (onPlane_within (publishState_sparing _)) fun _ => within_pure _

/-- A target that is not admitted changes no entity. -/
theorem recordTarget_unadmitted {target : TargetCandidate} {world stopped : World}
    {exception : Exception} (named : Named world.plane)
    (refused : admitTarget text target world = .error exception stopped) :
    Wrote gatewayComponent.managesTypes [] world.plane
      (finalState (recordTarget text config now target world)).plane := by
  have same := admitTarget_entities text target world
  rw [refused] at same
  unfold recordTarget
  rw [bind_of_error refused]
  have stoppedNamed : Named stopped.plane := fun ref other found => named ref other (same ▸ found)
  exact (Wrote.refl stoppedNamed).same same

/-- The loop replaces the entities of the targets that it reaches. -/
theorem recordTargets_wrote (targets : List TargetCandidate) {world : World}
    (named : Named world.plane) :
    Wrote gatewayComponent.managesTypes
      ((reached text config now targets world).flatMap (targetWrites text)) world.plane
      (finalState (targets.forM (recordTarget text config now) world)).plane := by
  induction targets generalizing world with
  | nil => exact Wrote.refl named
  | cons target rest ih =>
      have split : (target :: rest).forM (recordTarget text config now) =
        recordTarget text config now target >>= fun _ =>
          rest.forM (recordTarget text config now) := rfl
      rw [split]
      unfold reached
      cases admitted : admitTarget text target world with
      | error exception stopped =>
          have wrote := recordTarget_unadmitted text config now named admitted
          cases ran : recordTarget text config now target world with
          | error raised last =>
              rw [ran] at wrote
              rw [bind_of_error ran]
              exact wrote
          | ok _ last =>
              obtain ⟨refs, middle, impossible, _⟩ := bind_ok ran
              rw [admitted] at impossible
              cases impossible
      | ok refs middle =>
          have wrote := recordTarget_wrote text config now named admitted
          cases ran : recordTarget text config now target world with
          | error raised last =>
              rw [ran] at wrote
              rw [bind_of_error ran, List.flatMap_singleton]
              exact wrote
          | ok _ next =>
              rw [ran] at wrote
              rw [bind_of_ok ran, List.flatMap_cons]
              exact wrote.trans (ih wrote.named)

/-- The gateway owns the entity of the request itself. -/
theorem projectRequest_sparing (request : ProviderNeutralRequest) :
    Within ((sparing gatewayComponent.managesTypes).on World.plane)
      (projectRequest config now request) := by
  unfold projectRequest
  apply within_bind (within_lift _)
  intro requestRef
  apply within_seq (onBindings_within _ _)
  apply within_seq (replace_sparing (owned_of_make (by decide)))
  exact within_bind (onPlane_within (publishState_sparing _)) fun _ => within_pure _

theorem recordRequest_wrote (request : ProviderNeutralRequest) (targets : List TargetCandidate)
    {world : World} (named : Named world.plane) :
    Wrote gatewayComponent.managesTypes (requestWrites text config now request targets world)
      world.plane (finalState (recordRequest text config now request targets world)).plane := by
  have projected := (Wrote.refl named).spared (projectRequest_sparing config now request)
  unfold recordRequest requestWrites
  cases ran : projectRequest config now request world with
  | error exception stopped =>
      rw [ran] at projected
      rw [bind_of_error ran]
      exact projected
  | ok _ next =>
      rw [ran] at projected
      rw [bind_of_ok ran]
      exact projected.trans (recordTargets_wrote text config now targets projected.named)

theorem recordDecision_sparing (managed : List String) (request : ProviderNeutralRequest)
    (decisionId : String) (selected : CandidateEvaluation) :
    Within ((sparing managed).on World.plane)
      (recordDecision config now request decisionId selected) := by
  unfold recordDecision
  apply within_bind (within_lift _)
  intro requestRef
  apply within_bind (within_lift _)
  intro runtimeRef
  apply within_bind (within_lift _)
  intro instanceRef
  apply within_seq (onBindings_within _ _)
  apply within_bind (onPlane_within (publishState_sparing _))
  intro published
  exact within_bind (onPlane_within (upsertRelations_sparing _)) fun _ => within_pure _

/-- The entities that a publication replaces besides those of its own types. -/
def Publication.writes (world : World) : Publication → List (String × Projection)
  | .runtime observation => runtimeWrites observation
  | .request incoming targets => requestWrites text config now incoming targets world
  | .kv _ | .deployment _ | .hardware _ | .decision _ _ _ => []

theorem discard_finalState {A : Type} (program : EStateM Exception World A) (world : World) :
    finalState ((do let _ ← program) world) = finalState (program world) := by
  change finalState (EStateM.bind program _ world) = _
  unfold EStateM.bind
  cases program world <;> rfl

theorem publication_wrote (publication : Publication) {world : World} (named : Named world.plane) :
    Wrote publication.managesTypes (publication.writes text config now world) world.plane
      (finalState (publication.run text config now world)).plane := by
  cases publication with
  | runtime observation =>
      unfold Publication.run
      rw [discard_finalState]
      exact publish_wrote config now observation named
  | kv observation =>
      unfold Publication.run
      rw [discard_finalState]
      exact (Wrote.refl named).spared (publishKv_sparing config now observation)
  | deployment observation =>
      unfold Publication.run
      rw [discard_finalState]
      exact (Wrote.refl named).spared (publishDeployment_sparing config now observation)
  | hardware observation =>
      unfold Publication.run
      rw [discard_finalState]
      exact (Wrote.refl named).spared (publishHardware_sparing config now observation)
  | request request targets => exact recordRequest_wrote text config now request targets named
  | decision request decisionId selected =>
      exact (Wrote.refl named).spared (recordDecision_sparing config now _ request decisionId selected)

/-- Every present entity of an unmanaged type already has the description that is written last. -/
def RepeatsOthers (publication : Publication) (world : World) : Prop :=
  ∀ ref old written, world.plane.entities.lookup ref = some old →
    old.entityType ∉ publication.managesTypes →
    (publication.writes text config now world).reverse.lookup ref = some written →
    (projection old).Same written

/-- A publication leaves the other owners alone exactly when it repeats their projections. -/
theorem publication_leavesOthers_iff (publication : Publication) {world : World}
    (named : Named world.plane) :
    LeavesOthers publication.managesTypes world.plane
        (finalState (publication.run text config now world)).plane ↔
      RepeatsOthers text config now publication world := by
  rw [leavesOthers_iff named, spares_iff Projection.Same.refl
    (publication_wrote text config now publication named).entities]
  constructor
  · exact fun repeated ref old written found apart last =>
      repeated ref old written ((unmanaged_iff named found).mpr apart) found last
  · exact fun repeated ref old written apart found last =>
      repeated ref old written found ((unmanaged_iff named found).mp apart) last

end Gateway

section Replaced

/-- The deployment adapter owns this pod. -/
def ownedPod : DeploymentObservation where
  clusterId := "c"
  nodeId := "n"
  observedAt := 0
  instanceId := "pod"
  runtimeId := "vllm"
  namespaceName := "ns"
  podUid := "uid"

def podWorld : World := finalState (publishDeployment { registry := {} } 0 ownedPod ⟨{}, []⟩)

theorem podWorld_named : Named podWorld.plane :=
  ((Wrote.refl named_empty).spared (publishDeployment_sparing { registry := {} } 0 ownedPod)).named

/-- The runtime adapter observes the same pod. -/
def repeatedPod : Publication := .runtime { runtimeId := "vllm", instanceId := "pod", observedAt := 1 }

/-- The exact condition at the pod. -/
theorem repeatedPod_leavesOthers_iff :
    LeavesOthers repeatedPod.managesTypes podWorld.plane
        (finalState (repeatedPod.run asciiText { registry := {} } 1 podWorld)).plane ↔
      RepeatsOthers asciiText { registry := {} } 1 repeatedPod podWorld :=
  publication_leavesOthers_iff asciiText { registry := {} } 1 repeatedPod podWorld_named

/-- A runtime observation takes the parent and the labels from the instance of a pod. -/
theorem repeatedPod_replaces : Named podWorld.plane ∧
    ¬ LeavesOthers repeatedPod.managesTypes podWorld.plane
      (finalState (repeatedPod.run asciiText { registry := {} } 1 podWorld)).plane := by
  refine ⟨podWorld_named, fun left => ?_⟩
  have before : (podWorld.plane.entities.lookup "deployment/instance/pod").map
      (fun entity => (entity.entityType, entity.parentRef)) =
        some ("instance", "deployment/node/n") := by decide +kernel
  have after : ((finalState (repeatedPod.run asciiText { registry := {} } 1 podWorld)).plane.entities.lookup
      "deployment/instance/pod").map GraphEntity.parentRef = some "" := by decide +kernel
  obtain ⟨old, found, described⟩ := Option.map_eq_some_iff.mp before
  obtain ⟨typed, parent⟩ := Prod.mk.inj described
  obtain ⟨new, present, same⟩ := left _ old found (by rw [typed]; decide)
  rw [present] at after
  have kept : new.parentRef = old.parentRef := same.parent
  rw [parent, Option.some.inj after] at kept
  exact absurd kept (by decide)

end Replaced

end StateFlow.Adapters
