import StateFlow.Construction.Adapters.SharedPlane
import StateFlow.Library.Ascii
import StateFlow.Proof.Adapters.Deployments
import StateFlow.Proof.Plane.Freshness

namespace StateFlow.Adapters
open Python Table Effect Plane
open Gateway (ProviderNeutralRequest)
open Scheduler (TargetCandidate)

section Keys

/-- The last separator of a text splits it in one way. -/
theorem split_last {A : Type} {separator : A} {front back before after : List A}
    (same : front ++ separator :: before = back ++ separator :: after)
    (free : separator ∉ before) (clear : separator ∉ after) : front = back ∧ before = after := by
  rcases List.append_eq_append_iff.mp same with ⟨gap, rfl, rest⟩ | ⟨gap, rfl, rest⟩
  · cases gap with
    | nil => exact ⟨(List.append_nil _).symm, (List.cons.inj rest).2⟩
    | cons letter later =>
        obtain ⟨_, inside⟩ := List.cons.inj rest
        exact absurd (inside ▸ List.mem_append_right later List.mem_cons_self) free
  · cases gap with
    | nil => exact ⟨List.append_nil _, (List.cons.inj rest).2.symm⟩
    | cons letter later =>
        obtain ⟨_, inside⟩ := List.cons.inj rest
        exact absurd (inside ▸ List.mem_append_right later List.mem_cons_self) clear

theorem colon_quoteByte : ∀ byte < 256, ':' ∉ quoteByte byte := by decide +kernel

/-- A quoted identifier holds no colon. -/
theorem colon_quote (text : String) : ':' ∉ (quote text).toList := by
  unfold quote
  rw [String.toList_ofList]
  intro inside
  obtain ⟨letter, _, bytes⟩ := List.mem_flatMap.mp inside
  obtain ⟨byte, _, quoted⟩ := List.mem_flatMap.mp bytes
  exact colon_quoteByte byte.toNat (UInt8.toNat_lt byte) quoted

theorem entityRef_returns_iff {graph : GraphKind} {entityType identifier : String} :
    (∃ ref, entityRef graph entityType identifier = .ok ref) ↔ strip identifier ≠ "" := by
  constructor
  · rintro ⟨ref, built⟩
    exact (entityRef_ok built).1
  · intro present
    unfold entityRef
    simp only [if_neg present]
    exact ⟨_, rfl⟩

/-- The reference of some instance. -/
def InstanceRef (ref : String) : Prop := ∃ identifier, instanceRef identifier = .ok ref

theorem InstanceRef.letters {ref : String} (named : InstanceRef ref) :
    ':' ∉ ref.toList ∧ "deployment/instance/".toList <+: ref.toList := by
  obtain ⟨identifier, built⟩ := named
  obtain ⟨_, rfl⟩ := entityRef_ok built
  rw [String.toList_append]
  refine ⟨fun inside => ?_, List.prefix_append _ _⟩
  rcases List.mem_append.mp inside with front | back
  · revert front
    decide
  · exact colon_quote _ back

/-- The key under which the projector remembers a deployment. -/
def deployedKey (componentRef instanceRef : String) : String :=
  "deployed_on:" ++ componentRef ++ ":" ++ instanceRef

theorem deployedKey_letters (componentRef instanceRef : String) :
    (deployedKey componentRef instanceRef).toList =
      ("deployed_on:".toList ++ componentRef.toList) ++ ':' :: instanceRef.toList := by
  unfold deployedKey
  simp only [String.toList_append]
  rw [List.append_assoc]
  rfl

theorem deployedKey_inj {firstRef firstInstance secondRef secondInstance : String}
    (first : InstanceRef firstInstance) (second : InstanceRef secondInstance)
    (same : deployedKey firstRef firstInstance = deployedKey secondRef secondInstance) :
    firstRef = secondRef ∧ firstInstance = secondInstance := by
  have letters := congrArg String.toList same
  rw [deployedKey_letters, deployedKey_letters] at letters
  obtain ⟨front, back⟩ := split_last letters first.letters.1 second.letters.1
  exact ⟨String.toList_inj.mp (List.append_cancel_left front), String.toList_inj.mp back⟩

/-- A foreign key remembers no deployment of the projector. -/
def Foreign (key : String) : Prop :=
  ∀ componentRef instanceRef, InstanceRef instanceRef → key ≠ deployedKey componentRef instanceRef

theorem foreign_of_head {key : String} (letter : Char) (begins : key.toList.head? = some letter)
    (other : letter ≠ 'd') : Foreign key := by
  intro componentRef instanceRef _ same
  rw [same, deployedKey_letters] at begins
  exact other (Option.some.inj begins).symm

theorem foreign_empty : Foreign "" := by
  intro componentRef instanceRef _ same
  have letters := congrArg String.toList same
  rw [deployedKey_letters] at letters
  cases letters

/-- The key of a request value ends with the name of the value. -/
theorem foreign_of_suffix {key : String} (front suffix : String)
    (ends : key.toList = front.toList ++ ':' :: suffix.toList) (clear : ':' ∉ suffix.toList)
    (other : ¬ "deployment/instance/".toList <+: suffix.toList) : Foreign key := by
  intro componentRef instanceRef named same
  have letters := congrArg String.toList same
  rw [ends, deployedKey_letters] at letters
  obtain ⟨_, back⟩ := split_last letters clear named.letters.1
  exact other (back ▸ named.letters.2)

end Keys

section Bindings

/-- The reference that an identity of a namespace names. -/
def homeRef (namespaceName value : String) : String :=
  (if namespaceName = "component_id" then GraphKind.component.refPrefix "component"
    else if namespaceName = "request_id" then GraphKind.component.refPrefix "request"
    else if namespaceName = "instance_id" then GraphKind.deployment.refPrefix "instance"
    else GraphKind.deployment.refPrefix "node") ++ quote value

/-- Every unique identity is bound to the reference that it names. -/
def Faithful (bindings : Bindings) : Prop :=
  ∀ namespaceName value, namespaceName ∈ uniqueNamespaces →
    ∀ entity ∈ getD bindings (namespaceName, value) [], entity = homeRef namespaceName value

theorem faithful_empty : Faithful [] := fun _ _ _ _ inside => absurd inside (List.not_mem_nil)

/-- An identity of the reference is consistent with every faithful table. -/
def Consistent (entity : String) (identity : String × String) : Prop :=
  identity.1 ∈ uniqueNamespaces → strip identity.2 ≠ "" →
    entity = homeRef identity.1 (strip identity.2)

theorem bindOne_returns {entity : String} {identity : String × String}
    (consistent : Consistent entity identity) :
    Returns Faithful (bindOne entity identity.1 identity.2) fun _ => Faithful := by
  intro bindings faithful
  unfold bindOne
  simp only
  split
  · exact ⟨(), bindings, rfl, faithful⟩
  · rename_i present
    rw [get_bind]
    have free : ¬ (decide (identity.1 ∈ uniqueNamespaces)
        && !(getD bindings (identity.1, strip identity.2) []).isEmpty
        && decide (entity ∉ getD bindings (identity.1, strip identity.2) [])) = true := by
      intro conflict
      simp only [Bool.and_eq_true, decide_eq_true_eq, Bool.not_eq_true', List.isEmpty_eq_false_iff]
        at conflict
      obtain ⟨⟨unique, bound⟩, absent⟩ := conflict
      obtain ⟨other, inside⟩ := List.exists_mem_of_ne_nil _ bound
      rw [faithful _ _ unique other inside, ← consistent unique present] at inside
      exact absent inside
    rw [if_neg free]
    refine ⟨(), _, rfl, ?_⟩
    intro namespaceName value unique other inside
    unfold getD at inside
    rw [lookup_assign] at inside
    split at inside
    · rename_i own
      obtain ⟨rfl, rfl⟩ := Prod.mk.inj own
      simp only [Option.getD_some] at inside
      split at inside
      · exact faithful _ _ unique other inside
      · rcases List.mem_append.mp inside with earlier | added
        · exact faithful _ _ unique other earlier
        · rw [List.mem_singleton.mp added]
          exact consistent unique present
    · exact faithful _ _ unique other inside

theorem bind_returns {entity : String} {identities : List (String × String)} (named : entity ≠ "")
    (consistent : ∀ identity ∈ identities, Consistent entity identity) :
    Returns Faithful (bind entity identities) fun _ => Faithful := by
  unfold bind
  rw [if_neg named]
  exact returns_forM fun identity member => bindOne_returns (consistent identity member)

end Bindings

section Planes

/-- The plane returns from every call of the two sides. -/
structure SoundPlane (plane : InMemoryStatePlane) : Prop where
  named : Named plane
  dated : ∀ entry ∈ plane.relations, entry.2.Dated
  adapter : (plane.components.lookup runtimeAdapter.componentId).isSome = true
  remembered : ∀ componentRef instanceRef, InstanceRef instanceRef →
    (plane.idempotency.lookup (deployedKey componentRef instanceRef)).isSome = true →
    (plane.relations.lookup (componentRef, "deployed_on", instanceRef)).isSome = true

/-- The plane loses no entity, no relation, and no component. -/
def swelling : Frame InMemoryStatePlane where
  rel before after :=
    (∀ ref, (before.entities.lookup ref).isSome = true →
      (after.entities.lookup ref).isSome = true) ∧
    (∀ key, (before.relations.lookup key).isSome = true →
      (after.relations.lookup key).isSome = true) ∧
    Grows before.components after.components
  refl _ := ⟨fun _ => id, fun _ => id, Grows.refl _⟩
  trans first second := ⟨fun ref => second.1 ref ∘ first.1 ref,
    fun key => second.2.1 key ∘ first.2.1 key, first.2.2.trans second.2.2⟩

theorem isSome_assign {κ α : Type} [BEq κ] [LawfulBEq κ] [DecidableEq κ] {key query : κ} {value : α}
    {items : List (κ × α)} (present : (items.lookup query).isSome = true) :
    ((assign key value items).lookup query).isSome = true := by
  rw [lookup_assign]
  split
  · rfl
  · exact present

variable {config : PlaneConfig} {now : Int}

theorem upsertEntity_swelling (entity : GraphEntity) :
    Within swelling (upsertEntity config now entity) := by
  intro plane
  rw [upsertEntity_run]
  repeat' split
  all_goals first
    | exact swelling.refl plane
    | exact ⟨fun _ => isSome_assign, fun _ => id, Grows.refl _⟩

theorem registerComponent_swelling (descriptor : ComponentDescriptor) :
    Within swelling (registerComponent descriptor) := by
  intro plane
  rw [registerComponent_run]
  split
  · rename_i existing found
    split
    · exact swelling.refl plane
    · rename_i same
      refine ⟨fun _ => id, fun _ => id, fun key value held => ?_⟩
      change (assign _ _ _).lookup key = some value
      rw [lookup_assign]
      split
      · rename_i own
        rw [own, found] at held
        rw [← held, not_not.mp same]
      · exact held
  · rename_i absent
    exact ⟨fun _ => id, fun _ => id, grows_assign absent descriptor⟩

theorem acceptState_components (plane : InMemoryStatePlane) (update : StateUpdate)
    (value : StateValue) :
    (acceptState config plane update value).components = plane.components := by
  unfold acceptState InMemoryStatePlane.remember
  split <;> rfl

theorem acceptRelation_components (plane : InMemoryStatePlane) (update : RelationUpdate)
    (relation : GraphRelation) :
    (acceptRelation config plane update relation).components = plane.components := by
  unfold acceptRelation InMemoryStatePlane.remember
  split <;> rfl

theorem publishOne_swelling (update : StateUpdate) :
    Within swelling (publishOne config update) := by
  intro plane
  rw [publishOne_run]
  rcases judgeState config plane update with exception | (result | value)
  · exact swelling.refl plane
  · exact swelling.refl plane
  · refine ⟨fun ref => ?_, fun key => ?_, ?_⟩
    · rw [finalState_ok, acceptState_entities]
      exact id
    · rw [finalState_ok, acceptState_relations]
      exact id
    · rw [finalState_ok, acceptState_components]
      exact Grows.refl _

theorem upsertRelation_swelling (update : RelationUpdate) :
    Within swelling (upsertRelation config update) := by
  intro plane
  rw [upsertRelation_run]
  rcases judgeRelation plane update with exception | (result | relation)
  · exact swelling.refl plane
  · exact swelling.refl plane
  · refine ⟨fun ref => ?_, fun key => ?_, ?_⟩
    · rw [finalState_ok, acceptRelation_entities]
      exact id
    · rw [finalState_ok, acceptRelation_relations]
      exact isSome_assign
    · rw [finalState_ok, acceptRelation_components]
      exact Grows.refl _

/-- A foreign name leaves the remembered deployments alone. -/
theorem lookup_remember {plane : InMemoryStatePlane} {key : String} {result : WriteResult}
    {name : String} (other : key ≠ name) :
    (plane.remember key result).idempotency.lookup name = plane.idempotency.lookup name := by
  unfold InMemoryStatePlane.remember
  split
  · rfl
  · exact lookup_assign_other (Ne.symm other) _ _

theorem publishOne_sound {update : StateUpdate} (foreign : Foreign update.idempotencyKey) :
    Returns SoundPlane (publishOne config update) fun _ => SoundPlane := by
  intro plane sound
  obtain ⟨verdict, judged⟩ := judgeState_returns config plane update
  rw [publishOne_run, judged]
  cases verdict with
  | error result => exact ⟨result, plane, rfl, sound⟩
  | ok value =>
      refine ⟨_, _, rfl, ?_, ?_, ?_, ?_⟩
      · intro ref entity found
        rw [acceptState_entities] at found
        exact sound.named ref entity found
      · rw [acceptState_relations]
        exact sound.dated
      · rw [acceptState_components]
        exact sound.adapter
      · intro componentRef instanceRef named remembered
        rw [acceptState_relations]
        apply sound.remembered componentRef instanceRef named
        unfold acceptState at remembered
        rw [lookup_remember (foreign componentRef instanceRef named)] at remembered
        exact remembered

/-- The key of a deployment belongs to its relation. -/
def Keyed (update : RelationUpdate) : Prop :=
  ∀ componentRef instanceRef, InstanceRef instanceRef →
    update.idempotencyKey = deployedKey componentRef instanceRef →
    update.relationKey = (componentRef, "deployed_on", instanceRef)

theorem Foreign.keyed {update : RelationUpdate} (foreign : Foreign update.idempotencyKey) :
    Keyed update :=
  fun componentRef instanceRef named same => absurd same (foreign componentRef instanceRef named)

theorem upsertRelation_sound {update : RelationUpdate} (keyed : Keyed update)
    (unlimited : update.ttl = none) :
    Returns SoundPlane (upsertRelation config update) fun _ => SoundPlane := by
  intro plane sound
  obtain ⟨verdict, judged⟩ := judgeRelation_returns sound.dated update
  rw [upsertRelation_run, judged]
  cases verdict with
  | error result => exact ⟨result, plane, rfl, sound⟩
  | ok relation =>
      obtain ⟨_, stored⟩ := judgeRelation_accepts judged
      refine ⟨_, _, rfl, ?_, ?_, ?_, ?_⟩
      · intro ref entity found
        rw [acceptRelation_entities] at found
        exact sound.named ref entity found
      · rw [acceptRelation_relations]
        intro entry member
        rcases mem_assign member with same | earlier
        · rw [same, stored]
          intro ttl limited
          change ttl ∈ update.ttl at limited
          rw [unlimited] at limited
          cases limited
        · exact sound.dated entry earlier
      · rw [acceptRelation_components]
        exact sound.adapter
      · intro componentRef instanceRef named remembered
        rw [acceptRelation_relations]
        by_cases own : update.idempotencyKey = deployedKey componentRef instanceRef
        · rw [keyed componentRef instanceRef named own, lookup_assign_same]
          rfl
        · unfold acceptRelation at remembered
          rw [lookup_remember own] at remembered
          exact isSome_assign (sound.remembered componentRef instanceRef named remembered)

/-- The parts of a plane that no entity changes. -/
def ledger (plane : InMemoryStatePlane) : List (RelationKey × GraphRelation) ×
    List (String × ComponentDescriptor) × List (String × WriteResult) :=
  (plane.relations, plane.components, plane.idempotency)

theorem SoundPlane.of_ledger {before after : InMemoryStatePlane} (sound : SoundPlane before)
    (named : Named after) (same : ledger after = ledger before) :
    SoundPlane after := by
  obtain ⟨relations, rest⟩ := Prod.mk.inj same
  obtain ⟨components, idempotency⟩ := Prod.mk.inj rest
  refine ⟨named, ?_, ?_, ?_⟩
  · rw [relations]
    exact sound.dated
  · rw [components]
    exact sound.adapter
  · rw [relations, idempotency]
    exact sound.remembered

theorem upsertEntity_ledger (config : PlaneConfig) (now : Int) (entity : GraphEntity) :
    Within (Frame.fixes ledger) (upsertEntity config now entity) := by
  intro plane
  rw [upsertEntity_run]
  repeat' split
  all_goals rfl

theorem upsertEntity_sound (config : PlaneConfig) (now : Int) (entity : GraphEntity) :
    Returns SoundPlane (upsertEntity config now entity) fun _ plane =>
      SoundPlane plane ∧ (plane.entities.lookup entity.ref).isSome = true := by
  intro plane sound
  have same := upsertEntity_ledger config now entity plane
  obtain ⟨next, ran, stored⟩ := upsertEntity_named config now entity sound.named
  rw [ran] at same
  refine ⟨(), next, ran, sound.of_ledger (named_of_lookup sound.named stored) same, ?_⟩
  rw [stored, if_pos rfl]
  rfl

theorem upsertEntity_keeps (entity : GraphEntity) :
    Returns SoundPlane (upsertEntity config now entity) fun _ => SoundPlane :=
  (upsertEntity_sound config now entity).weaken (fun _ => id) fun _ _ => And.left

theorem ensureEntity_sound (entity : GraphEntity) :
    Returns SoundPlane (ensureEntity config now entity) fun _ => SoundPlane := by
  intro plane sound
  unfold ensureEntity
  rw [get_bind]
  split
  · obtain ⟨_, next, ran, after, _⟩ := upsertEntity_sound config now entity plane sound
    exact ⟨(), next, ran, after⟩
  · exact ⟨(), plane, rfl, sound⟩

/-- A registration returns exactly when no other descriptor is registered. -/
theorem registerComponent_returns_iff {descriptor : ComponentDescriptor}
    {plane : InMemoryStatePlane} :
    (∃ next, registerComponent descriptor plane = .ok () next) ↔
      ∀ existing, plane.components.lookup descriptor.componentId = some existing →
        existing = descriptor := by
  rw [registerComponent_run]
  cases found : plane.components.lookup descriptor.componentId with
  | none => exact ⟨fun _ existing same => (nomatch same), fun _ => ⟨_, rfl⟩⟩
  | some other =>
      by_cases same : other = descriptor
      · simp [same]
      · simp [same]

theorem registerComponent_ok {descriptor : ComponentDescriptor} {plane next : InMemoryStatePlane}
    (returned : registerComponent descriptor plane = .ok () next) :
    next = { plane with
      components := assign descriptor.componentId descriptor plane.components } := by
  rw [registerComponent_run] at returned
  split at returned
  · split at returned
    · cases returned
    · cases returned
      rfl
  · cases returned
    rfl

theorem registerComponent_sound {descriptor : ComponentDescriptor} {plane next : InMemoryStatePlane}
    (sound : SoundPlane plane) (returned : registerComponent descriptor plane = .ok () next) :
    SoundPlane next := by
  cases registerComponent_ok returned
  exact ⟨sound.named, sound.dated, isSome_assign sound.adapter, sound.remembered⟩

/-- The runtime adapter is registered, so its heartbeat is accepted. -/
theorem heartbeat_sound (watermark : String) (timestamp : Int) :
    Returns SoundPlane (heartbeat (adapterHeartbeat runtimeAdapter.componentId watermark timestamp))
      fun _ => SoundPlane := by
  intro plane sound
  have registered : (plane.components.lookup (adapterHeartbeat runtimeAdapter.componentId watermark
      timestamp).subjectRef).isNone = false := by
    rw [Option.isNone_eq_false_iff]
    exact sound.adapter
  rw [heartbeat_run, registered, Bool.and_false, if_neg Bool.false_ne_true]
  exact ⟨(), _, rfl, sound.of_ledger (fun ref entity found => sound.named ref entity found) rfl⟩

end Planes

section Worlds
variable {config : PlaneConfig} {now : Int}

/-- The plane and the resolver of one side. -/
structure Sound (world : World) : Prop where
  plane : SoundPlane world.plane
  bindings : Faithful world.bindings

theorem onPlane_sound {A : Type} {action : PlaneAction A} {post : A → InMemoryStatePlane → Prop}
    (total : Returns SoundPlane action fun value plane => SoundPlane plane ∧ post value plane) :
    Returns Sound (onPlane action) fun value world => Sound world ∧ post value world.plane := by
  intro world sound
  obtain ⟨value, plane, ran, after, holds⟩ := total world.plane sound.plane
  exact ⟨value, _, onPlane_of_ok ran, ⟨after, sound.bindings⟩, holds⟩

theorem onPlane_from {A : Type} {action : PlaneAction A} {pre : InMemoryStatePlane → Prop}
    {post : A → InMemoryStatePlane → Prop}
    (total : Returns (fun plane => SoundPlane plane ∧ pre plane) action fun value plane =>
      SoundPlane plane ∧ post value plane) :
    Returns (fun world => Sound world ∧ pre world.plane) (onPlane action) fun value world =>
      Sound world ∧ post value world.plane := by
  intro world ⟨sound, start⟩
  obtain ⟨value, plane, ran, after, holds⟩ := total world.plane ⟨sound.plane, start⟩
  exact ⟨value, _, onPlane_of_ok ran, ⟨after, sound.bindings⟩, holds⟩

theorem onPlane_keeps {A : Type} {action : PlaneAction A}
    (total : Returns SoundPlane action fun _ => SoundPlane) :
    Returns Sound (onPlane action) fun _ => Sound := by
  intro world sound
  obtain ⟨value, plane, ran, after⟩ := total world.plane sound.plane
  exact ⟨value, _, onPlane_of_ok ran, after, sound.bindings⟩

theorem onBindings_keeps {A : Type} {action : EStateM Exception Bindings A}
    (total : Returns Faithful action fun _ => Faithful) :
    Returns Sound (onBindings action) fun _ => Sound := by
  intro world sound
  obtain ⟨value, bindings, ran, after⟩ := total world.bindings sound.bindings
  exact ⟨value, _, zoom_of_ok ran, sound.plane, after⟩

/-- A reference may be bound to the identity that names it. -/
theorem bind_ref {graph : GraphKind} {entityType identifier ref namespaceName : String}
    (built : entityRef graph entityType identifier = .ok ref)
    (home : homeRef namespaceName (strip identifier) =
      graph.refPrefix entityType ++ quote (strip identifier))
    {others : List (String × String)}
    (shared : ∀ identity ∈ others, identity.1 ∉ uniqueNamespaces) :
    Returns Sound (onBindings (bind ref ((namespaceName, identifier) :: others))) fun _ => Sound := by
  apply onBindings_keeps
  apply bind_returns (entityRef_ne_empty built)
  intro identity member
  rcases List.mem_cons.mp member with rfl | later
  · exact fun _ _ => (entityRef_ok built).2.trans home.symm
  · exact fun unique => absurd unique (shared identity later)

/-- A computation continues with the entity of a built reference. -/
theorem returns_made {A : Type} {graph : GraphKind} {entityType identifier ref : String}
    {lifecycle owner : String} {labels : List (String × String)}
    {next : GraphEntity → PlaneAction A} {pre : InMemoryStatePlane → Prop}
    {post : A → InMemoryStatePlane → Prop}
    (built : entityRef graph entityType identifier = .ok ref)
    (allowed : entityType ∈ graph.entityTypes)
    (rest : ∀ entity, entity.ref = ref → Returns pre (next entity) post) :
    Returns pre (lift (GraphEntity.make ref graph entityType lifecycle owner labels) >>= next)
      post := by
  obtain ⟨entity, made, _⟩ := make_of_entityRef built allowed lifecycle owner labels
  exact returns_lift_bind made (rest entity (make_ok made).1)

/-- A fact about a value holds in every state. -/
theorem returns_of_fact {A B : Type} {pre : A → Prop} {fact : Prop}
    {program : EStateM Exception A B} {post : B → A → Prop}
    (total : fact → Returns pre program post) :
    Returns (fun state => pre state ∧ fact) program post :=
  fun state start => total start.2 state start.1

theorem publishState_sound {updates : List StateUpdate}
    (foreign : ∀ update ∈ updates, Foreign update.idempotencyKey) :
    Returns Sound (onPlane (publishState config updates)) fun _ => Sound :=
  onPlane_keeps (returns_mapM fun update member => publishOne_sound (foreign update member))

/-- The projector and the runtime adapter write such relations only. -/
structure Plain (update : RelationUpdate) : Prop where
  keyed : Keyed update
  unlimited : update.ttl = none

theorem upsertRelations_sound {updates : List RelationUpdate}
    (plain : ∀ update ∈ updates, Plain update) :
    Returns Sound (onPlane (upsertRelations config updates)) fun _ => Sound :=
  onPlane_keeps (returns_mapM fun update member =>
    upsertRelation_sound (plain update member).keyed (plain update member).unlimited)

end Worlds

section Observations
variable {config : PlaneConfig} {now : Int} {observation : RuntimeObservation}

/-- The identifiers of an observation are not blank. -/
structure ObservationFits (observation : RuntimeObservation) : Prop where
  runtime : strip observation.runtimeId ≠ ""
  hosted : strip observation.instanceId ≠ ""
  node : observation.nodeId = "" ∨ strip observation.nodeId ≠ ""
  request : observation.requestId = "" ∨ strip observation.requestId ≠ ""

theorem observation_foreign (suffix : String) : Foreign (observation.key suffix) := by
  unfold RuntimeObservation.key
  split
  · exact foreign_empty
  · refine foreign_of_head 'r' ?_ (by decide)
    simp only [String.toList_append]
    rfl

theorem relation_plain (sourceRef relationType targetRef suffix : String)
    (authority : SourceAuthority) :
    Plain (observation.relation sourceRef relationType targetRef authority suffix) :=
  ⟨Foreign.keyed (observation_foreign suffix), rfl⟩

theorem updates_foreign (runtimeRef instanceRef : String) :
    ∀ update ∈ observation.updates runtimeRef instanceRef, Foreign update.idempotencyKey := by
  intro update member
  rcases List.mem_append.mp member with value | ready
  · obtain ⟨entry, _, rfl⟩ := List.mem_map.mp value
    exact observation_foreign _
  · split at ready
    · rw [List.mem_singleton.mp ready]
      exact observation_foreign _
    · cases ready

theorem registerRuntime_sound :
    Returns SoundPlane (registerRuntime observation) fun _ => SoundPlane := by
  intro plane sound
  unfold registerRuntime
  rw [get_bind]
  split
  · rename_i absent
    have free : ∀ existing, plane.components.lookup observation.descriptor.componentId =
        some existing → existing = observation.descriptor := by
      intro existing found
      have unknown : plane.components.lookup observation.runtimeId = some existing := found
      rw [unknown] at absent
      cases absent
    obtain ⟨next, ran⟩ := registerComponent_returns_iff.mpr free
    exact ⟨(), next, ran, registerComponent_sound sound ran⟩
  · exact ⟨(), plane, rfl, sound⟩

theorem projectEntities_sound {runtimeRef instanceRef : String}
    (runtime : Adapters.runtimeRef observation.runtimeId = .ok runtimeRef)
    (hosted : Adapters.instanceRef observation.instanceId = .ok instanceRef) :
    Returns SoundPlane (projectEntities config now observation runtimeRef instanceRef)
      fun _ => SoundPlane := by
  unfold projectEntities
  apply returns_made runtime component_allowed
  intro component _
  apply returns_seq (upsertEntity_keeps component)
  apply returns_made hosted (by decide)
  intro entity _
  exact upsertEntity_keeps entity

theorem relateNode_sound (instanceRef : String)
    (named : observation.nodeId = "" ∨ strip observation.nodeId ≠ "") :
    Returns Sound (relateNode config now observation instanceRef) fun updates world =>
      Sound world ∧ ∀ update ∈ updates, Plain update := by
  unfold relateNode
  split
  · exact returns_pure fun world sound => ⟨sound, fun _ inside => absurd inside (List.not_mem_nil)⟩
  · rename_i present
    obtain ⟨nodeRef, node⟩ := entityRef_returns_iff.mpr (named.resolve_left present)
    apply returns_lift_bind node
    apply returns_seq
    · apply onPlane_keeps
      apply returns_made node (by decide)
      intro entity _
      exact ensureEntity_sound entity
    · apply returns_seq (bind_ref node rfl (by simp))
      apply returns_pure
      intro world sound
      refine ⟨sound, fun update inside => ?_⟩
      rw [List.mem_singleton.mp inside]
      exact relation_plain _ _ _ _ _

theorem relateRequest_sound (runtimeRef instanceRef : String)
    (named : observation.requestId = "" ∨ strip observation.requestId ≠ "") :
    Returns Sound (relateRequest config now observation runtimeRef instanceRef)
      fun updates world => Sound world ∧ ∀ update ∈ updates, Plain update := by
  unfold relateRequest
  split
  · exact returns_pure fun world sound => ⟨sound, fun _ inside => absurd inside (List.not_mem_nil)⟩
  · rename_i present
    obtain ⟨requestRef, request⟩ := entityRef_returns_iff.mpr (named.resolve_left present)
    apply returns_lift_bind request
    apply returns_seq
    · apply onPlane_keeps
      apply returns_made request (by decide)
      intro entity _
      exact ensureEntity_sound entity
    · apply returns_seq (bind_ref request rfl (by simp [uniqueNamespaces]))
      apply returns_pure
      intro world sound
      refine ⟨sound, fun update inside => ?_⟩
      rcases List.mem_cons.mp inside with rfl | second
      · exact relation_plain _ _ _ _ _
      · rw [List.mem_singleton.mp second]
        exact relation_plain _ _ _ _ _

/-- An observation with identifiers is published. -/
theorem publish_sound (fits : ObservationFits observation) :
    Returns Sound (publish config now observation) fun _ => Sound := by
  obtain ⟨runtimeRef, runtime⟩ := entityRef_returns_iff.mpr fits.runtime
  obtain ⟨instanceRef, hosted⟩ := entityRef_returns_iff.mpr fits.hosted
  unfold publish
  apply returns_lift_bind runtime
  apply returns_lift_bind hosted
  apply returns_seq (onPlane_keeps registerRuntime_sound)
  apply returns_seq (onPlane_keeps (projectEntities_sound runtime hosted))
  apply returns_seq (bind_ref runtime rfl (by simp))
  apply returns_seq (bind_ref hosted rfl (by simp))
  apply returns_bind (relateNode_sound instanceRef fits.node)
  intro contained
  apply returns_of_fact
  intro containedPlain
  apply returns_bind (relateRequest_sound runtimeRef instanceRef fits.request)
  intro executing
  apply returns_of_fact
  intro executingPlain
  apply returns_bind (publishState_sound (updates_foreign runtimeRef instanceRef))
  intro stateResults
  apply returns_bind
  · apply upsertRelations_sound
    intro update member
    rcases List.mem_append.mp member with front | back
    · rcases List.mem_cons.mp front with rfl | inside
      · exact relation_plain _ _ _ _ _
      · exact containedPlain update inside
    · exact executingPlain update back
  · intro relationResults
    exact returns_seq (onPlane_keeps (heartbeat_sound _ _)) (returns_pure fun _ => id)

end Observations

section Deployment
variable {config : PlaneConfig} {now : Int} {plane : InMemoryStatePlane}

/-- An allowed relation is answered without a write only when it is remembered or present. -/
theorem judgeRelation_rejected {update : RelationUpdate} {result : WriteResult}
    {source target : GraphEntity} (judged : judgeRelation plane update = .ok (.error result))
    (unconditional : update.expectedVersion = none)
    (sourceFound : plane.entities.lookup update.sourceRef = some source)
    (targetFound : plane.entities.lookup update.targetRef = some target)
    (allowed : relationAllowed source target update.relationType = true) :
    (plane.idempotency.lookup update.idempotencyKey).isSome = true ∨
      (plane.relations.lookup update.relationKey).isSome = true := by
  cases known : plane.duplicate update.idempotencyKey with
  | some previous =>
      left
      unfold InMemoryStatePlane.duplicate at known
      split at known
      · cases known
      · obtain ⟨_, found, _⟩ := Option.map_eq_some_iff.mp known
        rw [found]
        rfl
  | none =>
      right
      cases held : plane.relations.lookup update.relationKey with
      | some relation => rfl
      | none =>
          have absent : plane.heldRelation update = none := by
            unfold InMemoryStatePlane.heldRelation
            rw [held]
            rfl
          simp [judgeRelation, known, sourceFound, targetFound, allowed, absent, writeConflict,
            casConflict, unconditional, pure, Except.pure, Bind.bind, Except.bind] at judged

/-- The entities of a component and of an instance are present. -/
def Hosted (componentRef instanceRef : String) (plane : InMemoryStatePlane) : Prop :=
  (plane.entities.lookup componentRef).isSome = true ∧
    (plane.entities.lookup instanceRef).isSome = true

/-- The component is deployed on the instance. -/
def Deployed (componentRef instanceRef : String) (plane : InMemoryStatePlane) : Prop :=
  Hosted componentRef instanceRef plane ∧
    (plane.relations.lookup (componentRef, "deployed_on", instanceRef)).isSome = true

theorem Hosted.swells {componentRef instanceRef : String} (before after : InMemoryStatePlane)
    (grown : swelling.rel before after) (hosted : Hosted componentRef instanceRef before) :
    Hosted componentRef instanceRef after :=
  ⟨grown.1 _ hosted.1, grown.1 _ hosted.2⟩

theorem Deployed.swells {componentRef instanceRef : String} (before after : InMemoryStatePlane)
    (grown : swelling.rel before after) (deployed : Deployed componentRef instanceRef before) :
    Deployed componentRef instanceRef after :=
  ⟨deployed.1.swells before after grown, grown.2.1 _ deployed.2⟩

theorem stored_kind {graph : GraphKind} {entityType identifier ref : String}
    (built : entityRef graph entityType identifier = .ok ref)
    (allowed : entityType ∈ graph.entityTypes) (named : Named plane)
    (present : (plane.entities.lookup ref).isSome = true) :
    ∃ entity, plane.entities.lookup ref = some entity ∧ entity.graph = graph ∧
      entity.entityType = entityType := by
  obtain ⟨entity, found⟩ := Option.isSome_iff_exists.mp present
  obtain ⟨other, made, _⟩ := make_of_entityRef built allowed "" "" []
  obtain ⟨own, graphSame, typeSame⟩ := make_ok made
  have kind := kind_of_ref ((named ref entity found).trans own.symm)
  exact ⟨entity, found, kind.1.trans graphSame, kind.2.trans typeSame⟩

theorem deployedOn_plain {componentRef instanceRef : String} (named : InstanceRef instanceRef) :
    Plain (deployedOn now componentRef instanceRef) := by
  refine ⟨fun otherRef otherInstance otherNamed same => ?_, rfl⟩
  obtain ⟨rfl, rfl⟩ := deployedKey_inj named otherNamed same
  rfl

/-- The projector materializes the deployment of present entities. -/
theorem deployedOn_sound {endpointId replicaId componentRef instanceRef : String}
    (component : runtimeRef endpointId = .ok componentRef)
    (hosted : Adapters.instanceRef replicaId = .ok instanceRef) :
    Returns (fun plane => SoundPlane plane ∧ Hosted componentRef instanceRef plane)
      (upsertRelation config (deployedOn now componentRef instanceRef))
      fun _ plane => SoundPlane plane ∧ Deployed componentRef instanceRef plane := by
  intro plane ⟨sound, present⟩
  have plain := @deployedOn_plain now componentRef instanceRef ⟨replicaId, hosted⟩
  obtain ⟨result, next, ran, after⟩ :=
    @upsertRelation_sound config _ plain.keyed plain.unlimited plane sound
  refine ⟨result, next, ran, after, present.swells _ _ ((upsertRelation_swelling _).returned ran), ?_⟩
  rw [upsertRelation_run] at ran
  obtain ⟨verdict, judged⟩ :=
    judgeRelation_returns sound.dated (deployedOn now componentRef instanceRef)
  rw [judged] at ran
  cases verdict with
  | ok relation =>
      cases ran
      rw [acceptRelation_relations]
      change (List.lookup _ (assign (componentRef, "deployed_on", instanceRef) _ _)).isSome = true
      rw [lookup_assign_same]
      rfl
  | error answer =>
      cases ran
      obtain ⟨source, sourceFound, sourceGraph, sourceType⟩ :=
        stored_kind component component_allowed sound.named present.1
      obtain ⟨target, targetFound, targetGraph, targetType⟩ :=
        stored_kind hosted (by decide) sound.named present.2
      have allowed : relationAllowed source target "deployed_on" = true := by
        simp [relationAllowed, sourceGraph, targetGraph, sourceType, targetType]
      rcases judgeRelation_rejected judged rfl sourceFound targetFound allowed with
        remembered | stored
      · exact sound.remembered componentRef instanceRef ⟨replicaId, hosted⟩ remembered
      · exact stored

end Deployment

section Targets
variable (text : Text) {config : PlaneConfig} {now : Int}

/-- The identifiers of a target are not blank and its metadata convert. -/
structure TargetFits (target : TargetCandidate) : Prop where
  component : strip target.endpointId ≠ ""
  hosted : strip target.replicaId ≠ ""
  node : targetNodeId text target = "" ∨ strip (targetNodeId text target) ≠ ""
  depth : ∀ value, target.metadata.lookup "queue_depth" = some value →
    ∃ number, text.int value = .ok number
  gpu : ∀ value, target.metadata.lookup "allocated_gpu" = some value →
    ∃ number, text.float value = .ok number

theorem metadataGuess_returns_iff {target : TargetCandidate} {name entityRef key : String}
    {convert : Value → Except Exception Value} :
    (∃ updates, metadataGuess now target name entityRef key convert = .ok updates) ↔
      ∀ value, target.metadata.lookup name = some value → ∃ result, convert value = .ok result := by
  unfold metadataGuess
  cases target.metadata.lookup name with
  | none => simp
  | some value =>
      constructor
      · rintro ⟨updates, returned⟩ other same
        cases same
        obtain ⟨result, converted, _⟩ := except_bind_ok returned
        exact ⟨result, converted⟩
      · intro converts
        obtain ⟨result, converted⟩ := converts value rfl
        simp only [converted]
        exact ⟨_, rfl⟩

theorem targetUpdates_returns_iff {target : TargetCandidate} {componentRef instanceRef : String} :
    (∃ updates, targetUpdates text now target componentRef instanceRef = .ok updates) ↔
      (∀ value, target.metadata.lookup "queue_depth" = some value →
        ∃ number, text.int value = .ok number) ∧
      ∀ value, target.metadata.lookup "allocated_gpu" = some value →
        ∃ number, text.float value = .ok number := by
  have number {A : Type} (result : Except Exception A) (wrap : A → Value) :
      (∃ value, (do return wrap (← result)) = (.ok value : Except Exception Value)) ↔
        ∃ number, result = .ok number := by
    cases result with
    | error exception => simp [Bind.bind, Except.bind]
    | ok found => simp [Bind.bind, Except.bind, pure, Except.pure]
  have depth := @metadataGuess_returns_iff now target "queue_depth" componentRef
    "runtime.queue_depth" fun value => do return .int (← text.int value)
  have gpu := @metadataGuess_returns_iff now target "allocated_gpu" instanceRef
    "instance.allocated_gpu" fun value => do return .float (← text.float value)
  simp only [number] at depth gpu
  rw [← depth, ← gpu]
  unfold targetUpdates
  constructor
  · rintro ⟨updates, returned⟩
    obtain ⟨depths, depthReturned, rest⟩ := except_bind_ok returned
    obtain ⟨gpus, gpuReturned, _⟩ := except_bind_ok rest
    exact ⟨⟨depths, depthReturned⟩, gpus, gpuReturned⟩
  · rintro ⟨⟨depths, depthReturned⟩, gpus, gpuReturned⟩
    simp only [depthReturned, gpuReturned]
    exact ⟨_, rfl⟩

/-- The guesses of the projector are not remembered. -/
theorem targetUpdates_unnamed {target : TargetCandidate} {componentRef instanceRef : String}
    {updates : List StateUpdate}
    (returned : targetUpdates text now target componentRef instanceRef = .ok updates) :
    ∀ update ∈ updates, Foreign update.idempotencyKey := by
  have guessed {name entityRef key : String} {convert : Value → Except Exception Value}
      {found : List StateUpdate}
      (answered : metadataGuess now target name entityRef key convert = .ok found) :
      ∀ update ∈ found, update.idempotencyKey = "" := by
    unfold metadataGuess at answered
    split at answered
    · obtain ⟨value, _, finished⟩ := except_bind_ok answered
      cases finished
      intro update member
      rw [List.mem_singleton.mp member]
      rfl
    · cases answered
      exact fun update member => absurd member (List.not_mem_nil)
  unfold targetUpdates at returned
  obtain ⟨depths, depthReturned, rest⟩ := except_bind_ok returned
  obtain ⟨gpus, gpuReturned, finished⟩ := except_bind_ok rest
  cases finished
  intro update member
  have unnamed : update.idempotencyKey = "" := by
    rcases List.mem_append.mp member with early | gpu
    · rcases List.mem_append.mp early with own | depth
      · rcases List.mem_cons.mp own with rfl | last
        · rfl
        · rw [List.mem_singleton.mp last]
          rfl
      · exact guessed depthReturned update depth
    · exact guessed gpuReturned update gpu
  rw [unnamed]
  exact foreign_empty

/-- The endpoint of a target is free or registered with the same descriptor. -/
def Registrable (components : List (String × ComponentDescriptor)) (target : TargetCandidate) :
    Prop :=
  ∀ existing, components.lookup target.endpointId = some existing →
    existing = targetDescriptor text target

/-- A binding leaves the registered components alone. -/
theorem bind_registrable {target : TargetCandidate} {action : EStateM Exception Bindings Unit}
    (total : Returns Sound (onBindings action) fun _ => Sound) :
    Returns (fun world => Sound world ∧ Registrable text world.plane.components target)
      (onBindings action) fun _ world =>
        Sound world ∧ Registrable text world.plane.components target :=
  total.frame (onBindings_within (Frame.fixes InMemoryStatePlane.components) _)
    fun before after same free => by
      change after.plane.components = before.plane.components at same
      rwa [same]

theorem registerTarget_sound {target : TargetCandidate} :
    Returns (fun world => Sound world ∧ Registrable text world.plane.components target)
      (onPlane (registerComponent (targetDescriptor text target))) fun _ => Sound := by
  intro world ⟨sound, free⟩
  have returns : ∃ next, registerComponent (targetDescriptor text target) world.plane =
    .ok () next := registerComponent_returns_iff.mpr free
  obtain ⟨next, ran⟩ := returns
  exact ⟨(), _, onPlane_of_ok ran, registerComponent_sound sound.plane ran, sound.bindings⟩

theorem admitTarget_sound {target : TargetCandidate} {componentRef instanceRef : String}
    (component : runtimeRef target.endpointId = .ok componentRef)
    (hosted : Adapters.instanceRef target.replicaId = .ok instanceRef) :
    Returns (fun world => Sound world ∧ Registrable text world.plane.components target)
      (admitTarget text target) fun refs world =>
        Sound world ∧ refs = (componentRef, instanceRef) := by
  unfold admitTarget
  apply returns_lift_bind component
  apply returns_lift_bind hosted
  apply returns_seq (bind_registrable text (bind_ref component rfl (by simp)))
  apply returns_seq (bind_registrable text (bind_ref hosted rfl (by simp)))
  apply returns_seq (registerTarget_sound text)
  exact returns_pure fun _ sound => ⟨sound, rfl⟩

theorem projectTarget_sound {target : TargetCandidate} {componentRef instanceRef : String}
    (component : runtimeRef target.endpointId = .ok componentRef)
    (hosted : Adapters.instanceRef target.replicaId = .ok instanceRef) :
    Returns SoundPlane (projectTarget config now target componentRef instanceRef) fun _ plane =>
      SoundPlane plane ∧ Hosted componentRef instanceRef plane := by
  unfold projectTarget
  apply returns_made component component_allowed
  rintro runtime rfl
  apply returns_seq (upsertEntity_sound config now runtime)
  apply returns_made hosted (by decide)
  rintro host rfl
  apply ((upsertEntity_sound config now host).frame (upsertEntity_swelling host)
    fun _ _ grown => grown.1 runtime.ref).weaken fun _ => id
  exact fun _ _ held => ⟨held.1.1, held.2, held.1.2⟩

theorem projectNode_sound {target : TargetCandidate} (instanceRef : String)
    (named : targetNodeId text target = "" ∨ strip (targetNodeId text target) ≠ "") :
    Returns SoundPlane (projectNode text config now target instanceRef) fun updates plane =>
      SoundPlane plane ∧ ∀ update ∈ updates, Plain update := by
  unfold projectNode
  split
  · exact returns_pure fun plane sound => ⟨sound, fun _ inside => absurd inside (List.not_mem_nil)⟩
  · rename_i present
    obtain ⟨nodeRef, node⟩ := entityRef_returns_iff.mpr (named.resolve_left present)
    apply returns_lift_bind node
    apply returns_made node (by decide)
    intro entity _
    apply returns_seq (upsertEntity_keeps entity)
    apply returns_pure
    intro plane sound
    refine ⟨sound, fun update inside => ?_⟩
    rw [List.mem_singleton.mp inside]
    refine ⟨Foreign.keyed (foreign_of_head 'c' ?_ (by decide)), rfl⟩
    unfold gatewayRelation
    simp only [String.toList_append]
    rfl

theorem projectNode_swelling {target : TargetCandidate} (instanceRef : String) :
    Within swelling (projectNode text config now target instanceRef) := by
  unfold projectNode
  split
  · exact within_pure _
  · apply within_bind (within_lift _)
    intro nodeRef
    apply within_lift_bind
    intro entity _
    exact within_seq (upsertEntity_swelling entity) (within_pure _)

theorem projectNode_hosted {target : TargetCandidate} {componentRef : String} (instanceRef : String)
    (named : targetNodeId text target = "" ∨ strip (targetNodeId text target) ≠ "") :
    Returns (fun plane => SoundPlane plane ∧ Hosted componentRef instanceRef plane)
      (projectNode text config now target instanceRef) fun updates plane => SoundPlane plane ∧
        Hosted componentRef instanceRef plane ∧ ∀ update ∈ updates, Plain update :=
  ((projectNode_sound text instanceRef named).frame (projectNode_swelling text instanceRef)
    Hosted.swells).weaken (fun _ => id) fun _ _ held => ⟨held.1.1, held.2, held.1.2⟩

theorem publishState_deployed {componentRef instanceRef : String} {updates : List StateUpdate}
    (foreign : ∀ update ∈ updates, Foreign update.idempotencyKey) :
    Returns (fun plane => SoundPlane plane ∧ Deployed componentRef instanceRef plane)
      (publishState config updates) fun _ plane =>
        SoundPlane plane ∧ Deployed componentRef instanceRef plane :=
  returns_mapM fun update member => (publishOne_sound (foreign update member)).frame
    (publishOne_swelling update) Deployed.swells

theorem deployments_sound {endpointId replicaId componentRef instanceRef : String}
    (component : runtimeRef endpointId = .ok componentRef)
    (hosted : Adapters.instanceRef replicaId = .ok instanceRef) {contained : List RelationUpdate}
    (plain : ∀ update ∈ contained, Plain update) :
    Returns (fun plane => SoundPlane plane ∧ Hosted componentRef instanceRef plane)
      (upsertRelations config (deployedOn now componentRef instanceRef :: contained))
      fun _ plane => SoundPlane plane ∧ Deployed componentRef instanceRef plane := by
  unfold upsertRelations
  rw [List.mapM_cons]
  apply returns_bind (deployedOn_sound component hosted)
  intro result
  apply returns_bind
  · exact returns_mapM fun update member =>
      (upsertRelation_sound (plain update member).keyed (plain update member).unlimited).frame
        (upsertRelation_swelling update) Deployed.swells
  · exact fun results => returns_pure fun _ => id

/-- A target that fits a free endpoint is materialized. -/
theorem recordTarget_sound {target : TargetCandidate} (fits : TargetFits text target)
    {componentRef instanceRef : String}
    (component : runtimeRef target.endpointId = .ok componentRef)
    (hosted : Adapters.instanceRef target.replicaId = .ok instanceRef) :
    Returns (fun world => Sound world ∧ Registrable text world.plane.components target)
      (recordTarget text config now target) fun _ world =>
        Sound world ∧ Deployed componentRef instanceRef world.plane := by
  obtain ⟨updates, converted⟩ :=
    (@targetUpdates_returns_iff text now target componentRef instanceRef).mpr ⟨fits.depth, fits.gpu⟩
  unfold recordTarget
  apply returns_bind (admitTarget_sound text component hosted)
  intro refs
  apply returns_of_fact
  rintro rfl
  apply returns_seq (onPlane_sound (projectTarget_sound component hosted))
  have projected : Returns (fun world => Sound world ∧ Hosted componentRef instanceRef world.plane)
      (onPlane (projectNode text config now target instanceRef)) fun updates world =>
        (Sound world ∧ Hosted componentRef instanceRef world.plane) ∧
          ∀ update ∈ updates, Plain update :=
    (onPlane_from (projectNode_hosted text instanceRef fits.node)).weaken (fun _ => id)
      fun _ _ held => ⟨⟨held.1, held.2.1⟩, held.2.2⟩
  apply returns_bind projected
  intro contained
  apply returns_of_fact
  intro plain
  apply returns_bind (onPlane_from (deployments_sound component hosted plain))
  intro results
  apply returns_lift_bind converted
  apply returns_bind (onPlane_from (publishState_deployed (targetUpdates_unnamed text converted)))
  exact fun _ => returns_pure fun _ => id

theorem upsertEntity_components (entity : GraphEntity) :
    Within (Frame.fixes InMemoryStatePlane.components) (upsertEntity config now entity) := by
  intro plane
  exact (Prod.mk.inj (Prod.mk.inj (upsertEntity_ledger config now entity plane)).2).1

theorem publishOne_components (update : StateUpdate) :
    Within (Frame.fixes InMemoryStatePlane.components) (publishOne config update) := by
  intro plane
  rw [publishOne_run]
  rcases judgeState config plane update with exception | (result | value)
  · rfl
  · rfl
  · exact acceptState_components plane update value

theorem upsertRelation_components (update : RelationUpdate) :
    Within (Frame.fixes InMemoryStatePlane.components) (upsertRelation config update) := by
  intro plane
  rw [upsertRelation_run]
  rcases judgeRelation plane update with exception | (result | relation)
  · rfl
  · rfl
  · exact acceptRelation_components plane update relation

/-- What `record_target` does after the registration keeps a frame of these calls. -/
theorem projected_within {frame : Frame InMemoryStatePlane} {target : TargetCandidate}
    {componentRef instanceRef : String}
    (entities : ∀ entity, Within frame (upsertEntity config now entity))
    (relations : ∀ update, Within frame (upsertRelation config update))
    (values : ∀ update, Within frame (publishOne config update)) :
    Within (frame.on World.plane) (do
      onPlane (projectTarget config now target componentRef instanceRef)
      let contained ← onPlane (projectNode text config now target instanceRef)
      let _ ← onPlane (upsertRelations config (deployedOn now componentRef instanceRef :: contained))
      let updates ← lift (targetUpdates text now target componentRef instanceRef)
      let _ ← onPlane (publishState config updates)) := by
  apply within_seq
  · apply onPlane_within
    unfold projectTarget
    apply within_bind (within_lift _)
    intro component
    apply within_seq (entities component)
    exact within_bind (within_lift _) fun host => entities host
  · apply within_bind
    · apply onPlane_within
      unfold projectNode
      split
      · exact within_pure _
      · apply within_bind (within_lift _)
        intro nodeRef
        apply within_bind (within_lift _)
        intro node
        exact within_seq (entities node) (within_pure _)
    · intro contained
      apply within_bind (onPlane_within (within_mapM fun update _ => relations update))
      intro results
      apply within_bind (within_lift _)
      intro updates
      exact within_bind (onPlane_within (within_mapM fun update _ => values update))
        fun _ => within_pure _

theorem admitTarget_swelling (target : TargetCandidate) :
    Within (swelling.on World.plane) (admitTarget text target) := by
  unfold admitTarget
  apply within_bind (within_lift _)
  intro componentRef
  apply within_bind (within_lift _)
  intro instanceRef
  apply within_seq (onBindings_within _ _)
  apply within_seq (onBindings_within _ _)
  exact within_seq (onPlane_within (registerComponent_swelling _)) (within_pure _)

theorem recordTarget_swelling (target : TargetCandidate) :
    Within (swelling.on World.plane) (recordTarget text config now target) := by
  unfold recordTarget
  apply within_bind (admitTarget_swelling text target)
  intro refs
  exact projected_within text upsertEntity_swelling upsertRelation_swelling publishOne_swelling

/-- A returned target fits, and its endpoint is registered. -/
theorem recordTarget_ok {target : TargetCandidate} {world next : World}
    (returned : recordTarget text config now target world = .ok () next) :
    TargetFits text target ∧ Registrable text world.plane.components target ∧
      next.plane.components =
        assign target.endpointId (targetDescriptor text target) world.plane.components := by
  unfold recordTarget at returned
  obtain ⟨refs, admitted, admits, projecting⟩ := bind_ok returned
  have kept := (projected_within text upsertEntity_components upsertRelation_components
    publishOne_components).returned projecting
  obtain ⟨_, projected, _, nodes⟩ := bind_ok projecting
  obtain ⟨contained, noded, node, relating⟩ := bind_ok nodes
  obtain ⟨_, related, _, converting⟩ := bind_ok relating
  obtain ⟨updates, _, converts, _⟩ := bind_ok converting
  have converted := (targetUpdates_returns_iff text).mp ⟨updates, (lift_ok converts).1⟩
  unfold admitTarget at admits
  obtain ⟨componentRef, _, lifted, naming⟩ := bind_ok admits
  obtain ⟨component, rfl⟩ := lift_ok lifted
  obtain ⟨instanceRef, start, relifted, binding⟩ := bind_ok naming
  obtain ⟨hosted, rfl⟩ := lift_ok relifted
  obtain ⟨_, bound, binds, bindingInstance⟩ := bind_ok binding
  obtain ⟨_, twice, bindsInstance, registering⟩ := bind_ok bindingInstance
  obtain ⟨_, registered, registers, finishing⟩ := bind_ok registering
  cases finishing
  have same : twice.plane.components = start.plane.components :=
    ((onBindings_within (Frame.fixes InMemoryStatePlane.components) _).returned bindsInstance).trans
      ((onBindings_within (Frame.fixes InMemoryStatePlane.components) _).returned binds)
  obtain ⟨plane, ran, rfl⟩ := zoom_ok registers
  have free := registerComponent_returns_iff.mp ⟨plane, ran⟩
  rw [same] at free
  obtain ⟨part, noding, _⟩ := zoom_ok node
  refine ⟨⟨?_, ?_, ?_, converted.1, converted.2⟩, free, ?_⟩
  · exact entityRef_returns_iff.mp ⟨componentRef, component⟩
  · exact entityRef_returns_iff.mp ⟨instanceRef, hosted⟩
  · unfold projectNode at noding
    split at noding
    · exact Or.inl ‹_›
    · obtain ⟨nodeRef, _, liftedNode, _⟩ := bind_ok noding
      exact Or.inr (entityRef_returns_iff.mp ⟨nodeRef, (lift_ok liftedNode).1⟩)
  · change next.plane.components = plane.components at kept
    rw [kept, registerComponent_ok ran]
    change assign _ _ twice.plane.components = _
    rw [same]
    rfl

/-- Every target of a list fits, and no endpoint gets a second descriptor. -/
structure TargetsFit (components : List (String × ComponentDescriptor))
    (targets : List TargetCandidate) : Prop where
  each : ∀ target ∈ targets, TargetFits text target
  registrable : ∀ target ∈ targets, Registrable text components target
  alike : ∀ first ∈ targets, ∀ second ∈ targets, first.endpointId = second.endpointId →
    targetDescriptor text first = targetDescriptor text second

theorem targetsFit_cons_iff {components : List (String × ComponentDescriptor)}
    {target : TargetCandidate} {rest : List TargetCandidate} :
    TargetsFit text components (target :: rest) ↔ TargetFits text target ∧
      Registrable text components target ∧ TargetsFit text
        (assign target.endpointId (targetDescriptor text target) components) rest := by
  constructor
  · intro fit
    refine ⟨fit.each _ List.mem_cons_self, fit.registrable _ List.mem_cons_self, ?_, ?_, ?_⟩
    · exact fun other inside => fit.each other (List.mem_cons_of_mem _ inside)
    · intro other inside existing found
      rw [lookup_assign] at found
      split at found
      · rename_i same
        rw [← Option.some.inj found]
        exact fit.alike _ List.mem_cons_self other (List.mem_cons_of_mem _ inside) same.symm
      · exact fit.registrable other (List.mem_cons_of_mem _ inside) existing found
    · exact fun first early second late =>
        fit.alike first (List.mem_cons_of_mem _ early) second (List.mem_cons_of_mem _ late)
  · rintro ⟨fits, free, later⟩
    have agrees : ∀ other ∈ rest, other.endpointId = target.endpointId →
        targetDescriptor text target = targetDescriptor text other := by
      intro other inside same
      apply later.registrable other inside
      rw [same, lookup_assign_same]
    refine ⟨?_, ?_, ?_⟩
    · intro other inside
      rcases List.mem_cons.mp inside with rfl | inside
      · exact fits
      · exact later.each other inside
    · intro other inside existing found
      rcases List.mem_cons.mp inside with rfl | inside
      · exact free existing found
      · by_cases same : other.endpointId = target.endpointId
        · rw [← agrees other inside same]
          rw [same] at found
          exact free existing found
        · apply later.registrable other inside existing
          rw [lookup_assign_other same]
          exact found
    · intro first early second late same
      rcases List.mem_cons.mp early with rfl | inside
      · rcases List.mem_cons.mp late with rfl | other
        · rfl
        · exact agrees second other same.symm
      · rcases List.mem_cons.mp late with rfl | other
        · exact (agrees first inside same).symm
        · exact later.alike first inside second other same

/-- The component, the instance, and the relation of a target are in the plane. -/
def Materializes (plane : InMemoryStatePlane) (target : TargetCandidate) : Prop :=
  ∃ componentRef instanceRef component host,
    runtimeRef target.endpointId = .ok componentRef ∧
    Adapters.instanceRef target.replicaId = .ok instanceRef ∧
    plane.entities.lookup componentRef = some component ∧ component.entityType = "component" ∧
    plane.entities.lookup instanceRef = some host ∧ host.entityType = "instance" ∧
    (plane.relations.lookup (componentRef, "deployed_on", instanceRef)).isSome = true

theorem materializes_of_deployed {plane : InMemoryStatePlane} (named : Named plane)
    {target : TargetCandidate} {componentRef instanceRef : String}
    (component : runtimeRef target.endpointId = .ok componentRef)
    (hosted : Adapters.instanceRef target.replicaId = .ok instanceRef)
    (deployed : Deployed componentRef instanceRef plane) : Materializes plane target := by
  obtain ⟨entity, found, _, typed⟩ := stored_kind component component_allowed named deployed.1.1
  obtain ⟨host, present, _, kind⟩ := stored_kind hosted (by decide) named deployed.1.2
  exact ⟨componentRef, instanceRef, entity, host, component, hosted, found, typed, present, kind,
    deployed.2⟩

/-- The loop materializes the targets of a list that fits. -/
theorem recordTargets_sound {targets : List TargetCandidate} {world : World} (sound : Sound world)
    (fit : TargetsFit text world.plane.components targets) :
    ∃ next, targets.forM (recordTarget text config now) world = .ok () next ∧ Sound next ∧
      ∀ target ∈ targets, Materializes next.plane target := by
  induction targets generalizing world with
  | nil => exact ⟨world, rfl, sound, fun _ inside => absurd inside (List.not_mem_nil)⟩
  | cons target rest ih =>
      obtain ⟨fits, free, later⟩ := (targetsFit_cons_iff text).mp fit
      obtain ⟨componentRef, component⟩ := entityRef_returns_iff.mpr fits.component
      obtain ⟨instanceRef, hosted⟩ := entityRef_returns_iff.mpr fits.hosted
      obtain ⟨_, middle, ran, between, deployed⟩ :=
        @recordTarget_sound text config now target fits _ _ component hosted world ⟨sound, free⟩
      rw [← (recordTarget_ok text ran).2.2] at later
      obtain ⟨next, finished, after, materialized⟩ := ih between later
      have grown := (within_forM fun other _ =>
        @recordTarget_swelling text config now other).returned finished
      refine ⟨next, (bind_of_ok ran).trans finished, after, fun other inside => ?_⟩
      rcases List.mem_cons.mp inside with rfl | inside
      · exact materializes_of_deployed after.plane.named component hosted
          (deployed.swells _ _ grown)
      · exact materialized other inside

theorem recordTargets_fit {targets : List TargetCandidate} {world next : World}
    (returned : targets.forM (recordTarget text config now) world = .ok () next) :
    TargetsFit text world.plane.components targets := by
  induction targets generalizing world with
  | nil => exact ⟨fun _ inside => (nomatch inside), fun _ inside => (nomatch inside),
      fun _ inside => (nomatch inside)⟩
  | cons target rest ih =>
      obtain ⟨_, middle, ran, continued⟩ := bind_ok returned
      obtain ⟨fits, free, components⟩ := recordTarget_ok text ran
      refine (targetsFit_cons_iff text).mpr ⟨fits, free, ?_⟩
      rw [← components]
      exact ih continued

end Targets

section Requests
variable (text : Text) {config : PlaneConfig} {now : Int} {request : ProviderNeutralRequest}

theorem projectRequest_sound (named : strip request.requestId ≠ "") :
    Returns Sound (projectRequest config now request) fun _ => Sound := by
  obtain ⟨requestRef, built⟩ := entityRef_returns_iff.mpr named
  unfold projectRequest
  apply returns_lift_bind built
  apply returns_seq (bind_ref built rfl (by simp [uniqueNamespaces]))
  apply returns_seq
  · apply onPlane_keeps
    apply returns_made built (by decide)
    intro entity _
    exact upsertEntity_keeps entity
  · apply returns_bind
    · apply publishState_sound
      intro update member
      rcases List.mem_cons.mp member with rfl | last
      · exact foreign_of_suffix request.requestId "context_tokens" (String.toList_append ..)
          (by decide) (by decide)
      · rw [List.mem_singleton.mp last]
        exact foreign_of_suffix request.requestId "expected_output_tokens"
          (String.toList_append ..) (by decide) (by decide)
    · exact fun _ => returns_pure fun _ => id

theorem projectRequest_components : Within
    ((Frame.fixes InMemoryStatePlane.components).on World.plane)
      (projectRequest config now request) := by
  unfold projectRequest
  apply within_bind (within_lift _)
  intro requestRef
  apply within_seq (onBindings_within _ _)
  apply within_seq
  · exact onPlane_within (within_bind (within_lift _) fun entity => upsertEntity_components entity)
  · exact within_bind (onPlane_within (within_mapM fun update _ => publishOne_components update))
      fun _ => within_pure _

/-- A request with an identifier and targets that fit is recorded. -/
theorem recordRequest_sound {targets : List TargetCandidate} {world : World} (sound : Sound world)
    (named : strip request.requestId ≠ "")
    (fit : TargetsFit text world.plane.components targets) :
    ∃ next, recordRequest text config now request targets world = .ok () next ∧ Sound next ∧
      ∀ target ∈ targets, Materializes next.plane target := by
  obtain ⟨_, middle, ran, between⟩ := @projectRequest_sound config now request named world sound
  have same : middle.plane.components = world.plane.components :=
    (@projectRequest_components config now request).returned ran
  rw [← same] at fit
  obtain ⟨next, finished, after⟩ := recordTargets_sound text between fit
  exact ⟨next, (bind_of_ok ran).trans finished, after⟩

theorem recordRequest_fits {targets : List TargetCandidate} {world next : World}
    (returned : recordRequest text config now request targets world = .ok () next) :
    strip request.requestId ≠ "" ∧ TargetsFit text world.plane.components targets := by
  unfold recordRequest at returned
  obtain ⟨_, middle, ran, continued⟩ := bind_ok returned
  have same : middle.plane.components = world.plane.components :=
    (@projectRequest_components config now request).returned ran
  have fit := recordTargets_fit text continued
  rw [same] at fit
  refine ⟨?_, fit⟩
  unfold projectRequest at ran
  obtain ⟨requestRef, _, lifted, _⟩ := bind_ok ran
  exact entityRef_returns_iff.mp ⟨requestRef, (lift_ok lifted).1⟩

theorem publish_fits {observation : RuntimeObservation} {world next : World}
    {report : AdapterPublishReport}
    (returned : publish config now observation world = .ok report next) :
    ObservationFits observation := by
  unfold publish at returned
  obtain ⟨runtimeRef, _, lifted, naming⟩ := bind_ok returned
  obtain ⟨instanceRef, _, relifted, registering⟩ := bind_ok naming
  obtain ⟨_, _, _, projecting⟩ := bind_ok registering
  obtain ⟨_, _, _, binding⟩ := bind_ok projecting
  obtain ⟨_, _, _, bindingInstance⟩ := bind_ok binding
  obtain ⟨_, _, _, relatingNode⟩ := bind_ok bindingInstance
  obtain ⟨contained, _, noded, relatingRequest⟩ := bind_ok relatingNode
  obtain ⟨executing, _, requested, _⟩ := bind_ok relatingRequest
  refine ⟨entityRef_returns_iff.mp ⟨runtimeRef, (lift_ok lifted).1⟩,
    entityRef_returns_iff.mp ⟨instanceRef, (lift_ok relifted).1⟩, ?_, ?_⟩
  · unfold relateNode at noded
    split at noded
    · exact Or.inl ‹_›
    · obtain ⟨nodeRef, _, node, _⟩ := bind_ok noded
      exact Or.inr (entityRef_returns_iff.mp ⟨nodeRef, (lift_ok node).1⟩)
  · unfold relateRequest at requested
    split at requested
    · exact Or.inl ‹_›
    · obtain ⟨requestRef, _, named, _⟩ := bind_ok requested
      exact Or.inr (entityRef_returns_iff.mp ⟨requestRef, (lift_ok named).1⟩)

end Requests

section Run
variable (text : Text) (config : PlaneConfig) {ι : Type} [DecidableEq ι]

/-- A call returns, and a request materializes each of its targets. -/
def Call.Succeeds (call : Call ι) (shared : SharedPlane ι) : Prop :=
  ∃ next, call.run text config shared = .ok () next ∧ match call with
    | .recordRequest _ _ _ targets => ∀ target ∈ targets, Materializes next.plane target
    | .publish _ _ _ => True

/-- The identifiers of a call are not blank, and its endpoints are free or registered alike. -/
def Call.Fits (call : Call ι) (shared : SharedPlane ι) : Prop :=
  match call with
  | .recordRequest _ _ request targets =>
      strip request.requestId ≠ "" ∧ TargetsFit text shared.plane.components targets
  | .publish _ _ observation => ObservationFits observation

structure SoundShared (shared : SharedPlane ι) : Prop where
  plane : SoundPlane shared.plane
  bindings : ∀ resolver, Faithful (shared.bindings resolver)

omit [DecidableEq ι] in
theorem SoundShared.world {shared : SharedPlane ι} (sound : SoundShared shared) (resolver : ι) :
    Sound (shared.world resolver) := ⟨sound.plane, sound.bindings resolver⟩

theorem SoundShared.withWorld {shared : SharedPlane ι} (sound : SoundShared shared) {resolver : ι}
    {world : World} (after : Sound world) : SoundShared (shared.withWorld resolver world) := by
  refine ⟨after.plane, fun other => ?_⟩
  change Faithful (Function.update shared.bindings resolver world.bindings other)
  by_cases same : other = resolver
  · rw [same, Function.update_self]
    exact after.bindings
  · rw [Function.update_of_ne same]
    exact sound.bindings other

theorem onResolver_of_ok {A : Type} {resolver : ι} {action : EStateM Exception World A}
    {shared : SharedPlane ι} {value : A} {world : World}
    (ran : action (shared.world resolver) = .ok value world) :
    onResolver resolver action shared = .ok value (shared.withWorld resolver world) := by
  unfold onResolver zoom
  rw [ran]

theorem onResolver_ok {A : Type} {resolver : ι} {action : EStateM Exception World A}
    {shared next : SharedPlane ι} {value : A}
    (returned : onResolver resolver action shared = .ok value next) :
    ∃ world, action (shared.world resolver) = .ok value world := by
  obtain ⟨world, ran, _⟩ := zoom_ok returned
  exact ⟨world, ran⟩

/-- A call that fits succeeds and leaves a sound plane. -/
theorem call_sound {call : Call ι} {shared : SharedPlane ι} (sound : SoundShared shared)
    (fits : call.Fits text shared) : call.Succeeds text config shared ∧
      SoundShared (finalState (call.run text config shared)) := by
  cases call with
  | recordRequest resolver now request targets =>
      obtain ⟨next, ran, after, materialized⟩ := @recordRequest_sound text config now request targets
        _ (sound.world resolver) fits.1 fits.2
      have whole : (Call.recordRequest resolver now request targets).run text config shared =
        .ok () (shared.withWorld resolver next) := onResolver_of_ok ran
      exact ⟨⟨_, whole, materialized⟩, by rw [whole]; exact sound.withWorld after⟩
  | publish resolver now observation =>
      obtain ⟨report, next, ran, after⟩ :=
        @publish_sound config now observation fits _ (sound.world resolver)
      have whole : (Call.publish resolver now observation).run text config shared =
        .ok () (shared.withWorld resolver next) := onResolver_of_ok (bind_of_ok ran)
      exact ⟨⟨_, whole, trivial⟩, by rw [whole]; exact sound.withWorld after⟩

theorem call_fits {call : Call ι} {shared : SharedPlane ι}
    (succeeds : call.Succeeds text config shared) : call.Fits text shared := by
  obtain ⟨next, ran, _⟩ := succeeds
  cases call with
  | recordRequest resolver now request targets =>
      obtain ⟨world, returned⟩ := onResolver_ok ran
      exact recordRequest_fits text returned
  | publish resolver now observation =>
      obtain ⟨world, returned⟩ := onResolver_ok ran
      obtain ⟨report, _, published, _⟩ := bind_ok returned
      exact publish_fits published

/-- Every call of a run succeeds exactly when every call fits the state before it. -/
theorem along_iff (calls : List (Call ι)) {shared : SharedPlane ι} (sound : SoundShared shared) :
    Along text config (Call.Succeeds text config) calls shared ↔
      Along text config (Call.Fits text) calls shared := by
  induction calls generalizing shared with
  | nil => exact Iff.rfl
  | cons call rest ih =>
      constructor
      · rintro ⟨succeeds, later⟩
        have fits := call_fits text config succeeds
        exact ⟨fits, (ih (call_sound text config sound fits).2).mp later⟩
      · rintro ⟨fits, later⟩
        have reached := call_sound text config sound fits
        exact ⟨reached.1, (ih reached.2).mpr later⟩

end Run

section Start
variable (config : PlaneConfig) (now : Int)

/-- The parts of a plane that a new caller leaves alone. -/
structure Fresh (plane : InMemoryStatePlane) : Prop where
  named : Named plane
  relations : plane.relations = []
  idempotency : plane.idempotency = []

/-- An unknown component is registered together with its entity. -/
theorem register_fresh {descriptor : ComponentDescriptor} {plane : InMemoryStatePlane}
    {made : Except Exception GraphEntity} {entity : GraphEntity} (fresh : Fresh plane)
    (free : plane.components.lookup descriptor.componentId = none) (built : made = .ok entity) :
    ∃ next, (do
        registerComponent descriptor
        upsertEntity config now (← lift made)) plane = .ok () next ∧ Fresh next ∧
      next.components = assign descriptor.componentId descriptor plane.components := by
  have registers : ∃ middle, registerComponent descriptor plane = .ok () middle :=
    registerComponent_returns_iff.mpr fun existing found => by
      rw [free] at found
      cases found
  obtain ⟨middle, registered⟩ := registers
  have named : Named middle := (keepsNamed_of_entities
    (registerComponent_entities descriptor)).returned registered fresh.named
  obtain ⟨next, stored, lookups⟩ := upsertEntity_named config now entity named
  have same := (upsertEntity_ledger config now entity).returned stored
  obtain ⟨relations, rest⟩ := Prod.mk.inj same
  obtain ⟨components, idempotency⟩ := Prod.mk.inj rest
  refine ⟨next, ?_, ⟨named_of_lookup named lookups, ?_, ?_⟩, ?_⟩
  · rw [bind_of_ok registered, bind_of_ok (lift_of_ok built middle)]
    exact stored
  · rw [relations, registerComponent_ok registered]
    exact fresh.relations
  · rw [idempotency, registerComponent_ok registered]
    exact fresh.idempotency
  · rw [components, registerComponent_ok registered]

theorem gatewayEntity_made : ∃ entity, GraphEntity.make gatewayRef .component "component" "ready" ""
    [("kind", "request_scheduler")] = .ok entity := by
  have named : gatewayRef.startsWith (GraphKind.component.refPrefix "component") ∧
      gatewayRef.length ≠ (GraphKind.component.refPrefix "component").length := by
    decide +kernel
  unfold GraphEntity.make
  rw [dif_pos component_allowed, dif_pos named]
  exact ⟨_, rfl⟩

theorem buildProjector_fresh {plane : InMemoryStatePlane} (fresh : Fresh plane)
    (free : plane.components.lookup gatewayComponent.componentId = none) :
    ∃ next, buildProjector config now plane = .ok () next ∧ Fresh next ∧
      next.components = assign gatewayComponent.componentId gatewayComponent plane.components := by
  obtain ⟨entity, made⟩ := gatewayEntity_made
  exact register_fresh config now fresh free made

theorem buildAdapter_fresh {plane : InMemoryStatePlane} (fresh : Fresh plane)
    (free : plane.components.lookup runtimeAdapter.componentId = none) :
    ∃ next, buildAdapter config now runtimeAdapter plane = .ok () next ∧ Fresh next ∧
      next.components = assign runtimeAdapter.componentId runtimeAdapter plane.components := by
  have named : strip runtimeAdapter.componentId ≠ "" := by decide +kernel
  obtain ⟨ref, built⟩ : ∃ ref, entityRef .component "component" runtimeAdapter.componentId =
    .ok ref := entityRef_returns_iff.mpr named
  obtain ⟨entity, made, _⟩ := make_of_entityRef built component_allowed "ready" ""
    [("kind", runtimeAdapter.kind), ("adapter", "true")]
  obtain ⟨next, ran, after⟩ := register_fresh config now fresh free made
  refine ⟨next, ?_, after⟩
  unfold buildAdapter
  rw [get_bind]
  simp only [free, built]
  exact ran

/-- Both sides are built on an empty plane in either order. -/
theorem startShared_sound {ι : Type} (gatewayFirst : Bool) :
    SoundShared (startShared config now gatewayFirst : SharedPlane ι) := by
  have empty : Fresh {} := ⟨named_empty, rfl, rfl⟩
  have built : ∃ next, buildBoth config now gatewayFirst {} = .ok () next ∧ Fresh next ∧
      (next.components.lookup runtimeAdapter.componentId).isSome = true := by
    unfold buildBoth
    cases gatewayFirst with
    | true =>
        obtain ⟨middle, first, between, components⟩ :=
          buildProjector_fresh config now empty rfl
        obtain ⟨next, second, after, last⟩ := buildAdapter_fresh config now between
          (by rw [components]; decide)
        refine ⟨next, (bind_of_ok first).trans second, after, ?_⟩
        rw [last, lookup_assign_same]
        rfl
    | false =>
        obtain ⟨middle, first, between, components⟩ := buildAdapter_fresh config now empty rfl
        obtain ⟨next, second, after, last⟩ := buildProjector_fresh config now between
          (by rw [components]; decide)
        refine ⟨next, (bind_of_ok first).trans second, after, ?_⟩
        rw [last, components]
        decide
  obtain ⟨next, ran, fresh, adapter⟩ := built
  have reached : finalState (buildBoth config now gatewayFirst {}) = next := by
    rw [ran]
    rfl
  refine ⟨?_, fun _ => faithful_empty⟩
  change SoundPlane (finalState (buildBoth config now gatewayFirst {}))
  rw [reached]
  refine ⟨fresh.named, ?_, adapter, ?_⟩
  · rw [fresh.relations]
    exact fun _ inside => absurd inside (List.not_mem_nil)
  · rw [fresh.idempotency]
    exact fun _ _ _ remembered => (nomatch remembered)

/-- In an interleaving every call succeeds exactly when every call fits the state before it. -/
theorem interleaving_succeeds_iff {ι : Type} [DecidableEq ι] (text : Text) (gatewayFirst : Bool)
    (calls : List (Call ι)) :
    Along text config (Call.Succeeds text config) calls (startShared config now gatewayFirst) ↔
      Along text config (Call.Fits text) calls (startShared config now gatewayFirst) :=
  along_iff text config calls (startShared_sound config now gatewayFirst)

end Start

section Conflict

def observeFirst : Call Unit :=
  .publish () 0 { runtimeId := "vllm", instanceId := "pod", observedAt := 0 }

def targetSecond : Call Unit :=
  .recordRequest () 1 { requestId := "r", sessionId := "s" }
    [{ modelId := "m", endpointId := "vllm", replicaId := "pod" }]

/-- The projector gives a known runtime its own descriptor and raises. -/
theorem targetSecond_raises : ¬ Along asciiText { registry := {} }
    (Call.Succeeds asciiText { registry := {} }) [observeFirst, targetSecond]
      (startShared { registry := {} } 0 true) := by
  rintro ⟨_, ⟨next, ran, _⟩, _⟩
  have raised : answersWith (fun _ => true) (targetSecond.run asciiText { registry := {} }
      (finalState (observeFirst.run asciiText { registry := {} }
        (startShared { registry := {} } 0 true)))) = false := by decide +kernel
  rw [ran] at raised
  cases raised

end Conflict

end StateFlow.Adapters
