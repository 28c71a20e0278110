import StateFlow.Proof.Plane.Entities

namespace StateFlow.Plane
open Python Table Effect

/-- A registration that raises leaves the registry as it is. -/
def registerOrKeep (registry : CanonicalKeyRegistry) (registration : CanonicalKey × Bool) :
    CanonicalKeyRegistry :=
  (registry.register registration.1 registration.2).toOption.getD registry

/-- Every registry arises from the empty one by registrations. -/
def registryOf (registrations : List (CanonicalKey × Bool)) : CanonicalKeyRegistry :=
  registrations.foldl registerOrKeep {}

/-- A registry files every definition under the key of the definition. -/
def Filed (registry : CanonicalKeyRegistry) : Prop :=
  ∀ key definition, registry.definitions.lookup key = some definition → definition.key = key

theorem register_filed {registry next : CanonicalKeyRegistry} {definition : CanonicalKey}
    {replace : Bool} (filed : Filed registry)
    (registered : registry.register definition replace = .ok next) : Filed next := by
  unfold CanonicalKeyRegistry.register at registered
  split at registered
  · cases registered
  · split at registered
    · cases registered
    · cases registered
      intro key found read
      simp only [lookup_assign] at read
      split at read
      · rename_i same
        cases read
        exact same.symm
      · exact filed key found read

theorem registerOrKeep_filed {registry : CanonicalKeyRegistry}
    (registration : CanonicalKey × Bool) (filed : Filed registry) :
    Filed (registerOrKeep registry registration) := by
  unfold registerOrKeep
  cases registered : registry.register registration.1 registration.2 with
  | error exception => exact filed
  | ok next => exact register_filed filed registered

theorem foldl_filed (registrations : List (CanonicalKey × Bool)) {registry : CanonicalKeyRegistry}
    (filed : Filed registry) : Filed (registrations.foldl registerOrKeep registry) := by
  induction registrations generalizing registry with
  | nil => exact filed
  | cons registration rest ih => exact ih (registerOrKeep_filed registration filed)

/-- Every registry that registrations build files its definitions. -/
theorem registryOf_filed (registrations : List (CanonicalKey × Bool)) :
    Filed (registryOf registrations) :=
  foldl_filed registrations fun _ _ found => by cases found

/-- A definition that the registry resolves is filed under its own key. -/
theorem resolve_filed {registry : CanonicalKeyRegistry} {key : String} {definition : CanonicalKey}
    (filed : Filed registry) (resolved : registry.resolve key = some definition) :
    registry.definitions.lookup definition.key = some definition := by
  have named := filed _ _ resolved
  rw [named]
  exact resolved

/-- A stored value fits its entity and the definition of its key. -/
structure ValueFits (registry : CanonicalKeyRegistry) (entities : List (String × GraphEntity))
    (entry : EntityStateKey × StateValue) : Prop where
  named : entry.1 = (entry.2.entityRef, entry.2.key)
  declared : ∃ entity definition, entities.lookup entry.2.entityRef = some entity ∧
    registry.definitions.lookup entry.2.key = some definition ∧ definition.key = entry.2.key ∧
    entity.entityType ∈ definition.entityTypes ∧
    validateValue definition entry.2.value = true

/-- A stored relation is permitted between its registered endpoints. -/
structure RelationFits (entities : List (String × GraphEntity))
    (entry : RelationKey × GraphRelation) : Prop where
  named : entry.1 = (entry.2.sourceRef, entry.2.relationType, entry.2.targetRef)
  permitted : ∃ source target, entities.lookup entry.2.sourceRef = some source ∧
    entities.lookup entry.2.targetRef = some target ∧
    relationAllowed source target entry.2.relationType = true

/-- Every stored value and every stored relation fits the entities of the plane. A relation is
stored once. -/
structure Consistent (registry : CanonicalKeyRegistry) (plane : InMemoryStatePlane) : Prop where
  values : ∀ entry ∈ plane.state, ValueFits registry plane.entities entry
  relations : ∀ entry ∈ plane.relations, RelationFits plane.entities entry
  once : (plane.relations.map Prod.fst).Nodup

theorem consistent_empty (registry : CanonicalKeyRegistry) : Consistent registry {} where
  values := fun _ member => absurd member List.not_mem_nil
  relations := fun _ member => absurd member List.not_mem_nil
  once := List.nodup_nil

/-- Every entity stays registered with its graph and its type. -/
def KeepsKinds (before after : List (String × GraphEntity)) : Prop :=
  ∀ ref entity, before.lookup ref = some entity → ∃ next, after.lookup ref = some next ∧
    next.graph = entity.graph ∧ next.entityType = entity.entityType

theorem KeepsKinds.refl (entities : List (String × GraphEntity)) : KeepsKinds entities entities :=
  fun _ entity found => ⟨entity, found, rfl, rfl⟩

/-- The permission reads only the graphs and the types of the endpoints. -/
theorem relationAllowed_congr {source target otherSource otherTarget : GraphEntity}
    (sourceGraph : otherSource.graph = source.graph)
    (sourceType : otherSource.entityType = source.entityType)
    (targetGraph : otherTarget.graph = target.graph)
    (targetType : otherTarget.entityType = target.entityType) (relationType : String) :
    relationAllowed otherSource otherTarget relationType =
      relationAllowed source target relationType := by
  unfold relationAllowed
  rw [sourceGraph, sourceType, targetGraph, targetType]

section Fits
variable {before after : List (String × GraphEntity)}

theorem ValueFits.keeps {registry : CanonicalKeyRegistry} {entry : EntityStateKey × StateValue}
    (fits : ValueFits registry before entry) (kinds : KeepsKinds before after) :
    ValueFits registry after entry := by
  obtain ⟨entity, definition, known, filed, named, admits, typed⟩ := fits.declared
  obtain ⟨next, found, _, type⟩ := kinds _ _ known
  exact ⟨fits.named, next, definition, found, filed, named, type ▸ admits, typed⟩

theorem RelationFits.keeps {entry : RelationKey × GraphRelation}
    (fits : RelationFits before entry) (kinds : KeepsKinds before after) :
    RelationFits after entry := by
  obtain ⟨source, target, sourceKnown, targetKnown, allowed⟩ := fits.permitted
  obtain ⟨nextSource, sourceFound, sourceGraph, sourceType⟩ := kinds _ _ sourceKnown
  obtain ⟨nextTarget, targetFound, targetGraph, targetType⟩ := kinds _ _ targetKnown
  refine ⟨fits.named, nextSource, nextTarget, sourceFound, targetFound, ?_⟩
  rw [relationAllowed_congr sourceGraph sourceType targetGraph targetType]
  exact allowed

/-- A plane with the same records stays consistent while the entities keep their kinds. -/
theorem Consistent.keeps {registry : CanonicalKeyRegistry} {plane next : InMemoryStatePlane}
    (consistent : Consistent registry plane) (same : SameRecords plane next)
    (kinds : KeepsKinds plane.entities next.entities) : Consistent registry next := by
  constructor
  · intro entry member
    rw [same.1] at member
    exact (consistent.values entry member).keeps kinds
  · intro entry member
    rw [same.2] at member
    exact (consistent.relations entry member).keeps kinds
  · rw [same.2]
    exact consistent.once

end Fits

/-- An update that the plane accepts names two registered endpoints of permitted types. -/
theorem judgeRelation_permits {plane : InMemoryStatePlane} {update : RelationUpdate}
    {relation : GraphRelation} (judged : judgeRelation plane update = .ok (.ok relation)) :
    ∃ source target, plane.entities.lookup update.sourceRef = some source ∧
      plane.entities.lookup update.targetRef = some target ∧
      relationAllowed source target update.relationType = true := by
  simp only [judgeRelation, bind, Except.bind, pure, Except.pure] at judged
  split at judged
  · cases judged
  · split at judged
    · rename_i source target sourceKnown targetKnown
      split at judged
      · cases judged
      · rename_i allowed
        exact ⟨source, target, sourceKnown, targetKnown, by simpa using allowed⟩
    · cases judged

section Steps
variable {config : PlaneConfig}

theorem publishOne_consistent (filed : Filed config.registry) (update : StateUpdate) :
    Within (Frame.keeps (Consistent config.registry)) (publishOne config update) := by
  intro plane consistent
  rw [publishOne_run]
  rcases judged : judgeState config plane update with exception | (result | value)
  · exact consistent
  · exact consistent
  · obtain ⟨definition, admitted, stored⟩ := judgeState_accepts judged
    obtain ⟨entity, known, typed⟩ := admitted.registered
    constructor
    · intro entry member
      rw [finalState_ok, acceptState_entities]
      rw [finalState_ok, acceptState_state] at member
      rcases mem_assign member with new | old
      · rw [new, stored]
        exact ⟨rfl, entity, definition, known, resolve_filed filed admitted.resolved, rfl, typed,
          admitted.valid⟩
      · exact consistent.values entry old
    · intro entry member
      rw [finalState_ok, acceptState_entities]
      rw [finalState_ok, acceptState_relations] at member
      exact consistent.relations entry member
    · rw [finalState_ok, acceptState_relations]
      exact consistent.once

theorem upsertRelation_consistent (registry : CanonicalKeyRegistry) (update : RelationUpdate) :
    Within (Frame.keeps (Consistent registry)) (upsertRelation config update) := by
  intro plane consistent
  rw [upsertRelation_run]
  rcases judged : judgeRelation plane update with exception | (result | relation)
  · exact consistent
  · exact consistent
  · have stored := (judgeRelation_accepts judged).2
    constructor
    · intro entry member
      rw [finalState_ok, acceptRelation_entities]
      rw [finalState_ok, acceptRelation_state] at member
      exact consistent.values entry member
    · intro entry member
      rw [finalState_ok, acceptRelation_entities]
      rw [finalState_ok, acceptRelation_relations] at member
      rcases mem_assign member with new | old
      · rw [new, stored]
        exact ⟨rfl, judgeRelation_permits judged⟩
      · exact consistent.relations entry old
    · rw [finalState_ok, acceptRelation_relations]
      exact assign_keys_nodup consistent.once

/-- An entity that is stored again keeps the graph and the type that its reference names. -/
theorem upsertEntity_keepsKinds (now : Int) (entity : GraphEntity) {plane : InMemoryStatePlane}
    (named : Named plane) :
    KeepsKinds plane.entities (finalState (upsertEntity config now entity plane)).entities := by
  obtain ⟨next, ran, stored⟩ := upsertEntity_named config now entity named
  intro ref previous found
  rw [ran, finalState_ok, stored]
  by_cases own : ref = entity.ref
  · rw [if_pos own]
    have same : entity.ref = previous.ref := own.symm.trans (named ref previous found).symm
    have kinds := kind_of_ref same
    exact ⟨entity, rfl, kinds.1, kinds.2⟩
  · rw [if_neg own]
    exact ⟨previous, found, rfl, rfl⟩

theorem upsertEntity_consistent {registry : CanonicalKeyRegistry} (now : Int) (entity : GraphEntity)
    {plane : InMemoryStatePlane} (named : Named plane) (consistent : Consistent registry plane) :
    Consistent registry (finalState (upsertEntity config now entity plane)) :=
  consistent.keeps (upsertEntity_sameRecords config plane now entity)
    (upsertEntity_keepsKinds now entity named)

/-- A program that fixes the records and the entities stays consistent. -/
theorem consistent_of_frames {A : Type} {registry : CanonicalKeyRegistry} {program : PlaneAction A}
    {plane : InMemoryStatePlane} (records : SameRecords plane (finalState (program plane)))
    (entities : Within (Frame.fixes InMemoryStatePlane.entities) program)
    (consistent : Consistent registry plane) : Consistent registry (finalState (program plane)) := by
  have same := entities plane
  rw [Frame.fixes_rel] at same
  exact consistent.keeps records (same ▸ KeepsKinds.refl plane.entities)

/-- Every call keeps a named plane consistent. -/
theorem apply_consistent (filed : Filed config.registry) (operation : Operation)
    {plane : InMemoryStatePlane} (named : Named plane)
    (consistent : Consistent config.registry plane) :
    Consistent config.registry (operation.apply config plane) := by
  cases operation with
  | registerComponent descriptor =>
      exact consistent_of_frames (registerComponent_sameRecords plane descriptor)
        (registerComponent_entities descriptor) consistent
  | upsertEntity now entity => exact upsertEntity_consistent now entity named consistent
  | heartbeat beat =>
      exact consistent_of_frames (heartbeat_sameRecords plane beat) (heartbeat_entities beat)
        consistent
  | publishState updates =>
      exact within_mapM (fun update _ => publishOne_consistent filed update) plane consistent
  | upsertRelations updates =>
      exact within_mapM (fun update _ => upsertRelation_consistent config.registry update) plane
        consistent
  | publishMetrics samples =>
      exact consistent_of_frames
        (mapM_sameRecords (publishMetric_sameRecords config) samples plane)
        (within_mapM fun sample _ => publishMetric_entities config sample) consistent
  | publishEvents events =>
      exact consistent_of_frames
        (mapM_sameRecords (publishEvent_sameRecords config) events plane)
        (within_mapM fun event _ => publishEvent_entities config event) consistent
  | getSnapshot now unique request =>
      exact consistent_of_frames (getSnapshot_sameRecords config plane now unique request)
        (getSnapshot_entities config now unique request) consistent

/-- Every run keeps a named plane consistent. -/
theorem runPlane_keepsConsistent (filed : Filed config.registry) (operations : List Operation)
    {plane : InMemoryStatePlane} (named : Named plane)
    (consistent : Consistent config.registry plane) :
    Consistent config.registry (runPlane config operations plane) := by
  induction operations generalizing plane with
  | nil => exact consistent
  | cons operation rest ih =>
      exact ih (apply_named config operation named) (apply_consistent filed operation named consistent)

end Steps

/-- Every reachable plane is consistent, and a later entity leaves its records and keeps them
consistent. -/
theorem runPlane_consistent (config : PlaneConfig) (registrations : List (CanonicalKey × Bool))
    (operations : List Operation) :
    let fixed := { config with registry := registryOf registrations }
    let reached := runPlane fixed operations {}
    Consistent (registryOf registrations) reached ∧
      ∀ now entity, SameRecords reached (finalState (upsertEntity fixed now entity reached)) ∧
        Consistent (registryOf registrations)
          (finalState (upsertEntity fixed now entity reached)) := by
  intro fixed reached
  have filed : Filed fixed.registry := registryOf_filed registrations
  have named : Named reached := runPlane_named fixed operations named_empty
  have consistent : Consistent fixed.registry reached :=
    runPlane_keepsConsistent filed operations named_empty (consistent_empty _)
  exact ⟨consistent, fun now entity => ⟨upsertEntity_sameRecords fixed reached now entity,
    upsertEntity_consistent now entity named consistent⟩⟩

end StateFlow.Plane
