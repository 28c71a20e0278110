import StateFlow.Construction.Plane.Trace
import StateFlow.Proof.Plane.Writes

namespace StateFlow.Plane
open Python Table Effect

/-- The prefixes of the references of every type. -/
def refPrefixes : List (GraphKind × String) :=
  [GraphKind.component, GraphKind.deployment].flatMap fun graph =>
    graph.entityTypes.map fun entityType => (graph, entityType)

theorem mem_refPrefixes (entity : GraphEntity) : (entity.graph, entity.entityType) ∈ refPrefixes := by
  refine List.mem_flatMap.mpr ⟨entity.graph, ?_, List.mem_map_of_mem entity.typeAllowed⟩
  cases entity.graph <;> simp

/-- No prefix extends another one. -/
theorem refPrefixes_apart : ∀ first ∈ refPrefixes, ∀ second ∈ refPrefixes,
    (first.1.refPrefix first.2).toList <+: (second.1.refPrefix second.2).toList →
      first = second := by
  decide +kernel

/-- A reference names the graph and the type of its entity. -/
theorem kind_of_ref {first second : GraphEntity} (same : first.ref = second.ref) :
    first.graph = second.graph ∧ first.entityType = second.entityType := by
  have left := String.startsWith_string_iff.mp first.refNamed.1
  have right := String.startsWith_string_iff.mp second.refNamed.1
  rw [same] at left
  rcases List.prefix_or_prefix_of_prefix left right with shorter | longer
  · exact Prod.mk.inj (refPrefixes_apart _ (mem_refPrefixes first) _ (mem_refPrefixes second) shorter)
  · have equal := Prod.mk.inj
      (refPrefixes_apart _ (mem_refPrefixes second) _ (mem_refPrefixes first) longer)
    exact ⟨equal.1.symm, equal.2.symm⟩

/-- The plane holds every entity under its own reference. -/
def Named (plane : InMemoryStatePlane) : Prop :=
  ∀ ref entity, plane.entities.lookup ref = some entity → entity.ref = ref

theorem named_empty : Named {} := fun _ _ found => nomatch found

section Entities
variable (config : PlaneConfig)

theorem acceptState_entities (plane : InMemoryStatePlane) (update : StateUpdate)
    (value : StateValue) : (acceptState config plane update value).entities = plane.entities := by
  unfold acceptState InMemoryStatePlane.remember
  split <;> rfl

theorem acceptRelation_entities (plane : InMemoryStatePlane) (update : RelationUpdate)
    (relation : GraphRelation) :
    (acceptRelation config plane update relation).entities = plane.entities := by
  unfold acceptRelation InMemoryStatePlane.remember
  split <;> rfl

theorem publishOne_entities (update : StateUpdate) :
    Within (Frame.fixes InMemoryStatePlane.entities) (publishOne config update) := by
  intro plane
  rw [publishOne_run]
  rcases judgeState config plane update with exception | (result | value)
  · rfl
  · rfl
  · exact acceptState_entities config plane update value

theorem upsertRelation_entities (update : RelationUpdate) :
    Within (Frame.fixes InMemoryStatePlane.entities) (upsertRelation config update) := by
  intro plane
  rw [upsertRelation_run]
  rcases judgeRelation plane update with exception | (result | relation)
  · rfl
  · rfl
  · exact acceptRelation_entities config plane update relation

theorem registerComponent_entities (descriptor : ComponentDescriptor) :
    Within (Frame.fixes InMemoryStatePlane.entities) (registerComponent descriptor) := by
  intro plane
  rw [registerComponent_run]
  repeat' split
  all_goals rfl

theorem heartbeat_entities (beat : Heartbeat) :
    Within (Frame.fixes InMemoryStatePlane.entities) (heartbeat beat) := by
  intro plane
  rw [heartbeat_run]
  split
  all_goals rfl

theorem publishMetric_entities (sample : MetricSample) :
    Within (Frame.fixes InMemoryStatePlane.entities) (publishMetric config sample) := by
  intro plane
  rcases publishMetric_cases config sample plane with ⟨result, ran, _⟩ | ⟨_, _, result, ran, _⟩
  all_goals
    rw [ran]
    rfl

theorem publishEvent_entities (event : StateEvent) :
    Within (Frame.fixes InMemoryStatePlane.entities) (publishEvent config event) := by
  intro plane
  rcases publishEvent_cases config event plane with ⟨result, ran, _⟩ | ⟨result, ran, _⟩
  all_goals
    rw [ran]
    rfl

theorem getSnapshot_entities (now : Int) (unique : String) (request : SnapshotRequest) :
    Within (Frame.fixes InMemoryStatePlane.entities) (getSnapshot config now unique request) := by
  intro plane
  rw [getSnapshot_run]
  split
  all_goals rfl

/-- An entity of a named plane is always stored. -/
theorem upsertEntity_named (now : Int) (entity : GraphEntity) {plane : InMemoryStatePlane}
    (named : Named plane) : ∃ next, upsertEntity config now entity plane = .ok () next ∧
      ∀ ref, next.entities.lookup ref =
        if ref = entity.ref then some entity else plane.entities.lookup ref := by
  have stored (ref : String) : (storeEntity config now entity plane).entities.lookup ref =
      if ref = entity.ref then some entity else plane.entities.lookup ref :=
    lookup_assign _ _ _ _
  rw [upsertEntity_run]
  cases found : plane.entities.lookup entity.ref with
  | none => exact ⟨_, rfl, stored⟩
  | some previous =>
      have graph := (kind_of_ref (named _ _ found)).1
      simp only [ne_eq, graph, not_true_eq_false, if_false]
      by_cases same : previous = entity
      · rw [if_pos same]
        refine ⟨plane, rfl, fun ref => ?_⟩
        split
        · rename_i own
          rw [own, found, same]
        · rfl
      · rw [if_neg same]
        exact ⟨_, rfl, stored⟩

theorem named_of_lookup {before after : InMemoryStatePlane} {entity : GraphEntity}
    (named : Named before) (stored : ∀ ref, after.entities.lookup ref =
      if ref = entity.ref then some entity else before.entities.lookup ref) : Named after := by
  intro ref other found
  rw [stored] at found
  split at found
  · rename_i own
    cases found
    exact own.symm
  · exact named ref other found

theorem upsertEntity_keepsNamed (now : Int) (entity : GraphEntity) :
    Within (Frame.keeps Named) (upsertEntity config now entity) := by
  intro plane named
  obtain ⟨next, ran, stored⟩ := upsertEntity_named config now entity named
  rw [ran]
  exact named_of_lookup named stored

theorem keepsNamed_of_entities {A : Type} {program : PlaneAction A}
    (fixed : Within (Frame.fixes InMemoryStatePlane.entities) program) :
    Within (Frame.keeps Named) program := by
  intro plane named ref entity found
  have same := fixed plane
  rw [Frame.fixes_rel] at same
  rw [same] at found
  exact named ref entity found

/-- Every call keeps the names of the entities. -/
theorem apply_named (operation : Operation) {plane : InMemoryStatePlane} (named : Named plane) :
    Named (operation.apply config plane) := by
  cases operation with
  | registerComponent descriptor =>
      exact keepsNamed_of_entities (registerComponent_entities descriptor) plane named
  | upsertEntity now entity => exact upsertEntity_keepsNamed config now entity plane named
  | heartbeat beat => exact keepsNamed_of_entities (heartbeat_entities beat) plane named
  | publishState updates =>
      exact keepsNamed_of_entities
        (within_mapM fun update _ => publishOne_entities config update) plane named
  | upsertRelations updates =>
      exact keepsNamed_of_entities
        (within_mapM fun update _ => upsertRelation_entities config update) plane named
  | publishMetrics samples =>
      exact keepsNamed_of_entities
        (within_mapM fun sample _ => publishMetric_entities config sample) plane named
  | publishEvents events =>
      exact keepsNamed_of_entities
        (within_mapM fun event _ => publishEvent_entities config event) plane named
  | getSnapshot now unique request =>
      exact keepsNamed_of_entities (getSnapshot_entities config now unique request) plane named

/-- Every plane that a run reaches is named. -/
theorem runPlane_named (operations : List Operation) {plane : InMemoryStatePlane}
    (named : Named plane) : Named (runPlane config operations plane) := by
  induction operations generalizing plane with
  | nil => exact named
  | cons operation rest ih => exact ih (apply_named config operation named)

end Entities

end StateFlow.Plane
