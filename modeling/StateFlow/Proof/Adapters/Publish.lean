import StateFlow.Proof.Plane.Writes
import StateFlow.Construction.Adapters.Runtime

namespace StateFlow.Plane
open Python Table Effect

/-- The values and the remembered keys of a plane. -/
def InMemoryStatePlane.memory (plane : InMemoryStatePlane) :
    List (EntityStateKey × StateValue) × List (String × WriteResult) :=
  (plane.state, plane.idempotency)

instance : Inhabited GraphEntity where
  default :=
    { ref := "component/component/runtime", graph := .component, entityType := "component"
      typeAllowed := component_allowed
      refNamed := by decide +kernel }

/-- A quiet call keeps the values, the remembered keys, and one entity. -/
def quiet (entity : GraphEntity) : Frame InMemoryStatePlane where
  rel before after := after.memory = before.memory ∧
    (before.entities.lookup entity.ref = some entity →
      after.entities.lookup entity.ref = some entity)
  refl _ := ⟨rfl, id⟩
  trans first second := ⟨second.1.trans first.1, second.2 ∘ first.2⟩

section Quiet
variable (entity : GraphEntity) (config : PlaneConfig)

theorem registerComponent_quiet (descriptor : ComponentDescriptor) :
    Within (quiet entity) (registerComponent descriptor) := by
  intro plane
  rw [registerComponent_run]
  repeat' split
  all_goals exact ⟨rfl, id⟩

theorem heartbeat_quiet (beat : Heartbeat) : Within (quiet entity) (heartbeat beat) := by
  intro plane
  rw [heartbeat_run]
  split
  all_goals exact ⟨rfl, id⟩

/-- A stored entity replaces the entity of its reference. -/
theorem storeEntity_quiet (now : Int) {other : GraphEntity} {plane : InMemoryStatePlane}
    (kept : plane.entities.lookup entity.ref = some entity → entity.ref = other.ref →
      other = entity) : (quiet entity).rel plane (storeEntity config now other plane) := by
  refine ⟨rfl, fun present => ?_⟩
  change (assign other.ref other plane.entities).lookup entity.ref = some entity
  by_cases same : entity.ref = other.ref
  · rw [kept present same, lookup_assign_same]
  · rw [lookup_assign_other same]
    exact present

/-- An entity of another graph never replaces a present one. -/
theorem upsertEntity_quiet (now : Int) {other : GraphEntity}
    (apart : other = entity ∨ other.graph ≠ entity.graph) :
    Within (quiet entity) (upsertEntity config now other) := by
  intro plane
  rw [upsertEntity_run]
  split
  · rename_i previous found
    split
    · exact ⟨rfl, id⟩
    · rename_i graph
      split
      · exact ⟨rfl, id⟩
      · apply storeEntity_quiet
        intro present same
        rw [← same, present] at found
        cases found
        exact apart.resolve_right fun different => different (not_not.mp graph).symm
  · rename_i absent
    apply storeEntity_quiet
    intro present same
    rw [← same, present] at absent
    cases absent

end Quiet

/-- A returned registration leaves its entity in the plane. -/
theorem upsertEntity_ok {entity : GraphEntity} {config : PlaneConfig} {now : Int}
    {plane next : InMemoryStatePlane}
    (returned : upsertEntity config now entity plane = .ok () next) :
    next.entities.lookup entity.ref = some entity := by
  rw [upsertEntity_run] at returned
  split at returned
  · split at returned
    · cases returned
    · split at returned
      · cases returned
        rename_i found _ same
        rw [found, same]
      · cases returned
        exact lookup_assign_same _ _ _
  · cases returned
    exact lookup_assign_same _ _ _

section Single
variable {config : PlaneConfig} {update : StateUpdate}

/-- The parts of a plane that decide about one write. -/
def InMemoryStatePlane.site (plane : InMemoryStatePlane) (ref key name : String) :
    Option StateValue × Option WriteResult × List (String × GraphEntity) :=
  (plane.state.lookup (ref, key), plane.duplicate name, plane.entities)

theorem duplicate_remember {plane : InMemoryStatePlane} {key name : String} {result : WriteResult}
    (apart : name = "" ∨ name ≠ key) : (plane.remember key result).duplicate name =
      plane.duplicate name := by
  unfold InMemoryStatePlane.duplicate InMemoryStatePlane.remember
  by_cases blank : name = ""
  · simp [blank]
  · have different : name ≠ key := apart.resolve_left blank
    by_cases unnamed : key = ""
    · simp [unnamed]
    · simp [blank, unnamed, lookup_assign_other different]

/-- A write keeps the site of a write with another key and another name. -/
theorem publishOne_site {ref key name : String}
    (elsewhere : ∀ definition, config.registry.resolve update.key = some definition →
      (ref, key) ≠ (update.entityRef, definition.key))
    (apart : name = "" ∨ name ≠ update.idempotencyKey) :
    Within (Frame.fixes fun plane => plane.site ref key name) (publishOne config update) := by
  intro plane
  rw [publishOne_run]
  rcases judged : judgeState config plane update with exception | (result | value)
  · rfl
  · rfl
  · obtain ⟨definition, admitted, stored⟩ := judgeState_accepts judged
    have named : (value.entityRef, value.key) = (update.entityRef, definition.key) := by
      rw [stored]; rfl
    have values : (acceptState config plane update value).state.lookup (ref, key) =
        plane.state.lookup (ref, key) := by
      rw [acceptState_state, named, lookup_assign_other (elsewhere definition admitted.resolved)]
    have names : (acceptState config plane update value).duplicate name = plane.duplicate name :=
      duplicate_remember apart
    have entities : (acceptState config plane update value).entities = plane.entities := by
      unfold acceptState InMemoryStatePlane.remember
      split <;> rfl
    change (_, _, _) = (_, _, _)
    rw [finalState_ok, values, names, entities]

/-- No earlier write used the name, and no later observation is stored. -/
structure TakesEffect (plane : InMemoryStatePlane) (ref key name : String) (timestamp : Int) :
    Prop where
  unused : plane.duplicate name = none
  ordered : ∀ stored, plane.state.lookup (ref, key) = some stored → stored.timestamp ≤ timestamp

/-- An update that continues the stored version under the stored authority. -/
structure Plain (config : PlaneConfig) (plane : InMemoryStatePlane) (update : StateUpdate)
    (definition : CanonicalKey) : Prop where
  registered : ∃ entity, plane.entities.lookup update.entityRef = some entity ∧
    entity.entityType ∈ definition.entityTypes
  resolved : config.registry.resolve update.key = some definition
  valid : validateValue definition update.value = true
  unversioned : update.version = 0
  unconditional : update.expectedVersion = none
  sameAuthority : ∀ stored, plane.state.lookup (update.entityRef, definition.key) = some stored →
    stored.authority = update.authority

theorem Plain.free_iff {plane : InMemoryStatePlane} {definition : CanonicalKey}
    (plain : Plain config plane update definition) :
    writeConflict "state" (plane.heldState update definition.key) update.expectedVersion
      update.authority update.timestamp update.version = .ok none ↔
    ∀ stored, plane.state.lookup (update.entityRef, definition.key) = some stored →
      stored.timestamp ≤ update.timestamp := by
  unfold InMemoryStatePlane.heldState
  rw [plain.unconditional, plain.unversioned]
  cases found : plane.state.lookup (update.entityRef, definition.key) with
  | none => simp [writeConflict, casConflict]
  | some stored =>
      have authority := plain.sameAuthority stored found
      by_cases late : update.timestamp < stored.timestamp
      · simp [writeConflict, casConflict, heldConflict, StateValue.held, authority, late, pure,
          Except.pure]
      · simp [writeConflict, casConflict, heldConflict, StateValue.held, authority, late, pure,
          Except.pure, not_lt.mp late]

/-- A plain update is stored exactly when it takes effect. -/
theorem Plain.stored_iff {plane : InMemoryStatePlane} {definition : CanonicalKey}
    (plain : Plain config plane update definition) :
    ((finalState (publishOne config update plane)).state.lookup
        (update.entityRef, definition.key)).map StateValue.value = some update.value ↔
      TakesEffect plane update.entityRef definition.key update.idempotencyKey update.timestamp ∨
      (plane.state.lookup (update.entityRef, definition.key)).map StateValue.value =
        some update.value := by
  have decided : (∃ value, judgeState config plane update = .ok (.ok value)) ↔
      TakesEffect plane update.entityRef definition.key update.idempotencyKey
        update.timestamp := by
    constructor
    · rintro ⟨value, judged⟩
      obtain ⟨other, admitted, _⟩ := judgeState_accepts judged
      cases admitted.resolved.symm.trans plain.resolved
      exact ⟨admitted.unused, plain.free_iff.mp admitted.free⟩
    · intro effective
      exact ⟨_, judgeState_of_admitted ⟨effective.unused, plain.registered, plain.resolved,
        plain.valid, plain.free_iff.mpr effective.ordered⟩⟩
  rw [← decided, publishOne_run]
  rcases judged : judgeState config plane update with exception | (result | value)
  · simp
  · simp
  · obtain ⟨other, admitted, stored⟩ := judgeState_accepts judged
    cases admitted.resolved.symm.trans plain.resolved
    have named : (value.entityRef, value.key) = (update.entityRef, definition.key) := by
      rw [stored]; rfl
    have carried : value.value = update.value := by rw [stored]; rfl
    simp [named, carried]

end Single

end StateFlow.Plane
