import StateFlow.Library.Versioned
import StateFlow.Construction.Plane.Run

namespace StateFlow.Plane
open Python Table Effect

/-- The versions of the plane are those of a register. -/
theorem actualVersion_eq (held : Option Held) :
    actualVersion held = Versioned.actual (held.map Held.version) := rfl

theorem nextVersion_eq (held : Option Held) (version : Int) :
    nextVersion held version = Versioned.next (held.map Held.version) version := by
  cases held <;> rfl

/-- A stored record without a conflict is older than a write that brings its version. -/
theorem held_lt_of_no_conflict {noun : String} {held : Held} {authority : SourceAuthority}
    {timestamp version : Int} (free : heldConflict noun held authority timestamp version = .ok none)
    (brought : version ≠ 0) : held.version < version := by
  by_contra above
  have old : version ≤ held.version := not_lt.mp above
  simp only [heldConflict, bind, Except.bind, pure, Except.pure] at free
  split at free
  · cases fresh : held.fresh with
    | error exception => rw [fresh] at free; cases free
    | ok flag =>
        rw [fresh] at free
        cases flag
        · simp [brought, old] at free
          split at free <;> simp at free
        · simp at free
  · simp [brought, old] at free
    split at free <;> simp at free

/-- A write without a conflict is accepted by its register. -/
theorem accepts_of_no_conflict {noun : String} {held : Option Held} {expected : Option Int}
    {authority : SourceAuthority} {timestamp version : Int}
    (free : writeConflict noun held expected authority timestamp version = .ok none) :
    Versioned.Accepts (held.map Held.version) ⟨expected, version⟩ := by
  unfold writeConflict at free
  cases cas : casConflict held expected with
  | some reason => rw [cas] at free; cases free
  | none =>
      rw [cas] at free
      constructor
      · intro wanted same
        cases Option.mem_def.mp same
        by_contra different
        simp [casConflict, actualVersion_eq, different] at cas
      · intro stored present brought
        cases held with
        | none => cases present
        | some held => cases present; exact held_lt_of_no_conflict free brought

/-- A conflict check returns when the freshness of the stored record does. -/
theorem heldConflict_returns {noun : String} {held : Held} {fresh : Bool}
    (known : held.fresh = .ok fresh) (authority : SourceAuthority) (timestamp version : Int) :
    ∃ reason, heldConflict noun held authority timestamp version = .ok reason := by
  simp only [heldConflict, known, bind, Except.bind, pure, Except.pure]
  repeat' split
  all_goals exact ⟨_, rfl⟩

theorem writeConflict_returns {noun : String} {held : Option Held}
    (known : ∀ record ∈ held, ∃ fresh, record.fresh = .ok fresh) (expected : Option Int)
    (authority : SourceAuthority) (timestamp version : Int) :
    ∃ reason, writeConflict noun held expected authority timestamp version = .ok reason := by
  unfold writeConflict
  cases casConflict held expected with
  | some reason => exact ⟨_, rfl⟩
  | none =>
      cases held with
      | none => exact ⟨_, rfl⟩
      | some record =>
          obtain ⟨fresh, known⟩ := known record rfl
          exact heldConflict_returns known authority timestamp version

theorem duplicate_accepted {plane : InMemoryStatePlane} {key : String} {result : WriteResult}
    (found : plane.duplicate key = some result) : result.accepted = false := by
  unfold InMemoryStatePlane.duplicate at found
  split at found
  · cases found
  · cases seen : plane.idempotency.lookup key <;> rw [seen] at found <;> cases found
    rfl

section State
variable {config : PlaneConfig} {plane : InMemoryStatePlane} {update : StateUpdate}

/-- These facts hold of an update that the plane accepts. -/
structure StateAdmitted (config : PlaneConfig) (plane : InMemoryStatePlane) (update : StateUpdate)
    (definition : CanonicalKey) : Prop where
  unused : plane.duplicate update.idempotencyKey = none
  registered : ∃ entity, plane.entities.lookup update.entityRef = some entity ∧
    entity.entityType ∈ definition.entityTypes
  resolved : config.registry.resolve update.key = some definition
  valid : validateValue definition update.value = true
  free : writeConflict "state" (plane.heldState update definition.key) update.expectedVersion
    update.authority update.timestamp update.version = .ok none

theorem judgeState_of_admitted {definition : CanonicalKey}
    (admitted : StateAdmitted config plane update definition) :
    judgeState config plane update =
      .ok (.ok (storedValue update definition (plane.heldState update definition.key))) := by
  obtain ⟨unused, ⟨entity, known, typed⟩, resolved, valid, free⟩ := admitted
  simp [judgeState, unused, known, resolved, typed, valid, free, bind, Except.bind, pure,
    Except.pure]

/-- The freshness of a stored value never raises. -/
theorem heldState_returns {key : String} :
    ∀ record ∈ plane.heldState update key, ∃ fresh, record.fresh = .ok fresh := by
  intro record held
  obtain ⟨value, _, same⟩ := Option.map_eq_some_iff.mp held
  exact ⟨_, by rw [← same]; rfl⟩

theorem judgeState_returns (config : PlaneConfig) (plane : InMemoryStatePlane)
    (update : StateUpdate) : ∃ verdict, judgeState config plane update = .ok verdict := by
  simp only [judgeState, bind, Except.bind, pure, Except.pure]
  split
  · exact ⟨_, rfl⟩
  · split
    · exact ⟨_, rfl⟩
    · split
      · exact ⟨_, rfl⟩
      · rename_i definition resolved
        split
        · exact ⟨_, rfl⟩
        · split
          · exact ⟨_, rfl⟩
          · obtain ⟨reason, judged⟩ := @writeConflict_returns "state" _
              (@heldState_returns plane _ definition.key) update.expectedVersion
              update.authority update.timestamp update.version
            rw [judged]
            cases reason <;> exact ⟨_, rfl⟩

theorem judgeState_rejects {result : WriteResult}
    (judged : judgeState config plane update = .ok (.error result)) : result.accepted = false := by
  simp only [judgeState, bind, Except.bind, pure, Except.pure] at judged
  split at judged
  · cases judged
    exact duplicate_accepted ‹_›
  · split at judged
    · cases judged; rfl
    · split at judged
      · cases judged; rfl
      · split at judged
        · cases judged; rfl
        · split at judged
          · cases judged; rfl
          · split at judged
            · cases judged
            · split at judged <;> cases judged; rfl

theorem judgeState_accepts {value : StateValue}
    (judged : judgeState config plane update = .ok (.ok value)) :
    ∃ definition, StateAdmitted config plane update definition ∧
      value = storedValue update definition (plane.heldState update definition.key) := by
  simp only [judgeState, bind, Except.bind, pure, Except.pure] at judged
  split at judged
  · cases judged
  · rename_i unused
    split at judged
    · cases judged
    · rename_i entity known
      split at judged
      · cases judged
      · rename_i definition resolved
        split at judged
        · cases judged
        · rename_i typed
          split at judged
          · cases judged
          · rename_i valid
            split at judged
            · cases judged
            · rename_i conflict free
              split at judged
              · cases judged
              · cases judged
                have valid : validateValue definition update.value = true := by simpa using valid
                exact ⟨definition, ⟨unused, ⟨entity, known, not_not.mp typed⟩, resolved, valid,
                  free⟩, rfl⟩

/-- A verdict decides the result and the next plane. -/
theorem publishOne_run (config : PlaneConfig) (update : StateUpdate) (plane : InMemoryStatePlane) :
    publishOne config update plane = match judgeState config plane update with
      | .error exception => .error exception plane
      | .ok (.error result) => .ok result plane
      | .ok (.ok value) => .ok (acceptedState value) (acceptState config plane update value) := by
  unfold publishOne
  rw [get_bind, lift_bind]
  rcases judgeState config plane update with exception | (result | value) <;> rfl

theorem remember_state (key : String) (result : WriteResult) :
    (plane.remember key result).state = plane.state := by
  unfold InMemoryStatePlane.remember
  split <;> rfl

theorem remember_relations (key : String) (result : WriteResult) :
    (plane.remember key result).relations = plane.relations := by
  unfold InMemoryStatePlane.remember
  split <;> rfl

@[simp] theorem acceptState_state (value : StateValue) :
    (acceptState config plane update value).state =
      assign (value.entityRef, value.key) value plane.state :=
  remember_state _ _

@[simp] theorem acceptState_relations (value : StateValue) :
    (acceptState config plane update value).relations = plane.relations :=
  remember_relations _ _

end State

section Relation
variable {config : PlaneConfig} {plane : InMemoryStatePlane} {update : RelationUpdate}

theorem judgeRelation_rejects {result : WriteResult}
    (judged : judgeRelation plane update = .ok (.error result)) : result.accepted = false := by
  simp only [judgeRelation, bind, Except.bind, pure, Except.pure] at judged
  split at judged
  · cases judged
    exact duplicate_accepted ‹_›
  · split at judged
    · split at judged
      · cases judged; rfl
      · split at judged
        · cases judged
        · split at judged <;> cases judged; rfl
    · cases judged; rfl

theorem judgeRelation_accepts {relation : GraphRelation}
    (judged : judgeRelation plane update = .ok (.ok relation)) :
    writeConflict "relation" (plane.heldRelation update) update.expectedVersion update.authority
        update.timestamp update.version = .ok none ∧
      relation = storedRelation update (plane.heldRelation update) := by
  simp only [judgeRelation, bind, Except.bind, pure, Except.pure] at judged
  split at judged
  · cases judged
  · split at judged
    · split at judged
      · cases judged
      · split at judged
        · cases judged
        · rename_i conflict free
          split at judged
          · cases judged
          · cases judged
            exact ⟨free, rfl⟩
    · cases judged

theorem upsertRelation_run (config : PlaneConfig) (update : RelationUpdate)
    (plane : InMemoryStatePlane) :
    upsertRelation config update plane = match judgeRelation plane update with
      | .error exception => .error exception plane
      | .ok (.error result) => .ok result plane
      | .ok (.ok relation) =>
          .ok (acceptedRelation relation) (acceptRelation config plane update relation) := by
  unfold upsertRelation
  rw [get_bind, lift_bind]
  rcases judgeRelation plane update with exception | (result | relation) <;> rfl

@[simp] theorem acceptRelation_state (relation : GraphRelation) :
    (acceptRelation config plane update relation).state = plane.state :=
  remember_state _ _

@[simp] theorem acceptRelation_relations (relation : GraphRelation) :
    (acceptRelation config plane update relation).relations =
      assign update.relationKey relation plane.relations :=
  remember_relations _ _

end Relation

/-- The registrations and the heartbeats have no other outcomes. -/
theorem registerComponent_run (descriptor : ComponentDescriptor) (plane : InMemoryStatePlane) :
    registerComponent descriptor plane = match plane.components.lookup descriptor.componentId with
      | some existing =>
          if existing ≠ descriptor then .error .valueError plane
          else .ok () { plane with
            components := assign descriptor.componentId descriptor plane.components }
      | none => .ok () { plane with
          components := assign descriptor.componentId descriptor plane.components } := by
  unfold registerComponent
  rw [get_bind]
  cases plane.components.lookup descriptor.componentId with
  | none => rfl
  | some existing =>
      by_cases different : existing ≠ descriptor
      · simp only [if_pos different]; rfl
      · simp only [if_neg different]; rfl

/-- The plane after a new entity. -/
def storeEntity (config : PlaneConfig) (now : Int) (entity : GraphEntity)
    (plane : InMemoryStatePlane) : InMemoryStatePlane :=
  recordChange config { plane with entities := assign entity.ref entity plane.entities } "entity"
    entity.ref entity.entityType 1 now

theorem upsertEntity_run (config : PlaneConfig) (now : Int) (entity : GraphEntity)
    (plane : InMemoryStatePlane) :
    upsertEntity config now entity plane = match plane.entities.lookup entity.ref with
      | some previous =>
          if previous.graph ≠ entity.graph then .error .valueError plane
          else if previous = entity then .ok () plane
          else .ok () (storeEntity config now entity plane)
      | none => .ok () (storeEntity config now entity plane) := by
  unfold upsertEntity
  rw [get_bind]
  cases plane.entities.lookup entity.ref with
  | none => rfl
  | some previous =>
      by_cases moved : previous.graph ≠ entity.graph
      · simp only [if_pos moved]; rfl
      · by_cases same : previous = entity
        · simp only [if_neg moved, if_pos same]; rfl
        · simp only [if_neg moved, if_neg same]; rfl

theorem heartbeat_run (beat : Heartbeat) (plane : InMemoryStatePlane) :
    heartbeat beat plane =
      if (plane.entities.lookup beat.subjectRef).isNone
          && (plane.components.lookup beat.subjectRef).isNone then .error .keyError plane
      else .ok () { plane with heartbeats := assign beat.subjectRef beat plane.heartbeats } := by
  unfold heartbeat
  rw [get_bind]
  by_cases absent : ((plane.entities.lookup beat.subjectRef).isNone
      && (plane.components.lookup beat.subjectRef).isNone) = true
  · simp only [if_pos absent]; rfl
  · simp only [if_neg absent]; rfl

/-- A metric is rejected or enters the metrics. -/
theorem publishMetric_cases (config : PlaneConfig) (sample : MetricSample)
    (plane : InMemoryStatePlane) :
    (∃ result, publishMetric config sample plane = .ok result plane ∧ result.accepted = false) ∨
    ∃ definition value result, publishMetric config sample plane =
      .ok result (acceptMetric config plane sample definition value) ∧ result.accepted = true := by
  unfold publishMetric
  simp only [get_bind]
  cases plane.entities.lookup sample.entityRef with
  | none => exact Or.inl ⟨_, rfl, rfl⟩
  | some entity =>
      cases config.registry.resolve sample.metricKey with
      | none => exact Or.inl ⟨_, rfl, rfl⟩
      | some definition =>
          by_cases foreign : entity.entityType ∉ definition.entityTypes
          · simp only [if_pos foreign]
            exact Or.inl ⟨_, rfl, rfl⟩
          · simp only [if_neg foreign]
            cases metricNumber sample.value with
            | none => exact Or.inl ⟨_, rfl, rfl⟩
            | some value => exact Or.inr ⟨definition, value, _, rfl, rfl⟩

/-- An event is rejected or enters the events. -/
theorem publishEvent_cases (config : PlaneConfig) (event : StateEvent)
    (plane : InMemoryStatePlane) :
    (∃ result, publishEvent config event plane = .ok result plane ∧ result.accepted = false) ∨
    ∃ result, publishEvent config event plane = .ok result (acceptEvent config plane event) ∧
      result.accepted = true := by
  unfold publishEvent
  simp only [get_bind]
  by_cases known : (plane.events.lookup event.eventId).isSome = true
  · simp only [if_pos known]
    exact Or.inl ⟨_, rfl, rfl⟩
  · by_cases absent : (plane.entities.lookup event.subjectRef).isNone = true
    · simp only [if_neg known, if_pos absent]
      exact Or.inl ⟨_, rfl, rfl⟩
    · simp only [if_neg known, if_neg absent]
      exact Or.inr ⟨_, rfl, rfl⟩

/-- A snapshot raises or enters the snapshots. -/
theorem getSnapshot_run (config : PlaneConfig) (now : Int) (unique : String)
    (request : SnapshotRequest) (plane : InMemoryStatePlane) :
    getSnapshot config now unique request plane =
      match takeSnapshot config plane now unique request with
      | .ok snapshot => .ok snapshot (keepSnapshot config plane snapshot)
      | .error exception => .error exception plane := by
  unfold getSnapshot
  rw [get_bind, lift_bind]
  rcases takeSnapshot config plane now unique request with exception | snapshot <;> rfl

/-- The accepted writes of one key with the versions that they meet. -/
def writesOf (key : WriteKey) (log : List AcceptedWrite) : List (Option Int × Versioned.Write) :=
  (log.filter fun write => write.key = key).map fun write =>
    (write.before, ⟨write.expected, write.version⟩)

/-- A log follows the register of a key from one plane to the next. -/
def Follows (before after : InMemoryStatePlane) (log : List AcceptedWrite) : Prop :=
  (∀ key, Versioned.History (storedVersion before key) (writesOf key log)
    (storedVersion after key)) ∧
  ∀ write ∈ log, write.after = some (Versioned.next write.before write.version)

theorem follows_refl (plane : InMemoryStatePlane) : Follows plane plane [] :=
  ⟨fun _ => .nil _, fun _ member => absurd member List.not_mem_nil⟩

theorem follows_trans {first middle last : InMemoryStatePlane} {early late : List AcceptedWrite}
    (before : Follows first middle early) (after : Follows middle last late) :
    Follows first last (early ++ late) := by
  constructor
  · intro key
    have joined := (before.1 key).append (after.1 key)
    rwa [writesOf, writesOf, ← List.map_append, ← List.filter_append] at joined
  · intro write member
    exact (List.mem_append.mp member).elim (before.2 write) (after.2 write)

/-- A plane whose versions agree continues every register. -/
theorem follows_same {before after : InMemoryStatePlane}
    (same : ∀ key, storedVersion after key = storedVersion before key) :
    Follows before after [] :=
  ⟨fun key => by rw [same key]; exact .nil _, fun _ member => absurd member List.not_mem_nil⟩

/-- One accepted write moves one register and leaves the others. -/
theorem follows_write {before after : InMemoryStatePlane} {key : WriteKey} {expected : Option Int}
    {version : Int}
    (accepted : Versioned.Accepts (storedVersion before key) ⟨expected, version⟩)
    (stored : storedVersion after key = some (Versioned.next (storedVersion before key) version))
    (others : ∀ other, other ≠ key → storedVersion after other = storedVersion before other) :
    Follows before after [logEntry key expected version before after] := by
  constructor
  · intro query
    by_cases same : key = query
    · subst query
      rw [stored]
      simpa [writesOf, logEntry] using Versioned.History.single accepted
    · rw [others query (Ne.symm same)]
      simpa [writesOf, logEntry, same] using Versioned.History.nil (storedVersion before query)
  · intro write member
    rw [List.mem_singleton.mp member]
    exact stored

section Follow
variable (config : PlaneConfig)

theorem stateLog_follows (plane : InMemoryStatePlane) (update : StateUpdate) :
    Follows plane (finalState (publishOne config update plane)) (stateLog config plane update) := by
  rw [stateLog, publishOne_run]
  rcases judged : judgeState config plane update with exception | (result | value)
  · exact follows_refl plane
  · simp only [judgeState_rejects judged, finalState_ok, Bool.false_eq_true, if_false]
    exact follows_refl plane
  · obtain ⟨definition, admitted, stored⟩ := judgeState_accepts judged
    have accepted := accepts_of_no_conflict admitted.free
    have versions : storedVersion plane (.state (update.entityRef, definition.key)) =
        (plane.heldState update definition.key).map Held.version := by
      simp only [storedVersion, InMemoryStatePlane.heldState, Option.map_map]
      rfl
    have named : (value.entityRef, value.key) = (update.entityRef, definition.key) := by
      rw [stored]; rfl
    have version : value.version = nextVersion (plane.heldState update definition.key) update.version := by
      rw [stored]; rfl
    have answered : (acceptedState value).key = definition.key := by rw [stored]; rfl
    simp only [finalState_ok]
    rw [if_pos (show (acceptedState value).accepted = true from rfl), answered]
    apply follows_write
    · rw [versions]; exact accepted
    · simp [storedVersion, named, version, nextVersion_eq, ← versions]
    · intro other different
      cases other with
      | relation key => simp [storedVersion]
      | state key =>
          have distinct : key ≠ (update.entityRef, definition.key) := fun same => different (same ▸ rfl)
          simp [storedVersion, named, lookup_assign_other distinct]

theorem relationLog_follows (plane : InMemoryStatePlane) (update : RelationUpdate) :
    Follows plane (finalState (upsertRelation config update plane))
      (relationLog config plane update) := by
  rw [relationLog, upsertRelation_run]
  rcases judged : judgeRelation plane update with exception | (result | relation)
  · exact follows_refl plane
  · simp only [judgeRelation_rejects judged, finalState_ok, Bool.false_eq_true, if_false]
    exact follows_refl plane
  · obtain ⟨free, stored⟩ := judgeRelation_accepts judged
    have versions : storedVersion plane (.relation update.relationKey) =
        (plane.heldRelation update).map Held.version := by
      simp only [storedVersion, InMemoryStatePlane.heldRelation, Option.map_map]
      rfl
    have version : relation.version = nextVersion (plane.heldRelation update) update.version := by
      rw [stored]; rfl
    simp only [finalState_ok]
    rw [if_pos (show (acceptedRelation relation).accepted = true from rfl)]
    apply follows_write
    · rw [versions]; exact accepts_of_no_conflict free
    · simp [storedVersion, version, nextVersion_eq, ← versions]
    · intro other different
      cases other with
      | state key => simp [storedVersion]
      | relation key =>
          have distinct : key ≠ update.relationKey := fun same => different (same ▸ rfl)
          simp [storedVersion, lookup_assign_other distinct]

/-- A batch follows the registers when each of its writes does. -/
theorem batchLog_follows {U : Type} {single : U → PlaneAction WriteResult}
    {log : InMemoryStatePlane → U → List AcceptedWrite}
    (step : ∀ plane update, Follows plane (finalState (single update plane)) (log plane update))
    (updates : List U) (plane : InMemoryStatePlane) :
    Follows plane (finalState (updates.mapM single plane)) (batchLog single log updates plane) := by
  induction updates generalizing plane with
  | nil => exact follows_refl plane
  | cons update rest ih =>
      have here := step plane update
      rw [finalState_mapM_cons, batchLog]
      cases ran : single update plane with
      | ok result next =>
          rw [ran] at here
          exact follows_trans here (ih next)
      | error exception next =>
          rw [ran] at here
          simpa using here

/-- Two planes hold the same values and the same relations. -/
def SameRecords (before after : InMemoryStatePlane) : Prop :=
  after.state = before.state ∧ after.relations = before.relations

theorem follows_of_sameRecords {before after : InMemoryStatePlane}
    (same : SameRecords before after) : Follows before after [] := by
  apply follows_same
  intro key
  cases key
  · simp [storedVersion, same.1]
  · simp [storedVersion, same.2]

/-- The registrations and the heartbeats keep the records. -/
theorem registerComponent_sameRecords (plane : InMemoryStatePlane)
    (descriptor : ComponentDescriptor) :
    SameRecords plane (finalState (registerComponent descriptor plane)) := by
  rw [registerComponent_run]
  repeat' split
  all_goals exact ⟨rfl, rfl⟩

theorem upsertEntity_sameRecords (plane : InMemoryStatePlane) (now : Int) (entity : GraphEntity) :
    SameRecords plane (finalState (upsertEntity config now entity plane)) := by
  rw [upsertEntity_run]
  repeat' split
  all_goals exact ⟨rfl, rfl⟩

theorem heartbeat_sameRecords (plane : InMemoryStatePlane) (beat : Heartbeat) :
    SameRecords plane (finalState (heartbeat beat plane)) := by
  rw [heartbeat_run]
  split
  all_goals exact ⟨rfl, rfl⟩

theorem publishMetric_sameRecords (plane : InMemoryStatePlane) (sample : MetricSample) :
    SameRecords plane (finalState (publishMetric config sample plane)) := by
  rcases publishMetric_cases config sample plane with ⟨result, ran, _⟩ | ⟨_, _, result, ran, _⟩
  all_goals
    rw [ran]
    exact ⟨rfl, rfl⟩

theorem publishEvent_sameRecords (plane : InMemoryStatePlane) (event : StateEvent) :
    SameRecords plane (finalState (publishEvent config event plane)) := by
  rcases publishEvent_cases config event plane with ⟨result, ran, _⟩ | ⟨result, ran, _⟩
  all_goals
    rw [ran]
    exact ⟨rfl, rfl⟩

theorem getSnapshot_sameRecords (plane : InMemoryStatePlane) (now : Int) (unique : String)
    (request : SnapshotRequest) :
    SameRecords plane (finalState (getSnapshot config now unique request plane)) := by
  rw [getSnapshot_run]
  split
  all_goals exact ⟨rfl, rfl⟩

/-- A batch keeps the records when each of its items does. -/
theorem mapM_sameRecords {U : Type} {single : U → PlaneAction WriteResult}
    (each : ∀ plane item, SameRecords plane (finalState (single item plane))) (items : List U)
    (plane : InMemoryStatePlane) : SameRecords plane (finalState (items.mapM single plane)) := by
  let records : Frame InMemoryStatePlane :=
    { rel := SameRecords
      refl := fun _ => ⟨rfl, rfl⟩
      trans := fun first second => ⟨second.1.trans first.1, second.2.trans first.2⟩ }
  have inside : Within records (items.mapM single) :=
    within_mapM fun item _ plane => each plane item
  exact inside plane

/-- The log of a call follows every register through it. -/
theorem operation_follows (plane : InMemoryStatePlane) (operation : Operation) :
    Follows plane (operation.apply config plane) (operation.log config plane) := by
  cases operation with
  | registerComponent descriptor =>
      exact follows_of_sameRecords (registerComponent_sameRecords plane descriptor)
  | upsertEntity now entity =>
      exact follows_of_sameRecords (upsertEntity_sameRecords config plane now entity)
  | heartbeat beat => exact follows_of_sameRecords (heartbeat_sameRecords plane beat)
  | publishState updates => exact batchLog_follows (stateLog_follows config) updates plane
  | upsertRelations updates => exact batchLog_follows (relationLog_follows config) updates plane
  | publishMetrics samples =>
      exact follows_of_sameRecords (mapM_sameRecords (publishMetric_sameRecords config) samples plane)
  | publishEvents events =>
      exact follows_of_sameRecords (mapM_sameRecords (publishEvent_sameRecords config) events plane)
  | getSnapshot now unique request =>
      exact follows_of_sameRecords (getSnapshot_sameRecords config plane now unique request)

/-- The log of a run follows every register through it. -/
theorem runLog_follows (operations : List Operation) (plane : InMemoryStatePlane) :
    Follows plane (operations.foldl (Operation.apply config) plane)
      (runLog config operations plane) := by
  induction operations generalizing plane with
  | nil => exact follows_refl plane
  | cons operation rest ih =>
      exact follows_trans (operation_follows config plane operation)
        (ih (operation.apply config plane))

end Follow

/-- A runtime whose queue is written. -/
def queueEntity : GraphEntity where
  ref := "component/component/r0"
  graph := .component
  entityType := "component"
  typeAllowed := component_allowed
  refNamed := by decide +kernel

/-- A writer of the queue depth brings a version and an expected version. -/
def queueWrite (depth version expected : Int) : StateUpdate :=
  { entityRef := "component/component/r0", key := "runtime.queue_depth", value := .int depth,
    producer := "writer", timestamp := 0, version := version, expectedVersion := some expected }

end StateFlow.Plane
