import Mathlib.Data.List.Forall2
import StateFlow.Proof.Plane.Trace

namespace StateFlow.Plane
open Python Table Effect

/-- The tables that a rejected write must leave alone. -/
structure Core where
  entities : List (String × GraphEntity)
  state : List (EntityStateKey × StateValue)
  relations : List (RelationKey × GraphRelation)
  events : List (String × StateEvent)
  idempotency : List (String × WriteResult)
  changes : List StateChange
  revision : Nat

def InMemoryStatePlane.core (plane : InMemoryStatePlane) : Core :=
  ⟨plane.entities, plane.state, plane.relations, plane.events, plane.idempotency, plane.changes,
    plane.revision⟩

/-- A write answers with a result. -/
def Call.isWrite : Call → Bool
  | .publishState _ | .upsertRelation _ | .publishMetric _ | .publishEvent _ => true
  | _ => false

/-- An accepted write or a changing upsert contributes a change. -/
def Step.contributes (step : Step) : Bool :=
  match step.call with
  | .publishState _ | .upsertRelation _ | .publishEvent _ => step.accepted
  | .upsertEntity _ entity =>
      step.answer.toBool && decide (step.before.entities.lookup entity.ref ≠ some entity)
  | _ => false

/-- A change names the subject and the kind of its call. -/
def Call.names (change : StateChange) : Call → Prop
  | .upsertEntity _ entity => change.kind = "entity" ∧ change.subjectRef = entity.ref
  | .publishState update => change.kind = "state" ∧ change.subjectRef = update.entityRef
  | .upsertRelation update => change.kind = "relation" ∧ change.subjectRef = update.sourceRef
  | .publishEvent event => change.kind = "event" ∧ change.subjectRef = event.subjectRef
  | _ => False

/-- The account of one step. -/
structure Accounts (config : PlaneConfig) (step : Step) : Prop where
  one : step.contributes = true → ∃ change, step.call.names change ∧
    change.cursor = step.after.revision ∧ step.after.revision = step.before.revision + 1 ∧
    step.after.changes = latest config.maxChanges (step.before.changes ++ [change])
  none : step.contributes = false → step.after.core = step.before.core
  rejected : step.call.isWrite = true → step.accepted = false → step.after = step.before

section Accounts
variable {config : PlaneConfig}

theorem accounts_of_same {step : Step} (idle : step.contributes = false)
    (same : step.after = step.before) : Accounts config step :=
  ⟨fun active => absurd (idle.symm.trans active) (by decide), fun _ => by rw [same],
    fun _ _ => same⟩

theorem remember_changes {plane : InMemoryStatePlane} (key : String) (result : WriteResult) :
    (plane.remember key result).changes = plane.changes ∧
      (plane.remember key result).revision = plane.revision := by
  unfold InMemoryStatePlane.remember
  split <;> exact ⟨rfl, rfl⟩

theorem acceptState_counts (plane : InMemoryStatePlane) (update : StateUpdate)
    (value : StateValue) :
    (acceptState config plane update value).revision = plane.revision + 1 ∧
      (acceptState config plane update value).changes = latest config.maxChanges (plane.changes ++
        [⟨plane.revision + 1, "state", value.entityRef, value.key, value.version,
          value.timestamp⟩]) :=
  ⟨(remember_changes _ _).2, (remember_changes _ _).1⟩

theorem acceptRelation_counts (plane : InMemoryStatePlane) (update : RelationUpdate)
    (relation : GraphRelation) :
    (acceptRelation config plane update relation).revision = plane.revision + 1 ∧
      (acceptRelation config plane update relation).changes = latest config.maxChanges
        (plane.changes ++ [⟨plane.revision + 1, "relation", update.sourceRef, update.relationType,
          relation.version, relation.timestamp⟩]) :=
  ⟨(remember_changes _ _).2, (remember_changes _ _).1⟩

/-- A contributing write keeps its account with its change. -/
theorem accounts_of_change {step : Step} (change : StateChange) (active : step.contributes = true)
    (answered : step.call.isWrite = true → step.accepted = true) (named : step.call.names change)
    (cursor : change.cursor = step.before.revision + 1)
    (counts : step.after.revision = step.before.revision + 1 ∧
      step.after.changes = latest config.maxChanges (step.before.changes ++ [change])) :
    Accounts config step := by
  constructor
  · exact fun _ => ⟨change, named, cursor.trans counts.1.symm, counts.1, counts.2⟩
  · intro idle
    exact absurd (active.symm.trans idle) (by decide)
  · intro write unaccepted
    exact absurd ((answered write).symm.trans unaccepted) (by decide)

theorem publishState_accounts (plane : InMemoryStatePlane) (update : StateUpdate) :
    Accounts config ((Call.publishState update).step config plane) := by
  have ran := run_answered (publishOne config update) plane
  rw [publishOne_run] at ran
  rcases judged : judgeState config plane update with exception | (result | value)
  all_goals rw [judged] at ran
  · rw [step_of_error (.publishState update) ran]
    exact accounts_of_same rfl rfl
  · rw [step_of_ok (.publishState update) ran]
    exact accounts_of_same (judgeState_rejects judged) rfl
  · obtain ⟨definition, _, stored⟩ := judgeState_accepts judged
    rw [step_of_ok (.publishState update) ran]
    have named : value.entityRef = update.entityRef := by rw [stored]; rfl
    exact accounts_of_change _ rfl (fun _ => rfl) ⟨rfl, named⟩ rfl
      (acceptState_counts plane update value)

theorem upsertRelation_accounts (plane : InMemoryStatePlane) (update : RelationUpdate) :
    Accounts config ((Call.upsertRelation update).step config plane) := by
  have ran := run_answered (upsertRelation config update) plane
  rw [upsertRelation_run] at ran
  rcases judged : judgeRelation plane update with exception | (result | relation)
  all_goals rw [judged] at ran
  · rw [step_of_error (.upsertRelation update) ran]
    exact accounts_of_same rfl rfl
  · rw [step_of_ok (.upsertRelation update) ran]
    exact accounts_of_same (judgeRelation_rejects judged) rfl
  · rw [step_of_ok (.upsertRelation update) ran]
    exact accounts_of_change _ rfl (fun _ => rfl) ⟨rfl, rfl⟩ rfl
      (acceptRelation_counts plane update relation)

/-- A metric never counts as a change. -/
theorem publishMetric_accounts (plane : InMemoryStatePlane) (sample : MetricSample) :
    Accounts config ((Call.publishMetric sample).step config plane) := by
  have ran := run_answered (publishMetric config sample) plane
  rcases publishMetric_cases config sample plane with
    ⟨result, answered, unaccepted⟩ | ⟨definition, value, result, answered, accepted⟩
  all_goals rw [answered] at ran
  · rw [step_of_ok (.publishMetric sample) ran]
    exact accounts_of_same rfl rfl
  · rw [step_of_ok (.publishMetric sample) ran]
    constructor
    · intro active
      cases active
    · intro idle
      rfl
    · intro write unaccepted
      exact absurd (accepted.symm.trans unaccepted) (by decide)

theorem publishEvent_accounts (plane : InMemoryStatePlane) (event : StateEvent) :
    Accounts config ((Call.publishEvent event).step config plane) := by
  have ran := run_answered (publishEvent config event) plane
  rcases publishEvent_cases config event plane with
    ⟨result, answered, unaccepted⟩ | ⟨result, answered, accepted⟩
  all_goals rw [answered] at ran
  · rw [step_of_ok (.publishEvent event) ran]
    exact accounts_of_same unaccepted rfl
  · rw [step_of_ok (.publishEvent event) ran]
    exact accounts_of_change _ accepted (fun _ => accepted) ⟨rfl, rfl⟩ rfl ⟨rfl, rfl⟩

/-- Only an upsert that stores another entity counts. -/
theorem upsertEntity_accounts (plane : InMemoryStatePlane) (now : Int) (entity : GraphEntity) :
    Accounts config ((Call.upsertEntity now entity).step config plane) := by
  have ran := run_done (upsertEntity config now entity) plane
  have counted (different : plane.entities.lookup entity.ref ≠ some entity) :
      Accounts config ⟨.upsertEntity now entity, .ok none, plane,
        storeEntity config now entity plane⟩ := by
    have active : Step.contributes ⟨.upsertEntity now entity, .ok none, plane,
        storeEntity config now entity plane⟩ = true := by
      simp [Step.contributes, Except.toBool, different]
    exact accounts_of_change _ active (fun write => by cases write) ⟨rfl, rfl⟩ rfl ⟨rfl, rfl⟩
  rw [upsertEntity_run] at ran
  cases stored : plane.entities.lookup entity.ref with
  | none =>
      rw [stored] at ran
      rw [step_of_ok (.upsertEntity now entity) ran]
      exact counted (by rw [stored]; exact fun same => by cases same)
  | some previous =>
      simp only [stored] at ran
      by_cases moved : previous.graph ≠ entity.graph
      · rw [if_pos moved] at ran
        rw [step_of_error (.upsertEntity now entity) ran]
        exact accounts_of_same rfl rfl
      · by_cases same : previous = entity
        · rw [if_neg moved, if_pos same] at ran
          rw [step_of_ok (.upsertEntity now entity) ran]
          exact accounts_of_same (by simp [Step.contributes, stored, same]) rfl
        · rw [if_neg moved, if_neg same] at ran
          rw [step_of_ok (.upsertEntity now entity) ran]
          exact counted (by simpa [stored] using same)

/-- A call that never counts keeps the tables. -/
theorem accounts_of_core {step : Step} (idle : step.contributes = false)
    (read : step.call.isWrite = false) (same : step.after.core = step.before.core) :
    Accounts config step :=
  ⟨fun active => absurd (idle.symm.trans active) (by decide), fun _ => same,
    fun write => absurd (read.symm.trans write) (by decide)⟩

theorem step_accounts (plane : InMemoryStatePlane) (call : Call) :
    Accounts config (call.step config plane) := by
  cases call with
  | publishState update => exact publishState_accounts plane update
  | upsertRelation update => exact upsertRelation_accounts plane update
  | publishMetric sample => exact publishMetric_accounts plane sample
  | publishEvent event => exact publishEvent_accounts plane event
  | upsertEntity now entity => exact upsertEntity_accounts plane now entity
  | registerComponent descriptor =>
      have kept : (finalState (registerComponent descriptor plane)).core = plane.core := by
        rw [registerComponent_run]
        repeat' split
        all_goals rfl
      apply accounts_of_core
      · rw [Step.contributes, step_call]
      · rw [step_call]; rfl
      · rw [step_after, step_before, ← kept]
        exact congrArg _ (finalState_done _ _ plane)
  | heartbeat beat =>
      have kept : (finalState (heartbeat beat plane)).core = plane.core := by
        rw [heartbeat_run]
        split
        all_goals rfl
      apply accounts_of_core
      · rw [Step.contributes, step_call]
      · rw [step_call]; rfl
      · rw [step_after, step_before, ← kept]
        exact congrArg _ (finalState_done _ _ plane)
  | getSnapshot now unique request =>
      have kept : (finalState (getSnapshot config now unique request plane)).core = plane.core := by
        rw [getSnapshot_run]
        split
        all_goals rfl
      apply accounts_of_core
      · rw [Step.contributes, step_call]
      · rw [step_call]; rfl
      · rw [step_after, step_before, ← kept]
        exact congrArg _ (finalState_done _ _ plane)

/-- A bounded log forgets nothing that a longer one would keep. -/
theorem latest_append {A : Type} (limit : Nat) (items more : List A) :
    latest limit (latest limit items ++ more) = latest limit (items ++ more) := by
  have short : (latest limit items).length ≤ items.length := by simp [latest]
  unfold latest
  rw [List.drop_append, List.drop_append, List.drop_drop]
  simp only [List.length_append, List.length_drop]
  congr 2
  · omega
  · omega

/-- The recorded changes of a chain belong to its contributing steps in order. -/
structure Recorded (config : PlaneConfig) (first last : InMemoryStatePlane) (steps : List Step)
    (recorded : List StateChange) : Prop where
  cursors : recorded.map StateChange.cursor = List.range' (first.revision + 1) recorded.length
  revision : last.revision = first.revision + recorded.length
  owners : List.Forall₂ (fun step change => step.call.names change ∧
    change.cursor = step.after.revision) (steps.filter Step.contributes) recorded
  kept : last.changes = latest config.maxChanges (first.changes ++ recorded)

/-- A chain starts from changes that fit into the log. -/
theorem chained_recorded {first last : InMemoryStatePlane} {steps : List Step}
    (chained : Chained config first steps last)
    (fits : latest config.maxChanges first.changes = first.changes) :
    ∃ recorded, Recorded config first last steps recorded := by
  induction chained with
  | nil plane => exact ⟨[], ⟨rfl, rfl, .nil, by rw [List.append_nil, fits]⟩⟩
  | @cons plane last rest call chain ih =>
      have account : Accounts config (call.step config plane) := step_accounts plane call
      cases active : (call.step config plane).contributes with
      | false =>
          have same := account.none active
          have changes : (call.step config plane).after.changes = plane.changes := by
            simpa [InMemoryStatePlane.core] using congrArg Core.changes same
          have revision : (call.step config plane).after.revision = plane.revision := by
            simpa [InMemoryStatePlane.core] using congrArg Core.revision same
          obtain ⟨recorded, cursors, counted, owners, kept⟩ := ih (by rw [changes]; exact fits)
          rw [revision] at cursors counted
          rw [changes] at kept
          exact ⟨recorded, cursors, counted, by rwa [List.filter_cons_of_neg (by simp [active])],
            kept⟩
      | true =>
          obtain ⟨change, named, cursor, revision, changes⟩ := account.one active
          rw [step_call] at named
          rw [step_before] at revision changes
          obtain ⟨recorded, cursors, counted, owners, kept⟩ := ih (by
            rw [changes]
            simpa using latest_append config.maxChanges (plane.changes ++ [change]) [])
          rw [revision] at cursors counted
          refine ⟨change :: recorded, ⟨?_, ?_, ?_, ?_⟩⟩
          · rw [List.map_cons, List.length_cons, List.range'_succ, cursors, cursor, revision]
          · rw [counted, List.length_cons]
            omega
          · rw [List.filter_cons_of_pos active]
            exact .cons ⟨by rw [step_call]; exact named, cursor⟩ owners
          · rw [kept, changes, latest_append, List.append_assoc, List.singleton_append]

/-- The changes of a run are numbered from one up to its revision. Each contributing step owns
one of them and the other steps leave the tables alone. -/
theorem changes_counted (config : PlaneConfig) (operations : List Operation) :
    (∃ recorded : List StateChange,
      recorded.map StateChange.cursor =
        List.range' 1 (runPlane config operations {}).revision ∧
      List.Forall₂ (fun step change => step.call.names change ∧
          change.cursor = step.after.revision ∧
          step.after.revision = step.before.revision + 1)
        ((runSteps config operations {}).filter Step.contributes) recorded ∧
      (runPlane config operations {}).changes = latest config.maxChanges recorded) ∧
    ∀ step ∈ runSteps config operations {},
      (step.contributes = false → step.after.core = step.before.core) ∧
      (step.call.isWrite = true → step.accepted = false → step.after = step.before) := by
  have chained := @runSteps_chained config operations {}
  have accounts (step : Step) (member : step ∈ runSteps config operations {}) :
      Accounts config step := by
    obtain ⟨middle, _, call, _, same⟩ := chained.reached member
    rw [same]
    exact step_accounts middle call
  constructor
  · obtain ⟨recorded, cursors, counted, owners, kept⟩ := chained_recorded chained List.drop_nil
    have length : (runPlane config operations {}).revision = recorded.length := by
      rw [counted]
      exact Nat.zero_add _
    refine ⟨recorded, by rw [length]; exact cursors, ?_, kept⟩
    rw [List.forall₂_iff_get] at owners ⊢
    refine ⟨owners.1, fun index inside outside => ?_⟩
    obtain ⟨named, cursor⟩ := owners.2 index inside outside
    have listed := List.mem_filter.mp (List.get_mem _ ⟨index, inside⟩)
    obtain ⟨_, _, _, revision, _⟩ := (accounts _ listed.1).one listed.2
    exact ⟨named, cursor, revision⟩
  · exact fun step member => ⟨(accounts step member).none, (accounts step member).rejected⟩

end Accounts

end StateFlow.Plane
