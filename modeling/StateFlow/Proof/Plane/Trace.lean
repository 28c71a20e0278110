import StateFlow.Construction.Plane.Trace
import StateFlow.Proof.Plane.Writes

namespace StateFlow.Plane
open Python Table Effect

section Steps
variable {config : PlaneConfig}

@[simp] theorem step_call (plane : InMemoryStatePlane) (call : Call) :
    (call.step config plane).call = call := by
  unfold Call.step
  split <;> rfl

@[simp] theorem step_before (plane : InMemoryStatePlane) (call : Call) :
    (call.step config plane).before = plane := by
  unfold Call.step
  split <;> rfl

theorem step_after (plane : InMemoryStatePlane) (call : Call) :
    (call.step config plane).after = finalState (call.run config plane) := by
  unfold Call.step
  split <;> rename_i ran <;> rw [ran] <;> rfl

theorem step_of_ok (call : Call) {plane next : InMemoryStatePlane} {answer : Option WriteResult}
    (ran : call.run config plane = .ok answer next) :
    call.step config plane = ⟨call, .ok answer, plane, next⟩ := by
  unfold Call.step
  rw [ran]

theorem step_of_error (call : Call) {plane next : InMemoryStatePlane} {exception : Exception}
    (ran : call.run config plane = .error exception next) :
    call.step config plane = ⟨call, .error exception, plane, next⟩ := by
  unfold Call.step
  rw [ran]

/-- A call answers nothing or with the result of its write. -/
theorem run_done {A : Type} (program : PlaneAction A) (plane : InMemoryStatePlane) :
    (do let _ ← program; return (none : Option WriteResult)) plane = match program plane with
      | .ok _ next => .ok none next
      | .error exception next => .error exception next := by
  change EStateM.bind program _ plane = _
  unfold EStateM.bind
  cases program plane <;> rfl

theorem run_answered (program : PlaneAction WriteResult) (plane : InMemoryStatePlane) :
    (do return some (← program)) plane = match program plane with
      | .ok result next => .ok (some result) next
      | .error exception next => .error exception next := by
  change EStateM.bind program _ plane = _
  unfold EStateM.bind
  cases program plane <;> rfl

/-- The steps of a run follow each other from one plane to another. -/
inductive Chained (config : PlaneConfig) :
    InMemoryStatePlane → List Step → InMemoryStatePlane → Prop
  | nil (plane : InMemoryStatePlane) : Chained config plane [] plane
  | cons {plane last : InMemoryStatePlane} {rest : List Step} (call : Call) :
      Chained config (call.step config plane).after rest last →
      Chained config plane (call.step config plane :: rest) last

theorem Chained.append {first middle last : InMemoryStatePlane} {early late : List Step}
    (before : Chained config first early middle) (after : Chained config middle late last) :
    Chained config first (early ++ late) last := by
  induction before with
  | nil plane => exact after
  | cons call rest ih => exact .cons call (ih after)

/-- A chain splits at each of its steps. -/
theorem Chained.split {first last : InMemoryStatePlane} {early late : List Step} {step : Step}
    (chained : Chained config first (early ++ step :: late) last) :
    ∃ (middle : InMemoryStatePlane) (call : Call), Chained config first early middle ∧
      step = call.step config middle ∧
      Chained config step.after late last := by
  induction early generalizing first with
  | nil =>
      cases chained with
      | cons call rest => exact ⟨first, call, .nil first, rfl, rest⟩
  | cons head tail ih =>
      cases chained with
      | cons call rest =>
          obtain ⟨middle, later, before, same, after⟩ := ih rest
          exact ⟨middle, later, .cons call before, same, after⟩

/-- Each step of a chain runs on a plane that the chain reaches. -/
theorem Chained.reached {first last : InMemoryStatePlane} {steps : List Step}
    (chained : Chained config first steps last) {step : Step} (member : step ∈ steps) :
    ∃ (middle : InMemoryStatePlane) (early : List Step) (call : Call),
      Chained config first early middle ∧ step = call.step config middle := by
  obtain ⟨early, late, joined⟩ := List.append_of_mem member
  rw [joined] at chained
  obtain ⟨middle, call, before, same, _⟩ := chained.split
  exact ⟨middle, early, call, before, same⟩

/-- A chain keeps what each of its steps keeps. -/
theorem Chained.keeps {invariant : InMemoryStatePlane → Prop}
    (preserved : ∀ plane call, invariant plane → invariant (Call.step config plane call).after)
    {first last : InMemoryStatePlane} {steps : List Step}
    (chained : Chained config first steps last) (start : invariant first) : invariant last := by
  induction chained with
  | nil plane => exact start
  | cons call rest ih => exact ih (preserved _ call start)

theorem finalState_then {A B : Type} (program : PlaneAction A) (convert : A → B)
    (plane : InMemoryStatePlane) :
    finalState ((do return convert (← program)) plane) = finalState (program plane) := by
  change finalState (EStateM.bind program _ plane) = _
  unfold EStateM.bind
  cases program plane <;> rfl

theorem finalState_done {A B : Type} (program : PlaneAction A) (answer : B)
    (plane : InMemoryStatePlane) :
    finalState ((do let _ ← program; return answer) plane) = finalState (program plane) :=
  finalState_then program (fun _ => answer) plane

/-- A batch of writes runs them one after the other. -/
theorem batch_chained {U : Type} {single : U → PlaneAction WriteResult} {wrap : U → Call}
    (runs : ∀ item, (wrap item).run config = do return some (← single item))
    (items : List U) (plane : InMemoryStatePlane) :
    Chained config plane (batchSteps config (items.map wrap) plane)
      (finalState (items.mapM single plane)) := by
  induction items generalizing plane with
  | nil => exact .nil plane
  | cons item rest ih =>
      rw [finalState_mapM_cons, List.map_cons, batchSteps]
      cases ran : single item plane with
      | ok result next =>
          have step : (wrap item).step config plane = ⟨wrap item, .ok (some result), plane, next⟩ := by
            apply step_of_ok
            rw [runs]
            change EStateM.bind (single item) _ plane = _
            simp only [EStateM.bind, ran]
            rfl
          apply Chained.cons
          rw [step]
          exact ih next
      | error exception next =>
          have step : (wrap item).step config plane = ⟨wrap item, .error exception, plane, next⟩ := by
            apply step_of_error
            rw [runs]
            change EStateM.bind (single item) _ plane = _
            simp only [EStateM.bind, ran]
          apply Chained.cons
          rw [step]
          exact .nil next

/-- A call without a batch is one step. -/
theorem single_chained (call : Call) (plane : InMemoryStatePlane) :
    Chained config plane (batchSteps config [call] plane) (finalState (call.run config plane)) := by
  rw [batchSteps, ← step_after]
  apply Chained.cons
  cases (call.step config plane).answer with
  | ok answer => exact .nil _
  | error exception => exact .nil _

theorem operation_chained (operation : Operation) (plane : InMemoryStatePlane) :
    Chained config plane (batchSteps config operation.calls plane)
      (operation.apply config plane) := by
  cases operation with
  | registerComponent descriptor =>
      have same : finalState ((Call.registerComponent descriptor).run config plane) =
          finalState (registerComponent descriptor plane) := finalState_done _ _ plane
      change Chained config plane _ (finalState (registerComponent descriptor plane))
      rw [← same]
      exact single_chained (.registerComponent descriptor) plane
  | upsertEntity now entity =>
      have same : finalState ((Call.upsertEntity now entity).run config plane) =
          finalState (upsertEntity config now entity plane) := finalState_done _ _ plane
      change Chained config plane _ (finalState (upsertEntity config now entity plane))
      rw [← same]
      exact single_chained (.upsertEntity now entity) plane
  | heartbeat beat =>
      have same : finalState ((Call.heartbeat beat).run config plane) =
          finalState (heartbeat beat plane) := finalState_done _ _ plane
      change Chained config plane _ (finalState (heartbeat beat plane))
      rw [← same]
      exact single_chained (.heartbeat beat) plane
  | publishState updates => exact batch_chained (fun _ => rfl) updates plane
  | upsertRelations updates => exact batch_chained (fun _ => rfl) updates plane
  | publishMetrics samples => exact batch_chained (fun _ => rfl) samples plane
  | publishEvents events => exact batch_chained (fun _ => rfl) events plane
  | getSnapshot now unique request =>
      have same : finalState ((Call.getSnapshot now unique request).run config plane) =
          finalState (getSnapshot config now unique request plane) := finalState_done _ _ plane
      change Chained config plane _ (finalState (getSnapshot config now unique request plane))
      rw [← same]
      exact single_chained (.getSnapshot now unique request) plane

/-- The steps of a run lead to the plane that the run reaches. -/
theorem runSteps_chained (operations : List Operation) (plane : InMemoryStatePlane) :
    Chained config plane (runSteps config operations plane) (runPlane config operations plane) := by
  induction operations generalizing plane with
  | nil => exact .nil plane
  | cons operation rest ih =>
      exact (operation_chained operation plane).append (ih (operation.apply config plane))

end Steps

end StateFlow.Plane
