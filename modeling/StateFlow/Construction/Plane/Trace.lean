import StateFlow.Construction.Plane.Run

namespace StateFlow.Plane
open Python Table Effect

/-- One write of a batch or one call without a batch. -/
inductive Call where
  | registerComponent (descriptor : ComponentDescriptor)
  | upsertEntity (now : Int) (entity : GraphEntity)
  | heartbeat (beat : Heartbeat)
  | publishState (update : StateUpdate)
  | upsertRelation (update : RelationUpdate)
  | publishMetric (sample : MetricSample)
  | publishEvent (event : StateEvent)
  | getSnapshot (now : Int) (unique : String) (request : SnapshotRequest)

/-- The writes of a batch in their order. -/
def Operation.calls : Operation → List Call
  | .registerComponent descriptor => [.registerComponent descriptor]
  | .upsertEntity now entity => [.upsertEntity now entity]
  | .heartbeat beat => [.heartbeat beat]
  | .publishState updates => updates.map .publishState
  | .upsertRelations updates => updates.map .upsertRelation
  | .publishMetrics samples => samples.map .publishMetric
  | .publishEvents events => events.map .publishEvent
  | .getSnapshot now unique request => [.getSnapshot now unique request]

section Steps
variable (config : PlaneConfig)

/-- Only a write of a batch answers with a result. -/
def Call.run : Call → PlaneAction (Option WriteResult)
  | .registerComponent descriptor => do Plane.registerComponent descriptor; return none
  | .upsertEntity now entity => do Plane.upsertEntity config now entity; return none
  | .heartbeat beat => do Plane.heartbeat beat; return none
  | .publishState update => do return some (← publishOne config update)
  | .upsertRelation update => do return some (← Plane.upsertRelation config update)
  | .publishMetric sample => do return some (← Plane.publishMetric config sample)
  | .publishEvent event => do return some (← Plane.publishEvent config event)
  | .getSnapshot now unique request => do
      let _ ← Plane.getSnapshot config now unique request
      return none

/-- A step keeps the answer of a call and the planes around it. -/
structure Step where
  call : Call
  answer : Except Exception (Option WriteResult)
  before : InMemoryStatePlane
  after : InMemoryStatePlane

def Call.step (plane : InMemoryStatePlane) (call : Call) : Step :=
  match call.run config plane with
  | .ok answer next => ⟨call, .ok answer, plane, next⟩
  | .error exception next => ⟨call, .error exception, plane, next⟩

/-- An exception ends the batch of its call. -/
def batchSteps : List Call → InMemoryStatePlane → List Step
  | [], _ => []
  | call :: rest, plane =>
      let step := call.step config plane
      step :: match step.answer with
        | .ok _ => batchSteps rest step.after
        | .error _ => []

/-- The steps of a run. -/
def runSteps : List Operation → InMemoryStatePlane → List Step
  | [], _ => []
  | operation :: rest, plane =>
      batchSteps config operation.calls plane ++ runSteps rest (operation.apply config plane)

/-- The plane that a run reaches. -/
def runPlane (operations : List Operation) (plane : InMemoryStatePlane) : InMemoryStatePlane :=
  operations.foldl (Operation.apply config) plane

end Steps

/-- The idempotency key of a state or a relation write. -/
def Call.idempotencyKey : Call → String
  | .publishState update => update.idempotencyKey
  | .upsertRelation update => update.idempotencyKey
  | _ => ""

/-- A step is accepted when its answer says so. -/
def Step.accepted (step : Step) : Bool :=
  match step.answer with
  | .ok (some result) => result.accepted
  | _ => false

/-- A step repeats a remembered key when its answer says so. -/
def Step.duplicate (step : Step) : Bool :=
  match step.answer with
  | .ok (some result) => result.duplicate && !result.accepted
  | _ => false

end StateFlow.Plane
