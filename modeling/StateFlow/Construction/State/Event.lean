import StateFlow.Construction.Plane.Wire
import StateFlow.Construction.State.Calls

namespace StateFlow.State
open Python Table Effect Calendar

/-- `to_dict` of an event. The clock of the observation shows its instant. -/
def AgentStateEvent.toDict (event : AgentStateEvent) (other : Value → Value) (clock : DateTime) :
    List (String × Value) :=
  [("event_type", .str event.eventType), ("session_id", .str event.sessionId),
    ("task_id", .str event.taskId), ("turn_id", .int event.turnId), ("step_id", .str event.stepId),
    ("request_id", .str event.requestId), ("attempt_id", .str event.attemptId),
    ("parent_step_id", .str event.parentStepId), ("trace_id", .str event.traceId),
    ("source", .str event.source), ("observed_at", Plane.timestampText clock),
    ("epoch", .int event.epoch), ("sequence", Plane.toJsonable other event.sequence),
    ("payload", .dict (Plane.toJsonableEntries other event.payload)),
    ("confidence", .float event.confidence), ("ttl", Plane.secondsValue event.ttl),
    ("authoritative", .bool event.authoritative)]

/-- A field may come under another name. -/
def renamed (name other : String) (default : Value) (raw : List (String × Value)) :
    List (String × Value) :=
  if (raw.lookup name).isSome then raw else assign name (getD raw other default) raw

/-- Only a present value is replaced. -/
def replaceIf (name : String) (convert : Value → Except Exception Value)
    (raw : List (String × Value)) : Except Exception (List (String × Value)) :=
  match raw.lookup name with
  | some value => do return assign name (← convert value) raw
  | none => .ok raw

/-- An ISO text becomes an instant. A text without a zone is in universal time. -/
def observedOf (value : Value) : Except Exception Value :=
  match value with
  | .str instant =>
      match fromisoformat (Plane.replaceZulu instant.toList) with
      | some clock => .ok (.datetime clock.instant)
      | none => .error .valueError
  | value => .ok value

/-- A number of seconds becomes a duration. -/
def lifetimeOf (value : Value) : Except Exception Value :=
  match value.number? with
  | some seconds => timedeltaOfSeconds seconds
  | none => .ok value

/-- The fields of an event and their defaults. Only a session has none. -/
def eventFields (now : Int) : List (String × Option Value) :=
  [("event_type", none), ("session_id", none), ("task_id", some (.str "default-task")),
    ("turn_id", some (.int 0)), ("step_id", some (.str "")), ("request_id", some (.str "")),
    ("attempt_id", some (.str "")), ("parent_step_id", some (.str "")), ("trace_id", some (.str "")),
    ("source", some (.str "unknown")), ("observed_at", some (.datetime now)),
    ("epoch", some (.int 0)), ("sequence", some (.int 0)), ("payload", some (.dict [])),
    ("confidence", some (.float 1)), ("ttl", some .none), ("authoritative", some (.bool false))]

/-- A constructor call takes the fields that a mapping has. -/
def fieldsOf (now : Int) (raw : List (String × Value)) : Except Exception (List (String × Value)) :=
  (eventFields now).mapM fun field =>
    match raw.lookup field.1, field.2 with
    | some value, _ => .ok (field.1, value)
    | none, some value => .ok (field.1, value)
    | none, none => .error .typeError

/-- `from_mapping` builds the fields of an event. They keep the types of the mapping. -/
def fromMapping (now : Int) (value : List (String × Value)) :
    Except Exception (List (String × Value)) := do
  let raw := renamed "event_type" "event" (.str "STATE_PATCH") value
  let raw := renamed "sequence" "sequence_number" (.int 0) raw
  let payload ← ((getD raw "payload" .none).orElse (.dict [])).toDict
  let raw := assign "payload" (.dict payload) raw
  let raw := if (raw.lookup "timestamp").isSome then renamed "observed_at" "timestamp" .none raw else raw
  let raw ← replaceIf "observed_at" observedOf raw
  let raw ← replaceIf "ttl" lifetimeOf raw
  fieldsOf now raw

section Typed
variable (fields : List (String × Value))

def textField (name : String) : Option String :=
  match fields.lookup name with
  | some (.str value) => some value
  | _ => none

def intField (name : String) : Option Int :=
  match fields.lookup name with
  | some (.int value) => some value
  | _ => none

/-- The fields with their declared types. The sequence number may be any value. -/
def eventOf : Option AgentStateEvent := do
  let eventType ← textField fields "event_type"
  let sessionId ← textField fields "session_id"
  let taskId ← textField fields "task_id"
  let turnId ← intField fields "turn_id"
  let stepId ← textField fields "step_id"
  let requestId ← textField fields "request_id"
  let attemptId ← textField fields "attempt_id"
  let parentStepId ← textField fields "parent_step_id"
  let traceId ← textField fields "trace_id"
  let source ← textField fields "source"
  let observedAt ← match fields.lookup "observed_at" with
    | some (.datetime instant) => some instant
    | _ => none
  let epoch ← intField fields "epoch"
  let sequence ← fields.lookup "sequence"
  let payload ← match fields.lookup "payload" with
    | some (.dict entries) => some entries
    | _ => none
  let confidence ← match fields.lookup "confidence" with
    | some (.float value) => some value
    | some (.int value) => some (value : ℚ)
    | _ => none
  let ttl ← match fields.lookup "ttl" with
    | some .none => some none
    | some (.timedelta micros) => some (some micros)
    | _ => none
  let authoritative ← match fields.lookup "authoritative" with
    | some (.bool value) => some value
    | _ => none
  return {
    eventType, sessionId, taskId, turnId, stepId, requestId, attemptId, parentStepId, traceId, source
    observedAt, epoch, sequence, payload, confidence, ttl, authoritative }

end Typed

end StateFlow.State
