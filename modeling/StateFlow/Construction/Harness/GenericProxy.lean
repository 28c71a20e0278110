import StateFlow.Library.Redaction
import StateFlow.Construction.State.Store

namespace StateFlow.Harness
open Python Table State

/-- A native event is a mapping of the harness. -/
abbrev Native := List (String × Value)

/-- The identity that a native event reports. -/
structure SessionIdentity where
  sessionId : String
  taskId : String
  tenantId : String
  harnessType : String
  harnessVersion : String
  agentType : String
  agentVersion : String
  deriving DecidableEq

structure GenericProxyHarnessAdapter where
  source : String := "generic-proxy-adapter"
  harnessType : String := "generic-proxy"
  harnessVersion : String := "0"

/-- The fields that carry the body of a prompt, of a tool result, or of a cache. -/
def bodyFields : List String := ["prompt", "messages", "tool_result", "result", "kv_tensor"]

/-- The identity fields that a fallback payload leaves out. -/
def identityFields : List String :=
  ["session_id", "task_id", "tenant_id", "harness_type", "harness_version"]

/-- `snapshot` keeps metadata only. -/
def snapshot (native : Native) : Native := without bodyFields native

/-- `timedelta(seconds=ttl)` accepts a number or nothing. -/
def lifetime (ttl : Value) : Except Exception (Option Int) :=
  match ttl with
  | .none => .ok none
  | ttl =>
      match ttl.number? with
      | some seconds => do
          match ← timedeltaOfSeconds seconds with
          | .timedelta micros => return some micros
          | _ => throw .typeError
      | none => .error .typeError

section Event
variable (adapter : GenericProxyHarnessAdapter) (text : Text) (now : Int)

def identifySession (native : Native) : SessionIdentity where
  sessionId := text.str (getD native "session_id" (.str ""))
  taskId := text.str (getD native "task_id" (.str "default-task"))
  tenantId := text.str (getD native "tenant_id" (.str "default"))
  harnessType := text.str (getD native "harness_type" (.str adapter.harnessType))
  harnessVersion := text.str (getD native "harness_version" (.str adapter.harnessVersion))
  agentType := text.str (getD native "agent_type" (.str "unknown"))
  agentVersion := text.str (getD native "agent_version" (.str "0"))

/-- The payload of a hook. An empty one falls back to the snapshot of the native event. -/
def eventPayload (native payload : Native) : Native :=
  if payload.isEmpty then without identityFields (snapshot native) else payload

/-- An optional native text. -/
def nativeText (native : Native) (name : String) : String :=
  text.str ((getD native name (.str "")).orElse (.str ""))

/-- An optional native integer. -/
def nativeInt (native : Native) (name : String) : Except Exception Int :=
  text.int ((getD native name (.int 0)).orElse (.int 0))

/-- `_event` translates a native event. The conversions raise on other types. -/
def event (eventType : String) (native payload : Native) : Except Exception AgentStateEvent := do
  let identity := identifySession adapter text native
  let turnId ← nativeInt text native "turn_id"
  let sequence ← nativeInt text native "sequence"
  let epoch ← nativeInt text native "epoch"
  let confidence ← text.float ((getD native "confidence" (.float 1)).orElse (.float 0))
  let ttl ← lifetime (getD native "ttl_seconds" .none)
  return {
    eventType := eventType
    sessionId := identity.sessionId
    taskId := identity.taskId
    turnId := turnId
    stepId := nativeText text native "step_id"
    requestId := nativeText text native "request_id"
    attemptId := nativeText text native "attempt_id"
    traceId := nativeText text native "trace_id"
    source := adapter.source
    observedAt := now
    epoch := epoch
    sequence := .int sequence
    payload := eventPayload native payload
    confidence := confidence
    ttl := ttl
    authoritative := (getD native "authoritative" (.bool false)).truthy }

def requestFields : List String :=
  ["model", "logical_model", "prompt_tokens", "predicted_output_tokens", "required_capabilities",
    "context", "security", "inference"]

def responseFields : List String :=
  ["success", "output_tokens", "progress", "next_action", "task_complete", "progress_signals",
    "prediction"]

def onTaskStart (native : Native) : Except Exception AgentStateEvent :=
  event adapter text now "TASK_STARTED" native []

def onTurnStart (native : Native) : Except Exception AgentStateEvent :=
  event adapter text now "TURN_STARTED" native []

def onModelRequest (native : Native) : Except Exception AgentStateEvent :=
  event adapter text now "MODEL_REQUESTED" native (only requestFields native)

def onModelResponse (native : Native) : Except Exception AgentStateEvent :=
  event adapter text now "MODEL_RESPONSE_RECEIVED" native (only responseFields native)

def onToolStart (native : Native) : Except Exception AgentStateEvent :=
  event adapter text now "TOOL_STARTED" native native

def onToolProgress (native : Native) : Except Exception AgentStateEvent :=
  event adapter text now "TOOL_PROGRESS" native native

def onToolResult (native : Native) : Except Exception AgentStateEvent :=
  event adapter text now "TOOL_RESULT_READY" native native

def onContextCompaction (native : Native) : Except Exception AgentStateEvent :=
  event adapter text now "CONTEXT_COMPACTED" native native

def onSubagentStart (native : Native) : Except Exception AgentStateEvent :=
  event adapter text now "SUBAGENT_STARTED" native native

def onTaskComplete (native : Native) : Except Exception AgentStateEvent :=
  event adapter text now "TASK_COMPLETED" native native

end Event

/-- The hooks of the adapter. -/
inductive Hook where
  | taskStart | turnStart | modelRequest | modelResponse | toolStart | toolProgress | toolResult
  | contextCompaction | subagentStart | taskComplete
  deriving DecidableEq, Repr

def Hook.run (adapter : GenericProxyHarnessAdapter) (text : Text) (now : Int) :
    Hook → Native → Except Exception AgentStateEvent
  | .taskStart => onTaskStart adapter text now
  | .turnStart => onTurnStart adapter text now
  | .modelRequest => onModelRequest adapter text now
  | .modelResponse => onModelResponse adapter text now
  | .toolStart => onToolStart adapter text now
  | .toolProgress => onToolProgress adapter text now
  | .toolResult => onToolResult adapter text now
  | .contextCompaction => onContextCompaction adapter text now
  | .subagentStart => onSubagentStart adapter text now
  | .taskComplete => onTaskComplete adapter text now

end StateFlow.Harness
