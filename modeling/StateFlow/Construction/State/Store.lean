import StateFlow.Library.Effect
import StateFlow.Construction.State.Schema

namespace StateFlow.State
open Python Table Effect

/-- These are the identity attributes that any event may carry. -/
def identityAttributes : List String :=
  ["tenant_id", "namespace", "harness_type", "harness_version", "agent_type", "agent_version",
    "workflow_type", "workload_class", "sandbox", "workspace_id", "required_capabilities"]

/-- The process fixes the text conversions and the iteration order of the identity attributes. -/
structure Environment extends Text where
  identityKeys : List String
  identityKeysPerm : identityKeys.Perm identityAttributes

/-- An event carries metadata and an incremental patch. The store may assign its sequence. -/
structure AgentStateEvent where
  eventType : String
  sessionId : String
  taskId : String := "default-task"
  turnId : Int := 0
  stepId : String := ""
  requestId : String := ""
  attemptId : String := ""
  parentStepId : String := ""
  traceId : String := ""
  source : String := "unknown"
  observedAt : Int
  epoch : Int := 0
  sequence : Value := .int 0
  payload : List (String × Value) := []
  confidence : ℚ := 1
  ttl : Option Int := none
  authoritative : Bool := false

/-- The result reports whether the store applied an event. -/
structure AppendResult where
  accepted : Bool
  duplicate : Bool := false
  stale : Bool := false
  stateId : Value := .str ""
  stateVersion : Value := .int 0
  reason : String := ""

/-- An update may raise after it changed a part of the state. -/
abbrev Update (A : Type) := EStateM Exception AgentState A

def read (part : Section) (name : String) : Update Value := do return (← get).get part name

def write (part : Section) (name : String) (value : Value) : Update Unit :=
  modify fun state => state.set part name value

/-- A provenance mark names a section, an attribute, a tool attribute, or the extensions. -/
inductive MarkName where
  | part (part : Section)
  | attr (part : Section) (name : String)
  | tool (name : String)
  | extensions

/-- The dotted name of a mark. -/
def MarkName.text : MarkName → String
  | .part owner => owner.label
  | .attr owner name => owner.label ++ "." ++ name
  | .tool name => "tools.active_tools." ++ name
  | .extensions => "extensions"

/-- The value that a dotted name reaches. A list has no named attributes. -/
def MarkName.value (state : AgentState) : MarkName → Value
  | .part owner => state.record owner
  | .attr owner name => state.get owner name
  | .tool _ => .none
  | .extensions => .dict state.extensions

/-- `_enum_value` accepts a member or the text of a member. -/
def enumValue (text : Text) (kind : String) (value default : Value) : Value :=
  let named := text.upper (text.str value)
  match value with
  | .enum found _ =>
      if found = kind then value
      else if named ∈ enumMembers kind then .enum kind named else default
  | _ => if named ∈ enumMembers kind then .enum kind named else default

/-- `_dataclass_from_mapping` requires each attribute without a default. -/
def recordFromMapping (text : Text) (kind : String) (items : List (String × Value)) :
    Except Exception Value := do
  let attrs ← (recordSchema kind).mapM fun field =>
    match items.lookup field.1, field.2 with
    | some raw, _ =>
        if kind = "ToolExecution" ∧ field.1 = "status" then
          .ok (field.1, enumValue text "ToolStatus" raw (toolStatus "PREPARING"))
        else if kind = "KVSegment" ∧ field.1 = "tier" then
          .ok (field.1, enumValue text "KVCacheTier" raw (.enum "KVCacheTier" "GPU_HBM"))
        else .ok (field.1, raw)
    | none, some value => .ok (field.1, value)
    | none, none => .error .typeError
  return .object kind attrs

/-- The record class that an empty list field declares. -/
def defaultRecordKind (fieldName : String) : Option String :=
  if fieldName = "tools.active_tools" then some "ToolExecution"
  else if fieldName = "inference.endpoints" then some "InferenceEndpointState"
  else if fieldName = "kv_cache.segments" then some "KVSegment"
  else if fieldName = "context.segments" then some "ContextSegment"
  else if fieldName = "execution.nodes" then some "ExecutionNode"
  else none

/-- The first item of a list decides its record class. -/
def itemKind (items : List Value) (fieldName : String) : Option String :=
  match items with
  | [] => defaultRecordKind fieldName
  | .object kind _ :: _ => if kind ∈ recordKinds then some kind else none
  | _ :: _ => none

/-- An ISO text may end its zone with a letter. -/
def replaceZulu (text : String) : String :=
  String.ofList (text.toList.flatMap fun letter =>
    if letter = 'Z' then "+00:00".toList else [letter])

def parseInstant (text : Text) (value : String) : Except Exception Value :=
  match text.parseDateTime (replaceZulu value) with
  | some instant => .ok (.datetime instant)
  | none => .error .valueError

/-- `_convert_for_field` follows the type of the stored value. -/
def convertForField (text : Text) (old value : Value) (fieldName : String) :
    Except Exception Value :=
  match old with
  | .enum kind _ => .ok (enumValue text kind value old)
  | .set _ => (value.orElse (.list [])).toSet
  | .tuple _ => do return .tuple (← (value.orElse (.list [])).iter)
  | .datetime _ =>
      match value.text? with
      | some instant => parseInstant text instant
      | none => .ok value
  | .timedelta _ =>
      match value.number? with
      | some seconds => timedeltaOfSeconds seconds
      | none => .ok value
  | .list items =>
      if !value.truthy then .ok (.list [])
      else
        match itemKind items fieldName with
        | some kind => do
            let converted ← (← value.iter).mapM fun item =>
              match item with
              | .dict attrs => recordFromMapping text kind attrs
              | _ => .ok item
            return .list converted
        | none => .ok value
  | _ => .ok value

section Handlers
variable (env : Environment) (event : AgentStateEvent)

/-- The provenance of an event. -/
def AgentStateEvent.field (event : AgentStateEvent) (value : Value) : StateField where
  value := value
  observedAt := .datetime event.observedAt
  source := event.source
  confidence := event.confidence
  ttl := match event.ttl with
    | some micros => .timedelta micros
    | none => .none
  authoritative := event.authoritative
  version := event.sequence

def mark (name : MarkName) : Update Unit :=
  modify fun state => { state with
    fieldMeta := assign name.text (event.field (name.value state)) state.fieldMeta }

/-- One payload entry sets a declared attribute. -/
def setField (part : Section) (key : String) (value : Value) : Update Unit := do
  if key.startsWith "_" || !part.fields.contains key then return
  let old ← read part key
  let converted ← lift (convertForField env.toText old value (part.label ++ "." ++ key))
  write part key converted
  mark event (.attr part key)

/-- `_set_section` ignores a payload that is not a mapping. -/
def setSection (part : Section) (payload : Value) : Update Unit := do
  match payload with
  | .dict items =>
      items.forM fun entry => setField env event part entry.1 entry.2
      if part = .context then
        let total ← read .context "total_tokens"
        let prompt ← read .context "prompt_tokens"
        write .context "total_tokens" (← lift (total.max prompt))
  | _ => return

def setPhase (phase : AgentPhase) : Update Unit := do
  let current ← read .lifecycle "phase"
  if !current.eq phase.toValue then
    write .lifecycle "previous_phase" current
    write .lifecycle "phase_enter_time" (.datetime event.observedAt)
    write .lifecycle "phase" phase.toValue
  mark event (.attr .lifecycle "phase")

/-- This update raises after it stored the progress when an old value is not a number. -/
def setProgress (progress : ℚ) : Update Unit := do
  let previous ← read .lifecycle "progress"
  write .lifecycle "progress" (.float (clamp progress))
  match previous.number? with
  | some previous =>
      write .progressSignals "progress_velocity" (.float (clamp progress - previous))
      if previous < clamp progress then
        write .progressSignals "consecutive_no_progress_steps" (.int 0)
      else
        let steps ← read .progressSignals "consecutive_no_progress_steps"
        write .progressSignals "consecutive_no_progress_steps" (← lift (steps.add (.int 1)))
  | none => throw .typeError
  mark event (.attr .lifecycle "progress")
  mark event (.part .progressSignals)

/-- A tool matches by its identifier or by its name. -/
def toolMatches (toolId toolName : String) (tool : Value) : Except Exception Bool := do
  if toolId ≠ "" then
    if (← tool.attr "tool_id").eq (.str toolId) then return true
  if toolName ≠ "" then return (← tool.attr "tool_name").eq (.str toolName)
  return false

def findToolIndex (toolId toolName : String) : List Value → Nat → Except Exception (Option Nat)
  | [], _ => .ok none
  | tool :: rest, index => do
      if ← toolMatches toolId toolName tool then return some index
      findToolIndex toolId toolName rest (index + 1)

/-- `_find_tool` returns the position of a present tool or appends a new one. -/
def findTool (toolId toolName : String) : Update Nat := do
  let tools ← read .tools "active_tools"
  let items ← lift tools.iter
  match ← lift (findToolIndex toolId toolName items 0) with
  | some index => return index
  | none =>
      let created := if toolId ≠ "" then toolId else "tool-" ++ toString (items.length + 1)
      let named := if toolName ≠ "" then toolName else "unknown"
      let tool ← lift (recordFromMapping env.toText "ToolExecution"
        [("tool_id", .str created), ("tool_name", .str named)])
      write .tools "active_tools" (← lift (tools.append tool))
      return items.length

def readTool (index : Nat) : Update Value := do
  let items ← lift (← read .tools "active_tools").iter
  return items.getD index .none

def getToolAttr (index : Nat) (name : String) : Update Value := do
  lift ((← readTool index).attr name)

def setToolAttr (index : Nat) (name : String) (value : Value) : Update Unit := do
  let tools ← read .tools "active_tools"
  let tool ← readTool index
  write .tools "active_tools" (tools.setItem index (← lift (tool.setAttr name value)))

/-- One payload entry sets a declared attribute of a tool. -/
def setToolField (index : Nat) (key : String) (value : Value) : Update Unit := do
  let tool ← readTool index
  if key.startsWith "_" || !tool.hasAttr key then return
  let old ← lift (tool.attr key)
  let converted ← lift (convertForField env.toText old value ("tools.active_tools." ++ key))
  setToolAttr index key converted
  mark event (.tool key)

/-- The type of a number converts a reported value. -/
def convertLike (old value : Value) : Except Exception Value :=
  match old with
  | .int _ => do return .int (← env.int value)
  | .float _ => do return .float (← env.float value)
  | .bool _ => .ok (.bool value.truthy)
  | .str _ => .ok (.str (env.str value))
  | .list _ => do return .list (← value.iter)
  | .tuple _ => do return .tuple (← value.iter)
  | .set _ => value.toSet
  | .dict _ => do return .dict (← value.toDict)
  | _ => .error .typeError

/-- A reported measure never falls below zero. -/
def reportToolMeasure (index : Nat) (key : String) : Update Unit := do
  match event.payload.lookup key with
  | some value =>
      let tool ← readTool index
      if tool.hasAttr key then
        let converted ← lift (convertLike env (← lift (tool.attr key)) value)
        setToolAttr index key (← lift ((Value.int 0).max converted))
  | none => return

/-- A payload entry becomes a natural token count. -/
def tokenCount (value : Value) : Except Exception Value := do return .int (max 0 (← env.int value))

/-- A present payload entry updates a section. -/
def setPresent (part : Section) (key : String) : Update Unit := do
  match event.payload.lookup key with
  | some value => setSection env event part value
  | none => return

def applyModelRequest : Update Unit := do
  let payload := event.payload
  setPhase event .modelQueued
  write .lifecycle "runnable" (.bool true)
  if event.stepId ≠ "" then write .lifecycle "current_step" (.str event.stepId)
  let stored ← read .model "logical_model"
  let model := ((getD payload "logical_model" .none).orElse (getD payload "model" .none)).orElse stored
  if model.truthy then
    write .model "logical_model" (.str (env.str model))
    mark event (.attr .model "logical_model")
  match payload.lookup "prompt_tokens" with
  | some value =>
      let tokens ← lift (tokenCount env value)
      write .model "prompt_tokens" tokens
      write .context "prompt_tokens" tokens
      let total ← read .context "total_tokens"
      write .context "total_tokens" (← lift (total.max tokens))
  | none => pure ()
  match payload.lookup "predicted_output_tokens" with
  | some value => write .model "predicted_output_tokens" (← lift (tokenCount env value))
  | none => pure ()
  setPresent env event .context "context"
  match payload.lookup "required_capabilities" with
  | some value =>
      write .identity "required_capabilities" (← lift (value.orElse (.list [])).toSet)
  | none => pure ()
  setPresent env event .security "security"
  setPresent env event .inference "inference"
  setPresent env event .qos "qos"
  mark event (.part .model)
  mark event (.attr .context "prompt_tokens")
  mark event (.part .lifecycle)

/-- A failure counts before its severity converts. -/
def applyFailure (component : String) : Update Unit := do
  let payload := event.payload
  let retries ← read .failure "retry_count"
  write .failure "retry_count" (← lift (retries.add (.int 1)))
  let streak ← read .failure "failure_streak"
  write .failure "failure_streak" (← lift (streak.add (.int 1)))
  write .failure "failed_component"
    (.str (env.str (getD payload "failed_component" (.str component))))
  write .failure "error_type"
    (.str (env.str (getD payload "error_type" (getD payload "error" (.str "unknown")))))
  let severity ← lift (env.float (getD payload "error_severity" (.float 0)))
  let previous ← read .failure "error_severity"
  write .failure "error_severity" (← lift (previous.max (.float (min 1 severity))))
  write .failure "critical_error" (.bool (getD payload "critical_error" (.bool false)).truthy)
  let streak ← read .failure "failure_streak"
  write .progressSignals "consecutive_failures" streak
  write .lifecycle "runnable" (.bool true)
  setPhase event .replanning
  mark event (.part .failure)
  mark event (.part .progressSignals)
  mark event (.part .lifecycle)

/-- The phase after a model response follows its next action. -/
def applyNextAction : Update Unit := do
  let payload := event.payload
  let nextAction := env.upper (env.str (getD payload "next_action" (.str "")))
  if (getD payload "task_complete" .none).truthy || nextAction = "TERMINATE" then
    write .lifecycle "progress" (.float 1)
    write .lifecycle "runnable" (.bool false)
    setPhase event .completed
  else if nextAction = "TOOL" then
    write .lifecycle "runnable" (.bool false)
    setPhase event .toolPreparing
  else
    write .lifecycle "runnable" (.bool true)
    setPhase event .planning

/-- A response succeeds unless its payload says otherwise. -/
def AgentStateEvent.succeeded (event : AgentStateEvent) : Bool :=
  (getD event.payload "success" (.bool true)).truthy

def applyModelResponse : Update Unit := do
  let payload := event.payload
  match payload.lookup "output_tokens" with
  | some value =>
      let tokens ← lift (tokenCount env value)
      let assistant ← read .context "assistant_tokens"
      write .context "assistant_tokens" (← lift (assistant.add tokens))
      let total ← read .context "total_tokens"
      write .context "total_tokens" (← lift (total.add tokens))
  | none => pure ()
  match payload.lookup "progress" with
  | some value => setProgress event (← lift (env.float value))
  | none => pure ()
  setPresent env event .progressSignals "progress_signals"
  setPresent env event .prediction "prediction"
  applyNextAction env event
  if event.succeeded then
    write .failure "failure_streak" (.int 0)
    write .progressSignals "consecutive_failures" (.int 0)
  else applyFailure env event "MODEL_RESPONSE"
  mark event (.part .lifecycle)
  mark event (.part .failure)

def applyToolStarted : Update Unit := do
  let payload := event.payload
  let named := (getD payload "tool_id" .none).orElse (.str event.stepId)
  let toolId ←
    if named.truthy then pure (env.str named)
    else do
      let count ← lift (← read .tools "active_tools").len
      pure ("tool-" ++ toString (count + 1))
  let index ← findTool env toolId (env.str (getD payload "tool_name" (.str "unknown")))
  payload.forM fun entry => setToolField env event index entry.1 entry.2
  setToolAttr index "tool_id" (.str toolId)
  let name ← getToolAttr index "tool_name"
  setToolAttr index "tool_name" (.str (env.str (getD payload "tool_name" name)))
  setToolAttr index "status" (enumValue env.toText "ToolStatus"
    (getD payload "status" (toolStatus "RUNNING")) (toolStatus "RUNNING"))
  let stored ← getToolAttr index "remaining_time_seconds"
  let remaining ← lift (env.float (getD payload "remaining_time_seconds" stored))
  setToolAttr index "remaining_time_seconds" (.float (max 0 remaining))
  write .tools "last_tool_name" (← getToolAttr index "tool_name")
  write .tools "predicted_time_until_next_model_call_seconds"
    (← getToolAttr index "remaining_time_seconds")
  write .lifecycle "runnable" (.bool false)
  setPhase event .toolRunning
  mark event (.part .tools)
  mark event (.part .lifecycle)

/-- Progress and result events name a tool or fall back to the last one. -/
def findNamedTool : Update Nat := do
  let lastName ← read .tools "last_tool_name"
  findTool env (env.str (getD event.payload "tool_id" (.str "")))
    (env.str (getD event.payload "tool_name" lastName))

def applyToolProgress : Update Unit := do
  let payload := event.payload
  let index ← findNamedTool env event
  ["elapsed_seconds", "remaining_time_seconds", "predicted_output_bytes",
    "predicted_output_tokens"].forM fun key => reportToolMeasure env event index key
  match payload.lookup "status" with
  | some value =>
      let status ← getToolAttr index "status"
      setToolAttr index "status" (enumValue env.toText "ToolStatus" value status)
  | none => pure ()
  match payload.lookup "progress" with
  | some value => setProgress event (← lift (env.float value))
  | none => pure ()
  let remaining ← getToolAttr index "remaining_time_seconds"
  write .tools "predicted_time_until_next_model_call_seconds"
    (← lift ((Value.float 0).max remaining))
  write .lifecycle "runnable" (.bool false)
  let status ← getToolAttr index "status"
  let waiting := status.eq (toolStatus "WAITING_IO")
  write .lifecycle "phase" (if waiting then AgentPhase.toolWaiting else .toolRunning).toValue
  mark event (.part .tools)

def applyToolResult : Update Unit := do
  let payload := event.payload
  let index ← findNamedTool env event
  setToolAttr index "status" (enumValue env.toText "ToolStatus"
    (getD payload "status" (toolStatus "RESULT_READY")) (toolStatus "RESULT_READY"))
  setToolAttr index "remaining_time_seconds" (.float 0)
  let tokens ← lift (tokenCount env (getD payload "result_tokens" (.int 0)))
  let toolTokens ← read .context "tool_tokens"
  write .context "tool_tokens" (← lift (toolTokens.add tokens))
  let total ← read .context "total_tokens"
  write .context "total_tokens" (← lift (total.add tokens))
  let prompt ← read .context "prompt_tokens"
  let total ← read .context "total_tokens"
  write .context "prompt_tokens" (← lift (prompt.max total))
  write .tools "predicted_time_until_next_model_call_seconds" (.float 0)
  write .lifecycle "runnable" (.bool true)
  setPhase event .toolResultReady
  write .prediction "next_action_probabilities" (.dict [("MODEL", .float 1)])
  write .prediction "predicted_inter_request_gap_seconds" (.float 0)
  mark event (.part .tools)
  mark event (.part .context)
  mark event (.part .prediction)

/-- `_set_meta` stores provenance that the payload supplies. -/
def metaField (payload : List (String × Value)) : Except Exception StateField := do
  let observedAt ←
    match getD payload "observed_at" (.datetime event.observedAt) with
    | .str instant => parseInstant env.toText instant
    | value => .ok value
  let inherited := (event.field .none).ttl
  let ttl ←
    match (getD payload "ttl" inherited).number? with
    | some seconds => timedeltaOfSeconds seconds
    | none => .ok (getD payload "ttl" inherited)
  return {
    value := getD payload "value" .none
    observedAt := observedAt
    source := env.str (getD payload "source" (.str event.source))
    confidence := ← env.float (getD payload "confidence" (.float event.confidence))
    ttl := ttl
    authoritative := (getD payload "authoritative" (.bool event.authoritative)).truthy
    version := .int (← env.int (getD payload "version" event.sequence)) }

def setMeta (name : String) (payload : List (String × Value)) : Update Unit := do
  let field ← lift (metaField env event payload)
  modify fun state => { state with fieldMeta := assign name field state.fieldMeta }

/-- A patch visits the sections in this order. -/
def patchSections : List Section :=
  [.header, .identity, .lifecycle, .task, .execution, .context, .model, .tools, .inference,
    .kvCache, .scheduling, .prediction, .qos, .affinity, .failure, .observability, .security,
    .progressSignals]

def applyPatch : Update Unit := do
  let payload := event.payload
  patchSections.forM fun part => setPresent env event part part.label
  match payload.lookup "extensions" with
  | some value =>
      let items ← lift (value.orElse (.dict [])).toDict
      modify fun state => { state with
        extensions := items.foldl (fun table entry => assign entry.1 entry.2 table) state.extensions }
      mark event .extensions
  | none => pure ()
  match payload.lookup "state_fields" with
  | some value =>
      let items ← lift (value.orElse (.dict [])).toDict
      items.forM fun entry =>
        match entry.2 with
        | .dict field => if (field.lookup "value").isSome then setMeta env event entry.1 field else pure ()
        | _ => pure ()
  | none => pure ()

/-- The identity attributes that a payload carries. -/
def identityPatch (payload : Value) : List (String × Value) :=
  match payload with
  | .dict items =>
      let identity := match items.lookup "identity" with
        | some (.dict nested) => nested
        | _ => items
      env.identityKeys.filterMap fun key => (identity.lookup key).map fun value => (key, value)
  | _ => []

def applyIdentity (payload : Value) : Update Unit := do
  let patch := identityPatch env payload
  if !patch.isEmpty then
    setSection env event .identity (.dict patch)
    match patch.lookup "tenant_id" with
    | some tenant => write .security "tenant_id" (.str (env.str tenant))
    | none => pure ()

end Handlers

/-- The event types fall into these classes. -/
inductive EventClass where
  | started | turnStarted | modelRequest | modelStarted | modelDecode | modelResponse
  | toolStarted | toolProgress | toolResult | compaction | failure | completed
  | sectionUpdate (part : Section)
  | patch
  deriving DecidableEq, Repr

/-- An unknown type updates the obvious sections like a patch. -/
def classify (eventType : String) : EventClass :=
  if eventType ∈ ["SESSION_STARTED", "TASK_STARTED"] then .started
  else if eventType = "TURN_STARTED" then .turnStarted
  else if eventType ∈ ["MODEL_REQUEST", "MODEL_REQUESTED"] then .modelRequest
  else if eventType ∈ ["MODEL_STARTED", "MODEL_PREFILL"] then .modelStarted
  else if eventType ∈ ["MODEL_DECODE", "MODEL_STREAM_STARTED"] then .modelDecode
  else if eventType ∈ ["MODEL_RESPONSE", "MODEL_RESPONSE_RECEIVED", "MODEL_COMPLETED"] then
    .modelResponse
  else if eventType ∈ ["TOOL_STARTED", "TOOL_START"] then .toolStarted
  else if eventType ∈ ["TOOL_PROGRESS", "TOOL_WAITING"] then .toolProgress
  else if eventType ∈ ["TOOL_RESULT_READY", "TOOL_COMPLETED", "TOOL_RESULT"] then .toolResult
  else if eventType ∈ ["CONTEXT_COMPACTION", "CONTEXT_COMPACTED"] then .compaction
  else if eventType ∈ ["TASK_FAILED", "MODEL_FAILED", "TOOL_FAILED"] then .failure
  else if eventType ∈ ["TASK_COMPLETED", "TASK_COMPLETE"] then .completed
  else if eventType = "INFERENCE_UPDATED" then .sectionUpdate .inference
  else if eventType = "KV_UPDATED" then .sectionUpdate .kvCache
  else if eventType = "TOOL_STATE_UPDATED" then .sectionUpdate .tools
  else .patch

section Events
variable (env : Environment) (event : AgentStateEvent)

/-- An event payload may nest the patch of a section. -/
def AgentStateEvent.nested (event : AgentStateEvent) (key : String) : Value :=
  getD event.payload key (.dict event.payload)

def AgentStateEvent.optional (event : AgentStateEvent) (key : String) : Value :=
  getD event.payload key (.dict [])

def AgentStateEvent.kind (event : AgentStateEvent) (env : Environment) : EventClass :=
  classify (env.upper event.eventType)

/-- The handler of each event class. -/
def applyClass : EventClass → Update Unit
  | .started => do
      setSection env event .task (event.nested "task")
      setPhase event .runnable
      write .lifecycle "runnable" (.bool true)
      setSection env event .prediction (event.optional "prediction")
      setSection env event .qos (event.optional "qos")
      mark event (.part .lifecycle)
  | .turnStarted => do
      write .lifecycle "current_turn" (.int event.turnId)
      write .header "turn_id" (.int event.turnId)
      if event.stepId ≠ "" then write .lifecycle "current_step" (.str event.stepId)
      setSection env event .context (event.nested "context")
      setSection env event .prediction (event.optional "prediction")
      setPhase event .runnable
      write .lifecycle "runnable" (.bool true)
      mark event (.part .lifecycle)
  | .modelRequest => applyModelRequest env event
  | .modelStarted => do
      setPhase event .modelPrefill
      write .lifecycle "runnable" (.bool true)
      mark event (.part .lifecycle)
  | .modelDecode => do
      setPhase event .modelDecode
      write .lifecycle "runnable" (.bool true)
      mark event (.part .lifecycle)
  | .modelResponse => applyModelResponse env event
  | .toolStarted => applyToolStarted env event
  | .toolProgress => applyToolProgress env event
  | .toolResult => applyToolResult env event
  | .compaction => do
      setSection env event .context (event.nested "context")
      write .context "compaction_needed" (.bool false)
      mark event (.part .context)
  | .failure => applyFailure env event (env.upper event.eventType)
  | .completed => do
      write .lifecycle "progress" (.float 1)
      write .lifecycle "runnable" (.bool false)
      setPhase event .completed
      setSection env event .task (event.optional "task")
      mark event (.part .lifecycle)
  | .sectionUpdate part => setSection env event part (event.nested part.label)
  | .patch => applyPatch env event

/-- Every event first updates the identity that its payload carries. -/
def applyEvent : Update Unit := do
  applyIdentity env event (event.nested "identity")
  applyClass env event (event.kind env)

/-- A present text replaces a header attribute. -/
def setHeaderText (name text : String) : Update Unit := do
  if text ≠ "" then write .header name (.str text)

/-- The header follows each applied event. -/
def applyHeader : Update Unit := do
  write .header "session_id" (.str event.sessionId)
  write .header "task_id" (.str event.taskId)
  let turn ← read .header "turn_id"
  write .header "turn_id" (← lift (turn.max (.int event.turnId)))
  setHeaderText "step_id" event.stepId
  setHeaderText "request_id" event.requestId
  setHeaderText "attempt_id" event.attemptId
  setHeaderText "parent_step_id" event.parentStepId
  setHeaderText "trace_id" event.traceId
  write .header "epoch" (.int event.epoch)
  write .header "sequence_number" event.sequence
  write .header "updated_at" (.datetime event.observedAt)
  write .header "update_source" (.str event.source)
  match ← read .header "dirty_fields" with
  | .set items =>
      let names := event.payload.map fun entry => Value.str entry.1
      write .header "dirty_fields" (.set (distinct (items ++ names)))
  | _ => throw .attributeError

end Events

/-- A session and a task name one agent state. -/
abbrev StateKey := String × String

def AgentStateEvent.key (event : AgentStateEvent) : StateKey := (event.sessionId, event.taskId)

/-- An order is an epoch and a sequence number. A decision reserves the stored header values. -/
abbrev Order := Value × Value

def Order.eq (first second : Order) : Bool := first.1.eq second.1 && first.2.eq second.2

/-- Orders compare by epoch and then by sequence number. -/
def Order.before (first second : Order) : Except Exception Bool :=
  if first.1.eq second.1 then
    if first.2.eq second.2 then .ok false else first.2.lt second.2
  else first.1.lt second.1

/-- The store holds the states, the last order of each state, and the event log. -/
structure Store where
  states : StateKey → Option AgentState
  lastOrder : StateKey → Option Order
  events : List AgentStateEvent

def Store.empty : Store := ⟨fun _ => none, fun _ => none, []⟩

/-- The order that the next event of a state must exceed. -/
def Store.order (store : Store) (key : StateKey) : Order :=
  (store.lastOrder key).getD (.int (-1), .int (-1))

/-- An event without a sequence number continues its epoch. -/
def AgentStateEvent.sequenced (event : AgentStateEvent) (last : Order) :
    Except Exception AgentStateEvent := do
  if ← (Value.int 0).lt event.sequence then return event
  if (Value.int event.epoch).eq last.1 then return { event with sequence := ← last.2.add (.int 1) }
  return { event with sequence := .int 1 }

def AgentStateEvent.order (event : AgentStateEvent) : Order := (.int event.epoch, event.sequence)

/-- An update of one state writes back what it reached, also when it raises. -/
def onState {A : Type} (key : StateKey) (created : AgentState) (update : Update A) :
    EStateM Exception Store A :=
  zoom (fun store => (store.states key).getD created)
    (fun store state => { store with states := Function.update store.states key (some state) })
    update

/-- The header attributes that a rejected event reports. -/
def Store.report (store : Store) (key : StateKey) : Value × Value :=
  match store.states key with
  | some state => (state.get .header "state_id", state.get .header "sequence_number")
  | none => (.str "", .int 0)

/-- Which events and states `deepcopy` can copy. -/
structure EventCopying where
  event : AgentStateEvent → Bool
  state : AgentState → Bool

/-- Every value of the events and of the states can be copied. -/
def EventCopying.all : EventCopying := ⟨fun _ => true, fun _ => true⟩

/-- `append_event` moves the order before it copies the event into the log. The copy of the state
is for the observers. -/
def appendEventWith (copying : EventCopying) (env : Environment) (fresh : Fresh)
    (received : AgentStateEvent) : EStateM Exception Store AppendResult := do
  let store ← get
  let key := received.key
  let last := store.order key
  let event ← lift (received.sequenced last)
  let (stateId, version) := store.report key
  if event.order.eq last then
    return { accepted := false, duplicate := true, stateId := stateId, stateVersion := version,
             reason := "duplicate epoch/sequence" }
  else if ← lift (event.order.before last) then
    return { accepted := false, stale := true, stateId := stateId, stateVersion := version,
             reason := "stale epoch/sequence" }
  else
    onState key (newAgentState fresh event.sessionId event.taskId (.str "default")) do
      applyEvent env event
      applyHeader event
    modify fun store => { store with
      lastOrder := Function.update store.lastOrder key (some event.order) }
    lift (copied (copying.event event))
    modify fun store => { store with events := store.events ++ [event] }
    lift (copied (((← get).states key).all copying.state))
    let (stateId, version) := (← get).report key
    return { accepted := true, stateId := stateId, stateVersion := version, reason := "accepted" }

/-- `append_event` of values that can be copied. -/
def appendEvent (env : Environment) (fresh : Fresh) (received : AgentStateEvent) :
    EStateM Exception Store AppendResult :=
  appendEventWith .all env fresh received

/-- The order and the log move together when nothing stops the copies. -/
theorem appendEvent_eq (env : Environment) (fresh : Fresh) (received : AgentStateEvent) :
    appendEvent env fresh received = do
    let store ← get
    let key := received.key
    let last := store.order key
    let event ← lift (received.sequenced last)
    let (stateId, version) := store.report key
    if event.order.eq last then
      return { accepted := false, duplicate := true, stateId := stateId, stateVersion := version,
               reason := "duplicate epoch/sequence" }
    else if ← lift (event.order.before last) then
      return { accepted := false, stale := true, stateId := stateId, stateVersion := version,
               reason := "stale epoch/sequence" }
    else
      onState key (newAgentState fresh event.sessionId event.taskId (.str "default")) do
        applyEvent env event
        applyHeader event
      modify fun store => { store with
        lastOrder := Function.update store.lastOrder key (some event.order)
        events := store.events ++ [event] }
      let (stateId, version) := (← get).report key
      return { accepted := true, stateId := stateId, stateVersion := version,
               reason := "accepted" } := by
  have free (state : Option AgentState) :
      copied (state.all EventCopying.all.state) = .ok () := by
    cases state <;> rfl
  unfold appendEvent appendEventWith
  simp only [free]
  rfl

end StateFlow.State
