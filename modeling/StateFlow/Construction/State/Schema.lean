import StateFlow.Library.Value

namespace StateFlow.State
open Python Table Table

/-- An agent is in one phase of its lifecycle. -/
inductive AgentPhase where
  | created | runnable | contextBuilding | modelQueued | modelPrefill | modelDecode | planning
  | replanning | toolPreparing | toolQueued | toolRunning | toolWaiting | toolResultReady
  | contextUpdating | checkpointing | blocked | paused | completed | failed | cancelled
  deriving DecidableEq, Repr

namespace AgentPhase

/-- The wire text of a phase. -/
def value : AgentPhase → String
  | created => "CREATED"
  | runnable => "RUNNABLE"
  | contextBuilding => "CONTEXT_BUILDING"
  | modelQueued => "MODEL_QUEUED"
  | modelPrefill => "MODEL_PREFILL"
  | modelDecode => "MODEL_DECODE"
  | planning => "PLANNING"
  | replanning => "REPLANNING"
  | toolPreparing => "TOOL_PREPARING"
  | toolQueued => "TOOL_QUEUED"
  | toolRunning => "TOOL_RUNNING"
  | toolWaiting => "TOOL_WAITING"
  | toolResultReady => "TOOL_RESULT_READY"
  | contextUpdating => "CONTEXT_UPDATING"
  | checkpointing => "CHECKPOINTING"
  | blocked => "BLOCKED"
  | paused => "PAUSED"
  | completed => "COMPLETED"
  | failed => "FAILED"
  | cancelled => "CANCELLED"

def all : List AgentPhase :=
  [created, runnable, contextBuilding, modelQueued, modelPrefill, modelDecode, planning,
    replanning, toolPreparing, toolQueued, toolRunning, toolWaiting, toolResultReady,
    contextUpdating, checkpointing, blocked, paused, completed, failed, cancelled]

/-- A wire text names at most one phase. -/
def ofValue? (text : String) : Option AgentPhase := all.find? fun phase => phase.value = text

theorem ofValue?_value (phase : AgentPhase) : ofValue? phase.value = some phase := by
  cases phase <;> decide

/-- The stored form of a phase. -/
def toValue (phase : AgentPhase) : Value := .enum "AgentPhase" phase.value

end AgentPhase

/-- The members of a declared enumeration. -/
def enumMembers (kind : String) : List String :=
  if kind = "AgentPhase" then AgentPhase.all.map AgentPhase.value
  else if kind = "ToolStatus" then
    ["PREPARING", "QUEUED", "RUNNING", "WAITING_IO", "RESULT_READY", "SUCCEEDED", "FAILED"]
  else if kind = "KVCacheTier" then
    ["GPU_HBM", "CPU_DRAM", "LOCAL_SSD", "REMOTE_DRAM", "REMOTE_SSD", "OBJECT_STORAGE"]
  else []

/-- A tool status is a member of its enumeration. -/
def toolStatus (member : String) : Value := .enum "ToolStatus" member

/-- An agent state has one section for each concern. -/
inductive Section where
  | header | identity | lifecycle | task | execution | context | model | tools | inference
  | kvCache | scheduling | prediction | qos | affinity | failure | observability | security
  | progressSignals
  deriving DecidableEq, Repr

/-- A new state receives a generated identifier and the current instant. -/
structure Fresh where
  stateId : String
  now : Int

/-- The routing history is a record inside the scheduling section. -/
def routingHistory : Value :=
  .object "RoutingHistory" [("current_tier", .str ""), ("current_model", .str ""),
    ("current_endpoint", .str ""), ("current_replica", .str ""), ("stable_steps", .int 0),
    ("failure_streak", .int 0), ("escalation_count", .int 0), ("last_tier_change", .none),
    ("last_change_reason", .str "")]

namespace Section

/-- The attribute name of a section. -/
def label : Section → String
  | header => "header"
  | identity => "identity"
  | lifecycle => "lifecycle"
  | task => "task"
  | execution => "execution"
  | context => "context"
  | model => "model"
  | tools => "tools"
  | inference => "inference"
  | kvCache => "kv_cache"
  | scheduling => "scheduling"
  | prediction => "prediction"
  | qos => "qos"
  | affinity => "affinity"
  | failure => "failure"
  | observability => "observability"
  | security => "security"
  | progressSignals => "progress_signals"

/-- The declared attributes of a section with their defaults. -/
def schema (fresh : Fresh) : Section → List (String × Value)
  | header =>
      [("schema_version", .str "0.1"), ("state_id", .str fresh.stateId), ("session_id", .str ""),
        ("task_id", .str "default-task"), ("turn_id", .int 0), ("step_id", .str ""),
        ("request_id", .str ""), ("attempt_id", .str ""), ("parent_step_id", .str ""),
        ("trace_id", .str ""), ("epoch", .int 0), ("sequence_number", .int 0),
        ("created_at", .datetime fresh.now), ("updated_at", .datetime fresh.now),
        ("update_source", .str "stateflow"), ("dirty_fields", .set []), ("ttl", .none)]
  | identity =>
      [("tenant_id", .str "default"), ("namespace", .str "default"),
        ("harness_type", .str "generic-proxy"), ("harness_version", .str "0"),
        ("agent_type", .str "unknown"), ("agent_version", .str "0"),
        ("workflow_type", .str "unknown"), ("workload_class", .str "UNKNOWN"),
        ("sandbox", .str ""), ("workspace_id", .str ""), ("required_capabilities", .set [])]
  | lifecycle =>
      [("phase", AgentPhase.created.toValue), ("previous_phase", .none),
        ("phase_enter_time", .datetime fresh.now), ("runnable", .bool false),
        ("blocked_on", .str ""), ("preemptible", .bool true), ("resumable", .bool true),
        ("progress", .float 0), ("current_turn", .int 0), ("current_step", .str ""),
        ("active_compute_seconds", .float 0), ("blocked_seconds", .float 0)]
  | task =>
      [("task_type", .str "unknown"), ("estimated_complexity", .float (1 / 2)),
        ("planning_mode", .str "REACTIVE"), ("estimated_remaining_steps", .int 0),
        ("estimated_remaining_model_calls", .int 0), ("estimated_remaining_tool_calls", .int 0),
        ("completion_probability", .float 0), ("requires_long_context", .bool false),
        ("requires_reasoning", .bool false), ("requires_tool_use", .bool false),
        ("requires_multimodal", .bool false)]
  | execution =>
      [("nodes", .list []), ("edges", .list []), ("runnable_nodes", .list []),
        ("blocked_nodes", .list []), ("current_node_id", .str ""),
        ("critical_path_nodes", .list []), ("estimated_remaining_critical_path_seconds", .float 0)]
  | context =>
      [("total_tokens", .int 0), ("system_tokens", .int 0), ("user_tokens", .int 0),
        ("assistant_tokens", .int 0), ("tool_tokens", .int 0), ("memory_tokens", .int 0),
        ("artifact_tokens", .int 0), ("prompt_tokens", .int 0), ("immutable_prefix_tokens", .int 0),
        ("mutable_suffix_tokens", .int 0), ("context_fingerprint", .str ""),
        ("prefix_fingerprint", .str ""), ("segments", .list []),
        ("context_growth_tokens_per_turn", .float 0), ("predicted_next_context_tokens", .int 0),
        ("reusable_prefix_tokens", .int 0), ("reusable_prefix_ratio", .float 0),
        ("compaction_needed", .bool false), ("truncation_risk", .float 0)]
  | model =>
      [("logical_model", .str ""), ("selected_model", .str ""), ("selected_endpoint", .str ""),
        ("selected_replica", .str ""), ("prompt_tokens", .int 0),
        ("predicted_output_tokens", .int 0), ("adapter_id", .str ""), ("tokenizer_id", .str ""),
        ("model_revision", .str ""), ("quantization", .str ""), ("batch_compatibility_key", .str "")]
  | tools =>
      [("active_tools", .list []), ("predicted_time_until_next_model_call_seconds", .float 0),
        ("last_tool_name", .str "")]
  | inference =>
      [("engine", .str ""), ("serving_mode", .str "co-located"), ("endpoints", .list []),
        ("request_status", .str ""), ("queue_position", .int 0), ("batch_id", .str ""),
        ("batch_size", .int 0), ("prefilled_tokens", .int 0), ("decoded_tokens", .int 0),
        ("prefill_tokens_per_second", .float 0), ("decode_tokens_per_second", .float 0),
        ("ttft_seconds", .float 0), ("tpot_seconds", .float 0)]
  | kvCache =>
      [("context_fingerprint", .str ""), ("model_id", .str ""), ("segments", .list []),
        ("local_reusable_tokens", .int 0), ("remote_reusable_tokens", .int 0),
        ("hit_ratio", .float 0), ("recompute_cost", .float 0), ("fetch_cost", .float 0),
        ("eviction_priority", .float 0), ("pinned", .bool false), ("preferred_replica", .str "")]
  | scheduling =>
      [("base_priority", .float (1 / 2)), ("dynamic_priority", .float (1 / 2)),
        ("session_sticky", .bool false), ("preferred_endpoint", .str ""),
        ("preferred_replica", .str ""), ("allow_migration", .bool true),
        ("allow_speculation", .bool false), ("allow_prefetch", .bool true),
        ("batch_compatibility_key", .str ""), ("routing_history", routingHistory),
        ("decision_history", .list [])]
  | prediction =>
      [("next_action_probabilities", .dict []), ("continuation_probability", .float 0),
        ("predicted_inter_request_gap_seconds", .float 0), ("predicted_next_prompt_tokens", .int 0),
        ("predicted_next_decode_tokens", .int 0), ("predicted_context_growth", .float 0),
        ("predicted_kv_reuse_ratio", .float 0), ("predicted_tool_wait_seconds", .float 0),
        ("predicted_remaining_turns", .int 0), ("predictor_version", .str "heuristic-0.1"),
        ("confidence", .float 0), ("observed_at", .datetime fresh.now),
        ("ttl", .timedelta 30000000)]
  | qos =>
      [("task_deadline", .none), ("turn_deadline", .none), ("step_deadline", .none),
        ("ttft_target_seconds", .none), ("tpot_target_seconds", .none),
        ("task_latency_target_seconds", .none), ("cost_per_token_budget", .none),
        ("task_cost_budget", .none), ("objective", .str "SUCCESS_COST_LATENCY")]
  | affinity =>
      [("kv_affinity", .str ""), ("model_affinity", .str ""), ("tool_affinity", .str ""),
        ("sandbox_affinity", .str ""), ("data_affinity", .str ""), ("preferred_region", .str ""),
        ("preferred_zone", .str ""), ("preferred_node", .str ""), ("preferred_device", .str ""),
        ("migration_penalty", .float 0)]
  | failure =>
      [("retry_count", .int 0), ("failure_streak", .int 0), ("failed_component", .str ""),
        ("error_type", .str ""), ("error_severity", .float 0), ("retry_safe", .bool true),
        ("fallback_models", .list []), ("fallback_tools", .list []),
        ("side_effect_committed", .bool false), ("critical_error", .bool false)]
  | observability =>
      [("queue_seconds", .float 0), ("llm_seconds", .float 0), ("tool_seconds", .float 0),
        ("prefill_seconds", .float 0), ("decode_seconds", .float 0), ("kv_hit_tokens", .int 0),
        ("kv_fetch_tokens", .int 0), ("kv_miss_tokens", .int 0), ("kv_transfer_bytes", .int 0),
        ("estimated_cost", .float 0), ("trace_id", .str "")]
  | security =>
      [("tenant_id", .str "default"), ("security_domain", .str "default"),
        ("allowed_models", .set []), ("allowed_tools", .set []), ("allowed_regions", .set []),
        ("allowed_cache_domains", .set []), ("remote_kv_allowed", .bool true),
        ("cache_shareability", .str "tenant"), ("security_sensitive", .bool false)]
  | progressSignals =>
      [("exploring_score", .float 0), ("production_score", .float 0), ("error_severity", .float 0),
        ("spinning_score", .float 0), ("recovery_score", .float 0), ("verification_score", .float 0),
        ("plan_stability", .float 0), ("progress_velocity", .float 0),
        ("consecutive_failures", .int 0), ("consecutive_no_progress_steps", .int 0)]

/-- The declared attribute names of a section. -/
def fields (part : Section) : List String := (part.schema ⟨"", 0⟩).map Prod.fst

/-- The default of a declared attribute. -/
def default (fresh : Fresh) (part : Section) (name : String) : Value :=
  getD (part.schema fresh) name .none

end Section

/-- The declared attributes of a list item. A required attribute has no default. -/
def recordSchema (kind : String) : List (String × Option Value) :=
  if kind = "ToolExecution" then
    [("tool_id", none), ("tool_name", none), ("tool_type", some (.str "unknown")),
      ("status", some (toolStatus "PREPARING")), ("side_effecting", some (.bool false)),
      ("idempotent", some (.bool false)), ("retryable", some (.bool false)),
      ("parallelizable", some (.bool false)), ("elapsed_seconds", some (.float 0)),
      ("latency_p50_seconds", some (.float 0)), ("latency_p95_seconds", some (.float 0)),
      ("remaining_time_seconds", some (.float 0)), ("predicted_output_bytes", some (.int 0)),
      ("predicted_output_tokens", some (.int 0)), ("result_cacheable", some (.bool false)),
      ("result_cached", some (.bool false)), ("execution_location", some (.str ""))]
  else if kind = "InferenceEndpointState" then
    [("endpoint_id", none), ("replica_id", some (.str "")), ("model_id", some (.str "")),
      ("engine", some (.str "unknown")), ("cluster", some (.str "")), ("node", some (.str "")),
      ("available", some (.bool true)), ("queue_position", some (.int 0)),
      ("queue_latency_seconds", some (.float 0)), ("batch_size", some (.int 0)),
      ("prefill_tokens_per_second", some (.float 0)), ("decode_tokens_per_second", some (.float 0)),
      ("gpu_memory_pressure", some (.float 0)), ("sm_pressure", some (.float 0)),
      ("bandwidth_pressure", some (.float 0))]
  else if kind = "KVSegment" then
    [("token_start", none), ("token_end", none), ("layer_start", some (.int 0)),
      ("layer_end", some (.int 0)), ("fingerprint", some (.str "")), ("bytes", some (.int 0)),
      ("tier", some (.enum "KVCacheTier" "GPU_HBM")), ("replicas", some (.list [])),
      ("reuse_probability", some (.float 0)), ("predicted_next_access", some .none),
      ("recompute_cost", some (.float 0)), ("eviction_score", some (.float 0)),
      ("kv_dtype", some (.str "")), ("compression_format", some (.str ""))]
  else if kind = "ContextSegment" then
    [("segment_id", none), ("segment_type", some (.str "conversation")),
      ("token_start", some (.int 0)), ("token_end", some (.int 0)), ("token_count", some (.int 0)),
      ("fingerprint", some (.str "")), ("immutable", some (.bool false)),
      ("cacheable", some (.bool true)), ("producer_step_id", some (.str "")),
      ("sensitivity_class", some (.str "default"))]
  else if kind = "ExecutionNode" then
    [("node_id", none), ("node_type", some (.str "MODEL")), ("status", some (.str "PENDING")),
      ("estimated_duration_seconds", some (.float 0)), ("critical", some (.bool false))]
  else []

/-- These classes convert from a mapping inside a list. -/
def recordKinds : List String :=
  ["ToolExecution", "InferenceEndpointState", "KVSegment", "ContextSegment", "ExecutionNode"]

/-- A state field carries freshness and provenance. -/
structure StateField where
  value : Value
  observedAt : Value
  source : String
  confidence : ℚ
  ttl : Value
  authoritative : Bool
  version : Value

/-- `clamp` bounds a value by the unit interval. -/
def clamp (value : ℚ) : ℚ := max 0 (min 1 value)

theorem clamp_nonneg (value : ℚ) : 0 ≤ clamp value := le_max_left _ _

theorem clamp_le_one (value : ℚ) : clamp value ≤ 1 :=
  max_le zero_le_one (min_le_left _ _)

namespace StateField

/-- A field without a lifetime stays fresh. -/
def isFresh (field : StateField) (now : Int) : Except Exception Bool :=
  match field.ttl with
  | .none => .ok true
  | ttl =>
      match field.observedAt with
      | .datetime observedAt =>
          match ttl with
          | .timedelta ttl => do return decide (now ≤ (← addDuration observedAt ttl))
          | _ => .error .typeError
      | _ => .error .attributeError

/-- A stale field carries no confidence. -/
def effectiveConfidence (field : StateField) (now : Int) : Except Exception ℚ := do
  return if ← field.isFresh now then clamp field.confidence else 0

end StateField

/-- The attributes of all sections form one table. -/
structure AgentState where
  attrs : Section → String → Value
  fieldMeta : List (String × StateField)
  extensions : List (String × Value)

namespace AgentState

def get (state : AgentState) (part : Section) (name : String) : Value := state.attrs part name

/-- This update replaces one attribute. -/
def set (state : AgentState) (part : Section) (name : String) (value : Value) : AgentState :=
  let record := Function.update (state.attrs part) name value
  { state with attrs := Function.update state.attrs part record }

theorem get_set (state : AgentState) (part query : Section) (name other : String) (value : Value) :
    (state.set part name value).get query other =
      if query = part ∧ other = name then value else state.get query other := by
  by_cases samePart : query = part
  · subst query
    by_cases sameName : other = name
    · simp [get, set, sameName]
    · simp [get, set, sameName]
  · simp [get, set, samePart]

@[simp] theorem get_set_same (state : AgentState) (part : Section) (name : String) (value : Value) :
    (state.set part name value).get part name = value := by
  simp [get_set]

@[simp] theorem set_fieldMeta (state : AgentState) (part : Section) (name : String) (value : Value) :
    (state.set part name value).fieldMeta = state.fieldMeta := rfl

@[simp] theorem set_extensions (state : AgentState) (part : Section) (name : String) (value : Value) :
    (state.set part name value).extensions = state.extensions := rfl

/-- A section read as one record. -/
def record (state : AgentState) (part : Section) : Value :=
  .object part.label (part.fields.map fun name => (name, state.get part name))

end AgentState

/-- A new state carries the identity of a proxy request. -/
def newAgentState (fresh : Fresh) (sessionId taskId : String) (tenantId : Value) : AgentState :=
  let state : AgentState := ⟨fun part name => part.default fresh name, [], []⟩
  let state := state.set .header "session_id" (.str sessionId)
  let state := state.set .header "task_id" (.str taskId)
  let state := state.set .identity "tenant_id" tenantId
  let state := state.set .identity "harness_type" (.str "generic-proxy")
  state.set .security "tenant_id" tenantId

end StateFlow.State
