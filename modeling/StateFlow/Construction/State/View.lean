import StateFlow.Construction.State.Store

namespace StateFlow.State
open Python Table Table

/-- The visibility of the state at the three observation levels. -/
structure StateAvailability where
  harnessNativeState : Bool
  toolLifecycle : Bool
  taskProgress : Bool
  executionDag : Bool
  contextState : Bool
  inferenceState : Bool
  kvState : Bool
  stateCompleteness : ℚ

/-- The hot view keeps each attribute that no conversion checks as it is stored. -/
structure HarnessSchedulingView where
  sessionId : Value
  taskId : Value
  stepId : Value
  stateId : Value
  stateVersion : Value
  tenantId : Value
  securityDomain : Value
  securitySensitive : Value
  sessionTurn : Value
  phase : Value
  runnable : Value
  logicalModel : Value
  requiredCapabilities : List Value
  allowedModels : List Value
  allowedRegions : List Value
  allowedCacheDomains : List Value
  remoteKvAllowed : Value
  taskType : Value
  taskProgress : ℚ
  progressVelocity : Value
  exploringScore : ℚ
  productionScore : ℚ
  errorSeverity : ℚ
  spinningScore : ℚ
  recoveryScore : ℚ
  verificationScore : ℚ
  planStability : ℚ
  consecutiveFailures : Value
  consecutiveNoProgressSteps : Value
  failureStreak : Value
  criticalError : Value
  criticalStep : Bool
  criticalPathUrgency : ℚ
  contextCompactionNeeded : Value
  truncationRisk : ℚ
  promptTokens : Value
  predictedOutputTokens : Value
  reusableKvTokens : Value
  localKvTokens : Value
  remoteKvTokens : Value
  predictedTimeUntilNextModelCallSeconds : Value
  continuationProbability : ℚ
  kvReuseProbability : ℚ
  predictedRemainingTurns : Value
  nextActionProbabilities : List (String × Value)
  remainingDeadlineSeconds : Option ℚ
  costBudget : Value
  preferredEndpoint : Value
  preferredReplica : Value
  currentModel : Value
  currentTier : Value
  stableSteps : Value
  migrationPenalty : Value
  stateCompleteness : ℚ
  stateFreshness : ℚ
  stateAvailability : StateAvailability

section View
variable (text : Text) (state : AgentState) (now : Int)

/-- `clamp` converts its argument to a float first. -/
def clampValue (value : Value) : Except Exception ℚ := do return clamp (← text.float value)

/-- A text set as the `set` constructor copies it. -/
def copySet (value : Value) : Except Exception (List Value) := do (← value.toSet).iter

/-- The confidence of the provenance marks, averaged over all of them. -/
def stateFreshness : Except Exception ℚ := do
  let values ← state.fieldMeta.mapM fun entry => entry.2.effectiveConfidence now
  return if values.isEmpty then 0 else values.sum / values.length

/-- The first fresh mark with a positive confidence ends the search. -/
def anyFresh : List StateField → Except Exception Bool
  | [] => .ok false
  | field :: rest => do
      if ← field.isFresh now then
        if 0 < (← field.effectiveConfidence now) then return true
      anyFresh rest

/-- The marks of a section and of its attributes. -/
def marksOf (name : String) : List StateField :=
  (state.fieldMeta.filter fun entry => entry.1 = name || entry.1.startsWith (name ++ ".")).map
    Prod.snd

def available (name : String) (fallback : Bool) : Except Exception Bool :=
  let candidates := marksOf state name
  if candidates.isEmpty then .ok fallback else anyFresh now candidates

/-- A known part needs no mark. -/
def knownOr (known : Bool) (name : String) : Except Exception Bool :=
  if known then .ok true else available state now name false

/-- The harness reports its own state unless its type is generic. -/
def harnessNative : Except Exception Bool :=
  let harnessType := state.get .identity "harness_type"
  if harnessType.hashable then
    .ok (!harnessType.mem [.str "", .str "unknown", .str "generic-proxy"])
  else .error .typeError

/-- Stale provenance lowers the completeness of the visible parts. -/
def completeness (flags : List Bool) : Except Exception ℚ := do
  let visible : ℚ := (flags.count true : ℚ) / flags.length
  if state.fieldMeta.isEmpty then return visible
  return visible * (1 / 2 + 1 / 2 * (← stateFreshness state now))

def deriveAvailability : Except Exception StateAvailability := do
  let native ← harnessNative state
  let tool ← knownOr state now (state.get .tools "active_tools").truthy "tools"
  let progressed ← (Value.int 0).lt (state.get .lifecycle "progress")
  let task ← knownOr state now progressed "task.progress"
  let graph := (state.get .execution "nodes").truthy
    || (state.get .execution "critical_path_nodes").truthy
  let dag ← knownOr state now graph "execution"
  let sized := (state.get .context "prompt_tokens").truthy
    || (state.get .context "total_tokens").truthy
  let context ← knownOr state now sized "context"
  let inference ← knownOr state now (state.get .inference "endpoints").truthy "inference"
  let cached := (state.get .kvCache "segments").truthy
    || (state.get .kvCache "local_reusable_tokens").truthy
  let kv ← knownOr state now cached "kv_cache"
  let complete ← completeness state now [native, tool, task, dag, context, inference, kv]
  return ⟨native, tool, task, dag, context, inference, kv, clamp complete⟩

/-- The time that remains until the deadline of the task. -/
def deadlineSeconds : Except Exception (Option ℚ) :=
  match state.get .qos "task_deadline" with
  | .none => .ok none
  | .datetime deadline => .ok (some (max 0 (((deadline - now : Int) : ℚ) / 1000000)))
  | _ => .error .attributeError

/-- A current node decides the critical step by its membership in the critical path. -/
def criticalStep : Except Exception Bool :=
  let node := state.get .execution "current_node_id"
  let path := state.get .execution "critical_path_nodes"
  if node.truthy then path.contains node
  else .ok (path.truthy && (state.get .lifecycle "runnable").truthy)

/-- A latency target turns the remaining time into urgency. -/
def deadlineUrgency (deadline : Option ℚ) : Except Exception ℚ :=
  let target := state.get .qos "task_latency_target_seconds"
  match deadline with
  | some seconds =>
      if target.truthy then do
        let bound ← (← target.max (.float (1 / 1000000))).double
        return clamp (1 - seconds / bound)
      else .ok 0
  | none => .ok 0

def urgency (deadline : Option ℚ) (critical : Bool) : Except Exception ℚ := do
  let timed ← deadlineUrgency state deadline
  let reported ← clampValue text (getD state.extensions "critical_path_urgency" (.float 0))
  let urgent := max timed reported
  return if critical then max urgent (3 / 4) else urgent

/-- `max` over several operands compares from the left. -/
def maxOf (first : Value) : List Value → Except Exception Value
  | [] => .ok first
  | second :: rest => do maxOf (← first.max second) rest

/-- `build_scheduling_view` materializes the hot view of a state. -/
def buildSchedulingView : Except Exception HarnessSchedulingView := do
  let history := state.get .scheduling "routing_history"
  let deadline ← deadlineSeconds state now
  let critical ← criticalStep state
  let urgent ← urgency text state deadline critical
  let availability ← deriveAvailability state now
  let localKv := state.get .kvCache "local_reusable_tokens"
  let remoteKv := state.get .kvCache "remote_reusable_tokens"
  let reusable ← maxOf (state.get .context "reusable_prefix_tokens")
    [state.get .context "immutable_prefix_tokens", ← localKv.add remoteKv]
  let gap ← maxOf (.float 0)
    [state.get .prediction "predicted_inter_request_gap_seconds",
      state.get .tools "predicted_time_until_next_model_call_seconds",
      state.get .prediction "predicted_tool_wait_seconds"]
  let turn ← (state.get .header "turn_id").max (state.get .lifecycle "current_turn")
  let requiredCapabilities ← copySet (state.get .identity "required_capabilities")
  let allowedModels ← copySet (state.get .security "allowed_models")
  let allowedRegions ← copySet (state.get .security "allowed_regions")
  let allowedCacheDomains ← copySet (state.get .security "allowed_cache_domains")
  let taskProgress ← clampValue text (state.get .lifecycle "progress")
  let exploring ← clampValue text (state.get .progressSignals "exploring_score")
  let production ← clampValue text (state.get .progressSignals "production_score")
  let severity ← (state.get .progressSignals "error_severity").max
    (state.get .failure "error_severity")
  let severity ← clampValue text severity
  let spinning ← clampValue text (state.get .progressSignals "spinning_score")
  let recovery ← clampValue text (state.get .progressSignals "recovery_score")
  let verification ← clampValue text (state.get .progressSignals "verification_score")
  let stability ← clampValue text (state.get .progressSignals "plan_stability")
  let failureStreak ← (state.get .failure "failure_streak").max (← history.attr "failure_streak")
  let truncation ← clampValue text (state.get .context "truncation_risk")
  let prompt ← maxOf (state.get .context "prompt_tokens")
    [state.get .model "prompt_tokens", state.get .context "total_tokens"]
  let output ← (state.get .model "predicted_output_tokens").max
    (state.get .prediction "predicted_next_decode_tokens")
  let continuation ← clampValue text (state.get .prediction "continuation_probability")
  let reuse ← (state.get .prediction "predicted_kv_reuse_ratio").max
    (state.get .context "reusable_prefix_ratio")
  let reuse ← clampValue text reuse
  let turns ← (Value.int 0).max (state.get .prediction "predicted_remaining_turns")
  let actions ← (state.get .prediction "next_action_probabilities").toDict
  let currentModel ← history.attr "current_model"
  let currentTier ← history.attr "current_tier"
  let stableSteps ← history.attr "stable_steps"
  let penalty ← (Value.float 0).max (state.get .affinity "migration_penalty")
  let freshness ← stateFreshness state now
  return {
    sessionId := state.get .header "session_id"
    taskId := state.get .header "task_id"
    stepId := (state.get .header "step_id").orElse (state.get .lifecycle "current_step")
    stateId := state.get .header "state_id"
    stateVersion := state.get .header "sequence_number"
    tenantId := state.get .identity "tenant_id"
    securityDomain := state.get .security "security_domain"
    securitySensitive := state.get .security "security_sensitive"
    sessionTurn := turn
    phase := state.get .lifecycle "phase"
    runnable := state.get .lifecycle "runnable"
    logicalModel := state.get .model "logical_model"
    requiredCapabilities := requiredCapabilities
    allowedModels := allowedModels
    allowedRegions := allowedRegions
    allowedCacheDomains := allowedCacheDomains
    remoteKvAllowed := state.get .security "remote_kv_allowed"
    taskType := state.get .task "task_type"
    taskProgress := taskProgress
    progressVelocity := state.get .progressSignals "progress_velocity"
    exploringScore := exploring
    productionScore := production
    errorSeverity := severity
    spinningScore := spinning
    recoveryScore := recovery
    verificationScore := verification
    planStability := stability
    consecutiveFailures := state.get .progressSignals "consecutive_failures"
    consecutiveNoProgressSteps := state.get .progressSignals "consecutive_no_progress_steps"
    failureStreak := failureStreak
    criticalError := state.get .failure "critical_error"
    criticalStep := critical
    criticalPathUrgency := urgent
    contextCompactionNeeded := state.get .context "compaction_needed"
    truncationRisk := truncation
    promptTokens := prompt
    predictedOutputTokens := output
    reusableKvTokens := reusable
    localKvTokens := localKv
    remoteKvTokens := remoteKv
    predictedTimeUntilNextModelCallSeconds := gap
    continuationProbability := continuation
    kvReuseProbability := reuse
    predictedRemainingTurns := turns
    nextActionProbabilities := actions
    remainingDeadlineSeconds := deadline
    costBudget := state.get .qos "task_cost_budget"
    preferredEndpoint := state.get .scheduling "preferred_endpoint"
    preferredReplica :=
      (state.get .scheduling "preferred_replica").orElse (state.get .kvCache "preferred_replica")
    currentModel := currentModel.orElse (state.get .model "selected_model")
    currentTier := currentTier
    stableSteps := stableSteps
    migrationPenalty := penalty
    stateCompleteness := availability.stateCompleteness
    stateFreshness := freshness
    stateAvailability := availability }

end View

/-- A session without a state has the view of a new one. -/
def getSchedulingView (env : Environment) (fresh : Fresh) (store : Store)
    (sessionId taskId : String) : Except Exception HarnessSchedulingView :=
  let state := (store.states (sessionId, taskId)).getD
    (newAgentState fresh sessionId taskId (.str "default"))
  buildSchedulingView env.toText state fresh.now

end StateFlow.State
