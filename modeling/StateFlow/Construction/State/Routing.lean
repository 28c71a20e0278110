import StateFlow.Construction.Scheduler.Types

namespace StateFlow.State
open Python Table Effect Scheduler

/-- A state keeps this many decisions. -/
def decisionHistoryLimit : Nat := 1000

/-- Only the latest decisions stay in the history. -/
def keepLatest : Value → Value
  | .list items => .list (items.drop (items.length - decisionHistoryLimit))
  | value => value

def readHistory (name : String) : Update Value := do
  lift ((← read .scheduling "routing_history").attr name)

def writeHistory (name : String) (value : Value) : Update Unit := do
  let history ← read .scheduling "routing_history"
  write .scheduling "routing_history" (← lift (history.setAttr name value))

/-- A decision for the same tier extends the stable window. Another tier restarts it. -/
def followTier (decision : RoutingDecision) : Update Unit := do
  let previous ← readHistory "current_tier"
  let selected := match decision.candidates.find? fun item => item.key = decision.selectedKey with
    | some item => .str item.tier
    | none => previous
  if previous.eq selected then
    let steps ← readHistory "stable_steps"
    writeHistory "stable_steps" (← lift (steps.add (.int 1)))
  else
    writeHistory "stable_steps" (.int 1)
    writeHistory "last_tier_change" (.datetime decision.timestamp)
    writeHistory "last_change_reason" (.str decision.decisionReason.value)
    if previous.truthy && selected.truthy then
      let count ← readHistory "escalation_count"
      writeHistory "escalation_count" (← lift (count.add (.int 1)))
  writeHistory "current_tier" selected

/-- The streak of the view returns to the history of the state. -/
def applyRoutingDecision (view : HarnessSchedulingView) (decision : RoutingDecision) :
    Update Unit := do
  write .model "selected_model" (.str decision.selectedModel)
  write .model "selected_endpoint" (.str decision.selectedEndpoint)
  write .model "selected_replica" (.str decision.selectedReplica)
  write .scheduling "preferred_endpoint" (.str decision.selectedEndpoint)
  write .scheduling "preferred_replica" (.str decision.selectedReplica)
  writeHistory "current_model" (.str decision.selectedModel)
  writeHistory "current_endpoint" (.str decision.selectedEndpoint)
  writeHistory "current_replica" (.str decision.selectedReplica)
  followTier decision
  writeHistory "failure_streak" view.failureStreak
  let history ← read .scheduling "decision_history"
  write .scheduling "decision_history" (keepLatest (← lift (history.append decision.toDict)))
  let sequence ← read .header "sequence_number"
  write .header "sequence_number" (← lift (sequence.add (.int 1)))

/-- The snapshot names the scheduler as its latest source. -/
def stampDecision (decision : RoutingDecision) : Update Unit := do
  write .header "updated_at" (.datetime decision.timestamp)
  write .header "update_source" (.str "success-first-scheduler")
  match ← read .header "dirty_fields" with
  | .set items =>
      let names := [.str "model", .str "scheduling.routing_history", .str "decision_history"]
      write .header "dirty_fields" (.set (distinct (items ++ names)))
  | _ => throw .attributeError

/-- A decision reserves its version in the order of its state. -/
def Store.reserve (store : Store) (key : StateKey) : Store :=
  match store.states key with
  | some state =>
      let order := (state.get .header "epoch", state.get .header "sequence_number")
      { store with lastOrder := Function.update store.lastOrder key (some order) }
  | none => store

/-- Only text identifiers name a state of the table. -/
def viewKey (view : HarnessSchedulingView) : Option StateKey :=
  match view.sessionId, view.taskId with
  | .str sessionId, .str taskId => some (sessionId, taskId)
  | _, _ => none

/-- `record_routing_decision` writes a decision summary to the state of its view. -/
def recordRoutingDecision (fresh : Fresh) (view : HarnessSchedulingView)
    (decision : RoutingDecision) : EStateM Exception Store Unit := do
  match viewKey view with
  | some key =>
      let created := newAgentState fresh key.1 key.2 view.tenantId
      onState key created (applyRoutingDecision view decision)
      modify fun store => store.reserve key
      onState key created (stampDecision decision)
  | none => pure ()

end StateFlow.State
