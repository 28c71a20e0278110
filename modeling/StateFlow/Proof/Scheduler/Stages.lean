import StateFlow.Library.Ascii
import StateFlow.Construction.Scheduler.Schedule

namespace StateFlow.Scheduler
open Python Table Effect State Selection

section Gates
variable {host : Host} {config : SchedulerConfig} {limits : RequestLimits} {outlook : KvOutlook}
  {urgency : ℚ} {policy : Policy} {stages : Stages}

/-- Each stage of a passed gate run is computed from the stage before it. -/
structure Passed (host : Host) (config : SchedulerConfig) (limits : RequestLimits)
    (outlook : KvOutlook) (urgency : ℚ) (policy : Policy) (stages : Stages) : Prop where
  kept : stages.policy = policy
  gate : stages.gate = gateSuccess config (policy.evaluate config)
  evaluated : stages.evaluated = (policy.evaluate config).map (markSuccess stages.gate)
  priced : stages.priced = (stages.evaluated.filter fun item =>
    item.target.modelId ∈ stages.gate.modelIds).map (priceTarget host config limits outlook)
  budgeted : stages.budgeted = (stages.priced.filter (withinBudget limits)).map (markCost
    ((costGate (stages.priced.filter (withinBudget limits)) config.epsilonCost).map
      EvaluatedTarget.key))
  timed : stages.timed = (costGate stages.budgeted config.epsilonCost).map
    (timeTarget limits urgency stages.budgeted)

/-- The stages of a policy, computed without regard to an empty one. -/
def gateStages (host : Host) (config : SchedulerConfig) (limits : RequestLimits)
    (outlook : KvOutlook) (urgency : ℚ) (policy : Policy) : Stages :=
  let gate := gateSuccess config (policy.evaluate config)
  let evaluated := (policy.evaluate config).map (markSuccess gate)
  let priced := (evaluated.filter fun item => item.target.modelId ∈ gate.modelIds).map
    (priceTarget host config limits outlook)
  let within := priced.filter (withinBudget limits)
  let budgeted := within.map (markCost ((costGate within config.epsilonCost).map EvaluatedTarget.key))
  let timed := (costGate budgeted config.epsilonCost).map (timeTarget limits urgency budgeted)
  ⟨policy, evaluated, gate, priced, budgeted, timed⟩

theorem gateStages_passed : Passed host config limits outlook urgency policy
    (gateStages host config limits outlook urgency policy) :=
  ⟨rfl, rfl, rfl, rfl, rfl, rfl⟩

/-- A gate run returns its stages unless the budget leaves none. -/
theorem runGates_cases (host : Host) (config : SchedulerConfig) (limits : RequestLimits)
    (outlook : KvOutlook) (urgency : ℚ) (policy : Policy) :
    (runGates host config limits outlook urgency policy =
        .ok (gateStages host config limits outlook urgency policy) ∧
      (gateStages host config limits outlook urgency policy).budgeted ≠ []) ∨
    ((∃ message rejections, runGates host config limits outlook urgency policy =
        .error (.noFeasibleTarget message rejections)) ∧
      (gateStages host config limits outlook urgency policy).budgeted = []) := by
  simp only [runGates, gateStages]
  split
  · rename_i empty
    refine Or.inr ⟨⟨_, _, rfl⟩, ?_⟩
    rw [List.isEmpty_iff.mp empty]
    rfl
  · split
    · rename_i empty
      refine Or.inr ⟨⟨_, _, rfl⟩, ?_⟩
      rw [List.isEmpty_iff.mp empty]
      rfl
    · rename_i present
      refine Or.inl ⟨rfl, fun empty => present ?_⟩
      rw [List.map_eq_nil_iff.mp empty]
      rfl

theorem runGates_ok
    (returned : runGates host config limits outlook urgency policy = .ok stages) :
    Passed host config limits outlook urgency policy stages := by
  rcases runGates_cases host config limits outlook urgency policy with
    ⟨ran, _⟩ | ⟨⟨_, _, failed⟩, _⟩
  · cases ran.symm.trans returned
    exact gateStages_passed
  · cases failed.symm.trans returned

end Gates

section Schedule
variable {host : Host} {config : SchedulerConfig} {predictor : SuccessPredictor}
  {stamp : DecisionStamp} {view : HarnessSchedulingView} {targets : List TargetCandidate}

theorem raising_ok {A : Type} {result : Except Exception A} {value : A}
    (returned : raising result = .ok value) : result = .ok value := by
  cases result with
  | ok found => cases returned; rfl
  | error exception => cases returned

/-- These facts hold of a returned decision. -/
structure Scheduled (host : Host) (config : SchedulerConfig) (predictor : SuccessPredictor)
    (view : HarnessSchedulingView) (targets : List TargetCandidate) (limits : RequestLimits)
    (risks : RiskSignals) (outlook : KvOutlook) (policy : Policy) (stages : Stages)
    (selected : EvaluatedTarget) (reason : DecisionReason) : Prop where
  readLimits : Scheduler.limits view = .ok limits
  readRisks : Scheduler.risks view = .ok risks
  readOutlook : Scheduler.outlook view = .ok outlook
  feasible : (filterTargets limits targets).eligible ≠ []
  chosen : choosePolicy host config (predictor view) risks (filterTargets limits targets).eligible
    = .ok policy
  passed : Passed host config limits outlook view.criticalPathUrgency policy stages
  placed : selectTarget host config view stages = .ok (selected, reason)

theorem schedule_ok {decision : RoutingDecision}
    (returned : schedule host config predictor stamp view targets = .ok decision) :
    ∃ limits risks outlook policy stages selected reason,
      Scheduled host config predictor view targets limits risks outlook policy stages selected
        reason ∧
      decision = buildRoutingDecision config stamp view selected
        (targets.map (traceEntry stages.evaluated (filterTargets limits targets).rejected
          (markSelected selected (latestEvaluation stages.versions)))) reason
        stages.policy.override.reasons stages.gate.fallback := by
  unfold schedule at returned
  split at returned
  · obtain ⟨_, raised, _⟩ := except_bind_ok returned
    cases raised
  · obtain ⟨limits, read, filtering⟩ := except_bind_ok returned
    simp only at filtering
    split at filtering
    · obtain ⟨_, raised, _⟩ := except_bind_ok filtering
      cases raised
    · rename_i feasible
      obtain ⟨risks, readRisks, choosing⟩ := except_bind_ok filtering
      obtain ⟨policy, chosen, pricing⟩ := except_bind_ok choosing
      obtain ⟨outlook, readOutlook, gating⟩ := except_bind_ok pricing
      obtain ⟨stages, gated, placing⟩ := except_bind_ok gating
      obtain ⟨⟨selected, reason⟩, placed, finished⟩ := except_bind_ok placing
      cases finished
      refine ⟨limits, risks, outlook, policy, stages, selected, reason, ⟨raising_ok read,
        raising_ok readRisks, raising_ok readOutlook, ?_, raising_ok chosen, runGates_ok gated,
        raising_ok placed⟩, rfl⟩
      exact fun empty => feasible (List.isEmpty_iff.mpr empty)

end Schedule

section Trace
variable {host : Host} {config : SchedulerConfig} {limits : RequestLimits} {outlook : KvOutlook}
  {urgency : ℚ} {policy : Policy} {stages : Stages}

/-- Every evaluated item passed the filter and the override. -/
def AllEligible (items : List EvaluatedTarget) : Prop :=
  ∀ item ∈ items, item.evaluation.eligible = true

theorem AllEligible.map {items : List EvaluatedTarget} (eligible : AllEligible items)
    {change : EvaluatedTarget → EvaluatedTarget}
    (kept : ∀ item, (change item).evaluation.eligible = item.evaluation.eligible) :
    AllEligible (items.map change) := by
  intro changed member
  obtain ⟨item, inside, rfl⟩ := List.mem_map.mp member
  rw [kept]
  exact eligible item inside

theorem AllEligible.of_subset {items others : List EvaluatedTarget} (eligible : AllEligible items)
    (subset : others ⊆ items) : AllEligible others :=
  fun item member => eligible item (subset member)

theorem evaluate_eligible (config : SchedulerConfig) (policy : Policy) :
    AllEligible (policy.evaluate config) := by
  intro item member
  obtain ⟨entry, _, rfl⟩ := List.mem_map.mp member
  rfl

section Passed
variable (passed : Passed host config limits outlook urgency policy stages)
include passed

theorem Passed.evaluated_eligible : AllEligible stages.evaluated := by
  rw [passed.evaluated]
  exact (evaluate_eligible config policy).map fun _ => rfl

theorem Passed.priced_eligible : AllEligible stages.priced := by
  rw [passed.priced]
  exact (passed.evaluated_eligible.of_subset List.filter_sublist.subset).map fun _ => rfl

theorem Passed.budgeted_eligible : AllEligible stages.budgeted := by
  rw [passed.budgeted]
  exact (passed.priced_eligible.of_subset List.filter_sublist.subset).map fun _ => rfl

theorem Passed.timed_eligible : AllEligible stages.timed := by
  rw [passed.timed]
  exact (passed.budgeted_eligible.of_subset (survivors_sublist _ _ _).subset).map fun _ => rfl

/-- The latest version of an eligible item is eligible. -/
theorem Passed.latest_eligible (selected : EvaluatedTarget) {item : EvaluatedTarget}
    (eligible : item.evaluation.eligible = true) :
    (markSelected selected (latestEvaluation stages.versions) item).eligible = true := by
  have latest : (latestEvaluation stages.versions item).eligible = true := by
    unfold latestEvaluation
    cases found : stages.versions.findSome? fun stage =>
        stage.find? fun other => other.slot = item.slot with
    | none => exact eligible
    | some other =>
        obtain ⟨stage, member, inside⟩ := List.exists_of_findSome?_eq_some found
        have present := List.mem_of_find?_eq_some inside
        simp only [Stages.versions, List.mem_cons, List.not_mem_nil, or_false] at member
        rcases member with rfl | rfl | rfl
        · exact passed.timed_eligible other present
        · exact passed.budgeted_eligible other present
        · exact passed.priced_eligible other present
  unfold markSelected
  split
  · exact latest
  · exact latest

/-- An ineligible trace entry keeps the defaults of an entry that no gate evaluated. -/
theorem Passed.traceEntry_ineligible {rejected : List FilterRejection} {selected : EvaluatedTarget}
    {target : TargetCandidate} {entry : CandidateEvaluation}
    (traced : entry = traceEntry stages.evaluated rejected
      (markSelected selected (latestEvaluation stages.versions)) target)
    (rejects : entry.eligible = false) : ∃ reasons, entry = ineligible target reasons := by
  unfold traceEntry at traced
  split at traced
  · rename_i item found
    have eligible := passed.latest_eligible selected
      (passed.evaluated_eligible item (lastWith_some _ found).1)
    rw [traced, eligible] at rejects
    cases rejects
  · split at traced
    · exact ⟨_, traced⟩
    · exact ⟨_, traced⟩

end Passed

end Trace

/-- The view of a session without any event. -/
def emptyView : Except Exception HarnessSchedulingView :=
  buildSchedulingView asciiText (newAgentState ⟨"state", 0⟩ "session" "task" (.str "default")) 0

/-- A record of a list has the defaults of its class and one text elsewhere. -/
def demoRecord (kind text : String) : Value :=
  .object kind ((recordSchema kind).map fun field => (field.1, field.2.getD (.str text)))

/-- Every section of the state holds a value. -/
def visibleState : AgentState :=
  let state := newAgentState ⟨"state", 0⟩ "session" "task" (.str "default")
  let state := state.set .identity "harness_type" (.str "coding-agent")
  let state := state.set .tools "active_tools" (.list [demoRecord "ToolExecution" "tool"])
  let state := state.set .lifecycle "progress" (.float (1 / 2))
  let state := state.set .execution "nodes" (.list [demoRecord "ExecutionNode" "node"])
  let state := state.set .context "prompt_tokens" (.int 100)
  let state := state.set .inference "endpoints"
    (.list [demoRecord "InferenceEndpointState" "endpoint"])
  state.set .kvCache "local_reusable_tokens" (.int 100)

def asciiEnvironment : Environment :=
  { asciiText with identityKeys := identityAttributes, identityKeysPerm := .refl _ }

def asciiHost : Host := { asciiText with exp := fun _ => 1 }

/-- Every target succeeds with the same certainty. -/
def evenPredictor : SuccessPredictor := fun _ _ =>
  .ok { predictedSuccess := 95 / 100, uncertainty := 0, confidence := 1 }

end StateFlow.Scheduler
