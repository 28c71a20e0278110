import StateFlow.Construction.Gateway.Service
import StateFlow.Proof.Scheduler.Versions

namespace StateFlow.Gateway
open Python Table Effect State Scheduler Selection

section Dispatch
variable (gateway : RequestGateway) (moment : Moment) (request : ProviderNeutralRequest)

/-- A call records its request and routes it to a target. -/
def Dispatches (store : Store) (view : HarnessSchedulingView) (decision : RoutingDecision)
    (target : TargetCandidate) : Prop :=
  ∃ recorded, append gateway moment.requested (modelRequestEvent request moment.requested.now) store =
      .ok () recorded ∧
    route gateway moment request recorded = .ok (.target view decision target)

/-- A dispatching call sends the request to the target. -/
theorem handle_of_dispatches {store : Store} {view : HarnessSchedulingView}
    {decision : RoutingDecision} {target : TargetCandidate}
    (dispatched : Dispatches gateway moment request store view decision target) :
    ∃ recorded, handle gateway moment request store =
      finish gateway moment request (.target view decision target) recorded := by
  obtain ⟨recorded, appended, routed⟩ := dispatched
  refine ⟨recorded, ?_⟩
  unfold handle
  rw [bind_of_ok appended, get_bind, routed, bind_of_ok (lift_of_ok rfl recorded)]

/-- The stages of a view leave an item at the end of the placement. -/
def Wins (view : HarnessSchedulingView) (limits : RequestLimits) (outlook : KvOutlook)
    (policy : Policy) (stages : Stages) (selected : EvaluatedTarget) : Prop :=
  ∃ risks reason, Scheduled gateway.host gateway.config gateway.predictor view gateway.targets limits
    risks outlook policy stages selected reason

/-- The triple of the winner of the placement is registered once. -/
def SoleWinner (view : HarnessSchedulingView) : Prop :=
  ∀ limits outlook policy stages selected, Wins gateway view limits outlook policy stages selected →
    (withKey gateway.targets selected.key).length = 1

/-- A target was compared when the winner carries its own cost and latency. -/
def Compared (view : HarnessSchedulingView) (decision : RoutingDecision) (target : TargetCandidate) :
    Prop :=
  ∃ limits outlook policy stages selected, Wins gateway view limits outlook policy stages selected ∧
    selected ∈ stages.timed ∧ selected.target = target ∧
    decision.predictedCost = targetCost gateway.host gateway.config limits outlook policy target ∧
    decision.predictedLatencySeconds =
      (predictedLatency limits view.criticalPathUrgency target).predictedLatencySeconds

/-- A selected entry describes the target of its decision. -/
structure Describes (decision : RoutingDecision) (target : TargetCandidate)
    (entry : CandidateEvaluation) : Prop where
  key : entry.key = target.key
  tier : entry.tier = target.tier
  eligible : entry.eligible = true
  cost : entry.effectiveCost = decision.predictedCost
  latency : entry.predictedLatencySeconds = decision.predictedLatencySeconds

/-- A faithful dispatch sends the request to the target that the scheduler chose and traced. -/
structure Faithful (view : HarnessSchedulingView) (decision : RoutingDecision)
    (target : TargetCandidate) : Prop where
  accepted : ∃ limits, Scheduler.limits view = .ok limits ∧
    target ∈ (filterTargets limits gateway.targets).eligible
  compared : Compared gateway view decision target
  traced : ∃ entry, decision.candidates.filter CandidateEvaluation.selected = [entry] ∧
    Describes decision target entry
  bundled : ∀ text ids snapshotId policyVersion,
    ∃ bundle, routingControlBundle text ids decision snapshotId policyVersion = .ok bundle

end Dispatch

section Faithful
variable {gateway : RequestGateway} {moment : Moment} {request : ProviderNeutralRequest}
  {view : HarnessSchedulingView} {decision : RoutingDecision} {target : TargetCandidate}

/-- The stages of a view have one winner. -/
theorem wins_unique {limits limits' : RequestLimits} {outlook outlook' : KvOutlook}
    {policy policy' : Policy} {stages stages' : Stages} {selected selected' : EvaluatedTarget}
    (first : Wins gateway view limits outlook policy stages selected)
    (second : Wins gateway view limits' outlook' policy' stages' selected') :
    selected = selected' := by
  obtain ⟨risks, reason, one⟩ := first
  obtain ⟨risks', reason', other⟩ := second
  exact (one.unique other).2

/-- A dispatch has a decision and the first registered target with its key. -/
theorem routeView_target {seen : HarnessSchedulingView}
    (routed : routeView gateway moment view = .ok (.target seen decision target)) :
    seen = view ∧ schedule gateway.host gateway.config gateway.predictor moment.stamp view
      gateway.targets = .ok decision ∧ selectedTarget gateway decision = some target := by
  unfold routeView at routed
  split at routed
  · rename_i scheduled
    split at routed
    · rename_i found
      cases routed
      exact ⟨rfl, scheduled, found⟩
    · cases routed
  · cases routed
  · cases routed

theorem selectedTarget_eq (gateway : RequestGateway) (decision : RoutingDecision) :
    selectedTarget gateway decision =
      (withKey gateway.targets decision.selectedKey).head? := by
  unfold selectedTarget withKey
  rw [List.head?_filter]

/-- A routed view is dispatched faithfully when the triple of its winner is registered once. -/
theorem faithful_of_soleWinner
    (routed : routeView gateway moment view = .ok (.target view decision target))
    (sole : SoleWinner gateway view) : Faithful gateway view decision target := by
  obtain ⟨_, scheduled, found⟩ := routeView_target routed
  obtain ⟨limits, risks, outlook, policy, stages, selected, reason, facts, rfl⟩ :=
    schedule_ok scheduled
  have wins : Wins gateway view limits outlook policy stages selected := ⟨risks, reason, facts⟩
  obtain ⟨only, registered⟩ := List.length_eq_one_iff.mp (sole _ _ _ _ _ wins)
  rw [selectedTarget_eq] at found
  change (withKey gateway.targets selected.key).head? = some target at found
  rw [registered] at found
  cases found
  have member := selectTarget_mem facts.placed
  have eligible := (choosePolicy_ok facts.chosen).sublist
  have inside : policy.targets.Sublist gateway.targets := eligible.trans List.filter_sublist
  obtain ⟨listed, timed, cost, latency⟩ := facts.passed.selected_only member inside registered
  obtain ⟨traced, key, tier, marked⟩ := facts.passed.traceEntry_only member inside registered
    (filterTargets limits gateway.targets).rejected
  have entries := facts.passed.selected_entries member
    (filterTargets limits gateway.targets).rejected gateway.targets
    (facts.passed.held_of_sole member inside registered)
  have trace := entries.trans (congrArg (List.map _) registered)
  constructor
  · exact ⟨limits, facts.readLimits, eligible.subset listed⟩
  · exact ⟨limits, outlook, policy, stages, selected, wins, member, timed, cost, latency⟩
  · refine ⟨_, trace, ?_⟩
    rw [traced]
    exact ⟨key, tier, marked, rfl, rfl⟩
  · intro text ids snapshotId policyVersion
    apply routingControlBundle_returns_iff.mpr
    intro empty
    cases trace.symm.trans empty

/-- A faithful dispatch has a winner whose triple is registered once. -/
theorem soleWinner_of_faithful
    (routed : routeView gateway moment view = .ok (.target view decision target))
    (faithful : Faithful gateway view decision target) : SoleWinner gateway view := by
  obtain ⟨_, scheduled, _⟩ := routeView_target routed
  obtain ⟨limits, risks, outlook, policy, stages, selected, reason, facts, rfl⟩ :=
    schedule_ok scheduled
  obtain ⟨entry, traced, _⟩ := faithful.traced
  have member := selectTarget_mem facts.placed
  intro _ _ _ _ winner wins
  rw [wins_unique wins ⟨risks, reason, facts⟩]
  by_cases held : Held stages selected
  · have entries := (facts.passed.selected_entries member _ _ held).symm.trans traced
    have single := congrArg List.length entries
    rw [List.length_map] at single
    exact single
  · have entries := (facts.passed.unselected_entries member _ _ held).symm.trans traced
    cases entries

/-- A dispatched request reaches an accepted and compared target, which the trace selects once,
exactly when the triple of the winner of the placement is registered once. -/
theorem dispatch_faithful_iff (gateway : RequestGateway) (moment : Moment)
    (request : ProviderNeutralRequest) (store : Store) (view : HarnessSchedulingView)
    (decision : RoutingDecision) (target : TargetCandidate)
    (dispatched : Dispatches gateway moment request store view decision target) :
    Faithful gateway view decision target ↔ SoleWinner gateway view := by
  obtain ⟨recorded, _, routing⟩ := dispatched
  obtain ⟨read, _, routed⟩ := except_bind_ok routing
  have same := (routeView_target routed).1
  subst same
  exact ⟨soleWinner_of_faithful routed, faithful_of_soleWinner routed⟩

end Faithful

/-- A gateway in front of some targets. Every backend fails. -/
def asciiGateway (targets : List TargetCandidate) : RequestGateway where
  env := asciiEnvironment
  exp := fun _ => 1
  config := {}
  predictor := evenPredictor
  targets := targets
  send := fun _ _ => .error "unreachable"

def firstMoment : Moment :=
  ⟨⟨"state", 0⟩, ⟨"state", 0⟩, ⟨"decision", 0⟩, ⟨"state", 0⟩, ⟨"state", 0⟩⟩

def firstRequest : ProviderNeutralRequest := { requestId := "request", sessionId := "session" }

def upTarget : TargetCandidate := { modelId := "model", endpointId := "a", replicaId := "a" }

/-- A dispatch of the first request with its decision. -/
structure FirstDispatch (targets : List TargetCandidate) where
  view : HarnessSchedulingView
  decision : RoutingDecision
  target : TargetCandidate
  dispatched : Dispatches (asciiGateway targets) firstMoment firstRequest Store.empty view decision
    target

def dispatchFirst (targets : List TargetCandidate) : Option (FirstDispatch targets) :=
  match appended : append (asciiGateway targets) firstMoment.requested
      (modelRequestEvent firstRequest firstMoment.requested.now) Store.empty with
  | .error _ _ => none
  | .ok () recorded =>
      match routed : route (asciiGateway targets) firstMoment firstRequest recorded with
      | .ok (.target view decision target) =>
          some ⟨view, decision, target, recorded, appended, routed⟩
      | _ => none

/-- A registry whose shared triple belongs to a slower replica. -/
def sharedLoser : List TargetCandidate :=
  let slow := { upTarget with endpointId := "b", replicaId := "b", queueLatencySeconds := 5 }
  [slow, upTarget, { slow with queueLatencySeconds := 9 }]

/-- The winner is dispatched faithfully, although two slower replicas share a triple. -/
theorem dispatch_faithful_iff_of_single : ∃ first : FirstDispatch sharedLoser,
    first.target.replicaId = "a" ∧
    (Faithful (asciiGateway sharedLoser) first.view first.decision first.target ↔
      SoleWinner (asciiGateway sharedLoser) first.view) := by
  have present : (dispatchFirst sharedLoser).any (fun first => decide (first.target.replicaId = "a")) =
      true := by decide +kernel
  obtain ⟨first, _, same⟩ := (Option.any_eq_true _ _).mp present
  exact ⟨first, of_decide_eq_true same, dispatch_faithful_iff (asciiGateway sharedLoser) firstMoment
    firstRequest Store.empty first.view first.decision first.target first.dispatched⟩

/-- Two targets with one triple send a request to the unavailable one, with two selected entries, or
leave the trace without a selected entry. -/
theorem shared_triple_unfaithful :
    (∃ first : FirstDispatch [{ upTarget with available := false }, upTarget],
      first.target.available = false ∧
      ¬ Faithful (asciiGateway [{ upTarget with available := false }, upTarget]) first.view
        first.decision first.target) ∧
    ∃ first : FirstDispatch [upTarget, { upTarget with queueLatencySeconds := 1 }],
      ∀ text ids snapshotId policyVersion, ¬ ∃ bundle,
        routingControlBundle text ids first.decision snapshotId policyVersion = .ok bundle := by
  constructor
  · have twice : (dispatchFirst [{ upTarget with available := false }, upTarget]).any (fun first =>
        !first.target.available &&
          decide ((first.decision.candidates.filter CandidateEvaluation.selected).length = 2)) =
        true := by decide +kernel
    obtain ⟨first, _, both⟩ := (Option.any_eq_true _ _).mp twice
    rw [Bool.and_eq_true, Bool.not_eq_true', decide_eq_true_eq] at both
    refine ⟨first, both.1, fun faithful => ?_⟩
    obtain ⟨entry, traced, _⟩ := faithful.traced
    have one := congrArg List.length traced
    rw [both.2] at one
    cases one
  · have none : (dispatchFirst [upTarget, { upTarget with queueLatencySeconds := 1 }]).any
        (fun first => (first.decision.candidates.filter CandidateEvaluation.selected).isEmpty) =
        true := by decide +kernel
    obtain ⟨first, _, empty⟩ := (Option.any_eq_true _ _).mp none
    refine ⟨first, fun text ids snapshotId policyVersion returned => ?_⟩
    exact routingControlBundle_returns_iff.mp returned (List.isEmpty_iff.mp empty)

end StateFlow.Gateway
