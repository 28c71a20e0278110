import StateFlow.Proof.Control.JournalRecords
import StateFlow.Proof.Control.RoutingReplay
import StateFlow.Proof.Scheduler.Versions

namespace StateFlow.Scheduler
open Python Table Effect State Selection Predictions Control

/-- The generated identifiers of the first entries are distinct, and none is empty. -/
structure BundleIds.Distinct (ids : BundleIds) (count : Nat) : Prop where
  candidates : ((List.range count).map ids.candidate).Nodup
  predictions : ((List.range count).map ids.prediction).Nodup
  named : ∀ index < count, ids.candidate index ≠ ""

/-- The trace has one evaluation for each target in their order. -/
def TracesTargets (routing : RoutingDecision) (targets : List TargetCandidate) : Prop :=
  routing.candidates.map CandidateEvaluation.key = targets.map TargetCandidate.key

/-- One position of the trace is selected, and the decision names its entry. -/
structure SelectsAt (routing : RoutingDecision) (entry : CandidateEvaluation × Nat) : Prop where
  sole : (routing.candidates.zipIdx.filter fun other => other.1.selected) = [entry]
  named : entry.1.key = routing.selectedKey

section Trace
variable {host : Host} {config : SchedulerConfig} {predictor : SuccessPredictor}
  {stamp : DecisionStamp} {view : HarnessSchedulingView} {targets : List TargetCandidate}
  {routing : RoutingDecision}

theorem schedule_traces
    (scheduled : schedule host config predictor stamp view targets = .ok routing) :
    TracesTargets routing targets := by
  obtain ⟨limits, risks, outlook, policy, stages, selected, reason, facts, rfl⟩ :=
    schedule_ok scheduled
  unfold TracesTargets
  change (targets.map _).map CandidateEvaluation.key = _
  rw [List.map_map]
  apply List.map_congr_left
  intro target _
  exact facts.passed.traceEntry_key _ target

/-- Over distinct targets, one entry is selected. -/
theorem schedule_selects
    (scheduled : schedule host config predictor stamp view targets = .ok routing)
    (distinct : (targets.map TargetCandidate.key).Nodup) :
    ∃ entry, SelectsAt routing entry := by
  obtain ⟨limits, risks, outlook, policy, stages, selected, reason, facts, rfl⟩ :=
    schedule_ok scheduled
  obtain ⟨inside, only, sole⟩ := facts.sole distinct
  have member := selectTarget_mem facts.placed
  have held := facts.passed.held_of_sole member inside sole
  have marked := facts.passed.selected_entries member (filterTargets limits targets).rejected
    targets held
  obtain ⟨traced, _⟩ := facts.passed.traceEntry_only member inside sole
    (filterTargets limits targets).rejected
  rw [sole, List.map_singleton, traced, ← List.zipIdx_map_fst 0 (targets.map _),
    List.filter_map] at marked
  obtain ⟨entry, sole, projected⟩ := List.map_eq_singleton_iff.mp marked
  refine ⟨entry, sole, ?_⟩
  rw [projected]
  rfl

end Trace

section Bundle
variable {text : Text} {ids : BundleIds} {routing : RoutingDecision}
  {entry : CandidateEvaluation × Nat} (selects : SelectsAt routing entry)
include selects

theorem SelectsAt.listed : entry ∈ routing.candidates.zipIdx := by
  have found : entry ∈ routing.candidates.zipIdx.filter fun other => other.1.selected := by
    rw [selects.sole]
    exact List.mem_singleton_self entry
  exact (List.mem_filter.mp found).1

theorem SelectsAt.position : entry.2 < routing.candidates.length :=
  List.snd_lt_of_mem_zipIdx selects.listed

/-- The bundle of a decision is valid, and its action names the candidate of its selected entry. -/
theorem SelectsAt.bundle (text : Text) (ids : BundleIds) (snapshotId policyVersion : String) :
    ∃ bundle, routingControlBundle text ids routing snapshotId policyVersion = .ok bundle ∧
      validBundle bundle.decision bundle.predictions = true ∧
      bundle.decision.selectedAction.candidateId = .str (ids.candidate entry.2) := by
  have last : (routing.candidates.zipIdx.filter fun other => other.1.selected).getLast? =
      some entry := by
    rw [selects.sole]
    rfl
  have present : routing.candidates.zipIdx ≠ [] := List.ne_nil_of_mem selects.listed
  unfold routingControlBundle
  simp only [last]
  refine ⟨_, rfl, ?_, ?_⟩
  · simp only [validBundle, Bool.and_eq_true, decide_eq_true_eq, List.map_map, List.all_map]
    refine ⟨⟨⟨⟨?_, trivial⟩, rfl⟩, ?_⟩, trivial⟩
    · simpa using present
    · rw [List.all_eq_true]
      exact fun _ _ => decide_eq_true rfl
  · change getD (assign "candidate_id" _ _) "candidate_id" Value.none = _
    rw [getD, lookup_assign_same]
    rfl

end Bundle

section Names
variable {ids : BundleIds} {snapshot version : String} (entries : List CandidateEvaluation)

theorem routePredictions_candidates :
    (entries.zipIdx.map (routePrediction ids snapshot version)).map Prediction.candidateId =
      (List.range entries.length).map ids.candidate := by
  rw [List.range_eq_range', ← List.zipIdx_map_snd 0 entries, List.map_map, List.map_map]
  rfl

theorem routePredictions_predictions :
    (entries.zipIdx.map (routePrediction ids snapshot version)).map Prediction.predictionId =
      (List.range entries.length).map ids.prediction := by
  rw [List.range_eq_range', ← List.zipIdx_map_snd 0 entries, List.map_map, List.map_map]
  rfl

end Names

section Record
variable {ids : BundleIds} {routing : RoutingDecision} {entry : CandidateEvaluation × Nat}
  {snapshot : String} {decision : DecisionRecord} {predictions : List Prediction}
  (selects : SelectsAt routing entry) (generated : ids.Distinct routing.candidates.length)
  (predicted : predictions =
    routing.candidates.zipIdx.map (routePrediction ids snapshot routing.schedulerVersion))
include selects generated predicted

/-- One prediction has the candidate of the selected entry. -/
theorem SelectsAt.matching : (predictions.filter fun item =>
    (Value.str item.candidateId).eq (.str (ids.candidate entry.2))) =
      [routePrediction ids snapshot routing.schedulerVersion entry] := by
  have distinct : (predictions.map Prediction.candidateId).Nodup := by
    rw [predicted, routePredictions_candidates]
    exact generated.candidates
  have member : routePrediction ids snapshot routing.schedulerVersion entry ∈ predictions := by
    rw [predicted]
    exact List.mem_map_of_mem selects.listed
  exact filter_of_nodup Prediction.candidateId distinct member

variable (valid : validBundle decision predictions = true)
  (named : decision.selectedAction.candidateId = .str (ids.candidate entry.2))
include valid named

/-- An empty journal accepts the bundle and joins it again. -/
theorem SelectsAt.recorded : ∃ record journal,
    recordDecision decision predictions {} = .ok record journal ∧ record.decision = decision ∧
      record.predictions = predictions := by
  have truthy : (Value.str (ids.candidate entry.2)).truthy = true := by
    simpa [Value.truthy] using generated.named entry.2 selects.position
  have storable : Storable {} decision predictions
      (routePrediction ids snapshot routing.schedulerVersion entry) := by
    refine ⟨valid, ?_, rfl, rfl, ?_⟩
    · simp only [selectedPrediction, named, truthy, Bool.not_true, Bool.false_eq_true, if_false,
        selects.matching generated predicted]
    · rw [List.any_eq_false]
      exact fun prediction _ => Bool.false_ne_true
  have separate : (predictions.map Prediction.predictionId).Nodup := by
    rw [predicted, routePredictions_predictions]
    exact generated.predictions
  obtain ⟨record, accepted, returned, same⟩ := recordDecision_of_storable storable
  exact ⟨record, _, accepted, same,
    joined_of_distinct (predictionIds_of_valid valid) returned separate⟩

omit valid in
/-- The baseline of a record is the prediction of the selected entry. -/
theorem SelectsAt.baseline {record : JoinedControlRecord} (same : record.decision = decision)
    (kept : record.predictions = predictions) : baselinePrediction record =
      .ok (routePrediction ids snapshot routing.schedulerVersion entry) := by
  have truthy : (Value.str (ids.candidate entry.2)).truthy = true := by
    simpa [Value.truthy] using generated.named entry.2 selects.position
  simp only [baselinePrediction, same, kept, named, truthy, selects.matching generated predicted]

end Record

section Replay
variable {text : Text} {ids : BundleIds} {routing : RoutingDecision}
  {entry : CandidateEvaluation × Nat} {snapshotId policyVersion : String}

/-- A record of a routing decision has the routed candidate as its baseline, and so does each
replay of it. -/
structure RoutesBaseline (ids : BundleIds) (entry : CandidateEvaluation × Nat)
    (record : JoinedControlRecord) : Prop where
  prediction : ∃ baseline, baselinePrediction record = .ok baseline ∧
    baseline.candidateId = ids.candidate entry.2
  replay : ∀ policy constraints config replay,
    controlledReplay record policy constraints config = .ok replay →
      replay.baselineCandidateId = ids.candidate entry.2

/-- An empty journal records the bundle of a decision with its routed candidate as the baseline. -/
def RecordsBaseline (text : Text) (ids : BundleIds) (routing : RoutingDecision)
    (entry : CandidateEvaluation × Nat) (snapshotId policyVersion : String) : Prop :=
  ∃ bundle record journal,
    routingControlBundle text ids routing snapshotId policyVersion = .ok bundle ∧
    recordDecision bundle.decision bundle.predictions {} = .ok record journal ∧
    RoutesBaseline ids entry record

theorem SelectsAt.recordsBaseline (selects : SelectsAt routing entry)
    (generated : ids.Distinct routing.candidates.length) (text : Text)
    (snapshotId policyVersion : String) :
    RecordsBaseline text ids routing entry snapshotId policyVersion := by
  obtain ⟨bundle, bundled, valid, named⟩ := selects.bundle text ids snapshotId policyVersion
  have predicted := routingControlBundle_ok bundled
  obtain ⟨record, journal, accepted, same, kept⟩ := selects.recorded generated predicted valid named
  have compared := selects.baseline generated predicted named same kept
  refine ⟨bundle, record, journal, bundled, accepted, ⟨_, compared, rfl⟩, ?_⟩
  intro policy constraints config replay replayed
  obtain ⟨_, _, _, _, _, _, _, _, baseline, found, answered⟩ := controlledReplay_ok replayed
  cases compared.symm.trans found
  exact answered

end Replay

/-- Over distinct targets, a decision traces every target once, selects the returned target, and
leads to a record whose baseline is the routed candidate. -/
theorem schedule_recordsBaseline {host : Host} {config : SchedulerConfig}
    {predictor : SuccessPredictor} {stamp : DecisionStamp} {view : HarnessSchedulingView}
    {targets : List TargetCandidate} {routing : RoutingDecision} {ids : BundleIds}
    (scheduled : schedule host config predictor stamp view targets = .ok routing)
    (distinct : (targets.map TargetCandidate.key).Nodup) (generated : ids.Distinct targets.length) :
    TracesTargets routing targets ∧ ∃ entry, SelectsAt routing entry ∧
      ∀ text snapshotId policyVersion,
        RecordsBaseline text ids routing entry snapshotId policyVersion := by
  have traces := schedule_traces scheduled
  obtain ⟨entry, selects⟩ := schedule_selects scheduled distinct
  have counted : routing.candidates.length = targets.length := by
    simpa using congrArg List.length traces
  rw [← counted] at generated
  exact ⟨traces, entry, selects, selects.recordsBaseline generated⟩

/-- The trace of an eligible and of a rejected target leads to a recorded baseline. -/
theorem schedule_recordsBaseline_of_two : ∃ route : ReplayedRoute,
    route.Of [slowTarget, downTarget] [.success] ∧
    TracesTargets route.routing [slowTarget, downTarget] ∧
    ∃ entry, SelectsAt route.routing entry ∧ ∀ text snapshotId policyVersion,
      RecordsBaseline text routeIds route.routing entry snapshotId policyVersion := by
  have present : (routeAndReplay [slowTarget, downTarget] [.success]).isSome = true := by
    decide +kernel
  obtain ⟨route, found⟩ := Option.isSome_iff_exists.mp present
  have facts := routeAndReplay_some found
  have distinct : ([slowTarget, downTarget].map TargetCandidate.key).Nodup := by decide
  have generated : routeIds.Distinct 2 := ⟨by decide, by decide, by decide⟩
  exact ⟨route, facts, schedule_recordsBaseline facts.scheduled distinct generated⟩

end StateFlow.Scheduler
