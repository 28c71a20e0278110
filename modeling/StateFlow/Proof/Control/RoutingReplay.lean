import StateFlow.Construction.Scheduler.ContractBridge
import StateFlow.Proof.Control.Journal
import StateFlow.Proof.Control.Replay
import StateFlow.Proof.Scheduler.Stages

namespace StateFlow.Scheduler
open Python Table Effect State Selection Predictions Control

/-- A trace entry has the least value of a minimized objective. -/
def leastAt (entry : CandidateEvaluation) : Objective → Bool
  | .latency => entry.predictedLatencySeconds = 0
  | .cost => entry.effectiveCost = 0
  | _ => true

def leastOn (objectives : List Objective) (entry : CandidateEvaluation) : Bool :=
  objectives.all (leastAt entry)

/-- A replay keeps to the eligible entries under one of these conditions. -/
def KeepsEligible (config : ReplayPolicyConfig) (objectives : List Objective)
    (entries : List CandidateEvaluation) : Prop :=
  (∀ entry ∈ entries, entry.eligible = true) ∨
  (∃ early late, objectives = early ++ .success :: late ∧ ∃ entry ∈ entries,
    leastOn early entry = true ∧ config.successAbsoluteTolerance < entry.predictedSuccess) ∨
  ∃ first, entries.find? (leastOn objectives) = some first ∧ first.eligible = true

/-- The selected candidate of a replay was eligible in the trace. -/
def SelectsEligible (ids : BundleIds) (routing : RoutingDecision) (replay : ReplayDecision) : Prop :=
  ∃ entry ∈ routing.candidates.zipIdx,
    ids.candidate entry.2 = replay.selectedCandidateId ∧ entry.1.eligible = true

instance (ids : BundleIds) (routing : RoutingDecision) (replay : ReplayDecision) :
    Decidable (SelectsEligible ids routing replay) :=
  inferInstanceAs (Decidable (∃ entry ∈ routing.candidates.zipIdx, _))

section Bridge
variable {text : Text} {ids : BundleIds} {routing : RoutingDecision}
  {snapshotId policyVersion : String}

/-- The prediction of a trace entry and its position. -/
def routePrediction (ids : BundleIds) (snapshotId modelVersion : String)
    (entry : CandidateEvaluation × Nat) : Prediction :=
  Prediction.fromRoutingEvaluation snapshotId (routeCandidate ids entry.2 entry.1) entry.1
    modelVersion (ids.prediction entry.2)

theorem routingControlBundle_ok {bundle : RoutingControlBundle}
    (returned : routingControlBundle text ids routing snapshotId policyVersion = .ok bundle) :
    bundle.predictions = routing.candidates.zipIdx.map
      (routePrediction ids (bundleSnapshot text routing snapshotId) routing.schedulerVersion) := by
  simp only [routingControlBundle] at returned
  split at returned
  · cases returned
  · cases returned
    rfl

section Prediction
variable {snapshot version : String} {entry : CandidateEvaluation × Nat}

theorem routePrediction_recorded : Control.Recorded (routePrediction ids snapshot version entry) where
  known objective member := by
    simp only [List.mem_cons, List.not_mem_nil, or_false] at member
    rcases member with rfl | rfl | rfl <;> rfl
  unmeasured := rfl

theorem zeroOn_routePrediction (objectives : List Objective) :
    zeroOn objectives (routePrediction ids snapshot version entry) =
      leastOn objectives entry.1 := by
  unfold zeroOn leastOn
  congr 1

/-- An entry that no gate evaluated becomes a blank prediction. -/
theorem routePrediction_blank {target : TargetCandidate} {reasons : List String}
    (default : entry.1 = ineligible target reasons) :
    Blank (routePrediction ids snapshot version entry) := by
  intro objective
  cases objective <;> simp [recordedValue, rawObjective, routePrediction,
    Prediction.fromRoutingEvaluation, default, ineligible]

end Prediction

/-- The positions do not matter for a search among the entries. -/
theorem find?_zipIdx (entries : List CandidateEvaluation) (keep : CandidateEvaluation → Bool) :
    (entries.zipIdx.find? fun entry => keep entry.1).map Prod.fst = entries.find? keep := by
  have values : entries.zipIdx.map Prod.fst = entries := List.zipIdx_map_fst 0 entries
  rw [← Function.comp_def keep Prod.fst, ← List.find?_map, values]

section Trace
variable {entries : List CandidateEvaluation} {snapshot version : String}
  {config : ReplayPolicyConfig}

/-- A success objective separates the predictions as it separates the entries. -/
theorem separates_routePredictions (objectives : List Objective) :
    Separates config objectives (entries.zipIdx.map (routePrediction ids snapshot version)) ↔
      ∃ early late, objectives = early ++ .success :: late ∧ ∃ entry ∈ entries,
        leastOn early entry = true ∧ config.successAbsoluteTolerance < entry.predictedSuccess := by
  constructor
  · rintro ⟨early, late, split, prediction, member, zero, above⟩
    obtain ⟨entry, inside, rfl⟩ := List.mem_map.mp member
    rw [zeroOn_routePrediction] at zero
    exact ⟨early, late, split, entry.1, List.fst_mem_of_mem_zipIdx inside, zero, above⟩
  · rintro ⟨early, late, split, entry, member, zero, above⟩
    obtain ⟨index, found⟩ := List.getElem?_of_mem member
    refine ⟨early, late, split, _,
      List.mem_map_of_mem (List.mk_mem_zipIdx_iff_getElem?.mpr found), ?_, above⟩
    rw [zeroOn_routePrediction]
    exact zero

end Trace

end Bridge

/-- A replay that returned compares the first survivor of its objectives with its baseline. -/
theorem controlledReplay_ok {record : JoinedControlRecord} {policy : PolicyIntent}
    {constraints : ReplayConstraints} {config : ReplayPolicyConfig} {replay : ReplayDecision}
    (returned : controlledReplay record policy constraints config = .ok replay) :
    (record.predictions.map Prediction.candidateId).Nodup ∧
    ∃ start final selected, applyConstraints constraints record.predictions = .ok start ∧
      applyObjectives config policy.objectives start = .ok final ∧
      final.eligible.head? = some selected ∧
      replay.selectedCandidateId = selected.candidateId ∧
      ∃ baseline, baselinePrediction record = .ok baseline ∧
        replay.baselineCandidateId = baseline.candidateId := by
  simp only [controlledReplay] at returned
  split at returned
  · obtain ⟨_, raised, _⟩ := except_bind_ok returned
    cases raised
  · split at returned
    · obtain ⟨_, raised, _⟩ := except_bind_ok returned
      cases raised
    · split at returned
      · obtain ⟨_, raised, _⟩ := except_bind_ok returned
        cases raised
      · rename_i distinct
        obtain ⟨start, constrained, ranking⟩ := except_bind_ok returned
        split at ranking
        · obtain ⟨_, raised, _⟩ := except_bind_ok ranking
          cases raised
        · obtain ⟨final, ranked, selecting⟩ := except_bind_ok ranking
          cases survivors : final.eligible with
          | nil => rw [survivors] at selecting; cases selecting
          | cons selected rest =>
              rw [survivors] at selecting
              obtain ⟨baseline, compared, valuing⟩ := except_bind_ok selecting
              obtain ⟨values, _, finished⟩ := except_bind_ok valuing
              cases finished
              exact ⟨not_not.mp distinct, start, final, selected, constrained, ranked,
                by rw [survivors]; rfl, rfl, baseline, compared, rfl⟩

/-- The trace of a decision is blank where it is not eligible. -/
def BlankTrace (entries : List CandidateEvaluation) : Prop :=
  ∀ entry ∈ entries, entry.eligible = false → ∃ target reasons, entry = ineligible target reasons

theorem schedule_blankTrace {host : Host} {config : SchedulerConfig} {predictor : SuccessPredictor}
    {stamp : DecisionStamp} {view : HarnessSchedulingView} {targets : List TargetCandidate}
    {routing : RoutingDecision}
    (scheduled : schedule host config predictor stamp view targets = .ok routing) :
    BlankTrace routing.candidates := by
  obtain ⟨limits, risks, outlook, policy, stages, selected, reason, facts, rfl⟩ :=
    schedule_ok scheduled
  intro entry member rejects
  obtain ⟨target, _, rfl⟩ := List.mem_map.mp member
  exact ⟨target, facts.passed.traceEntry_ineligible rfl rejects⟩

/-- The survivors of a replay decide whether it keeps to the eligible entries. -/
theorem selectsEligible_iff_of_survivors {ids : BundleIds} {routing : RoutingDecision}
    {snapshot version : String} {config : ReplayPolicyConfig} {objectives : List Objective}
    {replay : ReplayDecision} {start final : ReplayState} {selected : Prediction}
    (blankTrace : BlankTrace routing.candidates)
    (predicted : start.eligible = routing.candidates.zipIdx.map (routePrediction ids snapshot version))
    (distinct : (start.eligible.map Prediction.candidateId).Nodup)
    (ranked : applyObjectives config objectives start = .ok final)
    (first : final.eligible.head? = some selected)
    (named : replay.selectedCandidateId = selected.candidateId) :
    SelectsEligible ids routing replay ↔ KeepsEligible config objectives routing.candidates := by
  have recorded : ∀ prediction ∈ start.eligible, Control.Recorded prediction := by
    rw [predicted]
    rintro _ member
    obtain ⟨entry, _, rfl⟩ := List.mem_map.mp member
    exact routePrediction_recorded
  have survives : selected ∈ final.eligible := List.mem_of_head? first
  have inside := (applyObjectives_sublist recorded ranked).subset survives
  have member := inside
  rw [predicted] at member
  obtain ⟨entry, present, rfl⟩ := List.mem_map.mp member
  -- The identifier of the selection belongs to one entry only.
  have selects : SelectsEligible ids routing replay ↔ entry.1.eligible = true := by
    constructor
    · rintro ⟨other, held, same, eligible⟩
      rw [predicted, List.map_map] at distinct
      rwa [List.inj_on_of_nodup_map distinct held present (same.trans named)] at eligible
    · exact fun eligible => ⟨entry, present, named.symm, eligible⟩
  have listed : entry.1 ∈ routing.candidates := List.fst_mem_of_mem_zipIdx present
  rw [selects]
  by_cases eligible : ∀ other ∈ routing.candidates, other.eligible = true
  · exact ⟨fun _ => Or.inl eligible, fun _ => eligible entry.1 listed⟩
  · push Not at eligible
    obtain ⟨rejected, held, rejects⟩ := eligible
    obtain ⟨index, position⟩ := List.getElem?_of_mem held
    obtain ⟨target, reasons, default⟩ := blankTrace rejected held (by simpa using rejects)
    have isBlank : Blank (routePrediction ids snapshot version (rejected, index)) :=
      routePrediction_blank default
    have blankInside : routePrediction ids snapshot version (rejected, index) ∈ start.eligible := by
      rw [predicted]
      exact List.mem_map_of_mem (List.mk_mem_zipIdx_iff_getElem?.mpr position)
    have decided := applyObjectives_decides recorded blankInside isBlank ranked
    unfold Control.Decides at decided
    rw [predicted, separates_routePredictions] at decided
    rcases decided with ⟨separated, cleared⟩ | ⟨together, leads⟩
    · refine ⟨fun _ => Or.inr (Or.inl separated), fun _ => ?_⟩
      by_contra blank
      obtain ⟨target, reasons, default⟩ := blankTrace entry.1 listed (by simpa using blank)
      exact cleared _ survives (routePrediction_blank default)
    · rw [first, List.find?_map] at leads
      obtain ⟨other, found, same⟩ := Option.map_eq_some_iff.mp leads.symm
      rw [predicted, List.map_map] at distinct
      have named := congrArg Prediction.candidateId same
      cases List.inj_on_of_nodup_map distinct (List.mem_of_find?_eq_some found) present named
      have least : routing.candidates.find? (leastOn objectives) = some entry.1 := by
        rw [← find?_zipIdx]
        have keeps : zeroOn objectives ∘ routePrediction ids snapshot version =
            fun entry => leastOn objectives entry.1 := funext fun _ => zeroOn_routePrediction _
        rw [keeps] at found
        rw [found]
        rfl
      constructor
      · exact fun eligible => Or.inr (Or.inr ⟨entry.1, least, eligible⟩)
      · rintro (every | separated | ⟨leader, found, eligible⟩)
        · exact every entry.1 listed
        · exact absurd separated together
        · cases least.symm.trans found
          exact eligible

section Replay
variable {text : Text} {ids : BundleIds} {snapshotId policyVersion : String}

/-- A replay of a recorded routing decision selects an eligible candidate exactly when the trace
and the order of the objectives keep to the eligible entries. -/
theorem replay_selectsEligible_iff {host : Host} {config : SchedulerConfig}
    {predictor : SuccessPredictor} {stamp : DecisionStamp} {view : HarnessSchedulingView}
    {targets : List TargetCandidate} {routing : RoutingDecision} {bundle : RoutingControlBundle}
    {journal next : InMemoryControlJournal} {record : JoinedControlRecord} {policy : PolicyIntent}
    {tolerances : ReplayPolicyConfig} {replay : ReplayDecision}
    (scheduled : schedule host config predictor stamp view targets = .ok routing)
    (bundled : routingControlBundle text ids routing snapshotId policyVersion = .ok bundle)
    (recorded : recordDecision bundle.decision bundle.predictions journal = .ok record next)
    (replayed : controlledReplay record policy {} tolerances = .ok replay) :
    SelectsEligible ids routing replay ↔
      KeepsEligible tolerances policy.objectives routing.candidates := by
  obtain ⟨distinct, start, final, selected, constrained, ranked, first, named, _⟩ :=
    controlledReplay_ok replayed
  have same := recordDecision_predictions recorded distinct
  have eligible := applyConstraints_default constrained
  have predicted := routingControlBundle_ok bundled
  exact selectsEligible_iff_of_survivors (schedule_blankTrace scheduled)
    (eligible.trans (same.trans predicted)) (eligible ▸ distinct) ranked first named

end Replay

def routeIds : BundleIds :=
  ⟨fun index => "candidate-" ++ toString index, fun index => "prediction-" ++ toString index⟩

/-- A decision with its bundle, its record, and its replay. -/
structure ReplayedRoute where
  view : HarnessSchedulingView
  routing : RoutingDecision
  bundle : RoutingControlBundle
  record : JoinedControlRecord
  journal : InMemoryControlJournal
  replay : ReplayDecision

/-- These facts make a replayed route one of the targets. -/
structure ReplayedRoute.Of (route : ReplayedRoute) (targets : List TargetCandidate)
    (objectives : List Objective) : Prop where
  scheduled : schedule asciiHost {} evenPredictor ⟨"decision", 0⟩ route.view targets =
    .ok route.routing
  bundled : routingControlBundle asciiText routeIds route.routing "" "policy" = .ok route.bundle
  recorded : recordDecision route.bundle.decision route.bundle.predictions {} =
    .ok route.record route.journal
  replayed : controlledReplay route.record ⟨"policy", objectives, "1"⟩ {} {} = .ok route.replay

def routeAndReplay (targets : List TargetCandidate) (objectives : List Objective) :
    Option ReplayedRoute :=
  match emptyView with
  | .error _ => none
  | .ok view =>
    match schedule asciiHost {} evenPredictor ⟨"decision", 0⟩ view targets with
    | .error _ => none
    | .ok routing =>
      match routingControlBundle asciiText routeIds routing "" "policy" with
      | .error _ => none
      | .ok bundle =>
        match recordDecision bundle.decision bundle.predictions {} with
        | .error _ _ => none
        | .ok record journal =>
          match controlledReplay record ⟨"policy", objectives, "1"⟩ {} {} with
          | .error _ => none
          | .ok replay => some ⟨view, routing, bundle, record, journal, replay⟩

theorem routeAndReplay_some {targets : List TargetCandidate} {objectives : List Objective}
    {route : ReplayedRoute} (found : routeAndReplay targets objectives = some route) :
    route.Of targets objectives := by
  unfold routeAndReplay at found
  split at found
  · cases found
  · split at found
    · cases found
    · split at found
      · cases found
      · split at found
        · cases found
        · split at found
          · cases found
          · cases found
            exact ⟨‹_›, ‹_›, ‹_›, ‹_›⟩

def slowTarget : TargetCandidate :=
  { modelId := "model", endpointId := "a", replicaId := "a", queueLatencySeconds := 1 }

def downTarget : TargetCandidate :=
  { modelId := "model", endpointId := "b", replicaId := "b", available := false }

/-- A success objective keeps the replay of a trace with a rejected target to the eligible one. -/
theorem replay_selectsEligible_iff_of_success : ∃ route : ReplayedRoute,
    route.Of [slowTarget, downTarget] [.success] ∧
    (SelectsEligible routeIds route.routing route.replay ↔
      KeepsEligible {} [.success] route.routing.candidates) := by
  have present : (routeAndReplay [slowTarget, downTarget] [.success]).isSome = true := by
    decide +kernel
  obtain ⟨route, found⟩ := Option.isSome_iff_exists.mp present
  have facts := routeAndReplay_some found
  exact ⟨route, facts, replay_selectsEligible_iff facts.scheduled facts.bundled facts.recorded
    facts.replayed⟩

/-- A latency objective selects the target that the hard filter rejected. -/
theorem replay_selects_rejected_target : ∃ route : ReplayedRoute,
    route.Of [slowTarget, downTarget] [.latency] ∧
    ¬ SelectsEligible routeIds route.routing route.replay := by
  have chosen : (routeAndReplay [slowTarget, downTarget] [.latency]).any (fun route =>
      decide (¬ SelectsEligible routeIds route.routing route.replay)) = true := by decide +kernel
  obtain ⟨route, found, rejected⟩ := (Option.any_eq_true _ _).mp chosen
  exact ⟨route, routeAndReplay_some found, of_decide_eq_true rejected⟩

end StateFlow.Scheduler
