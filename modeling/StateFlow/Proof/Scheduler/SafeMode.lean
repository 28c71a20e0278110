import StateFlow.Construction.Scheduler.Predictor
import StateFlow.Proof.Scheduler.Selection
import StateFlow.Proof.Scheduler.Versions
import StateFlow.Proof.State.Completeness

namespace StateFlow.Scheduler
open Python Table Effect State Selection

section Unknown
variable {text : Text} {state : AgentState} {now : Int} {view : HarnessSchedulingView}
  {risks : RiskSignals} {config : SchedulerConfig}

/-- An override names the unknown state exactly when the completeness is below its bound. -/
theorem unknown_reason_iff : "state_unknown_safe_fallback" ∈ (criticalOverride risks config).reasons ↔
    risks.stateCompleteness < config.minStateCompletenessForDowngrade := by
  simp only [criticalOverride, List.mem_map, List.mem_filter, List.mem_cons, List.not_mem_nil,
    or_false, Prod.exists, exists_eq_right]
  simp

/-- An override with a reason is active. -/
theorem active_of_reason {reason : String}
    (member : reason ∈ (criticalOverride risks config).reasons) :
    (criticalOverride risks config).active = true := by
  have flagged : (criticalOverride risks config).active =
      !(criticalOverride risks config).reasons.isEmpty := rfl
  rw [flagged]
  cases reasons : (criticalOverride risks config).reasons with
  | nil => rw [reasons] at member; cases member
  | cons first rest => rfl

theorem risks_completeness (read : Scheduler.risks view = .ok risks) :
    risks.stateCompleteness = view.stateCompleteness := by
  unfold Scheduler.risks at read
  iterate 3 obtain ⟨_, _, read⟩ := except_bind_ok read
  cases read
  rfl

/-- A state whose marks all expired switches to the safe policy exactly when some part of it
holds no value. -/
theorem expired_fallback_iff (built : buildSchedulingView text state now = .ok view)
    (read : Scheduler.risks view = .ok risks) (marked : state.fieldMeta ≠ [])
    (expired : ∀ entry ∈ state.fieldMeta, Expired now entry.2) :
    ((criticalOverride risks {}).active = true ∧
      "state_unknown_safe_fallback" ∈ (criticalOverride risks {}).reasons) ↔
    ¬ FullyVisible state := by
  rw [and_iff_right_of_imp active_of_reason, unknown_reason_iff, risks_completeness read]
  exact completeness_expired expired marked built

end Unknown

section Policy
variable {host : Host} {config : SchedulerConfig} {predictor : SuccessPredictor}
  {stamp : DecisionStamp} {view : HarnessSchedulingView} {targets : List TargetCandidate}
  {limits : RequestLimits} {risks : RiskSignals} {decision : RoutingDecision}

/-- The selected target is a capable target that passed the filter. -/
def SelectsCapable (host : Host) (eligible : List TargetCandidate) (decision : RoutingDecision) :
    Prop :=
  ∃ target ∈ eligible, target.key = decision.selectedKey ∧ isCapable host target = .ok true

/-- A critical signal or the estimate of a leader switches to the safe policy. -/
def Switches (config : SchedulerConfig) (predictor : SuccessPredictor)
    (view : HarnessSchedulingView) (risks : RiskSignals) (eligible : List TargetCandidate) : Prop :=
  (criticalOverride risks config).active = true ∨
    ∃ target, leader eligible target.modelId = some target ∧
      Unsafe config (predictor view) target

/-- A decision reports an override exactly when the policy switches, and it selects a capable
target then. -/
theorem schedule_switches (readLimits : Scheduler.limits view = .ok limits)
    (readRisks : Scheduler.risks view = .ok risks)
    (returned : schedule host config predictor stamp view targets = .ok decision) :
    (decision.overrideReasons ≠ [] ↔
      Switches config predictor view risks (filterTargets limits targets).eligible) ∧
    (decision.overrideReasons ≠ [] →
      (∃ target ∈ (filterTargets limits targets).eligible, isCapable host target = .ok true) →
      SelectsCapable host (filterTargets limits targets).eligible decision) := by
  obtain ⟨own, signals, outlook, policy, stages, selected, reason, facts, rfl⟩ :=
    schedule_ok returned
  cases facts.readLimits.symm.trans readLimits
  cases facts.readRisks.symm.trans readRisks
  have chosen := choosePolicy_ok facts.chosen
  have reported : (buildRoutingDecision config stamp view selected
      (targets.map (traceEntry stages.evaluated (filterTargets limits targets).rejected
        (markSelected selected (latestEvaluation stages.versions)))) reason
      stages.policy.override.reasons stages.gate.fallback).overrideReasons ≠ [] ↔
      policy.override.active = true := by
    rw [choosePolicy_reasons facts.chosen, ← facts.passed.kept]
    cases stages.policy.override.reasons <;> simp [buildRoutingDecision]
  constructor
  · rw [reported, chosen.active, Overridden, requiresSafeMode_iff]
    rfl
  · intro overridden some
    have restricts := chosen.restricts (reported.mp overridden)
    obtain ⟨target, listed, key⟩ := facts.passed.timed_key (selectTarget_mem facts.placed)
    exact ⟨target, restricts.sublist.subset listed, key, restricts.capable some target listed⟩

end Policy

section Heuristic
variable {host : Host} {config : SchedulerConfig} {view : HarnessSchedulingView}
  {target : TargetCandidate}

/-- The heuristic estimate raises, or its uncertainty reaches the threshold. -/
def Uncertain (host : Host) (config : SchedulerConfig) (view : HarnessSchedulingView)
    (target : TargetCandidate) : Prop :=
  ∀ estimate, heuristicPredictor host view target = .ok estimate →
    config.predictorUncertaintyOverride ≤ estimate.uncertainty

/-- A prediction is unknown when its target is marked or its estimate is uncertain. -/
def Doubtful (host : Host) (config : SchedulerConfig) (view : HarnessSchedulingView)
    (target : TargetCandidate) : Prop :=
  outOfDistribution target = true ∨ Uncertain host config view target

/-- A heuristic estimate bounds the uncertainty of its profile and has one note. -/
theorem heuristicEstimate_ok {estimate : SuccessEstimate}
    (returned : heuristicEstimate host view target = .ok estimate) :
    ∃ uncertainty, profiledUncertainty host view target = .ok uncertainty ∧
      estimate.uncertainty = max 0 (min (1 / 2) uncertainty) ∧
      estimate.notes = ["heuristic_capability_profile"] := by
  unfold heuristicEstimate at returned
  obtain ⟨_, _, planning⟩ := except_bind_ok returned
  obtain ⟨_, _, profiling⟩ := except_bind_ok planning
  obtain ⟨uncertainty, profiled, finished⟩ := except_bind_ok profiling
  cases finished
  exact ⟨uncertainty, profiled, rfl, rfl⟩

/-- The notes of a heuristic estimate never ask for the safe policy. -/
theorem heuristicNotes_silent : (["heuristic_capability_profile"].any fun note =>
    note.startsWith "predictor_error:"
      || decide ("out_of_distribution".toList <:+: note.toList)) = false := by
  decide +kernel

/-- A heuristic estimate asks for the safe policy exactly when it is uncertain. -/
theorem unsafe_iff_uncertain :
    Unsafe config (heuristicPredictor host view) target ↔ Uncertain host config view target := by
  unfold Unsafe Uncertain safeEstimate
  cases estimated : heuristicPredictor host view target with
  | error name =>
      refine iff_of_true ?_ fun _ other => by cases other
      have named : ("predictor_error:" ++ name).startsWith "predictor_error:" = true := by
        rw [String.startsWith_string_iff, String.toList_append]
        exact List.prefix_append _ _
      simp only [requiresSafeMode, List.any_cons, named, Bool.true_or, Bool.or_true]
  | ok estimate =>
      have returned : heuristicEstimate host view target = .ok estimate := by
        unfold heuristicPredictor at estimated
        cases result : heuristicEstimate host view target with
        | error exception => rw [result] at estimated; cases estimated
        | ok other => rw [result] at estimated; cases estimated; rfl
      obtain ⟨uncertainty, _, bounded, notes⟩ := heuristicEstimate_ok returned
      have nonneg : 0 ≤ estimate.uncertainty := bounded ▸ le_max_left _ _
      simp only [requiresSafeMode, List.any_cons, List.any_nil, Bool.or_false]
      rw [notes, heuristicNotes_silent, Bool.or_false, decide_eq_true_eq, max_le_iff]
      simp [nonneg]

/-- A profile that can be read is uncertain when its bounded uncertainty reaches the threshold. -/
theorem uncertain_iff : Uncertain host config view target ↔
    (∃ exception, heuristicEstimate host view target = .error exception) ∨
      ∃ uncertainty, profiledUncertainty host view target = .ok uncertainty ∧
        config.predictorUncertaintyOverride ≤ max 0 (min (1 / 2) uncertainty) := by
  unfold Uncertain heuristicPredictor
  cases result : heuristicEstimate host view target with
  | error exception =>
      exact iff_of_true (fun _ other => by cases other) (Or.inl ⟨exception, rfl⟩)
  | ok estimate =>
      obtain ⟨uncertainty, profiled, bounded, _⟩ := heuristicEstimate_ok result
      constructor
      · intro reaches
        exact Or.inr ⟨uncertainty, profiled, bounded ▸ reaches estimate rfl⟩
      · rintro (⟨exception, raised⟩ | ⟨other, same, reaches⟩) found returned
        · cases raised
        · cases returned
          cases profiled.symm.trans same
          rwa [bounded]

variable {stamp : DecisionStamp} {targets : List TargetCandidate} {limits : RequestLimits}
  {risks : RiskSignals} {decision : RoutingDecision}

/-- A doubtful prediction switches to the safe policy exactly when a critical signal is active or
the first replica of some model is uncertain. -/
theorem doubtful_switches_iff (readLimits : Scheduler.limits view = .ok limits)
    (readRisks : Scheduler.risks view = .ok risks)
    (returned : schedule host config (heuristicPredictor host) stamp view targets = .ok decision) :
    ((∃ target ∈ (filterTargets limits targets).eligible, Doubtful host config view target) →
      decision.overrideReasons ≠ [] ∧
        ((∃ target ∈ (filterTargets limits targets).eligible,
            host.lower target.tier ∈ capableTiers) →
          SelectsCapable host (filterTargets limits targets).eligible decision)) ↔
    ((∃ target ∈ (filterTargets limits targets).eligible, Doubtful host config view target) →
      (criticalOverride risks config).active = true ∨
        ∃ target, leader (filterTargets limits targets).eligible target.modelId = some target ∧
          Uncertain host config view target) := by
  obtain ⟨switches, selects⟩ := schedule_switches readLimits readRisks returned
  have asked : Switches config (heuristicPredictor host) view risks
      (filterTargets limits targets).eligible ↔
      (criticalOverride risks config).active = true ∨
        ∃ target, leader (filterTargets limits targets).eligible target.modelId = some target ∧
          Uncertain host config view target :=
    or_congr_right (exists_congr fun _ => and_congr_right fun _ => unsafe_iff_uncertain)
  rw [← asked, ← switches]
  refine imp_congr_right fun _ => and_iff_left_of_imp fun overridden => ?_
  rintro ⟨target, listed, tier⟩
  exact selects overridden ⟨target, listed, if_pos tier⟩

end Heuristic

section Demo

/-- The visible state with one mark. -/
def staleState : AgentState := { visibleState with fieldMeta := [("task.progress", taskMark)] }

/-- The overrides of a state after a minute. -/
def overridesAfterMinute (state : AgentState) : Option (List String) :=
  match buildSchedulingView asciiText state 60000000 with
  | .error _ => none
  | .ok view =>
      match Scheduler.risks view with
      | .ok risks => some (criticalOverride risks {}).reasons
      | .error _ => none

theorem overridesAfterMinute_some {state : AgentState} {reasons : List String}
    (reported : overridesAfterMinute state = some reasons) : ∃ view risks,
      buildSchedulingView asciiText state 60000000 = .ok view ∧
      Scheduler.risks view = .ok risks ∧ (criticalOverride risks {}).reasons = reasons := by
  unfold overridesAfterMinute at reported
  split at reported
  · cases reported
  · rename_i view built
    split at reported
    · rename_i risks read
      exact ⟨view, risks, built, read, Option.some.inj reported⟩
    · cases reported

theorem taskMark_expired : ∀ entry ∈ [("task.progress", taskMark)], Expired 60000000 entry.2 := by
  intro entry member
  rw [List.mem_singleton.mp member]
  exact Or.inl (by rfl)

/-- Every section but the task is visible, and each of the marks has expired. -/
def idleState : AgentState :=
  { visibleState.set .lifecycle "progress" (.float 0) with
    fieldMeta := [("task.progress", taskMark),
      ("context.prompt_tokens", { taskMark with confidence := 1 / 2 }),
      ("inference.endpoints", { taskMark with ttl := .none, confidence := 0 })] }

theorem idleState_expired : ∀ entry ∈ idleState.fieldMeta, Expired 60000000 entry.2 := by
  refine List.forall_mem_cons.mpr ⟨Or.inl (by rfl), List.forall_mem_cons.mpr ⟨Or.inl (by rfl), ?_⟩⟩
  exact List.forall_mem_singleton.mpr (Or.inr (by decide))

/-- A state without progress falls back a minute after its marks. -/
theorem expired_fallback_of_mark : ∃ view risks,
    buildSchedulingView asciiText idleState 60000000 = .ok view ∧
    Scheduler.risks view = .ok risks ∧
    (criticalOverride risks {}).active = true ∧
    "state_unknown_safe_fallback" ∈ (criticalOverride risks {}).reasons := by
  obtain ⟨view, risks, built, read, _⟩ := overridesAfterMinute_some
    (show overridesAfterMinute idleState = some ["state_unknown_safe_fallback"] by
      decide +kernel)
  have idle : (Value.int 0).lt (idleState.get .lifecycle "progress") = .ok false := by rfl
  exact ⟨view, risks, built, read,
    (expired_fallback_iff built read (List.cons_ne_nil _ _) idleState_expired).mpr
      fun visible => by cases idle.symm.trans visible.progress⟩

/-- A fully visible state of a stale mark is on the bound and does not fall back. -/
theorem stale_state_trusted : ∃ view risks,
    buildSchedulingView asciiText staleState 60000000 = .ok view ∧
    Scheduler.risks view = .ok risks ∧ staleState.fieldMeta ≠ [] ∧
    (∀ entry ∈ staleState.fieldMeta, Expired 60000000 entry.2) ∧
    ¬ ((criticalOverride risks {}).active = true ∧
      "state_unknown_safe_fallback" ∈ (criticalOverride risks {}).reasons) := by
  obtain ⟨view, risks, built, read, quiet⟩ := overridesAfterMinute_some
    (show overridesAfterMinute staleState = some [] by decide +kernel)
  refine ⟨view, risks, built, read, List.cons_ne_nil _ _, taskMark_expired, ?_⟩
  rintro ⟨_, named⟩
  rw [quiet] at named
  cases named

/-- A replica that is named after its tier. -/
def tierReplica (tier : String) (metadata : List (String × Value)) : TargetCandidate :=
  { modelId := tier, endpointId := tier, replicaId := tier, tier := tier, metadata := metadata }

def tierReplicas (metadata : List (String × Value)) : List TargetCandidate :=
  [tierReplica "efficient" metadata, tierReplica "capable" []]

/-- The overrides and the model of a decision about the replicas in the visible state. The last
part tells whether every replica passes the filter. -/
def visibleChoice (metadata : List (String × Value)) : Option (List String × String × Bool) :=
  match buildSchedulingView asciiText visibleState 0 with
  | .error _ => none
  | .ok view =>
      match Scheduler.limits view, Scheduler.risks view,
        schedule asciiHost {} (heuristicPredictor asciiHost) ⟨"d", 0⟩ view
          (tierReplicas metadata) with
      | .ok limits, .ok _, .ok decision =>
          some (decision.overrideReasons, decision.selectedModel,
            (tierReplicas metadata).all (passesFilter limits))
      | _, _, _ => none

theorem visibleChoice_some {metadata : List (String × Value)} {reasons : List String}
    {model : String} (chosen : visibleChoice metadata = some (reasons, model, true)) :
    ∃ view limits risks decision,
      buildSchedulingView asciiText visibleState 0 = .ok view ∧
      Scheduler.limits view = .ok limits ∧ Scheduler.risks view = .ok risks ∧
      schedule asciiHost {} (heuristicPredictor asciiHost) ⟨"d", 0⟩ view (tierReplicas metadata) =
        .ok decision ∧
      decision.overrideReasons = reasons ∧ decision.selectedModel = model ∧
      (filterTargets limits (tierReplicas metadata)).eligible = tierReplicas metadata := by
  unfold visibleChoice at chosen
  split at chosen
  · cases chosen
  · rename_i view read
    split at chosen
    · rename_i limits risks decision readLimits readRisks returned
      obtain ⟨same, others⟩ := Prod.mk.inj (Option.some.inj chosen)
      obtain ⟨model, passes⟩ := Prod.mk.inj others
      exact ⟨view, limits, risks, decision, read, readLimits, readRisks, returned, same, model,
        List.filter_eq_self.mpr (List.all_eq_true.mp passes)⟩
    · cases chosen

/-- The metadata marks a successful replica as out of the distribution. -/
def markedMetadata : List (String × Value) :=
  [("out_of_distribution", .bool true), ("base_success", .float 1)]

/-- The metadata states a great uncertainty. -/
def uncertainMetadata : List (String × Value) :=
  [("uncertainty", .float (1 / 2)), ("base_success", .float 1)]

/-- An uncertain first replica switches to the safe policy. -/
theorem doubtful_switches_of_uncertain : ∃ view limits risks decision,
    buildSchedulingView asciiText visibleState 0 = .ok view ∧
    schedule asciiHost {} (heuristicPredictor asciiHost) ⟨"d", 0⟩ view
      (tierReplicas uncertainMetadata) = .ok decision ∧
    (((∃ target ∈ (filterTargets limits (tierReplicas uncertainMetadata)).eligible,
          Doubtful asciiHost {} view target) →
        decision.overrideReasons ≠ [] ∧
          ((∃ target ∈ (filterTargets limits (tierReplicas uncertainMetadata)).eligible,
              asciiHost.lower target.tier ∈ capableTiers) →
            SelectsCapable asciiHost
              (filterTargets limits (tierReplicas uncertainMetadata)).eligible decision)) ↔
      ((∃ target ∈ (filterTargets limits (tierReplicas uncertainMetadata)).eligible,
          Doubtful asciiHost {} view target) →
        (criticalOverride risks {}).active = true ∨
          ∃ target, leader (filterTargets limits (tierReplicas uncertainMetadata)).eligible
              target.modelId = some target ∧ Uncertain asciiHost {} view target)) := by
  obtain ⟨view, limits, risks, decision, read, readLimits, readRisks, returned, _⟩ :=
    visibleChoice_some (show visibleChoice uncertainMetadata =
      some (["predictor_uncertainty_or_ood"], "capable", true) by decide +kernel)
  exact ⟨view, limits, risks, decision, read, returned,
    doubtful_switches_iff readLimits readRisks returned⟩

/-- A marked replica is selected over a capable one without any override. -/
theorem marked_replica_selected : ∃ view limits risks decision,
    buildSchedulingView asciiText visibleState 0 = .ok view ∧
    Scheduler.limits view = .ok limits ∧ Scheduler.risks view = .ok risks ∧
    schedule asciiHost {} (heuristicPredictor asciiHost) ⟨"d", 0⟩ view
      (tierReplicas markedMetadata) = .ok decision ∧
    decision.overrideReasons = [] ∧
    ¬ ((∃ target ∈ (filterTargets limits (tierReplicas markedMetadata)).eligible,
          Doubtful asciiHost {} view target) →
        (∃ target ∈ (filterTargets limits (tierReplicas markedMetadata)).eligible,
          asciiHost.lower target.tier ∈ capableTiers) →
        SelectsCapable asciiHost (filterTargets limits (tierReplicas markedMetadata)).eligible
          decision) := by
  obtain ⟨view, limits, risks, decision, read, readLimits, readRisks, returned, quiet, model,
    passes⟩ := visibleChoice_some
      (show visibleChoice markedMetadata = some ([], "efficient", true) by decide +kernel)
  refine ⟨view, limits, risks, decision, read, readLimits, readRisks, returned, quiet,
    fun selects => ?_⟩
  rw [passes] at selects
  have marked : outOfDistribution (tierReplica "efficient" markedMetadata) = true := rfl
  have capable : asciiHost.lower (tierReplica "capable" []).tier ∈ capableTiers := by
    decide +kernel
  obtain ⟨target, listed, key, able⟩ := selects ⟨_, List.mem_cons_self, Or.inl marked⟩
    ⟨_, List.mem_cons_of_mem _ List.mem_cons_self, capable⟩
  have named : target.modelId = "efficient" := (congrArg Prod.fst key).trans model
  -- Only the marked replica has the selected model, and its tier is not capable.
  rcases List.mem_cons.mp listed with rfl | later
  · exact absurd able (by decide +kernel)
  · rw [List.mem_singleton.mp later] at named
    exact absurd named (by decide)

end Demo

end StateFlow.Scheduler
