import StateFlow.Library.Elimination
import StateFlow.Proof.Control.JournalRecords
import StateFlow.Proof.Control.Replay

namespace StateFlow.Control
open Python Table Effect Selection Predictions Elimination

/-- The objectives of a replay as criteria. -/
def replayCriteria (config : ReplayPolicyConfig) : Criteria Prediction Objective ℚ where
  value objective prediction := rawObjective prediction objective
  maximize := Objective.maximize
  tolerance objective best := tolerance config best objective

/-- The recorded values of a prediction lie in their ranges. -/
structure InRange (prediction : Prediction) : Prop where
  nonneg : ∀ objective, ∀ value ∈ rawObjective prediction objective, 0 ≤ value
  share : ∀ value ∈ rawObjective prediction .success, value ≤ 1

/-- A prediction meets every hard constraint. -/
structure Passes (constraints : ReplayConstraints) (prediction : Prediction) : Prop where
  confident : constraints.minConfidence ≤ prediction.confidence.value
  version : constraints.modelVersion = "" ∨ prediction.modelVersion = constraints.modelVersion
  fallback : constraints.allowFallback = true ∨ prediction.fallback = "none"
  latency : ∀ bound ∈ constraints.maxLatencySeconds,
    ∃ value ∈ prediction.performance.e2eSeconds, value ≤ bound
  cost : ∀ bound ∈ constraints.maxMonetaryCost,
    ∃ value ∈ prediction.cost.monetaryCost, value ≤ bound
  success : ∀ bound ∈ constraints.minSuccessProbability,
    ∃ value ∈ prediction.reliability.successProbability, bound ≤ value

theorem passes_iff {constraints : ReplayConstraints} {prediction : Prediction} :
    (constraints.minConfidence ≤ prediction.confidence.value ∧
      (constraints.modelVersion = "" ∨ prediction.modelVersion = constraints.modelVersion) ∧
      (constraints.allowFallback = true ∨ prediction.fallback = "none") ∧
      (∀ bound ∈ constraints.maxLatencySeconds,
        ∃ value ∈ prediction.performance.e2eSeconds, value ≤ bound) ∧
      (∀ bound ∈ constraints.maxMonetaryCost,
        ∃ value ∈ prediction.cost.monetaryCost, value ≤ bound) ∧
      ∀ bound ∈ constraints.minSuccessProbability,
        ∃ value ∈ prediction.reliability.successProbability, bound ≤ value) ↔
    Passes constraints prediction :=
  ⟨fun ⟨confident, version, fallback, latency, cost, success⟩ =>
    ⟨confident, version, fallback, latency, cost, success⟩,
    fun passes => ⟨passes.confident, passes.version, passes.fallback, passes.latency, passes.cost,
      passes.success⟩⟩

instance (constraints : ReplayConstraints) (prediction : Prediction) :
    Decidable (Passes constraints prediction) := decidable_of_iff _ passes_iff

/-- The candidates that meet the hard constraints. -/
def passing (constraints : ReplayConstraints) (predictions : List Prediction) : List Prediction :=
  predictions.filter fun prediction => decide (Passes constraints prediction)

/-- Each evaluated objective is known for some of the remaining candidates. -/
def Replayable (config : ReplayPolicyConfig) (objectives : List Objective)
    (candidates : List Prediction) : Prop :=
  ∀ early objective late,
    evaluated (replayCriteria config) objectives candidates = early ++ objective :: late →
    ¬ ∀ prediction ∈ remaining (replayCriteria config) early candidates,
      rawObjective prediction objective = none

/-- The candidates that survive every evaluated objective. -/
def finalists (config : ReplayPolicyConfig) (objectives : List Objective)
    (candidates : List Prediction) : List Prediction :=
  remaining (replayCriteria config)
    (evaluated (replayCriteria config) objectives candidates) candidates

/-- A table holds some reason against a candidate. -/
def HasReason (table : List (String × List String)) (candidateId : String) : Prop :=
  getD table candidateId [] ≠ []

section Constraints
variable {constraints : ReplayConstraints} {prediction : Prediction}

theorem maximumConstraint_ok {value maximum : Option ℚ} (name : String)
    (nonneg : ∀ number ∈ value, 0 ≤ number) :
    ∃ reasons, maximumConstraint value maximum name = .ok reasons ∧
      (reasons = [] ↔ ∀ bound ∈ maximum, ∃ number ∈ value, number ≤ bound) := by
  unfold maximumConstraint
  cases maximum with
  | none => exact ⟨[], rfl, by simp⟩
  | some bound =>
      cases value with
      | none => exact ⟨_, rfl, by simp⟩
      | some number =>
          have lower : ¬ number < 0 := not_lt.mpr (nonneg number rfl)
          simp only [if_neg lower]
          by_cases above : bound < number
          · exact ⟨_, if_pos above, by simp [above]⟩
          · exact ⟨_, if_neg above, by simpa using above⟩

theorem successConstraint_ok {value minimum : Option ℚ} (nonneg : ∀ number ∈ value, 0 ≤ number)
    (share : ∀ number ∈ value, number ≤ 1) :
    ∃ reasons, successConstraint value minimum = .ok reasons ∧
      (reasons = [] ↔ ∀ bound ∈ minimum, ∃ number ∈ value, bound ≤ number) := by
  unfold successConstraint
  cases minimum with
  | none => exact ⟨[], rfl, by simp⟩
  | some bound =>
      cases value with
      | none => exact ⟨_, rfl, by simp⟩
      | some number =>
          have inside : ¬ (number < 0 ∨ 1 < number) := by
            rintro (below | above)
            · exact absurd below (not_lt.mpr (nonneg number rfl))
            · exact absurd above (not_lt.mpr (share number rfl))
          simp only [if_neg inside]
          by_cases low : number < bound
          · exact ⟨_, if_pos low, by simp [low]⟩
          · exact ⟨_, if_neg low, by simpa using low⟩

/-- The reasons of the hard constraints against a prediction with values in their ranges. -/
def reasonsOf (constraints : ReplayConstraints) (prediction : Prediction) : List String :=
  match constraintReasons constraints prediction with
  | .ok reasons => reasons
  | .error _ => []

/-- A prediction meets the hard constraints exactly when they find no reason against it. -/
theorem constraintReasons_run (constraints : ReplayConstraints) (ranged : InRange prediction) :
    constraintReasons constraints prediction = .ok (reasonsOf constraints prediction) ∧
      (reasonsOf constraints prediction = [] ↔ Passes constraints prediction) := by
  obtain ⟨latency, readLatency, meetsLatency⟩ := @maximumConstraint_ok
    prediction.performance.e2eSeconds constraints.maxLatencySeconds "latency"
    (ranged.nonneg .latency)
  obtain ⟨cost, readCost, meetsCost⟩ := @maximumConstraint_ok
    prediction.cost.monetaryCost constraints.maxMonetaryCost "cost" (ranged.nonneg .cost)
  obtain ⟨success, readSuccess, meetsSuccess⟩ := @successConstraint_ok
    prediction.reliability.successProbability constraints.minSuccessProbability
    (ranged.nonneg .success) ranged.share
  have judged : ∃ reasons, constraintReasons constraints prediction = .ok reasons ∧
      (reasons = [] ↔ Passes constraints prediction) := by
    refine ⟨_, by simp only [constraintReasons, readLatency, readCost, readSuccess]; rfl, ?_⟩
    rw [← passes_iff, ← meetsLatency, ← meetsCost, ← meetsSuccess]
    simp only [List.append_eq_nil_iff, and_assoc]
    refine and_congr ?_ (and_congr ?_ (and_congr ?_ Iff.rfl))
    · split <;> simp_all
    · split
      · rename_i different
        simp [different]
      · rename_i allowed
        simpa [or_iff_not_imp_left] using allowed
    · split
      · rename_i excluded
        simp_all
      · rename_i allowed
        simpa [or_iff_not_imp_left] using allowed
  obtain ⟨reasons, read, meets⟩ := judged
  have same : reasonsOf constraints prediction = reasons := by
    unfold reasonsOf
    rw [read]
  rw [same]
  exact ⟨read, meets⟩

/-- The hard constraints leave the passing candidates. -/
theorem applyConstraints_run (constraints : ReplayConstraints) {predictions : List Prediction}
    (ranged : ∀ prediction ∈ predictions, InRange prediction) :
    applyConstraints constraints predictions = .ok {
      eligible := passing constraints predictions
      rejections := predictions.map fun prediction =>
        (prediction.candidateId, reasonsOf constraints prediction)
      trace := [] } := by
  have traversed : predictions.mapM (fun prediction => do
      return (prediction, ← constraintReasons constraints prediction)) =
      Except.ok (predictions.map fun prediction =>
        (prediction, reasonsOf constraints prediction)) := by
    induction predictions with
    | nil => rfl
    | cons prediction rest ih =>
        obtain ⟨here, later⟩ := List.forall_mem_cons.mp ranged
        rw [List.mapM_cons, ih later, (constraintReasons_run constraints here).1]
        rfl
  have kept : ((predictions.map fun prediction => (prediction, reasonsOf constraints prediction)).filter
      fun entry => entry.2.isEmpty).map Prod.fst = passing constraints predictions := by
    rw [List.filter_map, List.map_map]
    refine (List.map_id _).trans (List.filter_congr fun prediction member => ?_)
    have meets := (constraintReasons_run constraints (ranged prediction member)).2
    exact Bool.eq_iff_iff.mpr (by simpa using meets)
  unfold applyConstraints
  rw [traversed]
  simp only [bind, Except.bind, pure, Except.pure, kept, List.map_map]
  rfl

/-- A candidate that fails a hard constraint has a reason against it. -/
theorem hasReason_of_fails {predictions : List Prediction}
    (ranged : ∀ prediction ∈ predictions, InRange prediction)
    (distinct : (predictions.map Prediction.candidateId).Nodup) (member : prediction ∈ predictions)
    (fails : ¬ Passes constraints prediction) :
    HasReason (predictions.map fun prediction =>
      (prediction.candidateId, reasonsOf constraints prediction)) prediction.candidateId := by
  have keys : ((predictions.map fun prediction =>
      (prediction.candidateId, reasonsOf constraints prediction)).map Prod.fst).Nodup := by
    rw [List.map_map]
    exact distinct
  have found := lookup_of_mem keys (List.mem_map_of_mem member)
  unfold HasReason getD
  rw [found]
  exact mt (constraintReasons_run constraints (ranged prediction member)).2.mp fails

end Constraints

section Step
variable {config : ReplayPolicyConfig} {objective : Objective} {replay : ReplayState}

theorem scored_run {predictions : List Prediction}
    (ranged : ∀ prediction ∈ predictions, InRange prediction) :
    scored objective predictions =
      .ok (predictions.map fun prediction => (prediction, rawObjective prediction objective)) := by
  induction predictions with
  | nil => rfl
  | cons prediction rest ih =>
      obtain ⟨here, later⟩ := List.forall_mem_cons.mp ranged
      have read : objectiveValue objective prediction = .ok (rawObjective prediction objective) := by
        unfold objectiveValue
        cases known : rawObjective prediction objective with
        | none => rfl
        | some value =>
            refine if_neg ?_
            rintro (below | ⟨rfl, above⟩)
            · exact absurd below (not_lt.mpr (here.nonneg objective value known))
            · exact absurd above (not_lt.mpr (here.share value known))
      simp only [scored, read, ih later]
      rfl

/-- The candidates with a known value. -/
def available (objective : Objective) (predictions : List Prediction) : List Scored :=
  predictions.filterMap fun prediction =>
    (rawObjective prediction objective).map fun value => (prediction, value)

theorem mem_available {predictions : List Prediction} {item : Scored} :
    item ∈ available objective predictions ↔
      item.1 ∈ predictions ∧ rawObjective item.1 objective = some item.2 := by
  unfold available
  rw [List.mem_filterMap]
  constructor
  · rintro ⟨prediction, member, same⟩
    obtain ⟨value, read, rfl⟩ := Option.map_eq_some_iff.mp same
    exact ⟨member, read⟩
  · rintro ⟨member, read⟩
    exact ⟨item.1, member, by rw [read]; rfl⟩

/-- A test that only known candidates pass filters the known candidates. -/
theorem filter_available {predictions : List Prediction} {test : Prediction → Bool}
    (known : ∀ prediction, test prediction = true → rawObjective prediction objective ≠ none) :
    ((available objective predictions).filter fun item => test item.1).map Prod.fst =
      predictions.filter test := by
  unfold available
  induction predictions with
  | nil => rfl
  | cons prediction rest ih =>
      rw [List.filterMap_cons]
      cases read : rawObjective prediction objective with
      | none =>
          have fails : test prediction = false :=
            Bool.eq_false_iff.mpr fun passed => known prediction passed read
          simpa [fails] using ih
      | some value => by_cases passed : test prediction <;> simpa [passed] using ih

/-- The best scored candidate has the best value. -/
theorem best_of_bestScored {predictions : List Prediction} {leader : Scored}
    (found : bestScored objective (available objective predictions) = some leader) :
    best (replayCriteria config) objective predictions = some leader.2 := by
  obtain ⟨member, extreme⟩ := bestScored_some found
  obtain ⟨inside, read⟩ := mem_available.mp member
  cases other : best (replayCriteria config) objective predictions with
  | none =>
      have unknown := best_eq_none_iff.mp other leader.1 inside
      exact absurd (unknown.symm.trans read) (by simp)
  | some value =>
      obtain ⟨⟨attaining, listed, known⟩, bound⟩ := best_some other
      have here := extreme (attaining, value) (mem_available.mpr ⟨listed, known⟩)
      have there := bound leader.1 inside leader.2 read
      change (if objective.maximize then _ else _) at there
      split at here
      · rename_i larger
        rw [if_pos larger] at there
        exact congrArg some (le_antisymm here there)
      · rename_i smaller
        rw [if_neg smaller] at there
        exact congrArg some (le_antisymm there here)

theorem bestScored_eq_none_iff {predictions : List Prediction} :
    bestScored objective (available objective predictions) = none ↔
      ∀ prediction ∈ predictions, rawObjective prediction objective = none := by
  unfold bestScored available
  split
  · rw [List.argmax_eq_none, List.filterMap_eq_nil_iff]
    simp
  · rw [List.argmin_eq_none, List.filterMap_eq_nil_iff]
    simp

/-- The survivors of an objective are the candidates that its criterion keeps. -/
theorem survivors_eq_keep {predictions : List Prediction} {leader : Scored}
    (found : bestScored objective (available objective predictions) = some leader) :
    (objectiveSurvivors config objective (available objective predictions)).map Prod.fst =
      keep (replayCriteria config) objective predictions := by
  have found' := @best_of_bestScored config objective predictions leader found
  have near (item : Scored) (member : item ∈ available objective predictions) :
      nearBest config objective leader item =
        close (replayCriteria config) objective predictions item.1 := by
    obtain ⟨inside, read⟩ := mem_available.mp member
    have extreme := (bestScored_some found).2 item member
    have known : (replayCriteria config).value objective item.1 = some item.2 := read
    unfold nearBest close
    rw [found', known]
    simp only
    split at extreme
    · rename_i larger
      rw [if_pos larger, abs_of_nonpos (by linarith)]
      exact decide_eq_decide.mpr ⟨fun above => by change _ ≤ tolerance _ _ _; linarith,
        fun within => by change _ ≤ tolerance _ _ _ at within; linarith⟩
    · rename_i smaller
      rw [if_neg smaller, abs_of_nonneg (by linarith)]
      exact decide_eq_decide.mpr ⟨fun below => by change _ ≤ tolerance _ _ _; linarith,
        fun within => by change _ ≤ tolerance _ _ _ at within; linarith⟩
  unfold objectiveSurvivors
  rw [found]
  simp only [survivors]
  rw [List.filter_congr near]
  refine filter_available fun prediction passed unknown => ?_
  obtain ⟨_, value, _, read, _⟩ := close_iff.mp passed
  exact absurd (unknown.symm.trans read) (by simp)

theorem hasReason_assign {table : List (String × List String)} {candidateId other reason : String} :
    HasReason (addReason other reason table) candidateId ↔
      candidateId = other ∨ HasReason table candidateId := by
  unfold HasReason addReason getD
  rw [lookup_assign]
  by_cases same : candidateId = other
  · simp [same]
  · simp [same]

/-- Each item adds its reason and keeps the other ones. -/
theorem hasReason_foldl {A : Type} (name : A → String) (reason : String) (items : List A)
    (table : List (String × List String)) (candidateId : String) :
    HasReason (items.foldl (fun table item => addReason (name item) reason table) table)
        candidateId ↔ candidateId ∈ items.map name ∨ HasReason table candidateId := by
  induction items generalizing table with
  | nil => simp
  | cons item rest ih =>
      rw [List.foldl_cons, ih, hasReason_assign, List.map_cons, List.mem_cons]
      tauto

/-- A step of a replay gives a reason against each candidate that it removes. -/
structure Rejects (before after : ReplayState) : Prop where
  keeps : ∀ candidateId, HasReason before.rejections candidateId →
    HasReason after.rejections candidateId
  removed : ∀ prediction ∈ before.eligible, prediction ∉ after.eligible →
    HasReason after.rejections prediction.candidateId

/-- An objective without known values ends the replay, and any other one keeps the candidates of
its criterion. -/
theorem applyObjective_cases (config : ReplayPolicyConfig) (objective : Objective)
    (ranged : ∀ prediction ∈ replay.eligible, InRange prediction)
    (distinct : (replay.eligible.map Prediction.candidateId).Nodup) :
    ((∀ prediction ∈ replay.eligible, rawObjective prediction objective = none) ∧
      applyObjective config objective replay = .error .runtimeError) ∨
    (¬ (∀ prediction ∈ replay.eligible, rawObjective prediction objective = none) ∧
      ∃ next, applyObjective config objective replay = .ok next ∧
        next.eligible = keep (replayCriteria config) objective replay.eligible ∧
        next.trace.getLast?.map ObjectiveTrace.candidateIds =
          some (next.eligible.map Prediction.candidateId) ∧
        Rejects replay next) := by
  have known : (replay.eligible.map fun prediction =>
      (prediction, rawObjective prediction objective)).filterMap
        (fun entry => entry.2.map fun value => (entry.1, value)) =
      available objective replay.eligible := by
    rw [List.filterMap_map]
    rfl
  unfold applyObjective
  rw [scored_run ranged]
  simp only [bind, Except.bind, known]
  cases found : bestScored objective (available objective replay.eligible) with
  | none => exact .inl ⟨bestScored_eq_none_iff.mp found, rfl⟩
  | some leader =>
      have some' := mt bestScored_eq_none_iff.mpr (by rw [found]; simp)
      refine .inr ⟨some', _, rfl, survivors_eq_keep found, ?_, ?_, ?_⟩
      · simp
      · intro candidateId reason
        simp only
        rw [hasReason_foldl (fun entry : Scored => entry.1.candidateId),
          hasReason_foldl (fun entry : Prediction × Option ℚ => entry.1.candidateId)]
        exact .inr (.inr reason)
      · intro prediction member removed
        simp only at removed ⊢
        rw [hasReason_foldl (fun entry : Scored => entry.1.candidateId),
          hasReason_foldl (fun entry : Prediction × Option ℚ => entry.1.candidateId)]
        cases read : rawObjective prediction objective with
        | none =>
            refine .inr (.inl (List.mem_map.mpr ⟨(prediction, none), ?_, rfl⟩))
            exact List.mem_filter.mpr ⟨List.mem_map.mpr ⟨prediction, member, by rw [read]⟩, rfl⟩
        | some value =>
            refine .inl (List.mem_map.mpr ⟨(prediction, value), ?_, rfl⟩)
            refine List.mem_filter.mpr ⟨mem_available.mpr ⟨member, read⟩, ?_⟩
            refine decide_eq_true fun kept => removed ?_
            obtain ⟨other, survives, same⟩ := List.mem_map.mp kept
            have inside : other ∈ replay.eligible := by
              rw [survivors_eq_keep found] at survives
              exact (mem_keep.mp survives).1
            rw [List.inj_on_of_nodup_map distinct inside member same] at survives
            exact survives

end Step

section Run
variable {config : ReplayPolicyConfig} {objectives : List Objective} {replay : ReplayState}

theorem tolerant (config : ReplayPolicyConfig) : Tolerant (replayCriteria config) := by
  intro objective best
  cases objective with
  | success => exact config.successShare.1
  | latency => exact mul_nonneg (abs_nonneg best) config.latencyShare.1
  | cost => exact mul_nonneg (abs_nonneg best) config.costShare.1
  | throughput => exact mul_nonneg (abs_nonneg best) config.throughputShare.1
  | energy => exact le_refl 0

/-- The first objective is evaluated, and the later ones are while several candidates remain. -/
theorem replayable_cons {objective : Objective} {rest : List Objective}
    {candidates : List Prediction} :
    Replayable config (objective :: rest) candidates ↔
      (¬ ∀ prediction ∈ candidates, rawObjective prediction objective = none) ∧
      ((keep (replayCriteria config) objective candidates).length ≠ 1 →
        Replayable config rest (keep (replayCriteria config) objective candidates)) := by
  unfold Replayable
  constructor
  · intro known
    refine ⟨known [] objective _ rfl, fun several early other late split => ?_⟩
    refine known (objective :: early) other late ?_
    rw [evaluated, if_neg several, split]
    rfl
  · rintro ⟨here, later⟩ early other late split
    rw [evaluated] at split
    cases early with
    | nil =>
        cases split
        exact here
    | cons first tail =>
        obtain ⟨rfl, same⟩ := List.cons_eq_cons.mp split
        split at same
        · exact absurd same (by simp)
        · rename_i several
          exact later several tail other late same

theorem finalists_cons {objective : Objective} {rest : List Objective}
    {candidates : List Prediction} :
    finalists config (objective :: rest) candidates =
      if (keep (replayCriteria config) objective candidates).length = 1 then
        keep (replayCriteria config) objective candidates
      else finalists config rest (keep (replayCriteria config) objective candidates) := by
  unfold finalists
  rw [evaluated, remaining_cons]
  split <;> rfl

/-- The objectives end with the finalists, or some evaluated objective is unknown. -/
theorem applyObjectives_cases (config : ReplayPolicyConfig) (objectives : List Objective)
    (ranged : ∀ prediction ∈ replay.eligible, InRange prediction)
    (distinct : (replay.eligible.map Prediction.candidateId).Nodup)
    (present : replay.eligible ≠ []) :
    (¬ Replayable config objectives replay.eligible ∧
      applyObjectives config objectives replay = .error .runtimeError) ∨
    (Replayable config objectives replay.eligible ∧
      ∃ final, applyObjectives config objectives replay = .ok final ∧
        final.eligible = finalists config objectives replay.eligible ∧ final.eligible ≠ [] ∧
        (objectives ≠ [] → final.trace.getLast?.map ObjectiveTrace.candidateIds =
          some (final.eligible.map Prediction.candidateId)) ∧
        Rejects replay final) := by
  induction objectives generalizing replay with
  | nil =>
      refine .inr ⟨fun early objective late split => absurd split (by simp [evaluated]), replay, rfl,
        rfl, present, fun wrong => absurd rfl wrong, fun _ reason => reason,
        fun _ member removed => absurd member removed⟩
  | cons objective rest ih =>
      rw [replayable_cons, finalists_cons]
      unfold applyObjectives
      rcases applyObjective_cases config objective ranged distinct with
        ⟨unknown, ran⟩ | ⟨known, next, ran, kept, traced, rejects⟩
      · rw [ran]
        exact .inl ⟨fun replayable => replayable.1 unknown, rfl⟩
      · rw [ran, ← kept]
        simp only [bind, Except.bind]
        have stays : next.eligible ≠ [] := by
          rw [kept]
          exact keep_ne_nil (tolerant config) known
        have shorter : next.eligible.Sublist replay.eligible := by
          rw [kept]
          exact List.filter_sublist
        by_cases single : next.eligible.length = 1
        · rw [if_pos single, if_pos single]
          exact .inr ⟨⟨known, fun several => absurd single several⟩, next, rfl, rfl, stays,
            fun _ => traced, rejects⟩
        · rw [if_neg single, if_neg single]
          rcases ih (fun prediction member => ranged prediction (shorter.subset member))
            ((shorter.map _).nodup distinct) stays with
            ⟨stuck, failed⟩ | ⟨replayable, final, finished, ends, left, last, later⟩
          · exact .inl ⟨fun both => stuck (both.2 single), failed⟩
          · refine .inr ⟨⟨known, fun _ => replayable⟩, final, finished, ends, left, fun _ => ?_, ?_⟩
            · cases rest with
              | nil =>
                  cases finished
                  exact traced
              | cons other others => exact last (by simp)
            · refine ⟨fun _ reason => later.keeps _ (rejects.keeps _ reason), ?_⟩
              intro prediction member removed
              by_cases here : prediction ∈ next.eligible
              · exact later.removed prediction here removed
              · exact later.keeps _ (rejects.removed prediction member here)

end Run

/-- No tolerance of a replay is positive. -/
def ReplayPolicyConfig.Zero (config : ReplayPolicyConfig) : Prop :=
  config.successAbsoluteTolerance = 0 ∧ config.latencyRelativeTolerance = 0 ∧
    config.costRelativeTolerance = 0 ∧ config.throughputRelativeTolerance = 0

theorem strict_of_zero {config : ReplayPolicyConfig} (zero : config.Zero) :
    Strict (replayCriteria config) := by
  obtain ⟨success, latency, cost, throughput⟩ := zero
  intro objective best
  cases objective <;> simp [replayCriteria, tolerance, success, latency, cost, throughput]

/-- A decision selects a finalist. It meets the hard constraints, it is close at each evaluated
objective, and without tolerance no passing candidate is lexicographically better. A candidate
without a recorded reason is a finalist. -/
structure Selects (record : JoinedControlRecord) (policy : PolicyIntent)
    (constraints : ReplayConstraints) (config : ReplayPolicyConfig) (decision : ReplayDecision)
    (selected : Prediction) : Prop where
  recorded : selected ∈ record.predictions
  named : decision.selectedCandidateId = selected.candidateId
  predicted : decision.selectedPredictionId = selected.predictionId
  passes : Passes constraints selected
  finalist : selected ∈ finalists config policy.objectives (passing constraints record.predictions)
  near : ∀ early objective late, evaluated (replayCriteria config) policy.objectives
      (passing constraints record.predictions) = early ++ objective :: late →
    ∃ best value, Elimination.best (replayCriteria config) objective
        (remaining (replayCriteria config) early (passing constraints record.predictions)) =
          some best ∧
      rawObjective selected objective = some value ∧ |value - best| ≤ tolerance config best objective
  traced : decision.selectionTrace.getLast?.map ObjectiveTrace.candidateIds =
    some ((finalists config policy.objectives (passing constraints record.predictions)).map
      Prediction.candidateId)
  unrejected : ∀ prediction ∈ record.predictions,
    decision.rejections.lookup prediction.candidateId = none →
    prediction ∈ finalists config policy.objectives (passing constraints record.predictions)
  optimal : config.Zero → ∀ prediction ∈ passing constraints record.predictions,
    ¬ LexBetter (replayCriteria config) policy.objectives prediction selected

/-- Some candidate passes the hard constraints and each evaluated objective is known. -/
def Available (record : JoinedControlRecord) (policy : PolicyIntent)
    (constraints : ReplayConstraints) (config : ReplayPolicyConfig) : Prop :=
  passing constraints record.predictions ≠ [] ∧
    Replayable config policy.objectives (passing constraints record.predictions)

/-- The record has a unique baseline prediction. -/
def HasBaseline (record : JoinedControlRecord) : Prop :=
  ∃ baseline, baselinePrediction record = .ok baseline

section Replay
variable {record : JoinedControlRecord} {policy : PolicyIntent} {constraints : ReplayConstraints}
  {config : ReplayPolicyConfig}

theorem objectiveValues_returns {prediction : Prediction} (policy : PolicyIntent)
    (ranged : InRange prediction) : ∃ values, objectiveValues policy prediction = .ok values := by
  have each (objective : Objective) (_ : objective ∈ policy.objectives) :
      ∃ entry, (do return (objective.value, ← objectiveValue objective prediction)) =
        Except.ok (ε := Exception) entry := by
    have read := @scored_run objective [prediction] (by simpa using ranged)
    unfold scored at read
    obtain ⟨value, known, _⟩ := except_bind_ok read
    exact ⟨_, by rw [known]; rfl⟩
  obtain ⟨values, read⟩ := mapM_returns each
  exact ⟨_, by rw [objectiveValues, read]; rfl⟩

/-- A lookup of a table without empty lists finds each reason. -/
theorem hasReason_lookup {table : List (String × List String)} {candidateId : String}
    (reason : HasReason table candidateId) :
    (table.filter fun entry => !entry.2.isEmpty).lookup candidateId ≠ none := by
  unfold HasReason getD at reason
  cases found : table.lookup candidateId with
  | none => rw [found] at reason; exact absurd rfl reason
  | some reasons =>
      rw [found, Option.getD_some] at reason
      have kept : (candidateId, reasons) ∈ table.filter fun entry => !entry.2.isEmpty :=
        List.mem_filter.mpr ⟨mem_of_lookup found, by simpa using reason⟩
      have listed : ((table.filter fun entry => !entry.2.isEmpty).lookup candidateId).isSome = true :=
        Table.lookup_isSome_iff.mpr (List.mem_map_of_mem kept)
      intro none
      rw [none] at listed
      cases listed

/-- The candidates that survive the objectives give a decision. -/
theorem selects_of_final (distinct : (record.predictions.map Prediction.candidateId).Nodup)
    (ranged : ∀ prediction ∈ record.predictions, InRange prediction) {final : ReplayState}
    {selected : Prediction} {others : List Prediction} (ends : final.eligible =
      finalists config policy.objectives (passing constraints record.predictions))
    (traced : final.trace.getLast?.map ObjectiveTrace.candidateIds =
      some (final.eligible.map Prediction.candidateId))
    (rejects : Rejects {
      eligible := passing constraints record.predictions
      rejections := record.predictions.map fun prediction =>
        (prediction.candidateId, reasonsOf constraints prediction)
      trace := [] } final)
    (first : final.eligible = selected :: others) (baseline : Prediction)
    (values : List (String × ℚ)) :
    Selects record policy constraints config {
        sourceDecisionId := record.decision.decisionId
        snapshotId := record.decision.snapshotId
        policyName := policy.name
        policyVersion := policy.version
        baselineCandidateId := baseline.candidateId
        selectedCandidateId := selected.candidateId
        selectedPredictionId := selected.predictionId
        candidateIds := record.predictions.map Prediction.candidateId
        eligibleCandidateIds :=
          (passing constraints record.predictions).map Prediction.candidateId
        objectiveValues := values
        potentialGain := potentialGain selected baseline
        rejections := final.rejections.filter fun entry => !entry.2.isEmpty
        selectionTrace := final.trace
        changed := selected.candidateId ≠ baseline.candidateId } selected := by
  have finalist : selected ∈
      finalists config policy.objectives (passing constraints record.predictions) := by
    rw [← ends, first]
    exact List.mem_cons_self
  have passed := (remaining_sublist _ _).subset finalist
  obtain ⟨recorded, passes⟩ := List.mem_filter.mp passed
  refine ⟨recorded, rfl, rfl, of_decide_eq_true passes, finalist, ?_, ends ▸ traced, ?_, ?_⟩
  · intro early objective late split
    obtain ⟨best, value, found, read, within⟩ := close_iff.mp (close_of_remaining finalist split)
    exact ⟨best, value, found, read, within⟩
  · intro prediction member unrejected
    by_contra removed
    rw [← ends] at removed
    refine hasReason_lookup ?_ unrejected
    by_cases passes : Passes constraints prediction
    · exact rejects.removed prediction
        (List.mem_filter.mpr ⟨member, decide_eq_true passes⟩) removed
    · exact rejects.keeps _ (hasReason_of_fails ranged distinct member passes)
  · exact fun zero => remaining_optimal (strict_of_zero zero) finalist

theorem baselinePrediction_error {exception : Exception}
    (failed : baselinePrediction record = .error exception) : exception = .valueError := by
  unfold baselinePrediction at failed
  simp only at failed
  split at failed <;> cases failed
  rfl

/-- The four outcomes of a replay. -/
theorem controlledReplay_run (record : JoinedControlRecord) (policy : PolicyIntent)
    (constraints : ReplayConstraints) (config : ReplayPolicyConfig)
    (distinct : (record.predictions.map Prediction.candidateId).Nodup)
    (ranged : ∀ prediction ∈ record.predictions, InRange prediction) :
    (policy.objectives = [] ∧
      controlledReplay record policy constraints config = .error .valueError) ∨
    (policy.objectives ≠ [] ∧ ¬ Available record policy constraints config ∧
      controlledReplay record policy constraints config = .error .runtimeError) ∨
    (policy.objectives ≠ [] ∧ Available record policy constraints config ∧ ¬ HasBaseline record ∧
      controlledReplay record policy constraints config = .error .valueError) ∨
    (policy.objectives ≠ [] ∧ Available record policy constraints config ∧ HasBaseline record ∧
      ∃ decision selected, controlledReplay record policy constraints config = .ok decision ∧
        Selects record policy constraints config decision selected) := by
  unfold controlledReplay
  by_cases none : policy.objectives = []
  · exact .inl ⟨none, by simp [none]; rfl⟩
  · refine .inr ?_
    simp only [List.isEmpty_iff, none, if_false, distinct, not_true_eq_false]
    by_cases empty : record.predictions = []
    · refine .inl ⟨none, fun available => available.1 (by rw [empty]; rfl), ?_⟩
      rw [if_pos empty]
      rfl
    · rw [if_neg empty, applyConstraints_run constraints ranged]
      simp only [bind, Except.bind, pure, Except.pure]
      by_cases left : passing constraints record.predictions = []
      · exact .inl ⟨none, fun available => available.1 left, by rw [if_pos left]; rfl⟩
      · rw [if_neg left]
        have shorter : (passing constraints record.predictions).Sublist record.predictions :=
          List.filter_sublist
        rcases @applyObjectives_cases {
            eligible := passing constraints record.predictions
            rejections := record.predictions.map fun prediction =>
              (prediction.candidateId, reasonsOf constraints prediction)
            trace := [] } config policy.objectives
          (fun prediction member => ranged prediction (shorter.subset member))
          ((shorter.map _).nodup distinct) left with
          ⟨stuck, failed⟩ | ⟨known, final, finished, ends, stays, traced, rejects⟩
        · exact .inl ⟨none, fun available => stuck available.2, by rw [failed]⟩
        · rw [finished]
          obtain ⟨selected, others, first⟩ := List.exists_cons_of_ne_nil stays
          have selects := selects_of_final distinct ranged ends (traced none) rejects first
          simp only [first]
          cases kept : baselinePrediction record with
          | error exception =>
              cases baselinePrediction_error kept
              refine .inr (.inl ⟨none, ⟨left, known⟩, ?_, rfl⟩)
              rintro ⟨baseline, found⟩
              rw [kept] at found
              cases found
          | ok baseline =>
              obtain ⟨values, read⟩ := objectiveValues_returns policy
                (ranged selected (selects baseline []).recorded)
              refine .inr (.inr ⟨none, ⟨left, known⟩, ⟨baseline, kept⟩, _, selected, ?_,
                selects baseline values⟩)
              rw [read]

end Replay

/-- A replay rejects a policy without objectives. It reports that no candidate is left exactly when
none is available, it rejects a record without a baseline, and it selects an optimal candidate
otherwise. -/
theorem controlledReplay_cases (record : JoinedControlRecord) (policy : PolicyIntent)
    (constraints : ReplayConstraints) (config : ReplayPolicyConfig)
    (distinct : (record.predictions.map Prediction.candidateId).Nodup)
    (ranged : ∀ prediction ∈ record.predictions, InRange prediction) :
    (controlledReplay record policy constraints config = .error .valueError ↔
      policy.objectives = [] ∨
        Available record policy constraints config ∧ ¬ HasBaseline record) ∧
    (controlledReplay record policy constraints config = .error .runtimeError ↔
      policy.objectives ≠ [] ∧ ¬ Available record policy constraints config) ∧
    (policy.objectives ≠ [] → Available record policy constraints config → HasBaseline record →
      ∃ decision selected, controlledReplay record policy constraints config = .ok decision ∧
        Selects record policy constraints config decision selected) := by
  rcases controlledReplay_run record policy constraints config distinct ranged with
    ⟨none, ran⟩ | ⟨some', unavailable, ran⟩ | ⟨some', available, lost, ran⟩ |
    ⟨some', available, kept, decision, selected, ran, selects⟩
  · simp [ran, none]
  · simp [ran, some', unavailable]
  · simp [ran, some', available, lost]
  · refine ⟨by simp [ran, some', available, kept], by simp [ran, available], ?_⟩
    exact fun _ _ _ => ⟨decision, selected, ran, selects⟩

/-- A prediction with a known latency. -/
def timedPrediction (candidateId predictionId : String) (seconds : ℚ) : Prediction :=
  { namedPrediction candidateId predictionId with performance := { e2eSeconds := some seconds } }

/-- A joined record of a slow and a fast candidate. -/
def timedRecord : JoinedControlRecord where
  decision := firstDecision [timedPrediction "a" "p" 2, timedPrediction "b" "q" 1]
  predictions := [timedPrediction "a" "p" 2, timedPrediction "b" "q" 1]

theorem inRange_timed {candidateId predictionId : String} {seconds : ℚ} (nonneg : 0 ≤ seconds) :
    InRange (timedPrediction candidateId predictionId seconds) := by
  refine ⟨fun objective value known => ?_, fun value known => by cases known⟩
  cases objective <;> cases known
  exact nonneg

theorem timed_inRange : ∀ prediction ∈ timedRecord.predictions, InRange prediction := by
  simp [timedRecord, inRange_timed]

theorem controlledReplay_cases_of_timed :
    ∃ decision selected,
      controlledReplay timedRecord ⟨"fast", [.latency], "1"⟩ {} {} = .ok decision ∧
      Selects timedRecord ⟨"fast", [.latency], "1"⟩ {} {} decision selected := by
  refine (controlledReplay_cases timedRecord ⟨"fast", [.latency], "1"⟩ {} {} (by decide)
    timed_inRange).2.2 (by simp) ⟨by decide +kernel, ?_⟩ ⟨_, rfl⟩
  refine replayable_cons.mpr ⟨by decide +kernel, fun _ early objective late split => ?_⟩
  simp [evaluated] at split

/-- A policy without objectives neither reports a missing candidate nor decides. -/
theorem controlledReplay_empty_policy :
    controlledReplay timedRecord ⟨"none", [], "1"⟩ {} {} ≠ .error .runtimeError ∧
      ¬ ∃ decision, controlledReplay timedRecord ⟨"none", [], "1"⟩ {} {} = .ok decision := by
  constructor
  · intro reported
    cases reported
  · rintro ⟨decision, decided⟩
    cases decided

end StateFlow.Control
