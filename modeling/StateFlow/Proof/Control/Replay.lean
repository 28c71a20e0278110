import StateFlow.Construction.Control.Replay

namespace StateFlow.Control
open Python Table Effect Selection Predictions

/-- The default constraints find no reason against a prediction. -/
theorem constraintReasons_default (prediction : Prediction) :
    constraintReasons {} prediction = .ok [] := by
  have confident : ¬ prediction.confidence.value < 0 := not_lt.mpr prediction.confidence.nonneg
  simp [constraintReasons, maximumConstraint, successConstraint, confident, bind, Except.bind, pure,
    Except.pure]

/-- The default constraints keep every prediction. -/
theorem applyConstraints_default {predictions : List Prediction} {replay : ReplayState}
    (returned : applyConstraints {} predictions = .ok replay) : replay.eligible = predictions := by
  unfold applyConstraints at returned
  obtain ⟨judged, traversed, finished⟩ := except_bind_ok returned
  cases finished
  have related := forall₂_of_mapM traversed
  clear traversed returned
  induction related with
  | nil => rfl
  | @cons prediction entry rest entries here _ ih =>
      simp only [constraintReasons_default, bind, Except.bind, pure, Except.pure] at here
      cases here
      exact congrArg (List.cons prediction) ih

/-- The recorded number of an objective. -/
def recordedValue (objective : Objective) (prediction : Prediction) : ℚ :=
  (rawObjective prediction objective).getD 0

/-- A routing prediction records its success, its latency, and its cost. -/
structure Recorded (prediction : Prediction) : Prop where
  known : ∀ objective ∈ [Objective.success, .latency, .cost],
    rawObjective prediction objective = some (recordedValue objective prediction)
  unmeasured : prediction.performance.throughput = none

theorem scored_ok {objective : Objective} {predictions : List Prediction}
    {known : List (Prediction × Option ℚ)}
    (returned : scored objective predictions = .ok known) :
    known = predictions.map (fun prediction => (prediction, rawObjective prediction objective)) ∧
      ∀ prediction ∈ predictions, 0 ≤ recordedValue objective prediction := by
  induction predictions generalizing known with
  | nil =>
      cases returned
      exact ⟨rfl, fun _ member => absurd member List.not_mem_nil⟩
  | cons prediction rest ih =>
      obtain ⟨value, read, scoring⟩ := except_bind_ok returned
      obtain ⟨others, later, finished⟩ := except_bind_ok scoring
      cases finished
      obtain ⟨same, nonneg⟩ := ih later
      unfold objectiveValue at read
      cases raw : rawObjective prediction objective with
      | none =>
          rw [raw] at read
          cases read
          refine ⟨by rw [List.map_cons, raw, same], List.forall_mem_cons.mpr ⟨?_, nonneg⟩⟩
          simp [recordedValue, raw]
      | some number =>
          rw [raw] at read
          simp only at read
          split at read
          · cases read
          · rename_i range
            cases read
            refine ⟨by rw [List.map_cons, raw, same], List.forall_mem_cons.mpr ⟨?_, nonneg⟩⟩
            simp only [recordedValue, raw, Option.getD_some]
            exact not_lt.mp fun below => range (Or.inl below)

section Step
variable {config : ReplayPolicyConfig} {objective : Objective} {replay next : ReplayState}

theorem filterMap_known {predictions : List Prediction}
    (recorded : ∀ prediction ∈ predictions,
      rawObjective prediction objective = some (recordedValue objective prediction)) :
    (predictions.map (fun prediction => (prediction, rawObjective prediction objective))).filterMap
        (fun entry => entry.2.map fun value => (entry.1, value)) =
      predictions.map fun prediction => (prediction, recordedValue objective prediction) := by
  induction predictions with
  | nil => rfl
  | cons prediction rest ih =>
      obtain ⟨here, later⟩ := List.forall_mem_cons.mp recorded
      rw [List.map_cons, List.map_cons, ← ih later,
        List.filterMap_cons_some (by rw [here]; rfl)]

/-- The survivors of one objective lie near its best candidate. -/
structure Narrowed (config : ReplayPolicyConfig) (objective : Objective)
    (before after : List Prediction) (best : ℚ) : Prop where
  kept : after = before.filter fun prediction => if objective.maximize then
    decide (best - tolerance config best objective ≤ recordedValue objective prediction)
    else decide (recordedValue objective prediction ≤ best + tolerance config best objective)
  nonneg : ∀ prediction ∈ before, 0 ≤ recordedValue objective prediction
  attained : ∃ prediction ∈ before, recordedValue objective prediction = best
  extreme : ∀ prediction ∈ before, if objective.maximize then
    recordedValue objective prediction ≤ best else best ≤ recordedValue objective prediction

/-- The best candidate of an objective is extreme. -/
theorem bestScored_some {available : List Scored} {best : Scored}
    (found : bestScored objective available = some best) :
    best ∈ available ∧ ∀ item ∈ available, if objective.maximize then item.2 ≤ best.2
      else best.2 ≤ item.2 := by
  unfold bestScored at found
  split at found
  · rename_i larger
    simp only [larger, if_true]
    exact ⟨argmax_mem _ found, fun item member => le_argmax _ found member⟩
  · rename_i smaller
    simp only [smaller]
    exact ⟨argmin_mem _ found, fun item member => argmin_le _ found member⟩

theorem applyObjective_narrowed (recorded : ∀ prediction ∈ replay.eligible,
      rawObjective prediction objective = some (recordedValue objective prediction))
    (returned : applyObjective config objective replay = .ok next) :
    ∃ best, Narrowed config objective replay.eligible next.eligible best := by
  unfold applyObjective at returned
  obtain ⟨known, read, choosing⟩ := except_bind_ok returned
  obtain ⟨rfl, nonneg⟩ := scored_ok read
  simp only [filterMap_known recorded] at choosing
  cases found : bestScored objective (replay.eligible.map fun prediction =>
      (prediction, recordedValue objective prediction)) with
  | none => rw [found] at choosing; cases choosing
  | some best =>
      rw [found] at choosing
      cases choosing
      obtain ⟨member, extreme⟩ := bestScored_some found
      obtain ⟨leader, inside, rfl⟩ := List.mem_map.mp member
      refine ⟨recordedValue objective leader, ?_, nonneg, ⟨leader, inside, rfl⟩,
        fun prediction present => extreme _ (List.mem_map_of_mem present)⟩
      simp only [objectiveSurvivors, found, survivors, List.filter_map, List.map_map]
      exact List.map_id _

/-- An objective without any recorded value raises. -/
theorem applyObjective_unknown
    (unknown : ∀ prediction ∈ replay.eligible, rawObjective prediction objective = none)
    (returned : applyObjective config objective replay = .ok next) : False := by
  unfold applyObjective at returned
  obtain ⟨known, read, choosing⟩ := except_bind_ok returned
  obtain ⟨rfl, _⟩ := scored_ok read
  have nothing : (replay.eligible.map fun prediction =>
      (prediction, rawObjective prediction objective)).filterMap
        (fun entry => entry.2.map fun value => (entry.1, value)) = [] := by
    apply List.filterMap_eq_nil_iff.mpr
    intro entry member
    obtain ⟨prediction, inside, rfl⟩ := List.mem_map.mp member
    simp [unknown prediction inside]
  simp only [nothing] at choosing
  have empty : bestScored objective ([] : List Scored) = none := by
    unfold bestScored
    split <;> rfl
  rw [empty] at choosing
  cases choosing

end Step

/-- A candidate has the least latency and the least cost that a record can hold. -/
def zeroAt (prediction : Prediction) : Objective → Bool
  | .latency => recordedValue .latency prediction = 0
  | .cost => recordedValue .cost prediction = 0
  | _ => true

def zeroOn (objectives : List Objective) (prediction : Prediction) : Bool :=
  objectives.all (zeroAt prediction)

/-- A blank prediction records a zero for each objective. -/
def Blank (prediction : Prediction) : Prop :=
  ∀ objective, recordedValue objective prediction = 0

theorem Blank.zeroAt {prediction : Prediction} (blank : Blank prediction) (objective : Objective) :
    zeroAt prediction objective = true := by
  cases objective <;> simp [Control.zeroAt, blank _]

theorem Blank.zeroOn {prediction : Prediction} (blank : Blank prediction)
    (objectives : List Objective) : zeroOn objectives prediction = true :=
  List.all_eq_true.mpr fun objective _ => blank.zeroAt objective

/-- Some success objective finds a candidate far above every blank one. -/
def Separates (config : ReplayPolicyConfig) (objectives : List Objective)
    (predictions : List Prediction) : Prop :=
  ∃ early late, objectives = early ++ .success :: late ∧ ∃ prediction ∈ predictions,
    zeroOn early prediction = true ∧
      config.successAbsoluteTolerance < recordedValue .success prediction

section Blank
variable {config : ReplayPolicyConfig} {before after : List Prediction} {best : ℚ}
  {blank : Prediction}

/-- A blank candidate reduces a minimized objective to its zeros. -/
theorem Narrowed.of_blank {objective : Objective} (minimized : objective.maximize = false)
    (narrowed : Narrowed config objective before after best) (member : blank ∈ before)
    (isBlank : Blank blank) :
    after = before.filter fun prediction => recordedValue objective prediction = 0 := by
  obtain ⟨leader, inside, attained⟩ := narrowed.attained
  have below := narrowed.extreme blank member
  simp only [minimized, Bool.false_eq_true, if_false, isBlank objective] at below
  have least : best = 0 := le_antisymm below (attained ▸ narrowed.nonneg leader inside)
  have slack : tolerance config 0 objective = 0 := by
    cases objective <;> simp_all [tolerance, Objective.maximize]
  rw [narrowed.kept]
  apply List.filter_congr
  intro prediction present
  have nonneg := narrowed.nonneg prediction present
  simp only [minimized, Bool.false_eq_true, if_false, least, slack, add_zero]
  exact decide_eq_decide.mpr ⟨fun low => le_antisymm low nonneg, fun zero => zero.le⟩

/-- A success far above the tolerance removes the blank candidates. -/
theorem Narrowed.no_blank (narrowed : Narrowed config .success before after best)
    {prediction : Prediction} (member : prediction ∈ before)
    (above : config.successAbsoluteTolerance < recordedValue .success prediction) :
    ∀ survivor ∈ after, ¬ Blank survivor := by
  intro survivor present isBlank
  have high : recordedValue .success prediction ≤ best := narrowed.extreme prediction member
  rw [narrowed.kept] at present
  have near : best - config.successAbsoluteTolerance ≤ recordedValue .success survivor :=
    of_decide_eq_true (List.mem_filter.mp present).2
  rw [isBlank .success] at near
  linarith

/-- A success within the tolerance keeps every candidate. -/
theorem Narrowed.keeps_all (narrowed : Narrowed config .success before after best)
    (low : ∀ prediction ∈ before,
      recordedValue .success prediction ≤ config.successAbsoluteTolerance) : after = before := by
  obtain ⟨leader, inside, attained⟩ := narrowed.attained
  rw [narrowed.kept]
  apply List.filter_eq_self.mpr
  intro prediction present
  have nonneg := narrowed.nonneg prediction present
  have bounded := low leader inside
  rw [attained] at bounded
  have near : best - config.successAbsoluteTolerance ≤ recordedValue .success prediction := by
    linarith
  exact decide_eq_true near

end Blank

theorem zeroOn_cons (objective : Objective) (rest : List Objective) (prediction : Prediction) :
    zeroOn (objective :: rest) prediction =
      (zeroAt prediction objective && zeroOn rest prediction) := rfl

/-- An objective that keeps exactly its zeros leaves the question to the later objectives. -/
theorem separates_filter {config : ReplayPolicyConfig} {objective : Objective}
    (minimized : objective ≠ .success) (rest : List Objective) (predictions : List Prediction) :
    Separates config (objective :: rest) predictions ↔
      Separates config rest (predictions.filter fun prediction => zeroAt prediction objective) := by
  constructor
  · rintro ⟨early, late, split, prediction, member, zero, above⟩
    cases early with
    | nil => cases split; exact absurd rfl minimized
    | cons first early =>
        cases split
        rw [zeroOn_cons, Bool.and_eq_true] at zero
        exact ⟨early, late, rfl, prediction, List.mem_filter.mpr ⟨member, zero.1⟩, zero.2, above⟩
  · rintro ⟨early, late, rfl, prediction, member, zero, above⟩
    obtain ⟨inside, here⟩ := List.mem_filter.mp member
    refine ⟨objective :: early, late, rfl, prediction, inside, ?_, above⟩
    rw [zeroOn_cons, here, zero]
    rfl

theorem separates_success {config : ReplayPolicyConfig} {predictions : List Prediction}
    (low : ∀ prediction ∈ predictions,
      recordedValue .success prediction ≤ config.successAbsoluteTolerance)
    (rest : List Objective) :
    Separates config (.success :: rest) predictions ↔ Separates config rest predictions := by
  constructor
  · rintro ⟨early, late, split, prediction, member, zero, above⟩
    cases early with
    | nil => exact absurd above (not_lt.mpr (low prediction member))
    | cons first early =>
        cases split
        exact ⟨early, late, rfl, prediction, member, zero, above⟩
  · rintro ⟨early, late, rfl, prediction, member, zero, above⟩
    exact ⟨.success :: early, late, rfl, prediction, member, zero, above⟩

section Run
variable {config : ReplayPolicyConfig}

/-- Only a recorded objective narrows routing predictions. -/
theorem applyObjective_recorded {objective : Objective} {replay next : ReplayState}
    (recorded : ∀ prediction ∈ replay.eligible, Recorded prediction)
    (returned : applyObjective config objective replay = .ok next) :
    (objective = .success ∨ objective = .latency ∨ objective = .cost) ∧
      ∃ best, Narrowed config objective replay.eligible next.eligible best := by
  cases objective with
  | success | latency | cost =>
      refine ⟨by simp, applyObjective_narrowed (fun prediction member => ?_) returned⟩
      exact (recorded prediction member).known _ (by simp)
  | throughput =>
      refine (applyObjective_unknown (fun prediction member => ?_) returned).elim
      exact (recorded prediction member).unmeasured
  | energy => exact (applyObjective_unknown (fun _ _ => rfl) returned).elim

theorem applyObjectives_sublist {objectives : List Objective} {replay final : ReplayState}
    (recorded : ∀ prediction ∈ replay.eligible, Recorded prediction)
    (returned : applyObjectives config objectives replay = .ok final) :
    final.eligible.Sublist replay.eligible := by
  induction objectives generalizing replay with
  | nil => cases returned; exact List.Sublist.refl _
  | cons objective rest ih =>
      obtain ⟨next, applied, continued⟩ := except_bind_ok returned
      obtain ⟨_, best, narrowed⟩ := applyObjective_recorded recorded applied
      have shorter : next.eligible.Sublist replay.eligible := by
        rw [narrowed.kept]
        exact List.filter_sublist
      split at continued
      · cases continued
        exact shorter
      · have kept := fun prediction member => recorded prediction (shorter.subset member)
        exact (ih kept continued).trans shorter

theorem not_separates_blank {blank : Prediction} (isBlank : Blank blank)
    (objectives : List Objective) : ¬ Separates config objectives [blank] := by
  rintro ⟨early, late, split, prediction, member, zero, above⟩
  rw [List.mem_singleton.mp member, isBlank .success] at above
  exact absurd above (not_lt.mpr config.successShare.1)

/-- Both outcomes of a replay that starts with a blank candidate. -/
def Decides (config : ReplayPolicyConfig) (objectives : List Objective)
    (start final : List Prediction) : Prop :=
  (Separates config objectives start ∧ ∀ survivor ∈ final, ¬ Blank survivor) ∨
    (¬ Separates config objectives start ∧ final.head? = start.find? (zeroOn objectives))

theorem decides_blank {blank : Prediction} (isBlank : Blank blank) (objectives : List Objective) :
    Decides config objectives [blank] [blank] := by
  refine Or.inr ⟨not_separates_blank isBlank objectives, ?_⟩
  rw [List.find?_cons_of_pos (isBlank.zeroOn objectives)]
  rfl

/-- A minimized objective passes its outcome on. -/
theorem decides_filter {objective : Objective} (minimized : objective ≠ .success)
    {rest : List Objective} {start final : List Prediction}
    (outcome : Decides config rest
      (start.filter fun prediction => zeroAt prediction objective) final) :
    Decides config (objective :: rest) start final := by
  unfold Decides
  rw [separates_filter minimized]
  refine outcome.imp_right fun ⟨together, first⟩ => ⟨together, ?_⟩
  rw [first, List.find?_filter]
  congr 1
  funext prediction
  simp [zeroOn_cons]

theorem decides_success {rest : List Objective} {start final : List Prediction}
    (low : ∀ prediction ∈ start,
      recordedValue .success prediction ≤ config.successAbsoluteTolerance)
    (outcome : Decides config rest start final) : Decides config (.success :: rest) start final := by
  unfold Decides
  rw [separates_success low]
  exact outcome

/-- A blank candidate stays until a success objective separates it from another one. -/
theorem applyObjectives_decides {objectives : List Objective} {replay final : ReplayState}
    (recorded : ∀ prediction ∈ replay.eligible, Recorded prediction) {blank : Prediction}
    (member : blank ∈ replay.eligible) (isBlank : Blank blank)
    (returned : applyObjectives config objectives replay = .ok final) :
    Decides config objectives replay.eligible final.eligible := by
  induction objectives generalizing replay with
  | nil =>
      cases returned
      refine Or.inr ⟨?_, ?_⟩
      · rintro ⟨early, late, split, _⟩
        exact absurd split.symm (by simp)
      · cases final.eligible <;> rfl
  | cons objective rest ih =>
      have shorter := applyObjectives_sublist recorded returned
      obtain ⟨next, applied, continued⟩ := except_bind_ok returned
      obtain ⟨kind, best, narrowed⟩ := applyObjective_recorded recorded applied
      -- The rest of the replay decides unless this objective removes the blank candidates.
      have finish (present : blank ∈ next.eligible)
          (kept : ∀ prediction ∈ next.eligible, Recorded prediction) :
          Decides config rest next.eligible final.eligible := by
        split at continued
        · rename_i single
          cases continued
          obtain ⟨only, same⟩ := List.length_eq_one_iff.mp single
          rw [same] at present ⊢
          cases List.mem_singleton.mp present
          exact decides_blank isBlank rest
        · exact ih kept present continued
      have passOn (minimized : objective.maximize = false) (other : objective ≠ .success)
          (zeros : ∀ prediction : Prediction, zeroAt prediction objective =
            decide (recordedValue objective prediction = 0)) :
          Decides config (objective :: rest) replay.eligible final.eligible := by
        have same := narrowed.of_blank minimized member isBlank
        simp only [← zeros] at same
        apply decides_filter other
        rw [← same]
        apply finish
        · rw [same]
          exact List.mem_filter.mpr ⟨member, isBlank.zeroAt objective⟩
        · rw [same]
          exact fun prediction inside => recorded prediction (List.mem_filter.mp inside).1
      rcases kind with rfl | rfl | rfl
      · by_cases low : ∀ prediction ∈ replay.eligible,
            recordedValue .success prediction ≤ config.successAbsoluteTolerance
        · have same := narrowed.keeps_all low
          apply decides_success low
          have decided := finish (same ▸ member) (same ▸ recorded)
          rwa [same] at decided
        · push Not at low
          obtain ⟨prediction, inside, above⟩ := low
          refine Or.inl ⟨⟨[], rest, rfl, prediction, inside, rfl, above⟩, ?_⟩
          have removed := narrowed.no_blank inside above
          split at continued
          · cases continued
            exact removed
          · have kept : ∀ prediction ∈ next.eligible, Recorded prediction := by
              rw [narrowed.kept]
              exact fun prediction inside => recorded prediction (List.mem_filter.mp inside).1
            have later := (applyObjectives_sublist kept continued).subset
            exact fun survivor present => removed survivor (later present)
      · exact passOn rfl (by decide) fun _ => rfl
      · exact passOn rfl (by decide) fun _ => rfl

end Run

end StateFlow.Control
