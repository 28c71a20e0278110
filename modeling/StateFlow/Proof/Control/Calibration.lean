import StateFlow.Construction.Control.Evaluation
import StateFlow.Library.Grouping

namespace StateFlow.Control
open Python Table Effect Predictions Grouping

/-- A feedback joins some prediction to some outcome. -/
def Built (feedback : Feedback) : Prop :=
  ∃ decision prediction outcome replayPointer now feedbackId,
    buildFeedback decision prediction outcome replayPointer now feedbackId = .ok feedback

section Feedback
variable {prediction : Prediction} {evaluation next : Evaluation}

/-- A continuous error leaves the errors of other names alone. -/
theorem continuousError_other {name other : String} {predicted actual : Option ℚ}
    (absolute : other ≠ name ++ "_absolute_error")
    (percentage : other ≠ name ++ "_absolute_percentage_error")
    (returned : continuousError name predicted actual evaluation = .ok next) :
    next.errors.lookup other = evaluation.errors.lookup other := by
  unfold continuousError at returned
  split at returned
  · cases returned
    rfl
  · split at returned
    · cases returned
    · split at returned
      · cases returned
        rfl
      · split at returned
        · cases returned
        · cases returned
          simp only
          split
          · rw [lookup_assign_other percentage, lookup_assign_other absolute]
          · rw [lookup_assign_other absolute]

/-- An observed success with a probability leaves one error and one calibration sample. -/
theorem successError_ok {success : Option Bool} {calibration : List (String × Value)}
    (absent : evaluation.errors.lookup "success_absolute_error" = none)
    (returned : successError prediction success evaluation = .ok (next, calibration)) :
    (∃ probability observed : ℚ, (0 ≤ probability ∧ probability ≤ 1) ∧
      (observed = 0 ∨ observed = 1) ∧
      next.errors.lookup "success_absolute_error" = some |probability - observed| ∧
      calibration.lookup "predicted_probability" = some (.float probability) ∧
      calibration.lookup "observed_success" = some (.float observed)) ∨
    (calibration = [] ∧ next.errors.lookup "success_absolute_error" = none) := by
  unfold successError at returned
  cases success with
  | none =>
      cases returned
      exact .inr ⟨rfl, absent⟩
  | some success =>
      cases foreseen : prediction.reliability.successProbability with
      | none =>
          rw [foreseen] at returned
          cases returned
          exact .inr ⟨rfl, absent⟩
      | some probability =>
          by_cases valid : 0 ≤ probability ∧ probability ≤ 1
          · simp only [foreseen, not_not.mpr valid, if_false] at returned
            cases returned
            refine .inl ⟨probability, if success then 1 else 0, valid, ?_, ?_, rfl, rfl⟩
            · cases success <;> simp
            · rw [lookup_assign_other (by decide), lookup_assign_same]
          · simp only [foreseen, valid, not_false_eq_true, if_true] at returned
            cases returned

/-- A success sample pairs a probability with an observation. -/
def Sampled (feedback : Feedback) (sample : ℚ × ℚ) : Prop :=
  successSample feedback = some sample ∧ (0 ≤ sample.1 ∧ sample.1 ≤ 1) ∧
    (sample.2 = 0 ∨ sample.2 = 1) ∧
    feedback.predictionError.lookup "success_absolute_error" = some |sample.1 - sample.2|

/-- A built feedback has a success sample exactly when it has a success error. -/
theorem Built.sampled {feedback : Feedback} (built : Built feedback) :
    (∃ sample, Sampled feedback sample) ∨ (successSample feedback = none ∧
      feedback.predictionError.lookup "success_absolute_error" = none) := by
  obtain ⟨decision, prediction, outcome, replayPointer, now, feedbackId, returned⟩ := built
  unfold buildFeedback at returned
  dsimp only at returned
  split at returned
  · cases returned
  split at returned
  · cases returned
  obtain ⟨latency, timed, returned⟩ := except_bind_ok returned
  obtain ⟨cost, priced, returned⟩ := except_bind_ok returned
  obtain ⟨⟨judged, calibration⟩, succeeded, returned⟩ := except_bind_ok returned
  cases returned
  have absent : cost.errors.lookup "success_absolute_error" = none := by
    rw [continuousError_other (by decide) (by decide) priced,
      continuousError_other (by decide) (by decide) timed]
    rfl
  rcases successError_ok absent succeeded with
    ⟨probability, observed, valid, binary, error, foreseen, seen⟩ | ⟨rfl, missing⟩
  · refine .inl ⟨(probability, observed), ?_, valid, binary, error⟩
    simp only [successSample, foreseen, seen, Option.bind_eq_bind, Option.bind_some,
      Value.number?_float]
    rfl
  · exact .inr ⟨rfl, missing⟩

end Feedback

section Bins
variable {count : ℕ} {samples : List (ℚ × ℚ)}

/-- The probabilities of the samples are valid. -/
def Valid (samples : List (ℚ × ℚ)) : Prop := ∀ sample ∈ samples, 0 ≤ sample.1 ∧ sample.1 ≤ 1

/-- Valid samples fill the bins without an exception. -/
theorem fileSamples_ok (count : ℕ) (valid : Valid samples) (grouped : List (List (ℚ × ℚ))) :
    samples.foldlM (fileSample count) grouped = .ok (samples.foldl
      (fun boxes sample => boxes.modify (binIndex count sample.1) (· ++ [sample])) grouped) := by
  induction samples generalizing grouped with
  | nil => rfl
  | cons sample rest ih =>
      have kept : fileSample count grouped sample
          = .ok (grouped.modify (binIndex count sample.1) (· ++ [sample])) :=
        if_neg (not_not.mpr (valid sample List.mem_cons_self))
      rw [List.foldlM_cons, kept]
      exact ih (fun other member => valid other (List.mem_cons_of_mem _ member)) _

/-- The samples of one bin. -/
def binned (count : ℕ) (samples : List (ℚ × ℚ)) (index : ℕ) : List (ℚ × ℚ) :=
  group (fun sample => binIndex count sample.1) index samples

/-- The reported bins are the nonempty ones. -/
theorem calibrationBins_ok (count : ℕ) (valid : Valid samples) :
    calibrationBins samples count = .ok ((List.range count).filterMap fun index =>
      calibrationBin count (binned count samples index, index)) := by
  have grouped := distribute_eq (fun sample : ℚ × ℚ => binIndex count sample.1) count samples
  unfold distribute at grouped
  unfold calibrationBins
  rw [fileSamples_ok count valid, grouped]
  have numbered : ((List.range count).map (binned count samples)).zipIdx
      = (List.range count).map fun index => (binned count samples index, index) := by
    apply List.ext_getElem (by simp)
    intro index _ _
    simp
  change Except.ok (List.filterMap _ (((List.range count).map (binned count samples)).zipIdx)) = _
  rw [numbered, List.filterMap_map]
  rfl

/-- A valid probability lies between the bounds of its bin. -/
theorem binIndex_bounds {probability : ℚ} (positive : 0 < count) (nonneg : 0 ≤ probability)
    (whole : probability ≤ 1) :
    (binIndex count probability : ℚ) * (1 / count) ≤ probability ∧
      probability ≤ ((binIndex count probability : ℚ) + 1) * (1 / count) := by
  have wide : (0 : ℚ) < count := Nat.cast_pos.mpr positive
  have scaled : 0 ≤ probability * count := mul_nonneg nonneg wide.le
  have floored : ((⌊probability * count⌋.toNat : ℕ) : ℤ) = ⌊probability * count⌋ :=
    Int.toNat_of_nonneg (Int.floor_nonneg.mpr scaled)
  have floor_le : (⌊probability * count⌋.toNat : ℚ) ≤ probability * count := by
    have below := Int.floor_le (probability * count)
    rwa [← floored, Int.cast_natCast] at below
  have lt_floor : probability * count < (⌊probability * count⌋.toNat : ℚ) + 1 := by
    have above := Int.lt_floor_add_one (probability * count)
    rwa [← floored, Int.cast_natCast] at above
  rw [mul_one_div, mul_one_div, div_le_iff₀ wide, le_div_iff₀ wide]
  unfold binIndex
  constructor
  · exact (Nat.cast_le.mpr (min_le_right _ _)).trans floor_le
  · rcases le_total (count - 1) ⌊probability * count⌋.toNat with last | inner
    · rw [min_eq_left last, Nat.cast_sub positive, Nat.cast_one, sub_add_cancel]
      exact mul_le_of_le_one_left wide.le whole
    · rw [min_eq_right inner]
      exact lt_floor.le

/-- A bin counts its samples. -/
theorem calibrationBin_samples (values : List (ℚ × ℚ)) (index : ℕ) :
    ((calibrationBin count (values, index)).map CalibrationBin.samples).getD 0 = values.length := by
  cases values <;> rfl

/-- A weighted gap is the distance between the two sums of a bin. -/
theorem calibrationBin_gap (values : List (ℚ × ℚ)) (index : ℕ) :
    ((calibrationBin count (values, index)).map fun bin =>
        (bin.samples : ℚ) * bin.absoluteGap).getD 0
      = |(values.map fun sample => sample.1 - sample.2).sum| := by
  cases values with
  | nil => simp [calibrationBin]
  | cons first rest =>
      have long : (0 : ℚ) < (first :: rest).length := Nat.cast_pos.mpr (Nat.succ_pos _)
      simp only [calibrationBin, List.isEmpty_cons, Bool.false_eq_true, if_false, Option.map_some,
        Option.getD_some]
      rw [← sub_div, abs_div, abs_of_pos long, mul_div_cancel₀ _ long.ne', sum_map_sub]

end Bins

/-- The reported bins of valid samples. -/
def reportedBins (count : ℕ) (samples : List (ℚ × ℚ)) : List CalibrationBin :=
  (List.range count).filterMap fun index =>
    calibrationBin count (binned count samples index, index)

section Reported
variable {count : ℕ} {samples : List (ℚ × ℚ)}

/-- Each sample falls into one of the bins. -/
theorem binIndex_covered (positive : 0 < count) (samples : List (ℚ × ℚ)) :
    ∀ sample ∈ samples, binIndex count sample.1 ∈ List.range count := by
  intro sample _
  exact List.mem_range.mpr ((min_le_left _ _).trans_lt (Nat.sub_one_lt positive.ne'))

/-- The counts of the bins add up to the number of samples. -/
theorem reportedBins_counted (positive : 0 < count) :
    ((reportedBins count samples).map CalibrationBin.samples).sum = samples.length := by
  have whole := sum_groups (fun sample : ℚ × ℚ => binIndex count sample.1) (fun _ => 1)
    List.nodup_range (binIndex_covered positive samples)
  simp only [List.map_const', List.sum_replicate, smul_eq_mul, mul_one] at whole
  unfold reportedBins
  rw [sum_filterMap]
  simp only [calibrationBin_samples]
  exact whole

/-- Each reported bin has its mean confidence between its bounds. -/
theorem reportedBins_centred (positive : 0 < count) (valid : Valid samples) :
    ∀ bin ∈ reportedBins count samples,
      bin.lowerBound ≤ bin.meanConfidence ∧ bin.meanConfidence ≤ bin.upperBound := by
  intro bin member
  obtain ⟨index, -, shown⟩ := List.mem_filterMap.mp member
  have bounded : ∀ probability ∈ (binned count samples index).map Prod.fst,
      (index : ℚ) * (1 / count) ≤ probability ∧ probability ≤ ((index : ℚ) + 1) * (1 / count) := by
    intro probability member
    obtain ⟨sample, grouped, rfl⟩ := List.mem_map.mp member
    obtain ⟨known, rfl⟩ := mem_group.mp grouped
    exact binIndex_bounds positive (valid sample known).1 (valid sample known).2
  by_cases absent : binned count samples index = []
  · rw [absent] at shown
    cases shown
  · simp only [calibrationBin, List.isEmpty_iff, absent, if_false] at shown
    cases shown
    have filled : (binned count samples index).map Prod.fst ≠ [] := by simpa using absent
    have low := le_mean filled fun probability member => (bounded probability member).1
    have high := mean_le filled fun probability member => (bounded probability member).2
    rw [mean, List.length_map] at low high
    exact ⟨low, high⟩

/-- The distances of the samples bound the weighted gaps of the bins. -/
theorem reportedBins_gap (positive : 0 < count) (samples : List (ℚ × ℚ)) :
    ((reportedBins count samples).map fun bin => (bin.samples : ℚ) * bin.absoluteGap).sum
      ≤ (samples.map fun sample => |sample.1 - sample.2|).sum := by
  have whole := sum_groups (fun sample : ℚ × ℚ => binIndex count sample.1)
    (fun sample => |sample.1 - sample.2|) List.nodup_range
    (binIndex_covered positive samples)
  unfold reportedBins
  rw [sum_filterMap, ← whole]
  apply List.sum_le_sum
  intro index _
  rw [calibrationBin_gap]
  have triangle := List.le_sum_of_subadditive (fun value : ℚ => |value|) abs_zero.le
    (fun first second => abs_add_le first second)
    ((binned count samples index).map fun sample => sample.1 - sample.2)
  rwa [List.map_map] at triangle

theorem reportedBins_gap_nonneg (count : ℕ) (samples : List (ℚ × ℚ)) :
    0 ≤ ((reportedBins count samples).map fun bin => (bin.samples : ℚ) * bin.absoluteGap).sum := by
  unfold reportedBins
  rw [sum_filterMap]
  apply List.sum_nonneg
  intro gap member
  obtain ⟨index, -, rfl⟩ := List.mem_map.mp member
  rw [calibrationBin_gap]
  exact abs_nonneg _

/-- The bins do not depend on the order of the samples. -/
theorem calibrationBin_perm {values others : List (ℚ × ℚ)} (same : values.Perm others)
    (index : ℕ) : calibrationBin count (values, index) = calibrationBin count (others, index) := by
  unfold calibrationBin
  simp only [same.isEmpty_eq, (same.map Prod.fst).sum_eq, (same.map Prod.snd).sum_eq,
    same.length_eq]

theorem reportedBins_perm {others : List (ℚ × ℚ)} (same : samples.Perm others) :
    reportedBins count samples = reportedBins count others := by
  unfold reportedBins
  apply List.filterMap_congr
  intro index _
  exact calibrationBin_perm (group_perm same) index

end Reported

/-- A calibrated report is consistent with its bins and its samples. -/
structure Calibrated (entries : List (Prediction × Feedback))
    (report : PredictionEvaluationReport) : Prop where
  sampled : report.successSamples = entries.countP fun entry => (successSample entry.2).isSome
  counted : (report.calibrationBins.map CalibrationBin.samples).sum = report.successSamples
  centred : ∀ bin ∈ report.calibrationBins,
    bin.lowerBound ≤ bin.meanConfidence ∧ bin.meanConfidence ≤ bin.upperBound
  gap : ∀ ece, report.successEce = some ece → (0 ≤ ece ∧ ece ≤ 1) ∧
    ∃ error, meanOf (errorValues "success_absolute_error" entries) = some error ∧ ece ≤ error
  brier : ∀ score, report.successBrierScore = some score → 0 ≤ score ∧ score ≤ 1
  scored : (report.successEce = none ↔ report.successSamples = 0) ∧
    (report.successBrierScore = none ↔ report.successSamples = 0)
  coverage : 0 ≤ report.coverage ∧ report.coverage ≤ 1

section Report
variable {entries : List (Prediction × Feedback)}

theorem successSamples_mem (built : ∀ entry ∈ entries, Built entry.2) {sample : ℚ × ℚ}
    (member : sample ∈ successSamples entries) :
    (0 ≤ sample.1 ∧ sample.1 ≤ 1) ∧ (sample.2 = 0 ∨ sample.2 = 1) := by
  obtain ⟨entry, known, shown⟩ := List.mem_filterMap.mp member
  rcases (built entry known).sampled with ⟨found, same, valid, binary, -⟩ | ⟨none, -⟩
  · cases same.symm.trans shown
    exact ⟨valid, binary⟩
  · cases none.symm.trans shown

/-- The success errors are the distances of the success samples. -/
theorem successErrors_eq (built : ∀ entry ∈ entries, Built entry.2) :
    errorValues "success_absolute_error" entries
      = (successSamples entries).map fun sample => |sample.1 - sample.2| := by
  unfold errorValues successSamples
  rw [List.map_filterMap]
  apply List.filterMap_congr
  intro entry member
  rcases (built entry member).sampled with ⟨sample, same, -, -, error⟩ | ⟨none, missing⟩
  · rw [error, same]
    rfl
  · rw [missing, none]
    rfl

/-- A distance between a probability and an observation is at most one. -/
theorem distance_le {sample : ℚ × ℚ} (valid : 0 ≤ sample.1 ∧ sample.1 ≤ 1)
    (binary : sample.2 = 0 ∨ sample.2 = 1) : |sample.1 - sample.2| ≤ 1 := by
  obtain ⟨nonneg, whole⟩ := valid
  rcases binary with zero | one
  · rw [zero, sub_zero, abs_of_nonneg nonneg]
    exact whole
  · rw [one, abs_le]
    constructor <;> linarith

theorem meanOf_eq {values : List ℚ} (present : values ≠ []) : meanOf values = some (mean values) :=
  if_neg (by simpa using present)

/-- The observed fields include the predicted ones. -/
theorem predictedFields_le (prediction : Prediction) (outcome : Outcome) :
    predictedFields prediction outcome ≤ observedFields outcome := by
  unfold predictedFields observedFields
  gcongr
  · cases outcome.actualLatencySeconds <;> simp [Bool.toNat_le]
  · cases outcome.actualCost <;> simp [Bool.toNat_le]
  · cases outcome.actualSuccess <;> simp [Bool.toNat_le]

/-- Valid samples give a report with the nonempty bins. -/
theorem materialize_ok {binCount : Int} (positive : 0 < binCount)
    (valid : Valid (successSamples entries)) :
    materializeEvaluationReport entries binCount
      = .ok (evaluationReport entries (reportedBins binCount.toNat (successSamples entries))) := by
  unfold materializeEvaluationReport
  rw [if_neg (not_le.mpr positive), calibrationBins_ok binCount.toNat valid]
  rfl

/-- The averages do not depend on the order of the entries. -/
theorem evaluationReport_perm {others : List (Prediction × Feedback)} (same : entries.Perm others)
    (bins : List CalibrationBin) : evaluationReport entries bins = evaluationReport others bins := by
  have averaged : ∀ {values rest : List ℚ}, values.Perm rest → meanOf values = meanOf rest := by
    intro values rest moved
    unfold meanOf
    rw [moved.isEmpty_eq, moved.sum_eq, moved.length_eq]
  have errors : ∀ name, (errorValues name entries).Perm (errorValues name others) :=
    fun name => same.filterMap _
  have samples : (successSamples entries).Perm (successSamples others) := same.filterMap _
  unfold evaluationReport
  simp only [averaged (errors _), (errors _).length_eq, samples.length_eq, samples.isEmpty_eq,
    averaged (samples.map _), (same.map _).sum_eq, same.countP_eq, same.length_eq,
    same.isEmpty_eq]

theorem meanOf_unit {values : List ℚ} {score : ℚ} (known : meanOf values = some score)
    (bounded : ∀ value ∈ values, 0 ≤ value ∧ value ≤ 1) : 0 ≤ score ∧ score ≤ 1 := by
  have present : values ≠ [] := by
    rintro rfl
    cases known
  cases (meanOf_eq present).symm.trans known
  exact ⟨le_mean present fun value member => (bounded value member).1,
    mean_le present fun value member => (bounded value member).2⟩

theorem meanOf_none {values : List ℚ} : meanOf values = none ↔ values.length = 0 := by
  unfold meanOf
  cases values <;> simp

/-- The sums and the bins of built feedback are consistent. -/
theorem evaluationReport_calibrated (built : ∀ entry ∈ entries, Built entry.2) {count : ℕ}
    (wide : 0 < count) :
    Calibrated entries (evaluationReport entries (reportedBins count (successSamples entries))) := by
  have valid : Valid (successSamples entries) :=
    fun sample member => (successSamples_mem built member).1
  have distance : ∀ sample ∈ successSamples entries, |sample.1 - sample.2| ≤ 1 :=
    fun sample member => distance_le (valid sample member) (successSamples_mem built member).2
  constructor
  case sampled => exact List.length_filterMap_eq_countP
  case counted => exact reportedBins_counted wide
  case centred => exact reportedBins_centred wide valid
  case gap =>
    intro ece known
    simp only [evaluationReport] at known
    by_cases absent : successSamples entries = []
    · rw [absent] at known
      cases known
    · simp only [List.isEmpty_iff, absent, if_false, Option.some.injEq] at known
      subst known
      have long : (0 : ℚ) < (successSamples entries).length :=
        Nat.cast_pos.mpr (List.length_pos_iff.mpr absent)
      have present : (successSamples entries).map (fun sample => |sample.1 - sample.2|) ≠ [] := by
        simpa using absent
      have gap := div_le_div_of_nonneg_right (reportedBins_gap wide (successSamples entries)) long.le
      have named : ((successSamples entries).map fun sample => |sample.1 - sample.2|).sum /
          (successSamples entries).length
            = mean ((successSamples entries).map fun sample => |sample.1 - sample.2|) := by
        rw [mean, List.length_map]
      rw [named] at gap
      have whole : mean ((successSamples entries).map fun sample => |sample.1 - sample.2|) ≤ 1 := by
        apply mean_le present
        intro value member
        obtain ⟨sample, known, rfl⟩ := List.mem_map.mp member
        exact distance sample known
      refine ⟨⟨?_, gap.trans whole⟩, _, ?_, gap⟩
      · exact div_nonneg (reportedBins_gap_nonneg count _) long.le
      · rw [successErrors_eq built, meanOf_eq present]
  case brier =>
    intro score known
    apply meanOf_unit known
    intro value member
    obtain ⟨sample, seen, rfl⟩ := List.mem_map.mp member
    exact ⟨sq_nonneg _, (sq_le_one_iff_abs_le_one _).mpr (distance sample seen)⟩
  case scored =>
    refine ⟨?_, ?_⟩
    · simp only [evaluationReport]
      cases successSamples entries <;> simp
    · simp only [evaluationReport, meanOf_none, List.length_map]
  case coverage =>
    have below : (entries.map fun entry => predictedFields entry.1 entry.2.outcome).sum
        ≤ (entries.map fun entry => observedFields entry.2.outcome).sum :=
      List.sum_le_sum fun entry _ => predictedFields_le entry.1 entry.2.outcome
    simp only [evaluationReport]
    split
    · exact ⟨le_rfl, zero_le_one⟩
    · exact ⟨by positivity, div_le_one_of_le₀ (Nat.cast_le.mpr below) (Nat.cast_nonneg _)⟩

/-- A report on built feedback is calibrated. It does not depend on the order of the entries. -/
theorem report_calibrated {entries : List (Prediction × Feedback)}
    (built : ∀ entry ∈ entries, Built entry.2) {binCount : Int} (positive : 0 < binCount) :
    ∃ report, materializeEvaluationReport entries binCount = .ok report ∧
      Calibrated entries report ∧
      ∀ others, entries.Perm others → materializeEvaluationReport others binCount = .ok report := by
  have valid : Valid (successSamples entries) :=
    fun sample member => (successSamples_mem built member).1
  have wide : 0 < binCount.toNat := Int.lt_toNat.mpr positive
  refine ⟨_, materialize_ok positive valid, ?_, ?_⟩
  · exact evaluationReport_calibrated built wide
  · intro others same
    have moved : (successSamples entries).Perm (successSamples others) := same.filterMap _
    have still : Valid (successSamples others) :=
      fun sample member => valid sample (moved.mem_iff.mpr member)
    rw [materialize_ok positive still, evaluationReport_perm same, reportedBins_perm moved]

end Report

/-- This decision runs one action on one prediction. -/
def keepDecision : DecisionRecord where
  snapshotId := "s"
  policyVersion := "1"
  candidateIds := ["a"]
  predictionIds := ["p"]
  modelVersions := ["analytical-0.1"]
  selectedAction := { targetComponent := "c", actionType := "keep", idempotencyKey := "k",
                      actionId := "x" }
  reason := ""
  decisionId := "d"
  timestamp := 0

def keepPrediction (probability : ℚ) : Prediction where
  snapshotId := "s"
  candidateId := "a"
  reliability := { successProbability := some probability }
  predictionId := "p"

def keepOutcome (success : Bool) : Outcome where
  actionId := "x"
  status := .committed
  startedAt := 0
  completedAt := 1
  actualSuccess := some success

/-- The feedback of the action for a probability and a known success. -/
def keepFeedback (probability : ℚ) (success : Bool) : Feedback :=
  let observed : ℚ := if success then 1 else 0
  { decisionId := "d"
    actionId := "x"
    predictionId := "p"
    outcome := keepOutcome success
    predictionError := [("success_absolute_error", |probability - observed|),
      ("success_brier", (probability - observed) ^ 2)]
    policyKpis := [("actual_success", observed)]
    calibrationSample := [("predicted_probability", .float probability),
      ("observed_success", .float observed), ("model_version", .str "analytical-0.1"),
      ("applicability", .str "unknown")]
    timestamp := 0
    feedbackId := "f" }

theorem keepFeedback_built {probability : ℚ} (success : Bool)
    (valid : 0 ≤ probability ∧ probability ≤ 1) : Built (keepFeedback probability success) := by
  have judged : successError (keepPrediction probability) (some success) {} = .ok
      (⟨(keepFeedback probability success).predictionError,
        (keepFeedback probability success).policyKpis⟩,
        (keepFeedback probability success).calibrationSample) := by
    simp only [successError, keepPrediction, if_neg (not_not.mpr valid)]
    rfl
  refine ⟨keepDecision, keepPrediction probability, keepOutcome success, "", 0, "f", ?_⟩
  change (successError (keepPrediction probability) (some success) {} >>= _) = _
  rw [judged]
  rfl

/-- Two sure successes, a surprise, and a failure that was foreseen. -/
def keepEntries : List (Prediction × Feedback) :=
  [(3 / 4, true), (19 / 20, true), (3 / 4, false), (1 / 10, false)].map fun entry =>
    (keepPrediction entry.1, keepFeedback entry.1 entry.2)

theorem keepEntries_built : ∀ entry ∈ keepEntries, Built entry.2 := by
  simp only [keepEntries, List.forall_mem_map, List.forall_mem_cons, List.not_mem_nil]
  refine ⟨keepFeedback_built _ ?_, keepFeedback_built _ ?_, keepFeedback_built _ ?_,
    keepFeedback_built _ ?_, fun _ absent => absent.elim⟩
  all_goals norm_num

theorem report_calibrated_of_keep :
    ∃ report, materializeEvaluationReport keepEntries 10 = .ok report ∧
      Calibrated keepEntries report ∧
      ∀ others, keepEntries.Perm others → materializeEvaluationReport others 10 = .ok report :=
  report_calibrated keepEntries_built (by decide)

end StateFlow.Control
