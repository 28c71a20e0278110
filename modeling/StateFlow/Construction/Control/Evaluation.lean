import StateFlow.Construction.Control.Journal

namespace StateFlow.Control
open Python Table Effect Predictions

/-- The errors and the indicators that a feedback collects. -/
structure Evaluation where
  errors : List (String × ℚ) := []
  kpis : List (String × ℚ) := []

/-- `_continuous_error` compares a prediction with what was observed. -/
def continuousError (name : String) (predicted actual : Option ℚ) (evaluation : Evaluation) :
    Except Exception Evaluation :=
  match actual with
  | none => .ok evaluation
  | some actual =>
      if actual < 0 then .error .valueError
      else
        let kpis := assign ("actual_" ++ name) actual evaluation.kpis
        match predicted with
        | none => .ok { evaluation with kpis := kpis }
        | some predicted =>
            if predicted < 0 then .error .valueError
            else
              let absolute := |predicted - actual|
              let errors := assign (name ++ "_absolute_error") absolute evaluation.errors
              let errors := if 0 < actual then
                  assign (name ++ "_absolute_percentage_error") (absolute / actual) errors
                else errors
              .ok ⟨errors, kpis⟩

/-- An observed success extends the errors and gives a calibration sample. -/
def successError (prediction : Prediction) (success : Option Bool) (evaluation : Evaluation) :
    Except Exception (Evaluation × List (String × Value)) :=
  match success with
  | none => .ok (evaluation, [])
  | some success =>
      let observed : ℚ := if success then 1 else 0
      let kpis := assign "actual_success" observed evaluation.kpis
      match prediction.reliability.successProbability with
      | none => .ok ({ evaluation with kpis := kpis }, [])
      | some probability =>
          if ¬ (0 ≤ probability ∧ probability ≤ 1) then .error .valueError
          else
            let errors := assign "success_absolute_error" |probability - observed|
              evaluation.errors
            let errors := assign "success_brier" ((probability - observed) ^ 2) errors
            .ok (⟨errors, kpis⟩,
              [("predicted_probability", .float probability), ("observed_success", .float observed),
                ("model_version", .str prediction.modelVersion),
                ("applicability", .str prediction.applicability)])

/-- `build_feedback` joins one selected prediction to its outcome. -/
def buildFeedback (decision : DecisionRecord) (prediction : Prediction) (outcome : Outcome)
    (replayPointer : String) (now : Int) (feedbackId : String) : Except Exception Feedback := do
  if outcome.actionId ≠ decision.selectedAction.actionId then throw .valueError
  if prediction.predictionId ∉ decision.predictionIds then throw .valueError
  let latency ← continuousError "latency" prediction.performance.e2eSeconds
    outcome.actualLatencySeconds {}
  let cost ← continuousError "cost" prediction.cost.monetaryCost outcome.actualCost latency
  let (evaluation, calibration) ← successError prediction outcome.actualSuccess cost
  return {
    decisionId := decision.decisionId
    actionId := outcome.actionId
    predictionId := prediction.predictionId
    outcome := outcome
    predictionError := evaluation.errors
    policyKpis := evaluation.kpis
    calibrationSample := calibration
    replayPointer := replayPointer
    timestamp := now
    feedbackId := feedbackId }

structure CalibrationBin where
  lowerBound : ℚ
  upperBound : ℚ
  samples : ℕ
  meanConfidence : ℚ
  observedSuccessRate : ℚ
  absoluteGap : ℚ
  deriving DecidableEq

structure PredictionEvaluationReport where
  samples : ℕ
  observedFields : ℕ
  predictedFields : ℕ
  coverage : ℚ
  latencySamples : ℕ
  latencyMae : Option ℚ
  latencyMapeSamples : ℕ
  latencyMape : Option ℚ
  costSamples : ℕ
  costMae : Option ℚ
  costMapeSamples : ℕ
  costMape : Option ℚ
  successSamples : ℕ
  successBrierScore : Option ℚ
  successEce : Option ℚ
  fallbackRate : ℚ
  calibrationBins : List CalibrationBin := []
  deriving DecidableEq

/-- The last bin also takes the probability one. -/
def binIndex (count : ℕ) (probability : ℚ) : ℕ := min (count - 1) ⌊probability * count⌋.toNat

/-- A sample joins its bin when its probability is valid. -/
def fileSample (count : ℕ) (grouped : List (List (ℚ × ℚ))) (sample : ℚ × ℚ) :
    Except Exception (List (List (ℚ × ℚ))) :=
  if ¬ (0 ≤ sample.1 ∧ sample.1 ≤ 1) then .error .valueError
  else .ok (grouped.modify (binIndex count sample.1) (· ++ [sample]))

/-- An empty bin is not reported. -/
def calibrationBin (count : ℕ) (entry : List (ℚ × ℚ) × ℕ) : Option CalibrationBin :=
  let (values, index) := entry
  if values.isEmpty then none
  else
    let width : ℚ := 1 / count
    let confidence := (values.map Prod.fst).sum / values.length
    let observed := (values.map Prod.snd).sum / values.length
    some {
      lowerBound := index * width
      upperBound := (index + 1) * width
      samples := values.length
      meanConfidence := confidence
      observedSuccessRate := observed
      absoluteGap := |confidence - observed| }

def calibrationBins (samples : List (ℚ × ℚ)) (count : ℕ) :
    Except Exception (List CalibrationBin) := do
  let grouped ← samples.foldlM (fileSample count) (List.replicate count [])
  return grouped.zipIdx.filterMap (calibrationBin count)

/-- A list without values has no mean. -/
def meanOf (values : List ℚ) : Option ℚ :=
  if values.isEmpty then none else some (values.sum / values.length)

/-- The fields of an outcome that were observed. -/
def observedFields (outcome : Outcome) : ℕ :=
  outcome.actualLatencySeconds.isSome.toNat + outcome.actualCost.isSome.toNat +
    outcome.actualSuccess.isSome.toNat

/-- The observed fields that the prediction had foreseen. -/
def predictedFields (prediction : Prediction) (outcome : Outcome) : ℕ :=
  (outcome.actualLatencySeconds.isSome && prediction.performance.e2eSeconds.isSome).toNat +
    (outcome.actualCost.isSome && prediction.cost.monetaryCost.isSome).toNat +
    (outcome.actualSuccess.isSome && prediction.reliability.successProbability.isSome).toNat

/-- A calibration sample counts when both of its values are numbers. -/
def successSample (feedback : Feedback) : Option (ℚ × ℚ) := do
  let probability ← (← feedback.calibrationSample.lookup "predicted_probability").number?
  let observed ← (← feedback.calibrationSample.lookup "observed_success").number?
  return (probability, observed)

/-- The values of one error over all samples. -/
def errorValues (name : String) (entries : List (Prediction × Feedback)) : List ℚ :=
  entries.filterMap fun entry => entry.2.predictionError.lookup name

def successSamples (entries : List (Prediction × Feedback)) : List (ℚ × ℚ) :=
  entries.filterMap fun entry => successSample entry.2

/-- The averages of the entries join the calibration bins. -/
def evaluationReport (entries : List (Prediction × Feedback)) (bins : List CalibrationBin) :
    PredictionEvaluationReport :=
  let latencyErrors := errorValues "latency_absolute_error" entries
  let latencyPercentages := errorValues "latency_absolute_percentage_error" entries
  let costErrors := errorValues "cost_absolute_error" entries
  let costPercentages := errorValues "cost_absolute_percentage_error" entries
  let samples := successSamples entries
  let observed := (entries.map fun entry => observedFields entry.2.outcome).sum
  let predicted := (entries.map fun entry => predictedFields entry.1 entry.2.outcome).sum
  let fallbackCount := entries.countP fun entry => entry.1.fallback ≠ "none"
  { samples := entries.length
    observedFields := observed
    predictedFields := predicted
    coverage := if observed = 0 then 0 else predicted / observed
    latencySamples := latencyErrors.length
    latencyMae := meanOf latencyErrors
    latencyMapeSamples := latencyPercentages.length
    latencyMape := meanOf latencyPercentages
    costSamples := costErrors.length
    costMae := meanOf costErrors
    costMapeSamples := costPercentages.length
    costMape := meanOf costPercentages
    successSamples := samples.length
    successBrierScore := meanOf (samples.map fun sample => (sample.1 - sample.2) ^ 2)
    successEce :=
      if samples.isEmpty then none
      else some ((bins.map fun bin => (bin.samples : ℚ) * bin.absoluteGap).sum / samples.length)
    fallbackRate := if entries.isEmpty then 0 else fallbackCount / entries.length
    calibrationBins := bins }

/-- `materialize_evaluation_report` averages the errors and calibrates the probabilities. -/
def materializeEvaluationReport (entries : List (Prediction × Feedback)) (binCount : Int) :
    Except Exception PredictionEvaluationReport :=
  if binCount ≤ 0 then .error .valueError
  else do
    let bins ← calibrationBins (successSamples entries) binCount.toNat
    return evaluationReport entries bins

def lookupKey {A : Type} (table : List (String × A)) (key : String) : Except Exception A :=
  match table.lookup key with
  | some value => .ok value
  | none => .error .keyError

def InMemoryControlJournal.storeOutcome (journal : InMemoryControlJournal) (outcome : Outcome)
    (feedback : Feedback) : InMemoryControlJournal :=
  { journal with
    outcomes := assign outcome.actionId outcome journal.outcomes
    feedback := assign outcome.actionId feedback journal.feedback }

/-- A first outcome is answered with a new feedback and a repeated one with the stored feedback. -/
def judgeOutcome (journal : InMemoryControlJournal) (now : Int) (feedbackId : String)
    (outcome : Outcome) : Except Exception (Feedback × InMemoryControlJournal) := do
  if outcome.completedAt < outcome.startedAt then throw .valueError
  let decisionId ← lookupKey journal.actionDecisions outcome.actionId
  match journal.outcomes.lookup outcome.actionId with
  | some existing =>
      if existing = outcome then
        return (← lookupKey journal.feedback outcome.actionId, journal)
      else throw .valueError
  | none =>
      let decision ← lookupKey journal.decisions decisionId
      let predictionId ← lookupKey journal.selectedPredictions outcome.actionId
      let prediction ← lookupKey journal.predictions predictionId
      let feedback ← buildFeedback decision prediction outcome ("prediction:" ++ predictionId) now
        feedbackId
      return (feedback, journal.storeOutcome outcome feedback)

/-- `record_outcome` copies a new outcome before it writes its tables. -/
def recordOutcomeWith (copying : Copying) (now : Int) (feedbackId : String) (outcome : Outcome) :
    EStateM Exception InMemoryControlJournal Feedback := do
  let journal ← get
  let (feedback, stored) ← lift (judgeOutcome journal now feedbackId outcome)
  lift (copied ((journal.outcomes.lookup outcome.actionId).isSome || copying.outcome outcome))
  set stored
  return feedback

/-- `record_outcome` of an outcome that can be copied. -/
def recordOutcome (now : Int) (feedbackId : String) (outcome : Outcome) :
    EStateM Exception InMemoryControlJournal Feedback :=
  recordOutcomeWith .all now feedbackId outcome

/-- One write of a client of the journal. -/
inductive JournalCall where
  | recordDecision (decision : DecisionRecord) (predictions : List Prediction)
  | recordOutcome (now : Int) (feedbackId : String) (outcome : Outcome)

/-- The journal after a call, also when the call raises. -/
def JournalCall.applyWith (copying : Copying) (journal : InMemoryControlJournal) :
    JournalCall → InMemoryControlJournal
  | .recordDecision decision predictions =>
      finalState (recordDecisionWith copying decision predictions journal)
  | .recordOutcome now feedbackId outcome =>
      finalState (recordOutcomeWith copying now feedbackId outcome journal)

/-- The journal that a run reaches. -/
def runJournalWith (copying : Copying) (calls : List JournalCall)
    (journal : InMemoryControlJournal) : InMemoryControlJournal :=
  calls.foldl (JournalCall.applyWith copying) journal

/-- A call with records that can be copied. -/
def JournalCall.apply (journal : InMemoryControlJournal) : JournalCall → InMemoryControlJournal
  | .recordDecision decision predictions =>
      finalState (Control.recordDecision decision predictions journal)
  | .recordOutcome now feedbackId outcome =>
      finalState (Control.recordOutcome now feedbackId outcome journal)

/-- A run of calls with records that can be copied. -/
def runJournal (calls : List JournalCall) (journal : InMemoryControlJournal) :
    InMemoryControlJournal :=
  calls.foldl JournalCall.apply journal

end StateFlow.Control
