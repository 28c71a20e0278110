import StateFlow.Construction.Prediction.Contracts
import StateFlow.Library.Effect

namespace StateFlow.Control
open Python Table Effect Predictions

inductive Objective where
  | success | latency | cost | throughput | energy
  deriving DecidableEq, Repr

def Objective.value : Objective → String
  | success => "success"
  | latency => "latency"
  | cost => "cost"
  | throughput => "throughput"
  | energy => "energy"

structure PolicyIntent where
  name : String
  objectives : List Objective
  version : String := "1"

structure Reservation where
  resourceRef : String
  owner : String
  amount : Mapping String ℚ
  expiresAt : Int
  status : String := "reserved"
  deriving DecidableEq

structure Action where
  targetComponent : String
  actionType : String
  parameters : List (String × Value) := []
  preconditions : List (String × Value) := []
  idempotencyKey : String
  reservations : List Reservation := []
  timeoutSeconds : ℚ := 30
  rollbackAction : List (String × Value) := []
  dryRun : Bool := false
  actionId : String

/-- The mappings of two actions compare in any order. -/
instance : BEq Action where
  beq first second :=
    first.targetComponent == second.targetComponent && first.actionType == second.actionType
    && Value.dict first.parameters == Value.dict second.parameters
    && Value.dict first.preconditions == Value.dict second.preconditions
    && first.idempotencyKey == second.idempotencyKey && first.reservations == second.reservations
    && first.timeoutSeconds == second.timeoutSeconds
    && Value.dict first.rollbackAction == Value.dict second.rollbackAction
    && first.dryRun == second.dryRun && first.actionId == second.actionId

instance : ReflBEq Action := ⟨fun {action} => by change (_ && _) = true; simp⟩

structure DecisionRecord where
  snapshotId : String
  policyVersion : String
  candidateIds : List String
  predictionIds : List String
  modelVersions : List String
  selectedAction : Action
  reason : String
  constraints : List String := []
  decisionId : String
  timestamp : Int
  deriving BEq, ReflBEq

inductive ActionStatus where
  | started | committed | failed | cancelled | rolledBack
  deriving DecidableEq, Repr

structure Outcome where
  actionId : String
  status : ActionStatus
  startedAt : Int
  completedAt : Int
  actualLatencySeconds : Option ℚ := none
  actualCost : Option ℚ := none
  actualSuccess : Option Bool := none
  resourceDelta : Mapping String ℚ := ∅
  error : String := ""
  deriving DecidableEq

structure Feedback where
  decisionId : String
  actionId : String
  predictionId : String
  outcome : Outcome
  predictionError : List (String × ℚ) := []
  policyKpis : List (String × ℚ) := []
  calibrationSample : List (String × Value) := []
  replayPointer : String := ""
  timestamp : Int
  feedbackId : String

structure JoinedControlRecord where
  decision : DecisionRecord
  predictions : List Prediction
  outcome : Option Outcome := none
  feedback : Option Feedback := none

/-- The journal joins decisions, predictions, and outcomes. -/
structure InMemoryControlJournal where
  decisions : List (String × DecisionRecord) := []
  predictions : List (String × Prediction) := []
  decisionPredictions : List (String × List String) := []
  actionDecisions : List (String × String) := []
  selectedPredictions : List (String × String) := []
  outcomes : List (String × Outcome) := []
  feedback : List (String × Feedback) := []
  order : List String := []

/-- The distinct texts of a list in alphabetical order. -/
def sortedSet (names : List String) : List String := names.dedup.insertionSort (· ≤ ·)

/-- A bundle is consistent when each list of the decision repeats its predictions. -/
def validBundle (decision : DecisionRecord) (predictions : List Prediction) : Bool :=
  !predictions.isEmpty
  && decide (decision.predictionIds = predictions.map Prediction.predictionId)
  && decide (decision.candidateIds = predictions.map Prediction.candidateId)
  && predictions.all (fun item => item.snapshotId = decision.snapshotId)
  && decide (decision.modelVersions = sortedSet (predictions.map Prediction.modelVersion))

/-- The candidate that an action names. -/
def Action.candidateId (action : Action) : Value := getD action.parameters "candidate_id" .none

/-- The selected candidate has exactly one prediction. -/
def selectedPrediction (decision : DecisionRecord) (predictions : List Prediction) :
    Except Exception Prediction :=
  let candidateId := decision.selectedAction.candidateId
  if !candidateId.truthy then
    match predictions with
    | [prediction] => .ok prediction
    | _ => .error .valueError
  else
    match predictions.filter fun item => (Value.str item.candidateId).eq candidateId with
    | [prediction] => .ok prediction
    | _ => .error .valueError

/-- `get` joins a decision with its predictions in their order. -/
def joined (journal : InMemoryControlJournal) (decisionId : String) :
    Except Exception JoinedControlRecord :=
  match journal.decisions.lookup decisionId with
  | none => .error .keyError
  | some decision => do
      let predictions ← (getD journal.decisionPredictions decisionId []).mapM fun item =>
        match journal.predictions.lookup item with
        | some prediction => .ok prediction
        | none => .error .keyError
      let actionId := decision.selectedAction.actionId
      return ⟨decision, predictions, journal.outcomes.lookup actionId,
        journal.feedback.lookup actionId⟩

/-- A prediction identifier keeps its first prediction. -/
def conflictingPrediction (journal : InMemoryControlJournal) (prediction : Prediction) : Bool :=
  (journal.predictions.lookup prediction.predictionId).any fun owner => owner ≠ prediction

/-- Which records `deepcopy` can copy. Any other record raises `TypeError`. -/
structure Copying where
  decision : DecisionRecord → Bool
  prediction : Prediction → Bool
  outcome : Outcome → Bool

/-- Every value of the records can be copied. -/
def Copying.all : Copying := ⟨fun _ => true, fun _ => true, fun _ => true⟩

/-- A decision enters four tables before its predictions do. -/
def InMemoryControlJournal.register (journal : InMemoryControlJournal) (decision : DecisionRecord)
    (selected : Prediction) : InMemoryControlJournal :=
  let actionId := decision.selectedAction.actionId
  { journal with
    decisions := assign decision.decisionId decision journal.decisions
    decisionPredictions :=
      assign decision.decisionId decision.predictionIds journal.decisionPredictions
    actionDecisions := assign actionId decision.decisionId journal.actionDecisions
    selectedPredictions := assign actionId selected.predictionId journal.selectedPredictions }

/-- Each prediction is copied into the journal in its turn. -/
def keepPredictions (copying : Copying) :
    List Prediction → EStateM Exception InMemoryControlJournal Unit
  | [] => pure ()
  | prediction :: rest => do
      lift (copied (copying.prediction prediction))
      modify fun journal => { journal with
        predictions := assign prediction.predictionId prediction journal.predictions }
      keepPredictions copying rest

/-- The writes of `record_decision`. A prediction without a copy stops them half way. -/
def storeBundle (copying : Copying) (decision : DecisionRecord) (predictions : List Prediction)
    (selected : Prediction) : EStateM Exception InMemoryControlJournal Unit := do
  lift (copied (copying.decision decision))
  modify fun journal => journal.register decision selected
  keepPredictions copying predictions
  modify fun journal => { journal with order := journal.order ++ [decision.decisionId] }

/-- `record_decision` checks a whole bundle before it stores any part. -/
def recordDecisionWith (copying : Copying) (decision : DecisionRecord)
    (predictions : List Prediction) : EStateM Exception InMemoryControlJournal JoinedControlRecord := do
  if !validBundle decision predictions then throw .valueError
  let selected ← lift (selectedPrediction decision predictions)
  let journal ← get
  match journal.decisions.lookup decision.decisionId with
  | some existing =>
      let record ← lift (joined journal decision.decisionId)
      if existing == decision && record.predictions = predictions then return record
      throw .valueError
  | none =>
      if (journal.actionDecisions.lookup decision.selectedAction.actionId).isSome then
        throw .valueError
      if predictions.any (conflictingPrediction journal) then throw .valueError
      storeBundle copying decision predictions selected
      lift (joined (← get) decision.decisionId)

/-- `record_decision` of records that can be copied. -/
def recordDecision (decision : DecisionRecord) (predictions : List Prediction) :
    EStateM Exception InMemoryControlJournal JoinedControlRecord :=
  recordDecisionWith .all decision predictions

end StateFlow.Control
