import StateFlow.Construction.Prediction.Replay

namespace StateFlow.Predictions
open Python Table Effect State Plane

theorem unnamed_inj {first second : Prediction} (same : first.unnamed = second.unnamed)
    (name : first.predictionId = second.predictionId) : first = second := by
  cases first
  cases second
  simp only [Prediction.unnamed, Prediction.mk.injEq] at same name ⊢
  simp_all

/-- The mark of a low confidence does not read the identifier. -/
theorem markFallback_unnamed (service : ServiceConfig) (prediction : Prediction) :
    (markFallback service prediction).unnamed = markFallback service prediction.unnamed := by
  unfold markFallback
  rw [apply_ite Prediction.unnamed]
  rfl

section Evaluate
variable {service : ServiceConfig} (snapshot : Snapshot) (request : PredictionRequest)
  (model : PredictionModel)

/-- An evaluation bears the version of its model, also when the model raises. -/
theorem evaluateModel_version (unique : String) :
    (evaluateModel service snapshot request model unique).modelVersion = model.version := by
  unfold evaluateModel
  cases answered : model.predict snapshot request.candidateAction unique with
  | error name => rfl
  | ok prediction =>
      have stamped := model.stamps _ _ _ _ answered
      dsimp only [markFallback]
      split
      · exact stamped
      · exact stamped

/-- Two evaluations differ in nothing but the generated identifiers. -/
theorem evaluateModel_determined (first second : String) :
    (evaluateModel service snapshot request model first).unnamed =
      (evaluateModel service snapshot request model second).unnamed := by
  have same := model.determined snapshot request.candidateAction first second
  unfold evaluateModel
  cases early : model.predict snapshot request.candidateAction first with
  | error name =>
      cases late : model.predict snapshot request.candidateAction second with
      | error other =>
          rw [early, late] at same
          cases same
          rfl
      | ok prediction => rw [early, late] at same; cases same
  | ok prediction =>
      cases late : model.predict snapshot request.candidateAction second with
      | error other => rw [early, late] at same; cases same
      | ok other =>
          rw [early, late] at same
          have equal : prediction.unnamed = other.unnamed := Except.ok.inj same
          exact (markFallback_unnamed service prediction).trans
            ((congrArg _ equal).trans (markFallback_unnamed service other).symm)

/-- An evaluation under another identifier is the original one once it is renamed. -/
theorem evaluateModel_renamed (first second : String) :
    { evaluateModel service snapshot request model second with
      predictionId := (evaluateModel service snapshot request model first).predictionId } =
      evaluateModel service snapshot request model first :=
  unnamed_inj (evaluateModel_determined snapshot request model second first) rfl

end Evaluate

section Runs
variable (service : ServiceConfig)

/-- The journal and the models only grow. -/
def ServiceState.grows : Frame ServiceState where
  rel before after := Grows before.journal after.journal ∧ Grows before.models after.models
  refl _ := ⟨Grows.refl _, Grows.refl _⟩
  trans first second := ⟨first.1.trans second.1, first.2.trans second.2⟩

theorem readPlane_grows (token : String) : Within ServiceState.grows (readPlane token) := by
  let any : Frame InMemoryStatePlane := ⟨fun _ _ => True, fun _ => trivial, fun _ _ => trivial⟩
  have inside : Within any (readSnapshot token) := fun _ => trivial
  exact within_zoom inside fun _ _ _ => ⟨Grows.refl _, Grows.refl _⟩

theorem appendRecord_run (record : PredictionRecord) (state : ServiceState) :
    appendRecord record state =
      if (state.journal.lookup record.prediction.predictionId).isSome then .error .valueError state
      else .ok () { state with
        journal := assign record.prediction.predictionId record state.journal } := by
  unfold appendRecord
  rw [get_bind]
  split
  · rfl
  · rfl

theorem appendRecord_grows (record : PredictionRecord) :
    Within ServiceState.grows (appendRecord record) := by
  intro state
  rw [appendRecord_run]
  split
  · exact ServiceState.grows.refl state
  · rename_i unknown
    exact ⟨grows_assign (Option.not_isSome_iff_eq_none.mp unknown) record, Grows.refl _⟩

theorem predictModel_grows (request : PredictionRequest) (unique : String) :
    Within ServiceState.grows (predictModel service request unique) := by
  refine within_bind (readPlane_grows request.snapshotId) fun snapshot => ?_
  exact within_bind (appendRecord_grows _) fun _ => within_pure _

theorem registerModel_grows (model : PredictionModel) :
    Within ServiceState.grows (registerModel model) := by
  intro state
  unfold registerModel
  rw [get_bind]
  by_cases known : (state.models.lookup model.version).isSome = true
  · rw [if_pos known]
    exact ServiceState.grows.refl state
  · rw [if_neg known]
    exact ⟨Grows.refl _, grows_assign (Option.not_isSome_iff_eq_none.mp known) model⟩

/-- A replay leaves the journal and everything else as it is. -/
theorem replay_keeps (predictionId modelVersion unique : String) :
    Within (Frame.fixes id) (replay service predictionId modelVersion unique) := by
  refine within_bind within_get fun state => ?_
  refine within_bind (within_lift _) fun record => ?_
  refine within_bind within_get fun again => ?_
  refine within_bind (within_lift _) fun model => ?_
  exact within_ite (fun _ => within_pure _) fun _ => within_pure _

theorem apply_grows (call : ServiceCall) (state : ServiceState) :
    ServiceState.grows.rel state (call.apply service state) := by
  cases call with
  | predict request unique => exact predictModel_grows service request unique state
  | operate operation => exact ⟨Grows.refl _, Grows.refl _⟩
  | evict token => exact ⟨Grows.refl _, Grows.refl _⟩
  | registerModel model => exact registerModel_grows model state
  | replay predictionId modelVersion unique =>
      have same := replay_keeps service predictionId modelVersion unique state
      rw [Frame.fixes_rel, id_eq, id_eq] at same
      rw [ServiceCall.apply, same]
      exact ServiceState.grows.refl state

/-- Every run lets the journal and the models grow. -/
theorem runService_grows (calls : List ServiceCall) (state : ServiceState) :
    ServiceState.grows.rel state (runService service calls state) := by
  induction calls generalizing state with
  | nil => exact ServiceState.grows.refl state
  | cons call rest ih => exact ServiceState.grows.trans (apply_grows service call state) (ih _)

/-- The journal keeps the inputs of a prediction that the service returned. -/
theorem predictModel_journals {request : PredictionRequest} {unique : String}
    {state last : ServiceState} {prediction : Prediction}
    (made : predictModel service request unique state = .ok prediction last) :
    ∃ snapshot, prediction = evaluateModel service snapshot request service.model unique ∧
      last.journal.lookup prediction.predictionId = some ⟨request, snapshot, prediction⟩ := by
  obtain ⟨snapshot, middle, _, continued⟩ := bind_ok made
  obtain ⟨done, ends, appended, returned⟩ := bind_ok continued
  rw [appendRecord_run] at appended
  split at appended
  · cases appended
  · cases appended
    cases returned
    exact ⟨snapshot, rfl, lookup_assign_same _ _ _⟩

/-- A service knows its own model. -/
def KnowsModel (state : ServiceState) : Prop :=
  state.models.lookup service.model.version = some service.model

theorem start_knowsModel (plane : InMemoryStatePlane)
    (journal : List (String × PredictionRecord)) :
    KnowsModel service (ServiceState.start service plane journal) := by
  rw [KnowsModel, ServiceState.start, lookup_cons, if_pos rfl]

/-- A replay of a journaled prediction with the model of the service returns the prediction. -/
theorem replay_of_journaled {state : ServiceState} {snapshot : Snapshot}
    {request : PredictionRequest} {unique : String} {prediction : Prediction}
    (known : KnowsModel service state)
    (made : prediction = evaluateModel service snapshot request service.model unique)
    (journaled : state.journal.lookup prediction.predictionId =
      some ⟨request, snapshot, prediction⟩) (later : String) :
    replay service prediction.predictionId "" later state = .ok prediction state := by
  have version : prediction.modelVersion = service.model.version := by
    rw [made]
    exact evaluateModel_version snapshot request service.model unique
  have renamed : { evaluateModel service snapshot request service.model later with
      predictionId := prediction.predictionId } = prediction := by
    rw [made]
    exact evaluateModel_renamed snapshot request service.model unique later
  have record : entryOf state.journal prediction.predictionId =
      .ok ⟨request, snapshot, prediction⟩ := by
    rw [entryOf, journaled]
  have model : entryOf state.models prediction.modelVersion = .ok service.model := by
    rw [entryOf, version, known]
  unfold replay
  rw [get_bind, lift_bind, record]
  simp only [ne_eq, not_true_eq_false, if_false]
  rw [get_bind, lift_bind, model]
  simp only [if_true]
  rw [renamed]
  rfl

/-- After every run a replay without a version returns the original prediction in every field, and
no replay changes the journal or anything else. -/
theorem replay_returns_original (plane : InMemoryStatePlane)
    (journal : List (String × PredictionRecord)) (before after : List ServiceCall)
    (request : PredictionRequest) (unique : String) (prediction : Prediction)
    (middle : ServiceState)
    (made : predictModel service request unique
      (runService service before (ServiceState.start service plane journal)) =
        .ok prediction middle) :
    (∀ later, replay service prediction.predictionId "" later (runService service after middle) =
      .ok prediction (runService service after middle)) ∧
    ∀ state predictionId modelVersion later,
      finalState (replay service predictionId modelVersion later state) = state := by
  obtain ⟨snapshot, evaluated, journaled⟩ := predictModel_journals service made
  have early := runService_grows service before (ServiceState.start service plane journal)
  have made' := (predictModel_grows service request unique).returned made
  have late := runService_grows service after middle
  refine ⟨replay_of_journaled service ?_ evaluated (late.1 _ _ journaled),
    fun state name version later => ?_⟩
  · exact late.2 _ _ (made'.2 _ _ (early.2 _ _ (start_knowsModel service plane journal)))
  · exact replay_keeps service name version later state

end Runs

/-- A prediction under a generated identifier. -/
def Prediction.called (unique : String) (prediction : Prediction) : Prediction :=
  { prediction with predictionId := unique }

/-- A generated identifier enters a prediction at its end. -/
theorem predictFeatures_called (lower : String → String) (snapshot : Snapshot)
    (candidate : CandidateAction) (unique : String) :
    predictFeatures snapshot candidate lower unique =
      Prediction.called unique <$> predictFeatures snapshot candidate lower "" := by
  unfold predictFeatures
  simp only [map_bind, map_pure]
  rfl

/-- The analytical model reads the identifier only to name its prediction. -/
theorem predictAnalytical_called (lower : String → String) (version : String) (snapshot : Snapshot)
    (candidate : CandidateAction) (unique : String) :
    predictAnalytical lower version snapshot candidate unique =
      (predictAnalytical lower version snapshot candidate "").map (Prediction.called unique) := by
  have called : predictFeatures snapshot candidate lower unique {} =
      EStateM.map (Prediction.called unique) (predictFeatures snapshot candidate lower "") {} :=
    congrFun (predictFeatures_called lower snapshot candidate unique) {}
  unfold predictAnalytical predict
  rw [called, EStateM.map]
  cases predictFeatures snapshot candidate lower "" {} with
  | ok prediction features => rfl
  | error exception features => rfl

/-- The analytical model of a version. -/
def analyticalModel (lower : String → String) (version : String) : PredictionModel where
  version := version
  predict := predictAnalytical lower version
  determined := by
    intro snapshot candidate first second
    rw [predictAnalytical_called lower version snapshot candidate first,
      predictAnalytical_called lower version snapshot candidate second]
    cases predictAnalytical lower version snapshot candidate "" with
    | ok prediction => rfl
    | error name => rfl
  stamps := by
    intro snapshot candidate unique prediction answered
    unfold predictAnalytical at answered
    cases ran : predict snapshot candidate lower unique with
    | ok answer => rw [ran] at answered; cases answered; rfl
    | error exception => rw [ran] at answered; cases answered

/-- The predictions of the analytical model bear its first version by default. -/
theorem predict_version {lower : String → String} {snapshot : Snapshot} {candidate : CandidateAction}
    {unique : String} {prediction : Prediction}
    (answered : predict snapshot candidate lower unique = .ok prediction) :
    prediction.modelVersion = "analytical-0.1" := by
  let stamp (answer : Prediction) : Prediction := { answer with modelVersion := "analytical-0.1" }
  have stamped : predictFeatures snapshot candidate lower unique =
      stamp <$> predictFeatures snapshot candidate lower unique := by
    unfold predictFeatures
    simp only [map_bind, map_pure]
    rfl
  have run : predictFeatures snapshot candidate lower unique {} =
      EStateM.map stamp (predictFeatures snapshot candidate lower unique) {} := congrFun stamped {}
  unfold predict at answered
  rw [run, EStateM.map] at answered
  cases ran : predictFeatures snapshot candidate lower unique {} with
  | ok answer features => rw [ran] at answered; cases answered; rfl
  | error exception features => rw [ran] at answered; cases answered

/-- The service over the analytical model. -/
def PredictionService.config (service : PredictionService) (plane : PlaneConfig) : ServiceConfig where
  plane := plane
  model := analyticalModel service.lower "analytical-0.1"
  minConfidence := service.minConfidence
  fallback := service.fallback

/-- A service over any model evaluates the analytical one as the analytical service does. -/
theorem evaluateModel_analytical (plane : PlaneConfig) (service : PredictionService)
    (snapshot : Snapshot) (request : PredictionRequest) (unique : String) :
    evaluateModel (service.config plane) snapshot request (service.config plane).model unique =
      evaluate service snapshot request unique := by
  have model : (service.config plane).model.predict snapshot request.candidateAction unique =
      predictAnalytical service.lower "analytical-0.1" snapshot request.candidateAction unique := rfl
  rw [evaluateModel, evaluate, model, predictAnalytical]
  cases answered : predict snapshot request.candidateAction service.lower unique with
  | error exception => rfl
  | ok prediction =>
      have same : { prediction with modelVersion := "analytical-0.1" } = prediction := by
        rw [← predict_version answered]
      dsimp only
      rw [same]
      rfl

/-- A request whose snapshot is kept is answered while the journal is empty. -/
theorem predictModel_answers (service : ServiceConfig) {state : ServiceState} {snapshot : Snapshot}
    {request : PredictionRequest}
    (kept : state.plane.snapshots.lookup request.snapshotId = some snapshot)
    (empty : state.journal = []) (unique : String) :
    ∃ prediction last, predictModel service request unique state = .ok prediction last := by
  have read : readPlane request.snapshotId state = .ok snapshot state := by
    refine zoom_of_ok ?_
    rw [readSnapshot, get_bind, kept]
    rfl
  have appended := appendRecord_run
    ⟨request, snapshot, evaluateModel service snapshot request service.model unique⟩ state
  rw [empty, if_neg (by simp)] at appended
  unfold predictModel
  rw [bind_of_ok read, bind_of_ok appended]
  exact ⟨_, _, rfl⟩

/-- A snapshot without values and a plane that keeps it. -/
def emptySnapshot : Snapshot :=
  { token := "s", logicalTime := 0, createdAt := 0, completeness := 1, values := [] }

def keepingPlane : InMemoryStatePlane := { snapshots := [("s", emptySnapshot)] }

def routeRequest : PredictionRequest :=
  { snapshotId := "s"
    candidateAction := { actionType := "route", targetComponent := "r0", candidateId := "c0" } }

def analyticalService : ServiceConfig :=
  PredictionService.config { lower := id, nonneg := one_half_pos.le, le_one := one_half_lt_one.le }
    { registry := {} }

/-- The prediction is replayed after its snapshot is gone and another model is known. -/
theorem route_replayed : ∃ prediction middle,
    predictModel analyticalService routeRequest "p0"
      (ServiceState.start analyticalService keepingPlane []) = .ok prediction middle ∧
    ∀ later, replay analyticalService prediction.predictionId "" later
      (runService analyticalService [.evict "s", .registerModel (analyticalModel id "analytical-0.2")]
        middle) = .ok prediction (runService analyticalService
          [.evict "s", .registerModel (analyticalModel id "analytical-0.2")] middle) := by
  obtain ⟨prediction, middle, made⟩ := @predictModel_answers analyticalService
    (ServiceState.start analyticalService keepingPlane []) emptySnapshot routeRequest rfl rfl "p0"
  exact ⟨prediction, middle, made, (replay_returns_original analyticalService keepingPlane [] []
    [.evict "s", .registerModel (analyticalModel id "analytical-0.2")] routeRequest "p0" prediction
    middle made).1⟩

end StateFlow.Predictions
