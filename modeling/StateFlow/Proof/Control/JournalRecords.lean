import StateFlow.Construction.Control.Evaluation
import StateFlow.Proof.Control.Journal

namespace StateFlow.Control
open Python Table Effect Selection Predictions

/-- The outcomes of `record_decision` in their order. -/
theorem recordDecisionWith_run (copying : Copying) (decision : DecisionRecord)
    (predictions : List Prediction) (journal : InMemoryControlJournal) :
    recordDecisionWith copying decision predictions journal =
      if validBundle decision predictions = false then .error .valueError journal
      else match selectedPrediction decision predictions with
        | .error exception => .error exception journal
        | .ok selected =>
          match journal.decisions.lookup decision.decisionId with
          | some existing =>
            match joined journal decision.decisionId with
            | .error exception => .error exception journal
            | .ok record =>
                if (existing == decision) = true ∧ record.predictions = predictions then
                  .ok record journal
                else .error .valueError journal
          | none =>
            if (journal.actionDecisions.lookup decision.selectedAction.actionId).isSome = true then
              .error .valueError journal
            else if predictions.any (conflictingPrediction journal) = true then
              .error .valueError journal
            else (do
              storeBundle copying decision predictions selected
              lift (joined (← get) decision.decisionId)) journal := by
  unfold recordDecisionWith
  cases valid : validBundle decision predictions with
  | false => rfl
  | true =>
      simp only [Bool.not_true, Bool.false_eq_true, if_false, Bool.true_eq_false]
      rw [lift_bind]
      cases selectedPrediction decision predictions with
      | error exception => rfl
      | ok selected =>
          simp only [get_bind]
          cases journal.decisions.lookup decision.decisionId with
          | some existing =>
              simp only [lift_bind]
              cases joined journal decision.decisionId with
              | error exception => rfl
              | ok record =>
                  change (if ((existing == decision) && decide (record.predictions = predictions))
                      = true then pure record else throw .valueError :
                    EStateM Exception InMemoryControlJournal JoinedControlRecord) journal = _
                  by_cases same : (existing == decision) = true ∧ record.predictions = predictions
                  · rw [if_pos (by simpa using same)]
                    simp only [if_pos same]
                    rfl
                  · rw [if_neg (by simpa using same)]
                    simp only [if_neg same]
                    rfl
          | none =>
              by_cases taken :
                  (journal.actionDecisions.lookup decision.selectedAction.actionId).isSome = true
              · simp only [if_pos taken]
                rfl
              · by_cases conflict : predictions.any (conflictingPrediction journal) = true
                · simp only [if_neg taken, if_pos conflict]
                  rfl
                · simp only [if_neg taken, if_neg conflict]

/-- A bundle that can be copied is stored as a whole. -/
theorem recordDecision_run (decision : DecisionRecord) (predictions : List Prediction)
    (journal : InMemoryControlJournal) :
    recordDecision decision predictions journal =
      if validBundle decision predictions = false then .error .valueError journal
      else match selectedPrediction decision predictions with
        | .error exception => .error exception journal
        | .ok selected =>
          match journal.decisions.lookup decision.decisionId with
          | some existing =>
            match joined journal decision.decisionId with
            | .error exception => .error exception journal
            | .ok record =>
                if (existing == decision) = true ∧ record.predictions = predictions then
                  .ok record journal
                else .error .valueError journal
          | none =>
            if (journal.actionDecisions.lookup decision.selectedAction.actionId).isSome = true then
              .error .valueError journal
            else if predictions.any (conflictingPrediction journal) = true then
              .error .valueError journal
            else
              let stored := journal.store decision predictions selected
              match joined stored decision.decisionId with
              | .ok record => .ok record stored
              | .error exception => .error exception stored := by
  have written (selected : Prediction) : (do
      storeBundle .all decision predictions selected
      lift (joined (← get) decision.decisionId) :
        EStateM Exception InMemoryControlJournal JoinedControlRecord) journal =
      match joined (journal.store decision predictions selected) decision.decisionId with
      | .ok record => .ok record (journal.store decision predictions selected)
      | .error exception => .error exception (journal.store decision predictions selected) := by
    rw [storeBundle_all]
    change (lift (joined (journal.store decision predictions selected) decision.decisionId) :
      EStateM Exception InMemoryControlJournal JoinedControlRecord) _ = _
    cases joined (journal.store decision predictions selected) decision.decisionId with
    | error exception => rfl
    | ok record => rfl
  simp only [recordDecision, recordDecisionWith_run, written]

/-- A bundle whose predictions can be copied is recorded as a whole, or the call raises and changes
nothing. -/
theorem recordDecisionWith_cases {copying : Copying} {predictions : List Prediction}
    (copies : ∀ prediction ∈ predictions, copying.prediction prediction = true)
    (decision : DecisionRecord) (journal : InMemoryControlJournal) :
    recordDecisionWith copying decision predictions journal =
        recordDecision decision predictions journal ∨
      ∃ exception, recordDecisionWith copying decision predictions journal =
        .error exception journal := by
  by_cases copy : copying.decision decision = true
  · exact .inl (congrFun (recordDecisionWith_of_copies copy copies) journal)
  · -- The first copy raises before the first write.
    have stopped (selected : Prediction) : (do
        storeBundle copying decision predictions selected
        lift (joined (← get) decision.decisionId) :
          EStateM Exception InMemoryControlJournal JoinedControlRecord) journal =
        .error .typeError journal := by
      have first : lift (copied (copying.decision decision)) journal =
          .error .typeError journal := by
        rw [Bool.eq_false_iff.mpr copy]
        rfl
      apply bind_of_error
      exact bind_of_error first
    unfold recordDecision
    rw [recordDecisionWith_run, recordDecisionWith_run]
    simp only [stopped]
    split
    · exact .inl rfl
    · split
      · exact .inl rfl
      · split
        · exact .inl rfl
        · split
          · exact .inl rfl
          · split
            · exact .inl rfl
            · exact .inr ⟨_, rfl⟩

theorem recordOutcomeWith_run (copying : Copying) (now : Int) (feedbackId : String)
    (outcome : Outcome) (journal : InMemoryControlJournal) :
    recordOutcomeWith copying now feedbackId outcome journal =
      match judgeOutcome journal now feedbackId outcome with
      | .ok (feedback, next) =>
          if ((journal.outcomes.lookup outcome.actionId).isSome || copying.outcome outcome) = true then
            .ok feedback next
          else .error .typeError journal
      | .error exception => .error exception journal := by
  unfold recordOutcomeWith
  rw [get_bind, lift_bind]
  rcases judgeOutcome journal now feedbackId outcome with exception | ⟨feedback, next⟩
  · rfl
  · simp only [lift_bind]
    cases (journal.outcomes.lookup outcome.actionId).isSome || copying.outcome outcome with
    | false => rfl
    | true => rfl

theorem recordOutcome_run (now : Int) (feedbackId : String) (outcome : Outcome)
    (journal : InMemoryControlJournal) :
    recordOutcome now feedbackId outcome journal =
      match judgeOutcome journal now feedbackId outcome with
      | .ok (feedback, next) => .ok feedback next
      | .error exception => .error exception journal := by
  unfold recordOutcome
  simp only [recordOutcomeWith_run, Copying.all, Bool.or_true, if_true]

/-- An outcome is recorded as a whole, or the call raises and changes nothing. A known outcome needs
no copy. -/
theorem recordOutcomeWith_cases (copying : Copying) (now : Int) (feedbackId : String)
    (outcome : Outcome) (journal : InMemoryControlJournal) :
    recordOutcomeWith copying now feedbackId outcome journal =
        recordOutcome now feedbackId outcome journal ∨
      (journal.outcomes.lookup outcome.actionId = none ∧
        ∃ exception, recordOutcomeWith copying now feedbackId outcome journal =
          .error exception journal) := by
  rw [recordOutcomeWith_run, recordOutcome_run]
  rcases judgeOutcome journal now feedbackId outcome with exception | ⟨feedback, next⟩
  · exact .inl rfl
  · by_cases copies : ((journal.outcomes.lookup outcome.actionId).isSome || copying.outcome outcome)
        = true
    · exact .inl (if_pos copies)
    · have unknown : ¬ (journal.outcomes.lookup outcome.actionId).isSome = true := by
        intro known
        rw [known] at copies
        exact copies rfl
      exact .inr ⟨Option.not_isSome_iff_eq_none.mp unknown, _, if_neg copies⟩

/-- A first outcome enters the journal with its feedback. -/
theorem judgeOutcome_ok {journal next : InMemoryControlJournal} {now : Int} {feedbackId : String}
    {outcome : Outcome} {feedback : Feedback}
    (judged : judgeOutcome journal now feedbackId outcome = .ok (feedback, next)) :
    ∃ decisionId, journal.actionDecisions.lookup outcome.actionId = some decisionId ∧
    ((journal.outcomes.lookup outcome.actionId = some outcome ∧
        journal.feedback.lookup outcome.actionId = some feedback ∧ next = journal) ∨
      ∃ decision predictionId prediction, journal.outcomes.lookup outcome.actionId = none ∧
        journal.decisions.lookup decisionId = some decision ∧
        journal.selectedPredictions.lookup outcome.actionId = some predictionId ∧
        journal.predictions.lookup predictionId = some prediction ∧
        buildFeedback decision prediction outcome ("prediction:" ++ predictionId) now feedbackId =
          .ok feedback ∧ next = journal.storeOutcome outcome feedback) := by
  have found {A : Type} {table : List (String × A)} {key : String} {value : A}
      (read : lookupKey table key = .ok value) : table.lookup key = some value := by
    unfold lookupKey at read
    split at read
    · cases read
      assumption
    · cases read
  simp only [judgeOutcome] at judged
  split at judged
  · cases judged
  · obtain ⟨decisionId, owned, continued⟩ := except_bind_ok judged
    refine ⟨decisionId, found owned, ?_⟩
    cases stored : journal.outcomes.lookup outcome.actionId with
    | some existing =>
        rw [stored] at continued
        simp only at continued
        split at continued
        · rename_i same
          obtain ⟨kept, read, final⟩ := except_bind_ok continued
          cases final
          exact Or.inl ⟨by rw [same], found read, rfl⟩
        · cases continued
    | none =>
        rw [stored] at continued
        obtain ⟨decision, decided, selecting⟩ := except_bind_ok continued
        obtain ⟨predictionId, selected, predicting⟩ := except_bind_ok selecting
        obtain ⟨prediction, predicted, building⟩ := except_bind_ok predicting
        obtain ⟨built, made, final⟩ := except_bind_ok building
        cases final
        exact Or.inr ⟨decision, predictionId, prediction, rfl, found decided, found selected,
          found predicted, made, rfl⟩

/-- A stored prediction. -/
def storedPrediction (journal : InMemoryControlJournal) (name : String) :
    Except Exception Prediction :=
  match journal.predictions.lookup name with
  | some prediction => .ok prediction
  | none => .error .keyError

/-- A join returns when every prediction of its decision is stored. -/
theorem joined_returns {journal : InMemoryControlJournal} {decisionId : String}
    {decision : DecisionRecord} {names : List String}
    (decided : journal.decisions.lookup decisionId = some decision)
    (listed : journal.decisionPredictions.lookup decisionId = some names)
    (present : ∀ name ∈ names, (journal.predictions.lookup name).isSome = true) :
    ∃ record, joined journal decisionId = .ok record ∧ record.decision = decision ∧
      record.outcome = journal.outcomes.lookup decision.selectedAction.actionId ∧
      record.feedback = journal.feedback.lookup decision.selectedAction.actionId ∧
      names.map (journal.predictions.lookup ·) = record.predictions.map some := by
  have read : getD journal.decisionPredictions decisionId [] = names := by rw [getD, listed]; rfl
  have every : ∃ predictions, names.mapM (storedPrediction journal) = .ok predictions := by
    apply mapM_returns
    intro name member
    obtain ⟨prediction, stored⟩ := Option.isSome_iff_exists.mp (present name member)
    exact ⟨prediction, by rw [storedPrediction, stored]⟩
  obtain ⟨predictions, found⟩ := every
  have returned : joined journal decisionId = .ok ⟨decision, predictions,
      journal.outcomes.lookup decision.selectedAction.actionId,
      journal.feedback.lookup decision.selectedAction.actionId⟩ := by
    unfold joined
    rw [decided]
    simp only [read]
    exact congrArg (fun result : Except Exception (List Prediction) => result >>= fun predictions =>
      pure (⟨decision, predictions, journal.outcomes.lookup decision.selectedAction.actionId,
        journal.feedback.lookup decision.selectedAction.actionId⟩ : JoinedControlRecord)) found
  exact ⟨_, returned, rfl, rfl, rfl, read ▸ joined_predictions returned⟩

/-- Every table of a journal only grows. -/
structure JournalGrows (before after : InMemoryControlJournal) : Prop where
  decisions : Grows before.decisions after.decisions
  decisionPredictions : Grows before.decisionPredictions after.decisionPredictions
  predictions : Grows before.predictions after.predictions
  actionDecisions : Grows before.actionDecisions after.actionDecisions
  selectedPredictions : Grows before.selectedPredictions after.selectedPredictions
  outcomes : Grows before.outcomes after.outcomes
  feedback : Grows before.feedback after.feedback

theorem JournalGrows.refl (journal : InMemoryControlJournal) : JournalGrows journal journal :=
  ⟨.refl _, .refl _, .refl _, .refl _, .refl _, .refl _, .refl _⟩

theorem JournalGrows.trans {first second third : InMemoryControlJournal}
    (before : JournalGrows first second) (after : JournalGrows second third) :
    JournalGrows first third :=
  ⟨before.decisions.trans after.decisions,
    before.decisionPredictions.trans after.decisionPredictions,
    before.predictions.trans after.predictions,
    before.actionDecisions.trans after.actionDecisions,
    before.selectedPredictions.trans after.selectedPredictions,
    before.outcomes.trans after.outcomes, before.feedback.trans after.feedback⟩

/-- The tables of a journal agree with each other. -/
structure Consistent (journal : InMemoryControlJournal) : Prop where
  owned : ∀ decisionId decision, journal.decisions.lookup decisionId = some decision →
    decision.decisionId = decisionId ∧
      journal.actionDecisions.lookup decision.selectedAction.actionId = some decisionId
  owners : ∀ actionId decisionId, journal.actionDecisions.lookup actionId = some decisionId →
    ∃ decision, journal.decisions.lookup decisionId = some decision ∧
      decision.selectedAction.actionId = actionId
  bundles : ∀ decisionId decision, journal.decisions.lookup decisionId = some decision →
    journal.decisionPredictions.lookup decisionId = some decision.predictionIds ∧
      ∀ name ∈ decision.predictionIds, (journal.predictions.lookup name).isSome = true
  unlisted : ∀ decisionId, journal.decisions.lookup decisionId = none →
    journal.decisionPredictions.lookup decisionId = none
  unselected : ∀ actionId, journal.actionDecisions.lookup actionId = none →
    journal.selectedPredictions.lookup actionId = none
  answered : ∀ actionId, (journal.outcomes.lookup actionId).isSome =
    (journal.feedback.lookup actionId).isSome

theorem consistent_empty : Consistent {} where
  owned _ _ found := by cases found
  owners _ _ found := by cases found
  bundles _ _ found := by cases found
  unlisted _ _ := rfl
  unselected _ _ := rfl
  answered _ := rfl

theorem predictionIds_of_valid {decision : DecisionRecord} {predictions : List Prediction}
    (valid : validBundle decision predictions = true) :
    decision.predictionIds = predictions.map Prediction.predictionId := by
  simp only [validBundle, Bool.and_eq_true, decide_eq_true_eq] at valid
  exact valid.1.1.1.2

section Store
variable {journal : InMemoryControlJournal} {decision : DecisionRecord}
  {predictions : List Prediction} {selected : Prediction}

/-- These facts hold when a journal stores a new bundle. -/
structure Storable (journal : InMemoryControlJournal) (decision : DecisionRecord)
    (predictions : List Prediction) (selected : Prediction) : Prop where
  valid : validBundle decision predictions = true
  selects : selectedPrediction decision predictions = .ok selected
  undecided : journal.decisions.lookup decision.decisionId = none
  unowned : journal.actionDecisions.lookup decision.selectedAction.actionId = none
  agreed : predictions.any (conflictingPrediction journal) = false

theorem store_lookup (journal : InMemoryControlJournal) (decision : DecisionRecord)
    (predictions : List Prediction) (selected : Prediction) (name : String) :
    (journal.store decision predictions selected).predictions.lookup name =
      (lastWith Prediction.predictionId name predictions).or (journal.predictions.lookup name) :=
  lookup_foldl_assign Prediction.predictionId name predictions journal.predictions

/-- A stored bundle has a prediction for each of its names. -/
theorem store_present (member : ∃ prediction ∈ predictions, prediction.predictionId = name) :
    ((journal.store decision predictions selected).predictions.lookup name).isSome = true := by
  obtain ⟨prediction, listed, named⟩ := member
  rw [store_lookup]
  cases found : lastWith Prediction.predictionId name predictions with
  | some other => rfl
  | none =>
      have absent := List.find?_eq_none.mp found prediction (List.mem_reverse.mpr listed)
      simp [named] at absent

/-- A bundle that agrees with the journal replaces no stored prediction. -/
theorem store_predictions_grow (agreed : predictions.any (conflictingPrediction journal) = false) :
    Grows journal.predictions (journal.store decision predictions selected).predictions := by
  intro name stored found
  rw [store_lookup]
  cases last : lastWith Prediction.predictionId name predictions with
  | none => exact found
  | some prediction =>
      obtain ⟨listed, named⟩ := lastWith_some Prediction.predictionId last
      have free := List.any_eq_false.mp agreed prediction listed
      simp only [conflictingPrediction, named, found, Option.any_some, decide_eq_true_eq,
        not_not] at free
      rw [free]
      rfl

theorem store_grows (consistent : Consistent journal)
    (storable : Storable journal decision predictions selected) :
    JournalGrows journal (journal.store decision predictions selected) where
  decisions := grows_assign storable.undecided _
  decisionPredictions := grows_assign (consistent.unlisted _ storable.undecided) _
  predictions := store_predictions_grow storable.agreed
  actionDecisions := grows_assign storable.unowned _
  selectedPredictions := grows_assign (consistent.unselected _ storable.unowned) _
  outcomes := .refl _
  feedback := .refl _

theorem store_consistent (consistent : Consistent journal)
    (storable : Storable journal decision predictions selected) :
    Consistent (journal.store decision predictions selected) := by
  have named := predictionIds_of_valid storable.valid
  have grows := store_grows consistent storable
  constructor
  · intro decisionId other found
    change (assign decision.decisionId decision journal.decisions).lookup decisionId = _ at found
    rw [lookup_assign] at found
    split at found
    · rename_i same
      cases found
      exact ⟨same.symm, same ▸ lookup_assign_same _ _ _⟩
    · obtain ⟨own, owned⟩ := consistent.owned decisionId other found
      exact ⟨own, grows.actionDecisions _ _ owned⟩
  · intro actionId decisionId found
    change (assign decision.selectedAction.actionId decision.decisionId
      journal.actionDecisions).lookup actionId = _ at found
    rw [lookup_assign] at found
    split at found
    · rename_i same
      cases found
      exact ⟨decision, lookup_assign_same _ _ _, same.symm⟩
    · obtain ⟨other, decided, owned⟩ := consistent.owners actionId decisionId found
      exact ⟨other, grows.decisions _ _ decided, owned⟩
  · intro decisionId other found
    change (assign decision.decisionId decision journal.decisions).lookup decisionId = _ at found
    rw [lookup_assign] at found
    split at found
    · rename_i same
      cases found
      refine ⟨same ▸ lookup_assign_same _ _ _, fun name member => ?_⟩
      rw [named] at member
      exact store_present (List.mem_map.mp member)
    · obtain ⟨listed, present⟩ := consistent.bundles decisionId other found
      refine ⟨grows.decisionPredictions _ _ listed, fun name member => ?_⟩
      obtain ⟨prediction, stored⟩ := Option.isSome_iff_exists.mp (present name member)
      exact Option.isSome_iff_exists.mpr ⟨prediction, grows.predictions _ _ stored⟩
  · intro decisionId absent
    change (assign decision.decisionId decision journal.decisions).lookup decisionId = _ at absent
    rw [lookup_assign] at absent
    split at absent
    · cases absent
    · rename_i different
      exact (lookup_assign_other different _ _).trans (consistent.unlisted decisionId absent)
  · intro actionId absent
    change (assign decision.selectedAction.actionId decision.decisionId
      journal.actionDecisions).lookup actionId = _ at absent
    rw [lookup_assign] at absent
    split at absent
    · cases absent
    · rename_i different
      exact (lookup_assign_other different _ _).trans (consistent.unselected actionId absent)
  · exact consistent.answered

/-- A stored bundle can be joined. -/
theorem store_joined (storable : Storable journal decision predictions selected) :
    ∃ record, joined (journal.store decision predictions selected) decision.decisionId =
      .ok record ∧ record.decision = decision := by
  have named := predictionIds_of_valid storable.valid
  obtain ⟨record, returned, same, _⟩ := @joined_returns
    (journal.store decision predictions selected) _ _ _
    (lookup_assign_same decision.decisionId decision journal.decisions)
    (lookup_assign_same decision.decisionId decision.predictionIds journal.decisionPredictions)
    (fun name member => store_present (List.mem_map.mp (named ▸ member)))
  exact ⟨record, returned, same⟩

end Store

section Calls
variable {journal : InMemoryControlJournal}

/-- A decision is stored, repeated, or rejected without a change. -/
theorem recordDecision_cases (decision : DecisionRecord) (predictions : List Prediction)
    (journal : InMemoryControlJournal) :
    (∃ selected record, Storable journal decision predictions selected ∧
      joined (journal.store decision predictions selected) decision.decisionId = .ok record ∧
      recordDecision decision predictions journal =
        .ok record (journal.store decision predictions selected)) ∨
    (∃ selected existing record, validBundle decision predictions = true ∧
      selectedPrediction decision predictions = .ok selected ∧
      journal.decisions.lookup decision.decisionId = some existing ∧
      (existing == decision) = true ∧ joined journal decision.decisionId = .ok record ∧
      record.predictions = predictions ∧
      recordDecision decision predictions journal = .ok record journal) ∨
    ∃ exception, recordDecision decision predictions journal = .error exception journal := by
  rw [recordDecision_run]
  split
  · exact Or.inr (Or.inr ⟨_, rfl⟩)
  · rename_i valid
    have valid : validBundle decision predictions = true := by simpa using valid
    split
    · exact Or.inr (Or.inr ⟨_, rfl⟩)
    · rename_i selected selects
      split
      · rename_i existing decided
        split
        · exact Or.inr (Or.inr ⟨_, rfl⟩)
        · rename_i record returned
          split
          · rename_i same
            exact Or.inr (Or.inl ⟨selected, existing, record, valid, selects, decided, same.1,
              returned, same.2, rfl⟩)
          · exact Or.inr (Or.inr ⟨_, rfl⟩)
      · rename_i undecided
        split
        · exact Or.inr (Or.inr ⟨_, rfl⟩)
        · rename_i unowned
          split
          · exact Or.inr (Or.inr ⟨_, rfl⟩)
          · rename_i agreed
            have storable : Storable journal decision predictions selected :=
              ⟨valid, selects, undecided, Option.not_isSome_iff_eq_none.mp unowned,
                Bool.not_eq_true _ ▸ agreed⟩
            obtain ⟨record, returned, _⟩ := store_joined storable
            exact Or.inl ⟨selected, record, storable, returned, by simp only [returned]⟩

/-- The journal stores a bundle that it can store. -/
theorem recordDecision_of_storable {decision : DecisionRecord} {predictions : List Prediction}
    {selected : Prediction} (storable : Storable journal decision predictions selected) :
    ∃ record, recordDecision decision predictions journal =
        .ok record (journal.store decision predictions selected) ∧
      joined (journal.store decision predictions selected) decision.decisionId = .ok record ∧
      record.decision = decision := by
  obtain ⟨record, returned, same⟩ := store_joined storable
  refine ⟨record, ?_, returned, same⟩
  rw [recordDecision_run, storable.valid, storable.selects, storable.undecided, storable.unowned,
    storable.agreed]
  simp only [Bool.true_eq_false, if_false, Option.isSome_none, Bool.false_eq_true, returned]

/-- An outcome and its feedback enter the journal together. -/
theorem storeOutcome_grows (consistent : Consistent journal) {outcome : Outcome}
    (unanswered : journal.outcomes.lookup outcome.actionId = none) (feedback : Feedback) :
    JournalGrows journal (journal.storeOutcome outcome feedback) where
  decisions := .refl _
  decisionPredictions := .refl _
  predictions := .refl _
  actionDecisions := .refl _
  selectedPredictions := .refl _
  outcomes := grows_assign unanswered _
  feedback := by
    apply grows_assign
    have both := consistent.answered outcome.actionId
    rw [unanswered] at both
    simpa using both.symm

theorem storeOutcome_consistent (consistent : Consistent journal) (outcome : Outcome)
    (feedback : Feedback) : Consistent (journal.storeOutcome outcome feedback) where
  owned := consistent.owned
  owners := consistent.owners
  bundles := consistent.bundles
  unlisted := consistent.unlisted
  unselected := consistent.unselected
  answered actionId := by
    change ((assign outcome.actionId outcome journal.outcomes).lookup actionId).isSome =
      ((assign outcome.actionId feedback journal.feedback).lookup actionId).isSome
    rw [lookup_assign, lookup_assign]
    split
    · rfl
    · exact consistent.answered actionId

/-- Each call keeps the tables consistent and only lets them grow. -/
theorem call_keeps (consistent : Consistent journal) (call : JournalCall) :
    Consistent (call.apply journal) ∧ JournalGrows journal (call.apply journal) := by
  cases call with
  | recordDecision decision predictions =>
      change Consistent (finalState (recordDecision decision predictions journal)) ∧
        JournalGrows journal (finalState (recordDecision decision predictions journal))
      rcases recordDecision_cases decision predictions journal with
        ⟨selected, record, storable, _, ran⟩ | ⟨_, _, record, _, _, _, _, _, _, ran⟩ |
          ⟨exception, ran⟩
      · rw [ran]
        exact ⟨store_consistent consistent storable, store_grows consistent storable⟩
      · rw [ran]
        exact ⟨consistent, .refl journal⟩
      · rw [ran]
        exact ⟨consistent, .refl journal⟩
  | recordOutcome now feedbackId outcome =>
      change Consistent (finalState (recordOutcome now feedbackId outcome journal)) ∧
        JournalGrows journal (finalState (recordOutcome now feedbackId outcome journal))
      rw [recordOutcome_run]
      cases judged : judgeOutcome journal now feedbackId outcome with
      | error exception => exact ⟨consistent, .refl journal⟩
      | ok answer =>
          obtain ⟨_, _, ⟨_, _, same⟩ | ⟨_, _, _, unanswered, _, _, _, _, stored⟩⟩ :=
            judgeOutcome_ok judged
          · simp only [finalState_ok, same]
            exact ⟨consistent, .refl journal⟩
          · simp only [finalState_ok, stored]
            exact ⟨storeOutcome_consistent consistent outcome answer.1,
              storeOutcome_grows consistent unanswered answer.1⟩

theorem run_keeps (consistent : Consistent journal) (calls : List JournalCall) :
    Consistent (runJournal calls journal) ∧ JournalGrows journal (runJournal calls journal) := by
  induction calls generalizing journal with
  | nil => exact ⟨consistent, .refl journal⟩
  | cons call rest ih =>
      obtain ⟨kept, grew⟩ := call_keeps consistent call
      obtain ⟨last, later⟩ := ih kept
      exact ⟨last, grew.trans later⟩

theorem runJournal_consistent (calls : List JournalCall) : Consistent (runJournal calls {}) :=
  (run_keeps consistent_empty calls).1

end Calls

/-- Equal identifiers of a bundle name equal predictions. -/
def Coherent (predictions : List Prediction) : Prop :=
  ∀ first ∈ predictions, ∀ second ∈ predictions,
    first.predictionId = second.predictionId → first = second

instance (predictions : List Prediction) : Decidable (Coherent predictions) :=
  inferInstanceAs (Decidable (∀ first ∈ predictions, ∀ second ∈ predictions,
    first.predictionId = second.predictionId → first = second))

/-- The journal reads a bundle back and accepts it again without a change. -/
def Keeps (journal : InMemoryControlJournal) (decision : DecisionRecord)
    (predictions : List Prediction) : Prop :=
  ∃ record, joined journal decision.decisionId = .ok record ∧
    (record.decision == decision) = true ∧ record.predictions = predictions ∧
    recordDecision decision predictions journal = .ok record journal

/-- The journal holds an equal decision and each prediction under its identifier. -/
structure Holds (journal : InMemoryControlJournal) (decision : DecisionRecord)
    (predictions : List Prediction) : Prop where
  decided : ∃ stored, journal.decisions.lookup decision.decisionId = some stored ∧
    (stored == decision) = true
  listed : journal.decisionPredictions.lookup decision.decisionId =
    some (predictions.map Prediction.predictionId)
  stored : ∀ prediction ∈ predictions,
    journal.predictions.lookup prediction.predictionId = some prediction

section Kept
variable {journal later : InMemoryControlJournal} {decision : DecisionRecord}
  {predictions : List Prediction}

theorem Holds.grow (holds : Holds journal decision predictions)
    (grows : JournalGrows journal later) : Holds later decision predictions := by
  obtain ⟨⟨stored, decided, same⟩, listed, held⟩ := holds
  exact ⟨⟨stored, grows.decisions _ _ decided, same⟩, grows.decisionPredictions _ _ listed,
    fun prediction member => grows.predictions _ _ (held prediction member)⟩

theorem Holds.coherent (holds : Holds journal decision predictions) : Coherent predictions := by
  intro first member second other same
  have found := holds.stored first member
  rw [same, holds.stored second other] at found
  exact (Option.some.inj found).symm

/-- A held bundle is read back and accepted again. -/
theorem Holds.keeps (holds : Holds journal decision predictions)
    (valid : validBundle decision predictions = true) {selected : Prediction}
    (selects : selectedPrediction decision predictions = .ok selected) :
    Keeps journal decision predictions := by
  obtain ⟨⟨stored, decided, same⟩, listed, held⟩ := holds
  obtain ⟨record, returned, own, _, _, read⟩ := joined_returns decided listed (by
    intro name member
    obtain ⟨prediction, inside, named⟩ := List.mem_map.mp member
    rw [← named, held prediction inside]
    rfl)
  rw [List.map_map] at read
  have back := (List.map_congr_left held).symm.trans read
  have predictions_same : record.predictions = predictions :=
    (List.map_injective_iff.mpr (Option.some_injective _) back).symm
  refine ⟨record, returned, own ▸ same, predictions_same, ?_⟩
  rw [recordDecision_run]
  simp [valid, selects, decided, returned, same, predictions_same]

end Kept

theorem predictionIds_of_beq {first second : DecisionRecord} (same : (first == second) = true) :
    first.predictionIds = second.predictionIds := by
  obtain ⟨_, _, _, firstIds, _, _, _, _, _, _⟩ := first
  obtain ⟨_, _, _, secondIds, _, _, _, _, _, _⟩ := second
  simp only [BEq.beq, instBEqDecisionRecord.beq, Bool.and_eq_true] at same
  exact LawfulBEq.eq_of_beq (a := firstIds) (b := secondIds) same.2.2.2.1

/-- A recorded bundle with equal predictions for equal identifiers is held. -/
theorem holds_of_recorded {journal next : InMemoryControlJournal} {decision : DecisionRecord}
    {predictions : List Prediction} {record : JoinedControlRecord} (consistent : Consistent journal)
    (recorded : recordDecision decision predictions journal = .ok record next)
    (coherent : Coherent predictions) : Holds next decision predictions := by
  rcases recordDecision_cases decision predictions journal with
    ⟨selected, _, storable, _, ran⟩ | ⟨selected, existing, joinedRecord, valid, _, decided, same,
      returned, read, ran⟩ | ⟨exception, ran⟩
  · cases recorded.symm.trans ran
    refine ⟨⟨decision, lookup_assign_same _ _ _, BEq.refl decision⟩, ?_, ?_⟩
    · rw [← predictionIds_of_valid storable.valid]
      exact lookup_assign_same _ _ _
    · intro prediction member
      rw [store_lookup]
      cases last : lastWith Prediction.predictionId prediction.predictionId predictions with
      | none =>
          have absent := List.find?_eq_none.mp last prediction (List.mem_reverse.mpr member)
          simp at absent
      | some other =>
          obtain ⟨inside, named⟩ := lastWith_some Prediction.predictionId last
          rw [coherent other inside prediction member named]
          rfl
  · cases recorded.symm.trans ran
    have names := (predictionIds_of_beq same).trans (predictionIds_of_valid valid)
    obtain ⟨listed, present⟩ := consistent.bundles _ _ decided
    refine ⟨⟨existing, decided, same⟩, names ▸ listed, ?_⟩
    have answers := joined_predictions returned
    rw [getD, listed, Option.getD_some, names, read, List.map_map] at answers
    exact fun prediction member => List.map_inj_left.mp answers prediction member
  · cases recorded.symm.trans ran

/-- A bundle that is read back has equal predictions for equal identifiers. -/
theorem coherent_of_keeps {journal : InMemoryControlJournal} {decision : DecisionRecord}
    {predictions : List Prediction} (consistent : Consistent journal)
    (valid : validBundle decision predictions = true) (keeps : Keeps journal decision predictions) :
    Coherent predictions := by
  obtain ⟨record, returned, same, read, _⟩ := keeps
  have answers := joined_predictions returned
  have decided : journal.decisions.lookup decision.decisionId = some record.decision := by
    unfold joined at returned
    split at returned
    · cases returned
    · rename_i stored found
      obtain ⟨predictions, _, final⟩ := except_bind_ok returned
      cases final
      exact found
  obtain ⟨listed, _⟩ := consistent.bundles _ _ decided
  have names := (predictionIds_of_beq same).trans (predictionIds_of_valid valid)
  rw [getD, listed, Option.getD_some, names, read, List.map_map] at answers
  have stored := List.map_inj_left.mp answers
  intro first member second other equal
  have found := stored first member
  have again := stored second other
  simp only [Function.comp_apply] at found again
  rw [equal, again] at found
  exact (Option.some.inj found).symm

/-- A recorded bundle is read back and accepted again at every later point exactly when its equal
identifiers name equal predictions. -/
theorem recorded_kept_iff (earlier later : List JournalCall) (decision : DecisionRecord)
    (predictions : List Prediction) (record : JoinedControlRecord) (next : InMemoryControlJournal)
    (recorded : recordDecision decision predictions (runJournal earlier {}) = .ok record next) :
    Keeps (runJournal later next) decision predictions ↔ Coherent predictions := by
  have start : Consistent (runJournal earlier {}) := runJournal_consistent earlier
  have reached : next = (JournalCall.recordDecision decision predictions).apply
      (runJournal earlier {}) := by
    change next = finalState (recordDecision decision predictions (runJournal earlier {}))
    rw [recorded]
    rfl
  have middle : Consistent next := reached ▸ (call_keeps start _).1
  obtain ⟨last, grows⟩ := run_keeps middle later
  have accepted : validBundle decision predictions = true ∧
      ∃ selected, selectedPrediction decision predictions = .ok selected := by
    rcases recordDecision_cases decision predictions (runJournal earlier {}) with
      ⟨selected, _, storable, _, _⟩ | ⟨selected, _, _, valid, selects, _⟩ | ⟨exception, ran⟩
    · exact ⟨storable.valid, selected, storable.selects⟩
    · exact ⟨valid, selected, selects⟩
    · cases recorded.symm.trans ran
  obtain ⟨valid, selected, selects⟩ := accepted
  constructor
  · exact coherent_of_keeps last valid
  · intro coherent
    exact ((holds_of_recorded start recorded coherent).grow grows).keeps valid selects

/-- A prediction of one candidate. -/
def namedPrediction (candidateId predictionId : String) : Prediction where
  snapshotId := "s"
  candidateId := candidateId
  predictionId := predictionId

/-- A decision selects the first one of its candidates. -/
def firstDecision (predictions : List Prediction) : DecisionRecord where
  snapshotId := "s"
  policyVersion := "1"
  candidateIds := predictions.map Prediction.candidateId
  predictionIds := predictions.map Prediction.predictionId
  modelVersions := ["analytical-0.1"]
  selectedAction := { targetComponent := "c", actionType := "keep",
                      parameters := [("candidate_id", .str "a")], idempotencyKey := "k",
                      actionId := "x" }
  reason := ""
  decisionId := "d"
  timestamp := 0

/-- A decision with identifiers of its own, and an action that no decision selected. -/
def otherCalls : List JournalCall :=
  let predictions := [namedPrediction "a" "r"]
  let decision := firstDecision predictions
  [.recordDecision { decision with
      decisionId := "e", selectedAction := { decision.selectedAction with actionId := "z" } }
      predictions,
    .recordOutcome 0 "f" { actionId := "y", status := .committed, startedAt := 0, completedAt := 1 }]

/-- The bundle that comes again is refused where it brings other predictions. -/
def repeatedCalls : List JournalCall :=
  .recordDecision (firstDecision [namedPrediction "a" "q"]) [namedPrediction "a" "q"] ::
    .recordOutcome 0 "g" { actionId := "x", status := .committed, startedAt := 0, completedAt := 1 } ::
      otherCalls

theorem recorded_kept_iff_of_two :
    ∃ record next, recordDecision (firstDecision [namedPrediction "a" "p", namedPrediction "b" "q"])
        [namedPrediction "a" "p", namedPrediction "b" "q"] (runJournal otherCalls {}) =
          .ok record next ∧
      Keeps (runJournal repeatedCalls next)
        (firstDecision [namedPrediction "a" "p", namedPrediction "b" "q"])
        [namedPrediction "a" "p", namedPrediction "b" "q"] := by
  have accepted : answersWith (fun _ => true)
      (recordDecision (firstDecision [namedPrediction "a" "p", namedPrediction "b" "q"])
        [namedPrediction "a" "p", namedPrediction "b" "q"] (runJournal otherCalls {})) = true := by
    decide +kernel
  obtain ⟨record, next, recorded, _⟩ := returned_of_answers accepted
  exact ⟨record, next, recorded,
    (recorded_kept_iff otherCalls repeatedCalls _ _ _ _ recorded).mpr (by decide +kernel)⟩

/-- Two candidates share an identifier, so the bundle is not read back. -/
theorem repeated_identifier_lost :
    ∃ record next, recordDecision (firstDecision [namedPrediction "a" "p", namedPrediction "b" "p"])
        [namedPrediction "a" "p", namedPrediction "b" "p"] {} = .ok record next ∧
      ¬ Keeps next (firstDecision [namedPrediction "a" "p", namedPrediction "b" "p"])
        [namedPrediction "a" "p", namedPrediction "b" "p"] := by
  refine ⟨_, _, rfl, ?_⟩
  rintro ⟨record, returned, _, read, _⟩
  cases returned
  exact absurd read (by decide +kernel)

end StateFlow.Control
