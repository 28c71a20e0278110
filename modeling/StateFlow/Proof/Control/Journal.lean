import StateFlow.Library.Selection
import StateFlow.Construction.Control.Journal

namespace StateFlow.Control
open Python Table Effect Selection Predictions

/-- The journal with every part of a bundle. -/
def InMemoryControlJournal.store (journal : InMemoryControlJournal) (decision : DecisionRecord)
    (predictions : List Prediction) (selected : Prediction) : InMemoryControlJournal :=
  { journal.register decision selected with
    predictions := predictions.foldl (fun table prediction =>
      assign prediction.predictionId prediction table) journal.predictions
    order := journal.order ++ [decision.decisionId] }

section Copies
variable {copying : Copying} {decision : DecisionRecord} {predictions : List Prediction}

theorem keepPredictions_of_copies
    (copies : ∀ prediction ∈ predictions, copying.prediction prediction = true)
    (journal : InMemoryControlJournal) :
    keepPredictions copying predictions journal = .ok () { journal with
      predictions := predictions.foldl (fun table prediction =>
        assign prediction.predictionId prediction table) journal.predictions } := by
  induction predictions generalizing journal with
  | nil => rfl
  | cons prediction rest ih =>
      have first : lift (copied (copying.prediction prediction)) journal = .ok () journal := by
        rw [copies prediction List.mem_cons_self]
        rfl
      unfold keepPredictions
      rw [bind_of_ok first]
      exact ih (fun other member => copies other (List.mem_cons_of_mem _ member)) _

/-- The writes of a bundle that can be copied store all of it. -/
theorem storeBundle_of_copies (copy : copying.decision decision = true)
    (copies : ∀ prediction ∈ predictions, copying.prediction prediction = true)
    (selected : Prediction) :
    storeBundle copying decision predictions selected =
      modify fun journal => journal.store decision predictions selected := by
  funext journal
  have first : lift (copied (copying.decision decision)) journal = .ok () journal := by
    rw [copy]
    rfl
  unfold storeBundle
  rw [bind_of_ok first]
  exact bind_of_ok (keepPredictions_of_copies copies (journal.register decision selected))

theorem storeBundle_all (decision : DecisionRecord) (predictions : List Prediction)
    (selected : Prediction) : storeBundle .all decision predictions selected =
      modify fun journal => journal.store decision predictions selected :=
  storeBundle_of_copies rfl (fun _ _ => rfl) selected

/-- A bundle that can be copied is recorded as a whole. -/
theorem recordDecisionWith_of_copies (copy : copying.decision decision = true)
    (copies : ∀ prediction ∈ predictions, copying.prediction prediction = true) :
    recordDecisionWith copying decision predictions = recordDecision decision predictions := by
  unfold recordDecision recordDecisionWith
  simp only [storeBundle_of_copies copy copies, storeBundle_all]

end Copies

/-- A join reads each prediction from the table of the journal. -/
theorem joined_predictions {journal : InMemoryControlJournal} {decisionId : String}
    {record : JoinedControlRecord} (returned : joined journal decisionId = .ok record) :
    (getD journal.decisionPredictions decisionId []).map (journal.predictions.lookup ·) =
      record.predictions.map some := by
  unfold joined at returned
  split at returned
  · cases returned
  · obtain ⟨predictions, traversed, finished⟩ := except_bind_ok returned
    cases finished
    have related := forall₂_of_mapM traversed
    clear traversed returned
    generalize getD journal.decisionPredictions decisionId [] = items at related ⊢
    induction related with
    | nil => rfl
    | cons found _ ih =>
        split at found
        · cases found
          rename_i present
          rw [List.map_cons, List.map_cons, ih, present]
        · cases found

section Store
variable {journal : InMemoryControlJournal} {decision : DecisionRecord}
  {predictions : List Prediction} {selected : Prediction} {record : JoinedControlRecord}
  (named : decision.predictionIds = predictions.map Prediction.predictionId)
  (returned : joined (journal.store decision predictions selected) decision.decisionId = .ok record)
include named returned

/-- A stored decision joins the stored predictions under its names. -/
theorem joined_stored : predictions.map (fun item => (journal.store decision predictions
    selected).predictions.lookup item.predictionId) = record.predictions.map some := by
  have answers := joined_predictions returned
  have identifiers : getD (journal.store decision predictions selected).decisionPredictions
      decision.decisionId [] = predictions.map Prediction.predictionId := by
    simp [getD, InMemoryControlJournal.store, InMemoryControlJournal.register, named]
  rw [identifiers, List.map_map] at answers
  exact answers

/-- A decision over distinct prediction names joins its own predictions. -/
theorem joined_of_distinct (separate : (predictions.map Prediction.predictionId).Nodup) :
    record.predictions = predictions := by
  have stored : ∀ prediction ∈ predictions,
      (journal.store decision predictions selected).predictions.lookup prediction.predictionId =
        some prediction := by
    intro prediction member
    change (predictions.foldl (fun table prediction =>
      assign prediction.predictionId prediction table) journal.predictions).lookup _ = _
    rw [lookup_foldl_assign, lastWith_of_nodup _ separate member]
    rfl
  have same := (List.map_congr_left stored).symm.trans (joined_stored named returned)
  exact (List.map_injective_iff.mpr (Option.some_injective _) same).symm

/-- The stored predictions of a decision with distinct candidates are the recorded ones. -/
theorem joined_store (distinct : (record.predictions.map Prediction.candidateId).Nodup) :
    record.predictions = predictions := by
  -- Two equal identifiers would answer with one prediction and with one candidate.
  have separate : (predictions.map Prediction.predictionId).Nodup := by
    apply List.Nodup.of_map fun item =>
      (journal.store decision predictions selected).predictions.lookup item
    rw [List.map_map]
    change (predictions.map fun item => (journal.store decision predictions
      selected).predictions.lookup item.predictionId).Nodup
    rw [joined_stored named returned]
    exact (List.Nodup.of_map _ distinct).map (Option.some_injective _)
  exact joined_of_distinct named returned separate

end Store

/-- A recorded bundle joins its own predictions. -/
theorem recordDecision_predictions {decision : DecisionRecord} {predictions : List Prediction}
    {journal next : InMemoryControlJournal} {record : JoinedControlRecord}
    (returned : recordDecision decision predictions journal = .ok record next)
    (distinct : (record.predictions.map Prediction.candidateId).Nodup) :
    record.predictions = predictions := by
  unfold recordDecision recordDecisionWith at returned
  simp only [storeBundle_all] at returned
  split at returned
  · obtain ⟨_, _, raised, _⟩ := bind_ok returned
    cases raised
  · rename_i valid
    obtain ⟨selected, _, _, reading⟩ := bind_ok returned
    obtain ⟨before, _, read, deciding⟩ := bind_ok reading
    cases found : before.decisions.lookup decision.decisionId with
    | some existing =>
        rw [found] at deciding
        obtain ⟨joined, _, _, comparing⟩ := bind_ok deciding
        split at comparing
        · rename_i same
          cases comparing
          simp only [Bool.and_eq_true, decide_eq_true_eq] at same
          exact same.2
        · cases comparing
    | none =>
        rw [found] at deciding
        simp only at deciding
        split at deciding
        · obtain ⟨_, _, raised, _⟩ := bind_ok deciding
          cases raised
        · split at deciding
          · obtain ⟨_, _, raised, _⟩ := bind_ok deciding
            cases raised
          · obtain ⟨_, middle, stored, joining⟩ := bind_ok deciding
            obtain ⟨journal, _, got, joining⟩ := bind_ok joining
            cases got
            cases stored
            obtain ⟨joinedRecord, rfl⟩ := lift_ok joining
            simp only [validBundle, Bool.not_eq_true', Bool.not_eq_false, Bool.and_eq_true,
              decide_eq_true_eq] at valid
            exact joined_store valid.1.1.1.2 joinedRecord distinct

end StateFlow.Control
