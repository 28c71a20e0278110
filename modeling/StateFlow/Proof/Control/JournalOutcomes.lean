import StateFlow.Proof.Control.JournalRecords

namespace StateFlow.Control
open Python Table Effect Selection Predictions

theorem selectedPrediction_mem {decision : DecisionRecord} {predictions : List Prediction}
    {selected : Prediction} (selects : selectedPrediction decision predictions = .ok selected) :
    selected ∈ predictions := by
  unfold selectedPrediction at selects
  simp only at selects
  split at selects
  · split at selects
    · cases selects
      exact List.mem_singleton_self _
    · cases selects
  · split at selects
    · rename_i only
      cases selects
      exact (List.mem_filter.mp (only ▸ List.mem_singleton_self _)).1
    · cases selects

/-- A decision comes from a bundle whose predictions are stored and whose selected prediction is
remembered for its action. -/
def Bundled (journal : InMemoryControlJournal) (decision : DecisionRecord) : Prop :=
  ∃ predictions selected, validBundle decision predictions = true ∧
    (∀ prediction ∈ predictions,
      journal.predictions.lookup prediction.predictionId = some prediction) ∧
    selectedPrediction decision predictions = .ok selected ∧
    journal.selectedPredictions.lookup decision.selectedAction.actionId =
      some selected.predictionId

/-- A feedback was built from an outcome and from the prediction of the selected candidate. -/
def Evaluated (journal : InMemoryControlJournal) (outcome : Outcome) (feedback : Feedback) : Prop :=
  ∃ decisionId decision record prediction now feedbackId,
    journal.actionDecisions.lookup outcome.actionId = some decisionId ∧
    journal.decisions.lookup decisionId = some decision ∧
    joined journal decisionId = .ok record ∧
    selectedPrediction decision record.predictions = .ok prediction ∧
    prediction.predictionId ∈ decision.predictionIds ∧
    buildFeedback decision prediction outcome ("prediction:" ++ prediction.predictionId) now
      feedbackId = .ok feedback

/-- A bundled decision is joined with the predictions of its bundle. -/
theorem Bundled.joined {journal : InMemoryControlJournal} (consistent : Consistent journal)
    {decisionId : String} {decision : DecisionRecord} (bundled : Bundled journal decision)
    (decided : journal.decisions.lookup decisionId = some decision) :
    ∃ record selected, Control.joined journal decisionId = .ok record ∧
      selectedPrediction decision record.predictions = .ok selected ∧
      selected.predictionId ∈ decision.predictionIds ∧
      journal.predictions.lookup selected.predictionId = some selected ∧
      journal.selectedPredictions.lookup decision.selectedAction.actionId =
        some selected.predictionId := by
  obtain ⟨predictions, selected, valid, held, selects, remembered⟩ := bundled
  obtain ⟨listed, present⟩ := consistent.bundles _ _ decided
  obtain ⟨record, returned, _, _, _, read⟩ := joined_returns decided listed present
  have names := predictionIds_of_valid valid
  rw [names, List.map_map] at read
  have back := (List.map_congr_left held).symm.trans read
  have same : record.predictions = predictions :=
    (List.map_injective_iff.mpr (Option.some_injective _) back).symm
  have member := selectedPrediction_mem selects
  exact ⟨record, selected, returned, same ▸ selects, names ▸ List.mem_map_of_mem member,
    held selected member, remembered⟩

theorem Bundled.grow {before after : InMemoryControlJournal} {decision : DecisionRecord}
    (bundled : Bundled before decision) (grows : JournalGrows before after) :
    Bundled after decision := by
  obtain ⟨predictions, selected, valid, held, selects, remembered⟩ := bundled
  exact ⟨predictions, selected, valid,
    fun prediction member => grows.predictions _ _ (held prediction member), selects,
    grows.selectedPredictions _ _ remembered⟩

/-- A stored bundle with distinct identifiers is bundled. -/
theorem bundled_of_store {journal : InMemoryControlJournal} {decision : DecisionRecord}
    {predictions : List Prediction} {selected : Prediction}
    (storable : Storable journal decision predictions selected)
    (distinct : (predictions.map Prediction.predictionId).Nodup) :
    Bundled (journal.store decision predictions selected) decision := by
  refine ⟨predictions, selected, storable.valid, ?_, storable.selects, lookup_assign_same _ _ _⟩
  intro prediction member
  rw [store_lookup, lastWith_of_nodup _ distinct member]
  rfl

/-- The decisions of a journal are bundled and its outcomes are evaluated. -/
structure Joins (journal : InMemoryControlJournal) : Prop where
  consistent : Consistent journal
  bundled : ∀ decisionId decision, journal.decisions.lookup decisionId = some decision →
    Bundled journal decision
  outcomes : ∀ actionId outcome, journal.outcomes.lookup actionId = some outcome →
    outcome.actionId = actionId ∧ outcome.startedAt ≤ outcome.completedAt ∧
      ∃ feedback, journal.feedback.lookup actionId = some feedback ∧
        Evaluated journal outcome feedback

theorem joins_empty : Joins {} where
  consistent := consistent_empty
  bundled _ _ found := by cases found
  outcomes _ _ found := by cases found

/-- The identifiers of a recorded bundle are distinct. -/
def JournalCall.Distinct : JournalCall → Prop
  | .recordDecision _ predictions => (predictions.map Prediction.predictionId).Nodup
  | .recordOutcome .. => True

section Steps
variable {journal : InMemoryControlJournal}

/-- An evaluation survives every growth. -/
theorem Evaluated.grow {later : InMemoryControlJournal} {outcome : Outcome} {feedback : Feedback}
    (joins : Joins journal) (consistent : Consistent later) (grows : JournalGrows journal later)
    (evaluated : Evaluated journal outcome feedback) : Evaluated later outcome feedback := by
  obtain ⟨decisionId, decision, record, prediction, now, feedbackId, owned, decided, returned,
    selects, _, built⟩ := evaluated
  have bundled := joins.bundled decisionId decision decided
  obtain ⟨before, chosen, returned', selects', _, held, remembered⟩ :=
    bundled.joined joins.consistent decided
  cases returned.symm.trans returned'
  cases selects.symm.trans selects'
  obtain ⟨after, again, joined, selected, listed, stored, kept⟩ :=
    (bundled.grow grows).joined consistent (grows.decisions _ _ decided)
  -- The action remembers one identifier and the identifier names one prediction.
  have names := (grows.selectedPredictions _ _ remembered).symm.trans kept
  rw [← Option.some.inj names, grows.predictions _ _ held] at stored
  cases stored
  exact ⟨decisionId, decision, after, prediction, now, feedbackId,
    grows.actionDecisions _ _ owned, grows.decisions _ _ decided, joined, selected, listed, built⟩

/-- A new decision keeps the joins. -/
theorem store_joins (joins : Joins journal) {decision : DecisionRecord}
    {predictions : List Prediction} {selected : Prediction}
    (storable : Storable journal decision predictions selected)
    (distinct : (predictions.map Prediction.predictionId).Nodup) :
    Joins (journal.store decision predictions selected) := by
  have consistent := store_consistent joins.consistent storable
  have grows := store_grows joins.consistent storable
  refine ⟨consistent, ?_, ?_⟩
  · intro decisionId other found
    change (assign decision.decisionId decision journal.decisions).lookup decisionId = _ at found
    rw [lookup_assign] at found
    split at found
    · cases found
      exact bundled_of_store storable distinct
    · exact (joins.bundled decisionId other found).grow grows
  · intro actionId outcome found
    obtain ⟨named, order, feedback, stored, evaluated⟩ := joins.outcomes actionId outcome found
    exact ⟨named, order, feedback, stored, evaluated.grow joins consistent grows⟩

/-- A first outcome is evaluated with the prediction of its selected candidate. -/
theorem evaluated_of_judged (joins : Joins journal) {now : Int} {feedbackId decisionId : String}
    {outcome : Outcome} {feedback : Feedback} {decision : DecisionRecord} {predictionId : String}
    {prediction : Prediction}
    (owned : journal.actionDecisions.lookup outcome.actionId = some decisionId)
    (decided : journal.decisions.lookup decisionId = some decision)
    (remembered : journal.selectedPredictions.lookup outcome.actionId = some predictionId)
    (held : journal.predictions.lookup predictionId = some prediction)
    (built : buildFeedback decision prediction outcome ("prediction:" ++ predictionId) now
      feedbackId = .ok feedback) : Evaluated journal outcome feedback := by
  obtain ⟨owner, decided', named⟩ := joins.consistent.owners _ _ owned
  cases decided.symm.trans decided'
  obtain ⟨record, chosen, returned, selects, listed, stored, kept⟩ :=
    (joins.bundled decisionId decision decided).joined joins.consistent decided
  rw [named, remembered] at kept
  cases kept
  cases held.symm.trans stored
  exact ⟨decisionId, decision, record, prediction, now, feedbackId, owned, decided, returned,
    selects, listed, built⟩

theorem storeOutcome_joins (joins : Joins journal) {outcome : Outcome} {feedback : Feedback}
    (unanswered : journal.outcomes.lookup outcome.actionId = none)
    (order : outcome.startedAt ≤ outcome.completedAt)
    (evaluated : Evaluated journal outcome feedback) :
    Joins (journal.storeOutcome outcome feedback) := by
  have consistent := storeOutcome_consistent joins.consistent outcome feedback
  have grows := storeOutcome_grows joins.consistent unanswered feedback
  refine ⟨consistent, fun decisionId decision found =>
    (joins.bundled decisionId decision found).grow grows, ?_⟩
  intro actionId other found
  change (assign outcome.actionId outcome journal.outcomes).lookup actionId = _ at found
  rw [lookup_assign] at found
  split at found
  · rename_i same
    cases found
    exact ⟨same.symm, order, feedback, same ▸ lookup_assign_same _ _ _,
      evaluated.grow joins consistent grows⟩
  · obtain ⟨named, ordered, kept, stored, before⟩ := joins.outcomes actionId other found
    exact ⟨named, ordered, kept, grows.feedback _ _ stored, before.grow joins consistent grows⟩

theorem judgeOutcome_order {next : InMemoryControlJournal} {now : Int} {feedbackId : String}
    {outcome : Outcome} {feedback : Feedback}
    (judged : judgeOutcome journal now feedbackId outcome = .ok (feedback, next)) :
    outcome.startedAt ≤ outcome.completedAt := by
  simp only [judgeOutcome] at judged
  split at judged
  · cases judged
  · rename_i order
    exact not_lt.mp order

/-- Each call with distinct identifiers keeps the joins. -/
theorem call_joins (joins : Joins journal) (call : JournalCall) (distinct : call.Distinct) :
    Joins (call.apply journal) := by
  cases call with
  | recordDecision decision predictions =>
      change Joins (finalState (recordDecision decision predictions journal))
      rcases recordDecision_cases decision predictions journal with
        ⟨selected, record, storable, _, ran⟩ | ⟨_, _, record, _, _, _, _, _, _, ran⟩ |
          ⟨exception, ran⟩
      · rw [ran]
        exact store_joins joins storable distinct
      · rw [ran]
        exact joins
      · rw [ran]
        exact joins
  | recordOutcome now feedbackId outcome =>
      change Joins (finalState (recordOutcome now feedbackId outcome journal))
      rw [recordOutcome_run]
      cases judged : judgeOutcome journal now feedbackId outcome with
      | error exception => exact joins
      | ok answer =>
          have order := judgeOutcome_order judged
          obtain ⟨_, owned, ⟨_, _, same⟩ | ⟨_, _, _, unanswered, decided, remembered, held, built,
            stored⟩⟩ := judgeOutcome_ok judged
          · simp only [finalState_ok, same]
            exact joins
          · simp only [finalState_ok, stored]
            exact storeOutcome_joins joins unanswered order
              (evaluated_of_judged joins owned decided remembered held built)

end Steps

section Answers
variable {journal : InMemoryControlJournal}

/-- A raised call leaves every table alone. -/
theorem recordDecision_raises {decision : DecisionRecord} {predictions : List Prediction}
    {next : InMemoryControlJournal} {exception : Exception}
    (raised : recordDecision decision predictions journal = .error exception next) :
    next = journal := by
  rcases recordDecision_cases decision predictions journal with
    ⟨_, _, _, _, ran⟩ | ⟨_, _, _, _, _, _, _, _, _, ran⟩ | ⟨_, ran⟩
  · cases raised.symm.trans ran
  · cases raised.symm.trans ran
  · cases raised.symm.trans ran
    rfl

theorem recordOutcome_raises {now : Int} {feedbackId : String} {outcome : Outcome}
    {next : InMemoryControlJournal} {exception : Exception}
    (raised : recordOutcome now feedbackId outcome journal = .error exception next) :
    next = journal := by
  rw [recordOutcome_run] at raised
  split at raised
  · cases raised
  · cases raised
    rfl

/-- An identical outcome is answered with the stored feedback. -/
theorem recordOutcome_repeated (joins : Joins journal) {outcome : Outcome}
    (stored : journal.outcomes.lookup outcome.actionId = some outcome) (now : Int)
    (feedbackId : String) :
    ∃ feedback, journal.feedback.lookup outcome.actionId = some feedback ∧
      recordOutcome now feedbackId outcome journal = .ok feedback journal := by
  obtain ⟨_, order, feedback, kept, decisionId, _, _, _, _, _, owned, _⟩ :=
    joins.outcomes _ _ stored
  have judged : judgeOutcome journal now feedbackId outcome = .ok (feedback, journal) := by
    simp only [judgeOutcome, if_neg (not_lt.mpr order), lookupKey, owned, stored, kept]
    rfl
  exact ⟨feedback, kept, by rw [recordOutcome_run, judged]⟩

/-- A conflicting outcome is rejected. -/
theorem recordOutcome_conflict {outcome existing : Outcome}
    (stored : journal.outcomes.lookup outcome.actionId = some existing)
    (different : existing ≠ outcome) (now : Int) (feedbackId : String) :
    ∃ exception, recordOutcome now feedbackId outcome journal = .error exception journal := by
  rw [recordOutcome_run]
  cases judged : judgeOutcome journal now feedbackId outcome with
  | error exception => exact ⟨exception, rfl⟩
  | ok answer =>
      obtain ⟨_, _, ⟨found, _⟩ | ⟨_, _, _, absent, _⟩⟩ := judgeOutcome_ok judged
      · rw [stored] at found
        exact absurd (Option.some.inj found) different
      · rw [stored] at absent
        cases absent

theorem actionId_of_beq {first second : DecisionRecord} (same : (first == second) = true) :
    first.selectedAction.actionId = second.selectedAction.actionId := by
  obtain ⟨_, _, _, _, _, firstAction, _, _, _, _⟩ := first
  obtain ⟨_, _, _, _, _, secondAction, _, _, _, _⟩ := second
  simp only [BEq.beq, instBEqDecisionRecord.beq, Bool.and_eq_true] at same
  exact of_decide_eq_true same.2.2.2.2.2.1.2

/-- An action of another decision is rejected. -/
theorem recordDecision_reused (consistent : Consistent journal) {decision : DecisionRecord}
    {owner : String}
    (owned : journal.actionDecisions.lookup decision.selectedAction.actionId = some owner)
    (other : owner ≠ decision.decisionId) (predictions : List Prediction) :
    ∃ exception, recordDecision decision predictions journal = .error exception journal := by
  rcases recordDecision_cases decision predictions journal with
    ⟨_, _, storable, _, _⟩ | ⟨_, existing, _, _, _, decided, same, _, _, _⟩ | raised
  · rw [storable.unowned] at owned
    cases owned
  · obtain ⟨_, own⟩ := consistent.owned _ _ decided
    rw [actionId_of_beq same, owned] at own
    exact absurd (Option.some.inj own) other
  · exact raised

end Answers

section Copies
variable {copying : Copying} {journal : InMemoryControlJournal}

/-- The predictions of a call can be copied. -/
def JournalCall.Copies (copying : Copying) : JournalCall → Prop
  | .recordDecision _ predictions =>
      ∀ prediction ∈ predictions, copying.prediction prediction = true
  | .recordOutcome .. => True

/-- A call whose predictions can be copied has its whole effect or none. -/
theorem applyWith_cases {call : JournalCall} (copies : call.Copies copying)
    (journal : InMemoryControlJournal) :
    call.applyWith copying journal = call.apply journal ∨
      call.applyWith copying journal = journal := by
  cases call with
  | recordDecision decision predictions =>
      simp only [JournalCall.applyWith, JournalCall.apply]
      rcases recordDecisionWith_cases copies decision journal with same | ⟨exception, raised⟩
      · exact .inl (by rw [same])
      · exact .inr (by rw [raised]; rfl)
  | recordOutcome now feedbackId outcome =>
      simp only [JournalCall.applyWith, JournalCall.apply]
      rcases recordOutcomeWith_cases copying now feedbackId outcome journal with
        same | ⟨_, exception, raised⟩
      · exact .inl (by rw [same])
      · exact .inr (by rw [raised]; rfl)

/-- A run whose predictions can be copied keeps the joins. -/
theorem run_joinsWith (joins : Joins journal) (calls : List JournalCall)
    (distinct : ∀ call ∈ calls, call.Distinct) (copies : ∀ call ∈ calls, call.Copies copying) :
    Joins (runJournalWith copying calls journal) := by
  induction calls generalizing journal with
  | nil => exact joins
  | cons call rest ih =>
      apply ih
      · rcases applyWith_cases (copies call List.mem_cons_self) journal with same | same
        · rw [same]
          exact call_joins joins call (distinct call List.mem_cons_self)
        · rw [same]
          exact joins
      · exact fun later member => distinct later (List.mem_cons_of_mem call member)
      · exact fun later member => copies later (List.mem_cons_of_mem call member)

/-- A decision whose predictions can be copied is recorded or changes nothing. -/
theorem recordDecisionWith_raises {decision : DecisionRecord} {predictions : List Prediction}
    (copies : ∀ prediction ∈ predictions, copying.prediction prediction = true)
    {next : InMemoryControlJournal} {exception : Exception}
    (raised : recordDecisionWith copying decision predictions journal = .error exception next) :
    next = journal := by
  rcases recordDecisionWith_cases copies decision journal with same | ⟨_, stopped⟩
  · exact recordDecision_raises (same.symm.trans raised)
  · cases raised.symm.trans stopped
    rfl

theorem recordOutcomeWith_raises {now : Int} {feedbackId : String} {outcome : Outcome}
    {next : InMemoryControlJournal} {exception : Exception}
    (raised : recordOutcomeWith copying now feedbackId outcome journal = .error exception next) :
    next = journal := by
  rcases recordOutcomeWith_cases copying now feedbackId outcome journal with same | ⟨_, _, stopped⟩
  · exact recordOutcome_raises (same.symm.trans raised)
  · cases raised.symm.trans stopped
    rfl

/-- A known outcome is answered without a copy. -/
theorem recordOutcomeWith_known {now : Int} {feedbackId : String} {outcome existing : Outcome}
    (stored : journal.outcomes.lookup outcome.actionId = some existing) :
    recordOutcomeWith copying now feedbackId outcome journal =
      recordOutcome now feedbackId outcome journal :=
  (recordOutcomeWith_cases copying now feedbackId outcome journal).resolve_right fun unknown => by
    cases unknown.1.symm.trans stored

/-- An action of another decision is rejected before the first copy. -/
theorem recordDecisionWith_reused (consistent : Consistent journal) {decision : DecisionRecord}
    {owner : String}
    (owned : journal.actionDecisions.lookup decision.selectedAction.actionId = some owner)
    (other : owner ≠ decision.decisionId) (predictions : List Prediction) :
    ∃ exception, recordDecisionWith copying decision predictions journal =
      .error exception journal := by
  have taken : (journal.actionDecisions.lookup decision.selectedAction.actionId).isSome = true := by
    rw [owned]
    rfl
  obtain ⟨exception, raised⟩ := recordDecision_reused consistent owned other predictions
  unfold recordDecision at raised
  rw [recordDecisionWith_run] at raised ⊢
  simp only [if_pos taken] at raised ⊢
  exact ⟨exception, raised⟩

end Copies

/-- The tables of a journal agree in every run whose bundles have distinct identifiers and
predictions that can be copied. -/
theorem journal_joined (copying : Copying) (calls : List JournalCall)
    (distinct : ∀ call ∈ calls, call.Distinct) (copies : ∀ call ∈ calls, call.Copies copying) :
    -- Each action belongs to exactly one decision.
    (∀ first second decision other,
      (runJournalWith copying calls {}).decisions.lookup first = some decision →
      (runJournalWith copying calls {}).decisions.lookup second = some other →
      decision.selectedAction.actionId = other.selectedAction.actionId → first = second) ∧
    -- A feedback belongs to an outcome and was built from it.
    (∀ actionId, ((runJournalWith copying calls {}).feedback.lookup actionId).isSome =
      ((runJournalWith copying calls {}).outcomes.lookup actionId).isSome) ∧
    (∀ actionId outcome, (runJournalWith copying calls {}).outcomes.lookup actionId = some outcome →
      outcome.actionId = actionId ∧
        ∃ feedback, (runJournalWith copying calls {}).feedback.lookup actionId = some feedback ∧
          Evaluated (runJournalWith copying calls {}) outcome feedback) ∧
    -- A repeated outcome has the stored answer and a conflicting one is rejected.
    (∀ now feedbackId outcome,
      (runJournalWith copying calls {}).outcomes.lookup outcome.actionId = some outcome →
        ∃ feedback,
          (runJournalWith copying calls {}).feedback.lookup outcome.actionId = some feedback ∧
          recordOutcomeWith copying now feedbackId outcome (runJournalWith copying calls {}) =
            .ok feedback (runJournalWith copying calls {})) ∧
    (∀ now feedbackId outcome existing,
      (runJournalWith copying calls {}).outcomes.lookup outcome.actionId = some existing →
      existing ≠ outcome → ∃ exception,
        recordOutcomeWith copying now feedbackId outcome (runJournalWith copying calls {}) =
          .error exception (runJournalWith copying calls {})) ∧
    -- A reused action is rejected.
    (∀ decision predictions owner,
      (runJournalWith copying calls {}).actionDecisions.lookup decision.selectedAction.actionId =
        some owner →
      owner ≠ decision.decisionId → ∃ exception,
        recordDecisionWith copying decision predictions (runJournalWith copying calls {}) =
          .error exception (runJournalWith copying calls {})) ∧
    -- A call that raises changes nothing.
    (∀ decision predictions exception next,
      (∀ prediction ∈ predictions, copying.prediction prediction = true) →
      recordDecisionWith copying decision predictions (runJournalWith copying calls {}) =
        .error exception next → next = runJournalWith copying calls {}) ∧
    ∀ now feedbackId outcome exception next,
      recordOutcomeWith copying now feedbackId outcome (runJournalWith copying calls {}) =
        .error exception next → next = runJournalWith copying calls {} := by
  have joins : Joins (runJournalWith copying calls {}) := run_joinsWith joins_empty calls distinct copies
  refine ⟨?_, ?_, ?_, ?_, ?_, ?_, ?_, ?_⟩
  · intro first second decision other decided also same
    obtain ⟨_, owned⟩ := joins.consistent.owned first decision decided
    obtain ⟨_, own⟩ := joins.consistent.owned second other also
    rw [same, own] at owned
    exact (Option.some.inj owned).symm
  · exact fun actionId => (joins.consistent.answered actionId).symm
  · intro actionId outcome found
    obtain ⟨named, _, feedback, stored, evaluated⟩ := joins.outcomes actionId outcome found
    exact ⟨named, feedback, stored, evaluated⟩
  · intro now feedbackId outcome stored
    rw [recordOutcomeWith_known stored]
    exact recordOutcome_repeated joins stored now feedbackId
  · intro now feedbackId outcome existing stored different
    rw [recordOutcomeWith_known stored]
    exact recordOutcome_conflict stored different now feedbackId
  · exact fun decision predictions owner owned other =>
      recordDecisionWith_reused joins.consistent owned other predictions
  · exact fun _ _ _ _ copies raised => recordDecisionWith_raises copies raised
  · exact fun _ _ _ _ _ raised => recordOutcomeWith_raises raised

/-- A decision about two candidates and the outcome of its action. -/
def joinedCalls : List JournalCall :=
  [.recordDecision (firstDecision [namedPrediction "a" "p", namedPrediction "b" "q"])
      [namedPrediction "a" "p", namedPrediction "b" "q"],
    .recordOutcome 0 "f" { actionId := "x", status := .committed, startedAt := 0, completedAt := 1 }]

/-- Every record but those of the prediction `held` can be copied. -/
def withoutHeld : Copying :=
  { Copying.all with prediction := fun prediction => prediction.predictionId ≠ "held" }

theorem journal_joined_of_two :
    ∃ feedback, (runJournalWith withoutHeld joinedCalls {}).feedback.lookup "x" = some feedback ∧
      Evaluated (runJournalWith withoutHeld joinedCalls {})
        { actionId := "x", status := .committed, startedAt := 0, completedAt := 1 } feedback := by
  have distinct : ∀ call ∈ joinedCalls, call.Distinct := by
    simp [joinedCalls, JournalCall.Distinct, namedPrediction]
  have copies : ∀ call ∈ joinedCalls, call.Copies withoutHeld := by
    simp [joinedCalls, JournalCall.Copies, namedPrediction, withoutHeld]
  exact ((journal_joined withoutHeld joinedCalls distinct copies).2.2.1 "x" _ rfl).2

/-- The second prediction of a bundle cannot be copied. The call raises after the decision entered
four tables and the first prediction its own. -/
theorem uncopied_half_stored :
    ∃ exception next, recordDecisionWith withoutHeld
        (firstDecision [namedPrediction "a" "p", namedPrediction "b" "held"])
        [namedPrediction "a" "p", namedPrediction "b" "held"] {} = .error exception next ∧
      (next.decisions.lookup "d").isSome = true ∧
      next.actionDecisions.lookup "x" = some "d" ∧
      (next.predictions.lookup "p").isSome = true ∧
      (next.predictions.lookup "held").isSome = false ∧ next.order = [] :=
  ⟨_, _, rfl, rfl, rfl, rfl, rfl, rfl⟩

end StateFlow.Control
