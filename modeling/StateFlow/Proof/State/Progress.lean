import StateFlow.Construction.State.View
import StateFlow.Proof.State.Preservation

namespace StateFlow.State
open Python Table Effect Scheduler

theorem confidence_yields {field : StateField} (valid : field.representable = true) (now : Int) :
    Yields (field.effectiveConfidence now) fun _ => True :=
  yields_bind (representable_fresh valid now) fun _ _ => yields_pure trivial

theorem anyFresh_yields (now : Int) {fields : List StateField}
    (valid : ∀ field ∈ fields, field.representable = true) :
    Yields (anyFresh now fields) fun _ => True := by
  induction fields with
  | nil => exact yields_ok trivial
  | cons field rest ih =>
      obtain ⟨here, later⟩ := List.forall_mem_cons.mp valid
      unfold anyFresh
      refine yields_bind (representable_fresh here now) fun fresh _ => ?_
      split
      · refine yields_bind (confidence_yields here now) fun confidence _ => ?_
        split
        · exact yields_pure trivial
        · exact ih later
      · exact ih later

/-- The hot view of a typed state holds what the scheduler reads. -/
structure TypedView (view : HarnessSchedulingView) : Prop where
  capabilities : ∀ value ∈ view.requiredCapabilities, IsText value
  costBudget : IsOptionalNumber view.costBudget
  failureStreak : IsNumber view.failureStreak
  consecutiveFailures : IsNumber view.consecutiveFailures
  phase : IsMember view.phase
  remainingTurns : IsNumber view.predictedRemainingTurns
  nextModelCall : IsNumber view.predictedTimeUntilNextModelCallSeconds
  sessionTurn : IsNumber view.sessionTurn
  migrationPenalty : IsNumber view.migrationPenalty
  currentTier : IsText view.currentTier
  stableSteps : IsNumber view.stableSteps
  tenant : scalar view.tenantId = true

section View
variable {state : AgentState} (typed : Typed state)
include typed

theorem stateFreshness_yields (now : Int) : Yields (stateFreshness state now) fun _ => True :=
  yields_bind (yields_mapM fun entry member => confidence_yields (typed.marks entry member) now)
    fun _ _ => yields_pure trivial

theorem available_yields (now : Int) (name : String) (fallback : Bool) :
    Yields (available state now name fallback) fun _ => True := by
  unfold available
  extract_lets candidates
  split
  · exact yields_ok trivial
  · refine anyFresh_yields now fun field member => ?_
    obtain ⟨entry, listed, rfl⟩ := List.mem_map.mp member
    exact typed.marks entry (List.mem_filter.mp listed).1

theorem knownOr_yields (now : Int) (known : Bool) (name : String) :
    Yields (knownOr state now known name) fun _ => True := by
  unfold knownOr
  split
  · exact yields_ok trivial
  · exact available_yields typed now name false

theorem harnessNative_yields : Yields (harnessNative state) fun _ => True := by
  have plain : scalar (state.get .identity "harness_type") = true :=
    typed.admitted .identity "harness_type"
  unfold harnessNative
  extract_lets harnessType
  rw [if_pos (scalar_hashable plain)]
  exact yields_ok trivial

theorem completeness_yields (now : Int) (flags : List Bool) :
    Yields (completeness state now flags) fun _ => True := by
  unfold completeness
  extract_lets visible
  split
  · exact yields_pure trivial
  · exact yields_bind (stateFreshness_yields typed now) fun _ _ => yields_pure trivial

theorem deriveAvailability_yields (now : Int) :
    Yields (deriveAvailability state now) fun _ => True := by
  unfold deriveAvailability
  refine yields_bind (harnessNative_yields typed) fun native _ => ?_
  refine yields_bind (knownOr_yields typed now _ _) fun tool _ => ?_
  refine yields_bind (lt_number (isNumber_int 0) (isNumber_double (typed.double rfl))) fun progressed _ => ?_
  iterate 5 refine yields_bind (knownOr_yields typed now _ _) fun _ _ => ?_
  exact yields_bind (completeness_yields typed now _) fun _ _ => yields_pure trivial

theorem deadlineSeconds_yields (now : Int) : Yields (deadlineSeconds state now) fun _ => True := by
  have stored : Kind.deadline.admits (state.get .qos "task_deadline") = true :=
    typed.admitted .qos "task_deadline"
  unfold deadlineSeconds
  generalize state.get .qos "task_deadline" = value at stored
  cases value with
  | none | datetime => exact yields_ok trivial
  | _ => cases stored

theorem criticalStep_yields : Yields (criticalStep state) fun _ => True := by
  have stored : Kind.sequence.admits (state.get .execution "critical_path_nodes") = true :=
    typed.admitted .execution "critical_path_nodes"
  unfold criticalStep
  extract_lets node path
  split
  · generalize known : path = value
    rw [show state.get .execution "critical_path_nodes" = value from known] at stored
    cases value with
    | list | tuple => exact yields_ok trivial
    | _ => cases stored
  · exact yields_ok trivial

omit typed in
theorem clampValue_yields (text : Text) {value : Value} (converts : value.double.isOk = true) :
    Yields (clampValue text value) fun _ => True := by
  have same : text.float value = value.double := by
    cases value with
    | str | enum => cases converts
    | _ => rfl
  unfold clampValue
  rw [same]
  cases read : value.double with
  | ok amount => exact yields_pure trivial
  | error exception => rw [read] at converts; cases converts

theorem urgency_yields (text : Text) (deadline : Option ℚ) (critical : Bool) :
    Yields (urgency text state deadline critical) fun _ => True := by
  have timed : Yields (deadlineUrgency state deadline) fun _ => True := by
    have stored : Kind.optionalDouble.admits (state.get .qos "task_latency_target_seconds") = true :=
      typed.admitted .qos "task_latency_target_seconds"
    unfold deadlineUrgency
    extract_lets target
    split
    · split
      · rename_i seconds positive
        have converts : target.double.isOk = true := by
          change (target.isNone || target.double.isOk) = true at stored
          rcases Bool.or_eq_true _ _ ▸ stored with absent | converts
          · cases known : target with
            | none => rw [known] at positive; cases positive
            | _ => rw [known] at absent; cases absent
          · exact converts
        refine yields_bind (max_doubles converts rfl) fun bound known => ?_
        cases read : bound.double with
        | ok amount => exact yields_pure trivial
        | error exception => rw [read] at known; cases known
      · exact yields_ok trivial
    · exact yields_ok trivial
  refine yields_bind timed fun _ _ => ?_
  exact yields_bind (clampValue_yields text typed.urgency) fun _ _ => yields_pure trivial

omit typed in
/-- A stored set copies its items. -/
theorem copySet_yields {value : Value} {test : Value → Bool}
    (hashed : ∀ item, test item = true → item.hashable = true)
    (stored : ∃ items, value = .set items ∧ items.all test = true) :
    Yields (copySet value) fun items => ∀ item ∈ items, test item = true := by
  obtain ⟨items, rfl, all⟩ := stored
  have known : items.all Value.hashable = true :=
    List.all_eq_true.mpr fun item member => hashed item (List.all_eq_true.mp all item member)
  have copied : (Value.set items).toSet = .ok (.set (distinct items)) := by
    change (if items.all Value.hashable then _ else _) = _
    rw [if_pos known]
    rfl
  unfold copySet
  rw [copied]
  exact yields_ok fun item member => List.all_eq_true.mp all item (mem_of_mem_distinct member)

theorem capabilities : ∃ items, state.get .identity "required_capabilities" = .set items ∧
    items.all (fun item => item.text?.isSome) = true := by
  have stored : Kind.textSet.admits (state.get .identity "required_capabilities") = true :=
    typed.admitted .identity "required_capabilities"
  cases known : state.get .identity "required_capabilities" with
  | set items => exact ⟨items, rfl, by rw [known] at stored; exact stored⟩
  | _ => rw [known] at stored; cases stored

theorem allowed {part : Section} {name : String} (kind : kindOf part name = .set) :
    ∃ items, state.get part name = .set items ∧ items.all Value.hashable = true := by
  have stored := typed.admitted part name
  rw [kind] at stored
  cases known : state.get part name with
  | set items => exact ⟨items, rfl, by rw [known] at stored; exact stored⟩
  | _ => rw [known] at stored; cases stored

theorem history_yields (name : String) (test : Value → Prop)
    (stored : ∀ attrs, historyAttrs attrs = true → ∃ value, attrs.lookup name = some value ∧ test value) :
    Yields ((state.get .scheduling "routing_history").attr name) test := by
  have admitted : Kind.history.admits (state.get .scheduling "routing_history") = true :=
    typed.admitted .scheduling "routing_history"
  generalize state.get .scheduling "routing_history" = history at admitted
  cases history with
  | object kind attrs =>
      obtain ⟨value, found, holds⟩ := stored attrs admitted
      have read : (Value.object kind attrs).attr name = .ok value := by simp only [Value.attr, found]
      exact ⟨value, read, holds⟩
  | _ => cases admitted

omit typed in
theorem lookup_bind {A : Type} {attrs : List (String × Value)} {name : String} {read : Value → Option A}
    (found : ((attrs.lookup name).bind read).isSome = true) :
    ∃ value, attrs.lookup name = some value ∧ ∃ result, read value = some result := by
  obtain ⟨result, bound⟩ := Option.isSome_iff_exists.mp found
  obtain ⟨value, present, known⟩ := Option.bind_eq_some_iff.mp bound
  exact ⟨value, present, result, known⟩

theorem historyStreak_yields :
    Yields ((state.get .scheduling "routing_history").attr "failure_streak") IsNumber :=
  history_yields typed _ _ fun _ stored => lookup_bind (Bool.and_eq_true_iff.mp stored).2

theorem historySteps_yields :
    Yields ((state.get .scheduling "routing_history").attr "stable_steps") IsNumber :=
  history_yields typed _ _ fun _ stored =>
    lookup_bind (Bool.and_eq_true_iff.mp (Bool.and_eq_true_iff.mp stored).1).2

theorem historyTier_yields :
    Yields ((state.get .scheduling "routing_history").attr "current_tier") IsText :=
  history_yields typed _ _ fun _ stored =>
    lookup_bind (Bool.and_eq_true_iff.mp
      (Bool.and_eq_true_iff.mp (Bool.and_eq_true_iff.mp stored).1).1).2

theorem historyModel_yields :
    Yields ((state.get .scheduling "routing_history").attr "current_model") fun _ => True :=
  history_yields typed _ _ fun _ stored => by
    obtain ⟨value, found⟩ := Option.isSome_iff_exists.mp (Bool.and_eq_true_iff.mp
      (Bool.and_eq_true_iff.mp (Bool.and_eq_true_iff.mp stored).1).1).1
    exact ⟨value, found, trivial⟩

theorem actions_yields :
    Yields (state.get .prediction "next_action_probabilities").toDict fun _ => True := by
  have stored : Kind.mapping.admits (state.get .prediction "next_action_probabilities") = true :=
    typed.admitted .prediction "next_action_probabilities"
  generalize state.get .prediction "next_action_probabilities" = value at stored
  cases value with
  | dict items => exact yields_ok trivial
  | _ => cases stored

theorem phase_ok : IsMember (state.get .lifecycle "phase") := by
  have stored : Kind.phase.admits (state.get .lifecycle "phase") = true :=
    typed.admitted .lifecycle "phase"
  generalize state.get .lifecycle "phase" = value at stored
  cases value with
  | enum kind member => exact ⟨member, rfl⟩
  | _ => cases stored

theorem budget_ok : IsOptionalNumber (state.get .qos "task_cost_budget") := by
  have stored : (_ || _) = true := typed.admitted .qos "task_cost_budget"
  rw [Bool.or_eq_true] at stored
  exact stored.imp_right isSome_number.mp

/-- The hot view of a typed state exists at every instant. -/
theorem buildSchedulingView_yields (text : Text) (now : Int) :
    Yields (buildSchedulingView text state now) TypedView := by
  unfold buildSchedulingView
  extract_lets history
  refine yields_bind (deadlineSeconds_yields typed now) fun deadline _ => ?_
  refine yields_bind (criticalStep_yields typed) fun critical _ => ?_
  refine yields_bind (urgency_yields typed text deadline critical) fun urgent _ => ?_
  refine yields_bind (deriveAvailability_yields typed now) fun availability _ => ?_
  refine yields_bind (add_doubles (typed.double rfl) (typed.double rfl)) fun cached counted => ?_
  refine yields_bind (maxOf_numbers (typed.number rfl) ?_) fun reusable _ => ?_
  · exact List.forall_mem_cons.mpr ⟨typed.number rfl, List.forall_mem_singleton.mpr counted⟩
  refine yields_bind (maxOf_numbers (isNumber_float 0) ?_) fun gap waits => ?_
  · refine List.forall_mem_cons.mpr ⟨typed.number rfl, ?_⟩
    exact List.forall_mem_cons.mpr ⟨typed.number rfl, List.forall_mem_singleton.mpr (typed.number rfl)⟩
  refine yields_bind (max_numbers (typed.number rfl) (typed.number rfl)) fun turn turns => ?_
  refine yields_bind (copySet_yields (fun _ => text_hashable) (capabilities typed)) fun names texts => ?_
  iterate 3 refine yields_bind (copySet_yields (fun _ => id) (allowed typed rfl)) fun _ _ => ?_
  iterate 3 refine yields_bind (clampValue_yields text (typed.double rfl)) fun _ _ => ?_
  refine yields_bind (max_doubles (typed.double rfl) (typed.double rfl)) fun severity severe => ?_
  refine yields_bind (clampValue_yields text severe) fun severity _ => ?_
  iterate 4 refine yields_bind (clampValue_yields text (typed.double rfl)) fun _ _ => ?_
  refine yields_bind (historyStreak_yields typed) fun streak counted => ?_
  refine yields_bind (max_numbers (typed.number rfl) counted) fun failures failed => ?_
  refine yields_bind (clampValue_yields text (typed.double rfl)) fun _ _ => ?_
  refine yields_bind (maxOf_numbers (isNumber_integer (typed.integer rfl)) ?_) fun prompt _ => ?_
  · exact List.forall_mem_cons.mpr ⟨typed.number rfl,
      List.forall_mem_singleton.mpr (isNumber_integer (typed.integer rfl))⟩
  refine yields_bind (max_numbers (typed.number rfl) (typed.number rfl)) fun output _ => ?_
  refine yields_bind (clampValue_yields text (typed.double rfl)) fun _ _ => ?_
  refine yields_bind (max_doubles (typed.double rfl) (typed.double rfl)) fun reuse reused => ?_
  refine yields_bind (clampValue_yields text reused) fun _ _ => ?_
  refine yields_bind (max_numbers (isNumber_int 0) (typed.number rfl)) fun rounds remaining => ?_
  refine yields_bind (actions_yields typed) fun actions _ => ?_
  refine yields_bind (historyModel_yields typed) fun model _ => ?_
  refine yields_bind (historyTier_yields typed) fun tier named => ?_
  refine yields_bind (historySteps_yields typed) fun steps stable => ?_
  refine yields_bind (max_numbers (isNumber_float 0) (typed.number rfl)) fun penalty penalised => ?_
  refine yields_bind (stateFreshness_yields typed now) fun _ _ => ?_
  exact yields_pure ⟨fun value member => Option.isSome_iff_exists.mp (texts value member),
    budget_ok typed, failed, typed.number rfl, phase_ok typed, remaining, waits, turns, penalised,
    named, stable, typed.admitted .identity "tenant_id"⟩

end View

/-- The view of a session exists in every typed store. -/
theorem getSchedulingView_yields {env : Environment} {store : Store} (typed : TypedStore store)
    (fresh : Fresh) (sessionId taskId : String) :
    Yields (getSchedulingView env fresh store sessionId taskId) TypedView :=
  buildSchedulingView_yields (stored_target (typed.states (sessionId, taskId))
    (newAgentState_typed fresh sessionId taskId rfl)) env.toText fresh.now

/-- This report raises after it stored the progress. -/
def halfReport : AgentStateEvent where
  eventType := "STATE_PATCH"
  sessionId := "session"
  observedAt := 0
  payload := [("lifecycle", .dict [("progress", .float (1 / 2))]),
    ("security", .dict [("allowed_models", .int 3)])]

theorem halfReport_typed : TypedEvent asciiEnvironment halfReport where
  expires := rfl
  identity := rfl
  patches part value found := by
    cases part <;> first | (cases found; rfl) | cases found
  inlined part listed := by
    rw [show halfReport.kind asciiEnvironment = .patch by decide +kernel] at listed
    cases listed
  capabilities _ value found := by cases found
  extensions _ value items found := by cases found
  marks _ value items found := by cases found

end StateFlow.State
