import StateFlow.Proof.Scheduler.Pipeline
import StateFlow.Proof.Scheduler.Policy

namespace StateFlow.Scheduler
open Python Table Effect State Selection

/-- A declared number is a boolean, an integer, or a float. -/
def IsNumber (value : Value) : Prop := ∃ amount, value.number? = some amount

/-- A declared count is an integer. -/
def IsInteger (value : Value) : Prop := ∃ count, integer value = .ok count

/-- A declared text is a string or a member of a text enumeration. -/
def IsText (value : Value) : Prop := ∃ text, value.text? = some text

/-- A declared phase is a member of an enumeration. -/
def IsMember (value : Value) : Prop := ∃ member, phaseText value = .ok member

instance : DecidablePred IsNumber := fun value =>
  decidable_of_iff (value.number?.isSome = true) Option.isSome_iff_exists

instance : DecidablePred IsText := fun value =>
  decidable_of_iff (value.text?.isSome = true) Option.isSome_iff_exists

/-- A result is decided by its constructor. -/
def decideOk {A : Type} (result : Except Exception A) : Decidable (∃ value, result = .ok value) :=
  match result with
  | .ok value => .isTrue ⟨value, rfl⟩
  | .error _ => .isFalse fun ⟨_, other⟩ => Except.noConfusion rfl rfl (heq_of_eq other)

instance : DecidablePred IsInteger := fun value => decideOk (integer value)

instance : DecidablePred IsMember := fun value => decideOk (phaseText value)

/-- An optional number is absent or a number. -/
def IsOptionalNumber (value : Value) : Prop := value.isNone = true ∨ IsNumber value

instance : DecidablePred IsOptionalNumber := fun value =>
  inferInstanceAs (Decidable (value.isNone = true ∨ IsNumber value))

/-- The attributes that the scheduler reads have their declared types. -/
structure WellTyped (view : HarnessSchedulingView) : Prop where
  promptTokens : IsInteger view.promptTokens
  predictedOutputTokens : IsInteger view.predictedOutputTokens
  requiredCapabilities : ∀ value ∈ view.requiredCapabilities, IsText value
  costBudget : IsOptionalNumber view.costBudget
  failureStreak : IsNumber view.failureStreak
  consecutiveFailures : IsNumber view.consecutiveFailures
  phase : IsMember view.phase
  remainingTurns : IsNumber view.predictedRemainingTurns
  nextModelCall : IsNumber view.predictedTimeUntilNextModelCallSeconds
  sessionTurn : IsNumber view.sessionTurn
  migrationPenalty : IsNumber view.migrationPenalty
  currentTier : IsText view.currentTier
  stableSteps : IsNumber view.stableSteps

theorem wellTyped_iff (view : HarnessSchedulingView) :
    (IsInteger view.promptTokens ∧ IsInteger view.predictedOutputTokens ∧
      (∀ value ∈ view.requiredCapabilities, IsText value) ∧ IsOptionalNumber view.costBudget ∧
      IsNumber view.failureStreak ∧ IsNumber view.consecutiveFailures ∧ IsMember view.phase ∧
      IsNumber view.predictedRemainingTurns ∧
      IsNumber view.predictedTimeUntilNextModelCallSeconds ∧ IsNumber view.sessionTurn ∧
      IsNumber view.migrationPenalty ∧ IsText view.currentTier ∧ IsNumber view.stableSteps) ↔
    WellTyped view := by
  constructor
  · rintro ⟨prompt, output, names, limit, streak, failures, phase, turns, gap, turn, penalty, tier,
      steps⟩
    exact ⟨prompt, output, names, limit, streak, failures, phase, turns, gap, turn, penalty, tier,
      steps⟩
  · rintro ⟨prompt, output, names, limit, streak, failures, phase, turns, gap, turn, penalty, tier,
      steps⟩
    exact ⟨prompt, output, names, limit, streak, failures, phase, turns, gap, turn, penalty, tier,
      steps⟩

instance : DecidablePred WellTyped := fun view => decidable_of_iff _ (wellTyped_iff view)

/-- What the scheduler reads from a view. -/
structure Reads where
  limits : RequestLimits
  risks : RiskSignals
  outlook : KvOutlook
  place : SessionPlace

structure ReadsOf (view : HarnessSchedulingView) (reads : Reads) : Prop where
  limits : Scheduler.limits view = .ok reads.limits
  risks : Scheduler.risks view = .ok reads.risks
  outlook : Scheduler.outlook view = .ok reads.outlook
  place : Scheduler.place view = .ok reads.place

theorem number_of_isNumber {value : Value} (numeric : IsNumber value) :
    ∃ amount, value.number = .ok amount := by
  obtain ⟨amount, known⟩ := numeric
  exact ⟨amount, by simp [Value.number, known]⟩

theorem mapM_capabilityText {values : List Value} (texts : ∀ value ∈ values, IsText value) :
    ∃ names, values.mapM capabilityText = .ok names := by
  induction values with
  | nil => exact ⟨[], rfl⟩
  | cons value rest ih =>
      obtain ⟨⟨name, known⟩, later⟩ := List.forall_mem_cons.mp texts
      obtain ⟨names, read⟩ := ih later
      have named : capabilityText value = .ok name := by simp only [capabilityText, known]
      exact ⟨name :: names, by rw [List.mapM_cons, named, read]; rfl⟩

theorem budget_of_typed {value : Value} (typed : IsOptionalNumber value) :
    ∃ limit, budget value = .ok limit := by
  rcases typed with absent | numeric
  · cases value <;> first | exact ⟨none, rfl⟩ | exact Bool.noConfusion absent
  · obtain ⟨amount, known⟩ := number_of_isNumber numeric
    unfold budget
    split
    · exact ⟨none, rfl⟩
    · exact ⟨some amount, by rw [known]; rfl⟩

/-- A well typed view can be read. -/
theorem WellTyped.reads {view : HarnessSchedulingView} (typed : WellTyped view) :
    ∃ reads, ReadsOf view reads := by
  obtain ⟨prompt, hasPrompt⟩ := typed.promptTokens
  obtain ⟨output, hasOutput⟩ := typed.predictedOutputTokens
  obtain ⟨names, hasNames⟩ := mapM_capabilityText typed.requiredCapabilities
  obtain ⟨limit, hasLimit⟩ := budget_of_typed typed.costBudget
  obtain ⟨streak, hasStreak⟩ := number_of_isNumber typed.failureStreak
  obtain ⟨failures, hasFailures⟩ := number_of_isNumber typed.consecutiveFailures
  obtain ⟨phase, hasPhase⟩ := typed.phase
  obtain ⟨turns, hasTurns⟩ := number_of_isNumber typed.remainingTurns
  obtain ⟨gap, hasGap⟩ := number_of_isNumber typed.nextModelCall
  obtain ⟨turn, hasTurn⟩ := number_of_isNumber typed.sessionTurn
  obtain ⟨penalty, hasPenalty⟩ := number_of_isNumber typed.migrationPenalty
  have limited : ∃ limits, Scheduler.limits view = .ok limits := by
    unfold Scheduler.limits
    rw [hasPrompt, hasOutput, hasNames, hasLimit]
    exact ⟨_, rfl⟩
  have risked : ∃ risks, Scheduler.risks view = .ok risks := by
    unfold Scheduler.risks
    rw [hasStreak, hasFailures, hasPhase]
    exact ⟨_, rfl⟩
  have foreseen : ∃ outlook, Scheduler.outlook view = .ok outlook := by
    unfold Scheduler.outlook
    rw [hasTurns, hasGap]
    exact ⟨_, rfl⟩
  have placed : ∃ place, Scheduler.place view = .ok place := by
    unfold Scheduler.place
    rw [hasTurn, hasPenalty]
    exact ⟨_, rfl⟩
  obtain ⟨limits, limited⟩ := limited
  obtain ⟨risks, risked⟩ := risked
  obtain ⟨outlook, foreseen⟩ := foreseen
  obtain ⟨place, placed⟩ := placed
  exact ⟨⟨limits, risks, outlook, place⟩, limited, risked, foreseen, placed⟩

section Place
variable {host : Host} {config : SchedulerConfig} {view : HarnessSchedulingView} {reads : Reads}
  {stages : Stages}

/-- A well typed view decides whether a tier is held. -/
theorem shouldHoldTier_ok (host : Host) (config : SchedulerConfig) (typed : WellTyped view)
    (selected : EvaluatedTarget) (pairs : List EvaluatedTarget) :
    ∃ held, shouldHoldTier host config view selected pairs = .ok held := by
  obtain ⟨tier, hasTier⟩ := typed.currentTier
  obtain ⟨steps, hasSteps⟩ := number_of_isNumber typed.stableSteps
  unfold shouldHoldTier
  split
  · exact ⟨false, rfl⟩
  · simp only [hasTier]
    split
    · rw [hasSteps]
      exact ⟨_, rfl⟩
    · exact ⟨false, rfl⟩

/-- The target that a placement takes, with the tier of the session held or not. -/
inductive Placed (host : Host) (config : SchedulerConfig) (view : HarnessSchedulingView)
    (place : SessionPlace) (overridden : Bool) (survivors : List EvaluatedTarget) :
    EvaluatedTarget → Prop
  | free (placement : PlacementResult) :
      choosePlacement place survivors = some placement →
      (overridden = true ∨
        shouldHoldTier host config view placement.chosen survivors = .ok false) →
      Placed host config view place overridden survivors placement.chosen
  | held (placement current : PlacementResult) :
      choosePlacement place survivors = some placement → overridden = false →
      shouldHoldTier host config view placement.chosen survivors = .ok true →
      choosePlacement place (survivors.filter fun item =>
        (Value.str item.target.modelId).eq view.currentModel) = some current →
      Placed host config view place overridden survivors current.chosen

/-- A held tier has a survivor of the current model. -/
theorem held_present {selected : EvaluatedTarget} {pairs : List EvaluatedTarget}
    (held : shouldHoldTier host config view selected pairs = .ok true) :
    pairs.filter (fun item => (Value.str item.target.modelId).eq view.currentModel) ≠ [] := by
  unfold shouldHoldTier at held
  split at held
  · cases held
  · split at held
    · cases held
    · split at held
      · obtain ⟨steps, _, finished⟩ := except_bind_ok held
        have both := Except.ok.inj finished
        rw [Bool.and_eq_true] at both
        obtain ⟨pair, member, current⟩ := List.any_eq_true.mp both.2
        exact List.ne_nil_of_mem (List.mem_filter.mpr ⟨member, current⟩)
      · cases held

theorem selectTarget_placed (typed : WellTyped view) (place : Scheduler.place view = .ok reads.place)
    (present : stages.timed ≠ []) :
    ∃ selected reason, selectTarget host config view stages = .ok (selected, reason) ∧
      selected ∈ stages.timed ∧
      Placed host config view reads.place stages.policy.override.active stages.timed selected := by
  obtain ⟨placement, chosen, member⟩ := choosePlacement_some reads.place present
  obtain ⟨hold, decided⟩ := shouldHoldTier_ok host config typed placement.chosen stages.timed
  simp only [selectTarget, place, chosen, bind, Except.bind, pure, Except.pure]
  cases active : stages.policy.override.active with
  | true => exact ⟨_, _, rfl, member, .free placement chosen (Or.inl rfl)⟩
  | false =>
      simp only [decided, Bool.false_eq_true, if_false]
      cases hold with
      | false => exact ⟨_, _, rfl, member, .free placement chosen (Or.inr decided)⟩
      | true =>
          obtain ⟨current, found, inside⟩ :=
            choosePlacement_some reads.place (held_present decided)
          simp only [if_true, found]
          exact ⟨_, _, rfl, (List.mem_filter.mp inside).1,
            .held placement current chosen rfl decided found⟩

end Place

section Schedule
variable (host : Host) (config : SchedulerConfig) (predictor : SuccessPredictor)
  (view : HarnessSchedulingView) (targets : List TargetCandidate) (reads : Reads)

/-- The targets that pass the hard filter. -/
def eligibleTargets : List TargetCandidate := targets.filter (passesFilter reads.limits)

/-- No target passes the filter, or the budget rules out every target that may succeed. -/
def Infeasible : Prop :=
  targets = [] ∨ (∀ target ∈ targets, passesFilter reads.limits target = false) ∨
  ∃ policy, choosePolicy host config (predictor view) reads.risks (eligibleTargets targets reads) =
      .ok policy ∧
    ∀ target ∈ policy.targets, SucceedsAt config policy target →
      ¬ WithinBudget host config reads.limits reads.outlook policy target

/-- An override has to read a capability rank that does not convert to an integer. -/
def RankFails : Prop :=
  Overridden config (predictor view) reads.risks (eligibleTargets targets reads) ∧
    ∃ target ∈ eligibleTargets targets reads, ∃ exception, isCapable host target = .error exception

/-- A decision selects a target that passes each stage. -/
structure Selects (decision : RoutingDecision) (policy : Policy) (survivors : List EvaluatedTarget)
    (selected : EvaluatedTarget) : Prop where
  chosen : choosePolicy host config (predictor view) reads.risks (eligibleTargets targets reads) =
    .ok policy
  key : decision.selectedKey = selected.target.key
  listed : selected.target ∈ targets
  passes : passesFilter reads.limits selected.target = true
  capable : Overridden config (predictor view) reads.risks (eligibleTargets targets reads) →
    (∃ target ∈ eligibleTargets targets reads, isCapable host target = .ok true) →
    isCapable host selected.target = .ok true
  surviving : Survivors host config reads.limits reads.outlook view.criticalPathUrgency policy
    survivors
  survives : CostSurvivor host config reads.limits reads.outlook policy selected.target
  overridden : policy.override.active = true ↔
    Overridden config (predictor view) reads.risks (eligibleTargets targets reads)
  placed : Placed host config view reads.place policy.override.active survivors selected

end Schedule

section Outcome
variable {host : Host} {config : SchedulerConfig} {predictor : SuccessPredictor}
  {stamp : DecisionStamp} {view : HarnessSchedulingView} {targets : List TargetCandidate}
  {reads : Reads}

theorem eligibleTargets_nil_iff : eligibleTargets targets reads = [] ↔
    ∀ target ∈ targets, passesFilter reads.limits target = false := by
  unfold eligibleTargets
  rw [List.filter_eq_nil_iff]
  exact forall₂_congr fun _ _ => by rw [Bool.not_eq_true]

/-- The gates of a chosen policy are empty exactly when the budget rules out its targets. -/
theorem budgeted_nil_iff (host : Host) (reads : Reads) (urgency : ℚ) (policy : Policy)
    (tolerant : 0 ≤ config.epsilonSuccess) :
    (gateStages host config reads.limits reads.outlook urgency policy).budgeted = [] ↔
      ∀ target ∈ policy.targets, SucceedsAt config policy target →
        ¬ WithinBudget host config reads.limits reads.outlook policy target := by
  have passed : Passed host config reads.limits reads.outlook urgency policy
    (gateStages host config reads.limits reads.outlook urgency policy) := gateStages_passed
  constructor
  · intro empty target listed succeeds within
    have inside := (passed.mem_budgeted tolerant).mpr ⟨listed, succeeds, within⟩
    rw [empty] at inside
    cases inside
  · intro costly
    apply List.eq_nil_iff_forall_not_mem.mpr
    intro item member
    obtain ⟨listed, succeeds, within⟩ :=
      (passed.mem_budgeted tolerant).mp (List.mem_map_of_mem member)
    exact costly item.target listed succeeds within

/-- A placement among the survivors of a policy meets every condition of a selection. -/
theorem selects_of_passed (stamp : DecisionStamp) {policy : Policy} {stages : Stages} (typed : WellTyped view)
    (read : ReadsOf view reads) (distinct : (targets.map TargetCandidate.key).Nodup)
    (tolerant : 0 ≤ config.epsilonSuccess) (frugal : 0 ≤ config.epsilonCost)
    (chosen : choosePolicy host config (predictor view) reads.risks (eligibleTargets targets reads) =
      .ok policy)
    (passed : Passed host config reads.limits reads.outlook view.criticalPathUrgency policy stages)
    (present : stages.budgeted ≠ []) :
    ∃ selected reason, selectTarget host config view stages = .ok (selected, reason) ∧
      ∀ candidates overrideReasons fallback,
        Selects host config predictor view targets reads (buildRoutingDecision config stamp view
          selected candidates reason overrideReasons fallback) policy stages.timed selected := by
  have facts := choosePolicy_ok chosen
  have inside : policy.targets.Sublist targets := facts.sublist.trans List.filter_sublist
  have surviving := passed.survivors present ((inside.map TargetCandidate.key).nodup distinct)
    tolerant frugal
  obtain ⟨selected, reason, placed, member, location⟩ :=
    selectTarget_placed typed read.place surviving.present
  have survives := (surviving.mem_iff selected.target).mp (List.mem_map_of_mem member)
  have eligible := facts.sublist.subset survives.affordable.listed
  rw [passed.kept] at location
  refine ⟨selected, reason, placed, fun candidates overrideReasons fallback => ?_⟩
  constructor
  · exact chosen
  · exact surviving.key selected member
  · exact (List.mem_filter.mp eligible).1
  · exact (List.mem_filter.mp eligible).2
  · intro overridden able
    exact (facts.restricts (facts.active.mpr overridden)).capable able selected.target
      survives.affordable.listed
  · exact surviving
  · exact survives
  · exact facts.active
  · exact location

/-- The three outcomes of a schedule exclude each other. -/
inductive ScheduleOutcome (host : Host) (config : SchedulerConfig) (predictor : SuccessPredictor)
    (view : HarnessSchedulingView) (targets : List TargetCandidate) (reads : Reads) :
    Except ScheduleError RoutingDecision → Prop
  | infeasible (message : String) (rejections : List FilterRejection) :
      Infeasible host config predictor view targets reads →
      ¬ RankFails host config predictor view targets reads →
      ScheduleOutcome host config predictor view targets reads
        (.error (.noFeasibleTarget message rejections))
  | raised (exception : Exception) :
      RankFails host config predictor view targets reads →
      ¬ Infeasible host config predictor view targets reads →
      ScheduleOutcome host config predictor view targets reads (.error (.raised exception))
  | chosen (decision : RoutingDecision) (policy : Policy) (survivors : List EvaluatedTarget)
      (selected : EvaluatedTarget) :
      Selects host config predictor view targets reads decision policy survivors selected →
      ¬ Infeasible host config predictor view targets reads →
      ¬ RankFails host config predictor view targets reads →
      ScheduleOutcome host config predictor view targets reads (.ok decision)

theorem schedule_scheduleOutcome (typed : WellTyped view) (read : ReadsOf view reads)
    (distinct : (targets.map TargetCandidate.key).Nodup)
    (tolerant : 0 ≤ config.epsilonSuccess) (frugal : 0 ≤ config.epsilonCost) :
    ScheduleOutcome host config predictor view targets reads
      (schedule host config predictor stamp view targets) := by
  unfold schedule
  by_cases none : targets.isEmpty = true
  · have empty := List.isEmpty_iff.mp none
    rw [if_pos none]
    refine .infeasible _ _ (Or.inl empty) ?_
    rintro ⟨_, target, member, _⟩
    rw [empty] at member
    cases member
  · rw [if_neg none]
    simp only [read.limits, raising, bind, Except.bind]
    by_cases failed : (filterTargets reads.limits targets).eligible.isEmpty = true
    · have empty : eligibleTargets targets reads = [] := List.isEmpty_iff.mp failed
      rw [if_pos failed]
      refine .infeasible _ _ (Or.inr (Or.inl (eligibleTargets_nil_iff.mp empty))) ?_
      rintro ⟨_, target, member, _⟩
      rw [empty] at member
      cases member
    · have feasible : eligibleTargets targets reads ≠ [] :=
        fun empty => failed (List.isEmpty_iff.mpr empty)
      rw [if_neg failed]
      simp only [read.risks]
      cases chosen : choosePolicy host config (predictor view) reads.risks
          (filterTargets reads.limits targets).eligible with
      | error exception =>
          refine .raised exception (choosePolicy_error.mp ⟨exception, chosen⟩) ?_
          rintro (empty | rejected | ⟨policy, other, _⟩)
          · exact none (List.isEmpty_iff.mpr empty)
          · exact feasible (eligibleTargets_nil_iff.mpr rejected)
          · cases chosen.symm.trans other
      | ok policy =>
          have readable : ¬ RankFails host config predictor view targets reads := by
            intro fails
            obtain ⟨exception, raised⟩ := choosePolicy_error.mpr fails
            cases chosen.symm.trans raised
          have budgeted := budgeted_nil_iff host reads view.criticalPathUrgency policy tolerant
          simp only [read.outlook]
          rcases runGates_cases host config reads.limits reads.outlook view.criticalPathUrgency policy
            with ⟨ran, present⟩ | ⟨⟨message, rejections, ran⟩, empty⟩
          · obtain ⟨selected, reason, placed, selects⟩ := selects_of_passed stamp typed read distinct
              tolerant frugal chosen gateStages_passed present
            have possible : ¬ Infeasible host config predictor view targets reads := by
              rintro (empty | rejected | ⟨other, same, costly⟩)
              · exact none (List.isEmpty_iff.mpr empty)
              · exact feasible (eligibleTargets_nil_iff.mpr rejected)
              · cases chosen.symm.trans same
                exact present (budgeted.mpr costly)
            rw [ran]
            simp only [placed]
            exact .chosen _ policy _ selected (selects _ _ _) possible readable
          · rw [ran]
            exact .infeasible message rejections
              (Or.inr (Or.inr ⟨policy, chosen, budgeted.mp empty⟩)) readable

end Outcome

/-- A target of the default tier. Its rank is a text. -/
def rankedTarget (rank : Value) : TargetCandidate :=
  { modelId := "model", endpointId := "endpoint", replicaId := "replica"
    metadata := [("capability_rank", rank)] }

theorem emptyView_wellTyped : ∃ view, emptyView = .ok view ∧ WellTyped view := by
  have checked : (match emptyView with
      | .ok view => decide (WellTyped view)
      | .error _ => false) = true := by decide +kernel
  split at checked
  · exact ⟨_, ‹_›, of_decide_eq_true checked⟩
  · cases checked

/-- The view of a session with a value in every section. -/
def visibleView : Except Exception HarnessSchedulingView := buildSchedulingView asciiText visibleState 0

/-- Two replicas of a model, a capable replica, and an unavailable one. -/
def offeredTargets : List TargetCandidate :=
  [rankedTarget (.int 2), { rankedTarget (.str " 3 ") with replicaId := "other", queueLatencySeconds := 1 },
    { modelId := "large", endpointId := "endpoint", replicaId := "large", tier := "capable" },
    { modelId := "small", endpointId := "endpoint", replicaId := "small", tier := "efficient"
      available := false }]

theorem visibleView_wellTyped : ∃ view, visibleView = .ok view ∧ WellTyped view := by
  have checked : (match visibleView with
      | .ok view => decide (WellTyped view)
      | .error _ => false) = true := by decide +kernel
  split at checked
  · exact ⟨_, ‹_›, of_decide_eq_true checked⟩
  · cases checked

/-- The rank of a target raises for a view that was built. -/
def raisesOnRank : Except Exception HarnessSchedulingView → Bool
  | .ok view =>
      match schedule asciiHost {} evenPredictor ⟨"decision", 0⟩ view
        [rankedTarget (.str "high")] with
      | .error (.raised .valueError) => true
      | _ => false
  | .error _ => false

end StateFlow.Scheduler
