import StateFlow.Construction.Scheduler.Loop
import StateFlow.Proof.Scheduler.Selection
import StateFlow.Proof.Scheduler.Versions
import StateFlow.Proof.State.Updates

namespace StateFlow.Scheduler
open Python Table Effect State Selection

section View

/-- A view carries the routing history and the name of its state. -/
structure Shows (state : AgentState) (view : HarnessSchedulingView) : Prop where
  model : ∃ model, (state.get .scheduling "routing_history").attr "current_model" = .ok model ∧
    view.currentModel = model.orElse (state.get .model "selected_model")
  tier : (state.get .scheduling "routing_history").attr "current_tier" = .ok view.currentTier
  steps : (state.get .scheduling "routing_history").attr "stable_steps" = .ok view.stableSteps
  session : view.sessionId = state.get .header "session_id"
  task : view.taskId = state.get .header "task_id"

theorem buildSchedulingView_shows {text : Text} {state : AgentState} {now : Int}
    {view : HarnessSchedulingView} (built : buildSchedulingView text state now = .ok view) :
    Shows state view := by
  unfold buildSchedulingView at built
  dsimp only at built
  -- The reads before the current model do not concern the history.
  iterate 31 obtain ⟨_, _, built⟩ := except_bind_ok built
  obtain ⟨model, readModel, built⟩ := except_bind_ok built
  obtain ⟨tier, readTier, built⟩ := except_bind_ok built
  obtain ⟨steps, readSteps, built⟩ := except_bind_ok built
  iterate 2 obtain ⟨_, _, built⟩ := except_bind_ok built
  cases built
  exact ⟨⟨model, readModel, rfl⟩, readTier, readSteps, rfl, rfl⟩

end View

section Record

/-- The routing history counts the decisions of its current tier. -/
structure HistoryIs (tier model : String) (steps : Int) (value : Value) : Prop where
  tier : value.attr "current_tier" = .ok (.str tier)
  model : value.attr "current_model" = .ok (.str model)
  steps : value.attr "stable_steps" = .ok (.int steps)

variable {tier model next : String} {steps : Int}

/-- The routing history of a state. -/
abbrev historyOf (state : AgentState) : Value := state.get .scheduling "routing_history"

/-- A write to the history turns one description of it into another one. -/
theorem writeHistory_ensures {pre post : Value → Prop} {name : String} {value : Value}
    (changes : ∀ before after, pre before → before.setAttr name value = .ok after → post after) :
    Ensures (fun state => pre (historyOf state)) (writeHistory name value)
      fun _ state => post (historyOf state) := by
  intro state done last start returned
  obtain ⟨before, _, readIt, continued⟩ := bind_ok returned
  cases readIt
  obtain ⟨after, _, assigned, wrote⟩ := bind_ok continued
  obtain ⟨assigned, rfl⟩ := lift_ok assigned
  cases wrote
  simp only [historyOf, AgentState.get_set_same]
  exact changes _ _ start assigned

theorem historyIs_other {before after value : Value} {name : String}
    (holds : HistoryIs tier model steps before) (assigned : before.setAttr name value = .ok after)
    (noTier : name ≠ "current_tier") (noModel : name ≠ "current_model")
    (noSteps : name ≠ "stable_steps") : HistoryIs tier model steps after := by
  have reads := attr_setAttr assigned
  constructor
  · rw [reads, if_neg noTier.symm, holds.tier]
  · rw [reads, if_neg noModel.symm, holds.model]
  · rw [reads, if_neg noSteps.symm, holds.steps]

theorem writeHistory_other {name : String} {value : Value} (noTier : name ≠ "current_tier")
    (noModel : name ≠ "current_model") (noSteps : name ≠ "stable_steps") :
    Ensures (fun state => HistoryIs tier model steps (historyOf state)) (writeHistory name value)
      fun _ state => HistoryIs tier model steps (historyOf state) :=
  writeHistory_ensures fun _ _ holds assigned =>
    historyIs_other holds assigned noTier noModel noSteps

theorem writeHistory_tier (next : String) :
    Ensures (fun state => HistoryIs tier model steps (historyOf state))
      (writeHistory "current_tier" (.str next))
      fun _ state => HistoryIs next model steps (historyOf state) := by
  refine writeHistory_ensures fun before after holds assigned => ?_
  have reads := attr_setAttr assigned
  constructor
  · rw [reads, if_pos rfl]
  · rw [reads, if_neg (by decide), holds.model]
  · rw [reads, if_neg (by decide), holds.steps]

theorem writeHistory_model (next : String) :
    Ensures (fun state => HistoryIs tier model steps (historyOf state))
      (writeHistory "current_model" (.str next))
      fun _ state => HistoryIs tier next steps (historyOf state) := by
  refine writeHistory_ensures fun before after holds assigned => ?_
  have reads := attr_setAttr assigned
  constructor
  · rw [reads, if_neg (by decide), holds.tier]
  · rw [reads, if_pos rfl]
  · rw [reads, if_neg (by decide), holds.steps]

theorem writeHistory_steps (count : Int) :
    Ensures (fun state => HistoryIs tier model steps (historyOf state))
      (writeHistory "stable_steps" (.int count))
      fun _ state => HistoryIs tier model count (historyOf state) := by
  refine writeHistory_ensures fun before after holds assigned => ?_
  have reads := attr_setAttr assigned
  constructor
  · rw [reads, if_neg (by decide), holds.tier]
  · rw [reads, if_neg (by decide), holds.model]
  · rw [reads, if_pos rfl]

/-- A read of the history answers with its attribute. -/
theorem readHistory_ensures {pre : Value → Prop} (name : String) :
    Ensures (fun state => pre (historyOf state)) (readHistory name)
      fun value state => pre (historyOf state) ∧ (historyOf state).attr name = .ok value := by
  intro state value last start returned
  obtain ⟨before, _, readIt, continued⟩ := bind_ok returned
  cases readIt
  obtain ⟨known, rfl⟩ := lift_ok continued
  exact ⟨start, known⟩

/-- A decision for the current tier adds a stable step. Another tier starts at one. -/
theorem followTier_ensures {decision : RoutingDecision} (chosen : selectedTier decision = some next) :
    Ensures (fun state => HistoryIs tier model steps (historyOf state)) (followTier decision)
      fun _ state => HistoryIs next model (if tier = next then steps + 1 else 1)
        (historyOf state) := by
  have texts : (Value.str tier).eq (.str next) = (tier == next) := rfl
  obtain ⟨item, found, named⟩ := Option.map_eq_some_iff.mp chosen
  unfold followTier
  refine ensures_bind (readHistory_ensures "current_tier") fun previous => ?_
  have same : ∀ state, HistoryIs tier model steps (historyOf state) ∧
      (historyOf state).attr "current_tier" = .ok previous → previous = .str tier :=
    fun state start => Except.ok.inj (start.2.symm.trans start.1.tier)
  refine ensures_known same fun known => ?_
  subst known
  refine Ensures.of_imp ?_ fun state start => start.1
  simp only [found, texts, named]
  split
  · rename_i equal
    have stays : tier = next := beq_iff_eq.mp equal
    rw [if_pos stays]
    refine ensures_bind (readHistory_ensures "stable_steps") fun count => ?_
    have counted : ∀ state, HistoryIs tier model steps (historyOf state) ∧
        (historyOf state).attr "stable_steps" = .ok count → count = .int steps :=
      fun state start => Except.ok.inj (start.2.symm.trans start.1.steps)
    refine ensures_known counted fun known => ?_
    subst known
    refine Ensures.of_imp ?_ fun state start => start.1
    rw [Value.add_int]
    exact ensures_seq (writeHistory_steps (steps + 1)) (writeHistory_tier next)
  · rename_i different
    have changes : ¬ tier = next := fun stays => different (beq_iff_eq.mpr stays)
    rw [if_neg changes]
    refine ensures_seq (writeHistory_steps 1) ?_
    refine ensures_seq (writeHistory_other (by decide) (by decide) (by decide)) ?_
    refine ensures_seq (writeHistory_other (by decide) (by decide) (by decide)) ?_
    split
    · refine ensures_bind (readHistory_ensures "escalation_count") fun count => ?_
      refine Ensures.of_imp ?_ fun state start => start.1
      refine ensures_bind (within_lift _).ensures fun _ => ?_
      exact ensures_seq (writeHistory_other (by decide) (by decide) (by decide))
        (writeHistory_tier next)
    · exact writeHistory_tier next

/-- These updates keep the routing history. -/
abbrev keepsHistory : Frame AgentState := Frame.fixes historyOf

theorem write_keepsHistory {part : Section} {name : String} (value : Value)
    (other : part ≠ .scheduling ∨ name ≠ "routing_history") :
    Within keepsHistory (write part name value) := by
  refine within_write (fun state value => ?_) value
  rw [historyOf, AgentState.get_set, if_neg]
  rintro ⟨rfl, rfl⟩
  exact other.elim (fun apart => apart rfl) fun apart => apart rfl

/-- A computation that keeps the history keeps what it says. -/
theorem keeps_history {A : Type} {program : Update A} {pre : Value → Prop}
    (kept : Within keepsHistory program) :
    Ensures (fun state => pre (historyOf state)) program fun _ state => pre (historyOf state) := by
  intro state value last start returned
  rw [kept.fixed returned]
  exact start

theorem applyRoutingDecision_ensures {view : HarnessSchedulingView} {decision : RoutingDecision}
    (chosen : selectedTier decision = some next) :
    Ensures (fun state => HistoryIs tier model steps (historyOf state))
      (applyRoutingDecision view decision)
      fun _ state => HistoryIs next decision.selectedModel (if tier = next then steps + 1 else 1)
        (historyOf state) := by
  have writes {tier model : String} {steps : Int} {part : Section} {name : String} {value : Value}
      (other : part ≠ .scheduling ∨ name ≠ "routing_history") :
      Ensures (fun state => HistoryIs tier model steps (historyOf state)) (write part name value)
        fun _ state => HistoryIs tier model steps (historyOf state) :=
    keeps_history (write_keepsHistory value other)
  unfold applyRoutingDecision
  iterate 3 refine ensures_seq (writes (Or.inl (by decide))) ?_
  iterate 2 refine ensures_seq (writes (Or.inr (by decide))) ?_
  refine ensures_seq (writeHistory_model decision.selectedModel) ?_
  iterate 2 refine ensures_seq (writeHistory_other (by decide) (by decide) (by decide)) ?_
  refine ensures_seq (followTier_ensures chosen) ?_
  refine ensures_seq (writeHistory_other (by decide) (by decide) (by decide)) ?_
  refine ensures_bind (keeps_history (within_read _ _)) fun decisions => ?_
  refine ensures_bind (keeps_history (within_lift _)) fun _ => ?_
  refine ensures_seq (writes (Or.inr (by decide))) ?_
  refine ensures_bind (keeps_history (within_read _ _)) fun sequence => ?_
  exact ensures_bind (keeps_history (within_lift _)) fun _ => writes (Or.inl (by decide))

theorem stampDecision_keepsHistory (decision : RoutingDecision) :
    Within keepsHistory (stampDecision decision) :=
  stampDecision_within (fun _ _ value => write_keepsHistory value (Or.inl (by decide))) decision

theorem newAgentState_history (fresh : Fresh) (sessionId taskId : String) (tenantId : Value) :
    historyOf (newAgentState fresh sessionId taskId tenantId) = routingHistory := by
  unfold historyOf
  simp only [newAgentState]
  repeat rw [AgentState.get_set, if_neg (by decide)]
  rfl

/-- The state that a view or a decision of a session starts from has its history. -/
theorem history_target (fresh : Fresh) (store : Store) (key : StateKey) (tenantId : Value) :
    historyOf ((store.states key).getD (newAgentState fresh key.1 key.2 tenantId)) =
      history store key := by
  unfold history
  cases store.states key with
  | none => exact newAgentState_history fresh key.1 key.2 tenantId
  | some state => rfl

/-- A recorded decision continues the history of its session. -/
theorem recordRoutingDecision_history {fresh : Fresh} {view : HarnessSchedulingView}
    {decision : RoutingDecision} {store after : Store} {key : StateKey}
    (named : viewKey view = some key) (holds : HistoryIs tier model steps (history store key))
    (chosen : selectedTier decision = some next)
    (ran : recordRoutingDecision fresh view decision store = .ok () after) :
    HistoryIs next decision.selectedModel (if tier = next then steps + 1 else 1)
      (history after key) := by
  rcases recordRoutingDecision_ran ran with
    ⟨unnamed, _⟩ | ⟨other, middle, state, isNamed, decided, stamped, rfl⟩
  · rw [named] at unnamed
    cases unnamed
  · cases named.symm.trans isNamed
    have found : (store.decide key middle.order state).states key = some state :=
      Function.update_self _ _ _
    have after : history (store.decide key middle.order state) key = historyOf middle := by
      rw [history, found]
      exact (stampDecision_keepsHistory decision).fixed stamped
    rw [after]
    rw [← history_target fresh store key view.tenantId] at holds
    exact applyRoutingDecision_ensures chosen _ _ _ holds decided

end Record

section Stable
variable {recorded : Recorded} {tier model : String}

/-- The window of a decision continues the one before it or starts anew. -/
theorem stable_cons : Recorded.stable ((tier, model) :: recorded) =
    if recorded.tier = tier then recorded.stable + 1 else 1 := by
  have head : Recorded.tier ((tier, model) :: recorded) = tier := rfl
  unfold Recorded.stable
  rw [head, List.map_cons, List.takeWhile_cons_of_pos (by simp), List.length_cons]
  cases recorded with
  | nil => simp [Recorded.tier]
  | cons last rest =>
      have latest : Recorded.tier (last :: rest) = last.1 := rfl
      rw [latest]
      split
      · rename_i same
        rw [same]
      · rename_i different
        rw [List.map_cons, List.takeWhile_cons_of_neg (by simpa using different)]
        rfl

end Stable

section Names
variable {key : StateKey} {store next : Store}

/-- The names in a header. -/
abbrev namesOf (state : AgentState) : Value × Value :=
  (state.get .header "session_id", state.get .header "task_id")

theorem write_keepsNames {part : Section} {name : String} (value : Value)
    (other : part ≠ .header ∨ name ≠ "session_id" ∧ name ≠ "task_id") :
    Within (Frame.fixes namesOf) (write part name value) := by
  refine within_write (fun state value => ?_) value
  rw [namesOf, AgentState.get_set, AgentState.get_set, if_neg, if_neg]
  · rintro ⟨rfl, rfl⟩
    exact other.elim (fun apart => apart rfl) fun apart => apart.2 rfl
  · rintro ⟨rfl, rfl⟩
    exact other.elim (fun apart => apart rfl) fun apart => apart.1 rfl

/-- A stored or a new state of a session carries its names. -/
theorem names_target (named : Named store key) (fresh : Fresh) (tenantId : Value) :
    namesOf ((store.states key).getD (newAgentState fresh key.1 key.2 tenantId)) =
      (.str key.1, .str key.2) := by
  apply @stored_target fun state => namesOf state = (.str key.1, .str key.2)
  · exact fun state found => Prod.ext (named state found).1 (named state found).2
  · simp only [namesOf, newAgentState]
    repeat rw [AgentState.get_set, if_neg (by decide)]
    rw [AgentState.get_set_same, AgentState.get_set, if_neg (by decide), AgentState.get_set,
      if_neg (by decide), AgentState.get_set, if_neg (by decide), AgentState.get_set_same]

/-- A recorded decision keeps the names of every session. -/
theorem recordRoutingDecision_named {fresh : Fresh} {view : HarnessSchedulingView}
    {decision : RoutingDecision} (named : Named store key)
    (ran : recordRoutingDecision fresh view decision store = .ok () next) : Named next key := by
  rcases recordRoutingDecision_ran ran with
    ⟨_, rfl⟩ | ⟨other, middle, state, _, decided, stamped, rfl⟩
  · exact named
  · intro reached found
    have states : (store.decide other middle.order state).states key =
        if key = other then some state else store.states key := Function.update_apply _ _ _ _
    rw [states] at found
    split at found
    · rename_i same
      subst same
      cases found
      have decides : namesOf middle = (.str key.1, .str key.2) := by
        refine Eq.trans (Within.fixed ?_ decided) (names_target named fresh view.tenantId)
        refine applyRoutingDecision_within (fun part name value apart => ?_) view decision
        refine write_keepsNames value ?_
        rcases apart with listed | ⟨_, rfl⟩
        · refine Or.inl ?_
          rintro rfl
          exact absurd listed (by decide)
        · exact Or.inr (by decide)
      have stamps : namesOf state = namesOf middle := by
        refine Within.fixed ?_ stamped
        refine stampDecision_within (fun name listed value => write_keepsNames value ?_) decision
        refine Or.inr ⟨?_, ?_⟩
        · rintro rfl
          exact absurd listed (by decide)
        · rintro rfl
          exact absurd listed (by decide)
      exact Prod.ext_iff.mp (stamps.trans decides)
    · exact named reached found

end Names

section Loop
variable {env : Environment} {host : Host} {key : StateKey}
  {allowed : List TargetCandidate → Recorded → Prop} {recorded : Recorded} {store : Store}
  {round : Round} {view : HarnessSchedulingView} {decision : RoutingDecision} {tier : String}

/-- The view of a round shows the state of its session. -/
theorem Decides.shows (decides : Decides env host key round store view decision tier) :
    Shows ((store.states key).getD (newAgentState round.seen key.1 key.2 (.str "default"))) view ∧
      Scheduler.schedule host round.config round.predictor round.stamp view round.targets =
        .ok decision := by
  obtain ⟨seen, built, scheduling⟩ := except_bind_ok decides.scheduled
  obtain ⟨made, scheduled, finished⟩ := except_bind_ok scheduling
  cases finished
  exact ⟨buildSchedulingView_shows (raising_ok built), scheduled⟩

/-- A round writes to the session that it was scheduled for. -/
theorem Decides.session (decides : Decides env host key round store view decision tier)
    (named : Named store key) : viewKey view = some key := by
  obtain ⟨shows, _⟩ := decides.shows
  have names := Prod.ext_iff.mp (names_target named round.seen (.str "default"))
  have session : view.sessionId = .str key.1 := shows.session.trans names.1
  have task : view.taskId = .str key.2 := shows.task.trans names.2
  unfold viewKey
  rw [session, task]

/-- The history of a session describes the recorded decisions. -/
theorem loop_history (reached : ClosedLoop env host key allowed recorded store) :
    HistoryIs recorded.tier recorded.model recorded.stable (history store key) ∧
      Named store key := by
  induction reached with
  | start fresh named =>
      rw [fresh]
      exact ⟨⟨rfl, rfl, rfl⟩, named⟩
  | work _ kept named ih =>
      rw [kept]
      exact ⟨ih.1, named⟩
  | decide _ decides _ written ih =>
      refine ⟨?_, recordRoutingDecision_named ih.2 written⟩
      have continued := recordRoutingDecision_history (decides.session ih.2) ih.1 decides.tier written
      rw [stable_cons]
      split
      · rename_i same
        rw [if_pos same] at continued
        exact_mod_cast continued
      · rename_i different
        rw [if_neg different] at continued
        exact_mod_cast continued

/-- A returned placement is free or held. -/
theorem placed_of_selectTarget {config : SchedulerConfig} {stages : Stages}
    {selected : EvaluatedTarget} {reason : DecisionReason}
    (returned : selectTarget host config view stages = .ok (selected, reason)) :
    ∃ place, Placed host config view place stages.policy.override.active stages.timed selected := by
  unfold selectTarget at returned
  obtain ⟨place, _, choosing⟩ := except_bind_ok returned
  refine ⟨place, ?_⟩
  split at choosing
  · cases choosing
  · rename_i placement chosen
    split at choosing
    · rename_i active
      cases choosing
      exact .free placement chosen (Or.inl active)
    · rename_i inactive
      obtain ⟨hold, decided, holding⟩ := except_bind_ok choosing
      cases hold with
      | false =>
          cases holding
          exact .free placement chosen (Or.inr decided)
      | true =>
          simp only [if_true] at holding
          split at holding
          · rename_i current found
            cases holding
            exact .held placement current chosen (by simpa using inactive) decided found
          · rename_i missing
            obtain ⟨other, found, _⟩ := choosePlacement_some place (held_present decided)
            cases missing.symm.trans found

/-- A policy without reasons has no override. -/
theorem inactive_of_reasons {config : SchedulerConfig}
    {estimate : TargetCandidate → Except String SuccessEstimate} {risks : RiskSignals}
    {eligible : List TargetCandidate} {policy : Policy}
    (chosen : choosePolicy host config estimate risks eligible = .ok policy)
    (none : policy.override.reasons = []) : policy.override.active = false := by
  rw [choosePolicy_reasons chosen, none]
  rfl

/-- The selected candidate of a decision is the evaluated selection. -/
theorem selectedTier_eq {config : SchedulerConfig} {predictor : SuccessPredictor}
    {stamp : DecisionStamp} {targets : List TargetCandidate} {limits : RequestLimits}
    {risks : RiskSignals} {outlook : KvOutlook} {policy : Policy} {stages : Stages}
    {selected : EvaluatedTarget} {reason : DecisionReason} {overrideReasons : List String}
    {fallback : Bool} (facts : Scheduled host config predictor view targets limits risks outlook
      policy stages selected reason)
    (distinct : (targets.map TargetCandidate.key).Nodup) :
    selectedTier (buildRoutingDecision config stamp view selected
      (targets.map (traceEntry stages.evaluated (filterTargets limits targets).rejected
        (markSelected selected (latestEvaluation stages.versions)))) reason overrideReasons
          fallback) = some selected.target.tier := by
  have member := selectTarget_mem facts.placed
  obtain ⟨inside, only, sole⟩ := facts.sole distinct
  obtain ⟨_, own, _⟩ := facts.passed.selected_only member inside sole
  obtain ⟨traced, _, tier, _⟩ := facts.passed.traceEntry_only member inside sole
    (filterTargets limits targets).rejected
  have found : targets.find? (fun target => target.key = selected.key) = some only := by
    rw [← List.head?_filter]
    exact congrArg List.head? sole
  have entry : (targets.map (traceEntry stages.evaluated (filterTargets limits targets).rejected
      (markSelected selected (latestEvaluation stages.versions)))).find?
        (fun item => item.key = selected.evaluation.key) =
      some { selected.evaluation with selected := true } := by
    rw [List.find?_map, ← traced]
    refine (congrArg (Option.map _) ?_).trans (congrArg (Option.map _) found)
    congr 1
    funext target
    simp only [Function.comp_apply, facts.passed.traceEntry_key]
    rfl
  unfold selectedTier
  refine (congrArg (Option.map CandidateEvaluation.tier) entry).trans ?_
  rw [own]
  exact congrArg some tier

/-- No replica of a model survives the gates of a decision. -/
def NoSurvivor (host : Host) (round : Round) (view : HarnessSchedulingView) (model : String) :
    Prop :=
  ∀ limits risks outlook policy stages selected reason,
    Scheduled host round.config round.predictor view round.targets limits risks outlook policy
      stages selected reason → ∀ item ∈ stages.timed, item.target.modelId ≠ model

/-- Every offered replica of the current model has at least the rank of the current tier. -/
def Level (host : Host) (targets : List TargetCandidate) (recorded : Recorded) : Prop :=
  ∀ target ∈ targets, target.modelId = recorded.model →
    target.modelId ≠ "" ∧ tierRank host recorded.tier ≤ tierRank host target.tier

/-- A survivor of the gates is a target of the request. -/
theorem timed_listed {config : SchedulerConfig} {limits : RequestLimits} {outlook : KvOutlook}
    {urgency : ℚ} {policy : Policy} {stages : Stages}
    (passed : Passed host config limits outlook urgency policy stages) {item : EvaluatedTarget}
    (member : item ∈ stages.timed) : item.target ∈ policy.targets := by
  have listed (item : EvaluatedTarget) (held : item ∈ stages.budgeted) :
      item.target ∈ policy.targets :=
    passed.budgeted_targets_sublist.subset (List.mem_map_of_mem held)
  obtain ⟨before, budgeted, rfl⟩ := passed.timed_before member
  change ((lastWith EvaluatedTarget.key before.key stages.budgeted).getD before).target ∈ _
  cases last : lastWith EvaluatedTarget.key before.key stages.budgeted with
  | none => exact listed before budgeted
  | some item => exact listed item (lastWith_some EvaluatedTarget.key last).1

/-- The text of an unknown tier has the lowest rank. -/
theorem tierRank_empty (lowerEmpty : host.lower "" = "") : tierRank host "" = 0 := by
  unfold tierRank
  rw [lowerEmpty]
  decide

/-- A tier of a lower rank is not held only after a stable window or without a survivor. -/
theorem not_held {config : SchedulerConfig} {selected : EvaluatedTarget}
    {pairs : List EvaluatedTarget} (lowerEmpty : host.lower "" = "")
    (current : view.currentTier = .str recorded.tier)
    (steps : view.stableSteps = .int recorded.stable)
    (model : view.currentModel = .str recorded.model) (named : recorded.model ≠ "")
    (lower : tierRank host selected.evaluation.tier < tierRank host recorded.tier)
    (free : shouldHoldTier host config view selected pairs = .ok false) :
    config.deescalationStableSteps ≤ recorded.stable ∨
      ∀ pair ∈ pairs, pair.target.modelId ≠ recorded.model := by
  have tiered : recorded.tier ≠ "" := by
    intro empty
    rw [empty, tierRank_empty lowerEmpty] at lower
    exact absurd lower (Nat.not_lt_zero _)
  have tierTrue : (Value.str recorded.tier).truthy = true := by simpa [Value.truthy] using tiered
  have modelTrue : (Value.str recorded.model).truthy = true := by simpa [Value.truthy] using named
  have counted : (Value.int recorded.stable).number = .ok (recorded.stable : ℚ) := by
    simp [Value.number]
  have text : (Value.str recorded.tier).text? = some recorded.tier := rfl
  unfold shouldHoldTier at free
  rw [current, model, steps, tierTrue, modelTrue] at free
  simp only [Bool.not_true, Bool.or_self, Bool.false_eq_true, if_false, text, if_pos lower, counted,
    bind, Except.bind, pure, Except.pure, Except.ok.injEq, Bool.and_eq_false_iff,
    decide_eq_false_iff_not, not_lt] at free
  refine free.imp_right fun none pair member same => ?_
  have some := List.any_eq_false.mp none pair member
  exact some (beq_iff_eq.mpr same)

/-- A round that selects a lower tier ends a stable window or has no survivor of the model. -/
theorem Decides.outside (lowerEmpty : host.lower "" = "")
    (decides : Decides env host key round store view decision tier)
    (holds : HistoryIs recorded.tier recorded.model recorded.stable (history store key))
    (level : Level host round.targets recorded)
    (lower : tierRank host tier < tierRank host recorded.tier) :
    round.config.deescalationStableSteps ≤ recorded.stable ∨
      NoSurvivor host round view recorded.model := by
  obtain ⟨shows, scheduled⟩ := decides.shows
  obtain ⟨limits, risks, outlook, policy, stages, selected, reason, facts, made⟩ :=
    schedule_ok scheduled
  have member := selectTarget_mem facts.placed
  obtain ⟨inside, only, sole⟩ := facts.sole decides.distinct
  -- The decision selects the tier of its target.
  have chosen : selected.target.tier = tier := by
    have known := decides.tier
    rw [made, selectedTier_eq facts decides.distinct] at known
    exact Option.some.inj known
  have evaluated : selected.evaluation.tier = tier := by
    obtain ⟨_, own, _⟩ := facts.passed.selected_only member inside sole
    obtain ⟨_, _, same, _⟩ := facts.passed.traceEntry_only member inside sole []
    rw [same, ← own, chosen]
  have quiet : stages.policy.override.active = false := by
    have reasons := decides.quiet
    rw [made] at reasons
    have chosenPolicy := facts.chosen
    rw [← facts.passed.kept] at chosenPolicy
    exact inactive_of_reasons chosenPolicy reasons
  -- The view carries the recorded tier, the recorded model, and the stable steps.
  rw [← history_target round.seen store key (.str "default")] at holds
  have current : view.currentTier = .str recorded.tier :=
    Except.ok.inj (shows.tier.symm.trans holds.tier)
  have steps : view.stableSteps = .int recorded.stable :=
    Except.ok.inj (shows.steps.symm.trans holds.steps)
  obtain ⟨model, readModel, currentModel⟩ := shows.model
  have same : model = .str recorded.model := Except.ok.inj (readModel.symm.trans holds.model)
  have survivors : (∀ item ∈ stages.timed, item.target.modelId ≠ recorded.model) →
      NoSurvivor host round view recorded.model := by
    intro none _ _ _ _ _ _ _ other
    rw [← (facts.unique other).1]
    exact none
  by_cases unnamed : recorded.model = ""
  · refine Or.inr (survivors fun item timed same => ?_)
    exact (level item.target (inside.subset (timed_listed facts.passed timed)) same).1
      (same.trans unnamed)
  · have named : view.currentModel = .str recorded.model := by
      rw [currentModel, same, Value.orElse, if_pos]
      simpa [Value.truthy] using unnamed
    rw [← evaluated] at lower
    obtain ⟨place, placed⟩ := placed_of_selectTarget facts.placed
    cases placed with
    | free placement _ free =>
        rcases free with active | free
        · exact absurd (quiet.symm.trans active) (by decide)
        · exact (not_held lowerEmpty current steps named unnamed lower free).imp_right survivors
    | held placement held _ _ _ found =>
        obtain ⟨timed, own⟩ := List.mem_filter.mp (choosePlacement_mem found)
        rw [named] at own
        have offered := level held.chosen.target
          (inside.subset (timed_listed facts.passed timed)) (beq_iff_eq.mp own)
        rw [evaluated, ← chosen] at lower
        exact absurd lower (Nat.not_lt.mpr offered.2)

end Loop

/-- A closed loop selects a lower tier only after a stable window or when no replica of the
current model survives, provided that every offered replica of that model has at least the
current rank. -/
theorem downgrade_outside_window {env : Environment} {host : Host} {key : StateKey}
    (lowerEmpty : host.lower "" = "") {recorded : Recorded} {store : Store}
    (reached : ClosedLoop env host key (Level host) recorded store) {round : Round}
    {view : HarnessSchedulingView} {decision : RoutingDecision} {tier : String}
    (decides : Decides env host key round store view decision tier)
    (level : Level host round.targets recorded)
    (lower : tierRank host tier < tierRank host recorded.tier) :
    round.config.deescalationStableSteps ≤ recorded.stable ∨
      NoSurvivor host round view recorded.model :=
  decides.outside lowerEmpty (loop_history reached).1 level lower

section Demo

def loopKey : StateKey := ("session", "default-task")

/-- A round that trusts every state. -/
def loopRound (targets : List TargetCandidate) : Round where
  seen := ⟨"state", 0⟩
  written := ⟨"state", 0⟩
  config := { minStateCompletenessForDowngrade := 0 }
  predictor := evenPredictor
  stamp := ⟨"decision", 0⟩
  targets := targets

/-- A round decides without an override for a tier and is written back. -/
def decidesTier (round : Round) (store : Store) (tier model : String) : Bool :=
  match round.schedule asciiEnvironment asciiHost loopKey store with
  | .ok (view, decision) =>
      decide (decision.overrideReasons = []) && decide (selectedTier decision = some tier)
        && decide (decision.selectedModel = model)
        && answersWith (fun _ => true) (recordRoutingDecision round.written view decision store)
  | .error _ => false

/-- The store after a round. -/
def afterRound (round : Round) (store : Store) : Store :=
  match round.schedule asciiEnvironment asciiHost loopKey store with
  | .ok (view, decision) =>
      finalState (recordRoutingDecision round.written view decision store)
  | .error _ => store

/-- A round whose decision is written back ends in the store of that write. -/
theorem recorded_afterRound {round : Round} {store : Store} {view : HarnessSchedulingView}
    {decision : RoutingDecision}
    (scheduled : round.schedule asciiEnvironment asciiHost loopKey store = .ok (view, decision))
    (written : answersWith (fun _ => true)
      (recordRoutingDecision round.written view decision store) = true) :
    recordRoutingDecision round.written view decision store = .ok () (afterRound round store) := by
  obtain ⟨_, next, recorded, _⟩ := returned_of_answers written
  have reached : afterRound round store = next := by
    simp only [afterRound, scheduled, recorded, finalState_ok]
  rw [reached]
  exact recorded

theorem decides_of_tier {round : Round} {store : Store} {tier model : String}
    (checked : decidesTier round store tier model = true)
    (distinct : (round.targets.map TargetCandidate.key).Nodup) :
    ∃ view decision, Decides asciiEnvironment asciiHost loopKey round store view decision tier ∧
      decision.selectedModel = model ∧
      recordRoutingDecision round.written view decision store = .ok () (afterRound round store) := by
  cases scheduled : round.schedule asciiEnvironment asciiHost loopKey store with
  | error error =>
      rw [decidesTier, scheduled] at checked
      cases checked
  | ok made =>
      obtain ⟨view, decision⟩ := made
      simp only [decidesTier, scheduled, Bool.and_eq_true, decide_eq_true_eq] at checked
      obtain ⟨⟨⟨quiet, chosen⟩, selected⟩, written⟩ := checked
      exact ⟨view, decision, ⟨scheduled, quiet, distinct, chosen⟩, selected,
        recorded_afterRound scheduled written⟩

def capableReplica : TargetCandidate :=
  { modelId := "model", endpointId := "a", replicaId := "a", tier := "capable" }

/-- The replica of a lower tier is idle. -/
def efficientReplica (model : String) : TargetCandidate :=
  { modelId := model, endpointId := "b", replicaId := "b", tier := "efficient"
    loadBalanceScore := 1 }

theorem emptyLoop (allowed : List TargetCandidate → Recorded → Prop) :
    ClosedLoop asciiEnvironment asciiHost loopKey allowed [] Store.empty :=
  .start rfl fun _ found => by cases found

/-- A first decision selects the capable replica. -/
theorem firstLoop {allowed : List TargetCandidate → Recorded → Prop}
    (fits : allowed [capableReplica] []) :
    ClosedLoop asciiEnvironment asciiHost loopKey allowed [("capable", "model")]
      (afterRound (loopRound [capableReplica]) Store.empty) := by
  have checked : decidesTier (loopRound [capableReplica]) Store.empty "capable" "model" = true := by
    decide +kernel
  obtain ⟨view, decision, decides, selected, written⟩ := decides_of_tier checked (by decide)
  rw [← selected]
  exact .decide (emptyLoop allowed) decides fits written

/-- Another model replaces the current one when none of its replicas is offered. -/
theorem downgrade_without_survivor : ∃ view,
    NoSurvivor asciiHost (loopRound [efficientReplica "other"]) view "model" := by
  have checked : decidesTier (loopRound [efficientReplica "other"])
      (afterRound (loopRound [capableReplica]) Store.empty) "efficient" "other" = true := by
    decide +kernel
  obtain ⟨view, decision, decides, _, _⟩ := decides_of_tier checked (by decide)
  have first : ClosedLoop asciiEnvironment asciiHost loopKey (Level asciiHost)
      [("capable", "model")] (afterRound (loopRound [capableReplica]) Store.empty) := by
    refine firstLoop fun target member same => ?_
    rw [List.mem_singleton.mp member] at same
    exact absurd same (by decide)
  have level : Level asciiHost (loopRound [efficientReplica "other"]).targets
      [("capable", "model")] := by
    intro target member same
    rw [List.mem_singleton.mp member] at same
    exact absurd same (by decide)
  have outside := downgrade_outside_window (by decide +kernel) first decides level
    (by decide +kernel)
  refine ⟨view, outside.resolve_left ?_⟩
  change ¬ (2 : ℚ) ≤ (1 : Nat)
  norm_num

/-- The hold of the current model selects its replica of a lower tier inside the window. -/
theorem held_model_downgrades : ¬ ∀ recorded store,
    ClosedLoop asciiEnvironment asciiHost loopKey (fun _ _ => True) recorded store →
      ∀ round view decision tier,
        Decides asciiEnvironment asciiHost loopKey round store view decision tier →
        tierRank asciiHost tier < tierRank asciiHost recorded.tier →
          round.config.deescalationStableSteps ≤ recorded.stable ∨
            NoSurvivor asciiHost round view recorded.model := by
  intro guarded
  have checked : decidesTier (loopRound [capableReplica, efficientReplica "model"])
      (afterRound (loopRound [capableReplica]) Store.empty) "efficient" "model" = true := by
    decide +kernel
  obtain ⟨view, decision, decides, _, _⟩ := decides_of_tier checked (by decide)
  rcases guarded _ _ (firstLoop trivial) _ _ _ _ decides (by decide +kernel) with window | none
  · exact absurd window (by change ¬ (2 : ℚ) ≤ (1 : Nat); norm_num)
  · obtain ⟨_, scheduled⟩ := decides.shows
    obtain ⟨_, _, _, _, stages, selected, _, facts, _⟩ := schedule_ok scheduled
    have timed := selectTarget_mem facts.placed
    have listed := (facts.sole decides.distinct).1.subset (timed_listed facts.passed timed)
    refine none _ _ _ _ _ _ _ facts selected timed ?_
    rcases List.mem_cons.mp listed with capable | efficient
    · rw [capable]
      rfl
    · rw [List.mem_singleton.mp efficient]
      rfl

end Demo

end StateFlow.Scheduler
