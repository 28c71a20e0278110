import StateFlow.Proof.Scheduler.Streak

namespace StateFlow.Scheduler
open Python Table Effect State

section Attributes
variable {name text : String} {value : Value}

/-- A history answers an attribute with a text. -/
def Answers (name text : String) (history : Value) : Prop := history.attr name = .ok (.str text)

theorem writeHistory_answers (written : String) (value : Value) (other : name ≠ written) :
    Ensures (fun state => Answers name text (historyOf state)) (writeHistory written value)
      fun _ state => Answers name text (historyOf state) :=
  writeHistory_ensures fun _ _ holds assigned =>
    (attr_setAttr assigned name).trans ((if_neg other).trans holds)

theorem writeHistory_text (name text : String) :
    Ensures (fun _ => True) (writeHistory name (.str text))
      fun _ state => Answers name text (historyOf state) :=
  @writeHistory_ensures (fun _ => True) (Answers name text) name (.str text)
    fun _ _ _ assigned => (attr_setAttr assigned name).trans (if_pos rfl)

/-- Following a tier only writes these attributes. -/
def tierAttributes : List String :=
  ["current_tier", "stable_steps", "last_tier_change", "last_change_reason", "escalation_count"]

theorem followTier_answers (decision : RoutingDecision) (other : name ∉ tierAttributes) :
    Ensures (fun state => Answers name text (historyOf state)) (followTier decision)
      fun _ state => Answers name text (historyOf state) := by
  have writes (written : String) (value : Value) (listed : written ∈ tierAttributes) :
      Ensures (fun state => Answers name text (historyOf state)) (writeHistory written value)
        fun _ state => Answers name text (historyOf state) := by
    refine writeHistory_answers written value ?_
    rintro rfl
    exact other listed
  have reads (read : String) :
      Ensures (fun state => Answers name text (historyOf state)) (readHistory read)
        fun _ state => Answers name text (historyOf state) :=
    keeps_history (readHistory_within read)
  unfold followTier
  refine ensures_bind (reads _) fun previous => ?_
  extract_lets selected last
  have ends : ∀ done, Ensures (fun state => Answers name text (historyOf state)) (last done)
      fun _ state => Answers name text (historyOf state) := fun _ => writes _ _ (by decide)
  split
  · refine ensures_bind (reads _) fun steps => ?_
    refine ensures_bind (keeps_history (within_lift _)) fun _ => ?_
    exact ensures_bind (writes _ _ (by decide)) ends
  · refine ensures_seq (writes _ _ (by decide)) (ensures_seq (writes _ _ (by decide)) ?_)
    refine ensures_seq (writes _ _ (by decide)) ?_
    split
    · refine ensures_bind (reads _) fun count => ?_
      refine ensures_bind (keeps_history (within_lift _)) fun _ => ?_
      exact ensures_bind (writes _ _ (by decide)) ends
    · exact ends ()

/-- The history names an endpoint and a replica. -/
def NamesPlace (endpoint replica : String) (history : Value) : Prop :=
  Answers "current_endpoint" endpoint history ∧ Answers "current_replica" replica history

theorem writeHistory_place {endpoint replica written : String} {value : Value}
    (noEndpoint : "current_endpoint" ≠ written) (noReplica : "current_replica" ≠ written) :
    Ensures (fun state => NamesPlace endpoint replica (historyOf state)) (writeHistory written value)
      fun _ state => NamesPlace endpoint replica (historyOf state) :=
  ((writeHistory_answers written value noEndpoint).of_imp fun _ start => start.1).and
    ((writeHistory_answers written value noReplica).of_imp fun _ start => start.2)

/-- A decision writes its endpoint and its replica to the history. -/
theorem applyRoutingDecision_place {view : HarnessSchedulingView} {decision : RoutingDecision} :
    Ensures (fun _ => True) (applyRoutingDecision view decision) fun _ state =>
      NamesPlace decision.selectedEndpoint decision.selectedReplica (historyOf state) := by
  have any {A : Type} {program : Update A} :
      Ensures (fun _ => True) program fun _ _ => True := fun _ _ _ _ _ => trivial
  have kept {A : Type} {program : Update A} (inside : Within keepsHistory program) :
      Ensures (fun state =>
          NamesPlace decision.selectedEndpoint decision.selectedReplica (historyOf state))
        program fun _ state =>
          NamesPlace decision.selectedEndpoint decision.selectedReplica (historyOf state) :=
    keeps_history inside
  have replica := ((writeHistory_answers "current_replica" (.str decision.selectedReplica)
      (by decide : "current_endpoint" ≠ "current_replica")).and
    ((writeHistory_text "current_replica" decision.selectedReplica).of_imp fun state
      (_ : Answers "current_endpoint" decision.selectedEndpoint (historyOf state)) => trivial))
  have tier := ((followTier_answers decision (by decide : "current_endpoint" ∉ tierAttributes)).of_imp
      fun state (start : NamesPlace decision.selectedEndpoint decision.selectedReplica
        (historyOf state)) => start.1).and
    ((followTier_answers decision (by decide : "current_replica" ∉ tierAttributes)).of_imp
      fun _ start => start.2)
  unfold applyRoutingDecision
  iterate 6 refine ensures_seq any ?_
  refine ensures_seq (writeHistory_text "current_endpoint" decision.selectedEndpoint) ?_
  refine ensures_seq replica (ensures_seq tier ?_)
  refine ensures_seq (writeHistory_place (by decide) (by decide)) ?_
  refine ensures_bind (kept (within_read _ _)) fun decisions => ?_
  refine ensures_bind (kept (within_lift _)) fun _ => ?_
  refine ensures_seq (kept (write_keepsHistory _ (Or.inr (by decide)))) ?_
  refine ensures_bind (kept (within_read _ _)) fun sequence => ?_
  refine ensures_bind (kept (within_lift _)) fun _ => ?_
  exact kept (write_keepsHistory _ (Or.inl (by decide)))

end Attributes

section Decisions

/-- The decisions that a state keeps. -/
abbrev decisionsOf (state : AgentState) : Value := state.get .scheduling "decision_history"

theorem write_keepsDecisions {part : Section} {name : String} (value : Value)
    (other : part ≠ .scheduling ∨ name ≠ "decision_history") :
    Within (Frame.fixes decisionsOf) (write part name value) := by
  refine within_write (fun state value => ?_) value
  rw [decisionsOf, AgentState.get_set, if_neg]
  rintro ⟨rfl, rfl⟩
  exact other.elim (fun apart => apart rfl) fun apart => apart rfl

/-- A decision is appended to the kept ones, and only the latest ones stay. -/
theorem applyRoutingDecision_decisions {view : HarnessSchedulingView} {decision : RoutingDecision}
    {items : List Value} :
    Ensures (fun state => decisionsOf state = .list items) (applyRoutingDecision view decision)
      fun _ state => decisionsOf state = keepLatest (.list (items ++ [decision.toDict])) := by
  have kept {A : Type} {program : Update A} {held : Value}
      (inside : Within (Frame.fixes decisionsOf) program) :
      Ensures (fun state => decisionsOf state = held) program fun _ state =>
        decisionsOf state = held := inside.ensures_fixed
  have writes (part : Section) (name : String) (value : Value)
      (other : part ≠ .scheduling ∨ name ≠ "decision_history") {held : Value} :
      Ensures (fun state => decisionsOf state = held) (write part name value) fun _ state =>
        decisionsOf state = held := kept (write_keepsDecisions value other)
  have history (value : Value) :
      Within (Frame.fixes decisionsOf) (write .scheduling "routing_history" value) :=
    write_keepsDecisions value (Or.inr (by decide))
  unfold applyRoutingDecision
  iterate 3 refine ensures_seq (writes _ _ _ (Or.inl (by decide))) ?_
  iterate 2 refine ensures_seq (writes _ _ _ (Or.inr (by decide))) ?_
  iterate 3 refine ensures_seq (kept (writeHistory_within history _ _)) ?_
  refine ensures_seq (kept (followTier_within history decision)) ?_
  refine ensures_seq (kept (writeHistory_within history _ _)) ?_
  intro state done last start ran
  obtain ⟨_, _, found, appending⟩ := bind_ok ran
  cases found
  obtain ⟨longer, between, appended, storing⟩ := bind_ok appending
  obtain ⟨known, same⟩ := lift_ok appended
  rw [show state.get .scheduling "decision_history" = .list items from start] at known
  cases known
  obtain ⟨_, stored, wrote, ending⟩ := bind_ok storing
  cases wrote
  refine (Within.fixed ?_ ending).trans (AgentState.get_set_same ..)
  refine within_bind (within_read _ _) fun sequence => within_bind (within_lift _) fun _ => ?_
  exact write_keepsDecisions _ (Or.inl (by decide))

end Decisions

section Events
variable (env : Environment) (event : AgentStateEvent)

/-- The routing history and the decisions of a state. -/
abbrev routingOf (state : AgentState) : Value × Value := (historyOf state, decisionsOf state)

/-- The handlers that write no scheduling keep the routing history and the decisions. -/
theorem routingHandles : Handles (ProgramLogic.within (Frame.fixes routingOf))
    fun part => part ≠ .scheduling := by
  refine handles_fixes (fun state part name value apart => ?_) fun _ _ _ => rfl
  have other {attr : String} : (state.set part name value).get .scheduling attr =
      state.get .scheduling attr := by
    rw [AgentState.get_set, if_neg]
    rintro ⟨rfl, _⟩
    exact apart rfl
  exact Prod.ext other other

/-- An event that does not patch the scheduling section leaves it alone, also when it raises. -/
theorem handle_keepsRouting (absent : event.payload.lookup "scheduling" = none) :
    Within (Frame.fixes routingOf) (handle env event) := by
  refine within_seq (within_seq ?_ ?_) (routingHandles.applyHeader event (by decide))
  · exact routingHandles.applyIdentity env event (by decide) (by decide) _
  · by_cases patched : event.kind env = .patch
    · rw [patched]
      refine routingHandles.applyPatch_named env event fun part => ?_
      by_cases scheduling : part = .scheduling
      · subst scheduling
        exact Or.inr absent
      · exact Or.inl scheduling
    · refine routingHandles.applyClass env event _ ?_
      have classes : ∀ kind ∈ eventClasses, kind ≠ .patch →
          ∀ part ∈ kind.sections, part ≠ .scheduling := by decide
      exact classes _ (classify_listed _) patched

end Events

section Latest

/-- The latest items of a list with a new item are those of the kept list with it. -/
theorem drop_reverse_cons {A : Type} (limit : Nat) (item : A) (rest : List A) :
    (item :: rest.take limit).reverse.drop ((item :: rest.take limit).length - limit) =
      ((item :: rest).take limit).reverse := by
  have shortened : (item :: rest.take limit).take limit = (item :: rest).take limit := by
    cases limit with
    | zero => rfl
    | succ count => simp [List.take_take]
  rw [List.drop_reverse, ← shortened]
  congr 1
  rw [List.take_eq_take_iff]
  omega

/-- A new decision joins the latest ones. -/
theorem keepLatest_cons (decision : RoutingDecision) (past : List RoutingDecision) :
    keepLatest (.list ((latestDecisions past).map RoutingDecision.toDict ++ [decision.toDict])) =
      .list ((latestDecisions (decision :: past)).map RoutingDecision.toDict) := by
  have joined : (latestDecisions past).map RoutingDecision.toDict ++ [decision.toDict] =
      (decision :: past.take decisionHistoryLimit).reverse.map RoutingDecision.toDict := by
    rw [List.reverse_cons, List.map_append]
    rfl
  rw [joined, keepLatest, List.length_map, List.length_reverse, ← List.map_drop, drop_reverse_cons]
  rfl

end Latest

section Remembers
variable {past : List RoutingDecision} {decision : RoutingDecision} {history decisions : Value}

/-- The tiers and the models of the decisions. -/
def tierRecord (past : List RoutingDecision) : Recorded :=
  past.map fun decision => (tierOf decision, decision.selectedModel)

theorem tierRecord_stable (past : List RoutingDecision) :
    (tierRecord past).stable = trailingRun past := by
  cases past with
  | nil => rfl
  | cons last rest =>
      have tiers : (tierRecord (last :: rest)).map Prod.fst = (last :: rest).map tierOf := by
        rw [tierRecord, List.map_map]
        rfl
      have head : (tierRecord (last :: rest)).tier = tierOf last := rfl
      rw [Recorded.stable, tiers, head, List.map_cons, List.takeWhile_cons_of_pos (by simp),
        List.length_cons, List.takeWhile_map, List.length_map, trailingRun, add_comm]
      rfl

/-- A routing history and its decisions remember what was recorded. -/
structure Remembers (past : List RoutingDecision) (history decisions : Value) : Prop where
  tiers : HistoryIs (tierRecord past).tier (tierRecord past).model (tierRecord past).stable history
  place : ∀ last ∈ past.head?, NamesPlace last.selectedEndpoint last.selectedReplica history
  decisions : decisions = .list ((latestDecisions past).map RoutingDecision.toDict)

theorem remembers_nil : Remembers [] routingHistory (.list []) :=
  ⟨⟨rfl, rfl, rfl⟩, (fun _ none => by cases none), rfl⟩

/-- A decision is remembered on top of the earlier ones. -/
theorem Remembers.decide {state middle : AgentState}
    (remembers : Remembers past (historyOf state) (decisionsOf state)) {view : HarnessSchedulingView}
    {tier : String} (chosen : selectedTier decision = some tier)
    (decided : applyRoutingDecision view decision state = .ok () middle) :
    Remembers (decision :: past) (historyOf middle) (decisionsOf middle) := by
  have named : tierOf decision = tier := by rw [tierOf, chosen]; rfl
  constructor
  · have next := applyRoutingDecision_ensures chosen _ _ _ remembers.tiers decided
    have record : tierRecord (decision :: past) = (tier, decision.selectedModel) :: tierRecord past :=
      congrArg (fun text => (text, decision.selectedModel) :: tierRecord past) named
    rw [record, stable_cons]
    have steps : ((if (tierRecord past).tier = tier then (tierRecord past).stable + 1 else 1 : Nat) :
        Int) = if (tierRecord past).tier = tier then ((tierRecord past).stable : Int) + 1 else 1 := by
      split <;> rfl
    rw [steps]
    exact next
  · intro last here
    cases Option.some.inj here
    exact applyRoutingDecision_place _ _ _ trivial decided
  · rw [applyRoutingDecision_decisions _ _ _ remembers.decisions decided, keepLatest_cons]

end Remembers

section Run
variable {env : Environment} {recorded : List (StateKey × RoutingDecision)} {store next : Store}
  {key : StateKey}

/-- The routing history and the decisions of a session. -/
def routingAt (store : Store) (key : StateKey) : Value × Value :=
  match store.states key with
  | some state => routingOf state
  | none => (routingHistory, .list [])

theorem newAgentState_routing (fresh : Fresh) (sessionId taskId : String) (tenantId : Value) :
    routingOf (newAgentState fresh sessionId taskId tenantId) = (routingHistory, .list []) := by
  refine Prod.ext (newAgentState_history fresh sessionId taskId tenantId) ?_
  simp only [decisionsOf, newAgentState]
  repeat rw [AgentState.get_set, if_neg (by decide)]
  rfl

theorem routing_target (fresh : Fresh) (store : Store) (key : StateKey) (tenantId : Value) :
    routingOf ((store.states key).getD (newAgentState fresh key.1 key.2 tenantId)) =
      routingAt store key := by
  unfold routingAt
  cases store.states key with
  | none => exact newAgentState_routing fresh key.1 key.2 tenantId
  | some state => rfl

/-- Every session remembers its own decisions. -/
def RememberedStore (recorded : List (StateKey × RoutingDecision)) (store : Store) : Prop :=
  ∀ key, Remembers (decisionsFor key recorded) (routingAt store key).1 (routingAt store key).2

/-- A state of one key with the same routing changes no routing. -/
theorem routingAt_update {states : StateKey → Option AgentState} {changed : StateKey}
    {state : AgentState} (updated : states = Function.update store.states changed (some state))
    (same : routingOf state = routingAt store changed) (moved : next.states = states) :
    routingAt next key = routingAt store key := by
  have found : next.states key = if key = changed then some state else store.states key := by
    rw [moved, updated, Function.update_apply]
  by_cases here : key = changed
  · subst here
    rw [if_pos rfl] at found
    rw [← same, routingAt, found]
  · rw [if_neg here] at found
    rw [routingAt, routingAt, found]

/-- An event keeps what every session remembers. -/
theorem RememberedStore.event (remembered : RememberedStore recorded store) {fresh : Fresh}
    {event : AgentStateEvent} (absent : event.payload.lookup "scheduling" = none) :
    RememberedStore recorded (finalState (appendEvent env fresh event store)) := by
  intro key
  have same : routingAt (finalState (appendEvent env fresh event store)) key =
      routingAt store key := by
    rcases appendEvent_states env fresh event store with kept | ⟨applied, sequenced, moved⟩
    · rw [routingAt, routingAt, kept]
    · have own := sequenced_key sequenced
      have payload : applied.payload = event.payload := by rw [sequenced_same sequenced]
      refine routingAt_update rfl ?_ moved
      rw [← own, ← routing_target fresh store applied.key (.str "default")]
      exact handle_keepsRouting env applied (payload ▸ absent) (store.target fresh applied)
  rw [same]
  exact remembered key

theorem RememberedStore.create (remembered : RememberedStore recorded store) {fresh : Fresh}
    {created : StateKey} {tenantId harnessType : String} {state : AgentState}
    (ran : getOrCreate fresh created tenantId harnessType store = .ok state next) :
    RememberedStore recorded next := by
  intro key
  have same : routingAt next key = routingAt store key := by
    rcases getOrCreate_ran ran with rfl | ⟨unknown, rfl, rfl⟩
    · rfl
    · refine routingAt_update rfl ?_ rfl
      have kept (other : String) : ((newAgentState fresh created.1 created.2 (.str tenantId)).set
          .identity "harness_type" (.str harnessType)).get .scheduling other =
          (newAgentState fresh created.1 created.2 (.str tenantId)).get .scheduling other := by
        rw [AgentState.get_set, if_neg (fun same => by cases same.1)]
      rw [routingAt, unknown]
      exact Eq.trans (Prod.ext (kept "routing_history") (kept "decision_history"))
        (newAgentState_routing fresh created.1 created.2 (.str tenantId))
  rw [same]
  exact remembered key

/-- The candidates of a decision name a tier for its selection. -/
theorem Produced.tier {decision : RoutingDecision} (produced : Produced decision) :
    ∃ tier, selectedTier decision = some tier := by
  obtain ⟨host, config, predictor, stamp, view, targets, returned⟩ := produced
  obtain ⟨limits, risks, outlook, policy, stages, selected, reason, facts, rfl⟩ :=
    schedule_ok returned
  obtain ⟨target, kept, key⟩ := facts.passed.timed_key (selectTarget_mem facts.placed)
  have listed : target ∈ targets :=
    (List.mem_filter.mp ((choosePolicy_ok facts.chosen).sublist.subset kept)).1
  refine Option.isSome_iff_exists.mp (Option.isSome_map.trans ?_)
  refine List.find?_isSome.mpr ⟨_, List.mem_map_of_mem listed, ?_⟩
  refine decide_eq_true ((facts.passed.traceEntry_key _ _).trans key)

/-- A decision is remembered by its own session. -/
theorem RememberedStore.record (remembered : RememberedStore recorded store) {fresh : Fresh}
    {view : HarnessSchedulingView} {decision : RoutingDecision} {named : StateKey}
    (produced : Produced decision) (own : viewKey view = some named)
    (ran : recordRoutingDecision fresh view decision store = .ok () next) :
    RememberedStore ((named, decision) :: recorded) next := by
  rcases recordRoutingDecision_ran ran with
    ⟨unnamed, _⟩ | ⟨other, middle, state, isNamed, decided, stamped, rfl⟩
  · cases own.symm.trans unnamed
  cases own.symm.trans isNamed
  obtain ⟨tier, chosen⟩ := produced.tier
  have stamps : Within (Frame.fixes routingOf) (stampDecision decision) := by
    refine stampDecision_within (fun name _ value => ?_) decision
    exact routingHandles.write value (by decide) (by simp [payloadAttrs])
  intro key
  have found : (store.decide named middle.order state).states key =
      if key = named then some state else store.states key := Function.update_apply ..
  by_cases here : key = named
  · subst here
    rw [if_pos rfl] at found
    have start := remembered key
    rw [← routing_target fresh store key view.tenantId] at start
    have past : decisionsFor key ((key, decision) :: recorded) =
        decision :: decisionsFor key recorded := by
      simp [decisionsFor]
    have routed : routingAt (store.decide key middle.order state) key = routingOf middle := by
      rw [routingAt, found]
      exact stamps.fixed stamped
    rw [past, routed]
    exact start.decide chosen decided
  · rw [if_neg here] at found
    have past : decisionsFor key ((named, decision) :: recorded) = decisionsFor key recorded := by
      simp [decisionsFor, Ne.symm here]
    rw [past, show routingAt (store.decide named middle.order state) key = routingAt store key by
      rw [routingAt, routingAt, found]]
    exact remembered key

/-- Every reached session remembers its decisions. -/
theorem routedRun_remembered (run : RoutedRun env recorded store) :
    RememberedStore recorded store := by
  induction run with
  | start => exact fun key => remembers_nil
  | event _ absent ih => exact ih.event absent
  | create _ ran ih => exact ih.create ran
  | record _ produced named ran ih => exact ih.record produced named ran

end Run

/-- A stored history counts the trailing decisions of the last tier, names the place of the last
decision, and keeps the latest thousand decisions in order. -/
theorem routing_history_remembers {env : Environment} {recorded : List (StateKey × RoutingDecision)}
    {store : Store} (run : RoutedRun env recorded store) {key : StateKey} {state : AgentState}
    (stored : store.states key = some state) :
    (historyOf state).attr "stable_steps" = .ok (.int (trailingRun (decisionsFor key recorded))) ∧
    (∀ last ∈ (decisionsFor key recorded).head?,
      (historyOf state).attr "current_tier" = .ok (.str (tierOf last)) ∧
      (historyOf state).attr "current_model" = .ok (.str last.selectedModel) ∧
      (historyOf state).attr "current_endpoint" = .ok (.str last.selectedEndpoint) ∧
      (historyOf state).attr "current_replica" = .ok (.str last.selectedReplica)) ∧
    decisionsOf state =
      .list ((latestDecisions (decisionsFor key recorded)).map RoutingDecision.toDict) := by
  obtain ⟨tiers, place, decisions⟩ := routedRun_remembered run key
  have routed : routingAt store key = routingOf state := by rw [routingAt, stored]
  rw [routed] at tiers place decisions
  rw [← tierRecord_stable]
  refine ⟨tiers.steps, fun last here => ?_, decisions⟩
  obtain ⟨endpoint, replica⟩ := place last here
  obtain ⟨rest, past⟩ : ∃ rest, decisionsFor key recorded = last :: rest :=
    List.head?_eq_some_iff.mp here
  have tier := tiers.tier
  have model := tiers.model
  rw [past] at tier model
  exact ⟨tier, model, endpoint, replica⟩

section Demo

/-- A decision of a round is produced by a scheduler. -/
theorem Decides.produced {env : Environment} {host : Host} {key : StateKey} {round : Round}
    {store : Store} {view : HarnessSchedulingView} {decision : RoutingDecision} {tier : String}
    (decides : Decides env host key round store view decision tier) : Produced decision :=
  ⟨host, round.config, round.predictor, round.stamp, view, round.targets, decides.shows.2⟩

/-- Two decisions for one replica make two stable steps. -/
theorem remembers_two_decisions : ∃ first second store state,
    RoutedRun asciiEnvironment [(loopKey, second), (loopKey, first)] store ∧
    store.states loopKey = some state ∧
    (historyOf state).attr "stable_steps" = .ok (.int 2) ∧
    (historyOf state).attr "current_tier" = .ok (.str "capable") ∧
    decisionsOf state = .list [first.toDict, second.toDict] := by
  have checked : decidesTier (loopRound [capableReplica]) Store.empty "capable" "model" = true := by
    decide +kernel
  have rechecked : decidesTier (loopRound [capableReplica])
      (afterRound (loopRound [capableReplica]) Store.empty) "capable" "model" = true := by
    decide +kernel
  have present : ((afterRound (loopRound [capableReplica])
      (afterRound (loopRound [capableReplica]) Store.empty)).states loopKey).isSome = true := by
    decide +kernel
  obtain ⟨view, first, decides, _, written⟩ := decides_of_tier checked (by decide)
  obtain ⟨aged, second, redecides, _, rewritten⟩ := decides_of_tier rechecked (by decide)
  have unnamed : Named Store.empty loopKey := fun _ found => by cases found
  have once : RoutedRun asciiEnvironment [(loopKey, first)] _ :=
    RoutedRun.start.record decides.produced (decides.session unnamed) written
  have run := once.record redecides.produced
    (redecides.session (recordRoutingDecision_named unnamed written)) rewritten
  obtain ⟨state, stored⟩ := Option.isSome_iff_exists.mp present
  obtain ⟨steps, names, decisions⟩ := routing_history_remembers run stored
  have one : tierOf first = "capable" := by rw [tierOf, decides.tier]; rfl
  have two : tierOf second = "capable" := by rw [tierOf, redecides.tier]; rfl
  have past : decisionsFor loopKey [(loopKey, second), (loopKey, first)] = [second, first] := rfl
  rw [past] at steps names decisions
  have trailing : trailingRun [second, first] = 2 := by
    simp [trailingRun, one, two]
  rw [trailing] at steps
  exact ⟨first, second, _, state, run, stored, steps, two ▸ (names second rfl).1, decisions⟩

end Demo

end StateFlow.Scheduler
