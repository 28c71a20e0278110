import StateFlow.Library.Simulation
import StateFlow.Construction.State.Calls

namespace StateFlow.State
open Python Table Effect Scheduler

/-- An assignment changes one attribute of a record. -/
theorem attr_setAttr {tool edited value : Value} {name : String}
    (assigned : tool.setAttr name value = .ok edited) (query : String) :
    edited.attr query = if query = name then .ok value else tool.attr query := by
  cases tool with
  | object kind attrs =>
      cases assigned
      simp only [Value.attr, lookup_assign]
      by_cases same : query = name
      · simp only [if_pos same]
      · simp only [if_neg same]
  | _ => cases assigned

section Steps

theorem read_run (part : Section) (name : String) (state : AgentState) :
    read part name state = .ok (state.get part name) state := rfl

/-- A write to another attribute keeps what a state answers. -/
theorem within_write {A : Type} {observe : AgentState → A} {part : Section} {name : String}
    (kept : ∀ state value, observe (state.set part name value) = observe state) (value : Value) :
    Within (Frame.fixes observe) (write part name value) :=
  within_modify _ fun state => kept state value

theorem within_read {frame : Frame AgentState} (part : Section) (name : String) :
    Within frame (read part name) :=
  within_bind within_get fun _ => within_pure _

end Steps

/-- The order of a header survives every write to another attribute. -/
theorem order_set {state : AgentState} {part : Section} {name : String} (value : Value)
    (other : part ≠ .header ∨ name ≠ "epoch" ∧ name ≠ "sequence_number") :
    (state.set part name value).order = state.order := by
  have epoch : ¬ (Section.header = part ∧ "epoch" = name) := fun same =>
    other.elim (fun apart => apart same.1.symm) fun apart => apart.1 same.2.symm
  have sequence : ¬ (Section.header = part ∧ "sequence_number" = name) := fun same =>
    other.elim (fun apart => apart same.1.symm) fun apart => apart.2 same.2.symm
  rw [AgentState.order, AgentState.order, AgentState.get_set, AgentState.get_set, if_neg epoch,
    if_neg sequence]

theorem write_keepsOrder {part : Section} {name : String} (value : Value)
    (other : part ≠ .header ∨ name ≠ "epoch" ∧ name ≠ "sequence_number") :
    Within (Frame.fixes AgentState.order) (write part name value) :=
  within_write (fun _ value => order_set value other) value

section Header
variable (env : Environment) (event : AgentStateEvent)

/-- The header ends with the order of the event. -/
theorem applyHeader_order {state last : AgentState}
    (ran : applyHeader event state = .ok () last) : last.order = event.order := by
  -- The ten steps before the epoch write other attributes.
  iterate 10 obtain ⟨_, _, _, ran⟩ := bind_ok ran
  obtain ⟨_, _, wroteEpoch, ran⟩ := bind_ok ran
  obtain ⟨_, stamped, wroteSequence, ran⟩ := bind_ok ran
  cases wroteEpoch
  cases wroteSequence
  refine (Within.fixed ?_ ran).trans ?_
  · refine within_seq (write_keepsOrder _ (Or.inr (by decide))) ?_
    refine within_seq (write_keepsOrder _ (Or.inr (by decide))) ?_
    refine within_bind (within_read _ _) fun dirty => ?_
    cases dirty with
    | set items => exact write_keepsOrder _ (Or.inr (by decide))
    | _ => exact within_throw _
  · simp [AgentState.order, AgentStateEvent.order, AgentState.get_set]

/-- The updates of an accepted event. -/
def handle : Update Unit := do
  applyEvent env event
  applyHeader event

theorem handle_order {state last : AgentState} (ran : handle env event state = .ok () last) :
    last.order = event.order := by
  obtain ⟨_, middle, _, headed⟩ := bind_ok ran
  exact applyHeader_order event headed

end Header

/-- The flags of a result: accepted, duplicate, and stale. -/
def AppendResult.flags (result : AppendResult) : Bool × Bool × Bool :=
  (result.accepted, result.duplicate, result.stale)

/-- The store after an accepted event. -/
def Store.accept (store : Store) (event : AgentStateEvent) (state : AgentState) : Store where
  states := Function.update store.states event.key (some state)
  lastOrder := Function.update store.lastOrder event.key (some event.order)
  events := store.events ++ [event]

/-- The state that an event changes. -/
def Store.target (store : Store) (fresh : Fresh) (event : AgentStateEvent) : AgentState :=
  (store.states event.key).getD
    (newAgentState fresh event.sessionId event.taskId (.str "default"))

section Append
variable {env : Environment} {fresh : Fresh} {received event : AgentStateEvent}
  {store next : Store}

/-- Only the sequence number of an event is assigned. -/
theorem sequenced_same {last : Order} (sequenced : received.sequenced last = .ok event) :
    event = { received with sequence := event.sequence } := by
  obtain ⟨explicit, _, continued⟩ := except_bind_ok sequenced
  cases explicit with
  | true => cases continued; rfl
  | false =>
      simp only [Bool.false_eq_true, if_false] at continued
      split at continued
      · obtain ⟨following, _, final⟩ := except_bind_ok continued
        cases final
        rfl
      · cases continued
        rfl

theorem sequenced_key {last : Order} (sequenced : received.sequenced last = .ok event) :
    event.key = received.key := by
  rw [sequenced_same sequenced]
  rfl

/-- An event that returned repeats the last order, precedes it, or was applied to its state. -/
theorem appendEvent_verdict {result : AppendResult}
    (ran : appendEvent env fresh received store = .ok result next) :
    ∃ event, received.sequenced (store.order received.key) = .ok event ∧
      ((event.order.eq (store.order received.key) = true ∧ result.flags = (false, true, false) ∧
          next = store) ∨
        event.order.eq (store.order received.key) = false ∧
          ((event.order.before (store.order received.key) = .ok true ∧
              result.flags = (false, false, true) ∧ next = store) ∨
            event.order.before (store.order received.key) = .ok false ∧
              result.flags = (true, false, false) ∧
              ∃ state, handle env event (store.target fresh event) = .ok () state ∧
                next = store.accept event state)) := by
  rw [appendEvent_eq] at ran
  rw [get_bind] at ran
  obtain ⟨event, _, sequenced, ran⟩ := bind_ok ran
  obtain ⟨sequenced, rfl⟩ := lift_ok sequenced
  refine ⟨event, sequenced, ?_⟩
  dsimp only at ran
  split at ran
  · rename_i same
    cases ran
    exact Or.inl ⟨same, rfl, rfl⟩
  · rename_i different
    refine Or.inr ⟨by simpa using different, ?_⟩
    obtain ⟨stale, _, compared, ran⟩ := bind_ok ran
    obtain ⟨compared, rfl⟩ := lift_ok compared
    cases stale with
    | true =>
        cases ran
        exact Or.inl ⟨compared, rfl, rfl⟩
    | false =>
        obtain ⟨_, middle, applied, ran⟩ := bind_ok ran
        obtain ⟨state, handled, rfl⟩ := zoom_ok applied
        cases ran
        have key := sequenced_key sequenced
        refine Or.inr ⟨compared, rfl, state, ?_, ?_⟩
        · rw [Store.target, key]
          exact handled
        · rw [Store.accept, key]

/-- An event that returned was rejected without a trace or applied to its state. -/
theorem appendEvent_cases {result : AppendResult}
    (ran : appendEvent env fresh received store = .ok result next) :
    ∃ event, received.sequenced (store.order received.key) = .ok event ∧
      ((result.accepted = false ∧ next = store) ∨
        result.accepted = true ∧ event.order.eq (store.order received.key) = false ∧
          event.order.before (store.order received.key) = .ok false ∧
          ∃ state, handle env event (store.target fresh event) = .ok () state ∧
            next = store.accept event state) := by
  obtain ⟨event, sequenced, ⟨_, flags, same⟩ | ⟨different, later⟩⟩ := appendEvent_verdict ran
  · exact ⟨event, sequenced, Or.inl ⟨congrArg Prod.fst flags, same⟩⟩
  · rcases later with ⟨_, flags, same⟩ | ⟨later, flags, state, handled, moved⟩
    · exact ⟨event, sequenced, Or.inl ⟨congrArg Prod.fst flags, same⟩⟩
    · exact ⟨event, sequenced, Or.inr ⟨congrArg Prod.fst flags, different, later, state, handled,
        moved⟩⟩

/-- An event leaves every state alone or leaves its own state as its updates left it. -/
theorem appendEvent_states (env : Environment) (fresh : Fresh) (received : AgentStateEvent)
    (store : Store) :
    (finalState (appendEvent env fresh received store)).states = store.states ∨
      ∃ event, received.sequenced (store.order received.key) = .ok event ∧
        (finalState (appendEvent env fresh received store)).states =
          Function.update store.states received.key
            (some (finalState (handle env event (store.target fresh event)))) := by
  rw [appendEvent_eq]
  rw [get_bind]
  cases sequenced : received.sequenced (store.order received.key) with
  | error error => exact Or.inl rfl
  | ok event =>
      rw [bind_of_ok (lift_of_ok rfl _)]
      dsimp only
      split
      · exact Or.inl rfl
      · cases compared : event.order.before (store.order received.key) with
        | error error => exact Or.inl rfl
        | ok stale =>
            rw [bind_of_ok (lift_of_ok rfl _)]
            cases stale with
            | true => exact Or.inl rfl
            | false =>
                refine Or.inr ⟨event, rfl, ?_⟩
                simp only [Bool.false_eq_true, if_false]
                refine (observe_bind (fun _ => ?_) store).trans ?_
                · refine within_seq (within_modify _ fun _ => rfl) ?_
                  exact within_bind within_get fun _ => within_pure _
                · rw [onState, zoom_finalState, Store.target, sequenced_key sequenced]
                  rfl

end Append

section Decision
variable {frame : Frame AgentState}

theorem readHistory_within (name : String) : Within frame (readHistory name) :=
  within_bind (within_read _ _) fun _ => within_lift _

section History
variable (history : ∀ value, Within frame (write .scheduling "routing_history" value))
include history

theorem writeHistory_within (name : String) (value : Value) :
    Within frame (writeHistory name value) :=
  within_bind (within_read _ _) fun _ => within_bind (within_lift _) fun _ => history _

/-- Following a tier only writes the routing history. -/
theorem followTier_within (decision : RoutingDecision) : Within frame (followTier decision) := by
  unfold followTier
  refine within_bind (readHistory_within _) fun previous => ?_
  extract_lets selected last
  have kept : ∀ done, Within frame (last done) := fun _ => writeHistory_within history _ _
  split
  · refine within_bind (readHistory_within _) fun steps => ?_
    refine within_bind (within_lift _) fun _ => ?_
    exact within_bind (writeHistory_within history _ _) kept
  · iterate 3 refine within_seq (writeHistory_within history _ _) ?_
    split
    · refine within_bind (readHistory_within _) fun count => ?_
      refine within_bind (within_lift _) fun _ => ?_
      exact within_bind (writeHistory_within history _ _) kept
    · exact kept ()

end History

/-- A decision writes the model, the scheduling section, and the sequence number. -/
theorem applyRoutingDecision_within
    (allowed : ∀ part name value,
      part ∈ [.model, .scheduling] ∨ part = .header ∧ name = "sequence_number" →
        Within frame (write part name value))
    (view : HarnessSchedulingView) (decision : RoutingDecision) :
    Within frame (applyRoutingDecision view decision) := by
  have history (name : String) (value : Value) : Within frame (writeHistory name value) :=
    writeHistory_within (fun value => allowed _ _ value (Or.inl (by decide))) name value
  unfold applyRoutingDecision
  iterate 5 refine within_seq (allowed _ _ _ (Or.inl (by decide))) ?_
  iterate 3 refine within_seq (history _ _) ?_
  refine within_seq (followTier_within
    (fun value => allowed _ _ value (Or.inl (by decide))) decision) ?_
  refine within_seq (history _ _) ?_
  refine within_bind (within_read _ _) fun decisions => ?_
  refine within_bind (within_lift _) fun _ => ?_
  refine within_seq (allowed _ _ _ (Or.inl (by decide))) ?_
  refine within_bind (within_read _ _) fun sequence => ?_
  exact within_bind (within_lift _) fun _ => allowed _ _ _ (Or.inr ⟨rfl, rfl⟩)

/-- A stamp writes three attributes of the header. -/
theorem stampDecision_within
    (allowed : ∀ name ∈ ["updated_at", "update_source", "dirty_fields"], ∀ value,
      Within frame (write .header name value))
    (decision : RoutingDecision) : Within frame (stampDecision decision) := by
  unfold stampDecision
  refine within_seq (allowed _ (by decide) _) ?_
  refine within_seq (allowed _ (by decide) _) ?_
  refine within_bind (within_read _ _) fun dirty => ?_
  cases dirty with
  | set items => exact allowed _ (by decide) _
  | _ => exact within_throw _

end Decision

/-- The store after a recorded decision. -/
def Store.decide (store : Store) (key : StateKey) (order : Order) (state : AgentState) : Store where
  states := Function.update store.states key (some state)
  lastOrder := Function.update store.lastOrder key (some order)
  events := store.events

/-- The reserved order is the order of the state that the decision changed. -/
theorem reserve_update (store : Store) (key : StateKey) (state : AgentState) :
    Store.reserve { store with states := Function.update store.states key (some state) } key =
      store.decide key state.order state := by
  simp only [Store.reserve, Function.update_self]
  rfl

/-- A recorded decision changes the state of its view and then stamps it. -/
theorem recordRoutingDecision_ran {fresh : Fresh} {view : HarnessSchedulingView}
    {decision : RoutingDecision} {store next : Store}
    (ran : recordRoutingDecision fresh view decision store = .ok () next) :
    (viewKey view = none ∧ next = store) ∨ ∃ key middle state, viewKey view = some key ∧
      applyRoutingDecision view decision ((store.states key).getD
        (newAgentState fresh key.1 key.2 view.tenantId)) = .ok () middle ∧
      stampDecision decision middle = .ok () state ∧
      next = store.decide key middle.order state := by
  unfold recordRoutingDecision at ran
  cases named : viewKey view with
  | none =>
      rw [named] at ran
      cases ran
      exact Or.inl ⟨rfl, rfl⟩
  | some key =>
      rw [named] at ran
      obtain ⟨_, _, applied, continued⟩ := bind_ok ran
      obtain ⟨middle, decided, rfl⟩ := zoom_ok applied
      obtain ⟨_, _, reserved, ended⟩ := bind_ok continued
      cases reserved
      obtain ⟨state, stamped, rfl⟩ := zoom_ok ended
      simp only [reserve_update] at stamped ⊢
      have found : ((store.decide key middle.order middle).states key) = some middle :=
        Function.update_self _ _ _
      rw [found] at stamped
      refine Or.inr ⟨key, middle, state, rfl, decided, stamped, ?_⟩
      rw [Store.decide, Store.decide, Function.update_idem]

/-- A stored or a new state has what stored and new states have. -/
theorem stored_target {inside : AgentState → Prop} {stored : Option AgentState} {new : AgentState}
    (known : ∀ state, stored = some state → inside state) (start : inside new) :
    inside (stored.getD new) := by
  cases stored with
  | none => exact start
  | some state => exact known state rfl

/-- A replaced state keeps what all stored states have. -/
theorem stored_update {inside : AgentState → Prop} {store : Store}
    {states : StateKey → Option AgentState} {key : StateKey} {state : AgentState}
    (stored : ∀ other found, store.states other = some found → inside found)
    (changed : states = Function.update store.states key (some state)) (new : inside state) :
    ∀ other found, states other = some found → inside found := by
  intro other found present
  rw [changed, Function.update_apply] at present
  split at present
  · cases present
    exact new
  · exact stored other found present

/-- A known state stays. An unknown key gets a new state of the harness. -/
theorem getOrCreate_ran {fresh : Fresh} {store next : Store} {key : StateKey}
    {tenantId harnessType : String} {state : AgentState}
    (ran : getOrCreate fresh key tenantId harnessType store = .ok state next) :
    next = store ∨ store.states key = none ∧
      state = (newAgentState fresh key.1 key.2 (.str tenantId)).set .identity "harness_type"
        (.str harnessType) ∧
      next = { store with states := Function.update store.states key (some state) } := by
  unfold getOrCreate at ran
  rw [get_bind] at ran
  cases found : store.states key with
  | some known =>
      rw [found] at ran
      cases ran
      exact Or.inl rfl
  | none =>
      rw [found] at ran
      cases ran
      exact Or.inr ⟨rfl, rfl, rfl⟩

end StateFlow.State
