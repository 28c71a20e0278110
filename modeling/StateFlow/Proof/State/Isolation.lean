import StateFlow.Library.Locality
import StateFlow.Proof.State.Raises

namespace StateFlow.State
open Python Table Effect Scheduler

/-- A store shows each session its state, its last order, and its part of the log. -/
structure SessionView where
  state : Option AgentState
  lastOrder : Option Order
  log : List AgentStateEvent

def Store.session (key : StateKey) (store : Store) : SessionView :=
  ⟨store.states key, store.lastOrder key, store.log key⟩

section Views
variable {key : StateKey} {store other : Store} (same : store.session key = other.session key)
include same

theorem session_states : store.states key = other.states key := congrArg SessionView.state same

theorem session_lastOrder : store.lastOrder key = other.lastOrder key :=
  congrArg SessionView.lastOrder same

theorem session_log : store.log key = other.log key := congrArg SessionView.log same

theorem session_order : store.order key = other.order key := by
  unfold Store.order
  rw [session_lastOrder same]

theorem session_report : store.report key = other.report key := by
  unfold Store.report
  rw [session_states same]

/-- The scheduling view of a session is built from what the store shows it. -/
theorem session_view (env : Environment) (fresh : Fresh) :
    getSchedulingView env fresh store key.1 key.2 = getSchedulingView env fresh other key.1 key.2 := by
  unfold getSchedulingView
  rw [session_states same]

end Views

section Writes
variable (key : StateKey) (store : Store)

@[simp] theorem session_setState (state : AgentState) :
    Store.session key { store with states := Function.update store.states key (some state) } =
      { store.session key with state := some state } := by
  simp [Store.session, Store.log]

@[simp] theorem session_accepted (order : Order) (event : AgentStateEvent) :
    Store.session key { store with
        lastOrder := Function.update store.lastOrder key (some order)
        events := store.events ++ [event] } =
      ⟨store.states key, some order, store.log key ++ if event.key = key then [event] else []⟩ := by
  by_cases own : event.key = key <;> simp [Store.session, Store.log, own]

theorem session_reserve : (store.reserve key).session key =
    match store.states key with
    | some state => { store.session key with
        lastOrder := some (state.get .header "epoch", state.get .header "sequence_number") }
    | none => store.session key := by
  unfold Store.reserve
  split <;> simp_all [Store.session, Store.log]

variable {key} {other : StateKey} (apart : key ≠ other)
include apart

theorem session_setState_ne (state : AgentState) :
    Store.session other { store with states := Function.update store.states key (some state) } =
      store.session other := by
  simp [Store.session, Store.log, Function.update_of_ne apart.symm]

theorem session_accepted_ne (order : Order) {event : AgentStateEvent} (own : event.key = key) :
    Store.session other { store with
        lastOrder := Function.update store.lastOrder key (some order)
        events := store.events ++ [event] } = store.session other := by
  simp [Store.session, Store.log, Function.update_of_ne apart.symm, own, apart]

theorem session_reserve_ne : (store.reserve key).session other = store.session other := by
  unfold Store.reserve
  split
  · simp [Store.session, Store.log, Function.update_of_ne apart.symm]
  · rfl

end Writes

section Local
variable (env : Environment) {key : StateKey}

/-- An update of one state uses only the session of that state. -/
theorem local_onState {A : Type} (created : AgentState) (update : Update A) :
    Local (fun _ => True) (Store.session key) (onState key created update) := by
  refine local_zoom (fun store other _ same => ?_) (fun store other part same => ?_) fun _ _ => trivial
  · rw [session_states same]
  · rw [session_setState, session_setState, same]

theorem local_appendEvent (fresh : Fresh) (received : AgentStateEvent) :
    Local (fun _ => True) (Store.session received.key) (appendEvent env fresh received) := by
  rw [appendEvent_eq]
  refine local_get_bind (fun store other _ same => ?_) fun store _ => ?_
  · simp only [session_order same, session_report same]
  · refine local_lift_bind fun event _ => ?_
    refine local_ite (fun _ => local_pure _) fun _ => ?_
    refine local_bind (local_lift _) fun stale => ?_
    refine local_ite (fun _ => local_pure _) fun _ => ?_
    refine local_seq (local_onState _ _) ?_
    refine local_seq (local_modify (fun store other same => ?_) fun _ _ => trivial) ?_
    · rw [session_accepted, session_accepted, session_states same, session_log same]
    · refine local_get_bind (fun store other _ same => ?_) fun _ _ => local_pure _
      simp only [session_report same]

theorem local_getOrCreate (fresh : Fresh) (tenantId harnessType : String) :
    Local (fun _ => True) (Store.session key) (getOrCreate fresh key tenantId harnessType) := by
  unfold getOrCreate
  refine local_get_bind (fun store other _ same => ?_) fun store _ => ?_
  · rw [session_states same]
  · split
    · exact local_pure _
    · refine local_seq (local_modify (fun store other same => ?_) fun _ _ => trivial) (local_pure _)
      rw [session_setState, session_setState, same]

theorem local_recordRoutingDecision (fresh : Fresh) {view : HarnessSchedulingView}
    (decision : RoutingDecision) (named : viewKey view = some key) :
    Local (fun _ => True) (Store.session key) (recordRoutingDecision fresh view decision) := by
  unfold recordRoutingDecision
  rw [named]
  refine local_seq (local_onState _ _) (local_seq (local_modify (fun store other same => ?_)
    fun _ _ => trivial) (local_onState _ _))
  rw [session_reserve, session_reserve, session_states same, same]

end Local

section Apart
variable (env : Environment) {key other : StateKey} (apart : key ≠ other)
include apart

theorem onState_apart {A : Type} (created : AgentState) (update : Update A) :
    Within (Frame.fixes (Store.session other)) (onState key created update) := by
  intro store
  rw [onState, zoom_finalState]
  exact session_setState_ne store apart _

theorem getOrCreate_apart (fresh : Fresh) (tenantId harnessType : String) :
    Within (Frame.fixes (Store.session other)) (getOrCreate fresh key tenantId harnessType) := by
  unfold getOrCreate
  refine within_bind within_get fun store => ?_
  split
  · exact within_pure _
  · exact within_seq (within_modify _ fun store => session_setState_ne store apart _) (within_pure _)

theorem recordRoutingDecision_apart (fresh : Fresh) {view : HarnessSchedulingView}
    (decision : RoutingDecision) (named : viewKey view = some key) :
    Within (Frame.fixes (Store.session other)) (recordRoutingDecision fresh view decision) := by
  unfold recordRoutingDecision
  rw [named]
  refine within_seq (onState_apart apart _ _) (within_seq (within_modify _ fun store => ?_)
    (onState_apart apart _ _))
  exact session_reserve_ne store apart

omit apart in
theorem appendEvent_apart (fresh : Fresh) {received : AgentStateEvent} (apart : received.key ≠ other) :
    Within (Frame.fixes (Store.session other)) (appendEvent env fresh received) := by
  rw [appendEvent_eq]
  refine within_bind within_get fun store => within_lift_bind fun event sequenced => ?_
  refine within_ite (fun _ => within_pure _) fun _ => within_bind (within_lift _) fun stale => ?_
  refine within_ite (fun _ => within_pure _) fun _ => within_seq (onState_apart apart _ _) ?_
  refine within_seq (within_modify _ fun store => ?_) ?_
  · exact session_accepted_ne store apart _ (sequenced_key sequenced)
  · exact within_bind within_get fun _ => within_pure _

end Apart

/-- The session that a call is about. A view without text identifiers names none. -/
def StoreCall.key : StoreCall → Option StateKey
  | .append _ event => some event.key
  | .getOrCreate _ key _ _ => some key
  | .record _ view _ => viewKey view

section Calls
variable (env : Environment) {key : StateKey} {call : StoreCall}

theorem local_call (own : call.key = some key) :
    Local (fun _ => True) (Store.session key) (call.run env) := by
  cases call with
  | append fresh event =>
      cases own
      exact local_bind (local_appendEvent env fresh event) fun _ => local_pure _
  | getOrCreate fresh other tenantId harnessType =>
      cases own
      exact local_bind (local_getOrCreate fresh tenantId harnessType) fun _ => local_pure _
  | record fresh view decision =>
      exact local_bind (local_recordRoutingDecision fresh decision own) fun _ => local_pure _

theorem call_apart (other : call.key ≠ some key) :
    Within (Frame.fixes (Store.session key)) (call.run env) := by
  cases call with
  | append fresh event =>
      have apart : event.key ≠ key := fun same => other (congrArg some same)
      exact within_bind (appendEvent_apart env fresh apart) fun _ => within_pure _
  | getOrCreate fresh named tenantId harnessType =>
      have apart : named ≠ key := fun same => other (congrArg some same)
      exact within_bind (getOrCreate_apart apart fresh tenantId harnessType) fun _ => within_pure _
  | record fresh view decision =>
      cases named : viewKey view with
      | some found =>
          have apart : found ≠ key := fun same => other (named.trans (congrArg some same))
          exact within_bind (recordRoutingDecision_apart apart fresh decision named)
            fun _ => within_pure _
      | none =>
          refine within_bind ?_ fun _ => within_pure _
          unfold recordRoutingDecision
          rw [named]
          exact within_pure _

end Calls

/-- The answers that the clients of a store see. -/
def answers (env : Environment) (calls : List StoreCall) (store : Store) :
    List (StoreCall × Except Exception (Option AppendResult)) :=
  transcript (StoreCall.run env) calls store

end StateFlow.State
