import StateFlow.Proof.Gateway.TypedRuns
import StateFlow.Proof.Scheduler.Streak
import StateFlow.Proof.State.Isolation

namespace StateFlow.Gateway
open Python Table Effect State Scheduler

section Names

/-- The header of a state names its session and its task. -/
def namesOf (state : AgentState) : Value × Value :=
  (state.get .header "session_id", state.get .header "task_id")

/-- The names that belong to a key. -/
def keyNames (key : StateKey) : Value × Value := (.str key.1, .str key.2)

theorem namesOf_set {state : AgentState} {part : Section} {name : String} (value : Value)
    (other : part ≠ .header ∨ name ≠ "session_id" ∧ name ≠ "task_id") :
    namesOf (state.set part name value) = namesOf state := by
  have session : ¬ (Section.header = part ∧ "session_id" = name) := fun same =>
    other.elim (fun apart => apart same.1.symm) fun apart => apart.1 same.2.symm
  have task : ¬ (Section.header = part ∧ "task_id" = name) := fun same =>
    other.elim (fun apart => apart same.1.symm) fun apart => apart.2 same.2.symm
  rw [namesOf, namesOf, AgentState.get_set, AgentState.get_set, if_neg session, if_neg task]

theorem newAgentState_names (fresh : Fresh) (key : StateKey) (tenantId : Value) :
    namesOf (newAgentState fresh key.1 key.2 tenantId) = keyNames key := by
  unfold newAgentState
  rw [namesOf_set _ (Or.inl (by decide)), namesOf_set _ (Or.inl (by decide)),
    namesOf_set _ (Or.inl (by decide))]
  rfl

theorem write_names {part : Section} {name : String} (value : Value)
    (other : part ≠ .header ∨ name ≠ "session_id" ∧ name ≠ "task_id") :
    Within (Frame.fixes namesOf) (write part name value) :=
  within_write (fun _ value => namesOf_set value other) value

theorem handles_names :
    Handles (ProgramLogic.within (Frame.fixes namesOf)) fun part => part ≠ .header :=
  handles_fixes (fun _ _ _ value apart => namesOf_set value (Or.inl apart)) fun _ _ _ => rfl

variable (env : Environment) (event : AgentStateEvent)

variable (plain : event.payload.lookup "header" = none)
include plain

/-- Only a patch of the header renames a state. -/
theorem applyClass_names :
    Within (Frame.fixes namesOf) (applyClass env event (event.kind env)) := by
  have handles := handles_names
  have classes : ∀ kind ∈ eventClasses, kind ∉ [.turnStarted, .patch] →
      ∀ part ∈ kind.sections, part ≠ .header := by decide
  have others (apart : event.kind env ∉ [.turnStarted, .patch]) :
      Within (Frame.fixes namesOf) (applyClass env event (event.kind env)) :=
    handles.applyClass env event _ (classes _ (classify_listed _) apart)
  cases kind : event.kind env with
  | patch =>
      refine handles.applyPatch_named env event fun part => ?_
      by_cases header : part = .header
      · exact .inr (header ▸ plain)
      · exact .inl header
  | turnStarted =>
      have last : Within (Frame.fixes namesOf) (do
          setSection env event .context (event.nested "context")
          setSection env event .prediction (event.optional "prediction")
          setPhase event .runnable
          write .lifecycle "runnable" (.bool true)
          mark event (.part .lifecycle)) := by
        refine within_seq (handles.setSection env event (by decide) _) ?_
        refine within_seq (handles.setSection env event (by decide) _) ?_
        refine within_seq (handles.setPhase event (by decide) _) ?_
        exact within_seq (write_names _ (Or.inl (by decide))) (handles.marks event rfl)
      refine within_seq (write_names _ (Or.inl (by decide))) ?_
      refine within_seq (write_names _ (Or.inr (by decide))) ?_
      exact within_ite (fun _ => within_seq (write_names _ (Or.inl (by decide))) last) fun _ => last
  | _ =>
      rw [kind] at others
      exact others (by simp)

/-- An event leaves its state with the names of its key, also when it raises. -/
theorem handle_names :
    Within (Frame.keeps fun state => namesOf state = keyNames event.key) (State.handle env event) := by
  have kept {A : Type} {program : Update A} (fixed : Within (Frame.fixes namesOf) program) :
      Within (Frame.keeps fun state => namesOf state = keyNames event.key) program :=
    fun state named => (fixed state).trans named
  have plainText (name text : String) (other : name ≠ "session_id" ∧ name ≠ "task_id") :
      Within (Frame.fixes namesOf) (setHeaderText name text) :=
    within_ite (fun _ => write_names _ (Or.inr other)) fun _ => within_pure _
  refine within_seq (within_seq (kept ?_) (kept (applyClass_names env event plain))) ?_
  · exact handles_names.applyIdentity env event (by decide) (by decide) _
  unfold applyHeader
  refine within_seq (within_modify _ fun state (named : namesOf state = _) => ?_) ?_
  · exact Prod.ext rfl (Prod.ext_iff.mp named).2
  refine within_seq (within_modify _ fun state (named : namesOf state = _) => ?_) (kept ?_)
  · exact Prod.ext (Prod.ext_iff.mp named).1 rfl
  refine within_bind (within_read _ _) fun turn => within_bind (within_lift _) fun _ => ?_
  refine within_seq (write_names _ (Or.inr (by decide))) ?_
  iterate 5 refine within_seq (plainText _ _ (by decide)) ?_
  iterate 4 refine within_seq (write_names _ (Or.inr (by decide))) ?_
  refine within_bind (within_read _ _) fun dirty => ?_
  cases dirty with
  | set items => exact write_names _ (Or.inr (by decide))
  | _ => exact within_throw _

end Names

/-- A stored state has the names of its session. -/
def Named (key : StateKey) (view : SessionView) : Prop :=
  ∀ state, view.state = some state → namesOf state = keyNames key

/-- This frame keeps the names of one session. -/
def keepsNamed (key : StateKey) : Frame Store := Frame.keeps fun store => Named key (store.session key)

def NamedStore (store : Store) : Prop := ∀ key, Named key (store.session key)

section Named

theorem named_set {key other : StateKey} {store : Store} {state : AgentState}
    (own : namesOf state = keyNames key) (named : Named other (store.session other)) :
    Named other (Store.session other
      { store with states := Function.update store.states key (some state) }) := by
  by_cases same : key = other
  · subst same
    rw [session_setState]
    intro found present
    cases present
    exact own
  · rw [session_setState_ne store same]
    exact named

/-- An update that keeps the names of a state keeps those of every session. -/
theorem onState_named {A : Type} {key other : StateKey} {fresh : Fresh} {tenantId : Value}
    {update : Update A}
    (keeps : Within (Frame.keeps fun state => namesOf state = keyNames key) update) :
    Within (keepsNamed other) (onState key (newAgentState fresh key.1 key.2 tenantId) update) := by
  intro store named
  by_cases same : key = other
  · subst same
    rw [onState, zoom_finalState]
    refine named_set (keeps _ ?_) named
    cases found : store.states key with
    | none => exact newAgentState_names fresh key tenantId
    | some state => exact named state found
  · exact (onState_apart same _ _ store).symm ▸ named

variable (env : Environment) {other : StateKey}

theorem appendEvent_named (fresh : Fresh) {received : AgentStateEvent}
    (plain : received.payload.lookup "header" = none) :
    Within (keepsNamed other) (appendEvent env fresh received) := by
  rw [appendEvent_eq]
  refine within_bind within_get fun store => within_lift_bind fun event sequenced => ?_
  have same := sequenced_same sequenced
  refine within_ite (fun _ => within_pure _) fun _ => within_bind (within_lift _) fun stale => ?_
  refine within_ite (fun _ => within_pure _) fun _ => within_seq ?_ ?_
  · have updated := handle_names env event (by rw [same]; exact plain)
    rw [same] at updated ⊢
    exact onState_named updated
  · refine within_seq (within_modify _ fun store named => named) ?_
    exact within_bind within_get fun _ => within_pure _

theorem getOrCreate_named (fresh : Fresh) (key : StateKey) (tenantId harnessType : String) :
    Within (keepsNamed other) (getOrCreate fresh key tenantId harnessType) := by
  unfold getOrCreate
  refine within_bind within_get fun store => ?_
  split
  · exact within_pure _
  · refine within_seq (within_modify _ fun store named => named_set ?_ named) (within_pure _)
    rw [namesOf_set _ (Or.inl (by decide))]
    exact newAgentState_names fresh key _

theorem writeHistory_names (name : String) (value : Value) :
    Within (Frame.fixes namesOf) (writeHistory name value) :=
  within_bind (within_read _ _) fun _ => within_bind (within_lift _) fun _ =>
    write_names _ (Or.inl (by decide))

theorem applyRoutingDecision_names (view : HarnessSchedulingView) (decision : RoutingDecision) :
    Within (Frame.fixes namesOf) (applyRoutingDecision view decision) := by
  have reads (name : String) : Within (Frame.fixes namesOf) (readHistory name) :=
    within_bind (within_read _ _) fun _ => within_lift _
  have follows : Within (Frame.fixes namesOf) (followTier decision) := by
    unfold followTier
    refine within_bind (reads _) fun previous => ?_
    extract_lets selected last
    have ends : ∀ done, Within (Frame.fixes namesOf) (last done) := fun _ => writeHistory_names _ _
    refine within_ite (fun _ => ?_) fun _ => ?_
    · refine within_bind (reads _) fun steps => within_bind (within_lift _) fun _ => ?_
      exact within_bind (writeHistory_names _ _) ends
    · iterate 3 refine within_seq (writeHistory_names _ _) ?_
      refine within_ite (fun _ => ?_) fun _ => ends ()
      refine within_bind (reads _) fun count => within_bind (within_lift _) fun _ => ?_
      exact within_bind (writeHistory_names _ _) ends
  unfold applyRoutingDecision
  iterate 5 refine within_seq (write_names _ (Or.inl (by decide))) ?_
  iterate 3 refine within_seq (writeHistory_names _ _) ?_
  refine within_seq follows (within_seq (writeHistory_names _ _) ?_)
  refine within_bind (within_read _ _) fun history => within_bind (within_lift _) fun _ => ?_
  refine within_seq (write_names _ (Or.inl (by decide))) ?_
  refine within_bind (within_read _ _) fun sequence => within_bind (within_lift _) fun _ => ?_
  exact write_names _ (Or.inr (by decide))

theorem stampDecision_names (decision : RoutingDecision) :
    Within (Frame.fixes namesOf) (stampDecision decision) := by
  unfold stampDecision
  iterate 2 refine within_seq (write_names _ (Or.inr (by decide))) ?_
  refine within_bind (within_read _ _) fun dirty => ?_
  cases dirty with
  | set items => exact write_names _ (Or.inr (by decide))
  | _ => exact within_throw _

theorem recordRoutingDecision_named (fresh : Fresh) (view : HarnessSchedulingView)
    (decision : RoutingDecision) :
    Within (keepsNamed other) (recordRoutingDecision fresh view decision) := by
  have kept {key : StateKey} {program : Update Unit} (fixed : Within (Frame.fixes namesOf) program) :
      Within (Frame.keeps fun state => namesOf state = keyNames key) program :=
    fun state named => (fixed state).trans named
  unfold recordRoutingDecision
  split
  · refine within_seq (onState_named (kept (applyRoutingDecision_names _ _))) (within_seq
      (within_modify _ fun store named => ?_) (onState_named (kept (stampDecision_names _))))
    unfold Store.reserve
    split <;> exact named
  · exact within_pure _

end Named

section Handle
variable {gateway : RequestGateway} {moment : Moment} {request : ProviderNeutralRequest}
  {key other : StateKey}

theorem append_named (fresh : Fresh) {event : AgentStateEvent}
    (plain : event.payload.lookup "header" = none) :
    Within (keepsNamed other) (append gateway fresh event) :=
  within_bind (appendEvent_named gateway.env fresh plain) fun _ => within_pure _

theorem append_apart (fresh : Fresh) {event : AgentStateEvent} (apart : event.key ≠ key) :
    Within (Frame.fixes (Store.session key)) (append gateway fresh event) :=
  within_bind (appendEvent_apart gateway.env fresh apart) fun _ => within_pure _

/-- A local computation that keeps the names of its session. -/
theorem local_named {A : Type} {program : EStateM Exception Store A}
    (uses : Local (fun _ => True) (Store.session key) program)
    (keeps : Within (keepsNamed key) program) : Local (Named key) (Store.session key) program :=
  fun store other start same =>
    ⟨(uses store other trivial same).1, (uses store other trivial same).2.1, keeps store start⟩

theorem local_append (fresh : Fresh) {event : AgentStateEvent} (own : event.key = key)
    (plain : event.payload.lookup "header" = none) :
    Local (Named key) (Store.session key) (append gateway fresh event) := by
  subst own
  exact local_named (local_bind (local_appendEvent gateway.env fresh event) fun _ => local_pure _)
    (append_named fresh plain)

theorem requestEvent_plain (now : Int) :
    (modelRequestEvent request now).payload.lookup "header" = none := by
  change request.toStatePayload.lookup "header" = none
  unfold ProviderNeutralRequest.toStatePayload
  cases request.costBudget <;> rfl

/-- A request is routed by the view of its own session. -/
theorem route_names {store : Store} (named : Named request.key (store.session request.key))
    {view : HarnessSchedulingView} {decision : RoutingDecision} {target : TargetCandidate}
    (routed : route gateway moment request store = .ok (.target view decision target)) :
    viewKey view = some request.key := by
  obtain ⟨read, built, viewed⟩ := except_bind_ok routed
  rw [(routeView_target viewed).1]
  have shows := buildSchedulingView_shows built
  have names : (read.sessionId, read.taskId) = keyNames request.key := by
    rw [shows.session, shows.task]
    change namesOf ((store.states request.key).getD _) = _
    cases found : store.states request.key with
    | none => exact newAgentState_names _ request.key _
    | some state => exact named state found
  have session : read.sessionId = .str request.sessionId := (Prod.ext_iff.mp names).1
  have task : read.taskId = .str request.taskId := (Prod.ext_iff.mp names).2
  unfold viewKey ProviderNeutralRequest.overwrite
  dsimp only
  rw [session, task]
  rfl

/-- A decision without its exception. -/
theorem local_suppressed {sink : EStateM Exception Store Unit}
    (uses : Local (Named key) (Store.session key) sink) :
    Local (Named key) (Store.session key) (suppressed sink) :=
  fun store other start same => ⟨rfl, (uses store other start same).2⟩

theorem within_suppressed {frame : Frame Store} {sink : EStateM Exception Store Unit}
    (inside : Within frame sink) : Within frame (suppressed sink) :=
  fun store => inside store

/-- A routed request writes to its own session. -/
def RoutedHere (key : StateKey) : Routed → Prop
  | .target view _ _ => viewKey view = some key
  | .noFeasibleTarget _ _ => True

theorem route_here {store : Store} (named : Named request.key (store.session request.key))
    {routed : Routed} (found : route gateway moment request store = .ok routed) :
    RoutedHere request.key routed := by
  cases routed with
  | target view decision target => exact route_names named found
  | noFeasibleTarget message rejections => trivial

theorem local_finish {routed : Routed} (here : RoutedHere request.key routed) :
    Local (Named request.key) (Store.session request.key) (finish gateway moment request routed) := by
  cases routed with
  | noFeasibleTarget message rejections =>
      exact local_seq (local_append _ rfl rfl) (local_pure _)
  | target view decision target =>
      refine local_seq (local_suppressed (local_named ?_ (recordRoutingDecision_named _ _ _))) ?_
      · exact local_recordRoutingDecision moment.written decision here
      · split
        · exact local_seq (local_append _ rfl rfl) (local_pure _)
        · exact local_seq (local_append _ rfl rfl) (local_pure _)

theorem local_handle :
    Local (Named request.key) (Store.session request.key) (handle gateway moment request) := by
  unfold handle
  refine local_seq (local_append _ rfl (requestEvent_plain _)) ?_
  refine local_get_bind (fun store other _ same => ?_) fun store named => ?_
  · have seen : route gateway moment request store = route gateway moment request other := by
      unfold route
      rw [show getSchedulingView gateway.env moment.viewed store request.sessionId request.taskId = _
        from session_view same gateway.env moment.viewed]
      rfl
    rw [seen]
  · exact local_lift_bind fun routed found => local_finish (route_here named found)

theorem finish_named (routed : Routed) :
    Within (keepsNamed other) (finish gateway moment request routed) := by
  cases routed with
  | noFeasibleTarget message rejections =>
      exact within_seq (append_named _ rfl) (within_pure _)
  | target view decision target =>
      refine within_seq (within_suppressed (recordRoutingDecision_named _ _ _)) ?_
      split
      · exact within_seq (append_named _ rfl) (within_pure _)
      · exact within_seq (append_named _ rfl) (within_pure _)

theorem handle_named : Within (keepsNamed other) (handle gateway moment request) := by
  unfold handle
  refine within_seq (append_named _ (requestEvent_plain _)) ?_
  exact within_bind within_get fun _ => within_bind (within_lift _) fun routed => finish_named routed

theorem finish_apart {routed : Routed} (here : RoutedHere request.key routed)
    (apart : request.key ≠ key) :
    Within (Frame.fixes (Store.session key)) (finish gateway moment request routed) := by
  cases routed with
  | noFeasibleTarget message rejections =>
      exact within_seq (append_apart _ apart) (within_pure _)
  | target view decision target =>
      refine within_seq (within_suppressed (recordRoutingDecision_apart apart _ _ here)) ?_
      split
      · exact within_seq (append_apart _ apart) (within_pure _)
      · exact within_seq (append_apart _ apart) (within_pure _)

theorem handle_apart (apart : request.key ≠ key) :
    Within (Frame.guards NamedStore (Store.session key)) (handle gateway moment request) := by
  have guarded {A : Type} {program : EStateM Exception Store A}
      (named : ∀ other, Within (keepsNamed other) program)
      (fixes : Within (Frame.fixes (Store.session key)) program) :
      Within (Frame.guards NamedStore (Store.session key)) program :=
    Within.guards (fun store start other => named other store (start other)) fixes
  unfold handle
  refine within_seq (guarded (fun _ => append_named _ (requestEvent_plain _))
    (append_apart _ apart)) ?_
  refine within_get_guards fun store named => within_lift_bind fun routed found => ?_
  exact guarded (fun _ => finish_named routed) (finish_apart (route_here (named _) found) apart)

end Handle

/-- The session that an action is about. -/
def Action.key : Action → Option StateKey
  | .store call => call.key
  | .serve _ request => some request.key

/-- A report patches no header section. -/
def Action.Plain : Action → Prop
  | .store (.append _ event) => (event.payload.lookup "header").isNone = true
  | _ => True

instance : (action : Action) → Decidable action.Plain
  | .store (.append _ event) =>
      inferInstanceAs (Decidable ((event.payload.lookup "header").isNone = true))
  | .store (.getOrCreate ..) | .store (.record ..) | .serve .. => .isTrue trivial

section Actions
variable {gateway : RequestGateway} {action : Action} {key : StateKey} (plain : action.Plain)
include plain

theorem action_named (other : StateKey) : Within (keepsNamed other) (action.run gateway) := by
  cases action with
  | store call =>
      refine within_bind ?_ fun _ => within_pure _
      cases call with
      | append fresh event =>
          have named := @appendEvent_named gateway.env other fresh _ (Option.isNone_iff_eq_none.mp plain)
          exact within_bind named fun _ => within_pure _
      | getOrCreate fresh key tenantId harnessType =>
          exact within_bind (getOrCreate_named fresh key tenantId harnessType) fun _ => within_pure _
      | record fresh view decision =>
          exact within_bind (recordRoutingDecision_named fresh view decision) fun _ => within_pure _
  | serve moment request => exact within_bind handle_named fun _ => within_pure _

theorem local_action (own : action.key = some key) :
    Local (Named key) (Store.session key) (action.run gateway) := by
  cases action with
  | store call =>
      refine local_named ?_ (action_named plain key)
      exact local_bind (local_call gateway.env own) fun _ => local_pure _
  | serve moment request =>
      cases own
      exact local_bind local_handle fun _ => local_pure _

theorem action_apart (other : action.key ≠ some key) :
    Within (Frame.guards NamedStore (Store.session key)) (action.run gateway) := by
  cases action with
  | store call =>
      refine Within.guards (fun store start other => action_named plain other store (start other)) ?_
      exact within_bind (call_apart gateway.env other) fun _ => within_pure _
  | serve moment request =>
      have apart : request.key ≠ key := fun same => other (congrArg some same)
      refine within_bind (handle_apart apart) fun _ => ?_
      exact Within.guards (within_pure _) (within_pure _)

end Actions

/-- The answers that the clients of a gateway and of its store see. -/
def responses (gateway : RequestGateway) (actions : List Action) :
    List (Action × Except Exception Answer) :=
  transcript (Action.run gateway) actions Store.empty

section Demo

/-- The demo session shares the gateway with another session. -/
def sharedActions : List Action :=
  .serve firstMoment { firstRequest with sessionId := "other" } :: demoActions

end Demo

end StateFlow.Gateway
