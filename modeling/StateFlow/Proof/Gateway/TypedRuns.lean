import StateFlow.Proof.Gateway.Constraints
import StateFlow.Proof.State.Completion
import StateFlow.Proof.State.Progress

namespace StateFlow.Gateway
open Python Table Effect State Scheduler Selection

section Schedule
variable {host : Host} {config : SchedulerConfig} {predictor : SuccessPredictor}
  {stamp : DecisionStamp} {view : HarnessSchedulingView} {targets : List TargetCandidate}

/-- A schedule of a well typed view selects a registered key, finds none, or raises. -/
theorem schedule_cases (typed : WellTyped view) :
    (∃ decision, schedule host config predictor stamp view targets = .ok decision ∧
      ∃ target ∈ targets, target.key = decision.selectedKey) ∨
    (∃ message rejections, schedule host config predictor stamp view targets =
      .error (.noFeasibleTarget message rejections)) ∨
    ∃ exception, schedule host config predictor stamp view targets = .error (.raised exception) := by
  obtain ⟨reads, read⟩ := typed.reads
  unfold schedule
  split
  · exact .inr (.inl ⟨_, _, rfl⟩)
  · simp only [read.limits, raising, bind, Except.bind]
    split
    · exact .inr (.inl ⟨_, _, rfl⟩)
    · simp only [read.risks]
      cases chosen : choosePolicy host config (predictor view) reads.risks
          (filterTargets reads.limits targets).eligible with
      | error exception => exact .inr (.inr ⟨exception, rfl⟩)
      | ok policy =>
          simp only [read.outlook]
          rcases runGates_cases host config reads.limits reads.outlook view.criticalPathUrgency policy
            with ⟨ran, present⟩ | ⟨⟨message, rejections, ran⟩, _⟩
          · have passed : Passed host config reads.limits reads.outlook view.criticalPathUrgency policy
              (gateStages host config reads.limits reads.outlook view.criticalPathUrgency policy) :=
              gateStages_passed
            have timed : (gateStages host config reads.limits reads.outlook view.criticalPathUrgency
                policy).timed ≠ [] := by
              rw [passed.timed]
              exact fun empty => passed.costGate_ne_nil present (List.map_eq_nil_iff.mp empty)
            obtain ⟨selected, reason, placed, member, _⟩ :=
              @selectTarget_placed host config view reads _ typed read.place timed
            obtain ⟨target, listed, key⟩ := passed.timed_key member
            have sub : policy.targets.Sublist targets :=
              (choosePolicy_ok chosen).sublist.trans List.filter_sublist
            rw [ran]
            simp only [placed]
            exact .inl ⟨_, rfl, target, sub.subset listed, key⟩
          · rw [ran]
            exact .inr (.inl ⟨message, rejections, rfl⟩)

end Schedule

section Route
variable {gateway : RequestGateway} {moment : Moment} {request : ProviderNeutralRequest}

/-- The counts of a request are integers, and its capabilities are texts. -/
theorem overwrite_wellTyped {view : HarnessSchedulingView} (typed : TypedView view) :
    WellTyped (request.overwrite view) where
  promptTokens := ⟨_, rfl⟩
  predictedOutputTokens := ⟨_, rfl⟩
  requiredCapabilities value member := by
    rcases List.mem_append.mp (mem_of_mem_distinct member) with stored | requested
    · exact typed.capabilities value stored
    · obtain ⟨name, _, rfl⟩ := List.mem_map.mp requested
      exact ⟨name, rfl⟩
  costBudget := typed.costBudget
  failureStreak := typed.failureStreak
  consecutiveFailures := typed.consecutiveFailures
  phase := typed.phase
  remainingTurns := typed.remainingTurns
  nextModelCall := typed.nextModelCall
  sessionTurn := typed.sessionTurn
  migrationPenalty := typed.migrationPenalty
  currentTier := typed.currentTier
  stableSteps := typed.stableSteps

/-- A routed target keeps the numbers of the view that its decision writes back. -/
def RoutedTyped : Routed → Prop
  | .target view _ _ => IsNumber view.failureStreak ∧ scalar view.tenantId = true
  | .noFeasibleTarget _ _ => True

/-- The scheduler raises on the view of a request. -/
def ScheduleRaises (gateway : RequestGateway) (moment : Moment) (request : ProviderNeutralRequest)
    (recorded : Store) (exception : Exception) : Prop :=
  ∃ view, getSchedulingView gateway.env moment.viewed recorded request.sessionId request.taskId =
      .ok view ∧
    schedule gateway.host gateway.config gateway.predictor moment.stamp (request.overwrite view)
      gateway.targets = .error (.raised exception)

/-- A typed store has a route unless the scheduler raises. -/
theorem route_cases {store : Store} (typed : TypedStore store) :
    Yields (route gateway moment request store) RoutedTyped ∨
    ∃ exception, ScheduleRaises gateway moment request store exception ∧
      route gateway moment request store = .error exception := by
  obtain ⟨view, viewed, shown⟩ := @getSchedulingView_yields gateway.env store typed moment.viewed
    request.sessionId request.taskId
  unfold route
  rw [viewed]
  change Yields (routeView gateway moment (request.overwrite view)) RoutedTyped ∨
    ∃ exception, ScheduleRaises gateway moment request store exception ∧
      routeView gateway moment (request.overwrite view) = .error exception
  unfold routeView
  rcases @schedule_cases gateway.host gateway.config gateway.predictor moment.stamp _ gateway.targets
      (overwrite_wellTyped shown) with
    ⟨decision, scheduled, target, listed, key⟩ | ⟨message, rejections, scheduled⟩ |
      ⟨exception, scheduled⟩
  · rw [scheduled]
    have found : (selectedTarget gateway decision).isSome = true := by
      unfold selectedTarget
      rw [List.find?_isSome]
      exact ⟨target, listed, decide_eq_true key⟩
    obtain ⟨selected, known⟩ := Option.isSome_iff_exists.mp found
    simp only [known]
    exact .inl (yields_ok ⟨shown.failureStreak, shown.tenant⟩)
  · rw [scheduled]
    exact .inl (yields_ok trivial)
  · rw [scheduled]
    exact .inr ⟨exception, ⟨view, viewed, scheduled⟩, rfl⟩

end Route

section Events
variable {env : Environment} {request : ProviderNeutralRequest} {now : Int}

/-- An identity patch reports attributes of its mapping. -/
theorem mem_identityPatch {items : List (String × Value)} {entry : String × Value}
    (flat : ∀ nested, items.lookup "identity" ≠ some (.dict nested))
    (inside : entry ∈ identityPatch env (.dict items)) :
    entry.1 ∈ identityAttributes ∧ items.lookup entry.1 = some entry.2 := by
  have same : identityPatch env (.dict items) =
      env.identityKeys.filterMap fun key => (items.lookup key).map fun value => (key, value) := by
    unfold identityPatch
    dsimp only
    split
    · rename_i nested known
      exact absurd known (flat nested)
    · rfl
  rw [same] at inside
  obtain ⟨key, listed, found⟩ := List.mem_filterMap.mp inside
  obtain ⟨value, present, rfl⟩ := Option.map_eq_some_iff.mp found
  exact ⟨env.identityKeysPerm.mem_iff.mp listed, present⟩

/-- A mapping with the attributes of its section converts entry by entry. -/
theorem patches_of_entries {part : Section} {items : List (String × Value)}
    (entries : ∀ entry ∈ items,
      (kindOf part entry.1).accepts entry.2 = true ∧ Converts part entry.1 entry.2) :
    Patches part (.dict items) :=
  ⟨⟨items, rfl, fun entry member => (entries entry member).2⟩,
    List.all_eq_true.mpr fun entry member => (entries entry member).1⟩

theorem converts_sorted {part : Section} {key : String} (names : List String)
    (kind : kindOf part key = .set) : Converts part key (sorted names) :=
  converts_texts _ kind

theorem security_patches (request : ProviderNeutralRequest) :
    Patches .security (.dict (securityEntries request)) := by
  refine patches_of_entries ?_
  unfold securityEntries
  simp only [List.forall_mem_cons]
  refine ⟨⟨rfl, converts_plain _ (by decide)⟩, ⟨rfl, converts_plain _ (by decide)⟩,
    ⟨rfl, converts_sorted _ rfl⟩, ⟨rfl, converts_sorted _ rfl⟩, ⟨rfl, converts_sorted _ rfl⟩,
    ⟨rfl, converts_plain _ (by decide)⟩, fun _ inside => by cases inside⟩

theorem quality_patches (request : ProviderNeutralRequest) :
    Patches .qos (.dict (qualityEntries request)) := by
  refine patches_of_entries ?_
  unfold qualityEntries
  cases request.costBudget with
  | none => exact fun _ inside => by cases inside
  | some budget =>
      refine List.forall_mem_singleton.mpr ⟨rfl, converts_plain _ ?_⟩
      show kindOf .qos "task_cost_budget" ∈ _
      decide

section Handled
variable {event : AgentStateEvent} (eternal : event.ttl = none)
include eternal

theorem eternal_expires : (event.field .none).representable = true := by
  unfold StateField.representable AgentStateEvent.field
  rw [eternal]

/-- The store applies the event of a request to every typed state. -/
theorem request_handled (upper : env.upper "MODEL_REQUESTED" = "MODEL_REQUESTED")
    (named : event.eventType = "MODEL_REQUESTED") (records : Records request event)
    (numeric : IsNumber event.sequence) : Completes Typed (State.handle env event) fun _ => True := by
  have kind : event.kind env = .modelRequest := by
    rw [AgentStateEvent.kind, named, upper]
    decide
  refine completes_handle (eternal_expires eternal) (fun entry inside => ?_) ?_ numeric
  · rw [AgentStateEvent.nested, records] at inside
    obtain ⟨_, found⟩ := mem_identityPatch (fun nested other => by cases other) inside
    have same : entry = ("tenant_id", .str request.tenantId) :=
      List.mem_singleton.mp (mem_of_lookup found)
    subst same
    refine ⟨rfl, converts_plain _ ?_⟩
    show kindOf .identity "tenant_id" ∈ _
    decide
  · rw [kind]
    refine completes_applyModelRequest (eternal_expires eternal) ?_ ?_ ?_
    · rw [records]
      intro key listed value found
      simp only [List.mem_cons, List.not_mem_nil, or_false] at listed
      rcases listed with rfl | rfl <;> cases found <;> exact yields_ok trivial
    · rw [records]
      intro value found
      cases found
      exact toSet_texts _
    · rw [records]
      intro part listed value found
      simp only [List.mem_cons, List.not_mem_nil, or_false] at listed
      rcases listed with rfl | rfl | rfl | rfl
      · cases budget : request.costBudget <;>
          simp [ProviderNeutralRequest.toStatePayload, budget, Section.label, List.lookup_cons,
            List.lookup_nil] at found
      · cases found
        exact security_patches request
      · cases budget : request.costBudget <;>
          simp [ProviderNeutralRequest.toStatePayload, budget, Section.label, List.lookup_cons,
            List.lookup_nil] at found
      · have quality := quality_patches request
        unfold qualityEntries at quality
        cases budget : request.costBudget with
        | none =>
            simp [ProviderNeutralRequest.toStatePayload, budget, Section.label, List.lookup_cons,
              List.lookup_nil] at found
        | some amount =>
            rw [budget] at quality
            simp [ProviderNeutralRequest.toStatePayload, budget, Section.label, List.lookup_cons] at found
            exact found ▸ quality

omit eternal in
/-- A payload without an identity attribute patches no identity. -/
theorem unidentified (other : event.payload.all (fun entry => entry.1 ∉ "identity" :: identityAttributes) =
      true) : identityPatch env (event.nested "identity") = [] := by
  have apart {key : String} {value : Value} (found : event.payload.lookup key = some value) :
      key ∉ "identity" :: identityAttributes :=
    of_decide_eq_true (List.all_eq_true.mp other _ (mem_of_lookup found))
  have whole : event.nested "identity" = .dict event.payload := by
    unfold AgentStateEvent.nested getD
    cases found : event.payload.lookup "identity" with
    | none => rfl
    | some value => exact absurd List.mem_cons_self (apart found)
  rw [whole, List.eq_nil_iff_forall_not_mem]
  intro entry inside
  obtain ⟨listed, found⟩ := mem_identityPatch
    (fun nested known => absurd List.mem_cons_self (apart known)) inside
  exact absurd (List.mem_cons_of_mem _ listed) (apart found)

theorem response_handled (upper : env.upper "MODEL_RESPONSE_RECEIVED" = "MODEL_RESPONSE_RECEIVED")
    (named : event.eventType = "MODEL_RESPONSE_RECEIVED") {outputTokens : Int}
    (payload : event.payload = [("success", .bool true), ("output_tokens", .int outputTokens)])
    (numeric : IsNumber event.sequence) : Completes Typed (State.handle env event) fun _ => True := by
  have kind : event.kind env = .modelResponse := by
    rw [AgentStateEvent.kind, named, upper]
    decide
  have anonymous : identityPatch env (event.nested "identity") = [] :=
    unidentified (by rw [payload]; rfl)
  refine completes_handle (eternal_expires eternal) (fun entry inside => ?_) ?_ numeric
  · rw [anonymous] at inside
    cases inside
  · rw [kind]
    refine completes_applyModelResponse (eternal_expires eternal) ?_ ?_ ?_
    · rw [AgentStateEvent.succeeded, payload]
      rfl
    · rw [payload]
      intro value found
      cases found
      exact yields_ok trivial
    · rw [payload]
      intro key listed
      simp only [List.mem_cons, List.not_mem_nil, or_false] at listed
      rcases listed with rfl | rfl | rfl <;> rfl

theorem failure_handled (upper : env.upper "MODEL_FAILED" = "MODEL_FAILED")
    (named : event.eventType = "MODEL_FAILED") {component error : String}
    (payload : event.payload = [("failed_component", .str component), ("error", .str error),
      ("error_severity", .float (4 / 5))])
    (numeric : IsNumber event.sequence) : Completes Typed (State.handle env event) fun _ => True := by
  have kind : event.kind env = .failure := by
    rw [AgentStateEvent.kind, named, upper]
    decide
  have anonymous : identityPatch env (event.nested "identity") = [] :=
    unidentified (by rw [payload]; rfl)
  refine completes_handle (eternal_expires eternal) (fun entry inside => ?_) ?_ numeric
  · rw [anonymous] at inside
    cases inside
  · rw [kind]
    have severe : getD event.payload "error_severity" (.float 0) = .float (4 / 5) := by
      rw [payload]
      rfl
    exact completes_applyFailure (eternal_expires eternal) _ severe

end Handled

end Events

/-- The text conversions keep the upper case names of the events of the gateway. -/
def KeepsNames (env : Environment) : Prop :=
  ∀ name ∈ ["MODEL_REQUESTED", "MODEL_RESPONSE_RECEIVED", "MODEL_FAILED"], env.upper name = name

instance (env : Environment) : Decidable (KeepsNames env) :=
  inferInstanceAs (Decidable (∀ name ∈ _, _))

section Handle
variable {gateway : RequestGateway} {moment : Moment} {request : ProviderNeutralRequest}
  (names : KeepsNames gateway.env)
include names

theorem append_request (fresh : Fresh) (now : Int) : Completes TypedStore
    (append gateway fresh (modelRequestEvent request now)) fun _ => True :=
  completes_bind (completes_appendEvent (isNumber_int 0) fun _ numeric =>
    request_handled rfl (names _ (by decide)) rfl rfl numeric) fun _ _ => completes_pure trivial

theorem append_response (fresh : Fresh) (now outputTokens : Int) : Completes TypedStore
    (append gateway fresh (modelResponseEvent request now outputTokens)) fun _ => True :=
  completes_bind (completes_appendEvent (isNumber_int 0) fun _ numeric =>
    response_handled rfl (names _ (by decide)) rfl rfl numeric) fun _ _ => completes_pure trivial

theorem append_failure (fresh : Fresh) (now : Int) (component error : String) : Completes TypedStore
    (append gateway fresh (failureEvent request now component error)) fun _ => True :=
  completes_bind (completes_appendEvent (isNumber_int 0) fun _ numeric =>
    failure_handled rfl (names _ (by decide)) rfl rfl numeric) fun _ _ => completes_pure trivial

/-- A routed request is answered, whatever the backend says. -/
theorem finish_completes {routed : Routed} (typed : RoutedTyped routed) :
    Completes TypedStore (finish gateway moment request routed) fun _ => True := by
  cases routed with
  | noFeasibleTarget message rejections =>
      exact completes_seq (append_failure names _ _ _ _) (completes_pure trivial)
  | target view decision target =>
      have recorded : Completes TypedStore
          (suppressed (recordRoutingDecision moment.written view decision)) fun _ => True :=
        fun store inside => ⟨(), _, rfl,
          (keeps_recordRoutingDecision typed.1 typed.2 decision).finalState inside, trivial⟩
      refine completes_seq recorded ?_
      split
      · exact completes_seq (append_failure names _ _ _ _) (completes_pure trivial)
      · exact completes_seq (append_response names _ _ _) (completes_pure trivial)

/-- A request is answered, or it is recorded and the scheduler raises on its view. -/
theorem handle_cases {store : Store} (inside : TypedStore store) :
    (∃ response last, handle gateway moment request store = .ok response last ∧ TypedStore last) ∨
    ∃ exception recorded, append gateway moment.requested
        (modelRequestEvent request moment.requested.now) store = .ok () recorded ∧
      ScheduleRaises gateway moment request recorded exception ∧
      handle gateway moment request store = .error exception recorded ∧ TypedStore recorded := by
  obtain ⟨_, recorded, appended, kept, _⟩ := @append_request gateway request names moment.requested
    moment.requested.now store inside
  unfold handle
  rw [bind_of_ok appended, get_bind]
  rcases @route_cases gateway moment request recorded kept with
    ⟨routed, returned, typed⟩ | ⟨exception, raises, raised⟩
  · obtain ⟨response, last, finished, ended, _⟩ := finish_completes names typed recorded kept
    rw [returned, lift_ok_bind]
    exact .inl ⟨response, last, finished, ended⟩
  · rw [raised]
    exact .inr ⟨exception, recorded, appended, raises, rfl, kept⟩

end Handle

/-- Clients of the store and requests to the gateway interleave. -/
inductive Action where
  | store (call : StoreCall)
  | serve (moment : Moment) (request : ProviderNeutralRequest)

/-- A client sees the result of its call or the response to its request. -/
inductive Answer where
  | result (result : Option AppendResult)
  | response (response : GatewayResponse)

def Action.run (gateway : RequestGateway) : Action → EStateM Exception Store Answer
  | .store call => do return .result (← call.run gateway.env)
  | .serve moment request => do return .response (← handle gateway moment request)

/-- A run of actions. A client that sees an exception goes on with its next call. -/
def runActions (gateway : RequestGateway) (actions : List Action) : Store :=
  actions.foldl (fun reached action => finalState (action.run gateway reached)) Store.empty

/-- The clients of the store report declared types. A request promises nothing. -/
def Action.Typed (gateway : RequestGateway) : Action → Prop
  | .store call => call.Typed gateway.env
  | .serve _ _ => True

section Run
variable {gateway : RequestGateway} {actions : List Action} (names : KeepsNames gateway.env)
include names

theorem keeps_action {action : Action} (typed : action.Typed gateway) :
    Keeps TypedStore (action.run gateway) fun _ => True := by
  cases action with
  | store call => exact keeps_bind (keeps_call typed) fun _ _ => keeps_pure trivial
  | serve moment request =>
      have served : Keeps TypedStore (handle gateway moment request) fun _ => True := by
        intro store inside
        rcases handle_cases names inside with
          ⟨response, last, ran, kept⟩ | ⟨exception, recorded, _, _, ran, kept⟩
        · rw [ran]
          exact ⟨kept, trivial⟩
        · rw [ran]
          exact kept
      exact keeps_bind served fun _ _ => keeps_pure trivial

theorem runActions_typed (typed : ∀ action ∈ actions, action.Typed gateway) :
    TypedStore (runActions gateway actions) := by
  have each : ∀ store, TypedStore store → TypedStore (actions.foldl
      (fun reached action => finalState (action.run gateway reached)) store) := by
    induction actions with
    | nil => exact fun _ inside => inside
    | cons action rest ih =>
        obtain ⟨here, later⟩ := List.forall_mem_cons.mp typed
        exact fun store inside => ih later _ ((keeps_action names here).finalState inside)
  exact each _ typedStore_empty

end Run

section Demo

def demoActions : List Action :=
  [.store (.append ⟨"state", 0⟩ halfReport), .serve firstMoment firstRequest]

theorem demoActions_typed : ∀ action ∈ demoActions, action.Typed (asciiGateway [upTarget]) :=
  List.forall_mem_cons.mpr ⟨halfReport_typed, List.forall_mem_singleton.mpr trivial⟩

end Demo

end StateFlow.Gateway
