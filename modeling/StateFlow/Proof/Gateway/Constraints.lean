import StateFlow.Proof.Gateway.Dispatch
import StateFlow.Proof.State.Constraints

namespace StateFlow.Gateway
open Python Table Effect State Scheduler Selection

section Constraints
variable (request : ProviderNeutralRequest) (target : TargetCandidate)

/-- A target is one of those that a request allows. -/
structure Permits : Prop where
  model : request.allowedModels ≠ [] → target.modelId ∈ request.allowedModels
  region : request.allowedRegions ≠ [] → target.region ∈ request.allowedRegions
  cacheDomain : request.allowedCacheDomains ≠ [] →
    target.cacheDomain ∈ request.allowedCacheDomains
  capabilities : ∀ name ∈ request.requiredCapabilities, name ∈ target.capabilities
  remoteKv : request.remoteKvAllowed = false →
    (getD target.metadata "requires_remote_kv" .none).truthy = false

/-- A target satisfies every hard constraint of a request at some cost. -/
structure Satisfies (cost : ℚ) : Prop extends Permits request target where
  securityDomain : target.securityDomain = request.securityDomain
  budget : ∀ budget, request.costBudget = some budget → cost ≤ budget

/-- An empty security domain restricts nothing, and the budget tolerates rounding. -/
structure Accepts (cost : ℚ) : Prop extends Permits request target where
  securityDomain : request.securityDomain ≠ "" → target.securityDomain = request.securityDomain
  budget : ∀ budget, request.costBudget = some budget → cost ≤ budget + 1 / 1000000000000

/-- The texts of a set as a view shows them. -/
def shown (names : List String) : List Value :=
  distinct (distinct ((names.dedup.insertionSort (· ≤ ·)).map .str))

/-- The limits of a call hold the constraints of its request. -/
structure Carries (limits : RequestLimits) : Prop where
  models : limits.allowedModels = shown request.allowedModels
  regions : limits.allowedRegions = shown request.allowedRegions
  cacheDomains : limits.allowedCacheDomains = shown request.allowedCacheDomains
  capabilities : request.requiredCapabilities ⊆ limits.requiredCapabilities
  securityDomain : request.securityDomain ≠ "" → limits.securityDomain.truthy = true ∧
    ∀ other : String, (Value.str other).eq limits.securityDomain = true →
      other = request.securityDomain
  remoteKv : request.remoteKvAllowed = false → limits.remoteKvAllowed = false
  budget : ∀ budget, request.costBudget = some budget → limits.costBudget = some budget

end Constraints

section Filter
variable {request : ProviderNeutralRequest} {target : TargetCandidate} {limits : RequestLimits}

theorem mem_shown {names : List String} {value : Value} (member : value ∈ shown names) :
    ∃ name ∈ names, value = .str name := by
  obtain ⟨name, listed, rfl⟩ := List.mem_map.mp (mem_of_mem_distinct (mem_of_mem_distinct member))
  rw [List.mem_insertionSort, List.mem_dedup] at listed
  exact ⟨name, listed, rfl⟩

/-- A value outside a nonempty set is forbidden. -/
theorem mem_of_allowed {names : List String} {name : String} (restricted : names ≠ [])
    (allowed : forbidden (shown names) name = false) : name ∈ names := by
  have present : (shown names).isEmpty = false := by
    obtain ⟨first, rest, sorted⟩ := List.exists_cons_of_ne_nil
      (fun empty => restricted (by simpa using congrArg List.length empty) :
        names.dedup.insertionSort (· ≤ ·) ≠ [])
    rw [shown, sorted]
    rfl
  rw [forbidden, present] at allowed
  have member : (Value.str name).mem (shown names) = true := by simpa using allowed
  obtain ⟨value, listed, same⟩ := List.any_eq_true.mp member
  obtain ⟨other, inside, rfl⟩ := mem_shown listed
  cases Value.str_eq_iff.mp same
  exact inside

/-- A target that passes the filter is permitted. -/
theorem Carries.permits (carries : Carries request limits)
    (passes : passesFilter limits target = true) : Permits request target ∧
      (request.securityDomain ≠ "" → target.securityDomain = request.securityDomain) := by
  unfold passesFilter rejectionReasons at passes
  rw [List.isEmpty_iff, List.map_eq_nil_iff, List.filter_eq_nil_iff] at passes
  simp only [List.forall_mem_cons, Bool.not_eq_true] at passes
  obtain ⟨_, _, _, _, capable, model, region, cacheDomain, domain, remote, _⟩ := passes
  rw [carries.models] at model
  rw [carries.regions] at region
  rw [carries.cacheDomains] at cacheDomain
  refine ⟨⟨fun given => mem_of_allowed given model, fun given => mem_of_allowed given region,
    fun given => mem_of_allowed given cacheDomain, fun name required => ?_, fun denied => ?_⟩,
    fun named => ?_⟩
  · by_contra absent
    have missing : name ∈ missingCapabilities limits target := by
      rw [missingCapabilities, List.mem_insertionSort, List.mem_filter, List.mem_dedup]
      exact ⟨carries.capabilities required, decide_eq_true absent⟩
    rw [Bool.not_eq_false', List.isEmpty_iff] at capable
    rw [capable] at missing
    cases missing
  · rw [carries.remoteKv denied] at remote
    simpa using remote
  · obtain ⟨restricted, only⟩ := carries.securityDomain named
    rw [restricted] at domain
    exact only _ (by simpa using domain)

end Filter

section Travel
variable {request : ProviderNeutralRequest}

/-- The security entries of a recorded request. -/
def securityEntries (request : ProviderNeutralRequest) : List (String × Value) :=
  [("tenant_id", .str request.tenantId), ("security_domain", .str request.securityDomain),
    ("allowed_models", sorted request.allowedModels),
    ("allowed_regions", sorted request.allowedRegions),
    ("allowed_cache_domains", sorted request.allowedCacheDomains),
    ("remote_kv_allowed", .bool request.remoteKvAllowed)]

/-- The quality entries of a recorded request. -/
def qualityEntries (request : ProviderNeutralRequest) : List (String × Value) :=
  match request.costBudget with
  | some budget => [("task_cost_budget", .float budget)]
  | none => []

/-- An event records a request when it has its payload. -/
def Records (request : ProviderNeutralRequest) (event : AgentStateEvent) : Prop :=
  event.payload = request.toStatePayload

theorem Records.security {event : AgentStateEvent} (records : Records request event) :
    event.carried .security = securityEntries request := by
  unfold AgentStateEvent.carried
  rw [records]
  rfl

theorem Records.quality {event : AgentStateEvent} (records : Records request event) :
    event.carried .qos = qualityEntries request := by
  unfold AgentStateEvent.carried qualityEntries
  rw [records, ProviderNeutralRequest.toStatePayload]
  cases request.costBudget <;> rfl

theorem Records.separate {event : AgentStateEvent} (records : Records request event) :
    Separate event := by
  intro part listed
  rcases List.mem_cons.mp listed with rfl | listed
  · rw [records.security]
    change ["tenant_id", "security_domain", "allowed_models", "allowed_regions",
      "allowed_cache_domains", "remote_kv_allowed"].Nodup
    decide
  · cases List.mem_singleton.mp listed
    rw [records.quality, qualityEntries]
    cases request.costBudget <;> simp

/-- A copied set shows the texts that a request sent. -/
theorem copySet_shown {text : Text} {old stored : Value} {names : List String} {field : String}
    {copied : List Value} (set : ∃ items, old = .set items)
    (converts : convertForField text old (sorted names) field = .ok stored)
    (copies : copySet stored = .ok copied) : copied = shown names := by
  obtain ⟨items, rfl⟩ := set
  rw [convert_texts converts] at copies
  obtain ⟨again, copied, iterates⟩ := except_bind_ok copies
  obtain ⟨values, listed, checked⟩ := except_bind_ok copied
  cases listed
  split at checked
  · cases checked
    cases iterates
    rfl
  · cases checked

/-- The limits that a request left in its session come back through the view. -/
theorem carries_of_limited {env : Environment} {event : AgentStateEvent}
    {start stored seen : AgentState} {now : Int} {view : HarnessSchedulingView}
    {limits : RequestLimits} (records : Records request event) (sets : SetsAllowed start)
    (domain : isEnum (start.get .security "security_domain") = false)
    (flag : isEnum (start.get .security "remote_kv_allowed") = false)
    (limited : Limited env event start stored) (same : limitsOf seen = limitsOf stored)
    (built : buildSchedulingView env.toText seen now = .ok view)
    (read : Scheduler.limits (request.overwrite view) = .ok limits) : Carries request limits := by
  have shows := buildSchedulingView_limits built
  have security : Adopts env.toText .security (securityEntries request) start seen := by
    rw [← records.security]
    exact (limited .security (by decide)).congr rfl same
  have quality : Adopts env.toText .qos (qualityEntries request) start seen := by
    rw [← records.quality]
    exact (limited .qos (by decide)).congr rfl same
  have models := security.entry "allowed_models" (sorted request.allowedModels)
    (by simp [securityEntries]) (by decide)
  have regions := security.entry "allowed_regions" (sorted request.allowedRegions)
    (by simp [securityEntries]) (by decide)
  have cacheDomains := security.entry "allowed_cache_domains" (sorted request.allowedCacheDomains)
    (by simp [securityEntries]) (by decide)
  have named := security.entry "security_domain" (.str request.securityDomain)
    (by simp [securityEntries]) (by decide)
  have flagged := security.entry "remote_kv_allowed" (.bool request.remoteKvAllowed)
    (by simp [securityEntries]) (by decide)
  unfold Scheduler.limits at read
  obtain ⟨prompt, _, read⟩ := except_bind_ok read
  obtain ⟨output, _, read⟩ := except_bind_ok read
  obtain ⟨names, capable, read⟩ := except_bind_ok read
  obtain ⟨limit, budgeted, read⟩ := except_bind_ok read
  cases read
  constructor
  · exact copySet_shown (sets (.security, "allowed_models") (by decide)) models shows.models
  · exact copySet_shown (sets (.security, "allowed_regions") (by decide)) regions shows.regions
  · exact copySet_shown (sets (.security, "allowed_cache_domains") (by decide)) cacheDomains shows.cacheDomains
  · intro name required
    have listed : ∃ item ∈ view.requiredCapabilities ++ request.requiredCapabilities.map .str,
        item.text? = some name :=
      ⟨.str name, List.mem_append_right _ (List.mem_map_of_mem required), rfl⟩
    obtain ⟨item, kept, known⟩ := exists_text_distinct listed
    obtain ⟨result, present, answered⟩ := answer_of_mapM capable kept
    unfold capabilityText at answered
    rw [known] at answered
    cases answered
    exact present
  · intro nonempty
    change view.securityDomain.truthy = true ∧ ∀ other : String,
      (Value.str other).eq view.securityDomain = true → other = request.securityDomain
    rw [shows.securityDomain]
    exact convert_text nonempty domain named
  · intro denied
    change view.remoteKvAllowed.truthy = false
    rw [shows.remoteKv]
    rw [denied] at flagged
    exact convert_false flag flagged
  · intro amount given
    have adopted := quality.entry "task_cost_budget" (.float amount)
      (by simp [qualityEntries, given]) (by decide)
    change budget view.costBudget = .ok limit at budgeted
    rw [shows.budget] at budgeted
    exact convert_budget adopted budgeted

end Travel

section Dispatch
variable {gateway : RequestGateway} {moment : Moment} {request : ProviderNeutralRequest}
  {view : HarnessSchedulingView} {decision : RoutingDecision} {target : TargetCandidate}

/-- Every winner of a registry with distinct keys is registered once. -/
theorem soleWinner_of_distinct (apart : (gateway.targets.map TargetCandidate.key).Nodup) :
    SoleWinner gateway view := by
  rintro limits outlook policy stages selected ⟨risks, reason, facts⟩
  obtain ⟨registered, listed, key⟩ := facts.passed.timed_key (selectTarget_mem facts.placed)
  have inside : registered ∈ gateway.targets :=
    List.mem_of_mem_filter ((choosePolicy_ok facts.chosen).sublist.subset listed)
  rw [← key]
  exact congrArg List.length (filter_of_nodup TargetCandidate.key apart inside)

/-- A routed decision costs no more than the tolerated budget. -/
theorem routed_within {limits : RequestLimits} {budget : ℚ}
    (routed : routeView gateway moment view = .ok (.target view decision target))
    (read : Scheduler.limits view = .ok limits) (given : limits.costBudget = some budget) :
    decision.predictedCost ≤ budget + 1 / 1000000000000 := by
  obtain ⟨_, scheduled, _⟩ := routeView_target routed
  obtain ⟨found, risks, outlook, policy, stages, selected, reason, facts, rfl⟩ :=
    schedule_ok scheduled
  cases read.symm.trans facts.readLimits
  exact facts.passed.timed_within (selectTarget_mem facts.placed) given

/-- A view that carries the request only routes to a target that the request accepts. -/
theorem Carries.accepts {limits : RequestLimits} (carries : Carries request limits)
    (apart : (gateway.targets.map TargetCandidate.key).Nodup)
    (routed : routeView gateway moment view = .ok (.target view decision target))
    (read : Scheduler.limits view = .ok limits) :
    Accepts request target decision.predictedCost := by
  have faithful := faithful_of_soleWinner routed (soleWinner_of_distinct apart)
  obtain ⟨found, reads, eligible⟩ := faithful.accepted
  cases read.symm.trans reads
  obtain ⟨permits, domain⟩ := carries.permits (List.mem_filter.mp eligible).2
  exact ⟨permits, domain, fun budget given =>
    routed_within routed read (carries.budget budget given)⟩

end Dispatch

section Interleaved
variable (gateway : RequestGateway) (moment : Moment) (request : ProviderNeutralRequest)

/-- A call records its request, other calls run, and the call routes the request to a target. -/
def DispatchesBetween (store : Store) (between : List StoreCall) (view : HarnessSchedulingView)
    (decision : RoutingDecision) (target : TargetCandidate) : Prop :=
  ∃ recorded, append gateway moment.requested (modelRequestEvent request moment.requested.now) store =
      .ok () recorded ∧
    route gateway moment request (runCalls gateway.env between recorded) =
      .ok (.target view decision target)

/-- A store accepts the event of a request. -/
def AcceptsEvent (store : Store) : Prop :=
  ∃ result recorded, appendEvent gateway.env moment.requested
    (modelRequestEvent request moment.requested.now) store = .ok result recorded ∧
    result.accepted = true

variable {gateway moment request} in
/-- A dispatch without calls in between is a dispatch of the handler. -/
theorem handle_of_dispatchesBetween {store : Store} {view : HarnessSchedulingView}
    {decision : RoutingDecision} {target : TargetCandidate}
    (dispatched : DispatchesBetween gateway moment request store [] view decision target) :
    ∃ recorded, handle gateway moment request store =
      finish gateway moment request (.target view decision target) recorded :=
  handle_of_dispatches gateway moment request dispatched

/-- This frame relates a store to the stores that calls of clients reach. -/
def reachedBy (env : Environment) : Frame Store where
  rel before after := ∃ calls, after = runCalls env calls before
  refl _ := ⟨[], rfl⟩
  trans := by
    rintro first second third ⟨front, rfl⟩ ⟨back, rfl⟩
    exact ⟨front ++ back, (List.foldl_append ..).symm⟩

theorem append_reached (fresh : Fresh) (event : AgentStateEvent) :
    Within (reachedBy gateway.env) (append gateway fresh event) := by
  refine fun store => ⟨[.append fresh event], ?_⟩
  change finalState (EStateM.bind _ _ store) = finalState (EStateM.bind _ _ store)
  unfold EStateM.bind
  cases appendEvent gateway.env fresh event store <;> rfl

theorem suppressed_reached (env : Environment) (fresh : Fresh) (view : HarnessSchedulingView)
    (decision : RoutingDecision) :
    Within (reachedBy env) (suppressed (recordRoutingDecision fresh view decision)) := by
  refine fun store => ⟨[.record fresh view decision], ?_⟩
  change finalState (recordRoutingDecision fresh view decision store) =
    finalState (EStateM.bind _ _ store)
  unfold EStateM.bind
  cases recordRoutingDecision fresh view decision store <;> rfl

/-- The handler reaches its store by calls that other clients can also make. -/
theorem handle_reached : Within (reachedBy gateway.env) (handle gateway moment request) := by
  refine within_bind (append_reached gateway _ _) fun _ => within_bind within_get fun store => ?_
  refine within_bind (within_lift _) fun routed => ?_
  cases routed with
  | noFeasibleTarget message rejections =>
      exact within_bind (append_reached gateway _ _) fun _ => within_pure _
  | target view decision target =>
      refine within_seq (suppressed_reached gateway.env _ view decision) ?_
      cases gateway.send request target with
      | error message => exact within_bind (append_reached gateway _ _) fun _ => within_pure _
      | ok response => exact within_bind (append_reached gateway _ _) fun _ => within_pure _

/-- No enumeration converts the stored domain and the stored flag of a session. -/
def Unconverted (store : Store) : Prop :=
  ∀ state, store.states request.key = some state →
    isEnum (state.get .security "security_domain") = false ∧
      isEnum (state.get .security "remote_kv_allowed") = false

end Interleaved

theorem Unconverted.target {request : ProviderNeutralRequest} {store : Store}
    (unconverted : Unconverted request store) {event : AgentStateEvent}
    (key : event.key = request.key) (fresh : Fresh) :
    isEnum ((store.target fresh event).get .security "security_domain") = false ∧
      isEnum ((store.target fresh event).get .security "remote_kv_allowed") = false := by
  unfold Store.target
  rw [key]
  apply @stored_target fun state => isEnum (state.get .security "security_domain") = false ∧
    isEnum (state.get .security "remote_kv_allowed") = false
  · exact unconverted
  · simp only [newAgentState]
    repeat rw [AgentState.get_set, if_neg (by decide)]
    exact ⟨rfl, rfl⟩

/-- A dispatched request reaches a target that it accepts and that the scheduler compared, when its
event is accepted, no other event of its session comes before its view, and every target has its own
key. -/
theorem dispatch_accepted (gateway : RequestGateway) (moment : Moment)
    (request : ProviderNeutralRequest) (earlier between : List StoreCall)
    (view : HarnessSchedulingView) (decision : RoutingDecision) (target : TargetCandidate)
    (upper : gateway.env.upper "MODEL_REQUESTED" = "MODEL_REQUESTED")
    (apart : (gateway.targets.map TargetCandidate.key).Nodup)
    (unconverted : Unconverted request (runCalls gateway.env earlier Store.empty))
    (accepted : AcceptsEvent gateway moment request (runCalls gateway.env earlier Store.empty))
    (spares : ∀ call ∈ between, call.Spares request.key)
    (dispatched : DispatchesBetween gateway moment request
      (runCalls gateway.env earlier Store.empty) between view decision target) :
    Accepts request target decision.predictedCost ∧ Compared gateway view decision target := by
  obtain ⟨result, found, appended, accepts⟩ := accepted
  obtain ⟨recorded, ran, routing⟩ := dispatched
  obtain ⟨_, _, again, finished⟩ := bind_ok ran
  cases finished
  cases appended.symm.trans again
  obtain ⟨event, sequenced, ⟨rejected, _⟩ | ⟨_, _, _, stored, handled, rfl⟩⟩ :=
    appendEvent_cases appended
  · cases rejected.symm.trans accepts
  have same := sequenced_same sequenced
  have records : Records request event := by rw [same]; rfl
  have key : event.key = request.key := by rw [same]; rfl
  have kind : event.kind gateway.env = .modelRequest := by
    rw [same, AgentStateEvent.kind]
    change classify (gateway.env.upper "MODEL_REQUESTED") = _
    rw [upper]
    decide
  have sets := (runCalls_sets gateway.env earlier).target moment.requested event.key
    (.str "default")
  obtain ⟨domain, flag⟩ := unconverted.target key moment.requested
  have limited := handle_limited gateway.env event kind records.separate handled
  have present : ((runCalls gateway.env earlier Store.empty).accept event stored).states
      request.key = some stored := by
    rw [← key]
    exact Function.update_self _ _ _
  have kept : (limitsAt request.key).rel _ _ :=
    runCalls_within (fun call member => StoreCall.run_limits gateway.env (spares call member))
      ((runCalls gateway.env earlier Store.empty).accept event stored)
  obtain ⟨seen, reached, agree⟩ := kept stored present
  obtain ⟨read, built, routed⟩ := except_bind_ok routing
  have own := (routeView_target routed).1
  subst own
  obtain ⟨limits, _, _, _, _, _, _, facts, _⟩ := schedule_ok (routeView_target routed).2.1
  unfold getSchedulingView at built
  change buildSchedulingView _ ((Store.states _ request.key).getD _) _ = _ at built
  rw [reached] at built
  have carries := carries_of_limited records sets domain flag limited agree built facts.readLimits
  exact ⟨carries.accepts apart routed facts.readLimits,
    (faithful_of_soleWinner routed (soleWinner_of_distinct apart)).compared⟩

section Demo

/-- The dispatch of a request after some calls, computed. -/
def dispatchAfter (targets : List TargetCandidate) (request : ProviderNeutralRequest)
    (earlier between : List StoreCall) :
    Option (HarnessSchedulingView × RoutingDecision × TargetCandidate) :=
  match append (asciiGateway targets) firstMoment.requested
      (modelRequestEvent request firstMoment.requested.now)
      (runCalls asciiEnvironment earlier Store.empty) with
  | .error _ _ => none
  | .ok () recorded =>
      match route (asciiGateway targets) firstMoment request
          (runCalls asciiEnvironment between recorded) with
      | .ok (.target view decision target) => some (view, decision, target)
      | _ => none

/-- A request is dispatched after some calls although its target breaks a constraint. -/
def Breaks (targets : List TargetCandidate) (request : ProviderNeutralRequest)
    (earlier between : List StoreCall) : Prop :=
  ∃ view decision target, DispatchesBetween (asciiGateway targets) firstMoment request
    (runCalls asciiEnvironment earlier Store.empty) between view decision target ∧
    ¬ Satisfies request target decision.predictedCost

theorem dispatchAfter_some {targets : List TargetCandidate} {request : ProviderNeutralRequest}
    {earlier between : List StoreCall} {view : HarnessSchedulingView} {decision : RoutingDecision}
    {target : TargetCandidate}
    (computed : dispatchAfter targets request earlier between = some (view, decision, target)) :
    DispatchesBetween (asciiGateway targets) firstMoment request
      (runCalls asciiEnvironment earlier Store.empty) between view decision target := by
  unfold dispatchAfter at computed
  split at computed
  · cases computed
  · rename_i recorded appended
    split at computed
    · rename_i routed
      cases computed
      exact ⟨recorded, appended, routed⟩
    · cases computed

/-- A computed dispatch whose decision and target pass a test. -/
def dispatchesWith (targets : List TargetCandidate) (request : ProviderNeutralRequest)
    (earlier between : List StoreCall) (test : RoutingDecision → TargetCandidate → Bool) : Bool :=
  (dispatchAfter targets request earlier between).any fun found => test found.2.1 found.2.2

theorem breaks_of_test {targets : List TargetCandidate} {request : ProviderNeutralRequest}
    {earlier between : List StoreCall} {test : RoutingDecision → TargetCandidate → Bool}
    (tested : dispatchesWith targets request earlier between test = true)
    (broken : ∀ decision target, test decision target = true →
      ¬ Satisfies request target decision.predictedCost) :
    Breaks targets request earlier between := by
  obtain ⟨⟨view, decision, target⟩, computed, passed⟩ := (Option.any_eq_true _ _).mp tested
  exact ⟨view, decision, target, dispatchAfter_some computed, broken decision target passed⟩

/-- A request for another model than the registered one. -/
def otherModel : ProviderNeutralRequest := { firstRequest with allowedModels := ["other"] }

/-- A harness reports in its first epoch. -/
def harnessEvent (payload : List (String × Value)) (epoch : Int) : AgentStateEvent where
  eventType := "STATE_UPDATED"
  sessionId := "session"
  observedAt := 0
  epoch := epoch
  payload := payload

/-- A harness reports a member of an enumeration as the domain and as the flag. -/
def enumeratedSecurity : List (String × Value) :=
  [("security", .dict [("security_domain", toolStatus "QUEUED"),
    ("remote_kv_allowed", toolStatus "QUEUED")])]

/-- A target of this domain needs a remote cache. -/
def queuedTarget : TargetCandidate :=
  { upTarget with
    securityDomain := "QUEUED", metadata := [("requires_remote_kv", .bool true)] }

/-- A request of another domain forbids a remote cache. -/
def guardedRequest : ProviderNeutralRequest :=
  { firstRequest with securityDomain := "secret", remoteKvAllowed := false }

/-- A target whose retry exceeds the budget by less than the tolerance. -/
def dearTarget : TargetCandidate :=
  { upTarget with inferenceCost := 1, fallbackPathCost := 1 / 1000000000000 }

def pricedRequest : ProviderNeutralRequest := { firstRequest with costBudget := some 1 }

def emptyDomain : ProviderNeutralRequest := { firstRequest with securityDomain := "" }

/-- A target outside the region shares its key with a target inside. -/
def farTarget : TargetCandidate := { upTarget with region := "far" }

def localRequest : ProviderNeutralRequest := { firstRequest with allowedRegions := ["default"] }

/-- The request of another call of the session. -/
def otherCall : StoreCall :=
  .append firstMoment.requested (modelRequestEvent firstRequest 0)

theorem tests_pass : (
    dispatchesWith [upTarget] otherModel [.append ⟨"state", 0⟩ (harnessEvent [] 1)] []
      (fun _ target => target.modelId = "model") &&
    dispatchesWith [upTarget] otherModel [] [otherCall] (fun _ target => target.modelId = "model") &&
    dispatchesWith [farTarget, upTarget] localRequest [] [] (fun _ target => target.region = "far") &&
    dispatchesWith [upTarget] emptyDomain [] [] (fun _ target => target.securityDomain = "default") &&
    dispatchesWith [dearTarget] pricedRequest [] [] (fun decision _ => 1 < decision.predictedCost) &&
    dispatchesWith [queuedTarget] guardedRequest
      [.append ⟨"state", 0⟩ (harnessEvent enumeratedSecurity 0)] []
      (fun _ target => target.securityDomain = "QUEUED")) = true := by
  decide +kernel

/-- A stale event, an event of another call, a shared key, an empty domain, a tolerated cost, and a
stored enumeration each let a request reach a target that breaks a constraint. -/
theorem constraints_lost :
    Breaks [upTarget] otherModel [.append ⟨"state", 0⟩ (harnessEvent [] 1)] [] ∧
    Breaks [upTarget] otherModel [] [otherCall] ∧
    Breaks [farTarget, upTarget] localRequest [] [] ∧
    Breaks [upTarget] emptyDomain [] [] ∧
    Breaks [dearTarget] pricedRequest [] [] ∧
    Breaks [queuedTarget] guardedRequest
      [.append ⟨"state", 0⟩ (harnessEvent enumeratedSecurity 0)] [] := by
  have tests := tests_pass
  simp only [Bool.and_eq_true] at tests
  obtain ⟨⟨⟨⟨⟨stale, interleaved⟩, shared⟩, empty⟩, dear⟩, enumerated⟩ := tests
  have model (decision : RoutingDecision) (target : TargetCandidate)
      (tested : decide (target.modelId = "model") = true) :
      ¬ Satisfies otherModel target decision.predictedCost := by
    intro satisfied
    have listed := satisfied.model (by decide)
    rw [of_decide_eq_true tested] at listed
    exact absurd listed (by decide)
  refine ⟨breaks_of_test stale model, breaks_of_test interleaved model, breaks_of_test shared ?_,
    breaks_of_test empty ?_, breaks_of_test dear ?_, breaks_of_test enumerated ?_⟩
  · intro decision target tested satisfied
    have listed := satisfied.region (by decide)
    rw [of_decide_eq_true tested] at listed
    exact absurd listed (by decide)
  · intro decision target tested satisfied
    exact absurd ((of_decide_eq_true tested).symm.trans satisfied.securityDomain) (by decide)
  · intro decision target tested satisfied
    exact absurd (satisfied.budget 1 rfl) (not_le.mpr (of_decide_eq_true tested))
  · intro decision target tested satisfied
    exact absurd ((of_decide_eq_true tested).symm.trans satisfied.securityDomain) (by decide)

/-- A request for the registered model with a budget. -/
def demoRequest : ProviderNeutralRequest :=
  { firstRequest with allowedModels := ["model"], costBudget := some 1 }

/-- Another session sends its request between the event and the route. -/
def demoBetween : List StoreCall :=
  [.append firstMoment.requested (modelRequestEvent { firstRequest with sessionId := "other" } 0)]

theorem dispatch_accepted_of_demo : ∃ view decision target,
    Accepts demoRequest target decision.predictedCost ∧
      Compared (asciiGateway [upTarget]) view decision target := by
  have tests : (dispatchesWith [upTarget] demoRequest [] demoBetween (fun _ _ => true) &&
      answersWith AppendResult.accepted (appendEvent asciiEnvironment firstMoment.requested
        (modelRequestEvent demoRequest firstMoment.requested.now) Store.empty)) = true := by
    decide +kernel
  rw [Bool.and_eq_true] at tests
  obtain ⟨⟨view, decision, target⟩, computed, _⟩ := (Option.any_eq_true _ _).mp tests.1
  obtain ⟨result, recorded, appended, accepted⟩ := returned_of_answers tests.2
  refine ⟨view, decision, target, dispatch_accepted (asciiGateway [upTarget]) firstMoment demoRequest
    [] demoBetween view decision target (by decide +kernel) (by decide) ?_
    ⟨result, recorded, appended, accepted⟩ ?_ (dispatchAfter_some computed)⟩
  · intro state found
    cases found
  · intro call member
    rw [List.mem_singleton.mp member]
    exact (by decide : ("other", "default-task") ≠ (("session", "default-task") : StateKey))

end Demo

end StateFlow.Gateway
