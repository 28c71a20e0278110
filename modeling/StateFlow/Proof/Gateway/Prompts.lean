import StateFlow.Construction.Gateway.Backend
import StateFlow.Library.Locality
import StateFlow.Proof.Gateway.TypedRuns

namespace StateFlow.Gateway
open Python Table Effect State Scheduler

section Estimate
variable (text : Text)

mutual

/-- The letters of the texts of a value. A value without texts shows the letters of its rendering. -/
def letters : Value → Nat
  | .none | .int _ | .float _ | .bool _ => 0
  | .str value => value.length
  | .enum _ member => member.length
  | .dict items => lettersOfEntries items
  | .list items | .tuple items => lettersOf items
  | value => (text.str value).length

def lettersOf : List Value → Nat
  | [] => 0
  | item :: rest => letters item + lettersOf rest

def lettersOfEntry : String × Value → Nat
  | (key, value) => key.length + letters value

def lettersOfEntries : List (String × Value) → Nat
  | [] => 0
  | entry :: rest => lettersOfEntry entry + lettersOfEntries rest

end

mutual

/-- The texts and numbers of a value. -/
def leaves : Value → Nat
  | .none => 0
  | .dict items => leavesOfEntries items
  | .list items | .tuple items => leavesOf items
  | _ => 1

def leavesOf : List Value → Nat
  | [] => 0
  | item :: rest => leaves item + leavesOf rest

def leavesOfEntry : String × Value → Nat
  | (_, value) => 1 + leaves value

def leavesOfEntries : List (String × Value) → Nat
  | [] => 0
  | entry :: rest => leavesOfEntry entry + leavesOfEntries rest

end

/-- An estimate in tokens covers a number of letters, and exceeds it by four letters a leaf at most. -/
def Covers (tokens letters leaves : Nat) : Prop :=
  letters ≤ 4 * tokens ∧ 4 * tokens ≤ letters + 4 * leaves

theorem covers_text (value : String) : Covers (textTokens value) value.length 1 := by
  unfold Covers textTokens
  omega

theorem Covers.add {tokens letters leaves others more others' : Nat}
    (first : Covers tokens letters leaves) (second : Covers others more others') :
    Covers (tokens + others) (letters + more) (leaves + others') := by
  unfold Covers at *
  omega

mutual

theorem estimateTokens_covers : (value : Value) →
    Covers (estimateTokens text value) (letters text value) (leaves value)
  | .none => by simp [estimateTokens, letters, leaves, Covers]
  | .int _ | .float _ | .bool _ => by simp [estimateTokens, letters, leaves, Covers]
  | .str value => by simpa only [estimateTokens, letters, leaves] using covers_text value
  | .enum _ member => by simpa only [estimateTokens, letters, leaves] using covers_text member
  | .dict items => by
      simpa only [estimateTokens, letters, leaves] using estimateEntries_covers items
  | .list items => by
      simpa only [estimateTokens, letters, leaves] using estimateItems_covers items
  | .tuple items => by
      simpa only [estimateTokens, letters, leaves] using estimateItems_covers items
  | .set _ | .datetime _ | .timedelta _ | .object _ _ => by
      simpa only [estimateTokens, letters, leaves] using covers_text _

theorem estimateItems_covers : (items : List Value) →
    Covers (estimateItems text items) (lettersOf text items) (leavesOf items)
  | [] => by simp [estimateItems, lettersOf, leavesOf, Covers]
  | item :: rest => by
      simpa only [estimateItems, lettersOf, leavesOf] using
        (estimateTokens_covers item).add (estimateItems_covers rest)

theorem estimateEntry_covers : (entry : String × Value) →
    Covers (estimateEntry text entry) (lettersOfEntry text entry) (leavesOfEntry entry)
  | (key, value) => by
      simpa only [estimateEntry, lettersOfEntry, leavesOfEntry] using
        (covers_text key).add (estimateTokens_covers value)

theorem estimateEntries_covers : (entries : List (String × Value)) →
    Covers (estimateEntries text entries) (lettersOfEntries text entries) (leavesOfEntries entries)
  | [] => by simp [estimateEntries, lettersOfEntries, leavesOfEntries, Covers]
  | entry :: rest => by
      simpa only [estimateEntries, lettersOfEntries, leavesOfEntries] using
        (estimateEntry_covers entry).add (estimateEntries_covers rest)

end

/-- A request without a prompt size of its own gets an estimate that covers the letters of its prompt,
and exceeds them by four letters for each text or number of the prompt at most. -/
theorem promptTokens_cover {call : ModelCall} {request : NormalizedRequest}
    (normal : call.normalize text = .ok request)
    (unsized : (getD call.body "prompt_tokens" .none).truthy = false) :
    let prompts := request.protocol.prompts call.body
    protocolOf call.path = .ok request.protocol ∧
      (lettersOf text prompts : Int) ≤ 4 * request.promptTokens ∧
      4 * request.promptTokens ≤ lettersOf text prompts + 4 * leavesOf prompts := by
  unfold ModelCall.normalize normalizeRequest at normal
  obtain ⟨protocol, chosen, normal⟩ := except_bind_ok normal
  obtain ⟨tokens, counted, normal⟩ := except_bind_ok normal
  iterate 8 obtain ⟨_, _, normal⟩ := except_bind_ok normal
  cases normal
  rw [Value.orElse, unsized, if_neg Bool.false_ne_true] at counted
  cases counted
  obtain ⟨lower, upper⟩ := estimateItems_covers text (protocol.prompts call.body)
  exact ⟨chosen, by dsimp only; omega, by dsimp only; omega⟩

end Estimate

section Skeleton

def blank (value : String) : String := String.ofList (List.replicate value.length ' ')

theorem length_blank (value : String) : (blank value).length = value.length := by
  simp [blank]

mutual

/-- The shape of a value keeps the lengths of its texts. -/
def skeleton : Value → Value
  | .str value => .str (blank value)
  | .enum kind member => .enum kind (blank member)
  | .dict items => .dict (skeletonEntries items)
  | .list items => .list (skeletonItems items)
  | .tuple items => .tuple (skeletonItems items)
  | value => value

def skeletonItems : List Value → List Value
  | [] => []
  | item :: rest => skeleton item :: skeletonItems rest

def skeletonEntry : String × Value → String × Value
  | (key, value) => (blank key, skeleton value)

def skeletonEntries : List (String × Value) → List (String × Value)
  | [] => []
  | entry :: rest => skeletonEntry entry :: skeletonEntries rest

end

variable (text : Text)

theorem textTokens_blank (value : String) : textTokens (blank value) = textTokens value := by
  rw [textTokens, textTokens, length_blank]

mutual

/-- An estimate only reads the shape of a value. -/
theorem estimateTokens_skeleton : (value : Value) →
    estimateTokens text (skeleton value) = estimateTokens text value
  | .str value => by simp only [skeleton, estimateTokens, textTokens_blank]
  | .enum _ member => by simp only [skeleton, estimateTokens, textTokens_blank]
  | .dict items => by simp only [skeleton, estimateTokens, estimateEntries_skeleton items]
  | .list items => by simp only [skeleton, estimateTokens, estimateItems_skeleton items]
  | .tuple items => by simp only [skeleton, estimateTokens, estimateItems_skeleton items]
  | .none | .int _ | .float _ | .bool _ | .set _ | .datetime _ | .timedelta _ | .object _ _ => by
      simp only [skeleton]

theorem estimateItems_skeleton : (items : List Value) →
    estimateItems text (skeletonItems items) = estimateItems text items
  | [] => rfl
  | item :: rest => by
      simp only [skeletonItems, estimateItems, estimateTokens_skeleton item,
        estimateItems_skeleton rest]

theorem estimateEntry_skeleton : (entry : String × Value) →
    estimateEntry text (skeletonEntry entry) = estimateEntry text entry
  | (key, value) => by
      simp only [skeletonEntry, estimateEntry, textTokens_blank, estimateTokens_skeleton value]

theorem estimateEntries_skeleton : (entries : List (String × Value)) →
    estimateEntries text (skeletonEntries entries) = estimateEntries text entries
  | [] => rfl
  | entry :: rest => by
      simp only [skeletonEntries, estimateEntries, estimateEntry_skeleton entry,
        estimateEntries_skeleton rest]

end

/-- The shape of a value decides whether it is empty. -/
theorem truthy_skeleton (value : Value) : (skeleton value).truthy = value.truthy := by
  cases value with
  | str value =>
      have empty : blank value = "" ↔ value = "" := by
        rw [← String.length_eq_zero_iff, length_blank, String.length_eq_zero_iff]
      simp only [skeleton, Value.truthy]
      by_cases same : value = ""
      · rw [empty.mpr same, same]
      · rw [bne_iff_ne.mpr same, bne_iff_ne.mpr (mt empty.mp same)]
  | list items | tuple items => cases items <;> rfl
  | dict items => cases items <;> rfl
  | _ => rfl

end Skeleton

/-- The gateway reads these values of a body. -/
def metadataKeys : List String :=
  ["prompt_tokens", "max_tokens", "max_completion_tokens", "max_output_tokens",
    "required_capabilities", "request_id", "session_id", "task_id", "trace_id", "step_id",
    "attempt_id", "metadata", "cost_budget", "turn_id", "model", "stream"]

/-- The gateway only reads the shape of these values. -/
def promptKeys : List String := ["messages", "input", "system", "tools"]

/-- Two bodies differ in the words of their prompts and in values that the gateway does not read. -/
structure Veiled (body other : List (String × Value)) : Prop where
  reads : ∀ key ∈ metadataKeys, body.lookup key = other.lookup key
  prompts : ∀ key ∈ promptKeys, (body.lookup key).map skeleton = (other.lookup key).map skeleton

section Normalize
variable (text : Text) {body other : List (String × Value)} (veiled : Veiled body other)
include veiled

theorem Veiled.read {key : String} (listed : decide (key ∈ metadataKeys) = true) (default : Value) :
    getD body key default = getD other key default := by
  rw [getD, getD, veiled.reads key (of_decide_eq_true listed)]

theorem Veiled.shape {key : String} (listed : decide (key ∈ promptKeys) = true)
    {first second : Value} (same : skeleton first = skeleton second) :
    skeleton (getD body key first) = skeleton (getD other key second) := by
  have alike := veiled.prompts key (of_decide_eq_true listed)
  unfold getD
  cases one : body.lookup key with
  | none =>
      cases two : other.lookup key with
      | none => exact same
      | some value =>
          rw [one, two] at alike
          cases alike
  | some value =>
      cases two : other.lookup key with
      | none =>
          rw [one, two] at alike
          cases alike
      | some found =>
          rw [one, two] at alike
          exact Option.some.inj alike

omit veiled in
theorem estimate_of_shape {first second : Value} (same : skeleton first = skeleton second) :
    estimateTokens text first = estimateTokens text second := by
  rw [← estimateTokens_skeleton text first, same, estimateTokens_skeleton text second]

theorem Veiled.estimate (protocol : Protocol) :
    estimateItems text (protocol.prompts body) = estimateItems text (protocol.prompts other) := by
  have messages := @Veiled.shape _ _ veiled "messages" rfl (.list []) _ rfl
  cases protocol with
  | openaiChat => exact congrArg (· + 0) (estimate_of_shape text messages)
  | openaiResponses => exact congrArg (· + 0) (estimate_of_shape text (veiled.shape rfl messages))
  | anthropicMessages =>
      exact congrArg₂ (fun first second => first + (second + 0)) (estimate_of_shape text messages)
        (estimate_of_shape text (veiled.shape rfl rfl))

theorem Veiled.bound (protocol : Protocol) :
    outputBound body protocol.outputKeys = outputBound other protocol.outputKeys := by
  cases protocol <;>
    simp (disch := decide) only [Protocol.outputKeys, outputBound, List.foldr, veiled.read]

theorem Veiled.tools :
    (getD body "tools" .none).truthy = (getD other "tools" .none).truthy := by
  rw [← truthy_skeleton, veiled.shape rfl rfl, truthy_skeleton]

/-- Bodies with different prompts of one shape become the same request but for the body. -/
theorem normalize_veiled (headers : List (String × String)) (path unique : String) :
    normalizeRequest text other headers path unique =
      (fun request => { request with body := other }) <$>
        normalizeRequest text body headers path unique := by
  unfold normalizeRequest metadataOf
  simp (disch := decide) only [veiled.read, veiled.estimate text, veiled.bound, veiled.tools]
  simp only [map_bind, map_pure]

end Normalize

/-- Two answers of a backend differ in their payloads only. -/
def Alike : Except String BackendResponse → Except String BackendResponse → Prop
  | .ok first, .ok second =>
      first.statusCode = second.statusCode ∧ first.outputTokens = second.outputTokens
  | .error first, .error second => first = second
  | _, _ => False

/-- A backend wrote the payload of a response with the headers of a selection. -/
def GatewayResponse.served (response : GatewayResponse) : Bool :=
  (response.headers.map Prod.fst).contains "x-stateflow-selected-model"

/-- A response without the words of the model. The errors of the gateway itself keep their payloads. -/
def GatewayResponse.metadata (response : GatewayResponse) : GatewayResponse :=
  if response.served then { response with payload := .none } else response

@[simp]
theorem metadata_backend (decision : RoutingDecision) (response : BackendResponse) :
    (backendResponse decision response).metadata =
      { backendResponse decision response with payload := .none } := rfl

/-- The gateway answers a request without a target in its own words. -/
@[simp]
theorem metadata_noFeasible (message : String) (rejections : List FilterRejection) :
    (noFeasibleResponse message rejections).metadata = noFeasibleResponse message rejections := rfl

/-- The gateway answers a failed backend in its own words. -/
@[simp]
theorem metadata_backendError (decision : RoutingDecision) (message : String) :
    (backendErrorResponse decision message).metadata = backendErrorResponse decision message := rfl

def Answer.metadata : Answer → Answer
  | .result answer => .result answer
  | .response answer => .response answer.metadata

section Handle
variable {gateway : RequestGateway} {moment : Moment} {request : ProviderNeutralRequest}
  {first second : ProviderNeutralRequest → TargetCandidate → Except String BackendResponse}

/-- The outcome of a request depends on the backend up to the words of the model. -/
theorem finish_agrees (alike : ∀ target, Alike (first request target) (second request target))
    (routed : Routed) :
    Agree GatewayResponse.metadata (finish { gateway with send := first } moment request routed)
      (finish { gateway with send := second } moment request routed) := by
  cases routed with
  | noFeasibleTarget message rejections => exact agree_refl _
  | target view decision target =>
      refine agree_bind fun _ => ?_
      have both := alike target
      dsimp only
      cases one : first request target with
      | error message =>
          cases two : second request target with
          | error other =>
              rw [one, two] at both
              cases both
              exact agree_refl _
          | ok response =>
              rw [one, two] at both
              exact both.elim
      | ok response =>
          cases two : second request target with
          | error other =>
              rw [one, two] at both
              exact both.elim
          | ok other =>
              rw [one, two] at both
              obtain ⟨status, tokens⟩ := both
              dsimp only
              rw [tokens]
              refine agree_bind fun _ => agree_pure ?_
              rw [metadata_backend, metadata_backend]
              simp only [backendResponse, status]

theorem handle_agrees (alike : ∀ target, Alike (first request target) (second request target)) :
    Agree GatewayResponse.metadata (handle { gateway with send := first } moment request)
      (handle { gateway with send := second } moment request) :=
  agree_bind fun _ => agree_bind fun _ => agree_bind fun routed => finish_agrees alike routed

end Handle

/-- Clients of the store and callers of the model endpoints. -/
inductive Traffic where
  | store (call : StoreCall)
  | submit (call : ModelCall)

section Traffic
variable (gateway : RequestGateway) (backends : BackendRegistry)

def Traffic.run : Traffic → EStateM Exception Store Answer
  | .store call => do return .result (← call.run gateway.env)
  | .submit call => do return .response (← Gateway.submit gateway backends call)

/-- Two calls differ in the words of their prompts, and the backends answer both with the same
status, count, or error. -/
structure VeiledCall (call other : ModelCall) : Prop where
  same : other = { call with body := other.body }
  veiled : Veiled call.body other.body
  alike : ∀ request, call.normalize gateway.env.toText = .ok request → ∀ target,
    Alike (backends.send gateway.env.toText request target)
      (backends.send gateway.env.toText { request with body := other.body } target)

def VeiledTraffic : Traffic → Traffic → Prop
  | .store call, .store other => call = other
  | .submit call, .submit other => VeiledCall gateway backends call other
  | _, _ => False

variable {gateway backends}

theorem submit_neutral {call : ModelCall} {normalized : NormalizedRequest}
    {request : ProviderNeutralRequest} (normal : call.normalize gateway.env.toText = .ok normalized)
    (neutral : normalized.neutral = some request) :
    submit gateway backends call = handle (gateway.through backends normalized) call.moment request := by
  simp only [submit, normal, lift_ok_bind, neutral]

theorem submit_untyped {call : ModelCall} {normalized : NormalizedRequest}
    (normal : call.normalize gateway.env.toText = .ok normalized) (neutral : normalized.neutral = none) :
    submit gateway backends call = throw .typeError := by
  simp only [submit, normal, lift_ok_bind, neutral]

theorem submit_agrees {call other : ModelCall} (veiled : VeiledCall gateway backends call other) :
    Agree GatewayResponse.metadata (submit gateway backends call) (submit gateway backends other) := by
  obtain ⟨same, hidden, alike⟩ := veiled
  have becomes : other.normalize gateway.env.toText =
      (fun request => { request with body := other.body }) <$> call.normalize gateway.env.toText := by
    rw [same]
    exact normalize_veiled gateway.env.toText hidden call.headers call.path call.unique
  have moment : other.moment = call.moment := by rw [same]
  cases normal : call.normalize gateway.env.toText with
  | error exception =>
      unfold submit
      rw [becomes, moment, normal]
      exact agree_refl _
  | ok request =>
      have written : other.normalize gateway.env.toText = .ok { request with body := other.body } := by
        rw [becomes, normal]
        rfl
      have blind : NormalizedRequest.neutral { request with body := other.body } = request.neutral := rfl
      cases neutral : request.neutral with
      | none =>
          rw [neutral] at blind
          rw [submit_untyped normal neutral, submit_untyped written blind]
          exact agree_refl _
      | some sent =>
          rw [neutral] at blind
          rw [submit_neutral normal neutral, submit_neutral written blind, moment]
          exact handle_agrees fun target => alike request normal target

theorem traffic_agrees {item other : Traffic} (veiled : VeiledTraffic gateway backends item other) :
    Agree Answer.metadata (item.run gateway backends) (other.run gateway backends) := by
  cases item with
  | store call =>
      cases other with
      | store other =>
          cases veiled
          exact agree_refl _
      | submit other => exact veiled.elim
  | submit call =>
      cases other with
      | store other => exact veiled.elim
      | submit other =>
          exact @Agree.map _ _ _ _ _ _ _ _ _ (submit_agrees veiled) Answer.response Answer.metadata
            Answer.response fun _ => rfl

end Traffic

/-- Prompts never reach the state. In two runs of reports and model calls whose bodies differ in the
words of their prompts only, and whose backends answer with the same statuses, counts and errors, the
store and all responses are the same but for the payloads that a backend wrote. The gateway's own
errors are the same with their payloads. -/
theorem prompts_noninterfering (gateway : RequestGateway) (backends : BackendRegistry)
    {traffic others : List Traffic} (veiled : List.Forall₂ (VeiledTraffic gateway backends) traffic others)
    (store : Store) :
    (transcript (Traffic.run gateway backends) traffic store).map
        (fun entry => entry.2.map Answer.metadata) =
      (transcript (Traffic.run gateway backends) others store).map
        (fun entry => entry.2.map Answer.metadata) ∧
    runAll (Traffic.run gateway backends) traffic store =
      runAll (Traffic.run gateway backends) others store :=
  run_agrees (fun _ _ veiled => traffic_agrees veiled) veiled store

section Demo

/-- The deterministic backend answers without the prompt. -/
def demoBackends : BackendRegistry := [("default", inMemoryBackend)]

def promptCall (prompt : String) : ModelCall where
  moment := firstMoment
  unique := "1"
  path := "/v1/chat/completions"
  body := [("session_id", .str "session"), ("messages", .list [.str prompt])]
  headers := []

theorem promptCall_veiled {prompt other : String} (same : blank prompt = blank other) :
    VeiledCall (asciiGateway [upTarget]) demoBackends (promptCall prompt) (promptCall other) where
  same := rfl
  veiled := {
    reads := fun key listed => by
      simp only [metadataKeys, List.mem_cons, List.not_mem_nil, or_false] at listed
      rcases listed with rfl | rfl | rfl | rfl | rfl | rfl | rfl | rfl | rfl | rfl | rfl | rfl | rfl |
        rfl | rfl | rfl <;> rfl
    prompts := fun key listed => by
      simp only [promptKeys, List.mem_cons, List.not_mem_nil, or_false] at listed
      rcases listed with rfl | rfl | rfl | rfl
      · change some (Value.list [.str (blank prompt)]) = some (.list [.str (blank other)])
        rw [same]
      all_goals rfl }
  alike request _ target := by
    unfold BackendRegistry.send BackendRegistry.require demoBackends
    cases known : target.backendKey == "default" <;> simp only [List.lookup_cons, List.lookup_nil, known] <;>
      first | rfl | exact ⟨rfl, rfl⟩

/-- A demo prompt is estimated. -/
theorem promptTokens_cover_demo : ∃ request,
    (promptCall "plain words").normalize asciiText = .ok request ∧
      (lettersOf asciiText (request.protocol.prompts (promptCall "plain words").body) : Int) ≤
        4 * request.promptTokens := by
  have normalizes : ((promptCall "plain words").normalize asciiText).isOk = true := by decide +kernel
  cases normal : (promptCall "plain words").normalize asciiText with
  | ok request => exact ⟨request, rfl, (promptTokens_cover asciiText normal rfl).2.1⟩
  | error exception =>
      rw [normal] at normalizes
      cases normalizes

/-- A report and two calls. -/
def promptTraffic (prompt : String) : List Traffic :=
  [.store (.append ⟨"state", 0⟩ halfReport), .submit (promptCall prompt), .submit (promptCall "more")]

theorem promptTraffic_veiled {prompt other : String} (same : blank prompt = blank other) :
    List.Forall₂ (VeiledTraffic (asciiGateway [upTarget]) demoBackends) (promptTraffic prompt)
      (promptTraffic other) := by
  have stored : VeiledTraffic (asciiGateway [upTarget]) demoBackends
      (.store (.append ⟨"state", 0⟩ halfReport)) (.store (.append ⟨"state", 0⟩ halfReport)) := rfl
  have first : VeiledTraffic (asciiGateway [upTarget]) demoBackends (.submit (promptCall prompt))
      (.submit (promptCall other)) := promptCall_veiled same
  have second : VeiledTraffic (asciiGateway [upTarget]) demoBackends (.submit (promptCall "more"))
      (.submit (promptCall "more")) := promptCall_veiled rfl
  exact .cons stored (.cons first (.cons second .nil))

theorem prompts_noninterfering_demo :
    let run := Traffic.run (asciiGateway [upTarget]) demoBackends
    (transcript run (promptTraffic "plain words") Store.empty).map
          (fun entry => entry.2.map Answer.metadata) =
        (transcript run (promptTraffic "a secret!!!") Store.empty).map
          (fun entry => entry.2.map Answer.metadata) ∧
      runAll run (promptTraffic "plain words") Store.empty =
        runAll run (promptTraffic "a secret!!!") Store.empty :=
  prompts_noninterfering (asciiGateway [upTarget]) demoBackends
    (promptTraffic_veiled (by decide)) Store.empty

end Demo

end StateFlow.Gateway
