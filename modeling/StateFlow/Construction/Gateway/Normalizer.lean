import StateFlow.Construction.Adapters.Identity
import StateFlow.Construction.Gateway.Service

namespace StateFlow.Gateway
open Python Table Effect State Adapters

/-- The model APIs that a gateway speaks. -/
inductive Protocol where
  | openaiChat | openaiResponses | anthropicMessages
  deriving DecidableEq, Repr

def Protocol.value : Protocol → String
  | .openaiChat => "openai_chat"
  | .openaiResponses => "openai_responses"
  | .anthropicMessages => "anthropic_messages"

/-- The end of the path decides the protocol. Slashes at the end do not count. -/
def protocolOf (path : String) : Except Exception Protocol :=
  let path := (path.toList.reverse.dropWhile fun letter => letter = '/').reverse
  if "/chat/completions".toList <:+ path then .ok .openaiChat
  else if "/responses".toList <:+ path then .ok .openaiResponses
  else if "/messages".toList <:+ path then .ok .anthropicMessages
  else .error .valueError

section Headers
variable (text : Text)

/-- `_header` reads the first of some names that is present, in any case. Among headers whose names
differ in their case only, the last one counts. -/
def header (headers : List (String × String)) : List String → String
  | [] => ""
  | name :: names =>
      match headers.reverse.find? fun entry => text.lower entry.1 = text.lower name with
      | some entry => entry.2
      | none => header headers names

/-- `_csv_values` -/
def csvValues (value : String) : List String :=
  ((value.splitOn ",").map strip).filter fun item => item ≠ ""

/-- `_bool_value` -/
def boolValue (value : Value) (default : Bool) : Bool :=
  match value with
  | .none => default
  | .bool value => value
  | value => text.lower (strip (text.str value)) ∉ ["0", "false", "no", "off"]

/-- A text of any length has a token. -/
def textTokens (value : String) : Nat := max 1 ((value.length + 3) / 4)

mutual

/-- `estimate_tokens` counts the texts of a value, four letters a token. -/
def estimateTokens : Value → Nat
  | .none => 0
  | .str value => textTokens value
  | .enum _ member => textTokens member
  | .int _ | .float _ | .bool _ => 1
  | .dict items => estimateEntries items
  | .list items | .tuple items => estimateItems items
  | value => textTokens (text.str value)

def estimateItems : List Value → Nat
  | [] => 0
  | item :: rest => estimateTokens item + estimateItems rest

def estimateEntry : String × Value → Nat
  | (key, value) => textTokens key + estimateTokens value

def estimateEntries : List (String × Value) → Nat
  | [] => 0
  | entry :: rest => estimateEntry entry + estimateEntries rest

end

end Headers

/-- A request after normalization. The sets keep the items that the body sent. -/
structure NormalizedRequest where
  protocol : Protocol
  requestId : String
  sessionId : String
  taskId : String
  turnId : Int
  stepId : String
  attemptId : String
  traceId : String
  model : String
  promptTokens : Int
  predictedOutputTokens : Int
  requiredCapabilities : List Value
  tenantId : String
  securityDomain : String
  allowedModels : List Value
  allowedRegions : List Value
  allowedCacheDomains : List Value
  remoteKvAllowed : Bool
  costBudget : Option ℚ
  stream : Bool
  body : List (String × Value)
  headers : List (String × String)

/-- `backend_payload` replaces the model by the one of the target. -/
def NormalizedRequest.backendPayload (request : NormalizedRequest) (targetModel : String) :
    List (String × Value) :=
  if targetModel = "" then request.body else assign "model" (.str targetModel) request.body

section Normalize
variable (text : Text) (payload : List (String × Value)) (headers : List (String × String))

/-- The values of a body that count as its prompt. -/
def Protocol.prompts : Protocol → List Value
  | .openaiChat => [getD payload "messages" (.list [])]
  | .openaiResponses => [getD payload "input" (getD payload "messages" (.list []))]
  | .anthropicMessages => [getD payload "messages" (.list []), getD payload "system" (.str "")]

def Protocol.outputKeys : Protocol → List String
  | .openaiChat => ["max_tokens", "max_completion_tokens"]
  | .openaiResponses => ["max_output_tokens"]
  | .anthropicMessages => ["max_tokens"]

/-- The first bound that is not empty, or a default. -/
def outputBound (keys : List String) : Value :=
  keys.foldr (fun key other => (getD payload key .none).orElse other) (.int 256)

/-- `set(value or [])` -/
def itemsOf (value : Value) : Except Exception (List Value) := do
  match ← (value.orElse (.list [])).toSet with
  | .set items => return items
  | _ => return []

/-- A set grows by the values of a header. -/
def withCsv (items : List Value) (value : String) : List Value :=
  distinct (items ++ (csvValues value).map .str)

/-- The first operand that is not empty. -/
def orText (first second : String) : String := if first = "" then second else first

/-- `metadata` is empty or a mapping. -/
def metadataOf : Except Exception (List (String × Value)) :=
  match (getD payload "metadata" .none).orElse (.dict []) with
  | .dict items => .ok items
  | _ => .error .attributeError

/-- A budget may be absent. -/
def budgetOf : Value → Except Exception (Option ℚ)
  | .none => .ok none
  | budget => do return some (← text.float budget)

/-- `normalize_request` projects a body and its headers. The process generates a unique suffix. -/
def normalizeRequest (path : String) (unique : String) : Except Exception NormalizedRequest := do
  let protocol ← protocolOf path
  let promptTokens ← text.int
    ((getD payload "prompt_tokens" .none).orElse (.int (estimateItems text (protocol.prompts payload))))
  let predictedOutput ← text.int (outputBound payload protocol.outputKeys)
  let required ← itemsOf (getD payload "required_capabilities" (.list []))
  let required := if (getD payload "tools" .none).truthy
    then distinct (required ++ [.str "tool_calling"]) else required
  let read := header text headers
  let own := fun key => text.str (getD payload key (.str ""))
  let requestId := orText (read ["x-request-id", "request-id"]) (orText (own "request_id")
    ("req-" ++ unique))
  let metadata ← metadataOf payload
  let sessionId := orText (read ["x-stateflow-session-id", "x-session-id", "session-id"])
    (orText (own "session_id") (orText (text.str (getD metadata "session_id" (.str "")))
      ("session-" ++ requestId)))
  let taskId := orText (read ["x-stateflow-task-id", "x-task-id", "task-id"])
    (orText (own "task_id") (text.str (getD metadata "task_id" (.str "default-task"))))
  let allowedModels ← itemsOf (getD metadata "allowed_models" (.list []))
  let allowedRegions ← itemsOf (getD metadata "allowed_regions" (.list []))
  let allowedCacheDomains ← itemsOf (getD metadata "allowed_cache_domains" (.list []))
  let remoteKv := read ["x-stateflow-remote-kv-allowed"]
  let costBudget ← budgetOf text (getD payload "cost_budget" (getD metadata "cost_budget" .none))
  let turn := read ["x-stateflow-turn-id", "x-turn-id"]
  let turn := if turn = "" then getD payload "turn_id" (.int 0) else .str turn
  let turnId ← text.int (turn.orElse (.int 0))
  return {
    protocol, requestId, sessionId
    taskId := orText taskId "default-task"
    turnId
    stepId := orText (read ["x-stateflow-step-id", "x-step-id"]) (own "step_id")
    attemptId := orText (read ["x-stateflow-attempt-id"]) (own "attempt_id")
    traceId := orText (read ["x-trace-id", "traceparent"]) (own "trace_id")
    model := own "model"
    promptTokens := max 0 promptTokens
    predictedOutputTokens := max 0 predictedOutput
    requiredCapabilities := withCsv required (read ["x-stateflow-required-capabilities"])
    tenantId := orText (read ["x-stateflow-tenant-id", "x-tenant-id"])
      (text.str (getD metadata "tenant_id" (.str "default")))
    securityDomain := orText (read ["x-stateflow-security-domain"])
      (text.str (getD metadata "security_domain" (.str "default")))
    allowedModels := withCsv allowedModels (read ["x-stateflow-allowed-models"])
    allowedRegions := withCsv allowedRegions (read ["x-stateflow-allowed-regions"])
    allowedCacheDomains := withCsv allowedCacheDomains (read ["x-stateflow-allowed-cache-domains"])
    remoteKvAllowed := boolValue text
      (if remoteKv = "" then getD metadata "remote_kv_allowed" .none else .str remoteKv) true
    costBudget
    stream := (getD payload "stream" (.bool false)).truthy
    body := payload
    headers }

end Normalize

/-- The texts of a set, when it holds only texts. -/
def textSet (items : List Value) : Option (List String) :=
  items.mapM fun item => match item with
    | .str value => some value
    | _ => none

/-- The metadata of a request whose sets hold texts. -/
def NormalizedRequest.neutral (request : NormalizedRequest) : Option ProviderNeutralRequest := do
  let requiredCapabilities ← textSet request.requiredCapabilities
  let allowedModels ← textSet request.allowedModels
  let allowedRegions ← textSet request.allowedRegions
  let allowedCacheDomains ← textSet request.allowedCacheDomains
  return {
    requestId := request.requestId, sessionId := request.sessionId, taskId := request.taskId
    turnId := request.turnId, stepId := request.stepId, attemptId := request.attemptId
    traceId := request.traceId, model := request.model
    promptTokens := request.promptTokens, predictedOutputTokens := request.predictedOutputTokens
    requiredCapabilities, tenantId := request.tenantId, securityDomain := request.securityDomain
    allowedModels, allowedRegions, allowedCacheDomains
    remoteKvAllowed := request.remoteKvAllowed, costBudget := request.costBudget }

end StateFlow.Gateway
