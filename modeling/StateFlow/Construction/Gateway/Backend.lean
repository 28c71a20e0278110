import StateFlow.Construction.Gateway.Normalizer

namespace StateFlow.Gateway
open Python Table Effect State Scheduler

/-- A backend adapter answers or raises a `BackendError` with its text. -/
abbrev BackendAdapter := NormalizedRequest → TargetCandidate → Except String BackendResponse

/-- The registry of the adapters -/
abbrev BackendRegistry := List (String × BackendAdapter)

section Backends
variable (text : Text)

/-- `require` raises for a key without an adapter. -/
def BackendRegistry.require (backends : BackendRegistry) (key : String) :
    Except String BackendAdapter :=
  match backends.lookup key with
  | some adapter => .ok adapter
  | none => .error ("no backend adapter registered for " ++ text.repr (.str key))

/-- The adapter of the target sends a request. -/
def BackendRegistry.send (backends : BackendRegistry) (request : NormalizedRequest)
    (target : TargetCandidate) : Except String BackendResponse := do
  (← backends.require text target.backendKey) request target

/-- `_output_tokens` reads the first usage key that is present. -/
def outputTokens (payload : Value) : Int :=
  match payload with
  | .dict entries =>
      match getD entries "usage" .none with
      | .dict usage =>
          match ["output_tokens", "completion_tokens"].findSome? (fun key => usage.lookup key) with
          | some count =>
              match text.int count with
              | .ok tokens => max 0 tokens
              | .error _ => 0
          | none => 0
      | _ => 0
  | _ => 0

/-- A transport returns a JSON value, the text of a status that is no success, or a failure. An empty
answer counts as an empty object. -/
inductive HttpAnswer where
  | answered (status : Int) (payload : Value)
  | refused (status : Int) (detail : String)
  | failed (reason : String)

def Protocol.path : Protocol → String
  | .openaiChat => "/v1/chat/completions"
  | .openaiResponses => "/v1/responses"
  | .anthropicMessages => "/v1/messages"

/-- The metadata of a target may name the path of its endpoint. -/
def targetPath (protocol : Protocol) (target : TargetCandidate) : String :=
  match getD target.metadata "path" .none with
  | .str path => orText path protocol.path
  | _ => protocol.path

/-- `OpenAICompatibleBackend` posts the payload of a request to the endpoint of the target. -/
def openAICompatibleBackend (baseUrl : String)
    (post : String → List (String × Value) → HttpAnswer) : BackendAdapter := fun request target =>
  match post (baseUrl ++ targetPath request.protocol target)
      (request.backendPayload target.modelId) with
  | .answered status payload => .ok ⟨status, payload, outputTokens text payload⟩
  | .refused status detail =>
      .error ("backend HTTP " ++ toString status ++ ": " ++ String.ofList (detail.toList.take 500))
  | .failed reason => .error ("backend request failed: " ++ reason)

/-- The answer of the deterministic backend in each protocol -/
def inMemoryPayload (request : NormalizedRequest) (target : TargetCandidate) :
    List (String × Value) :=
  let message := "StateFlow routed request to " ++ target.modelId ++ "@" ++ target.replicaId ++ "."
  let usage : List (String × Value) :=
    [("input_tokens", .int request.promptTokens), ("output_tokens", .int 8)]
  match request.protocol with
  | .anthropicMessages =>
      [("id", .str request.requestId), ("type", .str "message"), ("role", .str "assistant"),
        ("model", .str target.modelId),
        ("content", .list [.dict [("type", .str "text"), ("text", .str message)]]),
        ("stop_reason", .str "end_turn"), ("usage", .dict usage)]
  | .openaiResponses =>
      [("id", .str request.requestId), ("object", .str "response"), ("model", .str target.modelId),
        ("output", .list [.dict [("type", .str "message"), ("role", .str "assistant"),
          ("content", .list [.dict [("type", .str "output_text"), ("text", .str message)]])]]),
        ("usage", .dict usage)]
  | .openaiChat =>
      [("id", .str request.requestId), ("object", .str "chat.completion"),
        ("model", .str target.modelId),
        ("choices", .list [.dict [("index", .int 0),
          ("message", .dict [("role", .str "assistant"), ("content", .str message)]),
          ("finish_reason", .str "stop")]]),
        ("usage", .dict [("prompt_tokens", .int request.promptTokens),
          ("completion_tokens", .int 8), ("total_tokens", .int (request.promptTokens + 8))])]

/-- `InMemoryBackend` -/
def inMemoryBackend : BackendAdapter := fun request target =>
  .ok ⟨200, .dict (inMemoryPayload request target), 8⟩

end Backends

/-- One request to a model endpoint, with what the process generates for it. -/
structure ModelCall where
  moment : Moment
  unique : String
  path : String
  body : List (String × Value)
  headers : List (String × String)

def ModelCall.normalize (call : ModelCall) (text : Text) : Except Exception NormalizedRequest :=
  normalizeRequest text call.body call.headers call.path call.unique

/-- The gateway sends a request through its backends. -/
def RequestGateway.through (gateway : RequestGateway) (backends : BackendRegistry)
    (request : NormalizedRequest) : RequestGateway :=
  { gateway with send := fun _ target => backends.send gateway.env.toText request target }

/-- A model endpoint normalizes a request and passes it to the gateway. A set with other items than
texts is outside this model. -/
def submit (gateway : RequestGateway) (backends : BackendRegistry) (call : ModelCall) :
    EStateM Exception Store GatewayResponse := do
  let normalized ← lift (call.normalize gateway.env.toText)
  match normalized.neutral with
  | some request => handle (gateway.through backends normalized) call.moment request
  | none => throw .typeError

end StateFlow.Gateway
