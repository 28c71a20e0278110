import StateFlow.Construction.Plane.Plane

namespace StateFlow.Adapters
open Python Table Effect Plane

/-- These letters count as white space at the ends of an identifier. -/
def isSpace (letter : Char) : Bool :=
  let point := letter.toNat
  (9 ≤ point && point ≤ 13) || (28 ≤ point && point ≤ 32) || point = 133 || point = 160
    || point = 5760 || (8192 ≤ point && point ≤ 8202) || point = 8232 || point = 8233
    || point = 8239 || point = 8287 || point = 12288

def strip (text : String) : String :=
  String.ofList ((text.toList.dropWhile isSpace).reverse.dropWhile isSpace).reverse

def isUnreserved (point : Nat) : Bool :=
  (48 ≤ point && point ≤ 57) || (65 ≤ point && point ≤ 90) || (97 ≤ point && point ≤ 122)
    || point = 45 || point = 46 || point = 95 || point = 126

def hexDigit (digit : Nat) : Char := Char.ofNat (if digit < 10 then 48 + digit else 55 + digit)

/-- A reserved byte becomes a percent sign and two digits. -/
def quoteByte (byte : Nat) : List Char :=
  if isUnreserved byte then [Char.ofNat byte] else ['%', hexDigit (byte / 16), hexDigit (byte % 16)]

def quote (text : String) : String :=
  String.ofList (text.toList.flatMap fun letter =>
    (String.utf8EncodeChar letter).flatMap fun byte => quoteByte byte.toNat)

/-- `entity_ref` builds a reference and rejects a blank identifier. -/
def entityRef (graph : GraphKind) (entityType identifier : String) : Except Exception String :=
  let value := strip identifier
  if value = "" then .error .valueError
  else .ok (graph.refPrefix entityType ++ quote value)

def runtimeRef (runtimeId : String) : Except Exception String :=
  entityRef .component "component" runtimeId

def instanceRef (instanceId : String) : Except Exception String :=
  entityRef .deployment "instance" instanceId

def nodeRef (nodeId : String) : Except Exception String := entityRef .deployment "node" nodeId

def requestRef (requestId : String) : Except Exception String :=
  entityRef .component "request" requestId

/-- A value of one of these namespaces names one entity. -/
def uniqueNamespaces : List String :=
  ["request_id", "action_id", "component_id", "instance_id", "kv_id", "node_id"]

/-- The resolver binds external identities to entity references. -/
abbrev Bindings := List ((String × String) × List String)

/-- A conflicting identity raises. A blank one binds nothing. -/
def bindOne (entity namespaceName rawValue : String) : EStateM Exception Bindings Unit := do
  let value := strip rawValue
  if value = "" then return
  let bindings ← get
  let existing := getD bindings (namespaceName, value) []
  if namespaceName ∈ uniqueNamespaces && !existing.isEmpty && entity ∉ existing then
    throw .valueError
  let bound := if entity ∈ existing then existing else existing ++ [entity]
  set (assign (namespaceName, value) bound bindings)

/-- `bind` binds its identities in order. -/
def bind (entity : String) (identities : List (String × String)) :
    EStateM Exception Bindings Unit := do
  if entity = "" then throw .valueError
  identities.forM fun identity => bindOne entity identity.1 identity.2

/-- Relations carry their provenance as attributes. -/
def sourceAttributes (source : SourceRef) : List (String × Value) :=
  [("source_backend", .str source.backend), ("source_reference", .str source.reference)]
    ++ (if source.traceId = "" then [] else [("trace_id", .str source.traceId)])
    ++ (if source.spanId = "" then [] else [("span_id", .str source.spanId)])

/-- The adapters share the plane and the resolver. -/
structure World where
  plane : InMemoryStatePlane
  bindings : Bindings

def onPlane {A : Type} (action : PlaneAction A) : EStateM Exception World A :=
  zoom World.plane (fun world plane => { world with plane := plane }) action

def onBindings {A : Type} (action : EStateM Exception Bindings A) : EStateM Exception World A :=
  zoom World.bindings (fun world bindings => { world with bindings := bindings }) action

/-- A referenced entity is created without replacing a present one. -/
def ensureEntity (config : PlaneConfig) (now : Int) (entity : GraphEntity) : PlaneAction Unit := do
  if ((← get).entities.lookup entity.ref).isNone then upsertEntity config now entity

/-- An adapter reports its watermark under its own component. -/
def adapterHeartbeat (componentId watermark : String) (timestamp : Int) : Heartbeat where
  subjectRef := componentId
  producer := componentId
  sourceWatermark := watermark
  timestamp := timestamp

/-- An adapter registers its component and its entity when it is built. -/
def buildAdapter (config : PlaneConfig) (now : Int) (descriptor : ComponentDescriptor) :
    PlaneAction Unit := do
  match (← get).components.lookup descriptor.componentId with
  | none => registerComponent descriptor
  | some existing => if existing ≠ descriptor then throw .valueError
  let ref ← lift (entityRef .component "component" descriptor.componentId)
  let entity ← lift (GraphEntity.make ref .component "component" "ready" ""
    [("kind", descriptor.kind), ("adapter", "true")])
  upsertEntity config now entity

end StateFlow.Adapters
