import StateFlow.Construction.Plane.Contracts

namespace StateFlow.Plane
open Python Table

/-- The registry resolves an alias to the key that owns it. -/
structure CanonicalKeyRegistry where
  definitions : List (String × CanonicalKey) := []
  aliases : List (String × String) := []

namespace CanonicalKeyRegistry

def aliasTaken (registry : CanonicalKeyRegistry) (definition : CanonicalKey) : Bool :=
  definition.aliases.any fun name =>
    (registry.aliases.lookup name).any fun owner => owner ≠ definition.key

/-- A registration that does not replace rejects a taken key and a taken alias. -/
def register (registry : CanonicalKeyRegistry) (definition : CanonicalKey) (replace : Bool) :
    Except Exception CanonicalKeyRegistry :=
  if (registry.definitions.lookup definition.key).isSome && !replace then .error .valueError
  else if registry.aliasTaken definition && !replace then .error .valueError
  else .ok {
    definitions := assign definition.key definition registry.definitions
    aliases := definition.aliases.foldl (fun table name => assign name definition.key table)
      registry.aliases }

def resolve (registry : CanonicalKeyRegistry) (key : String) : Option CanonicalKey :=
  registry.definitions.lookup (getD registry.aliases key key)

end CanonicalKeyRegistry

/-- The declared type of a key restricts its values. -/
def validateValue (definition : CanonicalKey) (value : Value) : Bool :=
  let kind := definition.valueType
  if kind = "int" then
    match value with
    | .int _ => true
    | _ => false
  else if kind = "float" then
    match value with
    | .int _ | .float _ => true
    | .object kind _ => kind = "float"
    | _ => false
  else if kind = "bool" then
    match value with
    | .bool _ => true
    | _ => false
  else if kind ∈ ["string", "enum", "entity_ref"] then value.text?.isSome
  else if kind = "timestamp" then
    match value with
    | .datetime _ => true
    | _ => value.text?.isSome
  else if kind = "string_list" then
    match value with
    | .list items | .tuple items => items.all fun item => item.text?.isSome
    | _ => false
  else if kind = "map" then
    match value with
    | .dict _ => true
    | _ => false
  else true

/-- The lifetimes of the default keys, in microseconds. -/
def dynamicTtl : Option Int := some 500000
def lifecycleTtl : Option Int := some 5000000
def slowTtl : Option Int := some 30000000

/-- The first canonical key set. -/
def defaultDefinitions : List CanonicalKey :=
  [{ key := "agent.phase", entityTypes := ["agent"], valueType := "enum", ttl := lifecycleTtl },
    { key := "agent.priority", entityTypes := ["agent", "request"], valueType := "float",
      ttl := slowTtl },
    { key := "agent.deadline", entityTypes := ["agent", "request"], valueType := "timestamp",
      ttl := slowTtl },
    { key := "agent.expected_resume_time", entityTypes := ["agent"], valueType := "timestamp",
      ttl := lifecycleTtl },
    { key := "session.status", entityTypes := ["session"], valueType := "enum",
      ttl := lifecycleTtl },
    { key := "task.dependencies", entityTypes := ["task"], valueType := "string_list",
      ttl := slowTtl },
    { key := "request.context_tokens", entityTypes := ["request"], valueType := "int",
      unit := "token", ttl := lifecycleTtl },
    { key := "request.expected_output_tokens", entityTypes := ["request"], valueType := "int",
      unit := "token", ttl := lifecycleTtl },
    { key := "request.queue_time", entityTypes := ["request"], valueType := "float", unit := "s",
      ttl := dynamicTtl },
    { key := "request.retry_count", entityTypes := ["request"], valueType := "int",
      ttl := lifecycleTtl },
    { key := "request.target_instance", entityTypes := ["request"], valueType := "entity_ref",
      ttl := lifecycleTtl },
    { key := "runtime.queue_depth", entityTypes := ["component"], valueType := "int",
      ttl := dynamicTtl,
      aliases := ["runtime.queue.waiting_requests", "num_waiting", "queue_length"] },
    { key := "runtime.running", entityTypes := ["component"], valueType := "int",
      ttl := dynamicTtl },
    { key := "runtime.ttft_p95", entityTypes := ["component"], valueType := "float", unit := "s",
      ttl := dynamicTtl },
    { key := "runtime.tpot_p95", entityTypes := ["component"], valueType := "float", unit := "s",
      ttl := dynamicTtl },
    { key := "runtime.prefill_tps", entityTypes := ["component"], valueType := "float",
      unit := "token/s", ttl := dynamicTtl },
    { key := "runtime.decode_tps", entityTypes := ["component"], valueType := "float",
      unit := "token/s", ttl := dynamicTtl },
    { key := "runtime.kv_usage", entityTypes := ["component"], valueType := "float",
      unit := "ratio", ttl := dynamicTtl },
    { key := "runtime.health", entityTypes := ["component"], valueType := "enum",
      ttl := dynamicTtl },
    { key := "kv.location", entityTypes := ["stateful_object"], valueType := "entity_ref",
      ttl := lifecycleTtl },
    { key := "kv.size", entityTypes := ["stateful_object"], valueType := "int", unit := "byte",
      ttl := lifecycleTtl },
    { key := "kv.replica_count", entityTypes := ["stateful_object"], valueType := "int",
      ttl := lifecycleTtl },
    { key := "kv.cache_hit", entityTypes := ["stateful_object", "request"], valueType := "bool",
      ttl := lifecycleTtl },
    { key := "kv.transfer_state", entityTypes := ["stateful_object"], valueType := "enum",
      ttl := lifecycleTtl },
    { key := "kv.soft_pin", entityTypes := ["stateful_object"], valueType := "bool",
      ttl := lifecycleTtl },
    { key := "kv.reuse_probability", entityTypes := ["stateful_object"], valueType := "float",
      unit := "ratio", semantic := .derived, sourcePriority := [.derived], ttl := lifecycleTtl },
    { key := "tool.queue_depth", entityTypes := ["component", "tool_call"], valueType := "int",
      ttl := lifecycleTtl },
    { key := "tool.available_concurrency", entityTypes := ["component"], valueType := "int",
      ttl := lifecycleTtl },
    { key := "tool.latency_p95", entityTypes := ["component"], valueType := "float", unit := "s",
      ttl := lifecycleTtl },
    { key := "tool.success_rate", entityTypes := ["component"], valueType := "float",
      unit := "ratio", ttl := lifecycleTtl },
    { key := "node.allocatable", entityTypes := ["node"], valueType := "map", ttl := slowTtl },
    { key := "node.health", entityTypes := ["node"], valueType := "enum", ttl := lifecycleTtl },
    { key := "instance.ready", entityTypes := ["instance"], valueType := "bool",
      ttl := lifecycleTtl },
    { key := "instance.allocated_gpu", entityTypes := ["instance"], valueType := "float",
      unit := "gpu", ttl := slowTtl },
    { key := "resource.hbm.used", entityTypes := ["resource"], valueType := "int", unit := "byte",
      ttl := dynamicTtl },
    { key := "resource.hbm.reserved", entityTypes := ["resource"], valueType := "int",
      unit := "byte", ttl := dynamicTtl },
    { key := "resource.gpu.util", entityTypes := ["resource"], valueType := "float",
      unit := "ratio", ttl := dynamicTtl },
    { key := "link.effective_bw", entityTypes := ["link"], valueType := "float",
      unit := "byte/s", semantic := .derived, ttl := dynamicTtl }]

/-- The default registry registers each default key once. -/
def defaultKeyRegistry : Except Exception CanonicalKeyRegistry :=
  defaultDefinitions.foldlM (fun registry definition => registry.register definition false) {}

end StateFlow.Plane
