import StateFlow.Construction.Plane.Run

namespace StateFlow.Plane
open Python Table Effect

/-- The arguments of `get_state`. -/
structure StateQuery where
  entityRef : String
  keys : List String
  maxAgeMs : List (String × Int) := []
  minAuthority : SourceAuthority := .logHint
  snapshot : String := ""

section Reads
variable (config : PlaneConfig)

/-- `read_snapshot` rejects an unknown token. -/
def readSnapshot (token : String) : PlaneAction Snapshot := do
  match (← get).snapshots.lookup token with
  | some snapshot => return snapshot
  | none => throw .keyError

/-- `get_state` reads a kept snapshot or takes one of a single entity without relations. -/
def getState (now : Int) (unique : String) (query : StateQuery) :
    PlaneAction (List StateValue) := do
  if query.snapshot ≠ "" then
    let frozen ← readSnapshot query.snapshot
    let requested := query.keys.map (canonicalPattern config)
    return frozen.values.filter fun value =>
      value.entityRef = query.entityRef && requested.any fun pattern => fnmatchcase value.key pattern
  else
    let result ← getSnapshot config now unique {
      entities := [query.entityRef], keys := query.keys, maxAgeMs := query.maxAgeMs,
      minAuthority := query.minAuthority, includeRelations := false }
    return result.values

end Reads

/-- A registry is changed while its plane is used. -/
inductive RegistryEvent where
  | register (definition : CanonicalKey) (replace : Bool)
  | operate (operation : Operation)

/-- A rejected registration changes nothing. -/
def RegistryEvent.apply : PlaneConfig × InMemoryStatePlane → RegistryEvent →
    PlaneConfig × InMemoryStatePlane
  | (config, plane), .register definition replace =>
      match config.registry.register definition replace with
      | .ok registry => ({ config with registry := registry }, plane)
      | .error _ => (config, plane)
  | (config, plane), .operate operation => (config, operation.apply config plane)

/-- An empty registry and an empty plane run through some events. -/
def runRegistered (limits : PlaneConfig) (events : List RegistryEvent) :
    PlaneConfig × InMemoryStatePlane :=
  events.foldl RegistryEvent.apply ({ limits with registry := {} }, {})

end StateFlow.Plane
