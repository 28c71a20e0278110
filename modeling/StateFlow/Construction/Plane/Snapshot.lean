import StateFlow.Library.Glob
import StateFlow.Construction.Plane.Plane

namespace StateFlow.Plane
open Python Table Effect

/-- The current definitions in the order of their keys. -/
def CanonicalKeyRegistry.list (registry : CanonicalKeyRegistry) : List CanonicalKey :=
  ((registry.definitions.map Prod.snd).filter fun definition => !definition.deprecated).insertionSort
    fun first second => first.key ≤ second.key

/-- A duration in milliseconds. -/
def timedeltaOfMs (milliseconds : Int) : Except Exception Int :=
  let micros := milliseconds * 1000
  if -maxTimedelta ≤ micros ∧ micros ≤ maxTimedelta then .ok micros else .error .overflowError

/-- A policy entry covers a key that it names or prefixes. -/
def policyCovers (key name : String) : Bool :=
  name ∈ ["", "*"] || key = name || key.startsWith (name ++ ".")

/-- The first longest entry of a policy. -/
def longestPolicy : List (String × Int) → Option (String × Int)
  | [] => none
  | entry :: rest =>
      match longestPolicy rest with
      | none => some entry
      | some other => if entry.1.length < other.1.length then some other else some entry

/-- `_max_age_for` returns the age that the longest covering entry allows. -/
def maxAgeFor (key : String) (policy : List (String × Int)) : Except Exception (Option Int) :=
  match longestPolicy (policy.filter fun entry => policyCovers key entry.1) with
  | none => .ok none
  | some entry => do return some (← timedeltaOfMs (max 0 entry.2))

section Snapshots
variable (config : PlaneConfig)

/-- An exact key is replaced by the key that it resolves to. -/
def canonicalPattern (key : String) : String :=
  if isPattern key then key
  else match config.registry.resolve key with
    | some definition => definition.key
    | none => key

/-- `_applicable_keys` expands a pattern for one entity type. An unknown exact key has no answer. -/
def applicableKeys (entityType pattern : String) : Option (List String) :=
  if !isPattern pattern then
    (config.registry.resolve pattern).map fun definition =>
      if entityType ∈ definition.entityTypes then [definition.key] else []
  else
    some ((config.registry.list.filter fun definition =>
      entityType ∈ definition.entityTypes && fnmatchcase definition.key pattern).map
        CanonicalKey.key)

/-- What a snapshot finds under one key. -/
inductive Finding where
  | selected (value : StateValue)
  | stale (identity : String)
  | missing (identity : String)

def identityOf (entityRef key : String) : String := entityRef ++ ":" ++ key

section Request
variable (plane : InMemoryStatePlane) (now : Int) (request : SnapshotRequest)

/-- A stored value counts by its authority and then by its freshness. -/
def findKey (entityRef key : String) : Except Exception Finding := do
  match plane.state.lookup (entityRef, key) with
  | none => return .missing (identityOf entityRef key)
  | some value =>
      let maxAge ← maxAgeFor value.key request.maxAgeMs
      if value.authority.rank < request.minAuthority.rank then
        return .missing (identityOf entityRef key)
      else if !value.isFresh now maxAge then return .stale (identityOf entityRef key)
      else return .selected value

/-- The findings of one pattern. -/
def findPattern (entityRef : String) (entity : GraphEntity) (pattern : String) :
    Except Exception (List Finding) :=
  match applicableKeys config entity.entityType pattern with
  | none => .ok [.missing (identityOf entityRef pattern)]
  | some keys => keys.mapM (findKey plane now request entityRef)

/-- The findings of one entity. -/
def findEntity (patterns : List String) (entityRef : String) : Except Exception (List Finding) :=
  match plane.entities.lookup entityRef with
  | none => .ok [.missing entityRef]
  | some entity => do
      return (← patterns.mapM (findPattern config plane now request entityRef entity)).flatten

def findAll : Except Exception (List Finding) := do
  let patterns := (request.keys.map (canonicalPattern config)).reverse.dedup.reverse
  let entities := request.entities.reverse.dedup.reverse
  return (← entities.mapM (findEntity config plane now request patterns)).flatten

end Request

def Finding.value? : Finding → Option StateValue
  | .selected value => some value
  | _ => none

def Finding.stale? : Finding → Option String
  | .stale identity => some identity
  | _ => none

def Finding.missing? : Finding → Option String
  | .missing identity => some identity
  | _ => none

/-- A later value replaces an earlier one of its key. -/
def distinctValues (values : List StateValue) : List StateValue :=
  (values.foldl (fun table value => assign (value.entityRef, value.key) value table)
    ([] : List (EntityStateKey × StateValue))).map Prod.snd

/-- The distinct texts of a list in order. -/
def sortedTexts (texts : List String) : List String := texts.dedup.insertionSort (· ≤ ·)

def StateValue.pair (value : StateValue) : EntityStateKey := (value.entityRef, value.key)

def GraphRelation.triple (relation : GraphRelation) : RelationKey :=
  (relation.sourceRef, relation.relationType, relation.targetRef)

/-- Pairs of texts compare by their first and then by their second text. -/
def pairLe (first second : EntityStateKey) : Bool :=
  first.1 < second.1 || (first.1 = second.1 && first.2 ≤ second.2)

def tripleLe (first second : RelationKey) : Bool :=
  first.1 < second.1 || (first.1 = second.1 && pairLe first.2 second.2)

/-- The fresh relations that touch the scope. Every relation is checked. -/
def freshRelations (now : Int) (scope : List String) :
    List GraphRelation → Except Exception (List GraphRelation)
  | [] => .ok []
  | relation :: rest => do
      let fresh ← relation.isFresh now
      let others ← freshRelations now scope rest
      if fresh && (relation.sourceRef ∈ scope || relation.targetRef ∈ scope) then
        return relation :: others
      else return others

/-- The share of the selected values among all that a request names. -/
def completenessOf (selected missing stale : Nat) : ℚ :=
  let expected := selected + missing + stale
  if expected = 0 then 1 else selected / expected

/-- The content of a snapshot. -/
def takeSnapshot (plane : InMemoryStatePlane) (now : Int) (unique : String)
    (request : SnapshotRequest) : Except Exception Snapshot := do
  let findings ← findAll config plane now request
  let selected := distinctValues (findings.filterMap Finding.value?)
  let relations ← if request.includeRelations then
      freshRelations now request.entities (plane.relations.map Prod.snd) else .ok []
  let missing := sortedTexts (findings.filterMap Finding.missing?)
  let stale := sortedTexts (findings.filterMap Finding.stale?)
  return {
    token := "snapshot-" ++ toString plane.revision ++ "-" ++ unique
    logicalTime := plane.revision
    createdAt := now
    completeness := completenessOf selected.length missing.length stale.length
    values := selected.insertionSort fun first second => pairLe first.pair second.pair
    relations := relations.insertionSort fun first second => tripleLe first.triple second.triple
    missing := missing
    stale := stale }

/-- A snapshot moves to the end of its table. The oldest snapshots leave a full table. -/
def keepSnapshot (plane : InMemoryStatePlane) (snapshot : Snapshot) : InMemoryStatePlane :=
  let others := plane.snapshots.filter fun entry => entry.1 ≠ snapshot.token
  { plane with
    snapshots := latest (max 1 config.maxSnapshots) (others ++ [(snapshot.token, snapshot)]) }

/-- `get_snapshot` classifies the requested keys at one instant. -/
def getSnapshot (now : Int) (unique : String) (request : SnapshotRequest) :
    PlaneAction Snapshot := do
  let snapshot ← lift (takeSnapshot config (← get) now unique request)
  modify fun plane => keepSnapshot config plane snapshot
  return snapshot

end Snapshots

/-- The counters that `freshness` reports. -/
structure FreshnessReport where
  revision : Nat
  stateCount : Nat
  staleCount : Nat
  staleRatio : ℚ
  metricCount : Nat
  eventCount : Nat
  adapterCount : Nat
  staleAdapterCount : Nat

/-- `freshness` counts the stale values and the stale adapters. -/
def freshness (plane : InMemoryStatePlane) (now : Int) : Except Exception FreshnessReport := do
  let total := plane.state.length
  let stale := plane.state.countP fun entry => !entry.2.isFresh now none
  let beats ← plane.heartbeats.mapM fun entry => entry.2.isStale now
  return {
    revision := plane.revision
    stateCount := total
    staleCount := stale
    staleRatio := if total = 0 then 0 else stale / total
    metricCount := plane.metrics.length
    eventCount := plane.events.length
    adapterCount := plane.heartbeats.length
    staleAdapterCount := beats.count true }

end StateFlow.Plane
