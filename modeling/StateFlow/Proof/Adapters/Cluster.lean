import StateFlow.Library.Replica
import StateFlow.Proof.Adapters.Deployments

namespace StateFlow.Adapters
open Python Table Effect Plane Replica

/-- A change of an object. A removal carries the last state of its object. -/
structure ClusterChange where
  item : List (String × Value)
  deleted : Bool

/-- The changes of each resource, and the number of changes behind each version. -/
structure Cluster where
  changes : Resource → List ClusterChange
  position : Resource → String → Nat
  position_empty : ∀ resource, position resource "" = 0

section Marks
variable (text : Text) (client : KubernetesSourceClient)

/-- The observation that a change of a resource decodes to. -/
def decodeChange (timestamp : Int) (change : ClusterChange) :
    Resource → Except SourceFailure (Option DeploymentObservation)
  | .nodes => decodeNode text client timestamp change.deleted change.item
  | .pods => decodePod text client timestamp change.deleted change.item

/-- The entity type that a resource materializes. -/
def Resource.entityType : Resource → String
  | .nodes => "node"
  | .pods => "instance"

def Resource.projection : Resource → DeploymentObservation → Except Exception GraphEntity
  | .nodes => nodeProjection
  | .pods => instanceProjection

/-- The reference and the lifecycle that an observation gives to an entity of a resource. -/
def Resource.status (resource : Resource) (observation : DeploymentObservation) :
    Option (String × String) :=
  (resource.projection observation).toOption.map fun entity => (entity.ref, entity.lifecycle)

/-- The reference and the lifecycle that a change gives to an entity of its resource. -/
def mark (resource : Resource) (change : ClusterChange) : Option (String × String) :=
  match decodeChange text client 0 change resource with
  | .ok (some observation) => resource.status observation
  | _ => none

/-- Metadata identifies an object of a resource. -/
def objectKey (resource : Resource) (change : ClusterChange) : List String :=
  match getD change.item "metadata" .none, resource with
  | .dict metadata, .nodes => [textOf text metadata "name" ""]
  | .dict metadata, .pods => [textOf text metadata "namespace" "", textOf text metadata "name" "",
      textOf text metadata "uid" ""]
  | _, _ => []

/-- A change exists until a later change of its object. A removal does not exist. -/
def Exists (resource : Resource) (changes : List ClusterChange) (change : ClusterChange) : Prop :=
  Live (objectKey text resource) ClusterChange.deleted changes change

/-- No two existing objects share an entity, and no object changes its entity. -/
def OwnEntities (resource : Resource) (changes : List ClusterChange) : Prop :=
  Exclusive (objectKey text resource) ClusterChange.deleted (mark text client resource) changes

variable {text client} {timestamp : Int} {change : ClusterChange}
  {observation : DeploymentObservation}

theorem decodeNode_timestamp (deleted : Bool) (item : List (String × Value)) :
    decodeNode text client timestamp deleted item =
      (decodeNode text client 0 deleted item).map
        (Option.map fun observation => { observation with observedAt := timestamp }) := by
  unfold decodeNode
  cases mapping (getD item "metadata" .none) with
  | error failure => rfl
  | ok metadata =>
      cases mapping (getD item "status" .none) with
      | error failure => rfl
      | ok status =>
          by_cases unnamed : textOf text metadata "name" "" = ""
          · simp only [Bind.bind, Except.bind, if_pos unnamed]
            rfl
          · simp only [Bind.bind, Except.bind, if_neg unnamed]
            cases observedHealth text deleted status with
            | error failure => rfl
            | ok health =>
                cases raised (allocatable text (getD status "allocatable" .none)) <;> rfl

theorem decodePod_timestamp (deleted : Bool) (item : List (String × Value)) :
    decodePod text client timestamp deleted item =
      (decodePod text client 0 deleted item).map
        (Option.map fun observation => { observation with observedAt := timestamp }) := by
  unfold decodePod
  cases mapping (getD item "metadata" .none) with
  | error failure => rfl
  | ok metadata =>
      cases mapping (getD item "spec" .none) with
      | error failure => rfl
      | ok spec =>
          cases mapping (getD item "status" .none) with
          | error failure => rfl
          | ok status =>
              by_cases unscheduled : textOf text spec "nodeName" "" = ""
              · simp only [Bind.bind, Except.bind, if_pos unscheduled]
                rfl
              · simp only [Bind.bind, Except.bind, if_neg unscheduled]
                cases observedReady text deleted status with
                | error failure => rfl
                | ok ready => cases raised (podGpu text spec) <;> rfl

/-- The instant of a poll changes nothing but the instant of an observation. -/
theorem decodeChange_timestamp (resource : Resource) :
    decodeChange text client timestamp change resource =
      (decodeChange text client 0 change resource).map
        (Option.map fun observation => { observation with observedAt := timestamp }) := by
  cases resource with
  | nodes => exact decodeNode_timestamp change.deleted change.item
  | pods => exact decodePod_timestamp change.deleted change.item

/-- The instant of a poll does not change the mark of a change. -/
theorem mark_of_decodeChange {resource : Resource} {decoded : Option DeploymentObservation}
    (returned : decodeChange text client timestamp change resource = .ok decoded) :
    mark text client resource change = decoded.bind resource.status := by
  rw [decodeChange_timestamp] at returned
  unfold mark
  cases read : decodeChange text client 0 change resource with
  | error failure => rw [read] at returned; cases returned
  | ok observation =>
      rw [read] at returned
      cases returned
      cases observation with
      | none => rfl
      | some observation => cases resource <;> rfl

/-- The marks of decoded changes are those of their observations. -/
theorem marks_of_mapM {resource : Resource} {changes : List ClusterChange}
    {decoded : List (Option DeploymentObservation)}
    (returned : changes.mapM (fun change => decodeChange text client timestamp change resource) =
      .ok decoded) :
    (decoded.filterMap id).filterMap resource.status =
      changes.filterMap (mark text client resource) := by
  induction changes generalizing decoded with
  | nil => cases returned; rfl
  | cons change rest ih =>
      rw [List.mapM_cons] at returned
      obtain ⟨first, read, continued⟩ := except_bind_ok returned
      obtain ⟨others, reads, finished⟩ := except_bind_ok continued
      cases finished
      have marked := mark_of_decodeChange read
      have later := ih reads
      cases first with
      | none =>
          rw [List.filterMap_cons_none rfl, List.filterMap_cons, marked]
          exact later
      | some observation =>
          rw [List.filterMap_cons_some (by rfl), List.filterMap_cons, List.filterMap_cons, marked,
            later]
          rfl

theorem decodeNode_ok {deleted : Bool} {item : List (String × Value)}
    (decoded : decodeNode text client timestamp deleted item = .ok (some observation)) :
    observation.ofNode = true ∧ observation.instanceId = "" ∧ observation.deleted = deleted := by
  refine ⟨decodeNode_ofNode decoded, ?_⟩
  unfold decodeNode at decoded
  obtain ⟨metadata, _, first⟩ := except_bind_ok decoded
  obtain ⟨status, _, second⟩ := except_bind_ok first
  simp only at second
  split at second
  · cases second
  · obtain ⟨health, _, third⟩ := except_bind_ok second
    obtain ⟨quantities, _, finished⟩ := except_bind_ok third
    cases finished
    exact ⟨rfl, rfl⟩

theorem decodePod_deleted {deleted : Bool} {item : List (String × Value)}
    (decoded : decodePod text client timestamp deleted item = .ok (some observation)) :
    observation.deleted = deleted := by
  unfold decodePod at decoded
  obtain ⟨metadata, _, first⟩ := except_bind_ok decoded
  obtain ⟨spec, _, second⟩ := except_bind_ok first
  obtain ⟨status, _, third⟩ := except_bind_ok second
  simp only at third
  split at third
  · cases third
  · obtain ⟨ready, _, fourth⟩ := except_bind_ok third
    obtain ⟨gpu, _, finished⟩ := except_bind_ok fourth
    cases finished
    rfl

theorem status_some {resource : Resource} {ref lifecycle : String}
    (found : resource.status observation = some (ref, lifecycle)) :
    ∃ entity, resource.projection observation = .ok entity ∧ entity.ref = ref ∧
      entity.lifecycle = lifecycle := by
  unfold Resource.status at found
  cases projected : resource.projection observation with
  | error exception => rw [projected] at found; cases found
  | ok entity =>
      rw [projected] at found
      cases found
      exact ⟨entity, rfl, rfl, rfl⟩

theorem projection_ok {resource : Resource} {entity : GraphEntity}
    (projected : resource.projection observation = .ok entity) :
    entity.entityType = resource.entityType ∧
      (observation.deleted = true → entity.lifecycle = "deleted") := by
  cases resource with
  | nodes =>
      have facts := nodeProjection_ok observation projected
      refine ⟨facts.entityType, fun removed => ?_⟩
      rw [facts.lifecycle]
      exact if_pos removed
  | pods =>
      obtain ⟨typed, lifecycle⟩ := instanceProjection_ok projected
      refine ⟨typed, fun removed => ?_⟩
      rw [lifecycle]
      exact if_pos removed

/-- An observation of a node projects no instance. -/
theorem status_of_node (blank : observation.instanceId = "") :
    Resource.pods.status observation = none := by
  have projection : ∀ entity, instanceProjection observation ≠ .ok entity := by
    intro entity projected
    unfold instanceProjection at projected
    obtain ⟨node, _, named⟩ := except_bind_ok projected
    simp only [if_pos blank] at named
    cases named
  cases found : Resource.pods.status observation with
  | none => rfl
  | some entry =>
      obtain ⟨entity, projected, _⟩ := status_some found
      exact absurd projected (projection entity)

/-- A removal marks its entity as deleted. -/
theorem mark_of_removal {resource : Resource} {ref lifecycle : String}
    (removed : change.deleted = true)
    (marked : mark text client resource change = some (ref, lifecycle)) :
    lifecycle = "deleted" := by
  unfold mark at marked
  split at marked
  · rename_i observation decoded
    have flag : observation.deleted = true := by
      cases resource with
      | nodes => exact (decodeNode_ok decoded).2.2.trans removed
      | pods => exact (decodePod_deleted decoded).trans removed
    obtain ⟨entity, projected, _, rfl⟩ := status_some marked
    exact (projection_ok projected).2 flag
  · cases marked

/-- The decoding of a single object. -/
theorem decodeResource_eq (resource : Resource) :
    decodeResource text client timestamp change.deleted resource (.dict change.item) =
      (decodeChange text client timestamp change resource).map Option.toList := by
  cases resource with
  | nodes =>
      change (do
        let nodes ← [change.item].mapM (decodeNode text client timestamp change.deleted)
        return (nodes ++ []).filterMap id) = _
      unfold decodeChange
      rw [List.mapM_cons]
      cases decodeNode text client timestamp change.deleted change.item with
      | error failure => rfl
      | ok decoded => cases decoded <;> rfl
  | pods =>
      change (do
        let pods ← [change.item].mapM (decodePod text client timestamp change.deleted)
        return ([] ++ pods).filterMap id) = _
      unfold decodeChange
      rw [List.mapM_cons]
      cases decodePod text client timestamp change.deleted change.item with
      | error failure => rfl
      | ok decoded => cases decoded <;> rfl

end Marks

section Server
variable (text : Text) (client : KubernetesSourceClient) (cluster : Cluster)

def eventType (event : List (String × Value)) : String := text.upper (textOf text event "type" "")

/-- The events of a watch behind a position carry the changes in their order. A bookmark carries
the version of the position, and an error ends the watch. -/
inductive Streams (resource : Resource) :
    Nat → List ClusterChange → List (List (String × Value)) → Prop
  | done (position : Nat) : Streams resource position [] []
  | error {event : List (String × Value)} (position : Nat) (changes : List ClusterChange)
      (events : List (List (String × Value))) (failed : eventType text event = "ERROR") :
      Streams resource position changes (event :: events)
  | bookmark {event : List (String × Value)} {position : Nat} {changes : List ClusterChange}
      {events : List (List (String × Value))} (marked : eventType text event = "BOOKMARK")
      (placed : objectResourceVersion text (eventObject event) ≠ "" →
        cluster.position resource (objectResourceVersion text (eventObject event)) = position)
      (rest : Streams resource position changes events) :
      Streams resource position changes (event :: events)
  | change {change : ClusterChange} {event : List (String × Value)} {position : Nat}
      {changes : List ClusterChange} {events : List (List (String × Value))}
      (next : (cluster.changes resource)[position]? = some change)
      (carried : eventObject event = change.item)
      (typed : eventType text event ∈
        if change.deleted then ["DELETED"] else ["ADDED", "MODIFIED"])
      (versioned : objectResourceVersion text change.item ≠ "")
      (placed :
        cluster.position resource (objectResourceVersion text change.item) = position + 1)
      (rest : Streams resource (position + 1) changes events) :
      Streams resource position (change :: changes) (event :: events)

def KubernetesWatchCursor.version (cursor : KubernetesWatchCursor) : Resource → String
  | .nodes => cursor.nodeResourceVersion
  | .pods => cursor.podResourceVersion

/-- The changes behind the versions of a cursor. -/
def seen (cursor : KubernetesWatchCursor) (resource : Resource) : List ClusterChange :=
  (cluster.changes resource).take (cluster.position resource (cursor.version resource))

/-- A watch answers with the changes behind its version. A list answers with the existing objects
at its version, which is not before the cursor. -/
structure Honest (cursor : KubernetesWatchCursor) (answers : ApiAnswers) : Prop where
  watches : ∀ resource values events,
    answers.watch resource (cursor.version resource) = .ok values →
    values.mapM mapping = .ok events → ∃ changes, Streams text cluster resource
      (cluster.position resource (cursor.version resource)) changes events
  advances : ∀ resource payload version, answers.list resource = .ok payload →
    listResourceVersion text payload = .ok version →
    cluster.position resource (cursor.version resource) ≤ cluster.position resource version
  lists : ∀ resource payload items version, answers.list resource = .ok payload →
    listItems payload = .ok items → listResourceVersion text payload = .ok version →
    ∀ item, item ∈ items ↔ ∃ change, change.item = item ∧ Exists text resource
      ((cluster.changes resource).take (cluster.position resource version)) change

end Server

end StateFlow.Adapters
