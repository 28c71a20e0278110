import Mathlib.Data.List.ReduceOption
import StateFlow.Construction.Adapters.Writer
import StateFlow.Library.Ascii
import StateFlow.Proof.Adapters.Client
import StateFlow.Proof.Adapters.Deployments

namespace StateFlow.Adapters
open Python Table Calendar Effect Plane

/-- Two writers agree on the components and the entities of a plane. -/
structure SameEntities (first second : AdapterStatePlane) : Prop where
  listComponents : Matches first.listComponents second.listComponents
  registerComponent : ∀ descriptor, descriptor.componentId ≠ "" ∧ descriptor.kind ≠ "" →
    Matches (first.registerComponent descriptor) (second.registerComponent descriptor)
  upsertEntity : ∀ entity, Matches (first.upsertEntity entity) (second.upsertEntity entity)
  getEntity : ∀ ref, Matches (first.getEntity ref) (second.getEntity ref)

theorem sameEntities_httpClient (text : Text) (other : Value → Value) (config : PlaneConfig)
    (now : Int) (arrival shown : DateTime) :
    SameEntities (httpClient text other config now arrival shown) (inProcess config now) :=
  ⟨matches_listComponents, fun _ named => matches_registerComponent named, matches_upsertEntity,
    matches_getEntity⟩

section Prepare
variable {first second : AdapterStatePlane} (same : SameEntities first second)
include same

theorem matches_project (entity : Except Exception GraphEntity) :
    Matches (first.project entity) (second.project entity) :=
  matches_zoom (matches_lift_bind fun entity _ => same.upsertEntity entity)

theorem matches_refer (entity : Except Exception GraphEntity) :
    Matches (first.refer entity) (second.refer entity) := by
  apply matches_zoom
  apply matches_lift_bind
  intro entity _
  apply matches_bind (same.getEntity entity.ref)
  intro found
  exact matches_ite (fun _ => same.upsertEntity entity) fun _ => matches_refl _

/-- A runtime with a reference has a named component. -/
theorem matches_registerRuntime {observation : RuntimeObservation} {ref : String}
    (named : runtimeRef observation.runtimeId = .ok ref) :
    Matches (first.registerRuntime observation) (second.registerRuntime observation) := by
  have present : observation.runtimeId ≠ "" := by
    intro empty
    rw [empty] at named
    exact (entityRef_ok named).1 (by decide)
  apply matches_bind same.listComponents
  intro components
  exact matches_ite (fun _ => matches_refl _)
    fun _ => same.registerComponent _ ⟨present, by simp [RuntimeObservation.descriptor]⟩

theorem matches_relateNode (observation : RuntimeObservation) (instanceRef : String) :
    Matches (first.relateNode observation instanceRef) (second.relateNode observation instanceRef) := by
  apply matches_ite (fun _ => matches_refl _)
  intro _
  apply matches_lift_bind
  intro nodeRef _
  exact matches_seq (matches_refer same _) (matches_refl _)

theorem matches_relateRequest (observation : RuntimeObservation) (runtimeRef instanceRef : String) :
    Matches (first.relateRequest observation runtimeRef instanceRef)
      (second.relateRequest observation runtimeRef instanceRef) := by
  apply matches_ite (fun _ => matches_refl _)
  intro _
  apply matches_lift_bind
  intro requestRef _
  exact matches_seq (matches_refer same _) (matches_refl _)

theorem matches_prepareRuntime (observation : RuntimeObservation) :
    Matches (first.prepareRuntime observation) (second.prepareRuntime observation) := by
  apply matches_lift_bind
  intro runtimeRef named
  apply matches_lift_bind
  intro instanceRef _
  apply matches_seq (matches_zoom (matches_registerRuntime same named))
  apply matches_seq (matches_project same _)
  apply matches_seq (matches_project same _)
  apply matches_seq (matches_refl _)
  apply matches_seq (matches_refl _)
  apply matches_bind (matches_relateNode same observation instanceRef)
  intro contained
  exact matches_bind (matches_relateRequest same observation runtimeRef instanceRef)
    fun _ => matches_refl _

theorem matches_relateLocation (observation : KVObservation) (kvRef : String) (location : KVLocation) :
    Matches (first.relateLocation observation kvRef location)
      (second.relateLocation observation kvRef location) := by
  apply matches_bind (matches_refl _)
  intro ref
  exact matches_seq (matches_refer same _) (matches_refl _)

theorem matches_relateUse (observation : KVObservation) (kvRef requestId : String) :
    Matches (first.relateUse observation kvRef requestId)
      (second.relateUse observation kvRef requestId) := by
  apply matches_lift_bind
  intro ref _
  exact matches_seq (matches_refer same _) (matches_refl _)

theorem matches_prepareKv (observation : KVObservation) :
    Matches (first.prepareKv observation) (second.prepareKv observation) := by
  apply matches_lift_bind
  intro kvRef _
  apply matches_lift_bind
  intro ownerRef _
  apply matches_seq (matches_project same _)
  apply matches_seq (matches_refl _)
  apply matches_bind (matches_mapM fun location _ => matches_relateLocation same _ _ location)
  intro located
  exact matches_bind (matches_mapM fun requestId _ => matches_relateUse same _ _ requestId)
    fun _ => matches_refl _

theorem matches_relateRuntime (observation : DeploymentObservation)
    (runtimeRef instanceRef : String) :
    Matches (first.relateRuntime observation runtimeRef instanceRef)
      (second.relateRuntime observation runtimeRef instanceRef) := by
  apply matches_ite (fun _ => matches_refl _)
  intro _
  exact matches_seq (matches_refer same _) (matches_refl _)

theorem matches_projectInstance (observation : DeploymentObservation) (nodeRef : String) :
    Matches (first.projectInstance observation nodeRef)
      (second.projectInstance observation nodeRef) := by
  apply matches_ite (fun _ => matches_refl _)
  intro _
  apply matches_lift_bind
  intro instanceRef _
  apply matches_lift_bind
  intro runtimeRef _
  apply matches_seq (matches_project same _)
  apply matches_seq (matches_refl _)
  exact matches_bind (matches_relateRuntime same observation runtimeRef instanceRef)
    fun _ => matches_refl _

theorem matches_prepareDeployment (observation : DeploymentObservation) :
    Matches (first.prepareDeployment observation) (second.prepareDeployment observation) := by
  apply matches_lift_bind
  intro clusterRef _
  apply matches_lift_bind
  intro nodeRef _
  apply matches_seq (matches_project same _)
  apply matches_seq (matches_project same _)
  apply matches_seq (matches_refl _)
  apply matches_seq (matches_refl _)
  exact matches_bind (matches_projectInstance same observation nodeRef) fun _ => matches_refl _

theorem matches_projectLink (observation : HardwareObservation) (nodeRef : String) :
    Matches (first.projectLink observation nodeRef) (second.projectLink observation nodeRef) := by
  unfold AdapterStatePlane.projectLink
  cases observation.effectiveBandwidthBytesPerSecond with
  | none => exact matches_refl _
  | some bandwidth =>
      apply matches_ite (fun _ => matches_refl _)
      intro _
      apply matches_lift_bind
      intro peerRef _
      apply matches_lift_bind
      intro linkRef _
      apply matches_seq (matches_refer same _)
      exact matches_seq (matches_project same _) (matches_refl _)

theorem matches_prepareHardware (observation : HardwareObservation) :
    Matches (first.prepareHardware observation) (second.prepareHardware observation) := by
  apply matches_lift_bind
  intro nodeRef _
  apply matches_lift_bind
  intro resourceRef _
  apply matches_seq (matches_refer same _)
  apply matches_seq (matches_project same _)
  apply matches_seq (matches_refl _)
  apply matches_seq (matches_refl _)
  exact matches_bind (matches_projectLink same observation nodeRef) fun _ => matches_refl _

/-- Writers that agree on the entities prepare the same batches. -/
theorem matches_prepare (observation : Observation) :
    Matches (first.prepare observation) (second.prepare observation) := by
  cases observation with
  | runtime observation => exact matches_prepareRuntime same observation
  | kv observation => exact matches_prepareKv same observation
  | deployment observation => exact matches_prepareDeployment same observation
  | hardware observation => exact matches_prepareHardware same observation

end Prepare

namespace Observation

/-- The observation reports some value of an entity that it names. -/
def HasValue : Observation → Prop
  | runtime observation => observation.stateValues ≠ [] ∨ observation.ready.isSome
  | kv observation => observation.locations ≠ [] ∨ observation.sizeBytes.isSome ∨
      observation.replicaCount.isSome ∨ observation.transferState.isSome ∨
      observation.softPin.isSome ∨ observation.cacheHit.isSome ∧ observation.requestIds ≠ []
  | deployment observation => observation.nodeAllocatable.isSome ∨ observation.nodeHealth.isSome ∨
      observation.instanceId ≠ "" ∧
        (observation.instanceReady.isSome ∨ observation.allocatedGpu.isSome)
  | hardware observation => observation.hbmUsedBytes.isSome ∨ observation.hbmReservedBytes.isSome ∨
      observation.gpuUtilRatio.isSome ∨ observation.nodeHealth.isSome ∨
      observation.peerNodeId ≠ "" ∧ observation.effectiveBandwidthBytesPerSecond.isSome

/-- Only a cached object without locations and requests relates nothing. -/
def HasRelation : Observation → Prop
  | kv observation => observation.locations ≠ [] ∨ observation.requestIds ≠ []
  | _ => True

/-- The floats of an observation -/
def floats : Observation → List Floating
  | runtime observation => [observation.ttftP95Seconds, observation.tpotP95Seconds,
      observation.prefillTokensPerSecond, observation.decodeTokensPerSecond,
      observation.kvUsageRatio].reduceOption
  | kv _ => []
  | deployment observation => observation.allocatedGpu.toList
  | hardware observation =>
      [observation.gpuUtilRatio, observation.effectiveBandwidthBytesPerSecond].reduceOption

def allocatable : Observation → Option (List (String × Value))
  | deployment observation => observation.nodeAllocatable
  | _ => none

/-- Every value of the observation is its own JSON form. -/
structure Lossless (observation : Observation) : Prop where
  finite : ∀ number ∈ observation.floats, number.isFinite = true
  json : ∀ entries ∈ observation.allocatable, isJsonEntries entries = true

/-- A server accepts the batches of an observation with a value, a relation, and a named source. -/
structure Sendable (observation : Observation) : Prop where
  value : observation.HasValue
  relation : observation.HasRelation
  backend : observation.source.backend ≠ ""
  reference : observation.source.reference ≠ ""

end Observation

/-- These facts hold of every update of an observation. -/
structure Reports (observation : Observation) (update : StateUpdate) : Prop where
  named : update.entityRef ≠ "" ∧ update.key ≠ "" ∧ update.producer ≠ ""
  sourced : update.sourceRef = some observation.source
  dated : update.timestamp = observation.observedAt
  immediate : update.ttl = none
  json : observation.Lossless → isJson update.value = true

/-- These facts hold of every relation of an observation. -/
structure Relates (observation : Observation) (update : RelationUpdate) : Prop where
  named : update.sourceRef ≠ "" ∧ update.relationType ≠ "" ∧ update.targetRef ≠ ""
    ∧ update.producer ≠ ""
  dated : update.timestamp = observation.observedAt
  unzoned : update.zone = 0
  immediate : update.ttl = none
  json : isJsonEntries update.attributes = true

/-- The batches of an observation are empty exactly when it reports or relates nothing. -/
structure Describes (observation : Observation) (batches : Batches) : Prop where
  value : batches.updates ≠ [] ↔ observation.HasValue
  relation : batches.relations ≠ [] ↔ observation.HasRelation
  updates : ∀ update ∈ batches.updates, Reports observation update
  relations : ∀ update ∈ batches.relations, Relates observation update

theorem isJsonEntries_append {front back : List (String × Value)} :
    isJsonEntries (front ++ back) = (isJsonEntries front && isJsonEntries back) := by
  induction front with
  | nil => rfl
  | cons entry rest ih => simp [isJsonEntries, ih, Bool.and_assoc]

theorem sourceAttributes_json (source : SourceRef) :
    isJsonEntries (sourceAttributes source) = true := by
  unfold sourceAttributes
  rw [isJsonEntries_append, isJsonEntries_append]
  split <;> split <;> rfl

/-- A finite float is a JSON number. -/
theorem isJson_of_finite {number : Floating} (finite : number.isFinite = true) :
    isJson number.value = true := by
  cases number with
  | finite value => rfl
  | infinite negative => cases finite
  | nan => cases finite

section Runtime
variable {writer : AdapterStatePlane} {observation : RuntimeObservation} {world last : World}

theorem relates_runtime {sourceRef relationType targetRef suffix : String}
    {authority : SourceAuthority} (source : sourceRef ≠ "") (type : relationType ≠ "")
    (target : targetRef ≠ "") : Relates (.runtime observation)
      (observation.relation sourceRef relationType targetRef authority suffix) :=
  ⟨⟨source, type, target, by simp [RuntimeObservation.relation, runtimeAdapter]⟩, rfl, rfl, rfl,
    sourceAttributes_json _⟩

theorem relates_relateNode {instanceRef : String} (named : instanceRef ≠ "")
    {relations : List RelationUpdate}
    (returned : writer.relateNode observation instanceRef world = .ok relations last) :
    ∀ update ∈ relations, Relates (.runtime observation) update := by
  unfold AdapterStatePlane.relateNode at returned
  split at returned
  · cases returned
    simp
  · obtain ⟨nodeRef, _, built, returned⟩ := bind_ok returned
    have node := entityRef_ne_empty (lift_ok built).1
    obtain ⟨_, _, _, returned⟩ := bind_ok returned
    obtain ⟨_, _, _, returned⟩ := bind_ok returned
    cases returned
    intro update member
    rw [List.mem_singleton.mp member]
    exact relates_runtime node (by decide) named

theorem relates_relateRequest {runtimeRef instanceRef : String} (runtime : runtimeRef ≠ "")
    (replica : instanceRef ≠ "") {relations : List RelationUpdate}
    (returned : writer.relateRequest observation runtimeRef instanceRef world =
      .ok relations last) : ∀ update ∈ relations, Relates (.runtime observation) update := by
  unfold AdapterStatePlane.relateRequest at returned
  split at returned
  · cases returned
    simp
  · obtain ⟨requestRef, _, built, returned⟩ := bind_ok returned
    have request := entityRef_ne_empty (lift_ok built).1
    obtain ⟨_, _, _, returned⟩ := bind_ok returned
    obtain ⟨_, _, _, returned⟩ := bind_ok returned
    cases returned
    intro update member
    rcases List.mem_cons.mp member with rfl | later
    · exact relates_runtime request (by decide) runtime
    · rw [List.mem_singleton.mp later]
      exact relates_runtime request (by decide) replica

/-- Every value of a window has a name. A finite one is a JSON value. -/
theorem stateValues_named {entry : String × Value} (member : entry ∈ observation.stateValues) :
    entry.1 ≠ "" ∧ ((Observation.runtime observation).Lossless → isJson entry.2 = true) := by
  obtain ⟨⟨key, value⟩, listed, found⟩ := List.mem_filterMap.mp member
  obtain ⟨present, some, rfl⟩ := Option.map_eq_some_iff.mp found
  simp only [List.mem_cons, List.not_mem_nil, or_false, Prod.mk.injEq] at listed
  have whole (content : Option Int) (taken : content.map Value.int = .some present) :
      isJson present = true := by
    obtain ⟨_, _, rfl⟩ := Option.map_eq_some_iff.mp taken
    rfl
  have written (content : Option String) (taken : content.map Value.str = .some present) :
      isJson present = true := by
    obtain ⟨_, _, rfl⟩ := Option.map_eq_some_iff.mp taken
    rfl
  have measured (content : Option Floating) (taken : content.map Floating.value = .some present)
      (listed : content ∈ [observation.ttftP95Seconds, observation.tpotP95Seconds,
        observation.prefillTokensPerSecond, observation.decodeTokensPerSecond,
        observation.kvUsageRatio])
      (lossless : (Observation.runtime observation).Lossless) : isJson present = true := by
    obtain ⟨number, given, rfl⟩ := Option.map_eq_some_iff.mp taken
    exact isJson_of_finite (lossless.finite number (List.reduceOption_mem_iff.mpr (given ▸ listed)))
  rcases listed with ⟨rfl, rfl⟩ | ⟨rfl, rfl⟩ | ⟨rfl, rfl⟩ | ⟨rfl, rfl⟩ | ⟨rfl, rfl⟩ | ⟨rfl, rfl⟩ |
    ⟨rfl, rfl⟩ | ⟨rfl, rfl⟩
  · exact ⟨by simp, fun _ => whole _ some⟩
  · exact ⟨by simp, fun _ => whole _ some⟩
  · exact ⟨by simp, measured _ some (by simp)⟩
  · exact ⟨by simp, measured _ some (by simp)⟩
  · exact ⟨by simp, measured _ some (by simp)⟩
  · exact ⟨by simp, measured _ some (by simp)⟩
  · exact ⟨by simp, measured _ some (by simp)⟩
  · exact ⟨by simp, fun _ => written _ some⟩

theorem describes_runtime {batches : Batches}
    (returned : writer.prepareRuntime observation world = .ok batches last) :
    Describes (.runtime observation) batches := by
  unfold AdapterStatePlane.prepareRuntime at returned
  obtain ⟨runtimeRef, _, built, returned⟩ := bind_ok returned
  have runtime := entityRef_ne_empty (lift_ok built).1
  obtain ⟨instanceRef, _, built, returned⟩ := bind_ok returned
  have replica := entityRef_ne_empty (lift_ok built).1
  obtain ⟨_, _, _, returned⟩ := bind_ok returned
  obtain ⟨_, _, _, returned⟩ := bind_ok returned
  obtain ⟨_, _, _, returned⟩ := bind_ok returned
  obtain ⟨_, _, _, returned⟩ := bind_ok returned
  obtain ⟨_, _, _, returned⟩ := bind_ok returned
  obtain ⟨contained, _, node, returned⟩ := bind_ok returned
  obtain ⟨executing, _, request, returned⟩ := bind_ok returned
  cases returned
  refine ⟨?_, by simp [Observation.HasRelation], ?_, ?_⟩
  · change _ ↔ observation.stateValues ≠ [] ∨ observation.ready.isSome = true
    unfold RuntimeObservation.updates
    cases observation.ready <;> simp
  · intro update member
    rcases List.mem_append.mp member with early | late
    · obtain ⟨entry, inside, rfl⟩ := List.mem_map.mp early
      obtain ⟨name, json⟩ := stateValues_named inside
      exact ⟨⟨runtime, name, by simp [RuntimeObservation.update, runtimeAdapter]⟩, rfl, rfl, rfl,
        json⟩
    · cases answer : observation.ready with
      | none => rw [answer] at late; cases late
      | some ready =>
          rw [answer] at late
          rw [List.mem_singleton.mp late]
          exact ⟨⟨replica, by simp [RuntimeObservation.update],
            by simp [RuntimeObservation.update, runtimeAdapter]⟩, rfl, rfl, rfl, fun _ => rfl⟩
  · intro update member
    rcases List.mem_append.mp member with early | late
    · rcases List.mem_cons.mp early with rfl | inside
      · exact relates_runtime runtime (by decide) replica
      · exact relates_relateNode replica node update inside
    · exact relates_relateRequest runtime replica request update late

end Runtime

section KV
variable {writer : AdapterStatePlane} {observation : KVObservation} {world last : World}

theorem relates_kv {sourceRef relationType targetRef suffix : String}
    {attributes : List (String × Value)} (source : sourceRef ≠ "") (type : relationType ≠ "")
    (target : targetRef ≠ "") (json : isJsonEntries attributes = true) :
    Relates (.kv observation)
      (observation.relation sourceRef relationType targetRef attributes suffix) :=
  ⟨⟨source, type, target, by simp [KVObservation.relation, kvAdapter]⟩, rfl, rfl, rfl, json⟩

theorem locationAttributes_json (location : KVLocation) :
    isJsonEntries (locationAttributes observation location) = true := by
  unfold locationAttributes
  rw [isJsonEntries_append, isJsonEntries_append, sourceAttributes_json]
  split <;> rfl

theorem resolveLocation_ne_empty {location : KVLocation} {ref : String}
    (returned : resolveLocation location world = .ok ref last) : ref ≠ "" := by
  unfold resolveLocation at returned
  split at returned
  · exact entityRef_ne_empty (lift_ok returned).1
  · obtain ⟨nodeRef, _, built, returned⟩ := bind_ok returned
    obtain ⟨_, _, _, returned⟩ := bind_ok returned
    cases returned
    exact entityRef_ne_empty (lift_ok built).1

theorem relates_relateLocation {kvRef : String} (named : kvRef ≠ "") {location : KVLocation}
    {result : String × RelationUpdate}
    (returned : writer.relateLocation observation kvRef location world = .ok result last) :
    Relates (.kv observation) result.2 := by
  obtain ⟨ref, _, resolved, returned⟩ := bind_ok returned
  obtain ⟨_, _, _, returned⟩ := bind_ok returned
  cases returned
  exact relates_kv named (by decide) (resolveLocation_ne_empty resolved)
    (locationAttributes_json location)

theorem relates_relateUse {kvRef requestId : String} (named : kvRef ≠ "") {update : RelationUpdate}
    (returned : writer.relateUse observation kvRef requestId world = .ok update last) :
    Relates (.kv observation) update := by
  obtain ⟨ref, _, built, returned⟩ := bind_ok returned
  obtain ⟨_, _, _, returned⟩ := bind_ok returned
  obtain ⟨_, _, _, returned⟩ := bind_ok returned
  cases returned
  exact relates_kv (entityRef_ne_empty (lift_ok built).1) (by decide) named
    (sourceAttributes_json _)

theorem kvValues_named {location : Option String} {entry : String × Value}
    (member : entry ∈ observation.stateValues location) :
    entry.1 ≠ "" ∧ isJson entry.2 = true := by
  obtain ⟨⟨key, value⟩, listed, found⟩ := List.mem_filterMap.mp member
  obtain ⟨present, some, rfl⟩ := Option.map_eq_some_iff.mp found
  simp only [List.mem_cons, List.not_mem_nil, or_false, Prod.mk.injEq] at listed
  rcases listed with ⟨rfl, rfl⟩ | ⟨rfl, rfl⟩ | ⟨rfl, rfl⟩ | ⟨rfl, rfl⟩ | ⟨rfl, rfl⟩ <;>
  · obtain ⟨_, _, rfl⟩ := Option.map_eq_some_iff.mp some
    exact ⟨by simp, rfl⟩

/-- The object has a value of its own with a location or with a reported field. -/
theorem kvValues_present {locationRefs : List String}
    (located : locationRefs.length = observation.locations.length) :
    observation.stateValues (observation.primaryLocation locationRefs) ≠ [] ↔
      observation.locations ≠ [] ∨ observation.sizeBytes.isSome ∨ observation.replicaCount.isSome ∨
        observation.transferState.isSome ∨ observation.softPin.isSome := by
  have empty : observation.stateValues (observation.primaryLocation locationRefs) = [] ↔
      observation.primaryLocation locationRefs = none ∧ observation.sizeBytes = none ∧
        observation.replicas = none ∧ observation.transferState = none ∧
          observation.softPin = none := by
    simp [KVObservation.stateValues, List.filterMap_eq_nil_iff]
  rw [ne_eq, empty]
  unfold KVObservation.replicas
  by_cases none : observation.locations = []
  · have alone : locationRefs = [] := by
      rw [none] at located
      exact List.eq_nil_of_length_eq_zero located
    subst alone
    have missing : observation.primaryLocation [] = .none := rfl
    rw [missing, if_pos none]
    cases observation.sizeBytes <;> cases observation.replicaCount <;>
      cases observation.transferState <;> cases observation.softPin <;> simp [none]
  · rw [if_neg none]
    cases observation.replicaCount <;> simp [none]

/-- A cache hit is reported for each request. -/
theorem cacheUpdates_ok {updates : List StateUpdate}
    (returned : cacheUpdates observation = .ok updates) :
    (updates ≠ [] ↔ observation.cacheHit.isSome ∧ observation.requestIds ≠ []) ∧
      ∀ update ∈ updates, Reports (.kv observation) update := by
  unfold cacheUpdates at returned
  cases answer : observation.cacheHit with
  | none =>
      rw [answer] at returned
      cases returned
      simp
  | some hit =>
      rw [answer] at returned
      have related := forall₂_of_mapM returned
      constructor
      · have lengths := related.length_eq
        simp only [Option.isSome_some, true_and, ne_eq, ← List.length_eq_zero_iff, lengths]
      · intro update member
        obtain ⟨requestId, _, built⟩ := mem_of_mapM returned member
        obtain ⟨ref, named, built⟩ := except_bind_ok built
        cases built
        exact ⟨⟨entityRef_ne_empty named, by simp [KVObservation.update],
          by simp [KVObservation.update, kvAdapter]⟩, rfl, rfl, rfl, fun _ => rfl⟩

theorem describes_kv {batches : Batches}
    (returned : writer.prepareKv observation world = .ok batches last) :
    Describes (.kv observation) batches := by
  unfold AdapterStatePlane.prepareKv at returned
  obtain ⟨kvRef, _, built, returned⟩ := bind_ok returned
  have object := entityRef_ne_empty (lift_ok built).1
  obtain ⟨_, _, _, returned⟩ := bind_ok returned
  obtain ⟨_, _, _, returned⟩ := bind_ok returned
  obtain ⟨_, _, _, returned⟩ := bind_ok returned
  obtain ⟨located, _, locations, returned⟩ := bind_ok returned
  obtain ⟨used, _, uses, returned⟩ := bind_ok returned
  obtain ⟨updates, _, reported, returned⟩ := bind_ok returned
  cases returned
  have locations := forall₂_of_mapM_ok locations
  have uses := forall₂_of_mapM_ok uses
  obtain ⟨cached, hits, reported⟩ := except_bind_ok (lift_ok reported).1
  cases reported
  obtain ⟨hit, hits⟩ := cacheUpdates_ok hits
  have count : (located.map Prod.fst).length = observation.locations.length := by
    rw [List.length_map, locations.length_eq]
  refine ⟨?_, ?_, ?_, ?_⟩
  · have own := kvValues_present count
    change _ ↔ observation.locations ≠ [] ∨ observation.sizeBytes.isSome ∨ _
    rw [ne_eq, List.append_eq_nil_iff, List.map_eq_nil_iff, not_and_or, ← ne_eq, ← ne_eq, own, hit]
    simp only [or_assoc]
  · change _ ↔ observation.locations ≠ [] ∨ observation.requestIds ≠ []
    have few : located = [] ↔ observation.locations = [] := by
      rw [← List.length_eq_zero_iff, ← List.length_eq_zero_iff, locations.length_eq]
    have idle : used = [] ↔ observation.requestIds = [] := by
      rw [← List.length_eq_zero_iff, ← List.length_eq_zero_iff, uses.length_eq]
    rw [ne_eq, List.append_eq_nil_iff, List.map_eq_nil_iff, few, idle, not_and_or]
  · intro update member
    rcases List.mem_append.mp member with own | inside
    · obtain ⟨entry, listed, rfl⟩ := List.mem_map.mp own
      obtain ⟨name, json⟩ := kvValues_named listed
      exact ⟨⟨object, name, by simp [KVObservation.update, kvAdapter]⟩, rfl, rfl, rfl, fun _ => json⟩
    · exact hits update inside
  · intro update member
    rcases List.mem_append.mp member with early | late
    · obtain ⟨result, inside, rfl⟩ := List.mem_map.mp early
      obtain ⟨location, _, _, _, ran⟩ := exists_of_forall₂ locations inside
      exact relates_relateLocation object ran
    · obtain ⟨requestId, _, _, _, ran⟩ := exists_of_forall₂ uses late
      exact relates_relateUse object ran

end KV

section Deployment
variable {writer : AdapterStatePlane} {observation : DeploymentObservation} {world last : World}

theorem relates_deployment {sourceRef relationType targetRef suffix : String}
    (source : sourceRef ≠ "") (type : relationType ≠ "") (target : targetRef ≠ "") :
    Relates (.deployment observation) (observation.relation kubernetesAdapter.componentId sourceRef
      relationType targetRef suffix) :=
  ⟨⟨source, type, target, by simp [DeploymentObservation.relation, kubernetesAdapter]⟩, rfl, rfl,
    rfl, sourceAttributes_json _⟩

theorem relates_relateRuntime {runtimeRef instanceRef : String} (named : instanceRef ≠ "")
    {relations : List RelationUpdate}
    (returned : writer.relateRuntime observation runtimeRef instanceRef world =
      .ok relations last) : ∀ update ∈ relations, Relates (.deployment observation) update := by
  unfold AdapterStatePlane.relateRuntime at returned
  split at returned
  · cases returned
    simp
  · rename_i runtime
    obtain ⟨_, _, _, returned⟩ := bind_ok returned
    obtain ⟨_, _, _, returned⟩ := bind_ok returned
    cases returned
    intro update member
    rw [List.mem_singleton.mp member]
    exact relates_deployment runtime (by decide) named

/-- An instance has a reference exactly when it is named. -/
theorem projectInstance_ok {nodeRef : String} (node : nodeRef ≠ "")
    {result : String × List RelationUpdate}
    (returned : writer.projectInstance observation nodeRef world = .ok result last) :
    (result.1 = "" ↔ observation.instanceId = "") ∧
      ∀ update ∈ result.2, Relates (.deployment observation) update := by
  unfold AdapterStatePlane.projectInstance at returned
  split at returned
  · rename_i unnamed
    cases returned
    simp [unnamed]
  · rename_i named
    obtain ⟨instanceRef, _, built, returned⟩ := bind_ok returned
    have replica := entityRef_ne_empty (lift_ok built).1
    obtain ⟨runtimeRef, _, _, returned⟩ := bind_ok returned
    obtain ⟨_, _, _, returned⟩ := bind_ok returned
    obtain ⟨_, _, _, returned⟩ := bind_ok returned
    obtain ⟨deployed, _, related, returned⟩ := bind_ok returned
    cases returned
    refine ⟨by simp [named, replica], fun update member => ?_⟩
    rcases List.mem_cons.mp member with rfl | inside
    · exact relates_deployment node (by decide) replica
    · exact relates_relateRuntime replica related update inside

theorem deploymentUpdates_present {nodeRef instanceRef : String} :
    deploymentUpdates observation nodeRef instanceRef ≠ [] ↔
      observation.nodeAllocatable.isSome ∨ observation.nodeHealth.isSome ∨
        instanceRef ≠ "" ∧ (observation.instanceReady.isSome ∨ observation.allocatedGpu.isSome) := by
  unfold deploymentUpdates
  by_cases unnamed : instanceRef = ""
  · cases observation.nodeAllocatable <;> cases observation.nodeHealth <;> simp [unnamed]
  · cases observation.nodeAllocatable <;> cases observation.nodeHealth <;>
      cases observation.instanceReady <;> cases observation.allocatedGpu <;> simp [unnamed]

theorem reports_deployment {nodeRef instanceRef : String} (node : nodeRef ≠ "")
    {update : StateUpdate} (member : update ∈ deploymentUpdates observation nodeRef instanceRef) :
    Reports (.deployment observation) update := by
  obtain ⟨⟨ref, key, value⟩, listed, found⟩ := List.mem_filterMap.mp member
  obtain ⟨present, some, rfl⟩ := Option.map_eq_some_iff.mp found
  have producer : kubernetesAdapter.componentId ≠ "" := by simp [kubernetesAdapter]
  have report (named : ref ≠ "") (keyed : key ≠ "")
      (json : (Observation.deployment observation).Lossless → isJson present = true) :
      Reports (.deployment observation)
        (observation.update kubernetesAdapter.componentId ref key present) :=
    ⟨⟨named, keyed, producer⟩, rfl, rfl, rfl, json⟩
  rcases List.mem_append.mp listed with onNode | onInstance
  · simp only [List.mem_cons, List.not_mem_nil, or_false, Prod.mk.injEq] at onNode
    rcases onNode with ⟨rfl, rfl, rfl⟩ | ⟨rfl, rfl, rfl⟩
    · obtain ⟨entries, given, rfl⟩ := Option.map_eq_some_iff.mp some
      exact report node (by simp) fun lossless => lossless.json entries given
    · obtain ⟨_, _, rfl⟩ := Option.map_eq_some_iff.mp some
      exact report node (by simp) fun _ => rfl
  · split at onInstance
    · cases onInstance
    · rename_i named
      simp only [List.mem_cons, List.not_mem_nil, or_false, Prod.mk.injEq] at onInstance
      rcases onInstance with ⟨rfl, rfl, rfl⟩ | ⟨rfl, rfl, rfl⟩
      · obtain ⟨_, _, rfl⟩ := Option.map_eq_some_iff.mp some
        exact report named (by simp) fun _ => rfl
      · obtain ⟨number, given, rfl⟩ := Option.map_eq_some_iff.mp some
        exact report named (by simp) fun lossless =>
          isJson_of_finite (lossless.finite number (Option.mem_toList.mpr given))

theorem describes_deployment {batches : Batches}
    (returned : writer.prepareDeployment observation world = .ok batches last) :
    Describes (.deployment observation) batches := by
  unfold AdapterStatePlane.prepareDeployment at returned
  obtain ⟨clusterRef, _, built, returned⟩ := bind_ok returned
  have cluster := entityRef_ne_empty (lift_ok built).1
  obtain ⟨nodeRef, _, built, returned⟩ := bind_ok returned
  have node := entityRef_ne_empty (lift_ok built).1
  obtain ⟨_, _, _, returned⟩ := bind_ok returned
  obtain ⟨_, _, _, returned⟩ := bind_ok returned
  obtain ⟨_, _, _, returned⟩ := bind_ok returned
  obtain ⟨_, _, _, returned⟩ := bind_ok returned
  obtain ⟨⟨instanceRef, relations⟩, _, projected, returned⟩ := bind_ok returned
  cases returned
  obtain ⟨named, related⟩ := projectInstance_ok node projected
  refine ⟨?_, by simp [Observation.HasRelation], fun update => reports_deployment node, ?_⟩
  · change _ ↔ observation.nodeAllocatable.isSome ∨ observation.nodeHealth.isSome ∨
      observation.instanceId ≠ "" ∧ _
    rw [deploymentUpdates_present, ne_eq, named]
  · intro update member
    rcases List.mem_cons.mp member with rfl | inside
    · exact relates_deployment cluster (by decide) node
    · exact related update inside

end Deployment

section Hardware
variable {writer : AdapterStatePlane} {observation : HardwareObservation} {world last : World}

theorem relates_hardware {sourceRef relationType targetRef suffix : String}
    {attributes : List (String × Value)} (source : sourceRef ≠ "") (type : relationType ≠ "")
    (target : targetRef ≠ "") (json : isJsonEntries attributes = true) :
    Relates (.hardware observation)
      (observation.relation sourceRef relationType targetRef attributes suffix) := by
  refine ⟨⟨source, type, target, by simp [HardwareObservation.relation, dcgmAdapter]⟩, rfl, rfl,
    rfl, ?_⟩
  change isJsonEntries (sourceAttributes _ ++ attributes) = true
  rw [isJsonEntries_append, sourceAttributes_json, json]
  rfl

/-- A link is described exactly when its peer and its bandwidth are reported. -/
theorem projectLink_ok {nodeRef : String} (node : nodeRef ≠ "") {batches : Batches}
    (returned : writer.projectLink observation nodeRef world = .ok batches last) :
    (batches.updates ≠ [] ↔
        observation.peerNodeId ≠ "" ∧ observation.effectiveBandwidthBytesPerSecond.isSome) ∧
      (∀ update ∈ batches.updates, Reports (.hardware observation) update) ∧
      ∀ update ∈ batches.relations, Relates (.hardware observation) update := by
  unfold AdapterStatePlane.projectLink at returned
  cases answer : observation.effectiveBandwidthBytesPerSecond with
  | none =>
      rw [answer] at returned
      cases returned
      simp
  | some bandwidth =>
      rw [answer] at returned
      simp only at returned
      split at returned
      · rename_i unnamed
        cases returned
        simp [unnamed]
      · rename_i named
        obtain ⟨peerRef, _, built, returned⟩ := bind_ok returned
        have peer := entityRef_ne_empty (lift_ok built).1
        obtain ⟨linkRef, _, built, returned⟩ := bind_ok returned
        have link := entityRef_ne_empty (lift_ok built).1
        obtain ⟨_, _, _, returned⟩ := bind_ok returned
        obtain ⟨_, _, _, returned⟩ := bind_ok returned
        obtain ⟨_, _, _, returned⟩ := bind_ok returned
        obtain ⟨_, _, _, returned⟩ := bind_ok returned
        cases returned
        refine ⟨by simp [named], fun update member => ?_, fun update member => ?_⟩
        · rw [List.mem_singleton.mp member]
          exact ⟨⟨link, by simp [HardwareObservation.linkUpdate, HardwareObservation.update],
            by simp [HardwareObservation.linkUpdate, HardwareObservation.update, dcgmAdapter]⟩,
            rfl, rfl, rfl, fun lossless => isJson_of_finite (lossless.finite bandwidth
              (List.reduceOption_mem_iff.mpr (answer ▸ by simp)))⟩
        · rw [List.mem_singleton.mp member]
          exact relates_hardware node (by decide) peer rfl

theorem hardwareUpdates_present {nodeRef resourceRef : String} :
    observation.updates nodeRef resourceRef ≠ [] ↔ observation.hbmUsedBytes.isSome ∨
      observation.hbmReservedBytes.isSome ∨ observation.gpuUtilRatio.isSome ∨
        observation.nodeHealth.isSome := by
  unfold HardwareObservation.updates
  cases observation.hbmUsedBytes <;> cases observation.hbmReservedBytes <;>
    cases observation.gpuUtilRatio <;> cases observation.nodeHealth <;> simp

theorem reports_hardware {nodeRef resourceRef : String} (node : nodeRef ≠ "")
    (resource : resourceRef ≠ "") {update : StateUpdate}
    (member : update ∈ observation.updates nodeRef resourceRef) :
    Reports (.hardware observation) update := by
  obtain ⟨⟨ref, key, value⟩, listed, found⟩ := List.mem_filterMap.mp member
  obtain ⟨present, some, rfl⟩ := Option.map_eq_some_iff.mp found
  have producer : dcgmAdapter.componentId ≠ "" := by simp [dcgmAdapter]
  simp only [List.mem_cons, List.not_mem_nil, or_false, Prod.mk.injEq] at listed
  have report (named : ref ≠ "") (keyed : key ≠ "")
      (json : (Observation.hardware observation).Lossless → isJson present = true) :
      Reports (.hardware observation) (observation.update ref key present) :=
    ⟨⟨named, keyed, producer⟩, rfl, rfl, rfl, json⟩
  rcases listed with ⟨rfl, rfl, rfl⟩ | ⟨rfl, rfl, rfl⟩ | ⟨rfl, rfl, rfl⟩ | ⟨rfl, rfl, rfl⟩
  · obtain ⟨_, _, rfl⟩ := Option.map_eq_some_iff.mp some
    exact report resource (by simp) fun _ => rfl
  · obtain ⟨_, _, rfl⟩ := Option.map_eq_some_iff.mp some
    exact report resource (by simp) fun _ => rfl
  · obtain ⟨number, given, rfl⟩ := Option.map_eq_some_iff.mp some
    exact report resource (by simp) fun lossless => isJson_of_finite (lossless.finite number
      (List.reduceOption_mem_iff.mpr (given ▸ by simp)))
  · obtain ⟨_, _, rfl⟩ := Option.map_eq_some_iff.mp some
    exact report node (by simp) fun _ => rfl

theorem describes_hardware {batches : Batches}
    (returned : writer.prepareHardware observation world = .ok batches last) :
    Describes (.hardware observation) batches := by
  unfold AdapterStatePlane.prepareHardware at returned
  obtain ⟨nodeRef, _, built, returned⟩ := bind_ok returned
  have node := entityRef_ne_empty (lift_ok built).1
  obtain ⟨resourceRef, _, built, returned⟩ := bind_ok returned
  have resource := entityRef_ne_empty (lift_ok built).1
  obtain ⟨_, _, _, returned⟩ := bind_ok returned
  obtain ⟨_, _, _, returned⟩ := bind_ok returned
  obtain ⟨_, _, _, returned⟩ := bind_ok returned
  obtain ⟨_, _, _, returned⟩ := bind_ok returned
  obtain ⟨linked, _, projected, returned⟩ := bind_ok returned
  cases returned
  obtain ⟨described, reported, related⟩ := projectLink_ok node projected
  refine ⟨?_, by simp [Observation.HasRelation], fun update member => ?_, fun update member => ?_⟩
  · change _ ↔ observation.hbmUsedBytes.isSome ∨ observation.hbmReservedBytes.isSome ∨
      observation.gpuUtilRatio.isSome ∨ observation.nodeHealth.isSome ∨ _
    rw [ne_eq, List.append_eq_nil_iff, not_and_or, ← ne_eq, ← ne_eq, hardwareUpdates_present,
      described]
    simp only [or_assoc]
  · rcases List.mem_append.mp member with own | link
    · exact reports_hardware node resource own
    · exact reported update link
  · rcases List.mem_cons.mp member with rfl | inside
    · exact relates_hardware node (by decide) resource rfl
    · exact related update inside

end Hardware

/-- The batches of every observation follow its fields. -/
theorem describes_prepare {writer : AdapterStatePlane} {observation : Observation}
    {world last : World} {batches : Batches}
    (returned : writer.prepare observation world = .ok batches last) :
    Describes observation batches := by
  cases observation with
  | runtime observation => exact describes_runtime returned
  | kv observation => exact describes_kv returned
  | deployment observation => exact describes_deployment returned
  | hardware observation => exact describes_hardware returned

section Process
variable {config : PlaneConfig} {now : Int}

/-- The adapters write to the plane directly. -/
def Observation.run (config : PlaneConfig) (now : Int) :
    Observation → EStateM Exception World AdapterPublishReport
  | runtime observation => publish config now observation
  | kv observation => publishKv config now observation
  | deployment observation => publishDeployment config now observation
  | hardware observation => publishHardware config now observation

/-- Every component is stored under its own identifier. -/
def Registered (plane : InMemoryStatePlane) : Prop :=
  ∀ entry ∈ plane.components, entry.2.componentId = entry.1

theorem onPlane_bind {A B : Type} (program : PlaneAction A) (next : A → PlaneAction B) :
    onPlane (program >>= next) = onPlane program >>= fun value => onPlane (next value) := by
  unfold onPlane
  refine zoom_bind ?_ ?_ program next
  · exact fun _ _ => rfl
  · exact fun _ _ _ => rfl

/-- The relations of an observation have no zone of their own. -/
theorem inZone_zero {observation : Observation} {batches : Batches}
    (described : Describes observation batches) :
    batches.relations.map (inZone 0) = batches.relations := by
  refine (List.map_congr_left fun update member => ?_).trans (List.map_id _)
  have unzoned := (described.relations update member).unzoned
  unfold inZone
  rw [← unzoned]
  rfl

/-- The batches and the heartbeat of an observation reach the plane. -/
def writeBatches (config : PlaneConfig) (observation : Observation) (batches : Batches) :
    EStateM Exception World AdapterPublishReport := do
  let stateResults ← onPlane (publishState config batches.updates)
  let relationResults ← onPlane (upsertRelations config batches.relations)
  onPlane (heartbeat (adapterHeartbeat observation.component.componentId observation.watermark
    observation.observedAt))
  return ⟨stateResults, relationResults⟩

theorem deliver_inProcess {observation : Observation} {batches : Batches}
    (described : Describes observation batches) :
    onPlane ((inProcess config now).deliver observation 0 batches) =
      writeBatches config observation batches := by
  unfold AdapterStatePlane.deliver writeBatches
  rw [inZone_zero described]
  simp only [onPlane_bind]
  rfl

theorem publishKv_eq (observation : KVObservation) :
    publishKv config now observation =
      (inProcess config now).prepareKv observation >>= writeBatches config (.kv observation) := by
  unfold AdapterStatePlane.prepareKv
  simp only [bind_assoc, pure_bind]
  rfl

theorem publishDeployment_eq (observation : DeploymentObservation) :
    publishDeployment config now observation =
      (inProcess config now).prepareDeployment observation >>=
        writeBatches config (.deployment observation) := by
  unfold AdapterStatePlane.prepareDeployment
  simp only [bind_assoc, pure_bind]
  rfl

theorem projectLink_inProcess (observation : HardwareObservation) (nodeRef : String) :
    projectLink config now observation nodeRef = do
      let linked ← (inProcess config now).projectLink observation nodeRef
      return (linked.updates, linked.relations) := by
  unfold projectLink AdapterStatePlane.projectLink
  cases observation.effectiveBandwidthBytesPerSecond with
  | none => rfl
  | some bandwidth =>
      simp only
      split
      · rfl
      · simp only [bind_assoc, pure_bind]
        rfl

theorem publishHardware_eq (observation : HardwareObservation) :
    publishHardware config now observation =
      (inProcess config now).prepareHardware observation >>=
        writeBatches config (.hardware observation) := by
  unfold AdapterStatePlane.prepareHardware publishHardware
  simp only [projectLink_inProcess, bind_assoc, pure_bind]
  rfl

/-- A listed component is a stored one. -/
theorem listed_iff {plane : InMemoryStatePlane} (registered : Registered plane)
    (identifier : String) :
    ((listComponents plane).any fun item => item.componentId = identifier) =
      (plane.components.lookup identifier).isSome := by
  rw [Bool.eq_iff_iff, List.any_eq_true, lookup_isSome_iff]
  unfold listComponents
  simp only [List.mem_mergeSort, List.mem_map, decide_eq_true_eq]
  constructor
  · rintro ⟨_, ⟨entry, member, rfl⟩, rfl⟩
    exact ⟨entry, member, (registered entry member).symm⟩
  · rintro ⟨entry, member, rfl⟩
    exact ⟨_, ⟨entry, member, rfl⟩, registered entry member⟩

theorem registerRuntime_inProcess {plane : InMemoryStatePlane} (registered : Registered plane)
    (observation : RuntimeObservation) :
    (inProcess config now).registerRuntime observation plane = registerRuntime observation plane := by
  unfold AdapterStatePlane.registerRuntime registerRuntime
  rw [get_bind]
  have listed : (inProcess config now).listComponents plane = .ok (listComponents plane) plane := rfl
  rw [bind_of_ok listed, listed_iff registered]
  cases found : plane.components.lookup observation.runtimeId <;> rfl

theorem projectEntities_inProcess (observation : RuntimeObservation)
    (runtimeRef instanceRef : String) :
    onPlane (projectEntities config now observation runtimeRef instanceRef) = (do
      (inProcess config now).project (runtimeEntity observation runtimeRef)
      (inProcess config now).project (replicaEntity observation runtimeRef instanceRef)) := by
  unfold projectEntities AdapterStatePlane.project
  simp only [onPlane_bind, bind_assoc]
  rfl

theorem publishRuntime_eq (observation : RuntimeObservation) {world : World}
    (registered : Registered world.plane) :
    publish config now observation world =
      ((inProcess config now).prepareRuntime observation >>=
        writeBatches config (.runtime observation)) world := by
  unfold AdapterStatePlane.prepareRuntime publish
  simp only [bind_assoc, pure_bind]
  rw [lift_bind, lift_bind]
  cases runtimeRef observation.runtimeId with
  | error exception => rfl
  | ok runtimeRef =>
      simp only
      rw [lift_bind, lift_bind]
      cases instanceRef observation.instanceId with
      | error exception => rfl
      | ok instanceRef =>
          simp only [projectEntities_inProcess, bind_assoc]
          refine (bind_congr_left ?_).trans rfl
          unfold onPlane zoom
          rw [registerRuntime_inProcess registered]

/-- An adapter that is bound to the plane in its process is the adapter on that plane. -/
theorem publishDirect_eq {sighting : Sighting} (unzoned : sighting.zone = 0) {world : World}
    (registered : Registered world.plane) :
    publishDirect config now sighting world = sighting.observation.run config now world := by
  have split : publishDirect config now sighting world =
      ((inProcess config now).prepare sighting.observation >>=
        writeBatches config sighting.observation) world := by
    unfold publishDirect AdapterStatePlane.publish
    cases ran : (inProcess config now).prepare sighting.observation world with
    | error exception last => rw [bind_of_error ran, bind_of_error ran]
    | ok batches middle =>
        rw [bind_of_ok ran, bind_of_ok ran, unzoned, deliver_inProcess (describes_prepare ran)]
  rw [split]
  cases sighting.observation with
  | runtime observation => exact (publishRuntime_eq observation registered).symm
  | kv observation => exact congrFun (publishKv_eq observation).symm world
  | deployment observation => exact congrFun (publishDeployment_eq observation).symm world
  | hardware observation => exact congrFun (publishHardware_eq observation).symm world

end Process

section Publish
variable {text : Text} {other : Value → Value} {config : PlaneConfig} {now : Int}
variable {arrival : DateTime} {sighting : Sighting}

theorem Reports.readable {update : StateUpdate} (reported : Reports sighting.observation update)
    (sendable : sighting.observation.Sendable) : ReadableState update sighting.shown where
  named := reported.named
  referenced source member := by
    rw [reported.sourced] at member
    rw [← Option.some.inj member]
    exact ⟨sendable.backend, sendable.reference⟩
  dated := reported.dated.trans sighting.dated
  immediate := reported.immediate

/-- The updates of a lossless observation are their own JSON forms. -/
theorem jsonForms_eq {batches : Batches} (described : Describes sighting.observation batches)
    (lossless : sighting.observation.Lossless) :
    batches.updates.map (jsonForm other) = batches.updates := by
  refine (List.map_congr_left fun update member => ?_).trans (List.map_id _)
  have json := (described.updates update member).json lossless
  unfold jsonForm
  rw [toJsonable_of_isJson other update.value json]
  rfl

theorem Relates.sendable {update : RelationUpdate} (related : Relates sighting.observation update) :
    SendableRelation (inZone sighting.zone update) sighting.shown none where
  named := related.named
  json := related.json
  dated := related.dated.trans sighting.dated
  aware := sighting.aware
  whole := related.immediate
  bounded := by simp

theorem component_named (observation : Observation) : observation.component.componentId ≠ "" := by
  cases observation <;>
    simp [Observation.component, runtimeAdapter, kvAdapter, kubernetesAdapter, dcgmAdapter]

theorem sendable_heartbeat (sighting : Sighting) :
    SendableHeartbeat (sighting.observation.heartbeat sighting.zone) sighting.shown 10000 where
  named := ⟨component_named _, component_named _⟩
  dated := sighting.dated
  aware := sighting.aware
  whole := rfl
  bounded := by decide

/-- A server takes full batches like the plane in the process. -/
theorem matches_deliver {batches : Batches} (described : Describes sighting.observation batches)
    (lossless : sighting.observation.Lossless) (sendable : sighting.observation.Sendable) :
    Matches ((httpClient text other config now arrival sighting.shown).deliver sighting.observation
        sighting.zone batches)
      ((inProcess config now).deliver sighting.observation sighting.zone batches) := by
  have published := @matches_publishState text other config now arrival sighting.shown batches.updates
    (described.value.mpr sendable.value)
    fun update member => (described.updates update member).readable sendable
  rw [jsonForms_eq described lossless] at published
  apply matches_bind published
  intro stateResults
  have related : batches.relations.map (inZone sighting.zone) ≠ [] := by
    rw [ne_eq, List.map_eq_nil_iff]
    exact described.relation.mpr sendable.relation
  apply matches_bind (matches_upsertRelations related fun update member => ?_)
  · intro relationResults
    exact matches_seq (matches_heartbeat (sendable_heartbeat sighting)) (matches_refl _)
  · obtain ⟨origin, inside, rfl⟩ := List.mem_map.mp member
    exact (described.relations origin inside).sendable

/-- An observation that can be sent has the same outcome on both writers. -/
theorem publish_matches (lossless : sighting.observation.Lossless)
    (sendable : sighting.observation.Sendable) :
    Matches (publishRemote text other config now arrival sighting)
      (publishDirect config now sighting) := by
  intro world
  have prepared := matches_prepare
    (sameEntities_httpClient text other config now arrival sighting.shown) sighting.observation world
  unfold publishRemote publishDirect AdapterStatePlane.publish
  cases ran : (inProcess config now).prepare sighting.observation world with
  | error exception reached =>
      rw [ran] at prepared
      cases answer : (httpClient text other config now arrival sighting.shown).prepare
          sighting.observation world with
      | ok batches last => rw [answer] at prepared; cases prepared
      | error other last =>
          rw [answer] at prepared
          cases prepared
          rw [bind_of_error ran, bind_of_error answer]
          exact .raised other exception reached
  | ok batches middle =>
      rw [bind_of_ok ran, bind_of_ok (prepared.symm.of_ok ran)]
      exact matches_zoom (matches_deliver (describes_prepare ran) lossless sendable) middle

/-- Only an observation that can be sent returns from the server. -/
theorem sendable_of_returned {world last : World} {report : AdapterPublishReport}
    (returned : publishRemote text other config now arrival sighting world = .ok report last) :
    sighting.observation.Sendable := by
  obtain ⟨batches, middle, prepared, delivered⟩ := bind_ok returned
  have described := describes_prepare prepared
  obtain ⟨_, delivered, _⟩ := zoom_ok delivered
  obtain ⟨_, _, published, delivered⟩ := bind_ok delivered
  obtain ⟨_, _, related, _⟩ := bind_ok delivered
  obtain ⟨some, decoded⟩ := publishState_returned published
  have linked := upsertRelations_returned related
  rw [ne_eq, List.map_eq_nil_iff] at linked
  obtain ⟨update, rest, listed⟩ := List.exists_cons_of_ne_nil some
  have member : update ∈ batches.updates := listed ▸ List.mem_cons_self
  obtain ⟨read, found⟩ := decoded update member
  obtain ⟨backend, reference⟩ := source_of_decoded (described.updates update member).sourced found
  exact ⟨described.value.mp some, described.relation.mp linked, backend, reference⟩

/-- The plane read the type of an update before its answer. -/
def ReadType (result : WriteResult) : Prop :=
  result.accepted = true ∨ result.conflict = true ∧ result.duplicate = false

/-- A float that is not finite stands under a key of the floats. -/
def LostNumber (config : PlaneConfig) (update : StateUpdate) : Prop :=
  (∃ number : Floating, number.isFinite = false ∧ update.value = number.value) ∧
    ∃ definition, config.registry.resolve update.key = some definition ∧
      definition.valueType = "float"

/-- An update without the declared type of its key is answered before its type was read. -/
theorem judgeState_untyped {update : StateUpdate} {plane : InMemoryStatePlane}
    {definition : CanonicalKey} (resolved : config.registry.resolve update.key = some definition)
    (untyped : validateValue definition update.value = false)
    {judgement : Except WriteResult StateValue}
    (judged : judgeState config plane update = .ok judgement) :
    ∃ result, judgement = .error result ∧ ¬ ReadType result := by
  have refused {reason : String} : ¬ ReadType (rejected update reason false) := by
    simp [ReadType, rejected]
  unfold judgeState at judged
  simp only [resolved, untyped, Bool.not_false, if_true] at judged
  split at judged
  · rename_i previous repeated
    cases judged
    refine ⟨previous, rfl, ?_⟩
    unfold InMemoryStatePlane.duplicate at repeated
    split at repeated
    · cases repeated
    · obtain ⟨_, _, rfl⟩ := Option.map_eq_some_iff.mp repeated
      simp [ReadType]
  · split at judged
    · cases judged
      exact ⟨_, rfl, refused⟩
    · split at judged
      · cases judged
        exact ⟨_, rfl, refused⟩
      · cases judged
        exact ⟨_, rfl, refused⟩

/-- An update whose type was read has the declared type of its key. -/
theorem publishOne_typed {update : StateUpdate} {result : WriteResult}
    {plane last : InMemoryStatePlane} (ran : publishOne config update plane = .ok result last)
    (read : ReadType result) {definition : CanonicalKey}
    (resolved : config.registry.resolve update.key = some definition) :
    validateValue definition update.value = true := by
  obtain ⟨_, _, found, ran⟩ := bind_ok ran
  cases found
  obtain ⟨judgement, _, judged, ran⟩ := bind_ok ran
  by_contra untyped
  obtain ⟨early, rfl, unread⟩ :=
    judgeState_untyped resolved (Bool.eq_false_iff.mpr untyped) (lift_ok judged).1
  cases ran
  exact unread read

/-- No lost number has the type of its key after the way to a server. -/
theorem lostNumber_untyped {update : StateUpdate} (lost : LostNumber config update)
    {result : WriteResult} {plane last : InMemoryStatePlane}
    (ran : publishOne config (jsonForm other update) plane = .ok result last) : ¬ ReadType result := by
  intro read
  obtain ⟨⟨number, endless, same⟩, definition, resolved, kind⟩ := lost
  have typed := publishOne_typed ran read resolved
  have none : (jsonForm other update).value = .none := by
    unfold jsonForm
    rw [same]
    rcases number with _ | (_ | _) | _
    · cases endless
    · rfl
    · rfl
    · rfl
  rw [none] at typed
  simp [validateValue, kind] at typed

/-- A server never reads the type of a lost number. -/
theorem lostNumber_differs {world last middle : World} {report : AdapterPublishReport}
    {batches : Batches}
    (prepared : (inProcess config now).prepare sighting.observation world = .ok batches middle)
    (returned : publishRemote text other config now arrival sighting world = .ok report last)
    {update : StateUpdate} {result : WriteResult}
    (answered : (update, result) ∈ batches.updates.zip report.stateResults)
    (lost : LostNumber config update) : ¬ ReadType result := by
  have sendable := sendable_of_returned returned
  obtain ⟨sent, between, prepared', delivered⟩ := bind_ok returned
  have same := ((matches_prepare (sameEntities_httpClient text other config now arrival
    sighting.shown) sighting.observation world).symm.of_ok prepared).symm.trans prepared'
  cases same
  have described := describes_prepare prepared
  obtain ⟨_, delivered, _⟩ := zoom_ok delivered
  obtain ⟨results, _, published, delivered⟩ := bind_ok delivered
  obtain ⟨_, _, _, delivered⟩ := bind_ok delivered
  obtain ⟨_, _, _, delivered⟩ := bind_ok delivered
  cases delivered
  have inside := (matches_publishState (described.value.mpr sendable.value)
    (fun update member => (described.updates update member).readable sendable) _).of_ok published
  have steps := forall₂_of_mapM_ok inside
  rw [List.forall₂_map_left_iff] at steps
  obtain ⟨_, _, ran⟩ := (List.forall₂_iff_zip.mp steps).2 answered
  exact lostNumber_untyped lost ran

end Publish

/-- An observation whose values are JSON is published through the server as in the process exactly
when it has a value, a relation, and a named source. A float that is not finite is lost. -/
theorem remotePublish_iff (text : Text) (other : Value → Value) (config : PlaneConfig) (now : Int)
    (arrival : DateTime) (sighting : Sighting) (world : World) :
    (sighting.observation.Lossless → ∀ report last,
      publishDirect config now sighting world = .ok report last →
        (publishRemote text other config now arrival sighting world = .ok report last ↔
          sighting.observation.Sendable)) ∧
    (sighting.observation.Lossless → sighting.observation.Sendable →
      SameOutcome (publishRemote text other config now arrival sighting world)
        (publishDirect config now sighting world)) ∧
    (∀ report last, publishRemote text other config now arrival sighting world = .ok report last →
      sighting.observation.Sendable) ∧
    (∀ report last batches middle, publishDirect config now sighting world = .ok report last →
      (inProcess config now).prepare sighting.observation world = .ok batches middle →
      (∃ entry ∈ batches.updates.zip report.stateResults,
        LostNumber config entry.1 ∧ ReadType entry.2) →
      publishRemote text other config now arrival sighting world ≠ .ok report last) := by
  refine ⟨fun lossless report last returned => ⟨sendable_of_returned, fun sendable => ?_⟩,
    fun lossless sendable => publish_matches lossless sendable world,
    fun report last returned => sendable_of_returned returned, ?_⟩
  · exact (publish_matches lossless sendable world).symm.of_ok returned
  · rintro report last batches middle - prepared ⟨⟨update, result⟩, answered, lost, read⟩ remote
    exact lostNumber_differs prepared remote answered lost read

/-- An adapter is built on an empty plane. -/
def adapterWorld (descriptor : ComponentDescriptor) : World :=
  ⟨finalState (buildAdapter defaultConfig 0 descriptor {}), []⟩

/-- A processor uses one byte of its memory. -/
def gpuSighting : Sighting where
  observation := .hardware { nodeId := "n", gpuId := "0", observedAt := 0, hbmUsedBytes := some 1 }
  shown := epochClock
  zone := 0
  dated := epochClock_instant.symm
  aware := rfl

theorem gpuSighting_lossless : gpuSighting.observation.Lossless :=
  ⟨by decide, by simp [gpuSighting, Observation.allocatable]⟩

theorem gpuSighting_sendable : gpuSighting.observation.Sendable :=
  ⟨.inl rfl, trivial, by decide, by decide⟩

/-- The byte is published through the server as in the process. -/
theorem gpuSighting_published : ∃ report last,
    publishDirect defaultConfig 0 gpuSighting (adapterWorld dcgmAdapter) = .ok report last ∧
      publishRemote asciiText id defaultConfig 0 epochClock gpuSighting (adapterWorld dcgmAdapter) =
        .ok report last := by
  have answers : answersWith (fun _ => true)
      (publishDirect defaultConfig 0 gpuSighting (adapterWorld dcgmAdapter)) = true := by
    decide +kernel
  obtain ⟨report, last, returned, _⟩ := returned_of_answers answers
  exact ⟨report, last, returned, ((remotePublish_iff asciiText id defaultConfig 0 epochClock
    gpuSighting (adapterWorld dcgmAdapter)).1 gpuSighting_lossless report last returned).mpr
      gpuSighting_sendable⟩

/-- The utilization of a processor is nan. -/
def lostSighting : Sighting where
  observation := .hardware { nodeId := "n", gpuId := "0", observedAt := 0, gpuUtilRatio := some .nan }
  shown := epochClock
  zone := 0
  dated := epochClock_instant.symm
  aware := rfl

/-- Only the plane in the process accepts nan. -/
example :
    answersWith (fun report => report.stateResults.all WriteResult.accepted)
      (publishDirect defaultConfig 0 lostSighting (adapterWorld dcgmAdapter)) = true ∧
    answersWith (fun report => report.stateResults.all fun result => !result.accepted)
      (publishRemote asciiText id defaultConfig 0 epochClock lostSighting (adapterWorld dcgmAdapter)) =
        true := by decide +kernel

/-- A node is observed without its health and its capacity. -/
def nodeSighting : Sighting where
  observation := .deployment { clusterId := "c", nodeId := "n", observedAt := 0 }
  shown := epochClock
  zone := 0
  dated := epochClock_instant.symm
  aware := rfl

/-- The node has no state update, so only the adapter in the process publishes it. -/
theorem nodeSighting_differs :
    (∃ report last, publishDirect defaultConfig 0 nodeSighting (adapterWorld kubernetesAdapter) =
      .ok report last ∧ report.stateResults.isEmpty = true) ∧
    ¬ SameOutcome
      (publishRemote asciiText id defaultConfig 0 epochClock nodeSighting
        (adapterWorld kubernetesAdapter))
      (publishDirect defaultConfig 0 nodeSighting (adapterWorld kubernetesAdapter)) := by
  have answers : answersWith (fun report => report.stateResults.isEmpty)
      (publishDirect defaultConfig 0 nodeSighting (adapterWorld kubernetesAdapter)) = true := by
    decide +kernel
  obtain ⟨report, last, returned, empty⟩ := returned_of_answers answers
  refine ⟨⟨report, last, returned, empty⟩, fun same => ?_⟩
  rcases (sendable_of_returned (same.symm.of_ok returned)).value with given | given | ⟨named, _⟩
  · cases given
  · cases given
  · exact named rfl

end StateFlow.Adapters
