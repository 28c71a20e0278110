import StateFlow.Proof.Plane.Demands
import StateFlow.Proof.Plane.Graph

namespace StateFlow.Plane
open Python Table Effect Traversal

section Distances
variable {plane : InMemoryStatePlane} {query : GraphQuery} {relations : List GraphRelation}

/-- The distance from the roots of a query over the relations that it asks for. -/
noncomputable def GraphQuery.distance (query : GraphQuery) (relations : List GraphRelation)
    (ref : String) : ℕ∞ :=
  Traversal.distance GraphRelation.ends (Admitted query.asks relations) query.roots ref

/-- A query visits exactly the references within its depth. -/
theorem mem_walk_visited (distinct : Distinct GraphRelation.triple relations) (ref : String) :
    ref ∈ (query.walk relations).1 ↔ query.distance relations ref ≤ query.depth.toNat := by
  obtain ⟨last, explored⟩ := explored_explore distinct query.depth.toNat
    (explored_start : Explored GraphRelation.ends GraphRelation.triple query.asks relations
      query.roots 0 query.roots query.roots [])
  rw [Nat.zero_add] at explored
  exact (explored.nodes ref).trans reached_iff_distance

/-- A relation is in reach when one of its ends is nearer than the depth. -/
def GraphQuery.Reaches (query : GraphQuery) (relations : List GraphRelation)
    (relation : GraphRelation) : Prop :=
  0 < query.depth ∧
    (query.distance relations relation.sourceRef ≤ (query.depth - 1).toNat ∨
      query.distance relations relation.targetRef ≤ (query.depth - 1).toNat)

/-- A query includes exactly the relations in its reach. -/
theorem mem_walk_included (distinct : Distinct GraphRelation.triple relations)
    (relation : GraphRelation) :
    relation ∈ sortedRelations (query.walk relations).2 ↔
      relation ∈ relations ∧ query.asks relation = true ∧ query.Reaches relations relation := by
  have near : (∃ early < query.depth.toNat, Touches GraphRelation.ends
      (Reached GraphRelation.ends (Admitted query.asks relations) query.roots early) relation) ↔
      query.Reaches relations relation := by
    simp only [Touches, reached_iff_distance, GraphQuery.Reaches]
    constructor
    · rintro ⟨early, order, ends⟩
      have before : (early : ℕ∞) ≤ (query.depth - 1).toNat := Nat.cast_le.mpr (by omega)
      exact ⟨by omega, ends.imp (fun first => first.trans before) fun second => second.trans before⟩
    · rintro ⟨positive, ends⟩
      exact ⟨(query.depth - 1).toNat, by omega, ends⟩
  rw [mem_sortedRelations]
  constructor
  · rintro ⟨key, filed⟩
    obtain ⟨⟨inside, asked⟩, _, ends⟩ := (mem_explore distinct _ _).mp filed
    exact ⟨inside, asked, near.mp ends⟩
  · rintro ⟨inside, asked, ends⟩
    exact ⟨relation.triple, (mem_explore distinct _ _).mpr ⟨⟨inside, asked⟩, rfl, near.mpr ends⟩⟩

theorem distance_root {ref : String} : query.distance relations ref ≤ (0 : Nat) ↔ ref ∈ query.roots :=
  reached_iff_distance.symm

/-- A query includes a relation once. -/
theorem sortedRelations_nodup (distinct : Distinct GraphRelation.triple relations) :
    (sortedRelations (query.walk relations).2).Nodup := by
  have filed := (@walk_filed query relations distinct).1
  have once : ((query.walk relations).2.map Prod.snd).Nodup := by
    refine List.Nodup.of_map GraphRelation.triple ?_
    rw [List.map_map]
    have names : (query.walk relations).2.map (GraphRelation.triple ∘ Prod.snd) =
        (query.walk relations).2.map Prod.fst :=
      List.map_congr_left fun entry member => (filed entry member).symm
    rw [names]
    exact walk_once query relations
  exact ((List.perm_insertionSort _ _).map Prod.snd).nodup_iff.mpr once

/-- An answer holds the relations with an end nearer than the depth and the registered entities
within the depth. Without a depth it holds the registered roots. -/
structure ExactAnswer (plane : InMemoryStatePlane) (query : GraphQuery)
    (relations : List GraphRelation) (result : GraphQueryResult) : Prop where
  included : ∀ relation, relation ∈ result.relations ↔
    relation ∈ relations ∧ query.asks relation = true ∧ query.Reaches relations relation
  once : result.relations.Nodup
  visited : ∃ refs : List String, refs.Nodup ∧
    result.entities = refs.filterMap (fun ref => plane.entities.lookup ref) ∧
    ∀ ref, ref ∈ refs ↔ query.distance relations ref ≤ query.depth.toNat
  flat : query.depth ≤ 0 → result.relations = [] ∧ ∀ entity, entity ∈ result.entities ↔
    ∃ ref ∈ query.roots, plane.entities.lookup ref = some entity

/-- A query over distinct triples returns the exact answer. -/
theorem queryGraph_exact (source : relationSource query.snapshot plane = .ok relations plane)
    (distinct : Distinct GraphRelation.triple relations) :
    ∃ result, queryGraph query plane = .ok result plane ∧
      ExactAnswer plane query relations result := by
  have visited := fun ref => @mem_walk_visited query relations distinct ref
  have included := fun relation => @mem_walk_included query relations distinct relation
  refine ⟨_, queryGraph_run source, included, sortedRelations_nodup distinct,
    ⟨_, sortedTexts_nodup _, rfl, fun ref => mem_sortedTexts.trans (visited ref)⟩, fun flat => ?_⟩
  constructor
  · refine List.eq_nil_iff_forall_not_mem.mpr fun relation listed => ?_
    exact absurd ((included relation).mp listed).2.2.1 (not_lt.mpr flat)
  · intro entity
    have none : query.depth.toNat = 0 := Int.toNat_of_nonpos flat
    simp only [List.mem_filterMap, mem_sortedTexts, visited, none, distance_root]

end Distances

section Runs
variable {config : PlaneConfig} {plane : InMemoryStatePlane}

/-- The stored relations and those of every snapshot differ in their triples. -/
structure Triples (plane : InMemoryStatePlane) : Prop where
  filed : FiledTriples plane.relations
  once : (plane.relations.map Prod.fst).Nodup
  frozen : ∀ entry ∈ plane.snapshots, Distinct GraphRelation.triple entry.2.relations

theorem Triples.distinct (triples : Triples plane) :
    Distinct GraphRelation.triple (plane.relations.map Prod.snd) :=
  distinct_of_filed triples.filed triples.once

/-- A step changes the relations only by storing one under its own triple. -/
theorem step_relations (plane : InMemoryStatePlane) (call : Call) :
    (call.step config plane).after.relations = plane.relations ∨
    ∃ relation : GraphRelation,
      (call.step config plane).after.relations = assign relation.triple relation plane.relations := by
  rw [step_after]
  cases call with
  | publishState update =>
      left
      rw [show finalState ((Call.publishState update).run config plane) =
        finalState (publishOne config update plane) from finalState_then _ _ plane, publishOne_run]
      rcases judgeState config plane update with exception | (result | value)
      · rfl
      · rfl
      · exact acceptState_relations _
  | upsertRelation update =>
      rw [show finalState ((Call.upsertRelation update).run config plane) =
        finalState (upsertRelation config update plane) from finalState_then _ _ plane,
        upsertRelation_run]
      rcases judged : judgeRelation plane update with exception | (result | relation)
      · exact Or.inl rfl
      · exact Or.inl rfl
      · right
        refine ⟨relation, ?_⟩
        rw [finalState_ok, acceptRelation_relations, (judgeRelation_accepts judged).2]
        rfl
  | registerComponent descriptor =>
      left
      rw [show finalState ((Call.registerComponent descriptor).run config plane) =
        finalState (registerComponent descriptor plane) from finalState_done _ _ plane]
      exact (registerComponent_sameRecords plane descriptor).2
  | upsertEntity now entity =>
      left
      rw [show finalState ((Call.upsertEntity now entity).run config plane) =
        finalState (upsertEntity config now entity plane) from finalState_done _ _ plane]
      exact (upsertEntity_sameRecords config plane now entity).2
  | heartbeat beat =>
      left
      rw [show finalState ((Call.heartbeat beat).run config plane) =
        finalState (heartbeat beat plane) from finalState_done _ _ plane]
      exact (heartbeat_sameRecords plane beat).2
  | publishMetric sample =>
      left
      rw [show finalState ((Call.publishMetric sample).run config plane) =
        finalState (publishMetric config sample plane) from finalState_then _ _ plane]
      exact (publishMetric_sameRecords config plane sample).2
  | publishEvent event =>
      left
      rw [show finalState ((Call.publishEvent event).run config plane) =
        finalState (publishEvent config event plane) from finalState_then _ _ plane]
      exact (publishEvent_sameRecords config plane event).2
  | getSnapshot now unique request =>
      left
      rw [show finalState ((Call.getSnapshot now unique request).run config plane) =
        finalState (getSnapshot config now unique request plane) from finalState_done _ _ plane]
      exact (getSnapshot_sameRecords config plane now unique request).2

/-- A snapshot holds some of the stored relations. -/
theorem takeSnapshot_relations_subset {now : Int} {unique : String} {request : SnapshotRequest}
    {snapshot : Snapshot} (taken : takeSnapshot config plane now unique request = .ok snapshot) :
    ∀ relation ∈ snapshot.relations, relation ∈ plane.relations.map Prod.snd := by
  intro relation member
  cases included : request.includeRelations with
  | false =>
      obtain ⟨findings, _, continued⟩ := except_bind_ok taken
      simp only [included] at continued
      cases continued
      cases member
  | true =>
      obtain ⟨_, fresh, found, order⟩ := takeSnapshot_relations taken included
      exact ((mem_freshRelations found relation).mp (order.mem_iff.mp member)).1

theorem step_triples (plane : InMemoryStatePlane) (call : Call) (triples : Triples plane) :
    Triples (call.step config plane).after := by
  constructor
  · rcases step_relations plane call with same | ⟨relation, stored⟩
    · rw [same]
      exact triples.filed
    · rw [stored]
      intro entry member
      rcases mem_assign member with new | old
      · rw [new]
      · exact triples.filed entry old
  · rcases step_relations plane call with same | ⟨relation, stored⟩
    · rw [same]
      exact triples.once
    · rw [stored]
      exact assign_keys_nodup triples.once
  · rcases step_snapshots plane call with same | ⟨_, _, _, snapshot, _, taken, after⟩
    · rw [same]
      exact triples.frozen
    · rw [after]
      intro entry member
      rcases List.mem_append.mp (List.mem_of_mem_drop member) with earlier | new
      · exact triples.frozen entry (List.mem_of_mem_filter earlier)
      · cases List.mem_singleton.mp new
        have subset := takeSnapshot_relations_subset taken
        exact fun first firstIn second secondIn =>
          triples.distinct first (subset first firstIn) second (subset second secondIn)

/-- Every run keeps the triples distinct. -/
theorem runPlane_triples (operations : List Operation) :
    Triples (runPlane config operations {}) :=
  (runSteps_chained operations {}).keeps step_triples
    ⟨fun _ member => absurd member List.not_mem_nil, List.nodup_nil,
      fun _ member => absurd member List.not_mem_nil⟩

/-- The relations that a query walks differ in their triples. -/
theorem Triples.source (triples : Triples plane) {token : String} {relations : List GraphRelation}
    (source : relationSource token plane = .ok relations plane) :
    Distinct GraphRelation.triple relations := by
  unfold relationSource at source
  split at source
  · obtain ⟨snapshot, middle, read, done⟩ := bind_ok source
    cases done
    rw [readSnapshot, get_bind] at read
    cases kept : plane.snapshots.lookup token with
    | none => rw [kept] at read; cases read
    | some frozen =>
        rw [kept] at read
        cases read
        exact triples.frozen _ (mem_of_lookup kept)
  · rw [get_bind] at source
    cases source
    exact triples.distinct

end Runs

/-- A component that manages itself and its manager. -/
def managesUpdate (source target : String) : RelationUpdate where
  sourceRef := source
  relationType := "manages"
  targetRef := target
  producer := "writer"
  timestamp := 0

/-- Two components that manage each other, one of them itself. -/
def circleOperations : List Operation :=
  [.upsertEntity 0 managerEntity, .upsertEntity 0 queueEntity,
    .upsertRelations [managesUpdate managerEntity.ref managerEntity.ref,
      managesUpdate managerEntity.ref queueEntity.ref,
      managesUpdate queueEntity.ref managerEntity.ref]]

def circlePlane : InMemoryStatePlane := runPlane managedConfig circleOperations {}

/-- One of the roots is unknown. -/
def circleQuery : GraphQuery := { roots := [queueEntity.ref, "unknown"], depth := 2 }

theorem queryGraph_exact_of_circle : ∃ result, queryGraph circleQuery circlePlane = .ok result circlePlane ∧
    ExactAnswer circlePlane circleQuery (circlePlane.relations.map Prod.snd) result := by
  have source : relationSource circleQuery.snapshot circlePlane =
      .ok (circlePlane.relations.map Prod.snd) circlePlane := rfl
  exact queryGraph_exact source ((runPlane_triples circleOperations).source source)

/-- Three relations and two entities are in reach. -/
example : answersWith (fun result => result.relations.length = 3 && result.entities.length = 2)
    (queryGraph circleQuery circlePlane) = true := by decide +kernel

end StateFlow.Plane
