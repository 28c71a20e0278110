import StateFlow.Construction.Adapters.Bridge
import StateFlow.Proof.Plane.Distances
import StateFlow.Proof.Plane.Retention
import StateFlow.Proof.Plane.Snapshots

namespace StateFlow.Adapters
open Python Table Effect Plane Retention Traversal

section Activities
variable {config : PlaneConfig}

/-- The calls of the plane that change it during an activity. A read without a token takes a
snapshot. -/
def operations : Activity → List Operation
  | .operate operation => [operation]
  | .getState now unique query =>
      if query.snapshot = "" then [.getSnapshot now unique {
        entities := [query.entityRef], keys := query.keys, maxAgeMs := query.maxAgeMs,
        minAuthority := query.minAuthority, includeRelations := false }]
      else []
  | _ => []

theorem activity_operations (activity : Activity) (plane : InMemoryStatePlane) :
    activity.apply config plane = runPlane config (operations activity) plane := by
  cases activity with
  | operate operation => rfl
  | queryGraph query => exact within_queryGraph query plane
  | changes query afterCursor => rfl
  | freshness now => rfl
  | getState now unique query =>
      change finalState (getState config now unique query plane) = runPlane config (ite _ _ _) plane
      by_cases live : query.snapshot = ""
      · rw [if_pos live, getState, if_neg (not_not.mpr live)]
        exact finalState_then _ _ plane
      · have inside : Within (Frame.fixes id) (getState config now unique query) := by
          unfold getState
          rw [if_pos live]
          exact within_bind (within_readSnapshot _) fun _ => within_pure _
        rw [if_neg live]
        exact inside plane

/-- The activities of clients reach the planes that calls reach. -/
theorem runActivities_operations (activities : List Activity) (plane : InMemoryStatePlane) :
    runActivities config activities plane =
      runPlane config (activities.flatMap operations) plane := by
  induction activities generalizing plane with
  | nil => rfl
  | cons activity rest ih =>
      rw [List.flatMap_cons, runPlane, List.foldl_append]
      exact (ih _).trans (by rw [activity_operations]; rfl)

theorem getSnapshot_keeps (plane : InMemoryStatePlane) (now : Int) (unique : String)
    (request : SnapshotRequest) : ∃ count ≤ 1, Retains config plane
      (finalState (getSnapshot config now unique request plane)) count [unique] := by
  cases ran : getSnapshot config now unique request plane with
  | error exception next =>
      rw [getSnapshot_run] at ran
      split at ran <;> cases ran
      exact ⟨0, Nat.zero_le 1, .of_same rfl _⟩
  | ok snapshot next =>
      obtain ⟨kept, part⟩ := getSnapshot_retains ran
      exact ⟨1, le_refl 1, [(snapshot.token, snapshot)], rfl, kept, by rw [List.map_singleton, part]; rfl⟩

/-- An activity that may keep a snapshot -/
def takesSnapshot : Activity → Bool
  | .operate (.getSnapshot _ _ _) => true
  | .getState _ _ query => query.snapshot = ""
  | _ => false

/-- Only an activity that takes a snapshot keeps one. -/
theorem activity_keeps (plane : InMemoryStatePlane) (activity : Activity) :
    ∃ count ≤ (takesSnapshot activity).toNat,
      Retains config plane (activity.apply config plane) count (drawn activity) := by
  cases activity with
  | operate operation =>
      by_cases plain : (Activity.operate operation).isPlain = true
      · exact ⟨0, Nat.zero_le _, .of_same (write_snapshots config plane plain) _⟩
      · cases operation with
        | getSnapshot now unique request => exact getSnapshot_keeps plane now unique request
        | _ => exact absurd rfl plain
  | getState now unique query =>
      refine ⟨_, ?_, getState_retains plane now unique query⟩
      change (_ && _).toNat ≤ (decide (query.snapshot = "")).toNat
      by_cases live : query.snapshot = ""
      · rw [decide_eq_true live]
        exact Bool.toNat_le _
      · rw [decide_eq_false live, Bool.false_and]
  | queryGraph query => exact ⟨0, Nat.zero_le _, activity_retains plane rfl⟩
  | changes query afterCursor => exact ⟨0, Nat.zero_le _, .of_same rfl _⟩
  | freshness now => exact ⟨0, Nat.zero_le _, .of_same rfl _⟩

theorem runActivities_keeps (activities : List Activity) (plane : InMemoryStatePlane) :
    ∃ count ≤ activities.countP takesSnapshot,
      Retains config plane (runActivities config activities plane) count (activities.flatMap drawn) := by
  induction activities generalizing plane with
  | nil => exact ⟨0, le_refl 0, .of_same rfl _⟩
  | cons activity rest ih =>
      obtain ⟨first, one, here⟩ := @activity_keeps config plane activity
      obtain ⟨others, bound, later⟩ := ih (activity.apply config plane)
      refine ⟨first + others, ?_, here.append later⟩
      rw [List.countP_cons]
      cases taken : takesSnapshot activity with
      | true =>
          rw [taken] at one
          simp only [Bool.toNat_true, if_true] at one ⊢
          omega
      | false =>
          rw [taken] at one
          simp only [Bool.toNat_false, Bool.false_eq_true, if_false] at one ⊢
          omega

/-- A snapshot stays under its token or leaves the plane. It stays while fewer snapshots follow than the
plane keeps. -/
theorem snapshot_stays {plane frozen : InMemoryStatePlane} {now : Int} {unique : String}
    {request : SnapshotRequest} {snapshot : Snapshot} {activities : List Activity}
    (froze : getSnapshot config now unique request plane = .ok snapshot frozen)
    (distinct : (unique :: activities.flatMap drawn).Nodup) :
    let reached := (runActivities config activities frozen).snapshots.lookup snapshot.token
    (reached = some snapshot ∨ reached = none) ∧
      (activities.countP takesSnapshot < max 1 config.maxSnapshots → reached = some snapshot) := by
  obtain ⟨start, part⟩ := getSnapshot_retains froze
  obtain ⟨count, few, later, counted, kept, tokens⟩ := @runActivities_keeps config activities frozen
  have apart : (snapshot.token :: later.map Prod.fst).Nodup := by
    apply List.Nodup.of_map uniquePart
    rw [List.map_cons, List.map_map, part]
    apply List.Nodup.sublist (tokens.cons_cons unique.toList)
    exact distinct.map fun _ _ => String.toList_inj.mp
  have entered : (runActivities config activities frozen).snapshots =
      keepAll (max 1 config.maxSnapshots) plane.snapshots ((snapshot.token, snapshot) :: later) := by
    rw [kept, start]
    rfl
  have found := lookup_keepAll (max 1 config.maxSnapshots) apart plane.snapshots snapshot
  rw [← entered] at found
  intro reached
  constructor
  · by_cases room : later.length < max 1 config.maxSnapshots
    · exact .inl (found.trans (if_pos room))
    · exact .inr (found.trans (if_neg room))
  · intro short
    exact found.trans (if_pos (by omega))

end Activities

section Materialization
variable {config : PlaneConfig} {bindings : Bindings} {call : Materialization}
variable {first last : InMemoryStatePlane} {view : MaterializedRequestView}

theorem queryGraph_keeps {query : GraphQuery} {plane next : InMemoryStatePlane} {result : GraphQueryResult}
    (ran : queryGraph query plane = .ok result next) : next = plane := by
  have same := within_queryGraph query plane
  rw [ran] at same
  exact same

/-- The three reads of a materialization that returns. -/
theorem run_ok (ran : call.run config bindings first = .ok view last) :
    ∃ graph kept, requestRefOf bindings call.requestId = .ok view.requestRef ∧
      queryGraph (call.query view.requestRef) first = .ok graph first ∧ graph.entities ≠ [] ∧
      getSnapshot config call.now call.unique (call.request graph.entities)
        (runActivities config call.between first) = .ok view.snapshot kept ∧
      last = runActivities config call.afterwards kept ∧
      queryGraph { call.query view.requestRef with snapshot := view.snapshot.token } last =
        .ok view.graph last := by
  obtain ⟨ref, start, named, ran⟩ := bind_ok ran
  obtain ⟨graph, found, asked, ran⟩ := bind_ok ran
  cases (lift_ok named).2
  cases queryGraph_keeps asked
  by_cases empty : graph.entities.isEmpty = true
  · simp only [if_pos empty] at ran
    cases ran
  · simp only [if_neg empty] at ran
    obtain ⟨_, _, moved, ran⟩ := bind_ok ran
    cases moved
    obtain ⟨snapshot, kept, froze, ran⟩ := bind_ok ran
    obtain ⟨_, _, advanced, ran⟩ := bind_ok ran
    cases advanced
    obtain ⟨frozen, _, walked, ran⟩ := bind_ok ran
    cases queryGraph_keeps walked
    cases ran
    exact ⟨graph, kept, (lift_ok named).1, asked, by simpa using empty, froze, rfl, walked⟩

end Materialization

section Scope
variable {config : PlaneConfig} {plane : InMemoryStatePlane} {query : GraphQuery}

/-- A registered entity within the depth of a query -/
def InScope (plane : InMemoryStatePlane) (query : GraphQuery) (ref : String) : Prop :=
  (plane.entities.lookup ref).isSome = true ∧
    query.distance (plane.relations.map Prod.snd) ref ≤ query.depth.toNat

/-- A live query answers with the entities in its scope. -/
theorem mem_scope (named : Named plane) (triples : Triples plane) {graph : GraphQueryResult}
    (live : query.snapshot = "") (asked : queryGraph query plane = .ok graph plane) (ref : String) :
    ref ∈ graph.entities.map GraphEntity.ref ↔ InScope plane query ref := by
  have source : relationSource query.snapshot plane = .ok (plane.relations.map Prod.snd) plane := by
    rw [live]
    rfl
  obtain ⟨result, answered, exact⟩ := queryGraph_exact source triples.distinct
  cases answered.symm.trans asked
  obtain ⟨refs, _, found, visited⟩ := exact.visited
  rw [found, List.mem_map]
  constructor
  · rintro ⟨entity, member, rfl⟩
    obtain ⟨ref, inside, stored⟩ := List.mem_filterMap.mp member
    rw [named ref entity stored]
    exact ⟨by rw [stored]; rfl, (visited ref).mp inside⟩
  · rintro ⟨registered, near⟩
    obtain ⟨entity, stored⟩ := Option.isSome_iff_exists.mp registered
    exact ⟨entity, List.mem_filterMap.mpr ⟨ref, (visited ref).mpr near, stored⟩, named ref entity stored⟩

/-- A relation of a consistent plane has registered ends. -/
theorem ends_registered {registry : CanonicalKeyRegistry} (consistent : Plane.Consistent registry plane)
    {relation : GraphRelation} (stored : relation ∈ plane.relations.map Prod.snd) :
    (plane.entities.lookup relation.sourceRef).isSome = true ∧
      (plane.entities.lookup relation.targetRef).isSome = true := by
  obtain ⟨entry, inside, rfl⟩ := List.mem_map.mp stored
  obtain ⟨source, target, left, right, _⟩ := (consistent.relations entry inside).permitted
  exact ⟨by rw [left]; rfl, by rw [right]; rfl⟩

/-- When the scope of a query with one root is not empty, everything near its root is registered. -/
theorem registered_of_near {registry : CanonicalKeyRegistry} (consistent : Plane.Consistent registry plane)
    {root other ref : String} (single : query.roots = [root]) (some : InScope plane query other)
    (near : query.distance (plane.relations.map Prod.snd) ref ≤ query.depth.toNat) :
    (plane.entities.lookup ref).isSome = true := by
  have away {node : String}
      (close : query.distance (plane.relations.map Prod.snd) node ≤ query.depth.toNat) :=
    reached_away (reached_iff_distance.mpr close)
  rcases away near with here | ⟨⟨relation, held, ended⟩, _⟩
  · rw [single, List.mem_singleton] at here
    subst here
    rcases away some.2 with same | ⟨_, relation, held, touches⟩
    · rw [single, List.mem_singleton] at same
      exact same ▸ some.1
    · have ends := ends_registered consistent held.1
      simp only [Touches, single, List.mem_singleton] at touches
      rcases touches with source | target
      · exact source ▸ ends.1
      · exact target ▸ ends.2
  · have ends := ends_registered consistent held.1
    rcases ended with source | target
    · exact source ▸ ends.1
    · exact target ▸ ends.2

/-- Fewer relations bring no entity nearer. -/
theorem distance_mono {fewer relations : List GraphRelation} (subset : ∀ relation ∈ fewer, relation ∈ relations)
    {ref : String} {hops : Nat} (near : query.distance fewer ref ≤ hops) :
    query.distance relations ref ≤ hops :=
  reached_iff_distance.mp (reached_subset (fun relation admitted => ⟨subset relation admitted.1, admitted.2⟩)
    (reached_iff_distance.mpr near))

end Scope

section Snapshots
variable {config : PlaneConfig} {plane : InMemoryStatePlane} {now : Int} {unique : String}
variable {request : SnapshotRequest} {snapshot : Snapshot}

/-- A value of a snapshot was stored and fresh, and its pair was requested. -/
theorem taken_values (settled : config.registry.Settled) (keyed : Plane.Keyed plane)
    (took : takeSnapshot config plane now unique request = .ok snapshot) {value : StateValue}
    (member : value ∈ snapshot.values) :
    Requested config plane request value.pair ∧ plane.state.lookup value.pair = some value ∧
      Judged plane now request value.pair true := by
  obtain ⟨findings, searched, values, _⟩ := takeSnapshot_ok took
  have selected := mem_selected.mp (mem_distinctValues (values.mem_iff.mp member))
  exact found_selected keyed ((mem_findAll_iff settled searched _).mp selected)

/-- A snapshot answers every requested pair with a value or with its identity. -/
theorem taken_answers (settled : config.registry.Settled) (keyed : Plane.Keyed plane)
    (took : takeSnapshot config plane now unique request = .ok snapshot) {pair : EntityStateKey}
    (requested : Requested config plane request pair) :
    (∃ value ∈ snapshot.values, value.pair = pair) ∨
      identityOf pair.1 pair.2 ∈ snapshot.missing ∨ identityOf pair.1 pair.2 ∈ snapshot.stale := by
  obtain ⟨findings, searched, values, missing, stale, _⟩ := takeSnapshot_ok took
  obtain ⟨finding, answers⟩ := (findAll_returns_iff settled).mp ⟨findings, searched⟩ _ requested
  have member : finding ∈ findings :=
    (mem_findAll_iff settled searched finding).mpr (.inr (.inr ⟨_, requested, answers⟩))
  rcases findKey_verdict keyed answers with ⟨value, same, held, _⟩ | ⟨same, _⟩ | ⟨same, _⟩
  · obtain ⟨other, inside, paired⟩ := distinctValues_covers (mem_selected.mpr (same ▸ member))
    exact .inl ⟨other, values.mem_iff.mpr inside, paired.trans (keyed.pair held)⟩
  · exact .inr (.inr (stale ▸ mem_stale.mpr (same ▸ member)))
  · exact .inr (.inl (missing ▸ mem_missing.mpr (same ▸ member)))

end Snapshots

/-- What every reachable plane keeps. -/
structure Kept (config : PlaneConfig) (plane : InMemoryStatePlane) : Prop where
  named : Named plane
  triples : Triples plane
  keyed : Plane.Keyed plane
  consistent : Plane.Consistent config.registry plane

theorem defaultRegistry_filed : Filed defaultConfig.registry := by
  have direct : ∀ entry ∈ defaultConfig.registry.definitions, entry.2.key = entry.1 := by
    decide +kernel
  exact fun key definition found => direct (key, definition) (mem_of_lookup found)

theorem runPlane_kept {config : PlaneConfig} (known : config.registry = defaultConfig.registry)
    (operations : List Operation) : Kept config (runPlane config operations {}) where
  named := runPlane_named config operations named_empty
  triples := runPlane_triples operations
  keyed := runPlane_keyed operations
  consistent := runPlane_keepsConsistent (known ▸ defaultRegistry_filed) operations named_empty
    (consistent_empty _)

section Coherence
variable {config : PlaneConfig} {bindings : Bindings} {call : Materialization}
variable {first frozen last : InMemoryStatePlane} {view : MaterializedRequestView}

/-- The relations of a view are those of its snapshot within the depth, and its entities are the registered
ones within the depth of these relations. The snapshot holds the relations that were stored and fresh at
its instant and touch the scope of the request. Its values were stored and fresh then and belong to the
scope, and it answers every requested key of the scope. While nobody changes the relations, every entity
of the view is in the scope. -/
structure Coherent (config : PlaneConfig) (call : Materialization)
    (first frozen last : InMemoryStatePlane) (view : MaterializedRequestView) : Prop where
  relations : ∀ relation, relation ∈ view.snapshot.relations ↔
    relation ∈ frozen.relations.map Prod.snd ∧ relation.isFresh call.now = .ok true ∧
      (InScope first (call.query view.requestRef) relation.sourceRef ∨
        InScope first (call.query view.requestRef) relation.targetRef)
  graph : ∀ relation, relation ∈ view.graph.relations ↔ relation ∈ view.snapshot.relations ∧
    (call.query view.requestRef).Reaches view.snapshot.relations relation
  registered : ∀ entity, entity ∈ view.graph.entities ↔
    last.entities.lookup entity.ref = some entity ∧
      (call.query view.requestRef).distance view.snapshot.relations entity.ref ≤ call.depth.toNat
  entities : frozen.relations = first.relations → ∀ entity ∈ view.graph.entities,
    InScope first (call.query view.requestRef) entity.ref
  values : ∀ value ∈ view.snapshot.values,
    InScope first (call.query view.requestRef) value.entityRef ∧
      frozen.state.lookup value.pair = some value ∧
      call.minAuthority.rank ≤ value.authority.rank ∧ value.isFresh call.now none = true
  answered : ∀ ref entity name key, InScope first (call.query view.requestRef) ref →
    frozen.entities.lookup ref = some entity → name ∈ call.keys →
    Selects config entity.entityType name key →
      (∃ value ∈ view.snapshot.values, value.pair = (ref, key)) ∨
        identityOf ref key ∈ view.snapshot.missing ∨ identityOf ref key ∈ view.snapshot.stale

/-- The second query of a materialization that returns walks the relations of its snapshot. -/
theorem frozen_source {plane kept : InMemoryStatePlane} {request : SnapshotRequest} {snapshot : Snapshot}
    {query : GraphQuery} {graph : GraphQueryResult}
    (froze : getSnapshot config call.now call.unique request plane = .ok snapshot kept)
    (named : snapshot.token ≠ "") (same : last = runActivities config call.afterwards kept)
    (walked : queryGraph { query with snapshot := snapshot.token } last = .ok graph last) :
    relationSource snapshot.token last = .ok snapshot.relations last := by
  have stays := (snapshot_stays froze call.distinct).1
  rw [← same] at stays
  rcases stays with found | gone
  · exact relationSource_kept named found
  · have raises : relationSource snapshot.token last = .error .keyError last := by
      rw [relationSource, if_pos named]
      refine bind_of_error ?_
      rw [readSnapshot, get_bind, gone]
      rfl
    rw [queryGraph, bind_of_error raises] at walked
    cases walked

theorem run_coherent (known : config.registry = defaultConfig.registry) (before : Kept config first)
    (after : Kept config (runActivities config call.between first)) (reached : Kept config last)
    (ran : call.run config bindings first = .ok view last) :
    Coherent config call first (runActivities config call.between first) last view := by
  obtain ⟨graph, kept, _, asked, filled, froze, same, walked⟩ := run_ok ran
  have scope (ref : String) := mem_scope before.named before.triples rfl asked ref
  have took : takeSnapshot config (runActivities config call.between first) call.now call.unique
      (call.request graph.entities) = .ok view.snapshot := by
    rw [getSnapshot_run] at froze
    split at froze
    · cases froze
      assumption
    · cases froze
  obtain ⟨named, fresh, found, order⟩ := takeSnapshot_relations took rfl
  have subset := takeSnapshot_relations_subset took
  have distinct : Distinct GraphRelation.triple view.snapshot.relations :=
    fun one oneIn other otherIn =>
      after.triples.distinct one (subset one oneIn) other (subset other otherIn)
  have source : relationSource ({ call.query view.requestRef with
      snapshot := view.snapshot.token } : GraphQuery).snapshot last = .ok view.snapshot.relations last :=
    frozen_source froze named same walked
  obtain ⟨answer, answered, exact⟩ := queryGraph_exact source distinct
  cases answered.symm.trans walked
  have settled : config.registry.Settled := known ▸ defaultRegistry_settled
  constructor
  case relations =>
    intro relation
    rw [order.mem_iff, mem_freshRelations found, ← scope, ← scope]
    rfl
  case graph =>
    intro relation
    rw [exact.included relation]
    exact and_congr_right fun _ => and_iff_right rfl
  case registered =>
    intro entity
    obtain ⟨refs, _, returned, visited⟩ := exact.visited
    rw [returned, List.mem_filterMap]
    constructor
    · rintro ⟨ref, inside, stored⟩
      have named := reached.named ref entity stored
      rw [named]
      exact ⟨stored, (visited ref).mp inside⟩
    · rintro ⟨stored, near⟩
      exact ⟨entity.ref, (visited entity.ref).mpr near, stored⟩
  case entities =>
    intro untouched entity member
    obtain ⟨refs, _, returned, visited⟩ := exact.visited
    rw [returned] at member
    obtain ⟨ref, inside, stored⟩ := List.mem_filterMap.mp member
    rw [reached.named ref entity stored]
    have near := distance_mono (fun relation held => untouched ▸ subset relation held)
      ((visited ref).mp inside)
    obtain ⟨other, listed⟩ := List.exists_mem_of_ne_nil _ filled
    have some := (scope _).mp (List.mem_map_of_mem listed)
    exact ⟨registered_of_near before.consistent rfl some near, near⟩
  case values =>
    intro value member
    obtain ⟨requested, stored, _, age, again, enough, limit, judged⟩ :=
      taken_values settled after.keyed took member
    cases stored.symm.trans again
    cases limit
    exact ⟨(scope _).mp requested.1, stored, enough, judged⟩
  case answered =>
    exact fun ref entity name key inside stored asks selected => taken_answers settled after.keyed took
      ⟨(scope ref).mpr inside, entity, stored, name, asks, selected⟩

theorem root_near {ref : String} (relations : List GraphRelation) :
    (call.query ref).distance relations ref ≤ (call.query ref).depth.toNat :=
  (distance_root.mpr List.mem_cons_self).trans (Nat.cast_le.mpr (Nat.zero_le _))

/-- The first query of a materialization finds its request exactly when the request is registered. -/
theorem request_found (before : Kept config first) (ref : String) :
    ∃ graph, queryGraph (call.query ref) first = .ok graph first ∧
      (graph.entities.isEmpty = false ↔ (first.entities.lookup ref).isSome = true) := by
  obtain ⟨graph, asked, _⟩ := @queryGraph_exact first (call.query ref) _ rfl before.triples.distinct
  have scope (other : String) := mem_scope before.named before.triples rfl asked other
  refine ⟨graph, asked, ?_⟩
  rw [List.isEmpty_eq_false_iff_exists_mem]
  constructor
  · rintro ⟨entity, listed⟩
    exact registered_of_near before.consistent rfl ((scope _).mp (List.mem_map_of_mem listed))
      (root_near _)
  · intro registered
    obtain ⟨entity, listed, _⟩ := List.mem_map.mp ((scope ref).mpr ⟨registered, root_near _⟩)
    exact ⟨entity, listed⟩

/-- A request that is not registered is not materialized. -/
theorem run_unknown (before : Kept config first) {ref : String}
    (named : requestRefOf bindings call.requestId = .ok ref)
    (unknown : (first.entities.lookup ref).isSome = false) :
    call.run config bindings first = .error .keyError first := by
  obtain ⟨graph, asked, found⟩ := @request_found _ call _ before ref
  have empty : graph.entities.isEmpty = true := by simpa [unknown] using found
  rw [Materialization.run, bind_of_ok (lift_of_ok named first), bind_of_ok asked]
  simp only [if_pos empty]
  rfl

/-- A registered request is materialized while the stored relations are dated and the snapshot stays. -/
theorem run_serves (before : Kept config first) {ref : String}
    (named : requestRefOf bindings call.requestId = .ok ref)
    (registered : (first.entities.lookup ref).isSome = true)
    (dated : ∀ entry ∈ (runActivities config call.between first).relations, entry.2.Dated)
    (short : call.afterwards.countP takesSnapshot < max 1 config.maxSnapshots) :
    ∃ view last, call.run config bindings first = .ok view last := by
  obtain ⟨graph, asked, found⟩ := @request_found _ call _ before ref
  have filled : ¬ graph.entities.isEmpty = true := by simp [found.mpr registered]
  have bounded : (call.request graph.entities).Bounded := fun _ listed => absurd listed List.not_mem_nil
  obtain ⟨snapshot, took⟩ := (@takeSnapshot_returns_iff config _ _ bounded call.now call.unique).mpr
    fun _ => dated
  have froze : getSnapshot config call.now call.unique (call.request graph.entities)
      (runActivities config call.between first) =
        .ok snapshot (keepSnapshot config (runActivities config call.between first) snapshot) := by
    rw [getSnapshot_run, took]
  have held := (snapshot_stays froze call.distinct).2 short
  have source := relationSource_kept (takeSnapshot_relations took rfl).1 held
  obtain ⟨last, reached⟩ : ∃ last, runActivities config call.afterwards
      (keepSnapshot config (runActivities config call.between first) snapshot) = last := ⟨_, rfl⟩
  rw [reached] at source
  obtain ⟨frozen, walked⟩ : ∃ frozen,
      queryGraph { call.query ref with snapshot := snapshot.token } last = .ok frozen last :=
    ⟨_, queryGraph_run source⟩
  refine ⟨⟨ref, frozen, snapshot⟩, last, ?_⟩
  rw [Materialization.run, bind_of_ok (lift_of_ok named first), bind_of_ok asked]
  simp only [if_neg filled]
  rw [modify_bind, bind_of_ok froze, modify_bind, reached, bind_of_ok walked]
  rfl

end Coherence

/-- On every reachable plane and whatever other clients do between its reads, a materialization that
returns is coherent. A request that is not registered raises. A registered one returns when the stored
relations have a date of expiry and its snapshot is not pushed out. -/
theorem materialize_coherent (config : PlaneConfig) (bindings : Bindings) (history : List Activity)
    (call : Materialization) :
    let fixed := { config with registry := defaultConfig.registry }
    let first := runActivities fixed history {}
    let frozen := runActivities fixed call.between first
    (∀ view last, call.run fixed bindings first = .ok view last →
      requestRefOf bindings call.requestId = .ok view.requestRef ∧
        Coherent fixed call first frozen last view) ∧
    ∀ ref, requestRefOf bindings call.requestId = .ok ref →
      ((first.entities.lookup ref).isSome = false →
        call.run fixed bindings first = .error .keyError first) ∧
      ((first.entities.lookup ref).isSome = true →
        (∀ entry ∈ frozen.relations, entry.2.Dated) →
        call.afterwards.countP takesSnapshot < max 1 config.maxSnapshots →
        ∃ view last, call.run fixed bindings first = .ok view last) := by
  intro fixed first frozen
  have kept (activities : List Activity) : Kept fixed (runActivities fixed activities {}) := by
    rw [runActivities_operations]
    exact @runPlane_kept fixed rfl _
  have before : Kept fixed first := kept history
  have after : Kept fixed frozen := by
    have joined := kept (history ++ call.between)
    rwa [runActivities, List.foldl_append] at joined
  refine ⟨fun view last ran => ?_, fun ref named =>
    ⟨run_unknown before named, fun registered dated short => run_serves before named registered dated short⟩⟩
  obtain ⟨graph, held, named, _, _, froze, same, _⟩ := run_ok ran
  have reached : Kept fixed last := by
    have joined := kept (history ++ call.between ++
      .operate (.getSnapshot call.now call.unique (call.request graph.entities)) :: call.afterwards)
    have moved : held = finalState (getSnapshot fixed call.now call.unique
        (call.request graph.entities) frozen) := by rw [froze]; rfl
    rw [same, moved]
    rwa [runActivities, List.foldl_append, List.foldl_append, List.foldl_cons] at joined
  exact ⟨named, run_coherent rfl before after reached ran⟩

/-- Another client relates the request to a new entity after the first read. -/
def relatedCall : Materialization where
  requestId := "a"
  keys := []
  now := 0
  unique := "u"
  between := [.operate (.upsertEntity 0 queueEntity), .operate (.upsertRelations [managesQueue])]
  distinct := by decide

/-- The new entity enters the graph of the view outside the scope of its snapshot. -/
example : answersWith (fun view => view.graph.entities.length = 2 && view.graph.relations.length = 1)
    (relatedCall.run managedConfig [(("request_id", "a"), [managerEntity.ref])]
      (runActivities managedConfig [.operate (.upsertEntity 0 managerEntity)] {})) = true := by
  decide +kernel

end StateFlow.Adapters
