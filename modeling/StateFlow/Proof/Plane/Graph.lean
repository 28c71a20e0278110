import Mathlib.Data.Prod.Lex
import Mathlib.Data.String.Basic
import StateFlow.Construction.Plane.Graph
import StateFlow.Library.Retention
import StateFlow.Proof.Plane.Consistency
import StateFlow.Proof.Plane.Freshness

namespace StateFlow.Plane
open Python Table Effect Traversal Retention

/-- The keys of the relations are ordered text by text. -/
def tripleOrder (key : RelationKey) : String ×ₗ String ×ₗ String :=
  toLex (key.1, toLex (key.2.1, key.2.2))

theorem tripleOrder_injective : Function.Injective tripleOrder := by
  rintro ⟨_, _, _⟩ ⟨_, _, _⟩ same
  cases same
  rfl

theorem tripleLe_iff {first second : RelationKey} :
    tripleLe first second = true ↔ tripleOrder first ≤ tripleOrder second := by
  rw [tripleOrder, tripleOrder, Prod.Lex.toLex_le_toLex, Prod.Lex.toLex_le_toLex]
  simp [tripleLe, pairLe]

section Sorted

/-- The entries of a table compare by their keys. -/
def entryLe (first second : RelationKey × GraphRelation) : Prop := tripleLe first.1 second.1 = true

instance : DecidableRel entryLe := fun first second =>
  inferInstanceAs (Decidable (tripleLe first.1 second.1 = true))

instance : Std.Total entryLe :=
  ⟨fun first second => by
    unfold entryLe
    rw [tripleLe_iff, tripleLe_iff]
    exact le_total _ _⟩

instance : IsTrans (RelationKey × GraphRelation) entryLe :=
  ⟨fun first second third => by
    unfold entryLe
    rw [tripleLe_iff, tripleLe_iff, tripleLe_iff]
    exact le_trans⟩

variable {first second : List (RelationKey × GraphRelation)}

/-- Tables of the same entries are sorted alike. -/
theorem sortedRelations_congr (firstOnce : (first.map Prod.fst).Nodup)
    (secondOnce : (second.map Prod.fst).Nodup)
    (same : ∀ entry, entry ∈ first ↔ entry ∈ second) :
    sortedRelations first = sortedRelations second := by
  have order : first.Perm second :=
    (List.perm_ext_iff_of_nodup firstOnce.of_map secondOnce.of_map).mpr same
  have sorted (table : List (RelationKey × GraphRelation)) :
      (table.insertionSort fun first second => tripleLe first.1 second.1).Pairwise entryLe :=
    List.pairwise_insertionSort entryLe table
  unfold sortedRelations
  congr 1
  refine List.Perm.eq_of_pairwise ?_ (sorted first) (sorted second)
    ((List.perm_insertionSort _ first).trans (order.trans (List.perm_insertionSort _ second).symm))
  intro left right leftIn rightIn below above
  have keys : left.1 = right.1 := tripleOrder_injective
    (le_antisymm (tripleLe_iff.mp below) (tripleLe_iff.mp above))
  have leftMember := (List.mem_insertionSort _).mp leftIn
  have rightMember := (same right).mpr ((List.mem_insertionSort _).mp rightIn)
  exact List.inj_on_of_nodup_map firstOnce leftMember rightMember keys

theorem mem_sortedRelations {relation : GraphRelation} :
    relation ∈ sortedRelations first ↔ ∃ key, (key, relation) ∈ first := by
  simp [sortedRelations, List.mem_insertionSort]

end Sorted

/-- Every relation is filed under its own triple. -/
def FiledTriples (table : List (RelationKey × GraphRelation)) : Prop :=
  ∀ entry ∈ table, entry.1 = entry.2.triple

/-- Tables that file every relation once are sorted alike exactly when they are the same. -/
theorem sortedRelations_eq_iff {first second : List (RelationKey × GraphRelation)}
    (firstOnce : (first.map Prod.fst).Nodup) (secondOnce : (second.map Prod.fst).Nodup)
    (firstFiled : FiledTriples first) (secondFiled : FiledTriples second) :
    sortedRelations first = sortedRelations second ↔ ∀ entry, entry ∈ first ↔ entry ∈ second := by
  refine ⟨fun same => ?_, sortedRelations_congr firstOnce secondOnce⟩
  have found {table other : List (RelationKey × GraphRelation)} (filed : FiledTriples table)
      (otherFiled : FiledTriples other) (equal : sortedRelations table = sortedRelations other)
      {entry : RelationKey × GraphRelation} (member : entry ∈ table) : entry ∈ other := by
    have listed : entry.2 ∈ sortedRelations other :=
      equal ▸ mem_sortedRelations.mpr ⟨entry.1, member⟩
    obtain ⟨key, there⟩ := mem_sortedRelations.mp listed
    have own : (key, entry.2) = entry :=
      Prod.ext ((otherFiled _ there).trans (filed entry member).symm) rfl
    exact own ▸ there
  exact fun entry => ⟨found firstFiled secondFiled same, found secondFiled firstFiled same.symm⟩

/-- The relations of a snapshot are the fresh ones that touch its scope. -/
theorem mem_freshRelations {now : Int} {scope : List String} {relations fresh : List GraphRelation}
    (found : freshRelations now scope relations = .ok fresh) (relation : GraphRelation) :
    relation ∈ fresh ↔ relation ∈ relations ∧ relation.isFresh now = .ok true ∧
      (relation.sourceRef ∈ scope ∨ relation.targetRef ∈ scope) := by
  induction relations generalizing fresh with
  | nil =>
      cases found
      simp
  | cons first rest ih =>
      obtain ⟨flag, here, continued⟩ := except_bind_ok found
      obtain ⟨others, later, final⟩ := except_bind_ok continued
      have tail := ih later
      rw [List.mem_cons, or_and_right]
      split at final
      · rename_i chosen
        cases final
        simp only [Bool.and_eq_true, Bool.or_eq_true, decide_eq_true_eq] at chosen
        rw [List.mem_cons, tail]
        refine or_congr_left ⟨fun same => ⟨same, ?_⟩, And.left⟩
        rw [same, here, chosen.1]
        exact ⟨rfl, chosen.2⟩
      · rename_i unchosen
        cases final
        simp only [Bool.and_eq_true, Bool.or_eq_true, decide_eq_true_eq] at unchosen
        rw [tail]
        refine ⟨Or.inr, fun either => either.resolve_left fun own => unchosen ?_⟩
        rw [own.1, here] at own
        exact ⟨Except.ok.inj own.2.1, own.2.2⟩

/-- A kept snapshot is read again. -/
theorem keepSnapshot_lookup (config : PlaneConfig) (plane : InMemoryStatePlane)
    (snapshot : Snapshot) :
    (keepSnapshot config plane snapshot).snapshots.lookup snapshot.token = some snapshot := by
  have found := @lookup_keepAll _ _ _ (max 1 config.maxSnapshots) snapshot.token []
    (List.nodup_singleton snapshot.token) plane.snapshots snapshot
  exact found.trans (if_pos (lt_max_of_lt_left Nat.one_pos))

theorem token_ne_empty (revision : Nat) (unique : String) :
    "snapshot-" ++ toString revision ++ "-" ++ unique ≠ "" := by
  intro empty
  have lengths := congrArg String.length empty
  simp [String.length_append] at lengths

/-- A snapshot with relations keeps the fresh ones of its scope under a token. -/
theorem takeSnapshot_relations {config : PlaneConfig} {plane : InMemoryStatePlane} {now : Int}
    {unique : String} {request : SnapshotRequest} {snapshot : Snapshot}
    (taken : takeSnapshot config plane now unique request = .ok snapshot)
    (included : request.includeRelations = true) :
    snapshot.token ≠ "" ∧ ∃ fresh,
      freshRelations now request.entities (plane.relations.map Prod.snd) = .ok fresh ∧
      snapshot.relations.Perm fresh := by
  obtain ⟨findings, _, continued⟩ := except_bind_ok taken
  simp only [included, if_true] at continued
  obtain ⟨fresh, found, final⟩ := except_bind_ok continued
  cases final
  exact ⟨token_ne_empty _ _, fresh, found, List.perm_insertionSort _ _⟩

/-- A query answers from its relations and from the entities of the plane. -/
theorem queryGraph_run {query : GraphQuery} {plane : InMemoryStatePlane}
    {relations : List GraphRelation} (source : relationSource query.snapshot plane = .ok relations plane) :
    queryGraph query plane = .ok {
      snapshot := query.snapshot
      entities := (sortedTexts (query.walk relations).1).filterMap fun ref => plane.entities.lookup ref
      relations := sortedRelations (query.walk relations).2 } plane := by
  unfold queryGraph
  rw [bind_of_ok source]
  rfl

/-- A query through a kept snapshot walks the relations of the snapshot. -/
theorem relationSource_kept {plane : InMemoryStatePlane} {token : String} {snapshot : Snapshot}
    (named : token ≠ "") (kept : plane.snapshots.lookup token = some snapshot) :
    relationSource token plane = .ok snapshot.relations plane := by
  have read : readSnapshot token plane = .ok snapshot plane := by
    rw [readSnapshot, get_bind, kept]
    rfl
  rw [relationSource, if_pos named, bind_of_ok read]
  rfl

section Agreement
variable {registry : CanonicalKeyRegistry} {plane : InMemoryStatePlane}

/-- Relations that are stored once under their triples differ in them. -/
theorem distinct_of_filed {relations : List (RelationKey × GraphRelation)}
    (filed : ∀ entry ∈ relations, entry.1 = entry.2.triple)
    (once : (relations.map Prod.fst).Nodup) :
    Distinct GraphRelation.triple (relations.map Prod.snd) := by
  intro first firstMember second secondMember same
  obtain ⟨left, leftIn, rfl⟩ := List.mem_map.mp firstMember
  obtain ⟨right, rightIn, rfl⟩ := List.mem_map.mp secondMember
  have keys : left.1 = right.1 :=
    (filed left leftIn).trans (same.trans (filed right rightIn).symm)
  rw [List.inj_on_of_nodup_map once leftIn rightIn keys]

/-- The relations of a consistent plane differ in their triples. -/
theorem Consistent.distinct_triples (consistent : Consistent registry plane) :
    Distinct GraphRelation.triple (plane.relations.map Prod.snd) :=
  distinct_of_filed (fun entry inside => (consistent.relations entry inside).named) consistent.once

/-- A snapshot over all entities keeps exactly the fresh relations. -/
theorem mem_snapshot_relations {config : PlaneConfig} {now : Int} {unique : String}
    {request : SnapshotRequest} {snapshot : Snapshot}
    (consistent : Consistent registry plane)
    (taken : takeSnapshot config plane now unique request = .ok snapshot)
    (included : request.includeRelations = true)
    (all : ∀ ref, (plane.entities.lookup ref).isSome = true → ref ∈ request.entities)
    (relation : GraphRelation) :
    relation ∈ snapshot.relations ↔
      relation ∈ plane.relations.map Prod.snd ∧ relation.isFresh now = .ok true := by
  obtain ⟨_, fresh, found, order⟩ := takeSnapshot_relations taken included
  rw [order.mem_iff, mem_freshRelations found]
  refine and_congr_right fun member => and_iff_left_of_imp fun _ => ?_
  obtain ⟨entry, inside, rfl⟩ := List.mem_map.mp member
  obtain ⟨source, _, known, _⟩ := (consistent.relations entry inside).permitted
  exact Or.inl (all _ (by rw [known]; rfl))

variable (plane) in
/-- The query asks for a stored relation that is fresh or expired. -/
def Asked (now : Int) (query : GraphQuery) (fresh : Bool) (relation : GraphRelation) : Prop :=
  relation ∈ plane.relations.map Prod.snd ∧ query.asks relation = true ∧
    relation.isFresh now = .ok fresh

variable (plane) in
/-- No expired relation touches what the fresh ones reach from the roots in fewer hops than the
depth. -/
def NoExpiredInReach (now : Int) (query : GraphQuery) : Prop :=
  ∀ relation, Asked plane now query false relation → ∀ hops < query.depth.toNat,
    ¬ Touches GraphRelation.ends
      (Reached GraphRelation.ends (Asked plane now query true) query.roots hops) relation

theorem walk_once (query : GraphQuery) (relations : List GraphRelation) :
    ((query.walk relations).2.map Prod.fst).Nodup :=
  explore_nodup _ List.nodup_nil

theorem walk_filed {query : GraphQuery} {relations : List GraphRelation}
    (distinct : Distinct GraphRelation.triple relations) :
    FiledTriples (query.walk relations).2 ∧
      ∀ entry ∈ (query.walk relations).2, entry.2 ∈ relations :=
  ⟨fun entry member => ((mem_explore distinct _ entry).mp member).2.1,
    fun entry member => ((mem_explore distinct _ entry).mp member).1.1⟩

/-- The answers agree on fresh relations. -/
def AgreeFresh (now : Int) (live frozen : GraphQueryResult) : Prop :=
  live.relations = frozen.relations ∧
    ∀ relation ∈ live.relations ++ frozen.relations, relation.isFresh now = .ok true

/-- The live walk and the walk of a snapshot agree exactly when no expired relation is near. -/
theorem walk_agree_iff {config : PlaneConfig} {now : Int} {unique : String}
    {request : SnapshotRequest} {snapshot : Snapshot}
    (consistent : Consistent registry plane)
    (taken : takeSnapshot config plane now unique request = .ok snapshot)
    (included : request.includeRelations = true)
    (all : ∀ ref, (plane.entities.lookup ref).isSome = true → ref ∈ request.entities)
    (query : GraphQuery) :
    (∀ entry, entry ∈ (query.walk (plane.relations.map Prod.snd)).2 ↔
      entry ∈ (query.walk snapshot.relations).2) ↔ NoExpiredInReach plane now query := by
  have kept := mem_snapshot_relations consistent taken included all
  have dated : ∀ relation ∈ plane.relations.map Prod.snd, ∃ flag, relation.isFresh now = .ok flag := by
    obtain ⟨_, fresh, found, _⟩ := takeSnapshot_relations taken included
    intro relation member
    exact GraphRelation.isFresh_returns_iff.mpr (freshRelations_returns_iff.mp ⟨fresh, found⟩ _ member)
  have freshEdges : Admitted query.asks snapshot.relations = Asked plane now query true := by
    funext relation
    simp only [Admitted, Asked, kept, eq_iff_iff]
    exact and_right_comm.trans and_assoc
  rw [GraphQuery.walk, GraphQuery.walk, explore_agree_iff consistent.distinct_triples
    (fun relation member => ((kept relation).mp member).1), freshEdges]
  constructor
  · intro untouched relation asked
    refine untouched relation ⟨asked.1, asked.2.1⟩ fun inside => ?_
    have fresh := ((kept relation).mp inside).2
    rw [asked.2.2] at fresh
    cases fresh
  · intro near relation admitted unknown
    obtain ⟨flag, known⟩ := dated relation admitted.1
    cases flag with
    | false => exact near relation ⟨admitted.1, admitted.2, known⟩
    | true => exact absurd ((kept relation).mpr ⟨admitted.1, known⟩) unknown

end Agreement

/-- On every reachable plane a live query returns the relations of a query through a snapshot of
all entities, all of them fresh, exactly when no expired relation is in reach. -/
theorem queryGraph_agrees_iff (config : PlaneConfig) (registrations : List (CanonicalKey × Bool))
    (operations : List Operation) (now : Int) (unique : String) (request : SnapshotRequest)
    (snapshot : Snapshot) (next : InMemoryStatePlane) (query : GraphQuery)
    (taken :
      let fixed := { config with registry := registryOf registrations }
      getSnapshot fixed now unique request (runPlane fixed operations {}) = .ok snapshot next)
    (included : request.includeRelations = true)
    (all : ∀ ref, (next.entities.lookup ref).isSome = true → ref ∈ request.entities) :
    ∃ live frozen, queryGraph { query with snapshot := "" } next = .ok live next ∧
      queryGraph { query with snapshot := snapshot.token } next = .ok frozen next ∧
      (AgreeFresh now live frozen ↔ NoExpiredInReach next now query) := by
  let fixed := { config with registry := registryOf registrations }
  let reached := runPlane fixed operations {}
  have ran : getSnapshot fixed now unique request reached = .ok snapshot next := taken
  have consistent : Consistent fixed.registry reached :=
    runPlane_keepsConsistent (registryOf_filed registrations) operations named_empty
      (consistent_empty _)
  rw [getSnapshot_run] at ran
  cases took : takeSnapshot fixed reached now unique request with
  | error exception => rw [took] at ran; cases ran
  | ok other =>
      rw [took] at ran
      cases ran
      have agree := walk_agree_iff consistent took included all query
      have token := (takeSnapshot_relations took included).1
      have fresh := mem_snapshot_relations consistent took included all
      have fewer : Distinct GraphRelation.triple snapshot.relations :=
        fun first firstMember second secondMember => consistent.distinct_triples
          first ((fresh first).mp firstMember).1 second ((fresh second).mp secondMember).1
      have live := @walk_filed query _ consistent.distinct_triples
      have frozen := @walk_filed query _ fewer
      refine ⟨_, _, queryGraph_run rfl,
        queryGraph_run (relationSource_kept token (keepSnapshot_lookup fixed reached snapshot)), ?_⟩
      rw [show NoExpiredInReach (keepSnapshot fixed reached snapshot) now query =
        NoExpiredInReach reached now query from rfl, ← agree,
        ← sortedRelations_eq_iff (walk_once query _) (walk_once query _) live.1 frozen.1]
      refine ⟨And.left, fun same => ⟨same, fun relation member => ?_⟩⟩
      have walked : relation ∈ sortedRelations (query.walk snapshot.relations).2 :=
        (List.mem_append.mp member).elim (fun early => same ▸ early) id
      obtain ⟨key, inside⟩ := mem_sortedRelations.mp walked
      exact ((fresh relation).mp (frozen.2 _ inside)).2

/-- A component that manages the runtime. -/
def managerEntity : GraphEntity where
  ref := "component/component/m0"
  graph := .component
  entityType := "component"
  typeAllowed := component_allowed
  refNamed := by decide +kernel

/-- The relation between them lives for a second. -/
def managesQueue : RelationUpdate where
  sourceRef := managerEntity.ref
  relationType := "manages"
  targetRef := queueEntity.ref
  producer := "writer"
  timestamp := 0
  ttl := some 1000000

def managedConfig : PlaneConfig := { registry := registryOf [] }

def managedOperations : List Operation :=
  [.upsertEntity 0 managerEntity, .upsertEntity 0 queueEntity, .upsertRelations [managesQueue]]

/-- The plane holds two entities and one relation. -/
def managedPlane : InMemoryStatePlane := runPlane managedConfig managedOperations {}

def managedRequest : SnapshotRequest :=
  { entities := [managerEntity.ref, queueEntity.ref], keys := [] }

def managedQuery : GraphQuery := { roots := [queueEntity.ref] }

/-- Within the second both queries return the relation. -/
theorem managed_agrees : ∃ snapshot next live frozen,
    getSnapshot managedConfig 500000 "s" managedRequest managedPlane = .ok snapshot next ∧
      queryGraph managedQuery next = .ok live next ∧
      queryGraph { managedQuery with snapshot := snapshot.token } next = .ok frozen next ∧
      AgreeFresh 500000 live frozen := by
  have fresh : ∀ entry ∈ managedPlane.relations, entry.2.isFresh 500000 = .ok true := by
    have checked : ∀ entry ∈ managedPlane.relations,
        (entry.2.isFresh 500000).toOption = some true := by
      decide +kernel
    intro entry member
    have here := checked entry member
    cases found : entry.2.isFresh 500000 with
    | error exception => rw [found] at here; cases here
    | ok flag => rw [found] at here; cases here; rfl
  obtain ⟨snapshot, took⟩ := (@takeSnapshot_returns_iff managedConfig managedPlane managedRequest
    (fun _ member => by cases member) 500000 "s").mpr fun _ entry member =>
      GraphRelation.isFresh_returns_iff.mp ⟨true, fresh entry member⟩
  have taken : getSnapshot managedConfig 500000 "s" managedRequest managedPlane =
      .ok snapshot (keepSnapshot managedConfig managedPlane snapshot) := by
    rw [getSnapshot_run, took]
  obtain ⟨live, frozen, ranLive, ranFrozen, agree⟩ := queryGraph_agrees_iff managedConfig []
    managedOperations 500000 "s" managedRequest snapshot _ managedQuery taken rfl fun ref known => by
      have keys : managedPlane.entities.map Prod.fst = managedRequest.entities := by decide +kernel
      exact keys ▸ lookup_isSome_iff.mp known
  refine ⟨snapshot, _, live, frozen, taken, ranLive, ranFrozen, agree.mpr ?_⟩
  intro relation asked
  obtain ⟨entry, member, rfl⟩ := List.mem_map.mp asked.1
  have known := fresh entry member
  rw [asked.2.2] at known
  cases known

/-- The numbers of relations of a live answer and of an answer through a snapshot. -/
def managedCounts (now : Int) : Option (Nat × Nat) :=
  match getSnapshot managedConfig now "s" managedRequest managedPlane with
  | .ok snapshot next =>
      match queryGraph managedQuery next,
        queryGraph { managedQuery with snapshot := snapshot.token } next with
      | .ok live _, .ok frozen _ => some (live.relations.length, frozen.relations.length)
      | _, _ => none
  | .error _ _ => none

/-- Two seconds later only the live query returns the expired relation. -/
theorem managed_disagrees : managedCounts 2000000 = some (1, 0) := by decide +kernel

end StateFlow.Plane
