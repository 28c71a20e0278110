import Mathlib.Tactic.Positivity
import StateFlow.Construction.Plane.Api
import StateFlow.Proof.Plane.Writes

namespace StateFlow.Plane
open Python Table Effect

/-- A timestamp and a lifetime have their sum inside the calendar. -/
def Expires (timestamp zone ttl : Int) : Prop :=
  minDateTime ≤ timestamp + zone + ttl ∧ timestamp + zone + ttl ≤ maxDateTime

theorem expiry_returns_iff {timestamp zone ttl : Int} :
    (∃ instant, expiry timestamp zone ttl = .ok instant) ↔ Expires timestamp zone ttl := by
  unfold expiry addDuration Expires
  constructor
  · rintro ⟨instant, returned⟩
    split at returned
    · assumption
    · cases returned
  · intro inside
    rw [if_pos inside]
    exact ⟨_, rfl⟩

/-- A relation without a lifetime never expires. -/
def GraphRelation.Dated (relation : GraphRelation) : Prop :=
  ∀ ttl ∈ relation.ttl, Expires relation.timestamp relation.zone ttl

def Heartbeat.Dated (beat : Heartbeat) : Prop := Expires beat.timestamp beat.zone beat.ttl

def RelationUpdate.Dated (update : RelationUpdate) : Prop :=
  ∀ ttl ∈ update.ttl, Expires update.timestamp update.zone ttl

theorem GraphRelation.isFresh_returns_iff {relation : GraphRelation} {now : Int} :
    (∃ fresh, relation.isFresh now = .ok fresh) ↔ relation.Dated := by
  unfold GraphRelation.isFresh GraphRelation.Dated
  cases relation.ttl with
  | none => simp
  | some ttl =>
      have bounds := @expiry_returns_iff relation.timestamp relation.zone ttl
      constructor
      · rintro ⟨fresh, returned⟩ other same
        cases Option.mem_some.mp same
        obtain ⟨instant, found, _⟩ := except_bind_ok returned
        exact bounds.mp ⟨instant, found⟩
      · intro dated
        obtain ⟨instant, found⟩ := bounds.mpr (dated ttl rfl)
        simp only [found]
        exact ⟨_, rfl⟩

theorem Heartbeat.isStale_returns_iff {beat : Heartbeat} {now : Int} :
    (∃ stale, beat.isStale now = .ok stale) ↔ beat.Dated := by
  unfold Heartbeat.isStale Heartbeat.Dated
  rw [← expiry_returns_iff]
  constructor
  · rintro ⟨stale, returned⟩
    obtain ⟨instant, found, _⟩ := except_bind_ok returned
    exact ⟨instant, found⟩
  · rintro ⟨instant, found⟩
    rw [found]
    exact ⟨_, rfl⟩

/-- Every stored relation and every heartbeat has a date of expiry. -/
structure Dated (plane : InMemoryStatePlane) : Prop where
  relations : ∀ entry ∈ plane.relations, entry.2.Dated
  heartbeats : ∀ entry ∈ plane.heartbeats, entry.2.Dated

theorem freshRelations_returns_iff {now : Int} {scope : List String}
    {relations : List GraphRelation} :
    (∃ fresh, freshRelations now scope relations = .ok fresh) ↔
      ∀ relation ∈ relations, relation.Dated := by
  induction relations with
  | nil => simp [freshRelations]
  | cons relation rest ih =>
      rw [List.forall_mem_cons, ← ih, ← @GraphRelation.isFresh_returns_iff relation now]
      constructor
      · rintro ⟨fresh, returned⟩
        obtain ⟨flag, here, continued⟩ := except_bind_ok returned
        obtain ⟨others, later, _⟩ := except_bind_ok continued
        exact ⟨⟨flag, here⟩, others, later⟩
      · rintro ⟨⟨flag, here⟩, others, later⟩
        simp only [freshRelations, here, later, bind, Except.bind, pure, Except.pure]
        split
        all_goals exact ⟨_, rfl⟩

/-- The ages of a request fit into a duration. -/
def SnapshotRequest.Bounded (request : SnapshotRequest) : Prop :=
  ∀ entry ∈ request.maxAgeMs, max 0 entry.2 * 1000 ≤ maxTimedelta

theorem longestPolicy_mem {policy : List (String × Int)} {entry : String × Int}
    (longest : longestPolicy policy = some entry) : entry ∈ policy := by
  induction policy generalizing entry with
  | nil => cases longest
  | cons first rest ih =>
      unfold longestPolicy at longest
      split at longest
      · cases longest
        exact List.mem_cons_self
      · rename_i other later
        split at longest
        · cases longest
          exact List.mem_cons_of_mem _ (ih later)
        · cases longest
          exact List.mem_cons_self

theorem maxAgeFor_returns {request : SnapshotRequest} (bounded : request.Bounded) (key : String) :
    ∃ age, maxAgeFor key request.maxAgeMs = .ok age := by
  unfold maxAgeFor
  cases longest : longestPolicy (request.maxAgeMs.filter fun entry => policyCovers key entry.1) with
  | none => exact ⟨none, rfl⟩
  | some entry =>
      have inside := bounded entry (List.mem_filter.mp (longestPolicy_mem longest)).1
      have lower : -maxTimedelta ≤ max 0 entry.2 * 1000 := by
        have positive : 0 ≤ max 0 entry.2 := le_max_left 0 entry.2
        have known : maxTimedelta = 86399999999999999999 := rfl
        omega
      refine ⟨some (max 0 entry.2 * 1000), ?_⟩
      simp only [timedeltaOfMs, if_pos (And.intro lower inside)]
      rfl

/-- The first occurrences of a list keep its members. -/
theorem mem_ordered {items : List String} {item : String} :
    item ∈ items.reverse.dedup.reverse ↔ item ∈ items := by
  simp [List.mem_dedup]

section Reads
variable {config : PlaneConfig} {plane : InMemoryStatePlane} {request : SnapshotRequest}

theorem findKey_returns (bounded : request.Bounded) (now : Int) (entityRef key : String) :
    ∃ finding, findKey plane now request entityRef key = .ok finding := by
  unfold findKey
  cases plane.state.lookup (entityRef, key) with
  | none => exact ⟨_, rfl⟩
  | some value =>
      obtain ⟨age, found⟩ := maxAgeFor_returns bounded value.key
      simp only [found, bind, Except.bind]
      split
      · exact ⟨_, rfl⟩
      · split
        · exact ⟨_, rfl⟩
        · exact ⟨_, rfl⟩

/-- The findings return when each key that the request expands to has one. -/
theorem findAll_returns_of {now : Int}
    (each : ∀ entityRef ∈ request.entities, ∀ entity ∈ plane.entities.lookup entityRef,
      ∀ name ∈ request.keys,
        ∀ keys ∈ applicableKeys config entity.entityType (canonicalPattern config name),
          ∀ key ∈ keys, ∃ finding, findKey plane now request entityRef key = .ok finding) :
    ∃ findings, findAll config plane now request = .ok findings := by
  have search (entityRef : String) (requested : entityRef ∈ request.entities.reverse.dedup.reverse) :
      ∃ findings, findEntity config plane now request
        (request.keys.map (canonicalPattern config)).reverse.dedup.reverse entityRef =
          .ok findings := by
    rw [mem_ordered] at requested
    unfold findEntity
    cases stored : plane.entities.lookup entityRef with
    | none => exact ⟨_, rfl⟩
    | some entity =>
        have searched : ∃ findings,
            (request.keys.map (canonicalPattern config)).reverse.dedup.reverse.mapM
              (findPattern config plane now request entityRef entity) = .ok findings := by
          apply mapM_returns
          intro pattern listed
          rw [mem_ordered] at listed
          obtain ⟨name, named, rfl⟩ := List.mem_map.mp listed
          unfold findPattern
          cases expanded : applicableKeys config entity.entityType (canonicalPattern config name) with
          | none => exact ⟨_, rfl⟩
          | some keys =>
              exact mapM_returns (each entityRef requested entity stored name named keys expanded)
        obtain ⟨findings, found⟩ := searched
        simp only [found]
        exact ⟨findings.flatten, rfl⟩
  obtain ⟨findings, found⟩ := mapM_returns search
  unfold findAll
  simp only [found]
  exact ⟨findings.flatten, rfl⟩

theorem findAll_returns (bounded : request.Bounded) (now : Int) :
    ∃ findings, findAll config plane now request = .ok findings :=
  findAll_returns_of fun entityRef _ _ _ _ _ _ _ key _ => findKey_returns bounded now entityRef key

/-- A snapshot returns when its findings do and no relation that it reads is undated. -/
theorem takeSnapshot_returns_found {now : Int} {unique : String} :
    (∃ snapshot, takeSnapshot config plane now unique request = .ok snapshot) ↔
      (∃ findings, findAll config plane now request = .ok findings) ∧
      (request.includeRelations = true → ∀ entry ∈ plane.relations, entry.2.Dated) := by
  have dated := @freshRelations_returns_iff now request.entities (plane.relations.map Prod.snd)
  rw [List.forall_mem_map] at dated
  rw [← dated]
  constructor
  · rintro ⟨snapshot, returned⟩
    obtain ⟨findings, found, continued⟩ := except_bind_ok returned
    refine ⟨⟨findings, found⟩, fun included => ?_⟩
    simp only [if_pos included] at continued
    obtain ⟨relations, fresh, _⟩ := except_bind_ok continued
    exact ⟨relations, fresh⟩
  · rintro ⟨⟨findings, found⟩, fresh⟩
    simp only [takeSnapshot, found, bind, Except.bind, pure, Except.pure]
    cases included : request.includeRelations with
    | false => exact ⟨_, rfl⟩
    | true =>
        obtain ⟨relations, fresh⟩ := fresh included
        simp only [if_true, fresh]
        exact ⟨_, rfl⟩

/-- A snapshot with relations returns exactly when every stored relation is dated. -/
theorem takeSnapshot_returns_iff (bounded : request.Bounded) (now : Int) (unique : String) :
    (∃ snapshot, takeSnapshot config plane now unique request = .ok snapshot) ↔
      (request.includeRelations = true → ∀ entry ∈ plane.relations, entry.2.Dated) := by
  rw [takeSnapshot_returns_found]
  exact and_iff_right (findAll_returns bounded now)

theorem freshness_returns_iff {now : Int} :
    (∃ report, freshness plane now = .ok report) ↔
      ∀ entry ∈ plane.heartbeats, entry.2.Dated := by
  constructor
  · rintro ⟨report, returned⟩ entry member
    obtain ⟨beats, counted, _⟩ := except_bind_ok returned
    obtain ⟨index, inside, same⟩ := List.mem_iff_getElem.mp member
    have answered := (List.forall₂_iff_get.mp (forall₂_of_mapM counted)).2 index inside
    have reached : index < beats.length := by
      rw [← (forall₂_of_mapM counted).length_eq]
      exact inside
    have here := answered reached
    simp only [List.get_eq_getElem, same] at here
    exact Heartbeat.isStale_returns_iff.mp ⟨_, here⟩
  · intro dated
    have judged : ∃ beats,
        plane.heartbeats.mapM (fun entry => entry.2.isStale now) = .ok beats :=
      mapM_returns fun entry member => Heartbeat.isStale_returns_iff.mpr (dated entry member)
    obtain ⟨beats, counted⟩ := judged
    exact ⟨_, by unfold freshness; simp only [counted]; rfl⟩

end Reads

section Writes
variable {config : PlaneConfig}

theorem heldRelation_returns {plane : InMemoryStatePlane}
    (dated : ∀ entry ∈ plane.relations, entry.2.Dated) (update : RelationUpdate) :
    ∀ record ∈ plane.heldRelation update, ∃ fresh, record.fresh = .ok fresh := by
  intro record held
  obtain ⟨relation, found, same⟩ := Option.map_eq_some_iff.mp held
  rw [← same]
  exact GraphRelation.isFresh_returns_iff.mpr (dated _ (mem_of_lookup found))

theorem judgeRelation_returns {plane : InMemoryStatePlane}
    (dated : ∀ entry ∈ plane.relations, entry.2.Dated) (update : RelationUpdate) :
    ∃ verdict, judgeRelation plane update = .ok verdict := by
  simp only [judgeRelation, bind, Except.bind, pure, Except.pure]
  split
  · exact ⟨_, rfl⟩
  · split
    · split
      · exact ⟨_, rfl⟩
      · obtain ⟨reason, judged⟩ := @writeConflict_returns "relation" _
          (heldRelation_returns dated update) update.expectedVersion update.authority
          update.timestamp update.version
        rw [judged]
        cases reason with
        | none => exact ⟨_, rfl⟩
        | some text => exact ⟨_, rfl⟩
    · exact ⟨_, rfl⟩

theorem remember_heartbeats {plane : InMemoryStatePlane} (key : String) (result : WriteResult) :
    (plane.remember key result).heartbeats = plane.heartbeats := by
  unfold InMemoryStatePlane.remember
  split
  all_goals rfl

/-- A plane with the same relations and heartbeats is dated too. -/
theorem Dated.of_same {before after : InMemoryStatePlane} (dated : Dated before)
    (relations : after.relations = before.relations)
    (heartbeats : after.heartbeats = before.heartbeats) : Dated after :=
  ⟨by rw [relations]; exact dated.relations, by rw [heartbeats]; exact dated.heartbeats⟩

/-- A dated relation may always be written to a dated plane. -/
theorem upsertRelation_total (update : RelationUpdate) (fits : update.Dated) :
    Returns Dated (upsertRelation config update) fun _ => Dated := by
  intro plane dated
  obtain ⟨verdict, judged⟩ := judgeRelation_returns dated.relations update
  rw [upsertRelation_run, judged]
  cases verdict with
  | error result => exact ⟨result, plane, rfl, dated⟩
  | ok relation =>
      refine ⟨_, _, rfl, ?_⟩
      obtain ⟨_, stored⟩ := judgeRelation_accepts judged
      constructor
      · rw [acceptRelation_relations]
        intro entry member
        rcases mem_assign member with same | earlier
        · rw [same, stored]
          exact fits
        · exact dated.relations entry earlier
      · exact (remember_heartbeats _ _).symm ▸ dated.heartbeats

theorem publishOne_total (update : StateUpdate) :
    Returns Dated (publishOne config update) fun _ => Dated := by
  intro plane dated
  obtain ⟨verdict, judged⟩ := judgeState_returns config plane update
  rw [publishOne_run, judged]
  cases verdict with
  | error result => exact ⟨result, plane, rfl, dated⟩
  | ok value =>
      refine ⟨_, _, rfl, ?_⟩
      exact dated.of_same (acceptState_relations value) (remember_heartbeats _ _)

/-- The plane answers every read and every write of state and relations. -/
structure Serves (config : PlaneConfig) (plane : InMemoryStatePlane) : Prop where
  getSnapshot : ∀ now unique request, request.Bounded →
    ∃ snapshot next, Plane.getSnapshot config now unique request plane = .ok snapshot next
  freshness : ∀ now, ∃ report, Plane.freshness plane now = .ok report
  publishState : ∀ updates,
    ∃ results next, Plane.publishState config updates plane = .ok results next
  upsertRelations : ∀ updates : List RelationUpdate, (∀ update ∈ updates, update.Dated) →
    ∃ results next, Plane.upsertRelations config updates plane = .ok results next

/-- A plane answers exactly when its relations and heartbeats are dated. -/
theorem serves_iff_dated {plane : InMemoryStatePlane} : Serves config plane ↔ Dated plane := by
  constructor
  · intro serves
    constructor
    · obtain ⟨snapshot, next, returned⟩ := serves.getSnapshot 0 "" ⟨[], [], [], .logHint, true⟩
        (fun _ member => absurd member List.not_mem_nil)
      rw [getSnapshot_run] at returned
      cases taken : takeSnapshot config plane 0 "" ⟨[], [], [], .logHint, true⟩ with
      | error exception => rw [taken] at returned; cases returned
      | ok found =>
          have bounded : SnapshotRequest.Bounded ⟨[], [], [], .logHint, true⟩ :=
            fun _ member => absurd member List.not_mem_nil
          exact (takeSnapshot_returns_iff bounded 0 "").mp ⟨found, taken⟩ rfl
    · exact freshness_returns_iff.mp (serves.freshness 0)
  · intro dated
    constructor
    · intro now unique request bounded
      obtain ⟨snapshot, taken⟩ := (@takeSnapshot_returns_iff config _ _ bounded now
        unique).mpr fun _ => dated.relations
      exact ⟨snapshot, _, by rw [getSnapshot_run, taken]⟩
    · exact fun now => freshness_returns_iff.mpr dated.heartbeats
    · intro updates
      have total : Returns Dated (updates.mapM (publishOne config)) fun _ => Dated :=
        returns_mapM fun update _ => publishOne_total update
      obtain ⟨results, next, returned, _⟩ := total plane dated
      exact ⟨results, next, returned⟩
    · intro updates fit
      have total : Returns Dated (updates.mapM (upsertRelation config)) fun _ => Dated :=
        returns_mapM fun update member => upsertRelation_total update (fit update member)
      obtain ⟨results, next, returned, _⟩ := total plane dated
      exact ⟨results, next, returned⟩

end Writes

section Posts
variable {config : PlaneConfig}

/-- A posted relation and a posted heartbeat expire before the calendar ends. -/
def Post.Fits : Post → Prop
  | .upsertRelations items => ∀ item ∈ items, ∀ milliseconds ∈ item.ttlMs,
      item.timestamp.wall + max 0 milliseconds * 1000 ≤ maxDateTime
  | .heartbeat item => ∀ ttl, durationMs item.ttlMs = .ok ttl →
      item.timestamp.wall + heartbeatTtl ttl ≤ maxDateTime
  | _ => True

theorem durationMs_ok {milliseconds : Int} {ttl : Option Int}
    (parsed : durationMs (some milliseconds) = .ok ttl) :
    ttl = some (max 0 milliseconds * 1000) := by
  obtain ⟨micros, converted, final⟩ := except_bind_ok parsed
  cases final
  simp only [timedeltaOfMs] at converted
  split at converted
  · cases converted
    rfl
  · cases converted

/-- A lifetime from the API is never negative. -/
theorem durationMs_nonneg {item : Option Int} {ttl : Int}
    (parsed : durationMs item = .ok (some ttl)) : 0 ≤ ttl := by
  cases item with
  | none => cases parsed
  | some milliseconds =>
      have same := Option.some.inj (durationMs_ok parsed)
      have positive : 0 ≤ max 0 milliseconds := le_max_left 0 milliseconds
      omega

theorem relationUpdate_dated {item : Item RelationUpdate} {update : RelationUpdate}
    (parsed : relationUpdate item = .ok update)
    (fits : ∀ milliseconds ∈ item.ttlMs,
      item.timestamp.wall + max 0 milliseconds * 1000 ≤ maxDateTime) : update.Dated := by
  obtain ⟨_, _, continued⟩ := except_bind_ok parsed
  obtain ⟨ttl, converted, final⟩ := except_bind_ok continued
  cases final
  intro lifetime same
  have same : ttl = some lifetime := same
  cases given : item.ttlMs with
  | none =>
      rw [given] at converted
      cases converted
      cases same
  | some milliseconds =>
      rw [given] at converted
      have bound := fits milliseconds given
      have positive := durationMs_nonneg (same ▸ converted)
      have length : lifetime = max 0 milliseconds * 1000 :=
        Option.some.inj (same.symm.trans (durationMs_ok converted))
      have lower := item.timestamp.inside.1
      change minDateTime ≤ item.timestamp.wall - item.timestamp.zone + item.timestamp.zone
          + lifetime ∧ item.timestamp.wall - item.timestamp.zone + item.timestamp.zone
          + lifetime ≤ maxDateTime
      omega

theorem heartbeatOf_dated {item : Item Heartbeat} {beat : Heartbeat}
    (parsed : heartbeatOf item = .ok beat)
    (fits : ∀ ttl, durationMs item.ttlMs = .ok ttl →
      item.timestamp.wall + heartbeatTtl ttl ≤ maxDateTime) : beat.Dated := by
  obtain ⟨_, _, continued⟩ := except_bind_ok parsed
  obtain ⟨ttl, converted, final⟩ := except_bind_ok continued
  cases final
  have bound := fits ttl converted
  have positive : 0 ≤ heartbeatTtl ttl := by
    unfold heartbeatTtl
    split
    · decide
    · decide
    · exact durationMs_nonneg converted
  have lower := item.timestamp.inside.1
  change minDateTime ≤ item.timestamp.wall - item.timestamp.zone + item.timestamp.zone
      + heartbeatTtl ttl ∧ item.timestamp.wall - item.timestamp.zone + item.timestamp.zone
      + heartbeatTtl ttl ≤ maxDateTime
  omega

theorem batchOf_mem {U V : Type} {parse : U → Except Exception V} {items : List U}
    {parsed : List V} (returned : batchOf parse items = .ok parsed) {value : V}
    (member : value ∈ parsed) : ∃ item ∈ items, parse item = .ok value := by
  unfold batchOf at returned
  split at returned
  · cases returned
  · exact mem_of_mapM returned member

/-- A discarded answer changes nothing. -/
theorem within_ignored {A : Type} {frame : Frame InMemoryStatePlane} {program : PlaneAction A}
    (inside : Within frame program) : Within frame (do let _ ← program; return ()) :=
  within_bind inside fun _ => within_pure ()

/-- A request keeps the dates when its own relations and its own heartbeat are dated. -/
theorem post_keeps_dated (post : Post) (fits : post.Fits) :
    Within (Frame.keeps Dated) (post.run config) := by
  cases post with
  | registerComponent descriptor =>
      apply within_lift_bind
      intro parsed _ plane dated
      rw [registerComponent_run]
      repeat' split
      all_goals exact dated.of_same rfl rfl
  | upsertEntities now entities =>
      apply within_lift_bind
      intro parsed _
      apply within_forM
      intro entity _ plane dated
      rw [upsertEntity_run]
      repeat' split
      all_goals exact dated.of_same rfl rfl
  | publishState items =>
      apply within_lift_bind
      intro updates _
      exact within_ignored (returns_mapM fun update _ => publishOne_total update).within
  | upsertRelations items =>
      apply within_lift_bind
      intro updates parsed
      apply within_ignored
      apply Returns.within
      apply returns_mapM
      intro update member
      obtain ⟨item, listed, converted⟩ := batchOf_mem parsed member
      exact upsertRelation_total update (relationUpdate_dated converted (fits item listed))
  | publishMetrics items =>
      apply within_lift_bind
      intro samples _
      apply within_ignored
      apply within_mapM
      intro sample _ plane dated
      rcases publishMetric_cases config sample plane with ⟨result, ran, _⟩ | ⟨_, _, result, ran, _⟩
      all_goals
        rw [ran]
        exact dated.of_same rfl rfl
  | publishEvents items =>
      apply within_lift_bind
      intro events _
      apply within_ignored
      apply within_mapM
      intro event _ plane dated
      rcases publishEvent_cases config event plane with ⟨result, ran, _⟩ | ⟨result, ran, _⟩
      all_goals
        rw [ran]
        exact dated.of_same rfl rfl
  | heartbeat item =>
      apply within_lift_bind
      intro beat parsed plane dated
      rw [heartbeat_run]
      split
      · exact dated
      · refine ⟨dated.relations, ?_⟩
        intro entry member
        rcases mem_assign member with same | earlier
        · rw [same]
          exact heartbeatOf_dated parsed fits
        · exact dated.heartbeats entry earlier
  | getSnapshot now unique request =>
      apply within_lift_bind
      intro parsed _
      apply within_ignored
      intro plane dated
      rw [getSnapshot_run]
      split
      all_goals exact dated.of_same rfl rfl

/-- The requests of a run keep the dates. -/
theorem runPosts_dated {posts : List Post} (fit : ∀ post ∈ posts, post.Fits)
    {plane : InMemoryStatePlane} (start : Dated plane) : Dated (runPosts config posts plane) := by
  induction posts generalizing plane with
  | nil => exact start
  | cons post rest ih =>
      apply ih fun later member => fit later (List.mem_cons_of_mem post member)
      exact post_keeps_dated post (fit post List.mem_cons_self) plane start

/-- The plane that a run of requests reaches answers exactly when what it stored is dated. It is
dated when every posted relation and every posted heartbeat expires before the calendar ends. -/
theorem posts_served (config : PlaneConfig) (posts : List Post) :
    (Serves config (runPosts config posts {}) ↔ Dated (runPosts config posts {})) ∧
    ((∀ post ∈ posts, post.Fits) → Serves config (runPosts config posts {})) := by
  refine ⟨serves_iff_dated, fun fit => serves_iff_dated.mpr (runPosts_dated fit ?_)⟩
  exact ⟨fun _ member => absurd member List.not_mem_nil,
    fun _ member => absurd member List.not_mem_nil⟩

end Posts

/-- A component uses an object until the end of the calendar and five seconds more. -/
def lateRelation : Item RelationUpdate where
  fields := { sourceRef := "component/component/r0", relationType := "uses",
              targetRef := "component/stateful_object/k0", producer := "p", timestamp := 0 }
  timestamp := ⟨maxDateTime, 0, by decide, by decide⟩
  ttlMs := some 5000

/-- The object that the component uses. -/
def usedObject : GraphEntity where
  ref := "component/stateful_object/k0"
  graph := .component
  entityType := "stateful_object"
  typeAllowed := statefulObject_allowed
  refNamed := by decide +kernel

/-- The plane after the late relation. -/
def latePlane : InMemoryStatePlane :=
  runPosts defaultConfig
    [.upsertEntities 0 [queueEntity, usedObject], .upsertRelations [lateRelation]] {}

/-- The late relation is accepted and then no snapshot returns, not even one of another entity. -/
theorem not_serves_after_late_relation :
    latePlane.relations.length = 1 ∧ ¬ Serves defaultConfig latePlane := by
  refine ⟨by decide +kernel, ?_⟩
  intro serves
  obtain ⟨snapshot, next, returned⟩ := serves.getSnapshot 0 ""
    ⟨["component/component/r1"], ["runtime.*"], [], .logHint, true⟩
    (fun _ member => absurd member List.not_mem_nil)
  have raised : (match getSnapshot defaultConfig 0 ""
      ⟨["component/component/r1"], ["runtime.*"], [], .logHint, true⟩ latePlane with
      | .ok _ _ => false
      | .error _ _ => true) = true := by decide +kernel
  rw [returned] at raised
  cases raised

end StateFlow.Plane
