import StateFlow.Proof.Plane.Reads

namespace StateFlow.Plane
open Python Table Effect

/-- A query demands an authority and an age of each value. -/
def StateQuery.Demands (query : StateQuery) (instant : Int) (value : StateValue) : Prop :=
  query.minAuthority.rank ≤ value.authority.rank ∧
  ∀ limit, maxAgeFor value.key query.maxAgeMs = .ok (some limit) → value.age instant ≤ limit

/-- A live read at an instant passes a value. -/
def StateQuery.Passes (query : StateQuery) (instant : Int) (value : StateValue) : Prop :=
  ¬ value.authority.rank < query.minAuthority.rank ∧
  ∀ maxAge, maxAgeFor value.key query.maxAgeMs = .ok maxAge → value.isFresh instant maxAge = true

/-- A query names the entity and the key of a value. -/
def StateQuery.Names (config : PlaneConfig) (query : StateQuery) (value : StateValue) : Prop :=
  value.entityRef = query.entityRef ∧
  ∃ name ∈ query.keys, fnmatchcase value.key (canonicalPattern config name) = true

/-- A read of a snapshot counts ages at the creation of the snapshot. -/
def readInstant (plane : InMemoryStatePlane) (now : Int) (query : StateQuery) : Int :=
  if query.snapshot = "" then now
  else ((plane.snapshots.lookup query.snapshot).map Snapshot.createdAt).getD now

/-- A value is fresh when it is younger than the requested age and than its lifetime. -/
theorem isFresh_iff {value : StateValue} {now : Int} {maxAge : Option Int} :
    value.isFresh now maxAge = true ↔
      (∀ limit ∈ maxAge, value.age now ≤ limit) ∧ ∀ ttl ∈ value.ttl, value.age now ≤ ttl := by
  unfold StateValue.isFresh
  cases maxAge with
  | none =>
      cases value.ttl with
      | none => simp
      | some ttl => simp
  | some age =>
      cases value.ttl with
      | none => simp
      | some ttl =>
          simp only [Option.all_some, decide_eq_true_eq, Option.mem_some, forall_eq']
          split
          · omega
          · omega

section Frozen
variable {config : PlaneConfig} {plane : InMemoryStatePlane} {now : Int} {unique : String}
  {request : SnapshotRequest} {snapshot : Snapshot} {value : StateValue}

/-- A selected value has enough authority and is fresh under its requested age. -/
theorem findKey_selected {entityRef key : String}
    (answered : findKey plane now request entityRef key = .ok (.selected value)) :
    request.minAuthority.rank ≤ value.authority.rank ∧
      ∃ maxAge, maxAgeFor value.key request.maxAgeMs = .ok maxAge ∧
        value.isFresh now maxAge = true := by
  unfold findKey at answered
  cases stored : plane.state.lookup (entityRef, key) with
  | none =>
      rw [stored] at answered
      cases answered
  | some other =>
      rw [stored] at answered
      obtain ⟨maxAge, limit, decided⟩ := except_bind_ok answered
      split at decided
      · cases decided
      · rename_i enough
        split at decided
        · cases decided
        · rename_i fresh
          cases decided
          exact ⟨not_lt.mp enough, maxAge, limit, by simpa using fresh⟩

/-- Every finding that selects a value comes from one key. -/
theorem findAll_selected {findings : List Finding}
    (found : findAll config plane now request = .ok findings) (member : .selected value ∈ findings) :
    ∃ entityRef key, findKey plane now request entityRef key = .ok (.selected value) := by
  obtain ⟨groups, answered, final⟩ := except_bind_ok found
  cases final
  obtain ⟨group, listed, inside⟩ := List.mem_flatten.mp member
  obtain ⟨entityRef, _, searched⟩ := mem_of_mapM answered listed
  unfold findEntity at searched
  cases stored : plane.entities.lookup entityRef with
  | none =>
      rw [stored] at searched
      cases searched
      cases List.mem_singleton.mp inside
  | some entity =>
      rw [stored] at searched
      obtain ⟨parts, each, joined⟩ := except_bind_ok searched
      cases joined
      obtain ⟨part, partListed, partInside⟩ := List.mem_flatten.mp inside
      obtain ⟨pattern, _, partFound⟩ := mem_of_mapM each partListed
      unfold findPattern at partFound
      cases expanded : applicableKeys config entity.entityType pattern with
      | none =>
          rw [expanded] at partFound
          cases partFound
          cases List.mem_singleton.mp partInside
      | some keys =>
          rw [expanded] at partFound
          obtain ⟨key, _, here⟩ := mem_of_mapM partFound partInside
          exact ⟨entityRef, key, here⟩

/-- A snapshot selects by the authority and the ages of its request. -/
theorem takeSnapshot_selected
    (taken : takeSnapshot config plane now unique request = .ok snapshot)
    (member : value ∈ snapshot.values) :
    request.minAuthority.rank ≤ value.authority.rank ∧
      ∃ maxAge, maxAgeFor value.key request.maxAgeMs = .ok maxAge ∧
        value.isFresh now maxAge = true := by
  obtain ⟨findings, found, values, _⟩ := takeSnapshot_ok taken
  have listed := mem_selected.mp (mem_distinctValues (values.mem_iff.mp member))
  obtain ⟨entityRef, key, answered⟩ := findAll_selected found listed
  exact findKey_selected answered

theorem takeSnapshot_createdAt
    (taken : takeSnapshot config plane now unique request = .ok snapshot) :
    snapshot.createdAt = now := by
  obtain ⟨findings, _, continued⟩ := except_bind_ok taken
  cases included : request.includeRelations with
  | false =>
      simp only [included] at continued
      cases continued
      rfl
  | true =>
      simp only [included, if_true] at continued
      obtain ⟨relations, _, final⟩ := except_bind_ok continued
      cases final
      rfl

/-- The kept snapshots hold values that were alive at their creation. -/
def FrozenAlive (plane : InMemoryStatePlane) : Prop :=
  ∀ entry ∈ plane.snapshots, ∀ value ∈ entry.2.values,
    value.isFresh entry.2.createdAt none = true

theorem FrozenAlive.of_same {before after : InMemoryStatePlane} (alive : FrozenAlive before)
    (same : after.snapshots = before.snapshots) : FrozenAlive after := by
  unfold FrozenAlive
  rw [same]
  exact alive

theorem keepSnapshot_alive (alive : FrozenAlive plane)
    (taken : takeSnapshot config plane now unique request = .ok snapshot) :
    FrozenAlive (keepSnapshot config plane snapshot) := by
  intro entry member value listed
  rcases List.mem_append.mp (List.mem_of_mem_drop member) with earlier | new
  · exact alive entry (List.mem_of_mem_filter earlier) value listed
  · cases List.mem_singleton.mp new
    obtain ⟨_, maxAge, _, fresh⟩ := takeSnapshot_selected taken listed
    rw [takeSnapshot_createdAt taken]
    exact isFresh_iff.mpr ⟨fun _ absent => (Option.not_mem_none _ absent).elim,
      (isFresh_iff.mp fresh).2⟩

end Frozen

section Runs
variable {config : PlaneConfig} {plane : InMemoryStatePlane}

/-- A write keeps the snapshots. -/
theorem remember_snapshots (key : String) (result : WriteResult) :
    (plane.remember key result).snapshots = plane.snapshots := by
  unfold InMemoryStatePlane.remember
  split <;> rfl

/-- A step changes the snapshots only by keeping one that it takes. -/
theorem step_snapshots (plane : InMemoryStatePlane) (call : Call) :
    (call.step config plane).after.snapshots = plane.snapshots ∨
    ∃ now unique request snapshot, call = .getSnapshot now unique request ∧
      takeSnapshot config plane now unique request = .ok snapshot ∧
      (call.step config plane).after = keepSnapshot config plane snapshot := by
  rw [step_after]
  cases call with
  | publishState update =>
      left
      rw [show finalState ((Call.publishState update).run config plane) =
        finalState (publishOne config update plane) from finalState_then _ _ plane, publishOne_run]
      rcases judgeState config plane update with exception | (result | value)
      · rfl
      · rfl
      · exact remember_snapshots _ _
  | upsertRelation update =>
      left
      rw [show finalState ((Call.upsertRelation update).run config plane) =
        finalState (upsertRelation config update plane) from finalState_then _ _ plane,
        upsertRelation_run]
      rcases judgeRelation plane update with exception | (result | relation)
      · rfl
      · rfl
      · exact remember_snapshots _ _
  | registerComponent descriptor =>
      left
      rw [show finalState ((Call.registerComponent descriptor).run config plane) =
        finalState (registerComponent descriptor plane) from finalState_done _ _ plane,
        registerComponent_run]
      repeat' split
      all_goals rfl
  | upsertEntity now entity =>
      left
      rw [show finalState ((Call.upsertEntity now entity).run config plane) =
        finalState (upsertEntity config now entity plane) from finalState_done _ _ plane,
        upsertEntity_run]
      repeat' split
      all_goals rfl
  | heartbeat beat =>
      left
      rw [show finalState ((Call.heartbeat beat).run config plane) =
        finalState (heartbeat beat plane) from finalState_done _ _ plane, heartbeat_run]
      split
      all_goals rfl
  | publishMetric sample =>
      left
      rw [show finalState ((Call.publishMetric sample).run config plane) =
        finalState (publishMetric config sample plane) from finalState_then _ _ plane]
      rcases publishMetric_cases config sample plane with ⟨result, ran, _⟩ |
        ⟨_, _, result, ran, _⟩
      all_goals
        rw [ran]
        rfl
  | publishEvent event =>
      left
      rw [show finalState ((Call.publishEvent event).run config plane) =
        finalState (publishEvent config event plane) from finalState_then _ _ plane]
      rcases publishEvent_cases config event plane with ⟨result, ran, _⟩ | ⟨result, ran, _⟩
      all_goals
        rw [ran]
        rfl
  | getSnapshot now unique request =>
      rw [show finalState ((Call.getSnapshot now unique request).run config plane) =
        finalState (getSnapshot config now unique request plane) from finalState_done _ _ plane,
        getSnapshot_run]
      cases taken : takeSnapshot config plane now unique request with
      | error exception => exact Or.inl rfl
      | ok snapshot => exact Or.inr ⟨now, unique, request, snapshot, rfl, taken, rfl⟩

theorem step_alive (plane : InMemoryStatePlane) (call : Call) (alive : FrozenAlive plane) :
    FrozenAlive (call.step config plane).after := by
  rcases step_snapshots plane call with same | ⟨_, _, _, _, _, taken, after⟩
  · exact alive.of_same same
  · rw [after]
    exact keepSnapshot_alive alive taken

theorem event_alive {world : PlaneConfig × InMemoryStatePlane} (event : RegistryEvent)
    (alive : FrozenAlive world.2) : FrozenAlive (event.apply world).2 := by
  obtain ⟨config, plane⟩ := world
  cases event with
  | register definition replace =>
      unfold RegistryEvent.apply
      cases registered : config.registry.register definition replace with
      | error exception => simpa [registered] using alive
      | ok registry => simpa [registered] using alive
  | operate operation => exact (operation_chained operation plane).keeps step_alive alive

/-- Every kept snapshot of a run is alive. -/
theorem runRegistered_alive (limits : PlaneConfig) (events : List RegistryEvent) :
    FrozenAlive (runRegistered limits events).2 := by
  unfold runRegistered
  induction events using List.reverseRecOn with
  | nil => exact fun _ member => absurd member List.not_mem_nil
  | append_singleton early event ih =>
      rw [List.foldl_append]
      exact event_alive event ih

end Runs

section Read
variable {config : PlaneConfig} {plane last : InMemoryStatePlane} {now : Int} {unique : String}
  {query : StateQuery} {values : List StateValue}

/-- A live read meets its demands. -/
theorem live_demands (live : query.snapshot = "")
    (returned : getState config now unique query plane = .ok values last) :
    ∀ value ∈ values, query.Demands now value := by
  unfold getState at returned
  rw [if_neg (not_not.mpr live)] at returned
  obtain ⟨snapshot, middle, ran, done⟩ := bind_ok returned
  cases done
  rw [getSnapshot_run] at ran
  split at ran
  · rename_i frozen taken
    cases ran
    intro value member
    obtain ⟨enough, maxAge, applied, fresh⟩ := takeSnapshot_selected taken member
    refine ⟨enough, fun limit limited => ?_⟩
    cases applied.symm.trans limited
    exact (isFresh_iff.mp fresh).1 limit rfl
  · cases ran

/-- A read by a token filters the values of a kept snapshot. -/
theorem frozen_values (token : query.snapshot ≠ "")
    (returned : getState config now unique query plane = .ok values last) :
    ∃ snapshot, plane.snapshots.lookup query.snapshot = some snapshot ∧
      ∀ value, value ∈ values ↔ value ∈ snapshot.values ∧ query.Names config value := by
  unfold getState at returned
  rw [if_pos token] at returned
  obtain ⟨snapshot, middle, read, done⟩ := bind_ok returned
  cases done
  rw [readSnapshot, get_bind] at read
  cases kept : plane.snapshots.lookup query.snapshot with
  | none => rw [kept] at read; cases read
  | some frozen =>
      rw [kept] at read
      cases read
      refine ⟨snapshot, rfl, fun value => ?_⟩
      simp only [List.mem_filter, Bool.and_eq_true, decide_eq_true_eq, List.any_map, List.any_eq_true,
        Function.comp_apply, StateQuery.Names]

/-- A value that is alive meets the demands exactly when a live read passes it. -/
theorem demands_iff_passes {value : StateValue} {instant : Int}
    (alive : value.isFresh instant none = true) :
    query.Demands instant value ↔ query.Passes instant value := by
  have ttl := (isFresh_iff.mp alive).2
  unfold StateQuery.Demands StateQuery.Passes
  constructor
  · rintro ⟨enough, young⟩
    refine ⟨not_lt.mpr enough, fun maxAge applied => isFresh_iff.mpr ⟨fun limit limited => ?_, ttl⟩⟩
    cases Option.mem_def.mp limited
    exact young limit applied
  · rintro ⟨enough, fresh⟩
    refine ⟨not_lt.mp enough, fun limit applied => ?_⟩
    exact (isFresh_iff.mp (fresh _ applied)).1 limit rfl

/-- A read meets its demands exactly when it is live or when a live read at the creation of its
snapshot passes each frozen value that it names. -/
theorem getState_demands_iff (limits : PlaneConfig) (events : List RegistryEvent)
    (returned : getState (runRegistered limits events).1 now unique query
      (runRegistered limits events).2 = .ok values last) :
    (∀ value ∈ values,
      query.Demands (readInstant (runRegistered limits events).2 now query) value) ↔
    query.snapshot = "" ∨
      ∀ snapshot ∈ (runRegistered limits events).2.snapshots.lookup query.snapshot,
        ∀ value ∈ snapshot.values, query.Names (runRegistered limits events).1 value →
          query.Passes snapshot.createdAt value := by
  have alive := runRegistered_alive limits events
  generalize (runRegistered limits events).1 = config at *
  generalize (runRegistered limits events).2 = plane at *
  by_cases live : query.snapshot = ""
  · have instant : readInstant plane now query = now := if_pos live
    rw [instant]
    exact iff_of_true (live_demands live returned) (Or.inl live)
  · obtain ⟨snapshot, kept, members⟩ := frozen_values live returned
    have instant : readInstant plane now query = snapshot.createdAt := by
      rw [readInstant, if_neg live, kept]
      rfl
    have fresh := alive _ (mem_of_lookup kept)
    simp only [instant, live, false_or, kept, Option.mem_some, forall_eq', members]
    constructor
    · intro met value listed named
      exact (demands_iff_passes (fresh value listed)).mp (met value ⟨listed, named⟩)
    · rintro passed value ⟨listed, named⟩
      exact (demands_iff_passes (fresh value listed)).mpr (passed value listed named)

end Read

/-- A snapshot over a queue depth, five seconds after its write. -/
def depthEvents : List RegistryEvent :=
  queueWorld [depthKey] ++ [.operate (.publishState [depthWrite]),
    .operate (.getSnapshot 5000000 "s" { entities := [queueEntity.ref], keys := ["depth"] })]

/-- A read of the snapshot that asks for an authority. -/
def frozenQuery (minAuthority : SourceAuthority) : StateQuery where
  entityRef := queueEntity.ref
  keys := ["depth"]
  maxAgeMs := [("", 6000)]
  minAuthority := minAuthority
  snapshot := "snapshot-2-s"

/-- The answers of the read. -/
def frozenRead (minAuthority : SourceAuthority) :
    EStateM.Result Exception InMemoryStatePlane (List StateValue) :=
  getState (runRegistered defaultConfig depthEvents).1 9000000 "" (frozenQuery minAuthority)
    (runRegistered defaultConfig depthEvents).2

theorem frozenRead_answers (minAuthority : SourceAuthority) :
    ∃ last, frozenRead minAuthority = .ok [depthValue] last := ⟨_, rfl⟩

theorem getState_demands_iff_of_depth : ∃ values last,
    frozenRead .derived = .ok values last ∧ ∀ value ∈ values, (frozenQuery .derived).Demands
      (readInstant (runRegistered defaultConfig depthEvents).2 9000000 (frozenQuery .derived))
      value := by
  obtain ⟨last, returned⟩ := frozenRead_answers .derived
  refine ⟨_, last, returned, (getState_demands_iff defaultConfig depthEvents returned).mpr (Or.inr ?_)⟩
  have kept : ((runRegistered defaultConfig depthEvents).2.snapshots.lookup
      (frozenQuery .derived).snapshot).map
      (fun snapshot => (snapshot.createdAt, snapshot.values)) = some (5000000, [depthValue]) := rfl
  intro snapshot found value listed _
  rw [Option.mem_def.mp found] at kept
  obtain ⟨created, held⟩ := Prod.mk.inj (Option.some.inj kept)
  rw [held] at listed
  cases List.mem_singleton.mp listed
  rw [created]
  refine ⟨by decide, fun maxAge applied => ?_⟩
  have limit : maxAgeFor depthValue.key [("", 6000)] = .ok (some 6000000) := rfl
  cases limit.symm.trans applied
  decide

/-- The snapshot returns a value below the authority that the call asks for. -/
theorem frozen_read_ignores_authority : ¬ ∀ values last,
    frozenRead .authoritativeDomain = .ok values last →
      ∀ value ∈ values, (frozenQuery .authoritativeDomain).Demands
        (readInstant (runRegistered defaultConfig depthEvents).2 9000000
          (frozenQuery .authoritativeDomain)) value := by
  intro demanded
  obtain ⟨last, returned⟩ := frozenRead_answers .authoritativeDomain
  exact absurd (demanded _ last returned depthValue List.mem_cons_self).1 (by decide)

end StateFlow.Plane
