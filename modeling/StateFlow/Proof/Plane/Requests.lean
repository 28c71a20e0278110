import StateFlow.Proof.Plane.Freshness

namespace StateFlow.Plane
open Python Table Effect

/-- The keys of a registry resolve to themselves and none of them is a pattern. -/
structure CanonicalKeyRegistry.Settled (registry : CanonicalKeyRegistry) : Prop where
  resolves : ∀ name definition, registry.resolve name = some definition →
    registry.resolve definition.key = some definition ∧ isPattern definition.key = false
  listed : ∀ definition ∈ registry.list, (registry.resolve definition.key).isSome = true

/-- A registry whose entries resolve to their own keys is settled. -/
theorem settled_of_entries {registry : CanonicalKeyRegistry}
    (direct : ∀ entry ∈ registry.definitions, entry.2.key = entry.1 ∧
      registry.aliases.lookup entry.1 = none ∧ isPattern entry.1 = false) : registry.Settled := by
  have own {entry : String × CanonicalKey} (member : entry ∈ registry.definitions) :
      registry.resolve entry.2.key = registry.definitions.lookup entry.1 := by
    obtain ⟨named, unaliased, _⟩ := direct entry member
    rw [CanonicalKeyRegistry.resolve, getD, named, unaliased]
    rfl
  constructor
  · intro name definition resolved
    have found : registry.definitions.lookup (getD registry.aliases name name) = some definition :=
      resolved
    have member := mem_of_lookup found
    obtain ⟨named, _, plain⟩ := direct _ member
    simp only at named plain
    exact ⟨(own member).trans found, by rw [named]; exact plain⟩
  · intro definition listed
    have kept := (List.mem_insertionSort _).mp listed
    obtain ⟨entry, member, same⟩ := List.mem_map.mp (List.mem_filter.mp kept).1
    rw [← same, own member]
    exact List.lookup_isSome_iff.mpr ⟨entry, member, BEq.refl entry.1⟩

theorem defaultRegistry_settled : defaultConfig.registry.Settled :=
  settled_of_entries (by decide +kernel)

section Requests
variable {config : PlaneConfig}

/-- A name of a request selects a canonical key for an entity type. -/
def Selects (config : PlaneConfig) (entityType name key : String) : Prop :=
  if isPattern name = true then
    ∃ definition ∈ config.registry.list, definition.key = key ∧
      entityType ∈ definition.entityTypes ∧ fnmatchcase key name = true
  else ∃ definition, config.registry.resolve name = some definition ∧ definition.key = key ∧
    entityType ∈ definition.entityTypes

/-- The code expands each name to the keys that it selects. -/
theorem selects_iff (settled : config.registry.Settled) {entityType name key : String} :
    (∃ keys, applicableKeys config entityType (canonicalPattern config name) = some keys ∧
      key ∈ keys) ↔ Selects config entityType name key := by
  cases pattern : isPattern name with
  | true =>
      simp only [applicableKeys, canonicalPattern, Selects, pattern, if_true, Bool.not_true,
        Bool.false_eq_true, if_false, Option.some.injEq, exists_eq_left', List.mem_map,
        List.mem_filter, Bool.and_eq_true, decide_eq_true_eq]
      constructor
      · rintro ⟨definition, ⟨listed, typed, matched⟩, same⟩
        exact ⟨definition, listed, same, typed, same ▸ matched⟩
      · rintro ⟨definition, listed, same, typed, matched⟩
        exact ⟨definition, ⟨listed, typed, same ▸ matched⟩, same⟩
  | false =>
      cases resolved : config.registry.resolve name with
      | none =>
          simp [applicableKeys, canonicalPattern, Selects, pattern, resolved]
      | some definition =>
          obtain ⟨again, plain⟩ := settled.resolves name definition resolved
          by_cases typed : entityType ∈ definition.entityTypes
          · simp [applicableKeys, canonicalPattern, Selects, pattern, resolved, again, plain,
              typed, eq_comm]
          · simp [applicableKeys, canonicalPattern, Selects, pattern, resolved, again, plain,
              typed]

/-- An exact name without a definition is unknown. -/
def Unknown (config : PlaneConfig) (name : String) : Prop :=
  isPattern name = false ∧ config.registry.resolve name = none

theorem unknown_iff (settled : config.registry.Settled) {entityType name : String} :
    applicableKeys config entityType (canonicalPattern config name) = none ↔
      Unknown config name := by
  cases pattern : isPattern name with
  | true => simp [applicableKeys, canonicalPattern, Unknown, pattern]
  | false =>
      cases resolved : config.registry.resolve name with
      | none => simp [applicableKeys, canonicalPattern, Unknown, pattern, resolved]
      | some definition =>
          obtain ⟨again, plain⟩ := settled.resolves name definition resolved
          simp [applicableKeys, canonicalPattern, Unknown, pattern, resolved, again, plain]

theorem canonicalPattern_of_unknown {name : String} (unknown : Unknown config name) :
    canonicalPattern config name = name := by
  simp [canonicalPattern, unknown.1, unknown.2]

/-- A request names a registered entity and a key that applies to it. -/
def Requested (config : PlaneConfig) (plane : InMemoryStatePlane) (request : SnapshotRequest)
    (pair : EntityStateKey) : Prop :=
  pair.1 ∈ request.entities ∧ ∃ entity, plane.entities.lookup pair.1 = some entity ∧
    ∃ name ∈ request.keys, Selects config entity.entityType name pair.2

end Requests

section Findings
variable {config : PlaneConfig} {plane : InMemoryStatePlane} {request : SnapshotRequest}
  {now : Int}

/-- The findings of a request belong to its pairs, to its unregistered entities, and to its unknown
names. -/
def Found (config : PlaneConfig) (plane : InMemoryStatePlane) (now : Int)
    (request : SnapshotRequest) (finding : Finding) : Prop :=
  (∃ entityRef ∈ request.entities, plane.entities.lookup entityRef = none ∧
    finding = .missing entityRef) ∨
  (∃ entityRef ∈ request.entities, (plane.entities.lookup entityRef).isSome = true ∧
    ∃ name ∈ request.keys, Unknown config name ∧ finding = .missing (identityOf entityRef name)) ∨
  ∃ pair, Requested config plane request pair ∧
    findKey plane now request pair.1 pair.2 = .ok finding

theorem mem_findPattern_iff (settled : config.registry.Settled) {entityRef name : String}
    {entity : GraphEntity} {findings : List Finding}
    (returned : findPattern config plane now request entityRef entity
      (canonicalPattern config name) = .ok findings) (finding : Finding) :
    finding ∈ findings ↔
      (Unknown config name ∧ finding = .missing (identityOf entityRef name)) ∨
      ∃ key, Selects config entity.entityType name key ∧
        findKey plane now request entityRef key = .ok finding := by
  unfold findPattern at returned
  cases expanded : applicableKeys config entity.entityType (canonicalPattern config name) with
  | none =>
      have unknown := (unknown_iff settled).mp expanded
      have none_selected : ∀ key, ¬ Selects config entity.entityType name key := by
        intro key selected
        obtain ⟨keys, found, _⟩ := (selects_iff settled).mpr selected
        cases expanded.symm.trans found
      rw [expanded] at returned
      cases returned
      rw [canonicalPattern_of_unknown unknown]
      simp [unknown, none_selected]
  | some keys =>
      have known : ¬ Unknown config name := by
        intro unknown
        cases expanded.symm.trans ((unknown_iff settled).mpr unknown)
      rw [expanded] at returned
      constructor
      · intro member
        obtain ⟨key, listed, answered⟩ := mem_of_mapM returned member
        exact Or.inr ⟨key, (selects_iff settled).mp ⟨keys, expanded, listed⟩, answered⟩
      · rintro (⟨unknown, _⟩ | ⟨key, selected, answered⟩)
        · exact absurd unknown known
        · obtain ⟨others, found, listed⟩ := (selects_iff settled).mpr selected
          cases expanded.symm.trans found
          obtain ⟨result, inside, same⟩ := answer_of_mapM returned listed
          cases answered.symm.trans same
          exact inside

/-- The findings of a snapshot are exactly those of its request. -/
theorem mem_findAll_iff (settled : config.registry.Settled) {findings : List Finding}
    (returned : findAll config plane now request = .ok findings) (finding : Finding) :
    finding ∈ findings ↔ Found config plane now request finding := by
  obtain ⟨groups, answered, final⟩ := except_bind_ok returned
  cases final
  rw [List.mem_flatten]
  constructor
  · rintro ⟨group, listed, inside⟩
    obtain ⟨entityRef, requested, found⟩ := mem_of_mapM answered listed
    rw [mem_ordered] at requested
    unfold findEntity at found
    cases stored : plane.entities.lookup entityRef with
    | none =>
        rw [stored] at found
        cases found
        exact Or.inl ⟨entityRef, requested, stored, List.mem_singleton.mp inside⟩
    | some entity =>
        rw [stored] at found
        obtain ⟨parts, searched, joined⟩ := except_bind_ok found
        cases joined
        obtain ⟨part, partListed, partInside⟩ := List.mem_flatten.mp inside
        obtain ⟨pattern, patternListed, partFound⟩ := mem_of_mapM searched partListed
        rw [mem_ordered] at patternListed
        obtain ⟨name, named, rfl⟩ := List.mem_map.mp patternListed
        rcases (mem_findPattern_iff settled partFound finding).mp partInside with
          ⟨unknown, same⟩ | ⟨key, selected, same⟩
        · exact Or.inr (Or.inl ⟨entityRef, requested, by rw [stored]; rfl, name, named, unknown,
            same⟩)
        · exact Or.inr (Or.inr ⟨(entityRef, key), ⟨requested, entity, stored, name, named,
            selected⟩, same⟩)
  · have groupOf {entityRef : String} (requested : entityRef ∈ request.entities) :
        ∃ group ∈ groups, findEntity config plane now request
          (request.keys.map (canonicalPattern config)).reverse.dedup.reverse entityRef =
            .ok group := answer_of_mapM answered (mem_ordered.mpr requested)
    have partOf {entityRef name : String} {entity : GraphEntity}
        (requested : entityRef ∈ request.entities) (named : name ∈ request.keys)
        (stored : plane.entities.lookup entityRef = some entity)
        (expected : (Unknown config name ∧ finding = .missing (identityOf entityRef name)) ∨
          ∃ key, Selects config entity.entityType name key ∧
            findKey plane now request entityRef key = .ok finding) :
        ∃ group ∈ groups, finding ∈ group := by
      obtain ⟨group, listed, found⟩ := groupOf requested
      unfold findEntity at found
      rw [stored] at found
      obtain ⟨parts, searched, joined⟩ := except_bind_ok found
      cases joined
      have canonical : canonicalPattern config name ∈
          (request.keys.map (canonicalPattern config)).reverse.dedup.reverse :=
        mem_ordered.mpr (List.mem_map_of_mem named)
      obtain ⟨part, partListed, partFound⟩ := answer_of_mapM searched canonical
      exact ⟨_, listed, List.mem_flatten.mpr ⟨part, partListed,
        (mem_findPattern_iff settled partFound finding).mpr expected⟩⟩
    rintro (⟨entityRef, requested, absent, same⟩ | ⟨entityRef, requested, present, name, named,
      unknown, same⟩ | ⟨pair, ⟨requested, entity, stored, name, named, selected⟩, same⟩)
    · obtain ⟨group, listed, found⟩ := groupOf requested
      unfold findEntity at found
      rw [absent] at found
      cases found
      exact ⟨_, listed, List.mem_singleton.mpr same⟩
    · obtain ⟨entity, stored⟩ := Option.isSome_iff_exists.mp present
      exact partOf requested named stored (Or.inl ⟨unknown, same⟩)
    · exact partOf requested named stored (Or.inr ⟨pair.2, selected, same⟩)

/-- The findings return exactly when every requested pair has one. -/
theorem findAll_returns_iff (settled : config.registry.Settled) :
    (∃ findings, findAll config plane now request = .ok findings) ↔
      ∀ pair, Requested config plane request pair →
        ∃ finding, findKey plane now request pair.1 pair.2 = .ok finding := by
  constructor
  · rintro ⟨findings, returned⟩ pair ⟨requested, entity, stored, name, named, selected⟩
    obtain ⟨groups, answered, _⟩ := except_bind_ok returned
    obtain ⟨group, _, found⟩ := answer_of_mapM answered (mem_ordered.mpr requested)
    unfold findEntity at found
    rw [stored] at found
    obtain ⟨parts, searched, _⟩ := except_bind_ok found
    obtain ⟨part, _, partFound⟩ := answer_of_mapM searched
      (mem_ordered.mpr (List.mem_map_of_mem named))
    obtain ⟨keys, expanded, listed⟩ := (selects_iff settled).mpr selected
    unfold findPattern at partFound
    rw [expanded] at partFound
    obtain ⟨finding, _, here⟩ := answer_of_mapM partFound listed
    exact ⟨finding, here⟩
  · intro each
    apply findAll_returns_of
    intro entityRef requested entity stored name named keys expanded key listed
    exact each (entityRef, key) ⟨requested, entity, stored, name, named,
      (selects_iff settled).mp ⟨keys, expanded, listed⟩⟩

end Findings

end StateFlow.Plane
