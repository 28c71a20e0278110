import StateFlow.Construction.Plane.Reads
import StateFlow.Proof.Plane.Entities
import StateFlow.Proof.Plane.Snapshots

namespace StateFlow.Plane
open Python Table Effect

/-- Each definition is stored once under its own key and each alias has a definition. -/
structure CanonicalKeyRegistry.Built (registry : CanonicalKeyRegistry) : Prop where
  keyed : ∀ entry ∈ registry.definitions, entry.2.key = entry.1
  distinct : (registry.definitions.map Prod.fst).Nodup
  owned : ∀ name owner, registry.aliases.lookup name = some owner →
    (registry.definitions.lookup owner).isSome = true

section Registry
variable {registry : CanonicalKeyRegistry}

/-- New aliases belong to the definition that brings them. -/
theorem lookup_aliases {names : List String} {key name owner : String}
    {table : List (String × String)}
    (found : (names.foldl (fun table name => assign name key table) table).lookup name =
      some owner) : owner = key ∨ table.lookup name = some owner := by
  induction names generalizing table with
  | nil => exact .inr found
  | cons first rest ih =>
      rcases ih found with same | earlier
      · exact .inl same
      · rw [lookup_assign] at earlier
        split at earlier
        · exact .inl (Option.some.inj earlier).symm
        · exact .inr earlier

theorem register_built {next : CanonicalKeyRegistry} {definition : CanonicalKey} {replace : Bool}
    (built : registry.Built) (registered : registry.register definition replace = .ok next) :
    next.Built := by
  unfold CanonicalKeyRegistry.register at registered
  split at registered
  · cases registered
  · split at registered
    · cases registered
    · cases registered
      constructor
      · intro entry member
        rcases mem_assign member with same | earlier
        · rw [same]
        · exact built.keyed entry earlier
      · exact assign_keys_nodup built.distinct
      · intro name owner found
        change (List.lookup owner (assign definition.key definition _)).isSome = true
        rw [lookup_assign]
        split
        · rfl
        · rename_i other
          rcases lookup_aliases found with same | earlier
          · exact absurd same other
          · exact built.owned name owner earlier

/-- A resolved definition is stored under its own key. -/
theorem CanonicalKeyRegistry.Built.stored (built : registry.Built) {name : String}
    {definition : CanonicalKey} (resolved : registry.resolve name = some definition) :
    registry.definitions.lookup definition.key = some definition := by
  have found : registry.definitions.lookup (getD registry.aliases name name) = some definition :=
    resolved
  have same := built.keyed _ (mem_of_lookup found)
  simp only at same
  rw [same]
  exact found

/-- A canonical key resolves to its definition exactly when it is no alias of another key. -/
theorem CanonicalKeyRegistry.Built.resolve_key_iff (built : registry.Built)
    {definition : CanonicalKey}
    (stored : registry.definitions.lookup definition.key = some definition) :
    ((registry.resolve definition.key).map CanonicalKey.key = some definition.key) ↔
      ∀ owner, registry.aliases.lookup definition.key = some owner → owner = definition.key := by
  unfold CanonicalKeyRegistry.resolve getD
  cases aliased : registry.aliases.lookup definition.key with
  | none => simp [stored]
  | some owner =>
      obtain ⟨other, found⟩ := Option.isSome_iff_exists.mp (built.owned _ owner aliased)
      have named := built.keyed _ (mem_of_lookup found)
      simp only at named
      simp [found, named]

/-- The listed definitions are the current ones. -/
theorem CanonicalKeyRegistry.Built.mem_list_iff (built : registry.Built)
    {definition : CanonicalKey} :
    definition ∈ registry.list ↔ definition.deprecated = false ∧
      registry.definitions.lookup definition.key = some definition := by
  unfold CanonicalKeyRegistry.list
  rw [List.mem_insertionSort, List.mem_filter, List.mem_map]
  constructor
  · rintro ⟨⟨entry, member, rfl⟩, current⟩
    refine ⟨by simpa using current, ?_⟩
    rw [built.keyed entry member]
    exact lookup_of_mem built.distinct member
  · rintro ⟨current, stored⟩
    exact ⟨⟨_, mem_of_lookup stored, rfl⟩, by simpa using current⟩

end Registry

section Read
variable {config : PlaneConfig} {plane : InMemoryStatePlane} {now : Int} {unique : String}
  {entityRef name : String} {entity : GraphEntity}

/-- A read of one name of one entity. -/
def readOf (entityRef name : String) : SnapshotRequest where
  entities := [entityRef]
  keys := [name]
  includeRelations := false

/-- The keys that a read of one name expands to. -/
def readKeys (config : PlaneConfig) (entityType name : String) : List String :=
  (applicableKeys config entityType (canonicalPattern config name)).getD []

/-- What a read without limits finds under one key. -/
def readFinding (plane : InMemoryStatePlane) (now : Int) (entityRef key : String) : Finding :=
  match plane.state.lookup (entityRef, key) with
  | some value =>
      if value.isFresh now none then .selected value else .stale (identityOf entityRef key)
  | none => .missing (identityOf entityRef key)

theorem findKey_read (key : String) :
    findKey plane now (readOf entityRef name) entityRef key =
      .ok (readFinding plane now entityRef key) := by
  unfold findKey readFinding
  cases plane.state.lookup (entityRef, key) with
  | none => rfl
  | some value =>
      have enough : ¬ value.authority.rank < (readOf entityRef name).minAuthority.rank :=
        Nat.not_lt_zero _
      have unlimited : maxAgeFor value.key (readOf entityRef name).maxAgeMs = .ok none := rfl
      simp only [unlimited, bind, Except.bind, pure, Except.pure]
      rw [if_neg enough]
      by_cases fresh : value.isFresh now none
      · simp [fresh]
      · simp [fresh]

/-- A read selects the fresh values. -/
theorem readFinding_selected {key : String} {value : StateValue} :
    readFinding plane now entityRef key = .selected value ↔
      plane.state.lookup (entityRef, key) = some value ∧ value.isFresh now none = true := by
  unfold readFinding
  cases plane.state.lookup (entityRef, key) with
  | none => simp
  | some other =>
      by_cases fresh : other.isFresh now none
      · simp only [fresh, if_true, Finding.selected.injEq, Option.some.injEq]
        exact ⟨fun same => ⟨same, same ▸ fresh⟩, fun found => found.1⟩
      · simp only [fresh, if_false, reduceCtorEq, Option.some.injEq, false_iff]
        rintro ⟨same, other⟩
        exact fresh (same ▸ other)

theorem mapM_findKey (keys : List String) :
    keys.mapM (findKey plane now (readOf entityRef name) entityRef) =
      .ok (keys.map (readFinding plane now entityRef)) := by
  induction keys with
  | nil => rfl
  | cons key rest ih =>
      rw [List.mapM_cons, findKey_read, ih]
      rfl

/-- The selected values of a read are the fresh ones under its keys. -/
theorem findAll_read (known : plane.entities.lookup entityRef = some entity) :
    ∃ findings, findAll config plane now (readOf entityRef name) = .ok findings ∧
      ∀ value, .selected value ∈ findings ↔ ∃ key ∈ readKeys config entity.entityType name,
        plane.state.lookup (entityRef, key) = some value ∧ value.isFresh now none = true := by
  have search (findings : List Finding)
      (found : findPattern config plane now (readOf entityRef name) entityRef entity
        (canonicalPattern config name) = .ok findings) :
      findAll config plane now (readOf entityRef name) = .ok findings := by
    have one (text : String) : [text].dedup = [text] := (List.nodup_singleton text).dedup
    have entities : (readOf entityRef name).entities = [entityRef] := rfl
    have keys : (readOf entityRef name).keys = [name] := rfl
    simp only [findAll, entities, keys, List.map_cons, List.map_nil, List.reverse_singleton, one,
      List.mapM_cons, List.mapM_nil, findEntity, known, found]
    simp [bind, Except.bind, pure, Except.pure]
  unfold findPattern at search
  unfold readKeys
  cases expanded : applicableKeys config entity.entityType (canonicalPattern config name) with
  | none =>
      simp only [expanded] at search
      exact ⟨_, search _ rfl, by simp⟩
  | some keys =>
      simp only [expanded, mapM_findKey] at search
      refine ⟨_, search _ rfl, fun value => ?_⟩
      rw [List.mem_map]
      simp only [readFinding_selected, Option.getD_some]

/-- A read of a registered entity returns its fresh values. -/
theorem getState_run (keyed : Keyed plane)
    (known : plane.entities.lookup entityRef = some entity) :
    ∃ values last, getState config now unique { entityRef := entityRef, keys := [name] } plane =
        .ok values last ∧ values.Nodup ∧
      ∀ value, value ∈ values ↔ ∃ key ∈ readKeys config entity.entityType name,
        plane.state.lookup (entityRef, key) = some value ∧ value.isFresh now none = true := by
  obtain ⟨findings, found, selects⟩ := @findAll_read config plane now entityRef name entity known
  obtain ⟨snapshot, taken⟩ := takeSnapshot_returns_found.mpr
    ⟨⟨findings, found⟩, fun included => by cases included⟩
  obtain ⟨others, again, values, _⟩ := takeSnapshot_ok taken
  cases found.symm.trans again
  refine ⟨snapshot.values, keepSnapshot config plane snapshot, ?_, ?_, ?_⟩
  · have ran := getSnapshot_run config now unique (readOf entityRef name) plane
    rw [taken] at ran
    unfold getState
    exact bind_of_ok ran
  · exact values.nodup_iff.mpr (List.Nodup.of_map _ distinctValues_nodup)
  · intro value
    rw [values.mem_iff, ← selects, ← mem_selected]
    constructor
    · exact mem_distinctValues
    · intro member
      obtain ⟨other, kept, same⟩ := distinctValues_covers member
      obtain ⟨key, _, stored, _⟩ := (selects other).mp (mem_selected.mp (mem_distinctValues kept))
      obtain ⟨own, _, here, _⟩ := (selects value).mp (mem_selected.mp member)
      rw [keyed.pair stored, keyed.pair here] at same
      rw [same] at stored
      cases stored.symm.trans here
      exact kept

end Read

section Events
variable {config : PlaneConfig} {plane : InMemoryStatePlane}

/-- The registry is built by registrations and the plane stores values under their own pairs. -/
def Sound (world : PlaneConfig × InMemoryStatePlane) : Prop :=
  world.1.registry.Built ∧ Keyed world.2

theorem event_sound {world : PlaneConfig × InMemoryStatePlane} (event : RegistryEvent)
    (sound : Sound world) : Sound (event.apply world) := by
  obtain ⟨config, plane⟩ := world
  cases event with
  | register definition replace =>
      unfold RegistryEvent.apply
      cases registered : config.registry.register definition replace with
      | error exception => simpa [registered] using sound
      | ok registry =>
          simp only [registered]
          exact ⟨register_built sound.1 registered, sound.2⟩
  | operate operation =>
      exact ⟨sound.1, (operation_chained operation plane).keeps step_keyed sound.2⟩

theorem runRegistered_sound (limits : PlaneConfig) (events : List RegistryEvent) :
    Sound (runRegistered limits events) := by
  have start : Sound ({ limits with registry := {} }, {}) :=
    ⟨⟨fun _ member => absurd member List.not_mem_nil, List.nodup_nil, fun _ _ found => by cases found⟩,
      fun _ member => absurd member List.not_mem_nil⟩
  unfold runRegistered
  induction events using List.reverseRecOn with
  | nil => exact start
  | append_singleton early event ih =>
      rw [List.foldl_append]
      exact event_sound event ih

/-- An accepted update stores its value under the key that its name resolves to. -/
theorem publishState_accepted {update : StateUpdate} {result : WriteResult}
    {next : InMemoryStatePlane} (ran : publishState config [update] plane = .ok [result] next)
    (accepted : result.accepted = true) :
    ∃ definition entity, config.registry.resolve update.key = some definition ∧
      plane.entities.lookup update.entityRef = some entity ∧
      entity.entityType ∈ definition.entityTypes ∧ result.key = definition.key ∧
      next = acceptState config plane update
        (storedValue update definition (plane.heldState update definition.key)) := by
  unfold publishState at ran
  rw [List.mapM_cons] at ran
  obtain ⟨first, middle, here, rest⟩ := bind_ok ran
  obtain ⟨none, last, done, same⟩ := bind_ok rest
  cases done
  cases same
  rw [publishOne_run] at here
  rcases judged : judgeState config plane update with exception | (rejected | value)
  all_goals rw [judged] at here
  · cases here
  · cases here
    exact absurd ((judgeState_rejects judged).symm.trans accepted) (by decide)
  · cases here
    obtain ⟨definition, admitted, stored⟩ := judgeState_accepts judged
    obtain ⟨entity, known, typed⟩ := admitted.registered
    exact ⟨definition, entity, admitted.resolved, known, typed, by rw [stored]; rfl,
      by rw [stored]⟩

/-- A canonical key reads itself. A plain key must not be an alias of another key. A key with
pattern characters must be current, match itself, and select no other fresh value. -/
def ReadsBack (config : PlaneConfig) (plane : InMemoryStatePlane) (now : Int)
    (entityRef name : String) : Prop :=
  ∃ definition, config.registry.resolve name = some definition ∧
    if isPattern definition.key = true then
      definition.deprecated = false ∧ fnmatchcase definition.key definition.key = true ∧
      ∀ entity ∈ plane.entities.lookup entityRef, ∀ other ∈ config.registry.list,
        other.key ≠ definition.key → entity.entityType ∈ other.entityTypes →
        fnmatchcase other.key definition.key = true →
        ∀ value ∈ plane.state.lookup (entityRef, other.key), value.isFresh now none = false
    else
      ∀ owner, config.registry.aliases.lookup definition.key = some owner →
        owner = definition.key

/-- The keys that a read of a resolved name expands to. -/
theorem mem_readKeys {entityType name key : String} {definition : CanonicalKey}
    (plain : isPattern name = false) (resolved : config.registry.resolve name = some definition) :
    key ∈ readKeys config entityType name ↔
      if isPattern definition.key = true then
        ∃ other ∈ config.registry.list, other.key = key ∧ entityType ∈ other.entityTypes ∧
          fnmatchcase key definition.key = true
      else ∃ other, config.registry.resolve definition.key = some other ∧ other.key = key ∧
        entityType ∈ other.entityTypes := by
  have canonical : canonicalPattern config name = definition.key := by
    simp [canonicalPattern, plain, resolved]
  unfold readKeys applicableKeys
  rw [canonical]
  by_cases pattern : isPattern definition.key = true
  · simp only [pattern, Bool.not_true, Bool.false_eq_true, if_false, if_true, Option.getD_some,
      List.mem_map, List.mem_filter, Bool.and_eq_true, decide_eq_true_eq]
    constructor
    · rintro ⟨other, ⟨listed, typed, matched⟩, same⟩
      exact ⟨other, listed, same, typed, same ▸ matched⟩
    · rintro ⟨other, listed, same, typed, matched⟩
      exact ⟨other, ⟨listed, typed, same ▸ matched⟩, same⟩
  · have exact : isPattern definition.key = false := Bool.eq_false_iff.mpr pattern
    cases again : config.registry.resolve definition.key with
    | none => simp [exact]
    | some other =>
        by_cases typed : entityType ∈ other.entityTypes
        · simp [exact, typed, eq_comm]
        · simp [exact, typed]

/-- A name reads back when its canonical key is among its read keys and no other read key holds a
fresh value. -/
theorem readsBack_iff (built : config.registry.Built) {now : Int} {entityRef name : String}
    {entity : GraphEntity} {definition : CanonicalKey} (plain : isPattern name = false)
    (resolved : config.registry.resolve name = some definition)
    (known : plane.entities.lookup entityRef = some entity)
    (typed : entity.entityType ∈ definition.entityTypes) :
    ReadsBack config plane now entityRef name ↔
      definition.key ∈ readKeys config entity.entityType name ∧
      ∀ key ∈ readKeys config entity.entityType name, key ≠ definition.key →
        ∀ value ∈ plane.state.lookup (entityRef, key), value.isFresh now none = false := by
  have own := built.stored resolved
  unfold ReadsBack
  simp only [resolved, Option.some.injEq, exists_eq_left', mem_readKeys plain resolved, known,
    Option.mem_def, forall_eq']
  by_cases pattern : isPattern definition.key = true
  · simp only [pattern, if_true]
    constructor
    · rintro ⟨current, matched, others⟩
      refine ⟨⟨definition, built.mem_list_iff.mpr ⟨current, own⟩, rfl, typed, matched⟩, ?_⟩
      rintro key ⟨other, listed, rfl, suits, covered⟩ different
      exact others other listed different suits covered
    · rintro ⟨⟨other, listed, same, suits, matched⟩, others⟩
      obtain ⟨current, stored⟩ := built.mem_list_iff.mp listed
      rw [same] at stored
      cases own.symm.trans stored
      refine ⟨current, matched, ?_⟩
      intro other listed different suits covered
      exact others other.key ⟨other, listed, rfl, suits, covered⟩ different
  · simp only [if_neg pattern]
    rw [← built.resolve_key_iff own]
    constructor
    · intro same
      obtain ⟨other, again, named⟩ := Option.map_eq_some_iff.mp same
      have found := built.stored again
      rw [named] at found
      cases own.symm.trans found
      refine ⟨⟨definition, again, rfl, typed⟩, ?_⟩
      rintro key ⟨other, later, rfl, _⟩ different
      cases again.symm.trans later
      exact absurd rfl different
    · rintro ⟨⟨other, again, named, _⟩, _⟩
      rw [again, Option.map_some, named]

/-- A list without repetition has one member only when it is a singleton. -/
theorem eq_singleton_iff {A : Type} {items : List A} (distinct : items.Nodup) (item : A) :
    items = [item] ↔ ∀ other, other ∈ items ↔ other = item := by
  constructor
  · rintro rfl other
    exact List.mem_singleton
  · intro members
    refine List.perm_singleton.mp ?_
    rw [List.perm_ext_iff_of_nodup distinct (List.nodup_singleton item)]
    intro other
    rw [members other, List.mem_singleton]

/-- A fresh value that was accepted under a name is read back under that name, exactly when the
canonical key of the name reads itself. -/
theorem getState_reads_iff (limits : PlaneConfig) (events : List RegistryEvent)
    (update : StateUpdate) (plain : isPattern update.key = false) {result : WriteResult}
    {next : InMemoryStatePlane} {value : StateValue} {now : Int} (unique : String)
    (published : publishState (runRegistered limits events).1 [update]
      (runRegistered limits events).2 = .ok [result] next)
    (accepted : result.accepted = true)
    (stored : next.state.lookup (update.entityRef, result.key) = some value)
    (fresh : value.isFresh now none = true) :
    (∃ last, getState (runRegistered limits events).1 now unique
        { entityRef := update.entityRef, keys := [update.key] } next = .ok [value] last) ↔
      ReadsBack (runRegistered limits events).1 (runRegistered limits events).2 now
        update.entityRef update.key := by
  obtain ⟨built, keyed⟩ := runRegistered_sound limits events
  generalize (runRegistered limits events).1 = config at *
  generalize (runRegistered limits events).2 = plane at *
  obtain ⟨definition, entity, resolved, known, typed, named, same⟩ :=
    publishState_accepted published accepted
  have after : Keyed next := by
    have kept := (@operation_chained config (.publishState [update]) plane).keeps
      step_keyed keyed
    simpa [Operation.apply, published] using kept
  have still : next.entities.lookup update.entityRef = some entity := by
    rw [same, acceptState_entities]
    exact known
  have others {key : String} (different : key ≠ definition.key) :
      next.state.lookup (update.entityRef, key) = plane.state.lookup (update.entityRef, key) := by
    rw [same, acceptState_state]
    exact lookup_assign_other (fun equal => different (Prod.mk.inj equal).2) _ _
  rw [named] at stored
  obtain ⟨values, last, ran, distinct, members⟩ :=
    @getState_run config next now unique update.entityRef update.key entity after still
  rw [readsBack_iff built plain resolved known typed]
  have alone : (∃ last, getState config now unique
      { entityRef := update.entityRef, keys := [update.key] } next = .ok [value] last) ↔
      values = [value] := by
    rw [ran]
    exact ⟨fun ⟨_, equal⟩ => by cases equal; rfl, fun equal => ⟨last, by rw [equal]⟩⟩
  rw [alone, eq_singleton_iff distinct]
  constructor
  · intro only
    constructor
    · obtain ⟨key, listed, found, _⟩ := (members value).mp ((only value).mpr rfl)
      have pairs := (after.pair found).symm.trans (after.pair stored)
      rw [← (Prod.mk.inj pairs).2]
      exact listed
    · intro key listed different other found
      by_contra expired
      rw [← others different] at found
      have member := (members other).mpr ⟨key, listed, found, by simpa using expired⟩
      rw [(only other).mp member] at found
      exact different (Prod.mk.inj ((after.pair found).symm.trans (after.pair stored))).2
  · rintro ⟨own, rest⟩ other
    rw [members]
    constructor
    · rintro ⟨key, listed, found, other_fresh⟩
      by_cases here : key = definition.key
      · rw [here] at found
        exact Option.some.inj (found.symm.trans stored)
      · rw [others here] at found
        have expired := rest key listed here other found
        exact absurd (other_fresh.symm.trans expired) (by decide)
    · rintro rfl
      exact ⟨definition.key, own, stored, fresh⟩

end Events

/-- A queue depth with a short name. -/
def depthKey : CanonicalKey where
  key := "queue.depth"
  entityTypes := ["component"]
  valueType := "int"
  aliases := ["depth"]

/-- A later key takes the name of the queue depth as its alias. -/
def lengthKey : CanonicalKey where
  key := "queue.length"
  entityTypes := ["component"]
  valueType := "int"
  aliases := ["queue.depth"]

/-- Some keys are registered before a runtime is. -/
def queueWorld (keys : List CanonicalKey) : List RegistryEvent :=
  keys.map (fun key => .register key false) ++ [.operate (.upsertEntity 0 queueEntity)]

def depthWrite : StateUpdate := { queueWrite 1 0 0 with key := "depth" }

/-- The value that the write of the depth stores. -/
def depthValue : StateValue := storedValue depthWrite depthKey none

/-- The plane after the write of the depth. -/
def depthPlane (keys : List CanonicalKey) : InMemoryStatePlane :=
  finalState (publishState (runRegistered defaultConfig (queueWorld keys)).1 [depthWrite]
    (runRegistered defaultConfig (queueWorld keys)).2)

theorem getState_reads_iff_of_depth :
    ∃ last, getState (runRegistered defaultConfig (queueWorld [depthKey])).1 0 ""
      { entityRef := "component/component/r0", keys := ["depth"] } (depthPlane [depthKey]) =
        .ok [depthValue] last :=
  (@getState_reads_iff defaultConfig (queueWorld [depthKey]) depthWrite (by decide)
    (acceptedState depthValue) (depthPlane [depthKey]) depthValue 0 "" rfl rfl rfl
    (by decide)).mpr ⟨depthKey, rfl, by
      rw [if_neg (by decide)]
      intro owner found
      have unaliased : (runRegistered defaultConfig
        (queueWorld [depthKey])).1.registry.aliases.lookup depthKey.key = none := by decide
      cases unaliased.symm.trans found⟩

/-- The value of a canonical key that is an alias of another key is not read back. -/
theorem getState_not_reads_shadowed :
    ¬ ∀ result next value,
      publishState (runRegistered defaultConfig (queueWorld [depthKey, lengthKey])).1 [depthWrite]
        (runRegistered defaultConfig (queueWorld [depthKey, lengthKey])).2 = .ok [result] next →
      result.accepted = true →
      next.state.lookup (depthWrite.entityRef, result.key) = some value →
      value.isFresh 0 none = true →
      ∃ last, getState (runRegistered defaultConfig (queueWorld [depthKey, lengthKey])).1 0 ""
        { entityRef := depthWrite.entityRef, keys := [depthWrite.key] } next = .ok [value] last := by
  intro reads
  obtain ⟨last, ran⟩ := reads (acceptedState depthValue) (depthPlane [depthKey, lengthKey])
    depthValue rfl rfl rfl (by decide)
  have lost : answersWith List.isEmpty
      (getState (runRegistered defaultConfig (queueWorld [depthKey, lengthKey])).1 0 ""
        { entityRef := depthWrite.entityRef, keys := [depthWrite.key] }
        (depthPlane [depthKey, lengthKey])) = true := by decide +kernel
  rw [ran] at lost
  cases lost

end StateFlow.Plane
