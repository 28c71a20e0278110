import StateFlow.Library.Ascii
import StateFlow.Proof.Adapters.Publish

namespace StateFlow.Adapters
open Python Table Effect Plane

section Observation
variable (observation : RuntimeObservation)

/-- The keys of an observation differ with their suffixes. -/
theorem key_apart {first second : String} (different : first ≠ second) :
    observation.key first = "" ∨ observation.key first ≠ observation.key second := by
  unfold RuntimeObservation.key
  by_cases unnamed : observation.observationId = ""
  · simp [unnamed]
  · simp [unnamed, different]

/-- A table of optional values keeps the order of its keys. -/
theorem keys_sublist (entries : List (String × Option Value)) :
    ((entries.filterMap fun entry => entry.2.map fun value => (entry.1, value)).map
      Prod.fst).Sublist (entries.map Prod.fst) := by
  induction entries with
  | nil => exact List.Sublist.refl _
  | cons entry rest ih =>
      obtain ⟨key, content⟩ := entry
      cases content with
      | none => exact ih.cons key
      | some value => exact ih.cons_cons key

theorem stateValues_sublist :
    (observation.stateValues.map Prod.fst).Sublist runtimeStateKeys :=
  keys_sublist _

theorem stateValues_nodup : (observation.stateValues.map Prod.fst).Nodup :=
  (stateValues_sublist observation).nodup (by decide)

theorem stateValues_keys {entry : String × Value} (member : entry ∈ observation.stateValues) :
    entry.1 ∈ runtimeStateKeys :=
  (stateValues_sublist observation).subset (List.mem_map_of_mem member)

end Observation

section Registry
variable {registry : CanonicalKeyRegistry}

/-- The declared types of the runtime keys. -/
def runtimeTypes : List (String × String) :=
  [("runtime.queue_depth", "int"), ("runtime.running", "int"), ("runtime.ttft_p95", "float"),
    ("runtime.tpot_p95", "float"), ("runtime.prefill_tps", "float"),
    ("runtime.decode_tps", "float"), ("runtime.kv_usage", "float"), ("runtime.health", "enum")]

/-- A test of a registry. A failed construction does not pass it. -/
def passesRegistry (test : CanonicalKeyRegistry → Bool) :
    Except Exception CanonicalKeyRegistry → Bool
  | .ok registry => test registry
  | .error _ => false

/-- The default registry resolves each key of a runtime to itself. -/
theorem resolve_runtime (defaults : defaultKeyRegistry = .ok registry) {key kind : String}
    (runtime : (key, kind) ∈ runtimeTypes) :
    ∃ definition, registry.resolve key = some definition ∧ definition.key = key ∧
      definition.valueType = kind ∧ "component" ∈ definition.entityTypes := by
  have checked : passesRegistry (fun registry => runtimeTypes.all fun entry =>
      (registry.resolve entry.1).any fun definition => definition.key = entry.1
        ∧ definition.valueType = entry.2 ∧ "component" ∈ definition.entityTypes)
      defaultKeyRegistry = true := by decide
  rw [defaults] at checked
  have found := List.all_eq_true.mp checked _ runtime
  obtain ⟨definition, resolved, facts⟩ := (Option.any_eq_true _ _).mp found
  exact ⟨definition, resolved, of_decide_eq_true facts⟩

/-- The readiness of an instance has a key of its own. -/
theorem resolve_ready (defaults : defaultKeyRegistry = .ok registry) {definition : CanonicalKey}
    (resolved : registry.resolve "instance.ready" = some definition) :
    definition.key = "instance.ready" := by
  have checked : passesRegistry (fun registry => (registry.resolve "instance.ready").all
      fun definition => definition.key = "instance.ready") defaultKeyRegistry = true := by decide
  rw [defaults] at checked
  simp only [passesRegistry, resolved, Option.all_some, decide_eq_true_eq] at checked
  exact checked

/-- A projected value has the declared type of its key. -/
theorem stateValues_typed {observation : RuntimeObservation} {entry : String × Value}
    (member : entry ∈ observation.stateValues) :
    ∃ kind, (entry.1, kind) ∈ runtimeTypes ∧ ∀ definition : CanonicalKey,
      definition.valueType = kind → validateValue definition entry.2 = true := by
  unfold RuntimeObservation.stateValues at member
  obtain ⟨⟨key, content⟩, listed, projected⟩ := List.mem_filterMap.mp member
  obtain ⟨value, present, rfl⟩ := Option.map_eq_some_iff.mp projected
  simp only [List.mem_cons, Prod.mk.injEq, List.not_mem_nil, or_false] at listed
  have counted (content : Option Int) (value : Value)
      (present : content.map Value.int = some value) (definition : CanonicalKey)
      (kind : definition.valueType = "int") : validateValue definition value = true := by
    obtain ⟨count, _, rfl⟩ := Option.map_eq_some_iff.mp present
    simp [validateValue, kind]
  have measured (content : Option Floating) (value : Value)
      (present : content.map Floating.value = some value) (definition : CanonicalKey)
      (kind : definition.valueType = "float") : validateValue definition value = true := by
    obtain ⟨measure, _, rfl⟩ := Option.map_eq_some_iff.mp present
    rcases measure with _ | (_ | _) | _ <;> simp [validateValue, kind, Floating.value, nonFinite]
  rcases listed with ⟨rfl, rfl⟩ | ⟨rfl, rfl⟩ | ⟨rfl, rfl⟩ | ⟨rfl, rfl⟩ | ⟨rfl, rfl⟩ | ⟨rfl, rfl⟩ |
    ⟨rfl, rfl⟩ | ⟨rfl, rfl⟩
  · exact ⟨"int", by simp [runtimeTypes], counted _ value present⟩
  · exact ⟨"int", by simp [runtimeTypes], counted _ value present⟩
  · exact ⟨"float", by simp [runtimeTypes], measured _ value present⟩
  · exact ⟨"float", by simp [runtimeTypes], measured _ value present⟩
  · exact ⟨"float", by simp [runtimeTypes], measured _ value present⟩
  · exact ⟨"float", by simp [runtimeTypes], measured _ value present⟩
  · exact ⟨"float", by simp [runtimeTypes], measured _ value present⟩
  · refine ⟨"enum", by simp [runtimeTypes], fun definition kind => ?_⟩
    obtain ⟨health, _, rfl⟩ := Option.map_eq_some_iff.mp present
    simp [validateValue, kind, Value.text?]

end Registry

section Batch
variable {config : PlaneConfig} {observation : RuntimeObservation} {ref instanceRef : String}

/-- Only direct telemetry writes the values of a runtime. -/
def TelemetryOnly (plane : InMemoryStatePlane) : Prop :=
  ∀ ref key stored, key ∈ runtimeStateKeys → plane.state.lookup (ref, key) = some stored →
    stored.authority = .directTelemetry

theorem updates_cases {update : StateUpdate} (member : update ∈ observation.updates ref instanceRef) :
    (∃ entry ∈ observation.stateValues,
      update = observation.update ref entry.1 entry.2 .directTelemetry) ∨
    ∃ ready, update = observation.update instanceRef "instance.ready" (.bool ready)
      .structuredLifecycle := by
  unfold RuntimeObservation.updates at member
  rcases List.mem_append.mp member with value | ready
  · obtain ⟨entry, inside, rfl⟩ := List.mem_map.mp value
    exact Or.inl ⟨entry, inside, rfl⟩
  · cases stated : observation.ready with
    | none => simp [stated] at ready
    | some flag =>
        rw [stated] at ready
        exact Or.inr ⟨flag, List.mem_singleton.mp ready⟩

/-- The updates of an observation leave the telemetry alone. -/
theorem updates_telemetryOnly (defaults : defaultKeyRegistry = .ok config.registry)
    {update : StateUpdate} (member : update ∈ observation.updates ref instanceRef) :
    Within (Frame.keeps TelemetryOnly) (publishOne config update) := by
  intro plane
  rw [publishOne_run]
  rcases judged : judgeState config plane update with exception | (result | value)
  · exact id
  · exact id
  · intro telemetry holder key stored runtime found
    obtain ⟨definition, admitted, written⟩ := judgeState_accepts judged
    rw [finalState_ok, acceptState_state, lookup_assign] at found
    split at found
    · rename_i same
      cases found
      have named : key = definition.key := by rw [(Prod.mk.inj same).2, written]; rfl
      have authority : value.authority = update.authority := by rw [written]; rfl
      rw [authority]
      rcases updates_cases member with ⟨entry, _, rfl⟩ | ⟨ready, rfl⟩
      · rfl
      · rw [named, resolve_ready defaults admitted.resolved] at runtime
        exact absurd runtime (by decide)
    · exact telemetry holder key stored runtime found

/-- Every other update of an observation keeps the site of a projected key. -/
theorem update_site (defaults : defaultKeyRegistry = .ok config.registry) {key : String}
    (runtime : key ∈ runtimeStateKeys) {update : StateUpdate}
    (member : update ∈ observation.updates ref instanceRef) (other : update.key ≠ key) :
    Within (Frame.fixes fun plane => plane.site ref key (observation.key key))
      (publishOne config update) := by
  rcases updates_cases member with ⟨entry, inside, rfl⟩ | ⟨ready, rfl⟩
  · obtain ⟨kind, typed, _⟩ := stateValues_typed inside
    obtain ⟨definition, resolved, named, _⟩ := resolve_runtime defaults typed
    refine publishOne_site (fun found same => ?_) (key_apart observation (Ne.symm other))
    intro equal
    cases same.symm.trans resolved
    exact other ((Prod.mk.inj equal).2.trans named).symm
  · refine publishOne_site (fun found same => ?_) (key_apart observation (Ne.symm other))
    intro equal
    have ready := (Prod.mk.inj equal).2.trans (resolve_ready defaults same)
    exact absurd (ready ▸ runtime) (by decide)

/-- The lifecycle update of a runtime that reports it. -/
def readyUpdates (observation : RuntimeObservation) (instanceRef : String) : List StateUpdate :=
  match observation.ready with
  | some ready =>
      [observation.update instanceRef "instance.ready" (.bool ready) .structuredLifecycle]
  | none => []

/-- The update of a projected value stands between the updates of the other keys. -/
theorem updates_split {entry : String × Value} (member : entry ∈ observation.stateValues) :
    ∃ front back, observation.updates ref instanceRef =
        front ++ observation.update ref entry.1 entry.2 .directTelemetry :: back ∧
      ∀ update ∈ front ++ back, update ∈ observation.updates ref instanceRef ∧
        update.key ≠ entry.1 := by
  obtain ⟨front, back, split⟩ := List.append_of_mem member
  have distinct := stateValues_nodup observation
  rw [split, List.map_append, List.map_cons, List.nodup_middle, List.nodup_cons] at distinct
  let project := fun entry : String × Value =>
    observation.update ref entry.1 entry.2 .directTelemetry
  let ready := readyUpdates observation instanceRef
  have whole : observation.updates ref instanceRef =
      front.map project ++ project entry :: (back.map project ++ ready) := by
    change observation.stateValues.map project ++ ready = _
    rw [split]
    simp
  refine ⟨front.map project, back.map project ++ ready, whole, fun update inside => ?_⟩
  constructor
  · rw [whole]
    rcases List.mem_append.mp inside with early | late
    · exact List.mem_append_left _ early
    · exact List.mem_append_right _ (List.mem_cons_of_mem _ late)
  · intro same
    rw [← List.append_assoc, ← List.map_append] at inside
    rcases List.mem_append.mp inside with value | prepared
    · obtain ⟨other, present, rfl⟩ := List.mem_map.mp value
      apply distinct.1
      rw [← List.map_append, ← same]
      exact List.mem_map_of_mem present
    · have named : update.key = "instance.ready" := by
        cases stated : observation.ready with
        | none => simp [ready, readyUpdates, stated] at prepared
        | some flag =>
            simp only [ready, readyUpdates, stated, List.mem_singleton] at prepared
            rw [prepared]
            rfl
      have runtime := stateValues_keys observation member
      rw [← same, named] at runtime
      exact absurd runtime (by decide)

theorem takesEffect_of_site {before after : InMemoryStatePlane} {key name : String}
    {timestamp : Int} (same : after.site ref key name = before.site ref key name) :
    TakesEffect after ref key name timestamp ↔ TakesEffect before ref key name timestamp := by
  have values : after.state.lookup (ref, key) = before.state.lookup (ref, key) :=
    (Prod.mk.inj same).1
  have names : after.duplicate name = before.duplicate name :=
    (Prod.mk.inj (Prod.mk.inj same).2).1
  constructor
  · rintro ⟨unused, ordered⟩
    exact ⟨names ▸ unused, values ▸ ordered⟩
  · rintro ⟨unused, ordered⟩
    exact ⟨names.trans unused, fun stored found => ordered stored (values ▸ found)⟩

/-- The stored value of a projected key follows the decision about its own update. -/
theorem publishState_stored_iff (defaults : defaultKeyRegistry = .ok config.registry)
    {plane next : InMemoryStatePlane} {results : List WriteResult}
    (returned : publishState config (observation.updates ref instanceRef) plane = .ok results next)
    (registered : ∃ entity, plane.entities.lookup ref = some entity ∧
      entity.entityType = "component")
    (telemetry : TelemetryOnly plane) {entry : String × Value}
    (member : entry ∈ observation.stateValues) :
    (next.state.lookup (ref, entry.1)).map StateValue.value = some entry.2 ↔
      TakesEffect plane ref entry.1 (observation.key entry.1) observation.observedAt ∨
      (plane.state.lookup (ref, entry.1)).map StateValue.value = some entry.2 := by
  have runtime := stateValues_keys observation member
  obtain ⟨front, back, split, others⟩ := @updates_split observation ref instanceRef _ member
  have keepsSite : ∀ update ∈ front ++ back,
      Within (Frame.fixes fun plane => plane.site ref entry.1 (observation.key entry.1))
        (publishOne config update) :=
    fun update inside => update_site defaults runtime (others update inside).1 (others update inside).2
  unfold publishState at returned
  rw [split] at returned
  obtain ⟨early, late, middle, first, second⟩ := mapM_append_ok returned
  rw [List.mapM_cons] at second
  obtain ⟨result, written, wrote, continued⟩ := bind_ok second
  obtain ⟨rest, last, finished, ended⟩ := bind_ok continued
  cases ended
  have before : middle.site ref entry.1 (observation.key entry.1) =
      plane.site ref entry.1 (observation.key entry.1) :=
    (within_mapM fun update inside => keepsSite update (List.mem_append_left _ inside)).returned first
  have after : next.site ref entry.1 (observation.key entry.1) =
      written.site ref entry.1 (observation.key entry.1) :=
    (within_mapM fun update inside => keepsSite update (List.mem_append_right _ inside)).returned
      finished
  obtain ⟨kind, typed, valid⟩ := stateValues_typed member
  obtain ⟨definition, resolved, named, declared, component⟩ := resolve_runtime defaults typed
  have plain : Plain config middle (observation.update ref entry.1 entry.2 .directTelemetry)
      definition := by
    have entities : middle.entities = plane.entities :=
      (Prod.mk.inj (Prod.mk.inj before).2).2
    have telemetryOnly : TelemetryOnly middle :=
      (within_mapM fun update inside => updates_telemetryOnly defaults
        (others update (List.mem_append_left _ inside)).1).returned first telemetry
    obtain ⟨entity, known, isComponent⟩ := registered
    constructor
    · exact ⟨entity, by rw [entities]; exact known, by rw [isComponent]; exact component⟩
    · exact resolved
    · exact valid definition declared
    · rfl
    · rfl
    · intro stored found
      rw [named] at found
      exact telemetryOnly _ _ _ runtime found
  have stored := plain.stored_iff
  rw [wrote, finalState_ok, named] at stored
  have values : next.state.lookup (ref, entry.1) = written.state.lookup (ref, entry.1) :=
    (Prod.mk.inj after).1
  have earlier : middle.state.lookup (ref, entry.1) = plane.state.lookup (ref, entry.1) :=
    (Prod.mk.inj before).1
  rw [values, ← takesEffect_of_site before, ← earlier]
  exact stored

end Batch

section Poll
variable {config : PlaneConfig} {now : Int} {observation : RuntimeObservation}
  {entity : GraphEntity}

theorem onPlane_within {A : Type} {frame : Frame InMemoryStatePlane} {action : PlaneAction A}
    (inside : Within frame action) : Within (frame.on World.plane) (onPlane action) :=
  within_zoom inside fun _ _ reached => reached

theorem onBindings_within {A : Type} (frame : Frame InMemoryStatePlane)
    (action : EStateM Exception Bindings A) :
    Within (frame.on World.plane) (onBindings action) := by
  intro world
  unfold onBindings
  rw [zoom_finalState]
  exact frame.refl world.plane

/-- A present entity stays as it is. -/
theorem ensureEntity_quiet (entity other : GraphEntity) :
    Within (quiet entity) (ensureEntity config now other) := by
  intro plane
  unfold ensureEntity
  rw [get_bind]
  by_cases absent : (plane.entities.lookup other.ref).isNone = true
  · rw [if_pos absent, upsertEntity_run, Option.isNone_iff_eq_none.mp absent]
    apply storeEntity_quiet
    intro present same
    rw [← same, present] at absent
    cases absent
  · rw [if_neg absent]
    exact (quiet entity).refl plane

theorem relateNode_quiet (entity : GraphEntity) (instanceRef : String) :
    Within ((quiet entity).on World.plane) (relateNode config now observation instanceRef) := by
  unfold relateNode
  split
  · exact within_pure _
  · apply within_bind (within_lift _)
    intro nodeRef
    apply within_seq
    · exact onPlane_within (within_bind (within_lift _) fun other => ensureEntity_quiet entity other)
    · exact within_seq (onBindings_within _ _) (within_pure _)

theorem relateRequest_quiet (entity : GraphEntity) (runtimeRef instanceRef : String) :
    Within ((quiet entity).on World.plane)
      (relateRequest config now observation runtimeRef instanceRef) := by
  unfold relateRequest
  split
  · exact within_pure _
  · apply within_bind (within_lift _)
    intro requestRef
    apply within_seq
    · exact onPlane_within (within_bind (within_lift _) fun other => ensureEntity_quiet entity other)
    · exact within_seq (onBindings_within _ _) (within_pure _)

theorem registerRuntime_quiet (entity : GraphEntity) :
    Within (quiet entity) (registerRuntime observation) := by
  unfold registerRuntime
  apply within_bind within_get
  intro plane
  split
  · exact registerComponent_quiet entity _
  · exact within_pure _

theorem make_ok {made : GraphEntity} {ref entityType lifecycle owner : String} {graph : GraphKind}
    {labels : List (String × String)}
    (returned : GraphEntity.make ref graph entityType lifecycle owner labels = .ok made) :
    made.ref = ref ∧ made.graph = graph ∧ made.entityType = entityType := by
  unfold GraphEntity.make at returned
  split at returned
  · split at returned
    · cases returned
      exact ⟨rfl, rfl, rfl⟩
    · cases returned
  · cases returned

/-- The entities of a projected observation hold the runtime as a component. -/
theorem projectEntities_ok {ref instanceRef : String} {plane next : InMemoryStatePlane}
    (returned : projectEntities config now observation ref instanceRef plane = .ok () next) :
    ∃ entity : GraphEntity, entity.ref = ref ∧ entity.entityType = "component" ∧
      next.entities.lookup entity.ref = some entity ∧ next.memory = plane.memory := by
  unfold projectEntities at returned
  obtain ⟨runtime, first, lifted, storing⟩ := bind_ok returned
  obtain ⟨made, rfl⟩ := lift_ok lifted
  obtain ⟨_, middle, stored, building⟩ := bind_ok storing
  obtain ⟨other, second, relifted, finishing⟩ := bind_ok building
  obtain ⟨built, rfl⟩ := lift_ok relifted
  obtain ⟨named, graph, typed⟩ := make_ok made
  obtain ⟨_, deployed, _⟩ := make_ok built
  have apart : other.graph ≠ runtime.graph := by
    rw [graph, deployed]
    decide
  have early := (upsertEntity_quiet runtime config now (Or.inl rfl)).returned stored
  have late := (upsertEntity_quiet runtime config now (Or.inr apart)).returned finishing
  exact ⟨runtime, named, typed, late.2 (upsertEntity_ok stored), late.1.trans early.1⟩

/-- What a returned observation did to the values of the plane. -/
structure Materialized (config : PlaneConfig) (observation : RuntimeObservation)
    (before after : InMemoryStatePlane) (ref : String) : Prop where
  named : runtimeRef observation.runtimeId = .ok ref
  stored : ∃ instanceRef plane middle results, plane.memory = before.memory ∧
    (∃ entity, plane.entities.lookup ref = some entity ∧ entity.entityType = "component") ∧
    publishState config (observation.updates ref instanceRef) plane = .ok results middle ∧
    after.state = middle.state

theorem upsertRelation_state (update : RelationUpdate) :
    Within (Frame.fixes InMemoryStatePlane.state) (upsertRelation config update) := by
  intro plane
  rw [upsertRelation_run]
  rcases judgeRelation plane update with exception | (result | relation)
  · rfl
  · rfl
  · exact acceptRelation_state relation

theorem publish_ok {world next : World} {report : AdapterPublishReport}
    (returned : publish config now observation world = .ok report next) :
    ∃ ref, Materialized config observation world.plane next.plane ref := by
  unfold publish at returned
  obtain ⟨ref, _, lifted, naming⟩ := bind_ok returned
  obtain ⟨named, rfl⟩ := lift_ok lifted
  obtain ⟨instanceRef, _, relifted, registering⟩ := bind_ok naming
  obtain ⟨_, rfl⟩ := lift_ok relifted
  obtain ⟨_, registered, registers, projecting⟩ := bind_ok registering
  obtain ⟨_, projected, projects, binding⟩ := bind_ok projecting
  obtain ⟨_, boundRuntime, binds, bindingInstance⟩ := bind_ok binding
  obtain ⟨_, boundInstance, bindsInstance, relatingNode⟩ := bind_ok bindingInstance
  obtain ⟨contained, relatedNode, relatesNode, relatingRequest⟩ := bind_ok relatingNode
  obtain ⟨executing, relatedRequest, relatesRequest, writing⟩ := bind_ok relatingRequest
  obtain ⟨states, written, writes, connecting⟩ := bind_ok writing
  obtain ⟨relations, connected, connects, beating⟩ := bind_ok connecting
  obtain ⟨_, beaten, beats, finishing⟩ := bind_ok beating
  cases finishing
  obtain ⟨part, ran, rfl⟩ := zoom_ok projects
  obtain ⟨entity, sameRef, typed, held, remembered⟩ := projectEntities_ok ran
  have registeredQuiet := (onPlane_within (registerRuntime_quiet entity)).returned
    registers
  have boundQuiet := (onBindings_within (quiet entity) _).returned binds
  have instanceQuiet := (onBindings_within (quiet entity) _).returned bindsInstance
  have nodeQuiet := (relateNode_quiet entity instanceRef).returned relatesNode
  have requestQuiet := (relateRequest_quiet entity ref instanceRef).returned
    relatesRequest
  have settled : ((quiet entity).on World.plane).rel _ _ := ((quiet entity).on World.plane).trans
    (((quiet entity).on World.plane).trans boundQuiet instanceQuiet)
    (((quiet entity).on World.plane).trans nodeQuiet requestQuiet)
  obtain ⟨middle, published, rfl⟩ := zoom_ok writes
  have connectedState := (onPlane_within (within_mapM fun update _ =>
    upsertRelation_state update)).returned connects
  have beatenState := (onPlane_within (heartbeat_quiet entity _)).returned beats
  refine ⟨ref, named, instanceRef, relatedRequest.plane, middle, states, ?_, ?_, published, ?_⟩
  · exact settled.1.trans (remembered.trans registeredQuiet.1)
  · exact ⟨entity, sameRef ▸ settled.2 held, typed⟩
  · exact ((Prod.mk.inj beatenState.1).1).trans connectedState

theorem telemetryOnly_of_memory {before after : InMemoryStatePlane}
    (same : after.memory = before.memory) (telemetry : TelemetryOnly before) :
    TelemetryOnly after := by
  have values : after.state = before.state := (Prod.mk.inj same).1
  intro ref key stored runtime found
  exact telemetry ref key stored runtime (values ▸ found)

/-- A quiet call keeps the telemetry. -/
theorem within_telemetry {A : Type} {action : EStateM Exception World A}
    (inside : Within ((quiet entity).on World.plane) action) :
    Within ((Frame.keeps TelemetryOnly).on World.plane) action := by
  apply Within.mono _ inside
  intro before after reached
  exact telemetryOnly_of_memory reached.1

theorem upsertEntity_telemetry (other : GraphEntity) :
    Within (Frame.keeps TelemetryOnly) (upsertEntity config now other) := by
  apply Within.mono _ (upsertEntity_quiet other config now (Or.inl rfl))
  intro before after reached
  exact telemetryOnly_of_memory reached.1

theorem registerComponent_telemetry (descriptor : ComponentDescriptor) :
    Within (Frame.keeps TelemetryOnly) (registerComponent descriptor) := by
  apply Within.mono _ (registerComponent_quiet default descriptor)
  intro before after reached
  exact telemetryOnly_of_memory reached.1

theorem projectEntities_telemetry (ref instanceRef : String) :
    Within (Frame.keeps TelemetryOnly) (projectEntities config now observation ref instanceRef) := by
  unfold projectEntities
  apply within_bind (within_lift _)
  intro runtime
  apply within_seq (upsertEntity_telemetry runtime)
  apply within_bind (within_lift _)
  intro other
  exact upsertEntity_telemetry other

theorem publish_telemetry (defaults : defaultKeyRegistry = .ok config.registry) :
    Within ((Frame.keeps TelemetryOnly).on World.plane) (publish config now observation) := by
  unfold publish
  apply within_bind (within_lift _)
  intro ref
  apply within_bind (within_lift _)
  intro instanceRef
  apply within_seq (within_telemetry (onPlane_within (registerRuntime_quiet default)))
  apply within_seq (onPlane_within (projectEntities_telemetry ref instanceRef))
  apply within_seq (onBindings_within _ _)
  apply within_seq (onBindings_within _ _)
  apply within_bind (within_telemetry (relateNode_quiet default instanceRef))
  intro contained
  apply within_bind (within_telemetry (relateRequest_quiet default ref instanceRef))
  intro executing
  apply within_bind (onPlane_within (within_mapM fun update member =>
    updates_telemetryOnly defaults member))
  intro states
  apply within_bind (onPlane_within (within_mapM fun update _ =>
    (upsertRelation_state update).mono fun _ _ same telemetry ref key stored runtime found =>
      telemetry ref key stored runtime (same ▸ found)))
  intro relations
  apply within_seq (within_telemetry (onPlane_within (heartbeat_quiet default _)))
  exact within_pure _

end Poll

section Run
variable {config : PlaneConfig} {stableWatermark : String → String}

/-- The world after a run of polls. A poll that raises keeps what it reached. -/
def pollAll (config : PlaneConfig) (stableWatermark : String → String) (polls : List Poll)
    (world : World) : World :=
  polls.foldl (fun world poll => finalState (collectAndPublish config stableWatermark poll world))
    world

theorem pollAll_telemetry (defaults : defaultKeyRegistry = .ok config.registry) (polls : List Poll)
    {world : World} (telemetry : TelemetryOnly world.plane) :
    TelemetryOnly (pollAll config stableWatermark polls world).plane := by
  induction polls generalizing world with
  | nil => exact telemetry
  | cons poll rest ih =>
      apply ih
      have inside : Within ((Frame.keeps TelemetryOnly).on World.plane)
          (collectAndPublish config stableWatermark poll) := by
        unfold collectAndPublish
        apply within_bind (within_lift _)
        intro observation
        exact publish_telemetry defaults
      exact inside world telemetry

theorem buildAdapter_telemetry {now : Int} {descriptor : ComponentDescriptor}
    {plane : InMemoryStatePlane} (built : buildAdapter config now descriptor {} = .ok () plane) :
    TelemetryOnly plane := by
  have inside : Within (Frame.keeps TelemetryOnly) (buildAdapter config now descriptor) := by
    unfold buildAdapter
    apply within_bind within_get
    intro plane
    have rest : Within (Frame.keeps TelemetryOnly) (do
        let ref ← lift (entityRef .component "component" descriptor.componentId)
        let entity ← lift (GraphEntity.make ref .component "component" "ready" ""
          [("kind", descriptor.kind), ("adapter", "true")])
        upsertEntity config now entity) := by
      apply within_bind (within_lift _)
      intro ref
      apply within_bind (within_lift _)
      intro entity
      exact upsertEntity_telemetry entity
    cases plane.components.lookup descriptor.componentId with
    | none => exact within_seq (registerComponent_telemetry descriptor) rest
    | some existing =>
        by_cases different : existing ≠ descriptor
        · simp only [if_pos different]
          exact within_seq (within_throw _) rest
        · simp only [if_neg different]
          exact rest
  have start : TelemetryOnly {} := fun ref key stored _ found => by cases found
  exact inside.returned built start

theorem collect_runtimeId {poll : Poll} {observation : RuntimeObservation}
    (collected : collect stableWatermark poll = .ok observation) :
    observation.runtimeId = poll.client.runtimeId := by
  unfold collect at collected
  obtain ⟨values, _, finished⟩ := except_bind_ok collected
  cases finished
  rfl

theorem takesEffect_of_memory {before after : InMemoryStatePlane} {ref key name : String}
    {timestamp : Int} (same : after.memory = before.memory) :
    TakesEffect after ref key name timestamp ↔ TakesEffect before ref key name timestamp := by
  have values : after.state = before.state := (Prod.mk.inj same).1
  have names : after.idempotency = before.idempotency := (Prod.mk.inj same).2
  have duplicates : after.duplicate name = before.duplicate name := by
    unfold InMemoryStatePlane.duplicate
    rw [names]
  constructor
  · rintro ⟨unused, ordered⟩
    exact ⟨duplicates ▸ unused, values ▸ ordered⟩
  · rintro ⟨unused, ordered⟩
    exact ⟨duplicates.trans unused, fun stored found => ordered stored (values ▸ found)⟩

/-- The plane holds every value that an observation projects. -/
def StoresProjection (plane : InMemoryStatePlane) (ref : String)
    (observation : RuntimeObservation) : Prop :=
  ∀ entry ∈ observation.stateValues,
    (plane.state.lookup (ref, entry.1)).map StateValue.value = some entry.2

/-- Every projected value takes effect or is stored already. -/
def ProjectionTakesEffect (plane : InMemoryStatePlane) (ref : String)
    (observation : RuntimeObservation) : Prop :=
  ∀ entry ∈ observation.stateValues,
    TakesEffect plane ref entry.1 (observation.key entry.1) observation.observedAt ∨
    (plane.state.lookup (ref, entry.1)).map StateValue.value = some entry.2

/-- After any run of polls, a poll leaves its projection in the plane exactly when each value takes
effect or is stored already. -/
theorem poll_stores_iff (defaults : defaultKeyRegistry = .ok config.registry)
    (stableWatermark : String → String) {builtAt : Int} {plane : InMemoryStatePlane}
    (built : buildAdapter config builtAt runtimeAdapter {} = .ok () plane) (polls : List Poll)
    (poll : Poll) {report : AdapterPublishReport} {next : World}
    (returned : collectAndPublish config stableWatermark poll
      (pollAll config stableWatermark polls ⟨plane, []⟩) = .ok report next) :
    ∃ observation ref, collect stableWatermark poll = .ok observation ∧
      runtimeRef poll.client.runtimeId = .ok ref ∧
      (StoresProjection next.plane ref observation ↔
        ProjectionTakesEffect (pollAll config stableWatermark polls ⟨plane, []⟩).plane ref
          observation) := by
  have telemetry : TelemetryOnly (pollAll config stableWatermark polls ⟨plane, []⟩).plane :=
    pollAll_telemetry defaults polls (buildAdapter_telemetry built)
  generalize pollAll config stableWatermark polls ⟨plane, []⟩ = world at returned telemetry
  unfold collectAndPublish at returned
  obtain ⟨observation, _, lifted, publishing⟩ := bind_ok returned
  obtain ⟨collected, rfl⟩ := lift_ok lifted
  obtain ⟨ref, identified, instanceRef, settled, middle, results, memory, registered, published,
    values⟩ := publish_ok publishing
  have settledTelemetry : TelemetryOnly settled := telemetryOnly_of_memory memory telemetry
  refine ⟨observation, ref, collected, collect_runtimeId collected ▸ identified,
    forall₂_congr fun entry member => ?_⟩
  have decided := publishState_stored_iff defaults published registered settledTelemetry member
  rw [values, decided, takesEffect_of_memory memory, (Prod.mk.inj memory).1]

end Run

/-- A metrics text of this profile is the depth of the queue. -/
def depthProfile (payload : String) : Except Exception RuntimeMetrics :=
  match asciiInt payload with
  | some depth => .ok { queueDepth := some depth }
  | none => .error .valueError

def depthClient (runtimeId : String) : PrometheusRuntimeSourceClient where
  endpoint := "http://runtime/metrics"
  runtimeId := runtimeId
  instanceId := runtimeId
  profileName := "vllm"
  sourceBackend := "vllm"
  project := depthProfile

def depthPoll (runtimeId payload : String) (observedAt : Int) : Poll where
  client := depthClient runtimeId
  payload := payload
  observedAt := observedAt

/-- A plane with the default keys and a registered adapter. -/
structure AdapterPlane where
  config : PlaneConfig
  plane : InMemoryStatePlane
  defaults : defaultKeyRegistry = .ok config.registry
  built : buildAdapter config 0 runtimeAdapter {} = .ok () plane

/-- A run that ends in a returned poll. -/
structure PolledRun (polls : List Poll) (poll : Poll) extends AdapterPlane where
  report : AdapterPublishReport
  next : World
  returned : collectAndPublish config id poll (pollAll config id polls ⟨plane, []⟩) =
    .ok report next

def polledRun (polls : List Poll) (poll : Poll) : Option (PolledRun polls poll) :=
  match defaults : defaultKeyRegistry with
  | .error _ => none
  | .ok registry =>
    match built : buildAdapter ⟨registry, 128, 10000, 100000, 100000⟩ 0 runtimeAdapter {} with
    | .error _ _ => none
    | .ok () plane =>
      match returned : collectAndPublish ⟨registry, 128, 10000, 100000, 100000⟩ id poll
          (pollAll ⟨registry, 128, 10000, 100000, 100000⟩ id polls ⟨plane, []⟩) with
      | .error _ _ => none
      | .ok report next =>
        some ⟨⟨⟨registry, 128, 10000, 100000, 100000⟩, plane, defaults, built⟩, report, next, returned⟩

/-- Two runtimes whose depths change in turn. -/
def earlierPolls : List Poll := [depthPoll "a" "1" 0, depthPoll "b" "5" 1, depthPoll "a" "2" 2]

/-- A later poll of a runtime stores its projection beside the polls of another one. -/
theorem poll_stores_iff_of_first : ∃ (run : PolledRun earlierPolls (depthPoll "a" "3" 3))
    (observation : RuntimeObservation) (ref : String),
    collect id (depthPoll "a" "3" 3) = .ok observation ∧ runtimeRef "a" = .ok ref ∧
    (StoresProjection run.next.plane ref observation ↔
      ProjectionTakesEffect (pollAll run.config id earlierPolls ⟨run.plane, []⟩).plane ref
        observation) := by
  have ran : (polledRun earlierPolls (depthPoll "a" "3" 3)).isSome = true := by decide +kernel
  obtain ⟨run, _⟩ := Option.isSome_iff_exists.mp ran
  exact ⟨run, poll_stores_iff run.defaults id run.built earlierPolls (depthPoll "a" "3" 3)
    run.returned⟩

/-- The stored depth of a runtime. -/
def storedDepth (world : World) (ref : String) : Option ℚ :=
  (world.plane.state.lookup (ref, "runtime.queue_depth")).bind fun stored => stored.value.number?

/-- A depth that goes from one to two and back stays at two. -/
theorem poll_loses_value : ∃ (run : PolledRun [depthPoll "a" "1" 0, depthPoll "a" "2" 1]
      (depthPoll "a" "1" 2)) (observation : RuntimeObservation) (ref : String),
    collect id (depthPoll "a" "1" 2) = .ok observation ∧ runtimeRef "a" = .ok ref ∧
    ¬ StoresProjection run.next.plane ref observation := by
  have lost : (polledRun [depthPoll "a" "1" 0, depthPoll "a" "2" 1] (depthPoll "a" "1" 2)).any
      (fun run => storedDepth run.next "component/component/a" = some 2) = true := by
    decide +kernel
  obtain ⟨run, _, depth⟩ := (Option.any_eq_true _ _).mp lost
  have collected : ∃ observation, collect id (depthPoll "a" "1" 2) = .ok observation ∧
      observation.queueDepth = some 1 := by
    refine ⟨_, rfl, ?_⟩
    decide +kernel
  obtain ⟨observation, observed, measured⟩ := collected
  have projected : ("runtime.queue_depth", Value.int 1) ∈ observation.stateValues := by
    simp [RuntimeObservation.stateValues, measured]
  have named : runtimeRef "a" = .ok "component/component/a" := by rfl
  refine ⟨run, observation, "component/component/a", observed, named, fun stores => ?_⟩
  obtain ⟨stored, found, value⟩ := Option.map_eq_some_iff.mp (stores _ projected)
  have one : storedDepth run.next "component/component/a" = some ((1 : Int) : ℚ) := by
    unfold storedDepth
    rw [found, Option.bind_some, value]
    rfl
  have two := of_decide_eq_true depth
  rw [one] at two
  exact absurd two (by decide +kernel)

end StateFlow.Adapters
