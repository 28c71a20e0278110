import StateFlow.Construction.Adapters.Client
import StateFlow.Library.Outcome
import StateFlow.Proof.Plane.Wire

namespace StateFlow.Adapters
open Python Table Calendar Effect Plane

section Records
variable {text : Text}

theorem texts_map_str (items : List String) : (items.map Value.str).map text.str = items := by
  rw [List.map_map]
  exact List.map_id _

theorem stringLabels_encode (labels : List (String × String)) :
    stringLabels text (labels.map fun label => (label.1, .str label.2)) = labels := by
  unfold stringLabels
  rw [List.map_map]
  exact List.map_id _

theorem stringsOf_jsonTexts (items : List String) :
    stringsOf text (jsonTexts items) = .ok items :=
  congrArg Except.ok (texts_map_str items)

theorem textsOf_jsonTexts (items : List String) : textsOf text (jsonTexts items) = items :=
  texts_map_str items

/-- The server reads back a named component. -/
theorem decodeDescriptor_encode {descriptor : ComponentDescriptor}
    (named : descriptor.componentId ≠ "" ∧ descriptor.kind ≠ "") :
    decodeDescriptor text (encodeComponent descriptor) = .ok descriptor := by
  have present : ¬ (descriptor.componentId = "" || descriptor.kind = "") = true := by
    simp [named.1, named.2]
  have componentId : jsonText text (encodeComponent descriptor) "component_id" "" =
      descriptor.componentId := rfl
  have kind : jsonText text (encodeComponent descriptor) "kind" "" = descriptor.kind := rfl
  unfold decodeDescriptor
  rw [componentId, kind]
  simp only [if_neg present]
  simp [encodeComponent, getD, jsonText, Table.lookup_cons, stringsOf_jsonTexts, Text.str]
  rfl

/-- The client reads back every component. -/
theorem decodeComponent_encode (descriptor : ComponentDescriptor) :
    decodeComponent text (encodeComponent descriptor) = descriptor := by
  simp [decodeComponent, encodeComponent, getD, jsonText, jsonGet, Table.lookup_cons,
    textsOf_jsonTexts, Text.str]

theorem graphKindOf_value (graph : GraphKind) : graphKindOf graph.value = .ok graph := by
  cases graph <;> rfl

/-- A reference is longer than its prefix. -/
theorem GraphEntity.ref_ne_empty (entity : GraphEntity) : entity.ref ≠ "" := by
  intro empty
  have letters := String.startsWith_string_iff.mp entity.refNamed.1
  rw [empty, GraphKind.refPrefix, String.toList_append, String.toList_append,
    String.toList_append] at letters
  have none := List.prefix_nil.mp letters
  simp at none

theorem GraphEntity.type_ne_empty (entity : GraphEntity) : entity.entityType ≠ "" := by
  have allowed := entity.typeAllowed
  intro empty
  rw [empty] at allowed
  revert allowed
  cases entity.graph <;> decide

/-- The fields of a valid entity pass its constructor. -/
theorem entityOf_encode (entity : GraphEntity) :
    entityOf text (encodeEntity entity) entity.ref entity.graph entity.entityType
      entity.labels.entries = .ok entity := by
  unfold entityOf GraphEntity.make
  rw [dif_pos entity.typeAllowed, dif_pos entity.refNamed, Mapping.ofList_entries]
  rfl

/-- The server reads back every entity. -/
theorem decodeGraphEntity_encode (entity : GraphEntity) :
    decodeGraphEntity text (encodeEntity entity) = .ok entity := by
  have graph : entity.graph.value ≠ "" := by cases entity.graph <;> decide
  unfold decodeGraphEntity
  rw [@requiredText_ok text _ "ref" entity.ref rfl (GraphEntity.ref_ne_empty entity),
    @requiredText_ok text _ "graph" entity.graph.value rfl graph,
    @requiredText_ok text _ "entity_type" entity.entityType rfl
      (GraphEntity.type_ne_empty entity)]
  have labels : mappingOf (jsonGet (encodeEntity entity) "labels") =
      .ok (entity.labels.entries.map fun label => (label.1, .str label.2)) := rfl
  rw [labels]
  change (do
    let graph ← graphKindOf entity.graph.value
    entityOf text (encodeEntity entity) entity.ref graph entity.entityType
      (stringLabels text (entity.labels.entries.map fun label : String × String =>
        (label.1, Value.str label.2)))) = _
  rw [graphKindOf_value, stringLabels_encode]
  exact entityOf_encode entity

/-- The client reads back every entity. -/
theorem decodeEntity_encode (entity : GraphEntity) :
    decodeEntity text (encodeEntity entity) = .ok entity := by
  unfold decodeEntity
  change (do
    let graph ← graphKindOf entity.graph.value
    entityOf text (encodeEntity entity) entity.ref graph entity.entityType
      (stringLabels text (entity.labels.entries.map fun label : String × String =>
        (label.1, Value.str label.2)))) = _
  rw [graphKindOf_value, stringLabels_encode]
  exact entityOf_encode entity

theorem decodeResult_encode (result : WriteResult) :
    decodeResult text (encodeResult result) = .ok result := rfl

end Records

section Lists
variable {U V : Type}

/-- A traversal of encoded items answers each of them. -/
theorem mapM_encoded {W : Type} {read : V → Except Exception W} {encode : U → V} {answer : U → W}
    {items : List U} (back : ∀ item ∈ items, read (encode item) = .ok (answer item)) :
    (items.map encode).mapM read = .ok (items.map answer) := by
  induction items with
  | nil => rfl
  | cons item rest ih =>
      rw [List.map_cons, List.mapM_cons, back item List.mem_cons_self,
        ih fun later member => back later (List.mem_cons_of_mem _ member)]
      rfl

theorem map_shown (items : List U) (shown : V) : (items.map (·, shown)).map Prod.fst = items := by
  rw [List.map_map]
  exact List.map_id _

theorem objects_encoded (failure : Exception) (encode : U → List (String × Value))
    (items : List U) :
    (items.map fun item => Value.dict (encode item)).mapM (objectOf failure) =
      .ok (items.map encode) := by
  induction items with
  | nil => rfl
  | cons item rest ih =>
      rw [List.map_cons, List.mapM_cons, ih]
      rfl

end Lists

variable {text : Text}

theorem decodeWriteResults_encode (results : List WriteResult) :
    decodeWriteResults text (writeResponse results).payload = .ok results := by
  unfold decodeWriteResults
  change (do
    (← (results.map fun result => Value.dict (encodeResult result)).mapM
      (objectOf .statePlaneHttpError)).mapM (decodeResult text)) = _
  rw [objects_encoded]
  have decoded := @mapM_encoded _ _ _ (decodeResult text) encodeResult id results
    fun result _ => decodeResult_encode result
  rw [List.map_id] at decoded
  exact decoded

/-- Both statuses of a batch are accepted. -/
theorem writeResponse_accepted (results : List WriteResult) :
    (writeResponse results).statusCode ∈ [200, 409] := by
  unfold writeResponse
  simp only
  split <;> simp

/-- A list is a batch exactly when it has an item. -/
theorem batch_encoded {U : Type} {key : String} {encode : U → List (String × Value)} {items : List U} :
    batch [(key, .list (items.map fun item => .dict (encode item)))] key =
      if items = [] then .error .valueError else .ok (items.map encode) := by
  have read : jsonGet [(key, .list (items.map fun item => Value.dict (encode item)))] key =
      .list (items.map fun item => .dict (encode item)) := by
    simp [jsonGet, getD, Table.lookup_cons]
  unfold batch
  rw [read]
  cases items with
  | nil => rfl
  | cons item rest =>
      rw [if_neg (List.cons_ne_nil _ _)]
      exact objects_encoded .valueError encode (item :: rest)

section Requests
variable {A : Type} {accepted : List Nat} {handler : PlaneAction StatePlaneAPIResponse}

/-- No accepted status reports a failure. -/
def Refused (accepted : List Nat) : Prop :=
  ∀ exception, (failureResponse exception).statusCode ∉ accepted

theorem refused_single : Refused [200, 201] := by
  intro exception
  cases exception <;> decide

theorem refused_batch : Refused [200, 409] := by
  intro exception
  cases exception <;> decide

theorem request_of_ok {plane last : InMemoryStatePlane} {response : StatePlaneAPIResponse}
    (ran : handler plane = .ok response last) (inside : response.statusCode ∈ accepted) :
    request accepted handler plane = .ok response.payload last := by
  have served : serve handler plane = .ok response last := by
    unfold serve
    rw [ran]
  unfold request
  rw [bind_of_ok served, if_pos inside]
  rfl

theorem request_of_error (refused : Refused accepted) {plane last : InMemoryStatePlane}
    {exception : Exception} (ran : handler plane = .error exception last) :
    request accepted handler plane = .error .statePlaneHttpError last := by
  have served : serve handler plane = .ok (failureResponse exception) last := by
    unfold serve
    rw [ran]
  unfold request
  rw [bind_of_ok served, if_neg (refused exception)]
  rfl

/-- An accepted answer comes from a handler that returned. -/
theorem request_ok (refused : Refused accepted) {plane last : InMemoryStatePlane}
    {payload : List (String × Value)}
    (returned : request accepted handler plane = .ok payload last) :
    ∃ response, handler plane = .ok response last ∧ payload = response.payload := by
  cases ran : handler plane with
  | error exception reached =>
      rw [request_of_error refused ran] at returned
      cases returned
  | ok response reached =>
      have served : serve handler plane = .ok response reached := by
        unfold serve
        rw [ran]
      unfold request at returned
      rw [bind_of_ok served] at returned
      split at returned
      · cases returned
        exact ⟨response, rfl, rfl⟩
      · cases returned

/-- A client that decodes its answer has the outcome of the action behind the handler. -/
theorem matches_request {action : PlaneAction A} {respond : A → StatePlaneAPIResponse}
    {next : List (String × Value) → PlaneAction A} (refused : Refused accepted)
    (handles : handler = respond <$> action)
    (allowed : ∀ value, (respond value).statusCode ∈ accepted)
    (decodes : ∀ value, next (respond value).payload = pure value) :
    Matches (request accepted handler >>= next) action := by
  intro plane
  have mapped : handler plane = (respond <$> action) plane := by rw [handles]
  change handler plane = EStateM.map respond action plane at mapped
  unfold EStateM.map at mapped
  cases ran : action plane with
  | error exception last =>
      rw [ran] at mapped
      rw [bind_of_error (request_of_error refused mapped)]
      exact .raised _ exception last
  | ok value last =>
      rw [ran] at mapped
      rw [bind_of_ok (request_of_ok mapped (allowed value)), decodes]
      exact .returned value last

end Requests

section Operations
variable {other : Value → Value} {config : PlaneConfig} {now : Int} {arrival shown : DateTime}

theorem matches_listComponents :
    Matches (httpClient text other config now arrival shown).listComponents
      (inProcess config now).listComponents := by
  apply @matches_request _ _ _ _ (fun components => ⟨200, [("components",
    .list (components.map fun component => .dict (encodeComponent component)))]⟩) _ refused_single
  · rfl
  · exact fun _ => List.mem_cons_self
  · intro components
    change (lift ((components.map fun component => Value.dict (encodeComponent component)).mapM
      (objectOf .statePlaneHttpError)) >>= _) = _
    rw [objects_encoded]
    apply congrArg (pure : List ComponentDescriptor → PlaneAction (List ComponentDescriptor))
    rw [List.map_map]
    exact (List.map_congr_left fun component _ => decodeComponent_encode component).trans
      (List.map_id _)

theorem matches_registerComponent {descriptor : ComponentDescriptor}
    (named : descriptor.componentId ≠ "" ∧ descriptor.kind ≠ "") :
    Matches ((httpClient text other config now arrival shown).registerComponent descriptor)
      ((inProcess config now).registerComponent descriptor) := by
  apply @matches_request _ _ _ _
    (fun _ => ⟨201, [("component", .dict (encodeComponent descriptor))]⟩) _ refused_single
  · unfold postComponent
    rw [decodeDescriptor_encode named]
    rfl
  · exact fun _ => List.mem_cons_of_mem _ List.mem_cons_self
  · exact fun _ => rfl

theorem matches_upsertEntity (entity : GraphEntity) :
    Matches ((httpClient text other config now arrival shown).upsertEntity entity)
      ((inProcess config now).upsertEntity entity) := by
  apply @matches_request _ _ _ _ (fun _ => ⟨200, [("accepted", .int 1),
    ("entities", .list [.dict (encodeEntity entity)])]⟩) _ refused_single
  · unfold postEntities
    have decoded : [encodeEntity entity].mapM (decodeGraphEntity text) = .ok [entity] := by
      rw [List.mapM_cons, decodeGraphEntity_encode]
      rfl
    have single := @batch_encoded _ "entities" encodeEntity [entity]
    rw [if_neg (List.cons_ne_nil _ _)] at single
    simp only [List.map_cons, List.map_nil] at single
    rw [single]
    change (lift ([encodeEntity entity].mapM (decodeGraphEntity text)) >>= _) = _
    rw [decoded]
    funext plane
    change ((Plane.upsertEntity config now entity >>= fun _ => pure PUnit.unit) >>= _) plane =
      EStateM.map _ (Plane.upsertEntity config now entity) plane
    unfold EStateM.map
    cases ran : Plane.upsertEntity config now entity plane with
    | error exception last => rw [bind_of_error (bind_of_error ran)]
    | ok value last =>
        have stored : (Plane.upsertEntity config now entity >>= fun _ => pure PUnit.unit) plane =
            .ok PUnit.unit last := by rw [bind_of_ok ran]; rfl
        rw [bind_of_ok stored]
        rfl
  · exact fun _ => List.mem_cons_self
  · exact fun _ => rfl

theorem matches_getEntity (ref : String) :
    Matches ((httpClient text other config now arrival shown).getEntity ref)
      ((inProcess config now).getEntity ref) := by
  apply @matches_request _ _ _ _ (fun found => ⟨200, [("snapshot_token", .str ""),
    ("entities", .list ((Option.toList found).map fun entity => .dict (encodeEntity entity))),
    ("relations", .list [])]⟩) _ refused_single
  · funext plane
    have visited : ([ref].dedup.mergeSort fun first second => decide (first ≤ second)) = [ref] := by
      simp
    have listed : [ref].filterMap (fun ref => plane.entities.lookup ref) =
        (plane.entities.lookup ref).toList := by
      cases found : plane.entities.lookup ref <;> simp [found]
    change EStateM.Result.ok (⟨200, [("snapshot_token", .str ""), ("entities", .list
      ((([ref].dedup.mergeSort fun first second => decide (first ≤ second)).filterMap
        fun ref => plane.entities.lookup ref).map fun entity => .dict (encodeEntity entity))),
      ("relations", .list [])]⟩ : StatePlaneAPIResponse) plane = _
    rw [visited, listed]
    rfl
  · exact fun _ => List.mem_cons_self
  · intro found
    cases found with
    | none => rfl
    | some entity =>
        change (lift (decodeEntity text (encodeEntity entity)) >>= _) = _
        rw [decodeEntity_encode]
        rfl

/-- The update that a server reads -/
def jsonForm (other : Value → Value) (update : StateUpdate) : StateUpdate :=
  { update with value := toJsonable other update.value }

/-- An update has the names, the source, and the clock that a server reads back. -/
structure ReadableState (update : StateUpdate) (shown : DateTime) : Prop where
  named : update.entityRef ≠ "" ∧ update.key ≠ "" ∧ update.producer ≠ ""
  referenced : ∀ source ∈ update.sourceRef, source.backend ≠ "" ∧ source.reference ≠ ""
  dated : update.timestamp = shown.instant
  immediate : update.ttl = none

/-- A record without a lifetime is read back with the JSON form of its value. -/
theorem decode_state_immediate {update : StateUpdate} (readable : ReadableState update shown) :
    decodeStateUpdate text arrival (encodeStateUpdate other update shown) =
      .ok (jsonForm other update, shown) := by
  rw [decode_encode_value readable.named readable.referenced readable.dated, readable.immediate]
  change Except.ok ({ update with value := toJsonable other update.value, ttl := none }, shown) = _
  rw [← readable.immediate]
  rfl

theorem decode_relation_immediate {update : RelationUpdate}
    (sendable : SendableRelation update shown none) :
    decodeRelationUpdate text arrival (encodeRelationUpdate other update shown) =
      .ok (update, shown) := by
  have immediate : update.ttl = none := sendable.whole
  rw [decode_encode_relation sendable, immediate]
  change Except.ok ({ update with ttl := none }, shown) = _
  rw [← immediate]

/-- The ten seconds of an adapter heartbeat survive. -/
theorem decode_heartbeat_ten {beat : Heartbeat} (sendable : SendableHeartbeat beat shown 10000) :
    decodeHeartbeat text arrival (encodeHeartbeat beat shown) = .ok (beat, shown) := by
  have kept := (@durationOf_milliseconds text (some 10000) (by decide)).mpr (by decide)
  have whole : beat.ttl = 10000000 := sendable.whole
  rw [decode_encode_heartbeat sendable, whole]
  change durationOf text (milliseconds (some 10000000)) = .ok (some 10000000) at kept
  rw [kept]
  change Except.ok ({ beat with ttl := 10000000 }, shown) = _
  rw [← whole]

/-- A server publishes the JSON forms of some updates. -/
theorem matches_publishState {updates : List StateUpdate} (some : updates ≠ [])
    (readable : ∀ update ∈ updates, ReadableState update shown) :
    Matches ((httpClient text other config now arrival shown).publishState updates)
      ((inProcess config now).publishState (updates.map (jsonForm other))) := by
  apply @matches_request _ _ _ _ writeResponse _ refused_batch
  · unfold postState
    rw [batch_encoded, if_neg some]
    change (lift ((updates.map fun update => encodeStateUpdate other update shown).mapM
      (decodeStateUpdate text arrival)) >>= _) = _
    rw [@mapM_encoded _ _ _ _ _ (fun update => (jsonForm other update, shown)) updates
      fun update member => decode_state_immediate (readable update member)]
    change (Plane.publishState config ((updates.map fun update =>
      (jsonForm other update, shown)).map Prod.fst) >>= _) = _
    rw [List.map_map]
    rfl
  · exact writeResponse_accepted
  · intro results
    rw [decodeWriteResults_encode]
    rfl

theorem matches_upsertRelations {updates : List RelationUpdate} (some : updates ≠ [])
    (sendable : ∀ update ∈ updates, SendableRelation update shown none) :
    Matches ((httpClient text other config now arrival shown).upsertRelations updates)
      ((inProcess config now).upsertRelations updates) := by
  apply @matches_request _ _ _ _ writeResponse _ refused_batch
  · unfold postRelations
    rw [batch_encoded, if_neg some]
    change (lift ((updates.map fun update => encodeRelationUpdate other update shown).mapM
      (decodeRelationUpdate text arrival)) >>= _) = _
    rw [@mapM_encoded _ _ _ _ _ (·, shown) updates
      fun update member => decode_relation_immediate (sendable update member)]
    change (Plane.upsertRelations config ((updates.map (·, shown)).map Prod.fst) >>= _) = _
    rw [map_shown]
    rfl
  · exact writeResponse_accepted
  · intro results
    rw [decodeWriteResults_encode]
    rfl

theorem matches_heartbeat {beat : Heartbeat} (sendable : SendableHeartbeat beat shown 10000) :
    Matches ((httpClient text other config now arrival shown).heartbeat beat)
      ((inProcess config now).heartbeat beat) := by
  apply @matches_request _ _ _ _
    (fun _ => ⟨200, [("heartbeat", .dict (encodeHeartbeat beat shown))]⟩) _ refused_single
  · unfold postHeartbeat
    rw [decode_heartbeat_ten sendable]
    rfl
  · exact fun _ => List.mem_cons_self
  · exact fun _ => rfl

/-- The server rejects an empty list of updates and a source without a name. -/
theorem publishState_returned {updates : List StateUpdate} {plane last : InMemoryStatePlane}
    {results : List WriteResult}
    (returned : (httpClient text other config now arrival shown).publishState updates plane =
      .ok results last) :
    updates ≠ [] ∧ ∀ update ∈ updates, ∃ read,
      decodeStateUpdate text arrival (encodeStateUpdate other update shown) = .ok read := by
  obtain ⟨_, _, answered, _⟩ := bind_ok returned
  obtain ⟨_, handled, _⟩ := request_ok refused_batch answered
  unfold postState at handled
  rw [batch_encoded] at handled
  obtain ⟨_, _, listed, parsed⟩ := bind_ok handled
  obtain ⟨listed, rfl⟩ := lift_ok listed
  split at listed
  · cases listed
  · rename_i some
    cases listed
    obtain ⟨_, _, lifted, _⟩ := bind_ok parsed
    have decoded := (lift_ok lifted).1
    refine ⟨some, fun update member => ?_⟩
    obtain ⟨read, _, found⟩ := answer_of_mapM decoded (List.mem_map_of_mem member)
    exact ⟨read, found⟩

theorem upsertRelations_returned {updates : List RelationUpdate} {plane last : InMemoryStatePlane}
    {results : List WriteResult}
    (returned : (httpClient text other config now arrival shown).upsertRelations updates plane =
      .ok results last) : updates ≠ [] := by
  obtain ⟨_, _, answered, _⟩ := bind_ok returned
  obtain ⟨_, handled, _⟩ := request_ok refused_batch answered
  unfold postRelations at handled
  rw [batch_encoded] at handled
  obtain ⟨_, _, listed, _⟩ := bind_ok handled
  obtain ⟨listed, _⟩ := lift_ok listed
  split at listed
  · cases listed
  · rename_i some
    exact some

/-- An update that the server reads has a named source. -/
theorem source_of_decoded {update : StateUpdate} {source : SourceRef}
    (sourced : update.sourceRef = some source) {read : StateUpdate × DateTime}
    (decoded : decodeStateUpdate text arrival (encodeStateUpdate other update shown) = .ok read) :
    source.backend ≠ "" ∧ source.reference ≠ "" := by
  have field : jsonGet (encodeStateUpdate other update shown) "source_ref" =
      encodeSourceRef source := by
    simp [jsonGet, getD, encodeStateUpdate, lookup_withMilliseconds, Table.lookup_cons, sourced]
  unfold decodeStateUpdate at decoded
  rw [field] at decoded
  iterate 9 obtain ⟨_, _, decoded⟩ := except_bind_ok decoded
  obtain ⟨_, named, _⟩ := except_bind_ok decoded
  change (if source.backend = "" || source.reference = "" then _ else _) = _ at named
  split at named
  · cases named
  · rename_i present
    simpa using present

end Operations

end StateFlow.Adapters
