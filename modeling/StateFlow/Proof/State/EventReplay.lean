import StateFlow.Proof.State.Handlers
import StateFlow.Proof.State.Orders

namespace StateFlow.State
open Python Table Effect

section Alike
variable (names : List (Section × String)) (first second : Fresh)

/-- An attribute is equal in both states or generated in both. -/
def AlikeAttr (attr : Section × String) (value other : Value) : Prop :=
  value = other ∨ attr ∈ names ∧ value = attr.1.default first attr.2 ∧
    other = attr.1.default second attr.2

/-- A marked value is equal in both states or a section with the generated attributes. -/
inductive AlikeValue : Value → Value → Prop
  | same (value : Value) : AlikeValue value value
  | part (part : Section) (state other : AgentState)
      (attrs : ∀ name, AlikeAttr creationAttrs first second (part, name) (state.get part name)
        (other.get part name)) : AlikeValue (state.record part) (other.record part)

/-- Two provenance fields differ at most in an alike value. -/
structure AlikeField (field other : StateField) : Prop where
  value : AlikeValue first second field.value other.value
  rest : { field with value := other.value } = other

/-- Two states agree up to the generated attributes. -/
structure Alike (state other : AgentState) : Prop where
  attrs : ∀ part name, AlikeAttr names first second (part, name) (state.get part name)
    (other.get part name)
  fieldMeta : Matches (AlikeField first second) state.fieldMeta other.fieldMeta
  extensions : state.extensions = other.extensions

end Alike

section Attributes
variable {first second : Fresh}

/-- A generated attribute is text or an instant. -/
theorem generated_shape {attr : Section × String} (generated : attr ∈ generatedAttrs) :
    (∃ text : Fresh → String, ∀ fresh, attr.1.default fresh attr.2 = .str (text fresh)) ∨
      ∃ instant : Fresh → Int, ∀ fresh, attr.1.default fresh attr.2 = .datetime (instant fresh) := by
  simp only [generatedAttrs, creationAttrs, List.mem_cons, List.not_mem_nil, or_false] at generated
  rcases generated with rfl | rfl | rfl | rfl | rfl
  · exact Or.inr ⟨Fresh.now, fun _ => rfl⟩
  · exact Or.inl ⟨Fresh.stateId, fun _ => rfl⟩
  · exact Or.inr ⟨Fresh.now, fun _ => rfl⟩
  · exact Or.inr ⟨Fresh.now, fun _ => rfl⟩
  · exact Or.inr ⟨Fresh.now, fun _ => rfl⟩

/-- The other defaults are constants. -/
theorem default_constant (first second : Fresh) {part : Section} {name : String}
    (constant : (part, name) ∉ generatedAttrs) :
    part.default first name = part.default second name := by
  simp only [generatedAttrs, creationAttrs, List.mem_cons, Prod.mk.injEq, List.not_mem_nil,
    or_false, not_or, not_and] at constant
  obtain ⟨updated, identified, created, entered, observed⟩ := constant
  unfold Section.default getD
  cases part with
  | header =>
      refine congrArg (Option.getD · Value.none) (lookup_congr ?_)
      simp only [Section.schema, List.forall₂_cons, List.forall₂_nil_left_iff, implies_true,
        and_true, true_and]
      exact ⟨fun same => absurd same (identified rfl), fun same => absurd same (created rfl),
        fun same => absurd same (updated rfl)⟩
  | lifecycle =>
      refine congrArg (Option.getD · Value.none) (lookup_congr ?_)
      simp only [Section.schema, List.forall₂_cons, List.forall₂_nil_left_iff, implies_true,
        and_true, true_and]
      exact fun same => absurd same (entered rfl)
  | prediction =>
      refine congrArg (Option.getD · Value.none) (lookup_congr ?_)
      simp only [Section.schema, List.forall₂_cons, List.forall₂_nil_left_iff, implies_true,
        and_true, true_and]
      exact fun same => absurd same (observed rfl)
  | _ => rfl

/-- A conversion does not depend on a generated value. -/
theorem convertForField_alike (text : Text) {attr : Section × String} {value other : Value}
    (alike : AlikeAttr generatedAttrs first second attr value other) (item : Value)
    (fieldName : String) :
    convertForField text value item fieldName = convertForField text other item fieldName := by
  rcases alike with rfl | ⟨generated, rfl, rfl⟩
  · rfl
  · rcases generated_shape generated with ⟨shape, named⟩ | ⟨shape, named⟩
    · rw [named, named]
      rfl
    · rw [named, named]
      rfl

end Attributes

section States
variable {names : List (Section × String)} {first second : Fresh} {state other : AgentState}

theorem Alike.get (alike : Alike names first second state other) {part : Section} {name : String}
    (fixed : (part, name) ∉ names) : state.get part name = other.get part name :=
  (alike.attrs part name).resolve_right fun generated => fixed generated.1

theorem Alike.set (alike : Alike names first second state other) (part : Section) (name : String)
    (value : Value) : Alike names first second (state.set part name value)
      (other.set part name value) where
  attrs query attr := by
    rw [AgentState.get_set, AgentState.get_set]
    split
    · exact Or.inl rfl
    · exact alike.attrs query attr
  fieldMeta := alike.fieldMeta
  extensions := alike.extensions

/-- The provenance of an event is alike over alike values. -/
theorem alikeField_of_value (event : AgentStateEvent) {value other : Value}
    (alike : AlikeValue first second value other) :
    AlikeField first second (event.field value) (event.field other) := ⟨alike, rfl⟩

/-- A section other than the header is alike as a record. -/
theorem Alike.record (alike : Alike generatedAttrs first second state other) {part : Section}
    (other' : part ≠ .header) : AlikeValue first second (state.record part) (other.record part) := by
  apply AlikeValue.part
  intro name
  refine (alike.attrs part name).imp_right fun ⟨generated, rest⟩ => ⟨?_, rest⟩
  rcases List.mem_cons.mp generated with same | listed
  · exact absurd (congrArg Prod.fst same) other'
  · exact listed

/-- New states of one session are alike. -/
theorem newAgentState_alike (first second : Fresh) (sessionId taskId : String) (tenantId : Value) :
    Alike generatedAttrs first second (newAgentState first sessionId taskId tenantId)
      (newAgentState second sessionId taskId tenantId) := by
  refine ((((Alike.set ?_ _ _ _).set _ _ _).set _ _ _).set _ _ _).set _ _ _
  refine ⟨fun part name => ?_, .nil, rfl⟩
  change AlikeAttr _ _ _ _ (part.default first name) (part.default second name)
  by_cases generated : (part, name) ∈ generatedAttrs
  · exact Or.inr ⟨generated, rfl, rfl⟩
  · exact Or.inl (default_constant first second generated)

end States

section Steps
variable {first second : Fresh} {state other : AgentState}

theorem Alike.marked (alike : Alike generatedAttrs first second state other) {name : MarkName}
    (settled : name.settled = true) :
    AlikeValue first second (name.value state) (name.value other) := by
  cases name with
  | part part => exact alike.record (of_decide_eq_true settled)
  | attr part name =>
      change AlikeValue _ _ (state.get part name) (other.get part name)
      rw [alike.get (of_decide_eq_true settled)]
      exact .same _
  | tool name => exact .same _
  | extensions =>
      change AlikeValue _ _ (.dict state.extensions) (.dict other.extensions)
      rw [alike.extensions]
      exact .same _

/-- A mark of alike values keeps two states alike. -/
theorem Alike.mark (alike : Alike generatedAttrs first second state other) (event : AgentStateEvent)
    (name : MarkName) (same : AlikeValue first second (name.value state) (name.value other)) :
    Alike generatedAttrs first second
      { state with fieldMeta := assign name.text (event.field (name.value state)) state.fieldMeta }
      { other with fieldMeta := assign name.text (event.field (name.value other)) other.fieldMeta } where
  attrs := alike.attrs
  fieldMeta := matches_assign alike.fieldMeta name.text (alikeField_of_value event same)
  extensions := alike.extensions

/-- An assignment converts after an alike value to one value and marks that value. -/
theorem setField_alike (env : Environment) (event : AgentStateEvent) (part : Section) (key : String)
    (value : Value) : Respects (Alike generatedAttrs first second)
      (setField env event part key value) := by
  refine (ProgramLogic.respects _).ite (fun _ => respects_pure _) fun _ => ?_
  intro state other answer last alike returned
  obtain ⟨old, _, found, converting⟩ := bind_ok returned
  cases found
  obtain ⟨converted, middle, stored, writing⟩ := bind_ok converting
  obtain ⟨stored, rfl⟩ := lift_ok stored
  obtain ⟨_, _, wrote, marking⟩ := bind_ok writing
  cases wrote
  cases marking
  rw [convertForField_alike env.toText (alike.attrs part key)] at stored
  refine ⟨_, bind_of_ok (lift_of_ok stored other), ?_⟩
  refine (alike.set part key converted).mark event (.attr part key) ?_
  change AlikeValue _ _ ((middle.set part key converted).get part key)
    ((other.set part key converted).get part key)
  rw [AgentState.get_set_same, AgentState.get_set_same]
  exact .same converted

/-- The handlers respect alike states. -/
theorem alikeHandles (first second : Fresh) : Handles
    (ProgramLogic.respects (Alike generatedAttrs first second)) fun _ => True where
  read fixed := respects_observe fun _ _ alike => alike.get fixed
  write value _ _ := respects_modify fun _ _ alike => alike.set _ _ value
  mark event _ settled := respects_modify fun _ _ alike => alike.mark event _ (alike.marked settled)
  setField env event part key value _ := setField_alike env event part key value
  setMeta _ _ name _ := respects_bind (respects_lift _) fun field =>
    respects_modify fun _ _ alike => ⟨alike.attrs,
      matches_assign alike.fieldMeta name ⟨.same field.value, rfl⟩, alike.extensions⟩
  extend merge := respects_modify fun _ _ alike => ⟨alike.attrs, alike.fieldMeta,
    congrArg merge alike.extensions⟩

end Steps

/-- The update time in the header of a state. -/
def AgentState.updatedAt (state : AgentState) : Value := state.get .header "updated_at"

section Settled
variable {first second : Fresh} {env : Environment} {event : AgentStateEvent}
  {state other last reached : AgentState}

theorem write_keepsUpdated {name : String} (other : name ≠ "updated_at") (value : Value) :
    Within (Frame.fixes AgentState.updatedAt) (write .header name value) :=
  within_write (fun state value => by simp [AgentState.updatedAt, AgentState.get_set, other.symm]) value

/-- The header ends with the update time of the event. -/
theorem applyHeader_updated (ran : applyHeader event state = .ok () last) :
    last.updatedAt = .datetime event.observedAt := by
  -- The twelve steps before the update time write other attributes.
  iterate 12 obtain ⟨_, _, _, ran⟩ := bind_ok ran
  obtain ⟨_, _, wrote, ran⟩ := bind_ok ran
  cases wrote
  refine (Within.fixed ?_ ran).trans ?_
  · refine within_seq (write_keepsUpdated (by decide) _) ?_
    refine within_bind (within_read _ _) fun dirty => ?_
    cases dirty with
    | set items => exact write_keepsUpdated (by decide) _
    | _ => exact within_throw _
  · simp [AgentState.updatedAt]

/-- Two states with one update time agree up to the attributes of their creation. -/
theorem Alike.settled (alike : Alike generatedAttrs first second state other)
    (updated : state.updatedAt = other.updatedAt) :
    Alike creationAttrs first second state other where
  attrs part name := by
    rcases alike.attrs part name with same | ⟨generated, fresh⟩
    · exact Or.inl same
    · rcases List.mem_cons.mp generated with named | created
      · cases named
        exact Or.inl updated
      · exact Or.inr ⟨created, fresh⟩
  fieldMeta := alike.fieldMeta
  extensions := alike.extensions

theorem Alike.unsettled (alike : Alike creationAttrs first second state other) :
    Alike generatedAttrs first second state other where
  attrs part name := (alike.attrs part name).imp_right fun ⟨created, fresh⟩ =>
    ⟨List.mem_cons_of_mem _ created, fresh⟩
  fieldMeta := alike.fieldMeta
  extensions := alike.extensions

/-- An event leaves two alike states alike up to the attributes of their creation. -/
theorem handle_alike (alike : Alike generatedAttrs first second state other)
    (ran : handle env event state = .ok () last) :
    ∃ reached, handle env event other = .ok () reached ∧
      Alike creationAttrs first second last reached := by
  obtain ⟨reached, repeated, related⟩ := (alikeHandles first second).handle env event
    (fun _ => trivial) state other () last alike ran
  obtain ⟨_, _, _, headed⟩ := bind_ok ran
  obtain ⟨_, _, _, answered⟩ := bind_ok repeated
  refine ⟨reached, repeated, related.settled ?_⟩
  rw [applyHeader_updated headed, applyHeader_updated answered]

end Settled

/-- Two stored states agree up to the attributes that a new state generates. -/
def SameState (state other : AgentState) : Prop :=
  ∃ first second, Alike creationAttrs first second state other

/-- A replayed store holds the same log, the same orders, and the same states. -/
structure Replayed (store replayed : Store) : Prop where
  states : ∀ key, Option.Rel SameState (store.states key) (replayed.states key)
  lastOrder : replayed.lastOrder = store.lastOrder
  events : replayed.events = store.events

theorem replayed_empty : Replayed Store.empty Store.empty := ⟨fun _ => .none, rfl, rfl⟩

section Replay
variable {env : Environment} {fresh : Fresh} {received event : AgentStateEvent}
  {store next replayed : Store}

/-- A store accepts an event that exceeds its order and that its updates allow. -/
theorem appendEvent_accepts {state : AgentState}
    (sequenced : event.sequenced (store.order event.key) = .ok event)
    (different : event.order.eq (store.order event.key) = false)
    (later : event.order.before (store.order event.key) = .ok false)
    (handled : handle env event (store.target fresh event) = .ok () state) :
    ∃ result, appendEvent env fresh event store = .ok result (store.accept event state) ∧
      result.accepted = true := by
  have applied : onState event.key (newAgentState fresh event.sessionId event.taskId
      (.str "default")) (handle env event) store =
        .ok () { store with states := Function.update store.states event.key (some state) } :=
    zoom_of_ok handled
  rw [appendEvent_eq]
  simp only [get_bind, lift_bind, sequenced, different, later, Bool.false_eq_true, if_false]
  unfold handle at applied
  rw [bind_of_ok applied]
  exact ⟨_, rfl, rfl⟩

/-- An event changes alike states. -/
theorem Replayed.target (same : Replayed store replayed) (fresh again : Fresh)
    (event : AgentStateEvent) : ∃ first second, Alike generatedAttrs first second
      (store.target fresh event) (replayed.target again event) := by
  have related := same.states event.key
  unfold Store.target
  generalize store.states event.key = stored, replayed.states event.key = restored at related
  cases related with
  | none => exact ⟨fresh, again, newAgentState_alike fresh again _ _ _⟩
  | some found =>
      obtain ⟨first, second, alike⟩ := found
      exact ⟨first, second, alike.unsettled⟩

theorem Replayed.order (same : Replayed store replayed) (key : StateKey) :
    replayed.order key = store.order key := by
  rw [Store.order, Store.order, same.lastOrder]

/-- Two stores accept one event with alike states. -/
theorem Replayed.accept (same : Replayed store replayed) {first second : Fresh}
    {state other : AgentState} (alike : Alike creationAttrs first second state other) :
    Replayed (store.accept event state) (replayed.accept event other) where
  states key := by
    change Option.Rel _ (Function.update store.states event.key (some state) key)
      (Function.update replayed.states event.key (some other) key)
    by_cases own : key = event.key
    · subst own
      rw [Function.update_self, Function.update_self]
      exact .some ⟨first, second, alike⟩
    · rw [Function.update_of_ne own, Function.update_of_ne own]
      exact same.states key
  lastOrder := by simp only [Store.accept, same.lastOrder]
  events := congrArg (· ++ [event]) same.events

/-- An event leaves no trace, or its replay is accepted. -/
theorem replay_step {result : AppendResult} (same : Replayed store replayed)
    (ran : appendEvent env fresh received store = .ok result next) :
    next = store ∨ ∃ event, next.events = store.events ++ [event] ∧ ∀ again,
      ∃ answer reached, appendEvent env again event replayed = .ok answer reached ∧
        answer.accepted = true ∧ Replayed next reached := by
  obtain ⟨event, sequenced, ⟨_, unchanged⟩ | ⟨_, different, later, state, handled, rfl⟩⟩ :=
    appendEvent_cases ran
  · exact Or.inl unchanged
  · refine Or.inr ⟨event, rfl, fun again => ?_⟩
    rw [← sequenced_key sequenced, ← same.order] at sequenced different later
    obtain ⟨first, second, alike⟩ := same.target fresh again event
    obtain ⟨reached, repeated, related⟩ := handle_alike alike handled
    obtain ⟨answer, appended, accepted⟩ :=
      appendEvent_accepts (sequenced_again sequenced) different later repeated
    exact ⟨answer, _, appended, accepted, same.accept related⟩

/-- A run appends to the log. -/
theorem appendEvents_logged {calls : List (Fresh × AgentStateEvent)} {results : List AppendResult}
    (ran : appendEvents env calls store = .ok results next) :
    ∃ logged, next.events = store.events ++ logged := by
  induction calls generalizing store results with
  | nil =>
      cases ran
      exact ⟨[], (List.append_nil _).symm⟩
  | cons call rest ih =>
      unfold appendEvents at ran
      rw [List.mapM_cons] at ran
      obtain ⟨result, middle, first, following⟩ := bind_ok ran
      obtain ⟨others, last, after, finished⟩ := bind_ok following
      cases finished
      obtain ⟨logged, grown⟩ := ih after
      obtain ⟨event, _, ⟨_, rfl⟩ | ⟨_, _, _, state, _, rfl⟩⟩ := appendEvent_cases first
      · exact ⟨logged, grown⟩
      · exact ⟨event :: logged, grown.trans (List.append_assoc _ _ _)⟩

/-- The replay of the events that a run logged repeats the run. -/
theorem replay_run {calls replay : List (Fresh × AgentStateEvent)} {results : List AppendResult}
    (same : Replayed store replayed) (ran : appendEvents env calls store = .ok results next)
    (logged : next.events = store.events ++ replay.map Prod.snd) :
    ∃ answers reached, appendEvents env replay replayed = .ok answers reached ∧
      (∀ answer ∈ answers, answer.accepted = true) ∧ Replayed next reached := by
  induction calls generalizing store replayed results replay with
  | nil =>
      cases ran
      cases List.map_eq_nil_iff.mp (List.self_eq_append_right.mp logged)
      exact ⟨[], replayed, rfl, fun _ member => absurd member List.not_mem_nil, same⟩
  | cons call rest ih =>
      unfold appendEvents at ran
      rw [List.mapM_cons] at ran
      obtain ⟨result, middle, first, following⟩ := bind_ok ran
      obtain ⟨others, last, after, finished⟩ := bind_ok following
      cases finished
      rcases replay_step same first with rfl | ⟨event, grown, accepts⟩
      · exact ih same after logged
      · obtain ⟨later, grows⟩ := appendEvents_logged after
        rw [grows, grown, List.append_assoc, List.append_cancel_left_eq] at logged
        cases replay with
        | nil => cases logged
        | cons head tail =>
            obtain ⟨again, repeated⟩ := head
            cases logged
            obtain ⟨answer, reached, appended, accepted, related⟩ := accepts again
            obtain ⟨answers, final, continued, every, finished⟩ := ih related after grows
            refine ⟨answer :: answers, final, ?_, ?_, finished⟩
            · unfold appendEvents at continued ⊢
              rw [List.mapM_cons, bind_of_ok appended, bind_of_ok continued]
              rfl
            · exact List.forall_mem_cons.mpr ⟨accepted, every⟩

end Replay

section Demo

/-- The second event is a duplicate of the first one. The store numbers the third event. -/
def demoAppends : List (Fresh × AgentStateEvent) :=
  [(⟨"first", 0⟩, demoEvent 3), (⟨"second", 0⟩, demoEvent 3), (⟨"third", 0⟩, demoEvent 0)]

/-- A replay at a later time. -/
def demoReplay (store : Store) : List (Fresh × AgentStateEvent) :=
  store.events.map fun event => (⟨"again", 1⟩, event)

end Demo

end StateFlow.State
