import StateFlow.Proof.State.Preservation

namespace StateFlow.State
open Python Table Effect Scheduler

section Attributes
variable {part : Section} {name : String} {A : Type} {answers : A → Prop}

theorem completes_read (part : Section) (name : String) :
    Completes Typed (read part name) fun value => (kindOf part name).admits value = true :=
  fun state typed => ⟨_, state, rfl, typed, typed.admitted part name⟩

theorem completes_read_number (kind : kindOf part name = .number) :
    Completes Typed (read part name) IsNumber :=
  fun state typed => ⟨_, state, rfl, typed, typed.number kind⟩

theorem completes_read_integer (kind : kindOf part name = .integer) :
    Completes Typed (read part name) fun value => wholeNumber value = true :=
  fun state typed => ⟨_, state, rfl, typed, typed.integer kind⟩

theorem completes_read_double (kind : kindOf part name = .double) :
    Completes Typed (read part name) fun value => value.double.isOk = true :=
  fun state typed => ⟨_, state, rfl, typed, typed.double kind⟩

theorem completes_write {value : Value} (admits : (kindOf part name).admits value = true) :
    Completes Typed (write part name value) fun _ => True :=
  completes_modify fun _ typed => typed.set_value admits

theorem completes_write_any (value : Value) (free : kindOf part name = .any) :
    Completes Typed (write part name value) fun _ => True :=
  completes_modify fun _ typed => typed.set_any value free

theorem completes_write_number {value : Value} (numeric : IsNumber value)
    (kind : kindOf part name = .number) : Completes Typed (write part name value) fun _ => True :=
  completes_modify fun _ typed => typed.set_number numeric kind

theorem completes_write_integer {value : Value} (whole : wholeNumber value = true)
    (kind : kindOf part name = .integer) : Completes Typed (write part name value) fun _ => True :=
  completes_write (by rw [kind]; exact whole)

theorem completes_write_double {value : Value} (converts : value.double.isOk = true)
    (kind : kindOf part name = .double) : Completes Typed (write part name value) fun _ => True :=
  completes_write (by rw [kind]; exact converts)

end Attributes

/-- Every stored value of the attribute converts the reported one. -/
def Converts (part : Section) (key : String) (value : Value) : Prop :=
  ∀ text old name, (kindOf part key).admits old = true →
    Yields (convertForField text old value name) fun _ => True

/-- A number and a plain value are replaced without a conversion. -/
theorem converts_plain {part : Section} {key : String} (value : Value)
    (plain : kindOf part key ∈ [.number, .scalar, .optionalNumber]) : Converts part key value := by
  intro text old name stored
  simp only [List.mem_cons, List.not_mem_nil, or_false] at plain
  rcases plain with kind | kind | kind <;> rw [kind] at stored <;>
    cases old <;> first | exact Bool.noConfusion stored | exact yields_ok trivial

/-- A list of texts becomes a set of texts. -/
theorem toSet_texts (names : List String) :
    Yields ((Value.list (names.map .str)).orElse (.list [])).toSet fun set =>
      Kind.textSet.admits set = true := by
  have iterated : ((Value.list (names.map .str)).orElse (.list [])).iter = .ok (names.map .str) := by
    unfold Value.orElse
    split
    · rfl
    · rename_i empty
      cases names with
      | nil => rfl
      | cons => exact absurd rfl empty
  have all (test : Value → Bool) (texts : ∀ name, test (.str name) = true) :
      (names.map Value.str).all test = true :=
    List.all_eq_true.mpr fun item member => by
      obtain ⟨name, _, rfl⟩ := List.mem_map.mp member
      exact texts name
  unfold Value.toSet
  rw [iterated]
  refine ⟨.set (distinct (names.map .str)), ?_, distinct_all (all _ fun _ => rfl)⟩
  change (if (names.map Value.str).all Value.hashable then _ else _) = _
  rw [if_pos (all _ fun _ => rfl)]
  rfl

theorem converts_texts {part : Section} {key : String} (names : List String)
    (kind : kindOf part key = .set) : Converts part key (.list (names.map .str)) := by
  intro text old name stored
  rw [kind] at stored
  cases old with
  | set items => exact (toSet_texts names).any
  | _ => cases stored

section Steps
variable {env : Environment} {event : AgentStateEvent}

section Expires
variable (expires : (event.field .none).representable = true)
include expires

theorem completes_mark (name : MarkName) : Completes Typed (mark event name) fun _ => True :=
  completes_modify fun _ typed => typed.marked expires

theorem completes_setField {part : Section} {key : String} {value : Value}
    (accepted : (kindOf part key).accepts value = true) (converts : Converts part key value) :
    Completes Typed (setField env event part key value) fun _ => True := by
  refine completes_ite (fun _ => completes_pure trivial) fun _ => ?_
  refine completes_bind (completes_read part key) fun old stored => ?_
  obtain ⟨converted, returned, _⟩ := converts env.toText old (part.label ++ "." ++ key) stored
  rw [returned]
  exact completes_seq (completes_write (convertForField_admits stored accepted returned))
    (completes_mark expires _)

theorem completes_setSection {part : Section} {items : List (String × Value)}
    (patch : patchTyped part (.dict items) = true)
    (converts : ∀ entry ∈ items, Converts part entry.1 entry.2) :
    Completes Typed (setSection env event part (.dict items)) fun _ => True := by
  unfold setSection
  refine completes_seq (completes_forM fun entry member => ?_) ?_
  · exact completes_setField expires (List.all_eq_true.mp patch entry member) (converts entry member)
  · refine completes_ite (fun _ => ?_) fun _ => completes_pure trivial
    refine completes_bind (completes_read_integer rfl) fun total counted => ?_
    refine completes_bind (completes_read_integer rfl) fun prompt known => ?_
    exact completes_lift_bind (max_integers counted known) fun largest whole =>
      completes_write_integer whole rfl

/-- A reported mapping has the types of a section, and each entry converts. -/
structure Patches (part : Section) (value : Value) : Prop where
  mapping : ∃ items, value = .dict items ∧ ∀ entry ∈ items, Converts part entry.1 entry.2
  typed : patchTyped part value = true

theorem completes_setPresent {part : Section} {key : String}
    (patches : ∀ value, event.payload.lookup key = some value → Patches part value) :
    Completes Typed (setPresent env event part key) fun _ => True := by
  unfold setPresent
  split
  · rename_i value found
    obtain ⟨⟨items, rfl, converts⟩, typed⟩ := patches value found
    exact completes_setSection expires typed converts
  · exact completes_pure trivial

/-- The identity of an event whose attributes convert is applied. -/
theorem completes_applyIdentity
    (patches : ∀ entry ∈ identityPatch env (event.nested "identity"),
      (kindOf .identity entry.1).accepts entry.2 = true ∧ Converts .identity entry.1 entry.2) :
    Completes Typed (applyIdentity env event (event.nested "identity")) fun _ => True := by
  unfold applyIdentity
  extract_lets entries
  refine completes_ite (fun _ => ?_) fun _ => completes_pure trivial
  refine completes_seq (completes_setSection expires ?_ fun entry member => (patches entry member).2) ?_
  · exact List.all_eq_true.mpr fun entry member => (patches entry member).1
  · split
    · exact completes_write rfl
    · exact completes_pure trivial

theorem completes_setPhase (phase : AgentPhase) : Completes Typed (setPhase event phase) fun _ => True := by
  unfold setPhase
  refine completes_bind (completes_read _ _) fun current _ => ?_
  extract_lets last
  have ends : ∀ done, Completes Typed (last done) fun _ => True := fun _ => completes_mark expires _
  split
  · refine completes_seq (completes_write_any _ rfl) ?_
    refine completes_seq (completes_write_any _ rfl) ?_
    exact completes_bind (completes_write rfl) fun done _ => ends done
  · exact ends ()

theorem completes_applyNextAction : Completes Typed (applyNextAction env event) fun _ => True := by
  unfold applyNextAction
  extract_lets payload nextAction
  refine completes_ite (fun _ => ?_) fun _ => completes_ite (fun _ => ?_) fun _ => ?_
  · refine completes_seq (completes_write_double rfl rfl) ?_
    exact completes_seq (completes_write_any _ rfl) (completes_setPhase expires _)
  · exact completes_seq (completes_write_any _ rfl) (completes_setPhase expires _)
  · exact completes_seq (completes_write_any _ rfl) (completes_setPhase expires _)

/-- A failure whose severity is a float is counted. -/
theorem completes_applyFailure (component : String) {amount : ℚ}
    (severe : getD event.payload "error_severity" (.float 0) = .float amount) :
    Completes Typed (applyFailure env event component) fun _ => True := by
  have converted : Yields (env.float (getD event.payload "error_severity" (.float 0))) fun _ => True := by
    rw [severe]
    exact yields_ok trivial
  unfold applyFailure
  refine completes_bind (completes_read_number rfl) fun retries known => ?_
  refine completes_lift_bind (add_one known) fun sum added => ?_
  refine completes_seq (completes_write_number added rfl) ?_
  refine completes_bind (completes_read_number rfl) fun streak known => ?_
  refine completes_lift_bind (add_one known) fun sum added => ?_
  refine completes_seq (completes_write_number added rfl) ?_
  refine completes_seq (completes_write_any _ rfl) (completes_seq (completes_write_any _ rfl) ?_)
  refine completes_lift_bind converted fun severity _ => ?_
  refine completes_bind (completes_read_double rfl) fun previous known => ?_
  refine completes_lift_bind (max_doubles known rfl) fun largest converts => ?_
  refine completes_seq (completes_write_double converts rfl) (completes_seq (completes_write_any _ rfl) ?_)
  refine completes_bind (completes_read_number rfl) fun streak counted => ?_
  refine completes_seq (completes_write_number counted rfl) (completes_seq (completes_write_any _ rfl) ?_)
  refine completes_seq (completes_setPhase expires _) (completes_seq (completes_mark expires _) ?_)
  exact completes_seq (completes_mark expires _) (completes_mark expires _)

/-- A model request whose entries convert is applied. -/
theorem completes_applyModelRequest
    (counts : ∀ key ∈ ["prompt_tokens", "predicted_output_tokens"], ∀ value,
      event.payload.lookup key = some value → Yields (tokenCount env value) fun _ => True)
    (names : ∀ value, event.payload.lookup "required_capabilities" = some value →
      Yields (value.orElse (.list [])).toSet fun names => Kind.textSet.admits names = true)
    (patches : ∀ part ∈ [Section.context, .security, .inference, .qos], ∀ value,
      event.payload.lookup part.label = some value → Patches part value) :
    Completes Typed (applyModelRequest env event) fun _ => True := by
  have patch (part : Section) (listed : part ∈ [Section.context, .security, .inference, .qos]) :
      Completes Typed (setPresent env event part part.label) fun _ => True :=
    completes_setPresent expires (patches part listed)
  have counted {value : Value} {key : String} (listed : key ∈ ["prompt_tokens", "predicted_output_tokens"])
      (found : event.payload.lookup key = some value) :
      Yields (tokenCount env value) fun tokens => wholeNumber tokens = true := by
    obtain ⟨tokens, returned, _⟩ := counts key listed value found
    obtain ⟨count, _, rfl⟩ := tokenCount_ok env returned
    exact ⟨_, returned, wholeNumber_int count⟩
  unfold applyModelRequest
  extract_lets payload afterCapabilities afterOutput afterPrompt afterModel afterStep
  -- The branches join in the reverse order of the steps.
  have capabilities : ∀ done, Completes Typed (afterCapabilities done) fun _ => True := by
    intro done
    refine completes_seq (patch .security (by decide)) (completes_seq (patch .inference (by decide)) ?_)
    refine completes_seq (patch .qos (by decide)) (completes_seq (completes_mark expires _) ?_)
    exact completes_seq (completes_mark expires _) (completes_mark expires _)
  have output : ∀ done, Completes Typed (afterOutput done) fun _ => True := by
    intro done
    refine completes_seq (patch .context (by decide)) ?_
    split
    · rename_i value found
      refine completes_lift_bind (names value found) fun set texts => ?_
      exact completes_bind (completes_write texts) fun done _ => capabilities done
    · exact capabilities ()
  have prompt : ∀ done, Completes Typed (afterPrompt done) fun _ => True := by
    intro done
    simp only [afterPrompt]
    split
    · rename_i value found
      refine completes_lift_bind (counted (by decide) found) fun tokens whole => ?_
      exact completes_bind (completes_write_number (isNumber_integer whole) rfl) fun done _ => output done
    · exact output ()
  have model : ∀ done, Completes Typed (afterModel done) fun _ => True := by
    intro done
    simp only [afterModel]
    split
    · rename_i value found
      refine completes_lift_bind (counted (by decide) found) fun tokens whole => ?_
      refine completes_seq (completes_write_number (isNumber_integer whole) rfl) ?_
      refine completes_seq (completes_write_integer whole rfl) ?_
      refine completes_bind (completes_read_integer rfl) fun total known => ?_
      refine completes_lift_bind (max_integers known whole) fun largest greatest => ?_
      exact completes_bind (completes_write_integer greatest rfl) fun done _ => prompt done
    · exact prompt ()
  have step : ∀ done, Completes Typed (afterStep done) fun _ => True := by
    intro done
    refine completes_bind (completes_read _ _) fun stored _ => ?_
    refine completes_ite (fun _ => ?_) fun _ => model ()
    refine completes_seq (completes_write_any _ rfl) ?_
    exact completes_bind (completes_mark expires _) fun done _ => model done
  refine completes_seq (completes_setPhase expires _) (completes_seq (completes_write_any _ rfl) ?_)
  exact completes_ite (fun _ => completes_bind (completes_write_any _ rfl) fun done _ => step done)
    fun _ => step ()

/-- A successful response without further patches is applied. -/
theorem completes_applyModelResponse (succeeded : event.succeeded = true)
    (counts : ∀ value, event.payload.lookup "output_tokens" = some value →
      Yields (tokenCount env value) fun _ => True)
    (absent : ∀ key ∈ ["progress", "progress_signals", "prediction"], event.payload.lookup key = none) :
    Completes Typed (applyModelResponse env event) fun _ => True := by
  have patch (part : Section) {key : String} (missing : event.payload.lookup key = none) :
      Completes Typed (setPresent env event part key) fun _ => True :=
    completes_setPresent expires fun value found => by cases missing.symm.trans found
  unfold applyModelResponse
  extract_lets payload afterOutcome afterProgress afterOutput
  have outcome : ∀ done, Completes Typed (afterOutcome done) fun _ => True := fun _ =>
    completes_seq (completes_mark expires _) (completes_mark expires _)
  have progress : ∀ done, Completes Typed (afterProgress done) fun _ => True := by
    intro done
    refine completes_seq (patch .progressSignals (absent _ (by decide))) ?_
    refine completes_seq (patch .prediction (absent _ (by decide))) ?_
    refine completes_seq (completes_applyNextAction expires) ?_
    rw [if_pos succeeded]
    refine completes_seq (completes_write_number (isNumber_int 0) rfl) ?_
    exact completes_bind (completes_write_number (isNumber_int 0) rfl) fun done _ => outcome done
  have output : ∀ done, Completes Typed (afterOutput done) fun _ => True := by
    intro done
    simp only [afterOutput]
    split
    · rename_i value found
      cases (absent "progress" (by decide)).symm.trans found
    · exact progress ()
  split
  · rename_i value found
    obtain ⟨tokens, returned, _⟩ := counts value found
    obtain ⟨count, _, rfl⟩ := tokenCount_ok env returned
    have known : Yields (tokenCount env value) fun tokens => wholeNumber tokens = true :=
      ⟨_, returned, wholeNumber_int count⟩
    refine completes_lift_bind known fun tokens whole => ?_
    refine completes_bind (completes_read_integer rfl) fun assistant known => ?_
    refine completes_lift_bind (add_integers known whole) fun sum added => ?_
    refine completes_seq (completes_write_integer added rfl) ?_
    refine completes_bind (completes_read_integer rfl) fun total known => ?_
    refine completes_lift_bind (add_integers known whole) fun sum added => ?_
    exact completes_bind (completes_write_integer added rfl) fun done _ => output done
  · exact output ()

end Expires

theorem completes_applyHeader (sequence : IsNumber event.sequence) :
    Completes Typed (applyHeader event) fun _ => True := by
  have text (name value : String) (free : kindOf .header name = .any) :
      Completes Typed (setHeaderText name value) fun _ => True :=
    completes_ite (fun _ => completes_write_any _ free) fun _ => completes_pure trivial
  unfold applyHeader
  refine completes_seq (completes_write_any _ rfl) (completes_seq (completes_write_any _ rfl) ?_)
  refine completes_bind (completes_read_number rfl) fun turn counted => ?_
  refine completes_lift_bind (max_numbers counted (isNumber_int _)) fun largest numeric => ?_
  refine completes_seq (completes_write_number numeric rfl) ?_
  iterate 5 refine completes_seq (text _ _ rfl) ?_
  refine completes_seq (completes_write_number (isNumber_int _) rfl) ?_
  refine completes_seq (completes_write_number sequence rfl) ?_
  refine completes_seq (completes_write_any _ rfl) (completes_seq (completes_write_any _ rfl) ?_)
  refine completes_bind (completes_read .header "dirty_fields") fun dirty stored => ?_
  cases dirty with
  | set items =>
      refine completes_write (distinct_all ?_)
      rw [List.all_append, Bool.and_eq_true]
      exact ⟨stored, List.all_eq_true.mpr fun item member => by
        obtain ⟨entry, _, rfl⟩ := List.mem_map.mp member
        rfl⟩
  | _ => cases stored

/-- An event whose identity and class are applied is handled. -/
theorem completes_handle (expires : (event.field .none).representable = true)
    (identity : ∀ entry ∈ identityPatch env (event.nested "identity"),
      (kindOf .identity entry.1).accepts entry.2 = true ∧ Converts .identity entry.1 entry.2)
    (applied : Completes Typed (applyClass env event (event.kind env)) fun _ => True)
    (sequence : IsNumber event.sequence) : Completes Typed (State.handle env event) fun _ => True :=
  completes_seq (completes_seq (completes_applyIdentity expires identity) applied)
    (completes_applyHeader sequence)

end Steps

section Append
variable {env : Environment} {fresh : Fresh} {store : Store}

theorem before_ok {first second : Order} (left : IsNumber first.1 ∧ IsNumber first.2)
    (right : IsNumber second.1 ∧ IsNumber second.2) : Yields (first.before second) fun _ => True := by
  unfold Order.before
  split
  · split
    · exact yields_ok trivial
    · exact lt_number left.2 right.2
  · exact lt_number left.1 right.1

theorem sequenced_ok {received : AgentStateEvent} {last : Order} (explicit : IsNumber received.sequence)
    (known : IsNumber last.2) : Yields (received.sequenced last) fun _ => True := by
  unfold AgentStateEvent.sequenced
  refine yields_bind (lt_number (isNumber_int 0) explicit) fun positive _ => ?_
  split
  · exact yields_pure trivial
  · split
    · exact yields_bind (add_one known) fun _ _ => yields_pure trivial
    · exact yields_pure trivial

/-- An update that returns on typed states returns on a typed store. -/
theorem completes_onState {A : Type} {key : StateKey} {created : AgentState} {update : Update A}
    (start : Typed created) (total : Completes Typed update fun _ => True) :
    Completes TypedStore (onState key created update) fun _ => True :=
  completes_zoom total (fun _ typed => stored_target (typed.states key) start)
    fun _ _ typed inside => ⟨stored_update typed.states rfl inside, typed.orders⟩

/-- The store answers an event whose handler never raises. -/
theorem completes_appendEvent {received : AgentStateEvent} (explicit : IsNumber received.sequence)
    (handled : ∀ sequence, IsNumber sequence →
      Completes Typed (State.handle env { received with sequence := sequence }) fun _ => True) :
    Completes TypedStore (appendEvent env fresh received) fun _ => True := by
  rw [appendEvent_eq]
  refine completes_get_bind fun store inside => ?_
  obtain ⟨event, sequenced, _⟩ := sequenced_ok explicit (inside.order received.key).2
  have numeric := sequenced_number (inside.order received.key).2 sequenced
  have applied : Completes Typed (State.handle env event) fun _ => True := by
    rw [sequenced_same sequenced]
    exact handled event.sequence numeric
  have assigned : Yields (received.sequenced (store.order received.key)) fun found => found = event :=
    ⟨event, sequenced, rfl⟩
  refine completes_lift_bind assigned fun found same => ?_
  subst same
  refine completes_ite (fun _ => completes_pure trivial) fun _ => ?_
  refine completes_lift_bind (before_ok ⟨isNumber_int _, numeric⟩ (inside.order received.key))
    fun stale _ => ?_
  refine completes_ite (fun _ => completes_pure trivial) fun _ => ?_
  refine completes_seq (completes_onState (newAgentState_typed fresh _ _ rfl) applied) ?_
  refine completes_seq (completes_modify fun store kept => ?_) ?_
  · exact ⟨kept.states, keeps_order (isNumber_int _) numeric kept⟩
  · exact completes_get_bind fun _ _ => completes_pure trivial

end Append

end StateFlow.State
