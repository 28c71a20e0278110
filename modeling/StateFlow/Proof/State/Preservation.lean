import Mathlib.Data.List.GetD
import StateFlow.Construction.State.Calls
import StateFlow.Proof.State.Tokens
import StateFlow.Proof.State.Typing

namespace StateFlow.State
open Python Table Effect Scheduler

section Attributes
variable {part : Section} {name : String}

theorem keeps_read (part : Section) (name : String) :
    Keeps Typed (read part name) fun value => (kindOf part name).admits value = true :=
  fun _ typed => ⟨typed, typed.admitted part name⟩

theorem keeps_read_number (kind : kindOf part name = .number) :
    Keeps Typed (read part name) IsNumber :=
  fun _ typed => ⟨typed, typed.number kind⟩

theorem keeps_read_integer (kind : kindOf part name = .integer) :
    Keeps Typed (read part name) fun value => wholeNumber value = true :=
  fun _ typed => ⟨typed, typed.integer kind⟩

theorem keeps_read_double (kind : kindOf part name = .double) :
    Keeps Typed (read part name) fun value => value.double.isOk = true :=
  fun _ typed => ⟨typed, typed.double kind⟩

theorem keeps_write {value : Value} (admits : (kindOf part name).admits value = true) :
    Keeps Typed (write part name value) fun _ => True :=
  keeps_modify fun _ typed => typed.set_value admits

theorem keeps_write_any (value : Value) (free : kindOf part name = .any) :
    Keeps Typed (write part name value) fun _ => True :=
  keeps_modify fun _ typed => typed.set_any value free

theorem keeps_write_number {value : Value} (numeric : IsNumber value)
    (kind : kindOf part name = .number) : Keeps Typed (write part name value) fun _ => True :=
  keeps_modify fun _ typed => typed.set_number numeric kind

theorem keeps_write_integer {value : Value} (whole : wholeNumber value = true)
    (kind : kindOf part name = .integer) : Keeps Typed (write part name value) fun _ => True :=
  keeps_write (by rw [kind]; exact whole)

theorem keeps_write_double {value : Value} (converts : value.double.isOk = true)
    (kind : kindOf part name = .double) : Keeps Typed (write part name value) fun _ => True :=
  keeps_write (by rw [kind]; exact converts)

end Attributes

/-- The entries of a patch have the types of their attributes. -/
def patchTyped (part : Section) : Value → Bool
  | .dict items => items.all fun entry => (kindOf part entry.1).accepts entry.2
  | _ => true

/-- The payload of these classes may be the patch of a section itself. -/
def EventClass.inlined : EventClass → List Section
  | .started => [.task]
  | .turnStarted => [.context]
  | .compaction => [.context]
  | .sectionUpdate part => [part]
  | _ => []

/-- The patches of an event have the types of their attributes, and its marks expire in time. -/
structure TypedEvent (env : Environment) (event : AgentStateEvent) : Prop where
  expires : (event.field .none).representable = true
  identity : patchTyped .identity (.dict (identityPatch env (event.nested "identity"))) = true
  patches : ∀ part value, event.payload.lookup part.label = some value → patchTyped part value = true
  inlined : ∀ part ∈ (event.kind env).inlined, patchTyped part (event.nested part.label) = true
  capabilities : event.kind env = .modelRequest →
    ∀ value, event.payload.lookup "required_capabilities" = some value → Kind.textItems value = true
  extensions : event.kind env = .patch → ∀ value items, event.payload.lookup "extensions" = some value →
    (value.orElse (.dict [])).toDict = .ok items →
      ∀ entry ∈ items, entry.1 = urgencyName → entry.2.double.isOk = true
  marks : event.kind env = .patch → ∀ value items, event.payload.lookup "state_fields" = some value →
    (value.orElse (.dict [])).toDict = .ok items →
      ∀ name payload sequence field, (name, .dict payload) ∈ items →
        metaField env { event with sequence := sequence } payload = .ok field →
          field.representable = true

section Steps
variable {env : Environment} {event : AgentStateEvent}

/-- A representable mark keeps a state typed. -/
theorem Typed.marked {state : AgentState} (typed : Typed state) {name : String} {field : StateField}
    (valid : field.representable = true) :
    Typed { state with fieldMeta := assign name field state.fieldMeta } := by
  refine ⟨typed.admitted, fun entry inside => ?_, typed.urgency⟩
  rcases mem_assign inside with rfl | known
  · exact valid
  · exact typed.marks entry known

variable (expires : (event.field .none).representable = true)
include expires

theorem keeps_mark (name : MarkName) : Keeps Typed (mark event name) fun _ => True :=
  keeps_modify fun _ typed => typed.marked expires

/-- A patched attribute keeps its type. -/
theorem keeps_setField {part : Section} {key : String} {value : Value}
    (accepted : (kindOf part key).accepts value = true) :
    Keeps Typed (setField env event part key value) fun _ => True := by
  refine keeps_ite (fun _ => keeps_pure trivial) fun _ => ?_
  refine keeps_bind (keeps_read part key) fun old stored => ?_
  refine keeps_lift_bind fun converted returned => ?_
  refine keeps_seq (keeps_write (convertForField_admits stored accepted returned)) ?_
  exact keeps_mark expires _

theorem keeps_setSection {part : Section} {payload : Value} (patch : patchTyped part payload = true) :
    Keeps Typed (setSection env event part payload) fun _ => True := by
  unfold setSection
  split
  · rename_i items
    refine keeps_seq (keeps_forM fun entry member => ?_) ?_
    · exact keeps_setField expires (List.all_eq_true.mp patch entry member)
    · refine keeps_ite (fun _ => ?_) fun _ => keeps_pure trivial
      refine keeps_bind (keeps_read_integer rfl) fun total counted => ?_
      refine keeps_bind (keeps_read_integer rfl) fun prompt known => ?_
      exact keeps_yields_bind (max_integers counted known) fun largest whole =>
        keeps_write_integer whole rfl
  · exact keeps_pure trivial

theorem keeps_setPresent {part : Section} {key : String}
    (patch : ∀ value, event.payload.lookup key = some value → patchTyped part value = true) :
    Keeps Typed (setPresent env event part key) fun _ => True := by
  unfold setPresent
  split
  · rename_i value found
    exact keeps_setSection expires (patch value found)
  · exact keeps_pure trivial

theorem keeps_setPhase (phase : AgentPhase) : Keeps Typed (setPhase event phase) fun _ => True := by
  unfold setPhase
  refine keeps_bind (keeps_read _ _) fun current _ => ?_
  extract_lets last
  have ends : ∀ done, Keeps Typed (last done) fun _ => True := fun _ => keeps_mark expires _
  split
  · refine keeps_seq (keeps_write_any _ rfl) ?_
    refine keeps_seq (keeps_write_any _ rfl) ?_
    exact keeps_bind (keeps_write rfl) fun done _ => ends done
  · exact ends ()

theorem keeps_setProgress (progress : ℚ) : Keeps Typed (setProgress event progress) fun _ => True := by
  unfold setProgress
  refine keeps_bind (keeps_read _ _) fun previous _ => ?_
  refine keeps_seq (keeps_write rfl) ?_
  extract_lets last
  have ends : ∀ done, Keeps Typed (last done) fun _ => True := fun _ =>
    keeps_seq (keeps_mark expires _) (keeps_mark expires _)
  split
  · refine keeps_seq (keeps_write_any _ rfl) ?_
    split
    · exact keeps_bind (keeps_write_any _ rfl) fun done _ => ends done
    · refine keeps_bind (keeps_read _ _) fun steps _ => ?_
      refine keeps_lift_bind fun _ _ => ?_
      exact keeps_bind (keeps_write_any _ rfl) fun done _ => ends done
  · exact keeps_bind (keeps_throw _) fun impossible (_ : True) => ends impossible

theorem keeps_applyIdentity
    (patch : patchTyped .identity (.dict (identityPatch env (event.nested "identity"))) = true) :
    Keeps Typed (applyIdentity env event (event.nested "identity")) fun _ => True := by
  unfold applyIdentity
  extract_lets entries
  refine keeps_ite (fun _ => ?_) fun _ => keeps_pure trivial
  refine keeps_seq (keeps_setSection expires patch) ?_
  split
  · exact keeps_write rfl
  · exact keeps_pure trivial

end Steps

/-- The header of an event with a numeric sequence keeps a state typed. -/
theorem keeps_applyHeader {event : AgentStateEvent} (sequence : IsNumber event.sequence) :
    Keeps Typed (applyHeader event) fun _ => True := by
  have text (name value : String) (free : kindOf .header name = .any) :
      Keeps Typed (setHeaderText name value) fun _ => True :=
    keeps_ite (fun _ => keeps_write_any _ free) fun _ => keeps_pure trivial
  unfold applyHeader
  refine keeps_seq (keeps_write_any _ rfl) (keeps_seq (keeps_write_any _ rfl) ?_)
  refine keeps_bind (keeps_read_number rfl) fun turn counted => ?_
  refine keeps_yields_bind (max_numbers counted (isNumber_int _)) fun largest numeric => ?_
  refine keeps_seq (keeps_write_number numeric rfl) ?_
  iterate 5 refine keeps_seq (text _ _ rfl) ?_
  refine keeps_seq (keeps_write_number (isNumber_int _) rfl) ?_
  refine keeps_seq (keeps_write_number sequence rfl) ?_
  refine keeps_seq (keeps_write_any _ rfl) (keeps_seq (keeps_write_any _ rfl) ?_)
  refine keeps_bind (keeps_read .header "dirty_fields") fun dirty stored => ?_
  cases dirty with
  | set items =>
      refine keeps_write (distinct_all ?_)
      rw [List.all_append, Bool.and_eq_true]
      exact ⟨stored, List.all_eq_true.mpr fun item member => by
        obtain ⟨entry, _, rfl⟩ := List.mem_map.mp member
        rfl⟩
  | _ => exact keeps_throw _

section Tools

/-- An attribute of a tool, when it can be read. -/
def ToolReads (index : Nat) (name : String) (value : Value) (state : AgentState) : Prop :=
  ∀ items, (state.get .tools "active_tools").iter = .ok items →
    ∀ found, (items.getD index .none).attr name = .ok found → found = value

theorem keeps_readTool (index : Nat) : Keeps Typed (readTool index) fun _ => True :=
  keeps_bind (keeps_read _ _) fun _ _ => keeps_lift_bind fun _ _ => keeps_pure trivial

theorem keeps_getToolAttr (index : Nat) (name : String) :
    Keeps Typed (getToolAttr index name) fun _ => True :=
  keeps_bind (keeps_readTool index) fun _ _ => keeps_lift fun _ _ => trivial

theorem container_setItem {tools : Value} (stored : Kind.container.admits tools = true) (index : Nat)
    (tool : Value) : Kind.container.admits (tools.setItem index tool) = true := by
  cases tools with
  | set items => exact stored
  | _ => rfl

theorem keeps_setToolAttr (index : Nat) (name : String) (value : Value) :
    Keeps Typed (setToolAttr index name value) fun _ => True := by
  refine keeps_bind (keeps_read .tools "active_tools") fun tools stored => ?_
  refine keeps_bind (keeps_readTool index) fun tool _ => ?_
  exact keeps_lift_bind fun edited _ => keeps_write (container_setItem stored index edited)

/-- Only a record has attributes. -/
theorem attr_object {value found : Value} {name : String} (read : value.attr name = .ok found) :
    ∃ kind attrs, value = .object kind attrs := by
  cases value with
  | object kind attrs => exact ⟨kind, attrs, rfl⟩
  | _ => cases read

/-- Only a list or a tuple holds a record. -/
theorem container_record {tools : Value} (stored : Kind.container.admits tools = true)
    {items : List Value} (iterated : tools.iter = .ok items) {kind : String}
    {attrs : List (String × Value)} (inside : .object kind attrs ∈ items) :
    tools = .list items ∨ tools = .tuple items := by
  cases tools with
  | list found => cases iterated; exact .inl rfl
  | tuple found => cases iterated; exact .inr rfl
  | set found =>
      cases iterated
      exact Bool.noConfusion (List.all_eq_true.mp stored _ inside)
  | dict found =>
      cases iterated
      obtain ⟨_, _, other⟩ := List.mem_map.mp inside
      cases other
  | str letters =>
      cases iterated
      obtain ⟨_, _, other⟩ := List.mem_map.mp inside
      cases other
  | enum owner member =>
      cases iterated
      obtain ⟨_, _, other⟩ := List.mem_map.mp inside
      cases other
  | _ => cases iterated

/-- A list that takes a record at an index holds it there. -/
theorem getD_set {items : List Value} {index : Nat} {item : Value} {kind : String}
    {attrs : List (String × Value)}
    (read : (items.set index item).getD index .none = .object kind attrs) :
    item = .object kind attrs ∧ .object kind attrs ∈ items.set index item := by
  by_cases inside : index < items.length
  · rw [List.getD_eq_getElem _ _ (by simpa using inside), List.getElem_set_self] at read
    exact ⟨read, read ▸ List.mem_set inside item⟩
  · rw [List.getD_eq_default _ _ (by simpa using inside)] at read
    cases read

/-- A tool is read without a change. -/
theorem readTool_ok {index : Nat} {tool : Value} {state last : AgentState}
    (ran : readTool index state = .ok tool last) : last = state := by
  obtain ⟨tools, _, readTools, continued⟩ := bind_ok ran
  cases readTools
  obtain ⟨items, _, iterated, finished⟩ := bind_ok continued
  obtain ⟨_, same⟩ := lift_ok iterated
  cases finished
  exact same

theorem setToolAttr_ok {index : Nat} {name : String} {value : Value} {state last : AgentState}
    (ran : setToolAttr index name value state = .ok () last) :
    ∃ tool edited : Value, tool.setAttr name value = .ok edited ∧
      last = state.set .tools "active_tools"
        ((state.get .tools "active_tools").setItem index edited) := by
  obtain ⟨tools, _, readTools, continued⟩ := bind_ok ran
  cases readTools
  obtain ⟨tool, middle, readOne, continued⟩ := bind_ok continued
  obtain rfl := readTool_ok readOne
  obtain ⟨edited, _, lifted, finished⟩ := bind_ok continued
  obtain ⟨edit, rfl⟩ := lift_ok lifted
  cases finished
  exact ⟨tool, edited, edit, rfl⟩

/-- The attribute of a tool reads as it was written. -/
theorem setToolAttr_reads {index : Nat} {name : String} {value : Value} {state last : AgentState}
    (typed : Typed state) (ran : setToolAttr index name value state = .ok () last) :
    ToolReads index name value last := by
  obtain ⟨tool, edited, edit, rfl⟩ := setToolAttr_ok ran
  have wrote : edited.attr name = .ok value := by rw [attr_setAttr edit, if_pos rfl]
  have stored : Kind.container.admits (state.get .tools "active_tools") = true :=
    typed.admitted .tools "active_tools"
  intro items iterated found read
  rw [AgentState.get_set_same] at iterated
  obtain ⟨kind, attrs, record⟩ := attr_object read
  rw [record] at read
  generalize state.get .tools "active_tools" = tools at stored iterated
  have inside : .object kind attrs ∈ items := by
    by_cases within : index < items.length
    · rw [List.getD_eq_getElem _ _ within] at record
      exact record ▸ List.getElem_mem within
    · rw [List.getD_eq_default _ _ (by simpa using within)] at record
      cases record
  have placed : items.getD index .none = edited := by
    rcases container_record (container_setItem stored index edited) iterated inside with same | same
    · cases tools with
      | list before => cases same; exact (getD_set record).1 ▸ record
      | _ => cases same
    · cases tools with
      | tuple before => cases same; exact (getD_set record).1 ▸ record
      | _ => cases same
  rw [← record, placed, wrote] at read
  exact (Except.ok.inj read).symm

/-- A typed state whose tool reads as it was written. -/
structure Holds (index : Nat) (name : String) (value : Value) (state : AgentState) : Prop where
  typed : Typed state
  reads : ToolReads index name value state

theorem triple_setToolAttr (index : Nat) (name : String) (value : Value) :
    Triple Typed (setToolAttr index name value) (fun _ => Holds index name value) Typed := by
  intro state typed
  have kept := keeps_setToolAttr index name value state typed
  cases ran : setToolAttr index name value state with
  | error error last =>
      rw [ran] at kept
      exact kept
  | ok done last =>
      rw [ran] at kept
      exact ⟨kept.1, setToolAttr_reads typed ran⟩

theorem triple_getToolAttr {index : Nat} {name : String} {value : Value} (query : String) :
    Triple (Holds index name value) (getToolAttr index query)
      (fun found state => Holds index name value state ∧ (query = name → found = value)) Typed := by
  rintro state ⟨typed, reads⟩
  have kept := keeps_getToolAttr index query state typed
  cases ran : getToolAttr index query state with
  | error error last =>
      rw [ran] at kept
      exact kept
  | ok found last =>
      obtain ⟨tool, middle, readOne, lifted⟩ := bind_ok ran
      obtain ⟨fetched, rfl⟩ := lift_ok lifted
      obtain rfl := readTool_ok readOne
      refine ⟨⟨typed, reads⟩, fun same => ?_⟩
      subst same
      obtain ⟨tools, _, readTools, continued⟩ := bind_ok readOne
      cases readTools
      obtain ⟨items, _, iterated, finished⟩ := bind_ok continued
      obtain ⟨listed, _⟩ := lift_ok iterated
      cases finished
      exact reads items listed found fetched

/-- The name of the last tool is no attribute of a tool. -/
theorem Holds.write {index : Nat} {name : String} {value : Value} {state : AgentState}
    (holds : Holds index name value state) (last : Value) :
    Holds index name value (state.set .tools "last_tool_name" last) := by
  refine ⟨holds.typed.set_any last rfl, ?_⟩
  unfold ToolReads
  rw [AgentState.get_set, if_neg (by decide)]
  exact holds.reads

theorem keeps_findTool (env : Environment) (toolId toolName : String) :
    Keeps Typed (findTool env toolId toolName) fun _ => True := by
  unfold findTool
  refine keeps_bind (keeps_read _ _) fun tools _ => ?_
  refine keeps_lift_bind fun items _ => keeps_lift_bind fun found _ => ?_
  split
  · exact keeps_pure trivial
  · refine keeps_lift_bind fun tool _ => keeps_lift_bind fun longer appended => ?_
    refine keeps_seq (keeps_write ?_) (keeps_pure trivial)
    cases tools with
    | list before => cases appended; rfl
    | _ => cases appended

theorem keeps_findNamedTool (env : Environment) (event : AgentStateEvent) :
    Keeps Typed (findNamedTool env event) fun _ => True :=
  keeps_bind (keeps_read _ _) fun _ _ => keeps_findTool env _ _

section Handlers
variable {env : Environment} {event : AgentStateEvent}

theorem keeps_reportToolMeasure (index : Nat) (key : String) :
    Keeps Typed (reportToolMeasure env event index key) fun _ => True := by
  unfold reportToolMeasure
  split
  · refine keeps_bind (keeps_readTool index) fun tool _ => ?_
    refine keeps_ite (fun _ => ?_) fun _ => keeps_pure trivial
    iterate 3 refine keeps_lift_bind fun _ _ => ?_
    exact keeps_setToolAttr index key _
  · exact keeps_pure trivial

variable (expires : (event.field .none).representable = true)
include expires

theorem keeps_setToolField (index : Nat) (key : String) (value : Value) :
    Keeps Typed (setToolField env event index key value) fun _ => True := by
  unfold setToolField
  refine keeps_bind (keeps_readTool index) fun tool _ => ?_
  refine keeps_ite (fun _ => keeps_pure trivial) fun _ => ?_
  refine keeps_lift_bind fun old _ => keeps_lift_bind fun converted _ => ?_
  exact keeps_seq (keeps_setToolAttr index key converted) (keeps_mark expires _)

/-- The wait for the next model call is the remaining time that was written last. -/
theorem keeps_startedTool (index : Nat) (remaining : ℚ) : Keeps Typed (do
      setToolAttr index "remaining_time_seconds" (.float remaining)
      write .tools "last_tool_name" (← getToolAttr index "tool_name")
      write .tools "predicted_time_until_next_model_call_seconds"
        (← getToolAttr index "remaining_time_seconds")
      write .lifecycle "runnable" (.bool false)
      setPhase event .toolRunning
      mark event (.part .tools)
      mark event (.part .lifecycle)) fun _ => True := by
  refine triple_bind (triple_setToolAttr index "remaining_time_seconds" (.float remaining)) fun _ => ?_
  refine triple_bind (triple_getToolAttr "tool_name") fun named => ?_
  have held : Triple (Holds index "remaining_time_seconds" (.float remaining))
      (write .tools "last_tool_name" named)
      (fun _ => Holds index "remaining_time_seconds" (.float remaining)) Typed :=
    fun _ start => start.write named
  refine triple_bind (held.weaken (fun _ start => start.1) fun _ _ ends => ends) fun _ => ?_
  refine triple_bind (triple_getToolAttr "remaining_time_seconds") fun found => ?_
  refine triple_known (fun _ start => start.2 rfl) fun known => ?_
  subst known
  refine Triple.weaken ?_ (fun _ start => start.1.1) fun _ _ ends => ends
  refine keeps_seq (keeps_write_number (isNumber_float _) rfl) ?_
  refine keeps_seq (keeps_write_any _ rfl) (keeps_seq (keeps_setPhase expires _) ?_)
  exact keeps_seq (keeps_mark expires _) (keeps_mark expires _)

theorem keeps_applyToolStarted : Keeps Typed (applyToolStarted env event) fun _ => True := by
  unfold applyToolStarted
  extract_lets payload named afterId
  have identified : ∀ id, Keeps Typed (afterId id) fun _ => True := by
    intro id
    refine keeps_bind (keeps_findTool env _ _) fun index _ => ?_
    refine keeps_seq (keeps_forM fun entry _ => keeps_setToolField expires index _ _) ?_
    refine keeps_seq (keeps_setToolAttr index _ _) ?_
    refine keeps_bind (keeps_getToolAttr index _) fun name _ => ?_
    refine keeps_seq (keeps_setToolAttr index _ _) (keeps_seq (keeps_setToolAttr index _ _) ?_)
    refine keeps_bind (keeps_getToolAttr index _) fun stored _ => ?_
    exact keeps_lift_bind fun remaining _ => keeps_startedTool expires index _
  split
  · exact identified _
  · refine keeps_bind (keeps_read _ _) fun tools _ => ?_
    exact keeps_lift_bind fun count _ => identified _

theorem keeps_applyToolProgress : Keeps Typed (applyToolProgress env event) fun _ => True := by
  unfold applyToolProgress
  extract_lets payload
  refine keeps_bind (keeps_findNamedTool env event) fun index _ => ?_
  refine keeps_seq (keeps_forM fun key _ => keeps_reportToolMeasure index key) ?_
  extract_lets afterProgress afterStatus
  have progressed : ∀ done, Keeps Typed (afterProgress done) fun _ => True := by
    intro done
    refine keeps_bind (keeps_getToolAttr _ _) fun remaining _ => ?_
    refine keeps_lift_bind fun longest compared => ?_
    obtain ⟨_, greatest, _, numeric, _⟩ := max_number (by rfl) compared
    refine keeps_seq (keeps_write_number ⟨greatest, numeric⟩ rfl) ?_
    refine keeps_seq (keeps_write_any _ rfl) ?_
    refine keeps_bind (keeps_getToolAttr _ _) fun status _ => ?_
    exact keeps_seq (keeps_write rfl) (keeps_mark expires _)
  have reported : ∀ done, Keeps Typed (afterStatus done) fun _ => True := by
    intro done
    simp only [afterStatus]
    split
    · refine keeps_lift_bind fun amount _ => ?_
      exact keeps_bind (keeps_setProgress expires amount) fun done _ => progressed done
    · exact progressed ()
  split
  · refine keeps_bind (keeps_getToolAttr _ _) fun status _ => ?_
    exact keeps_bind (keeps_setToolAttr _ _ _) fun done _ => reported done
  · exact reported ()

theorem keeps_applyToolResult : Keeps Typed (applyToolResult env event) fun _ => True := by
  unfold applyToolResult
  refine keeps_bind (keeps_findNamedTool env event) fun index _ => ?_
  refine keeps_seq (keeps_setToolAttr index _ _) (keeps_seq (keeps_setToolAttr index _ _) ?_)
  refine keeps_lift_bind fun tokens counted => ?_
  obtain ⟨count, _, rfl⟩ := tokenCount_ok env counted
  refine keeps_bind (keeps_read _ _) fun toolTokens _ => keeps_lift_bind fun _ _ => ?_
  refine keeps_seq (keeps_write_any _ rfl) ?_
  refine keeps_bind (keeps_read_integer rfl) fun total before => ?_
  refine keeps_yields_bind (add_integers before (wholeNumber_int count)) fun sum added => ?_
  refine keeps_seq (keeps_write_integer added rfl) ?_
  refine keeps_bind (keeps_read_integer rfl) fun prompt known => ?_
  refine keeps_bind (keeps_read_integer rfl) fun total after => ?_
  refine keeps_yields_bind (max_integers known after) fun largest whole => ?_
  refine keeps_seq (keeps_write_integer whole rfl) ?_
  refine keeps_seq (keeps_write_number (isNumber_float 0) rfl) (keeps_seq (keeps_write_any _ rfl) ?_)
  refine keeps_seq (keeps_setPhase expires _) (keeps_seq (keeps_write rfl) ?_)
  refine keeps_seq (keeps_write_number (isNumber_float 0) rfl) ?_
  exact keeps_seq (keeps_mark expires _) (keeps_seq (keeps_mark expires _) (keeps_mark expires _))

end Handlers

end Tools

section Models
variable {env : Environment} {event : AgentStateEvent}

section Expires
variable (expires : (event.field .none).representable = true)
include expires

/-- A failure counts its retries and its streak. -/
theorem keeps_applyFailure (component : String) :
    Keeps Typed (applyFailure env event component) fun _ => True := by
  unfold applyFailure
  refine keeps_bind (keeps_read_number rfl) fun retries known => ?_
  refine keeps_yields_bind (add_one known) fun sum added => ?_
  refine keeps_seq (keeps_write_number added rfl) ?_
  refine keeps_bind (keeps_read_number rfl) fun streak known => ?_
  refine keeps_yields_bind (add_one known) fun sum added => ?_
  refine keeps_seq (keeps_write_number added rfl) ?_
  refine keeps_seq (keeps_write_any _ rfl) (keeps_seq (keeps_write_any _ rfl) ?_)
  refine keeps_lift_bind fun severity _ => ?_
  refine keeps_bind (keeps_read_double rfl) fun previous known => ?_
  refine keeps_yields_bind (max_doubles known rfl) fun largest converts => ?_
  refine keeps_seq (keeps_write_double converts rfl) (keeps_seq (keeps_write_any _ rfl) ?_)
  refine keeps_bind (keeps_read_number rfl) fun streak counted => ?_
  refine keeps_seq (keeps_write_number counted rfl) (keeps_seq (keeps_write_any _ rfl) ?_)
  refine keeps_seq (keeps_setPhase expires _) ?_
  exact keeps_seq (keeps_mark expires _) (keeps_seq (keeps_mark expires _) (keeps_mark expires _))

theorem keeps_applyNextAction : Keeps Typed (applyNextAction env event) fun _ => True := by
  unfold applyNextAction
  extract_lets payload nextAction
  refine keeps_ite (fun _ => ?_) fun _ => keeps_ite (fun _ => ?_) fun _ => ?_
  · refine keeps_seq (keeps_write_double rfl rfl) ?_
    exact keeps_seq (keeps_write_any _ rfl) (keeps_setPhase expires _)
  · exact keeps_seq (keeps_write_any _ rfl) (keeps_setPhase expires _)
  · exact keeps_seq (keeps_write_any _ rfl) (keeps_setPhase expires _)

end Expires

variable (typed : TypedEvent env event)
include typed

theorem keeps_applyModelRequest (requested : event.kind env = .modelRequest) :
    Keeps Typed (applyModelRequest env event) fun _ => True := by
  have expires := typed.expires
  have patch (part : Section) : Keeps Typed (setPresent env event part part.label) fun _ => True :=
    keeps_setPresent expires (typed.patches part)
  unfold applyModelRequest
  extract_lets payload afterCapabilities afterOutput afterPrompt afterModel afterStep
  -- The branches join in the reverse order of the steps.
  have capabilities : ∀ done, Keeps Typed (afterCapabilities done) fun _ => True := by
    intro done
    refine keeps_seq (patch .security) (keeps_seq (patch .inference) (keeps_seq (patch .qos) ?_))
    exact keeps_seq (keeps_mark expires _) (keeps_seq (keeps_mark expires _) (keeps_mark expires _))
  have output : ∀ done, Keeps Typed (afterOutput done) fun _ => True := by
    intro done
    refine keeps_seq (patch .context) ?_
    split
    · rename_i value found
      refine keeps_lift_bind fun names converted => ?_
      refine keeps_bind (keeps_write ?_) fun done _ => capabilities done
      obtain ⟨items, iterated, _, rfl⟩ := toSet_ok converted
      refine distinct_all ?_
      have texts := typed.capabilities requested value found
      unfold Kind.textItems at texts
      rwa [iterated] at texts
    · exact capabilities ()
  have prompt : ∀ done, Keeps Typed (afterPrompt done) fun _ => True := by
    intro done
    simp only [afterPrompt]
    split
    · refine keeps_lift_bind fun tokens counted => ?_
      obtain ⟨count, _, rfl⟩ := tokenCount_ok env counted
      exact keeps_bind (keeps_write_number (isNumber_int count) rfl) fun done _ => output done
    · exact output ()
  have model : ∀ done, Keeps Typed (afterModel done) fun _ => True := by
    intro done
    simp only [afterModel]
    split
    · refine keeps_lift_bind fun tokens counted => ?_
      obtain ⟨count, _, rfl⟩ := tokenCount_ok env counted
      refine keeps_seq (keeps_write_number (isNumber_int count) rfl) ?_
      refine keeps_seq (keeps_write_integer (wholeNumber_int count) rfl) ?_
      refine keeps_bind (keeps_read_integer rfl) fun total known => ?_
      refine keeps_yields_bind (max_integers known (wholeNumber_int count)) fun largest whole => ?_
      exact keeps_bind (keeps_write_integer whole rfl) fun done _ => prompt done
    · exact prompt ()
  have step : ∀ done, Keeps Typed (afterStep done) fun _ => True := by
    intro done
    refine keeps_bind (keeps_read _ _) fun stored _ => ?_
    refine keeps_ite (fun _ => ?_) fun _ => model ()
    exact keeps_seq (keeps_write_any _ rfl) (keeps_bind (keeps_mark expires _) fun done _ => model done)
  refine keeps_seq (keeps_setPhase expires _) (keeps_seq (keeps_write_any _ rfl) ?_)
  exact keeps_ite (fun _ => keeps_bind (keeps_write_any _ rfl) fun done _ => step done) fun _ => step ()

theorem keeps_applyModelResponse : Keeps Typed (applyModelResponse env event) fun _ => True := by
  have expires := typed.expires
  unfold applyModelResponse
  extract_lets payload afterOutcome afterProgress afterOutput
  have outcome : ∀ done, Keeps Typed (afterOutcome done) fun _ => True := fun _ =>
    keeps_seq (keeps_mark expires _) (keeps_mark expires _)
  have progress : ∀ done, Keeps Typed (afterProgress done) fun _ => True := by
    intro done
    refine keeps_seq (keeps_setPresent expires (typed.patches .progressSignals)) ?_
    refine keeps_seq (keeps_setPresent expires (typed.patches .prediction)) ?_
    refine keeps_seq (keeps_applyNextAction expires) ?_
    refine keeps_ite (fun _ => ?_) fun _ => ?_
    · refine keeps_seq (keeps_write_number (isNumber_int 0) rfl) ?_
      exact keeps_bind (keeps_write_number (isNumber_int 0) rfl) fun done _ => outcome done
    · exact keeps_bind (keeps_applyFailure expires _) fun done _ => outcome done
  have output : ∀ done, Keeps Typed (afterOutput done) fun _ => True := by
    intro done
    simp only [afterOutput]
    split
    · refine keeps_lift_bind fun amount _ => ?_
      exact keeps_bind (keeps_setProgress expires amount) fun done _ => progress done
    · exact progress ()
  split
  · refine keeps_lift_bind fun tokens counted => ?_
    obtain ⟨count, _, rfl⟩ := tokenCount_ok env counted
    refine keeps_bind (keeps_read_integer rfl) fun assistant known => ?_
    refine keeps_yields_bind (add_integers known (wholeNumber_int count)) fun sum added => ?_
    refine keeps_seq (keeps_write_integer added rfl) ?_
    refine keeps_bind (keeps_read_integer rfl) fun total known => ?_
    refine keeps_yields_bind (add_integers known (wholeNumber_int count)) fun sum added => ?_
    exact keeps_bind (keeps_write_integer added rfl) fun done _ => output done
  · exact output ()

omit typed in
/-- Merged extensions have an urgency that converts. -/
theorem merged_urgency {items : List (String × Value)} {table : List (String × Value)}
    (converts : ∀ entry ∈ items, entry.1 = urgencyName → entry.2.double.isOk = true)
    (start : (getD table urgencyName (.float 0)).double.isOk = true) :
    (getD (items.foldl (fun table entry => assign entry.1 entry.2 table) table) urgencyName
      (.float 0)).double.isOk = true := by
  induction items generalizing table with
  | nil => exact start
  | cons entry rest ih =>
      obtain ⟨here, later⟩ := List.forall_mem_cons.mp converts
      refine ih later ?_
      unfold getD
      rw [lookup_assign]
      split
      · rename_i same
        exact here same.symm
      · exact start

theorem keeps_applyPatch (patched : event.kind env = .patch) :
    Keeps Typed (applyPatch env event) fun _ => True := by
  have expires := typed.expires
  unfold applyPatch
  extract_lets payload afterExtensions
  have fields : ∀ done, Keeps Typed (afterExtensions done) fun _ => True := by
    intro done
    simp only [afterExtensions]
    split
    · rename_i value found
      refine keeps_lift_bind fun items converted => keeps_forM fun entry member => ?_
      split
      · rename_i payload dict
        refine keeps_ite (fun _ => ?_) fun _ => keeps_pure trivial
        refine keeps_lift_bind fun field returned => keeps_modify fun _ state => state.marked ?_
        refine typed.marks patched value items found converted entry.1 payload event.sequence field ?_
          returned
        exact dict ▸ member
      · exact keeps_pure trivial
    · exact keeps_pure trivial
  refine keeps_seq (keeps_forM fun part _ => keeps_setPresent expires (typed.patches part)) ?_
  split
  · rename_i value found
    refine keeps_lift_bind fun items converted => keeps_seq (keeps_modify fun state start => ?_) ?_
    · exact ⟨start.admitted, start.marks, merged_urgency
        (typed.extensions patched value items found converted) start.urgency⟩
    · exact keeps_bind (keeps_mark expires _) fun done _ => fields done
  · exact fields ()

omit typed in
/-- The nested patch of a section that may be absent. -/
theorem TypedEvent.optional (typed : TypedEvent env event) (part : Section) :
    patchTyped part (event.optional part.label) = true := by
  unfold AgentStateEvent.optional getD
  cases found : event.payload.lookup part.label with
  | none => rfl
  | some value => exact typed.patches part value found

theorem keeps_applyClass : Keeps Typed (applyClass env event (event.kind env)) fun _ => True := by
  have expires := typed.expires
  have inlined (part : Section) (member : part ∈ (event.kind env).inlined) :
      Keeps Typed (setSection env event part (event.nested part.label)) fun _ => True :=
    keeps_setSection expires (typed.inlined part member)
  have optional (part : Section) :
      Keeps Typed (setSection env event part (event.optional part.label)) fun _ => True :=
    keeps_setSection expires (typed.optional part)
  have ends (name : MarkName) : Keeps Typed (mark event name) fun _ => True := keeps_mark expires name
  have phased (phase : AgentPhase) : Keeps Typed (do
      setPhase event phase
      write .lifecycle "runnable" (.bool true)
      mark event (.part .lifecycle)) fun _ => True :=
    keeps_seq (keeps_setPhase expires phase) (keeps_seq (keeps_write_any _ rfl) (ends _))
  cases kind : event.kind env with
  | modelRequest => exact keeps_applyModelRequest typed kind
  | modelResponse => exact keeps_applyModelResponse typed
  | toolStarted => exact keeps_applyToolStarted expires
  | toolProgress => exact keeps_applyToolProgress expires
  | toolResult => exact keeps_applyToolResult expires
  | failure => exact keeps_applyFailure expires _
  | patch => exact keeps_applyPatch typed kind
  | modelStarted => exact phased _
  | modelDecode => exact phased _
  | sectionUpdate part => exact inlined part (by rw [kind]; exact List.mem_cons_self)
  | compaction =>
      refine keeps_seq (inlined .context (by rw [kind]; exact List.mem_cons_self)) ?_
      exact keeps_seq (keeps_write_any _ rfl) (ends _)
  | completed =>
      refine keeps_seq (keeps_write_double rfl rfl) (keeps_seq (keeps_write_any _ rfl) ?_)
      exact keeps_seq (keeps_setPhase expires _) (keeps_seq (optional .task) (ends _))
  | started =>
      refine keeps_seq (inlined .task (by rw [kind]; exact List.mem_cons_self)) ?_
      refine keeps_seq (keeps_setPhase expires _) (keeps_seq (keeps_write_any _ rfl) ?_)
      exact keeps_seq (optional .prediction) (keeps_seq (optional .qos) (ends _))
  | turnStarted =>
      have last : Keeps Typed (do
          setSection env event .context (event.nested "context")
          setSection env event .prediction (event.optional "prediction")
          setPhase event .runnable
          write .lifecycle "runnable" (.bool true)
          mark event (.part .lifecycle)) fun _ => True := by
        refine keeps_seq (inlined .context (by rw [kind]; exact List.mem_cons_self)) ?_
        exact keeps_seq (optional .prediction) (phased _)
      refine keeps_seq (keeps_write_number (isNumber_int _) rfl) ?_
      refine keeps_seq (keeps_write_number (isNumber_int _) rfl) ?_
      exact keeps_ite (fun _ => keeps_seq (keeps_write_any _ rfl) last) fun _ => last

/-- A typed event with a numeric sequence keeps its state typed, also when it raises. -/
theorem keeps_handle (sequence : IsNumber event.sequence) :
    Keeps Typed (handle env event) fun _ => True :=
  keeps_seq (keeps_seq (keeps_applyIdentity typed.expires typed.identity) (keeps_applyClass typed))
    (keeps_applyHeader sequence)

/-- The store may assign the sequence number of an event. -/
theorem TypedEvent.resequence (sequence : Value) :
    TypedEvent env { event with sequence := sequence } where
  expires := typed.expires
  identity := typed.identity
  patches := typed.patches
  inlined := typed.inlined
  capabilities := typed.capabilities
  extensions := typed.extensions
  marks := typed.marks

end Models

section Decisions

/-- A routing history takes a text as its tier and numbers as its counters. -/
theorem history_setAttr {history edited value : Value} {name : String}
    (stored : Kind.history.admits history = true) (tier : name = "current_tier" → IsText value)
    (counter : name = "stable_steps" ∨ name = "failure_streak" → IsNumber value)
    (assigned : history.setAttr name value = .ok edited) : Kind.history.admits edited = true := by
  cases history with
  | object kind attrs =>
      cases assigned
      change historyAttrs attrs = true at stored
      change historyAttrs (assign name value attrs) = true
      unfold historyAttrs at stored ⊢
      simp only [Bool.and_eq_true, lookup_assign] at stored ⊢
      obtain ⟨⟨⟨model, tiered⟩, steps⟩, streak⟩ := stored
      refine ⟨⟨⟨?_, ?_⟩, ?_⟩, ?_⟩
      · split
        · rfl
        · exact model
      · split
        · rename_i same
          exact Option.isSome_iff_exists.mpr (tier same.symm)
        · exact tiered
      · split
        · rename_i same
          exact isSome_number.mpr (counter (.inl same.symm))
        · exact steps
      · split
        · rename_i same
          exact isSome_number.mpr (counter (.inr same.symm))
        · exact streak
  | _ => cases assigned

theorem keeps_writeHistory {name : String} {value : Value} (tier : name = "current_tier" → IsText value)
    (counter : name = "stable_steps" ∨ name = "failure_streak" → IsNumber value) :
    Keeps Typed (writeHistory name value) fun _ => True := by
  refine keeps_bind (keeps_read .scheduling "routing_history") fun history stored => ?_
  exact keeps_lift_bind fun edited assigned => keeps_write (history_setAttr stored tier counter assigned)

/-- The attributes of a stored history have their types. -/
theorem keeps_readHistory (name : String) : Keeps Typed (readHistory name) fun value =>
    (name = "current_tier" → IsText value) ∧ (name = "stable_steps" → IsNumber value) := by
  refine keeps_bind (keeps_read .scheduling "routing_history") fun history stored => ?_
  refine keeps_lift fun value found => ?_
  obtain ⟨kind, attrs, rfl⟩ := attr_object found
  change historyAttrs attrs = true at stored
  unfold historyAttrs at stored
  simp only [Bool.and_eq_true] at stored
  have present : attrs.lookup name = some value := by
    unfold Value.attr at found
    cases known : attrs.lookup name with
    | some other =>
        simp only [known] at found
        exact congrArg some (Except.ok.inj found)
    | none =>
        simp only [known] at found
        exact Except.noConfusion rfl rfl (heq_of_eq found)
  refine ⟨fun same => ?_, fun same => ?_⟩
  · rw [same] at present
    have text := stored.1.1.2
    rw [present] at text
    exact Option.isSome_iff_exists.mp text
  · rw [same] at present
    have steps := stored.1.2
    rw [present] at steps
    exact isSome_number.mp steps

/-- A write that is no tier and no counter. -/
theorem keeps_noteHistory {name : String} {value : Value}
    (other : decide (name ∉ ["current_tier", "stable_steps", "failure_streak"]) = true) :
    Keeps Typed (writeHistory name value) fun _ => True := by
  have apart := of_decide_eq_true other
  refine keeps_writeHistory (fun same => absurd ?_ apart) fun same => absurd ?_ apart
  · rw [same]
    decide
  · rcases same with rfl | rfl <;> decide

theorem keeps_followTier (decision : RoutingDecision) :
    Keeps Typed (followTier decision) fun _ => True := by
  unfold followTier
  refine keeps_bind (keeps_readHistory "current_tier") fun previous known => ?_
  extract_lets selected last
  have text : IsText selected := by
    simp only [selected]
    split
    · exact ⟨_, rfl⟩
    · exact known.1 rfl
  have ends : ∀ done, Keeps Typed (last done) fun _ => True := fun _ =>
    keeps_writeHistory (fun _ => text) fun counter => by simp at counter
  split
  · refine keeps_bind (keeps_readHistory "stable_steps") fun steps counted => ?_
    refine keeps_yields_bind (add_one (counted.2 rfl)) fun sum added => ?_
    exact keeps_bind (keeps_writeHistory (fun tier => by simp at tier) fun _ => added)
      fun done _ => ends done
  · refine keeps_seq (keeps_writeHistory (fun tier => by simp at tier) fun _ => isNumber_int 1) ?_
    refine keeps_seq (keeps_noteHistory rfl) (keeps_seq (keeps_noteHistory rfl) ?_)
    split
    · refine keeps_bind (keeps_readHistory _) fun count _ => keeps_lift_bind fun _ _ => ?_
      exact keeps_bind (keeps_noteHistory rfl) fun done _ => ends done
    · exact ends ()

theorem keeps_applyRoutingDecision {view : HarnessSchedulingView} (streak : IsNumber view.failureStreak)
    (decision : RoutingDecision) : Keeps Typed (applyRoutingDecision view decision) fun _ => True := by
  unfold applyRoutingDecision
  iterate 5 refine keeps_seq (keeps_write_any _ rfl) ?_
  iterate 3 refine keeps_seq (keeps_noteHistory rfl) ?_
  refine keeps_seq (keeps_followTier decision) ?_
  refine keeps_seq (keeps_writeHistory (fun tier => by simp at tier) fun _ => streak) ?_
  refine keeps_bind (keeps_read _ _) fun history _ => keeps_lift_bind fun _ _ => ?_
  refine keeps_seq (keeps_write_any _ rfl) ?_
  refine keeps_bind (keeps_read_number rfl) fun sequence counted => ?_
  exact keeps_yields_bind (add_one counted) fun sum added => keeps_write_number added rfl

theorem keeps_stampDecision (decision : RoutingDecision) :
    Keeps Typed (stampDecision decision) fun _ => True := by
  unfold stampDecision
  refine keeps_seq (keeps_write_any _ rfl) (keeps_seq (keeps_write_any _ rfl) ?_)
  refine keeps_bind (keeps_read .header "dirty_fields") fun dirty stored => ?_
  cases dirty with
  | set items =>
      refine keeps_write (distinct_all ?_)
      rw [List.all_append, Bool.and_eq_true]
      exact ⟨stored, rfl⟩
  | _ => exact keeps_throw _

end Decisions

/-- Every state of a store is typed, and the orders are numbers. -/
structure TypedStore (store : Store) : Prop where
  states : ∀ key state, store.states key = some state → Typed state
  orders : ∀ key order, store.lastOrder key = some order → IsNumber order.1 ∧ IsNumber order.2

section Stores
variable {env : Environment} {fresh : Fresh} {store : Store}

theorem TypedStore.order (typed : TypedStore store) (key : StateKey) :
    IsNumber (store.order key).1 ∧ IsNumber (store.order key).2 := by
  unfold Store.order
  cases found : store.lastOrder key with
  | none => exact ⟨isNumber_int _, isNumber_int _⟩
  | some order => exact typed.orders key order found

/-- Only a number is compared with zero. -/
theorem lt_zero_number {value : Value} {less : Bool} (compared : (Value.int 0).lt value = .ok less) :
    IsNumber value := by
  cases value with
  | bool | int | float => exact ⟨_, rfl⟩
  | _ => cases compared

theorem sequenced_number {received event : AgentStateEvent} {last : Order} (known : IsNumber last.2)
    (sequenced : received.sequenced last = .ok event) : IsNumber event.sequence := by
  obtain ⟨explicit, compared, continued⟩ := except_bind_ok sequenced
  cases explicit with
  | true =>
      cases continued
      exact lt_zero_number compared
  | false =>
      simp only [Bool.false_eq_true, if_false] at continued
      split at continued
      · obtain ⟨sum, added, numeric⟩ := add_one known
        rw [added] at continued
        cases continued
        exact numeric
      · cases continued
        exact isNumber_int 1

/-- An update that keeps a state typed keeps a store typed. -/
theorem keeps_onState {A : Type} {key : StateKey} {created : AgentState} {update : Update A}
    (start : Typed created) (kept : Keeps Typed update fun _ => True) :
    Keeps TypedStore (onState key created update) fun _ => True :=
  keeps_zoom kept (fun _ typed => stored_target (typed.states key) start)
    fun _ _ typed inside => ⟨stored_update typed.states rfl inside, typed.orders⟩

theorem keeps_order {key : StateKey} {order : Order} (first : IsNumber order.1)
    (second : IsNumber order.2) (typed : TypedStore store) :
    ∀ other found, Function.update store.lastOrder key (some order) other = some found →
      IsNumber found.1 ∧ IsNumber found.2 := by
  intro other found present
  rw [Function.update_apply] at present
  split at present
  · cases present
    exact ⟨first, second⟩
  · exact typed.orders other found present

/-- A typed event keeps a store typed, also when its update raises. -/
theorem keeps_appendEvent {received : AgentStateEvent} (typed : TypedEvent env received) :
    Keeps TypedStore (appendEvent env fresh received) fun _ => True := by
  rw [appendEvent_eq]
  refine keeps_get_bind fun store inside => ?_
  refine keeps_lift_bind fun event sequenced => ?_
  have numeric := sequenced_number (inside.order received.key).2 sequenced
  have applied : TypedEvent env event := by
    rw [sequenced_same sequenced]
    exact typed.resequence event.sequence
  refine keeps_ite (fun _ => keeps_pure trivial) fun _ => keeps_lift_bind fun stale _ => ?_
  refine keeps_ite (fun _ => keeps_pure trivial) fun _ => ?_
  refine keeps_seq (keeps_onState (newAgentState_typed fresh _ _ rfl) (keeps_handle applied numeric)) ?_
  refine keeps_seq (keeps_modify fun store kept => ?_) ?_
  · exact ⟨kept.states, keeps_order (isNumber_int _) numeric kept⟩
  · exact keeps_get_bind fun _ _ => keeps_pure trivial

theorem keeps_recordRoutingDecision {view : HarnessSchedulingView} (streak : IsNumber view.failureStreak)
    (plain : scalar view.tenantId = true) (decision : RoutingDecision) :
    Keeps TypedStore (recordRoutingDecision fresh view decision) fun _ => True := by
  unfold recordRoutingDecision
  split
  · rename_i key _
    have start := newAgentState_typed fresh key.1 key.2 plain
    refine keeps_seq (keeps_onState start (keeps_applyRoutingDecision streak decision)) ?_
    refine keeps_seq (keeps_modify fun store typed => ?_)
      (keeps_onState start (keeps_stampDecision decision))
    unfold Store.reserve
    split
    · rename_i state found
      have stored := typed.states key state found
      exact ⟨typed.states, keeps_order (stored.number rfl) (stored.number rfl) typed⟩
    · exact typed
  · exact keeps_pure trivial

theorem keeps_getOrCreate (key : StateKey) (tenantId harnessType : String) :
    Keeps TypedStore (getOrCreate fresh key tenantId harnessType) fun _ => True := by
  unfold getOrCreate
  refine keeps_get_bind fun store inside => ?_
  split
  · exact keeps_pure trivial
  · refine keeps_seq (keeps_modify fun store typed => ?_) (keeps_pure trivial)
    have created := @newAgentState_typed fresh key.1 key.2 (.str tenantId) rfl
    exact ⟨stored_update typed.states rfl (created.set_value rfl), typed.orders⟩

theorem typedStore_empty : TypedStore Store.empty :=
  ⟨fun _ _ found => by (cases found), fun _ _ found => by (cases found)⟩

/-- Appended events and recorded views have their declared types. -/
def StoreCall.Typed (env : Environment) : StoreCall → Prop
  | .append _ event => TypedEvent env event
  | .getOrCreate _ _ _ _ => True
  | .record _ view _ => IsNumber view.failureStreak ∧ scalar view.tenantId = true

theorem keeps_call {call : StoreCall} (typed : call.Typed env) :
    Keeps TypedStore (call.run env) fun _ => True := by
  cases call with
  | append fresh event => exact keeps_bind (keeps_appendEvent typed) fun _ _ => keeps_pure trivial
  | getOrCreate fresh key tenantId harnessType =>
      exact keeps_bind (keeps_getOrCreate key tenantId harnessType) fun _ _ => keeps_pure trivial
  | record fresh view decision =>
      exact keeps_bind (keeps_recordRoutingDecision typed.1 typed.2 decision) fun _ _ =>
        keeps_pure trivial

theorem runCalls_typed {calls : List StoreCall} (typed : ∀ call ∈ calls, call.Typed env) :
    TypedStore (runCalls env calls Store.empty) := by
  have each : ∀ store, TypedStore store → TypedStore (runCalls env calls store) := by
    induction calls with
    | nil => exact fun _ inside => inside
    | cons call rest ih =>
        obtain ⟨here, later⟩ := List.forall_mem_cons.mp typed
        exact fun store inside => ih later _ ((keeps_call here).finalState inside)
  exact each _ typedStore_empty

end Stores

end StateFlow.State
