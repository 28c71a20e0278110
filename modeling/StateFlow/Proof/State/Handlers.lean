import StateFlow.Library.ProgramLogic
import StateFlow.Proof.State.Updates

namespace StateFlow.State
open Python Table Effect

/-- A new state generates these attributes. They change when an event carries them. -/
def creationAttrs : List (Section × String) :=
  [(.header, "state_id"), (.header, "created_at"), (.lifecycle, "phase_enter_time"),
    (.prediction, "observed_at")]

/-- Every accepted event replaces the update time, which a new state generates too. -/
def generatedAttrs : List (Section × String) := (.header, "updated_at") :: creationAttrs

/-- The value of this mark does not hold the generated attributes of the header. -/
def MarkName.settled : MarkName → Bool
  | .part owner => owner ≠ .header
  | .attr owner name => (owner, name) ∉ generatedAttrs
  | .tool _ => true
  | .extensions => true

/-- Only payload entries set these attributes. -/
def payloadAttrs : List (Section × String) :=
  [(.security, "allowed_models"), (.security, "allowed_regions"),
    (.security, "allowed_cache_domains")]

/-- A logic has the steps of the handlers when they write the permitted sections only. No handler
reads a generated attribute or writes a payload attribute on its own. -/
structure Handles (logic : ProgramLogic Exception AgentState) (permitted : Section → Prop) :
    Prop where
  read : ∀ {part : Section} {name : String}, (part, name) ∉ generatedAttrs →
    logic.holds (read part name)
  write : ∀ {part : Section} {name : String} (value : Value), permitted part →
    (part, name) ∉ payloadAttrs → logic.holds (write part name value)
  mark : ∀ (event : AgentStateEvent) {name : MarkName}, name.settled = true →
    logic.holds (mark event name)
  setField : ∀ (env : Environment) (event : AgentStateEvent) {part : Section} (key : String)
    (value : Value), permitted part → logic.holds (setField env event part key value)
  setMeta : ∀ (env : Environment) (event : AgentStateEvent) (name : String)
    (payload : List (String × Value)), logic.holds (setMeta env event name payload)
  extend : ∀ merge : List (String × Value) → List (String × Value),
    logic.holds (modify fun state : AgentState =>
      { state with extensions := merge state.extensions })

/-- The handlers keep what a state answers when no permitted write changes the answer. -/
theorem handles_fixes {A : Type} {observe : AgentState → A} {permitted : Section → Prop}
    (kept : ∀ state part name value, permitted part →
      observe (state.set part name value) = observe state)
    (attrs : ∀ state fieldMeta extensions,
      observe ⟨state.attrs, fieldMeta, extensions⟩ = observe state) :
    Handles (ProgramLogic.within (Frame.fixes observe)) permitted where
  read _ := within_read _ _
  write value allowed _ := within_write (fun state value => kept state _ _ value allowed) value
  mark _ _ _ := within_modify _ fun state => attrs state _ _
  setField env event part key value allowed := by
    refine within_ite (fun _ => within_pure _) fun _ => ?_
    refine within_bind (within_read _ _) fun old => within_bind (within_lift _) fun converted => ?_
    refine within_seq (within_write (fun state value => kept state _ key value allowed) _) ?_
    exact within_modify _ fun state => attrs state _ _
  setMeta _ _ _ _ := within_bind (within_lift _) fun _ =>
    within_modify _ fun state => attrs state _ _
  extend _ := within_modify _ fun state => attrs state _ _

/-- The sections that an event class may write. -/
def EventClass.sections : EventClass → List Section
  | .started => [.task, .lifecycle, .prediction, .qos]
  | .turnStarted => [.lifecycle, .header, .context, .prediction]
  | .modelRequest => [.lifecycle, .model, .context, .identity, .security, .inference, .qos]
  | .modelStarted => [.lifecycle]
  | .modelDecode => [.lifecycle]
  | .modelResponse => [.context, .lifecycle, .progressSignals, .prediction, .failure]
  | .toolStarted => [.tools, .lifecycle]
  | .toolProgress => [.tools, .lifecycle, .progressSignals]
  | .toolResult => [.tools, .context, .lifecycle, .prediction]
  | .compaction => [.context]
  | .failure => [.failure, .progressSignals, .lifecycle]
  | .completed => [.lifecycle, .task]
  | .sectionUpdate part => [part]
  | .patch => patchSections

namespace Handles
variable {logic : ProgramLogic Exception AgentState} {permitted : Section → Prop}
  (handles : Handles logic permitted)
include handles

theorem reads {part : Section} {name : String}
    (fixed : decide ((part, name) ∉ generatedAttrs) = true) :
    logic.holds (State.read part name) :=
  handles.read (of_decide_eq_true fixed)

theorem writes {part : Section} (name : String) (value : Value) (allowed : permitted part)
    (own : decide ((part, name) ∉ payloadAttrs) = true) :
    logic.holds (State.write part name value) :=
  handles.write value allowed (of_decide_eq_true own)

/-- A handler writes the attributes of its class. -/
theorem writesIn {kind : EventClass} (allowed : ∀ part ∈ kind.sections, permitted part)
    {part : Section} {name : String} {value : Value}
    (own : decide (part ∈ kind.sections ∧ (part, name) ∉ payloadAttrs) = true) :
    logic.holds (State.write part name value) := by
  obtain ⟨listed, free⟩ := of_decide_eq_true own
  exact handles.write value (allowed part listed) free

theorem marks (event : AgentStateEvent) {name : MarkName}
    (settled : name.settled = true) : logic.holds (State.mark event name) :=
  handles.mark event settled

section Steps
variable (env : Environment) (event : AgentStateEvent)

theorem setSection {part : Section} (allowed : permitted part) (payload : Value) :
    logic.holds (State.setSection env event part payload) := by
  unfold State.setSection
  split
  · refine logic.seq (logic.forM fun entry => handles.setField env event _ _ allowed) ?_
    refine logic.ite (fun context => ?_) fun _ => logic.pure _
    refine logic.bind (handles.reads rfl) fun total => ?_
    refine logic.bind (handles.reads rfl) fun prompt => ?_
    exact logic.bind (logic.lift _) fun _ => handles.writes _ _ (context ▸ allowed) rfl
  · exact logic.pure _

theorem setPresent {part : Section} (allowed : permitted part) (key : String) :
    logic.holds (State.setPresent env event part key) := by
  unfold State.setPresent
  split
  · exact handles.setSection env event allowed _
  · exact logic.pure _

theorem setPhase (lifecycle : permitted .lifecycle) (phase : AgentPhase) :
    logic.holds (State.setPhase event phase) := by
  unfold State.setPhase
  refine logic.bind (handles.reads rfl) fun current => ?_
  extract_lets last
  have ends : ∀ done, logic.holds (last done) := fun _ => handles.marks event rfl
  split
  · refine logic.seq (handles.writes _ _ lifecycle rfl) ?_
    refine logic.seq (handles.writes _ _ lifecycle rfl) ?_
    exact logic.bind (handles.writes _ _ lifecycle rfl) ends
  · exact ends ()

theorem setProgress (lifecycle : permitted .lifecycle) (signals : permitted .progressSignals)
    (progress : ℚ) : logic.holds (State.setProgress event progress) := by
  unfold State.setProgress
  refine logic.bind (handles.reads rfl) fun previous => ?_
  refine logic.seq (handles.writes _ _ lifecycle rfl) ?_
  extract_lets last
  have ends : ∀ done, logic.holds (last done) := fun _ =>
    logic.seq (handles.marks event rfl) (handles.marks event rfl)
  split
  · refine logic.seq (handles.writes _ _ signals rfl) ?_
    split
    · exact logic.bind (handles.writes _ _ signals rfl) ends
    · refine logic.bind (handles.reads rfl) fun steps => ?_
      exact logic.bind (logic.lift _) fun _ => logic.bind (handles.writes _ _ signals rfl) ends
  · exact logic.bind (logic.throw _) fun impossible => ends impossible

theorem applyIdentity (identity : permitted .identity) (security : permitted .security)
    (payload : Value) : logic.holds (State.applyIdentity env event payload) := by
  unfold State.applyIdentity
  extract_lets patch
  refine logic.ite (fun _ => ?_) fun _ => logic.pure _
  refine logic.seq (handles.setSection env event identity _) ?_
  split
  · exact handles.writes _ _ security rfl
  · exact logic.pure _

theorem setHeaderText (header : permitted .header) (name text : String) :
    logic.holds (State.setHeaderText name text) :=
  logic.ite (fun _ => handles.writes _ _ header (by simp [payloadAttrs])) fun _ => logic.pure _

theorem applyHeader (header : permitted .header) : logic.holds (State.applyHeader event) := by
  unfold State.applyHeader
  refine logic.seq (handles.writes _ _ header rfl) (logic.seq (handles.writes _ _ header rfl) ?_)
  refine logic.bind (handles.reads rfl) fun turn => ?_
  refine logic.bind (logic.lift _) fun _ => logic.seq (handles.writes _ _ header rfl) ?_
  iterate 5 refine logic.seq (handles.setHeaderText header _ _) ?_
  iterate 4 refine logic.seq (handles.writes _ _ header rfl) ?_
  refine logic.bind (handles.reads rfl) fun dirty => ?_
  cases dirty with
  | set items => exact handles.writes _ _ header rfl
  | _ => exact logic.throw _

end Steps

section Tools
variable (env : Environment) (event : AgentStateEvent) (index : Nat)

theorem readTool : logic.holds (State.readTool index) :=
  logic.bind (handles.reads rfl) fun _ => logic.bind (logic.lift _) fun _ => logic.pure _

theorem getToolAttr (name : String) : logic.holds (State.getToolAttr index name) :=
  logic.bind (handles.readTool index) fun _ => logic.lift _

variable (tools : permitted .tools)
include tools

theorem setToolAttr (name : String) (value : Value) :
    logic.holds (State.setToolAttr index name value) := by
  refine logic.bind (handles.reads rfl) fun stored => ?_
  refine logic.bind (handles.readTool index) fun tool => ?_
  exact logic.bind (logic.lift _) fun _ => handles.writes _ _ tools rfl

theorem findTool (toolId toolName : String) :
    logic.holds (State.findTool env toolId toolName) := by
  unfold State.findTool
  refine logic.bind (handles.reads rfl) fun stored => ?_
  refine logic.bind (logic.lift _) fun items => ?_
  refine logic.bind (logic.lift _) fun found => ?_
  split
  · exact logic.pure _
  · refine logic.bind (logic.lift _) fun tool => ?_
    refine logic.bind (logic.lift _) fun _ => ?_
    exact logic.seq (handles.writes _ _ tools rfl) (logic.pure _)

theorem findNamedTool : logic.holds (State.findNamedTool env event) :=
  logic.bind (handles.reads rfl) fun _ => handles.findTool env tools _ _

theorem setToolField (key : String) (value : Value) :
    logic.holds (State.setToolField env event index key value) := by
  unfold State.setToolField
  refine logic.bind (handles.readTool index) fun tool => ?_
  refine logic.ite (fun _ => logic.pure _) fun _ => ?_
  refine logic.bind (logic.lift _) fun old => ?_
  refine logic.bind (logic.lift _) fun converted => ?_
  exact logic.seq (handles.setToolAttr index tools _ _) (handles.marks event rfl)

theorem reportToolMeasure (key : String) :
    logic.holds (State.reportToolMeasure env event index key) := by
  unfold State.reportToolMeasure
  split
  · refine logic.bind (handles.readTool index) fun tool => ?_
    refine logic.ite (fun _ => ?_) fun _ => logic.pure _
    iterate 3 refine logic.bind (logic.lift _) fun _ => ?_
    exact handles.setToolAttr index tools _ _
  · exact logic.pure _

end Tools

section Models
variable (env : Environment) (event : AgentStateEvent)

theorem applyModelRequest
    (allowed : ∀ part ∈ EventClass.sections .modelRequest, permitted part) :
    logic.holds (State.applyModelRequest env event) := by
  unfold State.applyModelRequest
  extract_lets payload afterCapabilities afterOutput afterPrompt afterModel afterStep
  -- The branches join in the reverse order of the steps.
  have capabilities : ∀ done, logic.holds (afterCapabilities done) := by
    intro done
    refine logic.seq (handles.setPresent env event (allowed _ (by decide)) _) ?_
    refine logic.seq (handles.setPresent env event (allowed _ (by decide)) _) ?_
    refine logic.seq (handles.setPresent env event (allowed _ (by decide)) _) ?_
    refine logic.seq (handles.marks event rfl) ?_
    exact logic.seq (handles.marks event rfl) (handles.marks event rfl)
  have output : ∀ done, logic.holds (afterOutput done) := by
    intro done
    refine logic.seq (handles.setPresent env event (allowed _ (by decide)) _) ?_
    split
    · refine logic.bind (logic.lift _) fun _ => ?_
      exact logic.bind (handles.writesIn allowed rfl) capabilities
    · exact capabilities ()
  have prompt : ∀ done, logic.holds (afterPrompt done) := by
    intro done
    simp only [afterPrompt]
    split
    · exact logic.bind (logic.lift _) fun _ => logic.bind (handles.writesIn allowed rfl) output
    · exact output ()
  have model : ∀ done, logic.holds (afterModel done) := by
    intro done
    simp only [afterModel]
    split
    · refine logic.bind (logic.lift _) fun tokens => ?_
      refine logic.seq (handles.writesIn allowed rfl) ?_
      refine logic.seq (handles.writesIn allowed rfl) ?_
      refine logic.bind (handles.reads rfl) fun total => ?_
      exact logic.bind (logic.lift _) fun _ => logic.bind (handles.writesIn allowed rfl) prompt
    · exact prompt ()
  have step : ∀ done, logic.holds (afterStep done) := by
    intro done
    refine logic.bind (handles.reads rfl) fun stored => ?_
    refine logic.ite (fun _ => ?_) fun _ => model ()
    exact logic.seq (handles.writesIn allowed rfl) (logic.bind (handles.marks event rfl) model)
  refine logic.seq (handles.setPhase event (allowed _ (by decide)) _) ?_
  refine logic.seq (handles.writesIn allowed rfl) ?_
  exact logic.ite (fun _ => logic.bind (handles.writesIn allowed rfl) step) fun _ => step ()

theorem applyFailure (allowed : ∀ part ∈ EventClass.sections .failure, permitted part)
    (component : String) : logic.holds (State.applyFailure env event component) := by
  unfold State.applyFailure
  refine logic.bind (handles.reads rfl) fun retries => ?_
  refine logic.bind (logic.lift _) fun _ => logic.seq (handles.writesIn allowed rfl) ?_
  refine logic.bind (handles.reads rfl) fun streak => ?_
  refine logic.bind (logic.lift _) fun _ => logic.seq (handles.writesIn allowed rfl) ?_
  refine logic.seq (handles.writesIn allowed rfl) (logic.seq (handles.writesIn allowed rfl) ?_)
  refine logic.bind (logic.lift _) fun severity => ?_
  refine logic.bind (handles.reads rfl) fun previous => ?_
  refine logic.bind (logic.lift _) fun _ => ?_
  refine logic.seq (handles.writesIn allowed rfl) ?_
  refine logic.seq (handles.writesIn allowed rfl) ?_
  refine logic.bind (handles.reads rfl) fun streak => ?_
  refine logic.seq (handles.writesIn allowed rfl) (logic.seq (handles.writesIn allowed rfl) ?_)
  refine logic.seq (handles.setPhase event (allowed _ (by decide)) _) ?_
  refine logic.seq (handles.marks event rfl) ?_
  exact logic.seq (handles.marks event rfl) (handles.marks event rfl)

theorem applyNextAction (lifecycle : permitted .lifecycle) :
    logic.holds (State.applyNextAction env event) := by
  unfold State.applyNextAction
  extract_lets payload nextAction
  refine logic.ite (fun _ => ?_) fun _ => logic.ite (fun _ => ?_) fun _ => ?_
  · refine logic.seq (handles.writes _ _ lifecycle rfl) ?_
    refine logic.seq (handles.writes _ _ lifecycle rfl) ?_
    exact handles.setPhase event lifecycle _
  · exact logic.seq (handles.writes _ _ lifecycle rfl) (handles.setPhase event lifecycle _)
  · exact logic.seq (handles.writes _ _ lifecycle rfl) (handles.setPhase event lifecycle _)

theorem applyModelResponse
    (allowed : ∀ part ∈ EventClass.sections .modelResponse, permitted part) :
    logic.holds (State.applyModelResponse env event) := by
  unfold State.applyModelResponse
  extract_lets payload afterOutcome afterProgress afterOutput
  have outcome : ∀ done, logic.holds (afterOutcome done) := fun _ =>
    logic.seq (handles.marks event rfl) (handles.marks event rfl)
  have progress : ∀ done, logic.holds (afterProgress done) := by
    intro done
    refine logic.seq (handles.setPresent env event (allowed _ (by decide)) _) ?_
    refine logic.seq (handles.setPresent env event (allowed _ (by decide)) _) ?_
    refine logic.seq (handles.applyNextAction env event (allowed _ (by decide))) ?_
    refine logic.ite (fun _ => ?_) fun _ => ?_
    · refine logic.seq (handles.writesIn allowed rfl) ?_
      exact logic.bind (handles.writesIn allowed rfl) outcome
    · have inside : ∀ part ∈ EventClass.sections .failure,
          part ∈ EventClass.sections .modelResponse := by decide
      have failure := handles.applyFailure env event fun part listed =>
        allowed part (inside part listed)
      exact logic.bind (failure _) outcome
  have output : ∀ done, logic.holds (afterOutput done) := by
    intro done
    simp only [afterOutput]
    split
    · refine logic.bind (logic.lift _) fun value => logic.bind ?_ progress
      exact handles.setProgress event (allowed _ (by decide)) (allowed _ (by decide)) value
    · exact progress ()
  split
  · refine logic.bind (logic.lift _) fun tokens => ?_
    refine logic.bind (handles.reads rfl) fun assistant => ?_
    refine logic.bind (logic.lift _) fun _ => logic.seq (handles.writesIn allowed rfl) ?_
    refine logic.bind (handles.reads rfl) fun total => ?_
    exact logic.bind (logic.lift _) fun _ => logic.bind (handles.writesIn allowed rfl) output
  · exact output ()

theorem applyToolStarted (allowed : ∀ part ∈ EventClass.sections .toolStarted, permitted part) :
    logic.holds (State.applyToolStarted env event) := by
  have tools : permitted .tools := allowed _ (by decide)
  have lifecycle : permitted .lifecycle := allowed _ (by decide)
  unfold State.applyToolStarted
  extract_lets payload named afterId
  have identified : ∀ toolId, logic.holds (afterId toolId) := by
    intro toolId
    refine logic.bind (handles.findTool env tools toolId _) fun index => ?_
    have assigned (name : String) (value : Value) :
        logic.holds (State.setToolAttr index name value) :=
      handles.setToolAttr index tools name value
    have fields (name : String) : logic.holds (State.getToolAttr index name) :=
      handles.getToolAttr index name
    refine logic.seq (logic.forM fun entry => handles.setToolField env event index tools _ _) ?_
    refine logic.seq (assigned _ _) ?_
    refine logic.bind (fields _) fun name => ?_
    refine logic.seq (assigned _ _) (logic.seq (assigned _ _) ?_)
    refine logic.bind (fields _) fun stored => ?_
    refine logic.bind (logic.lift _) fun remaining => logic.seq (assigned _ _) ?_
    refine logic.bind (fields _) fun name => logic.seq (handles.writes _ _ tools rfl) ?_
    refine logic.bind (fields _) fun wait => logic.seq (handles.writes _ _ tools rfl) ?_
    refine logic.seq (handles.writes _ _ lifecycle rfl) ?_
    refine logic.seq (handles.setPhase event lifecycle _) ?_
    exact logic.seq (handles.marks event rfl) (handles.marks event rfl)
  refine logic.ite (fun _ => identified _) fun _ => ?_
  refine logic.bind (handles.reads rfl) fun stored => ?_
  exact logic.bind (logic.lift _) fun count => identified _

theorem applyToolProgress (allowed : ∀ part ∈ EventClass.sections .toolProgress, permitted part) :
    logic.holds (State.applyToolProgress env event) := by
  have tools : permitted .tools := allowed _ (by decide)
  have lifecycle : permitted .lifecycle := allowed _ (by decide)
  unfold State.applyToolProgress
  refine logic.bind (handles.findNamedTool env event tools) fun index => ?_
  refine logic.seq (logic.forM fun key => handles.reportToolMeasure env event index tools key) ?_
  extract_lets afterProgress afterStatus
  have progress : ∀ done, logic.holds (afterProgress done) := by
    intro done
    refine logic.bind (handles.getToolAttr index _) fun remaining => ?_
    refine logic.bind (logic.lift _) fun _ => logic.seq (handles.writes _ _ tools rfl) ?_
    refine logic.seq (handles.writes _ _ lifecycle rfl) ?_
    refine logic.bind (handles.getToolAttr index _) fun status => ?_
    exact logic.seq (handles.writes _ _ lifecycle rfl) (handles.marks event rfl)
  have status : ∀ done, logic.holds (afterStatus done) := by
    intro done
    simp only [afterStatus]
    split
    · refine logic.bind (logic.lift _) fun value => logic.bind ?_ progress
      exact handles.setProgress event lifecycle (allowed _ (by decide)) value
    · exact progress ()
  split
  · refine logic.bind (handles.getToolAttr index _) fun _ => ?_
    exact logic.bind (handles.setToolAttr index tools _ _) status
  · exact status ()

theorem applyToolResult (allowed : ∀ part ∈ EventClass.sections .toolResult, permitted part) :
    logic.holds (State.applyToolResult env event) := by
  have tools : permitted .tools := allowed _ (by decide)
  unfold State.applyToolResult
  refine logic.bind (handles.findNamedTool env event tools) fun index => ?_
  refine logic.seq (handles.setToolAttr index tools _ _) ?_
  refine logic.seq (handles.setToolAttr index tools _ _) ?_
  refine logic.bind (logic.lift _) fun tokens => ?_
  refine logic.bind (handles.reads rfl) fun used => ?_
  refine logic.bind (logic.lift _) fun _ => logic.seq (handles.writesIn allowed rfl) ?_
  refine logic.bind (handles.reads rfl) fun total => ?_
  refine logic.bind (logic.lift _) fun _ => logic.seq (handles.writesIn allowed rfl) ?_
  refine logic.bind (handles.reads rfl) fun prompt => ?_
  refine logic.bind (handles.reads rfl) fun size => ?_
  refine logic.bind (logic.lift _) fun _ => logic.seq (handles.writesIn allowed rfl) ?_
  refine logic.seq (handles.writesIn allowed rfl) (logic.seq (handles.writesIn allowed rfl) ?_)
  refine logic.seq (handles.setPhase event (allowed _ (by decide)) _) ?_
  refine logic.seq (handles.writesIn allowed rfl) (logic.seq (handles.writesIn allowed rfl) ?_)
  refine logic.seq (handles.marks event rfl) ?_
  exact logic.seq (handles.marks event rfl) (handles.marks event rfl)

/-- A patch only writes the sections that it names. -/
theorem applyPatch_named
    (allowed : ∀ part : Section, permitted part ∨ event.payload.lookup part.label = none) :
    logic.holds (State.applyPatch env event) := by
  have present (part : Section) : logic.holds (State.setPresent env event part part.label) := by
    rcases allowed part with inside | absent
    · exact handles.setPresent env event inside _
    · unfold State.setPresent
      rw [absent]
      exact logic.pure _
  unfold State.applyPatch
  extract_lets payload afterExtensions
  have extended : ∀ done, logic.holds (afterExtensions done) := by
    intro done
    simp only [afterExtensions]
    split
    · refine logic.bind (logic.lift _) fun items => logic.forM fun entry => ?_
      split
      · exact logic.ite (fun _ => handles.setMeta env event _ _) fun _ => logic.pure _
      · exact logic.pure _
    · exact logic.pure _
  refine logic.seq (logic.forM present) ?_
  split
  · refine logic.bind (logic.lift _) fun items => logic.seq ?_ ?_
    · exact handles.extend fun extensions =>
        items.foldl (fun table entry => assign entry.1 entry.2 table) extensions
    · exact logic.bind (handles.marks event rfl) extended
  · exact extended ()

theorem applyPatch (allowed : ∀ part ∈ patchSections, permitted part) :
    logic.holds (State.applyPatch env event) :=
  handles.applyPatch_named env event fun part => Or.inl (allowed part (by cases part <;> decide))

/-- The handler of a class writes the sections of the class only. -/
theorem applyClass (kind : EventClass) (allowed : ∀ part ∈ kind.sections, permitted part) :
    logic.holds (State.applyClass env event kind) := by
  cases kind with
  | started =>
      have lifecycle : permitted .lifecycle := allowed _ (by decide)
      refine logic.seq (handles.setSection env event (allowed _ (by decide)) _) ?_
      refine logic.seq (handles.setPhase event lifecycle _) ?_
      refine logic.seq (handles.writes _ _ lifecycle rfl) ?_
      refine logic.seq (handles.setSection env event (allowed _ (by decide)) _) ?_
      refine logic.seq (handles.setSection env event (allowed _ (by decide)) _) ?_
      exact handles.marks event rfl
  | turnStarted =>
      have lifecycle : permitted .lifecycle := allowed _ (by decide)
      refine logic.seq (handles.writes _ _ lifecycle rfl) ?_
      refine logic.seq (handles.writes _ _ (allowed _ (by decide)) rfl) ?_
      have last : logic.holds (do
          State.setSection env event .context (event.nested "context")
          State.setSection env event .prediction (event.optional "prediction")
          State.setPhase event .runnable
          State.write .lifecycle "runnable" (.bool true)
          State.mark event (.part .lifecycle)) := by
        refine logic.seq (handles.setSection env event (allowed _ (by decide)) _) ?_
        refine logic.seq (handles.setSection env event (allowed _ (by decide)) _) ?_
        refine logic.seq (handles.setPhase event lifecycle _) ?_
        exact logic.seq (handles.writes _ _ lifecycle rfl) (handles.marks event rfl)
      exact logic.ite (fun _ => logic.seq (handles.writes _ _ lifecycle rfl) last) fun _ => last
  | modelRequest => exact handles.applyModelRequest env event allowed
  | modelStarted =>
      have lifecycle : permitted .lifecycle := allowed _ (by decide)
      refine logic.seq (handles.setPhase event lifecycle _) ?_
      exact logic.seq (handles.writes _ _ lifecycle rfl) (handles.marks event rfl)
  | modelDecode =>
      have lifecycle : permitted .lifecycle := allowed _ (by decide)
      refine logic.seq (handles.setPhase event lifecycle _) ?_
      exact logic.seq (handles.writes _ _ lifecycle rfl) (handles.marks event rfl)
  | modelResponse => exact handles.applyModelResponse env event allowed
  | toolStarted => exact handles.applyToolStarted env event allowed
  | toolProgress => exact handles.applyToolProgress env event allowed
  | toolResult => exact handles.applyToolResult env event allowed
  | compaction =>
      have context : permitted .context := allowed _ (by decide)
      refine logic.seq (handles.setSection env event context _) ?_
      exact logic.seq (handles.writes _ _ context rfl) (handles.marks event rfl)
  | failure => exact handles.applyFailure env event allowed _
  | completed =>
      have lifecycle : permitted .lifecycle := allowed _ (by decide)
      refine logic.seq (handles.writes _ _ lifecycle rfl) ?_
      refine logic.seq (handles.writes _ _ lifecycle rfl) ?_
      refine logic.seq (handles.setPhase event lifecycle _) ?_
      refine logic.seq (handles.setSection env event (allowed _ (by decide)) _) ?_
      exact handles.marks event rfl
  | sectionUpdate part => exact handles.setSection env event (allowed _ List.mem_cons_self) _
  | patch => exact handles.applyPatch env event allowed

/-- Every event writes the sections of its class, the header, and the identity. -/
theorem handle (everywhere : ∀ part, permitted part) :
    logic.holds (State.handle env event) := by
  refine logic.seq (logic.seq ?_ ?_) (handles.applyHeader event (everywhere _))
  · exact handles.applyIdentity env event (everywhere _) (everywhere _) _
  · exact handles.applyClass env event _ fun part _ => everywhere part

end Models

end Handles

end StateFlow.State
