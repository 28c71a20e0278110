import StateFlow.Library.Ascii
import StateFlow.Library.Outcome
import StateFlow.Proof.State.Handlers

namespace StateFlow.State
open Python Table Effect

section Entries

/-- The text that identifies an entry. -/
def toolIdOf (tool : Value) : Option String :=
  match tool.attr "tool_id" with
  | .ok (.str id) => some id
  | _ => none

/-- The text that names an entry. -/
def toolNameOf (tool : Value) : Option String :=
  match tool.attr "tool_name" with
  | .ok (.str name) => some name
  | _ => none

/-- An entry is a record with a text identifier and a text name. -/
structure Entry (tool : Value) : Prop where
  record : ∃ kind attrs, tool = .object kind attrs
  identified : ∃ id, tool.attr "tool_id" = .ok (.str id)
  named : ∃ name, tool.attr "tool_name" = .ok (.str name)

theorem toolIdOf_of_attr {tool : Value} {id : String} (found : tool.attr "tool_id" = .ok (.str id)) :
    toolIdOf tool = some id := by
  rw [toolIdOf, found]

theorem toolNameOf_of_attr {tool : Value} {name : String}
    (found : tool.attr "tool_name" = .ok (.str name)) : toolNameOf tool = some name := by
  rw [toolNameOf, found]

theorem Entry.id {tool : Value} (entry : Entry tool) : ∃ id, toolIdOf tool = some id ∧
    tool.attr "tool_id" = .ok (.str id) := by
  obtain ⟨id, found⟩ := entry.identified
  exact ⟨id, toolIdOf_of_attr found, found⟩

theorem Entry.name {tool : Value} (entry : Entry tool) : ∃ name, toolNameOf tool = some name ∧
    tool.attr "tool_name" = .ok (.str name) := by
  obtain ⟨name, found⟩ := entry.named
  exact ⟨name, toolNameOf_of_attr found, found⟩

/-- The identifier of an entry stays and its name stays a text. -/
structure Fits (id name : String) (value : Value) : Prop where
  id : name = "tool_id" → value = .str id
  name : name = "tool_name" → ∃ text, value = .str text

theorem fits_other {id name : String} (value : Value) (noId : name ≠ "tool_id")
    (noName : name ≠ "tool_name") : Fits id name value :=
  ⟨fun same => absurd same noId, fun same => absurd same noName⟩

theorem entry_setAttr {tool edited value : Value} {id name : String} (entry : Entry tool)
    (own : toolIdOf tool = some id) (fits : Fits id name value)
    (assigned : tool.setAttr name value = .ok edited) :
    Entry edited ∧ toolIdOf edited = some id := by
  have reads := attr_setAttr assigned
  have identified : edited.attr "tool_id" = .ok (.str id) := by
    rw [reads]
    split
    · rename_i same
      rw [fits.id same.symm]
    · obtain ⟨old, same, found⟩ := entry.id
      cases own.symm.trans same
      exact found
  have named : ∃ text, edited.attr "tool_name" = .ok (.str text) := by
    rw [reads]
    split
    · rename_i same
      obtain ⟨text, written⟩ := fits.name same.symm
      exact ⟨text, by rw [written]⟩
    · exact entry.named
  have record : ∃ kind attrs, edited = .object kind attrs := by
    obtain ⟨kind, attrs, rfl⟩ := entry.record
    cases assigned
    exact ⟨_, _, rfl⟩
  exact ⟨⟨record, ⟨id, identified⟩, named⟩, toolIdOf_of_attr identified⟩

end Entries

section Edits
variable {index : Nat} {id : String} {items edited : List Value}

/-- The position holds the entry of the identifier. -/
structure Present (index : Nat) (id : String) (items : List Value) : Prop where
  entries : ∀ tool ∈ items, Entry tool
  own : (items.map toolIdOf)[index]? = some (some id)

/-- Only the entry at the position changes and keeps its identifier. -/
structure Edits (index : Nat) (items edited : List Value) : Prop where
  entries : ∀ tool ∈ edited, Entry tool
  ids : edited.map toolIdOf = items.map toolIdOf
  others : ∀ other, other ≠ index → edited[other]? = items[other]?

theorem Edits.present (edits : Edits index items edited) (present : Present index id items) :
    Present index id edited :=
  ⟨edits.entries, by rw [edits.ids, present.own]⟩

theorem Present.refl (present : Present index id items) : Edits index items items :=
  ⟨present.entries, rfl, fun _ _ => rfl⟩

theorem Edits.trans {last : List Value} (first : Edits index items edited)
    (second : Edits index edited last) : Edits index items last :=
  ⟨second.entries, second.ids.trans first.ids,
    fun other apart => (second.others other apart).trans (first.others other apart)⟩

/-- The entry at the position. -/
theorem Present.tool (present : Present index id items) :
    ∃ tool, items[index]? = some tool ∧ Entry tool ∧ toolIdOf tool = some id := by
  have own := present.own
  rw [List.getElem?_map, Option.map_eq_some_iff] at own
  obtain ⟨tool, found, same⟩ := own
  exact ⟨tool, found, present.entries tool (List.mem_of_getElem? found), same⟩

theorem edits_set {tool : Value} (present : Present index id items) (entry : Entry tool)
    (own : toolIdOf tool = some id) : Edits index items (items.set index tool) := by
  refine ⟨fun member inside => ?_, ?_, fun other apart => List.getElem?_set_ne apart.symm⟩
  · rcases List.mem_or_eq_of_mem_set inside with old | new
    · exact present.entries member old
    · exact new ▸ entry
  · rw [List.map_set, own]
    apply List.ext_getElem?
    intro other
    rw [List.getElem?_set]
    split
    · rename_i same
      subst same
      rw [present.own]
      have bound := (List.getElem?_eq_some_iff.mp present.own).1
      rw [if_pos bound]
    · rfl

end Edits

/-- The tool entries of a state. -/
def AgentState.activeTools (state : AgentState) : List Value :=
  match state.get .tools "active_tools" with
  | .list items => items
  | _ => []

/-- The active tools are a list. -/
def AgentState.Lists (state : AgentState) (items : List Value) : Prop :=
  state.get .tools "active_tools" = .list items

theorem AgentState.Lists.activeTools {state : AgentState} {items : List Value}
    (lists : state.Lists items) : state.activeTools = items := by
  rw [AgentState.activeTools, lists]

/-- An update edits one entry of the list. -/
def editing (index : Nat) (id : String) : Frame AgentState where
  rel before after := ∀ items, before.Lists items → Present index id items →
    ∃ edited, after.Lists edited ∧ Edits index items edited
  refl _ items lists present := ⟨items, lists, present.refl⟩
  trans first second items lists present := by
    obtain ⟨edited, middle, edits⟩ := first items lists present
    obtain ⟨last, final, more⟩ := second edited middle (edits.present present)
    exact ⟨last, final, edits.trans more⟩

/-- These updates keep every entry. -/
abbrev keepsTools : Frame AgentState := Frame.fixes fun state => state.get .tools "active_tools"

section Keeps
variable (env : Environment) (event : AgentStateEvent)

theorem write_keepsTools {part : Section} {name : String} (value : Value)
    (other : part ≠ .tools ∨ name ≠ "active_tools") : Within keepsTools (write part name value) := by
  refine within_write (fun state value => ?_) value
  rw [AgentState.get_set, if_neg]
  rintro ⟨rfl, rfl⟩
  exact other.elim (fun apart => apart rfl) fun apart => apart rfl

theorem mark_keepsTools (name : MarkName) : Within keepsTools (mark event name) :=
  within_modify _ fun _ => rfl

/-- The handlers of the other sections keep every entry. -/
theorem toolsKept : Handles (ProgramLogic.within keepsTools) fun part => part ≠ .tools :=
  handles_fixes (fun state part name value other => by
    rw [AgentState.get_set, if_neg]
    exact fun same => other same.1.symm) fun _ _ _ => rfl

end Keeps

section Handlers
variable {env : Environment} {event : AgentStateEvent} {index : Nat} {id : String}

theorem keeps_editing {A : Type} {program : Update A} (kept : Within keepsTools program) :
    Within (editing index id) program :=
  fun state items lists present => ⟨items, (kept state).trans lists, present.refl⟩

theorem readTool_run {state : AgentState} {items : List Value} (lists : state.Lists items) :
    readTool index state = .ok (items.getD index .none) state := by
  have listed : lift (Value.iter (state.get .tools "active_tools")) state = .ok items state := by
    rw [lists]
    rfl
  unfold readTool
  rw [bind_of_ok (read_run _ _ _), bind_of_ok listed]
  rfl

theorem readTool_editing : Within (editing index id) (readTool index) :=
  within_bind (within_read _ _) fun _ => within_bind (within_lift _) fun _ => within_pure _

theorem getToolAttr_editing (name : String) : Within (editing index id) (getToolAttr index name) :=
  within_bind readTool_editing fun _ => within_lift _

/-- An assignment edits the entry at its position. -/
theorem setToolAttr_editing {name : String} {value : Value} (fits : Fits id name value) :
    Within (editing index id) (setToolAttr index name value) := by
  intro state items lists present
  obtain ⟨tool, found, entry, own⟩ := present.tool
  have assigned : ∃ edited, tool.setAttr name value = .ok edited := by
    obtain ⟨kind, attrs, rfl⟩ := entry.record
    exact ⟨_, rfl⟩
  obtain ⟨edited, assigned⟩ := assigned
  obtain ⟨kept, same⟩ := entry_setAttr entry own fits assigned
  have reads : readTool index state = .ok tool state := by
    rw [readTool_run lists, List.getD_eq_getElem?_getD, found]
    rfl
  have ran : setToolAttr index name value state =
      .ok () (state.set .tools "active_tools" (.list (items.set index edited))) := by
    unfold setToolAttr
    rw [bind_of_ok (read_run _ _ _), bind_of_ok reads, bind_of_ok (lift_of_ok assigned _), lists]
    rfl
  rw [ran]
  exact ⟨items.set index edited, AgentState.get_set_same _ _ _ _, edits_set present kept same⟩

/-- A payload entry edits the tool at its position. -/
theorem setToolField_editing {key : String} {value : Value} (fits : Fits id key value) :
    Within (editing index id) (setToolField env event index key value) := by
  intro state items lists present
  obtain ⟨tool, found, entry, own⟩ := present.tool
  have reads : readTool index state = .ok tool state := by
    rw [readTool_run lists, List.getD_eq_getElem?_getD, found]
    rfl
  unfold setToolField
  rw [bind_of_ok reads]
  split
  · exact ⟨items, lists, present.refl⟩
  · cases stored : tool.attr key with
    | error error => exact ⟨items, lists, present.refl⟩
    | ok old =>
        rw [bind_of_ok (lift_of_ok rfl state)]
        cases converts : convertForField env.toText old value ("tools.active_tools." ++ key) with
        | error error => exact ⟨items, lists, present.refl⟩
        | ok converted =>
            rw [bind_of_ok (lift_of_ok rfl state)]
            have written : Fits id key converted := by
              constructor
              · intro same
                subst same
                obtain ⟨text, identified⟩ := entry.identified
                cases stored.symm.trans identified
                cases converts
                exact fits.id rfl
              · intro same
                subst same
                obtain ⟨text, named⟩ := entry.named
                cases stored.symm.trans named
                cases converts
                exact fits.name rfl
            have inside : Within (editing index id)
                (do setToolAttr index key converted; mark event (.tool key)) :=
              within_seq (setToolAttr_editing written) (keeps_editing (mark_keepsTools event _))
            exact inside state items lists present

theorem reportToolMeasure_editing {key : String} (noId : key ≠ "tool_id")
    (noName : key ≠ "tool_name") :
    Within (editing index id) (reportToolMeasure env event index key) := by
  unfold reportToolMeasure
  split
  · refine within_bind readTool_editing fun tool => ?_
    split
    · refine within_bind (within_lift _) fun _ => ?_
      refine within_bind (within_lift _) fun _ => ?_
      refine within_bind (within_lift _) fun _ => ?_
      exact setToolAttr_editing (fits_other _ noId noName)
    · exact within_pure _
  · exact within_pure _

end Handlers

/-- No entry ahead of the one with the identifier carries the name. -/
def Clear (id name : String) (items : List Value) : Prop :=
  name = "" ∨ ∀ tool ∈ items.takeWhile (fun tool => toolIdOf tool ≠ some id),
    toolNameOf tool ≠ some name

instance (id name : String) (items : List Value) : Decidable (Clear id name items) :=
  inferInstanceAs (Decidable (_ ∨ _))

section Find
variable {id name : String} {items : List Value}

theorem toolMatches_entry {tool : Value} {own named : String} (explicit : id ≠ "")
    (identified : tool.attr "tool_id" = .ok (.str own))
    (names : tool.attr "tool_name" = .ok (.str named)) :
    toolMatches id name tool = .ok (decide (own = id ∨ name ≠ "" ∧ named = name)) := by
  have texts (first second : String) : (Value.str first).eq (.str second) = (first == second) := rfl
  unfold toolMatches
  rw [if_pos explicit, identified, names]
  simp only [bind, Except.bind, texts, pure, Except.pure]
  by_cases same : own = id
  · simp [same]
  · by_cases empty : name = ""
    · simp [same, empty]
    · by_cases called : named = name
      · simp [same, empty, called]
      · simp [same, empty, called]

theorem clear_cons {tool : Value} (clear : Clear id name (tool :: items))
    (different : toolIdOf tool ≠ some id) :
    (name = "" ∨ toolNameOf tool ≠ some name) ∧ Clear id name items := by
  rcases clear with empty | ahead
  · exact ⟨Or.inl empty, Or.inl empty⟩
  · rw [List.takeWhile_cons_of_pos (by simpa using different)] at ahead
    exact ⟨Or.inr (ahead tool List.mem_cons_self),
      Or.inr fun other member => ahead other (List.mem_cons_of_mem _ member)⟩

/-- A clear search stops at the entry with the identifier or finds nothing. -/
theorem findToolIndex_clear (explicit : id ≠ "") (entries : ∀ tool ∈ items, Entry tool)
    (clear : Clear id name items) (start : Nat) :
    (∃ index, findToolIndex id name items start = .ok (some (start + index)) ∧
      (items.map toolIdOf)[index]? = some (some id)) ∨
    (findToolIndex id name items start = .ok none ∧ some id ∉ items.map toolIdOf) := by
  induction items generalizing start with
  | nil => exact Or.inr ⟨rfl, List.not_mem_nil⟩
  | cons tool rest ih =>
      obtain ⟨own, isOwn, identified⟩ := (entries tool List.mem_cons_self).id
      obtain ⟨named, isNamed, names⟩ := (entries tool List.mem_cons_self).name
      have tested := @toolMatches_entry id name tool own named explicit identified names
      by_cases same : own = id
      · refine Or.inl ⟨0, ?_, ?_⟩
        · unfold findToolIndex
          rw [tested, decide_eq_true (Or.inl same)]
          rfl
        · rw [List.map_cons, isOwn, same]
          rfl
      · have different : toolIdOf tool ≠ some id := by
          rw [isOwn]
          exact fun equal => same (Option.some.inj equal)
        obtain ⟨unnamed, later⟩ := clear_cons clear different
        have misses : ¬ (own = id ∨ name ≠ "" ∧ named = name) := by
          rintro (equal | ⟨nonempty, equal⟩)
          · exact same equal
          · rcases unnamed with empty | other
            · exact nonempty empty
            · exact other (by rw [isNamed, equal])
        have continues : findToolIndex id name (tool :: rest) start =
            findToolIndex id name rest (start + 1) := by
          rw [findToolIndex, tested, decide_eq_false misses]
          rfl
        rcases ih (fun other member => entries other (List.mem_cons_of_mem _ member)) later
          (start + 1) with ⟨index, found, here⟩ | ⟨missing, absent⟩
        · refine Or.inl ⟨index + 1, ?_, here⟩
          rw [continues, found, Nat.add_assoc, Nat.add_comm 1]
        · refine Or.inr ⟨continues.trans missing, ?_⟩
          rw [List.map_cons, List.mem_cons]
          rintro (equal | member)
          · exact different equal.symm
          · exact absent member

/-- A new entry carries the requested identifier and name. -/
theorem created_entry (text : Text) (id name : String) :
    ∃ tool, recordFromMapping text "ToolExecution"
      [("tool_id", .str id), ("tool_name", .str name)] = .ok tool ∧ Entry tool ∧
        toolIdOf tool = some id :=
  ⟨_, rfl, ⟨⟨_, _, rfl⟩, ⟨id, rfl⟩, ⟨name, rfl⟩⟩, rfl⟩

/-- A clear search ends at the entry of the identifier, which it appends when it is new. -/
theorem findTool_clear (env : Environment) {state : AgentState} (lists : state.Lists items)
    (explicit : id ≠ "") (entries : ∀ tool ∈ items, Entry tool) (clear : Clear id name items) :
    ∃ index next found, findTool env id name state = .ok index next ∧ next.Lists found ∧
      Present index id found ∧ (found = items ∨ some id ∉ items.map toolIdOf ∧
        ∃ tool, found = items ++ [tool] ∧ toolIdOf tool = some id) := by
  have listed : lift (Value.iter (state.get .tools "active_tools")) state = .ok items state := by
    rw [lists]
    rfl
  unfold findTool
  rw [bind_of_ok (read_run _ _ _), bind_of_ok listed]
  rcases findToolIndex_clear explicit entries clear 0 with ⟨index, found, here⟩ | ⟨missing, absent⟩
  · rw [bind_of_ok (lift_of_ok found _)]
    refine ⟨0 + index, state, items, rfl, lists, ⟨entries, ?_⟩, Or.inl rfl⟩
    rw [Nat.zero_add]
    exact here
  · rw [bind_of_ok (lift_of_ok missing _)]
    obtain ⟨tool, made, entry, own⟩ :=
      created_entry env.toText id (if name ≠ "" then name else "unknown")
    rw [if_pos explicit]
    dsimp only
    rw [bind_of_ok (lift_of_ok made _), lists]
    refine ⟨items.length, _, items ++ [tool], rfl, AgentState.get_set_same _ _ _ _, ⟨?_, ?_⟩,
      Or.inr ⟨absent, tool, rfl, own⟩⟩
    · intro other member
      rcases List.mem_append.mp member with old | new
      · exact entries other old
      · rw [List.mem_singleton.mp new]
        exact entry
    · rw [List.map_append, List.getElem?_append_right (by simp), List.length_map, Nat.sub_self,
        List.map_singleton, own]
      rfl

end Find

/-- The entries of the other tools stay. No identifier is lost or repeated. -/
structure Handled (id : String) (items edited : List Value) : Prop where
  entries : ∀ tool ∈ edited, Entry tool
  distinct : (edited.map toolIdOf).Nodup
  others : ∀ tool, toolIdOf tool ≠ some id → (tool ∈ edited ↔ tool ∈ items)
  known : ∀ other ∈ items.map toolIdOf, other ∈ edited.map toolIdOf

section Handled
variable {id name : String} {items found edited : List Value} {index : Nat}

/-- An edit of the found entry keeps the other entries. -/
theorem handled_of_edits (distinct : (items.map toolIdOf).Nodup)
    (present : Present index id found)
    (appended : found = items ∨ some id ∉ items.map toolIdOf ∧
      ∃ tool, found = items ++ [tool] ∧ toolIdOf tool = some id)
    (edits : Edits index found edited) :
    Handled id items edited ∧ some id ∈ edited.map toolIdOf := by
  have own : (edited.map toolIdOf)[index]? = some (some id) := by rw [edits.ids, present.own]
  have apart (tool : Value) (different : toolIdOf tool ≠ some id) (tools : List Value)
      (here : (tools.map toolIdOf)[index]? = some (some id)) (place : Nat)
      (inside : tools[place]? = some tool) : place ≠ index := by
    rintro rfl
    rw [List.getElem?_map, inside, Option.map_some, Option.some.injEq] at here
    exact different here
  have others (tool : Value) (different : toolIdOf tool ≠ some id) :
      tool ∈ edited ↔ tool ∈ found := by
    constructor
    · intro member
      obtain ⟨place, inside⟩ := List.mem_iff_getElem?.mp member
      have other := apart tool different edited own place inside
      exact List.mem_of_getElem? ((edits.others place other).symm.trans inside)
    · intro member
      obtain ⟨place, inside⟩ := List.mem_iff_getElem?.mp member
      have other := apart tool different found present.own place inside
      exact List.mem_of_getElem? ((edits.others place other).trans inside)
  refine ⟨⟨edits.entries, ?_, ?_, ?_⟩, List.mem_of_getElem? own⟩
  · rw [edits.ids]
    rcases appended with rfl | ⟨absent, tool, rfl, same⟩
    · exact distinct
    · rw [List.map_append, List.map_singleton, same, List.nodup_append]
      refine ⟨distinct, List.nodup_singleton _, fun first member second single => ?_⟩
      rw [List.mem_singleton.mp single]
      rintro rfl
      exact absent member
  · intro tool different
    rw [others tool different]
    rcases appended with rfl | ⟨_, last, rfl, same⟩
    · rfl
    · rw [List.mem_append, List.mem_singleton]
      constructor
      · rintro (old | rfl)
        · exact old
        · exact absurd same different
      · exact Or.inl
  · intro other member
    rw [edits.ids]
    rcases appended with rfl | ⟨_, last, rfl, _⟩
    · exact member
    · rw [List.map_append]
      exact List.mem_append_left _ member

/-- A clear search followed by edits of the found entry. -/
theorem findTool_handled {env : Environment} {state : AgentState} {rest : Nat → Update Unit}
    (edits : ∀ index, Within (editing index id) (rest index)) (lists : state.Lists items)
    (explicit : id ≠ "") (entries : ∀ tool ∈ items, Entry tool)
    (distinct : (items.map toolIdOf).Nodup) (clear : Clear id name items) :
    ∃ edited, (finalState ((findTool env id name >>= rest) state)).Lists edited ∧
      Handled id items edited ∧ some id ∈ edited.map toolIdOf := by
  obtain ⟨index, next, found, ran, listed, present, appended⟩ :=
    findTool_clear env lists explicit entries clear
  rw [bind_of_ok ran]
  obtain ⟨edited, final, edit⟩ := edits index next found listed present
  exact ⟨edited, final, handled_of_edits distinct present appended edit⟩

end Handled

/-- A tool event carries the text identifier and the text name of its tool. A start without a
name starts an unknown tool. -/
structure ToolEvent (env : Environment) (event : AgentStateEvent) (id name : String) : Prop where
  kind : event.kind env ∈ [EventClass.toolStarted, .toolProgress, .toolResult]
  keys : (event.payload.map Prod.fst).Nodup
  identified : event.payload.lookup "tool_id" = some (.str id)
  explicit : id ≠ ""
  named : event.payload.lookup "tool_name" = some (.str name) ∨
    event.kind env = .toolStarted ∧ event.payload.lookup "tool_name" = none ∧ name = "unknown"

section Events
variable {env : Environment} {event : AgentStateEvent} {id name : String}

theorem ToolEvent.fits (tooled : ToolEvent env event id name) :
    ∀ entry ∈ event.payload, Fits id entry.1 entry.2 := by
  intro entry member
  have read := lookup_of_mem tooled.keys member
  constructor
  · intro same
    rw [same, tooled.identified] at read
    exact (Option.some.inj read).symm
  · intro same
    rw [same] at read
    rcases tooled.named with text | ⟨_, absent, _⟩
    · exact ⟨name, Option.some.inj (read.symm.trans text)⟩
    · cases absent.symm.trans read

/-- The updates of a start after its search. -/
theorem applyToolStarted_eq (tooled : ToolEvent env event id name) :
    ∃ rest, applyToolStarted env event = findTool env id
        (env.str (getD event.payload "tool_name" (.str "unknown"))) >>= rest ∧
      ∀ index, Within (editing index id) (rest index) := by
  have own : (getD event.payload "tool_id" .none).orElse (.str event.stepId) = .str id := by
    rw [getD, tooled.identified, Option.getD_some, Value.orElse, if_pos]
    simpa [Value.truthy] using tooled.explicit
  have truthy : (Value.str id).truthy = true := by simpa [Value.truthy] using tooled.explicit
  have same : env.str (.str id) = id := rfl
  refine ⟨_, by
    unfold applyToolStarted
    dsimp only
    rw [own, if_pos truthy, same]
    rfl, fun index => ?_⟩
  have status {value : Value} : Within (editing index id) (setToolAttr index "status" value) :=
    setToolAttr_editing (fits_other _ (by decide) (by decide))
  have remaining {value : Value} :
      Within (editing index id) (setToolAttr index "remaining_time_seconds" value) :=
    setToolAttr_editing (fits_other _ (by decide) (by decide))
  have identify : Within (editing index id) (setToolAttr index "tool_id" (.str id)) :=
    setToolAttr_editing ⟨fun _ => rfl, fun same => absurd same (by decide)⟩
  have rename {text : String} :
      Within (editing index id) (setToolAttr index "tool_name" (.str text)) :=
    setToolAttr_editing ⟨fun same => absurd same (by decide), fun _ => ⟨text, rfl⟩⟩
  refine within_seq (within_forM fun entry member => setToolField_editing (tooled.fits entry member)) ?_
  refine within_seq identify ?_
  refine within_bind (getToolAttr_editing _) fun stored => within_seq rename ?_
  refine within_seq status ?_
  refine within_bind (getToolAttr_editing _) fun stored => ?_
  refine within_bind (within_lift _) fun _ => within_seq remaining ?_
  refine within_bind (getToolAttr_editing _) fun stored => ?_
  refine within_seq (keeps_editing (write_keepsTools _ (Or.inr (by decide)))) ?_
  refine within_bind (getToolAttr_editing _) fun stored => ?_
  refine within_seq (keeps_editing (write_keepsTools _ (Or.inr (by decide)))) ?_
  refine within_seq (keeps_editing (write_keepsTools _ (Or.inl (by decide)))) ?_
  refine within_seq (keeps_editing (toolsKept.setPhase event (by decide) _)) ?_
  exact within_seq (keeps_editing (mark_keepsTools event _)) (keeps_editing (mark_keepsTools event _))

/-- A search of a progress or a result event uses its identifier and its name. -/
theorem findNamedTool_run (identified : event.payload.lookup "tool_id" = some (.str id))
    (named : event.payload.lookup "tool_name" = some (.str name)) (rest : Nat → Update Unit)
    (state : AgentState) :
    (findNamedTool env event >>= rest) state = (findTool env id name >>= rest) state := by
  refine bind_congr_left ?_
  unfold findNamedTool
  rw [bind_of_ok (read_run _ _ _)]
  simp only [getD, identified, named, Option.getD_some]
  rfl

/-- The updates of a progress report after its search. -/
theorem applyToolProgress_eq : ∃ rest, applyToolProgress env event =
    findNamedTool env event >>= rest ∧ ∀ index, Within (editing index id) (rest index) := by
  refine ⟨_, rfl, fun index => ?_⟩
  have status {value : Value} : Within (editing index id) (setToolAttr index "status" value) :=
    setToolAttr_editing (fits_other _ (by decide) (by decide))
  refine within_seq (within_forM fun key member => ?_) ?_
  · have listed : key = "elapsed_seconds" ∨ key = "remaining_time_seconds" ∨
        key = "predicted_output_bytes" ∨ key = "predicted_output_tokens" := by
      simpa using member
    rcases listed with rfl | rfl | rfl | rfl
    all_goals exact reportToolMeasure_editing (by decide) (by decide)
  extract_lets afterProgress afterStatus
  have ends : ∀ done, Within (editing index id) (afterProgress done) := by
    intro done
    refine within_bind (getToolAttr_editing _) fun stored => ?_
    refine within_bind (within_lift _) fun _ => ?_
    refine within_seq (keeps_editing (write_keepsTools _ (Or.inr (by decide)))) ?_
    refine within_seq (keeps_editing (write_keepsTools _ (Or.inl (by decide)))) ?_
    refine within_bind (getToolAttr_editing _) fun stored => ?_
    refine within_seq (keeps_editing (write_keepsTools _ (Or.inl (by decide)))) ?_
    exact keeps_editing (mark_keepsTools event _)
  have last : ∀ done, Within (editing index id) (afterStatus done) := by
    intro done
    simp only [afterStatus]
    split
    · refine within_bind (within_lift _) fun _ => ?_
      exact within_bind (keeps_editing (toolsKept.setProgress event (by decide) (by decide) _)) ends
    · exact ends ()
  split
  · exact within_bind (getToolAttr_editing _) fun stored => within_bind status last
  · exact last ()

/-- The updates of a result after its search. -/
theorem applyToolResult_eq : ∃ rest, applyToolResult env event =
    findNamedTool env event >>= rest ∧ ∀ index, Within (editing index id) (rest index) := by
  refine ⟨_, rfl, fun index => ?_⟩
  have keeps {part : Section} {name : String} {value : Value} (other : part ≠ .tools) :
      Within (editing index id) (write part name value) :=
    keeps_editing (write_keepsTools _ (Or.inl other))
  refine within_seq (setToolAttr_editing (fits_other _ (by decide) (by decide))) ?_
  refine within_seq (setToolAttr_editing (fits_other _ (by decide) (by decide))) ?_
  refine within_bind (within_lift _) fun tokens => ?_
  refine within_bind (within_read _ _) fun toolTokens => ?_
  refine within_bind (within_lift _) fun _ => within_seq (keeps (by decide)) ?_
  refine within_bind (within_read _ _) fun total => ?_
  refine within_bind (within_lift _) fun _ => within_seq (keeps (by decide)) ?_
  refine within_bind (within_read _ _) fun prompt => ?_
  refine within_bind (within_read _ _) fun total => ?_
  refine within_bind (within_lift _) fun _ => within_seq (keeps (by decide)) ?_
  refine within_seq (keeps_editing (write_keepsTools _ (Or.inr (by decide)))) ?_
  refine within_seq (keeps (by decide)) ?_
  refine within_seq (keeps_editing (toolsKept.setPhase event (by decide) _)) ?_
  refine within_seq (keeps (by decide)) (within_seq (keeps (by decide)) ?_)
  refine within_seq (keeps_editing (mark_keepsTools event _)) ?_
  exact within_seq (keeps_editing (mark_keepsTools event _)) (keeps_editing (mark_keepsTools event _))

/-- Every tool event searches its tool and edits the found entry. -/
theorem applyClass_find (tooled : ToolEvent env event id name) :
    ∃ rest, (∀ state, applyClass env event (event.kind env) state =
      (findTool env id name >>= rest) state) ∧ ∀ index, Within (editing index id) (rest index) := by
  have given : event.kind env ≠ .toolStarted → event.payload.lookup "tool_name" = some (.str name) :=
    fun other => tooled.named.resolve_right fun ⟨start, _⟩ => other start
  have kinds := tooled.kind
  simp only [List.mem_cons, List.not_mem_nil, or_false] at kinds
  rcases kinds with start | progress | result
  · obtain ⟨rest, same, edits⟩ := applyToolStarted_eq tooled
    refine ⟨rest, fun state => ?_, edits⟩
    have called : env.str (getD event.payload "tool_name" (.str "unknown")) = name := by
      rcases tooled.named with text | ⟨_, absent, unknown⟩
      · rw [getD, text]
        rfl
      · rw [getD, absent, unknown]
        rfl
    rw [start]
    change applyToolStarted env event state = _
    rw [same, called]
  · obtain ⟨rest, same, edits⟩ := @applyToolProgress_eq env event id
    refine ⟨rest, fun state => ?_, edits⟩
    have named := given (by rw [progress]; decide)
    rw [progress]
    change applyToolProgress env event state = _
    rw [same, findNamedTool_run tooled.identified named]
  · obtain ⟨rest, same, edits⟩ := @applyToolResult_eq env event id
    refine ⟨rest, fun state => ?_, edits⟩
    have named := given (by rw [result]; decide)
    rw [result]
    change applyToolResult env event state = _
    rw [same, findNamedTool_run tooled.identified named]

theorem handled_refl {items : List Value} (entries : ∀ tool ∈ items, Entry tool)
    (distinct : (items.map toolIdOf).Nodup) : Handled id items items :=
  ⟨entries, distinct, fun _ _ => Iff.rfl, fun _ member => member⟩

/-- A tool event leaves the other entries alone. Its own entry is present when it returns. -/
theorem handle_handled {state : AgentState} {items : List Value}
    (tooled : ToolEvent env event id name) (lists : state.Lists items)
    (entries : ∀ tool ∈ items, Entry tool) (distinct : (items.map toolIdOf).Nodup)
    (clear : Clear id name items) :
    ∃ edited, (finalState (handle env event state)).Lists edited ∧ Handled id items edited ∧
      ∀ last, handle env event state = .ok () last → some id ∈ edited.map toolIdOf := by
  have header (state : AgentState) := toolsKept.applyHeader event (by decide) state
  have identity := toolsKept.applyIdentity env event (by decide) (by decide)
    (event.nested "identity") state
  obtain ⟨rest, searches, edits⟩ := applyClass_find tooled
  have final : (finalState (handle env event state)).get .tools "active_tools" =
      (finalState (applyEvent env event state)).get .tools "active_tools" :=
    @observe_bind _ _ _ _ _ (fun state : AgentState => state.get .tools "active_tools") _ _
      (fun _ => toolsKept.applyHeader event (by decide)) state
  cases identified : applyIdentity env event (event.nested "identity") state with
  | error error middle =>
      rw [identified] at identity
      have stopped : applyEvent env event state = .error error middle := bind_of_error identified
      have raised : handle env event state = .error error middle := bind_of_error stopped
      refine ⟨items, ?_, handled_refl entries distinct, fun last returned => ?_⟩
      · rw [raised]
        exact Eq.trans identity lists
      · rw [raised] at returned
        cases returned
  | ok done middle =>
      rw [identified] at identity
      have middleLists : middle.Lists items := Eq.trans identity lists
      obtain ⟨edited, listed, handled, present⟩ :=
        @findTool_handled id name items env middle rest edits middleLists tooled.explicit entries
          distinct clear
      have applied : applyEvent env event state = applyClass env event (event.kind env) middle :=
        bind_of_ok identified
      rw [applied, searches] at final
      exact ⟨edited, Eq.trans final listed, handled, fun _ _ => present⟩

end Events

/-- The tool entries of a stored state. -/
def Store.tools (store : Store) (key : StateKey) : List Value :=
  match store.states key with
  | some state => state.activeTools
  | none => []

/-- The entries of a state have distinct identifiers and hold each started tool. -/
structure Tooled (key : StateKey) (started : List (String × String)) (store : Store) : Prop where
  lists : ∀ state, store.states key = some state → state.Lists (store.tools key)
  entries : ∀ tool ∈ store.tools key, Entry tool
  distinct : ((store.tools key).map toolIdOf).Nodup
  present : ∀ id ∈ started.map Prod.fst, some id ∈ (store.tools key).map toolIdOf

/-- An accepted start starts its tool. -/
def startedAfter (env : Environment) (fresh : Fresh) (event : AgentStateEvent) (store : Store)
    (tool : String × String) (started : List (String × String)) : List (String × String) :=
  if event.kind env = .toolStarted ∧
      answersWith AppendResult.accepted (appendEvent env fresh event store) = true then
    tool :: started
  else started

/-- A run of tool events on one state. Each start carries an identifier of its own. Every other
event names a started tool. An exception ends its own event only. -/
inductive ToolRun (env : Environment) (key : StateKey)
    (allowed : String → String → List Value → Prop) : List (String × String) → Store → Prop
  | start {store : Store} (empty : ∀ state, store.states key = some state → state.Lists []) :
      ToolRun env key allowed [] store
  | step {started : List (String × String)} {store : Store} {event : AgentStateEvent}
      {id name : String} (fresh : Fresh) (reached : ToolRun env key allowed started store)
      (own : event.key = key) (tooled : ToolEvent env event id name)
      (unused : event.kind env = .toolStarted → id ∉ started.map Prod.fst)
      (known : event.kind env ≠ .toolStarted → (id, name) ∈ started)
      (fits : allowed id name (store.tools key)) :
      ToolRun env key allowed (startedAfter env fresh event store (id, name) started)
        (finalState (appendEvent env fresh event store))

section Run
variable {env : Environment} {key : StateKey} {started : List (String × String)} {store : Store}

theorem newAgentState_lists (fresh : Fresh) (sessionId taskId : String) (tenantId : Value) :
    (newAgentState fresh sessionId taskId tenantId).Lists [] := by
  unfold AgentState.Lists
  simp only [newAgentState]
  repeat rw [AgentState.get_set, if_neg (by decide)]
  rfl

theorem tooled_start (empty : ∀ state, store.states key = some state → state.Lists []) :
    Tooled key [] store := by
  have none : store.tools key = [] := by
    rw [Store.tools]
    cases found : store.states key with
    | none => rfl
    | some state => exact (empty state found).activeTools
  constructor
  · rw [none]
    exact empty
  · rw [none]
    exact fun _ member => absurd member List.not_mem_nil
  · rw [none]
    exact List.nodup_nil
  · exact fun _ member => absurd member List.not_mem_nil

/-- The state that an event changes lists the stored entries. -/
theorem Tooled.target {event : AgentStateEvent} (tooled : Tooled key started store)
    (own : event.key = key) (fresh : Fresh) :
    (store.target fresh event).Lists (store.tools key) := by
  rw [Store.target, own]
  cases found : store.states key with
  | some state => exact tooled.lists state found
  | none =>
      have none : store.tools key = [] := by rw [Store.tools, found]
      rw [none]
      exact newAgentState_lists fresh event.sessionId event.taskId (.str "default")

theorem sequenced_tooled {received event : AgentStateEvent} {last : Order} {id name : String}
    (named : ToolEvent env received id name) (sequenced : received.sequenced last = .ok event) :
    ToolEvent env event id name := by
  rw [sequenced_same sequenced]
  exact ⟨named.kind, named.keys, named.identified, named.explicit, named.named⟩

section Step
variable {event : AgentStateEvent} {id name : String} (tooled : Tooled key started store)
  (own : event.key = key) (named : ToolEvent env event id name)
  (clear : Clear id name (store.tools key)) (fresh : Fresh)
include tooled own named clear

/-- An accepted event leaves the entry of its tool. -/
theorem accepted_present
    (accepted : answersWith AppendResult.accepted (appendEvent env fresh event store) = true) :
    some id ∈ ((finalState (appendEvent env fresh event store)).tools key).map toolIdOf := by
  obtain ⟨result, last, ran, yes⟩ := returned_of_answers accepted
  obtain ⟨sequel, sequenced, ⟨no, _⟩ | ⟨_, _, _, state, handled, next⟩⟩ := appendEvent_cases ran
  · rw [yes] at no
    cases no
  · have same := (sequenced_key sequenced).trans own
    obtain ⟨edited, lists, _, present⟩ := handle_handled (sequenced_tooled named sequenced)
      (tooled.target same fresh) tooled.entries tooled.distinct clear
    rw [handled] at lists
    have tools : last.tools key = edited := by
      have found : (store.accept sequel state).states key = some state := by
        rw [← same]
        exact Function.update_self _ _ _
      rw [next, Store.tools, found]
      exact lists.activeTools
    rw [ran, finalState_ok, tools]
    exact present state handled

/-- An event leaves the entries of its state handled. -/
theorem append_handled :
    ∃ edited, Handled id (store.tools key) edited ∧
      (finalState (appendEvent env fresh event store)).tools key = edited ∧
        ∀ state, (finalState (appendEvent env fresh event store)).states key = some state →
          state.Lists edited := by
  rcases appendEvent_states env fresh event store with same | ⟨sequel, sequenced, states⟩
  · refine ⟨store.tools key, handled_refl tooled.entries tooled.distinct, ?_, ?_⟩
    · rw [Store.tools, same]
      rfl
    · rw [same]
      exact tooled.lists
  · have same := (sequenced_key sequenced).trans own
    obtain ⟨edited, lists, handled, _⟩ := handle_handled (sequenced_tooled named sequenced)
      (tooled.target same fresh) tooled.entries tooled.distinct clear
    rw [own] at states
    refine ⟨edited, handled, ?_, fun state found => ?_⟩
    · rw [Store.tools, states, Function.update_self]
      exact lists.activeTools
    · rw [states, Function.update_self, Option.some.injEq] at found
      rw [← found]
      exact lists

/-- A tool event of a clear state changes no other entry. Its state stays well formed. -/
theorem tooled_step :
    (∀ tool, toolIdOf tool ≠ some id →
      (tool ∈ (finalState (appendEvent env fresh event store)).tools key ↔
        tool ∈ store.tools key)) ∧
    Tooled key (startedAfter env fresh event store (id, name) started)
      (finalState (appendEvent env fresh event store)) := by
  obtain ⟨edited, handled, tools, lists⟩ := append_handled tooled own named clear fresh
  rw [tools]
  refine ⟨handled.others, ?_, ?_, ?_, ?_⟩
  · rw [tools]
    exact lists
  · rw [tools]
    exact handled.entries
  · rw [tools]
    exact handled.distinct
  · have old : ∀ other ∈ started.map Prod.fst, some other ∈ edited.map toolIdOf :=
      fun other member => handled.known _ (tooled.present other member)
    intro other member
    rw [startedAfter] at member
    split at member
    · rename_i accepted
      rcases List.mem_cons.mp member with new | before
      · rw [new]
        exact accepted_present tooled own named clear fresh accepted.2
      · rw [tools]
        exact old other before
    · rw [tools]
      exact old other member

end Step

/-- A run of clear tool events keeps its state well formed. -/
theorem toolRun_tooled (reached : ToolRun env key Clear started store) :
    Tooled key started store := by
  induction reached with
  | start empty => exact tooled_start empty
  | step fresh _ own named _ _ clear ih => exact (tooled_step ih own named clear fresh).2

end Run

/-- Each started tool has exactly one entry. -/
def OneEntryEach (key : StateKey) (started : List (String × String)) (store : Store) : Prop :=
  ∀ id ∈ started.map Prod.fst, ((store.tools key).map toolIdOf).count (some id) = 1

/-- A run of tool events gives each started tool one entry, and an event of one tool changes no
entry of another one, when no entry ahead of its own carries the name of the event. -/
theorem tools_isolated {env : Environment} {key : StateKey} {started : List (String × String)}
    {store : Store} (reached : ToolRun env key Clear started store) :
    OneEntryEach key started store ∧
      ∀ fresh event id name, event.key = key → ToolEvent env event id name →
        Clear id name (store.tools key) → ∀ tool, toolIdOf tool ≠ some id →
          (tool ∈ (finalState (appendEvent env fresh event store)).tools key ↔
            tool ∈ store.tools key) := by
  have tooled := toolRun_tooled reached
  constructor
  · intro id member
    exact List.count_eq_one_of_mem tooled.distinct (tooled.present id member)
  · intro fresh event id name own named clear
    exact (tooled_step tooled own named clear fresh).1

section Demo

def toolEnvironment : Environment :=
  { asciiText with identityKeys := identityAttributes, identityKeysPerm := .refl _ }

/-- A start of a tool. -/
def startEvent (sequence : Int) (id name : String) : AgentStateEvent where
  eventType := "TOOL_STARTED"
  sessionId := "session"
  observedAt := 0
  sequence := .int sequence
  payload := [("tool_id", .str id), ("tool_name", .str name)]

def toolKey : StateKey := ("session", "default-task")

theorem startEvent_tooled (sequence : Int) (id name : String) (explicit : id ≠ "") :
    ToolEvent toolEnvironment (startEvent sequence id name) id name where
  kind := by
    change classify (toolEnvironment.upper "TOOL_STARTED") ∈ _
    decide +kernel
  keys := by simp [startEvent]
  identified := rfl
  explicit := explicit
  named := Or.inl rfl

/-- The store after a further start. -/
def startTool (sequence : Int) (id name : String) (store : Store) : Store :=
  finalState (appendEvent toolEnvironment ⟨id, 0⟩ (startEvent sequence id name) store)

/-- An accepted start extends a run. -/
theorem startTool_run {allowed : String → String → List Value → Prop}
    {started : List (String × String)} {store : Store} {sequence : Int} {id name : String}
    (reached : ToolRun toolEnvironment toolKey allowed started store) (explicit : id ≠ "")
    (unused : id ∉ started.map Prod.fst) (fits : allowed id name (store.tools toolKey))
    (accepted : answersWith AppendResult.accepted
      (appendEvent toolEnvironment ⟨id, 0⟩ (startEvent sequence id name) store) = true) :
    ToolRun toolEnvironment toolKey allowed ((id, name) :: started)
      (startTool sequence id name store) := by
  have kind : (startEvent sequence id name).kind toolEnvironment = .toolStarted := by
    change classify (toolEnvironment.upper "TOOL_STARTED") = _
    decide +kernel
  have after : startedAfter toolEnvironment ⟨id, 0⟩ (startEvent sequence id name) store (id, name)
      started = (id, name) :: started := if_pos ⟨kind, accepted⟩
  rw [← after]
  exact .step ⟨id, 0⟩ reached rfl (startEvent_tooled sequence id name explicit) (fun _ => unused)
    (fun other => absurd kind other) fits

/-- Two tools have different identifiers and maybe one name. -/
def twoTools (name : String) : Store :=
  startTool 2 "b" name (startTool 1 "a" "search" Store.empty)

theorem emptyRun (allowed : String → String → List Value → Prop) :
    ToolRun toolEnvironment toolKey allowed [] Store.empty :=
  .start fun _ found => by cases found

/-- Two tools with different names keep one entry each. -/
theorem named_tools_isolated :
    OneEntryEach toolKey [("b", "fetch"), ("a", "search")] (twoTools "fetch") := by
  have first : ToolRun toolEnvironment toolKey Clear [("a", "search")]
      (startTool 1 "a" "search" Store.empty) :=
    startTool_run (emptyRun Clear) (by decide) (by decide) (by decide +kernel) (by decide +kernel)
  have second : ToolRun toolEnvironment toolKey Clear [("b", "fetch"), ("a", "search")]
      (twoTools "fetch") :=
    startTool_run first (by decide) (by decide) (by decide +kernel) (by decide +kernel)
  exact (tools_isolated second).1

/-- A second tool with the name of the first one takes over its entry. -/
theorem shared_name_merges : ¬ ∀ started store,
    ToolRun toolEnvironment toolKey (fun _ _ _ => True) started store →
      OneEntryEach toolKey started store := by
  intro isolated
  have first : ToolRun toolEnvironment toolKey (fun _ _ _ => True) [("a", "search")]
      (startTool 1 "a" "search" Store.empty) :=
    startTool_run (emptyRun _) (by decide) (by decide) trivial (by decide +kernel)
  have second : ToolRun toolEnvironment toolKey (fun _ _ _ => True)
      [("b", "search"), ("a", "search")] (twoTools "search") :=
    startTool_run first (by decide) (by decide) trivial (by decide +kernel)
  have lost : ((twoTools "search").tools toolKey).map toolIdOf = [some "b"] := by decide +kernel
  have once := isolated _ _ second "a" (by decide)
  rw [lost] at once
  exact absurd once (by decide)

end Demo

end StateFlow.State
