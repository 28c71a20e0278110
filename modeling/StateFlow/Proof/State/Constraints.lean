import StateFlow.Construction.State.View
import StateFlow.Proof.State.Handlers

namespace StateFlow.State
open Python Table Effect Scheduler

section Sets

/-- The allowed values of a session are sets. -/
def SetsAllowed (state : AgentState) : Prop :=
  ∀ attr ∈ payloadAttrs, ∃ items, state.get attr.1 attr.2 = .set items

theorem toSet_set {value copied : Value} (returned : value.toSet = .ok copied) :
    ∃ items, copied = .set items := by
  obtain ⟨items, _, checked⟩ := except_bind_ok returned
  split at checked
  · cases checked
    exact ⟨_, rfl⟩
  · cases checked

theorem setsAllowed_set {state : AgentState} (allowed : SetsAllowed state) {part : Section}
    {name : String} {value : Value}
    (kept : (part, name) ∈ payloadAttrs → ∃ items, value = .set items) :
    SetsAllowed (state.set part name value) := by
  intro attr listed
  rw [AgentState.get_set]
  split
  · rename_i same
    obtain ⟨rfl, rfl⟩ := same
    exact kept listed
  · exact allowed attr listed

theorem setField_setsAllowed (env : Environment) (event : AgentStateEvent) (part : Section)
    (key : String) (value : Value) :
    Within (Frame.keeps SetsAllowed) (setField env event part key value) := by
  refine within_ite (fun _ => within_pure _) fun _ => ?_
  intro state allowed
  change SetsAllowed (finalState ((lift (convertForField env.toText (state.get part key) value
    (part.label ++ "." ++ key)) >>= _) state))
  rw [lift_bind]
  split
  · rename_i converted changed
    have marked : SetsAllowed (state.set part key converted) := by
      refine setsAllowed_set allowed fun listed => ?_
      obtain ⟨items, stored⟩ := allowed (part, key) listed
      rw [show state.get part key = .set items from stored] at changed
      exact toSet_set changed
    exact marked
  · exact allowed

/-- Every handler keeps the sets, also when it raises. -/
theorem setsHandles : Handles (ProgramLogic.within (Frame.keeps SetsAllowed)) fun _ => True where
  read _ := within_read _ _
  write _ _ own := within_modify _ fun _ allowed =>
    setsAllowed_set allowed fun listed => absurd listed own
  mark _ _ _ := within_modify _ fun _ => id
  setField env event _ key value _ := setField_setsAllowed env event _ key value
  setMeta _ _ _ _ := within_bind (within_lift _) fun _ => within_modify _ fun _ => id
  extend _ := within_modify _ fun _ => id

theorem newAgentState_setsAllowed (fresh : Fresh) (sessionId taskId : String) (tenantId : Value) :
    SetsAllowed (newAgentState fresh sessionId taskId tenantId) := by
  intro attr listed
  simp only [payloadAttrs, List.mem_cons, List.not_mem_nil, or_false] at listed
  simp only [newAgentState]
  rcases listed with rfl | rfl | rfl
  all_goals
    repeat rw [AgentState.get_set, if_neg (by decide)]
    exact ⟨[], rfl⟩

end Sets

section Store

/-- The allowed values of every stored session are sets. -/
def SetsStore (store : Store) : Prop :=
  ∀ key state, store.states key = some state → SetsAllowed state

variable {store : Store}

theorem SetsStore.target (sets : SetsStore store) (fresh : Fresh) (key : StateKey)
    (tenantId : Value) :
    SetsAllowed ((store.states key).getD (newAgentState fresh key.1 key.2 tenantId)) :=
  stored_target (sets key) (newAgentState_setsAllowed fresh key.1 key.2 tenantId)

theorem appendEvent_sets (env : Environment) (fresh : Fresh) (event : AgentStateEvent) :
    Within (Frame.keeps SetsStore) (appendEvent env fresh event) := by
  intro store sets
  rcases appendEvent_states env fresh event store with same | ⟨applied, sequenced, changed⟩
  · intro key state found
    rw [same] at found
    exact sets key state found
  · refine stored_update sets changed ?_
    exact setsHandles.handle env applied (fun _ => trivial) _
      (sets.target fresh applied.key (.str "default"))

theorem reserve_states (store : Store) (key : StateKey) :
    (store.reserve key).states = store.states := by
  unfold Store.reserve
  split <;> rfl

/-- A decision only stores what its updates of the state keep. -/
theorem recordRoutingDecision_within {part : Frame AgentState} {whole : Frame Store}
    {fresh : Fresh} {view : HarnessSchedulingView} {decision : RoutingDecision}
    (decides : Within part (applyRoutingDecision view decision))
    (stamps : Within part (stampDecision decision))
    (reserves : ∀ store key, whole.rel store (store.reserve key))
    (lifts : ∀ key (store : Store) next,
      part.rel ((store.states key).getD (newAgentState fresh key.1 key.2 view.tenantId)) next →
        whole.rel store { store with states := Function.update store.states key (some next) }) :
    Within whole (recordRoutingDecision fresh view decision) := by
  unfold recordRoutingDecision
  split
  · rename_i key _
    refine within_seq (within_zoom decides (lifts key)) ?_
    refine within_seq (within_modify _ fun store => reserves store key) ?_
    exact within_zoom stamps (lifts key)
  · exact within_pure _

theorem recordRoutingDecision_sets (fresh : Fresh) (view : HarnessSchedulingView)
    (decision : RoutingDecision) :
    Within (Frame.keeps SetsStore) (recordRoutingDecision fresh view decision) := by
  have writes {part : Section} {name : String} (value : Value)
      (own : (part, name) ∉ payloadAttrs) :
      Within (Frame.keeps SetsAllowed) (write part name value) :=
    setsHandles.write value trivial own
  have decides : Within (Frame.keeps SetsAllowed) (applyRoutingDecision view decision) := by
    refine applyRoutingDecision_within (fun part name value apart => writes value ?_) view decision
    rintro listed
    simp only [payloadAttrs, List.mem_cons, List.not_mem_nil, or_false, Prod.mk.injEq] at listed
    rcases listed with ⟨rfl, _⟩ | ⟨rfl, _⟩ | ⟨rfl, _⟩ <;> simp at apart
  have stamps : Within (Frame.keeps SetsAllowed) (stampDecision decision) :=
    stampDecision_within (fun name _ value => writes value (by simp [payloadAttrs])) decision
  refine recordRoutingDecision_within decides stamps ?_ ?_
  · intro store key sets other state found
    rw [reserve_states] at found
    exact sets other state found
  · intro key store next kept sets
    exact stored_update sets rfl (kept (sets.target fresh key view.tenantId))

/-- A session is only created under a free key. -/
theorem getOrCreate_states (fresh : Fresh) (key : StateKey) (tenantId harnessType : String)
    (store : Store) :
    finalState (getOrCreate fresh key tenantId harnessType store) = store ∨
      store.states key = none ∧
      (finalState (getOrCreate fresh key tenantId harnessType store)).states =
        Function.update store.states key (some ((newAgentState fresh key.1 key.2
          (.str tenantId)).set .identity "harness_type" (.str harnessType))) := by
  unfold getOrCreate
  rw [get_bind]
  cases store.states key with
  | some state => exact Or.inl rfl
  | none => exact Or.inr ⟨rfl, rfl⟩

theorem getOrCreate_sets (fresh : Fresh) (key : StateKey) (tenantId harnessType : String) :
    Within (Frame.keeps SetsStore) (getOrCreate fresh key tenantId harnessType) := by
  intro store sets
  rcases getOrCreate_states fresh key tenantId harnessType store with same | ⟨_, changed⟩
  · rw [same]
    exact sets
  · refine stored_update sets changed (setsAllowed_set ?_ fun own => ?_)
    · exact newAgentState_setsAllowed fresh key.1 key.2 (.str tenantId)
    · simp [payloadAttrs] at own

theorem StoreCall.run_sets (env : Environment) (call : StoreCall) :
    Within (Frame.keeps SetsStore) (call.run env) := by
  cases call with
  | append fresh event =>
      exact within_bind (appendEvent_sets env fresh event) fun _ => within_pure _
  | getOrCreate fresh key tenantId harnessType =>
      exact within_bind (getOrCreate_sets fresh key tenantId harnessType) fun _ => within_pure _
  | record fresh view decision =>
      exact within_bind (recordRoutingDecision_sets fresh view decision) fun _ => within_pure _

/-- Every run of calls keeps what each of its calls keeps. -/
theorem runCalls_within {env : Environment} {frame : Frame Store} {calls : List StoreCall}
    (each : ∀ call ∈ calls, Within frame (call.run env)) (store : Store) :
    frame.rel store (runCalls env calls store) := by
  induction calls generalizing store with
  | nil => exact frame.refl store
  | cons call rest ih =>
      refine frame.trans (each call List.mem_cons_self store) ?_
      exact ih (fun later member => each later (List.mem_cons_of_mem _ member)) _

theorem runCalls_sets (env : Environment) (calls : List StoreCall) :
    SetsStore (runCalls env calls Store.empty) := by
  have kept : (Frame.keeps SetsStore).rel Store.empty (runCalls env calls Store.empty) :=
    runCalls_within (fun call _ => call.run_sets env) Store.empty
  exact kept fun _ _ found => by cases found

end Store

section Limits

/-- The constraints of a request pass through these attributes of its session. -/
def constraintAttrs : List (Section × String) :=
  payloadAttrs ++ [(.security, "security_domain"), (.security, "remote_kv_allowed"),
    (.qos, "task_cost_budget")]

abbrev limitsOf (state : AgentState) : List Value :=
  constraintAttrs.map fun attr => state.get attr.1 attr.2

theorem limitsOf_set {state : AgentState} {part : Section} {name : String} {value : Value}
    (other : (part, name) ∉ constraintAttrs) :
    limitsOf (state.set part name value) = limitsOf state := by
  refine List.map_congr_left fun attr listed => ?_
  rw [AgentState.get_set, if_neg]
  rintro ⟨rfl, rfl⟩
  exact other listed

/-- States with the same limits agree on each attribute. -/
theorem limits_agree {state other : AgentState} (same : limitsOf other = limitsOf state)
    {part : Section} {name : String} (listed : (part, name) ∈ constraintAttrs) :
    other.get part name = state.get part name :=
  List.map_inj_left.mp same (part, name) listed

theorem constraint_sections {part : Section} {name : String}
    (listed : (part, name) ∈ constraintAttrs) : part = .security ∨ part = .qos := by
  simp only [constraintAttrs, payloadAttrs, List.mem_append, List.mem_cons, List.not_mem_nil,
    or_false, Prod.mk.injEq] at listed
  rcases listed with (⟨rfl, _⟩ | ⟨rfl, _⟩ | ⟨rfl, _⟩) | ⟨rfl, _⟩ | ⟨rfl, _⟩ | ⟨rfl, _⟩ <;> simp

/-- The handlers keep the limits outside the sections of security and quality of service. -/
theorem limitHandles : Handles (ProgramLogic.within (Frame.fixes limitsOf))
    fun part => part ≠ .security ∧ part ≠ .qos :=
  handles_fixes (fun _ _ _ _ apart => limitsOf_set fun listed =>
    (constraint_sections listed).elim apart.1 apart.2) fun _ _ _ => rfl

theorem write_keepsLimits {part : Section} {name : String} {value : Value}
    (other : (part, name) ∉ constraintAttrs) :
    Within (Frame.fixes limitsOf) (write part name value) :=
  within_write (fun _ _ => limitsOf_set other) value

end Limits

section Adoption
variable (env : Environment) (event : AgentStateEvent)

/-- The entries that an event carries for a section. -/
def AgentStateEvent.carried (event : AgentStateEvent) (part : Section) : List (String × Value) :=
  match event.payload.lookup part.label with
  | some (.dict items) => items
  | _ => []

/-- Each listed attribute holds the converted entry of its name. -/
def Adopts (text : Text) (part : Section) (items : List (String × Value))
    (before after : AgentState) : Prop :=
  ∀ entry ∈ items, (part, entry.1) ∈ constraintAttrs →
    convertForField text (before.get part entry.1) entry.2 (part.label ++ "." ++ entry.1) =
      .ok (after.get part entry.1)

theorem Adopts.entry {text : Text} {part : Section} {items : List (String × Value)}
    {before after : AgentState} (adopted : Adopts text part items before after) (name : String)
    (value : Value) (member : (name, value) ∈ items) (listed : (part, name) ∈ constraintAttrs) :
    convertForField text (before.get part name) value (part.label ++ "." ++ name) =
      .ok (after.get part name) :=
  adopted (name, value) member listed

theorem Adopts.congr {text : Text} {part : Section} {items : List (String × Value)}
    {before other after last : AgentState} (adopted : Adopts text part items before after)
    (start : limitsOf other = limitsOf before) (final : limitsOf last = limitsOf after) :
    Adopts text part items other last := by
  intro entry member listed
  rw [limits_agree start listed, limits_agree final listed]
  exact adopted entry member listed

theorem constraint_declared : ∀ attr ∈ constraintAttrs,
    (attr.2.startsWith "_" || !attr.1.fields.contains attr.2) = false := by
  decide +kernel

/-- A field either keeps its state or takes the converted entry. -/
theorem setField_run {part : Section} {key : String} {value : Value} {state next : AgentState}
    (ran : setField env event part key value state = .ok () next) :
    (∀ query name, (query = part → name ≠ key) → next.get query name = state.get query name) ∧
      ((part, key) ∈ constraintAttrs →
        convertForField env.toText (state.get part key) value (part.label ++ "." ++ key) =
          .ok (next.get part key)) := by
  unfold setField at ran
  split at ran
  · rename_i skipped
    cases ran
    refine ⟨fun _ _ _ => rfl, fun listed => ?_⟩
    cases (constraint_declared (part, key) listed).symm.trans skipped
  · obtain ⟨_, _, found, ran⟩ := bind_ok ran
    cases found
    obtain ⟨converted, _, computed, continued⟩ := bind_ok ran
    obtain ⟨changed, same⟩ := lift_ok computed
    rw [same] at continued
    obtain ⟨_, _, wrote, marked⟩ := bind_ok continued
    cases wrote
    cases marked
    refine ⟨fun query name apart => ?_, fun _ => ?_⟩
    · have other : (state.set part key converted).get query name = state.get query name := by
        rw [AgentState.get_set, if_neg fun same => apart same.1 same.2]
      exact other
    · rw [changed]
      exact congrArg Except.ok (AgentState.get_set_same state part key converted).symm

/-- Entries with distinct names are all adopted. -/
theorem setFields_run {part : Section} {items : List (String × Value)}
    (apart : (items.map Prod.fst).Nodup) {state last : AgentState}
    (ran : (items.forM fun entry => setField env event part entry.1 entry.2) state =
      .ok PUnit.unit last) :
    (∀ query name, (query = part → name ∉ items.map Prod.fst) →
      last.get query name = state.get query name) ∧ Adopts env.toText part items state last := by
  induction items generalizing state with
  | nil =>
      cases ran
      exact ⟨fun _ _ _ => rfl, fun _ member => by cases member⟩
  | cons entry rest ih =>
      obtain ⟨absent, others⟩ := List.nodup_cons.mp apart
      obtain ⟨_, middle, first, continued⟩ := bind_ok ran
      obtain ⟨kept, adopted⟩ := setField_run env event first
      obtain ⟨later, rests⟩ := ih others continued
      constructor
      · intro query name outside
        have free (same : query = part) : name ≠ entry.1 ∧ name ∉ rest.map Prod.fst := by
          simpa [not_or] using outside same
        rw [later query name fun same => (free same).2, kept query name fun same => (free same).1]
      · intro other member listed
        rcases List.mem_cons.mp member with rfl | inside
        · rw [later part other.1 fun _ => absent]
          exact adopted listed
        · have untouched : middle.get part other.1 = state.get part other.1 :=
            kept part other.1 fun _ same => absent (same ▸ List.mem_map_of_mem inside)
          rw [← untouched]
          exact rests other inside listed

/-- A present section is adopted and leaves the other sections alone. -/
theorem setPresent_run {part : Section} (other : part ≠ .context)
    (apart : ((event.carried part).map Prod.fst).Nodup) {state last : AgentState}
    (ran : setPresent env event part part.label state = .ok () last) :
    (∀ query name, query ≠ part → last.get query name = state.get query name) ∧
      Adopts env.toText part (event.carried part) state last := by
  have nothing (same : last = state) : ∀ query name, query ≠ part →
      last.get query name = state.get query name := fun _ _ _ => by rw [same]
  unfold setPresent at ran
  unfold AgentStateEvent.carried at apart ⊢
  cases found : event.payload.lookup part.label with
  | none =>
      rw [found] at ran
      cases ran
      exact ⟨nothing rfl, fun _ member => by cases member⟩
  | some value =>
      rw [found] at ran apart
      unfold setSection at ran
      cases value with
      | dict items =>
          obtain ⟨_, middle, fields, finished⟩ := bind_ok ran
          rw [if_neg other] at finished
          cases finished
          obtain ⟨kept, adopted⟩ := setFields_run env event apart fields
          exact ⟨fun query name outside => kept query name fun same => absurd same outside, adopted⟩
      | _ =>
          cases ran
          exact ⟨nothing rfl, fun _ member => by cases member⟩

/-- The identity of an event sets no limit. -/
theorem applyIdentity_keepsLimits (payload : Value) :
    Within (Frame.fixes limitsOf) (applyIdentity env event payload) := by
  unfold applyIdentity
  extract_lets patch
  refine within_ite (fun _ => ?_) fun _ => within_pure _
  refine within_seq (limitHandles.setSection env event (by decide) _) ?_
  split
  · exact write_keepsLimits (by decide +kernel)
  · exact within_pure _

/-- The entries of both constrained sections have distinct names. -/
def Separate (event : AgentStateEvent) : Prop :=
  ∀ part ∈ [.security, .qos], ((event.carried part).map Prod.fst).Nodup

/-- A state follows another one in the limits that an event carries. -/
def Limited (start last : AgentState) : Prop :=
  ∀ part ∈ [.security, .qos], Adopts env.toText part (event.carried part) start last

/-- The last steps of a request adopt its security and its quality of service. -/
theorem limits_adopted (separate : Separate event) {start : AgentState} :
    Ensures (fun state => limitsOf state = limitsOf start) (do
      setPresent env event .security "security"
      setPresent env event .inference "inference"
      setPresent env event .qos "qos"
      mark event (.part .model)
      mark event (.attr .context "prompt_tokens")
      mark event (.part .lifecycle)) fun _ last => Limited env event start last := by
  intro state done last same ran
  obtain ⟨_, secured, security, ran⟩ := bind_ok ran
  obtain ⟨_, inferred, inference, ran⟩ := bind_ok ran
  obtain ⟨_, priced, quality, marks⟩ := bind_ok ran
  obtain ⟨kept, adopted⟩ := setPresent_run env event (by decide) (separate _ (by decide)) security
  obtain ⟨later, limited⟩ := setPresent_run env event (by decide) (separate _ (by decide)) quality
  have between : limitsOf inferred = limitsOf secured :=
    (limitHandles.setPresent env event (by decide) "inference").fixed inference
  have marked : Within (Frame.fixes limitsOf) (do
      mark event (.part .model)
      mark event (.attr .context "prompt_tokens")
      mark event (.part .lifecycle)) :=
    within_seq (limitHandles.marks event rfl)
      (within_seq (limitHandles.marks event rfl) (limitHandles.marks event rfl))
  have final : limitsOf last = limitsOf priced := marked.fixed marks
  intro part listed
  rcases List.mem_cons.mp listed with rfl | listed
  · intro entry member constrained
    rw [limits_agree final constrained, later .security entry.1 (by decide),
      limits_agree between constrained, ← limits_agree same constrained]
    exact adopted entry member constrained
  · cases List.mem_singleton.mp listed
    intro entry member constrained
    rw [limits_agree final constrained, ← limits_agree same constrained,
      ← kept .qos entry.1 (by decide), ← limits_agree between constrained]
    exact limited entry member constrained

theorem applyModelRequest_limited (separate : Separate event) {start : AgentState} :
    Ensures (fun state => limitsOf state = limitsOf start) (applyModelRequest env event)
      fun _ last => Limited env event start last := by
  have keeps {A : Type} {program : Update A} (inside : Within (Frame.fixes limitsOf) program) :
      Ensures (fun state => limitsOf state = limitsOf start) program
        fun _ state => limitsOf state = limitsOf start := inside.ensures_fixed
  unfold applyModelRequest
  extract_lets payload afterCapabilities afterOutput afterPrompt afterModel afterStep
  have output : ∀ done, Ensures (fun state => limitsOf state = limitsOf start) (afterOutput done)
      fun _ last => Limited env event start last := by
    intro done
    refine ensures_seq (keeps (limitHandles.setPresent env event (by decide) _)) ?_
    split
    · refine ensures_bind (keeps (within_lift _)) fun _ => ?_
      exact ensures_bind (keeps (write_keepsLimits (by decide +kernel))) fun _ =>
        limits_adopted env event separate
    · exact limits_adopted env event separate
  have prompt : ∀ done, Ensures (fun state => limitsOf state = limitsOf start) (afterPrompt done)
      fun _ last => Limited env event start last := by
    intro done
    simp only [afterPrompt]
    split
    · refine ensures_bind (keeps (within_lift _)) fun _ => ?_
      exact ensures_bind (keeps (write_keepsLimits (by decide +kernel))) output
    · exact output ()
  have model : ∀ done, Ensures (fun state => limitsOf state = limitsOf start) (afterModel done)
      fun _ last => Limited env event start last := by
    intro done
    simp only [afterModel]
    split
    · refine ensures_bind (keeps (within_lift _)) fun tokens => ?_
      refine ensures_seq (keeps (write_keepsLimits (by decide +kernel))) ?_
      refine ensures_seq (keeps (write_keepsLimits (by decide +kernel))) ?_
      refine ensures_bind (keeps (within_read _ _)) fun total => ?_
      refine ensures_bind (keeps (within_lift _)) fun _ => ?_
      exact ensures_bind (keeps (write_keepsLimits (by decide +kernel))) prompt
    · exact prompt ()
  have step : ∀ done, Ensures (fun state => limitsOf state = limitsOf start) (afterStep done)
      fun _ last => Limited env event start last := by
    intro done
    refine ensures_bind (keeps (within_read _ _)) fun stored => ?_
    dsimp only
    split
    · refine ensures_seq (keeps (write_keepsLimits (by decide +kernel))) ?_
      exact ensures_bind (keeps (limitHandles.marks event rfl)) model
    · exact model ()
  refine ensures_seq (keeps (limitHandles.setPhase event (by decide) _)) ?_
  refine ensures_seq (keeps (write_keepsLimits (by decide +kernel))) ?_
  split
  · exact ensures_bind (keeps (write_keepsLimits (by decide +kernel))) step
  · exact step ()

/-- An accepted request leaves its own limits in the state. -/
theorem handle_limited (request : event.kind env = .modelRequest) (separate : Separate event)
    {start last : AgentState} (ran : handle env event start = .ok () last) :
    Limited env event start last := by
  obtain ⟨_, applied, both, header⟩ := bind_ok ran
  obtain ⟨_, identified, identity, requested⟩ := bind_ok both
  have before : limitsOf identified = limitsOf start :=
    (applyIdentity_keepsLimits env event _).fixed identity
  have after : limitsOf last = limitsOf applied :=
    (limitHandles.applyHeader event (by decide)).fixed header
  rw [request] at requested
  intro part listed
  exact (applyModelRequest_limited env event separate _ _ _ before requested part listed).congr rfl
    after

end Adoption

section Sparing
variable {key : StateKey}

/-- A call appends no event to a session. -/
def StoreCall.Spares (key : StateKey) : StoreCall → Prop
  | .append _ event => event.key ≠ key
  | .getOrCreate _ _ _ _ => True
  | .record _ _ _ => True

/-- This frame keeps the limits of a stored session. -/
def limitsAt (key : StateKey) : Frame Store where
  rel before after := ∀ state, before.states key = some state →
    ∃ next, after.states key = some next ∧ limitsOf next = limitsOf state
  refl _ state found := ⟨state, found, rfl⟩
  trans first second state found := by
    obtain ⟨middle, stored, same⟩ := first state found
    obtain ⟨last, reached, final⟩ := second middle stored
    exact ⟨last, reached, final.trans same⟩

theorem recordRoutingDecision_limits (fresh : Fresh) (view : HarnessSchedulingView)
    (decision : RoutingDecision) :
    Within (limitsAt key) (recordRoutingDecision fresh view decision) := by
  have decides : Within (Frame.fixes limitsOf) (applyRoutingDecision view decision) := by
    refine applyRoutingDecision_within (fun part name value apart => ?_) view decision
    refine write_keepsLimits fun listed => ?_
    rcases constraint_sections listed with rfl | rfl <;> simp at apart
  have stamps : Within (Frame.fixes limitsOf) (stampDecision decision) := by
    refine stampDecision_within (fun name _ value => write_keepsLimits fun listed => ?_) decision
    rcases constraint_sections listed with impossible | impossible <;> cases impossible
  refine recordRoutingDecision_within decides stamps ?_ ?_
  · intro store other state found
    rw [reserve_states]
    exact ⟨state, found, rfl⟩
  · intro other store next same state found
    by_cases own : key = other
    · subst own
      rw [found] at same
      exact ⟨next, Function.update_self _ _ _, same⟩
    · exact ⟨state, (Function.update_of_ne own _ _).trans found, rfl⟩

/-- Calls without an event for a session keep its limits. -/
theorem StoreCall.run_limits (env : Environment) {call : StoreCall} (spares : call.Spares key) :
    Within (limitsAt key) (call.run env) := by
  cases call with
  | append fresh event =>
      refine within_bind (fun store state found => ⟨state, ?_, rfl⟩) fun _ => within_pure _
      rcases appendEvent_states env fresh event store with same | ⟨_, _, changed⟩
      · rw [same]
        exact found
      · rw [changed, Function.update_of_ne (Ne.symm spares)]
        exact found
  | getOrCreate fresh other tenantId harnessType =>
      refine within_bind (fun store state found => ⟨state, ?_, rfl⟩) fun _ => within_pure _
      rcases getOrCreate_states fresh other tenantId harnessType store with same | ⟨free, changed⟩
      · rw [same]
        exact found
      · have apart : key ≠ other := by
          rintro rfl
          cases found.symm.trans free
        rw [changed, Function.update_of_ne apart]
        exact found
  | record fresh view decision =>
      exact within_bind (recordRoutingDecision_limits fresh view decision) fun _ => within_pure _

end Sparing

section Conversion
variable {text : Text} {old converted : Value} {field : String}

/-- A member of an enumeration only accepts other members. -/
def isEnum : Value → Bool
  | .enum _ _ => true
  | _ => false

/-- A stored set takes the distinct texts of a list. -/
theorem convert_texts {items : List Value} {names : List String}
    (converts : convertForField text (.set items) (.list (names.map .str)) field = .ok converted) :
    converted = .set (distinct (names.map .str)) := by
  have listed : (Value.list (names.map .str)).orElse (.list []) = .list (names.map .str) := by
    cases names <;> rfl
  have hashable : (names.map Value.str).all Value.hashable = true := by
    simp [List.all_map, Function.comp_def, Value.hashable]
  have copied : (Value.list (names.map .str)).toSet = .ok (.set (distinct (names.map .str))) := by
    change (if (names.map Value.str).all Value.hashable then Except.ok (Value.set _) else _) = _
    rw [if_pos hashable]
  change ((Value.list (names.map .str)).orElse (.list [])).toSet = _ at converts
  rw [listed, copied] at converts
  cases converts
  rfl

/-- The letters of a text are a sequence. -/
theorem iter_str {domain : String} (named : domain ≠ "") {items : List Value}
    (iterates : (Value.str domain).iter = .ok items) : items ≠ [] := by
  cases iterates
  simpa using named

/-- A nonempty text that no enumeration converts is true and only equals itself. -/
theorem convert_text {domain : String} (named : domain ≠ "") (plain : isEnum old = false)
    (converts : convertForField text old (.str domain) field = .ok converted) :
    converted.truthy = true ∧
      ∀ other : String, (Value.str other).eq converted = true → other = domain := by
  have truthy : (Value.str domain).truthy = true := by simpa [Value.truthy] using named
  have itself : converted = .str domain → converted.truthy = true ∧
      ∀ other : String, (Value.str other).eq converted = true → other = domain := by
    rintro rfl
    refine ⟨truthy, fun other same => ?_⟩
    exact (Option.some.inj (Value.str_eq_iff.mp same)).symm
  have sequence (items : List Value) (present : items ≠ [])
      (kind : converted = .set items ∨ converted = .tuple items ∨ converted = .list items) :
      converted.truthy = true ∧
        ∀ other : String, (Value.str other).eq converted = true → other = domain := by
    rcases kind with rfl | rfl | rfl
    all_goals
      refine ⟨by simpa [Value.truthy] using present, fun other same => ?_⟩
      cases Value.str_eq_iff.mp same
  have chosen : (Value.str domain).orElse (.list []) = .str domain := if_pos truthy
  unfold convertForField at converts
  rw [chosen] at converts
  split at converts
  · cases plain
  · obtain ⟨items, iterates, copied⟩ := except_bind_ok converts
    split at copied
    · cases copied
      refine sequence _ ?_ (Or.inl rfl)
      obtain ⟨first, rest, rfl⟩ := List.exists_cons_of_ne_nil (iter_str named iterates)
      exact List.cons_ne_nil _ _
    · cases copied
  · obtain ⟨items, iterates, finished⟩ := except_bind_ok converts
    cases finished
    exact sequence _ (iter_str named iterates) (Or.inr (Or.inl rfl))
  · simp only [Value.text?] at converts
    unfold parseInstant at converts
    split at converts
    · cases converts
      refine ⟨rfl, fun other same => ?_⟩
      cases Value.str_eq_iff.mp same
    · cases converts
  · cases converts
    exact itself rfl
  · rw [truthy] at converts
    simp only [Bool.not_true, Bool.false_eq_true, if_false] at converts
    split at converts
    · obtain ⟨letters, iterates, continued⟩ := except_bind_ok converts
      obtain ⟨items, mapped, finished⟩ := except_bind_ok continued
      cases finished
      refine sequence _ ?_ (Or.inr (Or.inr rfl))
      rintro rfl
      have lengths := (forall₂_of_mapM mapped).length_eq
      exact iter_str named iterates (List.length_eq_zero_iff.mp lengths)
    · cases converts
      exact itself rfl
  · cases converts
    exact itself rfl

/-- No type that an entry converts to makes a false flag true. -/
theorem convert_false (plain : isEnum old = false)
    (converts : convertForField text old (.bool false) field = .ok converted) :
    converted.truthy = false := by
  unfold convertForField at converts
  split at converts
  · cases plain
  · cases converts
    rfl
  · cases converts
    rfl
  · cases converts
    rfl
  · have zero : timedeltaOfSeconds 0 = .ok (.timedelta 0) := by
      simp [timedeltaOfSeconds, roundHalfEven, maxTimedelta]
    change timedeltaOfSeconds 0 = _ at converts
    cases zero.symm.trans converts
    rfl
  · cases converts
    rfl
  · cases converts
    rfl

/-- A budget that reads as a number is the number of its entry. -/
theorem convert_budget {amount : ℚ} {limit : Option ℚ}
    (converts : convertForField text old (.float amount) field = .ok converted)
    (reads : budget converted = .ok limit) : limit = some amount := by
  have itself (same : converted = .float amount) : limit = some amount := by
    subst same
    cases reads
    rfl
  have container {items : List Value}
      (iterates : ((Value.float amount).orElse (.list [])).iter = .ok items) : items = [] := by
    by_cases zero : (Value.float amount).truthy = true
    · rw [Value.orElse, if_pos zero] at iterates
      cases iterates
    · rw [Value.orElse, if_neg zero] at iterates
      cases iterates
      rfl
  unfold convertForField at converts
  split at converts
  · rename_i kind member
    have enumerated : isEnum converted = true := by
      cases converts
      unfold enumValue
      dsimp only
      split <;> rfl
    cases converted with
    | enum other name => cases reads
    | _ => cases enumerated
  · obtain ⟨items, iterates, copied⟩ := except_bind_ok converts
    rw [container iterates] at copied
    cases copied
    cases reads
  · obtain ⟨items, iterates, finished⟩ := except_bind_ok converts
    cases finished
    cases reads
  · cases converts
    exact itself rfl
  · have duration : ∃ micros, converted = .timedelta micros := by
      change timedeltaOfSeconds amount = _ at converts
      unfold timedeltaOfSeconds at converts
      dsimp only at converts
      split at converts
      · cases converts
        exact ⟨_, rfl⟩
      · cases converts
    obtain ⟨micros, rfl⟩ := duration
    cases reads
  · split at converts
    · cases converts
      cases reads
    · split at converts
      · obtain ⟨items, iterates, _⟩ := except_bind_ok converts
        cases iterates
      · cases converts
        exact itself rfl
  · cases converts
    exact itself rfl

end Conversion

/-- A view shows the limits of its state. -/
structure ShowsLimits (state : AgentState) (view : HarnessSchedulingView) : Prop where
  models : copySet (state.get .security "allowed_models") = .ok view.allowedModels
  regions : copySet (state.get .security "allowed_regions") = .ok view.allowedRegions
  cacheDomains : copySet (state.get .security "allowed_cache_domains") = .ok view.allowedCacheDomains
  securityDomain : view.securityDomain = state.get .security "security_domain"
  remoteKv : view.remoteKvAllowed = state.get .security "remote_kv_allowed"
  budget : view.costBudget = state.get .qos "task_cost_budget"

theorem buildSchedulingView_limits {text : Text} {state : AgentState} {now : Int}
    {view : HarnessSchedulingView} (built : buildSchedulingView text state now = .ok view) :
    ShowsLimits state view := by
  unfold buildSchedulingView at built
  dsimp only at built
  iterate 9 obtain ⟨_, _, built⟩ := except_bind_ok built
  obtain ⟨_, models, built⟩ := except_bind_ok built
  obtain ⟨_, regions, built⟩ := except_bind_ok built
  obtain ⟨_, cacheDomains, built⟩ := except_bind_ok built
  iterate 24 obtain ⟨_, _, built⟩ := except_bind_ok built
  cases built
  exact ⟨models, regions, cacheDomains, rfl, rfl, rfl⟩

end StateFlow.State
