import StateFlow.Construction.State.View
import StateFlow.Proof.State.Handlers
import StateFlow.Proof.State.Orders

namespace StateFlow.State
open Python Table Effect Scheduler

section Tokens

/-- The prompt and the total of the context. -/
abbrev tokensOf (state : AgentState) : Value × Value :=
  (state.get .context "prompt_tokens", state.get .context "total_tokens")

/-- The names of both counters. -/
def counterNames : List String := ["prompt_tokens", "total_tokens"]

theorem tokensOf_set {state : AgentState} {part : Section} {name : String} {value : Value}
    (other : part ≠ .context ∨ name ∉ counterNames) :
    tokensOf (state.set part name value) = tokensOf state := by
  rw [tokensOf, AgentState.get_set, AgentState.get_set, if_neg, if_neg]
  · rintro ⟨rfl, rfl⟩
    exact other.elim (fun apart => apart rfl) fun apart => apart (by decide)
  · rintro ⟨rfl, rfl⟩
    exact other.elim (fun apart => apart rfl) fun apart => apart (by decide)

/-- The handlers that write no context keep both counters. -/
theorem tokenHandles : Handles (ProgramLogic.within (Frame.fixes tokensOf))
    fun part => part ≠ .context :=
  handles_fixes (fun _ _ _ _ apart => tokensOf_set (Or.inl apart)) fun _ _ _ => rfl

theorem write_keepsTokens {part : Section} {name : String} {value : Value}
    (other : part ≠ .context ∨ name ∉ counterNames) :
    Within (Frame.fixes tokensOf) (write part name value) :=
  within_write (fun _ _ => tokensOf_set other) value

/-- Both counters are integers. -/
def TokensAre (prompt total : Int) (state : AgentState) : Prop :=
  tokensOf state = (.int prompt, .int total)

/-- The counters are integers in some order. -/
def Integers (state : AgentState) : Prop := ∃ prompt total, TokensAre prompt total state

/-- The total covers the prompt. -/
def Bounded (state : AgentState) : Prop := ∃ prompt total, TokensAre prompt total state ∧ prompt ≤ total

variable {A : Type} {program : Update A} {post : A → AgentState → Prop} {prompt total : Int}

theorem Bounded.integers {state : AgentState} (bounded : Bounded state) : Integers state := by
  obtain ⟨prompt, total, counted, _⟩ := bounded
  exact ⟨prompt, total, counted⟩

/-- The bound names both counters. -/
theorem ensures_bounded
    (each : ∀ prompt total, prompt ≤ total → Ensures (TokensAre prompt total) program post) :
    Ensures Bounded program post := by
  rintro state value last ⟨prompt, total, counted, below⟩ ran
  exact each prompt total below state value last counted ran

theorem ensures_integers
    (each : ∀ prompt total, Ensures (TokensAre prompt total) program post) :
    Ensures Integers program post := by
  rintro state value last ⟨prompt, total, counted⟩ ran
  exact each prompt total state value last counted ran

theorem keeps_tokens (inside : Within (Frame.fixes tokensOf) program) :
    Ensures (TokensAre prompt total) program fun _ => TokensAre prompt total :=
  inside.ensures_fixed

theorem keeps_integers (inside : Within (Frame.fixes tokensOf) program) :
    Ensures Integers program fun _ => Integers :=
  ensures_integers fun prompt total state value last counted ran =>
    ⟨prompt, total, keeps_tokens inside state value last counted ran⟩

theorem keeps_bounded (inside : Within (Frame.fixes tokensOf) program) :
    Ensures Bounded program fun _ => Bounded :=
  ensures_bounded fun prompt total below state value last counted ran =>
    ⟨prompt, total, keeps_tokens inside state value last counted ran, below⟩

/-- A read answers with the stored prompt. -/
theorem read_prompt : Ensures (TokensAre prompt total) (read .context "prompt_tokens")
    fun value state => value = .int prompt ∧ TokensAre prompt total state := by
  intro state value last counted ran
  cases ran
  exact ⟨congrArg Prod.fst counted, counted⟩

theorem read_total : Ensures (TokensAre prompt total) (read .context "total_tokens")
    fun value state => value = .int total ∧ TokensAre prompt total state := by
  intro state value last counted ran
  cases ran
  exact ⟨congrArg Prod.snd counted, counted⟩

theorem write_prompt (next : Int) : Ensures (TokensAre prompt total)
    (write .context "prompt_tokens" (.int next)) fun _ => TokensAre next total := by
  intro state value last counted ran
  cases ran
  have written : (state.set .context "prompt_tokens" (.int next)).get .context "prompt_tokens" =
      .int next := AgentState.get_set_same ..
  have other : (state.set .context "prompt_tokens" (.int next)).get .context "total_tokens" =
      state.get .context "total_tokens" := by
    rw [AgentState.get_set, if_neg (by decide)]
  exact Prod.ext written (other.trans (congrArg Prod.snd counted))

theorem write_total (next : Int) : Ensures (TokensAre prompt total)
    (write .context "total_tokens" (.int next)) fun _ => TokensAre prompt next := by
  intro state value last counted ran
  cases ran
  have other : (state.set .context "total_tokens" (.int next)).get .context "prompt_tokens" =
      state.get .context "prompt_tokens" := by
    rw [AgentState.get_set, if_neg (by decide)]
  have written : (state.set .context "total_tokens" (.int next)).get .context "total_tokens" =
      .int next := AgentState.get_set_same ..
  exact Prod.ext (other.trans (congrArg Prod.fst counted)) written

/-- A computation continues with the stored prompt. -/
theorem read_prompt_bind {next : Value → Update A}
    (rest : Ensures (TokensAre prompt total) (next (.int prompt)) post) :
    Ensures (TokensAre prompt total) (read .context "prompt_tokens" >>= next) post := by
  refine ensures_bind read_prompt fun value => ensures_known (fun _ start => start.1) fun known => ?_
  subst known
  exact rest.of_imp fun _ start => start.2

theorem read_total_bind {next : Value → Update A}
    (rest : Ensures (TokensAre prompt total) (next (.int total)) post) :
    Ensures (TokensAre prompt total) (read .context "total_tokens" >>= next) post := by
  refine ensures_bind read_total fun value => ensures_known (fun _ start => start.1) fun known => ?_
  subst known
  exact rest.of_imp fun _ start => start.2

end Tokens

section Sections
variable (env : Environment) (event : AgentStateEvent)

/-- A mapping carries integers under the names of the counters. -/
def Integral (payload : Value) : Prop :=
  ∀ items, payload = .dict items → ∀ entry ∈ items, entry.1 ∈ counterNames →
    ∃ count, entry.2 = .int count

/-- A counter that holds an integer takes an integer. -/
theorem setField_integers {key : String} {value : Value}
    (integral : key ∈ counterNames → ∃ count, value = .int count) :
    Ensures Integers (setField env event .context key value) fun _ => Integers := by
  by_cases counter : key ∈ counterNames
  · obtain ⟨count, rfl⟩ := integral counter
    refine ensures_integers fun prompt total state done last counted ran => ?_
    unfold setField at ran
    split at ran
    · cases ran
      exact ⟨prompt, total, counted⟩
    · have same : convertForField env.toText (state.get .context key) (.int count)
          (Section.label .context ++ "." ++ key) = .ok (.int count) := by
        simp only [counterNames, List.mem_cons, List.not_mem_nil, or_false] at counter
        rcases counter with rfl | rfl
        · rw [show state.get .context "prompt_tokens" = .int prompt from congrArg Prod.fst counted]
          rfl
        · rw [show state.get .context "total_tokens" = .int total from congrArg Prod.snd counted]
          rfl
      obtain ⟨_, _, readOld, ran⟩ := bind_ok ran
      cases readOld
      obtain ⟨_, _, converted, ran⟩ := bind_ok ran
      obtain ⟨converted, rfl⟩ := lift_ok converted
      cases same.symm.trans converted
      obtain ⟨_, middle, wrote, marked⟩ := bind_ok ran
      simp only [counterNames, List.mem_cons, List.not_mem_nil, or_false] at counter
      rcases counter with rfl | rfl
      · have kept : tokensOf last = tokensOf middle := Within.fixed (tokenHandles.marks event rfl) marked
        exact ⟨count, total, kept.trans (write_prompt count _ _ _ counted wrote)⟩
      · have kept : tokensOf last = tokensOf middle := Within.fixed (tokenHandles.marks event rfl) marked
        exact ⟨prompt, count, kept.trans (write_total count _ _ _ counted wrote)⟩
  · refine keeps_integers ?_
    refine within_ite (fun _ => within_pure _) fun _ => ?_
    refine within_bind (within_read _ _) fun old => within_bind (within_lift _) fun converted => ?_
    exact within_seq (write_keepsTokens (Or.inr counter)) (within_modify _ fun _ => rfl)

/-- The context of a mapping restores the bound. -/
theorem setSection_bounded {payload : Value} (integral : Integral payload) :
    Ensures Bounded (setSection env event .context payload) fun _ => Bounded := by
  unfold setSection
  split
  · rename_i items
    have fields : Ensures Integers
        (items.forM fun entry => setField env event .context entry.1 entry.2) fun _ => Integers :=
      ensures_forM fun entry member =>
        setField_integers env event fun counter => integral items rfl entry member counter
    refine ensures_seq (fields.of_imp fun _ => Bounded.integers) ?_
    rw [if_pos rfl]
    refine ensures_integers fun prompt total => read_total_bind (read_prompt_bind ?_)
    refine ensures_lift_bind (max_int total prompt) ?_
    intro state done last counted ran
    exact ⟨prompt, max total prompt, write_total _ _ _ _ counted ran, le_max_right _ _⟩
  · exact ensures_pure fun _ start => start

/-- Any other section leaves both counters alone. -/
theorem setPresent_bounded {part : Section} {key : String}
    (integral : part = .context → ∀ value, event.payload.lookup key = some value → Integral value) :
    Ensures Bounded (setPresent env event part key) fun _ => Bounded := by
  by_cases context : part = .context
  · subst context
    unfold setPresent
    split
    · rename_i value found
      exact setSection_bounded env event (integral rfl value found)
    · exact ensures_pure fun _ start => start
  · exact keeps_bounded (tokenHandles.setPresent env event context key)

end Sections

section Handlers
variable (env : Environment) (event : AgentStateEvent)

/-- The context patch of an event carries integer counters. -/
def IntegerTokens (event : AgentStateEvent) : Prop := Integral (event.nested "context")

theorem IntegerTokens.present {event : AgentStateEvent} (integral : IntegerTokens event)
    {value : Value} (found : event.payload.lookup "context" = some value) : Integral value := by
  unfold IntegerTokens AgentStateEvent.nested getD at integral
  rwa [found] at integral

/-- A token count is a natural number. -/
theorem tokenCount_ok {value tokens : Value} (returned : tokenCount env value = .ok tokens) :
    ∃ count : Int, 0 ≤ count ∧ tokens = .int count := by
  obtain ⟨count, _, finished⟩ := except_bind_ok returned
  cases finished
  exact ⟨_, le_max_left 0 count, rfl⟩

/-- A computation continues with a converted token count. -/
theorem tokenCount_bind {A : Type} {pre : AgentState → Prop} {post : A → AgentState → Prop}
    {value : Value} {next : Value → Update A}
    (rest : ∀ count : Int, 0 ≤ count → Ensures pre (next (.int count)) post) :
    Ensures pre (lift (tokenCount env value) >>= next) post := by
  intro state answer last start ran
  obtain ⟨tokens, _, converted, continued⟩ := bind_ok ran
  obtain ⟨known, rfl⟩ := lift_ok converted
  obtain ⟨count, nonneg, rfl⟩ := tokenCount_ok env known
  exact rest count nonneg _ _ _ start continued

theorem applyModelRequest_bounded (integral : IntegerTokens event) :
    Ensures Bounded (applyModelRequest env event) fun _ => Bounded := by
  have present {part : Section} {key : String} (other : part ≠ .context) :
      Ensures Bounded (setPresent env event part key) fun _ => Bounded :=
    keeps_bounded (tokenHandles.setPresent env event other key)
  unfold applyModelRequest
  extract_lets payload afterCapabilities afterOutput afterPrompt afterModel afterStep
  have capabilities : ∀ done, Ensures Bounded (afterCapabilities done) fun _ => Bounded := by
    intro done
    iterate 3 refine ensures_seq (present (by decide)) ?_
    refine keeps_bounded ?_
    exact within_seq (tokenHandles.marks event rfl)
      (within_seq (tokenHandles.marks event rfl) (tokenHandles.marks event rfl))
  have output : ∀ done, Ensures Bounded (afterOutput done) fun _ => Bounded := by
    intro done
    refine ensures_seq (setPresent_bounded env event fun _ _ found => integral.present found) ?_
    split
    · refine ensures_bind (keeps_bounded (within_lift _)) fun _ => ?_
      exact ensures_bind (keeps_bounded (write_keepsTokens (by decide))) capabilities
    · exact capabilities ()
  have prompt : ∀ done, Ensures Bounded (afterPrompt done) fun _ => Bounded := by
    intro done
    simp only [afterPrompt]
    split
    · refine ensures_bind (keeps_bounded (within_lift _)) fun _ => ?_
      exact ensures_bind (keeps_bounded (write_keepsTokens (by decide))) output
    · exact output ()
  have model : ∀ done, Ensures Bounded (afterModel done) fun _ => Bounded := by
    intro done
    simp only [afterModel]
    split
    · refine tokenCount_bind env fun count _ => ?_
      refine ensures_seq (keeps_bounded (write_keepsTokens (by decide))) ?_
      refine ensures_bounded fun before total _ => ensures_seq (write_prompt count) ?_
      refine read_total_bind (ensures_lift_bind (max_int total count) ?_)
      refine ensures_bind (write_total (max total count)) fun done => ?_
      exact (prompt done).of_imp fun _ counted => ⟨_, _, counted, le_max_right _ _⟩
    · exact prompt ()
  have step : ∀ done, Ensures Bounded (afterStep done) fun _ => Bounded := by
    intro done
    refine ensures_bind (keeps_bounded (within_read _ _)) fun stored => ?_
    dsimp only
    split
    · refine ensures_seq (keeps_bounded (write_keepsTokens (by decide))) ?_
      exact ensures_bind (keeps_bounded (tokenHandles.marks event rfl)) model
    · exact model ()
  refine ensures_seq (keeps_bounded (tokenHandles.setPhase event (by decide) _)) ?_
  refine ensures_seq (keeps_bounded (write_keepsTokens (by decide))) ?_
  split
  · exact ensures_bind (keeps_bounded (write_keepsTokens (by decide))) step
  · exact step ()

/-- The output of a response only extends the total. -/
theorem applyModelResponse_bounded :
    Ensures Bounded (applyModelResponse env event) fun _ => Bounded := by
  unfold applyModelResponse
  extract_lets payload afterOutcome afterProgress afterOutput
  have outcome : ∀ done, Within (Frame.fixes tokensOf) (afterOutcome done) := fun _ =>
    within_seq (tokenHandles.marks event rfl) (tokenHandles.marks event rfl)
  have progress : ∀ done, Within (Frame.fixes tokensOf) (afterProgress done) := by
    intro done
    refine within_seq (tokenHandles.setPresent env event (by decide) _) ?_
    refine within_seq (tokenHandles.setPresent env event (by decide) _) ?_
    refine within_seq (tokenHandles.applyNextAction env event (by decide)) ?_
    refine within_ite (fun _ => ?_) fun _ => ?_
    · exact within_seq (write_keepsTokens (by decide)) (within_bind (write_keepsTokens (by decide)) outcome)
    · exact within_bind (tokenHandles.applyFailure env event (by decide) _) outcome
  have output : ∀ done, Within (Frame.fixes tokensOf) (afterOutput done) := by
    intro done
    simp only [afterOutput]
    split
    · refine within_bind (within_lift _) fun value => within_bind ?_ progress
      exact tokenHandles.setProgress event (by decide) (by decide) value
    · exact progress ()
  split
  · refine tokenCount_bind env fun count nonneg => ?_
    refine ensures_bind (keeps_bounded (within_read _ _)) fun assistant => ?_
    refine ensures_bind (keeps_bounded (within_lift _)) fun _ => ?_
    refine ensures_seq (keeps_bounded (write_keepsTokens (by decide))) ?_
    refine ensures_bounded fun prompt total below => read_total_bind ?_
    refine ensures_lift_bind (Value.add_int total count) ?_
    refine ensures_bind (write_total (total + count)) fun done => ?_
    exact (keeps_bounded (output done)).of_imp fun _ counted =>
      ⟨_, _, counted, below.trans (le_add_of_nonneg_right nonneg)⟩
  · exact keeps_bounded (output ())

/-- The result of a tool raises the prompt to the total. -/
theorem applyToolResult_bounded :
    Ensures Bounded (applyToolResult env event) fun _ => Bounded := by
  have tools (name : String) (value : Value) (index : Nat) :
      Ensures Bounded (setToolAttr index name value) fun _ => Bounded :=
    keeps_bounded (tokenHandles.setToolAttr index (by decide) name value)
  unfold applyToolResult
  refine ensures_bind (keeps_bounded (tokenHandles.findNamedTool env event (by decide)))
    fun index => ?_
  refine ensures_seq (tools _ _ index) (ensures_seq (tools _ _ index) ?_)
  refine tokenCount_bind env fun count nonneg => ?_
  refine ensures_bind (keeps_bounded (within_read _ _)) fun used => ?_
  refine ensures_bind (keeps_bounded (within_lift _)) fun _ => ?_
  refine ensures_seq (keeps_bounded (write_keepsTokens (by decide))) ?_
  refine ensures_bounded fun prompt total below => read_total_bind ?_
  refine ensures_lift_bind (Value.add_int total count) (ensures_seq (write_total _) ?_)
  refine read_prompt_bind (read_total_bind (ensures_lift_bind (max_int prompt _) ?_))
  have raised : max prompt (total + count) = total + count :=
    max_eq_right (below.trans (le_add_of_nonneg_right nonneg))
  rw [raised]
  refine ensures_seq (write_prompt _) ?_
  refine Ensures.of_imp (keeps_bounded ?_) fun _ counted => ⟨_, _, counted, le_rfl⟩
  refine within_seq (write_keepsTokens (by decide)) (within_seq (write_keepsTokens (by decide)) ?_)
  refine within_seq (tokenHandles.setPhase event (by decide) _) ?_
  refine within_seq (write_keepsTokens (by decide)) (within_seq (write_keepsTokens (by decide)) ?_)
  exact within_seq (tokenHandles.marks event rfl)
    (within_seq (tokenHandles.marks event rfl) (tokenHandles.marks event rfl))

/-- A patch may set the context, the extensions, and the marks. -/
theorem applyPatch_bounded (integral : IntegerTokens event) :
    Ensures Bounded (applyPatch env event) fun _ => Bounded := by
  unfold applyPatch
  extract_lets payload afterExtensions
  have extended : ∀ done, Within (Frame.fixes tokensOf) (afterExtensions done) := by
    intro done
    simp only [afterExtensions]
    split
    · refine within_bind (within_lift _) fun items => within_forM fun entry _ => ?_
      split
      · exact within_ite (fun _ => tokenHandles.setMeta env event _ _) fun _ => within_pure _
      · exact within_pure _
    · exact within_pure _
  refine ensures_seq (ensures_forM fun part _ => setPresent_bounded env event ?_) ?_
  · rintro rfl value found
    exact integral.present found
  refine keeps_bounded ?_
  split
  · refine within_bind (within_lift _) fun items => within_seq ?_ ?_
    · exact within_modify _ fun _ => rfl
    · exact within_bind (tokenHandles.marks event rfl) extended
  · exact extended ()

/-- The handler of each class keeps the bound. -/
theorem applyClass_bounded (integral : IntegerTokens event) (kind : EventClass) :
    Ensures Bounded (applyClass env event kind) fun _ => Bounded := by
  by_cases other : ∀ part ∈ kind.sections, part ≠ .context
  · exact keeps_bounded (tokenHandles.applyClass env event kind other)
  · have context := setSection_bounded env event integral
    cases kind with
    | modelRequest => exact applyModelRequest_bounded env event integral
    | modelResponse => exact applyModelResponse_bounded env event
    | toolResult => exact applyToolResult_bounded env event
    | patch => exact applyPatch_bounded env event integral
    | compaction =>
        exact ensures_seq context
          (keeps_bounded (within_seq (write_keepsTokens (by decide)) (tokenHandles.marks event rfl)))
    | turnStarted =>
        have last : Ensures Bounded (do
            setSection env event .context (event.nested "context")
            setSection env event .prediction (event.optional "prediction")
            setPhase event .runnable
            write .lifecycle "runnable" (.bool true)
            mark event (.part .lifecycle)) fun _ => Bounded := by
          refine ensures_seq context (keeps_bounded ?_)
          refine within_seq (tokenHandles.setSection env event (by decide) _) ?_
          refine within_seq (tokenHandles.setPhase event (by decide) _) ?_
          exact within_seq (write_keepsTokens (by decide)) (tokenHandles.marks event rfl)
        refine ensures_seq (keeps_bounded (write_keepsTokens (by decide))) ?_
        refine ensures_seq (keeps_bounded (write_keepsTokens (by decide))) ?_
        dsimp only
        split
        · exact ensures_seq (keeps_bounded (write_keepsTokens (by decide))) last
        · exact last
    | sectionUpdate part =>
        have same : part = .context := by
          simpa [EventClass.sections] using other
        subst same
        exact context
    | started | modelStarted | modelDecode | toolStarted | toolProgress | failure | completed =>
        exact absurd (by decide) other

/-- An accepted event keeps the bound of its state. -/
theorem handle_bounded (integral : IntegerTokens event) :
    Ensures Bounded (handle env event) fun _ => Bounded := by
  refine ensures_seq (ensures_seq ?_ (applyClass_bounded env event integral _)) ?_
  · exact keeps_bounded (tokenHandles.applyIdentity env event (by decide) (by decide) _)
  · exact keeps_bounded (tokenHandles.applyHeader event (by decide))

end Handlers

section Run
variable {env : Environment} {store next : Store}

/-- Every stored state keeps the bound. -/
def BoundedStore (store : Store) : Prop :=
  ∀ key state, store.states key = some state → Bounded state

theorem newAgentState_bounded (fresh : Fresh) (sessionId taskId : String) (tenantId : Value) :
    Bounded (newAgentState fresh sessionId taskId tenantId) := by
  refine ⟨0, 0, ?_, le_rfl⟩
  rw [TokensAre, newAgentState]
  repeat rw [tokensOf_set (Or.inl (by decide))]
  rfl

theorem BoundedStore.target (bounded : BoundedStore store) (fresh : Fresh) (key : StateKey)
    (tenantId : Value) :
    Bounded ((store.states key).getD (newAgentState fresh key.1 key.2 tenantId)) :=
  stored_target (bounded key) (newAgentState_bounded fresh key.1 key.2 tenantId)

/-- An event with integer counters keeps the bound of every state. -/
theorem BoundedStore.event (bounded : BoundedStore store) {fresh : Fresh} {event : AgentStateEvent}
    {result : AppendResult} (integral : IntegerTokens event)
    (ran : appendEvent env fresh event store = .ok result next) : BoundedStore next := by
  obtain ⟨applied, sequenced, ⟨_, rfl⟩ | ⟨_, _, _, state, handled, rfl⟩⟩ := appendEvent_cases ran
  · exact bounded
  · have same : IntegerTokens applied := by
      rw [sequenced_same sequenced]
      exact integral
    have start : Bounded (store.target fresh applied) :=
      bounded.target fresh applied.key (.str "default")
    exact stored_update bounded rfl (handle_bounded env applied same _ _ _ start handled)

/-- A decision keeps both counters of its state. -/
theorem BoundedStore.record (bounded : BoundedStore store) {fresh : Fresh}
    {view : HarnessSchedulingView} {decision : RoutingDecision}
    (ran : recordRoutingDecision fresh view decision store = .ok () next) : BoundedStore next := by
  rcases recordRoutingDecision_ran ran with
    ⟨_, rfl⟩ | ⟨key, middle, state, _, decided, stamped, rfl⟩
  · exact bounded
  · have decides : Within (Frame.fixes tokensOf) (applyRoutingDecision view decision) := by
      refine applyRoutingDecision_within (fun part name value apart => ?_) view decision
      refine write_keepsTokens (Or.inl ?_)
      rintro rfl
      simp at apart
    have stamps : Within (Frame.fixes tokensOf) (stampDecision decision) :=
      stampDecision_within (fun name _ value => write_keepsTokens (Or.inl (by decide))) decision
    have start := bounded.target fresh key view.tenantId
    exact stored_update bounded rfl (keeps_bounded stamps _ _ _
      (keeps_bounded decides _ _ _ start decided) stamped)

/-- A new session starts with empty counters. -/
theorem BoundedStore.create (bounded : BoundedStore store) {fresh : Fresh} {key : StateKey}
    {tenantId harnessType : String} {state : AgentState}
    (ran : getOrCreate fresh key tenantId harnessType store = .ok state next) :
    BoundedStore next := by
  rcases getOrCreate_ran ran with rfl | ⟨_, rfl, rfl⟩
  · exact bounded
  · refine stored_update bounded rfl ?_
    obtain ⟨prompt, total, counted, below⟩ :=
      newAgentState_bounded fresh key.1 key.2 (.str tenantId)
    exact ⟨prompt, total, (tokensOf_set (Or.inl (by decide))).trans counted, below⟩

/-- Every appended event carries integer counters. -/
def StoreCall.Integral : StoreCall → Prop
  | .append _ event => IntegerTokens event
  | .getOrCreate _ _ _ _ => True
  | .record _ _ _ => True

/-- A call that returned keeps the bound of every state. -/
theorem step_bounded {call : StoreCall} (integral : call.Integral) :
    Ensures BoundedStore (call.run env) fun _ => BoundedStore := by
  intro store answer next bounded ran
  cases call with
  | append fresh event =>
      obtain ⟨result, middle, appended, finished⟩ := bind_ok ran
      cases finished
      exact bounded.event integral appended
  | getOrCreate fresh key tenantId harnessType =>
      obtain ⟨state, middle, created, finished⟩ := bind_ok ran
      cases finished
      exact bounded.create created
  | record fresh view decision =>
      obtain ⟨_, middle, recorded, finished⟩ := bind_ok ran
      cases finished
      exact bounded.record recorded

/-- Every store that a run reaches keeps the bound. -/
theorem run_bounded {calls : List StoreCall} {answers : List (Option AppendResult)}
    (integral : ∀ call ∈ calls, call.Integral)
    (ran : calls.mapM (StoreCall.run env) Store.empty = .ok answers store) : BoundedStore store :=
  ensures_mapM (fun call member => step_bounded (integral call member)) _ _ _
    (fun _ _ found => by cases found) ran

end Run

section View

/-- A view reads the greatest one of three counters. -/
theorem buildSchedulingView_prompt {text : Text} {state : AgentState} {now : Int}
    {view : HarnessSchedulingView} (built : buildSchedulingView text state now = .ok view) :
    maxOf (state.get .context "prompt_tokens")
      [state.get .model "prompt_tokens", state.get .context "total_tokens"] =
        .ok view.promptTokens := by
  unfold buildSchedulingView at built
  dsimp only at built
  iterate 24 obtain ⟨_, _, built⟩ := except_bind_ok built
  obtain ⟨prompt, largest, built⟩ := except_bind_ok built
  iterate 11 obtain ⟨_, _, built⟩ := except_bind_ok built
  cases built
  exact largest

/-- The total of every stored state covers its prompt, and every view covers both. -/
theorem tokens_covered {env : Environment} {calls : List StoreCall}
    {answers : List (Option AppendResult)} {store : Store}
    (integral : ∀ call ∈ calls, call.Integral)
    (ran : calls.mapM (StoreCall.run env) Store.empty = .ok answers store) {key : StateKey}
    {state : AgentState} (stored : store.states key = some state) :
    ∃ prompt total : Int, state.get .context "prompt_tokens" = .int prompt ∧
      state.get .context "total_tokens" = .int total ∧ prompt ≤ total ∧
      ∀ text now view, buildSchedulingView text state now = .ok view →
        ∃ amount : ℚ, view.promptTokens.number? = some amount ∧ prompt ≤ amount ∧
          total ≤ amount := by
  obtain ⟨prompt, total, counted, below⟩ := run_bounded integral ran key state stored
  have own : state.get .context "prompt_tokens" = .int prompt := congrArg Prod.fst counted
  have whole : state.get .context "total_tokens" = .int total := congrArg Prod.snd counted
  refine ⟨prompt, total, own, whole, below, fun text now view built => ?_⟩
  have largest := buildSchedulingView_prompt built
  rw [own, whole] at largest
  obtain ⟨middle, one, rest⟩ := except_bind_ok largest
  obtain ⟨last, two, finished⟩ := except_bind_ok rest
  cases finished
  obtain ⟨_, reached, _, number, above, _⟩ := max_number (Value.number?_int prompt) one
  obtain ⟨other, greatest, known, named, higher, covers⟩ := max_number number two
  cases known
  exact ⟨greatest, named, above.trans higher, covers⟩

end View

section Demo

/-- A request with a prompt is followed by a patch that lowers the total. -/
def tokenCalls : List StoreCall :=
  [.append ⟨"first", 0⟩ { demoEvent 1 with
      eventType := "MODEL_REQUESTED", payload := [("prompt_tokens", .int 100)] },
    .append ⟨"second", 0⟩ { demoEvent 2 with
      eventType := "CONTEXT_UPDATED"
      payload := [("context", .dict [("total_tokens", .int 10)])] }]

theorem demo_tokens_covered : ∃ answers store state,
    tokenCalls.mapM (StoreCall.run demoEnvironment) Store.empty = .ok answers store ∧
    store.states ("session", "default-task") = some state ∧
    ∃ prompt total : Int, state.get .context "prompt_tokens" = .int prompt ∧
      state.get .context "total_tokens" = .int total ∧ prompt ≤ total ∧
      ∀ text now view, buildSchedulingView text state now = .ok view →
        ∃ amount : ℚ, view.promptTokens.number? = some amount ∧ prompt ≤ amount ∧
          total ≤ amount := by
  have integral : ∀ call ∈ tokenCalls, call.Integral := by
    simp only [tokenCalls, List.forall_mem_cons]
    refine ⟨?_, ?_, fun _ none => by cases none⟩
    · intro items same entry member _
      cases same
      rw [List.mem_singleton.mp member]
      exact ⟨100, rfl⟩
    · intro items same entry member _
      cases same
      rw [List.mem_singleton.mp member]
      exact ⟨10, rfl⟩
  have answered : answersWith (fun _ => true) (tokenCalls.mapM (StoreCall.run demoEnvironment)
      Store.empty) = true := by decide +kernel
  have present : ((finalState (tokenCalls.mapM (StoreCall.run demoEnvironment)
      Store.empty)).states ("session", "default-task")).isSome = true := by decide +kernel
  obtain ⟨answers, store, ran, _⟩ := returned_of_answers answered
  rw [ran] at present
  obtain ⟨state, stored⟩ := Option.isSome_iff_exists.mp present
  exact ⟨answers, store, state, ran, stored, tokens_covered integral ran stored⟩

end Demo

end StateFlow.State
