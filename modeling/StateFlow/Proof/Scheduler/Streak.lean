import StateFlow.Proof.Scheduler.Hysteresis
import StateFlow.Proof.State.Handlers
import StateFlow.Proof.State.Raises

namespace StateFlow.Scheduler
open Python Table Effect State

/-- The streak of the failure section and the routing history. -/
abbrev streakOf (state : AgentState) : Value × Value :=
  (state.get .failure "failure_streak", historyOf state)

/-- These updates keep the streak and the routing history. -/
abbrev keepsStreak : Frame AgentState := Frame.fixes streakOf

section Handlers

theorem streakOf_set {state : AgentState} {part : Section} {name : String} {value : Value}
    (failure : part ≠ .failure ∨ name ≠ "failure_streak")
    (scheduling : part ≠ .scheduling ∨ name ≠ "routing_history") :
    streakOf (state.set part name value) = streakOf state := by
  simp only [streakOf, historyOf, AgentState.get_set]
  rw [if_neg, if_neg]
  · rintro ⟨rfl, rfl⟩
    exact scheduling.elim (fun apart => apart rfl) fun apart => apart rfl
  · rintro ⟨rfl, rfl⟩
    exact failure.elim (fun apart => apart rfl) fun apart => apart rfl

/-- The handlers that write neither section keep both streaks. -/
theorem streakHandles : Handles (ProgramLogic.within keepsStreak)
    fun part => part ≠ .failure ∧ part ≠ .scheduling :=
  handles_fixes (fun _ _ _ _ apart => streakOf_set (Or.inl apart.1) (Or.inl apart.2))
    fun _ _ _ => rfl

theorem write_keepsStreak {part : Section} {name : String} {value : Value}
    (failure : part ≠ .failure ∨ name ≠ "failure_streak")
    (scheduling : part ≠ .scheduling ∨ name ≠ "routing_history") :
    Within keepsStreak (write part name value) :=
  within_write (fun _ _ => streakOf_set failure scheduling) value

variable {streak next history : Value}

theorem keeps_streak {A : Type} {program : Update A} {held : Value × Value}
    (inside : Within keepsStreak program) :
    Ensures (fun state => streakOf state = held) program fun _ state => streakOf state = held :=
  inside.ensures_fixed

theorem write_streak : Ensures (fun state => streakOf state = (streak, history))
    (write .failure "failure_streak" next) fun _ state => streakOf state = (next, history) := by
  intro state done last start wrote
  cases wrote
  have kept : historyOf (state.set .failure "failure_streak" next) = historyOf state := by
    rw [historyOf, AgentState.get_set, if_neg (by decide)]
  have written : (state.set .failure "failure_streak" next).get .failure "failure_streak" = next :=
    AgentState.get_set_same ..
  exact Prod.ext written (kept.trans (congrArg Prod.snd start))

theorem read_streak : Ensures (fun state => streakOf state = (streak, history))
    (State.read .failure "failure_streak")
    fun value state => value = streak ∧ streakOf state = (streak, history) := by
  intro state value last start readIt
  cases readIt
  exact ⟨congrArg Prod.fst start, start⟩

variable (env : Environment) (event : AgentStateEvent) {count : Nat}

/-- A failure counts once. -/
theorem applyFailure_streak (component : String) :
    Ensures (fun state => streakOf state = (.int count, history))
      (applyFailure env event component)
      fun _ state => streakOf state = (.int (count + 1 : Nat), history) := by
  unfold applyFailure
  refine ensures_bind (keeps_streak (within_read _ _)) fun retries => ?_
  refine ensures_bind (keeps_streak (within_lift _)) fun _ => ?_
  refine ensures_seq (keeps_streak (write_keepsStreak (by decide) (by decide))) ?_
  refine ensures_bind read_streak fun streak => ?_
  refine ensures_known (fun _ start => start.1) fun known => ?_
  subst known
  refine Ensures.of_imp ?_ fun _ start => start.2
  have counted : (Value.int count).add (.int 1) = .ok (.int (count + 1 : Nat)) := Value.add_int ..
  refine ensures_lift_bind counted (ensures_seq write_streak ?_)
  refine keeps_streak ?_
  refine within_seq (write_keepsStreak (by decide) (by decide)) ?_
  refine within_seq (write_keepsStreak (by decide) (by decide)) ?_
  refine within_bind (within_lift _) fun severity => ?_
  refine within_bind (within_read _ _) fun previous => ?_
  refine within_bind (within_lift _) fun _ => ?_
  refine within_seq (write_keepsStreak (by decide) (by decide)) ?_
  refine within_seq (write_keepsStreak (by decide) (by decide)) ?_
  refine within_bind (within_read _ _) fun streak => ?_
  refine within_seq (write_keepsStreak (by decide) (by decide)) ?_
  refine within_seq (write_keepsStreak (by decide) (by decide)) ?_
  refine within_seq (streakHandles.setPhase event (by decide) _) ?_
  exact within_seq (streakHandles.marks event rfl)
    (within_seq (streakHandles.marks event rfl) (streakHandles.marks event rfl))

/-- A response resets the streak or counts as a failure. -/
theorem applyModelResponse_streak :
    Ensures (fun state => streakOf state = (.int count, history)) (applyModelResponse env event)
      fun _ state =>
        streakOf state = (.int (if event.succeeded then 0 else count + 1 : Nat), history) := by
  unfold applyModelResponse
  extract_lets payload afterOutcome afterProgress afterOutput
  have outcome : ∀ done, Within keepsStreak (afterOutcome done) := fun _ =>
    within_seq (streakHandles.marks event rfl) (streakHandles.marks event rfl)
  have progress : ∀ done, Ensures (fun state => streakOf state = (.int count, history))
      (afterProgress done) fun _ state =>
        streakOf state = (.int (if event.succeeded then 0 else count + 1 : Nat), history) := by
    intro done
    refine ensures_seq (keeps_streak (streakHandles.setPresent env event (by decide) _)) ?_
    refine ensures_seq (keeps_streak (streakHandles.setPresent env event (by decide) _)) ?_
    refine ensures_seq (keeps_streak (streakHandles.applyNextAction env event (by decide))) ?_
    split
    · have reset : Ensures (fun state => streakOf state = (.int count, history))
          (write .failure "failure_streak" (.int 0))
          fun _ state => streakOf state = (.int (0 : Nat), history) := write_streak
      refine ensures_seq reset ?_
      refine ensures_bind (keeps_streak (write_keepsStreak (by decide) (by decide))) fun done => ?_
      exact keeps_streak (outcome done)
    · refine ensures_bind (applyFailure_streak env event _) fun done => ?_
      exact keeps_streak (outcome done)
  have output : ∀ done, Ensures (fun state => streakOf state = (.int count, history))
      (afterOutput done) fun _ state =>
        streakOf state = (.int (if event.succeeded then 0 else count + 1 : Nat), history) := by
    intro done
    simp only [afterOutput]
    split
    · refine ensures_bind (keeps_streak (within_lift _)) fun value => ?_
      refine ensures_bind (keeps_streak ?_) progress
      exact streakHandles.setProgress event (by decide) (by decide) value
    · exact progress ()
  split
  · refine ensures_bind (keeps_streak (within_lift _)) fun tokens => ?_
    refine ensures_bind (keeps_streak (within_read _ _)) fun assistant => ?_
    refine ensures_bind (keeps_streak (within_lift _)) fun _ => ?_
    refine ensures_seq (keeps_streak (write_keepsStreak (by decide) (by decide))) ?_
    refine ensures_bind (keeps_streak (within_read _ _)) fun total => ?_
    refine ensures_bind (keeps_streak (within_lift _)) fun _ => ?_
    exact ensures_bind (keeps_streak (write_keepsStreak (by decide) (by decide))) output
  · exact output ()

/-- The classes of the event types. -/
def eventClasses : List EventClass :=
  [.started, .turnStarted, .modelRequest, .modelStarted, .modelDecode, .modelResponse, .toolStarted,
    .toolProgress, .toolResult, .compaction, .failure, .completed, .sectionUpdate .inference,
    .sectionUpdate .kvCache, .sectionUpdate .tools, .patch]

theorem listed_ite {condition : Prop} [Decidable condition] {first second : EventClass}
    (positive : first ∈ eventClasses) (negative : second ∈ eventClasses) :
    (if condition then first else second) ∈ eventClasses := by
  split
  · exact positive
  · exact negative

theorem classify_listed (eventType : String) : classify eventType ∈ eventClasses := by
  unfold classify
  iterate 15 refine listed_ite (by decide) ?_
  decide

/-- The other classes leave both sections alone. -/
theorem kind_sections (other : event.kind env ∉ [.failure, .modelResponse, .patch]) :
    ∀ part ∈ (event.kind env).sections, part ≠ .failure ∧ part ≠ .scheduling := by
  have classes : ∀ kind ∈ eventClasses, kind ∉ [.failure, .modelResponse, .patch] →
      ∀ part ∈ kind.sections, part ≠ .failure ∧ part ≠ .scheduling := by decide
  exact classes _ (classify_listed _) other

/-- The updates of another class keep both streaks, also when they raise. -/
theorem handle_keepsStreak (other : event.kind env ∉ [.failure, .modelResponse, .patch]) :
    Within keepsStreak (handle env event) := by
  refine within_seq (within_seq ?_ ?_) (streakHandles.applyHeader event (by decide))
  · exact streakHandles.applyIdentity env event (by decide) (by decide) _
  · exact streakHandles.applyClass env event _ (kind_sections env event other)

/-- An applied event counts as the streak counts it. -/
theorem handle_streak (lifecycle : event.kind env ≠ .patch) :
    Ensures (fun state => streakOf state = (.int count, history)) (handle env event)
      fun _ state => streakOf state = (.int (countFailure env count event : Nat), history) := by
  by_cases other : event.kind env ∉ [.failure, .modelResponse, .patch]
  · have same : countFailure env count event = count := by
      unfold countFailure
      split
      · rename_i failed
        exact absurd (by rw [failed]; decide) other
      · rename_i answered
        exact absurd (by rw [answered]; decide) other
      · rfl
    rw [same]
    exact keeps_streak (handle_keepsStreak env event other)
  · refine ensures_bind ?_ fun _ => keeps_streak (streakHandles.applyHeader event (by decide))
    refine ensures_seq (keeps_streak ?_) ?_
    · exact streakHandles.applyIdentity env event (by decide) (by decide) _
    · simp only [List.mem_cons, List.not_mem_nil, or_false, not_not] at other
      unfold countFailure
      rcases other with failed | answered | patched
      · rw [failed]
        exact applyFailure_streak env event _
      · rw [answered]
        exact applyModelResponse_streak env event
      · exact absurd patched lifecycle

end Handlers

section View

/-- The larger of two counts is the later one when no count before exceeds it. -/
theorem max_counts {count recorded : Nat} (fewer : recorded ≤ count) :
    (Value.int count).max (.int recorded) = .ok (.int count) := by
  rw [max_int, max_eq_left (Nat.cast_le.mpr fewer)]

/-- A view takes the larger one of both streaks. -/
theorem buildSchedulingView_streak {text : Text} {state : AgentState} {now : Int}
    {view : HarnessSchedulingView} {count recorded : Nat} {history : Value}
    (stored : streakOf state = (.int count, history))
    (written : history.attr "failure_streak" = .ok (.int recorded)) (fewer : recorded ≤ count)
    (built : buildSchedulingView text state now = .ok view) : view.failureStreak = .int count := by
  unfold buildSchedulingView at built
  dsimp only at built
  iterate 21 obtain ⟨_, _, built⟩ := except_bind_ok built
  obtain ⟨copy, copied, built⟩ := except_bind_ok built
  obtain ⟨streak, largest, built⟩ := except_bind_ok built
  iterate 13 obtain ⟨_, _, built⟩ := except_bind_ok built
  cases built
  have counted : state.get .failure "failure_streak" = .int count := congrArg Prod.fst stored
  have past : state.get .scheduling "routing_history" = history := congrArg Prod.snd stored
  rw [counted] at largest
  rw [past, written] at copied
  cases copied
  exact Except.ok.inj (largest.symm.trans (max_counts fewer))

end View

section Run
variable {env : Environment} {key : StateKey} {seen : List Value} {store next : Store}

/-- The failure streak of a session. A session without a state has none. -/
def failureStreak (store : Store) (key : StateKey) : Value :=
  match store.states key with
  | some state => state.get .failure "failure_streak"
  | none => .int 0

/-- A stored or a new state of a session has its streaks. -/
theorem streakOf_target (fresh : Fresh) (store : Store) (key : StateKey) (tenantId : Value) :
    streakOf ((store.states key).getD (newAgentState fresh key.1 key.2 tenantId)) =
      (failureStreak store key, history store key) := by
  refine Prod.ext ?_ (history_target fresh store key tenantId)
  unfold failureStreak
  cases store.states key with
  | some state => rfl
  | none =>
      simp only [newAgentState, Option.getD_none]
      repeat rw [AgentState.get_set, if_neg (by decide)]
      rfl

/-- The failure section counts the failures. No written or pending streak exceeds the count. -/
structure Counted (env : Environment) (key : StateKey) (seen : List Value) (store : Store) :
    Prop where
  failures : failureStreak store key = .int (failuresSince env (store.log key))
  written : ∃ recorded : Nat, (history store key).attr "failure_streak" = .ok (.int recorded) ∧
    recorded ≤ failuresSince env (store.log key)
  pending : ∀ streak ∈ seen, ∃ known : Nat, streak = .int known ∧
    known ≤ failuresSince env (store.log key)

theorem counted_empty : Counted env key [] Store.empty where
  failures := rfl
  written := ⟨0, rfl, Nat.le_refl _⟩
  pending _ listed := absurd listed List.not_mem_nil

/-- A view of a counted session shows the count. -/
theorem Counted.view (counted : Counted env key seen store) {fresh : Fresh}
    {view : HarnessSchedulingView}
    (taken : getSchedulingView env fresh store key.1 key.2 = .ok view) :
    view.failureStreak = .int (failuresSince env (store.log key)) := by
  obtain ⟨recorded, written, fewer⟩ := counted.written
  refine buildSchedulingView_streak ?_ written fewer taken
  rw [← counted.failures]
  exact streakOf_target fresh store key _

/-- Only a successful response lowers the count. -/
theorem count_grows {event : AgentStateEvent} (other : ¬ Recovers env event) (count : Nat) :
    count ≤ countFailure env count event := by
  unfold countFailure
  split
  · exact Nat.le_succ _
  · rename_i answered
    rw [if_neg fun success => other ⟨answered, success⟩]
    exact Nat.le_succ _
  · exact Nat.le_refl _

theorem count_recovers {event : AgentStateEvent} (recovers : Recovers env event) (count : Nat) :
    countFailure env count event = 0 := by
  unfold countFailure
  rw [recovers.1]
  exact if_pos recovers.2

/-- A stored state has its own streaks. -/
theorem streaks_update {state : AgentState} {streak past : Value}
    (held : streakOf state = (streak, past)) (found : next.states key = some state) :
    failureStreak next key = streak ∧ history next key = past := by
  rw [failureStreak, history, found]
  exact Prod.ext_iff.mp held

/-- An event that returns counts as the streak counts it. -/
theorem Counted.event (counted : Counted env key seen store) {fresh : Fresh}
    {received : AgentStateEvent} {result : AppendResult} (own : received.key = key)
    (lifecycle : received.kind env ≠ .patch)
    (guard : result.accepted = true → Recovers env received → Unrecorded key seen store)
    (ran : appendEvent env fresh received store = .ok result next) :
    Counted env key seen next := by
  obtain ⟨event, sequenced, ⟨_, rfl⟩ | ⟨accepted, _, _, state, handled, rfl⟩⟩ :=
    appendEvent_cases ran
  · exact counted
  have ownEvent : event.key = key := (sequenced_key sequenced).trans own
  have kind : event.kind env = received.kind env := by
    rw [sequenced_same sequenced]
    rfl
  have recovery : Recovers env event → Recovers env received := by
    rw [sequenced_same sequenced]
    exact id
  have start : streakOf (store.target fresh event) =
      (.int (failuresSince env (store.log key)), history store key) := by
    rw [← counted.failures, ← ownEvent]
    exact streakOf_target fresh store event.key _
  have reached := handle_streak env event (by rwa [kind]) _ _ _ start handled
  have logged : failuresSince env ((store.accept event state).log key) =
      countFailure env (failuresSince env (store.log key)) event := by
    rw [accept_log, if_pos ownEvent]
    exact List.foldl_concat ..
  have found : (store.accept event state).states key = some state :=
    ownEvent ▸ Function.update_self _ _ _
  obtain ⟨failures, past⟩ := streaks_update reached found
  obtain ⟨recorded, written, fewer⟩ := counted.written
  constructor
  · rw [failures, logged]
  · rw [past, logged]
    by_cases recovers : Recovers env event
    · exact ⟨0, (guard accepted (recovery recovers)).1, Nat.zero_le _⟩
    · exact ⟨recorded, written, fewer.trans (count_grows recovers _)⟩
  · intro streak listed
    rw [logged]
    by_cases recovers : Recovers env event
    · exact ⟨0, (guard accepted (recovery recovers)).2 streak listed, Nat.zero_le _⟩
    · obtain ⟨known, shown, within⟩ := counted.pending streak listed
      exact ⟨known, shown, within.trans (count_grows recovers _)⟩

/-- The streaks and the log decide the invariant. -/
theorem Counted.of_same (counted : Counted env key seen store)
    (failures : failureStreak next key = failureStreak store key)
    (past : history next key = history store key) (log : next.log key = store.log key) :
    Counted env key seen next where
  failures := by rw [failures, log, counted.failures]
  written := by
    rw [past, log]
    exact counted.written
  pending := by
    rw [log]
    exact counted.pending

/-- An event of another class that raises does not count. -/
theorem Counted.raised (counted : Counted env key seen store) {fresh : Fresh}
    {received : AgentStateEvent} {error : Exception} (own : received.key = key)
    (other : received.kind env ∉ [.failure, .modelResponse, .patch])
    (ran : appendEvent env fresh received store = .error error next) :
    Counted env key seen next := by
  have reached := appendEvent_states env fresh received store
  have log : next.log key = store.log key := by
    rw [Store.log, (appendEvent_raised ran).events, Store.log]
  rw [ran] at reached
  rcases reached with same | ⟨event, sequenced, moved⟩
  · refine counted.of_same ?_ ?_ log
    · rw [failureStreak, failureStreak, ← same]
      rfl
    · rw [history, history, ← same]
      rfl
  · have found : next.states key =
        some (finalState (handle env event (store.target fresh event))) := by
      rw [← own]
      exact (congrFun moved _).trans (Function.update_self _ _ _)
    have kind : event.kind env = received.kind env := by
      rw [sequenced_same sequenced]
      rfl
    have kept := handle_keepsStreak env event (by rwa [kind]) (store.target fresh event)
    have start : streakOf (store.target fresh event) =
        (failureStreak store key, history store key) := by
      rw [← own, ← sequenced_key sequenced]
      exact streakOf_target fresh store event.key _
    obtain ⟨failures, past⟩ := streaks_update (kept.trans start) found
    exact counted.of_same failures past log

/-- A decision leaves the failure section alone. -/
theorem applyRoutingDecision_failure {view : HarnessSchedulingView} {decision : RoutingDecision} :
    Within (Frame.fixes fun state : AgentState => state.get .failure "failure_streak")
      (applyRoutingDecision view decision) := by
  refine applyRoutingDecision_within (fun part name value allowed => ?_) view decision
  refine within_write (fun state value => ?_) value
  rw [AgentState.get_set, if_neg]
  rintro ⟨rfl, rfl⟩
  exact absurd allowed (by decide)

/-- A routing history holds a streak. -/
def HoldsStreak (streak history : Value) : Prop := history.attr "failure_streak" = .ok streak

/-- A decision writes the streak of its view to the history. -/
theorem applyRoutingDecision_history {view : HarnessSchedulingView} {decision : RoutingDecision} :
    Ensures (fun _ => True) (applyRoutingDecision view decision)
      fun _ state => HoldsStreak view.failureStreak (historyOf state) := by
  have any {A : Type} {program : Update A} :
      Ensures (fun _ => True) program fun _ _ => True := fun _ _ _ _ _ => trivial
  have writes := @writeHistory_ensures (fun _ => True) (HoldsStreak view.failureStreak)
    "failure_streak" view.failureStreak fun _ _ _ assigned =>
      (attr_setAttr assigned _).trans (if_pos rfl)
  unfold applyRoutingDecision
  iterate 9 refine ensures_seq any ?_
  refine ensures_seq writes ?_
  refine ensures_bind (keeps_history (within_read _ _)) fun decisions => ?_
  refine ensures_bind (keeps_history (within_lift _)) fun _ => ?_
  refine ensures_seq (keeps_history (write_keepsHistory _ (Or.inr (by decide)))) ?_
  refine ensures_bind (keeps_history (within_read _ _)) fun sequence => ?_
  refine ensures_bind (keeps_history (within_lift _)) fun _ => ?_
  exact keeps_history (write_keepsHistory _ (Or.inl (by decide)))

/-- A stamp writes neither streak. -/
theorem stampDecision_streak (decision : RoutingDecision) :
    Within keepsStreak (stampDecision decision) :=
  stampDecision_within (fun _ _ _ => write_keepsStreak (Or.inl (by decide)) (Or.inl (by decide)))
    decision

/-- A recorded decision writes a pending streak. -/
theorem Counted.record (counted : Counted env key seen store) {fresh : Fresh}
    {view : HarnessSchedulingView} {decision : RoutingDecision}
    (scheduled : view.failureStreak ∈ seen)
    (ran : recordRoutingDecision fresh view decision store = .ok () next) :
    Counted env key seen next := by
  rcases recordRoutingDecision_ran ran with
    ⟨_, rfl⟩ | ⟨other, middle, state, _, decided, stamped, rfl⟩
  · exact counted
  have log : (store.decide other middle.order state).log key = store.log key := rfl
  by_cases own : key = other
  · subst own
    have start := streakOf_target fresh store key view.tenantId
    have failure := applyRoutingDecision_failure.fixed decided
    have written := applyRoutingDecision_history _ _ _ trivial decided
    have kept := (stampDecision_streak decision).fixed stamped
    have found : (store.decide key middle.order state).states key = some state :=
      Function.update_self _ _ _
    obtain ⟨failures, past⟩ := streaks_update kept found
    obtain ⟨known, shown, fewer⟩ := counted.pending _ scheduled
    constructor
    · rw [failures, log, ← counted.failures, failure]
      exact congrArg Prod.fst start
    · rw [past, log]
      exact ⟨known, written.trans (congrArg Except.ok shown), fewer⟩
    · exact counted.pending
  · have found : (store.decide other middle.order state).states key = store.states key :=
      Function.update_of_ne own _ _
    refine counted.of_same ?_ ?_ log
    · rw [failureStreak, failureStreak, found]
    · rw [history, history, found]

/-- Every reached session is counted. -/
theorem streakRun_counted (run : StreakRun env key (Unrecorded key) seen store) :
    Counted env key seen store := by
  induction run with
  | start => exact counted_empty
  | event _ own lifecycle guard ran counted => exact counted.event own lifecycle guard ran
  | raised _ own other ran counted => exact counted.raised own other ran
  | view _ taken counted =>
      refine ⟨counted.failures, counted.written, fun streak listed => ?_⟩
      rcases List.mem_cons.mp listed with rfl | earlier
      · exact ⟨_, counted.view taken, Nat.le_refl _⟩
      · exact counted.pending streak earlier
  | abandon _ fewer counted =>
      exact ⟨counted.failures, counted.written, fun streak listed =>
        counted.pending streak (fewer listed)⟩
  | record _ scheduled ran counted => exact counted.record scheduled ran

end Run

/-- A view shows the failures since the most recent successful response, and none right after it,
when no recovery meets a decision of the streak that it ends. -/
theorem streak_counts_failures {env : Environment} {key : StateKey} {seen : List Value}
    {store : Store} (run : StreakRun env key (Unrecorded key) seen store) {fresh : Fresh}
    {view : HarnessSchedulingView}
    (taken : getSchedulingView env fresh store key.1 key.2 = .ok view) :
    view.failureStreak = .int (failuresSince env (store.log key)) ∧
      ∀ earlier event, store.log key = earlier ++ [event] → Recovers env event →
        view.failureStreak = .int 0 := by
  have shown := (streakRun_counted run).view taken
  refine ⟨shown, fun earlier event logged recovers => ?_⟩
  rw [shown, logged, failuresSince, List.foldl_concat, count_recovers recovers]
  rfl

section Demo

def failedEvent : AgentStateEvent where
  eventType := "TASK_FAILED"
  sessionId := "session"
  observedAt := 0

/-- The store after an event of the session. -/
def afterEvent (event : AgentStateEvent) (store : Store) : Store :=
  finalState (appendEvent asciiEnvironment ⟨"state", 0⟩ event store)

/-- An event of the session extends a run. -/
theorem StreakRun.after {guarded : List Value → Store → Prop} {seen : List Value} {store : Store}
    (reached : StreakRun asciiEnvironment loopKey guarded seen store) {event : AgentStateEvent}
    (own : event.key = loopKey) (lifecycle : event.kind asciiEnvironment ≠ .patch)
    (guard : Recovers asciiEnvironment event → guarded seen store)
    (answers : answersWith (fun _ => true)
      (appendEvent asciiEnvironment ⟨"state", 0⟩ event store) = true) :
    StreakRun asciiEnvironment loopKey guarded seen (afterEvent event store) := by
  obtain ⟨result, next, ran, _⟩ := returned_of_answers answers
  rw [afterEvent, ran]
  exact .event reached own lifecycle (fun _ => guard) ran

/-- A test of the view of the session. -/
def showsStreak (streak : Int) (store : Store) : Bool :=
  match getSchedulingView asciiEnvironment ⟨"state", 0⟩ store loopKey.1 loopKey.2 with
  | .ok view => view.failureStreak.eq (.int streak)
  | .error _ => false

theorem view_of_shows {streak : Int} {store : Store} (shows : showsStreak streak store = true) :
    ∃ view, getSchedulingView asciiEnvironment ⟨"state", 0⟩ store loopKey.1 loopKey.2 = .ok view ∧
      view.failureStreak.eq (.int streak) = true := by
  unfold showsStreak at shows
  split at shows
  · rename_i view taken
    exact ⟨view, taken, shows⟩
  · cases shows

/-- The streak that a routing history holds. -/
def recordedStreak (history : Value) : Option Int :=
  match history.attr "failure_streak" with
  | .ok (.int streak) => some streak
  | _ => none

theorem attr_of_recordedStreak {history : Value} {streak : Int}
    (holds : recordedStreak history = some streak) :
    history.attr "failure_streak" = .ok (.int streak) := by
  unfold recordedStreak at holds
  split at holds
  · rename_i found
    cases holds
    exact found
  · cases holds

/-- A run starts with a failure. -/
theorem failedRun (guarded : List Value → Store → Prop) :
    StreakRun asciiEnvironment loopKey guarded [] (afterEvent failedEvent Store.empty) :=
  StreakRun.start.after (by decide) (by decide +kernel)
    (fun recovers => absurd recovers.1 (by decide +kernel)) (by decide +kernel)

/-- A response that meets no decision ends the streak. -/
theorem recovered_streak : ∃ store view,
    getSchedulingView asciiEnvironment ⟨"state", 0⟩ store loopKey.1 loopKey.2 = .ok view ∧
      view.failureStreak = .int (failuresSince asciiEnvironment (store.log loopKey)) ∧
        (store.log loopKey).length = 2 := by
  have past : recordedStreak (history (afterEvent failedEvent Store.empty) loopKey) = some 0 := by
    decide +kernel
  have unrecorded : Unrecorded loopKey [] (afterEvent failedEvent Store.empty) :=
    ⟨attr_of_recordedStreak past, fun _ listed => absurd listed List.not_mem_nil⟩
  have answers : answersWith (fun _ => true) (appendEvent asciiEnvironment ⟨"state", 0⟩
      (responseEvent []) (afterEvent failedEvent Store.empty)) = true := by decide +kernel
  have recovered := (failedRun (Unrecorded loopKey)).after (by decide) (by decide +kernel)
    (fun _ => unrecorded) answers
  have shows : showsStreak 0 (afterEvent (responseEvent []) (afterEvent failedEvent Store.empty)) =
      true := by decide +kernel
  obtain ⟨view, taken, _⟩ := view_of_shows shows
  exact ⟨_, view, taken, (streak_counts_failures recovered taken).1, by decide +kernel⟩

/-- A test whether the decision of a round is written back. -/
def writesDecision (round : Round) (store : Store) : Bool :=
  match round.schedule asciiEnvironment asciiHost loopKey store with
  | .ok (view, decision) =>
      answersWith (fun _ => true) (recordRoutingDecision round.written view decision store)
  | .error _ => false

/-- The decision of a round extends a run. -/
theorem StreakRun.decided {guarded : List Value → Store → Prop} {seen : List Value} {store : Store}
    (reached : StreakRun asciiEnvironment loopKey guarded seen store) {round : Round}
    (writes : writesDecision round store = true) :
    StreakRun asciiEnvironment loopKey guarded seen (afterRound round store) := by
  cases scheduled : round.schedule asciiEnvironment asciiHost loopKey store with
  | error error =>
      rw [writesDecision, scheduled] at writes
      cases writes
  | ok made =>
      obtain ⟨view, decision⟩ := made
      obtain ⟨taken, built, scheduling⟩ := except_bind_ok scheduled
      obtain ⟨_, _, finished⟩ := except_bind_ok scheduling
      cases finished
      simp only [writesDecision, scheduled] at writes
      have recorded := (reached.view (raising_ok built)).record List.mem_cons_self
        (recorded_afterRound scheduled writes)
      exact recorded.abandon (List.subset_cons_self _ _)

/-- A decision during the streak keeps the streak in the view after the recovery. -/
theorem recorded_streak_stays : ¬ ∀ seen store,
    StreakRun asciiEnvironment loopKey (fun _ _ => True) seen store → ∀ fresh view,
      getSchedulingView asciiEnvironment fresh store loopKey.1 loopKey.2 = .ok view →
        view.failureStreak = .int (failuresSince asciiEnvironment (store.log loopKey)) := by
  intro counted
  have writes : writesDecision (loopRound [capableReplica]) (afterEvent failedEvent Store.empty) =
      true := by decide +kernel
  have answers : answersWith (fun _ => true) (appendEvent asciiEnvironment ⟨"state", 0⟩
      (responseEvent []) (afterRound (loopRound [capableReplica])
        (afterEvent failedEvent Store.empty))) = true := by decide +kernel
  have run := ((failedRun fun _ _ => True).decided writes).after (by decide)
    (by decide +kernel) (fun _ => trivial) answers
  have shows : showsStreak 1 (afterEvent (responseEvent []) (afterRound (loopRound [capableReplica])
      (afterEvent failedEvent Store.empty))) = true := by decide +kernel
  have none : failuresSince asciiEnvironment ((afterEvent (responseEvent [])
      (afterRound (loopRound [capableReplica]) (afterEvent failedEvent Store.empty))).log loopKey) =
        0 := by decide +kernel
  obtain ⟨view, taken, one⟩ := view_of_shows shows
  rw [counted _ _ run _ _ taken, none] at one
  exact absurd one (by decide)

end Demo

end StateFlow.Scheduler
