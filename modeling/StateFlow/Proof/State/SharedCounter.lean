import StateFlow.Proof.State.Orders

namespace StateFlow.State
open Python Table Effect Scheduler

/-- An event is accepted, or it repeats the last order, or it precedes the last order. -/
inductive Verdict where
  | accepted | duplicate | stale
  deriving DecidableEq, Repr

/-- The flags of a result with this verdict. -/
def Verdict.flags : Verdict → Bool × Bool × Bool
  | .accepted => (true, false, false)
  | .duplicate => (false, true, false)
  | .stale => (false, false, true)

/-- A writer submits an event with its sequence number or records a decision. -/
inductive Write where
  | event (sequence : Int)
  | decision

/-- The writers of a state share one counter: the epoch and the sequence number of its header. -/
abbrev Counter := Option (Int × Int)

namespace Counter
variable (epoch : Int)

/-- The order that the next event must exceed. -/
def last (counter : Counter) : Int × Int := counter.getD (-1, -1)

/-- The order of an event. An event without a positive number takes the next one. -/
def order (counter : Counter) (sequence : Int) : Int × Int :=
  (epoch, if 0 < sequence then sequence
    else if epoch = counter.last.1 then counter.last.2 + 1 else 1)

def judge (counter : Counter) (sequence : Int) : Verdict :=
  if counter.order epoch sequence = counter.last then .duplicate
  else if toLex (counter.order epoch sequence) < toLex counter.last then .stale
  else .accepted

/-- An accepted event sets the counter, and a decision adds one to it. -/
def next (counter : Counter) : Write → Counter
  | .event sequence =>
      if counter.judge epoch sequence = .accepted then some (counter.order epoch sequence)
      else counter
  | .decision =>
      let reached := counter.getD (0, 0)
      some (reached.1, reached.2 + 1)

/-- The verdicts on the events of a run. -/
def verdicts : Counter → List Write → List (Option Verdict)
  | _, [] => []
  | counter, .event sequence :: rest =>
      some (counter.judge epoch sequence) :: verdicts (counter.next epoch (.event sequence)) rest
  | counter, .decision :: rest => none :: verdicts (counter.next epoch .decision) rest

/-- The orders of the accepted events of a run. -/
def log : Counter → List Write → List (Int × Int)
  | _, [] => []
  | counter, .event sequence :: rest =>
      (if counter.judge epoch sequence = .accepted then [counter.order epoch sequence] else []) ++
        log (counter.next epoch (.event sequence)) rest
  | counter, .decision :: rest => log (counter.next epoch .decision) rest

end Counter

/-- The stored form of an order. -/
def storedOrder (order : Int × Int) : Order := (.int order.1, .int order.2)

section Stored
variable (first second : Int × Int)

theorem storedOrder_rank : (storedOrder first).rank? =
    some (toLex ((first.1 : ℚ), (first.2 : ℚ))) := rfl

theorem storedOrder_eq : (storedOrder first).eq (storedOrder second) = decide (first = second) := by
  rw [Bool.eq_iff_iff, order_eq_iff (storedOrder_rank first) (storedOrder_rank second),
    decide_eq_true_eq, Prod.ext_iff]
  simp [Prod.ext_iff]

theorem storedOrder_before : (storedOrder first).before (storedOrder second) =
    .ok (decide (toLex first < toLex second)) := by
  rw [order_before (storedOrder_rank first) (storedOrder_rank second)]
  simp [Prod.Lex.lt_iff]

end Stored

/-- The counter is the header of a state and its last order. -/
structure Counts (key : StateKey) (counter : Counter) (store : Store) : Prop where
  lastOrder : store.lastOrder key = counter.map storedOrder
  header : store.header key = counter.map storedOrder

theorem counts_empty (key : StateKey) : Counts key none Store.empty := ⟨rfl, rfl⟩

section Steps
variable {env : Environment} {fresh : Fresh} {received : AgentStateEvent} {counter : Counter}
  {sequence : Int} {store next : Store} {result : AppendResult}

theorem Counts.order (counts : Counts received.key counter store) :
    store.order received.key = storedOrder counter.last := by
  rw [Store.order, counts.lastOrder]
  cases counter with
  | none => rfl
  | some order => rfl

/-- The event with the number that the counter gives it. -/
def numbered (received : AgentStateEvent) (counter : Counter) (sequence : Int) : AgentStateEvent :=
  { received with sequence := .int (counter.order received.epoch sequence).2 }

theorem numbered_order : (numbered received counter sequence).order =
    storedOrder (counter.order received.epoch sequence) := rfl

theorem sequenced_counter (given : received.sequence = .int sequence) :
    received.sequenced (storedOrder counter.last) = .ok (numbered received counter sequence) := by
  have positive : (Value.int 0).lt (.int sequence) = .ok (decide (0 < sequence)) := by
    rw [number_lt (Value.number?_int 0) (Value.number?_int sequence)]
    simp
  have epochs : (Value.int received.epoch).eq (.int counter.last.1) =
      decide (received.epoch = counter.last.1) := by
    rw [number_eq (Value.number?_int received.epoch) (Value.number?_int counter.last.1),
      Bool.eq_iff_iff]
    simp
  unfold AgentStateEvent.sequenced numbered Counter.order
  simp only [given, positive, storedOrder, epochs, Value.add_int, decide_eq_true_eq]
  by_cases explicit : 0 < sequence
  · simp [explicit, ← given]
    rfl
  · by_cases same : received.epoch = counter.last.1
    · simp [explicit, same]
      rfl
    · simp [explicit, same]
      rfl

/-- The counter answers an event as the store does. -/
theorem appendEvent_counter (counts : Counts received.key counter store)
    (given : received.sequence = .int sequence)
    (ran : appendEvent env fresh received store = .ok result next) :
    result.flags = (counter.judge received.epoch sequence).flags ∧
      Counts received.key (counter.next received.epoch (.event sequence)) next ∧
      next.events.map AgentStateEvent.order = store.events.map AgentStateEvent.order ++
        (if counter.judge received.epoch sequence = .accepted then
          [storedOrder (counter.order received.epoch sequence)] else []) := by
  obtain ⟨event, sequenced, verdict⟩ := appendEvent_verdict ran
  rw [counts.order, sequenced_counter given] at sequenced
  cases sequenced
  rw [counts.order, numbered_order, storedOrder_eq, storedOrder_before] at verdict
  simp only [decide_eq_true_eq, decide_eq_false_iff_not, Except.ok.injEq] at verdict
  rcases verdict with ⟨same, flags, rfl⟩ | ⟨different, ⟨earlier, flags, rfl⟩ |
    ⟨later, flags, state, handled, rfl⟩⟩
  · have judged : counter.judge received.epoch sequence = .duplicate := if_pos same
    rw [Counter.next, judged]
    exact ⟨flags, counts, (List.append_nil _).symm⟩
  · have judged : counter.judge received.epoch sequence = .stale := by
      rw [Counter.judge, if_neg different, if_pos earlier]
    rw [Counter.next, judged]
    exact ⟨flags, counts, (List.append_nil _).symm⟩
  · have judged : counter.judge received.epoch sequence = .accepted := by
      rw [Counter.judge, if_neg different, if_neg later]
    rw [Counter.next, judged]
    refine ⟨flags, ⟨?_, ?_⟩, List.map_append⟩
    · exact (accept_lastOrder received.key).trans (if_pos rfl)
    · rw [accept_header]
      exact (if_pos rfl).trans (congrArg some (handle_order env _ handled))

end Steps

section Run
variable {env : Environment} {key : StateKey}

/-- A decision adds one to the counter. -/
theorem record_counter (epoch : Int) {fresh : Fresh} {view : HarnessSchedulingView}
    {decision : RoutingDecision} {counter : Counter} {store next : Store} (counts : Counts key counter store)
    (named : viewKey view = some key)
    (ran : recordRoutingDecision fresh view decision store = .ok () next) :
    Counts key (counter.next epoch .decision) next ∧ next.events = store.events := by
  rcases recordRoutingDecision_cases view decision ran with
    ⟨unnamed, _⟩ | ⟨own, state, following, owned, ⟨added, moved⟩, rfl⟩
  · cases unnamed.symm.trans named
  · cases owned.symm.trans named
    have reached : (store.header key).getD Order.zero = storedOrder (counter.getD (0, 0)) := by
      rw [counts.header]
      cases counter with
      | none => rfl
      | some order => rfl
    rw [reached, storedOrder, Value.add_int] at added
    cases added
    rw [reached] at moved
    refine ⟨⟨?_, ?_⟩, rfl⟩
    · rw [decide_lastOrder, if_pos rfl, moved]
      rfl
    · rw [decide_header, if_pos rfl, moved]
      rfl

/-- The writers of one state: the events of one epoch and the decisions of its views. -/
def Writes (key : StateKey) (epoch : Int) : StoreCall → Write → Prop
  | .append _ event, .event sequence =>
      event.key = key ∧ event.epoch = epoch ∧ event.sequence = .int sequence
  | .record _ view _, .decision => viewKey view = some key
  | _, _ => False

/-- A store answers its writers as the counter does and logs what the counter accepts. -/
structure AsCounted (epoch : Int) (counter : Counter) (writes : List Write)
    (answers : List (Option AppendResult)) (store last : Store) : Prop where
  answers : answers.map (Option.map AppendResult.flags) =
    (counter.verdicts epoch writes).map (Option.map Verdict.flags)
  log : last.events.map AgentStateEvent.order =
    store.events.map AgentStateEvent.order ++ (counter.log epoch writes).map storedOrder

theorem run_asCounted {epoch : Int} {calls : List StoreCall} {writes : List Write}
    (shared : List.Forall₂ (Writes key epoch) calls writes) {counter : Counter}
    {store last : Store} (counts : Counts key counter store) {answers : List (Option AppendResult)}
    (ran : calls.mapM (StoreCall.run env) store = .ok answers last) :
    AsCounted epoch counter writes answers store last := by
  induction shared generalizing counter store answers with
  | nil =>
      cases ran
      exact ⟨rfl, (List.append_nil _).symm⟩
  | @cons call write calls writes own shared ih =>
      rw [List.mapM_cons] at ran
      obtain ⟨answer, middle, first, ran⟩ := bind_ok ran
      obtain ⟨others, _, following, finished⟩ := bind_ok ran
      cases finished
      cases call with
      | append fresh event =>
          cases write with
          | decision => cases own
          | event sequence =>
              obtain ⟨rfl, rfl, given⟩ := own
              obtain ⟨result, _, appended, returned⟩ := bind_ok first
              cases returned
              obtain ⟨flags, counted, logged⟩ := appendEvent_counter counts given appended
              obtain ⟨answered, log⟩ := ih counted following
              constructor
              · rw [List.map_cons, answered, Option.map_some, flags]
                rfl
              · rw [log, logged, List.append_assoc, Counter.log, List.map_append]
                congr 2
                split
                · rfl
                · rfl
      | getOrCreate fresh key tenantId harnessType => cases own
      | record fresh view decision =>
          cases write with
          | event sequence => cases own
          | decision =>
              obtain ⟨_, _, recorded, returned⟩ := bind_ok first
              cases returned
              obtain ⟨counted, logged⟩ := record_counter epoch counts own recorded
              obtain ⟨answered, log⟩ := ih counted following
              exact ⟨by rw [List.map_cons, answered]; rfl, by rw [log, logged]; rfl⟩

end Run

/-- All writers of a state share one counter: it decides which events a store accepts, and the log
holds each accepted event once. -/
theorem writers_share_counter {env : Environment} {key : StateKey} {epoch : Int}
    {calls : List StoreCall} {writes : List Write} {answers : List (Option AppendResult)}
    {store : Store} (shared : List.Forall₂ (Writes key epoch) calls writes)
    (ran : calls.mapM (StoreCall.run env) Store.empty = .ok answers store) :
    answers.map (Option.map AppendResult.flags) =
        (Counter.verdicts epoch none writes).map (Option.map Verdict.flags) ∧
      store.events.map AgentStateEvent.order = (Counter.log epoch none writes).map storedOrder := by
  obtain ⟨answered, logged⟩ := run_asCounted shared (counts_empty key) ran
  exact ⟨answered, logged⟩

section Demo

/-- The producer submits its first and its second event around an event of the gateway. -/
def sharedWrites : List Write := [.event 1, .event 0, .event 2]

def sharedCalls : List StoreCall :=
  [.append ⟨"first", 0⟩ (demoEvent 1), .append ⟨"second", 0⟩ (demoEvent 0),
    .append ⟨"third", 0⟩ (demoEvent 2)]

theorem sharedCalls_write : List.Forall₂ (Writes ("session", "default-task") 0) sharedCalls
    sharedWrites := by
  simp [sharedCalls, sharedWrites, Writes, demoEvent, AgentStateEvent.key]

theorem sharedCalls_return : ∃ answers store,
    sharedCalls.mapM (StoreCall.run demoEnvironment) Store.empty = .ok answers store := by
  have returns : answersWith (fun _ => true) (sharedCalls.mapM (StoreCall.run demoEnvironment)
      Store.empty) = true := by decide +kernel
  obtain ⟨answers, store, ran, _⟩ := returned_of_answers returns
  exact ⟨answers, store, ran⟩

/-- The counter describes the run with the event of the gateway. -/
theorem shared_run_counted : ∃ answers store,
    sharedCalls.mapM (StoreCall.run demoEnvironment) Store.empty = .ok answers store ∧
      answers.map (Option.map AppendResult.flags) =
        (Counter.verdicts 0 none sharedWrites).map (Option.map Verdict.flags) ∧
      store.events.map AgentStateEvent.order =
        (Counter.log 0 none sharedWrites).map storedOrder := by
  obtain ⟨answers, store, ran⟩ := sharedCalls_return
  exact ⟨answers, store, ran, writers_share_counter sharedCalls_write ran⟩

/-- The event of the gateway takes the second number, and the producer loses its second event. -/
theorem gateway_takes_number : ∃ answers store,
    sharedCalls.mapM (StoreCall.run demoEnvironment) Store.empty = .ok answers store ∧
      answers.map (Option.map AppendResult.flags) =
        [some (true, false, false), some (true, false, false), some (false, true, false)] := by
  obtain ⟨answers, store, ran⟩ := sharedCalls_return
  have answered := (run_asCounted sharedCalls_write (counts_empty _) ran).answers
  have verdicts : Counter.verdicts 0 none sharedWrites =
      [some .accepted, some .accepted, some .duplicate] := by decide
  rw [verdicts] at answered
  exact ⟨answers, store, ran, answered⟩

end Demo

end StateFlow.State
