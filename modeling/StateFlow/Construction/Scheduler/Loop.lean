import StateFlow.Construction.State.Calls
import StateFlow.Construction.Scheduler.Schedule

namespace StateFlow.Scheduler
open Python Table Effect State Selection

/-- The inputs of one round of a closed loop. -/
structure Round where
  seen : Fresh
  written : Fresh
  config : SchedulerConfig
  predictor : SuccessPredictor
  stamp : DecisionStamp
  targets : List TargetCandidate

/-- A round schedules from the view that the store materializes. -/
def Round.schedule (env : Environment) (host : Host) (key : StateKey) (round : Round)
    (store : Store) : Except ScheduleError (HarnessSchedulingView × RoutingDecision) := do
  let view ← raising (getSchedulingView env round.seen store key.1 key.2)
  let decision ← Scheduler.schedule host round.config round.predictor round.stamp view round.targets
  return (view, decision)

/-- The tier of the selected candidate. -/
def selectedTier (decision : RoutingDecision) : Option String :=
  (decision.candidates.find? fun item => item.key = decision.selectedKey).map
    CandidateEvaluation.tier

/-- The routing history of a session. A session without a state has no decision. -/
def history (store : Store) (key : StateKey) : Value :=
  match store.states key with
  | some state => state.get .scheduling "routing_history"
  | none => routingHistory

/-- The header of a state names its session and its task. -/
def Named (store : Store) (key : StateKey) : Prop :=
  ∀ state, store.states key = some state →
    state.get .header "session_id" = .str key.1 ∧ state.get .header "task_id" = .str key.2

/-- A recorded decision leaves its tier and its model. The latest one comes first. -/
abbrev Recorded := List (String × String)

def Recorded.tier (recorded : Recorded) : String := (recorded.head?.map Prod.fst).getD ""

def Recorded.model (recorded : Recorded) : String := (recorded.head?.map Prod.snd).getD ""

/-- The latest decisions that recorded the current tier. -/
def Recorded.stable (recorded : Recorded) : Nat :=
  ((recorded.map Prod.fst).takeWhile fun tier => tier = recorded.tier).length

section Loop
variable (env : Environment) (host : Host) (key : StateKey)

/-- A decision of a round without an override over distinct targets. -/
structure Decides (round : Round) (store : Store) (view : HarnessSchedulingView)
    (decision : RoutingDecision) (tier : String) : Prop where
  scheduled : round.schedule env host key store = .ok (view, decision)
  quiet : decision.overrideReasons = []
  distinct : (round.targets.map TargetCandidate.key).Nodup
  tier : selectedTier decision = some tier

/-- A closed loop writes every decision back. Other work may change all but the routing history
and the name of the session. -/
inductive ClosedLoop (allowed : List TargetCandidate → Recorded → Prop) : Recorded → Store → Prop
  | start {store : Store} (fresh : history store key = routingHistory) (named : Named store key) :
      ClosedLoop allowed [] store
  | work {recorded : Recorded} {store next : Store} (reached : ClosedLoop allowed recorded store)
      (kept : history next key = history store key) (named : Named next key) :
      ClosedLoop allowed recorded next
  | decide {recorded : Recorded} {store next : Store} {round : Round}
      {view : HarnessSchedulingView} {decision : RoutingDecision} {tier : String}
      (reached : ClosedLoop allowed recorded store)
      (decides : Decides env host key round store view decision tier)
      (fits : allowed round.targets recorded)
      (written : recordRoutingDecision round.written view decision store = .ok () next) :
      ClosedLoop allowed ((tier, decision.selectedModel) :: recorded) next

end Loop

section Streak
variable (env : Environment) (key : StateKey)

/-- A failure event extends the streak. A successful model response ends it. -/
def countFailure (count : Nat) (event : AgentStateEvent) : Nat :=
  match event.kind env with
  | .failure => count + 1
  | .modelResponse => if event.succeeded then 0 else count + 1
  | _ => count

/-- The failures since the most recent successful model response. -/
def failuresSince (events : List AgentStateEvent) : Nat := events.foldl (countFailure env) 0

/-- A successful model response ends a failure streak. -/
def Recovers (event : AgentStateEvent) : Prop :=
  event.kind env = .modelResponse ∧ event.succeeded = true

/-- A run appends lifecycle events of one session, takes its views, and writes decisions back. It
knows the streaks of the views whose decisions are not abandoned. The condition guards the store
before each accepted recovery. -/
inductive StreakRun (guarded : List Value → Store → Prop) : List Value → Store → Prop
  | start : StreakRun guarded [] Store.empty
  | event {seen : List Value} {store next : Store} {fresh : Fresh} {event : AgentStateEvent}
      {result : AppendResult} (reached : StreakRun guarded seen store) (own : event.key = key)
      (lifecycle : event.kind env ≠ .patch)
      (guard : result.accepted = true → Recovers env event → guarded seen store)
      (ran : appendEvent env fresh event store = .ok result next) : StreakRun guarded seen next
  | raised {seen : List Value} {store next : Store} {fresh : Fresh} {event : AgentStateEvent}
      {error : Exception} (reached : StreakRun guarded seen store) (own : event.key = key)
      (other : event.kind env ∉ [.failure, .modelResponse, .patch])
      (ran : appendEvent env fresh event store = .error error next) : StreakRun guarded seen next
  | view {seen : List Value} {store : Store} {fresh : Fresh} {view : HarnessSchedulingView}
      (reached : StreakRun guarded seen store)
      (taken : getSchedulingView env fresh store key.1 key.2 = .ok view) :
      StreakRun guarded (view.failureStreak :: seen) store
  | abandon {seen rest : List Value} {store : Store} (reached : StreakRun guarded seen store)
      (fewer : rest ⊆ seen) : StreakRun guarded rest store
  | record {seen : List Value} {store next : Store} {fresh : Fresh} {view : HarnessSchedulingView}
      {decision : RoutingDecision} (reached : StreakRun guarded seen store)
      (scheduled : view.failureStreak ∈ seen)
      (ran : recordRoutingDecision fresh view decision store = .ok () next) :
      StreakRun guarded seen next

/-- No decision of the streak that ends was written back or may still be. -/
def Unrecorded (seen : List Value) (store : Store) : Prop :=
  (history store key).attr "failure_streak" = .ok (.int 0) ∧ ∀ streak ∈ seen, streak = .int 0

end Streak

section Routing
variable (env : Environment)

/-- A scheduler returned the decision for some view and some targets. -/
def Produced (decision : RoutingDecision) : Prop :=
  ∃ host config predictor stamp view targets,
    schedule host config predictor stamp view targets = .ok decision

/-- A run records decisions of a scheduler and appends events that patch no scheduling. An event
may raise. The latest decision comes first. -/
inductive RoutedRun : List (StateKey × RoutingDecision) → Store → Prop
  | start : RoutedRun [] Store.empty
  | event {recorded : List (StateKey × RoutingDecision)} {store : Store} {fresh : Fresh}
      {event : AgentStateEvent} (reached : RoutedRun recorded store)
      (absent : event.payload.lookup "scheduling" = none) :
      RoutedRun recorded (finalState (appendEvent env fresh event store))
  | create {recorded : List (StateKey × RoutingDecision)} {store next : Store} {fresh : Fresh}
      {key : StateKey} {tenantId harnessType : String} {state : AgentState}
      (reached : RoutedRun recorded store)
      (ran : getOrCreate fresh key tenantId harnessType store = .ok state next) :
      RoutedRun recorded next
  | record {recorded : List (StateKey × RoutingDecision)} {store next : Store} {fresh : Fresh}
      {view : HarnessSchedulingView} {decision : RoutingDecision} {key : StateKey}
      (reached : RoutedRun recorded store) (produced : Produced decision)
      (named : viewKey view = some key)
      (ran : recordRoutingDecision fresh view decision store = .ok () next) :
      RoutedRun ((key, decision) :: recorded) next

/-- The decisions that were recorded for one session. The latest one comes first. -/
def decisionsFor (key : StateKey) (recorded : List (StateKey × RoutingDecision)) :
    List RoutingDecision :=
  (recorded.filter fun entry => entry.1 = key).map Prod.snd

/-- The tier that a decision names for its selected candidate. -/
def tierOf (decision : RoutingDecision) : String := (selectedTier decision).getD ""

/-- The latest decisions of one tier. -/
def trailingRun (past : List RoutingDecision) : Nat :=
  match past with
  | [] => 0
  | last :: rest => 1 + (rest.takeWhile fun decision => tierOf decision = tierOf last).length

/-- The latest decisions up to the limit, in the order in which they were recorded. -/
def latestDecisions (past : List RoutingDecision) : List RoutingDecision :=
  (past.take decisionHistoryLimit).reverse

end Routing

end StateFlow.Scheduler
