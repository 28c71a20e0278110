import StateFlow.Construction.State.Routing

namespace StateFlow.State
open Python Table Effect Scheduler

/-- `get_or_create` stores a new state under an unknown key. -/
def getOrCreate (fresh : Fresh) (key : StateKey) (tenantId harnessType : String) :
    EStateM Exception Store AgentState := do
  match (← get).states key with
  | some state => return state
  | none =>
      let created := newAgentState fresh key.1 key.2 (.str tenantId)
      let state := created.set .identity "harness_type" (.str harnessType)
      modify fun store => { store with states := Function.update store.states key (some state) }
      return state

/-- `append_events` appends a list of events. The process generates a state for each new key. -/
def appendEvents (env : Environment) (calls : List (Fresh × AgentStateEvent)) :
    EStateM Exception Store (List AppendResult) :=
  calls.mapM fun call => appendEvent env call.1 call.2

/-- One call of a client of the store. -/
inductive StoreCall where
  | append (fresh : Fresh) (event : AgentStateEvent)
  | getOrCreate (fresh : Fresh) (key : StateKey) (tenantId harnessType : String)
  | record (fresh : Fresh) (view : HarnessSchedulingView) (decision : RoutingDecision)

/-- Only an appended event is answered with a result. -/
def StoreCall.run (env : Environment) : StoreCall → EStateM Exception Store (Option AppendResult)
  | .append fresh event => do return some (← appendEvent env fresh event)
  | .getOrCreate fresh key tenantId harnessType => do
      let _ ← State.getOrCreate fresh key tenantId harnessType
      return none
  | .record fresh view decision => do
      recordRoutingDecision fresh view decision
      return none

/-- A run of calls. A client that sees an exception goes on with its next call. -/
def runCalls (env : Environment) (calls : List StoreCall) (store : Store) : Store :=
  calls.foldl (fun reached call => finalState (call.run env reached)) store

/-- The epoch and the sequence number in the header of a state. -/
def AgentState.order (state : AgentState) : Order :=
  (state.get .header "epoch", state.get .header "sequence_number")

/-- The order that the header of a stored state carries. -/
def Store.header (store : Store) (key : StateKey) : Option Order :=
  (store.states key).map AgentState.order

/-- The accepted events of one state. -/
def Store.log (store : Store) (key : StateKey) : List AgentStateEvent :=
  store.events.filter fun event => event.key = key

end StateFlow.State
