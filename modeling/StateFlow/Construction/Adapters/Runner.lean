import StateFlow.Library.Double
import StateFlow.Library.Racing
import StateFlow.Construction.Adapters.Collection

namespace StateFlow.Adapters
open Python Effect Racing Double

/-- The snapshot that a runner publishes of itself. -/
structure RunnerState where
  attempts : Nat := 0
  successes : Nat := 0
  failures : Nat := 0
  consecutiveFailures : Nat := 0
  lastSuccessAt : Option Int := none
  lastError : String := ""
  lastReport : Option CollectionReport := none

/-- A poll returns a report at some time or raises an exception of some class. -/
inductive Attempt where
  | returned (report : CollectionReport) (now : Int)
  | raised (name : String)

def Attempt.failed : Attempt → Bool
  | .returned .. => false
  | .raised _ => true

/-- A success drops the last error and a failure keeps the last report. -/
def RunnerState.after (state : RunnerState) : Attempt → RunnerState
  | .raised name =>
      { attempts := state.attempts + 1
        successes := state.successes
        failures := state.failures + 1
        consecutiveFailures := state.consecutiveFailures + 1
        lastSuccessAt := state.lastSuccessAt
        lastError := name
        lastReport := state.lastReport }
  | .returned report now =>
      { attempts := state.attempts + 1
        successes := state.successes + 1
        failures := state.failures
        consecutiveFailures := 0
        lastSuccessAt := some now
        lastReport := some report }

/-- The constructor of a runner rejects intervals that are not positive. -/
structure PollingAdapterRunner where
  intervalSeconds : ℚ
  maxBackoffSeconds : ℚ
  positiveInterval : 0 < intervalSeconds
  positiveBackoff : 0 < maxBackoffSeconds
  doubleInterval : IsDouble intervalSeconds

/-- The lock of a runner guards the two accesses of `run_once` and not the poll between them. -/
abbrev SharedRunner (T : Type) := Cell T RunnerState Attempt

/-- The turns of threads that call `run_once`. -/
def SharedRunner.run {T : Type} [DecidableEq T] (turns : List (Turn T Attempt)) : SharedRunner T :=
  Cell.run RunnerState.after (Cell.fresh {}) turns

namespace PollingAdapterRunner
variable (runner : PollingAdapterRunner)

/-- The wait after a poll doubles with each consecutive failure, ten times at most. -/
def delay (failures : Nat) : ℚ :=
  min runner.maxBackoffSeconds (nearest (runner.intervalSeconds * 2 ^ min failures 10))

/-- The state of a runner that serves, the target of its operation, and the waits so far. -/
structure Serving (W : Type) where
  state : RunnerState
  world : W
  delays : List ℚ

variable {F W : Type}

/-- A poll of an operation. An exception leaves the target where the operation left it. -/
def pollOf (errorName : F → String) (now : Int) : EStateM.Result F W CollectionReport → Attempt
  | .ok report _ => .returned report now
  | .error failure _ => .raised (errorName failure)

variable (errorName : F → String)

/-- One round of `serve` polls and then waits. -/
def round (serving : Serving W) (now : Int) (operation : EStateM F W CollectionReport) :
    Serving W :=
  let result := operation serving.world
  let state := serving.state.after (pollOf errorName now result)
  ⟨state, finalState result, serving.delays ++ [runner.delay state.consecutiveFailures]⟩

/-- `serve` goes on until it is stopped. -/
def serve (serving : Serving W) (rounds : List (Int × EStateM F W CollectionReport)) : Serving W :=
  rounds.foldl (fun serving entry => runner.round errorName serving entry.1 entry.2) serving

/-- The polls of the rounds. -/
def polls : W → List (Int × EStateM F W CollectionReport) → List Attempt
  | _, [] => []
  | world, (now, operation) :: rest =>
      pollOf errorName now (operation world) :: polls (finalState (operation world)) rest

end PollingAdapterRunner

end StateFlow.Adapters
