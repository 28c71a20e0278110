import Mathlib.Data.List.TakeWhile
import StateFlow.Construction.Adapters.Runner

namespace StateFlow.Adapters
open Python Effect Racing Double

/-- The failures at the end of a history. -/
def trailing (history : List Attempt) : Nat := (history.reverse.takeWhile Attempt.failed).length

@[simp] theorem trailing_returned (history : List Attempt) (report : CollectionReport) (now : Int) :
    trailing (history ++ [.returned report now]) = 0 := by
  simp [trailing, Attempt.failed]

@[simp] theorem trailing_raised (history : List Attempt) (name : String) :
    trailing (history ++ [.raised name]) = trailing history + 1 := by
  rw [trailing, List.reverse_append, List.reverse_singleton, List.singleton_append,
    List.takeWhile_cons_of_pos rfl, List.length_cons, trailing]

def Attempt.report? : Attempt → Option (CollectionReport × Int)
  | .returned report now => some (report, now)
  | .raised _ => none

/-- A success leaves no error text. -/
def Attempt.error : Attempt → String
  | .returned .. => ""
  | .raised name => name

/-- The state of a runner reflects a history of polls. -/
structure Reflects (history : List Attempt) (state : RunnerState) : Prop where
  attempts : state.attempts = history.length
  successes : state.successes = history.countP fun poll => !poll.failed
  failures : state.failures = history.countP Attempt.failed
  consecutive : state.consecutiveFailures = trailing history
  lastReport : state.lastReport = ((history.filterMap Attempt.report?).getLast?).map Prod.fst
  lastSuccess : state.lastSuccessAt = ((history.filterMap Attempt.report?).getLast?).map Prod.snd
  lastError : state.lastError = (history.getLast?.map Attempt.error).getD ""

theorem reflects_nil : Reflects [] {} := ⟨rfl, rfl, rfl, rfl, rfl, rfl, rfl⟩

theorem reflects_after {history : List Attempt} {state : RunnerState}
    (reflects : Reflects history state) (poll : Attempt) :
    Reflects (history ++ [poll]) (state.after poll) := by
  cases poll with
  | returned report now =>
      constructor <;>
        simp [RunnerState.after, reflects.attempts, reflects.successes, reflects.failures,
          Attempt.failed, Attempt.report?, Attempt.error]
  | raised name =>
      constructor <;>
        simp [RunnerState.after, reflects.attempts, reflects.successes, reflects.failures,
          reflects.consecutive, reflects.lastReport, reflects.lastSuccess, Attempt.failed,
          Attempt.report?, Attempt.error]

/-- A serial run of polls is described by them. -/
theorem reflects_foldl {history : List Attempt} {state : RunnerState}
    (reflects : Reflects history state) (polls : List Attempt) :
    Reflects (history ++ polls) (polls.foldl RunnerState.after state) := by
  induction polls generalizing history state with
  | nil => simpa using reflects
  | cons poll rest ih => simpa using ih (reflects_after reflects poll)

namespace Reflects
variable {history : List Attempt} {state : RunnerState} (reflects : Reflects history state)
include reflects

theorem balanced : state.attempts = state.successes + state.failures := by
  have split := List.length_eq_countP_add_countP Attempt.failed (l := history)
  rw [reflects.attempts, reflects.successes, reflects.failures, split, Nat.add_comm]
  congr 1
  exact List.countP_congr fun poll _ => by simp

theorem consecutive_le : state.consecutiveFailures ≤ state.failures := by
  rw [reflects.consecutive, reflects.failures, trailing, ← List.countP_reverse]
  have front := List.takeWhile_prefix (l := history.reverse) Attempt.failed
  calc (history.reverse.takeWhile Attempt.failed).length
      = (history.reverse.takeWhile Attempt.failed).countP Attempt.failed := by
        rw [eq_comm, List.countP_eq_length]
        exact fun poll inside => List.mem_takeWhile_imp inside
    _ ≤ history.reverse.countP Attempt.failed := front.sublist.countP_le

end Reflects

section Threads
variable {T : Type} [DecidableEq T]

/-- In every interleaving the state of a runner reflects some of the finished polls, in their order
and with the last one. Polls that do not overlap are all reflected. -/
theorem runner_serves (turns : List (Turn T Attempt)) :
    (∃ kept, kept.Sublist (SharedRunner.run turns).done ∧
      kept.getLast? = (SharedRunner.run turns).done.getLast? ∧
      Reflects kept (SharedRunner.run turns).value) ∧
    (SharedRunner.run turns).value.attempts =
      (SharedRunner.run turns).value.successes + (SharedRunner.run turns).value.failures ∧
    (SharedRunner.run turns).value.attempts ≤ (SharedRunner.run turns).done.length ∧
    (SharedRunner.run turns).value.consecutiveFailures ≤
      (SharedRunner.run turns).value.failures ∧
    ∀ operations : List (T × Attempt),
      Reflects (operations.map Prod.snd) (SharedRunner.run (calls operations)).value := by
  obtain ⟨kept, inside, last, value⟩ :=
    (served_run (served_fresh : Served RunnerState.after {} (Cell.fresh {} : SharedRunner T))
      turns).last
  have reflects : Reflects kept (SharedRunner.run turns).value := by
    rw [SharedRunner.run, value]
    exact reflects_foldl reflects_nil kept
  refine ⟨⟨kept, inside, last, reflects⟩, reflects.balanced, ?_, reflects.consecutive_le, ?_⟩
  · rw [reflects.attempts]
    exact inside.length_le
  · intro operations
    have idle : (Cell.fresh {} : SharedRunner T).Idle := fun _ => rfl
    obtain ⟨exact, _, done⟩ := run_calls exact_fresh idle operations
    rw [SharedRunner.run, exact.value, done]
    exact reflects_foldl reflects_nil _

end Threads

namespace PollingAdapterRunner
variable (runner : PollingAdapterRunner)

/-- The multiplication of the wait is exact. -/
theorem delay_eq (failures : Nat) : runner.delay failures =
    min runner.maxBackoffSeconds (runner.intervalSeconds * 2 ^ min failures 10) := by
  have scaled := nearest_mul_zpow runner.intervalSeconds (min failures 10 : Nat)
  rw [zpow_natCast] at scaled
  rw [delay, scaled, nearest_of_isDouble runner.doubleInterval]

theorem delay_pos (failures : Nat) : 0 < runner.delay failures := by
  rw [delay_eq]
  exact lt_min runner.positiveBackoff (mul_pos runner.positiveInterval (by positivity))

theorem delay_le (failures : Nat) : runner.delay failures ≤ runner.maxBackoffSeconds :=
  min_le_left _ _

theorem delay_mono {fewer more : Nat} (ordered : fewer ≤ more) :
    runner.delay fewer ≤ runner.delay more := by
  rw [delay_eq, delay_eq]
  apply min_le_min_left
  have exponent : min fewer 10 ≤ min more 10 := by omega
  exact mul_le_mul_of_nonneg_left (pow_le_pow_right₀ (by norm_num) exponent)
    runner.positiveInterval.le

section Serve
variable {F W : Type} (errorName : F → String)

/-- The target that the operations of some rounds leave behind. -/
def lastWorld (world : W) (rounds : List (Int × EStateM F W CollectionReport)) : W :=
  rounds.foldl (fun world entry => finalState (entry.2 world)) world

theorem polls_length (world : W) (rounds : List (Int × EStateM F W CollectionReport)) :
    (polls errorName world rounds).length = rounds.length := by
  induction rounds generalizing world with
  | nil => rfl
  | cons entry rest ih => simp [polls, ih]

/-- The waits of some rounds after a history of polls. -/
def waits (history polls : List Attempt) : List ℚ :=
  (List.range polls.length).map fun place =>
    runner.delay (trailing (history ++ polls.take (place + 1)))

theorem waits_cons (history rest : List Attempt) (poll : Attempt) :
    runner.waits history (poll :: rest) =
      runner.delay (trailing (history ++ [poll])) :: runner.waits (history ++ [poll]) rest := by
  simp [waits, List.range_succ_eq_map, List.map_map, Function.comp_def]

/-- The rounds continue a history. -/
theorem serve_continues {history : List Attempt} {serving : Serving W}
    (reflects : Reflects history serving.state)
    (rounds : List (Int × EStateM F W CollectionReport)) :
    let later := polls errorName serving.world rounds
    Reflects (history ++ later) (runner.serve errorName serving rounds).state ∧
    (runner.serve errorName serving rounds).world = lastWorld serving.world rounds ∧
    (runner.serve errorName serving rounds).delays =
      serving.delays ++ runner.waits history later := by
  induction rounds generalizing history serving with
  | nil => simpa [polls, serve, lastWorld, waits] using reflects
  | cons entry rest ih =>
      obtain ⟨now, operation⟩ := entry
      have next : Reflects (history ++ [pollOf errorName now (operation serving.world)])
          (runner.round errorName serving now operation).state := reflects_after reflects _
      obtain ⟨state, world, delays⟩ := ih next
      refine ⟨?_, world, ?_⟩
      · rw [List.append_assoc] at state
        exact state
      · show (runner.serve errorName (runner.round errorName serving now operation) rest).delays = _
        rw [delays, polls, waits_cons, ← next.consecutive]
        simp [round]

/-- A runner polls again after each exception. The wait after a poll doubles with each failure since
the last success, and it never leaves its bounds. -/
theorem serve_backs_off (world : W) (rounds : List (Int × EStateM F W CollectionReport)) :
    let history := polls errorName world rounds
    let served := runner.serve errorName ⟨{}, world, []⟩ rounds
    history.length = rounds.length ∧ Reflects history served.state ∧
    served.world = lastWorld world rounds ∧ served.delays.length = rounds.length ∧
    ∀ place wait, served.delays[place]? = some wait →
      wait = min runner.maxBackoffSeconds
        (runner.intervalSeconds * 2 ^ min (trailing (history.take (place + 1))) 10) ∧
      0 < wait ∧ wait ≤ runner.maxBackoffSeconds ∧
      (∀ poll, history[place]? = some poll → poll.failed = false →
        wait = min runner.maxBackoffSeconds runner.intervalSeconds) ∧
      ∀ poll next, history[place + 1]? = some poll → poll.failed = true →
        served.delays[place + 1]? = some next → wait ≤ next := by
  intro history served
  let start : Serving W := ⟨{}, world, []⟩
  have fresh : Reflects [] start.state := reflects_nil
  obtain ⟨reflects, reached, delays⟩ := runner.serve_continues errorName fresh rounds
  have length : history.length = rounds.length := polls_length errorName world rounds
  have waited : served.delays = runner.waits [] history := delays
  have at_ : ∀ {place wait}, served.delays[place]? = some wait →
      wait = runner.delay (trailing (history.take (place + 1))) := by
    intro place wait found
    rw [waited, waits, List.getElem?_map] at found
    obtain ⟨index, inside, same⟩ := Option.map_eq_some_iff.mp found
    obtain ⟨_, rfl⟩ := List.getElem?_eq_some_iff.mp inside
    simpa using same.symm
  refine ⟨length, reflects, reached, by rw [waited, waits]; simp [length], ?_⟩
  intro place wait found
  have same := at_ found
  refine ⟨same.trans (runner.delay_eq _), same ▸ runner.delay_pos _, same ▸ runner.delay_le _, ?_, ?_⟩
  · intro poll listed succeeded
    rw [same, delay_eq, List.take_add_one, listed]
    cases poll with
    | returned report now => simp
    | raised name => cases succeeded
  · intro poll next listed failed after
    have longer : history.take (place + 1 + 1) = history.take (place + 1) ++ [poll] := by
      rw [List.take_add_one, listed]
      rfl
    rw [same, at_ after, longer]
    cases poll with
    | returned report now => cases failed
    | raised name =>
        apply runner.delay_mono
        simp

end Serve

end PollingAdapterRunner

end StateFlow.Adapters
