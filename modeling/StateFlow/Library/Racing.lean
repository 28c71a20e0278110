import Mathlib.Data.List.Basic
import Mathlib.Logic.Function.Basic

namespace StateFlow.Racing
variable {T V O : Type}

/-- Threads update a cell in two turns. Each of them holds what it has read. The cell logs the
operations that were written. -/
structure Cell (T V O : Type) where
  value : V
  held : T → Option V
  done : List O

/-- No thread has read a fresh cell. -/
def Cell.fresh (start : V) : Cell T V O where
  value := start
  held _ := none
  done := []

/-- A thread reads the cell, or it writes the result of an operation on what it has read. -/
inductive Turn (T O : Type) where
  | read (thread : T)
  | write (thread : T) (operation : O)

section Turns
variable [DecidableEq T] (apply : V → O → V)

def Cell.read (cell : Cell T V O) (thread : T) : Cell T V O :=
  { cell with held := Function.update cell.held thread (some cell.value) }

/-- Only a thread that has read the cell writes to it. -/
def Cell.write (cell : Cell T V O) (thread : T) (operation : O) : Cell T V O :=
  match cell.held thread with
  | some seen =>
      { value := apply seen operation
        held := Function.update cell.held thread none
        done := cell.done ++ [operation] }
  | none => cell

def Cell.act (cell : Cell T V O) : Turn T O → Cell T V O
  | .read thread => cell.read thread
  | .write thread operation => cell.write apply thread operation

def Cell.run (cell : Cell T V O) (turns : List (Turn T O)) : Cell T V O :=
  turns.foldl (Cell.act apply) cell

end Turns

/-- A value is the result of some operations of a log, in their order. -/
def Serves (apply : V → O → V) (start : V) (log : List O) (value : V) : Prop :=
  ∃ kept : List O, kept.Sublist log ∧ value = kept.foldl apply start

/-- The value of a cell is the result of some written operations and of the last one. Each thread
has read such a value. -/
structure Served (apply : V → O → V) (start : V) (cell : Cell T V O) : Prop where
  last : ∃ kept : List O, kept.Sublist cell.done ∧ kept.getLast? = cell.done.getLast? ∧
    cell.value = kept.foldl apply start
  seen : ∀ thread value, cell.held thread = some value → Serves apply start cell.done value

/-- The value of a cell is the result of all written operations, and no thread has read an older
one. -/
structure Exact (apply : V → O → V) (start : V) (cell : Cell T V O) : Prop where
  value : cell.value = cell.done.foldl apply start
  current : ∀ thread seen, cell.held thread = some seen → seen = cell.value

/-- No thread holds a value. -/
def Cell.Idle (cell : Cell T V O) : Prop := ∀ thread, cell.held thread = none

section Laws
variable {apply : V → O → V} {start : V} {cell : Cell T V O}

theorem Serves.append {log : List O} {value : V} (serves : Serves apply start log value)
    (operation : O) : Serves apply start (log ++ [operation]) value := by
  obtain ⟨kept, inside, result⟩ := serves
  exact ⟨kept, inside.trans (List.sublist_append_left _ _), result⟩

theorem Served.serves (served : Served apply start cell) :
    Serves apply start cell.done cell.value := by
  obtain ⟨kept, inside, _, result⟩ := served.last
  exact ⟨kept, inside, result⟩

theorem served_fresh : Served apply start (Cell.fresh start : Cell T V O) where
  last := ⟨[], List.Sublist.refl _, rfl, rfl⟩
  seen _ _ holds := by cases holds

theorem exact_fresh : Exact apply start (Cell.fresh start : Cell T V O) where
  value := rfl
  current _ _ holds := by cases holds

theorem foldl_count (operations : List O) (first : Nat) :
    operations.foldl (fun count _ => count + 1) first = first + operations.length := by
  induction operations generalizing first with
  | nil => rfl
  | cons operation rest ih =>
      rw [List.foldl_cons, ih, List.length_cons]
      omega

/-- A counter shows at most the number of its operations. -/
theorem Served.count_le {counter : Cell T Nat O}
    (served : Served (fun count _ => count + 1) 0 counter) :
    counter.value ≤ counter.done.length := by
  obtain ⟨kept, inside, result⟩ := served.serves
  have length := inside.length_le
  rw [result, foldl_count]
  omega

/-- An exact counter shows the number of its operations. -/
theorem Exact.count_eq {counter : Cell T Nat O}
    (exact : Exact (fun count _ => count + 1) 0 counter) :
    counter.value = counter.done.length := by
  rw [exact.value, foldl_count, Nat.zero_add]

variable [DecidableEq T]

@[simp] theorem read_value (thread : T) : (cell.read thread).value = cell.value := rfl

@[simp] theorem read_done (thread : T) : (cell.read thread).done = cell.done := rfl

theorem write_of_held {thread : T} {seen : V} (holds : cell.held thread = some seen)
    (operation : O) : cell.write apply thread operation =
      ⟨apply seen operation, Function.update cell.held thread none, cell.done ++ [operation]⟩ := by
  simp [Cell.write, holds]

theorem served_read (served : Served apply start cell) (thread : T) :
    Served apply start (cell.read thread) where
  last := served.last
  seen other value holds := by
    by_cases same : other = thread
    · subst same
      have read : cell.value = value := by simpa [Cell.read] using holds
      exact read ▸ served.serves
    · exact served.seen other value (by simpa [Cell.read, same] using holds)

/-- A write drops the operations that its thread has not seen, and no others. -/
theorem served_write (served : Served apply start cell) (thread : T) (operation : O) :
    Served apply start (cell.write apply thread operation) := by
  cases holds : cell.held thread with
  | none => simpa [Cell.write, holds] using served
  | some seen =>
      rw [write_of_held holds]
      obtain ⟨kept, inside, result⟩ := served.seen thread seen holds
      constructor
      · refine ⟨kept ++ [operation], inside.append (List.Sublist.refl _), ?_, ?_⟩
        · simp
        · simp [result]
      · intro other value later
        by_cases same : other = thread
        · simp [same] at later
        · have older : cell.held other = some value := by simpa [same] using later
          exact (served.seen other value older).append operation

theorem served_act (served : Served apply start cell) (turn : Turn T O) :
    Served apply start (cell.act apply turn) := by
  cases turn with
  | read thread => exact served_read served thread
  | write thread operation => exact served_write served thread operation

/-- In every order of turns the cell shows the result of some operations, with the last one. -/
theorem served_run (served : Served apply start cell) (turns : List (Turn T O)) :
    Served apply start (cell.run apply turns) := by
  induction turns generalizing cell with
  | nil => exact served
  | cons turn rest ih => exact ih (served_act served turn)

/-- A thread that reads while no other one holds a value sees the current one. -/
theorem exact_read (exact : Exact apply start cell) (thread : T) :
    Exact apply start (cell.read thread) where
  value := exact.value
  current other seen holds := by
    by_cases same : other = thread
    · subst same
      have read : cell.value = seen := by simpa [Cell.read] using holds
      exact read.symm
    · exact exact.current other seen (by simpa [Cell.read, same] using holds)

theorem exact_write (exact : Exact apply start cell) {thread : T}
    (alone : ∀ other, other ≠ thread → cell.held other = none) (operation : O) :
    Exact apply start (cell.write apply thread operation) := by
  cases holds : cell.held thread with
  | none => simpa [Cell.write, holds] using exact
  | some seen =>
      rw [write_of_held holds]
      constructor
      · simp [exact.current thread seen holds, exact.value]
      · intro other value later
        by_cases same : other = thread
        · simp [same] at later
        · simp [same, alone other same] at later

theorem idle_of_write {thread : T} (alone : ∀ other, other ≠ thread → cell.held other = none)
    (operation : O) : (cell.write apply thread operation).Idle := by
  intro other
  by_cases same : other = thread
  · subst same
    cases holds : cell.held other with
    | none => simp [Cell.write, holds]
    | some seen => simp [write_of_held holds]
  · cases holds : cell.held thread with
    | none => simpa [Cell.write, holds] using alone other same
    | some seen => simpa [write_of_held holds, same] using alone other same

/-- The calls of a list read and write one after another. -/
def calls (operations : List (T × O)) : List (Turn T O) :=
  operations.flatMap fun call => [.read call.1, .write call.1 call.2]

/-- Calls that do not overlap lose no operation. -/
theorem run_calls (exact : Exact apply start cell) (idle : cell.Idle)
    (operations : List (T × O)) :
    Exact apply start (cell.run apply (calls operations)) ∧
      (cell.run apply (calls operations)).Idle ∧
      (cell.run apply (calls operations)).done = cell.done ++ operations.map Prod.snd := by
  induction operations generalizing cell with
  | nil => exact ⟨exact, idle, (List.append_nil _).symm⟩
  | cons call rest ih =>
      have alone : ∀ other, other ≠ call.1 → (cell.read call.1).held other = none := by
        intro other different
        simpa [Cell.read, different] using idle other
      have written := exact_write (exact_read exact call.1) alone call.2
      obtain ⟨ends, free, done⟩ := ih written (idle_of_write alone call.2)
      refine ⟨ends, free, ?_⟩
      have holds : (cell.read call.1).held call.1 = some cell.value := by simp [Cell.read]
      show (((cell.read call.1).write apply call.1 call.2).run apply (calls rest)).done = _
      rw [done, write_of_held holds]
      simp

end Laws

end StateFlow.Racing
