import StateFlow.Proof.Plane.Writes

namespace StateFlow.Plane
open Python Table Effect

/-- These facts make a log of accepted writes free of lost updates. -/
structure OptimisticCas (log : List AcceptedWrite) : Prop where
  increasing : ∀ write ∈ log, ∃ reached, write.after = some reached ∧
    ∀ stored ∈ write.before, stored < reached
  expectation : ∀ write ∈ log, ∀ expected ∈ write.expected, expected ≠ 0 →
    write.before = some expected
  absent : ∀ write ∈ log, write.expected = some 0 → write.before = none
  noLostUpdate : log.Pairwise fun early late => early.key = late.key →
    ∀ expected ∈ early.expected, expected ∉ late.expected

/-- A write restarts the versions at zero when it continues version minus one. -/
def AcceptedWrite.RestartsAtZero (write : AcceptedWrite) : Prop :=
  write.version = 0 ∧ write.before = some (-1)

instance (write : AcceptedWrite) : Decidable write.RestartsAtZero :=
  inferInstanceAs (Decidable (write.version = 0 ∧ write.before = some (-1)))

section Log
variable {config : PlaneConfig} {operations : List Operation}

theorem mem_writesOf {log : List AcceptedWrite} {write : AcceptedWrite} (member : write ∈ log) :
    (write.before, ⟨write.expected, write.version⟩) ∈ writesOf write.key log :=
  List.mem_map.mpr ⟨write, List.mem_filter.mpr ⟨member, decide_eq_true rfl⟩, rfl⟩

/-- An absent record starts every register of a run. -/
theorem runLog_history (config : PlaneConfig) (operations : List Operation) (key : WriteKey) :
    ∃ last, Versioned.History none (writesOf key (runLog config operations {})) last := by
  have history := (runLog_follows config operations {}).1 key
  have empty : storedVersion {} key = none := by cases key <;> rfl
  rw [empty] at history
  exact ⟨_, history⟩

theorem runLog_accepts {write : AcceptedWrite} (member : write ∈ runLog config operations {}) :
    Versioned.Accepts write.before ⟨write.expected, write.version⟩ := by
  obtain ⟨last, history⟩ := runLog_history config operations write.key
  exact history.accepts _ (mem_writesOf member)

theorem runLog_increasing {write : AcceptedWrite} (member : write ∈ runLog config operations {}) :
    ∃ reached, write.after = some reached ∧ ∀ stored ∈ write.before, stored < reached :=
  ⟨_, (runLog_follows config operations {}).2 write member,
    fun _ present => Versioned.lt_next (runLog_accepts member) present⟩

/-- A present expected version names the stored record. -/
theorem runLog_expectation {write : AcceptedWrite} (member : write ∈ runLog config operations {})
    {expected : Int} (wanted : expected ∈ write.expected) (positive : expected ≠ 0) :
    write.before = some expected := by
  have matched := (runLog_accepts member).expectation expected wanted
  cases before : write.before with
  | none =>
      rw [before] at matched
      exact absurd matched.symm positive
  | some stored =>
      rw [before] at matched
      exact congrArg some matched

section Regular
variable (regular : ∀ write ∈ runLog config operations {}, ¬ write.RestartsAtZero)
include regular

theorem writesOf_regular (key : WriteKey) :
    ∀ entry ∈ writesOf key (runLog config operations {}), Versioned.Regular entry.1 entry.2 := by
  intro entry member
  obtain ⟨write, kept, rfl⟩ := List.mem_map.mp member
  exact regular write (List.mem_filter.mp kept).1

/-- No record of the run has version zero. -/
theorem runLog_before_ne_zero {write : AcceptedWrite}
    (member : write ∈ runLog config operations {}) : write.before ≠ some 0 := by
  obtain ⟨last, history⟩ := runLog_history config operations write.key
  exact history.before_ne_zero (fun zero => nomatch zero) (writesOf_regular regular write.key) _
    (mem_writesOf member)

theorem runLog_absent {write : AcceptedWrite} (member : write ∈ runLog config operations {})
    (wanted : write.expected = some 0) : write.before = none := by
  have matched := (runLog_accepts member).expectation 0 wanted
  cases before : write.before with
  | none => rfl
  | some stored =>
      rw [before] at matched
      exact absurd (before.trans (congrArg some matched)) (runLog_before_ne_zero regular member)

theorem runLog_noLostUpdate :
    (runLog config operations {}).Pairwise fun early late => early.key = late.key →
      ∀ expected ∈ early.expected, expected ∉ late.expected := by
  rw [List.pairwise_iff_forall_sublist]
  intro early late inside same expected wanted
  obtain ⟨last, history⟩ := runLog_history config operations late.key
  have distinct := history.distinct (fun zero => nomatch zero) (writesOf_regular regular late.key)
  -- The pair survives the restriction of the log to its key.
  have restricted := inside.filter fun write => decide (write.key = late.key)
  simp only [List.filter_cons, same, decide_true, if_true, List.filter_nil] at restricted
  have pair := distinct.sublist (restricted.map fun write =>
    (write.before, (⟨write.expected, write.version⟩ : Versioned.Write)))
  exact (List.pairwise_cons.mp pair).1 _ List.mem_cons_self expected wanted

end Regular

/-- A run without a restart at zero loses no update. -/
theorem optimisticCas_of_regular (config : PlaneConfig) (operations : List Operation)
    (regular : ∀ write ∈ runLog config operations {}, ¬ write.RestartsAtZero) :
    OptimisticCas (runLog config operations {}) where
  increasing _ member := runLog_increasing member
  expectation _ member _ := runLog_expectation member
  absent _ := runLog_absent regular
  noLostUpdate := runLog_noLostUpdate regular

end Log

/-- Two writers raise one version in turn. -/
theorem optimisticCas_of_two_writers :
    OptimisticCas (runLog defaultConfig
      [.upsertEntity 0 queueEntity, .publishState [queueWrite 4 0 0, queueWrite 5 0 1]] {}) :=
  optimisticCas_of_regular _ _ (by decide +kernel)

/-- Two writers of an absent record are both accepted when the first one brings version minus one. -/
theorem not_optimisticCas_after_negative_version :
    ¬ OptimisticCas (runLog defaultConfig
      [.upsertEntity 0 queueEntity,
        .publishState [queueWrite 4 (-1) 0, queueWrite 5 0 (-1), queueWrite 6 0 0]] {}) := by
  intro safe
  have second := safe.absent
    ⟨.state ("component/component/r0", "runtime.queue_depth"), some 0, 0, some 0, some 1⟩
    (by decide +kernel) rfl
  cases second

end StateFlow.Plane
