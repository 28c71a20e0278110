import Mathlib.Data.List.Basic
import Mathlib.Algebra.Order.Ring.Int

namespace StateFlow.Versioned

/-- A write may expect a version and may bring its own. Version zero brings none. -/
structure Write where
  expected : Option Int
  version : Int

/-- An absent record reports version zero. -/
def actual (current : Option Int) : Int := current.getD 0

/-- A write without a version continues the stored one. -/
def next (current : Option Int) (version : Int) : Int :=
  if version ≠ 0 then version
  else match current with
    | some stored => stored + 1
    | none => 1

/-- A register accepts a write that meets its expectation and raises the version. -/
structure Accepts (current : Option Int) (write : Write) : Prop where
  expectation : ∀ expected ∈ write.expected, actual current = expected
  increasing : ∀ stored ∈ current, write.version ≠ 0 → stored < write.version

/-- A regular write does not continue version minus one. -/
def Regular (current : Option Int) (write : Write) : Prop :=
  ¬ (write.version = 0 ∧ current = some (-1))

theorem lt_next {current : Option Int} {write : Write} (accepted : Accepts current write)
    {stored : Int} (present : current = some stored) : stored < next current write.version := by
  unfold next
  split
  · exact accepted.increasing stored present ‹_›
  · rw [present]
    exact Int.lt_succ stored

/-- A regular write never stores version zero. -/
theorem next_ne_zero {current : Option Int} {write : Write} (regular : Regular current write) :
    next current write.version ≠ 0 := by
  unfold next
  split
  · assumption
  · rename_i automatic
    cases current with
    | none => exact one_ne_zero
    | some stored =>
        intro zero
        have reached : stored = -1 := by
          change stored + 1 = 0 at zero
          omega
        exact regular ⟨not_not.mp automatic, congrArg some reached⟩

/-- A history lists accepted writes with the versions that they meet. -/
inductive History : Option Int → List (Option Int × Write) → Option Int → Prop
  | nil (current : Option Int) : History current [] current
  | cons {current last : Option Int} {write : Write} {rest : List (Option Int × Write)} :
      Accepts current write → History (some (next current write.version)) rest last →
        History current ((current, write) :: rest) last

theorem History.single {current : Option Int} {write : Write} (accepted : Accepts current write) :
    History current [(current, write)] (some (next current write.version)) :=
  .cons accepted (.nil _)

theorem History.append {first middle last : Option Int} {early late : List (Option Int × Write)}
    (before : History first early middle) (after : History middle late last) :
    History first (early ++ late) last := by
  induction before with
  | nil current => exact after
  | cons accepted _ ih => exact .cons accepted (ih after)

theorem History.accepts {first last : Option Int} {writes : List (Option Int × Write)}
    (history : History first writes last) :
    ∀ entry ∈ writes, Accepts entry.1 entry.2 := by
  induction history with
  | nil current => exact fun _ member => absurd member List.not_mem_nil
  | cons accepted _ ih =>
      intro entry member
      rcases List.mem_cons.mp member with same | later
      · exact same ▸ accepted
      · exact ih entry later

/-- Every later write of a present record meets at least its version. -/
theorem History.le_before {stored : Int} {last : Option Int} {writes : List (Option Int × Write)}
    (history : History (some stored) writes last) :
    ∀ entry ∈ writes, ∃ version, entry.1 = some version ∧ stored ≤ version := by
  generalize start : some stored = first at history
  induction history generalizing stored with
  | nil current => exact fun _ member => absurd member List.not_mem_nil
  | cons accepted _ ih =>
      intro entry member
      rcases List.mem_cons.mp member with same | later
      · exact ⟨stored, by rw [same, ← start], le_refl stored⟩
      · obtain ⟨version, met, above⟩ := ih rfl entry later
        exact ⟨version, met, (lt_next accepted start.symm).le.trans above⟩

/-- A regular history never meets version zero. -/
theorem History.before_ne_zero {first last : Option Int} {writes : List (Option Int × Write)}
    (history : History first writes last) (start : first ≠ some 0)
    (regular : ∀ entry ∈ writes, Regular entry.1 entry.2) :
    ∀ entry ∈ writes, entry.1 ≠ some 0 := by
  induction history with
  | nil current => exact fun _ member => absurd member List.not_mem_nil
  | cons accepted _ ih =>
      intro entry member
      rcases List.mem_cons.mp member with same | later
      · exact same ▸ start
      · have stored := next_ne_zero (regular _ List.mem_cons_self)
        exact ih (fun zero => stored (Option.some.inj zero))
          (fun other inside => regular other (List.mem_cons_of_mem _ inside)) entry later

/-- A later write meets another version than an earlier one. -/
theorem actual_lt_or_absent {current : Option Int} {write : Write} (accepted : Accepts current write)
    (regular : Regular current write) {later : Int} (above : next current write.version ≤ later)
    (positive : later ≠ 0) : actual current ≠ later := by
  cases current with
  | none => exact fun same => positive same.symm
  | some stored => exact (lt_of_lt_of_le (lt_next accepted rfl) above).ne

/-- No two writes of a regular history expect the same version. -/
theorem History.distinct {first last : Option Int} {writes : List (Option Int × Write)}
    (history : History first writes last) (start : first ≠ some 0)
    (regular : ∀ entry ∈ writes, Regular entry.1 entry.2) :
    writes.Pairwise fun early late => ∀ expected ∈ early.2.expected, expected ∉ late.2.expected := by
  induction history with
  | nil current => exact List.Pairwise.nil
  | @cons current last write rest accepted tail ih =>
      have here := regular _ List.mem_cons_self
      have stored := next_ne_zero here
      have later := fun entry inside => regular entry (List.mem_cons_of_mem _ inside)
      have absent : some (next current write.version) ≠ some 0 :=
        fun zero => stored (Option.some.inj zero)
      refine List.Pairwise.cons ?_ (ih absent later)
      intro entry member expected early late
      obtain ⟨version, met, above⟩ := tail.le_before entry member
      have positive : version ≠ 0 := by
        intro zero
        exact tail.before_ne_zero absent later entry member (by rw [met, zero])
      have matched := (tail.accepts entry member).expectation expected late
      rw [met] at matched
      exact actual_lt_or_absent accepted here above positive
        ((accepted.expectation expected early).trans matched.symm)

end StateFlow.Versioned
