import StateFlow.Library.Effect

namespace StateFlow.Effect

variable {ε σ α β ι : Type}

/-- A computation that never raises. -/
def Total (program : EStateM ε σ α) : Prop := Returns (fun _ => True) program fun _ _ => True

/-- A computation that raises leaves its state. -/
def Atomic (program : EStateM ε σ α) : Prop :=
  ∀ state error last, program state = .error error last → last = state

section Rules
variable {program : EStateM ε σ α} {next : α → EStateM ε σ β}

theorem total_pure (value : α) : Total (pure value : EStateM ε σ α) := returns_pure fun _ _ => trivial

theorem total_modify (update : σ → σ) : Total (modify update : EStateM ε σ Unit) :=
  fun _ _ => ⟨_, _, rfl, trivial⟩

theorem total_set (state : σ) : Total (set state : EStateM ε σ Unit) := fun _ _ => ⟨_, _, rfl, trivial⟩

theorem total_bind (first : Total program) (rest : ∀ value, Total (next value)) :
    Total (program >>= next) :=
  returns_bind first rest

theorem total_get_bind {next : σ → EStateM ε σ β} (rest : ∀ state, Total (next state)) :
    Total (get >>= next) :=
  fun state _ => rest state state trivial

theorem total_mapM {items : List ι} {body : ι → EStateM ε σ α} (each : ∀ item, Total (body item)) :
    Total (items.mapM body) :=
  returns_mapM fun item _ => each item

theorem Total.atomic (total : Total program) : Atomic program := by
  intro state error last raised
  obtain ⟨value, reached, ran, _⟩ := total state trivial
  rw [raised] at ran
  cases ran

theorem atomic_pure (value : α) : Atomic (pure value : EStateM ε σ α) := (total_pure value).atomic

theorem atomic_throw (error : ε) : Atomic (throw error : EStateM ε σ α) := by
  intro state _ last raised
  cases raised
  rfl

theorem atomic_lift_bind {result : Except ε α} (rest : ∀ value, Atomic (next value)) :
    Atomic (lift result >>= next) := by
  cases result with
  | ok value => exact rest value
  | error error => exact atomic_throw error

theorem atomic_get_bind {next : σ → EStateM ε σ β} (rest : ∀ state, Atomic (next state)) :
    Atomic (get >>= next) :=
  fun state => rest state state

theorem atomic_ite {condition : Prop} [Decidable condition] {first second : EStateM ε σ α}
    (positive : Atomic first) (negative : Atomic second) :
    Atomic (if condition then first else second) := by
  split
  · exact positive
  · exact negative

/-- Only the last computation of an atomic sequence writes. -/
theorem atomic_bind_total (first : Atomic program) (rest : ∀ value, Total (next value)) :
    Atomic (program >>= next) := by
  intro state error last raised
  cases ran : program state with
  | ok value middle =>
      rw [bind_of_ok ran] at raised
      obtain ⟨_, _, finished, _⟩ := rest value middle trivial
      rw [raised] at finished
      cases finished
  | error error middle =>
      rw [bind_of_error ran] at raised
      cases raised
      exact first state error last ran

/-- A computation that only reads may come before an atomic one. -/
theorem atomic_read_bind (reads : Within (Frame.fixes id) program) (rest : ∀ value, Atomic (next value)) :
    Atomic (program >>= next) := by
  intro state error last raised
  have kept := reads state
  cases ran : program state with
  | ok value middle =>
      rw [ran] at kept
      rw [bind_of_ok ran] at raised
      exact (rest value middle error last raised).trans kept
  | error error middle =>
      rw [ran] at kept
      rw [bind_of_error ran] at raised
      cases raised
      exact kept

end Rules

end StateFlow.Effect
