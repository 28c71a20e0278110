import StateFlow.Library.Effect

namespace StateFlow.Effect

variable {ε δ σ τ α β ι : Type}

/-- Two results return the same value in the same state, or they both raise in the same state. -/
inductive SameOutcome : EStateM.Result ε σ α → EStateM.Result δ σ α → Prop
  | returned (value : α) (state : σ) : SameOutcome (.ok value state) (.ok value state)
  | raised (first : ε) (second : δ) (state : σ) :
      SameOutcome (.error first state) (.error second state)

theorem SameOutcome.symm {first : EStateM.Result ε σ α} {second : EStateM.Result δ σ α}
    (same : SameOutcome first second) : SameOutcome second first := by
  cases same with
  | returned value state => exact .returned value state
  | raised error other state => exact .raised other error state

/-- A returned value is returned on the other side. -/
theorem SameOutcome.of_ok {first : EStateM.Result ε σ α} {second : EStateM.Result δ σ α}
    (same : SameOutcome first second) {value : α} {state : σ} (returned : first = .ok value state) :
    second = .ok value state := by
  subst returned
  cases same
  rfl

/-- A sequence only depends on the outcome of its first part. -/
theorem bind_congr_left {first second : EStateM ε σ α} {next : α → EStateM ε σ β} {state : σ}
    (same : first state = second state) : (first >>= next) state = (second >>= next) state := by
  change EStateM.bind first next state = EStateM.bind second next state
  unfold EStateM.bind
  rw [same]

/-- Two computations have the same outcome in every state. Their exceptions may differ. -/
def Matches (first : EStateM ε σ α) (second : EStateM δ σ α) : Prop :=
  ∀ state, SameOutcome (first state) (second state)

section Matches

theorem matches_refl (program : EStateM ε σ α) : Matches program program := by
  intro state
  cases program state with
  | ok value last => exact .returned value last
  | error error last => exact .raised error error last

theorem matches_bind {first : EStateM ε σ α} {second : EStateM δ σ α}
    {continued : α → EStateM ε σ β} {followed : α → EStateM δ σ β} (starts : Matches first second)
    (rest : ∀ value, Matches (continued value) (followed value)) :
    Matches (first >>= continued) (second >>= followed) := by
  intro state
  have start := starts state
  cases ran : first state with
  | ok value middle =>
      rw [bind_of_ok ran, bind_of_ok (start.of_ok ran)]
      exact rest value middle
  | error error middle =>
      rw [ran] at start
      cases answered : second state with
      | ok value last => rw [answered] at start; cases start
      | error other last =>
          rw [answered] at start
          cases start
          rw [bind_of_error ran, bind_of_error answered]
          exact .raised error other middle

theorem matches_seq {first : EStateM ε σ Unit} {second : EStateM δ σ Unit}
    {continued : EStateM ε σ β} {followed : EStateM δ σ β} (starts : Matches first second)
    (rest : Matches continued followed) :
    Matches (do first; continued) (do second; followed) :=
  matches_bind starts fun _ => rest

/-- Both computations start from the same pure result. -/
theorem matches_lift_bind {result : Except ε α} {continued followed : α → EStateM ε σ β}
    (rest : ∀ value, result = .ok value → Matches (continued value) (followed value)) :
    Matches (lift result >>= continued) (lift result >>= followed) := by
  cases result with
  | error error => exact fun state => .raised error error state
  | ok value => exact rest value rfl

theorem matches_ite {condition : Prop} [Decidable condition] {first other : EStateM ε σ α}
    {second another : EStateM δ σ α} (positive : condition → Matches first second)
    (negative : ¬ condition → Matches other another) :
    Matches (if condition then first else other) (if condition then second else another) := by
  split
  · exact positive ‹_›
  · exact negative ‹_›

theorem matches_mapM {items : List ι} {body : ι → EStateM ε σ α} {other : ι → EStateM δ σ α}
    (each : ∀ item ∈ items, Matches (body item) (other item)) :
    Matches (items.mapM body) (items.mapM other) := by
  induction items with
  | nil => exact fun state => .returned [] state
  | cons item rest ih =>
      rw [List.mapM_cons, List.mapM_cons]
      apply matches_bind (each item List.mem_cons_self)
      intro value
      apply matches_bind (ih fun later member => each later (List.mem_cons_of_mem _ member))
      intro values state
      exact .returned (value :: values) state

theorem matches_zoom {read : τ → σ} {write : τ → σ → τ} {first : EStateM ε σ α}
    {second : EStateM δ σ α} (inside : Matches first second) :
    Matches (zoom read write first) (zoom read write second) := by
  intro whole
  have part := inside (read whole)
  unfold zoom
  generalize first (read whole) = outcome at part ⊢
  generalize second (read whole) = answer at part ⊢
  cases part with
  | returned value state => exact .returned value _
  | raised error other state => exact .raised error other _

end Matches

/-- Two computations have the same outcome in every state, up to a relation of their exceptions. -/
def Raises (related : ε → δ → Prop) (first : EStateM ε σ α) (second : EStateM δ σ α) : Prop :=
  ∀ state, (∃ value last, first state = .ok value last ∧ second state = .ok value last) ∨
    ∃ error other last, related error other ∧ first state = .error error last ∧
      second state = .error other last

section Raises
variable {related : ε → δ → Prop}

theorem raises_bind {first : EStateM ε σ α} {second : EStateM δ σ α}
    {continued : α → EStateM ε σ β} {followed : α → EStateM δ σ β} (starts : Raises related first second)
    (rest : ∀ value, Raises related (continued value) (followed value)) :
    Raises related (first >>= continued) (second >>= followed) := by
  intro state
  rcases starts state with ⟨value, middle, ran, same⟩ | ⟨error, other, last, alike, ran, same⟩
  · rw [bind_of_ok ran, bind_of_ok same]
    exact rest value middle
  · rw [bind_of_error ran, bind_of_error same]
    exact .inr ⟨error, other, last, alike, rfl, rfl⟩

theorem raises_refl {alike : ε → ε → Prop} (same : ∀ error, alike error error) (program : EStateM ε σ α) :
    Raises alike program program := by
  intro state
  cases program state with
  | ok value last => exact .inl ⟨value, last, rfl, rfl⟩
  | error error last => exact .inr ⟨error, error, last, same error, rfl, rfl⟩

end Raises

end StateFlow.Effect
