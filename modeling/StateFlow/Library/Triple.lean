import StateFlow.Library.Simulation

namespace StateFlow.Effect

variable {ε σ τ α β ι : Type}

/-- From an allowed state, a computation returns to a described state or raises in a safe one. -/
def Triple (pre : σ → Prop) (program : EStateM ε σ α) (post : α → σ → Prop) (safe : σ → Prop) : Prop :=
  ∀ state, pre state →
    match program state with
    | .ok value last => post value last
    | .error _ last => safe last

section Rules
variable {pre safe : σ → Prop}

theorem triple_pure {value : α} {post : α → σ → Prop} (holds : ∀ state, pre state → post value state) :
    Triple pre (pure value : EStateM ε σ α) post safe :=
  fun state start => holds state start

theorem triple_bind {program : EStateM ε σ α} {next : α → EStateM ε σ β} {middle : α → σ → Prop}
    {post : β → σ → Prop} (first : Triple pre program middle safe)
    (rest : ∀ value, Triple (middle value) (next value) post safe) :
    Triple pre (program >>= next) post safe := by
  intro state start
  have reached := first state start
  cases ran : program state with
  | ok value between =>
      rw [ran] at reached
      rw [bind_of_ok ran]
      exact rest value between reached
  | error error between =>
      rw [ran] at reached
      rw [bind_of_error ran]
      exact reached

/-- A fact that every allowed state implies may be assumed. -/
theorem triple_known {fact : Prop} {program : EStateM ε σ α} {post : α → σ → Prop}
    (known : ∀ state, pre state → fact) (rest : fact → Triple pre program post safe) :
    Triple pre program post safe :=
  fun state start => rest (known state start) state start

theorem Triple.weaken {strong weak : α → σ → Prop} {strongPre : σ → Prop} {program : EStateM ε σ α}
    (inside : Triple pre program strong safe) (starts : ∀ state, strongPre state → pre state)
    (ends : ∀ value state, strong value state → weak value state) :
    Triple strongPre program weak safe := by
  intro state start
  have reached := inside state (starts state start)
  cases ran : program state with
  | ok value last =>
      rw [ran] at reached
      exact ends value last reached
  | error error last =>
      rw [ran] at reached
      exact reached

end Rules

/-- A computation keeps an invariant on both outcomes and answers inside a set. -/
def Keeps (invariant : σ → Prop) (program : EStateM ε σ α) (answers : α → Prop) : Prop :=
  Triple invariant program (fun value state => invariant state ∧ answers value) invariant

section Keeps
variable {invariant : σ → Prop} {answers : α → Prop}

theorem keeps_pure {value : α} (holds : answers value) :
    Keeps invariant (pure value : EStateM ε σ α) answers :=
  triple_pure fun _ start => ⟨start, holds⟩

theorem keeps_throw (error : ε) : Keeps invariant (throw error : EStateM ε σ α) answers :=
  fun _ start => start

theorem keeps_modify {update : σ → σ} (allowed : ∀ state, invariant state → invariant (update state)) :
    Keeps invariant (modify update : EStateM ε σ Unit) fun _ => True :=
  fun state start => ⟨allowed state start, trivial⟩

theorem keeps_bind {program : EStateM ε σ α} {next : α → EStateM ε σ β} {results : β → Prop}
    (first : Keeps invariant program answers)
    (rest : ∀ value, answers value → Keeps invariant (next value) results) :
    Keeps invariant (program >>= next) results :=
  triple_bind first fun value => triple_known (fun _ start => start.2) fun known =>
    (rest value known).weaken (fun _ start => start.1) fun _ _ ends => ends

theorem keeps_seq {program : EStateM ε σ Unit} {next : EStateM ε σ β} {done : Unit → Prop}
    {results : β → Prop} (first : Keeps invariant program done) (rest : Keeps invariant next results) :
    Keeps invariant (do program; next) results :=
  keeps_bind first fun _ _ => rest

/-- A computation that reads its state knows the invariant of that state. -/
theorem keeps_get_bind {next : σ → EStateM ε σ β} {results : β → Prop}
    (rest : ∀ state, invariant state → Keeps invariant (next state) results) :
    Keeps invariant (get >>= next) results :=
  fun state start => rest state start state start

/-- The answers of a pure result are known. -/
theorem keeps_lift {result : Except ε α} (known : ∀ value, result = .ok value → answers value) :
    Keeps invariant (lift result : EStateM ε σ α) answers := by
  cases result with
  | ok value => exact keeps_pure (known value rfl)
  | error error => exact keeps_throw error

/-- A computation continues with the value of a pure result. -/
theorem keeps_lift_bind {result : Except ε α} {next : α → EStateM ε σ β} {results : β → Prop}
    (rest : ∀ value, result = .ok value → Keeps invariant (next value) results) :
    Keeps invariant (lift result >>= next) results := by
  cases result with
  | ok value => exact rest value rfl
  | error error => exact keeps_throw error

theorem keeps_ite {condition : Prop} [Decidable condition] {first second : EStateM ε σ α}
    (positive : condition → Keeps invariant first answers)
    (negative : ¬ condition → Keeps invariant second answers) :
    Keeps invariant (if condition then first else second) answers := by
  split
  · exact positive ‹_›
  · exact negative ‹_›

theorem keeps_forM {items : List ι} {body : ι → EStateM ε σ PUnit}
    (each : ∀ item ∈ items, Keeps invariant (body item) fun _ => True) :
    Keeps invariant (items.forM body) fun _ => True := by
  induction items with
  | nil => exact keeps_pure trivial
  | cons item rest ih =>
      exact keeps_bind (each item List.mem_cons_self) fun _ _ =>
        ih fun later member => each later (List.mem_cons_of_mem _ member)

/-- An invariant holds where a computation ended, also when it raised. -/
theorem Keeps.finalState {program : EStateM ε σ α} (inside : Keeps invariant program answers)
    {state : σ} (start : invariant state) : invariant (finalState (program state)) := by
  have reached := inside state start
  cases ran : program state with
  | ok value last =>
      rw [ran] at reached
      exact reached.1
  | error error last =>
      rw [ran] at reached
      exact reached

/-- A part keeps its invariant inside a whole that consists of such parts. -/
theorem keeps_zoom {whole : τ → Prop} {read : τ → σ} {write : τ → σ → τ} {program : EStateM ε σ α}
    (inside : Keeps invariant program answers) (parts : ∀ state, whole state → invariant (read state))
    (lifts : ∀ state part, whole state → invariant part → whole (write state part)) :
    Keeps whole (zoom read write program) answers := by
  intro state start
  have reached := inside (read state) (parts state start)
  unfold zoom
  cases ran : program (read state) with
  | ok value part =>
      rw [ran] at reached
      exact ⟨lifts state part start reached.1, reached.2⟩
  | error error part =>
      rw [ran] at reached
      exact lifts state part start reached

end Keeps

/-- A pure computation returns inside a set. -/
def Yields (result : Except ε α) (answers : α → Prop) : Prop := ∃ value, result = .ok value ∧ answers value

section Yields
variable {result : Except ε α} {answers : α → Prop}

theorem yields_ok {value : α} (holds : answers value) : Yields (.ok value : Except ε α) answers :=
  ⟨value, rfl, holds⟩

theorem yields_pure {value : α} (holds : answers value) : Yields (pure value : Except ε α) answers :=
  ⟨value, rfl, holds⟩

theorem yields_bind {next : α → Except ε β} {results : β → Prop} (first : Yields result answers)
    (rest : ∀ value, answers value → Yields (next value) results) : Yields (result >>= next) results := by
  obtain ⟨value, rfl, holds⟩ := first
  exact rest value holds

theorem yields_mapM {body : ι → Except ε α} {items : List ι}
    (each : ∀ item ∈ items, Yields (body item) answers) :
    Yields (items.mapM body) fun values => ∀ value ∈ values, answers value := by
  induction items with
  | nil => exact yields_pure fun _ member => by cases member
  | cons item rest ih =>
      rw [List.mapM_cons]
      refine yields_bind (each item List.mem_cons_self) fun value here => ?_
      refine yields_bind (ih fun other inside => each other (List.mem_cons_of_mem _ inside))
        fun values later => ?_
      exact yields_pure (List.forall_mem_cons.mpr ⟨here, later⟩)

/-- A computation continues with an answer of a pure result and keeps an invariant. -/
theorem keeps_yields_bind {invariant : σ → Prop} {next : α → EStateM ε σ β} {results : β → Prop}
    (yields : Yields result answers)
    (rest : ∀ value, answers value → Keeps invariant (next value) results) :
    Keeps invariant (lift result >>= next) results := by
  obtain ⟨value, rfl, holds⟩ := yields
  exact rest value holds

theorem Yields.any (yields : Yields result answers) : Yields result fun _ => True :=
  yields.imp fun _ both => ⟨both.1, trivial⟩

end Yields

/-- From an invariant, a computation returns to it and answers inside a set. -/
def Completes (invariant : σ → Prop) (program : EStateM ε σ α) (answers : α → Prop) : Prop :=
  Returns invariant program fun value state => invariant state ∧ answers value

section Completes
variable {invariant : σ → Prop} {answers : α → Prop}

theorem completes_pure {value : α} (holds : answers value) :
    Completes invariant (pure value : EStateM ε σ α) answers :=
  returns_pure fun _ start => ⟨start, holds⟩

theorem completes_modify {update : σ → σ} (allowed : ∀ state, invariant state → invariant (update state)) :
    Completes invariant (modify update : EStateM ε σ Unit) fun _ => True :=
  fun state start => ⟨(), update state, rfl, allowed state start, trivial⟩

theorem completes_bind {program : EStateM ε σ α} {next : α → EStateM ε σ β} {results : β → Prop}
    (first : Completes invariant program answers)
    (rest : ∀ value, answers value → Completes invariant (next value) results) :
    Completes invariant (program >>= next) results :=
  returns_bind first fun value state both => rest value both.2 state both.1

theorem completes_seq {program : EStateM ε σ Unit} {next : EStateM ε σ β} {done : Unit → Prop}
    {results : β → Prop} (first : Completes invariant program done)
    (rest : Completes invariant next results) : Completes invariant (do program; next) results :=
  completes_bind first fun _ _ => rest

theorem completes_get_bind {next : σ → EStateM ε σ β} {results : β → Prop}
    (rest : ∀ state, invariant state → Completes invariant (next state) results) :
    Completes invariant (get >>= next) results :=
  fun state start => rest state start state start

/-- A computation continues with an answer of a pure result. -/
theorem completes_lift_bind {result : Except ε α} {next : α → EStateM ε σ β} {results : β → Prop}
    (yields : Yields result answers)
    (rest : ∀ value, answers value → Completes invariant (next value) results) :
    Completes invariant (lift result >>= next) results := by
  obtain ⟨value, rfl, holds⟩ := yields
  exact rest value holds

theorem completes_ite {condition : Prop} [Decidable condition] {first second : EStateM ε σ α}
    (positive : condition → Completes invariant first answers)
    (negative : ¬ condition → Completes invariant second answers) :
    Completes invariant (if condition then first else second) answers := by
  split
  · exact positive ‹_›
  · exact negative ‹_›

theorem completes_forM {items : List ι} {body : ι → EStateM ε σ PUnit}
    (each : ∀ item ∈ items, Completes invariant (body item) fun _ => True) :
    Completes invariant (items.forM body) fun _ => True := by
  induction items with
  | nil => exact completes_pure trivial
  | cons item rest ih =>
      exact completes_bind (each item List.mem_cons_self) fun _ _ =>
        ih fun later member => each later (List.mem_cons_of_mem _ member)

/-- A part returns inside a whole that consists of such parts. -/
theorem completes_zoom {whole : τ → Prop} {read : τ → σ} {write : τ → σ → τ} {program : EStateM ε σ α}
    (total : Completes invariant program answers) (parts : ∀ state, whole state → invariant (read state))
    (lifts : ∀ state part, whole state → invariant part → whole (write state part)) :
    Completes whole (zoom read write program) answers := by
  intro state start
  obtain ⟨value, part, ran, kept, holds⟩ := total (read state) (parts state start)
  exact ⟨value, write state part, zoom_of_ok ran, lifts state part start kept, holds⟩

end Completes

end StateFlow.Effect
