import StateFlow.Library.Effect

namespace StateFlow.Effect

variable {ε δ α β ι : Type}

/-- A computation returns exactly when a condition holds. Otherwise it fails in one way. -/
inductive Gated (failure : ε) (condition : Prop) : Except ε α → Prop
  | passes (held : condition) (value : α) : Gated failure condition (.ok value)
  | fails (broken : ¬ condition) : Gated failure condition (.error failure)

section Gated
variable {failure : ε} {condition later : Prop} {program : Except ε α}

theorem Gated.returns_iff (gated : Gated failure condition program) :
    (∃ value, program = .ok value) ↔ condition := by
  cases gated with
  | passes held value => exact ⟨fun _ => held, fun _ => ⟨value, rfl⟩⟩
  | fails broken =>
      refine ⟨?_, fun held => absurd held broken⟩
      rintro ⟨value, ⟨⟩⟩

theorem Gated.error (gated : Gated failure condition program) (broken : ¬ condition) :
    program = .error failure := by
  cases gated with
  | passes held value => exact absurd held broken
  | fails _ => rfl

theorem Gated.congr (gated : Gated failure condition program) (same : condition ↔ later) :
    Gated failure later program := by
  rwa [← propext same]

/-- A sequence passes when both of its parts do. -/
theorem gated_bind {next : α → Except ε β} (first : Gated failure condition program)
    (rest : ∀ value, program = .ok value → Gated failure later (next value)) :
    Gated failure (condition ∧ later) (program >>= next) := by
  cases first with
  | passes held value =>
      exact (rest value rfl).congr ⟨fun passed => ⟨held, passed⟩, fun both => both.2⟩
  | fails broken => exact .fails fun both => broken both.1

/-- A part without a gate leaves the gate of the rest. -/
theorem gated_of_bind {value : α} {next : α → Except ε β} (returned : program = .ok value)
    (rest : Gated failure later (next value)) : Gated failure later (program >>= next) := by
  rw [returned]
  exact rest

theorem gated_map {change : α → β} (gated : Gated failure condition program) :
    Gated failure condition (do return change (← program)) := by
  cases gated with
  | passes held value => exact .passes held (change value)
  | fails broken => exact .fails broken

theorem Gated.of_map {change : α → β}
    (gated : Gated failure condition (do return change (← program))) :
    Gated failure condition program := by
  cases program with
  | ok value => exact .passes (gated.returns_iff.mp ⟨change value, rfl⟩) value
  | error error =>
      have broken : ¬ condition := by
        intro held
        obtain ⟨value, ⟨⟩⟩ := gated.returns_iff.mpr held
      obtain ⟨⟩ := gated.error broken
      exact .fails broken

/-- A traversal passes when each of its items does. -/
theorem gated_mapM {condition : ι → Prop} {body : ι → Except ε α} {items : List ι}
    (each : ∀ item ∈ items, Gated failure (condition item) (body item)) :
    Gated failure (∀ item ∈ items, condition item) (items.mapM body) := by
  induction items with
  | nil =>
      rw [List.mapM_nil]
      exact .passes (fun _ inside => absurd inside List.not_mem_nil) []
  | cons item rest ih =>
      rw [List.mapM_cons, List.forall_mem_cons]
      apply gated_bind (each item List.mem_cons_self)
      intro value _
      exact gated_map (ih fun other inside => each other (List.mem_cons_of_mem item inside))

/-- A loop passes when each of its items does, whatever it has collected so far. -/
theorem gated_foldlM {condition : ι → Prop} {body : β → ι → Except ε β} {items : List ι}
    (each : ∀ item ∈ items, ∀ state, Gated failure (condition item) (body state item)) (state : β) :
    Gated failure (∀ item ∈ items, condition item) (items.foldlM body state) := by
  induction items generalizing state with
  | nil => exact .passes (fun _ inside => absurd inside List.not_mem_nil) state
  | cons item rest ih =>
      rw [List.foldlM_cons, List.forall_mem_cons]
      apply gated_bind (each item List.mem_cons_self state)
      intro value _
      exact ih (fun other inside => each other (List.mem_cons_of_mem item inside)) value

end Gated

end StateFlow.Effect
