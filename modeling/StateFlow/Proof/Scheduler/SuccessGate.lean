import StateFlow.Construction.Scheduler.Gates

namespace StateFlow.Scheduler
open Python Table State Selection

/-- The entries of a list share one bound for each model. -/
structure SharedBound (evaluations : List CandidateEvaluation) (bound : String → ℚ) : Prop where
  bounds : ∀ item ∈ evaluations, item.successLcb = bound item.modelId
  nonneg : ∀ model, 0 ≤ bound model

/-- A table of bounds holds exactly the models that it saw. -/
structure BoundTable (table : List (String × ℚ)) (seen : List String) (bound : String → ℚ) :
    Prop where
  sound : ∀ entry ∈ table, entry.1 ∈ seen ∧ entry.2 = bound entry.1
  complete : ∀ model ∈ seen, table.lookup model = some (bound model)

theorem BoundTable.add {table : List (String × ℚ)} {seen : List String} {bound : String → ℚ}
    (known : BoundTable table seen bound) (nonneg : ∀ model, 0 ≤ bound model) (model : String) :
    BoundTable (assign model (max (getD table model 0) (bound model)) table) (seen ++ [model])
      bound := by
  have same : max (getD table model 0) (bound model) = bound model := by
    unfold getD
    cases found : table.lookup model with
    | none => exact max_eq_right (nonneg model)
    | some value =>
        have stored : value = bound model := (known.sound _ (mem_of_lookup found)).2
        rw [Option.getD_some, stored]
        exact max_self _
  rw [same]
  constructor
  · intro entry member
    rcases mem_assign member with rfl | inside
    · exact ⟨List.mem_append_right _ (List.mem_singleton_self _), rfl⟩
    · exact ⟨List.mem_append_left _ (known.sound entry inside).1, (known.sound entry inside).2⟩
  · intro query member
    rw [lookup_assign]
    split
    · rename_i here
      rw [here]
    · rename_i other
      rcases List.mem_append.mp member with earlier | last
      · exact known.complete query earlier
      · exact absurd (List.mem_singleton.mp last) other

/-- Replicas of a model share its bound. -/
theorem boundByModel_table {evaluations : List CandidateEvaluation} {bound : String → ℚ}
    (shared : SharedBound evaluations bound) :
    BoundTable (boundByModel evaluations) (evaluations.map CandidateEvaluation.modelId) bound := by
  have step (items : List CandidateEvaluation) (table : List (String × ℚ)) (seen : List String)
      (bounds : ∀ item ∈ items, item.successLcb = bound item.modelId)
      (known : BoundTable table seen bound) :
      BoundTable (items.foldl (fun table item =>
        assign item.modelId (max (getD table item.modelId 0) item.successLcb) table) table)
        (seen ++ items.map CandidateEvaluation.modelId) bound := by
    induction items generalizing table seen with
    | nil => simpa using known
    | cons item rest ih =>
        obtain ⟨here, later⟩ := List.forall_mem_cons.mp bounds
        rw [List.foldl_cons, here, List.map_cons, List.append_cons]
        exact ih _ _ later (known.add shared.nonneg item.modelId)
  have empty : BoundTable [] [] bound :=
    ⟨fun _ member => absurd member List.not_mem_nil, fun _ member => absurd member List.not_mem_nil⟩
  exact step evaluations [] [] shared.bounds empty

/-- A model survives near the best bound above the floor, or near the best bound when no model
reaches the floor. -/
def NearBest (models : List String) (bound : String → ℚ) (sMin epsilonSuccess : ℚ)
    (model : String) : Prop :=
  if ∃ other ∈ models, sMin ≤ bound other then
    sMin ≤ bound model ∧ ∀ other ∈ models, bound other - epsilonSuccess ≤ bound model
  else ∀ other ∈ models, bound other - 1 / 1000000000000 ≤ bound model

section Gate
variable {evaluations : List CandidateEvaluation} {bound : String → ℚ} {sMin epsilonSuccess : ℚ}

/-- The gate keeps the models near the best bound. -/
theorem mem_successGate (shared : SharedBound evaluations bound) (tolerant : 0 ≤ epsilonSuccess)
    {model : String} (listed : model ∈ evaluations.map CandidateEvaluation.modelId) :
    model ∈ (successGate evaluations sMin epsilonSuccess).modelIds ↔
      NearBest (evaluations.map CandidateEvaluation.modelId) bound sMin epsilonSuccess model := by
  have known := boundByModel_table shared
  have entry (name : String) (member : name ∈ evaluations.map CandidateEvaluation.modelId) :
      (name, bound name) ∈ boundByModel evaluations := mem_of_lookup (known.complete name member)
  obtain ⟨best, top, leads⟩ := argmax_of_ne_nil Prod.snd (List.ne_nil_of_mem (entry model listed))
  obtain ⟨topListed, topBound⟩ := known.sound best top
  have above : ∀ other ∈ evaluations.map CandidateEvaluation.modelId, bound other ≤ best.2 :=
    fun other member => le_argmax Prod.snd leads (entry other member)
  -- A filter of the table selects models by their bounds.
  have selects (keep : ℚ → Bool) : model ∈ ((boundByModel evaluations).filter fun item =>
      keep item.2).map Prod.fst ↔ keep (bound model) = true := by
    constructor
    · intro member
      obtain ⟨item, inside, rfl⟩ := List.mem_map.mp member
      obtain ⟨present, kept⟩ := List.mem_filter.mp inside
      rwa [(known.sound item present).2] at kept
    · exact fun kept => List.mem_map.mpr ⟨_, List.mem_filter.mpr ⟨entry model listed, kept⟩, rfl⟩
  have spread (slack : ℚ) : best.2 - slack ≤ bound model ↔
      ∀ other ∈ evaluations.map CandidateEvaluation.modelId, bound other - slack ≤ bound model := by
    constructor
    · intro near other member
      exact (sub_le_sub_right (above other member) slack).trans near
    · intro near
      rw [topBound]
      exact near best.1 topListed
  simp only [successGate, leads, max_eq_right tolerant, NearBest]
  by_cases reached : ∃ other ∈ evaluations.map CandidateEvaluation.modelId, sMin ≤ bound other
  · obtain ⟨other, member, floor⟩ := reached
    have passes : best ∈ (boundByModel evaluations).filter fun item =>
        decide (sMin ≤ item.2) && decide (best.2 - epsilonSuccess ≤ item.2) := by
      refine List.mem_filter.mpr ⟨top, ?_⟩
      rw [decide_eq_true (floor.trans (above other member)),
        decide_eq_true (sub_le_self best.2 tolerant)]
      rfl
    rw [if_neg (fun empty => List.ne_nil_of_mem passes (List.isEmpty_iff.mp empty)),
      if_pos ⟨other, member, floor⟩, ← spread]
    refine (selects fun value => decide (sMin ≤ value) &&
      decide (best.2 - epsilonSuccess ≤ value)).trans ?_
    rw [Bool.and_eq_true, decide_eq_true_eq, decide_eq_true_eq]
  · have nobody : (boundByModel evaluations).filter (fun item =>
        decide (sMin ≤ item.2) && decide (best.2 - epsilonSuccess ≤ item.2)) = [] := by
      apply List.filter_eq_nil_iff.mpr
      intro item member kept
      obtain ⟨seen, same⟩ := known.sound item member
      rw [Bool.and_eq_true, decide_eq_true_eq, same] at kept
      exact reached ⟨item.1, seen, kept.1⟩
    rw [nobody, if_pos (show ([] : List (String × ℚ)).isEmpty = true from rfl), if_neg reached,
      ← spread]
    exact (selects fun value => decide (best.2 - 1 / 1000000000000 ≤ value)).trans
      decide_eq_true_iff

end Gate

end StateFlow.Scheduler
