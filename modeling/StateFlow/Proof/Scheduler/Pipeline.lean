import StateFlow.Proof.Scheduler.Stages
import StateFlow.Proof.Scheduler.SuccessGate

namespace StateFlow.Scheduler
open Python Table Effect State Selection

section Purpose
variable (host : Host) (config : SchedulerConfig) (limits : RequestLimits) (outlook : KvOutlook)
  (policy : Policy)

/-- The lower confidence bound of a model. -/
def modelBound (model : String) : ℚ := (policy.estimate model).lowerConfidenceBound config.beta

/-- The effective cost of a target under the estimate of its model. -/
def targetCost (target : TargetCandidate) : ℚ :=
  (effectiveCost host limits outlook target (policy.estimate target.modelId) config).effectiveCost

/-- The model of a target survives the success gate. -/
def SucceedsAt (target : TargetCandidate) : Prop :=
  NearBest (policy.targets.map TargetCandidate.modelId) (modelBound config policy) config.sMin
    config.epsilonSuccess target.modelId

def WithinBudget (target : TargetCandidate) : Prop :=
  ∀ budget ∈ limits.costBudget,
    targetCost host config limits outlook policy target ≤ budget + 1 / 1000000000000

/-- These facts make a target a candidate of the cost gate. -/
structure Affordable (target : TargetCandidate) : Prop where
  listed : target ∈ policy.targets
  succeeds : SucceedsAt config policy target
  within : WithinBudget host config limits outlook policy target

/-- A cost survivor stays within the tolerance of every affordable target. -/
structure CostSurvivor (target : TargetCandidate) : Prop where
  affordable : Affordable host config limits outlook policy target
  near : ∀ other, Affordable host config limits outlook policy other →
    targetCost host config limits outlook policy target ≤
      targetCost host config limits outlook policy other * (1 + config.epsilonCost)
        + 1 / 1000000000000

end Purpose

section Stages
variable {host : Host} {config : SchedulerConfig} {limits : RequestLimits} {outlook : KvOutlook}
  {urgency : ℚ} {policy : Policy} {stages : Stages}

theorem evaluate_targets (config : SchedulerConfig) (policy : Policy) :
    (policy.evaluate config).map EvaluatedTarget.target = policy.targets := by
  unfold Policy.evaluate
  rw [List.map_map]
  exact List.zipIdx_map_fst 0 policy.targets

/-- An evaluated item repeats its target. -/
structure Evaluates (config : SchedulerConfig) (policy : Policy) (item : EvaluatedTarget) : Prop where
  key : item.key = item.target.key
  estimate : item.estimate = policy.estimate item.target.modelId
  bound : item.evaluation.successLcb = modelBound config policy item.target.modelId

theorem evaluate_evaluates (config : SchedulerConfig) (policy : Policy) :
    ∀ item ∈ policy.evaluate config, Evaluates config policy item := by
  intro item member
  obtain ⟨entry, _, rfl⟩ := List.mem_map.mp member
  exact ⟨rfl, rfl, rfl⟩

theorem evaluate_sharedBound (config : SchedulerConfig) (policy : Policy) :
    SharedBound ((policy.evaluate config).map EvaluatedTarget.evaluation)
      (modelBound config policy) where
  bounds evaluation member := by
    obtain ⟨item, inside, rfl⟩ := List.mem_map.mp member
    obtain ⟨entry, _, rfl⟩ := List.mem_map.mp inside
    rfl
  nonneg _ := clamp_nonneg _

theorem evaluate_models (config : SchedulerConfig) (policy : Policy) :
    ((policy.evaluate config).map EvaluatedTarget.evaluation).map CandidateEvaluation.modelId =
      policy.targets.map TargetCandidate.modelId := by
  rw [← evaluate_targets config policy, List.map_map, List.map_map]
  apply List.map_congr_left
  intro item member
  obtain ⟨entry, _, rfl⟩ := List.mem_map.mp member
  rfl

/-- The success gate decides about the targets of the policy. -/
theorem mem_gateSuccess (tolerant : 0 ≤ config.epsilonSuccess) {target : TargetCandidate}
    (listed : target ∈ policy.targets) :
    target.modelId ∈ (gateSuccess config (policy.evaluate config)).modelIds ↔
      SucceedsAt config policy target := by
  have named : target.modelId ∈
      ((policy.evaluate config).map EvaluatedTarget.evaluation).map CandidateEvaluation.modelId := by
    rw [evaluate_models]
    exact List.mem_map_of_mem listed
  unfold gateSuccess SucceedsAt
  rw [mem_successGate (evaluate_sharedBound config policy) tolerant named, evaluate_models]

/-- A priced item carries the cost of its target. -/
structure Priced (host : Host) (config : SchedulerConfig) (limits : RequestLimits)
    (outlook : KvOutlook) (policy : Policy) (item : EvaluatedTarget) : Prop where
  key : item.key = item.target.key
  cost : item.effectiveCost = targetCost host config limits outlook policy item.target

section Passed
variable (passed : Passed host config limits outlook urgency policy stages)
include passed

theorem Passed.evaluated_targets :
    stages.evaluated.map EvaluatedTarget.target = policy.targets := by
  rw [passed.evaluated, List.map_map]
  exact evaluate_targets config policy

theorem Passed.evaluated_evaluates :
    ∀ item ∈ stages.evaluated, Evaluates config policy item := by
  rw [passed.evaluated]
  intro item member
  obtain ⟨before, inside, rfl⟩ := List.mem_map.mp member
  obtain ⟨key, estimate, bound⟩ := evaluate_evaluates config policy before inside
  exact ⟨key, estimate, bound⟩

theorem Passed.priced_targets : stages.priced.map EvaluatedTarget.target =
    policy.targets.filter fun target => target.modelId ∈ stages.gate.modelIds := by
  rw [passed.priced, List.map_map, ← passed.evaluated_targets, List.filter_map]
  rfl

theorem Passed.priced_priced :
    ∀ item ∈ stages.priced, Priced host config limits outlook policy item := by
  rw [passed.priced]
  intro item member
  obtain ⟨before, inside, rfl⟩ := List.mem_map.mp member
  obtain ⟨key, estimate, _⟩ := passed.evaluated_evaluates before (List.mem_filter.mp inside).1
  refine ⟨key, ?_⟩
  change (effectiveCost host limits outlook before.target before.estimate config).effectiveCost = _
  rw [estimate]
  rfl

theorem Passed.budgeted_targets_sublist :
    (stages.budgeted.map EvaluatedTarget.target).Sublist policy.targets := by
  rw [passed.budgeted, List.map_map]
  have kept : (stages.priced.map EvaluatedTarget.target).Sublist policy.targets := by
    rw [passed.priced_targets]
    exact List.filter_sublist
  exact (List.filter_sublist.map EvaluatedTarget.target).trans kept

theorem Passed.budgeted_priced :
    ∀ item ∈ stages.budgeted, Priced host config limits outlook policy item := by
  rw [passed.budgeted]
  intro item member
  obtain ⟨before, inside, rfl⟩ := List.mem_map.mp member
  obtain ⟨key, cost⟩ := passed.priced_priced before (List.mem_filter.mp inside).1
  exact ⟨key, cost⟩

theorem Passed.mem_priced (tolerant : 0 ≤ config.epsilonSuccess) {target : TargetCandidate} :
    target ∈ stages.priced.map EvaluatedTarget.target ↔
      target ∈ policy.targets ∧ SucceedsAt config policy target := by
  rw [passed.priced_targets, List.mem_filter, decide_eq_true_eq, passed.gate]
  exact and_congr_right fun listed => mem_gateSuccess tolerant listed

theorem Passed.withinBudget_iff {item : EvaluatedTarget} (member : item ∈ stages.priced) :
    withinBudget limits item = true ↔
      WithinBudget host config limits outlook policy item.target := by
  unfold withinBudget WithinBudget
  rw [(passed.priced_priced item member).cost]
  cases limits.costBudget <;> simp

/-- The budgeted items are those of the affordable targets. -/
theorem Passed.mem_budgeted (tolerant : 0 ≤ config.epsilonSuccess) {target : TargetCandidate} :
    target ∈ stages.budgeted.map EvaluatedTarget.target ↔
      Affordable host config limits outlook policy target := by
  constructor
  · intro member
    rw [passed.budgeted, List.map_map] at member
    obtain ⟨item, inside, rfl⟩ := List.mem_map.mp member
    obtain ⟨present, within⟩ := List.mem_filter.mp inside
    obtain ⟨listed, succeeds⟩ := (passed.mem_priced tolerant).mp (List.mem_map_of_mem present)
    exact ⟨listed, succeeds, (passed.withinBudget_iff present).mp within⟩
  · intro affordable
    obtain ⟨item, present, rfl⟩ := List.mem_map.mp
      ((passed.mem_priced tolerant).mpr ⟨affordable.listed, affordable.succeeds⟩)
    rw [passed.budgeted, List.map_map]
    exact List.mem_map.mpr ⟨item, List.mem_filter.mpr ⟨present,
      (passed.withinBudget_iff present).mpr affordable.within⟩, rfl⟩

section Distinct
variable (distinct : (policy.targets.map TargetCandidate.key).Nodup)
include distinct

theorem Passed.budgeted_keys : (stages.budgeted.map EvaluatedTarget.key).Nodup := by
  have keys : stages.budgeted.map EvaluatedTarget.key =
      (stages.budgeted.map EvaluatedTarget.target).map TargetCandidate.key := by
    rw [List.map_map]
    exact List.map_congr_left fun item member => (passed.budgeted_priced item member).key
  rw [keys]
  exact (passed.budgeted_targets_sublist.map TargetCandidate.key).nodup distinct

/-- Distinct keys time each item at its own target. -/
theorem Passed.timeTarget_target {item : EvaluatedTarget} (member : item ∈ stages.budgeted) :
    (timeTarget limits urgency stages.budgeted item).target = item.target := by
  unfold timeTarget
  rw [lastWith_of_nodup EvaluatedTarget.key (passed.budgeted_keys distinct) member]
  rfl

end Distinct

end Passed

/-- The items of a placement are the timed cost survivors in the order of the policy. -/
structure Survivors (host : Host) (config : SchedulerConfig) (limits : RequestLimits)
    (outlook : KvOutlook) (urgency : ℚ) (policy : Policy) (items : List EvaluatedTarget) : Prop where
  ordered : (items.map EvaluatedTarget.target).Sublist policy.targets
  mem_iff : ∀ target, target ∈ items.map EvaluatedTarget.target ↔
    CostSurvivor host config limits outlook policy target
  key : ∀ item ∈ items, item.key = item.target.key
  latency : ∀ item ∈ items, item.latency =
    (predictedLatency limits urgency item.target).predictedLatencySeconds
  present : items ≠ []

theorem targetCost_nonneg (target : TargetCandidate) :
    0 ≤ targetCost host config limits outlook policy target := le_max_left _ _

/-- The cost gate keeps the items near the cheapest affordable target. -/
theorem Passed.mem_costGate (passed : Passed host config limits outlook urgency policy stages)
    (tolerant : 0 ≤ config.epsilonSuccess) (frugal : 0 ≤ config.epsilonCost)
    {item : EvaluatedTarget} (member : item ∈ stages.budgeted) :
    item ∈ costGate stages.budgeted config.epsilonCost ↔
      CostSurvivor host config limits outlook policy item.target := by
  have affordable := (passed.mem_budgeted tolerant).mp (List.mem_map_of_mem member)
  unfold costGate
  rw [mem_survivors_argmin]
  have cost (other : EvaluatedTarget) (inside : other ∈ stages.budgeted) :=
    (passed.budgeted_priced other inside).cost
  constructor
  · rintro ⟨_, best, cheapest, near⟩
    refine ⟨affordable, fun other possible => ?_⟩
    obtain ⟨rival, inside, rfl⟩ := List.mem_map.mp ((passed.mem_budgeted tolerant).mpr possible)
    have below := argmin_le _ cheapest inside
    have bounded : item.effectiveCost ≤
        best.effectiveCost * (1 + max 0 config.epsilonCost) + 1 / 1000000000000 :=
      of_decide_eq_true near
    rw [max_eq_right frugal] at bounded
    rw [← cost item member, ← cost rival inside]
    have scaled := mul_le_mul_of_nonneg_right below (show 0 ≤ 1 + config.epsilonCost by linarith)
    linarith
  · rintro ⟨_, near⟩
    obtain ⟨best, inside, cheapest⟩ := argmin_of_ne_nil EvaluatedTarget.effectiveCost
      (List.ne_nil_of_mem member)
    refine ⟨member, best, cheapest, decide_eq_true ?_⟩
    have bounded := near best.target
      ((passed.mem_budgeted tolerant).mp (List.mem_map_of_mem inside))
    rw [max_eq_right frugal, cost item member, cost best inside]
    exact bounded

theorem Passed.costGate_ne_nil (passed : Passed host config limits outlook urgency policy stages)
    (present : stages.budgeted ≠ []) :
    costGate stages.budgeted config.epsilonCost ≠ [] := by
  refine survivors_argmin_ne_nil _ present fun item member => decide_eq_true ?_
  have nonneg : 0 ≤ item.effectiveCost := by
    rw [(passed.budgeted_priced item member).cost]
    exact targetCost_nonneg item.target
  have slack : 0 ≤ item.effectiveCost * max 0 config.epsilonCost :=
    mul_nonneg nonneg (le_max_left 0 _)
  linarith

/-- The timed items of a passed gate run are its cost survivors. -/
theorem Passed.survivors (passed : Passed host config limits outlook urgency policy stages)
    (present : stages.budgeted ≠ []) (distinct : (policy.targets.map TargetCandidate.key).Nodup)
    (tolerant : 0 ≤ config.epsilonSuccess) (frugal : 0 ≤ config.epsilonCost) :
    Survivors host config limits outlook urgency policy stages.timed := by
  have inside : costGate stages.budgeted config.epsilonCost ⊆ stages.budgeted :=
    (survivors_sublist _ _ _).subset
  have targets : stages.timed.map EvaluatedTarget.target =
      (costGate stages.budgeted config.epsilonCost).map EvaluatedTarget.target := by
    rw [passed.timed, List.map_map]
    exact List.map_congr_left fun item member => passed.timeTarget_target distinct (inside member)
  constructor
  · rw [targets]
    exact ((survivors_sublist _ _ _).map EvaluatedTarget.target).trans
      passed.budgeted_targets_sublist
  · intro target
    rw [targets]
    constructor
    · intro member
      obtain ⟨item, kept, rfl⟩ := List.mem_map.mp member
      exact (passed.mem_costGate tolerant frugal (inside kept)).mp kept
    · intro survives
      obtain ⟨item, present, rfl⟩ := List.mem_map.mp
        ((passed.mem_budgeted tolerant).mpr survives.affordable)
      exact List.mem_map_of_mem ((passed.mem_costGate tolerant frugal present).mpr survives)
  · rw [passed.timed]
    intro item member
    obtain ⟨before, kept, rfl⟩ := List.mem_map.mp member
    rw [passed.timeTarget_target distinct (inside kept)]
    exact (passed.budgeted_priced before (inside kept)).key
  · rw [passed.timed]
    intro item member
    obtain ⟨before, kept, rfl⟩ := List.mem_map.mp member
    rfl
  · rw [passed.timed]
    exact fun empty => passed.costGate_ne_nil present (List.map_eq_nil_iff.mp empty)

end Stages

end StateFlow.Scheduler
