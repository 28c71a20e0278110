import Mathlib.Tactic.Linarith
import Mathlib.Tactic.Positivity
import StateFlow.Construction.Scheduler.Pricing
import StateFlow.Proof.Scheduler.Stages

namespace StateFlow.Scheduler
open Python Table State Binary64 Float64

section Budget
variable (host : Host) (limits : RequestLimits) (outlook : KvOutlook) (target : TargetCandidate)
  (estimate : SuccessEstimate) (config : SchedulerConfig)

/-- The expected cost of a retry. -/
def retryCost : ℚ := max 0 (1 - estimate.predictedSuccess) * max 0 target.fallbackPathCost

/-- The credit for the tokens that later turns reuse. -/
def futureCredit : ℚ :=
  let split := kvBreakdown limits target
  config.lambdaFuture * futureKvValue host outlook target config split.localTokens split.remoteTokens

/-- The effective cost adds the retry to the lower bound and takes the credit away. -/
theorem effectiveCost_eq :
    (effectiveCost host limits outlook target estimate config).effectiveCost =
      max 0 (costLowerBound limits target + retryCost target estimate
        - futureCredit host limits outlook target config) := by
  unfold effectiveCost costLowerBound retryCost futureCredit
  ring_nf

/-- The three parts of a prompt cover it once. -/
theorem kvBreakdown_parts :
    (kvBreakdown limits target).localTokens + (kvBreakdown limits target).remoteTokens +
        (kvBreakdown limits target).missTokens = max 0 limits.promptTokens ∧
      0 ≤ (kvBreakdown limits target).localTokens ∧
      0 ≤ (kvBreakdown limits target).remoteTokens ∧
      0 ≤ (kvBreakdown limits target).missTokens := by
  unfold kvBreakdown
  simp only
  split
  · omega
  · omega

/-- The hard filter names the budget exactly when the lower bound exceeds it. -/
theorem budget_rejected_iff : "hard_cost_budget_exceeded" ∈ rejectionReasons limits target ↔
    ∃ budget, limits.costBudget = some budget ∧ budget < costLowerBound limits target := by
  have other (names : String) :
      "hard_cost_budget_exceeded" ≠ "missing_capabilities:" ++ names := by
    intro same
    have front := congrArg (fun text => text.toList.head?) same
    simp [String.toList_append] at front
  simp only [rejectionReasons, List.mem_map, List.mem_filter, List.mem_cons, List.not_mem_nil,
    or_false, Prod.exists, exists_eq_right]
  simp [other, Option.any_eq_true]

end Budget

section Doubles
variable (exp : Float64 → Float64) (limits : RequestLimits) (target : TargetCandidate)
  (horizon : Horizon Float64) (predictedSuccess : Float64) (rates : Rates Float64)
  (config : CreditConfig Float64)

/-- The counts of a request with their prices -/
def pricedCounts : List (Int × Float64) :=
  let split := kvBreakdown limits target
  [(max 0 limits.promptTokens, rates.inputCostPerToken),
    (max 0 limits.predictedOutputTokens, rates.outputCostPerToken),
    (split.remoteTokens, rates.kvFetchCostPerToken),
    (split.missTokens, rates.kvRecomputeCostPerToken)]

/-- An infinite price without a count makes the sum of the charges `nan`. -/
def IdlePrice : Prop := (0, .infinite false) ∈ pricedCounts limits target rates

/-- No price of a target applies to a request. -/
structure FreeOfCharge : Prop where
  inference : ¬ 0 < rates.inferenceCost
  counts : ∀ item ∈ pricedCounts limits target rates, ¬ (0 < item.1 ∧ 0 < item.2)
  overhead : ¬ 0 < rates.routingOverheadCost

theorem tokenCharge_eq : tokenCharge limits target rates =
    ((pricedCounts limits target rates).map fun item => charge item.1 item.2).foldl (· + ·)
      (greatest 0 rates.inferenceCost) := rfl

variable {limits}

/-- The priced counts of a counted request have numbers. -/
theorem pricedCounts_counted (counted : CountedRequest limits) :
    ∀ item ∈ pricedCounts limits target rates, Counted item.1 ∧ 0 ≤ item.1 := by
  obtain ⟨parts, nonneg, remote, miss⟩ := kvBreakdown_parts limits target
  obtain ⟨prompt, output⟩ := counted
  have large : 0 < floatLimit := by decide
  simp only [pricedCounts, List.forall_mem_cons, List.not_mem_nil, false_implies, implies_true, and_true]
  unfold Counted
  omega

/-- The lower bound is a charge. It has no number for an idle price only, and it is positive when some
price applies. -/
theorem lowerBound_charge (counted : CountedRequest limits) :
    Charge (tokenCharge limits target rates) ∧
      (lowerBound limits target rates = nan ↔ IdlePrice limits target rates) ∧
      (¬ IdlePrice limits target rates →
        (0 < lowerBound limits target rates ↔ ¬ FreeOfCharge limits target rates)) := by
  have counts := pricedCounts_counted target rates counted
  have each : ∀ amount ∈ (pricedCounts limits target rates).map fun item => charge item.1 item.2,
      Charge amount := by
    intro amount member
    obtain ⟨item, inside, rfl⟩ := List.mem_map.mp member
    exact (charge_count (counts item inside).1 (counts item inside).2 item.2).1
  obtain ⟨sum, absent, positive⟩ := foldl_charges (greatest_nonneg rates.inferenceCost) each
  rw [← tokenCharge_eq] at sum absent positive
  have idle : nan ∈ ((pricedCounts limits target rates).map fun item => charge item.1 item.2) ↔
      IdlePrice limits target rates := by
    rw [List.mem_map]
    constructor
    · rintro ⟨item, inside, none⟩
      obtain ⟨zero, endless⟩ := (charge_count (counts item inside).1 (counts item inside).2 item.2).2.1.mp none
      rw [IdlePrice, ← zero, ← endless]
      exact inside
    · intro inside
      exact ⟨_, inside, (charge_count (counts _ inside).1 le_rfl _).2.1.mpr ⟨rfl, rfl⟩⟩
  have overhead := greatest_nonneg rates.routingOverheadCost
  rw [idle] at absent positive
  refine ⟨sum, ?_, fun busy => ?_⟩
  · rw [lowerBound, sum.add_eq_nan (.inr overhead), absent]
    exact or_iff_left (ne_nan_of_le overhead).2
  · rw [lowerBound, add_pos_iff (sum.nonneg (mt absent.mp busy)) overhead, positive busy,
      greatest_pos_iff, greatest_pos_iff]
    constructor
    · rintro ((priced | ⟨amount, member, priced⟩) | priced) free
      · exact free.inference priced
      · obtain ⟨item, inside, rfl⟩ := List.mem_map.mp member
        exact free.counts item inside
          ((charge_count (counts item inside).1 (counts item inside).2 item.2).2.2.mp priced)
      · exact free.overhead priced
    · intro charged
      by_contra none
      rw [not_or, not_or] at none
      refine charged ⟨none.1.1, fun item inside priced => none.1.2 ⟨_, List.mem_map_of_mem inside, ?_⟩, none.2⟩
      exact (charge_count (counts item inside).1 (counts item inside).2 item.2).2.2.mpr priced

/-- The full charge is at least the lower bound when it has a number. -/
theorem lowerBound_le_fullCharge (counted : CountedRequest limits)
    (present : fullCharge limits target predictedSuccess rates ≠ nan) :
    lowerBound limits target rates ≤ fullCharge limits target predictedSuccess rates := by
  have sum := (lowerBound_charge target rates counted).1
  have overhead := greatest_nonneg rates.routingOverheadCost
  have retry : Charge (retryCharge predictedSuccess rates) :=
    mul_charge (greatest_nonneg _) (greatest_nonneg _)
  have both := sum.add retry
  rw [fullCharge, ne_eq, both.add_eq_nan (.inr overhead), not_or, sum.add_eq_nan retry, not_or] at present
  obtain ⟨⟨charged, retried⟩, _⟩ := present
  exact add_mono (sum.nonneg charged) (le_add_right (sum.nonneg charged) (retry.nonneg retried))
    overhead (le_refl (ne_nan_of_le overhead).2)

variable (limits)

/-- The budget check never rejects a cost that reaches the lower bound. -/
theorem hardCostReasons_within {cost budget : Float64} {reasons : List String}
    (reached : ¬ cost < lowerBound limits target rates)
    (checked : hardCostReasons limits target rates budget = .ok reasons) (cheap : cost ≤ budget) :
    "hard_cost_budget_exceeded" ∉ reasons := by
  unfold hardCostReasons at checked
  split_ifs at checked with counted exceeds
  · exact absurd (lt_of_le_of_lt cheap exceeds) reached
  · cases checked
    exact List.not_mem_nil

end Doubles

/-- A request of some tokens with a budget of five. -/
def cachedLimits : RequestLimits where
  promptTokens := 100
  predictedOutputTokens := 0
  requiredCapabilities := []
  allowedModels := []
  allowedRegions := []
  allowedCacheDomains := []
  securityDomain := .str ""
  remoteKvAllowed := false
  costBudget := some 5

/-- The session continues with one more turn at once. -/
def cachedOutlook : KvOutlook := ⟨1, 1, 1, 0⟩

/-- A target holds the whole prompt in its cache. -/
def cachedTarget : TargetCandidate where
  modelId := "model"
  endpointId := "endpoint"
  replicaId := "replica"
  inferenceCost := 10
  kvRecomputeCostPerToken := 1
  localKvTokens := 100

/-- The numbers of the target as doubles -/
def cachedRates : Rates Float64 where
  inferenceCost := double 10
  inputCostPerToken := 0
  outputCostPerToken := 0
  kvFetchCostPerToken := 0
  kvRecomputeCostPerToken := 1
  fallbackPathCost := 0
  routingOverheadCost := 0
  remoteKvReuseFactor := double (1 / 2)

def cachedHorizon : Horizon Float64 := ⟨1, 1, 1, 0⟩

def plainCredit : CreditConfig Float64 := ⟨1, double 300⟩

/-- The doubles of a retry and of an equal credit leave less than the bound. -/
example :
    let rates := { cachedRates with inferenceCost := double (1 / 10), fallbackPathCost := double 5 }
    effectiveCharge (fun _ => 1) { cachedLimits with promptTokens := 5 } cachedTarget cachedHorizon 0
        rates plainCredit <
      lowerBound { cachedLimits with promptTokens := 5 } cachedTarget rates := by decide +kernel

end StateFlow.Scheduler
