import StateFlow.Construction.Scheduler.Cost

namespace StateFlow.Scheduler
open Python Table State

/-- The least cost that a request can have at a target. -/
def costLowerBound (limits : RequestLimits) (target : TargetCandidate) : ℚ :=
  let split := kvBreakdown limits target
  inferenceCost limits target
    + split.remoteTokens * max 0 target.kvFetchCostPerToken
    + split.missTokens * max 0 target.kvRecomputeCostPerToken
    + max 0 target.routingOverheadCost

/-- The required capabilities that a target lacks, in alphabetical order. -/
def missingCapabilities (limits : RequestLimits) (target : TargetCandidate) : List String :=
  (limits.requiredCapabilities.dedup.filter fun name => name ∉ target.capabilities).insertionSort
    (· ≤ ·)

/-- A nonempty set of allowed values has to contain the value. -/
def forbidden (allowed : List Value) (value : String) : Bool :=
  !allowed.isEmpty && !(Value.str value).mem allowed

/-- The reasons of the hard filter in the order of its checks. -/
def rejectionReasons (limits : RequestLimits) (target : TargetCandidate) : List String :=
  let requiredTokens := max 0 limits.promptTokens + max 0 limits.predictedOutputTokens
  let missing := missingCapabilities limits target
  let checks : List (Bool × String) :=
    [(!target.available, "endpoint_unavailable"), (!target.healthy, "endpoint_unhealthy"),
      (!target.compatible, "adapter_tokenizer_or_revision_incompatible"),
      (decide (target.contextWindowTokens < requiredTokens), "context_window_exceeded"),
      (!missing.isEmpty, "missing_capabilities:" ++ String.intercalate "," missing),
      (forbidden limits.allowedModels target.modelId, "model_not_allowed"),
      (forbidden limits.allowedRegions target.region, "region_not_allowed"),
      (forbidden limits.allowedCacheDomains target.cacheDomain, "cache_domain_not_allowed"),
      (limits.securityDomain.truthy && !(Value.str target.securityDomain).eq limits.securityDomain,
        "security_domain_mismatch"),
      ((getD target.metadata "requires_remote_kv" .none).truthy && !limits.remoteKvAllowed,
        "remote_kv_required_but_forbidden"),
      (limits.costBudget.any fun budget => decide (budget < costLowerBound limits target),
        "hard_cost_budget_exceeded")]
  (checks.filter Prod.fst).map Prod.snd

def passesFilter (limits : RequestLimits) (target : TargetCandidate) : Bool :=
  (rejectionReasons limits target).isEmpty

/-- The hard filter splits the targets before any score. -/
def filterTargets (limits : RequestLimits) (targets : List TargetCandidate) : FilterResult :=
  { eligible := targets.filter (passesFilter limits)
    rejected := (targets.filter fun target => !passesFilter limits target).map fun target =>
      target.reject (rejectionReasons limits target) }

/-- The active overrides with their reasons. -/
structure CriticalOverride where
  active : Bool
  reasons : List String

def criticalOverride (risks : RiskSignals) (config : SchedulerConfig) : CriticalOverride :=
  let checks : List (Bool × String) :=
    [(risks.criticalError, "critical_error"),
      (decide (config.errorSeverityOverride ≤ risks.errorSeverity), "high_error_severity"),
      (decide (config.failureStreakOverride ≤ risks.failureStreak), "failure_streak"),
      (decide (config.failureStreakOverride ≤ risks.consecutiveFailures), "consecutive_failures"),
      (decide (config.spinningScoreOverride ≤ risks.spinningScore), "spinning"),
      (decide (config.errorSeverityOverride ≤ risks.recoveryScore), "recovery_or_replanning"),
      (risks.contextCompactionNeeded, "context_compaction"),
      (risks.criticalStep, "critical_path_step"),
      (risks.securitySensitive, "security_sensitive"),
      (decide (risks.phase ∈ ["REPLANNING", "BLOCKED"]), "replanning_or_blocked"),
      (decide (risks.stateCompleteness < config.minStateCompletenessForDowngrade),
        "state_unknown_safe_fallback")]
  let reasons := (checks.filter Prod.fst).map Prod.snd
  ⟨!reasons.isEmpty, reasons⟩

/-- These tiers count as capable. -/
def capableTiers : List String := ["capable", "frontier", "strong", "premium"]

/-- A target of another tier is capable by its rank, which has to convert to an integer. -/
def isCapable (host : Host) (target : TargetCandidate) : Except Exception Bool :=
  if host.lower target.tier ∈ capableTiers then .ok true
  else do return 2 ≤ (← host.int (getD target.metadata "capability_rank" (.int 0)))

def capableTargets (host : Host) : List TargetCandidate → Except Exception (List TargetCandidate)
  | [] => .ok []
  | target :: rest => do
      let capable ← isCapable host target
      let others ← capableTargets host rest
      return if capable then target :: others else others

/-- The capable targets replace the list when there is one. -/
def capableOnly (host : Host) (targets : List TargetCandidate) :
    Except Exception (List TargetCandidate) := do
  let capable ← capableTargets host targets
  return if capable.isEmpty then targets else capable

end StateFlow.Scheduler
