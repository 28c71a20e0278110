import StateFlow.Construction.Prediction.Service
import StateFlow.Construction.Scheduler.Schedule

namespace StateFlow.Scheduler
open Python Table State

section Heuristic
variable (host : Host) (view : HarnessSchedulingView) (target : TargetCandidate)

/-- The profile of a target states its success, or its success in the phase of the view. -/
def profiledSuccess : Except Exception ℚ := do
  let predicted ← host.float (getD target.metadata "base_success" (.float target.baseSuccess))
  match getD target.metadata "success_by_phase" (.dict []) with
  | .dict phases =>
      match phases.lookup (← phaseText view.phase) with
      | some success => host.float success
      | none => return predicted
  | _ => return predicted

/-- A risk raises the success of a capable tier and lowers that of an efficient one. -/
def riskAdjustment (rank : Nat) (risk : ℚ) : ℚ :=
  if risk ≤ 0 then 0
  else if 2 ≤ rank then 4 / 100 * risk
  else if rank = 1 then 15 / 1000 * risk
  else -(10 / 100) * risk

/-- Exploration and planning favour the capable tiers. -/
def planningAdjustment (rank : Nat) : Except Exception ℚ := do
  let favour := 2 / 100 * min 1 ((rank : ℚ) / 2)
  if 65 / 100 < view.exploringScore then return favour
  let phase ← phaseText view.phase
  return if phase ∈ ["PLANNING", "REPLANNING"] then favour else 0

/-- A steady production favours the efficient tier, verification and truncation do not. -/
def efficientAdjustment (rank : Nat) : ℚ :=
  (if 65 / 100 < view.productionScore ∧ 55 / 100 < view.planStability ∧ rank = 0
    then 2 / 100 else 0)
  - (if 65 / 100 < view.verificationScore ∧ rank = 0 then 3 / 100 else 0)
  - (if 7 / 10 < view.truncationRisk ∧ rank = 0 then 5 / 100 * view.truncationRisk else 0)

/-- The metadata marks a target as out of the distribution. -/
def outOfDistribution : Bool := (getD target.metadata "out_of_distribution" .none).truthy

/-- The uncertainty of a profile grows with missing state, truncation, and novelty. -/
def profiledUncertainty : Except Exception ℚ := do
  let uncertainty ← host.float (getD target.metadata "uncertainty" (.float target.baseUncertainty))
  return uncertainty + 18 / 100 * (1 - clamp view.stateCompleteness)
    + 5 / 100 * clamp view.truncationRisk
    + if outOfDistribution target then 10 / 100 else 0

/-- `HeuristicSuccessPredictor.estimate` before its exception is named. -/
def heuristicEstimate : Except Exception SuccessEstimate := do
  let profiled ← profiledSuccess host view target
  let risk := max (max view.errorSeverity view.spinningScore) view.recoveryScore
  let rank := tierRank host target.tier
  let planned ← planningAdjustment view rank
  let predicted := profiled + riskAdjustment rank risk + planned + efficientAdjustment view rank
  let uncertainty := max 0 (min (1 / 2) (← profiledUncertainty host view target))
  return {
    predictedSuccess := clamp predicted
    uncertainty := uncertainty
    confidence := clamp (1 - uncertainty)
    predictorVersion := "heuristic-0.1"
    notes := ["heuristic_capability_profile"] }

end Heuristic

/-- The default predictor of the scheduler. -/
def heuristicPredictor (host : Host) : SuccessPredictor := fun view target =>
  (heuristicEstimate host view target).mapError Predictions.exceptionName

end StateFlow.Scheduler
