import Mathlib.Data.Prod.Lex
import Mathlib.Data.String.Basic
import StateFlow.Library.Selection
import StateFlow.Construction.Scheduler.Filter

namespace StateFlow.Scheduler
open Python Table State Selection

/-- The slot is the position in the evaluated list. It identifies a trace entry. -/
structure EvaluatedTarget where
  slot : Nat
  target : TargetCandidate
  evaluation : CandidateEvaluation
  estimate : SuccessEstimate

def EvaluatedTarget.effectiveCost (item : EvaluatedTarget) : ℚ := item.evaluation.effectiveCost

def EvaluatedTarget.latency (item : EvaluatedTarget) : ℚ := item.evaluation.predictedLatencySeconds

/-- The models that survive the success gate. -/
structure SuccessGateResult where
  modelIds : List String
  bestLcb : ℚ
  fallback : Bool

/-- Replicas of a model share the greatest bound among them. -/
def boundByModel (evaluations : List CandidateEvaluation) : List (String × ℚ) :=
  evaluations.foldl (fun table item =>
    assign item.modelId (max (getD table item.modelId 0) item.successLcb) table) []

/-- The best bounds above the floor survive. Without one the best models are a fallback. -/
def successGate (evaluations : List CandidateEvaluation) (sMin epsilonSuccess : ℚ) :
    SuccessGateResult :=
  let byModel := boundByModel evaluations
  match byModel.argmax Prod.snd with
  | none => ⟨[], 0, true⟩
  | some best =>
      let margin := max 0 epsilonSuccess
      let accepted := byModel.filter fun entry =>
        decide (sMin ≤ entry.2) && decide (best.2 - margin ≤ entry.2)
      if accepted.isEmpty then
        let nearest := byModel.filter fun entry =>
          decide (best.2 - 1 / 1000000000000 ≤ entry.2)
        ⟨nearest.map Prod.fst, best.2, true⟩
      else ⟨accepted.map Prod.fst, best.2, false⟩

/-- A cost stays within the tolerance of the cheapest cost. -/
def withinCost (epsilonCost : ℚ) (cheapest item : EvaluatedTarget) : Bool :=
  decide (item.effectiveCost ≤
    cheapest.effectiveCost * (1 + max 0 epsilonCost) + 1 / 1000000000000)

def costGate (items : List EvaluatedTarget) (epsilonCost : ℚ) : List EvaluatedTarget :=
  survivors (items.argmin EvaluatedTarget.effectiveCost) (withinCost epsilonCost) items

/-- A placement names the chosen candidate and its reason. -/
structure PlacementResult where
  chosen : EvaluatedTarget
  reason : String

/-- A candidate is local when it matches a preference of the session. -/
def isLocal (place : SessionPlace) (target : TargetCandidate) : Bool :=
  (place.preferredReplica.truthy && (Value.str target.replicaId).eq place.preferredReplica)
  || (place.preferredEndpoint.truthy && (Value.str target.endpointId).eq place.preferredEndpoint)
  || match getD target.metadata "session_local" .none with
    | .bool flag => flag
    | _ => false

/-- A first turn prefers idle replicas. The remaining parts of the key break ties. -/
def firstTurnKey (item : EvaluatedTarget) : ℚ ×ₗ ℚ ×ₗ ℚ ×ₗ String ×ₗ String :=
  toLex (-item.target.loadBalanceScore, toLex (item.latency,
    toLex (-(item.evaluation.localKvTokens : ℚ),
      toLex (item.target.endpointId, item.target.replicaId))))

/-- The first candidate with the least latency. -/
def fastest (candidates : List EvaluatedTarget) : Option EvaluatedTarget :=
  candidates.argmin EvaluatedTarget.latency

/-- A local candidate stays unless moving pays for its penalty. -/
def stayOrMove (penalty : ℚ) (candidates : List EvaluatedTarget) :
    Option EvaluatedTarget → Option EvaluatedTarget → Option PlacementResult
  | some localBest, some remoteBest =>
      if localBest.latency ≤ remoteBest.latency + max 0 penalty then
        some ⟨localBest, "KV_AFFINITY"⟩
      else some ⟨remoteBest, "LATENCY_TIEBREAK"⟩
  | some localBest, none => some ⟨localBest, "KV_AFFINITY"⟩
  | none, _ => (fastest candidates).map fun best => ⟨best, "LATENCY_TIEBREAK"⟩

/-- The placement of a first turn. -/
def firstPlacement (candidates : List EvaluatedTarget) : Option PlacementResult := do
  let best ← candidates.argmin firstTurnKey
  let latencyBest ← fastest candidates
  return ⟨best, if best.slot = latencyBest.slot then "LATENCY_TIEBREAK" else "LOAD_BALANCE"⟩

/-- `choose_placement` has no result for an empty list. -/
def choosePlacement (place : SessionPlace) (candidates : List EvaluatedTarget) :
    Option PlacementResult :=
  if place.sessionTurn ≤ 0 then firstPlacement candidates
  else
    let near := candidates.filter fun item => isLocal place item.target
    let far := candidates.filter fun item => !isLocal place item.target
    stayOrMove place.migrationPenalty candidates (fastest near) (fastest far)

end StateFlow.Scheduler
