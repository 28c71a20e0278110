import Mathlib.Algebra.Order.Ring.Rat
import Mathlib.Data.List.Sort
import Mathlib.Order.WithBot
import StateFlow.Library.Table
import StateFlow.Library.Value

namespace StateFlow.Adapters
open Python Table

structure PrometheusSample where
  name : String
  labels : List (String × String)
  value : ℚ
  deriving DecidableEq

structure PrometheusSnapshot where
  samples : List PrometheusSample

/-- The upper bounds of a histogram and the summed counts below them. -/
abbrev Buckets := List (WithTop ℚ × ℚ)

section Quantile
variable (float : String → Except Exception (WithTop ℚ))

/-- A label of a bucket is its upper bound. -/
def bucketBound (rawBound : String) : Except Exception (WithTop ℚ) :=
  if rawBound ∈ ["+Inf", "Inf"] then .ok ⊤ else float rawBound

/-- A sample of the histogram adds its value to its bucket. -/
def addBucket (baseName : String) (required : List (String × String)) (buckets : Buckets)
    (sample : PrometheusSample) : Except Exception Buckets :=
  if sample.name ≠ baseName ++ "_bucket" then .ok buckets
  else if !required.all fun label => sample.labels.lookup label.1 = some label.2 then .ok buckets
  else match sample.labels.lookup "le" with
    | none => .ok buckets
    | some rawBound => do
        let bound ← bucketBound float rawBound
        return assign bound (getD buckets bound 0 + sample.value) buckets

def sumBuckets (snapshot : PrometheusSnapshot) (baseName : String)
    (required : List (String × String)) : Except Exception Buckets :=
  snapshot.samples.foldlM (addBucket float baseName required) []

/-- The loop leaves at the first bucket whose count reaches the target. -/
def findQuantile (target previousBound previousCount : ℚ) : Buckets → ℚ
  | [] => previousBound
  | (bound, count) :: rest =>
      if count < target then findQuantile target (bound.untopD previousBound) count rest
      else if bound = ⊤ then previousBound
      else
        let upper := bound.untopD previousBound
        let bucketCount := count - previousCount
        if bucketCount ≤ 0 then upper
        else previousBound + (upper - previousBound) * ((target - previousCount) / bucketCount)

/-- The quantile of the summed buckets. -/
def quantileOf (quantile : ℚ) (buckets : Buckets) : Option ℚ :=
  let ordered := buckets.insertionSort fun first second => first.1 ≤ second.1
  match ordered.getLast? with
  | none => none
  | some (_, total) =>
      if total ≤ 0 then some 0 else some (findQuantile (total * quantile) 0 0 ordered)

/-- `histogram_quantile` interpolates inside the bucket of the rank. -/
def histogramQuantile (snapshot : PrometheusSnapshot) (baseName : String) (quantile : ℚ)
    (labels : List (String × String)) : Except Exception (Option ℚ) :=
  if ¬ (0 ≤ quantile ∧ quantile ≤ 1) then .error .valueError
  else do
    let buckets ← sumBuckets float snapshot baseName labels
    return quantileOf quantile buckets

end Quantile

end StateFlow.Adapters
