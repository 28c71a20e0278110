import Mathlib.Data.List.MinMax
import StateFlow.Construction.Plane.Snapshot
import StateFlow.Library.Float64
import StateFlow.Library.Grouping
import StateFlow.Library.Ranking

namespace StateFlow.Plane
open Python Effect Grouping Ranking Binary64

/-- The arguments of `query_metrics`. -/
structure MetricQuery where
  entityRefs : List String := []
  keys : List String := []
  start : Option Int := none
  stop : Option Int := none

/-- `query_metrics` keeps the stored order. -/
def queryMetrics (plane : InMemoryStatePlane) (query : MetricQuery) : List MetricSample :=
  plane.metrics.filter fun sample =>
    (query.entityRefs = [] || sample.entityRef ∈ query.entityRefs) &&
    (query.keys = [] || query.keys.any fun pattern => fnmatchcase sample.metricKey pattern) &&
    query.start.all (· ≤ sample.timestamp) && query.stop.all (sample.timestamp ≤ ·)

/-- The float of a value -/
def floatOf : Value → Option Float64
  | .int value => some (double value)
  | .float value => some (double value)
  | .object "float" [("value", .str "inf")] => some (.infinite false)
  | .object "float" [("value", .str "-inf")] => some (.infinite true)
  | .object "float" [("value", .str "nan")] => some .nan
  | _ => none

/-- A queried sample carries the number of its value. It is not `nan`. -/
structure NumericSample where
  sample : MetricSample
  number : Float64.Number
  numeric : floatOf sample.value = some number.value

/-- A group of samples shares its entity, its key, and its unit. -/
abbrev MetricKey := String × String × String

def NumericSample.key (item : NumericSample) : MetricKey :=
  (item.sample.entityRef, item.sample.metricKey, item.sample.unit)

/-- An aggregated value is a float or a count. -/
inductive Aggregated where
  | float (value : Float64)
  | count (value : ℕ)
  deriving DecidableEq

/-- One value of a response. -/
structure MetricValue where
  entityRef : String
  metricKey : String
  unit : String
  aggregation : String
  value : Aggregated
  sampleCount : ℕ
  deriving DecidableEq

inductive MetricResponse where
  | raw (samples : List MetricSample)
  | values (aggregation : String) (values : List MetricValue)

def supportedAggregations : List String := ["avg", "max", "min", "sum", "count", "last", "p95"]

/-- The index of the percentile in the sorted numbers. -/
def percentileIndex (count : ℕ) : ℕ :=
  (max 0 (min ((count : Int) - 1) ((95 * count + 99) / 100 - 1))).toNat

/-- The first of the latest samples. -/
def newest (items : List NumericSample) : Option NumericSample :=
  @List.argmax _ _ Int.instLinearOrder.toPreorder inferInstance
    (fun item => item.sample.timestamp) items

section Response
variable (sum : List Float64 → Float64)

/-- The value of a group. A group is never empty. The version of the language decides the rounding of
its `sum`. -/
def aggregate (aggregation : String) (items : List NumericSample) : Aggregated :=
  let numbers := ascending (items.map NumericSample.number)
  let value (number : Option Float64.Number) : Aggregated :=
    .float ((number.map Float64.Number.value).getD 0)
  if aggregation = "avg" then
    .float (sum (numbers.map Float64.Number.value) / ((numbers.length : Int) : Float64))
  else if aggregation = "max" then value numbers.max?
  else if aggregation = "min" then value numbers.min?
  else if aggregation = "sum" then .float (sum (numbers.map Float64.Number.value))
  else if aggregation = "count" then .count numbers.length
  else if aggregation = "last" then value ((newest items).map NumericSample.number)
  else value numbers[percentileIndex numbers.length]?

def metricValue (aggregation : String) (entry : MetricKey × List NumericSample) : MetricValue where
  entityRef := entry.1.1
  metricKey := entry.1.2.1
  unit := entry.1.2.2
  aggregation := aggregation
  value := aggregate sum aggregation entry.2
  sampleCount := entry.2.length

/-- `_metric_response` groups the samples and aggregates each group. -/
def metricResponse (samples : List NumericSample) (aggregation : String) :
    Except Exception MetricResponse :=
  if aggregation = "raw" then .ok (.raw (samples.map NumericSample.sample))
  else if aggregation ∉ supportedAggregations then .error .valueError
  else
    let grouped := gather NumericSample.key samples
    let ordered := grouped.insertionSort fun first second => tripleLe first.1 second.1
    .ok (.values aggregation (ordered.map (metricValue sum aggregation)))

end Response

end StateFlow.Plane
