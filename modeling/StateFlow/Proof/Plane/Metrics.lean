import StateFlow.Construction.Plane.Metrics
import StateFlow.Library.Selection
import StateFlow.Proof.Plane.Graph

namespace StateFlow.Plane
open Python Grouping Ranking Binary64

/-- Every stored metric has a float. -/
def NumericMetrics (plane : InMemoryStatePlane) : Prop :=
  ∀ sample ∈ plane.metrics, ∃ number : ℚ, floatOf sample.value = some (double number)

/-- A published metric is stored with its float. -/
theorem publishMetrics_numeric (config : PlaneConfig) (samples : List MetricSample) :
    Effect.Within (Effect.Frame.keeps NumericMetrics) (publishMetrics config samples) := by
  apply Effect.within_mapM
  intro sample _ plane numeric
  rcases publishMetric_cases config sample plane with
    ⟨_, ran, _⟩ | ⟨definition, value, _, ran, _⟩
  · rw [ran]
    exact numeric
  · rw [ran]
    intro stored member
    rcases List.mem_append.mp (List.mem_of_mem_drop member) with earlier | added
    · exact numeric stored earlier
    · rw [List.mem_singleton.mp added]
      exact ⟨value, rfl⟩

/-- A query of stored metrics gives samples with numbers. -/
theorem queryMetrics_numeric {plane : InMemoryStatePlane} (numeric : NumericMetrics plane)
    (query : MetricQuery) :
    ∃ samples : List NumericSample, samples.map NumericSample.sample = queryMetrics plane query := by
  have known : ∀ sample ∈ queryMetrics plane query,
      ∃ number : ℚ, floatOf sample.value = some (double number) :=
    fun sample member => numeric sample (List.mem_of_mem_filter member)
  generalize queryMetrics plane query = queried at known
  induction queried with
  | nil => exact ⟨[], rfl⟩
  | cons sample rest ih =>
      obtain ⟨number, shown⟩ := known sample List.mem_cons_self
      obtain ⟨samples, same⟩ := ih fun other member => known other (List.mem_cons_of_mem _ member)
      exact ⟨⟨sample, ⟨double number, Float64.double_ne_nan number⟩, shown⟩ :: samples,
        by rw [List.map_cons, same]⟩

section Aggregate
variable {sum : List Float64 → Float64} {items others : List NumericSample}

/-- The numbers of some items. -/
def numbersOf (items : List NumericSample) : List Float64.Number := items.map NumericSample.number

/-- The floats of some items in ascending order -/
def floatsOf (items : List NumericSample) : List Float64 :=
  (ascending (numbersOf items)).map Float64.Number.value

/-- Samples of one time have one number. -/
def Separated (items : List NumericSample) : Prop :=
  ∀ first ∈ items, ∀ second ∈ items, first.key = second.key →
    first.sample.timestamp = second.sample.timestamp → first.number = second.number

/-- The last number does not depend on the order of separated samples. -/
theorem last_perm (separated : ∀ first ∈ items, ∀ second ∈ items,
      first.sample.timestamp = second.sample.timestamp → first.number = second.number)
    (same : items.Perm others) :
    (newest items).map NumericSample.number = (newest others).map NumericSample.number := by
  cases latest : newest items with
  | none =>
      have empty := List.argmax_eq_none.mp latest
      rw [empty] at same
      rw [← same.nil_eq]
      rfl
  | some first =>
      have firstIn := Selection.argmax_mem _ latest
      obtain ⟨second, secondIn, found⟩ := Selection.argmax_of_ne_nil
        (fun item : NumericSample => item.sample.timestamp)
        (List.ne_nil_of_mem (same.mem_iff.mp firstIn))
      have below := Selection.le_argmax _ latest (same.mem_iff.mpr secondIn)
      have above := Selection.le_argmax _ found (same.mem_iff.mp firstIn)
      have other : newest others = some second := found
      rw [other, Option.map_some, Option.map_some,
        separated first firstIn second (same.mem_iff.mpr secondIn) (le_antisymm above below)]

/-- Each aggregation except the last one depends on the numbers alone. -/
theorem aggregate_perm {aggregation : String} (same : items.Perm others)
    (separated : aggregation = "last" → ∀ first ∈ items, ∀ second ∈ items,
      first.sample.timestamp = second.sample.timestamp → first.number = second.number) :
    aggregate sum aggregation items = aggregate sum aggregation others := by
  have numbers := ascending_congr (same.map NumericSample.number)
  unfold aggregate
  rw [numbers]
  by_cases last : aggregation = "last"
  · rw [last_perm (separated last) same]
  · simp only [last, if_false]

theorem ascending_ne_nil (present : items ≠ []) : ascending (numbersOf items) ≠ [] := by
  rw [← List.length_pos_iff, length_ascending, numbersOf, List.length_map]
  exact List.length_pos_iff.mpr present

/-- The least number of a group is one of its numbers and at most each of them. -/
theorem aggregate_min (present : items ≠ []) :
    ∃ least ∈ numbersOf items, aggregate sum "min" items = .float least.value ∧
      ∀ number ∈ numbersOf items, least ≤ number := by
  have filled := ascending_ne_nil present
  have found := List.min?_eq_some_min filled
  have least := List.min?_eq_some_iff.mp found
  refine ⟨(ascending (numbersOf items)).min filled, (ascending_perm _).mem_iff.mp least.1, ?_,
    fun number member => least.2 number ((ascending_perm _).mem_iff.mpr member)⟩
  change Aggregated.float (((ascending (numbersOf items)).min?.map Float64.Number.value).getD 0) = _
  rw [found, Option.map_some, Option.getD_some]

theorem aggregate_max (present : items ≠ []) :
    ∃ most ∈ numbersOf items, aggregate sum "max" items = .float most.value ∧
      ∀ number ∈ numbersOf items, number ≤ most := by
  have filled := ascending_ne_nil present
  have found := List.max?_eq_some_max filled
  have most := List.max?_eq_some_iff.mp found
  refine ⟨(ascending (numbersOf items)).max filled, (ascending_perm _).mem_iff.mp most.1, ?_,
    fun number member => most.2 number ((ascending_perm _).mem_iff.mpr member)⟩
  change Aggregated.float (((ascending (numbersOf items)).max?.map Float64.Number.value).getD 0) = _
  rw [found, Option.map_some, Option.getD_some]

/-- The percentile of a group by its rank in the sorted numbers. -/
theorem aggregate_p95 (present : items ≠ []) :
    ∃ number ∈ numbersOf items, aggregate sum "p95" items = .float number.value ∧
      95 * items.length ≤ 100 * (numbersOf items).countP (· ≤ number) ∧
      100 * (numbersOf items).countP (· < number) < 95 * items.length := by
  have some : 0 < items.length := List.length_pos_iff.mpr present
  have counted : (ascending (numbersOf items)).length = items.length := by
    rw [length_ascending, numbersOf, List.length_map]
  have rank : (percentileIndex items.length : Int) = (95 * items.length + 99) / 100 - 1 := by
    unfold percentileIndex
    omega
  have inside : percentileIndex items.length < (ascending (numbersOf items)).length := by
    omega
  have below := rank_le_count (ascending_sorted (numbersOf items)) inside
  have above := count_lt_le_rank (ascending_sorted (numbersOf items)) inside
  rw [(ascending_perm _).countP_eq] at below above
  refine ⟨(ascending (numbersOf items))[percentileIndex items.length],
    (ascending_perm _).mem_iff.mp (List.getElem_mem inside), ?_, by omega, by omega⟩
  change Aggregated.float (((ascending (numbersOf items))[percentileIndex
    (ascending (numbersOf items)).length]?.map Float64.Number.value).getD 0) = _
  rw [counted, List.getElem?_eq_getElem inside, Option.map_some, Option.getD_some]

/-- The last number is the one of a latest sample. -/
theorem aggregate_last (present : items ≠ []) :
    ∃ item ∈ items, aggregate sum "last" items = .float item.number.value ∧
      ∀ other ∈ items, other.sample.timestamp ≤ item.sample.timestamp := by
  obtain ⟨item, inside, found⟩ := Selection.argmax_of_ne_nil
    (fun item : NumericSample => item.sample.timestamp) present
  have highest := fun other member => Selection.le_argmax (fun item : NumericSample =>
    item.sample.timestamp) found (show other ∈ items from member)
  refine ⟨item, inside, ?_, highest⟩
  have latest : newest items = some item := found
  change Aggregated.float ((((newest items).map NumericSample.number).map Float64.Number.value).getD 0) = _
  rw [latest, Option.map_some, Option.map_some, Option.getD_some]

theorem aggregate_avg (items : List NumericSample) :
    aggregate sum "avg" items = .float (sum (floatsOf items) / ((items.length : Int) : Float64)) := by
  change Aggregated.float (_ / (((ascending (numbersOf items)).length : Int) : Float64)) = _
  rw [length_ascending, numbersOf, List.length_map]
  rfl

/-- One float is at most another one. -/
def Aggregated.AtMost (first second : Aggregated) : Prop :=
  ∃ x y, first = .float x ∧ second = .float y ∧ x ≤ y

/-- The sum of a group lies between the multiples of its least and of its greatest number. Its rounding
can leave them. -/
def SumInside (sum : List Float64 → Float64) (items : List NumericSample) : Prop :=
  ∃ total count least most : Finite,
    sum (floatsOf items) = .finite total ∧ ((items.length : Int) : Float64) = .finite count ∧
    aggregate sum "min" items = .float (.finite least) ∧
    aggregate sum "max" items = .float (.finite most) ∧
    count.value * least.value ≤ total.value ∧ total.value ≤ count.value * most.value

/-- The percentile lies between the least and the greatest number, and so does the mean of a sum
between their multiples. -/
theorem aggregate_between (present : items ≠ []) {aggregation : String}
    (central : aggregation = "p95" ∨ aggregation = "avg" ∧ SumInside sum items) :
    (aggregate sum "min" items).AtMost (aggregate sum aggregation items) ∧
      (aggregate sum aggregation items).AtMost (aggregate sum "max" items) := by
  rcases central with rfl | ⟨rfl, inside⟩
  · obtain ⟨least, _, low, below⟩ := @aggregate_min sum items present
    obtain ⟨most, _, high, above⟩ := @aggregate_max sum items present
    obtain ⟨number, member, known, _⟩ := @aggregate_p95 sum items present
    exact ⟨⟨_, _, low, known, Float64.Number.le_iff.mp (below number member)⟩,
      ⟨_, _, known, high, Float64.Number.le_iff.mp (above number member)⟩⟩
  · obtain ⟨total, count, least, most, summed, counted, low, high, floor, ceiling⟩ := inside
    have positive : 0 < count.value := by
      have length : (0 : Int) < items.length := by exact_mod_cast List.length_pos_iff.mpr present
      rcases Float64.positive_count length with ⟨number, same, one⟩ | same
      · cases counted.symm.trans same
        linarith
      · cases counted.symm.trans same
    obtain ⟨below, above⟩ := Float64.div_between positive floor ceiling
    have mean := @aggregate_avg sum items
    rw [summed, counted] at mean
    exact ⟨⟨_, _, low, mean, below⟩, ⟨_, _, mean, high, above⟩⟩

end Aggregate

section Response
variable (sum : List Float64 → Float64) (samples : List NumericSample)

/-- The keys of the samples in order. -/
def metricKeys : List MetricKey :=
  ((gather NumericSample.key samples).map Prod.fst).insertionSort fun first second =>
    tripleLe first second

theorem mem_metricKeys {key : MetricKey} :
    key ∈ metricKeys samples ↔ key ∈ samples.map NumericSample.key :=
  (List.mem_insertionSort _).trans mem_gather_keys

theorem metricKeys_nodup : (metricKeys samples).Nodup :=
  (List.perm_insertionSort _ _).nodup_iff.mpr (gather_keys_nodup _ _)

/-- The group of each key is not empty. -/
theorem group_ne_nil {key : MetricKey} (member : key ∈ metricKeys samples) :
    group NumericSample.key key samples ≠ [] := by
  obtain ⟨item, inside, same⟩ := List.mem_map.mp ((mem_metricKeys samples).mp member)
  exact List.ne_nil_of_mem (mem_group.mpr ⟨inside, same⟩)

/-- The sorted entries are the groups of the sorted keys. -/
theorem sorted_groups :
    ((gather NumericSample.key samples).insertionSort fun first second =>
        tripleLe first.1 second.1)
      = (metricKeys samples).map fun key => (key, group NumericSample.key key samples) := by
  have moved := List.map_insertionSort
    (fun first second : MetricKey => tripleLe first second = true)
    (fun first second : MetricKey × List NumericSample => tripleLe first.1 second.1 = true)
    (fun key => (key, group NumericSample.key key samples))
    ((gather NumericSample.key samples).map Prod.fst) fun _ _ _ _ => Iff.rfl
  rw [← gather_eq] at moved
  exact moved.symm

/-- A supported response has one value for each key. -/
theorem metricResponse_values {aggregation : String}
    (supported : aggregation ∈ supportedAggregations) :
    metricResponse sum samples aggregation = .ok (.values aggregation ((metricKeys samples).map
      fun key => metricValue sum aggregation (key, group NumericSample.key key samples))) := by
  have cooked : aggregation ≠ "raw" := by
    rintro rfl
    exact absurd supported (by decide)
  unfold metricResponse
  rw [if_neg cooked, if_neg (not_not.mpr supported)]
  simp only
  rw [sorted_groups, List.map_map]
  rfl

/-- The sorted keys do not depend on the order of the samples. -/
theorem metricKeys_perm {others : List NumericSample} (same : samples.Perm others) :
    metricKeys samples = metricKeys others := by
  have keys : ((gather NumericSample.key samples).map Prod.fst).Perm
      ((gather NumericSample.key others).map Prod.fst) := by
    refine (List.perm_ext_iff_of_nodup (gather_keys_nodup _ _) (gather_keys_nodup _ _)).mpr ?_
    intro key
    rw [mem_gather_keys, mem_gather_keys, (same.map _).mem_iff]
  have ordered : ∀ table : List MetricKey,
      (table.insertionSort fun first second => tripleLe first second).map tripleOrder
        = ascending (table.map tripleOrder) := fun table =>
    List.map_insertionSort (fun first second : MetricKey => tripleLe first second = true) (· ≤ ·)
      tripleOrder table fun _ _ _ _ => tripleLe_iff
  apply List.map_injective_iff.mpr tripleOrder_injective
  calc (metricKeys samples).map tripleOrder
      = ascending (((gather NumericSample.key samples).map Prod.fst).map tripleOrder) := ordered _
    _ = ascending (((gather NumericSample.key others).map Prod.fst).map tripleOrder) :=
        ascending_congr (keys.map tripleOrder)
    _ = (metricKeys others).map tripleOrder := (ordered _).symm

end Response

def MetricValue.key (answer : MetricValue) : MetricKey :=
  (answer.entityRef, answer.metricKey, answer.unit)

/-- The answers to some samples stand for their groups. -/
structure MetricGroups (sum : List Float64 → Float64) (samples : List NumericSample)
    (aggregation : String) (answers : List MetricValue) : Prop where
  distinct : (answers.map MetricValue.key).Nodup
  partition : (answers.flatMap fun answer => group NumericSample.key answer.key samples).Perm samples
  counts : ∀ answer ∈ answers, 0 < answer.sampleCount ∧
    answer.sampleCount = (group NumericSample.key answer.key samples).length
  total : (answers.map MetricValue.sampleCount).sum = samples.length
  percentile : aggregation = "p95" → ∀ answer ∈ answers,
    ∃ number ∈ numbersOf (group NumericSample.key answer.key samples),
      answer.value = .float number.value ∧
      95 * answer.sampleCount ≤ 100 *
        (numbersOf (group NumericSample.key answer.key samples)).countP (· ≤ number) ∧
      100 * (numbersOf (group NumericSample.key answer.key samples)).countP (· < number)
        < 95 * answer.sampleCount
  least : aggregation = "min" → ∀ answer ∈ answers,
    ∃ number ∈ numbersOf (group NumericSample.key answer.key samples),
      answer.value = .float number.value ∧
      ∀ other ∈ numbersOf (group NumericSample.key answer.key samples), number ≤ other
  greatest : aggregation = "max" → ∀ answer ∈ answers,
    ∃ number ∈ numbersOf (group NumericSample.key answer.key samples),
      answer.value = .float number.value ∧
      ∀ other ∈ numbersOf (group NumericSample.key answer.key samples), other ≤ number
  last : aggregation = "last" → ∀ answer ∈ answers,
    ∃ item ∈ group NumericSample.key answer.key samples, answer.value = .float item.number.value ∧
      ∀ other ∈ group NumericSample.key answer.key samples,
        other.sample.timestamp ≤ item.sample.timestamp
  average : aggregation = "avg" → ∀ answer ∈ answers,
    answer.value = .float (sum (floatsOf (group NumericSample.key answer.key samples)) /
      ((answer.sampleCount : Int) : Float64))
  summed : aggregation = "sum" → ∀ answer ∈ answers,
    answer.value = .float (sum (floatsOf (group NumericSample.key answer.key samples)))
  counted : aggregation = "count" → ∀ answer ∈ answers, answer.value = .count answer.sampleCount

/-- Each percentile, and each mean of a sum inside of its range, lies between the answers of its key to
the least and the greatest number. -/
structure MetricBounds (sum : List Float64 → Float64) (samples : List NumericSample)
    (aggregation : String) (lows answers highs : List MetricValue) : Prop where
  keys : lows.map MetricValue.key = answers.map MetricValue.key ∧
    highs.map MetricValue.key = answers.map MetricValue.key
  between : ∀ low ∈ lows, ∀ answer ∈ answers, ∀ high ∈ highs, low.key = answer.key →
    high.key = answer.key →
    aggregation = "p95" ∨
      aggregation = "avg" ∧ SumInside sum (group NumericSample.key answer.key samples) →
    low.value.AtMost answer.value ∧ answer.value.AtMost high.value

section Groups
variable {sum : List Float64 → Float64} {samples : List NumericSample} {aggregation : String}

/-- The answer of one key. -/
def answerOf (sum : List Float64 → Float64) (samples : List NumericSample) (aggregation : String)
    (key : MetricKey) : MetricValue :=
  metricValue sum aggregation (key, group NumericSample.key key samples)

theorem covered_keys (samples : List NumericSample) :
    ∀ item ∈ samples, item.key ∈ metricKeys samples :=
  fun _ member => (mem_metricKeys samples).mpr (List.mem_map_of_mem member)

theorem answers_groups (sum : List Float64 → Float64) (samples : List NumericSample)
    (aggregation : String) :
    MetricGroups sum samples aggregation
      ((metricKeys samples).map (answerOf sum samples aggregation)) := by
  have distinct := metricKeys_nodup samples
  have named : ∀ key, (answerOf sum samples aggregation key).key = key := fun _ => rfl
  constructor
  case distinct =>
    rw [List.map_map]
    simpa only [Function.comp_def, named, List.map_id'] using distinct
  case partition =>
    rw [List.flatMap_map]
    exact groups_perm NumericSample.key distinct (covered_keys samples)
  case counts =>
    intro answer member
    obtain ⟨key, known, rfl⟩ := List.mem_map.mp member
    exact ⟨List.length_pos_iff.mpr (group_ne_nil samples known), rfl⟩
  case total =>
    have whole := sum_groups NumericSample.key (fun _ => 1) distinct (covered_keys samples)
    simp only [List.map_const', List.sum_replicate, smul_eq_mul, mul_one] at whole
    rw [List.map_map]
    exact whole
  case percentile =>
    rintro rfl answer member
    obtain ⟨key, known, rfl⟩ := List.mem_map.mp member
    exact @aggregate_p95 sum _ (group_ne_nil samples known)
  case least =>
    rintro rfl answer member
    obtain ⟨key, known, rfl⟩ := List.mem_map.mp member
    exact @aggregate_min sum _ (group_ne_nil samples known)
  case greatest =>
    rintro rfl answer member
    obtain ⟨key, known, rfl⟩ := List.mem_map.mp member
    exact @aggregate_max sum _ (group_ne_nil samples known)
  case last =>
    rintro rfl answer member
    obtain ⟨key, known, rfl⟩ := List.mem_map.mp member
    exact @aggregate_last sum _ (group_ne_nil samples known)
  case average =>
    rintro rfl answer member
    obtain ⟨key, known, rfl⟩ := List.mem_map.mp member
    exact aggregate_avg _
  case summed =>
    rintro rfl answer member
    obtain ⟨key, known, rfl⟩ := List.mem_map.mp member
    rfl
  case counted =>
    rintro rfl answer member
    obtain ⟨key, known, rfl⟩ := List.mem_map.mp member
    change Aggregated.count (ascending (numbersOf (group NumericSample.key key samples))).length = _
    rw [length_ascending, numbersOf, List.length_map]
    rfl

theorem answers_between (sum : List Float64 → Float64) (samples : List NumericSample)
    (aggregation : String) :
    MetricBounds sum samples aggregation ((metricKeys samples).map (answerOf sum samples "min"))
      ((metricKeys samples).map (answerOf sum samples aggregation))
      ((metricKeys samples).map (answerOf sum samples "max")) := by
  have named : ∀ aggregation key, (answerOf sum samples aggregation key).key = key := fun _ _ => rfl
  constructor
  case keys => simp only [List.map_map, Function.comp_def, named, and_self]
  case between =>
    intro low lowIn answer answerIn high highIn lowSame highSame central
    obtain ⟨key, known, rfl⟩ := List.mem_map.mp answerIn
    obtain ⟨other, -, rfl⟩ := List.mem_map.mp lowIn
    obtain ⟨last, -, rfl⟩ := List.mem_map.mp highIn
    obtain rfl : other = key := lowSame
    obtain rfl : last = other := highSame
    exact aggregate_between (group_ne_nil samples known) central

/-- The answers do not depend on the order of the samples. -/
theorem answers_perm {others : List NumericSample} (same : samples.Perm others)
    (separated : aggregation = "last" → Separated samples) :
    (metricKeys samples).map (answerOf sum samples aggregation)
      = (metricKeys others).map (answerOf sum others aggregation) := by
  rw [← metricKeys_perm samples same]
  apply List.map_congr_left
  intro key _
  have moved : (group NumericSample.key key samples).Perm (group NumericSample.key key others) :=
    group_perm same
  unfold answerOf metricValue
  simp only [moved.length_eq]
  rw [aggregate_perm moved]
  intro last first firstIn second secondIn
  obtain ⟨firstKnown, firstKey⟩ := mem_group.mp firstIn
  obtain ⟨secondKnown, secondKey⟩ := mem_group.mp secondIn
  exact separated last first firstKnown second secondKnown (firstKey.trans secondKey.symm)

end Groups

/-- This sample measures the queue of one entity. -/
def queueSample (number : ℚ) (timestamp : Int) : NumericSample where
  sample := { entityRef := "e", metricKey := "runtime.queue_depth", value := .float number,
              unit := "requests", producer := "p", timestamp := timestamp }
  number := ⟨double number, Float64.double_ne_nan number⟩
  numeric := rfl

/-- Three samples of one number -/
def thirds : List NumericSample :=
  [queueSample (1 / 10) 1, queueSample (1 / 10) 2, queueSample (1 / 10) 3]

end StateFlow.Plane
