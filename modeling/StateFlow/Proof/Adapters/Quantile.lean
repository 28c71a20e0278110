import Mathlib.Algebra.Order.Field.Basic
import Mathlib.Order.Interval.Set.Basic
import Mathlib.Order.Monotone.Defs
import Mathlib.Tactic.Linarith
import StateFlow.Construction.Adapters.Prometheus
import StateFlow.Library.Effect

namespace StateFlow.Adapters
open Python Table Effect

section Interpolation
variable {lower upper before count target later : ℚ}

/-- A rank inside a bucket is interpolated between its bounds. -/
theorem interpolate_bounds (wide : lower ≤ upper) (filled : 0 < count - before)
    (start : before ≤ target) (stop : target ≤ count) :
    lower ≤ lower + (upper - lower) * ((target - before) / (count - before)) ∧
      lower + (upper - lower) * ((target - before) / (count - before)) ≤ upper := by
  have nonneg : 0 ≤ (target - before) / (count - before) :=
    div_nonneg (sub_nonneg.mpr start) filled.le
  have whole : (target - before) / (count - before) ≤ 1 :=
    div_le_one_of_le₀ (sub_le_sub_right stop before) filled.le
  have width := sub_nonneg.mpr wide
  constructor
  · exact le_add_of_nonneg_right (mul_nonneg width nonneg)
  · have inside := mul_le_of_le_one_right width whole
    linarith

/-- A later rank of the bucket is interpolated later. -/
theorem interpolate_mono (wide : lower ≤ upper) (filled : 0 < count - before)
    (ordered : target ≤ later) :
    lower + (upper - lower) * ((target - before) / (count - before))
      ≤ lower + (upper - lower) * ((later - before) / (count - before)) := by
  have nearer := div_le_div_of_nonneg_right (sub_le_sub_right ordered before) filled.le
  have scaled := mul_le_mul_of_nonneg_left nearer (sub_nonneg.mpr wide)
  linarith

end Interpolation

/-- The bounds of the buckets ascend from a start. -/
def Ascending (start : ℚ) (buckets : Buckets) : Prop :=
  (buckets.map Prod.fst).Pairwise (· < ·) ∧ ∀ bucket ∈ buckets, (start : WithTop ℚ) ≤ bucket.1

section Loop
variable {target later previousBound previousCount count : ℚ} {bound : WithTop ℚ} {rest : Buckets}

theorem le_untopD (above : (previousBound : WithTop ℚ) ≤ bound) :
    previousBound ≤ bound.untopD previousBound := by
  cases bound with
  | top => exact le_rfl
  | coe upper => exact WithTop.coe_le_coe.mp above

/-- The rest of the buckets ascends from the last finite bound. -/
theorem Ascending.tail (ordered : Ascending previousBound ((bound, count) :: rest)) :
    Ascending (bound.untopD previousBound) rest := by
  obtain ⟨sorted, above⟩ := ordered
  rw [List.map_cons, List.pairwise_cons] at sorted
  refine ⟨sorted.2, fun bucket member => ?_⟩
  cases bound with
  | top => exact above bucket (List.mem_cons_of_mem _ member)
  | coe upper => exact (sorted.1 bucket.1 (List.mem_map_of_mem member)).le

/-- The quantile never falls below the last finite bound. -/
theorem findQuantile_ge {buckets : Buckets} (ordered : Ascending previousBound buckets)
    (start : previousCount ≤ target) :
    previousBound ≤ findQuantile target previousBound previousCount buckets := by
  induction buckets generalizing previousBound previousCount with
  | nil => exact le_rfl
  | cons bucket rest ih =>
      obtain ⟨bound, count⟩ := bucket
      have wide := le_untopD (ordered.2 _ List.mem_cons_self)
      unfold findQuantile
      split
      · exact wide.trans (ih ordered.tail (le_of_lt ‹_›))
      · split
        · exact le_rfl
        · simp only
          split
          · exact wide
          · exact (interpolate_bounds wide (not_le.mp ‹_›) start (not_lt.mp ‹_›)).1

/-- A bucket that reaches the rank has its quantile below its bound. -/
theorem findQuantile_le (above : (previousBound : WithTop ℚ) ≤ bound)
    (start : previousCount ≤ target) (stop : target ≤ count) :
    findQuantile target previousBound previousCount ((bound, count) :: rest)
      ≤ bound.untopD previousBound := by
  have wide := le_untopD above
  unfold findQuantile
  rw [if_neg (not_lt.mpr stop)]
  split
  · exact wide
  · simp only
    split
    · exact le_rfl
    · exact (interpolate_bounds wide (not_le.mp ‹_›) start stop).2

/-- A later rank has a later quantile. -/
theorem findQuantile_mono {buckets : Buckets} (ordered : Ascending previousBound buckets)
    (start : previousCount ≤ target) (near : target ≤ later) :
    findQuantile target previousBound previousCount buckets
      ≤ findQuantile later previousBound previousCount buckets := by
  induction buckets generalizing previousBound previousCount with
  | nil => exact le_rfl
  | cons bucket rest ih =>
      obtain ⟨bound, count⟩ := bucket
      have above := ordered.2 _ List.mem_cons_self
      have wide := le_untopD above
      rcases lt_or_ge count target with both | first
      · -- Both ranks lie behind this bucket.
        unfold findQuantile
        rw [if_pos both, if_pos (both.trans_le near)]
        exact ih ordered.tail both.le
      · rcases lt_or_ge count later with second | neither
        · -- Only the later rank lies behind this bucket.
          apply (findQuantile_le above start first).trans
          unfold findQuantile
          rw [if_pos second]
          exact findQuantile_ge ordered.tail second.le
        · unfold findQuantile
          rw [if_neg (not_lt.mpr first), if_neg (not_lt.mpr neither)]
          split
          · exact le_rfl
          · simp only
            split
            · exact le_rfl
            · exact interpolate_mono wide (not_le.mp ‹_›) near

/-- A bucket before another one has a finite bound. -/
theorem Ascending.finite (ordered : Ascending previousBound ((bound, count) :: rest))
    (more : rest ≠ []) : bound = (bound.untopD previousBound : ℚ) := by
  obtain ⟨next, member⟩ := List.exists_mem_of_ne_nil rest more
  have sorted := ordered.1
  rw [List.map_cons, List.pairwise_cons] at sorted
  cases bound with
  | top => exact absurd (sorted.1 next.1 (List.mem_map_of_mem member)) not_top_lt
  | coe upper => rfl

/-- The quantile lies in the first bucket whose count reaches the rank. -/
theorem findQuantile_bucket {buckets : Buckets} (ordered : Ascending previousBound buckets)
    (start : previousCount ≤ target) (reached : ∃ bucket ∈ buckets, target ≤ bucket.2) :
    ∃ earlier bucket later, buckets = earlier ++ bucket :: later ∧
      (∀ other ∈ earlier, other.2 < target) ∧ target ≤ bucket.2 ∧
      (∀ other ∈ earlier,
        other.1 ≤ (findQuantile target previousBound previousCount buckets : WithTop ℚ)) ∧
      (findQuantile target previousBound previousCount buckets : WithTop ℚ) ≤ bucket.1 := by
  induction buckets generalizing previousBound previousCount with
  | nil =>
      obtain ⟨bucket, member, _⟩ := reached
      cases member
  | cons bucket rest ih =>
      obtain ⟨bound, count⟩ := bucket
      rcases lt_or_ge count target with behind | first
      · have onward : ∃ bucket ∈ rest, target ≤ bucket.2 := by
          obtain ⟨bucket, member, near⟩ := reached
          rcases List.mem_cons.mp member with rfl | later
          · exact absurd near (not_le.mpr behind)
          · exact ⟨bucket, later, near⟩
        obtain ⟨earlier, found, later, split, before, near, low, high⟩ :=
          ih ordered.tail behind.le onward
        have shown : findQuantile target previousBound previousCount ((bound, count) :: rest)
            = findQuantile target (bound.untopD previousBound) count rest := by
          rw [findQuantile, if_pos behind]
        have finite := ordered.finite (by rw [split]; simp)
        refine ⟨(bound, count) :: earlier, found, later, by rw [split]; rfl, ?_, near, ?_, ?_⟩
        · exact List.forall_mem_cons.mpr ⟨behind, before⟩
        · rw [shown]
          refine List.forall_mem_cons.mpr ⟨?_, low⟩
          rw [finite]
          exact WithTop.coe_le_coe.mpr (findQuantile_ge ordered.tail behind.le)
        · rwa [shown]
      · refine ⟨[], (bound, count), rest, rfl, by simp, first, by simp, ?_⟩
        have inside : findQuantile target previousBound previousCount ((bound, count) :: rest) ≤ _ :=
          findQuantile_le (ordered.2 _ List.mem_cons_self) start first
        cases bound with
        | top => exact le_top
        | coe upper => exact WithTop.coe_le_coe.mpr inside

/-- The quantile is at most a finite bound or it never left its start. -/
theorem findQuantile_finite {buckets : Buckets} (ordered : Ascending previousBound buckets)
    (start : previousCount ≤ target) :
    (∃ bucket ∈ buckets, bucket.1 ≠ ⊤ ∧
        (findQuantile target previousBound previousCount buckets : WithTop ℚ) ≤ bucket.1) ∨
      findQuantile target previousBound previousCount buckets = previousBound := by
  induction buckets generalizing previousBound previousCount with
  | nil => exact .inr rfl
  | cons bucket rest ih =>
      obtain ⟨bound, count⟩ := bucket
      rcases lt_or_ge count target with behind | first
      · have shown : findQuantile target previousBound previousCount ((bound, count) :: rest)
            = findQuantile target (bound.untopD previousBound) count rest := by
          rw [findQuantile, if_pos behind]
        rw [shown]
        rcases ih ordered.tail behind.le with ⟨bucket, member, finite, below⟩ | stayed
        · exact .inl ⟨bucket, List.mem_cons_of_mem _ member, finite, below⟩
        · rw [stayed]
          cases bound with
          | top => exact .inr rfl
          | coe upper => exact .inl ⟨_, List.mem_cons_self, WithTop.coe_ne_top, le_rfl⟩
      · have inside : findQuantile target previousBound previousCount ((bound, count) :: rest) ≤ _ :=
          findQuantile_le (ordered.2 _ List.mem_cons_self) start first
        cases bound with
        | top =>
            right
            rw [findQuantile, if_neg (not_lt.mpr first), if_pos rfl]
        | coe upper =>
            exact .inl ⟨_, List.mem_cons_self, WithTop.coe_ne_top, WithTop.coe_le_coe.mpr inside⟩

end Loop

/-- A histogram has non-negative bounds, cumulative counts, and a positive total. -/
structure Cumulative (buckets : Buckets) : Prop where
  present : buckets ≠ []
  nonneg : ∀ bucket ∈ buckets, 0 ≤ bucket.1
  counts : ∀ first ∈ buckets, ∀ second ∈ buckets, first.1 ≤ second.1 → first.2 ≤ second.2
  total : ∀ last ∈ buckets, (∀ bucket ∈ buckets, bucket.1 ≤ last.1) → 0 < last.2

/-- A result lies in the bucket of its rank and never above every finite bound. -/
structure Ranked (buckets : Buckets) (quantile result : ℚ) : Prop where
  bucket : ∃ last ∈ buckets, (∀ bucket ∈ buckets, bucket.1 ≤ last.1) ∧
    ∃ bucket ∈ buckets, last.2 * quantile ≤ bucket.2 ∧
      (∀ other ∈ buckets, other.1 < bucket.1 → other.2 < last.2 * quantile) ∧
      0 ≤ result ∧ (∀ other ∈ buckets, other.1 < bucket.1 → other.1 ≤ result) ∧
      (result : WithTop ℚ) ≤ bucket.1
  finite : (∃ bucket ∈ buckets, bucket.1 ≠ ⊤ ∧ (result : WithTop ℚ) ≤ bucket.1) ∨
    ((∀ bucket ∈ buckets, bucket.1 = ⊤) ∧ result = 0)

section Sorted
variable {buckets : Buckets}

/-- The buckets in the order of their bounds. -/
def sortedBuckets (buckets : Buckets) : Buckets :=
  buckets.insertionSort fun first second => first.1 ≤ second.1

theorem mem_sortedBuckets {bucket : WithTop ℚ × ℚ} :
    bucket ∈ sortedBuckets buckets ↔ bucket ∈ buckets := List.mem_insertionSort _

/-- Distinct bounds are sorted strictly. -/
theorem sortedBuckets_ascending (distinct : (buckets.map Prod.fst).Nodup)
    (nonneg : ∀ bucket ∈ buckets, 0 ≤ bucket.1) : Ascending 0 (sortedBuckets buckets) := by
  refine ⟨?_, fun bucket member => nonneg bucket (mem_sortedBuckets.mp member)⟩
  have moved : (sortedBuckets buckets).map Prod.fst
      = (buckets.map Prod.fst).insertionSort (· ≤ ·) :=
    List.map_insertionSort (fun first second : WithTop ℚ × ℚ => first.1 ≤ second.1) (· ≤ ·)
      Prod.fst buckets fun _ _ _ _ => Iff.rfl
  rw [moved]
  have sorted := List.pairwise_insertionSort (· ≤ ·) (buckets.map Prod.fst)
  have once := (List.perm_insertionSort (· ≤ ·) (buckets.map Prod.fst)).nodup_iff.mpr distinct
  exact sorted.imp₂ (fun _ _ below apart => lt_of_le_of_ne below apart) once

/-- The last sorted bucket has the greatest bound. -/
theorem sortedBuckets_last (distinct : (buckets.map Prod.fst).Nodup)
    (nonneg : ∀ bucket ∈ buckets, 0 ≤ bucket.1) {last : WithTop ℚ × ℚ}
    (found : (sortedBuckets buckets).getLast? = some last) :
    last ∈ buckets ∧ ∀ bucket ∈ buckets, bucket.1 ≤ last.1 := by
  obtain ⟨front, split⟩ := List.getLast?_eq_some_iff.mp found
  have ordered := (sortedBuckets_ascending distinct nonneg).1
  rw [split, List.map_append, List.pairwise_append] at ordered
  have inside : last ∈ sortedBuckets buckets := by rw [split]; simp
  refine ⟨mem_sortedBuckets.mp inside, fun bucket member => ?_⟩
  have known := mem_sortedBuckets.mpr member
  rw [split] at known
  rcases List.mem_append.mp known with early | same
  · exact (ordered.2.2 bucket.1 (List.mem_map_of_mem early) last.1 (by simp)).le
  · rw [List.mem_singleton.mp same]

end Sorted

/-- A smaller bound stands before a bucket. -/
theorem mem_earlier {ordered earlier later : Buckets} {bucket other : WithTop ℚ × ℚ}
    (sorted : (ordered.map Prod.fst).Pairwise (· < ·))
    (split : ordered = earlier ++ bucket :: later) (member : other ∈ ordered)
    (below : other.1 < bucket.1) : other ∈ earlier := by
  rw [split, List.map_append, List.pairwise_append, List.map_cons, List.pairwise_cons] at sorted
  rw [split] at member
  rcases List.mem_append.mp member with early | rest
  · exact early
  · rcases List.mem_cons.mp rest with same | late
    · exact absurd (same ▸ below) (lt_irrefl _)
    · exact absurd (sorted.2.1.1 other.1 (List.mem_map_of_mem late)) below.not_gt

section Sum
variable {float : String → Except Exception (WithTop ℚ)} {baseName : String}
  {required : List (String × String)}

/-- A sample leaves the buckets alone or assigns one of them. -/
theorem addBucket_distinct {sample : PrometheusSample} {buckets next : Buckets}
    (distinct : (buckets.map Prod.fst).Nodup)
    (added : addBucket float baseName required buckets sample = .ok next) :
    (next.map Prod.fst).Nodup := by
  unfold addBucket at added
  split at added
  · cases added
    exact distinct
  · split at added
    · cases added
      exact distinct
    · split at added
      · cases added
        exact distinct
      · obtain ⟨bound, _, rest⟩ := except_bind_ok added
        cases rest
        exact assign_keys_nodup distinct

/-- Each bound is summed once. -/
theorem sumBuckets_distinct {snapshot : PrometheusSnapshot} {buckets : Buckets}
    (summed : sumBuckets float snapshot baseName required = .ok buckets) :
    (buckets.map Prod.fst).Nodup := by
  unfold sumBuckets at summed
  generalize snapshot.samples = samples at summed
  have start : (([] : Buckets).map Prod.fst).Nodup := List.nodup_nil
  generalize ([] : Buckets) = initial at start summed
  induction samples generalizing initial with
  | nil =>
      cases summed
      exact start
  | cons sample rest ih =>
      rw [List.foldlM_cons] at summed
      obtain ⟨next, added, later⟩ := except_bind_ok summed
      exact ih next (addBucket_distinct start added) later

end Sum

/-- A positive total scales the quantile to a rank. -/
theorem quantileOf_eq {buckets : Buckets} {last : WithTop ℚ × ℚ}
    (found : (sortedBuckets buckets).getLast? = some last) (positive : 0 < last.2) (quantile : ℚ) :
    quantileOf quantile buckets
      = some (findQuantile (last.2 * quantile) 0 0 (sortedBuckets buckets)) := by
  have sorted : (buckets.insertionSort fun first second => first.1 ≤ second.1)
      = sortedBuckets buckets := rfl
  unfold quantileOf
  simp only [sorted, found]
  exact if_neg (not_le.mpr positive)

/-- The quantile of a histogram lies in the bucket of its rank. -/
theorem quantileOf_ranked {buckets : Buckets} (distinct : (buckets.map Prod.fst).Nodup)
    (histogram : Cumulative buckets) :
    ∃ value : ℚ → ℚ, MonotoneOn value (Set.Icc 0 1) ∧ ∀ quantile ∈ Set.Icc (0 : ℚ) 1,
      quantileOf quantile buckets = some (value quantile) ∧
        Ranked buckets quantile (value quantile) := by
  have ordered := sortedBuckets_ascending distinct histogram.nonneg
  have filled : sortedBuckets buckets ≠ [] := by
    obtain ⟨bucket, member⟩ := List.exists_mem_of_ne_nil _ histogram.present
    exact List.ne_nil_of_mem (mem_sortedBuckets.mpr member)
  have found := List.getLast?_eq_getLast_of_ne_nil filled
  obtain ⟨lastIn, greatest⟩ := sortedBuckets_last distinct histogram.nonneg found
  have positive := histogram.total _ lastIn greatest
  refine ⟨fun quantile =>
    findQuantile (((sortedBuckets buckets).getLast filled).2 * quantile) 0 0
      (sortedBuckets buckets), ?_, ?_⟩
  · intro first firstIn second secondIn near
    exact findQuantile_mono ordered (mul_nonneg positive.le firstIn.1)
      (mul_le_mul_of_nonneg_left near positive.le)
  · intro quantile inside
    have start := mul_nonneg positive.le inside.1
    have stop := mul_le_of_le_one_right positive.le inside.2
    refine ⟨?_, ?_, ?_⟩
    · exact quantileOf_eq found positive quantile
    · obtain ⟨earlier, bucket, later, split, behind, near, low, high⟩ :=
        findQuantile_bucket ordered start ⟨_, List.getLast_mem filled, stop⟩
      have member : bucket ∈ sortedBuckets buckets := by rw [split]; simp
      have before : ∀ other ∈ buckets, other.1 < bucket.1 → other ∈ earlier :=
        fun other known below => mem_earlier ordered.1 split (mem_sortedBuckets.mpr known) below
      exact ⟨_, lastIn, greatest, bucket, mem_sortedBuckets.mp member, near,
        fun other known below => behind other (before other known below),
        findQuantile_ge ordered start,
        fun other known below => low other (before other known below), high⟩
    · rcases findQuantile_finite ordered start with ⟨bucket, member, finite, below⟩ | stayed
      · exact .inl ⟨bucket, mem_sortedBuckets.mp member, finite, below⟩
      · by_cases bounded : ∃ bucket ∈ buckets, bucket.1 ≠ ⊤
        · obtain ⟨bucket, member, finite⟩ := bounded
          refine .inl ⟨bucket, member, finite, ?_⟩
          dsimp only
          rw [stayed]
          exact histogram.nonneg bucket member
        · refine .inr ⟨fun bucket member => ?_, stayed⟩
          by_contra finite
          exact bounded ⟨bucket, member, finite⟩

/-- A quantile of a histogram ascends, lies in the bucket of its rank and stays below the finite
bounds. -/
theorem histogramQuantile_ranked {float : String → Except Exception (WithTop ℚ)}
    {snapshot : PrometheusSnapshot} {baseName : String} {labels : List (String × String)}
    {buckets : Buckets} (summed : sumBuckets float snapshot baseName labels = .ok buckets)
    (histogram : Cumulative buckets) :
    ∃ value : ℚ → ℚ, MonotoneOn value (Set.Icc 0 1) ∧ ∀ quantile ∈ Set.Icc (0 : ℚ) 1,
      histogramQuantile float snapshot baseName quantile labels = .ok (some (value quantile)) ∧
        Ranked buckets quantile (value quantile) := by
  obtain ⟨value, ascends, ranked⟩ := quantileOf_ranked (sumBuckets_distinct summed) histogram
  refine ⟨value, ascends, fun quantile inside => ⟨?_, (ranked quantile inside).2⟩⟩
  unfold histogramQuantile
  rw [if_neg (not_not.mpr (show 0 ≤ quantile ∧ quantile ≤ 1 from inside)), summed]
  exact congrArg Except.ok (ranked quantile inside).1

/-- These samples have one finite bucket and the open one. -/
def latencySnapshot : PrometheusSnapshot where
  samples := [⟨"latency_bucket", [("le", "1")], 3⟩, ⟨"latency_bucket", [("le", "+Inf")], 4⟩]

/-- This conversion knows one text. -/
def unitFloat (text : String) : Except Exception (WithTop ℚ) :=
  if text = "1" then .ok (1 : ℚ) else .error .valueError

theorem histogramQuantile_ranked_of_latency :
    ∃ value : ℚ → ℚ, MonotoneOn value (Set.Icc 0 1) ∧ ∀ quantile ∈ Set.Icc (0 : ℚ) 1,
      histogramQuantile unitFloat latencySnapshot "latency" quantile []
          = .ok (some (value quantile)) ∧
        Ranked [((1 : ℚ), 3), (⊤, 4)] quantile (value quantile) := by
  refine histogramQuantile_ranked (by decide +kernel) ⟨by simp, ?_, ?_, ?_⟩
  · decide +kernel
  · decide +kernel
  · decide +kernel

end StateFlow.Adapters
