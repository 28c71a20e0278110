import StateFlow.Proof.Prediction.Pressure

namespace StateFlow.Predictions
open Python Table Effect State Plane

/-- A reading names the parameter and the snapshot key of one feature. -/
inductive Reading where
  | number (parameter canonicalKey : String)
  | text (parameter canonicalKey : String)

/-- A value counts as a finite non-negative number. An integer fits a double. -/
def Counts (value : Value) (amount : ℚ) : Prop :=
  0 ≤ amount ∧ (value = .float amount ∨
    ∃ count : Int, value = .int count ∧ amount = count ∧ count < floatLimit)

/-- The check of a feature accepts exactly the finite non-negative numbers. -/
theorem numeric_ok_iff {value : Value} {amount : ℚ} :
    numeric value = .ok amount ↔ Counts value amount := by
  constructor
  · exact numeric_ok
  · rintro ⟨nonneg, rfl | ⟨count, rfl, rfl, small⟩⟩
    · exact numeric_float nonneg
    · exact numeric_int (Int.cast_nonneg_iff.mp nonneg) small

/-- An integer is too large for a double. -/
def Oversized (value : Value) : Prop :=
  ∃ count : Int, value = .int count ∧ (count ≤ -floatLimit ∨ floatLimit ≤ count)

/-- The check raises `OverflowError` for an oversized integer and `ValueError` otherwise. -/
theorem numeric_raised {value : Value} (unread : ¬ ∃ amount, numeric value = .ok amount) :
    (Oversized value ∧ numeric value = .error .overflowError) ∨
      (¬ Oversized value ∧ numeric value = .error .valueError) := by
  cases value with
  | int count =>
      by_cases inside : -floatLimit < count ∧ count < floatLimit
      · refine .inr ⟨?_, ?_⟩
        · rintro ⟨_, same, outside⟩
          cases same
          omega
        · have converted := floatOfInt_ok_iff.mpr ⟨inside, rfl⟩
          have negative : ¬ (0 : ℚ) ≤ count := fun nonneg =>
            unread ⟨_, numeric_int (Int.cast_nonneg_iff.mp nonneg) inside.2⟩
          change (floatOfInt count >>= fun number =>
            if 0 ≤ number then pure number else throw Exception.valueError) = _
          rw [converted]
          exact if_neg negative
      · refine .inl ⟨⟨count, rfl, by omega⟩, ?_⟩
        change (floatOfInt count >>= _) = _
        rw [floatOfInt, if_neg inside]
        rfl
  | float amount =>
      refine .inr ⟨nofun, ?_⟩
      by_cases nonneg : 0 ≤ amount
      · exact absurd ⟨amount, numeric_float nonneg⟩ unread
      · exact if_neg nonneg
  | _ => exact .inr ⟨nofun, rfl⟩

section Readings
variable (snapshot : Snapshot) (candidate : CandidateAction)

/-- A single value of the target stands before a single value of another entity. -/
def selected (key : String) : Option StateValue :=
  match exactly snapshot candidate key, matching snapshot key with
  | [value], _ => some value
  | _, [value] => some value
  | _, _ => none

/-- A parameter of the candidate hides the snapshot. -/
def supply (parameter canonicalKey : String) : Option Value :=
  match candidate.parameters.lookup parameter with
  | some value => some value
  | none =>
      if canonicalKey = "" then none
      else (selected snapshot candidate canonicalKey).map StateValue.value

/-- A feature that is `None` counts as missing. -/
def feature (parameter canonicalKey : String) : Option Value :=
  match supply snapshot candidate parameter canonicalKey with
  | some .none | none => none
  | some value => some value

/-- A reading succeeds when its feature is missing or has the right type and range. -/
def Reading.Readable : Reading → Prop
  | .number parameter canonicalKey =>
      ∀ value, feature snapshot candidate parameter canonicalKey = some value →
        ∃ amount, Counts value amount
  | .text parameter canonicalKey =>
      ∀ value, feature snapshot candidate parameter canonicalKey = some value →
        ∃ text, value.text? = some text

/-- A reading fails with the exception of its value. -/
def Reading.Fails (exception : Exception) : Reading → Prop
  | .number parameter canonicalKey =>
      ∃ value, feature snapshot candidate parameter canonicalKey = some value ∧
        (∀ amount, ¬ Counts value amount) ∧
        ((Oversized value ∧ exception = .overflowError) ∨
          (¬ Oversized value ∧ exception = .valueError))
  | .text parameter canonicalKey =>
      ∃ value, feature snapshot candidate parameter canonicalKey = some value ∧
        value.text? = none ∧ exception = .valueError

/-- The number that a feature holds. -/
def measure (parameter canonicalKey : String) : Option ℚ :=
  (feature snapshot candidate parameter canonicalKey).bind fun value => (numeric value).toOption

/-- A missing quantity is zero. -/
def quantity (parameter canonicalKey : String) : ℚ :=
  (measure snapshot candidate parameter canonicalKey).getD 0

end Readings

/-- A positive feature drops zero. -/
def kept (positive : Bool) (measured : Option ℚ) : Option ℚ :=
  if positive = true ∧ measured = some 0 then none else measured

/-- A positive or required flag leaves one feature out when nothing is kept. -/
def left (required positive : Bool) (measured : Option ℚ) : ℕ :=
  if required = true ∧ kept positive measured = none then 1 else 0

/-- Work rejects a rate of zero. -/
def rated (work : ℚ) (measured : Option ℚ) : Option ℚ := kept (decide (0 < work)) measured

/-- Work without a rate leaves one required feature out. -/
def lost (work : ℚ) (measured : Option ℚ) : ℕ :=
  left (decide (0 < work)) (decide (0 < work)) measured

section Reads
variable {snapshot : Snapshot} {candidate : CandidateAction} {A B : Type}

/-- A program checks its readings. It returns a value or raises the exception of a reading. -/
def Reads (snapshot : Snapshot) (candidate : CandidateAction) (readings : List Reading)
    (program : Resolve A) (value : FeatureResolver → A) (missed : ℕ) : Prop :=
  ∀ features,
    ((∀ reading ∈ readings, reading.Readable snapshot candidate) ∧
      ∃ last, program features = .ok (value last) last ∧
        last.required + features.available = features.required + last.available + missed) ∨
    (∃ reading ∈ readings, ∃ exception, reading.Fails snapshot candidate exception ∧
      ∃ last, program features = .error exception last)

theorem reads_pure (value : A) :
    Reads snapshot candidate [] (pure value : Resolve A) (fun _ => value) 0 :=
  fun features => .inl ⟨by simp, features, rfl, by omega⟩

theorem reads_get (value : FeatureResolver → A) :
    Reads snapshot candidate [] (do let features ← get; return value features) value 0 :=
  fun features => .inl ⟨by simp, features, rfl, by omega⟩

/-- The readings of two programs follow each other. -/
theorem reads_bind {readings more : List Reading} {program : Resolve A} {next : A → Resolve B}
    {value : A} {result : FeatureResolver → B} {missed rest : ℕ}
    (first : Reads snapshot candidate readings program (fun _ => value) missed)
    (second : Reads snapshot candidate more (next value) result rest) :
    Reads snapshot candidate (readings ++ more) (program >>= next) result (missed + rest) := by
  intro features
  rcases first features with ⟨readable, middle, ran, tally⟩ |
    ⟨reading, member, exception, fails, last, raised⟩
  · rcases second middle with ⟨allowed, last, finished, final⟩ |
      ⟨reading, member, exception, fails, last, raised⟩
    · refine .inl ⟨?_, last, (bind_of_ok ran).trans finished, by omega⟩
      intro reading member
      exact (List.mem_append.mp member).elim (readable reading) (allowed reading)
    · exact .inr ⟨reading, List.mem_append_right _ member, exception, fails, last,
        (bind_of_ok ran).trans raised⟩
  · exact .inr ⟨reading, List.mem_append_left _ member, exception, fails, last,
      bind_of_error raised⟩

/-- A program that requires nothing leaves the count of the next one. -/
theorem reads_then {readings more : List Reading} {program : Resolve A} {next : A → Resolve B}
    {value : A} {result : FeatureResolver → B} {rest : ℕ}
    (first : Reads snapshot candidate readings program (fun _ => value) 0)
    (second : Reads snapshot candidate more (next value) result rest) :
    Reads snapshot candidate (readings ++ more) (program >>= next) result rest := by
  have both := reads_bind first second
  rwa [Nat.zero_add] at both

/-- A program may return a function of its last result. -/
theorem reads_return {readings : List Reading} {program : Resolve A} {value : A} {missed : ℕ}
    (first : Reads snapshot candidate readings program (fun _ => value) missed) (finish : A → B) :
    Reads snapshot candidate readings (do return finish (← program)) (fun _ => finish value)
      missed := by
  rw [← List.append_nil readings, ← Nat.add_zero missed]
  exact reads_bind first (reads_pure (finish value))

/-- A single value of the target or of another entity is selected without a count. -/
theorem selectValue_selected (snapshot : Snapshot) (candidate : CandidateAction) (key : String)
    (features : FeatureResolver) :
    ∃ last, selectValue snapshot candidate key features
        = .ok (selected snapshot candidate key) last ∧
      last.required = features.required ∧ last.available = features.available := by
  unfold selectValue selected
  generalize exactly snapshot candidate key = own, matching snapshot key = all
  rcases own with _ | ⟨value, _ | ⟨second, rest⟩⟩ <;>
    rcases all with _ | ⟨other, _ | ⟨another, more⟩⟩ <;> exact ⟨_, rfl, rfl, rfl⟩

/-- A feature resolves to its supply and counts nothing. -/
theorem resolve_supply (snapshot : Snapshot) (candidate : CandidateAction)
    (parameter canonicalKey : String) (features : FeatureResolver) :
    ∃ last, resolve snapshot candidate parameter canonicalKey features
        = .ok (supply snapshot candidate parameter canonicalKey) last ∧
      last.required = features.required ∧ last.available = features.available := by
  unfold resolve supply
  cases present : candidate.parameters.lookup parameter with
  | some value => exact ⟨features, rfl, rfl, rfl⟩
  | none =>
      by_cases unnamed : canonicalKey = ""
      · simp only [unnamed, if_true]
        exact ⟨features, rfl, rfl, rfl⟩
      · simp only [unnamed, if_false]
        obtain ⟨last, ran, required, available⟩ :=
          selectValue_selected snapshot candidate canonicalKey features
        cases found : selected snapshot candidate canonicalKey with
        | none =>
            rw [found] at ran
            exact ⟨last, bind_of_ok ran, required, available⟩
        | some value =>
            rw [found] at ran
            exact ⟨_, bind_of_ok ran, required, available⟩

/-- A feature is missing when nothing or `None` is supplied for it. -/
theorem feature_eq_none (parameter canonicalKey : String) :
    feature snapshot candidate parameter canonicalKey = none ↔
      supply snapshot candidate parameter canonicalKey = some .none ∨
        supply snapshot candidate parameter canonicalKey = none := by
  unfold feature
  cases supply snapshot candidate parameter canonicalKey with
  | none => simp
  | some value => cases value <;> simp

theorem feature_eq_some (parameter canonicalKey : String) {value : Value} :
    feature snapshot candidate parameter canonicalKey = some value ↔
      supply snapshot candidate parameter canonicalKey = some value ∧ value ≠ .none := by
  unfold feature
  cases supply snapshot candidate parameter canonicalKey with
  | none => simp
  | some other =>
      cases other
      case none =>
        refine ⟨nofun, fun both => ?_⟩
        exact absurd (Option.some.inj both.1).symm both.2
      all_goals
        refine ⟨fun same => ⟨same, ?_⟩, And.left⟩
        rw [← Option.some.inj same]
        nofun

section Number
variable (parameter canonicalKey : String) (default : Option ℚ) (required positive : Bool)

/-- A missing feature takes its default. -/
theorem number_missing (missing : feature snapshot candidate parameter canonicalKey = none)
    (features : FeatureResolver) :
    ∃ last, number snapshot candidate parameter canonicalKey default required positive features
        = .ok default last ∧
      last.required + features.available
        = features.required + last.available + (if required = true then 1 else 0) := by
  obtain ⟨middle, resolved, sameRequired, sameAvailable⟩ :=
    resolve_supply snapshot candidate parameter canonicalKey features
  unfold number
  rw [bind_of_ok resolved]
  rcases (feature_eq_none parameter canonicalKey).mp missing with found | found
  · rw [found]
    cases required
    · exact ⟨_, rfl, by simp; omega⟩
    · exact ⟨_, rfl, by simp; omega⟩
  · rw [found]
    cases required
    · exact ⟨_, rfl, by simp; omega⟩
    · exact ⟨_, rfl, by simp; omega⟩

/-- A present feature counts when it is readable and not a dropped zero. -/
def settle (parameter canonicalKey : String) (default : Option ℚ) (required positive : Bool)
    (value : Value) : Resolve (Option ℚ) := do
  if required then modify fun features => { features with required := features.required + 1 }
  let result ← lift (numeric value)
  if positive && result = 0 then
    if required then note ("invalid_feature:" ++ featureName parameter canonicalKey)
    return default
  if required then modify fun features => { features with available := features.available + 1 }
  return some result

theorem number_present {value : Value}
    (present : feature snapshot candidate parameter canonicalKey = some value)
    (features : FeatureResolver) :
    ∃ middle, number snapshot candidate parameter canonicalKey default required positive features
        = settle parameter canonicalKey default required positive value middle ∧
      middle.required = features.required ∧ middle.available = features.available := by
  obtain ⟨middle, resolved, same⟩ :=
    resolve_supply snapshot candidate parameter canonicalKey features
  refine ⟨middle, ?_, same⟩
  unfold number
  rw [bind_of_ok resolved]
  obtain ⟨found, other⟩ := (feature_eq_some parameter canonicalKey).mp present
  rw [found]
  cases value with
  | none => exact absurd rfl other
  | _ => rfl

/-- A readable value is the kept number or the default. -/
theorem settle_ok {value : Value} {amount : ℚ} (read : numeric value = .ok amount)
    (features : FeatureResolver) :
    ∃ last, settle parameter canonicalKey default required positive value features
        = .ok ((kept positive (some amount)).or default) last ∧
      last.required + features.available = features.required + last.available +
        left required positive (some amount) := by
  unfold settle left
  by_cases dropped : positive = true ∧ amount = 0
  · obtain ⟨rfl, rfl⟩ := dropped
    cases required
    · simp only [read, lift, kept]
      exact ⟨_, rfl, by simp⟩
    · simp only [read, lift, kept]
      exact ⟨_, rfl, by simp; omega⟩
  · have same : (positive && decide (amount = 0)) = false := by
      cases positive <;> simp_all
    have whole : kept positive (some amount) = some amount := by
      unfold kept
      rw [if_neg (by simpa only [Option.some.injEq] using dropped)]
    rw [whole]
    cases required
    · simp only [read, lift, pure_bind, same, Bool.false_eq_true, if_false]
      exact ⟨_, rfl, by simp⟩
    · simp only [read, lift, pure_bind, same, Bool.false_eq_true, if_false]
      exact ⟨_, rfl, by simp; omega⟩

/-- An unreadable value raises its exception. -/
theorem settle_raised {value : Value} {exception : Exception}
    (raised : numeric value = .error exception) (features : FeatureResolver) :
    ∃ last, settle parameter canonicalKey default required positive value features
        = .error exception last := by
  unfold settle
  cases required <;> simp only [raised, lift] <;> exact ⟨_, rfl⟩

/-- A number is the kept measure or the default. -/
theorem number_reads :
    Reads snapshot candidate [.number parameter canonicalKey]
      (number snapshot candidate parameter canonicalKey default required positive)
      (fun _ => (kept positive (measure snapshot candidate parameter canonicalKey)).or default)
      (left required positive (measure snapshot candidate parameter canonicalKey)) := by
  intro features
  cases present : feature snapshot candidate parameter canonicalKey with
  | none =>
      have unknown : measure snapshot candidate parameter canonicalKey = none := by
        rw [measure, present, Option.bind_none]
      obtain ⟨last, ran, tally⟩ := number_missing parameter canonicalKey default required positive
        present features
      refine .inl ⟨?_, last, ?_, ?_⟩
      · intro reading member
        cases List.mem_singleton.mp member
        simp only [Reading.Readable, present, reduceCtorEq, false_implies, implies_true]
      · rw [ran, unknown]
        cases positive <;> rfl
      · rw [tally, unknown]
        cases positive <;> simp [left, kept]
  | some value =>
      obtain ⟨middle, same, sameRequired, sameAvailable⟩ := number_present parameter canonicalKey
        default required positive present features
      rw [same, ← sameRequired, ← sameAvailable]
      by_cases readable : ∃ amount, numeric value = .ok amount
      · obtain ⟨amount, read⟩ := readable
        have known : measure snapshot candidate parameter canonicalKey = some amount := by
          simp only [measure, present, Option.bind_some, read, Except.toOption]
        rw [known]
        refine .inl ⟨?_, settle_ok _ _ _ _ _ read middle⟩
        intro reading member
        cases List.mem_singleton.mp member
        intro found shown
        cases present.symm.trans shown
        exact ⟨amount, numeric_ok_iff.mp read⟩
      · have uncounted : ∀ amount, ¬ Counts value amount :=
          fun amount counted => readable ⟨amount, numeric_ok_iff.mpr counted⟩
        rcases numeric_raised readable with ⟨oversized, raised⟩ | ⟨bounded, raised⟩
        · exact .inr ⟨_, List.mem_singleton_self _, _,
            ⟨value, present, uncounted, .inl ⟨oversized, rfl⟩⟩, settle_raised _ _ _ _ _ raised middle⟩
        · exact .inr ⟨_, List.mem_singleton_self _, _,
            ⟨value, present, uncounted, .inr ⟨bounded, rfl⟩⟩, settle_raised _ _ _ _ _ raised middle⟩

end Number

@[simp] theorem kept_false (measured : Option ℚ) : kept false measured = measured := by
  simp [kept]

/-- A feature with default zero reads its quantity. -/
theorem numberOr_reads (parameter canonicalKey : String) :
    Reads snapshot candidate [.number parameter canonicalKey]
      (numberOr snapshot candidate parameter canonicalKey 0)
      (fun _ => quantity snapshot candidate parameter canonicalKey) 0 := by
  have same : quantity snapshot candidate parameter canonicalKey =
      ((kept false (measure snapshot candidate parameter canonicalKey)).or (some 0)).getD 0 := by
    rw [kept_false, quantity]
    cases measure snapshot candidate parameter canonicalKey <;> rfl
  rw [same]
  exact reads_return (number_reads _ _ _ false _) _

/-- An optional feature reads its measure. -/
theorem optionalNumber_reads (parameter canonicalKey : String) :
    Reads snapshot candidate [.number parameter canonicalKey]
      (optionalNumber snapshot candidate parameter canonicalKey)
      (fun _ => measure snapshot candidate parameter canonicalKey) 0 := by
  have read : Reads snapshot candidate _ _ _ _ := number_reads parameter canonicalKey none false false
  simp only [kept_false, Option.or_none] at read
  exact read

/-- A rate is required by its work. -/
theorem rate_reads (parameter canonicalKey : String) (work : ℚ) :
    Reads snapshot candidate [.number parameter canonicalKey]
      (rate snapshot candidate parameter canonicalKey work)
      (fun _ => rated work (measure snapshot candidate parameter canonicalKey))
      (lost work (measure snapshot candidate parameter canonicalKey)) := by
  have read : Reads snapshot candidate _ _ _ _ :=
    number_reads parameter canonicalKey none (decide (0 < work)) (decide (0 < work))
  simp only [Option.or_none] at read
  exact read

/-- A location must be a text. -/
theorem string_reads (parameter canonicalKey : String) :
    Reads snapshot candidate [.text parameter canonicalKey]
      (string snapshot candidate parameter canonicalKey)
      (fun _ => (feature snapshot candidate parameter canonicalKey).bind Value.text?) 0 := by
  intro features
  obtain ⟨middle, resolved, sameRequired, sameAvailable⟩ :=
    resolve_supply snapshot candidate parameter canonicalKey features
  unfold string
  rw [bind_of_ok resolved, ← sameRequired, ← sameAvailable]
  simp only [List.mem_singleton, forall_eq, exists_eq_left, Reading.Readable, Reading.Fails, feature]
  cases supply snapshot candidate parameter canonicalKey with
  | none => exact .inl ⟨by simp, middle, rfl, rfl⟩
  | some value =>
      by_cases texted : ∃ text, value.text? = some text
      · obtain ⟨text, shown⟩ := texted
        cases value with
        | none => cases shown
        | _ =>
            refine .inl ⟨?_, middle, ?_, rfl⟩
            · rintro _ ⟨⟩
              exact ⟨text, shown⟩
            · simp only [shown, Option.bind_some]
              rfl
      · cases value with
        | none => exact .inl ⟨by simp, middle, rfl, rfl⟩
        | _ =>
            have unread := Option.eq_none_iff_forall_not_mem.mpr
              fun text shown => texted ⟨text, shown⟩
            refine .inr ⟨.valueError, ⟨_, rfl, unread, rfl⟩, middle, ?_⟩
            simp only [unread]
            rfl

end Reads

section Amounts
variable (snapshot : Snapshot) (candidate : CandidateAction)

def transferAmount : ℚ := quantity snapshot candidate "transfer_bytes" "kv.size"

def bandwidth : Option ℚ :=
  measure snapshot candidate "effective_bw_bytes_per_second" "link.effective_bw"

/-- The prompt tokens that no cache covers. -/
def uncachedTokens : ℚ :=
  let promptTokens := quantity snapshot candidate "prompt_tokens" "request.context_tokens"
  max 0 (promptTokens - min promptTokens (quantity snapshot candidate "cached_tokens" ""))

def prefillRate : Option ℚ :=
  measure snapshot candidate "prefill_tokens_per_second" "runtime.prefill_tps"

def outputTokens : ℚ :=
  quantity snapshot candidate "expected_output_tokens" "request.expected_output_tokens"

def decodeRate : Option ℚ :=
  measure snapshot candidate "decode_tokens_per_second" "runtime.decode_tps"

/-- The memory that the target needs after the action. -/
def predictedHbm : ℚ :=
  max 0 (quantity snapshot candidate "hbm_used_bytes" "resource.hbm.used" +
    quantity snapshot candidate "hbm_reserved_bytes" "resource.hbm.reserved" +
    quantity snapshot candidate "predicted_kv_growth_bytes" "" -
    quantity snapshot candidate "hbm_release_bytes" "")

def hbmCapacity : Option ℚ := measure snapshot candidate "hbm_capacity_bytes" ""

/-- The times of a candidate as its quantities fix them. -/
def times : Timing where
  transferBytes := transferAmount snapshot candidate
  queueSeconds := quantity snapshot candidate "queue_seconds" "request.queue_time"
  transferSeconds := rateDuration (transferAmount snapshot candidate)
    (rated (transferAmount snapshot candidate) (bandwidth snapshot candidate))
    (quantity snapshot candidate "transfer_setup_seconds" "")
  prefillSeconds := rateDuration (uncachedTokens snapshot candidate)
    (rated (uncachedTokens snapshot candidate) (prefillRate snapshot candidate)) 0
  decodeSeconds := rateDuration (outputTokens snapshot candidate)
    (rated (outputTokens snapshot candidate) (decodeRate snapshot candidate)) 0
  decodeTps := rated (outputTokens snapshot candidate) (decodeRate snapshot candidate)

/-- The memory of a candidate as its quantities fix it. -/
def hbm : Memory where
  predictedHbm := predictedHbm snapshot candidate
  hbmPressure := match rated (predictedHbm snapshot candidate) (hbmCapacity snapshot candidate) with
    | some capacity =>
        if 0 < capacity then some (predictedHbm snapshot candidate / capacity) else none
    | none => none

/-- The risks of a candidate as its times and its memory fix them. -/
def risks : Risk :=
  let oom := (hbm snapshot candidate).hbmPressure.map fun pressure =>
    clamp (max 0 (pressure - 9 / 10) * 2)
  let timeout := do
    return deadlineRisk (← (times snapshot candidate).e2e)
      (← measure snapshot candidate "deadline_seconds" "")
  ⟨oom, timeout,
    successProbability (measure snapshot candidate "base_success_probability" "") oom timeout⟩

/-- The costs of a candidate as its times and its quantities fix them. -/
def charges : CostPrediction :=
  let gpuSeconds := (times snapshot candidate).e2e.map fun seconds =>
    seconds * quantity snapshot candidate "allocated_gpu" "instance.allocated_gpu"
  { gpuSeconds := gpuSeconds
    memoryTime := (times snapshot candidate).e2e.map fun seconds =>
      predictedHbm snapshot candidate * seconds
    networkBytes := some ⌊transferAmount snapshot candidate⌋
    storageIoBytes := some ⌊quantity snapshot candidate "storage_io_bytes" ""⌋
    monetaryCost := gpuSeconds.map fun seconds =>
      quantity snapshot candidate "fixed_cost" "" +
        seconds * quantity snapshot candidate "gpu_second_cost" "" +
        transferAmount snapshot candidate * quantity snapshot candidate "network_byte_cost" "" +
        quantity snapshot candidate "storage_io_bytes" "" *
          quantity snapshot candidate "storage_io_byte_cost" "" }

/-- The future of a target as the memory and the quantities of the candidate fix it. -/
def outlook : FutureStatePrediction :=
  let queueDepth := measure snapshot candidate "queue_depth" "runtime.queue_depth"
  { queueDepth := queueDepth.map fun depth => depth + quantity snapshot candidate "queue_delta" ""
    hbmPressure := (hbm snapshot candidate).hbmPressure
    kvLocation := (feature snapshot candidate "target_kv_location" "kv.location").bind Value.text?
    demand := queueDepth
    contention := measure snapshot candidate "gpu_utilization" "resource.gpu.util"
    values := .ofList [("predicted_hbm_bytes", predictedHbm snapshot candidate)] }

end Amounts

/-- The readings of the times in the order of the program. -/
def timingReadings : List Reading :=
  [.number "queue_seconds" "request.queue_time", .number "transfer_bytes" "kv.size",
    .number "transfer_setup_seconds" "",
    .number "effective_bw_bytes_per_second" "link.effective_bw",
    .number "prompt_tokens" "request.context_tokens", .number "cached_tokens" "",
    .number "prefill_tokens_per_second" "runtime.prefill_tps",
    .number "expected_output_tokens" "request.expected_output_tokens",
    .number "decode_tokens_per_second" "runtime.decode_tps"]

def memoryReadings : List Reading :=
  [.number "hbm_used_bytes" "resource.hbm.used", .number "hbm_reserved_bytes" "resource.hbm.reserved",
    .number "predicted_kv_growth_bytes" "", .number "hbm_release_bytes" "",
    .number "hbm_capacity_bytes" ""]

def riskReadings : List Reading :=
  [.number "deadline_seconds" "", .number "base_success_probability" ""]

def priceReadings : List Reading :=
  [.number "allocated_gpu" "instance.allocated_gpu", .number "storage_io_bytes" "",
    .number "fixed_cost" "", .number "gpu_second_cost" "", .number "network_byte_cost" "",
    .number "storage_io_byte_cost" ""]

def futureReadings : List Reading :=
  [.number "queue_depth" "runtime.queue_depth", .number "queue_delta" "",
    .number "gpu_utilization" "resource.gpu.util", .text "target_kv_location" "kv.location"]

/-- The readings of a prediction. The last one is its only text. -/
def readings : List Reading :=
  timingReadings ++ (memoryReadings ++ (riskReadings ++ (priceReadings ++ futureReadings)))

section Sections
variable {snapshot : Snapshot} {candidate : CandidateAction}

/-- The rates that the times and the memory miss. -/
def missedRates (snapshot : Snapshot) (candidate : CandidateAction) : ℕ :=
  lost (transferAmount snapshot candidate) (bandwidth snapshot candidate) +
    lost (uncachedTokens snapshot candidate) (prefillRate snapshot candidate) +
    lost (outputTokens snapshot candidate) (decodeRate snapshot candidate)

theorem timing_reads :
    Reads snapshot candidate timingReadings (timing snapshot candidate)
      (fun _ => times snapshot candidate) (missedRates snapshot candidate) := by
  unfold timing missedRates
  rw [Nat.add_assoc]
  refine reads_then (numberOr_reads _ _) ?_
  refine reads_then (numberOr_reads _ _) ?_
  refine reads_then (numberOr_reads _ _) ?_
  refine reads_bind (rate_reads _ _ _) ?_
  refine reads_then (numberOr_reads _ _) ?_
  refine reads_then (numberOr_reads _ _) ?_
  refine reads_bind (rate_reads _ _ _) ?_
  refine reads_then (numberOr_reads _ _) ?_
  exact reads_return (rate_reads _ _ _) _

theorem memory_reads :
    Reads snapshot candidate memoryReadings (memory snapshot candidate)
      (fun _ => hbm snapshot candidate)
      (lost (predictedHbm snapshot candidate) (hbmCapacity snapshot candidate)) := by
  unfold memory
  refine reads_then (numberOr_reads _ _) ?_
  refine reads_then (numberOr_reads _ _) ?_
  refine reads_then (numberOr_reads _ _) ?_
  refine reads_then (numberOr_reads _ _) ?_
  exact reads_return (rate_reads _ _ _) _

theorem risk_reads :
    Reads snapshot candidate riskReadings
      (risk snapshot candidate (times snapshot candidate).e2e (hbm snapshot candidate).hbmPressure)
      (fun _ => risks snapshot candidate) 0 := by
  unfold risk
  refine reads_then (optionalNumber_reads _ _) ?_
  exact reads_return (optionalNumber_reads _ _) _

theorem price_reads :
    Reads snapshot candidate priceReadings
      (price snapshot candidate (times snapshot candidate) (hbm snapshot candidate).predictedHbm)
      (fun _ => charges snapshot candidate) 0 := by
  unfold price
  refine reads_then (numberOr_reads _ _) ?_
  refine reads_then (numberOr_reads _ _) ?_
  refine reads_then (numberOr_reads _ _) ?_
  refine reads_then (numberOr_reads _ _) ?_
  refine reads_then (numberOr_reads _ _) ?_
  exact reads_return (numberOr_reads _ _) _

theorem future_reads :
    Reads snapshot candidate futureReadings (future snapshot candidate (hbm snapshot candidate))
      (fun _ => outlook snapshot candidate) 0 := by
  unfold future
  refine reads_then (optionalNumber_reads _ _) ?_
  refine reads_then (numberOr_reads _ _) ?_
  refine reads_then (optionalNumber_reads _ _) ?_
  exact reads_return (string_reads _ _) _

/-- The required features that a prediction misses. -/
def missed (snapshot : Snapshot) (candidate : CandidateAction) : ℕ :=
  missedRates snapshot candidate +
    lost (predictedHbm snapshot candidate) (hbmCapacity snapshot candidate)

/-- The prediction of a candidate whose features left the final counts. -/
def forecast (snapshot : Snapshot) (candidate : CandidateAction) (lower : String → String)
    (predictionId : String) (features : FeatureResolver) : Prediction :=
  let level := confidence snapshot features
  let decodeTps := (times snapshot candidate).decodeTps
  { snapshotId := snapshot.token
    candidateId := candidate.candidateId
    performance := { ttftSeconds := (times snapshot candidate).ttft
                     tpotSeconds := decodeTps.bind fun tps => if tps = 0 then none else some (1 / tps)
                     e2eSeconds := (times snapshot candidate).e2e
                     throughput := decodeTps
                     transferEtaSeconds := (times snapshot candidate).transferSeconds }
    reliability := { successProbability := (risks snapshot candidate).success
                     oomProbability := (risks snapshot candidate).oom
                     timeoutProbability := (risks snapshot candidate).timeout
                     sloViolationProbability := (risks snapshot candidate).worst }
    cost := charges snapshot candidate
    futureState := outlook snapshot candidate
    confidence := .of level
    applicability := normalizeApplicability lower candidate.actionType
    featureFreshnessMs := .ofList features.freshness
    fallback := if 1 / 2 ≤ level ∧ features.available = features.required then "none" else "baseline"
    notes := features.notes
    predictionId := predictionId }

/-- A prediction checks every reading. -/
theorem predictFeatures_reads (lower : String → String) (predictionId : String) :
    Reads snapshot candidate readings (predictFeatures snapshot candidate lower predictionId)
      (forecast snapshot candidate lower predictionId) (missed snapshot candidate) := by
  have finish : Reads snapshot candidate [] _ _ _ :=
    reads_get (forecast snapshot candidate lower predictionId)
  have seen : readings = timingReadings ++ (memoryReadings ++ (riskReadings ++ (priceReadings ++
      (futureReadings ++ [])))) := rfl
  have counted : missed snapshot candidate = missedRates snapshot candidate +
      (lost (predictedHbm snapshot candidate) (hbmCapacity snapshot candidate) + (0 + 0)) := rfl
  rw [seen, counted]
  exact reads_bind timing_reads (reads_bind memory_reads (reads_then risk_reads
    (reads_then price_reads (reads_bind future_reads finish))))

/-- A clamped confidence stays below a non-negative completeness. -/
theorem confidence_le (features : FeatureResolver)
    (counted : features.available ≤ features.required) :
    confidence snapshot features ≤ max 0 snapshot.completeness := by
  have covered : ∀ coverage : ℚ, 0 ≤ coverage → coverage ≤ 1 →
      clamp (snapshot.completeness * (35 / 100 + 65 / 100 * coverage))
        ≤ max 0 snapshot.completeness := by
    intro coverage nonneg whole
    apply max_le (le_max_left _ _)
    apply (min_le_right _ _).trans
    rcases le_total 0 snapshot.completeness with complete | negative
    · apply le_trans _ (le_max_right _ _)
      exact mul_le_of_le_one_right complete (by linarith)
    · exact (mul_nonpos_of_nonpos_of_nonneg negative (by linarith)).trans (le_max_left _ _)
  unfold confidence
  split
  · exact covered 0 le_rfl zero_le_one
  · apply covered
    · positivity
    · exact div_le_one_of_le₀ (Nat.cast_le.mpr counted) (Nat.cast_nonneg _)

end Sections

/-- Work is starved when its rate is missing or zero. -/
def Starved (work : ℚ) (measured : Option ℚ) : Prop :=
  0 < work ∧ (measured = none ∨ measured = some 0)

theorem rated_eq_none {work : ℚ} (busy : 0 < work) {measured : Option ℚ} :
    rated work measured = none ↔ measured = none ∨ measured = some 0 := by
  unfold rated kept
  cases measured with
  | none => simp
  | some amount => simp [busy]

/-- The rate of work is positive. -/
theorem rated_pos {work rate : ℚ} (busy : 0 < work) {measured : Option ℚ}
    (nonneg : ∀ amount, measured = some amount → 0 ≤ amount)
    (given : rated work measured = some rate) : 0 < rate := by
  unfold rated kept at given
  split at given
  · cases given
  · rename_i apart
    have nonzero : rate ≠ 0 := fun zero => apart ⟨decide_eq_true busy, zero ▸ given⟩
    exact (nonneg rate given).lt_of_ne nonzero.symm

theorem lost_eq_zero {work : ℚ} {measured : Option ℚ} :
    lost work measured = 0 ↔ ¬ Starved work measured := by
  unfold lost left Starved
  by_cases busy : 0 < work
  · have same : rated work measured = none ↔ _ := rated_eq_none busy
    unfold rated at same
    simp only [busy, decide_true, true_and] at same ⊢
    rw [← same]
    simp
  · simp [busy]

/-- A duration is unknown exactly when its work is starved. -/
theorem rateDuration_none {work setup : ℚ} {measured : Option ℚ}
    (nonneg : ∀ amount, measured = some amount → 0 ≤ amount) :
    rateDuration work (rated work measured) setup = none ↔ Starved work measured := by
  unfold rateDuration Starved
  by_cases busy : 0 < work
  · rw [if_neg (not_le.mpr busy)]
    simp only [busy, true_and, ← rated_eq_none busy]
    cases given : rated work measured with
    | none => simp
    | some rate => simp [not_le.mpr (rated_pos busy nonneg given)]
  · simp [not_lt.mp busy, busy]

theorem rateDuration_nonneg {work setup duration : ℚ} {rate : Option ℚ} (early : 0 ≤ setup)
    (known : rateDuration work rate setup = some duration) : 0 ≤ duration := by
  unfold rateDuration at known
  split at known
  · cases known
    exact early
  · rename_i busy
    split at known
    · split at known
      · cases known
      · rename_i rate slow
        cases known
        exact add_nonneg early (div_nonneg (not_le.mp busy).le (not_le.mp slow).le)
    · cases known

/-- A probability lies in the unit interval. -/
def Unit (value : ℚ) : Prop := 0 ≤ value ∧ value ≤ 1

theorem unit_clamp (value : ℚ) : Unit (clamp value) := ⟨clamp_nonneg value, clamp_le_one value⟩

theorem unit_deadlineRisk (duration deadline : ℚ) : Unit (deadlineRisk duration deadline) := by
  unfold deadlineRisk
  split
  · exact ⟨zero_le_one, le_rfl⟩
  · exact unit_clamp _

theorem unit_successProbability {base oom timeout : Option ℚ} {value : ℚ}
    (known : successProbability base oom timeout = some value) : Unit value := by
  unfold successProbability at known
  split at known
  · cases known
  · cases known
    exact unit_clamp _

section Ranges
variable {snapshot : Snapshot} {candidate : CandidateAction}

theorem measure_nonneg {parameter canonicalKey : String} {amount : ℚ}
    (known : measure snapshot candidate parameter canonicalKey = some amount) : 0 ≤ amount := by
  unfold measure at known
  obtain ⟨value, -, read⟩ := Option.bind_eq_some_iff.mp known
  cases counted : numeric value with
  | error exception => rw [counted] at read; cases read
  | ok found =>
      rw [counted] at read
      cases read
      exact numeric_nonneg counted

/-- The latency is unknown exactly when some work is starved. -/
theorem e2e_none :
    (times snapshot candidate).e2e = none ↔
      Starved (transferAmount snapshot candidate) (bandwidth snapshot candidate) ∨
      Starved (uncachedTokens snapshot candidate) (prefillRate snapshot candidate) ∨
      Starved (outputTokens snapshot candidate) (decodeRate snapshot candidate) := by
  have transferred : (times snapshot candidate).transferSeconds = none ↔ _ :=
    rateDuration_none fun _ => measure_nonneg
  have prefilled : (times snapshot candidate).prefillSeconds = none ↔ _ :=
    rateDuration_none fun _ => measure_nonneg
  have decoded : (times snapshot candidate).decodeSeconds = none ↔ _ :=
    rateDuration_none fun _ => measure_nonneg
  simp only [bandwidth, prefillRate, decodeRate] at *
  rw [← transferred, ← prefilled, ← decoded]
  unfold Timing.e2e Timing.ttft
  cases (times snapshot candidate).transferSeconds <;>
    cases (times snapshot candidate).prefillSeconds <;>
    cases (times snapshot candidate).decodeSeconds <;> simp

/-- The decode time separates the first token from the last one. -/
theorem ttft_le_e2e {ttft e2e : ℚ} (first : (times snapshot candidate).ttft = some ttft)
    (last : (times snapshot candidate).e2e = some e2e) : ttft ≤ e2e := by
  unfold Timing.e2e at last
  rw [first] at last
  obtain ⟨_, ⟨⟩, rest⟩ := Option.bind_eq_some_iff.mp last
  obtain ⟨decode, decoded, ⟨⟩⟩ := Option.bind_eq_some_iff.mp rest
  exact le_add_of_nonneg_right (rateDuration_nonneg le_rfl decoded)

/-- The pressure is known when the memory has a positive capacity. -/
theorem pressure_known (fed : ¬ Starved (predictedHbm snapshot candidate)
      (hbmCapacity snapshot candidate)) (demand : 0 < predictedHbm snapshot candidate) :
    (hbm snapshot candidate).hbmPressure.isSome = true := by
  cases given : rated (predictedHbm snapshot candidate) (hbmCapacity snapshot candidate) with
  | none => exact absurd ⟨demand, (rated_eq_none demand).mp given⟩ fed
  | some capacity =>
      have positive : 0 < capacity := rated_pos demand (fun _ => measure_nonneg) given
      simp only [hbm, given, if_pos positive, Option.isSome_some]

/-- The ranges of a prediction from the quantities of its snapshot and its candidate. -/
structure Ranges (snapshot : Snapshot) (candidate : CandidateAction) (prediction : Prediction) :
    Prop where
  probabilities : ∀ probability ∈ [prediction.reliability.successProbability,
    prediction.reliability.oomProbability, prediction.reliability.timeoutProbability,
    prediction.reliability.sloViolationProbability], ∀ value, probability = some value → Unit value
  confidence : prediction.confidence.value ≤ max 0 snapshot.completeness
  latency : prediction.performance.e2eSeconds = none ↔
    Starved (transferAmount snapshot candidate) (bandwidth snapshot candidate) ∨
    Starved (uncachedTokens snapshot candidate) (prefillRate snapshot candidate) ∨
    Starved (outputTokens snapshot candidate) (decodeRate snapshot candidate)
  ttft : ∀ first last, prediction.performance.ttftSeconds = some first →
    prediction.performance.e2eSeconds = some last → first ≤ last
  costs : prediction.performance.e2eSeconds = none → prediction.cost.gpuSeconds = none ∧
    prediction.cost.memoryTime = none ∧ prediction.cost.monetaryCost = none
  demand : prediction.futureState.values.lookup "predicted_hbm_bytes"
    = some (predictedHbm snapshot candidate)
  fallback : prediction.fallback = "none" → prediction.performance.e2eSeconds ≠ none ∧
    (0 < predictedHbm snapshot candidate → prediction.futureState.hbmPressure ≠ none)

/-- Each risk of a candidate is a probability. -/
theorem risks_unit {value : ℚ} :
    ((risks snapshot candidate).oom = some value → Unit value) ∧
    ((risks snapshot candidate).timeout = some value → Unit value) ∧
    ((risks snapshot candidate).worst = some value → Unit value) := by
  have oom : ∀ value, (risks snapshot candidate).oom = some value → Unit value := by
    intro value known
    obtain ⟨pressure, -, rfl⟩ := Option.map_eq_some_iff.mp known
    exact unit_clamp _
  have timeout : ∀ value, (risks snapshot candidate).timeout = some value → Unit value := by
    intro value known
    obtain ⟨duration, -, rest⟩ := Option.bind_eq_some_iff.mp known
    obtain ⟨deadline, -, ⟨⟩⟩ := Option.bind_eq_some_iff.mp rest
    exact unit_deadlineRisk _ _
  refine ⟨oom value, timeout value, fun known => ?_⟩
  unfold Risk.worst at known
  split at known
  · rename_i first second shown late
    cases known
    rcases max_choice first second with same | same <;> rw [same]
    · exact oom _ shown
    · exact timeout _ late
  · rename_i first shown late
    cases known
    exact oom _ shown
  · exact timeout _ known

/-- The final counts of a prediction put its forecast into its ranges. -/
theorem forecast_ranges {lower : String → String} {predictionId : String}
    {features : FeatureResolver}
    (tally : features.required = features.available + missed snapshot candidate) :
    Ranges snapshot candidate (forecast snapshot candidate lower predictionId features) := by
  constructor
  case probabilities =>
    intro probability member value known
    simp only [forecast, List.mem_cons, List.not_mem_nil, or_false] at member
    rcases member with rfl | rfl | rfl | rfl
    · exact unit_successProbability known
    · exact risks_unit.1 known
    · exact risks_unit.2.1 known
    · exact risks_unit.2.2 known
  case confidence =>
    have bounded : confidence snapshot features ≤ _ := confidence_le features (by omega)
    exact max_le (le_max_left _ _) ((min_le_right _ _).trans bounded)
  case latency => exact e2e_none
  case ttft => exact fun first last => ttft_le_e2e
  case costs =>
    intro unknown
    simp only [forecast] at unknown ⊢
    simp only [charges, unknown, Option.map_none, and_self]
  case demand => exact Mapping.lookup_ofList _ _
  case fallback =>
    intro chosen
    have complete : features.available = features.required := by
      by_contra apart
      simp only [forecast, apart, and_false, if_false] at chosen
      exact absurd chosen (by decide)
    have nothing : missed snapshot candidate = 0 := by omega
    simp only [missed, missedRates, Nat.add_eq_zero_iff, lost_eq_zero] at nothing
    obtain ⟨⟨⟨transfer, prefill⟩, decode⟩, memory⟩ := nothing
    refine ⟨fun unknown => ?_, fun demand unknown => ?_⟩
    · exact (e2e_none.mp unknown).elim transfer (Or.elim · prefill decode)
    · have known := pressure_known memory demand
      rw [show (hbm snapshot candidate).hbmPressure = none from unknown] at known
      cases known

end Ranges

/-- A failing reading is not readable. -/
theorem Reading.Fails.unreadable {snapshot : Snapshot} {candidate : CandidateAction}
    {reading : Reading} {exception : Exception} (fails : reading.Fails snapshot candidate exception) :
    ¬ reading.Readable snapshot candidate := by
  cases reading with
  | number parameter canonicalKey =>
      obtain ⟨value, known, uncounted, _⟩ := fails
      intro readable
      obtain ⟨amount, counted⟩ := readable value known
      exact uncounted amount counted
  | text parameter canonicalKey =>
      obtain ⟨value, known, unread, _⟩ := fails
      intro readable
      obtain ⟨text, shown⟩ := readable value known
      cases unread.symm.trans shown

/-- A missing feature is always valid. -/
def Reading.missing (snapshot : Snapshot) (candidate : CandidateAction) : Reading → Bool
  | .number parameter canonicalKey | .text parameter canonicalKey =>
      (feature snapshot candidate parameter canonicalKey).isNone

theorem Reading.readable_of_missing {snapshot : Snapshot} {candidate : CandidateAction}
    {reading : Reading} (missing : reading.missing snapshot candidate = true) :
    reading.Readable snapshot candidate := by
  cases reading with
  | number parameter canonicalKey | text parameter canonicalKey =>
      intro value known
      rw [Reading.missing, known] at missing
      cases missing

/-- This snapshot holds no value. -/
def bareSnapshot (completeness : ℚ) : Snapshot where
  token := "snapshot"
  logicalTime := 0
  createdAt := 0
  completeness := completeness
  values := []

def proposal (parameters : List (String × Value)) : CandidateAction where
  actionType := "route"
  targetComponent := "instance:a"
  parameters := parameters
  candidateId := "candidate"

end StateFlow.Predictions
