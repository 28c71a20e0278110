import StateFlow.Construction.Prediction.Contracts
import StateFlow.Construction.Plane.Contracts
import StateFlow.Library.Double
import StateFlow.Library.Effect

namespace StateFlow.Predictions
open Python Table Effect State Plane

/-- The resolver counts its required features and remembers ages and notes. -/
structure FeatureResolver where
  freshness : List (String × Int) := []
  notes : List String := []
  required : Nat := 0
  available : Nat := 0

abbrev Resolve (A : Type) := EStateM Exception FeatureResolver A

def note (text : String) : Resolve Unit :=
  modify fun features => { features with notes := features.notes ++ [text] }

section Features
variable (snapshot : Snapshot) (candidate : CandidateAction)

/-- The values of a key, and those of the target component among them. -/
def matching (key : String) : List StateValue := snapshot.values.filter fun item => item.key = key

def exactly (key : String) : List StateValue :=
  (matching snapshot key).filter fun item => item.entityRef = candidate.targetComponent

/-- A single value of another entity stands in for a missing value of the target. -/
def selectValue (key : String) : Resolve (Option StateValue) :=
  match exactly snapshot candidate key, matching snapshot key with
  | [value], _ => pure (some value)
  | _, [value] => pure (some value)
  | _, [] => pure none
  | _, _ => do
      note ("ambiguous_feature:" ++ key)
      return none

/-- The whole milliseconds of a duration. Its seconds and their product with 1000 are doubles. -/
def wholeMilliseconds (micros : Int) : Int :=
  let milliseconds := Double.nearest (Double.nearest ((micros : ℚ) / 1000000) * 1000)
  if 0 ≤ milliseconds then ⌊milliseconds⌋ else ⌈milliseconds⌉

/-- A parameter of the candidate hides the snapshot. -/
def resolve (parameter canonicalKey : String) : Resolve (Option Value) := do
  match candidate.parameters.lookup parameter with
  | some value => return some value
  | none =>
      if canonicalKey = "" then return none
      match ← selectValue snapshot candidate canonicalKey with
      | none => return none
      | some selected =>
          let age := max 0 (wholeMilliseconds (snapshot.createdAt - selected.timestamp))
          modify fun features =>
            { features with freshness := assign canonicalKey age features.freshness }
          return some selected.value

/-- A feature is a finite non-negative number. A boolean is not a number, and an integer has to fit
a double. An infinite float is one of the objects that the last branch rejects. -/
def numeric : Value → Except Exception ℚ
  | .int value => do
      let number ← floatOfInt value
      if 0 ≤ number then return number else throw .valueError
  | .float value => if 0 ≤ value then .ok value else .error .valueError
  | _ => .error .valueError

def featureName (parameter canonicalKey : String) : String :=
  if canonicalKey = "" then parameter else canonicalKey

/-- A missing feature takes its default. A positive one rejects zero. -/
def number (parameter canonicalKey : String) (default : Option ℚ) (required positive : Bool) :
    Resolve (Option ℚ) := do
  let value ← resolve snapshot candidate parameter canonicalKey
  if required then modify fun features => { features with required := features.required + 1 }
  match value with
  | some .none | none =>
      if required then note ("missing_feature:" ++ featureName parameter canonicalKey)
      return default
  | some value =>
      let result ← lift (numeric value)
      if positive && result = 0 then
        if required then note ("invalid_feature:" ++ featureName parameter canonicalKey)
        return default
      if required then modify fun features => { features with available := features.available + 1 }
      return some result

/-- A feature with a default always has a value. -/
def numberOr (parameter canonicalKey : String) (default : ℚ) : Resolve ℚ := do
  return (← number snapshot candidate parameter canonicalKey (some default) false false).getD default

def optionalNumber (parameter canonicalKey : String) : Resolve (Option ℚ) :=
  number snapshot candidate parameter canonicalKey none false false

/-- A rate is required and positive when there is work for it. -/
def rate (parameter canonicalKey : String) (amount : ℚ) : Resolve (Option ℚ) :=
  number snapshot candidate parameter canonicalKey none (decide (0 < amount)) (decide (0 < amount))

def string (parameter canonicalKey : String) : Resolve (Option String) := do
  match ← resolve snapshot candidate parameter canonicalKey with
  | some .none | none => return none
  | some value =>
      match value.text? with
      | some text => return some text
      | none => throw .valueError

def confidence (features : FeatureResolver) : ℚ :=
  let coverage : ℚ := if features.required = 0 then 0 else features.available / features.required
  clamp (snapshot.completeness * (35 / 100 + 65 / 100 * coverage))

def rateDuration (amount : ℚ) (rate : Option ℚ) (setup : ℚ) : Option ℚ :=
  if amount ≤ 0 then some setup
  else match rate with
    | some rate => if rate ≤ 0 then none else some (setup + amount / rate)
    | none => none

def deadlineRisk (duration deadline : ℚ) : ℚ :=
  if deadline ≤ 0 then 1 else clamp ((duration / deadline - 8 / 10) / (2 / 10))

def successProbability (base oom timeout : Option ℚ) : Option ℚ :=
  if base.isNone && oom.isNone && timeout.isNone then none
  else
    let survive (result : ℚ) (risk : Option ℚ) : ℚ :=
      match risk with
      | some risk => result * (1 - clamp risk)
      | none => result
    some (clamp (survive (survive (clamp (base.getD 1)) oom) timeout))

def normalizeApplicability (lower : String → String) (actionType : String) : String :=
  let normalized := lower actionType
  if normalized ∈ ["route", "admit", "fallback"] then "routing"
  else if normalized ∈ ["keep", "offload", "prefetch", "migrate"] then "kv"
  else if normalized = "" then "unknown" else normalized

/-- The work of a candidate and the times that its rates allow. -/
structure Timing where
  transferBytes : ℚ
  queueSeconds : ℚ
  transferSeconds : Option ℚ
  prefillSeconds : Option ℚ
  decodeSeconds : Option ℚ
  decodeTps : Option ℚ

def timing : Resolve Timing := do
  let queueSeconds ← numberOr snapshot candidate "queue_seconds" "request.queue_time" 0
  let transferBytes ← numberOr snapshot candidate "transfer_bytes" "kv.size" 0
  let transferSetup ← numberOr snapshot candidate "transfer_setup_seconds" "" 0
  let effectiveBw ← rate snapshot candidate "effective_bw_bytes_per_second" "link.effective_bw"
    transferBytes
  let promptTokens ← numberOr snapshot candidate "prompt_tokens" "request.context_tokens" 0
  let cachedTokens ← numberOr snapshot candidate "cached_tokens" "" 0
  let prefillTokens := max 0 (promptTokens - min promptTokens cachedTokens)
  let prefillTps ← rate snapshot candidate "prefill_tokens_per_second" "runtime.prefill_tps"
    prefillTokens
  let outputTokens ← numberOr snapshot candidate "expected_output_tokens"
    "request.expected_output_tokens" 0
  let decodeTps ← rate snapshot candidate "decode_tokens_per_second" "runtime.decode_tps" outputTokens
  return {
    transferBytes := transferBytes
    queueSeconds := queueSeconds
    transferSeconds := rateDuration transferBytes effectiveBw transferSetup
    prefillSeconds := rateDuration prefillTokens prefillTps 0
    decodeSeconds := rateDuration outputTokens decodeTps 0
    decodeTps := decodeTps }

/-- A sum of parts is known when every part is. -/
def Timing.ttft (times : Timing) : Option ℚ := do
  return times.queueSeconds + (← times.transferSeconds) + (← times.prefillSeconds)

def Timing.e2e (times : Timing) : Option ℚ := do
  return (← times.ttft) + (← times.decodeSeconds)

/-- The memory that the target needs and its share of the capacity. -/
structure Memory where
  predictedHbm : ℚ
  hbmPressure : Option ℚ

def memory : Resolve Memory := do
  let used ← numberOr snapshot candidate "hbm_used_bytes" "resource.hbm.used" 0
  let reserved ← numberOr snapshot candidate "hbm_reserved_bytes" "resource.hbm.reserved" 0
  let growth ← numberOr snapshot candidate "predicted_kv_growth_bytes" "" 0
  let release ← numberOr snapshot candidate "hbm_release_bytes" "" 0
  let predictedHbm := max 0 (used + reserved + growth - release)
  let capacity ← rate snapshot candidate "hbm_capacity_bytes" "" predictedHbm
  return {
    predictedHbm := predictedHbm
    hbmPressure := match capacity with
      | some capacity => if 0 < capacity then some (predictedHbm / capacity) else none
      | none => none }

/-- The risks of a candidate. -/
structure Risk where
  oom : Option ℚ
  timeout : Option ℚ
  success : Option ℚ

def risk (e2e hbmPressure : Option ℚ) : Resolve Risk := do
  let deadline ← optionalNumber snapshot candidate "deadline_seconds" ""
  let oom := hbmPressure.map fun pressure => clamp (max 0 (pressure - 9 / 10) * 2)
  let timeout := do return deadlineRisk (← e2e) (← deadline)
  let base ← optionalNumber snapshot candidate "base_success_probability" ""
  return ⟨oom, timeout, successProbability base oom timeout⟩

def Risk.worst (risk : Risk) : Option ℚ :=
  match risk.oom, risk.timeout with
  | some oom, some timeout => some (max oom timeout)
  | some oom, none => some oom
  | none, timeout => timeout

def price (times : Timing) (predictedHbm : ℚ) : Resolve CostPrediction := do
  let allocatedGpu ← numberOr snapshot candidate "allocated_gpu" "instance.allocated_gpu" 0
  let gpuSeconds := times.e2e.map fun seconds => seconds * allocatedGpu
  let storageIo ← numberOr snapshot candidate "storage_io_bytes" "" 0
  let fixed ← numberOr snapshot candidate "fixed_cost" "" 0
  let gpuRate ← numberOr snapshot candidate "gpu_second_cost" "" 0
  let networkRate ← numberOr snapshot candidate "network_byte_cost" "" 0
  let storageRate ← numberOr snapshot candidate "storage_io_byte_cost" "" 0
  return {
    gpuSeconds := gpuSeconds
    memoryTime := times.e2e.map fun seconds => predictedHbm * seconds
    networkBytes := some ⌊times.transferBytes⌋
    storageIoBytes := some ⌊storageIo⌋
    monetaryCost := gpuSeconds.map fun seconds =>
      fixed + seconds * gpuRate + times.transferBytes * networkRate + storageIo * storageRate }

def future (hbm : Memory) : Resolve FutureStatePrediction := do
  let queueDepth ← optionalNumber snapshot candidate "queue_depth" "runtime.queue_depth"
  let queueDelta ← numberOr snapshot candidate "queue_delta" "" 0
  let gpuUtil ← optionalNumber snapshot candidate "gpu_utilization" "resource.gpu.util"
  let kvLocation ← string snapshot candidate "target_kv_location" "kv.location"
  return {
    queueDepth := queueDepth.map fun depth => depth + queueDelta
    hbmPressure := hbm.hbmPressure
    kvLocation := kvLocation
    demand := queueDepth
    contention := gpuUtil
    values := .ofList [("predicted_hbm_bytes", hbm.predictedHbm)] }

def predictFeatures (lower : String → String) (predictionId : String) : Resolve Prediction := do
  let times ← timing snapshot candidate
  let hbm ← memory snapshot candidate
  let risk ← risk snapshot candidate times.e2e hbm.hbmPressure
  let cost ← price snapshot candidate times hbm.predictedHbm
  let future ← future snapshot candidate hbm
  let features ← get
  let level := confidence snapshot features
  return {
    snapshotId := snapshot.token
    candidateId := candidate.candidateId
    performance := { ttftSeconds := times.ttft
                     tpotSeconds := times.decodeTps.bind fun tps => if tps = 0 then none else some (1 / tps)
                     e2eSeconds := times.e2e
                     throughput := times.decodeTps
                     transferEtaSeconds := times.transferSeconds }
    reliability := { successProbability := risk.success
                     oomProbability := risk.oom
                     timeoutProbability := risk.timeout
                     sloViolationProbability := risk.worst }
    cost := cost
    futureState := future
    confidence := .of level
    applicability := normalizeApplicability lower candidate.actionType
    featureFreshnessMs := .ofList features.freshness
    fallback := if 1 / 2 ≤ level ∧ features.available = features.required then "none" else "baseline"
    notes := features.notes
    predictionId := predictionId }

/-- `predict` resolves every feature of a candidate against a snapshot. -/
def predict (lower : String → String) (predictionId : String) : Except Exception Prediction :=
  match predictFeatures snapshot candidate lower predictionId {} with
  | .ok prediction _ => .ok prediction
  | .error exception _ => .error exception

end Features

end StateFlow.Predictions
