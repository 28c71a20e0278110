import StateFlow.Construction.Prediction.Model

namespace StateFlow.Predictions
open Python Table Effect State Plane

section Numeric

/-- A value stands for a number. -/
def Denotes (value : Value) (amount : ℚ) : Prop :=
  value = .float amount ∨ ∃ count : Int, value = .int count ∧ amount = count

/-- A readable feature stands for a non-negative number in the range of the doubles. -/
theorem numeric_ok {value : Value} {amount : ℚ} (read : numeric value = .ok amount) :
    0 ≤ amount ∧ (value = .float amount ∨
      ∃ count : Int, value = .int count ∧ amount = count ∧ count < floatLimit) := by
  cases value with
  | int number =>
      obtain ⟨shown, converted, rest⟩ := except_bind_ok read
      obtain ⟨⟨_, small⟩, rfl⟩ := floatOfInt_ok_iff.mp converted
      split at rest
      · cases rest
        exact ⟨‹_›, .inr ⟨number, rfl, rfl, small⟩⟩
      · cases rest
  | float number =>
      simp only [numeric] at read
      split at read
      · cases read
        exact ⟨‹_›, .inl rfl⟩
      · cases read
  | _ => cases read

theorem numeric_nonneg {value : Value} {amount : ℚ} (read : numeric value = .ok amount) :
    0 ≤ amount := (numeric_ok read).1

/-- A value is read as the number that it stands for. -/
theorem Denotes.read {value : Value} {amount other : ℚ} (denotes : Denotes value amount)
    (read : numeric value = .ok other) : other = amount := by
  obtain ⟨-, shown⟩ := numeric_ok read
  rcases denotes with rfl | ⟨count, rfl, rfl⟩
  · rcases shown with same | ⟨_, same, _⟩
    · exact (Value.float.inj same).symm
    · cases same
  · rcases shown with same | ⟨_, same, rfl, _⟩
    · cases same
    · rw [Value.int.inj same]

theorem numeric_float {amount : ℚ} (nonneg : 0 ≤ amount) :
    numeric (.float amount) = .ok amount := if_pos nonneg

theorem numeric_int {amount : Int} (nonneg : 0 ≤ amount) (small : amount < floatLimit) :
    numeric (.int amount) = .ok (amount : ℚ) := by
  have inside : -floatLimit < amount := by
    have positive : 0 < floatLimit := by decide +kernel
    omega
  have converted := floatOfInt_ok_iff.mpr ⟨⟨inside, small⟩, rfl⟩
  change (floatOfInt amount >>= fun number =>
    if 0 ≤ number then pure number else throw Exception.valueError) = _
  rw [converted]
  exact if_pos (Int.cast_nonneg nonneg)

end Numeric

section Features
variable {snapshot : Snapshot} {candidate : CandidateAction}

/-- A parameter hides the snapshot and leaves the features as they are. -/
theorem resolve_parameter {parameter : String} {value : Value}
    (present : candidate.parameters.lookup parameter = some value) (canonicalKey : String)
    (features : FeatureResolver) :
    resolve snapshot candidate parameter canonicalKey features = .ok (some value) features := by
  unfold resolve
  rw [present]
  rfl

/-- A missing parameter without a canonical key resolves to nothing. -/
theorem resolve_absent {parameter : String} (absent : candidate.parameters.lookup parameter = none)
    (features : FeatureResolver) :
    resolve snapshot candidate parameter "" features = .ok none features := by
  unfold resolve
  rw [absent]
  rfl

/-- A readable parameter is the number unless a positive feature finds zero. -/
theorem number_parameter {parameter canonicalKey : String} {value : Value} {amount : ℚ}
    (present : candidate.parameters.lookup parameter = some value)
    (denotes : Denotes value amount) {default : Option ℚ} {required positive : Bool}
    (kept : positive = true → amount ≠ 0) {features next : FeatureResolver} {result : Option ℚ}
    (returned : number snapshot candidate parameter canonicalKey default required positive features
      = .ok result next) : result = some amount := by
  unfold number at returned
  obtain ⟨resolved, _, ran, rest⟩ := bind_ok returned
  rw [resolve_parameter present] at ran
  cases ran
  have allowed : (positive && decide (amount = 0)) = false := by
    cases positive <;> simp_all
  cases value with
  | int _ | float _ =>
      cases required
      · obtain ⟨_, _, ran, rest⟩ := bind_ok rest
        obtain ⟨same, rfl⟩ := lift_ok ran
        cases denotes.read same
        rw [allowed] at rest
        cases rest
        rfl
      · obtain ⟨_, _, _, rest⟩ := bind_ok rest
        obtain ⟨_, _, ran, rest⟩ := bind_ok rest
        obtain ⟨same, rfl⟩ := lift_ok ran
        cases denotes.read same
        rw [allowed] at rest
        cases rest
        rfl
  | _ => rcases denotes with other | ⟨_, other, _⟩ <;> cases other

theorem numberOr_parameter {parameter canonicalKey : String} {value : Value} {amount default : ℚ}
    (present : candidate.parameters.lookup parameter = some value)
    (denotes : Denotes value amount) {features next : FeatureResolver} {result : ℚ}
    (returned : numberOr snapshot candidate parameter canonicalKey default features
      = .ok result next) : result = amount := by
  unfold numberOr at returned
  obtain ⟨found, _, ran, rest⟩ := bind_ok returned
  cases number_parameter present denotes (by simp) ran
  cases rest
  rfl

/-- A rate without its parameter stays unknown. -/
theorem rate_absent {parameter : String} (absent : candidate.parameters.lookup parameter = none)
    {amount : ℚ} {features next : FeatureResolver} {result : Option ℚ}
    (returned : rate snapshot candidate parameter "" amount features = .ok result next) :
    result = none := by
  unfold rate number at returned
  obtain ⟨value, middle, resolved, rest⟩ := bind_ok returned
  rw [resolve_absent absent] at resolved
  cases resolved
  by_cases busy : 0 < amount
  · simp only [busy, decide_true] at rest
    cases rest
    rfl
  · simp only [busy, decide_false] at rest
    cases rest
    rfl

/-- A nonzero parameter is the rate. -/
theorem rate_parameter {parameter canonicalKey : String} {value : Value} {amount work : ℚ}
    (present : candidate.parameters.lookup parameter = some value)
    (denotes : Denotes value amount) (nonzero : amount ≠ 0) {features next : FeatureResolver}
    {result : Option ℚ}
    (returned : rate snapshot candidate parameter canonicalKey work features = .ok result next) :
    result = some amount :=
  number_parameter present denotes (fun _ => nonzero) returned

/-- The predicted pressure is that of the memory of the candidate. -/
theorem predictFeatures_pressure {lower : String → String} {predictionId : String}
    {features next : FeatureResolver} {prediction : Prediction}
    (returned : predictFeatures snapshot candidate lower predictionId features
      = .ok prediction next) :
    ∃ hbm middle last, memory snapshot candidate middle = .ok hbm last ∧
      prediction.futureState.hbmPressure = hbm.hbmPressure := by
  unfold predictFeatures at returned
  obtain ⟨times, _, _, rest⟩ := bind_ok returned
  obtain ⟨hbm, _, measured, rest⟩ := bind_ok rest
  obtain ⟨risk, _, _, rest⟩ := bind_ok rest
  obtain ⟨cost, _, _, rest⟩ := bind_ok rest
  obtain ⟨future, _, foreseen, rest⟩ := bind_ok rest
  refine ⟨hbm, _, _, measured, ?_⟩
  have kept : future.hbmPressure = hbm.hbmPressure := by
    unfold Predictions.future at foreseen
    obtain ⟨_, _, _, foreseen⟩ := bind_ok foreseen
    obtain ⟨_, _, _, foreseen⟩ := bind_ok foreseen
    obtain ⟨_, _, _, foreseen⟩ := bind_ok foreseen
    obtain ⟨_, _, _, foreseen⟩ := bind_ok foreseen
    cases foreseen
    rfl
  rw [← kept]
  obtain ⟨_, _, _, rest⟩ := bind_ok rest
  cases rest
  rfl

/-- The parameters of a candidate that fill its memory. -/
structure MemoryParameters (candidate : CandidateAction) (used reserved growth release : ℚ) :
    Prop where
  used : ∃ value, candidate.parameters.lookup "hbm_used_bytes" = some value ∧
    Denotes value used
  reserved : ∃ value, candidate.parameters.lookup "hbm_reserved_bytes" = some value ∧
    Denotes value reserved
  growth : ∃ value, candidate.parameters.lookup "predicted_kv_growth_bytes" = some value ∧
    Denotes value growth
  release : ∃ value, candidate.parameters.lookup "hbm_release_bytes" = some value ∧
    Denotes value release

/-- A known pressure belongs to a known capacity. -/
theorem memory_pressure {used reserved growth release : ℚ}
    (filled : MemoryParameters candidate used reserved growth release)
    {features next : FeatureResolver} {hbm : Memory}
    (returned : memory snapshot candidate features = .ok hbm next) {pressure : ℚ}
    (known : hbm.hbmPressure = some pressure) :
    ∃ capacity middle last,
      rate snapshot candidate "hbm_capacity_bytes" "" (max 0 (used + reserved + growth - release))
        middle = .ok (some capacity) last ∧ 0 < capacity ∧
      pressure = max 0 (used + reserved + growth - release) / capacity := by
  obtain ⟨⟨_, hasUsed, readUsed⟩, ⟨_, hasReserved, readReserved⟩, ⟨_, hasGrowth, readGrowth⟩,
    ⟨_, hasRelease, readRelease⟩⟩ := filled
  unfold memory at returned
  obtain ⟨_, _, ran, rest⟩ := bind_ok returned
  cases numberOr_parameter hasUsed readUsed ran
  obtain ⟨_, _, ran, rest⟩ := bind_ok rest
  cases numberOr_parameter hasReserved readReserved ran
  obtain ⟨_, _, ran, rest⟩ := bind_ok rest
  cases numberOr_parameter hasGrowth readGrowth ran
  obtain ⟨_, _, ran, rest⟩ := bind_ok rest
  cases numberOr_parameter hasRelease readRelease ran
  obtain ⟨capacity, _, ran, rest⟩ := bind_ok rest
  cases rest
  cases capacity with
  | none => cases known
  | some capacity =>
      by_cases positive : 0 < capacity
      · simp only [positive, if_true, Option.some.injEq] at known
        exact ⟨capacity, _, _, ran, positive, known.symm⟩
      · simp only [positive, if_false] at known
        cases known

end Features

end StateFlow.Predictions
