import StateFlow.Construction.State.Event
import StateFlow.Proof.Plane.Wire
import StateFlow.Proof.State.Progress

namespace StateFlow.State
open Python Table Effect Calendar Double

/-- A double within half a microsecond keeps a duration of up to 2 ^ 32 seconds. -/
theorem roundHalfEven_totalSeconds {micros : Int} (short : |micros| ≤ 2 ^ 32 * 1000000) :
    roundHalfEven (Plane.totalSeconds micros * 1000000) = micros := by
  by_cases zero : micros = 0
  · subst zero
    simpa [Plane.totalSeconds] using roundHalfEven_intCast 0
  have nonzero : (micros : ℚ) / 1000000 ≠ 0 :=
    div_ne_zero (by exact_mod_cast zero) (by norm_num)
  obtain ⟨bits, _⟩ := ulp_bounds nonzero
  have size : |(micros : ℚ) / 1000000| ≤ 2 ^ 32 := by
    rw [abs_div, abs_of_pos (by norm_num : (0 : ℚ) < 1000000), div_le_iff₀ (by norm_num)]
    exact_mod_cast short
  have positive := ulp_pos ((micros : ℚ) / 1000000)
  unfold Plane.totalSeconds nearest
  generalize ulp ((micros : ℚ) / 1000000) = spacing at bits positive
  have exact : (micros : ℚ) = (micros : ℚ) / 1000000 / spacing * (spacing * 1000000) := by
    field_simp
  generalize (micros : ℚ) / 1000000 / spacing = significand at exact
  have narrow : spacing * 1000000 < 1 := by linarith
  have wide : 0 < spacing * 1000000 := by positivity
  apply roundHalfEven_of_near
  have moved : (roundHalfEven significand : ℚ) * spacing * 1000000 - micros =
      (roundHalfEven significand - significand) * (spacing * 1000000) := by
    rw [exact]
    ring
  rw [moved, abs_mul, abs_of_pos wide]
  calc |(roundHalfEven significand : ℚ) - significand| * (spacing * 1000000)
      ≤ 1 / 2 * (spacing * 1000000) :=
        mul_le_mul_of_nonneg_right (abs_roundHalfEven_sub_le significand) wide.le
    _ < 1 / 2 := by linarith

/-- An event whose payload and sequence number are JSON values, with a clock that shows its instant. The
double of its lifetime keeps the microseconds. -/
structure Reportable (event : AgentStateEvent) (clock : DateTime) : Prop where
  payload : Plane.isJsonEntries event.payload = true
  sequence : Plane.isJson event.sequence = true
  shows : clock.instant = event.observedAt
  short : ∀ ttl, event.ttl = some ttl → |ttl| ≤ 2 ^ 32 * 1000000

/-- The values of an event under their names. A timestamp and a lifetime have several forms. -/
def AgentStateEvent.entries (event : AgentStateEvent) (observed lifetime : Value) :
    List (String × Value) :=
  [("event_type", .str event.eventType), ("session_id", .str event.sessionId),
    ("task_id", .str event.taskId), ("turn_id", .int event.turnId), ("step_id", .str event.stepId),
    ("request_id", .str event.requestId), ("attempt_id", .str event.attemptId),
    ("parent_step_id", .str event.parentStepId), ("trace_id", .str event.traceId),
    ("source", .str event.source), ("observed_at", observed), ("epoch", .int event.epoch),
    ("sequence", event.sequence), ("payload", .dict event.payload),
    ("confidence", .float event.confidence), ("ttl", lifetime),
    ("authoritative", .bool event.authoritative)]

def AgentStateEvent.fields (event : AgentStateEvent) : List (String × Value) :=
  event.entries (.datetime event.observedAt) ((event.ttl.map Value.timedelta).getD .none)

theorem eventOf_fields (event : AgentStateEvent) : eventOf event.fields = some event := by
  obtain ⟨_, _, _, _, _, _, _, _, _, _, _, _, _, _, _, ttl, _⟩ := event
  cases ttl <;> rfl

theorem observedOf_timestampText {clock : DateTime} {instant : Int} (shows : clock.instant = instant) :
    observedOf (Plane.timestampText clock) = .ok (.datetime instant) := by
  have letters : Plane.replaceZulu clock.isoformat = clock.isoformat := by
    unfold Plane.replaceZulu
    have single : ∀ letter ∈ clock.isoformat,
        (if letter = 'Z' then "+00:00".toList else [letter]) = [letter] :=
      fun letter member => if_neg (isoformat_ne_zulu member)
    rw [List.flatMap_congr single]
    exact List.flatMap_singleton' _
  unfold observedOf Plane.timestampText
  simp only [String.toList_ofList, letters, fromisoformat_isoformat, shows]

theorem lifetimeOf_secondsValue {ttl : Option Int}
    (short : ∀ micros, ttl = some micros → |micros| ≤ 2 ^ 32 * 1000000) :
    lifetimeOf (Plane.secondsValue ttl) = .ok ((ttl.map Value.timedelta).getD .none) := by
  cases ttl with
  | none => rfl
  | some micros =>
      have bounded := short micros rfl
      obtain ⟨low, high⟩ := abs_le.mp bounded
      change timedeltaOfSeconds (Plane.totalSeconds micros) = _
      rw [timedeltaOfSeconds, roundHalfEven_totalSeconds bounded]
      exact if_pos ⟨by unfold maxTimedelta; omega, by unfold maxTimedelta; omega⟩

/-- A mapping with all fields of an event only converts its timestamp and its lifetime. -/
theorem fromMapping_entries {event : AgentStateEvent} {observed lifetime instant duration : Value}
    (dated : observedOf observed = .ok instant) (lasts : lifetimeOf lifetime = .ok duration)
    (now : Int) :
    fromMapping now (event.entries observed lifetime) = .ok (event.entries instant duration) := by
  have payload : (Value.orElse (.dict event.payload) (.dict [])).toDict = .ok event.payload := by
    cases listed : event.payload <;> rfl
  have first : replaceIf "observed_at" observedOf (event.entries observed lifetime) =
      .ok (event.entries instant lifetime) := by
    change (do return assign "observed_at" (← observedOf observed) _) = _
    rw [dated]
    rfl
  have second : replaceIf "ttl" lifetimeOf (event.entries instant lifetime) =
      .ok (event.entries instant duration) := by
    change (do return assign "ttl" (← lifetimeOf lifetime) _) = _
    rw [lasts]
    rfl
  change (do
    let payload ← (Value.orElse (.dict event.payload) (.dict [])).toDict
    let raw := assign "payload" (Value.dict payload) (event.entries observed lifetime)
    let raw := if (raw.lookup "timestamp").isSome then renamed "observed_at" "timestamp" .none raw
      else raw
    let raw ← replaceIf "observed_at" observedOf raw
    let raw ← replaceIf "ttl" lifetimeOf raw
    fieldsOf now raw) = _
  rw [payload]
  change (do
    let raw ← replaceIf "observed_at" observedOf (event.entries observed lifetime)
    let raw ← replaceIf "ttl" lifetimeOf raw
    fieldsOf now raw) = _
  rw [first]
  change (do fieldsOf now (← replaceIf "ttl" lifetimeOf (event.entries instant lifetime))) = _
  rw [second]
  rfl

theorem halfReport_reportable : Reportable halfReport Plane.epochClock where
  payload := by decide
  sequence := rfl
  shows := Plane.epochClock_instant
  short _ listed := by cases listed

/-- The report for a second and a microsecond. -/
def briefReport : AgentStateEvent := { halfReport with ttl := some 1000001 }

theorem briefReport_reportable : Reportable briefReport Plane.epochClock :=
  { halfReport_reportable with
    short := fun micros listed => by
      cases listed
      norm_num }

end StateFlow.State
