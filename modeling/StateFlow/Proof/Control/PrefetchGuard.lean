import StateFlow.Library.Ascii
import StateFlow.Proof.Control.Prefetch

namespace StateFlow.Control
open Python Table Effect State Plane Predictions Selection

/-- The snapshot holds both memory readings of a target. -/
def HoldsReadings (snapshot : Snapshot) (target : KVTarget) : Prop :=
  readings snapshot target.locationRef "resource.hbm.used" ≠ [] ∧
    readings snapshot target.locationRef "resource.hbm.reserved" ≠ []

/-- The readings of a target leave room for a cache below a share of its capacity. -/
def Fits (snapshot : Snapshot) (target : KVTarget) (size share : ℚ) : Prop :=
  ∃ used reserved,
    optionalReading snapshot target.locationRef "resource.hbm.used" = .ok (some used) ∧
    optionalReading snapshot target.locationRef "resource.hbm.reserved" = .ok (some reserved) ∧
    used + reserved + size ≤ share * target.hbmCapacityBytes

theorem holdsReadings_of_fits {snapshot : Snapshot} {target : KVTarget} {size share : ℚ}
    (fits : Fits snapshot target size share) : HoldsReadings snapshot target := by
  obtain ⟨used, reserved, readUsed, readReserved, _⟩ := fits
  exact ⟨readings_of_optionalReading readUsed, readings_of_optionalReading readReserved⟩

section Guard
variable {controller : AgentAwareKVController} {snapshot : Snapshot} {request : KVControlRequest}
  {current : KVTarget} {size : Int} {move : Move}

/-- A guarded prefetch to a target with both readings fits. -/
theorem fits_of_resourceSafe {used reserved : Option ℚ}
    (proposed : Proposed controller snapshot request current size move used reserved)
    (prefetches : move.action.actionType = KVActionType.prefetch.value) (sized : 0 ≤ size)
    (held : HoldsReadings snapshot move.target) {service : PredictionService} {predictionId : String}
    (safe : resourceSafe controller
      (move, evaluate service snapshot ⟨snapshot.token, move.action⟩ predictionId) = true) :
    Fits snapshot move.target size controller.config.maxPrefetchHbmPressure := by
  rw [proposed.action] at prefetches
  obtain ⟨moved, cold, hot⟩ := actionType_prefetch (KVActionType.value_injective prefetches)
  have resource : hbmResource controller current move.target = some move.target := if_pos hot
  have readUsed := proposed.readUsed
  have readReserved := proposed.readReserved
  rw [resource] at readUsed readReserved
  obtain ⟨used, rfl⟩ := optionalReading_of_present readUsed held.1
  obtain ⟨reserved, rfl⟩ := optionalReading_of_present readReserved held.2
  refine ⟨used, reserved, readUsed, readReserved, ?_⟩
  have usedNonneg := optionalReading_nonneg readUsed
  have reservedNonneg := optionalReading_nonneg readReserved
  obtain ⟨hasUsed, hasReserved, hasGrowth, hasRelease, hasCapacity⟩ :=
    moveParameters_prefetch request size used reserved moved cold hot
  have filled : MemoryParameters move.action used reserved size 0 := by
    rw [proposed.action]
    exact ⟨⟨_, hasUsed, .inl rfl⟩, ⟨_, hasReserved, .inl rfl⟩, ⟨_, hasGrowth, .inr ⟨_, rfl, rfl⟩⟩,
      ⟨_, hasRelease, .inr ⟨_, rfl, rfl⟩⟩⟩
  have stored : move.action.parameters.lookup "hbm_capacity_bytes" =
      if 0 < move.target.hbmCapacityBytes then some (.int move.target.hbmCapacityBytes) else none := by
    rw [proposed.action]
    exact hasCapacity
  obtain ⟨pressure, known, below⟩ := Option.any_eq_true _ _ |>.mp safe
  obtain ⟨hbm, _, _, measured, same⟩ := evaluate_pressure known
  obtain ⟨capacity, _, _, rated, positive, share⟩ := memory_pressure filled measured same
  have large : 0 < move.target.hbmCapacityBytes := by
    by_contra small
    rw [if_neg small] at stored
    cases rate_absent stored rated
  rw [if_pos large] at stored
  have exact : capacity = (move.target.hbmCapacityBytes : ℚ) :=
    Option.some.inj (rate_parameter stored (.inr ⟨_, rfl, rfl⟩) (Int.cast_ne_zero.mpr large.ne')
      rated)
  have needed : 0 ≤ used + reserved + (size : ℚ) :=
    add_nonneg (add_nonneg usedNonneg reservedNonneg) (Int.cast_nonneg sized)
  have limited : pressure ≤ controller.config.maxPrefetchHbmPressure := of_decide_eq_true below
  rw [share, sub_zero, max_eq_right needed, exact, div_le_iff₀ (exact ▸ positive)] at limited
  exact limited

end Guard

theorem requiredReading_nonneg {snapshot : Snapshot} {entityRef key : String} {amount : ℚ}
    (read : requiredReading snapshot entityRef key = .ok amount) : 0 ≤ amount := by
  obtain ⟨found, present, rest⟩ := except_bind_ok read
  cases found with
  | none => cases rest
  | some value => cases rest; exact optionalReading_nonneg present

/-- A selected prefetch fits exactly when the snapshot holds both readings of its target. -/
theorem prefetch_fits_iff (controller : AgentAwareKVController) (ids : PlanIds)
    (request : KVControlRequest) (format : ℚ → String) (journals : KVJournals)
    {planned : KVControlPlan} {next : KVJournals} {snapshot : Snapshot} {size : Int}
    {target : KVTarget} (frozen : controller.snapshots.read request.snapshotId = some snapshot)
    (sized : requiredReading snapshot request.kvRef "kv.size" = .ok (size : ℚ))
    (returned : plan controller ids request format journals = .ok planned next)
    (prefetches : planned.decision.selectedAction.actionType = KVActionType.prefetch.value)
    (listed : target ∈ request.targets) (selected : planned.selectedTarget = target.locationRef) :
    Fits snapshot target size controller.config.maxPrefetchHbmPressure ↔
      HoldsReadings snapshot target := by
  refine ⟨holdsReadings_of_fits, fun held => ?_⟩
  obtain ⟨⟨observed, moves, predictions, ⟨move, prediction⟩, reason, expiresAt⟩, drafted, rfl⟩ :=
    plan_ok_draft returned
  have observes := observe_ok drafted.observes
  have proposes := drafted.proposes
  have selects := drafted.selects
  have moving : move.action.actionType = KVActionType.prefetch.value := prefetches
  have aimed : move.target.locationRef = target.locationRef := selected
  rw [drafted.predicts] at selects
  dsimp only at observes proposes selects
  cases observes.frozen.symm.trans frozen
  obtain ⟨amount, read, whole⟩ := observes.sized
  cases sized.symm.trans read
  rw [Int.floor_intCast] at whole
  obtain ⟨member, safe⟩ := selectPair_prefetch selects moving
  obtain ⟨inside, index, evaluated⟩ := mem_zip_evaluate (fun move index =>
    evaluate controller.service observed.snapshot ⟨observed.snapshot.token, move.action⟩
      (ids.prediction index)) member
  obtain ⟨used, reserved, proposed⟩ := candidates_proposed proposes inside
  have same : move.target = target :=
    List.inj_on_of_nodup_map observes.distinct proposed.listed listed aimed
  subst same
  simp only at evaluated
  subst evaluated
  rw [whole] at proposed
  exact fits_of_resourceSafe proposed moving
    (Int.cast_nonneg_iff.mp (requiredReading_nonneg sized)) held safe

/-- The slower tier that holds the cache. -/
def dramTarget : KVTarget where
  locationRef := "dram0"
  tier := "dram"
  located := by decide
  tiered := by decide
  nonneg := by norm_num

/-- The faster tier with room for a hundred bytes. -/
def hbmTarget : KVTarget where
  locationRef := "hbm0"
  tier := "hbm"
  effectiveBwBytesPerSecond := 10
  hbmCapacityBytes := 100
  located := by decide
  tiered := by decide
  nonneg := by norm_num

def cacheRef : String := "component/stateful_object/kv"

def cacheOwner : KVActionOwner where
  componentRef := "component/component/engine"
  managedKvPrefixes := ["component/stateful_object/"]
  named := by decide
  managing := by decide
  keeps := by decide

def cacheConfig : KVControllerConfig where
  shares := by norm_num
  timed := by norm_num
  stable := by decide

def engineEntity : GraphEntity where
  ref := "component/component/engine"
  graph := .component
  entityType := "component"
  typeAllowed := component_allowed
  refNamed := by decide +kernel

def cacheEntity : GraphEntity where
  ref := "component/stateful_object/kv"
  graph := .component
  entityType := "stateful_object"
  ownerComponentRef := "component/component/engine"
  typeAllowed := statefulObject_allowed
  refNamed := by decide +kernel

def reading (entityRef key : String) (value : Value) : StateValue where
  entityRef := entityRef
  key := key
  value := value
  producer := "telemetry"
  timestamp := 0
  ttl := none
  authority := .directTelemetry
  version := 1
  semantic := .observed
  confidence := 1
  sourceRef := none
  correlation := {}

/-- The cache waits outside the faster tier for an agent that returns at once. -/
def waitingCache (memory : List StateValue) : Snapshot where
  token := "snapshot"
  logicalTime := 1
  createdAt := 0
  completeness := 1
  values := [reading cacheRef "kv.size" (.int 10), reading cacheRef "kv.location" (.str "dram0"),
    reading cacheRef "kv.transfer_state" (.str "idle"),
    reading cacheRef "kv.reuse_probability" (.float 1),
    reading "component/agent/a" "agent.expected_resume_time" (.datetime 0)] ++ memory

/-- Both memory readings of a resource. -/
def memoryOf (resource : String) : List StateValue :=
  [reading resource "resource.hbm.used" (.int 4), reading resource "resource.hbm.reserved" (.int 4)]

def onlySnapshot (snapshot : Snapshot) : SnapshotTable where
  read token := if token = snapshot.token then some snapshot else none
  token_eq found := by
    split at found
    · cases found; exact (by assumption : _ = _).symm
    · cases found

def cacheController (memory : List StateValue) : AgentAwareKVController where
  text := asciiText
  owner := cacheOwner
  config := cacheConfig
  service := { lower := asciiText.lower }
  entities ref := [(cacheRef, cacheEntity), ("component/component/engine", engineEntity)].lookup ref
  snapshots := onlySnapshot (waitingCache memory)

def cacheRequest : KVControlRequest where
  snapshotId := "snapshot"
  kvRef := cacheRef
  targets := [dramTarget, hbmTarget]
  agentRef := "component/agent/a"
  named := by decide

def planIds : PlanIds := ⟨fun index => toString index, "decision", "action", 0⟩

/-- The kind and the target of a plan that returned. -/
def selection : EStateM.Result Exception KVJournals KVControlPlan → Option (String × String)
  | .ok planned _ => some (planned.decision.selectedAction.actionType, planned.selectedTarget)
  | .error _ _ => none

theorem selection_some {result : EStateM.Result Exception KVJournals KVControlPlan}
    {kind target : String} (found : selection result = some (kind, target)) :
    ∃ planned next, result = .ok planned next ∧
      planned.decision.selectedAction.actionType = kind ∧ planned.selectedTarget = target := by
  cases result with
  | ok planned next =>
      cases found
      exact ⟨planned, next, rfl, rfl, rfl⟩
  | error exception next => cases found

/-- A prefetch with both readings of its target fits. -/
theorem prefetch_fits_iff_of_readings :
    Fits (waitingCache (memoryOf "hbm0")) hbmTarget (10 : Int) (98 / 100) ↔
      HoldsReadings (waitingCache (memoryOf "hbm0")) hbmTarget := by
  obtain ⟨planned, next, returned, prefetches, selected⟩ := selection_some
    (show selection (plan (cacheController (memoryOf "hbm0")) planIds cacheRequest (fun _ => "") {}) =
      some ("prefetch", "hbm0") by decide +kernel)
  exact prefetch_fits_iff _ planIds cacheRequest (fun _ => "") {} rfl rfl returned prefetches
    (List.mem_cons_of_mem _ List.mem_cons_self) selected

/-- The memory of another resource lets a prefetch to an unread target through. -/
theorem prefetch_to_unread_target :
    ∃ planned next,
      plan (cacheController (memoryOf "hbm1")) planIds cacheRequest (fun _ => "") {} =
        .ok planned next ∧
      planned.decision.selectedAction.actionType = KVActionType.prefetch.value ∧
      planned.selectedTarget = hbmTarget.locationRef ∧
      ¬ Fits (waitingCache (memoryOf "hbm1")) hbmTarget 10 (98 / 100) := by
  obtain ⟨planned, next, returned, prefetches, selected⟩ := selection_some
    (show selection (plan (cacheController (memoryOf "hbm1")) planIds cacheRequest (fun _ => "") {}) =
      some ("prefetch", "hbm0") by decide +kernel)
  exact ⟨planned, next, returned, prefetches, selected, fun fits => (holdsReadings_of_fits fits).1 rfl⟩

end StateFlow.Control
