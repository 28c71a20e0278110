import StateFlow.Construction.Control.KV
import StateFlow.Proof.Prediction.Pressure

namespace StateFlow.Control
open Python Table Effect State Plane Predictions Selection

/-- Each prediction of a batch evaluates the snapshot that its request names. -/
theorem predictMany_ok {service : PredictionService} {snapshots : SnapshotTable}
    {snapshot : Snapshot} {requests : List (PredictionRequest × String)}
    (frozen : ∀ request ∈ requests, snapshots.read request.1.snapshotId = some snapshot)
    {records last : List PredictionRecord} {predictions : List Prediction}
    (returned : predictMany service snapshots requests records = .ok predictions last) :
    predictions = requests.map fun request => evaluate service snapshot request.1 request.2 := by
  apply mapM_ok_eq _ returned
  intro request member before prediction after ran
  unfold predictOne at ran
  rw [frozen request member] at ran
  obtain ⟨_, _, _, ran⟩ := bind_ok ran
  split at ran
  · obtain ⟨_, _, raised, _⟩ := bind_ok ran
    cases raised
  · obtain ⟨_, _, _, ran⟩ := bind_ok ran
    cases ran
    rfl

/-- A known pressure comes from a prediction of the model. -/
theorem evaluate_pressure {service : PredictionService} {snapshot : Snapshot}
    {request : PredictionRequest} {predictionId : String} {pressure : ℚ}
    (known : (evaluate service snapshot request predictionId).futureState.hbmPressure
      = some pressure) :
    ∃ hbm middle last, memory snapshot request.candidateAction middle = .ok hbm last ∧
      hbm.hbmPressure = some pressure := by
  unfold evaluate at known
  cases predicted : predict snapshot request.candidateAction service.lower predictionId with
  | error exception => rw [predicted] at known; cases known
  | ok prediction =>
      rw [predicted] at known
      have kept : prediction.futureState.hbmPressure = some pressure := by
        simp only at known
        split at known <;> exact known
      unfold predict at predicted
      cases ran : predictFeatures snapshot request.candidateAction service.lower predictionId {} with
      | error exception last => rw [ran] at predicted; cases predicted
      | ok found last =>
          rw [ran] at predicted
          cases predicted
          obtain ⟨hbm, middle, last, measured, same⟩ := predictFeatures_pressure ran
          exact ⟨hbm, middle, last, measured, same.symm.trans kept⟩

section Numeric

theorem optionalReading_nonneg {snapshot : Snapshot} {entityRef key : String} {amount : ℚ}
    (read : optionalReading snapshot entityRef key = .ok (some amount)) : 0 ≤ amount := by
  simp only [optionalReading, bind, Except.bind, pure, Except.pure] at read
  split at read
  · cases read
  · split at read
    · cases read
    · split at read
      · cases read
      · cases read
        exact numeric_nonneg ‹_›

end Numeric

/-- A reading that is in the snapshot is found there. -/
theorem optionalReading_of_present {snapshot : Snapshot} {entityRef key : String}
    {found : Option ℚ} (read : optionalReading snapshot entityRef key = .ok found)
    (present : readings snapshot entityRef key ≠ []) : ∃ amount, found = some amount := by
  simp only [optionalReading, stateValue, bind, Except.bind, pure, Except.pure] at read
  cases held : readings snapshot entityRef key with
  | nil => exact absurd held present
  | cons item rest =>
      rw [held] at read
      cases rest with
      | nil =>
          simp only at read
          split at read
          · cases read
          · cases read; exact ⟨_, rfl⟩
      | cons _ _ => cases read

theorem readings_of_optionalReading {snapshot : Snapshot} {entityRef key : String} {amount : ℚ}
    (read : optionalReading snapshot entityRef key = .ok (some amount)) :
    readings snapshot entityRef key ≠ [] := by
  intro empty
  simp only [optionalReading, stateValue, empty, bind, Except.bind, pure, Except.pure] at read
  cases read

theorem KVActionType.value_injective : Function.Injective KVActionType.value := by
  intro first second same
  cases first <;> cases second <;> first | rfl | exact absurd same (by decide)

/-- A prefetch moves a cache from outside to an HBM target. -/
theorem actionType_prefetch {lower : String → String} {current target : KVTarget}
    (prefetches : actionType lower current target = .prefetch) :
    target.locationRef ≠ current.locationRef ∧ isHbm lower current = false ∧
      isHbm lower target = true := by
  unfold actionType at prefetches
  split at prefetches
  · cases prefetches
  · split at prefetches
    · cases prefetches
    · split at prefetches
      · rename_i apart _ hot
        simp only [Bool.and_eq_true, Bool.not_eq_true'] at hot
        exact ⟨fun same => apart same.symm, hot⟩
      · cases prefetches

section Moves
variable {controller : AgentAwareKVController} {snapshot : Snapshot} {request : KVControlRequest}
  {current : KVTarget} {size : Int}

/-- These facts hold of a proposed move. -/
structure Proposed (controller : AgentAwareKVController) (snapshot : Snapshot)
    (request : KVControlRequest) (current : KVTarget) (size : Int) (move : Move)
    (used reserved : Option ℚ) : Prop where
  listed : move.target ∈ request.targets
  readUsed : resourceReading snapshot (hbmResource controller current move.target)
    "resource.hbm.used" = .ok used
  readReserved : resourceReading snapshot (hbmResource controller current move.target)
    "resource.hbm.reserved" = .ok reserved
  action : move.action = moveCandidate controller snapshot request current move.target
    (moveParameters controller request current move.target size used reserved)

theorem candidates_proposed {moves : List Move}
    (returned : candidates controller snapshot request current size = .ok moves) {move : Move}
    (member : move ∈ moves) :
    ∃ used reserved, Proposed controller snapshot request current size move used reserved := by
  simp only [candidates, bind, Except.bind, pure, Except.pure] at returned
  split at returned
  · cases returned
  · rename_i found traversed
    have same : found = moves := by
      split at returned
      · exact Except.ok.inj returned
      · cases returned
    subst same
    obtain ⟨target, kept, proposed⟩ := mem_of_mapM traversed member
    simp only [candidate, bind, Except.bind, pure, Except.pure] at proposed
    split at proposed
    · cases proposed
    · rename_i action answered
      cases proposed
      split at answered
      · cases answered
      · rename_i used readUsed
        split at answered
        · cases answered
        · rename_i reserved readReserved
          exact ⟨used, reserved, List.mem_of_mem_filter kept, readUsed, readReserved,
            (Except.ok.inj answered).symm⟩

/-- A selected prefetch passed the resource guard. -/
theorem selectPair_prefetch {signals : KVSignals} {pairs : List Pair} {selected : Pair}
    {reason : String}
    (returned : selectPair controller snapshot current signals pairs = .ok (selected, reason))
    (prefetches : selected.1.action.actionType = KVActionType.prefetch.value) :
    selected ∈ pairs ∧ resourceSafe controller selected = true := by
  unfold selectPair at returned
  cases baseline : pairs.find? fun pair =>
      pair.1.action.actionType = KVActionType.keep.value with
  | none => rw [baseline] at returned; cases returned
  | some keep =>
      have stays : keep.1.action.actionType = KVActionType.keep.value := by
        simpa using List.find?_some baseline
      -- A plan that keeps the cache selects no prefetch.
      have moved : selected ≠ keep := by
        rintro rfl
        exact absurd (stays.symm.trans prefetches) (by decide)
      rw [baseline] at returned
      simp only at returned
      split at returned
      · cases returned; exact absurd rfl moved
      · split at returned
        · cases returned; exact absurd rfl moved
        · rename_i desired asked _
          split at returned
          · cases returned; exact absurd rfl moved
          · split at returned
            · cases returned; exact absurd rfl moved
            · split at returned
              · rename_i best least
                cases returned
                have member := argmin_mem pairKey least
                split at member
                · obtain ⟨inside, safe⟩ := List.mem_filter.mp member
                  exact ⟨List.mem_of_mem_filter inside, safe⟩
                · rename_i other
                  have wanted := (List.mem_filter.mp member).2
                  simp only [usable, Bool.and_eq_true, decide_eq_true_eq] at wanted
                  exact absurd (KVActionType.value_injective
                    (wanted.1.1.1.symm.trans prefetches)) other
              · cases returned; exact absurd rfl moved

/-- The parameters of a prefetch in the order of their insertion. -/
theorem moveParameters_prefetch (request : KVControlRequest) (size : Int) (used reserved : ℚ)
    {target : KVTarget} (moved : target.locationRef ≠ current.locationRef)
    (cold : isHbm controller.text.lower current = false)
    (hot : isHbm controller.text.lower target = true) :
    let parameters := moveParameters controller request current target size (some used)
      (some reserved)
    parameters.lookup "hbm_used_bytes" = some (.float used) ∧
    parameters.lookup "hbm_reserved_bytes" = some (.float reserved) ∧
    parameters.lookup "predicted_kv_growth_bytes" = some (.int size) ∧
    parameters.lookup "hbm_release_bytes" = some (.int 0) ∧
    parameters.lookup "hbm_capacity_bytes" =
      if 0 < target.hbmCapacityBytes then some (.int target.hbmCapacityBytes) else none := by
  have away : decide (target.locationRef ≠ current.locationRef) = true := decide_eq_true moved
  simp only [moveParameters, hbmResource, optionalParameter, away, cold, hot, if_true,
    Bool.false_and, Bool.and_self, Bool.false_eq_true, if_false, List.lookup_append]
  by_cases fast : size = 0 ∨ 0 < target.effectiveBwBytesPerSecond
  · by_cases large : 0 < target.hbmCapacityBytes <;> simp [List.lookup_cons, fast, large]
  · by_cases large : 0 < target.hbmCapacityBytes <;> simp [List.lookup_cons, fast, large]

end Moves

section Plan
variable {controller : AgentAwareKVController} {ids : PlanIds} {request : KVControlRequest}

/-- These facts hold of what the controller observes. -/
structure Observes (controller : AgentAwareKVController) (request : KVControlRequest)
    (observed : Observed) : Prop where
  frozen : controller.snapshots.read request.snapshotId = some observed.snapshot
  distinct : (request.targets.map KVTarget.locationRef).Nodup
  sized : ∃ size, requiredReading observed.snapshot request.kvRef "kv.size" = .ok size ∧
    observed.size = ⌊size⌋

theorem observe_ok {observed : Observed} (returned : observe controller request = .ok observed) :
    Observes controller request observed := by
  unfold observe at returned
  cases frozen : controller.snapshots.read request.snapshotId with
  | none => rw [frozen] at returned; cases returned
  | some snapshot =>
      rw [frozen] at returned
      obtain ⟨entities, _, owned⟩ := except_bind_ok returned
      simp only at owned
      split at owned
      · cases owned
      · split at owned
        · cases owned
        · rename_i _ distinct
          obtain ⟨size, sized, located⟩ := except_bind_ok owned
          obtain ⟨location, _, found⟩ := except_bind_ok located
          split at found
          · cases found
          · obtain ⟨_, _, signals⟩ := except_bind_ok found
            obtain ⟨_, _, transferred⟩ := except_bind_ok signals
            obtain ⟨_, _, phased⟩ := except_bind_ok transferred
            obtain ⟨_, _, resumed⟩ := except_bind_ok phased
            obtain ⟨_, _, pressed⟩ := except_bind_ok resumed
            cases pressed
            exact ⟨frozen, not_not.mp distinct, size, sized, rfl⟩

/-- The prediction of a pair evaluates the move of the pair. -/
theorem mem_zip_evaluate (evaluated : Move → Nat → Prediction) {moves : List Move} {pair : Pair}
    (member : pair ∈ moves.zip (moves.zipIdx.map fun entry => evaluated entry.1 entry.2)) :
    pair.1 ∈ moves ∧ ∃ index, pair.2 = evaluated pair.1 index := by
  obtain ⟨index, bound, rfl⟩ := List.mem_iff_getElem.mp member
  simp only [List.getElem_zip, List.getElem_map, List.getElem_zipIdx]
  exact ⟨List.getElem_mem _, 0 + index, rfl⟩

end Plan

/-- A plan before its journal entry. -/
structure Draft where
  observed : Observed
  moves : List Move
  predictions : List Prediction
  selected : Pair
  reason : String
  expiresAt : Int

section Draft
variable (controller : AgentAwareKVController) (ids : PlanIds) (request : KVControlRequest)

def Draft.action (draft : Draft) : Action :=
  moveAction controller ids request draft.observed.snapshot draft.observed.kvEntity
    draft.observed.ownerEntity draft.observed.current draft.selected draft.observed.size
    draft.observed.signals.transferState draft.expiresAt

def Draft.decision (format : ℚ → String) (draft : Draft) : DecisionRecord :=
  planDecision controller ids request draft.observed draft.moves draft.predictions
    (draft.action controller ids request) draft.reason
    (format draft.observed.snapshot.completeness, format draft.selected.2.confidence.value)

def Draft.planned (format : ℚ → String) (draft : Draft) : KVControlPlan :=
  ⟨draft.decision controller ids request format, draft.predictions,
    draft.observed.current.locationRef, draft.selected.1.target.locationRef,
    draft.observed.signals.phase, draft.observed.signals.reuse,
    draft.observed.signals.resumeSeconds, draft.observed.signals.hbmPressure⟩

/-- The part of a plan before the journal. -/
def draftWith (service : ManyPredictions) : EStateM Exception KVJournals Draft := do
  let observed ← lift (observe controller request)
  let snapshot := observed.snapshot
  let moves ← lift (candidates controller snapshot request observed.current observed.size)
  let requests := moves.zipIdx.map fun entry =>
    (PredictionRequest.mk snapshot.token entry.1.action, ids.prediction entry.2)
  let predictions ← onPredictions (service requests)
  let (selected, reason) ← lift (selectPair controller snapshot observed.current observed.signals
    (moves.zip predictions))
  let expiresAt ← lift (reservationExpiry controller observed selected.1.target)
  return ⟨observed, moves, predictions, selected, reason, expiresAt⟩

/-- A plan journals its draft. -/
theorem planWith_eq_draft (service : ManyPredictions) (format : ℚ → String) :
    planWith controller ids request service format = do
      let draft ← draftWith controller ids request service
      let _ ← onControl (recordDecision (draft.decision controller ids request format)
        draft.predictions)
      return draft.planned controller ids request format := by
  unfold planWith draftWith
  simp only [bind_assoc, pure_bind]
  rfl

end Draft

section Drafted
variable {controller : AgentAwareKVController} {ids : PlanIds} {request : KVControlRequest}
  {draft : Draft} {journals middle : KVJournals}

/-- A draft selects among its moves and the predictions of any service. -/
structure Considered (controller : AgentAwareKVController) (request : KVControlRequest)
    (draft : Draft) : Prop where
  observes : observe controller request = .ok draft.observed
  proposes : candidates controller draft.observed.snapshot request draft.observed.current
    draft.observed.size = .ok draft.moves
  selects : selectPair controller draft.observed.snapshot draft.observed.current
    draft.observed.signals (draft.moves.zip draft.predictions) = .ok (draft.selected, draft.reason)

/-- The requests of a draft ask for each of its moves. -/
def Draft.requests (ids : PlanIds) (draft : Draft) : List (PredictionRequest × String) :=
  draft.moves.zipIdx.map fun entry =>
    (PredictionRequest.mk draft.observed.snapshot.token entry.1.action, ids.prediction entry.2)

theorem draftWith_ok {service : ManyPredictions}
    (returned : draftWith controller ids request service journals = .ok draft middle) :
    Considered controller request draft ∧ ∃ last,
      service (draft.requests ids) journals.predictions = .ok draft.predictions last := by
  unfold draftWith at returned
  obtain ⟨observed, _, ran, proposing⟩ := bind_ok returned
  obtain ⟨saw, rfl⟩ := lift_ok ran
  obtain ⟨moves, _, ran, predicting⟩ := bind_ok proposing
  obtain ⟨proposed, rfl⟩ := lift_ok ran
  obtain ⟨predictions, _, ran, selecting⟩ := bind_ok predicting
  obtain ⟨records, predicted, rfl⟩ := zoom_ok ran
  obtain ⟨⟨selected, reason⟩, _, ran, reserving⟩ := bind_ok selecting
  obtain ⟨chosen, rfl⟩ := lift_ok ran
  obtain ⟨expiresAt, _, _, finished⟩ := bind_ok reserving
  cases finished
  exact ⟨⟨saw, proposed, chosen⟩, records, predicted⟩

/-- The own service of the controller evaluates each move of a draft. -/
structure Drafted (controller : AgentAwareKVController) (ids : PlanIds)
    (request : KVControlRequest) (draft : Draft) : Prop
    extends Considered controller request draft where
  predicts : draft.predictions = draft.moves.zipIdx.map fun entry =>
    evaluate controller.service draft.observed.snapshot
      ⟨draft.observed.snapshot.token, entry.1.action⟩ (ids.prediction entry.2)

theorem drafted_of_service
    (returned : draftWith controller ids request
      (predictMany controller.service controller.snapshots) journals = .ok draft middle) :
    Drafted controller ids request draft := by
  obtain ⟨considered, last, predicted⟩ := draftWith_ok returned
  have found := (observe_ok considered.observes).frozen
  have token : draft.observed.snapshot.token = request.snapshotId :=
    controller.snapshots.token_eq found
  have frozen : ∀ entry ∈ draft.requests ids,
      controller.snapshots.read entry.1.snapshotId = some draft.observed.snapshot := by
    intro entry member
    obtain ⟨indexed, _, rfl⟩ := List.mem_map.mp member
    exact (congrArg _ token).trans found
  refine ⟨considered, ?_⟩
  rw [predictMany_ok frozen predicted, Draft.requests, List.map_map]
  rfl

/-- A returned plan journals its draft. -/
theorem planWith_ok_draft {service : ManyPredictions} {format : ℚ → String}
    {journals next : KVJournals} {planned : KVControlPlan}
    (returned : planWith controller ids request service format journals = .ok planned next) :
    ∃ draft middle, draftWith controller ids request service journals = .ok draft middle ∧
      planned = draft.planned controller ids request format := by
  rw [planWith_eq_draft] at returned
  obtain ⟨draft, _, drafting, recording⟩ := bind_ok returned
  obtain ⟨_, _, _, finished⟩ := bind_ok recording
  cases finished
  exact ⟨draft, _, drafting, rfl⟩

/-- A plan over the own service evaluates its moves. -/
theorem plan_ok_draft {format : ℚ → String} {journals next : KVJournals} {planned : KVControlPlan}
    (returned : plan controller ids request format journals = .ok planned next) :
    ∃ draft, Drafted controller ids request draft ∧
      planned = draft.planned controller ids request format := by
  obtain ⟨draft, _, drafting, same⟩ := planWith_ok_draft returned
  exact ⟨draft, drafted_of_service drafting, same⟩

end Drafted

end StateFlow.Control
