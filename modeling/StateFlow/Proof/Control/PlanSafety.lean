import StateFlow.Proof.Control.JournalRecords
import StateFlow.Proof.Control.PrefetchGuard

namespace StateFlow.Control
open Python Table Effect State Plane Predictions Selection

section Select
variable {controller : AgentAwareKVController} {snapshot : Snapshot} {current : KVTarget}
  {signals : KVSignals} {pairs : List Pair} {selected : Pair} {reason : String}

/-- A prediction passes every gate of a desired move. -/
structure Gated (controller : AgentAwareKVController) (desired : KVActionType) (pair : Pair) :
    Prop where
  kind : pair.1.action.actionType = desired.value
  confident : controller.config.minPredictionConfidence ≤ pair.2.confidence.value
  direct : pair.2.fallback = "none"
  timed : ∃ eta, pair.2.performance.transferEtaSeconds = some eta
  guarded : desired = .prefetch → ∃ pressure ∈ pair.2.futureState.hbmPressure,
    pressure ≤ controller.config.maxPrefetchHbmPressure

theorem usable_iff {desired : KVActionType} {pair : Pair} :
    usable controller desired pair = true ↔
      pair.1.action.actionType = desired.value ∧
      controller.config.minPredictionConfidence ≤ pair.2.confidence.value ∧
      pair.2.fallback = "none" ∧ ∃ eta, pair.2.performance.transferEtaSeconds = some eta := by
  simp only [usable, Bool.and_eq_true, decide_eq_true_eq, Option.isSome_iff_exists, and_assoc]

theorem resourceSafe_iff {pair : Pair} :
    resourceSafe controller pair = true ↔ ∃ pressure ∈ pair.2.futureState.hbmPressure,
      pressure ≤ controller.config.maxPrefetchHbmPressure := by
  simp [resourceSafe, Option.any_eq_true]

/-- The eligible pairs of a desired move are the gated ones. -/
theorem mem_eligible_iff {desired : KVActionType} {pair : Pair} :
    pair ∈ (if desired = .prefetch then
        (pairs.filter (usable controller desired)).filter (resourceSafe controller)
      else pairs.filter (usable controller desired)) ↔
      pair ∈ pairs ∧ Gated controller desired pair := by
  constructor
  · intro member
    split at member
    · obtain ⟨inside, safe⟩ := List.mem_filter.mp member
      obtain ⟨listed, used⟩ := List.mem_filter.mp inside
      obtain ⟨kind, confident, direct, timed⟩ := usable_iff.mp used
      exact ⟨listed, kind, confident, direct, timed, fun _ => resourceSafe_iff.mp safe⟩
    · rename_i other
      obtain ⟨listed, used⟩ := List.mem_filter.mp member
      obtain ⟨kind, confident, direct, timed⟩ := usable_iff.mp used
      exact ⟨listed, kind, confident, direct, timed, fun same => absurd same other⟩
  · rintro ⟨listed, gated⟩
    have inside : pair ∈ pairs.filter (usable controller desired) :=
      List.mem_filter.mpr ⟨listed, usable_iff.mpr
        ⟨gated.kind, gated.confident, gated.direct, gated.timed⟩⟩
    split
    · rename_i prefetches
      exact List.mem_filter.mpr ⟨inside, resourceSafe_iff.mpr (gated.guarded prefetches)⟩
    · exact inside

/-- A desired move starts from a complete snapshot and a stable cache, and the gated pair with the
least key performs it. -/
structure SelectsMove (controller : AgentAwareKVController) (snapshot : Snapshot)
    (current : KVTarget) (signals : KVSignals) (pairs : List Pair) (selected : Pair)
    (desired : KVActionType) : Prop where
  complete : controller.config.minSnapshotCompleteness ≤ snapshot.completeness
  asked : ∃ reason, desiredAction controller current signals = some (desired, reason)
  stable : ∃ state ∈ signals.transferState, state ∈ controller.config.stableTransferStates
  gated : Gated controller desired selected
  least : ∀ other ∈ pairs, Gated controller desired other → pairKey selected ≤ pairKey other

/-- A selection keeps the cache or performs the desired move. -/
theorem selectPair_cases
    (returned : selectPair controller snapshot current signals pairs = .ok (selected, reason)) :
    selected ∈ pairs ∧ (selected.1.action.actionType = KVActionType.keep.value ∨
      ∃ desired, SelectsMove controller snapshot current signals pairs selected desired) := by
  unfold selectPair at returned
  cases baseline : pairs.find? fun pair =>
      pair.1.action.actionType = KVActionType.keep.value with
  | none => rw [baseline] at returned; cases returned
  | some keep =>
      have listed : keep ∈ pairs := List.mem_of_find?_eq_some baseline
      have stays : keep.1.action.actionType = KVActionType.keep.value := by
        simpa using List.find?_some baseline
      rw [baseline] at returned
      simp only at returned
      split at returned
      · cases returned; exact ⟨listed, .inl stays⟩
      · rename_i complete
        split at returned
        · cases returned; exact ⟨listed, .inl stays⟩
        · rename_i desired asked triggered
          split at returned
          · cases returned; exact ⟨listed, .inl stays⟩
          · rename_i stable
            split at returned
            · cases returned; exact ⟨listed, .inl stays⟩
            · split at returned
              · rename_i best least
                cases returned
                obtain ⟨inside, gated⟩ := mem_eligible_iff.mp (argmin_mem pairKey least)
                refine ⟨inside, .inr ⟨desired, not_lt.mp complete, ⟨_, triggered⟩, ?_, gated, ?_⟩⟩
                · simpa [Option.any_eq_true] using stable
                · exact fun other member passes =>
                    argmin_le pairKey least (mem_eligible_iff.mpr ⟨member, passes⟩)
              · cases returned; exact ⟨listed, .inl stays⟩

/-- The key of a pair compares the known transfer times first. -/
theorem eta_le_of_pairKey {first second : Pair} {eta other : ℚ}
    (known : first.2.performance.transferEtaSeconds = some eta)
    (read : second.2.performance.transferEtaSeconds = some other)
    (less : pairKey first ≤ pairKey second) : eta ≤ other := by
  have ordered := Prod.Lex.monotone_fst _ _ less
  simpa [pairKey, known, read] using ordered

/-- The agent waits and the cache of a full memory is hardly reused. -/
structure OffloadTriggers (controller : AgentAwareKVController) (current : KVTarget)
    (signals : KVSignals) : Prop where
  hot : isHbm controller.text.lower current = true
  waits : ∃ phase ∈ signals.phase, phase ∈ controller.config.offloadPhases
  full : ∃ pressure ∈ signals.hbmPressure, controller.config.offloadHbmPressure ≤ pressure
  rare : ∃ reuse ∈ signals.reuse, reuse ≤ controller.config.offloadMaxReuseProbability

/-- The agent returns soon to a cache that is outside the memory and often reused. -/
structure PrefetchTriggers (controller : AgentAwareKVController) (current : KVTarget)
    (signals : KVSignals) : Prop where
  cold : isHbm controller.text.lower current = false
  returns : ∃ seconds ∈ signals.resumeSeconds, seconds ≤ controller.config.prefetchHorizonSeconds
  reused : ∃ reuse ∈ signals.reuse, controller.config.prefetchMinReuseProbability ≤ reuse

/-- Only an offload and a prefetch are desired, each with its triggers. -/
theorem desiredAction_cases {desired : KVActionType}
    (asked : desiredAction controller current signals = some (desired, reason)) :
    (desired = .offload ∧ OffloadTriggers controller current signals) ∨
      (desired = .prefetch ∧ PrefetchTriggers controller current signals) := by
  unfold desiredAction at asked
  simp only [Bool.and_eq_true, Option.any_eq_true, decide_eq_true_eq, Bool.not_eq_true'] at asked
  split at asked
  · rename_i triggers
    obtain ⟨⟨⟨hot, waits⟩, full⟩, rare⟩ := triggers
    cases asked
    exact .inl ⟨rfl, hot, waits, full, rare⟩
  · split at asked
    · rename_i triggers
      obtain ⟨⟨cold, returns⟩, reused⟩ := triggers
      cases asked
      exact .inr ⟨rfl, cold, returns, reused⟩
    · cases asked

end Select

/-- An offload moves a cache from the memory to a target outside it. -/
theorem actionType_offload {lower : String → String} {current target : KVTarget}
    (offloads : actionType lower current target = .offload) :
    target.locationRef ≠ current.locationRef ∧ isHbm lower current = true ∧
      isHbm lower target = false := by
  unfold actionType at offloads
  split at offloads
  · cases offloads
  · rename_i apart
    split at offloads
    · rename_i hot
      simp only [Bool.and_eq_true, Bool.not_eq_true'] at hot
      exact ⟨fun same => apart same.symm, hot⟩
    · split at offloads <;> cases offloads

theorem actionType_keep_iff {lower : String → String} {current target : KVTarget} :
    actionType lower current target = .keep ↔ target.locationRef = current.locationRef := by
  unfold actionType
  split
  · rename_i same
    exact ⟨fun _ => same.symm, fun _ => rfl⟩
  · rename_i apart
    refine ⟨fun keeps => ?_, fun same => absurd same.symm apart⟩
    split at keeps
    · cases keeps
    · split at keeps <;> cases keeps

section Candidates
variable {controller : AgentAwareKVController} {snapshot : Snapshot} {request : KVControlRequest}
  {current : KVTarget} {size : Int} {moves : List Move}

/-- The moves answer the proposed targets in their order. -/
theorem candidates_targets
    (returned : candidates controller snapshot request current size = .ok moves) :
    moves.map Move.target = request.targets.filter (proposes controller current) := by
  obtain ⟨found, traversed, kept⟩ := except_bind_ok returned
  have same : found = moves := by
    split at kept
    · exact Except.ok.inj kept
    · cases kept
  subst same
  refine List.forall₂_eq_eq_eq ▸ List.forall₂_map_left_iff.mpr ?_
  refine List.Forall₂.flip ((forall₂_of_mapM traversed).imp fun target move answered => ?_)
  obtain ⟨action, _, made⟩ := except_bind_ok answered
  cases made
  rfl

/-- A candidate identifier names its move. -/
theorem moveCandidate_candidateId (parameters : List (String × Value)) (target : KVTarget) :
    (moveCandidate controller snapshot request current target parameters).candidateId =
      "candidate:kv:" ++ toString snapshot.logicalTime ++ ":" ++ request.kvRef ++ ":"
        ++ (actionType controller.text.lower current target).value ++ ":" ++ target.locationRef :=
  rfl

/-- The kind of a move ends before its location. -/
theorem location_of_name {front : String} {first second : KVActionType} {here there : String}
    (same : front ++ first.value ++ ":" ++ here = front ++ second.value ++ ":" ++ there) :
    here = there := by
  have letters := congrArg String.toList same
  simp only [String.toList_append, List.append_assoc, List.append_cancel_left_eq] at letters
  cases first <;> cases second <;> simp [KVActionType.value] at letters
  all_goals exact String.toList_inj.mp letters

/-- Distinct targets have distinct candidates. -/
theorem candidates_distinct (distinct : (request.targets.map KVTarget.locationRef).Nodup)
    (returned : candidates controller snapshot request current size = .ok moves) :
    (moves.map fun move => move.action.candidateId).Nodup := by
  have apart : (moves.map fun move => move.target.locationRef).Nodup := by
    have listed : (moves.map Move.target).Sublist request.targets :=
      candidates_targets returned ▸ List.filter_sublist
    have names := (listed.map KVTarget.locationRef).nodup distinct
    rwa [List.map_map] at names
  rw [List.Nodup, List.pairwise_map] at apart ⊢
  refine apart.imp_of_mem fun {first second} firstIn secondIn differ same => differ ?_
  obtain ⟨_, _, firstMove⟩ := candidates_proposed returned firstIn
  obtain ⟨_, _, secondMove⟩ := candidates_proposed returned secondIn
  rw [firstMove.action, secondMove.action, moveCandidate_candidateId,
    moveCandidate_candidateId] at same
  exact location_of_name same

/-- A proposed move is allowed, and it moves only to a usable target. -/
theorem candidates_allowed
    (returned : candidates controller snapshot request current size = .ok moves) {move : Move}
    (member : move ∈ moves) :
    move.target ∈ request.targets ∧
      actionType controller.text.lower current move.target ∈ controller.owner.allowedActions ∧
      move.action.actionType = (actionType controller.text.lower current move.target).value ∧
      (move.target.locationRef ≠ current.locationRef →
        move.target.available = true ∧ move.target.healthy = true) := by
  have listed : move.target ∈ request.targets.filter (proposes controller current) :=
    candidates_targets returned ▸ List.mem_map_of_mem member
  obtain ⟨inside, passes⟩ := List.mem_filter.mp listed
  obtain ⟨_, _, proposed⟩ := candidates_proposed returned member
  simp only [proposes, Bool.and_eq_true, Bool.or_eq_true, decide_eq_true_eq] at passes
  refine ⟨inside, passes.1, by rw [proposed.action]; rfl, fun moved => ?_⟩
  exact passes.2.resolve_left moved

end Candidates

/-- A prediction names the snapshot and the candidate of its request. -/
theorem evaluate_names (service : PredictionService) (snapshot : Snapshot)
    (request : PredictionRequest) (predictionId : String) :
    (evaluate service snapshot request predictionId).snapshotId = snapshot.token ∧
      (evaluate service snapshot request predictionId).candidateId =
        request.candidateAction.candidateId := by
  unfold evaluate
  cases predicted : predict snapshot request.candidateAction service.lower predictionId with
  | error exception => exact ⟨rfl, rfl⟩
  | ok prediction =>
      have names : prediction.snapshotId = snapshot.token ∧
          prediction.candidateId = request.candidateAction.candidateId := by
        unfold predict at predicted
        cases ran : predictFeatures snapshot request.candidateAction service.lower predictionId {} with
        | error exception last => rw [ran] at predicted; cases predicted
        | ok found last =>
            rw [ran] at predicted
            cases predicted
            unfold predictFeatures at ran
            obtain ⟨_, _, _, ran⟩ := bind_ok ran
            obtain ⟨_, _, _, ran⟩ := bind_ok ran
            obtain ⟨_, _, _, ran⟩ := bind_ok ran
            obtain ⟨_, _, _, ran⟩ := bind_ok ran
            obtain ⟨_, _, _, ran⟩ := bind_ok ran
            obtain ⟨_, _, _, ran⟩ := bind_ok ran
            cases ran
            exact ⟨rfl, rfl⟩
      simp only
      split <;> exact names

section Drafted
variable {controller : AgentAwareKVController} {ids : PlanIds} {request : KVControlRequest}
  {draft : Draft} {format : ℚ → String} {journals middle : KVJournals}

/-- A draft never touches the control journal. -/
theorem draftWith_control (controller : AgentAwareKVController) (ids : PlanIds)
    (request : KVControlRequest) (service : ManyPredictions) :
    Within (Frame.fixes KVJournals.control) (draftWith controller ids request service) := by
  unfold draftWith
  refine within_lift_bind fun observed _ => within_lift_bind fun moves _ => ?_
  refine within_bind ?_ fun predictions => within_lift_bind fun pair _ =>
    within_lift_bind fun expiresAt _ => within_pure _
  intro journals
  rw [onPredictions, zoom_finalState]
  rfl

/-- A service answers a draft when each prediction names the snapshot and the candidate of its
request. -/
structure Answered (draft : Draft) : Prop where
  candidates : draft.predictions.map Prediction.candidateId =
    draft.moves.map fun move => move.action.candidateId
  snapshots : ∀ prediction ∈ draft.predictions,
    prediction.snapshotId = draft.observed.snapshot.token

/-- The own service of the controller answers every draft. -/
theorem Drafted.answered (drafted : Drafted controller ids request draft) : Answered draft := by
  constructor
  · rw [drafted.predicts, List.map_map]
    conv_rhs => rw [← List.zipIdx_map_fst 0 draft.moves, List.map_map]
    exact List.map_congr_left fun entry _ => (evaluate_names _ _ _ _).2
  · intro prediction member
    rw [drafted.predicts] at member
    obtain ⟨entry, _, rfl⟩ := List.mem_map.mp member
    exact (evaluate_names _ _ _ _).1

/-- The bundle of an answered draft passes the validation of the journal. -/
theorem Considered.valid (considered : Considered controller request draft)
    (answered : Answered draft) :
    validBundle (draft.decision controller ids request format) draft.predictions = true := by
  have present : draft.predictions ≠ [] := by
    intro none
    have selects := considered.selects
    rw [none, List.zip_nil_right] at selects
    cases selects
  have snapshots : draft.predictions.all (fun item =>
      item.snapshotId = draft.observed.snapshot.token) = true :=
    List.all_eq_true.mpr fun prediction member => decide_eq_true (answered.snapshots prediction member)
  simp only [validBundle, Bool.and_eq_true, decide_eq_true_eq, Bool.not_eq_true',
    List.isEmpty_eq_false_iff]
  exact ⟨⟨⟨⟨present, rfl⟩, answered.candidates.symm⟩, snapshots⟩, rfl⟩

/-- The selected pair joins a move and a prediction of its draft. -/
theorem Considered.selected_mem (considered : Considered controller request draft) :
    draft.selected ∈ draft.moves.zip draft.predictions ∧ draft.selected.1 ∈ draft.moves ∧
      draft.selected.2 ∈ draft.predictions := by
  have paired := (selectPair_cases considered.selects).1
  exact ⟨paired, List.of_mem_zip paired⟩

/-- The selected prediction of an answered draft names the selected move. -/
theorem Considered.selected_named (considered : Considered controller request draft)
    (answered : Answered draft) :
    draft.selected.2.candidateId = draft.selected.1.action.candidateId := by
  obtain ⟨index, bound, same⟩ := List.mem_iff_getElem.mp considered.selected_mem.1
  rw [List.getElem_zip] at same
  have names := congrArg (fun names => names[index]?) answered.candidates
  rw [List.length_zip] at bound
  simp only [List.getElem?_map, List.getElem?_eq_getElem (Nat.lt_of_lt_of_le bound
    (Nat.min_le_left _ _)), List.getElem?_eq_getElem (Nat.lt_of_lt_of_le bound
    (Nat.min_le_right _ _)), Option.map_some, Option.some.injEq] at names
  rw [← same]
  exact names

/-- No parameter of a move is named like the candidate. -/
theorem moveParameters_candidateId (current target : KVTarget) (size : Int)
    (used reserved : Option ℚ) :
    (moveParameters controller request current target size used reserved).lookup "candidate_id" =
      none := by
  have optional (name : String) (apart : "candidate_id" ≠ name) (value : Option ℚ) :
      (optionalParameter name value).lookup "candidate_id" = none := by
    cases value with
    | none => rfl
    | some number => rw [optionalParameter, Table.lookup_cons, if_neg apart]; rfl
  have chosen (condition : Prop) [Decidable condition] (name : String)
      (apart : "candidate_id" ≠ name) (value : Value) :
      (if condition then [(name, value)] else []).lookup "candidate_id" = none := by
    split
    · rw [Table.lookup_cons, if_neg apart]; rfl
    · rfl
  simp only [moveParameters, List.lookup_append, Option.or_eq_none_iff]
  refine ⟨⟨⟨⟨by simp [Table.lookup_cons], chosen _ _ (by decide) _⟩, ?_⟩,
    optional _ (by decide) _⟩, optional _ (by decide) _⟩
  cases hbmResource controller current target with
  | none => rfl
  | some resource => exact chosen _ _ (by decide) _

/-- The action of a draft names its candidate. -/
theorem Considered.action_candidateId (considered : Considered controller request draft) :
    (draft.action controller ids request).candidateId =
      .str draft.selected.1.action.candidateId := by
  obtain ⟨_, inside, _⟩ := considered.selected_mem
  obtain ⟨used, reserved, proposed⟩ := candidates_proposed considered.proposes inside
  have absent : draft.selected.1.action.parameters.lookup "candidate_id" = none := by
    rw [proposed.action]
    exact moveParameters_candidateId _ _ _ _ _
  unfold Action.candidateId Draft.action moveAction getD
  rw [List.lookup_append, absent]
  rfl

/-- The journal finds the selected prediction of an answered draft. -/
theorem Considered.selectedPrediction (considered : Considered controller request draft)
    (answered : Answered draft) :
    selectedPrediction (draft.decision controller ids request format) draft.predictions =
      .ok draft.selected.2 := by
  obtain ⟨_, inside, listed⟩ := considered.selected_mem
  have named := considered.selected_named answered
  have distinct : (draft.predictions.map Prediction.candidateId).Nodup := by
    rw [answered.candidates]
    exact candidates_distinct (observe_ok considered.observes).distinct considered.proposes
  have only := filter_of_nodup Prediction.candidateId distinct listed
  obtain ⟨used, reserved, proposed⟩ := candidates_proposed considered.proposes inside
  have present : draft.selected.1.action.candidateId ≠ "" := by
    rw [proposed.action, moveCandidate_candidateId]
    intro empty
    simpa using congrArg String.toList empty
  have truthy : (Value.str draft.selected.1.action.candidateId).truthy = true := by
    simpa [Value.truthy] using present
  have same (item : Prediction) :
      (Value.str item.candidateId).eq (.str draft.selected.1.action.candidateId) =
        decide (item.candidateId = draft.selected.2.candidateId) := by
    rw [named]
    simp [Value.eq, Value.number?, Value.text?, Bool.beq_eq_decide_eq]
  have action : (draft.decision controller ids request format).selectedAction.candidateId =
      .str draft.selected.1.action.candidateId := considered.action_candidateId
  unfold Control.selectedPrediction
  simp only [action, truthy, Bool.not_true, Bool.false_eq_true, if_false, same, only]

end Drafted

/-- The snapshot answers every signal of the controller. -/
structure ReadSignals (controller : AgentAwareKVController) (request : KVControlRequest)
    (observed : Observed) : Prop where
  listed : observed.current ∈ request.targets
  located : requiredText observed.snapshot request.kvRef "kv.location" =
    .ok observed.current.locationRef
  phase : agentText observed.snapshot request.agentRef = .ok observed.signals.phase
  resume : ∃ instant, agentResume controller.text observed.snapshot request.agentRef = .ok instant ∧
    observed.signals.resumeSeconds = instant.map fun instant =>
      max 0 (((instant - observed.snapshot.createdAt : Int) : ℚ) / 1000000)
  reuse : optionalReading observed.snapshot request.kvRef "kv.reuse_probability" =
    .ok observed.signals.reuse
  pressure : hbmPressure controller.text.lower observed.snapshot observed.current =
    .ok observed.signals.hbmPressure
  transferState : optionalText observed.snapshot request.kvRef "kv.transfer_state" =
    .ok observed.signals.transferState

section Safety
variable {controller : AgentAwareKVController} {ids : PlanIds} {request : KVControlRequest}
  {format : ℚ → String} {journals : KVJournals}

theorem observe_reads {observed : Observed} (returned : observe controller request = .ok observed) :
    ReadSignals controller request observed := by
  unfold observe at returned
  cases frozen : controller.snapshots.read request.snapshotId with
  | none => rw [frozen] at returned; cases returned
  | some snapshot =>
      rw [frozen] at returned
      obtain ⟨entities, _, owned⟩ := except_bind_ok returned
      simp only at owned
      split at owned
      · cases owned
      · split at owned
        · cases owned
        · obtain ⟨size, _, located⟩ := except_bind_ok owned
          obtain ⟨location, read, found⟩ := except_bind_ok located
          split at found
          · cases found
          · rename_i current matched
            obtain ⟨reuse, reused, signals⟩ := except_bind_ok found
            obtain ⟨state, transferred, signals⟩ := except_bind_ok signals
            obtain ⟨phase, phased, signals⟩ := except_bind_ok signals
            obtain ⟨resume, resumed, signals⟩ := except_bind_ok signals
            obtain ⟨pressure, pressed, signals⟩ := except_bind_ok signals
            cases signals
            have same : current.locationRef = location := by simpa using List.find?_some matched
            exact ⟨List.mem_of_find?_eq_some matched, same ▸ read, phased, ⟨resume, resumed, rfl⟩,
              reused, pressed, transferred⟩

/-- A proposed reservation of a cache on a target. -/
structure Reserves (controller : AgentAwareKVController) (size : Int) (target : KVTarget)
    (reservation : Reservation) : Prop where
  resource : reservation.resourceRef = target.locationRef
  owner : reservation.owner = controller.owner.componentRef
  amount : reservation.amount = .ofList [("hbm_bytes", (size : ℚ))]
  status : reservation.status = "proposed"

/-- A move that passed every gate of the controller. -/
structure GuardedMove (controller : AgentAwareKVController) (request : KVControlRequest)
    (observed : Observed) (pairs : List Pair) (selected : Pair) : Prop where
  complete : controller.config.minSnapshotCompleteness ≤ observed.snapshot.completeness
  stable : ∃ state ∈ controller.config.stableTransferStates,
    optionalText observed.snapshot request.kvRef "kv.transfer_state" = .ok (some state)
  usable : selected.1.target.available = true ∧ selected.1.target.healthy = true
  triggered :
    (selected.1.action.actionType = KVActionType.offload.value ∧
      OffloadTriggers controller observed.current observed.signals ∧
      isHbm controller.text.lower selected.1.target = false) ∨
    (selected.1.action.actionType = KVActionType.prefetch.value ∧
      PrefetchTriggers controller observed.current observed.signals ∧
      isHbm controller.text.lower selected.1.target = true)
  fastest : ∃ desired eta, Gated controller desired selected ∧
    selected.2.performance.transferEtaSeconds = some eta ∧
    ∀ other ∈ pairs, Gated controller desired other →
      ∀ otherEta, other.2.performance.transferEtaSeconds = some otherEta → eta ≤ otherEta

/-- A safe plan selects one of its evaluated moves. -/
structure SafePlan (controller : AgentAwareKVController) (request : KVControlRequest)
    (planned : KVControlPlan) (observed : Observed) (moves : List Move) (selected : Pair) :
    Prop where
  observes : observe controller request = .ok observed
  reads : ReadSignals controller request observed
  proposes : candidates controller observed.snapshot request observed.current observed.size =
    .ok moves
  paired : selected ∈ moves.zip planned.predictions
  listed : selected.1.target ∈ request.targets
  aimed : planned.selectedTarget = selected.1.target.locationRef
  acts : planned.decision.selectedAction.actionType = selected.1.action.actionType
  dryRun : planned.decision.selectedAction.dryRun = true
  allowed : ∃ kind ∈ controller.owner.allowedActions,
    planned.decision.selectedAction.actionType = kind.value
  guarded : planned.decision.selectedAction.actionType ≠ KVActionType.keep.value →
    GuardedMove controller request observed (moves.zip planned.predictions) selected
  reserved : (∃ reservation ∈ planned.decision.selectedAction.reservations,
      Reserves controller observed.size selected.1.target reservation) ↔
    isHbm controller.text.lower selected.1.target = true ∧
      selected.1.target.locationRef ≠ observed.current.locationRef

theorem Considered.guarded {draft : Draft} (considered : Considered controller request draft)
    (moved : draft.selected.1.action.actionType ≠ KVActionType.keep.value) :
    GuardedMove controller request draft.observed (draft.moves.zip draft.predictions)
      draft.selected := by
  have reads := observe_reads considered.observes
  obtain ⟨paired, inside, _⟩ := considered.selected_mem
  obtain ⟨_, _, kind, usable⟩ := candidates_allowed considered.proposes inside
  rcases (selectPair_cases considered.selects).2 with stays | ⟨desired, selects⟩
  · exact absurd stays moved
  · obtain ⟨reason, asked⟩ := selects.asked
    have same : actionType controller.text.lower draft.observed.current draft.selected.1.target =
        desired := KVActionType.value_injective (kind.symm.trans selects.gated.kind)
    have apart : draft.selected.1.target.locationRef ≠ draft.observed.current.locationRef := by
      intro stays
      rw [kind, actionType_keep_iff.mpr stays] at moved
      exact moved rfl
    obtain ⟨state, known, listed⟩ := selects.stable
    obtain ⟨eta, timed⟩ := selects.gated.timed
    refine ⟨selects.complete, ⟨state, listed, known ▸ reads.transferState⟩, usable apart, ?_,
      desired, eta, selects.gated, timed, fun other member gated otherEta read => ?_⟩
    · rcases desiredAction_cases asked with ⟨rfl, triggers⟩ | ⟨rfl, triggers⟩
      · exact .inl ⟨selects.gated.kind, triggers, (actionType_offload same).2.2⟩
      · exact .inr ⟨selects.gated.kind, triggers, (actionType_prefetch same).2.2⟩
    · exact eta_le_of_pairKey timed read (selects.least other member gated)

/-- A draft is safe. -/
theorem Considered.safe {draft : Draft} (considered : Considered controller request draft) :
    SafePlan controller request (draft.planned controller ids request format) draft.observed
      draft.moves draft.selected := by
  obtain ⟨paired, inside, _⟩ := considered.selected_mem
  obtain ⟨listed, allowed, kind, _⟩ := candidates_allowed considered.proposes inside
  refine ⟨considered.observes, observe_reads considered.observes, considered.proposes, paired, listed,
    rfl, rfl, rfl, ⟨_, allowed, kind⟩, considered.guarded, ?_⟩
  have reservations : (draft.planned controller ids request format).decision.selectedAction.reservations
      = if isHbm controller.text.lower draft.selected.1.target &&
          decide (draft.selected.1.target.locationRef ≠ draft.observed.current.locationRef) then
        [⟨draft.selected.1.target.locationRef, controller.owner.componentRef,
          .ofList [("hbm_bytes", (draft.observed.size : ℚ))], draft.expiresAt, "proposed"⟩]
        else [] := rfl
  rw [reservations]
  by_cases moves : isHbm controller.text.lower draft.selected.1.target = true ∧
      draft.selected.1.target.locationRef ≠ draft.observed.current.locationRef
  · rw [if_pos (by simpa using moves)]
    exact ⟨fun _ => moves, fun _ => ⟨_, List.mem_cons_self, rfl, rfl, rfl, rfl⟩⟩
  · rw [if_neg (by simpa using moves)]
    exact ⟨fun ⟨_, member, _⟩ => absurd member List.not_mem_nil, fun holds => absurd holds moves⟩

/-- A plan either leaves the control journal alone or adds its one safe decision. -/
def PlanOutcome (controller : AgentAwareKVController) (request : KVControlRequest)
    (journals : KVJournals) : EStateM.Result Exception KVJournals KVControlPlan → Prop
  | .error _ next => next.control = journals.control
  | .ok planned next =>
      next.control.decisions =
        journals.control.decisions ++ [(planned.decision.decisionId, planned.decision)] ∧
      next.control.order = journals.control.order ++ [planned.decision.decisionId] ∧
      ∃ observed moves selected, SafePlan controller request planned observed moves selected

/-- The journal can store the decision under its identifiers. -/
structure Unused (ids : PlanIds) (predictions : List Prediction)
    (journal : InMemoryControlJournal) : Prop where
  decision : journal.decisions.lookup ids.decision = none
  action : journal.actionDecisions.lookup ids.action = none
  predictions : predictions.any (conflictingPrediction journal) = false

theorem Considered.storable {draft : Draft} (considered : Considered controller request draft)
    (answered : Answered draft) {journal : InMemoryControlJournal} (unused : Unused ids draft.predictions journal) :
    Storable journal (draft.decision controller ids request format) draft.predictions
      draft.selected.2 :=
  ⟨considered.valid answered, considered.selectedPrediction answered, unused.decision, unused.action, unused.predictions⟩

/-- A journaled draft is the one new decision. -/
theorem planOutcome_of_draft {draft : Draft} {middle : KVJournals}
    (considered : Considered controller request draft)
    (unchanged : middle.control = journals.control)
    (fresh : journals.control.decisions.lookup ids.decision = none) :
    PlanOutcome controller request journals ((do
      let _ ← onControl (recordDecision (draft.decision controller ids request format)
        draft.predictions)
      return draft.planned controller ids request format) middle) := by
  rcases recordDecision_cases (draft.decision controller ids request format) draft.predictions
      middle.control with
    ⟨selected, record, _, _, ran⟩ | ⟨_, existing, _, _, _, decided, _⟩ | ⟨exception, ran⟩
  · have stored : onControl (recordDecision (draft.decision controller ids request format)
        draft.predictions) middle = _ := zoom_of_ok ran
    rw [bind_of_ok stored]
    refine ⟨?_, ?_, _, _, _, considered.safe⟩
    · rw [← unchanged] at fresh ⊢
      exact assign_of_absent fresh _
    · rw [← unchanged]
      rfl
  · rw [unchanged] at decided
    exact absurd (fresh.symm.trans decided) (by simp)
  · have stopped : onControl (recordDecision (draft.decision controller ids request format)
        draft.predictions) middle = .error exception middle := by
      unfold onControl zoom
      rw [ran]
    rw [bind_of_error stopped]
    exact unchanged

end Safety

/-- Over the predictions of any service a plan raises and leaves the control journal alone, or it
journals one safe decision. The journal accepts every answered draft whose identifiers are unused,
and the own service of the controller answers each of its drafts. -/
theorem plan_safe (controller : AgentAwareKVController) (ids : PlanIds)
    (request : KVControlRequest) (service : ManyPredictions) (format : ℚ → String)
    (journals : KVJournals) (fresh : journals.control.decisions.lookup ids.decision = none) :
    PlanOutcome controller request journals
      (planWith controller ids request service format journals) ∧
    (∀ draft middle, draftWith controller ids request service journals = .ok draft middle →
      Answered draft →
      validBundle (draft.decision controller ids request format) draft.predictions = true ∧
      (Unused ids draft.predictions journals.control →
        ∃ next, planWith controller ids request service format journals =
          .ok (draft.planned controller ids request format) next)) ∧
    ∀ draft middle, draftWith controller ids request
        (predictMany controller.service controller.snapshots) journals = .ok draft middle →
      Answered draft := by
  have unchanged := draftWith_control controller ids request service journals
  rw [planWith_eq_draft]
  refine and_assoc.mp ⟨?_, fun draft middle returned => (drafted_of_service returned).answered⟩
  cases ran : draftWith controller ids request service journals with
  | error exception last =>
      rw [ran] at unchanged
      rw [bind_of_error ran]
      exact ⟨unchanged, fun _ _ returned => by cases returned⟩
  | ok draft middle =>
      rw [ran] at unchanged
      rw [bind_of_ok ran]
      obtain ⟨considered, _⟩ := draftWith_ok ran
      refine ⟨planOutcome_of_draft considered unchanged fresh, fun other last returned answered => ?_⟩
      cases returned
      refine ⟨considered.valid answered, fun unused => ?_⟩
      rw [← unchanged] at unused
      obtain ⟨record, ran, _⟩ := recordDecision_of_storable (considered.storable answered unused)
      have stored : onControl (recordDecision (draft.decision controller ids request format)
          draft.predictions) middle = _ := zoom_of_ok ran
      exact ⟨_, bind_of_ok stored⟩

/-- This service answers every request with the same confident prediction and keeps no journal. -/
def steadyService : ManyPredictions := fun requests =>
  pure (requests.map fun request =>
    { snapshotId := request.1.snapshotId, candidateId := request.1.candidateAction.candidateId
      performance := { transferEtaSeconds := some 1 }
      futureState := { hbmPressure := some (1 / 2) }
      confidence := .of 1, modelVersion := "steady-1", fallback := "none"
      predictionId := request.2 })

/-- A prefetch over the predictions of another service is journaled. -/
theorem plan_safe_of_prefetch :
    ∃ planned next observed moves selected,
      planWith (cacheController (memoryOf "hbm0")) planIds cacheRequest steadyService (fun _ => "")
        {} = .ok planned next ∧
      planned.decision.selectedAction.actionType = KVActionType.prefetch.value ∧
      next.control.order = [planned.decision.decisionId] ∧
      SafePlan (cacheController (memoryOf "hbm0")) cacheRequest planned observed moves selected := by
  obtain ⟨planned, next, returned, prefetches, _⟩ := selection_some
    (show selection (planWith (cacheController (memoryOf "hbm0")) planIds cacheRequest steadyService
      (fun _ => "") {}) = some ("prefetch", "hbm0") by decide +kernel)
  have outcome := (plan_safe (cacheController (memoryOf "hbm0")) planIds cacheRequest steadyService
    (fun _ => "") {} rfl).1
  rw [returned] at outcome
  obtain ⟨_, ordered, observed, moves, selected, safe⟩ := outcome
  exact ⟨planned, next, observed, moves, selected, returned, prefetches, ordered, safe⟩

end StateFlow.Control
