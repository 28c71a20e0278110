import StateFlow.Proof.Control.PlanSafety

namespace StateFlow.Control
open Python Table Effect State Plane Predictions Selection

/-- The way back from an offload is a prefetch, and the way back from a prefetch is an offload. -/
theorem actionType_back {lower : String → String} {current target : KVTarget} :
    (actionType lower current target = .offload → actionType lower target current = .prefetch) ∧
      (actionType lower current target = .prefetch → actionType lower target current = .offload) := by
  constructor
  · intro offloads
    obtain ⟨apart, hot, cold⟩ := actionType_offload offloads
    simp [actionType, apart, hot, cold]
  · intro prefetches
    obtain ⟨apart, cold, hot⟩ := actionType_prefetch prefetches
    simp [actionType, apart, hot, cold]

section Rollback
variable {controller : AgentAwareKVController} {ids : PlanIds} {request : KVControlRequest}
  {draft : Draft} {selected current : KVTarget}

/-- The owner may perform the rollback of an action. -/
def RollbackAllowed (owner : KVActionOwner) (action : Action) : Prop :=
  ∃ kind ∈ owner.allowedActions, action.rollbackAction.lookup "action_type" = some (.str kind.value)

/-- An action rolls back with the kind of the move from its target to the current location. -/
def RollbackReverses (lower : String → String) (action : Action) (selected current : KVTarget) :
    Prop :=
  action.rollbackAction.lookup "action_type" = some (.str (actionType lower selected current).value)

/-- Every move is rolled back by a migration. -/
theorem Draft.rollback_migrates
    (moved : (draft.action controller ids request).actionType ≠ KVActionType.keep.value) :
    (draft.action controller ids request).rollbackAction.lookup "action_type" =
      some (.str KVActionType.migrate.value) := by
  have rolled : (draft.action controller ids request).rollbackAction =
      [("action_type", .str KVActionType.migrate.value), ("kv_ref", .str request.kvRef),
        ("target_location", .str draft.observed.current.locationRef)] := if_neg moved
  rw [rolled]
  rfl

/-- A selected move is an offload or a prefetch. -/
theorem Considered.moves_tier (considered : Considered controller request draft)
    (moved : draft.selected.1.action.actionType ≠ KVActionType.keep.value) :
    actionType controller.text.lower draft.observed.current draft.selected.1.target = .offload ∨
      actionType controller.text.lower draft.observed.current draft.selected.1.target =
        .prefetch := by
  obtain ⟨_, inside, _⟩ := considered.selected_mem
  obtain ⟨_, _, kind, _⟩ := candidates_allowed considered.proposes inside
  rcases (considered.guarded moved).triggered with ⟨offloads, _⟩ | ⟨prefetches, _⟩
  · exact .inl (KVActionType.value_injective (kind.symm.trans offloads))
  · exact .inr (KVActionType.value_injective (kind.symm.trans prefetches))

theorem rollbackAllowed_iff {owner : KVActionOwner} {action : Action}
    (migrates : action.rollbackAction.lookup "action_type" =
      some (.str KVActionType.migrate.value)) :
    RollbackAllowed owner action ↔ .migrate ∈ owner.allowedActions := by
  constructor
  · rintro ⟨kind, listed, named⟩
    have same : KVActionType.migrate.value = kind.value :=
      Value.str.inj (Option.some.inj (migrates.symm.trans named))
    exact KVActionType.value_injective same ▸ listed
  · exact fun listed => ⟨.migrate, listed, migrates⟩

/-- No move between the tiers is reversed by a migration. -/
theorem not_rollbackReverses {lower : String → String} {action : Action}
    (migrates : action.rollbackAction.lookup "action_type" =
      some (.str KVActionType.migrate.value))
    (tier : actionType lower current selected = .offload ∨
      actionType lower current selected = .prefetch) :
    ¬ RollbackReverses lower action selected current := by
  intro reverses
  have same : KVActionType.migrate.value = (actionType lower selected current).value :=
    Value.str.inj (Option.some.inj (migrates.symm.trans reverses))
  have kind := KVActionType.value_injective same
  rcases tier with offloads | prefetches
  · rw [actionType_back.1 offloads] at kind
    cases kind
  · rw [actionType_back.2 prefetches] at kind
    cases kind

end Rollback

/-- Over the predictions of any service no move is rolled back by the kind of the move back, and the
owner may perform the rollback only where it may migrate. -/
theorem rollback_never_reverses (controller : AgentAwareKVController) (ids : PlanIds)
    (request : KVControlRequest) (service : ManyPredictions) (format : ℚ → String)
    (journals : KVJournals) {planned : KVControlPlan} {next : KVJournals}
    {selected current : KVTarget}
    (returned : planWith controller ids request service format journals = .ok planned next)
    (moved : planned.decision.selectedAction.actionType ≠ KVActionType.keep.value)
    (aimed : selected ∈ request.targets ∧ planned.selectedTarget = selected.locationRef)
    (located : current ∈ request.targets ∧ planned.currentLocation = current.locationRef) :
    (RollbackAllowed controller.owner planned.decision.selectedAction ↔
      .migrate ∈ controller.owner.allowedActions) ∧
    ¬ (RollbackAllowed controller.owner planned.decision.selectedAction ∧
      RollbackReverses controller.text.lower planned.decision.selectedAction selected current) := by
  obtain ⟨draft, _, drafting, rfl⟩ := planWith_ok_draft returned
  obtain ⟨considered, _⟩ := draftWith_ok drafting
  have distinct := (observe_ok considered.observes).distinct
  have reads := observe_reads considered.observes
  obtain ⟨_, inside, _⟩ := considered.selected_mem
  obtain ⟨listed, _, _, _⟩ := candidates_allowed considered.proposes inside
  have there : draft.selected.1.target = selected :=
    List.inj_on_of_nodup_map distinct listed aimed.1 aimed.2
  have here : draft.observed.current = current :=
    List.inj_on_of_nodup_map distinct reads.listed located.1 located.2
  have migrates := Draft.rollback_migrates moved
  subst there here
  exact ⟨rollbackAllowed_iff migrates, fun rolls =>
    not_rollbackReverses migrates (considered.moves_tier moved) rolls.2⟩

/-- This owner moves a cache between the tiers only. -/
def tierOwner : KVActionOwner :=
  { cacheOwner with allowedActions := [.keep, .offload, .prefetch], keeps := by decide }

def tierController : AgentAwareKVController :=
  { cacheController (memoryOf "hbm0") with owner := tierOwner }

/-- The kind and the two ends of a plan that returned. -/
def route : EStateM.Result Exception KVJournals KVControlPlan → Option (String × String × String)
  | .ok planned _ => some (planned.decision.selectedAction.actionType, planned.currentLocation,
      planned.selectedTarget)
  | .error _ _ => none

theorem tier_prefetches :
    ∃ planned next, plan tierController planIds cacheRequest (fun _ => "") {} = .ok planned next ∧
      planned.decision.selectedAction.actionType ≠ KVActionType.keep.value ∧
      planned.currentLocation = dramTarget.locationRef ∧
      planned.selectedTarget = hbmTarget.locationRef := by
  have found : route (plan tierController planIds cacheRequest (fun _ => "") {}) =
      some ("prefetch", "dram0", "hbm0") := by decide +kernel
  cases returned : plan tierController planIds cacheRequest (fun _ => "") {} with
  | error exception next => rw [returned] at found; cases found
  | ok planned next =>
      rw [returned] at found
      obtain ⟨kind, here, there⟩ : planned.decision.selectedAction.actionType = "prefetch" ∧
          planned.currentLocation = "dram0" ∧ planned.selectedTarget = "hbm0" := by
        simpa [route] using found
      exact ⟨planned, next, rfl, by rw [kind]; decide, here, there⟩

/-- A prefetch of this owner is never rolled back by the kind of the move back. -/
theorem rollback_never_reverses_of_prefetch :
    ∃ planned next, plan tierController planIds cacheRequest (fun _ => "") {} = .ok planned next ∧
      ¬ (RollbackAllowed tierOwner planned.decision.selectedAction ∧
        RollbackReverses asciiText.lower planned.decision.selectedAction hbmTarget dramTarget) := by
  obtain ⟨planned, next, returned, moved, located, aimed⟩ := tier_prefetches
  exact ⟨planned, next, returned, (rollback_never_reverses tierController planIds cacheRequest
    (predictMany tierController.service tierController.snapshots) (fun _ => "") {} returned moved ⟨List.mem_cons_of_mem _ List.mem_cons_self, aimed⟩
    ⟨List.mem_cons_self, located⟩).2⟩

/-- An owner that may not migrate gets a migration as the rollback of its prefetch, where the move
back is an offload. -/
theorem prefetch_rolled_back_by_migration :
    ∃ planned next, plan tierController planIds cacheRequest (fun _ => "") {} = .ok planned next ∧
      planned.decision.selectedAction.actionType ≠ KVActionType.keep.value ∧
      planned.currentLocation = dramTarget.locationRef ∧
      planned.selectedTarget = hbmTarget.locationRef ∧
      actionType asciiText.lower hbmTarget dramTarget = .offload ∧
      ¬ RollbackReverses asciiText.lower planned.decision.selectedAction hbmTarget dramTarget ∧
      ¬ RollbackAllowed tierOwner planned.decision.selectedAction := by
  obtain ⟨planned, next, returned, moved, located, aimed⟩ := tier_prefetches
  obtain ⟨draft, _, rfl⟩ := plan_ok_draft returned
  have migrates := Draft.rollback_migrates moved
  refine ⟨_, next, returned, moved, located, aimed, by decide +kernel,
    not_rollbackReverses migrates (.inr (by decide +kernel)), fun allowed => ?_⟩
  exact absurd ((rollbackAllowed_iff migrates).mp allowed) (by decide)

end StateFlow.Control
