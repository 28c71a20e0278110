import StateFlow.Construction.Scheduler.Schedule

namespace StateFlow.Scheduler
open Python Table Effect State Selection

section Capable
variable {host : Host}

/-- A rank that does not convert decides about the whole list. -/
theorem capableTargets_error {targets : List TargetCandidate} :
    (∃ exception, capableTargets host targets = .error exception) ↔
      ∃ target ∈ targets, ∃ exception, isCapable host target = .error exception := by
  induction targets with
  | nil =>
      constructor
      · rintro ⟨exception, raised⟩
        cases raised
      · rintro ⟨target, member, _⟩
        cases member
  | cons target rest ih =>
      rw [List.exists_mem_cons_iff, ← ih]
      simp only [capableTargets, bind, Except.bind, pure, Except.pure]
      cases isCapable host target with
      | error exception => simp
      | ok flag => cases capableTargets host rest <;> simp

theorem capableTargets_ok {targets capable : List TargetCandidate}
    (returned : capableTargets host targets = .ok capable) :
    capable.Sublist targets ∧
      ∀ target ∈ targets, target ∈ capable ↔ isCapable host target = .ok true := by
  induction targets generalizing capable with
  | nil =>
      cases returned
      exact ⟨List.Sublist.refl _, fun _ member => absurd member List.not_mem_nil⟩
  | cons target rest ih =>
      unfold capableTargets at returned
      obtain ⟨flag, judged, continued⟩ := except_bind_ok returned
      obtain ⟨others, later, finished⟩ := except_bind_ok continued
      obtain ⟨sublist, exact⟩ := ih later
      have onlyCapable : ∀ item ∈ others, isCapable host item = .ok true :=
        fun item member => (exact item (sublist.subset member)).mp member
      cases flag with
      | true =>
          cases finished
          refine ⟨sublist.cons_cons target, fun item member => ?_⟩
          constructor
          · intro inside
            rcases List.mem_cons.mp inside with rfl | later
            · exact judged
            · exact onlyCapable item later
          · intro capable
            rcases List.mem_cons.mp member with rfl | later
            · exact List.mem_cons_self
            · exact List.mem_cons_of_mem _ ((exact item later).mpr capable)
      | false =>
          cases finished
          refine ⟨sublist.cons target, fun item member => ⟨onlyCapable item, fun capable => ?_⟩⟩
          rcases List.mem_cons.mp member with rfl | later
          · rw [judged] at capable
            cases capable
          · exact (exact item later).mpr capable

/-- These facts hold of a restriction to the capable targets. -/
structure Restricts (host : Host) (targets chosen : List TargetCandidate) : Prop where
  sublist : chosen.Sublist targets
  present : targets ≠ [] → chosen ≠ []
  capable : (∃ target ∈ targets, isCapable host target = .ok true) →
    ∀ target ∈ chosen, isCapable host target = .ok true

theorem capableOnly_ok {targets chosen : List TargetCandidate}
    (returned : capableOnly host targets = .ok chosen) : Restricts host targets chosen := by
  unfold capableOnly at returned
  obtain ⟨capable, listed, finished⟩ := except_bind_ok returned
  obtain ⟨sublist, exact⟩ := capableTargets_ok listed
  by_cases empty : capable.isEmpty = true
  · rw [if_pos empty] at finished
    cases finished
    refine ⟨List.Sublist.refl _, id, fun ⟨target, member, able⟩ => ?_⟩
    have inside := (exact target member).mpr able
    rw [List.isEmpty_iff.mp empty] at inside
    cases inside
  · rw [if_neg empty] at finished
    cases finished
    refine ⟨sublist, fun _ none => empty (List.isEmpty_iff.mpr none), fun _ target member => ?_⟩
    exact (exact target (sublist.subset member)).mp member

theorem capableOnly_error {targets : List TargetCandidate} :
    (∃ exception, capableOnly host targets = .error exception) ↔
      ∃ target ∈ targets, ∃ exception, isCapable host target = .error exception := by
  rw [← capableTargets_error]
  unfold capableOnly
  cases capableTargets host targets <;> simp [bind, Except.bind, pure, Except.pure]

end Capable

section Estimates
variable {estimate : TargetCandidate → Except String SuccessEstimate} {config : SchedulerConfig}

/-- The first target of a model. -/
def leader (targets : List TargetCandidate) (model : String) : Option TargetCandidate :=
  targets.find? fun target => target.modelId = model

theorem leader_concat (targets : List TargetCandidate) (target : TargetCandidate) (model : String) :
    leader (targets ++ [target]) model =
      (leader targets model).or (if target.modelId = model then some target else none) := by
  unfold leader
  rw [List.find?_append, List.find?_singleton]
  simp only [decide_eq_true_eq]

theorem leader_some {targets : List TargetCandidate} {model : String} {target : TargetCandidate}
    (leads : leader targets model = some target) : target ∈ targets ∧ target.modelId = model :=
  ⟨List.mem_of_find?_eq_some leads, by simpa using List.find?_some leads⟩

/-- Every model with a target has a leader. -/
theorem leader_of_mem {targets : List TargetCandidate} {target : TargetCandidate}
    (member : target ∈ targets) : ∃ first, leader targets target.modelId = some first := by
  cases found : leader targets target.modelId with
  | none =>
      have absent := List.find?_eq_none.mp found target member
      simp at absent
  | some first => exact ⟨first, rfl⟩

theorem leader_cons (first : TargetCandidate) (rest : List TargetCandidate) :
    leader (first :: rest) first.modelId = some first :=
  List.find?_cons_of_pos (decide_eq_true rfl)

/-- A model holds the estimate of its leader. -/
theorem estimateByModel_lookup (targets : List TargetCandidate) (model : String) :
    (estimateByModel estimate targets).lookup model =
      (leader targets model).map (safeEstimate estimate) := by
  induction targets using List.reverseRecOn with
  | nil => rfl
  | append_singleton early target ih =>
      have step : estimateByModel estimate (early ++ [target]) =
          if ((estimateByModel estimate early).lookup target.modelId).isSome then
            estimateByModel estimate early
          else estimateByModel estimate early ++
            [(target.modelId, safeEstimate estimate target)] := by
        unfold estimateByModel
        rw [List.foldl_append]
        rfl
      rw [step, leader_concat]
      by_cases same : target.modelId = model
      · rw [same, ih, if_pos rfl]
        cases known : leader early model with
        | some first => simpa using ih.trans (by rw [known]; rfl)
        | none =>
            rw [known] at ih
            simp [List.lookup_append, ih]
      · rw [if_neg same, Option.or_none, ← ih]
        split
        · rfl
        · rw [List.lookup_append, lookup_cons, if_neg (Ne.symm same)]
          simp

/-- The table holds one estimate for each model. -/
theorem estimateByModel_nodup (targets : List TargetCandidate) :
    ((estimateByModel estimate targets).map Prod.fst).Nodup := by
  have step (items : List TargetCandidate) (table : List (String × SuccessEstimate))
      (distinct : (table.map Prod.fst).Nodup) :
      ((items.foldl (fun estimates target =>
        if (estimates.lookup target.modelId).isSome then estimates
        else estimates ++ [(target.modelId, safeEstimate estimate target)]) table).map
          Prod.fst).Nodup := by
    induction items generalizing table with
    | nil => exact distinct
    | cons target rest ih =>
        rw [List.foldl_cons]
        apply ih
        split
        · exact distinct
        · rename_i absent
          rw [List.map_append, List.map_singleton]
          refine List.nodup_append.mpr ⟨distinct, List.nodup_singleton _, ?_⟩
          intro first listed second last same
          cases List.mem_singleton.mp last
          rw [same] at listed
          exact absent (lookup_isSome_iff.mpr listed)
  exact step targets [] List.nodup_nil

/-- A test of the estimates tests the leaders. -/
theorem mem_estimateByModel {targets : List TargetCandidate} {entry : String × SuccessEstimate} :
    entry ∈ estimateByModel estimate targets ↔
      ∃ first, leader targets entry.1 = some first ∧ entry.2 = safeEstimate estimate first := by
  have looked := @estimateByModel_lookup estimate targets entry.1
  constructor
  · intro member
    have found := lookup_of_mem (estimateByModel_nodup targets) member
    rw [looked] at found
    obtain ⟨first, leads, same⟩ := Option.map_eq_some_iff.mp found
    exact ⟨first, leads, same.symm⟩
  · rintro ⟨first, leads, same⟩
    rw [leads, Option.map_some, ← same] at looked
    exact mem_of_lookup looked

/-- The estimate of a target asks for the safe policy. -/
def Unsafe (config : SchedulerConfig) (estimate : TargetCandidate → Except String SuccessEstimate)
    (target : TargetCandidate) : Prop :=
  requiresSafeMode config [(target.modelId, safeEstimate estimate target)] = true

theorem requiresSafeMode_any (entries : List (String × SuccessEstimate)) :
    requiresSafeMode config entries = true ↔
      ∃ entry ∈ entries, requiresSafeMode config [entry] = true := by
  simp only [requiresSafeMode, List.any_cons, List.any_nil, Bool.or_false]
  exact List.any_eq_true

/-- The safe policy is asked for by the leader of some model. -/
theorem requiresSafeMode_iff {targets : List TargetCandidate} :
    requiresSafeMode config (estimateByModel estimate targets) = true ↔
      ∃ target, leader targets target.modelId = some target ∧ Unsafe config estimate target := by
  rw [requiresSafeMode_any]
  constructor
  · rintro ⟨⟨model, found⟩, member, asks⟩
    obtain ⟨first, leads, rfl⟩ := mem_estimateByModel.mp member
    obtain ⟨_, rfl⟩ := leader_some leads
    exact ⟨first, leads, asks⟩
  · rintro ⟨target, leads, asks⟩
    exact ⟨_, mem_estimateByModel.mpr ⟨target, leads, rfl⟩, asks⟩

end Estimates

section Policy
variable {host : Host} {config : SchedulerConfig}
  {estimate : TargetCandidate → Except String SuccessEstimate} {risks : RiskSignals}
  {eligible : List TargetCandidate}

/-- A critical signal or an unsafe estimate asks for the capable targets. -/
def Overridden (config : SchedulerConfig)
    (estimate : TargetCandidate → Except String SuccessEstimate) (risks : RiskSignals)
    (eligible : List TargetCandidate) : Prop :=
  (criticalOverride risks config).active = true ∨
    requiresSafeMode config (estimateByModel estimate eligible) = true

/-- These facts hold of a chosen policy. -/
structure Chosen (host : Host) (config : SchedulerConfig)
    (estimate : TargetCandidate → Except String SuccessEstimate) (risks : RiskSignals)
    (eligible : List TargetCandidate) (policy : Policy) : Prop where
  restricts : policy.override.active = true → Restricts host eligible policy.targets
  unchanged : policy.override.active = false → policy.targets = eligible
  active : policy.override.active = true ↔ Overridden config estimate risks eligible

theorem choosePolicy_ok {policy : Policy}
    (returned : choosePolicy host config estimate risks eligible = .ok policy) :
    Chosen host config estimate risks eligible policy := by
  unfold choosePolicy at returned
  cases critical : (criticalOverride risks config).active with
  | true =>
      simp only [critical, if_true] at returned
      obtain ⟨targets, restricted, finished⟩ := except_bind_ok returned
      cases finished
      have restricts := capableOnly_ok restricted
      exact ⟨fun _ => restricts, fun inactive => absurd (critical.symm.trans inactive) (by decide),
        fun _ => Or.inl critical, fun _ => critical⟩
  | false =>
      simp only [critical, Bool.false_eq_true, if_false] at returned
      obtain ⟨targets, same, continued⟩ := except_bind_ok returned
      cases same
      cases unsafeMode : requiresSafeMode config (estimateByModel estimate eligible) with
      | true =>
          simp only [unsafeMode, Bool.not_false, Bool.and_self, if_true] at continued
          obtain ⟨targets, restricted, finished⟩ := except_bind_ok continued
          cases finished
          exact ⟨fun _ => capableOnly_ok restricted, fun inactive => Bool.noConfusion inactive,
            fun _ => Or.inr unsafeMode, fun _ => rfl⟩
      | false =>
          simp only [unsafeMode, Bool.not_false, Bool.and_false, Bool.false_eq_true, if_false]
            at continued
          cases continued
          refine ⟨fun active => absurd (critical.symm.trans active) (by decide), fun _ => rfl,
            fun active => Or.inl active, ?_⟩
          rintro (active | unsafeNow)
          · exact active
          · exact absurd (unsafeMode.symm.trans unsafeNow) (by decide)

/-- An override is active exactly when it has reasons. -/
theorem choosePolicy_reasons {policy : Policy}
    (returned : choosePolicy host config estimate risks eligible = .ok policy) :
    policy.override.active = !policy.override.reasons.isEmpty := by
  have flagged : (criticalOverride risks config).active =
      !(criticalOverride risks config).reasons.isEmpty := rfl
  unfold choosePolicy at returned
  cases critical : (criticalOverride risks config).active with
  | true =>
      simp only [critical, if_true] at returned
      obtain ⟨targets, _, finished⟩ := except_bind_ok returned
      cases finished
      exact flagged
  | false =>
      simp only [critical, Bool.false_eq_true, if_false] at returned
      obtain ⟨targets, _, continued⟩ := except_bind_ok returned
      split at continued
      · obtain ⟨capable, _, finished⟩ := except_bind_ok continued
        cases finished
        rfl
      · cases continued
        exact flagged

/-- A policy fails exactly when an override has to read a rank that does not convert. -/
theorem choosePolicy_error :
    (∃ exception, choosePolicy host config estimate risks eligible = .error exception) ↔
      Overridden config estimate risks eligible ∧
        ∃ target ∈ eligible, ∃ exception, isCapable host target = .error exception := by
  rw [← capableOnly_error]
  simp only [choosePolicy, Overridden, bind, Except.bind, pure, Except.pure]
  cases critical : (criticalOverride risks config).active with
  | true => cases capableOnly host eligible <;> simp
  | false =>
      cases requiresSafeMode config (estimateByModel estimate eligible) <;>
        cases capableOnly host eligible <;> simp

theorem Chosen.sublist {policy : Policy}
    (chosen : Chosen host config estimate risks eligible policy) :
    policy.targets.Sublist eligible := by
  cases active : policy.override.active with
  | true => exact (chosen.restricts active).sublist
  | false => rw [chosen.unchanged active]

theorem Chosen.present {policy : Policy}
    (chosen : Chosen host config estimate risks eligible policy) (feasible : eligible ≠ []) :
    policy.targets ≠ [] := by
  cases active : policy.override.active with
  | true => exact (chosen.restricts active).present feasible
  | false => rwa [chosen.unchanged active]

end Policy

section Placement
variable {candidates : List EvaluatedTarget}

theorem fastest_some (present : candidates ≠ []) :
    ∃ best ∈ candidates, fastest candidates = some best :=
  argmin_of_ne_nil EvaluatedTarget.latency present

/-- A placement chooses among a nonempty list. -/
theorem choosePlacement_some (place : SessionPlace) (present : candidates ≠ []) :
    ∃ placement, choosePlacement place candidates = some placement ∧
      placement.chosen ∈ candidates := by
  unfold choosePlacement
  split
  · obtain ⟨best, member, first⟩ := argmin_of_ne_nil firstTurnKey present
    obtain ⟨quick, _, quickest⟩ := fastest_some present
    unfold firstPlacement
    rw [first, quickest]
    exact ⟨_, rfl, member⟩
  · obtain ⟨best, member, quickest⟩ := fastest_some present
    have inside (keep : EvaluatedTarget → Bool) {item : EvaluatedTarget}
        (found : fastest (candidates.filter keep) = some item) : item ∈ candidates :=
      (List.mem_filter.mp (argmin_mem _ found)).1
    simp only
    cases near : fastest (candidates.filter fun item => isLocal place item.target) with
    | none =>
        simp only [stayOrMove, quickest]
        exact ⟨_, rfl, member⟩
    | some localBest =>
        cases far : fastest (candidates.filter fun item => !isLocal place item.target) with
        | none => exact ⟨_, rfl, inside _ near⟩
        | some remoteBest =>
            simp only [stayOrMove]
            split
            · exact ⟨_, rfl, inside _ near⟩
            · exact ⟨_, rfl, inside _ far⟩

end Placement

end StateFlow.Scheduler
