import StateFlow.Proof.Scheduler.Selection

namespace StateFlow.Scheduler
open Python Table Effect State Selection

section Capable
variable {host : Host} {targets others : List TargetCandidate}

/-- A target is able when its rank converts and makes it capable. -/
def isAble (host : Host) (target : TargetCandidate) : Bool :=
  (isCapable host target).toOption.getD false

/-- The capable targets of a list whose ranks convert. -/
theorem capableTargets_eq {capable : List TargetCandidate}
    (returned : capableTargets host targets = .ok capable) :
    capable = targets.filter (isAble host) := by
  induction targets generalizing capable with
  | nil =>
      cases returned
      rfl
  | cons target rest ih =>
      unfold capableTargets at returned
      obtain ⟨flag, judged, continued⟩ := except_bind_ok returned
      obtain ⟨able, later, finished⟩ := except_bind_ok continued
      have tail := ih later
      cases flag with
      | true =>
          cases finished
          rw [List.filter_cons_of_pos (by rw [isAble, judged]; rfl), tail]
          rfl
      | false =>
          cases finished
          rw [List.filter_cons_of_neg (by rw [isAble, judged]; exact Bool.false_ne_true), tail]
          rfl

/-- The restriction of a list is its capable part or the whole list. -/
theorem capableOnly_eq {chosen : List TargetCandidate}
    (returned : capableOnly host targets = .ok chosen) :
    chosen =
      let capable := targets.filter (isAble host)
      if capable.isEmpty then targets else capable := by
  unfold capableOnly at returned
  obtain ⟨capable, listed, finished⟩ := except_bind_ok returned
  cases finished
  rw [capableTargets_eq listed]

/-- A restriction returns for every order of its list. -/
theorem capableOnly_returns (same : ∀ target, target ∈ others ↔ target ∈ targets)
    (returned : ∃ chosen, capableOnly host targets = .ok chosen) :
    ∃ chosen, capableOnly host others = .ok chosen := by
  cases restricted : capableOnly host others with
  | ok chosen => exact ⟨chosen, rfl⟩
  | error exception =>
      obtain ⟨target, member, raised⟩ := capableOnly_error.mp ⟨exception, restricted⟩
      obtain ⟨chosen, found⟩ := returned
      obtain ⟨other, failed⟩ := capableOnly_error.mpr ⟨target, (same target).mp member, raised⟩
      cases found.symm.trans failed

/-- A restriction keeps the members of every order of its list. -/
theorem capableOnly_mem (same : ∀ target, target ∈ others ↔ target ∈ targets)
    {chosen again : List TargetCandidate} (first : capableOnly host targets = .ok chosen)
    (second : capableOnly host others = .ok again) (target : TargetCandidate) :
    target ∈ again ↔ target ∈ chosen := by
  have empty : (others.filter (isAble host)).isEmpty =
      (targets.filter (isAble host)).isEmpty := by
    rw [Bool.eq_iff_iff, List.isEmpty_iff, List.isEmpty_iff, List.filter_eq_nil_iff,
      List.filter_eq_nil_iff]
    simp only [same]
  rw [capableOnly_eq first, capableOnly_eq second]
  simp only [empty]
  split
  · exact same target
  · rw [List.mem_filter, List.mem_filter, same]

/-- A target that a restriction keeps leads it when it leads the list. -/
theorem capableOnly_leads {first : TargetCandidate} {rest chosen : List TargetCandidate}
    (returned : capableOnly host (first :: rest) = .ok chosen) (kept : first ∈ chosen) :
    leader chosen first.modelId = some first := by
  have equal := capableOnly_eq returned
  dsimp only at equal
  split at equal
  · rw [equal]
    exact leader_cons first rest
  · rw [equal] at kept ⊢
    rw [List.filter_cons_of_pos (List.mem_filter.mp kept).2]
    exact leader_cons first _

end Capable

section Policy
variable {host : Host} {config : SchedulerConfig}
  {estimate : TargetCandidate → Except String SuccessEstimate} {risks : RiskSignals}
  {eligible : List TargetCandidate}

/-- A policy estimates its targets, and an override restricts them to the capable ones. -/
theorem choosePolicy_source {policy : Policy}
    (returned : choosePolicy host config estimate risks eligible = .ok policy) :
    policy.estimates = estimateByModel estimate policy.targets ∧
      (policy.override.active = true → capableOnly host eligible = .ok policy.targets) := by
  unfold choosePolicy at returned
  cases critical : (criticalOverride risks config).active with
  | true =>
      simp only [critical, if_true] at returned
      obtain ⟨targets, restricted, finished⟩ := except_bind_ok returned
      cases finished
      exact ⟨rfl, fun _ => restricted⟩
  | false =>
      simp only [critical, Bool.false_eq_true, if_false] at returned
      obtain ⟨targets, same, continued⟩ := except_bind_ok returned
      cases same
      cases unsafeMode : requiresSafeMode config (estimateByModel estimate eligible) with
      | true =>
          simp only [unsafeMode, Bool.not_false, Bool.and_self, if_true] at continued
          obtain ⟨targets, restricted, finished⟩ := except_bind_ok continued
          cases finished
          exact ⟨rfl, fun _ => restricted⟩
      | false =>
          simp only [unsafeMode, Bool.not_false, Bool.and_false, Bool.false_eq_true, if_false]
            at continued
          cases continued
          exact ⟨rfl, fun active => absurd (critical.symm.trans active) (by decide)⟩

/-- The bound of the estimate of one target. -/
def targetBound (config : SchedulerConfig)
    (estimate : TargetCandidate → Except String SuccessEstimate) (target : TargetCandidate) : ℚ :=
  (safeEstimate estimate target).lowerConfidenceBound config.beta

/-- The bound of a model is the bound of its leader. -/
theorem modelBound_leader {policy : Policy}
    (returned : choosePolicy host config estimate risks eligible = .ok policy) (model : String) :
    modelBound config policy model =
      ((leader policy.targets model).map (targetBound config estimate)).getD
        (SuccessEstimate.lowerConfidenceBound ⟨0, 1, 0, "", []⟩ config.beta) := by
  unfold modelBound Policy.estimate getD
  rw [(choosePolicy_source returned).1, estimateByModel_lookup]
  cases leader policy.targets model <;> rfl

/-- Replicas of a model have equal bounds. -/
def EvenBounds (config : SchedulerConfig)
    (estimate : TargetCandidate → Except String SuccessEstimate) (targets : List TargetCandidate) :
    Prop :=
  ∀ first ∈ targets, ∀ second ∈ targets, first.modelId = second.modelId →
    targetBound config estimate first = targetBound config estimate second

/-- The bound of an even model is the bound of each of its targets. -/
theorem EvenBounds.modelBound {policy : Policy} (even : EvenBounds config estimate policy.targets)
    (returned : choosePolicy host config estimate risks eligible = .ok policy)
    {target : TargetCandidate} (member : target ∈ policy.targets) :
    modelBound config policy target.modelId = targetBound config estimate target := by
  obtain ⟨first, leads⟩ := leader_of_mem member
  obtain ⟨listed, named⟩ := leader_some leads
  rw [modelBound_leader returned, leads]
  exact even first listed target member named

end Policy

section Gate
variable {first second : List CandidateEvaluation} {sMin epsilonSuccess : ℚ}

/-- Equal bounds of the models give equal verdicts of the gate. -/
theorem successGate_congr (same : ∀ entry, entry ∈ boundByModel first ↔ entry ∈ boundByModel second) :
    (∀ model, model ∈ (successGate first sMin epsilonSuccess).modelIds ↔
      model ∈ (successGate second sMin epsilonSuccess).modelIds) ∧
    (successGate first sMin epsilonSuccess).fallback =
      (successGate second sMin epsilonSuccess).fallback := by
  cases firstBest : (boundByModel first).argmax Prod.snd with
  | none =>
      have none : boundByModel second = [] := by
        have empty := List.argmax_eq_none.mp firstBest
        refine List.eq_nil_iff_forall_not_mem.mpr fun entry member => ?_
        have inside := (same entry).mpr member
        rw [empty] at inside
        cases inside
      have secondBest : (boundByModel second).argmax Prod.snd = .none := List.argmax_eq_none.mpr none
      simp only [successGate, firstBest, secondBest, implies_true, and_self]
  | some best =>
      have top := argmax_mem Prod.snd firstBest
      obtain ⟨other, otherTop, secondBest⟩ :=
        argmax_of_ne_nil Prod.snd (List.ne_nil_of_mem ((same best).mp top))
      have equal : best.2 = other.2 := le_antisymm
        (le_argmax Prod.snd secondBest ((same best).mp top))
        (le_argmax Prod.snd firstBest ((same other).mpr otherTop))
      have filtered (keep : String × ℚ → Bool) (entry : String × ℚ) :
          entry ∈ (boundByModel first).filter keep ↔ entry ∈ (boundByModel second).filter keep := by
        rw [List.mem_filter, List.mem_filter, same]
      have empties (keep : String × ℚ → Bool) : ((boundByModel first).filter keep).isEmpty =
          ((boundByModel second).filter keep).isEmpty := by
        rw [Bool.eq_iff_iff, List.isEmpty_iff, List.isEmpty_iff, List.eq_nil_iff_forall_not_mem,
          List.eq_nil_iff_forall_not_mem]
        simp only [filtered]
      simp only [successGate, firstBest, secondBest, equal, empties]
      split
      · exact ⟨fun model => by simp only [List.mem_map, filtered], rfl⟩
      · exact ⟨fun model => by simp only [List.mem_map, filtered], rfl⟩

/-- The table of the bounds holds the models with their bound. -/
theorem mem_boundByModel {evaluations : List CandidateEvaluation} {bound : String → ℚ}
    (shared : SharedBound evaluations bound) (entry : String × ℚ) :
    entry ∈ boundByModel evaluations ↔
      entry.1 ∈ evaluations.map CandidateEvaluation.modelId ∧ entry.2 = bound entry.1 := by
  have known := boundByModel_table shared
  constructor
  · exact known.sound entry
  · rintro ⟨listed, same⟩
    have found := mem_of_lookup (known.complete entry.1 listed)
    rwa [← same] at found

end Gate

section Orders
variable (host : Host) (config : SchedulerConfig) (predictor : SuccessPredictor)
  (view : HarnessSchedulingView)

/-- A request reaches the success gate with a policy. -/
def GatedBy (targets : List TargetCandidate) (policy : Policy) : Prop :=
  ∃ limits risks, Scheduler.limits view = .ok limits ∧ Scheduler.risks view = .ok risks ∧
    (filterTargets limits targets).eligible ≠ [] ∧
    choosePolicy host config (predictor view) risks (filterTargets limits targets).eligible =
      .ok policy

/-- The success gate of a policy. -/
def Policy.gate (policy : Policy) : SuccessGateResult :=
  gateSuccess config (policy.evaluate config)

/-- Two policies pass the same models and agree on the fallback and on the override. -/
structure SameVerdict (first second : Policy) : Prop where
  models : ∀ model, model ∈ (first.gate config).modelIds ↔ model ∈ (second.gate config).modelIds
  fallback : (first.gate config).fallback = (second.gate config).fallback
  override : first.override.active = second.override.active

/-- The bound of a model is never above the bound of one of its evaluated targets. -/
def Conservative (estimate : TargetCandidate → Except String SuccessEstimate) (policy : Policy) :
    Prop :=
  ∀ item ∈ policy.evaluate config,
    item.evaluation.successLcb ≤ targetBound config estimate item.target

/-- No order of the targets changes the verdict of the gate. -/
structure OrderFree (targets : List TargetCandidate) : Prop where
  reaches : ∀ others, others.Perm targets →
    ((∃ policy, GatedBy host config predictor view targets policy) ↔
      ∃ policy, GatedBy host config predictor view others policy)
  verdict : ∀ others, others.Perm targets → ∀ first second,
    GatedBy host config predictor view targets first →
    GatedBy host config predictor view others second → SameVerdict config first second
  conservative : ∀ others, others.Perm targets → ∀ policy,
    GatedBy host config predictor view others policy → Conservative config (predictor view) policy

variable (estimate : TargetCandidate → Except String SuccessEstimate) (risks : RiskSignals)
  (eligible : List TargetCandidate)

/-- A critical signal, or a model whose targets are all unsafe, asks for the safe policy in every
order. -/
def AlwaysOverridden : Prop :=
  (criticalOverride risks config).active = true ∨
    ∃ target ∈ eligible, ∀ other ∈ eligible, other.modelId = target.modelId →
      Unsafe config estimate other

/-- Either every order restricts the targets to capable ones with equal bounds inside each model,
or no target is unsafe and all of them have equal bounds inside each model. -/
def EvenReplicas : Prop :=
  (AlwaysOverridden config estimate risks eligible ∧
    ∀ capable, capableOnly host eligible = .ok capable → EvenBounds config estimate capable) ∨
  ((criticalOverride risks config).active = false ∧
    (∀ target ∈ eligible, ¬ Unsafe config estimate target) ∧ EvenBounds config estimate eligible)

end Orders

section Verdicts
variable {host : Host} {config : SchedulerConfig}
  {estimate : TargetCandidate → Except String SuccessEstimate} {risks : RiskSignals}
  {eligible others : List TargetCandidate}

theorem overridden_of_always (always : AlwaysOverridden config estimate risks eligible)
    (same : ∀ target, target ∈ others ↔ target ∈ eligible) :
    Overridden config estimate risks others := by
  rcases always with critical | ⟨target, listed, all⟩
  · exact Or.inl critical
  · obtain ⟨first, leads⟩ := leader_of_mem ((same target).mpr listed)
    obtain ⟨inside, named⟩ := leader_some leads
    exact Or.inr (requiresSafeMode_iff.mpr
      ⟨first, named.symm ▸ leads, all first ((same first).mp inside) named⟩)

theorem not_overridden_of_safe (calm : (criticalOverride risks config).active = false)
    (safe : ∀ target ∈ others, leader others target.modelId = some target →
      ¬ Unsafe config estimate target) : ¬ Overridden config estimate risks others := by
  rintro (critical | unsafeMode)
  · exact absurd (critical.symm.trans calm) (by decide)
  · obtain ⟨target, leads, asks⟩ := requiresSafeMode_iff.mp unsafeMode
    exact safe target (leader_some leads).1 leads asks

/-- Even replicas are overridden in every order or in none. -/
theorem EvenReplicas.overridden_iff (even : EvenReplicas host config estimate risks eligible)
    (same : ∀ target, target ∈ others ↔ target ∈ eligible) :
    Overridden config estimate risks others ↔ Overridden config estimate risks eligible := by
  rcases even with ⟨always, _⟩ | ⟨calm, safe, _⟩
  · exact iff_of_true (overridden_of_always always same)
      (overridden_of_always always fun _ => Iff.rfl)
  · exact iff_of_false
      (not_overridden_of_safe calm fun target member _ => safe target ((same target).mp member))
      (not_overridden_of_safe calm fun target member _ => safe target member)

/-- The policies of two orders of even replicas have the same targets with even bounds. -/
theorem EvenReplicas.policies (even : EvenReplicas host config estimate risks eligible)
    (same : ∀ target, target ∈ others ↔ target ∈ eligible) {first second : Policy}
    (one : choosePolicy host config estimate risks eligible = .ok first)
    (two : choosePolicy host config estimate risks others = .ok second) :
    first.override.active = second.override.active ∧
      (∀ target, target ∈ second.targets ↔ target ∈ first.targets) ∧
      EvenBounds config estimate first.targets := by
  have firstChosen := choosePolicy_ok one
  have secondChosen := choosePolicy_ok two
  have active : first.override.active = second.override.active := by
    rw [Bool.eq_iff_iff, firstChosen.active, secondChosen.active, even.overridden_iff same]
  refine ⟨active, ?_⟩
  cases overridden : first.override.active with
  | true =>
      have firstSource := (choosePolicy_source one).2 overridden
      have secondSource := (choosePolicy_source two).2 (active.symm.trans overridden)
      refine ⟨capableOnly_mem same firstSource secondSource, ?_⟩
      rcases even with ⟨_, bounds⟩ | ⟨calm, safe, _⟩
      · exact bounds first.targets firstSource
      · exact absurd (firstChosen.active.mp overridden)
          (not_overridden_of_safe calm fun target member _ => safe target member)
  | false =>
      have firstSame := firstChosen.unchanged overridden
      have secondSame := secondChosen.unchanged (active.symm.trans overridden)
      rw [firstSame, secondSame]
      refine ⟨same, ?_⟩
      rcases even with ⟨always, _⟩ | ⟨_, _, bounds⟩
      · have asked := firstChosen.active.mpr (overridden_of_always always fun _ => Iff.rfl)
        exact absurd (asked.symm.trans overridden) (by decide)
      · exact bounds

/-- The policies of two orders of even replicas have the same verdict. -/
theorem EvenReplicas.sameVerdict (even : EvenReplicas host config estimate risks eligible)
    (same : ∀ target, target ∈ others ↔ target ∈ eligible) {first second : Policy}
    (one : choosePolicy host config estimate risks eligible = .ok first)
    (two : choosePolicy host config estimate risks others = .ok second) :
    SameVerdict config first second := by
  obtain ⟨active, members, bounds⟩ := even.policies same one two
  have others_even : EvenBounds config estimate second.targets := fun left leftIn right rightIn =>
    bounds left ((members left).mp leftIn) right ((members right).mp rightIn)
  have tables : ∀ entry,
      entry ∈ boundByModel ((first.evaluate config).map EvaluatedTarget.evaluation) ↔
      entry ∈ boundByModel ((second.evaluate config).map EvaluatedTarget.evaluation) := by
    intro entry
    rw [mem_boundByModel (evaluate_sharedBound config first),
      mem_boundByModel (evaluate_sharedBound config second), evaluate_models, evaluate_models]
    have models : entry.1 ∈ first.targets.map TargetCandidate.modelId ↔
        entry.1 ∈ second.targets.map TargetCandidate.modelId := by
      simp only [List.mem_map, members]
    rw [models]
    refine and_congr_right fun listed => ?_
    obtain ⟨target, member, named⟩ := List.mem_map.mp listed
    rw [← named, bounds.modelBound one ((members target).mp member),
      others_even.modelBound two member]
  obtain ⟨models, fallback⟩ := successGate_congr tables
  exact ⟨models, fallback, active⟩

/-- Even replicas have conservative bounds. -/
theorem EvenReplicas.conservative (even : EvenReplicas host config estimate risks eligible)
    {policy : Policy} (chosen : choosePolicy host config estimate risks eligible = .ok policy) :
    Conservative config estimate policy := by
  obtain ⟨_, _, bounds⟩ := even.policies (fun _ => Iff.rfl) chosen chosen
  intro item member
  have listed : item.target ∈ policy.targets := by
    rw [← evaluate_targets config policy]
    exact List.mem_map_of_mem member
  rw [(evaluate_evaluates config policy item member).bound, bounds.modelBound chosen listed]

/-- Even replicas reach the gate in every order or in none. -/
theorem EvenReplicas.returns (even : EvenReplicas host config estimate risks eligible)
    (same : ∀ target, target ∈ others ↔ target ∈ eligible)
    (returned : ∃ policy, choosePolicy host config estimate risks eligible = .ok policy) :
    ∃ policy, choosePolicy host config estimate risks others = .ok policy := by
  cases chosen : choosePolicy host config estimate risks others with
  | ok policy => exact ⟨policy, rfl⟩
  | error exception =>
      obtain ⟨overridden, target, member, raised⟩ := choosePolicy_error.mp ⟨exception, chosen⟩
      obtain ⟨policy, found⟩ := returned
      obtain ⟨other, failed⟩ := choosePolicy_error.mpr
        ⟨(even.overridden_iff same).mp overridden, target, (same target).mp member, raised⟩
      cases found.symm.trans failed

theorem EvenReplicas.of_same (even : EvenReplicas host config estimate risks eligible)
    (same : ∀ target, target ∈ others ↔ target ∈ eligible) :
    EvenReplicas host config estimate risks others := by
  rcases even with ⟨always, bounds⟩ | ⟨calm, safe, bounds⟩
  · refine Or.inl ⟨always.imp_right fun ⟨target, listed, all⟩ => ⟨target, (same target).mpr listed,
      fun other member => all other ((same other).mp member)⟩, fun capable restricted => ?_⟩
    obtain ⟨chosen, found⟩ := capableOnly_returns (fun target => (same target).symm) ⟨capable, restricted⟩
    have members := capableOnly_mem same found restricted
    exact fun left leftIn right rightIn =>
      bounds chosen found left ((members left).mp leftIn) right ((members right).mp rightIn)
  · exact Or.inr ⟨calm, fun target member => safe target ((same target).mp member),
      fun left leftIn right rightIn =>
        bounds left ((same left).mp leftIn) right ((same right).mp rightIn)⟩

end Verdicts

section Front
variable {host : Host} {config : SchedulerConfig} {predictor : SuccessPredictor}
  {view : HarnessSchedulingView} {limits : RequestLimits} {risks : RiskSignals}
  {targets : List TargetCandidate}

/-- An eligible target can come first. -/
theorem front_perm {target : TargetCandidate}
    (listed : target ∈ targets.filter (passesFilter limits)) :
    ∃ rest, (target :: rest).Perm targets ∧
      (filterTargets limits (target :: rest)).eligible = target :: rest.filter (passesFilter limits) := by
  obtain ⟨member, passes⟩ := List.mem_filter.mp listed
  obtain ⟨early, late, rfl⟩ := List.append_of_mem member
  exact ⟨early ++ late, List.perm_middle.symm, List.filter_cons_of_pos passes⟩

theorem eligible_mem {others : List TargetCandidate} (order : others.Perm targets)
    (target : TargetCandidate) : target ∈ (filterTargets limits others).eligible ↔
      target ∈ (filterTargets limits targets).eligible :=
  (order.filter (passesFilter limits)).mem_iff

/-- The leader of a conservative policy has the least bound of its model. -/
theorem Conservative.leader_le {estimate : TargetCandidate → Except String SuccessEstimate}
    {eligible : List TargetCandidate} {policy : Policy}
    (conservative : Conservative config estimate policy)
    (chosen : choosePolicy host config estimate risks eligible = .ok policy)
    {first second : TargetCandidate} (leads : leader policy.targets first.modelId = some first)
    (member : second ∈ policy.targets) (same : second.modelId = first.modelId) :
    targetBound config estimate first ≤ targetBound config estimate second := by
  rw [← evaluate_targets config policy] at member
  obtain ⟨item, inside, rfl⟩ := List.mem_map.mp member
  have below := conservative item inside
  rw [(evaluate_evaluates config policy item inside).bound, same, modelBound_leader chosen, leads]
    at below
  exact below

theorem gatedBy_iff (readLimits : Scheduler.limits view = .ok limits)
    (readRisks : Scheduler.risks view = .ok risks) {policy : Policy} :
    GatedBy host config predictor view targets policy ↔
      (filterTargets limits targets).eligible ≠ [] ∧
      choosePolicy host config (predictor view) risks (filterTargets limits targets).eligible =
        .ok policy := by
  constructor
  · rintro ⟨others, signals, readOthers, readSignals, present, chosen⟩
    cases readLimits.symm.trans readOthers
    cases readRisks.symm.trans readSignals
    exact ⟨present, chosen⟩
  · rintro ⟨present, chosen⟩
    exact ⟨limits, risks, readLimits, readRisks, present, chosen⟩

/-- Without an override a policy returns. -/
theorem choosePolicy_calm {estimate : TargetCandidate → Except String SuccessEstimate}
    {eligible : List TargetCandidate} (calm : ¬ Overridden config estimate risks eligible) :
    ∃ policy, choosePolicy host config estimate risks eligible = .ok policy ∧
      policy.override.active = false ∧ policy.targets = eligible := by
  cases chosen : choosePolicy host config estimate risks eligible with
  | error exception => exact absurd (choosePolicy_error.mp ⟨exception, chosen⟩).1 calm
  | ok policy =>
      have facts := choosePolicy_ok chosen
      have inactive : policy.override.active = false := by
        rw [Bool.eq_false_iff]
        exact fun active => calm (facts.active.mp active)
      exact ⟨policy, rfl, inactive, facts.unchanged inactive⟩

/-- With an override a policy returns the capable targets. -/
theorem choosePolicy_overridden {estimate : TargetCandidate → Except String SuccessEstimate}
    {eligible : List TargetCandidate} (overridden : Overridden config estimate risks eligible)
    (returned : ∃ chosen, capableOnly host eligible = .ok chosen) :
    ∃ policy, choosePolicy host config estimate risks eligible = .ok policy ∧
      policy.override.active = true ∧ capableOnly host eligible = .ok policy.targets := by
  cases chosen : choosePolicy host config estimate risks eligible with
  | error exception =>
      obtain ⟨other, failed⟩ :=
        capableOnly_error.mpr (choosePolicy_error.mp ⟨exception, chosen⟩).2
      obtain ⟨capable, found⟩ := returned
      cases found.symm.trans failed
  | ok policy =>
      have active := (choosePolicy_ok chosen).active.mpr overridden
      exact ⟨policy, rfl, active, (choosePolicy_source chosen).2 active⟩

/-- The safe targets can come first. Then no unsafe target leads a model that has a safe one. -/
theorem safe_first (config : SchedulerConfig)
    (estimate : TargetCandidate → Except String SuccessEstimate) (limits : RequestLimits)
    (targets : List TargetCandidate) :
    ∃ others, others.Perm targets ∧ ∀ target ∈ (filterTargets limits targets).eligible,
      ¬ Unsafe config estimate target → ∀ first,
        leader (filterTargets limits others).eligible target.modelId = some first →
          ¬ Unsafe config estimate first := by
  classical
  let safe : TargetCandidate → Bool := fun target => decide (¬ Unsafe config estimate target)
  refine ⟨targets.filter safe ++ targets.filter fun target => !safe target,
    List.filter_append_perm safe targets, fun target listed calm first leads => ?_⟩
  have split : (filterTargets limits (targets.filter safe ++
      targets.filter fun target => !safe target)).eligible =
      (targets.filter safe).filter (passesFilter limits) ++
        (targets.filter fun target => !safe target).filter (passesFilter limits) :=
    List.filter_append _ _
  obtain ⟨member, passes⟩ := List.mem_filter.mp listed
  have early : target ∈ (targets.filter safe).filter (passesFilter limits) :=
    List.mem_filter.mpr ⟨List.mem_filter.mpr ⟨member, decide_eq_true calm⟩, passes⟩
  obtain ⟨other, found⟩ := leader_of_mem early
  rw [split, leader, List.find?_append] at leads
  rw [leader] at found
  rw [found, Option.some_or] at leads
  cases leads
  have inside := (List.mem_filter.mp (leader_some found).1).1
  exact of_decide_eq_true (List.mem_filter.mp inside).2

/-- An order-free verdict comes from even replicas. -/
theorem OrderFree.evenReplicas (free : OrderFree host config predictor view targets)
    (readLimits : Scheduler.limits view = .ok limits)
    (readRisks : Scheduler.risks view = .ok risks) :
    EvenReplicas host config (predictor view) risks (filterTargets limits targets).eligible := by
  -- It is enough to bound the first of two replicas by the second.
  have even {items : List TargetCandidate}
      (below : ∀ first ∈ items, ∀ second ∈ items, second.modelId = first.modelId →
        targetBound config (predictor view) first ≤ targetBound config (predictor view) second) :
      EvenBounds config (predictor view) items := fun first firstIn second secondIn same =>
    le_antisymm (below first firstIn second secondIn same.symm)
      (below second secondIn first firstIn same)
  by_cases always : AlwaysOverridden config (predictor view) risks
      (filterTargets limits targets).eligible
  · refine Or.inl ⟨always, fun capable restricted => even fun first firstIn second secondIn same => ?_⟩
    have listed := (capableOnly_ok restricted).sublist.subset firstIn
    obtain ⟨rest, order, shape⟩ := front_perm listed
    have members := @eligible_mem limits targets (first :: rest) order
    obtain ⟨policy, chosen, active, source⟩ := choosePolicy_overridden
      (overridden_of_always always members) (capableOnly_returns members ⟨capable, restricted⟩)
    have kept := capableOnly_mem members restricted source
    have gated := (gatedBy_iff readLimits readRisks).mpr
      ⟨List.ne_nil_of_mem ((members first).mpr listed), chosen⟩
    have leads : leader policy.targets first.modelId = some first := by
      rw [shape] at source
      exact capableOnly_leads source ((kept first).mpr firstIn)
    exact (free.conservative _ order policy gated).leader_le chosen leads
      ((kept second).mpr secondIn) same
  · obtain ⟨quiet, mixed⟩ := not_or.mp always
    have calm : (criticalOverride risks config).active = false := Bool.eq_false_iff.mpr quiet
    have someSafe : ∀ target ∈ (filterTargets limits targets).eligible,
        ∃ other ∈ (filterTargets limits targets).eligible, other.modelId = target.modelId ∧
          ¬ Unsafe config (predictor view) other := by
      intro target listed
      by_contra none
      refine mixed ⟨target, listed, fun other member same => ?_⟩
      by_contra calm
      exact none ⟨other, member, same, calm⟩
    have safe : ∀ target ∈ (filterTargets limits targets).eligible,
        ¬ Unsafe config (predictor view) target := by
      intro target listed asks
      -- The safe targets first give no override, the unsafe target first gives one.
      obtain ⟨others, order, leads⟩ := safe_first config (predictor view) limits targets
      obtain ⟨policy, chosen, inactive, _⟩ := @choosePolicy_calm host _ _ _ _
        (not_overridden_of_safe calm fun other member first => by
          obtain ⟨pick, pickIn, named, pickSafe⟩ := someSafe other ((eligible_mem order other).mp member)
          exact leads pick pickIn pickSafe other (named ▸ first))
      have gated := (gatedBy_iff readLimits readRisks).mpr
        ⟨List.ne_nil_of_mem ((eligible_mem order target).mpr listed), chosen⟩
      obtain ⟨own, ownGated⟩ := (free.reaches others order).mpr ⟨policy, gated⟩
      obtain ⟨rest, front, shape⟩ := front_perm listed
      obtain ⟨later, laterGated⟩ := (free.reaches _ front).mp ⟨own, ownGated⟩
      have early := (free.verdict others order own policy ownGated gated).override
      have late := (free.verdict _ front own later ownGated laterGated).override
      have active : later.override.active = true := by
        rw [(choosePolicy_ok ((gatedBy_iff readLimits readRisks).mp laterGated).2).active, shape]
        exact Or.inr (requiresSafeMode_iff.mpr ⟨target, leader_cons target _, asks⟩)
      rw [← late, early, inactive] at active
      cases active
    refine Or.inr ⟨calm, safe, even fun first firstIn second secondIn same => ?_⟩
    obtain ⟨rest, order, shape⟩ := front_perm firstIn
    have members := @eligible_mem limits targets (first :: rest) order
    obtain ⟨policy, chosen, _, unchanged⟩ := @choosePolicy_calm host _ _ _ _
      (not_overridden_of_safe calm fun target member _ => safe target ((members target).mp member))
    have gated := (gatedBy_iff readLimits readRisks).mpr
      ⟨List.ne_nil_of_mem ((members first).mpr firstIn), chosen⟩
    have leads : leader policy.targets first.modelId = some first := by
      rw [unchanged, shape]
      exact leader_cons first _
    exact (free.conservative _ order policy gated).leader_le chosen leads
      (unchanged ▸ (members second).mpr secondIn) same

/-- Even replicas give an order-free verdict. -/
theorem EvenReplicas.orderFree (readLimits : Scheduler.limits view = .ok limits)
    (readRisks : Scheduler.risks view = .ok risks)
    (even : EvenReplicas host config (predictor view) risks (filterTargets limits targets).eligible) :
    OrderFree host config predictor view targets := by
  constructor
  case reaches =>
    intro others order
    have members := @eligible_mem limits targets others order
    simp only [gatedBy_iff readLimits readRisks]
    constructor
    · rintro ⟨policy, present, chosen⟩
      obtain ⟨target, listed⟩ := List.exists_mem_of_ne_nil _ present
      obtain ⟨other, found⟩ := even.returns members ⟨policy, chosen⟩
      exact ⟨other, List.ne_nil_of_mem ((members target).mpr listed), found⟩
    · rintro ⟨policy, present, chosen⟩
      obtain ⟨target, listed⟩ := List.exists_mem_of_ne_nil _ present
      obtain ⟨other, found⟩ := (even.of_same members).returns
        (fun target => (members target).symm) ⟨policy, chosen⟩
      exact ⟨other, List.ne_nil_of_mem ((members target).mp listed), found⟩
  case verdict =>
    intro others order first second one two
    exact even.sameVerdict (eligible_mem order) ((gatedBy_iff readLimits readRisks).mp one).2
      ((gatedBy_iff readLimits readRisks).mp two).2
  case conservative =>
    intro others order policy gated
    exact (even.of_same (eligible_mem order)).conservative
      ((gatedBy_iff readLimits readRisks).mp gated).2

/-- A returned decision reports the verdict of its gate. -/
theorem schedule_gated {stamp : DecisionStamp} {decision : RoutingDecision}
    (returned : schedule host config predictor stamp view targets = .ok decision) :
    ∃ policy, GatedBy host config predictor view targets policy ∧
      decision.fallback = (policy.gate config).fallback ∧
      decision.overrideReasons = policy.override.reasons := by
  obtain ⟨limits, risks, outlook, policy, stages, selected, reason, facts, same⟩ :=
    schedule_ok returned
  refine ⟨policy, ⟨limits, risks, facts.readLimits, facts.readRisks, facts.feasible, facts.chosen⟩,
    ?_, ?_⟩
  · rw [same, Policy.gate, ← facts.passed.gate]
    rfl
  · rw [same, ← facts.passed.kept]
    rfl

/-- The verdict of the gate is order-free exactly when the replicas are even. -/
theorem orderFree_iff (host : Host) (config : SchedulerConfig) (predictor : SuccessPredictor)
    (view : HarnessSchedulingView) (targets : List TargetCandidate) :
    OrderFree host config predictor view targets ↔
      ∀ limits risks, Scheduler.limits view = .ok limits → Scheduler.risks view = .ok risks →
        EvenReplicas host config (predictor view) risks (filterTargets limits targets).eligible := by
  constructor
  · exact fun free limits risks readLimits readRisks => free.evenReplicas readLimits readRisks
  · intro even
    by_cases read : ∃ limits risks, Scheduler.limits view = .ok limits ∧
        Scheduler.risks view = .ok risks
    · obtain ⟨limits, risks, readLimits, readRisks⟩ := read
      exact (even limits risks readLimits readRisks).orderFree readLimits readRisks
    · have never (others : List TargetCandidate) (policy : Policy) :
          ¬ GatedBy host config predictor view others policy :=
        fun ⟨limits, risks, readLimits, readRisks, _⟩ => read ⟨limits, risks, readLimits, readRisks⟩
      exact ⟨fun others _ => iff_of_false (fun ⟨policy, gated⟩ => never targets policy gated)
          fun ⟨policy, gated⟩ => never others policy gated,
        fun others _ first _ gated => absurd gated (never targets first),
        fun others _ policy gated => absurd gated (never others policy)⟩

end Front

/-- A replica of one model with its own success. -/
def modelReplica (replicaId : String) : TargetCandidate where
  modelId := "model"
  endpointId := "endpoint"
  replicaId := replicaId
  tier := "capable"

/-- One replica succeeds and the other one fails. -/
def replicaPredictor : SuccessPredictor := fun _ target =>
  .ok { predictedSuccess := if target.replicaId = "good" then 95 / 100 else 1 / 10,
        uncertainty := 0, confidence := 1 }

/-- The fallback flag of a decision about some replicas for a session without any event. -/
def replicaFallback (order : List String) : Option Bool :=
  match emptyView with
  | .error _ => none
  | .ok view =>
      match schedule asciiHost {} replicaPredictor ⟨"d", 0⟩ view (order.map modelReplica) with
      | .ok decision => some decision.fallback
      | .error _ => none

theorem replicaFallback_some {view : HarnessSchedulingView} (read : emptyView = .ok view)
    {order : List String} {flag : Bool} (reported : replicaFallback order = some flag) :
    ∃ policy, GatedBy asciiHost {} replicaPredictor view (order.map modelReplica) policy ∧
      (policy.gate {}).fallback = flag := by
  simp only [replicaFallback, read] at reported
  split at reported
  · rename_i decision returned
    obtain ⟨policy, gated, fallback, _⟩ := schedule_gated returned
    exact ⟨policy, gated, fallback.symm.trans (Option.some.inj reported)⟩
  · cases reported

/-- The first replica decides about the fallback. -/
theorem replicas_not_orderFree : ∃ view, emptyView = .ok view ∧
    ¬ OrderFree asciiHost {} replicaPredictor view [modelReplica "good", modelReplica "bad"] := by
  obtain ⟨view, read, _⟩ := emptyView_wellTyped
  refine ⟨view, read, fun free => ?_⟩
  obtain ⟨first, one, passes⟩ :=
    replicaFallback_some read (show replicaFallback ["good", "bad"] = some false by decide +kernel)
  obtain ⟨second, two, falls⟩ :=
    replicaFallback_some read (show replicaFallback ["bad", "good"] = some true by decide +kernel)
  have same := (free.verdict _ (List.Perm.swap _ _ _) first second one two).fallback
  rw [passes, falls] at same
  cases same

end StateFlow.Scheduler
