import StateFlow.Construction.Scheduler.ContractBridge
import StateFlow.Proof.Scheduler.Pipeline
import StateFlow.Proof.Scheduler.Policy

namespace StateFlow.Scheduler
open Python Table Effect State Selection

/-- A later version of an item keeps its slot and what the trace says about it. -/
structure Follows (before after : EvaluatedTarget) : Prop where
  slot : after.slot = before.slot
  key : after.key = before.key
  tier : after.evaluation.tier = before.evaluation.tier
  eligible : after.evaluation.eligible = before.evaluation.eligible
  selected : after.evaluation.selected = before.evaluation.selected

theorem Follows.trans {first second third : EvaluatedTarget} (earlier : Follows first second)
    (later : Follows second third) : Follows first third where
  slot := later.slot.trans earlier.slot
  key := later.key.trans earlier.key
  tier := later.tier.trans earlier.tier
  eligible := later.eligible.trans earlier.eligible
  selected := later.selected.trans earlier.selected

section Versions
variable {host : Host} {config : SchedulerConfig} {limits : RequestLimits} {outlook : KvOutlook}
  {urgency : ℚ} {policy : Policy} {stages : Stages}

theorem evaluate_slots (config : SchedulerConfig) (policy : Policy) :
    ((policy.evaluate config).map EvaluatedTarget.slot).Nodup := by
  have slots : (policy.evaluate config).map EvaluatedTarget.slot =
      List.range' 0 policy.targets.length := by
    unfold Policy.evaluate
    rw [List.map_map]
    exact List.zipIdx_map_snd 0 policy.targets
  rw [slots]
  exact List.nodup_range'

theorem evaluate_unselected (config : SchedulerConfig) (policy : Policy) :
    ∀ item ∈ policy.evaluate config, item.evaluation.selected = false := by
  intro item member
  obtain ⟨entry, _, rfl⟩ := List.mem_map.mp member
  rfl

theorem evaluate_tier (config : SchedulerConfig) (policy : Policy) :
    ∀ item ∈ policy.evaluate config, item.evaluation.tier = item.target.tier := by
  intro item member
  obtain ⟨entry, _, rfl⟩ := List.mem_map.mp member
  rfl

section Passed
variable (passed : Passed host config limits outlook urgency policy stages)
include passed

/-- Every priced item is a version of an evaluated item with the same target. -/
theorem Passed.priced_follows {item : EvaluatedTarget} (member : item ∈ stages.priced) :
    ∃ origin ∈ stages.evaluated, Follows origin item ∧ origin.target = item.target := by
  rw [passed.priced] at member
  obtain ⟨origin, inside, rfl⟩ := List.mem_map.mp member
  exact ⟨origin, (List.mem_filter.mp inside).1, ⟨rfl, rfl, rfl, rfl, rfl⟩, rfl⟩

theorem Passed.budgeted_follows {item : EvaluatedTarget} (member : item ∈ stages.budgeted) :
    ∃ origin ∈ stages.evaluated, Follows origin item ∧ origin.target = item.target := by
  rw [passed.budgeted] at member
  obtain ⟨before, inside, rfl⟩ := List.mem_map.mp member
  obtain ⟨origin, present, follows, same⟩ := passed.priced_follows (List.mem_filter.mp inside).1
  exact ⟨origin, present, follows.trans ⟨rfl, rfl, rfl, rfl, rfl⟩, same⟩

/-- A timed item is a version of a budgeted item with its cost and the target of its key. -/
theorem Passed.timed_before {item : EvaluatedTarget} (member : item ∈ stages.timed) :
    ∃ before ∈ stages.budgeted, item = timeTarget limits urgency stages.budgeted before := by
  rw [passed.timed] at member
  obtain ⟨before, inside, rfl⟩ := List.mem_map.mp member
  exact ⟨before, (survivors_sublist _ _ _).subset inside, rfl⟩

/-- An item of the last stage carries the key of a target of the policy. -/
theorem Passed.timed_key {item : EvaluatedTarget} (member : item ∈ stages.timed) :
    ∃ target ∈ policy.targets, target.key = item.key := by
  obtain ⟨before, budgeted, rfl⟩ := passed.timed_before member
  exact ⟨before.target, passed.budgeted_targets_sublist.subset (List.mem_map_of_mem budgeted),
    (passed.budgeted_priced before budgeted).key.symm⟩

/-- An item of the last stage costs no more than the tolerated budget. -/
theorem Passed.timed_within {item : EvaluatedTarget} (member : item ∈ stages.timed) {budget : ℚ}
    (given : limits.costBudget = some budget) :
    item.effectiveCost ≤ budget + 1 / 1000000000000 := by
  obtain ⟨before, budgeted, rfl⟩ := passed.timed_before member
  rw [passed.budgeted] at budgeted
  obtain ⟨priced, kept, rfl⟩ := List.mem_map.mp budgeted
  have within := (List.mem_filter.mp kept).2
  rw [withinBudget, given] at within
  exact of_decide_eq_true within

theorem Passed.timed_follows {item : EvaluatedTarget} (member : item ∈ stages.timed) :
    ∃ origin ∈ stages.evaluated, Follows origin item := by
  obtain ⟨before, inside, rfl⟩ := passed.timed_before member
  obtain ⟨origin, present, follows, _⟩ := passed.budgeted_follows inside
  exact ⟨origin, present, follows.trans ⟨rfl, rfl, rfl, rfl, rfl⟩⟩

theorem Passed.evaluated_slots : (stages.evaluated.map EvaluatedTarget.slot).Nodup := by
  rw [passed.evaluated, List.map_map]
  exact evaluate_slots config policy

theorem Passed.timed_slots : (stages.timed.map EvaluatedTarget.slot).Nodup := by
  have kept : (stages.timed.map EvaluatedTarget.slot).Sublist
      (stages.evaluated.map EvaluatedTarget.slot) := by
    have gated : (stages.timed.map EvaluatedTarget.slot).Sublist
        (stages.budgeted.map EvaluatedTarget.slot) := by
      rw [passed.timed, List.map_map]
      exact (survivors_sublist _ _ _).map EvaluatedTarget.slot
    have within : (stages.budgeted.map EvaluatedTarget.slot).Sublist
        (stages.priced.map EvaluatedTarget.slot) := by
      rw [passed.budgeted, List.map_map]
      exact List.filter_sublist.map EvaluatedTarget.slot
    have succeeding : (stages.priced.map EvaluatedTarget.slot).Sublist
        (stages.evaluated.map EvaluatedTarget.slot) := by
      rw [passed.priced, List.map_map]
      exact List.filter_sublist.map EvaluatedTarget.slot
    exact (gated.trans within).trans succeeding
  exact kept.nodup passed.evaluated_slots

theorem Passed.evaluated_unselected :
    ∀ item ∈ stages.evaluated, item.evaluation.selected = false := by
  rw [passed.evaluated]
  intro item member
  obtain ⟨before, inside, rfl⟩ := List.mem_map.mp member
  exact evaluate_unselected config policy before inside

theorem Passed.evaluated_tier :
    ∀ item ∈ stages.evaluated, item.evaluation.tier = item.target.tier := by
  rw [passed.evaluated]
  intro item member
  obtain ⟨before, inside, rfl⟩ := List.mem_map.mp member
  exact evaluate_tier config policy before inside

/-- The stages of a policy are unique. -/
theorem Passed.eq_gateStages :
    stages = gateStages host config limits outlook urgency policy := by
  let staged := gateStages host config limits outlook urgency policy
  have evaluated : stages.evaluated = staged.evaluated := by
    rw [passed.evaluated, passed.gate]
    rfl
  have priced : stages.priced = staged.priced := by
    rw [passed.priced, evaluated, passed.gate]
    rfl
  have budgeted : stages.budgeted = staged.budgeted := by
    rw [passed.budgeted, priced]
    rfl
  have timed : stages.timed = staged.timed := by
    rw [passed.timed, budgeted]
    rfl
  calc stages = ⟨stages.policy, stages.evaluated, stages.gate, stages.priced, stages.budgeted,
        stages.timed⟩ := rfl
    _ = staged := by
      rw [passed.kept, evaluated, passed.gate, priced, budgeted, timed]
      rfl

/-- A version of an item with the slot of another one follows that one. -/
theorem Passed.follows_of_slot {item origin version : EvaluatedTarget}
    (member : item ∈ stages.evaluated) (held : origin ∈ stages.evaluated)
    (follows : Follows origin version) (same : version.slot = item.slot) : Follows item version := by
  have one := List.inj_on_of_nodup_map passed.evaluated_slots held member
    (follows.slot.symm.trans same)
  rw [← one]
  exact follows

/-- The latest version of an evaluated item follows it. -/
theorem Passed.latest_follows {item : EvaluatedTarget} (member : item ∈ stages.evaluated) :
    ∃ version, Follows item version ∧
      latestEvaluation stages.versions item = version.evaluation := by
  unfold latestEvaluation
  cases found : stages.versions.findSome? fun stage =>
      stage.find? fun other => other.slot = item.slot with
  | none => exact ⟨item, ⟨rfl, rfl, rfl, rfl, rfl⟩, rfl⟩
  | some other =>
      obtain ⟨stage, listed, inside⟩ := List.exists_of_findSome?_eq_some found
      have present := List.mem_of_find?_eq_some inside
      have slot := List.find?_some inside
      rw [decide_eq_true_eq] at slot
      simp only [Stages.versions, List.mem_cons, List.not_mem_nil, or_false] at listed
      refine ⟨other, ?_, rfl⟩
      rcases listed with rfl | rfl | rfl
      · obtain ⟨origin, held, follows⟩ := passed.timed_follows present
        exact passed.follows_of_slot member held follows slot
      · obtain ⟨origin, held, follows, _⟩ := passed.budgeted_follows present
        exact passed.follows_of_slot member held follows slot
      · obtain ⟨origin, held, follows, _⟩ := passed.priced_follows present
        exact passed.follows_of_slot member held follows slot

/-- Only the slot of the selection is marked. -/
theorem Passed.markSelected_selected {selected item : EvaluatedTarget}
    (member : item ∈ stages.evaluated) :
    (markSelected selected (latestEvaluation stages.versions) item).selected =
      decide (item.slot = selected.slot) := by
  unfold markSelected
  split
  · rename_i same
    simp [same]
  · rename_i other
    obtain ⟨version, follows, latest⟩ := passed.latest_follows member
    rw [latest, follows.selected, passed.evaluated_unselected item member]
    simp [other]

/-- The mark of a selection leaves the key of an entry. -/
theorem Passed.markSelected_key {selected item : EvaluatedTarget}
    (member : item ∈ stages.evaluated) :
    (markSelected selected (latestEvaluation stages.versions) item).key = item.key := by
  obtain ⟨version, follows, latest⟩ := passed.latest_follows member
  unfold markSelected
  split
  · change (latestEvaluation stages.versions item).key = item.key
    rw [latest]
    exact follows.key
  · rw [latest]
    exact follows.key

/-- A trace entry has the key of its target. -/
theorem Passed.traceEntry_key {selected : EvaluatedTarget} (rejected : List FilterRejection)
    (target : TargetCandidate) :
    (traceEntry stages.evaluated rejected (markSelected selected
      (latestEvaluation stages.versions)) target).key = target.key := by
  unfold traceEntry
  split
  · rename_i item found
    obtain ⟨inside, named⟩ := lastWith_some EvaluatedTarget.key found
    exact (passed.markSelected_key inside).trans named
  · split
    · rfl
    · rfl

/-- The latest version of the slot of a timed item is the timed item. -/
theorem Passed.latest_timed {selected item : EvaluatedTarget} (member : selected ∈ stages.timed)
    (same : item.slot = selected.slot) :
    latestEvaluation stages.versions item = selected.evaluation := by
  have found : stages.timed.find? (fun other => other.slot = item.slot) = some selected := by
    cases search : stages.timed.find? (fun other => other.slot = item.slot) with
    | none =>
        have absent := List.find?_eq_none.mp search selected member
        simp [same] at absent
    | some other =>
        have inside := List.mem_of_find?_eq_some search
        have slot := List.find?_some search
        rw [decide_eq_true_eq, same] at slot
        rw [List.inj_on_of_nodup_map passed.timed_slots inside member slot]
  unfold latestEvaluation Stages.versions
  rw [List.findSome?_cons, found]
  rfl

end Passed

end Versions

section Placement
variable {host : Host} {config : SchedulerConfig} {view : HarnessSchedulingView} {stages : Stages}

theorem choosePlacement_mem {place : SessionPlace} {candidates : List EvaluatedTarget}
    {placement : PlacementResult} (chosen : choosePlacement place candidates = some placement) :
    placement.chosen ∈ candidates := by
  have present : candidates ≠ [] := by
    rintro rfl
    unfold choosePlacement firstPlacement at chosen
    split at chosen <;> cases chosen
  obtain ⟨other, found, member⟩ := choosePlacement_some place present
  cases chosen.symm.trans found
  exact member

/-- A placement takes a timed item. -/
theorem selectTarget_mem {selected : EvaluatedTarget} {reason : DecisionReason}
    (placed : selectTarget host config view stages = .ok (selected, reason)) :
    selected ∈ stages.timed := by
  unfold selectTarget at placed
  obtain ⟨place, _, choosing⟩ := except_bind_ok placed
  split at choosing
  · cases choosing
  · rename_i placement chosen
    have member := choosePlacement_mem chosen
    split at choosing
    · cases choosing
      exact member
    · obtain ⟨held, _, holding⟩ := except_bind_ok choosing
      split at holding
      · simp only at holding
        split at holding
        · rename_i current found
          cases holding
          exact (List.mem_filter.mp (choosePlacement_mem found)).1
        · cases holding
          exact member
      · cases holding
        exact member

end Placement

section Trace
variable {host : Host} {config : SchedulerConfig} {limits : RequestLimits} {outlook : KvOutlook}
  {urgency : ℚ} {policy : Policy} {stages : Stages} {selected : EvaluatedTarget}
  {targets : List TargetCandidate}

/-- The registered targets with a key. -/
def withKey (targets : List TargetCandidate) (key : CandidateKey) : List TargetCandidate :=
  targets.filter fun target => target.key = key

/-- The table of the trace holds the selection under its key. -/
def Held (stages : Stages) (selected : EvaluatedTarget) : Prop :=
  ∃ item, lastWith EvaluatedTarget.key selected.key stages.evaluated = some item ∧
    item.slot = selected.slot

section Passed
variable (passed : Passed host config limits outlook urgency policy stages)
  (member : selected ∈ stages.timed)
include passed member

/-- An entry is selected when its target has the key of a selection that the table holds. -/
theorem Passed.traceEntry_selected (rejected : List FilterRejection) (target : TargetCandidate) :
    (traceEntry stages.evaluated rejected (markSelected selected
      (latestEvaluation stages.versions)) target).selected = true ↔
      target.key = selected.key ∧ Held stages selected := by
  obtain ⟨origin, present, follows⟩ := passed.timed_follows member
  unfold traceEntry
  split
  · rename_i item found
    obtain ⟨inside, named⟩ := lastWith_some EvaluatedTarget.key found
    rw [passed.markSelected_selected inside, decide_eq_true_eq]
    constructor
    · intro same
      have one := List.inj_on_of_nodup_map passed.evaluated_slots inside present
        (same.trans follows.slot)
      have key : target.key = selected.key := by
        rw [follows.key, ← one, named]
      exact ⟨key, item, key ▸ found, same⟩
    · rintro ⟨key, other, held, same⟩
      rw [← key, found] at held
      cases held
      exact same
  · rename_i absent
    have lost : ¬ (target.key = selected.key ∧ Held stages selected) := by
      rintro ⟨key, other, held, _⟩
      rw [← key, absent] at held
      cases held
    refine iff_of_false ?_ lost
    split
    · exact Bool.false_ne_true
    · exact Bool.false_ne_true

/-- A held selection marks the entries of its key. -/
theorem Passed.selected_entries (rejected : List FilterRejection) (targets : List TargetCandidate)
    (held : Held stages selected) :
    (targets.map (traceEntry stages.evaluated rejected (markSelected selected
      (latestEvaluation stages.versions)))).filter CandidateEvaluation.selected =
    (withKey targets selected.key).map (traceEntry stages.evaluated rejected (markSelected selected
      (latestEvaluation stages.versions))) := by
  rw [List.filter_map]
  unfold withKey
  congr 1
  apply List.filter_congr
  intro target _
  rw [Bool.eq_iff_iff, decide_eq_true_eq]
  exact (passed.traceEntry_selected member rejected target).trans (and_iff_left held)

/-- A lost selection marks no entry. -/
theorem Passed.unselected_entries (rejected : List FilterRejection)
    (targets : List TargetCandidate) (lost : ¬ Held stages selected) :
    (targets.map (traceEntry stages.evaluated rejected (markSelected selected
      (latestEvaluation stages.versions)))).filter CandidateEvaluation.selected = [] := by
  rw [List.filter_eq_nil_iff]
  intro entry traced marked
  obtain ⟨target, _, rfl⟩ := List.mem_map.mp traced
  exact lost ((passed.traceEntry_selected member rejected target).mp marked).2

section Sole
variable {only : TargetCandidate} (inside : policy.targets.Sublist targets)
  (sole : withKey targets selected.key = [only])
include inside sole

omit passed member in
/-- A target of the policy with the key is the registered one. -/
theorem only_of_key {target : TargetCandidate} (listed : target ∈ policy.targets)
    (key : target.key = selected.key) : target = only := by
  have found : target ∈ withKey targets selected.key :=
    List.mem_filter.mpr ⟨inside.subset listed, decide_eq_true key⟩
  rw [sole] at found
  exact List.mem_singleton.mp found

/-- The selection was evaluated, priced, and timed at the registered target. -/
theorem Passed.selected_only : only ∈ policy.targets ∧ selected.target = only ∧
    selected.effectiveCost = targetCost host config limits outlook policy only ∧
    selected.latency = (predictedLatency limits urgency only).predictedLatencySeconds := by
  obtain ⟨before, budgeted, rfl⟩ := passed.timed_before member
  have listed (item : EvaluatedTarget) (held : item ∈ stages.budgeted) :
      item.target ∈ policy.targets :=
    passed.budgeted_targets_sublist.subset (List.mem_map_of_mem held)
  have named (item : EvaluatedTarget) (held : item ∈ stages.budgeted)
      (key : item.key = before.key) : item.target = only :=
    only_of_key inside sole (listed item held) ((passed.budgeted_priced item held).key ▸ key)
  have own := named before budgeted rfl
  have timed : (timeTarget limits urgency stages.budgeted before).target = only := by
    change ((lastWith EvaluatedTarget.key before.key stages.budgeted).getD before).target = only
    cases last : lastWith EvaluatedTarget.key before.key stages.budgeted with
    | none => exact own
    | some item =>
        obtain ⟨held, key⟩ := lastWith_some EvaluatedTarget.key last
        exact named item held key
  refine ⟨own ▸ listed before budgeted, timed, ?_, ?_⟩
  · have cost := (passed.budgeted_priced before budgeted).cost
    rw [own] at cost
    exact cost
  · rw [← timed]
    rfl

omit member in
/-- A key that is registered once is evaluated at most once. -/
theorem Passed.evaluated_once {left right : EvaluatedTarget} (first : left ∈ stages.evaluated)
    (second : right ∈ stages.evaluated) (leftKey : left.key = selected.key)
    (rightKey : right.key = selected.key) : left = right := by
  have targets_eq : (stages.evaluated.filter fun item => item.key = selected.key).map
      EvaluatedTarget.target = withKey policy.targets selected.key := by
    rw [← passed.evaluated_targets, withKey, List.filter_map]
    congr 1
    apply List.filter_congr
    intro item held
    change decide (item.key = _) = decide (item.target.key = _)
    rw [(passed.evaluated_evaluates item held).key]
  have once : (stages.evaluated.filter fun item => item.key = selected.key).length ≤ 1 := by
    rw [← List.length_map EvaluatedTarget.target, targets_eq]
    have fewer := (inside.filter fun target => decide (target.key = selected.key)).length_le
    have single := congrArg List.length sole
    unfold withKey at single ⊢
    rw [single] at fewer
    exact fewer
  have leftHeld : left ∈ stages.evaluated.filter fun item => item.key = selected.key :=
    List.mem_filter.mpr ⟨first, decide_eq_true leftKey⟩
  have rightHeld : right ∈ stages.evaluated.filter fun item => item.key = selected.key :=
    List.mem_filter.mpr ⟨second, decide_eq_true rightKey⟩
  obtain ⟨item, single⟩ := List.length_eq_one_iff.mp
    (le_antisymm once (List.length_pos_of_mem leftHeld))
  rw [single] at leftHeld rightHeld
  rw [List.mem_singleton.mp leftHeld, List.mem_singleton.mp rightHeld]

/-- The table of the trace holds a selection whose key is registered once. -/
theorem Passed.held_of_sole : Held stages selected := by
  obtain ⟨origin, present, follows⟩ := passed.timed_follows member
  cases last : lastWith EvaluatedTarget.key selected.key stages.evaluated with
  | none =>
      have absent := List.find?_eq_none.mp last origin (List.mem_reverse.mpr present)
      simp [follows.key] at absent
  | some item =>
      obtain ⟨held, key⟩ := lastWith_some EvaluatedTarget.key last
      have one := passed.evaluated_once inside sole held present key follows.key.symm
      exact ⟨item, last, one ▸ follows.slot.symm⟩

/-- The selected entry of a key that is registered once is the selected item. -/
theorem Passed.traceEntry_only (rejected : List FilterRejection) :
    traceEntry stages.evaluated rejected (markSelected selected (latestEvaluation stages.versions))
      only = { selected.evaluation with selected := true } ∧
    selected.evaluation.key = only.key ∧ selected.evaluation.tier = only.tier ∧
    selected.evaluation.eligible = true := by
  obtain ⟨origin, present, follows⟩ := passed.timed_follows member
  obtain ⟨item, last, slot⟩ := passed.held_of_sole member inside sole
  have key : only.key = selected.key := by
    have found : only ∈ withKey targets selected.key := sole ▸ List.mem_singleton_self only
    exact of_decide_eq_true (List.mem_filter.mp found).2
  have own : origin.target = only := by
    have listed : origin.target ∈ policy.targets := by
      rw [← passed.evaluated_targets]
      exact List.mem_map_of_mem present
    apply only_of_key inside sole listed
    rw [← (passed.evaluated_evaluates origin present).key, follows.key]
  refine ⟨?_, key.symm, ?_, ?_⟩
  · unfold traceEntry
    rw [key, last]
    simp only [markSelected, slot, if_true, passed.latest_timed member slot]
  · rw [follows.tier, passed.evaluated_tier origin present, own]
  · rw [follows.eligible, passed.evaluated_eligible origin present]

end Sole

end Passed

section Sole
variable {predictor : SuccessPredictor} {stamp : DecisionStamp} {view : HarnessSchedulingView}
  {risks : RiskSignals} {reason : DecisionReason}

/-- Everything that precedes a returned decision is determined. -/
theorem Scheduled.unique {limits' : RequestLimits} {risks' : RiskSignals} {outlook' : KvOutlook}
    {policy' : Policy} {stages' : Stages} {selected' : EvaluatedTarget} {reason' : DecisionReason}
    (first : Scheduled host config predictor view targets limits risks outlook policy stages
      selected reason)
    (second : Scheduled host config predictor view targets limits' risks' outlook' policy' stages'
      selected' reason') : stages = stages' ∧ selected = selected' := by
  cases first.readLimits.symm.trans second.readLimits
  cases first.readRisks.symm.trans second.readRisks
  cases first.readOutlook.symm.trans second.readOutlook
  cases first.chosen.symm.trans second.chosen
  have same : stages = stages' := first.passed.eq_gateStages.trans second.passed.eq_gateStages.symm
  subst same
  cases first.placed.symm.trans second.placed
  exact ⟨rfl, rfl⟩

/-- Over distinct targets, the selection belongs to one target of the request. -/
theorem Scheduled.sole (facts : Scheduled host config predictor view targets limits risks outlook
      policy stages selected reason)
    (distinct : (targets.map TargetCandidate.key).Nodup) :
    policy.targets.Sublist targets ∧
      ∃ only, withKey targets selected.key = [only] := by
  have inside : policy.targets.Sublist targets :=
    (choosePolicy_ok facts.chosen).sublist.trans List.filter_sublist
  refine ⟨inside, ?_⟩
  obtain ⟨origin, present, follows⟩ := facts.passed.timed_follows (selectTarget_mem facts.placed)
  have listed : origin.target ∈ policy.targets := by
    rw [← facts.passed.evaluated_targets]
    exact List.mem_map_of_mem present
  refine ⟨origin.target, ?_⟩
  rw [follows.key, (facts.passed.evaluated_evaluates origin present).key]
  exact filter_of_nodup TargetCandidate.key distinct (inside.subset listed)

end Sole

end Trace

section Bridge
variable {text : Text} {ids : BundleIds} {routing : RoutingDecision} {snapshotId policyVersion : String}

/-- The bridge returns a bundle exactly when the trace has a selected entry. -/
theorem routingControlBundle_returns_iff :
    (∃ bundle, routingControlBundle text ids routing snapshotId policyVersion = .ok bundle) ↔
      routing.candidates.filter CandidateEvaluation.selected ≠ [] := by
  have selections : (routing.candidates.zipIdx.filter fun entry => entry.1.selected) = [] ↔
      routing.candidates.filter CandidateEvaluation.selected = [] := by
    have projected : routing.candidates.filter CandidateEvaluation.selected =
        (routing.candidates.zipIdx.filter fun entry => entry.1.selected).map Prod.fst := by
      conv => lhs; rw [← List.zipIdx_map_fst 0 routing.candidates]
      rw [List.filter_map]
      rfl
    rw [projected, List.map_eq_nil_iff]
  rw [ne_eq, ← selections]
  unfold routingControlBundle
  simp only
  cases last : (routing.candidates.zipIdx.filter fun entry => entry.1.selected).getLast? with
  | none =>
      have empty := List.getLast?_eq_none_iff.mp last
      simp [empty]
  | some entry =>
      have present : routing.candidates.zipIdx.filter (fun entry => entry.1.selected) ≠ [] := by
        intro empty
        rw [empty] at last
        cases last
      exact iff_of_true ⟨_, rfl⟩ present

end Bridge

end StateFlow.Scheduler
