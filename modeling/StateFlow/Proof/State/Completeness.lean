import Mathlib.Algebra.Order.BigOperators.Group.List
import Mathlib.Tactic.Linarith
import Mathlib.Tactic.Positivity
import StateFlow.Library.Ascii
import StateFlow.Library.Effect
import StateFlow.Construction.State.View

namespace StateFlow.State
open Python Table Effect

section Field
variable {field : StateField} {marks : List StateField} {now later : Int}

/-- A field that is fresh later is fresh now. -/
theorem StateField.isFresh_earlier (ordered : now ≤ later) (fresh : field.isFresh later = .ok true) :
    field.isFresh now = .ok true := by
  unfold StateField.isFresh at fresh ⊢
  split at fresh
  · rfl
  · split at fresh
    · split at fresh
      · obtain ⟨deadline, added, compared⟩ := except_bind_ok fresh
        have reached : later ≤ deadline := of_decide_eq_true (Except.ok.inj compared)
        simp only [added, bind, Except.bind, pure, Except.pure]
        rw [decide_eq_true (ordered.trans reached)]
      · cases fresh
    · cases fresh

/-- A fresh field has its own confidence, and a stale one has none. -/
theorem StateField.effectiveConfidence_ok {value : ℚ}
    (returned : field.effectiveConfidence now = .ok value) :
    field.isFresh now = .ok true ∧ value = clamp field.confidence ∨
      field.isFresh now = .ok false ∧ value = 0 := by
  unfold StateField.effectiveConfidence at returned
  obtain ⟨fresh, judged, finished⟩ := except_bind_ok returned
  cases fresh with
  | true => exact Or.inl ⟨judged, (Except.ok.inj finished).symm⟩
  | false => exact Or.inr ⟨judged, (Except.ok.inj finished).symm⟩

theorem StateField.effectiveConfidence_unit {value : ℚ}
    (returned : field.effectiveConfidence now = .ok value) : 0 ≤ value ∧ value ≤ 1 := by
  rcases StateField.effectiveConfidence_ok returned with ⟨_, rfl⟩ | ⟨_, rfl⟩
  · exact ⟨clamp_nonneg _, clamp_le_one _⟩
  · exact ⟨le_rfl, zero_le_one⟩

/-- The confidence of a field never grows with time. -/
theorem StateField.effectiveConfidence_earlier {before after : ℚ} (ordered : now ≤ later)
    (first : field.effectiveConfidence now = .ok before)
    (second : field.effectiveConfidence later = .ok after) : after ≤ before := by
  rcases StateField.effectiveConfidence_ok second with ⟨fresh, rfl⟩ | ⟨_, rfl⟩
  · rcases StateField.effectiveConfidence_ok first with ⟨_, rfl⟩ | ⟨stale, _⟩
    · exact le_rfl
    · cases (StateField.isFresh_earlier ordered fresh).symm.trans stale
  · exact (StateField.effectiveConfidence_unit first).1

/-- A mark counts while it is fresh and has a positive confidence. -/
def Fills (now : Int) (field : StateField) : Prop :=
  field.isFresh now = .ok true ∧ 0 < field.confidence

theorem Fills.earlier (ordered : now ≤ later) (counts : Fills later field) : Fills now field :=
  ⟨StateField.isFresh_earlier ordered counts.1, counts.2⟩

/-- A search finds the marks that count. -/
theorem anyFresh_iff {found : Bool} (returned : anyFresh now marks = .ok found) :
    found = true ↔ ∃ field ∈ marks, Fills now field := by
  have positive (value : ℚ) : 0 < clamp value ↔ 0 < value := by
    simp [clamp]
  induction marks with
  | nil =>
      cases returned
      simp
  | cons field rest ih =>
      unfold anyFresh at returned
      obtain ⟨fresh, judged, searching⟩ := except_bind_ok returned
      rw [List.exists_mem_cons_iff]
      cases fresh with
      | false =>
          refine (ih searching).trans (or_iff_right ?_).symm
          rintro ⟨counts, _⟩
          cases counts.symm.trans judged
      | true =>
          obtain ⟨value, weighed, deciding⟩ := except_bind_ok searching
          obtain ⟨_, rfl⟩ | ⟨stale, _⟩ := StateField.effectiveConfidence_ok weighed
          · split at deciding
            · rename_i confident
              cases deciding
              exact iff_of_true rfl (Or.inl ⟨judged, (positive _).mp confident⟩)
            · rename_i timid
              exact (ih deciding).trans
                (or_iff_right fun counts => timid ((positive _).mpr counts.2)).symm
          · cases judged.symm.trans stale

end Field

section Freshness
variable {state : AgentState} {now later : Int}

/-- The freshness averages the confidence of the marks. -/
theorem stateFreshness_ok {freshness : ℚ} (returned : stateFreshness state now = .ok freshness) :
    ∃ values : List ℚ, List.Forall₂ (fun entry value => entry.2.effectiveConfidence now = .ok value)
      state.fieldMeta values ∧ freshness = values.sum / values.length := by
  unfold stateFreshness at returned
  obtain ⟨values, weighed, finished⟩ := except_bind_ok returned
  refine ⟨values, forall₂_of_mapM weighed, ?_⟩
  cases finished
  cases values <;> simp

theorem stateFreshness_unit {freshness : ℚ} (returned : stateFreshness state now = .ok freshness) :
    0 ≤ freshness ∧ freshness ≤ 1 := by
  obtain ⟨values, weighed, rfl⟩ := stateFreshness_ok returned
  have unit : ∀ value ∈ values, 0 ≤ value ∧ value ≤ 1 := by
    intro value member
    obtain ⟨entry, _, answered⟩ := exists_of_forall₂ weighed member
    exact StateField.effectiveConfidence_unit answered
  have nonneg : 0 ≤ values.sum := List.sum_nonneg fun value member => (unit value member).1
  have bounded : values.sum ≤ values.length := by
    simpa using List.sum_le_card_nsmul values 1 fun value member => (unit value member).2
  exact ⟨div_nonneg nonneg (Nat.cast_nonneg _), div_le_one_of_le₀ bounded (Nat.cast_nonneg _)⟩

/-- The freshness never grows with time. -/
theorem stateFreshness_earlier {before after : ℚ} (ordered : now ≤ later)
    (first : stateFreshness state now = .ok before)
    (second : stateFreshness state later = .ok after) : after ≤ before := by
  obtain ⟨fresh, weighed, rfl⟩ := stateFreshness_ok first
  obtain ⟨aged, reweighed, rfl⟩ := stateFreshness_ok second
  have below : List.Forall₂ (· ≤ ·) aged fresh :=
    forall₂_both reweighed weighed fun _ _ _ old new =>
      StateField.effectiveConfidence_earlier ordered new old
  rw [below.length_eq]
  exact div_le_div_of_nonneg_right below.sum_le_sum (Nat.cast_nonneg _)

end Freshness

section Availability
variable {state : AgentState} {now later : Int}

/-- The flags of the parts that need a value or a mark. -/
def StateAvailability.parts (availability : StateAvailability) : List Bool :=
  [availability.toolLifecycle, availability.taskProgress, availability.executionDag,
    availability.contextState, availability.inferenceState, availability.kvState]

/-- All visibility flags in the order of the completeness. -/
def StateAvailability.flags (availability : StateAvailability) : List Bool :=
  availability.harnessNativeState :: availability.parts

/-- Each part is known by its value or else by the marks of its name. -/
def sightings (state : AgentState) (progressed : Bool) : List (Bool × String) :=
  [((state.get .tools "active_tools").truthy, "tools"), (progressed, "task.progress"),
    ((state.get .execution "nodes").truthy || (state.get .execution "critical_path_nodes").truthy,
      "execution"),
    ((state.get .context "prompt_tokens").truthy || (state.get .context "total_tokens").truthy,
      "context"),
    ((state.get .inference "endpoints").truthy, "inference"),
    ((state.get .kvCache "segments").truthy
      || (state.get .kvCache "local_reusable_tokens").truthy, "kv_cache")]

/-- These facts hold of a derived availability. -/
structure Derived (state : AgentState) (now : Int) (progressed : Bool)
    (availability : StateAvailability) : Prop where
  native : harnessNative state = .ok availability.harnessNativeState
  progress : (Value.int 0).lt (state.get .lifecycle "progress") = .ok progressed
  parts : List.Forall₂ (fun sighting flag => knownOr state now sighting.1 sighting.2 = .ok flag)
    (sightings state progressed) availability.parts
  complete : ∃ complete, completeness state now availability.flags = .ok complete ∧
    availability.stateCompleteness = clamp complete

theorem deriveAvailability_ok {availability : StateAvailability}
    (returned : deriveAvailability state now = .ok availability) :
    ∃ progressed, Derived state now progressed availability := by
  unfold deriveAvailability at returned
  obtain ⟨native, reported, returned⟩ := except_bind_ok returned
  obtain ⟨tool, sawTool, returned⟩ := except_bind_ok returned
  obtain ⟨progressed, compared, returned⟩ := except_bind_ok returned
  obtain ⟨task, sawTask, returned⟩ := except_bind_ok returned
  obtain ⟨dag, sawDag, returned⟩ := except_bind_ok returned
  obtain ⟨context, sawContext, returned⟩ := except_bind_ok returned
  obtain ⟨inference, sawInference, returned⟩ := except_bind_ok returned
  obtain ⟨kv, sawKv, returned⟩ := except_bind_ok returned
  obtain ⟨complete, counted, finished⟩ := except_bind_ok returned
  cases finished
  exact ⟨progressed, reported, compared, .cons sawTool (.cons sawTask (.cons sawDag
    (.cons sawContext (.cons sawInference (.cons sawKv .nil))))), complete, counted, rfl⟩

/-- A part that is known later is known now. -/
theorem knownOr_earlier {known before after : Bool} {name : String} (ordered : now ≤ later)
    (first : knownOr state now known name = .ok before)
    (second : knownOr state later known name = .ok after) : after ≤ before := by
  unfold knownOr available at first second
  split at second
  · rename_i known
    rw [if_pos known] at first
    cases first
    exact Bool.le_true _
  · rename_i unknown
    rw [if_neg unknown] at first
    simp only at first second
    split at second
    · cases second
      exact Bool.false_le _
    · rename_i present
      rw [if_neg present] at first
      intro found
      obtain ⟨field, member, counts⟩ := (anyFresh_iff second).mp found
      exact (anyFresh_iff first).mpr ⟨field, member, counts.earlier ordered⟩

/-- More flags count at least as many parts. -/
theorem count_true_le {fewer more : List Bool} (below : List.Forall₂ (· ≤ ·) fewer more) :
    fewer.count true ≤ more.count true := by
  induction below with
  | nil => exact le_rfl
  | @cons first second _ _ here _ ih =>
      rw [List.count_cons, List.count_cons]
      refine add_le_add ih ?_
      revert here
      cases first <;> cases second <;> decide

/-- The completeness of returned flags is their share, discounted by the freshness. -/
theorem completeness_ok {flags : List Bool} {complete : ℚ}
    (returned : completeness state now flags = .ok complete) :
    (state.fieldMeta = [] ∧ complete = (flags.count true : ℚ) / flags.length) ∨
    (state.fieldMeta ≠ [] ∧ ∃ freshness, stateFreshness state now = .ok freshness ∧
      complete = (flags.count true : ℚ) / flags.length * (1 / 2 + 1 / 2 * freshness)) := by
  unfold completeness at returned
  simp only at returned
  split at returned
  · rename_i empty
    cases returned
    exact Or.inl ⟨List.isEmpty_iff.mp empty, rfl⟩
  · rename_i marked
    obtain ⟨freshness, averaged, finished⟩ := except_bind_ok returned
    cases finished
    exact Or.inr ⟨fun empty => marked (List.isEmpty_iff.mpr empty), freshness, averaged, rfl⟩

/-- Fewer flags at a later time are at most as complete. -/
theorem completeness_earlier {fewer more : List Bool} {before after : ℚ} (ordered : now ≤ later)
    (below : List.Forall₂ (· ≤ ·) fewer more)
    (first : completeness state now more = .ok before)
    (second : completeness state later fewer = .ok after) : after ≤ before := by
  have share : (fewer.count true : ℚ) / fewer.length ≤ (more.count true : ℚ) / more.length := by
    rw [below.length_eq]
    exact div_le_div_of_nonneg_right (Nat.cast_le.mpr (count_true_le below)) (Nat.cast_nonneg _)
  rcases completeness_ok first with ⟨empty, rfl⟩ | ⟨marked, fresh, averaged, rfl⟩
  · rcases completeness_ok second with ⟨_, rfl⟩ | ⟨marked, _⟩
    · exact share
    · exact absurd empty marked
  · rcases completeness_ok second with ⟨empty, _⟩ | ⟨_, aged, reaveraged, rfl⟩
    · exact absurd empty marked
    · have older := stateFreshness_earlier ordered averaged reaveraged
      have nonneg := (stateFreshness_unit reaveraged).1
      gcongr

end Availability

section View
variable {text : Text} {state : AgentState} {now later : Int} {view aged : HarnessSchedulingView}

/-- A view reports the availability and the freshness of its state. -/
theorem buildSchedulingView_complete (built : buildSchedulingView text state now = .ok view) :
    deriveAvailability state now = .ok view.stateAvailability ∧
      stateFreshness state now = .ok view.stateFreshness ∧
      view.stateCompleteness = view.stateAvailability.stateCompleteness := by
  unfold buildSchedulingView at built
  dsimp only at built
  iterate 3 obtain ⟨_, _, built⟩ := except_bind_ok built
  obtain ⟨availability, derived, built⟩ := except_bind_ok built
  -- Neither the other attributes nor the routing history concern the freshness.
  iterate 31 obtain ⟨_, _, built⟩ := except_bind_ok built
  obtain ⟨freshness, averaged, built⟩ := except_bind_ok built
  cases built
  exact ⟨derived, averaged, rfl⟩

/-- A view looks at most as complete as an earlier one, and both stay in the unit interval. -/
structure Ages (view aged : HarnessSchedulingView) : Prop where
  freshness : aged.stateFreshness ≤ view.stateFreshness
  completeness : aged.stateCompleteness ≤ view.stateCompleteness
  flags : List.Forall₂ (· ≤ ·) aged.stateAvailability.flags view.stateAvailability.flags
  freshnessUnit : (0 ≤ aged.stateFreshness ∧ aged.stateFreshness ≤ 1) ∧
    0 ≤ view.stateFreshness ∧ view.stateFreshness ≤ 1
  completenessUnit : (0 ≤ aged.stateCompleteness ∧ aged.stateCompleteness ≤ 1) ∧
    0 ≤ view.stateCompleteness ∧ view.stateCompleteness ≤ 1

/-- The flags of a later availability are at most those of an earlier one. -/
theorem Derived.flags_earlier {progressed reprogressed : Bool} {before after : StateAvailability}
    (ordered : now ≤ later) (first : Derived state now progressed before)
    (second : Derived state later reprogressed after) :
    List.Forall₂ (· ≤ ·) after.flags before.flags := by
  cases first.progress.symm.trans second.progress
  have same : after.harnessNativeState = before.harnessNativeState :=
    Except.ok.inj (second.native.symm.trans first.native)
  exact .cons same.le (forall₂_both second.parts first.parts fun _ _ _ old new =>
    knownOr_earlier ordered new old)

/-- The passage of time alone never makes a state look more complete. -/
theorem view_ages (ordered : now ≤ later) (built : buildSchedulingView text state now = .ok view)
    (rebuilt : buildSchedulingView text state later = .ok aged) : Ages view aged := by
  obtain ⟨availability, fresh, complete⟩ := buildSchedulingView_complete built
  obtain ⟨reavailability, refresh, recomplete⟩ := buildSchedulingView_complete rebuilt
  obtain ⟨_, first⟩ := deriveAvailability_ok availability
  obtain ⟨_, second⟩ := deriveAvailability_ok reavailability
  obtain ⟨before, counted, clamped⟩ := first.complete
  obtain ⟨after, recounted, reclamped⟩ := second.complete
  have below := first.flags_earlier ordered second
  constructor
  case freshness => exact stateFreshness_earlier ordered fresh refresh
  case completeness =>
    rw [complete, recomplete, clamped, reclamped]
    exact max_le_max le_rfl (min_le_min le_rfl
      (completeness_earlier ordered below counted recounted))
  case flags => exact below
  case freshnessUnit => exact ⟨stateFreshness_unit refresh, stateFreshness_unit fresh⟩
  case completenessUnit =>
    rw [complete, recomplete, clamped, reclamped]
    exact ⟨⟨clamp_nonneg _, clamp_le_one _⟩, clamp_nonneg _, clamp_le_one _⟩

/-- A mark is expired when it is stale or has no confidence. -/
def Expired (now : Int) (field : StateField) : Prop :=
  field.isFresh now = .ok false ∨ field.confidence ≤ 0

theorem Expired.not_fills {field : StateField} (expired : Expired now field) :
    ¬ Fills now field := by
  rintro ⟨fresh, confident⟩
  rcases expired with stale | timid
  · cases fresh.symm.trans stale
  · exact absurd confident (not_lt.mpr timid)

theorem Expired.worthless {field : StateField} {value : ℚ} (expired : Expired now field)
    (returned : field.effectiveConfidence now = .ok value) : value = 0 := by
  rcases StateField.effectiveConfidence_ok returned with ⟨fresh, rfl⟩ | ⟨_, rfl⟩
  · rcases expired with stale | timid
    · cases fresh.symm.trans stale
    · exact max_eq_left (min_le_of_right_le timid)
  · rfl

/-- Every part of the state holds a value that needs no mark. -/
structure FullyVisible (state : AgentState) : Prop where
  native : harnessNative state = .ok true
  progress : (Value.int 0).lt (state.get .lifecycle "progress") = .ok true
  parts : ∀ sighting ∈ sightings state true, sighting.1 = true

section Expired
variable (expired : ∀ entry ∈ state.fieldMeta, Expired now entry.2)
include expired

/-- Expired marks average to nothing. -/
theorem stateFreshness_expired {freshness : ℚ}
    (returned : stateFreshness state now = .ok freshness) : freshness = 0 := by
  obtain ⟨values, weighed, rfl⟩ := stateFreshness_ok returned
  have zero : ∀ value ∈ values, value = 0 := by
    intro value member
    obtain ⟨entry, marked, answered⟩ := exists_of_forall₂ weighed member
    exact (expired entry marked).worthless answered
  rw [List.sum_eq_zero zero, zero_div]

/-- Expired marks make no part known. -/
theorem knownOr_expired {known flag : Bool} {name : String}
    (returned : knownOr state now known name = .ok flag) : flag = known := by
  unfold knownOr available at returned
  split at returned
  · rename_i present
    cases returned
    exact present.symm
  · rename_i unknown
    rw [Bool.not_eq_true] at unknown
    simp only at returned
    split at returned
    · cases returned
      exact unknown.symm
    · rw [unknown, ← Bool.not_eq_true]
      intro found
      obtain ⟨field, member, counts⟩ := (anyFresh_iff returned).mp found
      obtain ⟨entry, marked, rfl⟩ := List.mem_map.mp member
      exact (expired entry (List.mem_filter.mp marked).1).not_fills counts

/-- Expired marks leave the flags of the stored values. -/
theorem Derived.parts_expired {progressed : Bool} {availability : StateAvailability}
    (derived : Derived state now progressed availability) :
    availability.parts = (sightings state progressed).map Prod.fst := by
  have same : List.Forall₂ (fun sighting flag => flag = sighting.1)
      (sightings state progressed) availability.parts :=
    derived.parts.imp fun _ _ returned => knownOr_expired expired returned
  exact (List.forall₂_eq_eq_eq ▸ List.forall₂_map_right_iff.mpr same.flip)

/-- A state of expired marks stays below the half exactly when some part is not visible. -/
theorem completeness_expired (marked : state.fieldMeta ≠ [])
    (built : buildSchedulingView text state now = .ok view) :
    view.stateCompleteness < 1 / 2 ↔ ¬ FullyVisible state := by
  obtain ⟨returned, _, reported⟩ := buildSchedulingView_complete built
  obtain ⟨progressed, derived⟩ := deriveAvailability_ok returned
  obtain ⟨complete, counted, clamped⟩ := derived.complete
  obtain ⟨empty, _⟩ | ⟨_, freshness, averaged, rfl⟩ := completeness_ok counted
  · exact absurd empty marked
  have flags : view.stateAvailability.flags = view.stateAvailability.harnessNativeState ::
      (sightings state progressed).map Prod.fst :=
    congrArg _ (derived.parts_expired expired)
  have visible : FullyVisible state ↔ ∀ flag ∈ view.stateAvailability.flags, true = flag := by
    rw [flags, List.forall_mem_cons, List.forall_mem_map]
    constructor
    · rintro ⟨native, progress, parts⟩
      cases derived.progress.symm.trans progress
      exact ⟨Except.ok.inj (native.symm.trans derived.native),
        fun sighting member => (parts sighting member).symm⟩
    · rintro ⟨native, parts⟩
      have progress : true = progressed := parts (progressed, "task.progress") (by simp [sightings])
      cases progress
      exact ⟨native ▸ derived.native, derived.progress,
        fun sighting member => (parts sighting member).symm⟩
  have share : view.stateCompleteness = clamp
      ((view.stateAvailability.flags.count true : ℚ) / view.stateAvailability.flags.length / 2) := by
    rw [reported, clamped, stateFreshness_expired expired averaged]
    congr 1
    ring
  have below : ∀ value : ℚ, clamp value < 1 / 2 ↔ value < 1 / 2 := by
    intro value
    rw [clamp, max_lt_iff, min_lt_iff]
    norm_num
  have seven : view.stateAvailability.flags.length = 7 := rfl
  have bounded := @List.count_le_length _ _ true view.stateAvailability.flags
  rw [visible, ← List.count_eq_length, share, below, seven]
  rw [seven] at bounded
  constructor
  · intro fewer same
    rw [same] at fewer
    norm_num at fewer
  · intro different
    have fewer : (view.stateAvailability.flags.count true : ℚ) < 7 := by
      exact_mod_cast lt_of_le_of_ne bounded different
    push_cast
    linarith

end Expired

end View

section Demo

/-- A mark of the task that lives for thirty seconds. -/
def taskMark : StateField where
  value := .str "coding"
  observedAt := .datetime 0
  source := "harness"
  confidence := 1
  ttl := .timedelta 30000000
  authoritative := true
  version := .int 1

def markedState : AgentState :=
  { newAgentState ⟨"state", 0⟩ "session" "task" (.str "default") with
    fieldMeta := [("task.progress", taskMark)] }

/-- The freshness and the completeness of the marked state at some instant. -/
def markedScores (now : Int) : Option (ℚ × ℚ) :=
  match buildSchedulingView asciiText markedState now with
  | .ok view => some (view.stateFreshness, view.stateCompleteness)
  | .error _ => none

theorem markedScores_some {now : Int} {freshness complete : ℚ}
    (scored : markedScores now = some (freshness, complete)) :
    ∃ view, buildSchedulingView asciiText markedState now = .ok view ∧
      view.stateFreshness = freshness ∧ view.stateCompleteness = complete := by
  unfold markedScores at scored
  split at scored
  · rename_i view built
    obtain ⟨fresh, full⟩ := Prod.mk.inj (Option.some.inj scored)
    exact ⟨view, built, fresh, full⟩
  · cases scored

/-- A minute makes the marked state stale. -/
theorem view_ages_of_minute : ∃ view aged,
    buildSchedulingView asciiText markedState 0 = .ok view ∧
    buildSchedulingView asciiText markedState 60000000 = .ok aged ∧ Ages view aged ∧
    aged.stateCompleteness = 0 ∧ view.stateCompleteness = 1 / 7 := by
  obtain ⟨view, built, _, full⟩ :=
    markedScores_some (show markedScores 0 = some (1, 1 / 7) by decide +kernel)
  obtain ⟨aged, rebuilt, _, empty⟩ :=
    markedScores_some (show markedScores 60000000 = some (0, 0) by decide +kernel)
  exact ⟨view, aged, built, rebuilt, view_ages (by decide) built rebuilt, empty, full⟩

end Demo

end StateFlow.State
