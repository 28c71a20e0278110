import StateFlow.Library.Text
import StateFlow.Proof.Plane.Requests
import StateFlow.Proof.Plane.Trace

namespace StateFlow.Plane
open Python Table Effect

/-- A reference without a colon. -/
def ColonFree (entityRef : String) : Prop := ':' ∉ entityRef.toList

instance (entityRef : String) : Decidable (ColonFree entityRef) :=
  inferInstanceAs (Decidable (':' ∉ entityRef.toList))

theorem identityOf_toList (entityRef key : String) :
    (identityOf entityRef key).toList = entityRef.toList ++ ':' :: key.toList := by
  simp [identityOf, String.toList_append]

theorem identityOf_inj {first second key other : String} (free : ColonFree first) (also : ColonFree second)
    (same : identityOf first key = identityOf second other) : first = second ∧ key = other := by
  have texts := congrArg String.toList same
  rw [identityOf_toList, identityOf_toList] at texts
  obtain ⟨front, back⟩ := Text.splitAt_unique free also texts
  exact ⟨String.toList_inj.mp front, String.toList_inj.mp back⟩

theorem identityOf_ne_colonFree {entityRef key text : String} (free : ColonFree text) :
    identityOf entityRef key ≠ text := by
  intro same
  apply free
  rw [← same, identityOf_toList]
  exact List.mem_append_right _ List.mem_cons_self

section Verdicts
variable (plane : InMemoryStatePlane) (now : Int) (request : SnapshotRequest)

/-- The stored value has enough authority and its freshness has an answer. -/
def Judged (pair : EntityStateKey) (fresh : Bool) : Prop :=
  ∃ value age, plane.state.lookup pair = some value ∧
    request.minAuthority.rank ≤ value.authority.rank ∧
    maxAgeFor pair.2 request.maxAgeMs = .ok age ∧ value.isFresh now age = fresh

/-- Nothing with enough authority is stored. -/
def Absent (pair : EntityStateKey) : Prop :=
  ∀ value ∈ plane.state.lookup pair, value.authority.rank < request.minAuthority.rank

end Verdicts

/-- Every value is stored under its own pair. -/
def Keyed (plane : InMemoryStatePlane) : Prop := ∀ entry ∈ plane.state, entry.2.pair = entry.1

section Verdicts
variable {plane : InMemoryStatePlane} {now : Int} {request : SnapshotRequest}

theorem Keyed.pair (keyed : Keyed plane) {pair : EntityStateKey} {value : StateValue}
    (stored : plane.state.lookup pair = some value) : value.pair = pair :=
  keyed _ (mem_of_lookup stored)

theorem findKey_returns_iff (keyed : Keyed plane) {pair : EntityStateKey} :
    (∃ finding, findKey plane now request pair.1 pair.2 = .ok finding) ↔
      ((plane.state.lookup pair).isSome = true →
        ∃ age, maxAgeFor pair.2 request.maxAgeMs = .ok age) := by
  unfold findKey
  cases stored : plane.state.lookup pair with
  | none =>
      simp [pure, Except.pure]
  | some value =>
      have named : value.key = pair.2 := congrArg Prod.snd (keyed.pair stored)
      simp only [named, Option.isSome_some, forall_const]
      cases limit : maxAgeFor pair.2 request.maxAgeMs with
      | error exception => simp [bind, Except.bind]
      | ok age =>
          simp only [bind, Except.bind, pure, Except.pure]
          constructor
          · exact fun _ => ⟨age, rfl⟩
          · intro _
            split
            · exact ⟨_, rfl⟩
            · split
              · exact ⟨_, rfl⟩
              · exact ⟨_, rfl⟩

/-- A finding tells what is stored under its pair. -/
theorem findKey_verdict (keyed : Keyed plane) {pair : EntityStateKey} {finding : Finding}
    (answered : findKey plane now request pair.1 pair.2 = .ok finding) :
    (∃ value, finding = .selected value ∧ plane.state.lookup pair = some value ∧
      Judged plane now request pair true) ∨
    (finding = .stale (identityOf pair.1 pair.2) ∧ Judged plane now request pair false) ∨
    (finding = .missing (identityOf pair.1 pair.2) ∧ Absent plane request pair) := by
  unfold findKey at answered
  cases stored : plane.state.lookup pair with
  | none =>
      have absent : plane.state.lookup (pair.1, pair.2) = none := stored
      rw [absent] at answered
      cases answered
      refine Or.inr (Or.inr ⟨rfl, fun value found => ?_⟩)
      rw [stored] at found
      cases found
  | some value =>
      have present : plane.state.lookup (pair.1, pair.2) = some value := stored
      have named : value.key = pair.2 := congrArg Prod.snd (keyed.pair stored)
      simp only [present, named] at answered
      obtain ⟨age, limit, decided⟩ := except_bind_ok answered
      split at decided
      · rename_i low
        cases decided
        refine Or.inr (Or.inr ⟨rfl, fun other found => ?_⟩)
        cases stored.symm.trans found
        exact low
      · rename_i enough
        split at decided
        · rename_i expired
          cases decided
          exact Or.inr (Or.inl ⟨rfl, value, age, stored, not_lt.mp enough, limit,
            by simpa using expired⟩)
        · rename_i fresh
          cases decided
          exact Or.inl ⟨value, rfl, rfl, value, age, stored, not_lt.mp enough, limit,
            by simpa using fresh⟩

/-- No pair has two verdicts. -/
theorem judged_unique {pair : EntityStateKey} {first second : Bool}
    (judged : Judged plane now request pair first) (again : Judged plane now request pair second) :
    first = second := by
  obtain ⟨value, age, stored, _, limit, fresh⟩ := judged
  obtain ⟨other, limit', stored', _, aged, fresh'⟩ := again
  cases stored.symm.trans stored'
  cases limit.symm.trans aged
  exact fresh.symm.trans fresh'

theorem judged_not_absent {pair : EntityStateKey} {fresh : Bool}
    (judged : Judged plane now request pair fresh) : ¬ Absent plane request pair := by
  obtain ⟨value, _, stored, enough, _⟩ := judged
  intro absent
  exact absurd (absent value stored) (not_lt.mpr enough)

end Verdicts

section Values
variable {values : List StateValue} {table : List (EntityStateKey × StateValue)}

/-- The table of the values by their pairs. -/
def indexed (values : List StateValue) (table : List (EntityStateKey × StateValue)) :
    List (EntityStateKey × StateValue) :=
  values.foldl (fun table value => assign (value.entityRef, value.key) value table) table

theorem indexed_nodup (distinct : (table.map Prod.fst).Nodup) :
    ((indexed values table).map Prod.fst).Nodup := by
  induction values generalizing table with
  | nil => exact distinct
  | cons value rest ih => exact ih (assign_keys_nodup distinct)

theorem mem_indexed {entry : EntityStateKey × StateValue} (member : entry ∈ indexed values table) :
    entry ∈ table ∨ ∃ value ∈ values, entry = (value.pair, value) := by
  induction values generalizing table with
  | nil => exact Or.inl member
  | cons value rest ih =>
      rcases ih member with inside | ⟨later, listed, same⟩
      · rcases mem_assign inside with new | old
        · exact Or.inr ⟨value, List.mem_cons_self, new⟩
        · exact Or.inl old
      · exact Or.inr ⟨later, List.mem_cons_of_mem _ listed, same⟩

theorem indexed_covers {pair : EntityStateKey}
    (covered : (table.lookup pair).isSome = true ∨ ∃ value ∈ values, value.pair = pair) :
    ((indexed values table).lookup pair).isSome = true := by
  induction values generalizing table with
  | nil =>
      rcases covered with inside | ⟨value, member, _⟩
      · exact inside
      · cases member
  | cons value rest ih =>
      apply ih
      by_cases here : pair = value.pair
      · left
        rw [here]
        exact Option.isSome_iff_exists.mpr ⟨value, lookup_assign_same value.pair value table⟩
      · rcases covered with inside | ⟨later, listed, same⟩
        · left
          have other : (assign value.pair value table).lookup pair = table.lookup pair :=
            lookup_assign_other here value table
          exact (congrArg Option.isSome other).trans inside
        · rcases List.mem_cons.mp listed with first | other
          · exact absurd (same ▸ first ▸ rfl) here
          · exact Or.inr ⟨later, other, same⟩

theorem mem_distinctValues {value : StateValue} (member : value ∈ distinctValues values) :
    value ∈ values := by
  obtain ⟨entry, inside, same⟩ := List.mem_map.mp member
  rcases mem_indexed inside with absent | ⟨other, listed, named⟩
  · cases absent
  · rw [← same, named]
    exact listed

theorem distinctValues_covers {value : StateValue} (member : value ∈ values) :
    ∃ other ∈ distinctValues values, other.pair = value.pair := by
  have covered : ((indexed values []).lookup value.pair).isSome = true :=
    indexed_covers (Or.inr ⟨value, member, rfl⟩)
  obtain ⟨other, found⟩ := Option.isSome_iff_exists.mp covered
  have inside := mem_of_lookup found
  refine ⟨other, List.mem_map.mpr ⟨_, inside, rfl⟩, ?_⟩
  rcases mem_indexed inside with absent | ⟨later, _, named⟩
  · cases absent
  · rw [(Prod.mk.inj named).2]
    exact (Prod.mk.inj named).1.symm

theorem distinctValues_nodup : ((distinctValues values).map StateValue.pair).Nodup := by
  have distinct : ((indexed values []).map Prod.fst).Nodup := indexed_nodup List.nodup_nil
  have same : (distinctValues values).map StateValue.pair = (indexed values []).map Prod.fst := by
    rw [distinctValues, List.map_map]
    apply List.map_congr_left
    intro entry member
    rcases mem_indexed member with absent | ⟨value, _, named⟩
    · cases absent
    · rw [named]
      rfl
  rw [same]
  exact distinct

end Values

theorem mem_sortedTexts {texts : List String} {text : String} :
    text ∈ sortedTexts texts ↔ text ∈ texts := by
  simp [sortedTexts, List.mem_insertionSort]

theorem sortedTexts_nodup (texts : List String) : (sortedTexts texts).Nodup :=
  (List.perm_insertionSort _ _).nodup_iff.mpr (List.nodup_dedup texts)

/-- Exactly one of three statements holds. -/
def ExactlyOne (first second third : Prop) : Prop :=
  (first ∧ ¬ second ∧ ¬ third) ∨ (¬ first ∧ second ∧ ¬ third) ∨ (¬ first ∧ ¬ second ∧ third)

/-- A snapshot puts each requested pair into exactly one class. -/
structure Classifies (config : PlaneConfig) (plane : InMemoryStatePlane) (now : Int)
    (request : SnapshotRequest) (snapshot : Snapshot) : Prop where
  values : ∀ pair, Requested config plane request pair →
    ((∃ value ∈ snapshot.values, value.pair = pair) ↔ Judged plane now request pair true)
  stale : ∀ pair, Requested config plane request pair →
    (identityOf pair.1 pair.2 ∈ snapshot.stale ↔ Judged plane now request pair false)
  missing : ∀ pair, Requested config plane request pair →
    (identityOf pair.1 pair.2 ∈ snapshot.missing ↔ Absent plane request pair)
  exactlyOne : ∀ pair, Requested config plane request pair →
    ExactlyOne (∃ value ∈ snapshot.values, value.pair = pair)
      (identityOf pair.1 pair.2 ∈ snapshot.missing) (identityOf pair.1 pair.2 ∈ snapshot.stale)
  once : (snapshot.values.map StateValue.pair).Nodup
  inside : ∀ value ∈ snapshot.values, Requested config plane request value.pair ∧
    plane.state.lookup value.pair = some value
  staleInside : ∀ text ∈ snapshot.stale, ∃ pair, Requested config plane request pair ∧
    text = identityOf pair.1 pair.2
  missingInside : ∀ text ∈ snapshot.missing,
    (∃ pair, Requested config plane request pair ∧ text = identityOf pair.1 pair.2) ∨
    (text ∈ request.entities ∧ plane.entities.lookup text = none) ∨
    ∃ entityRef ∈ request.entities, (plane.entities.lookup entityRef).isSome = true ∧
      ∃ name ∈ request.keys, Unknown config name ∧ text = identityOf entityRef name
  unregistered : ∀ entityRef ∈ request.entities, plane.entities.lookup entityRef = none →
    entityRef ∈ snapshot.missing
  unknown : ∀ entityRef ∈ request.entities, (plane.entities.lookup entityRef).isSome = true →
    ∀ name ∈ request.keys, Unknown config name → identityOf entityRef name ∈ snapshot.missing
  distinct : snapshot.missing.Nodup ∧ snapshot.stale.Nodup
  completeness : snapshot.completeness =
    completenessOf snapshot.values.length snapshot.missing.length snapshot.stale.length

section Classes
variable {config : PlaneConfig} {plane : InMemoryStatePlane} {request : SnapshotRequest}
  {now : Int}

/-- A pair that has a finding has exactly one of the three verdicts. -/
theorem verdict_of_returned (keyed : Keyed plane) {pair : EntityStateKey}
    (returned : ∃ finding, findKey plane now request pair.1 pair.2 = .ok finding) :
    ExactlyOne (Judged plane now request pair true) (Absent plane request pair)
      (Judged plane now request pair false) := by
  obtain ⟨finding, answered⟩ := returned
  rcases findKey_verdict keyed answered with ⟨_, _, _, fresh⟩ | ⟨_, expired⟩ | ⟨_, absent⟩
  · exact Or.inl ⟨fresh, judged_not_absent fresh,
      fun other => absurd (judged_unique fresh other) (by decide)⟩
  · exact Or.inr (Or.inr ⟨fun other => absurd (judged_unique other expired) (by decide),
      judged_not_absent expired, expired⟩)
  · exact Or.inr (Or.inl ⟨fun judged => judged_not_absent judged absent, absent,
      fun judged => judged_not_absent judged absent⟩)

/-- The parts of a snapshot come from its findings. -/
theorem takeSnapshot_ok {unique : String} {snapshot : Snapshot}
    (taken : takeSnapshot config plane now unique request = .ok snapshot) :
    ∃ findings, findAll config plane now request = .ok findings ∧
      snapshot.values.Perm (distinctValues (findings.filterMap Finding.value?)) ∧
      snapshot.missing = sortedTexts (findings.filterMap Finding.missing?) ∧
      snapshot.stale = sortedTexts (findings.filterMap Finding.stale?) ∧
      snapshot.completeness =
        completenessOf snapshot.values.length snapshot.missing.length snapshot.stale.length := by
  obtain ⟨findings, found, continued⟩ := except_bind_ok taken
  refine ⟨findings, found, ?_⟩
  cases included : request.includeRelations with
  | false =>
      simp only [included] at continued
      cases continued
      exact ⟨List.perm_insertionSort _ _, rfl, rfl, by rw [List.length_insertionSort]⟩
  | true =>
      simp only [included, if_true] at continued
      obtain ⟨relations, _, final⟩ := except_bind_ok continued
      cases final
      exact ⟨List.perm_insertionSort _ _, rfl, rfl, by rw [List.length_insertionSort]⟩

theorem mem_selected {findings : List Finding} {value : StateValue} :
    value ∈ findings.filterMap Finding.value? ↔ .selected value ∈ findings := by
  rw [List.mem_filterMap]
  constructor
  · rintro ⟨finding, member, same⟩
    cases finding with
    | selected other => cases same; exact member
    | stale text => cases same
    | missing text => cases same
  · exact fun member => ⟨_, member, rfl⟩

theorem mem_missing {findings : List Finding} {text : String} :
    text ∈ sortedTexts (findings.filterMap Finding.missing?) ↔ .missing text ∈ findings := by
  rw [mem_sortedTexts, List.mem_filterMap]
  constructor
  · rintro ⟨finding, member, same⟩
    cases finding with
    | missing other => cases same; exact member
    | stale text => cases same
    | selected value => cases same
  · exact fun member => ⟨_, member, rfl⟩

theorem mem_stale {findings : List Finding} {text : String} :
    text ∈ sortedTexts (findings.filterMap Finding.stale?) ↔ .stale text ∈ findings := by
  rw [mem_sortedTexts, List.mem_filterMap]
  constructor
  · rintro ⟨finding, member, same⟩
    cases finding with
    | stale other => cases same; exact member
    | missing text => cases same
    | selected value => cases same
  · exact fun member => ⟨_, member, rfl⟩

/-- A selected finding comes from the pair of its value. -/
theorem found_selected (keyed : Keyed plane) {value : StateValue}
    (found : Found config plane now request (.selected value)) :
    Requested config plane request value.pair ∧ plane.state.lookup value.pair = some value ∧
      Judged plane now request value.pair true := by
  rcases found with ⟨_, _, _, same⟩ | ⟨_, _, _, _, _, _, same⟩ | ⟨pair, requested, answered⟩
  · cases same
  · cases same
  · rcases findKey_verdict keyed answered with ⟨other, same, stored, judged⟩ | ⟨same, _⟩ | ⟨same, _⟩
    · cases same
      rw [keyed.pair stored]
      exact ⟨requested, stored, judged⟩
    · cases same
    · cases same

/-- A stale finding comes from a stale pair. -/
theorem found_stale (keyed : Keyed plane) {text : String}
    (found : Found config plane now request (.stale text)) :
    ∃ pair, Requested config plane request pair ∧ text = identityOf pair.1 pair.2 ∧
      Judged plane now request pair false := by
  rcases found with ⟨_, _, _, same⟩ | ⟨_, _, _, _, _, _, same⟩ | ⟨pair, requested, answered⟩
  · cases same
  · cases same
  · rcases findKey_verdict keyed answered with ⟨_, same, _⟩ | ⟨same, judged⟩ | ⟨same, _⟩
    · cases same
    · exact ⟨pair, requested, Finding.stale.inj same, judged⟩
    · cases same

/-- A missing finding comes from an absent pair, an unregistered entity, or an unknown name. -/
theorem found_missing (keyed : Keyed plane) {text : String}
    (found : Found config plane now request (.missing text)) :
    (∃ pair, Requested config plane request pair ∧ text = identityOf pair.1 pair.2 ∧
      Absent plane request pair) ∨
    (text ∈ request.entities ∧ plane.entities.lookup text = none) ∨
    ∃ entityRef ∈ request.entities, (plane.entities.lookup entityRef).isSome = true ∧
      ∃ name ∈ request.keys, Unknown config name ∧ text = identityOf entityRef name := by
  rcases found with ⟨entityRef, requested, absent, same⟩ | ⟨entityRef, requested, present, name,
    named, unknown, same⟩ | ⟨pair, requested, answered⟩
  · cases same
    exact Or.inr (Or.inl ⟨requested, absent⟩)
  · cases same
    exact Or.inr (Or.inr ⟨entityRef, requested, present, name, named, unknown, rfl⟩)
  · rcases findKey_verdict keyed answered with ⟨_, same, _⟩ | ⟨same, _⟩ | ⟨same, absent⟩
    · cases same
    · cases same
    · exact Or.inl ⟨pair, requested, Finding.missing.inj same, absent⟩

/-- A key that a request selects is not unknown. -/
theorem selects_known (settled : config.registry.Settled) {entityType name key : String}
    (selected : Selects config entityType name key) : ¬ Unknown config key := by
  rintro ⟨_, unresolved⟩
  unfold Selects at selected
  split at selected
  · obtain ⟨definition, listed, same, _⟩ := selected
    have resolves := settled.listed definition listed
    rw [same, unresolved] at resolves
    cases resolves
  · obtain ⟨definition, resolved, same, _⟩ := selected
    have resolves := (settled.resolves name definition resolved).1
    rw [same, unresolved] at resolves
    cases resolves

/-- A snapshot that returns classifies every requested pair. -/
theorem classifies_of_taken (settled : config.registry.Settled) (keyed : Keyed plane)
    (plain : ∀ entityRef ∈ request.entities, ColonFree entityRef) {unique : String}
    {snapshot : Snapshot} (taken : takeSnapshot config plane now unique request = .ok snapshot) :
    Classifies config plane now request snapshot := by
  obtain ⟨findings, found, values, missing, stale, completeness⟩ := takeSnapshot_ok taken
  have listed (finding : Finding) := mem_findAll_iff settled found finding
  have answers (pair : EntityStateKey) (requested : Requested config plane request pair) :
      ∃ finding, findKey plane now request pair.1 pair.2 = .ok finding :=
    (findAll_returns_iff settled).mp ⟨findings, found⟩ pair requested
  have selectedOf {value : StateValue} (member : value ∈ snapshot.values) :=
    found_selected keyed ((listed _).mp (mem_selected.mp (mem_distinctValues (values.mem_iff.mp member))))
  have finds {pair : EntityStateKey} (requested : Requested config plane request pair)
      {finding : Finding} (answered : findKey plane now request pair.1 pair.2 = .ok finding) :
      finding ∈ findings := (listed finding).mpr (Or.inr (Or.inr ⟨pair, requested, answered⟩))
  have valuesIff (pair : EntityStateKey) (requested : Requested config plane request pair) :
      (∃ value ∈ snapshot.values, value.pair = pair) ↔ Judged plane now request pair true := by
    constructor
    · rintro ⟨value, member, same⟩
      exact same ▸ (selectedOf member).2.2
    · intro judged
      obtain ⟨finding, answered⟩ := answers pair requested
      rcases findKey_verdict keyed answered with ⟨value, same, stored, _⟩ | ⟨_, other⟩ | ⟨_, absent⟩
      · have member := mem_selected.mpr (same ▸ finds requested answered)
        obtain ⟨other, inside, paired⟩ := distinctValues_covers member
        exact ⟨other, values.mem_iff.mpr inside, paired.trans (keyed.pair stored)⟩
      · cases judged_unique judged other
      · exact absurd absent (judged_not_absent judged)
  have staleIff (pair : EntityStateKey) (requested : Requested config plane request pair) :
      identityOf pair.1 pair.2 ∈ snapshot.stale ↔ Judged plane now request pair false := by
    rw [stale, mem_stale]
    constructor
    · intro member
      obtain ⟨other, wanted, same, judged⟩ := found_stale keyed ((listed _).mp member)
      obtain ⟨front, back⟩ := identityOf_inj (plain _ requested.1) (plain _ wanted.1) same
      rwa [Prod.ext front back]
    · intro judged
      obtain ⟨finding, answered⟩ := answers pair requested
      rcases findKey_verdict keyed answered with ⟨_, _, _, other⟩ | ⟨same, _⟩ | ⟨_, absent⟩
      · cases judged_unique judged other
      · exact same ▸ finds requested answered
      · exact absurd absent (judged_not_absent judged)
  have missingIff (pair : EntityStateKey) (requested : Requested config plane request pair) :
      identityOf pair.1 pair.2 ∈ snapshot.missing ↔ Absent plane request pair := by
    rw [missing, mem_missing]
    constructor
    · intro member
      rcases found_missing keyed ((listed _).mp member) with ⟨other, wanted, same, absent⟩ |
        ⟨wanted, _⟩ | ⟨entityRef, wanted, _, name, _, unknown, same⟩
      · obtain ⟨front, back⟩ := identityOf_inj (plain _ requested.1) (plain _ wanted.1) same
        rwa [Prod.ext front back]
      · exact absurd rfl (identityOf_ne_colonFree (plain _ wanted))
      · obtain ⟨_, back⟩ := identityOf_inj (plain _ requested.1) (plain _ wanted) same
        obtain ⟨_, _, _, _, _, selected⟩ := requested
        exact absurd (back ▸ unknown) (selects_known settled selected)
    · intro absent
      obtain ⟨finding, answered⟩ := answers pair requested
      rcases findKey_verdict keyed answered with ⟨_, _, _, judged⟩ | ⟨_, judged⟩ | ⟨same, _⟩
      · exact absurd absent (judged_not_absent judged)
      · exact absurd absent (judged_not_absent judged)
      · exact same ▸ finds requested answered
  constructor
  case values => exact valuesIff
  case stale => exact staleIff
  case missing => exact missingIff
  case exactlyOne =>
    intro pair requested
    rw [valuesIff pair requested, missingIff pair requested, staleIff pair requested]
    exact verdict_of_returned keyed (answers pair requested)
  case once =>
    exact ((values.map StateValue.pair).nodup_iff).mpr distinctValues_nodup
  case inside =>
    exact fun value member => ⟨(selectedOf member).1, (selectedOf member).2.1⟩
  case staleInside =>
    intro text member
    rw [stale, mem_stale] at member
    obtain ⟨pair, requested, same, _⟩ := found_stale keyed ((listed _).mp member)
    exact ⟨pair, requested, same⟩
  case missingInside =>
    intro text member
    rw [missing, mem_missing] at member
    rcases found_missing keyed ((listed _).mp member) with ⟨pair, requested, same, _⟩ | other
    · exact Or.inl ⟨pair, requested, same⟩
    · exact Or.inr other
  case unregistered =>
    intro entityRef requested absent
    rw [missing, mem_missing]
    exact (listed _).mpr (Or.inl ⟨entityRef, requested, absent, rfl⟩)
  case unknown =>
    intro entityRef requested present name named unknown
    rw [missing, mem_missing]
    exact (listed _).mpr (Or.inr (Or.inl ⟨entityRef, requested, present, name, named, unknown, rfl⟩))
  case distinct =>
    rw [missing, stale]
    exact ⟨sortedTexts_nodup _, sortedTexts_nodup _⟩
  case completeness => exact completeness

end Classes

section Keys
variable {config : PlaneConfig}

theorem Keyed.of_same {before after : InMemoryStatePlane} (keyed : Keyed before)
    (same : SameRecords before after) : Keyed after := by
  unfold Keyed
  rw [same.1]
  exact keyed

/-- A step stores values under their own pairs. -/
theorem step_keyed (plane : InMemoryStatePlane) (call : Call) (keyed : Keyed plane) :
    Keyed (call.step config plane).after := by
  rw [step_after]
  cases call with
  | publishState update =>
      rw [show finalState ((Call.publishState update).run config plane) =
        finalState (publishOne config update plane) from finalState_then _ _ plane, publishOne_run]
      rcases judged : judgeState config plane update with exception | (result | value)
      · exact keyed
      · exact keyed
      · intro entry member
        rw [finalState_ok, acceptState_state] at member
        rcases mem_assign member with same | earlier
        · rw [same]
          rfl
        · exact keyed entry earlier
  | upsertRelation update =>
      rw [show finalState ((Call.upsertRelation update).run config plane) =
        finalState (upsertRelation config update plane) from finalState_then _ _ plane,
        upsertRelation_run]
      rcases judgeRelation plane update with exception | (result | relation)
      · exact keyed
      · exact keyed
      · intro entry member
        rw [finalState_ok, acceptRelation_state] at member
        exact keyed entry member
  | registerComponent descriptor =>
      rw [show finalState ((Call.registerComponent descriptor).run config plane) =
        finalState (registerComponent descriptor plane) from finalState_done _ _ plane]
      exact keyed.of_same (registerComponent_sameRecords plane descriptor)
  | upsertEntity now entity =>
      rw [show finalState ((Call.upsertEntity now entity).run config plane) =
        finalState (upsertEntity config now entity plane) from finalState_done _ _ plane]
      exact keyed.of_same (upsertEntity_sameRecords config plane now entity)
  | heartbeat beat =>
      rw [show finalState ((Call.heartbeat beat).run config plane) =
        finalState (heartbeat beat plane) from finalState_done _ _ plane]
      exact keyed.of_same (heartbeat_sameRecords plane beat)
  | publishMetric sample =>
      rw [show finalState ((Call.publishMetric sample).run config plane) =
        finalState (publishMetric config sample plane) from finalState_then _ _ plane]
      exact keyed.of_same (publishMetric_sameRecords config plane sample)
  | publishEvent event =>
      rw [show finalState ((Call.publishEvent event).run config plane) =
        finalState (publishEvent config event plane) from finalState_then _ _ plane]
      exact keyed.of_same (publishEvent_sameRecords config plane event)
  | getSnapshot now unique request =>
      rw [show finalState ((Call.getSnapshot now unique request).run config plane) =
        finalState (getSnapshot config now unique request plane) from finalState_done _ _ plane]
      exact keyed.of_same (getSnapshot_sameRecords config plane now unique request)

/-- A run stores values under their own pairs. -/
theorem runPlane_keyed (operations : List Operation) : Keyed (runPlane config operations {}) :=
  (runSteps_chained operations {}).keeps step_keyed fun _ member => absurd member List.not_mem_nil

end Keys

/-- A snapshot of a reachable plane returns and classifies its request exactly when the relations
that it reads are dated and the ages that it applies are durations. -/
theorem snapshot_classifies_iff (config : PlaneConfig)
    (known : config.registry = defaultConfig.registry) (operations : List Operation) (now : Int)
    (unique : String) (request : SnapshotRequest)
    (plain : ∀ entityRef ∈ request.entities, ColonFree entityRef) :
    (∃ snapshot next,
      getSnapshot config now unique request (runPlane config operations {}) = .ok snapshot next ∧
      Classifies config (runPlane config operations {}) now request snapshot) ↔
    (request.includeRelations = true →
      ∀ entry ∈ (runPlane config operations {}).relations, entry.2.Dated) ∧
    ∀ pair, Requested config (runPlane config operations {}) request pair →
      ((runPlane config operations {}).state.lookup pair).isSome = true →
        ∃ age, maxAgeFor pair.2 request.maxAgeMs = .ok age := by
  have settled : config.registry.Settled := known ▸ defaultRegistry_settled
  have keyed : Keyed (runPlane config operations {}) := runPlane_keyed operations
  have returns :=
    @takeSnapshot_returns_found config (runPlane config operations {}) request now unique
  rw [findAll_returns_iff settled] at returns
  constructor
  · rintro ⟨snapshot, next, ran, _⟩
    rw [getSnapshot_run] at ran
    cases taken : takeSnapshot config (runPlane config operations {}) now unique request with
    | error exception => rw [taken] at ran; cases ran
    | ok found =>
        obtain ⟨each, dated⟩ := returns.mp ⟨found, taken⟩
        exact ⟨dated, fun pair requested => (findKey_returns_iff keyed).mp (each pair requested)⟩
  · rintro ⟨dated, ages⟩
    obtain ⟨snapshot, taken⟩ := returns.mpr
      ⟨fun pair requested => (findKey_returns_iff keyed).mpr (ages pair requested), dated⟩
    exact ⟨snapshot, _, by rw [getSnapshot_run, taken],
      classifies_of_taken settled keyed plain taken⟩

/-- A queue depth is requested by a pattern. -/
def queueRequest : SnapshotRequest where
  entities := ["component/component/r0"]
  keys := ["runtime.*"]

theorem snapshot_classifies_iff_of_queue :
    ∃ snapshot next, getSnapshot defaultConfig 0 "" queueRequest
        (runPlane defaultConfig
          [.upsertEntity 0 queueEntity, .publishState [queueWrite 4 0 0]] {}) = .ok snapshot next ∧
      Classifies defaultConfig (runPlane defaultConfig
        [.upsertEntity 0 queueEntity, .publishState [queueWrite 4 0 0]] {}) 0 queueRequest
        snapshot := by
  refine (snapshot_classifies_iff defaultConfig rfl
    [.upsertEntity 0 queueEntity, .publishState [queueWrite 4 0 0]] 0 "" queueRequest
    (by decide)).mpr ⟨?_, ?_⟩
  · have empty : (runPlane defaultConfig
        [.upsertEntity 0 queueEntity, .publishState [queueWrite 4 0 0]] {}).relations.length = 0 := by
      decide +kernel
    rw [List.length_eq_zero_iff.mp empty]
    exact fun _ _ member => absurd member List.not_mem_nil
  · exact fun _ _ _ => ⟨none, rfl⟩

/-- A component uses an object until the end of the calendar and five seconds more. -/
def lateUpdate : RelationUpdate where
  sourceRef := "component/component/r0"
  relationType := "uses"
  targetRef := "component/stateful_object/k0"
  producer := "p"
  timestamp := maxDateTime
  ttl := some 5000000

/-- The late relation is accepted and then a request without any relation does not return. -/
theorem snapshot_raises_after_late_relation :
    (∀ entityRef ∈ queueRequest.entities, ColonFree entityRef) ∧
    ¬ ∃ snapshot next, getSnapshot defaultConfig 0 "" queueRequest
        (runPlane defaultConfig [.upsertEntity 0 queueEntity, .upsertEntity 0 usedObject,
          .upsertRelations [lateUpdate]] {}) = .ok snapshot next ∧
      Classifies defaultConfig (runPlane defaultConfig [.upsertEntity 0 queueEntity,
        .upsertEntity 0 usedObject, .upsertRelations [lateUpdate]] {}) 0 queueRequest snapshot := by
  refine ⟨by decide, ?_⟩
  rintro ⟨snapshot, next, returned, _⟩
  have raised : answersWith (fun _ => true) (getSnapshot defaultConfig 0 "" queueRequest
      (runPlane defaultConfig [.upsertEntity 0 queueEntity, .upsertEntity 0 usedObject,
        .upsertRelations [lateUpdate]] {})) = false := by decide +kernel
  rw [returned] at raised
  cases raised

end StateFlow.Plane
