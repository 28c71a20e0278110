import StateFlow.Proof.Plane.Trace

namespace StateFlow.Plane
open Python Table Effect

section Authority
variable {config : PlaneConfig} {plane : InMemoryStatePlane} {update : StateUpdate}

/-- A lower authority passes the check against a record that is not fresh at its timestamp. -/
theorem heldConflict_lower {noun : String} {held : Held} {fresh : Bool}
    {authority : SourceAuthority} (known : held.fresh = .ok fresh)
    (lower : authority.rank < held.authority.rank) (timestamp version : Int) :
    heldConflict noun held authority timestamp version = .ok none ↔
      fresh = false ∧ (version = 0 ∨ held.version < version) := by
  have different : authority ≠ held.authority := by
    intro same
    rw [same] at lower
    exact absurd lower (lt_irrefl _)
  cases fresh with
  | true => simp [heldConflict, known, lower, bind, Except.bind, pure, Except.pure]
  | false =>
      by_cases blank : version = 0
      · simp [heldConflict, known, lower, different, blank, bind, Except.bind, pure, Except.pure]
      · by_cases old : version ≤ held.version
        · simp [heldConflict, known, lower, different, blank, old, bind, Except.bind, pure,
            Except.pure]
        · simp [heldConflict, known, lower, different, old, not_le.mp old, bind, Except.bind,
            pure, Except.pure]

/-- An update is refused by a check that does not look at authorities or at times. -/
def Refused (plane : InMemoryStatePlane) (update : StateUpdate) (definition : CanonicalKey)
    (stored : StateValue) : Prop :=
  (plane.duplicate update.idempotencyKey).isSome = true ∨
  (∀ entity ∈ plane.entities.lookup update.entityRef,
    entity.entityType ∉ definition.entityTypes) ∨
  validateValue definition update.value = false ∨
  (∃ expected ∈ update.expectedVersion, expected ≠ stored.version) ∨
  (update.version ≠ 0 ∧ update.version ≤ stored.version)

theorem casConflict_none_iff {held : Held} {expected : Option Int} :
    casConflict (some held) expected = none ↔ ¬ ∃ wanted ∈ expected, wanted ≠ held.version := by
  cases expected with
  | none => simp [casConflict]
  | some wanted => simp [casConflict, actualVersion, eq_comm]

/-- A lower authority is admitted exactly when nothing refuses it at its own timestamp. -/
theorem stateAdmitted_lower {definition : CanonicalKey} {stored : StateValue}
    (resolved : config.registry.resolve update.key = some definition)
    (held : plane.state.lookup (update.entityRef, definition.key) = some stored)
    (lower : update.authority.rank < stored.authority.rank) :
    StateAdmitted config plane update definition ↔
      ¬ (stored.isFresh update.timestamp none = true ∨ Refused plane update definition stored) := by
  have record : plane.heldState update definition.key = some (stored.held update.timestamp) := by
    simp [InMemoryStatePlane.heldState, held]
  have free : writeConflict "state" (plane.heldState update definition.key)
      update.expectedVersion update.authority update.timestamp update.version = .ok none ↔
      (¬ ∃ wanted ∈ update.expectedVersion, wanted ≠ stored.version) ∧
        stored.isFresh update.timestamp none = false ∧
          (update.version = 0 ∨ stored.version < update.version) := by
    rw [record, writeConflict]
    cases cas : casConflict (some (stored.held update.timestamp)) update.expectedVersion with
    | some reason =>
        have conflict := mt casConflict_none_iff.mpr (by rw [cas]; exact fun same => by cases same)
        simp only [reduceCtorEq, Except.ok.injEq, false_iff, not_and]
        exact fun none => absurd none conflict
    | none =>
        have agreed := casConflict_none_iff.mp cas
        have lowered := @heldConflict_lower "state" (stored.held update.timestamp) _ _
          rfl lower update.timestamp update.version
        simp only [lowered]
        exact ⟨fun passes => ⟨agreed, passes⟩, And.right⟩
  constructor
  · rintro ⟨unused, ⟨entity, known, typed⟩, _, valid, passes⟩
    obtain ⟨agreed, expired, newer⟩ := free.mp passes
    rintro (fresh | repeated | foreign | invalid | mismatch | ⟨brought, old⟩)
    · exact absurd (expired.symm.trans fresh) (by decide)
    · rw [unused] at repeated
      cases repeated
    · exact foreign entity known typed
    · exact absurd (valid.symm.trans invalid) (by decide)
    · exact agreed mismatch
    · rcases newer with blank | newer
      · exact brought blank
      · omega
  · intro passes
    simp only [Refused, not_or] at passes
    obtain ⟨expired, unused, typed, valid, agreed, newer⟩ := passes
    have unused : plane.duplicate update.idempotencyKey = none := by simpa using unused
    have registered : ∃ entity, plane.entities.lookup update.entityRef = some entity ∧
        entity.entityType ∈ definition.entityTypes := by
      by_contra absent
      exact typed fun entity known listed => absent ⟨entity, known, listed⟩
    have newer : update.version = 0 ∨ stored.version < update.version := by
      by_contra older
      simp only [not_or, not_lt] at older
      exact newer ⟨older.1, older.2⟩
    exact ⟨unused, registered, resolved, by simpa using valid,
      free.mpr ⟨agreed, by simpa using expired, newer⟩⟩

end Authority

/-- The plane answers an update with a rejection and keeps the stored value. -/
def KeepsStored (config : PlaneConfig) (plane : InMemoryStatePlane) (update : StateUpdate)
    (key : EntityStateKey) (stored : StateValue) : Prop :=
  ∃ result next, publishOne config update plane = .ok result next ∧ result.accepted = false ∧
    next.state.lookup key = some stored

/-- A lower authority writes a key whose stored value is fresh at some instant. -/
structure Contested (config : PlaneConfig) (plane : InMemoryStatePlane) (update : StateUpdate)
    (now : Int) (definition : CanonicalKey) (stored : StateValue) : Prop where
  resolved : config.registry.resolve update.key = some definition
  held : plane.state.lookup (update.entityRef, definition.key) = some stored
  lower : update.authority.rank < stored.authority.rank
  fresh : stored.isFresh now none = true

/-- A value that is fresh at some instant was fresh before it. -/
theorem isFresh_of_le {stored : StateValue} {early late : Int} (order : early ≤ late)
    (fresh : stored.isFresh late none = true) : stored.isFresh early none = true := by
  cases lifetime : stored.ttl with
  | none => simp [StateValue.isFresh, lifetime]
  | some ttl =>
      have inside : max 0 (late - stored.timestamp) ≤ ttl := by
        simpa [StateValue.isFresh, StateValue.age, lifetime] using fresh
      have younger : max 0 (early - stored.timestamp) ≤ ttl := by omega
      simpa [StateValue.isFresh, StateValue.age, lifetime] using younger

/-- A contested value is kept exactly when it is also fresh at the timestamp of the update or
another check refuses the update. Only an update from the future escapes the first case. -/
theorem contested_kept_iff (config : PlaneConfig) (plane : InMemoryStatePlane)
    (update : StateUpdate) (now : Int) (definition : CanonicalKey) (stored : StateValue)
    (contested : Contested config plane update now definition stored) :
    (KeepsStored config plane update (update.entityRef, definition.key) stored ↔
      stored.isFresh update.timestamp none = true ∨ Refused plane update definition stored) ∧
    (update.timestamp ≤ now → stored.isFresh update.timestamp none = true) := by
  obtain ⟨resolved, held, lower, fresh⟩ := contested
  have admitted := stateAdmitted_lower resolved held lower
  refine ⟨?_, fun order => isFresh_of_le order fresh⟩
  rw [KeepsStored, publishOne_run]
  constructor
  · rintro ⟨result, next, ran, unaccepted, _⟩
    by_contra passes
    rw [judgeState_of_admitted (admitted.mpr passes)] at ran
    cases ran
    cases unaccepted
  · intro refused
    obtain ⟨verdict, judged⟩ := judgeState_returns config plane update
    rw [judged]
    cases verdict with
    | error result => exact ⟨result, plane, rfl, judgeState_rejects judged, held⟩
    | ok value =>
        obtain ⟨other, accepted, _⟩ := judgeState_accepts judged
        cases resolved.symm.trans accepted.resolved
        exact absurd refused (admitted.mp accepted)

/-- The owner of a runtime reports its queue at the first instant. -/
def ownedQueue : StateUpdate where
  entityRef := "component/component/r0"
  key := "runtime.queue_depth"
  value := .int 4
  producer := "owner"
  timestamp := 0
  authority := .authoritativeDomain

/-- A log line claims another depth at some instant. -/
def hintedQueue (timestamp : Int) : StateUpdate where
  entityRef := "component/component/r0"
  key := "runtime.queue_depth"
  value := .int 9
  producer := "log"
  timestamp := timestamp
  authority := .logHint

/-- The plane after the report of the owner. -/
def ownedPlane : InMemoryStatePlane :=
  runPlane defaultConfig [.upsertEntity 0 queueEntity, .publishState [ownedQueue]] {}

theorem queueDepth_defined :
    (defaultConfig.registry.resolve "runtime.queue_depth").isSome = true := by decide +kernel

/-- The log line meets a value of this definition. -/
def hintedDefinition : CanonicalKey :=
  (defaultConfig.registry.resolve "runtime.queue_depth").get queueDepth_defined

def ownedValue : StateValue :=
  (ownedPlane.state.lookup ("component/component/r0", "runtime.queue_depth")).get
    (by decide +kernel)

theorem hinted_contested (timestamp : Int) :
    Contested defaultConfig ownedPlane (hintedQueue timestamp) 0 hintedDefinition ownedValue where
  resolved := (Option.some_get _).symm
  held := by
    have named : hintedDefinition.key = "runtime.queue_depth" := by decide +kernel
    rw [named]
    exact (Option.some_get _).symm
  lower := by
    have owned : ownedValue.authority = .authoritativeDomain := by decide +kernel
    rw [owned]
    exact show SourceAuthority.logHint.rank < SourceAuthority.authoritativeDomain.rank by decide
  fresh := by decide +kernel

theorem contested_kept_iff_of_now :
    KeepsStored defaultConfig ownedPlane (hintedQueue 0)
      ("component/component/r0", hintedDefinition.key) ownedValue :=
  (contested_kept_iff defaultConfig ownedPlane (hintedQueue 0) 0 hintedDefinition ownedValue
    (hinted_contested 0)).1.mpr (Or.inl (by decide +kernel))

/-- A log line from the future replaces the fresh value of the owner. -/
theorem future_hint_replaces_owner :
    Contested defaultConfig ownedPlane (hintedQueue 1000000) 0 hintedDefinition ownedValue ∧
    ¬ KeepsStored defaultConfig ownedPlane (hintedQueue 1000000)
      ("component/component/r0", hintedDefinition.key) ownedValue := by
  refine ⟨hinted_contested 1000000, ?_⟩
  rintro ⟨result, next, ran, unaccepted, _⟩
  have accepted : answersWith WriteResult.accepted
      (publishOne defaultConfig (hintedQueue 1000000) ownedPlane) = true := by decide +kernel
  rw [ran] at accepted
  exact absurd (accepted.symm.trans unaccepted) (by decide)

end StateFlow.Plane
