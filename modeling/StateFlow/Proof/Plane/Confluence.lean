import Mathlib.Data.Prod.Lex
import StateFlow.Library.Register
import StateFlow.Proof.Plane.Entities

namespace StateFlow.Plane
open Python Table Effect Register

/-- The lifetime of an update is its own or the one of its key. -/
def StateUpdate.lifetime (update : StateUpdate) (definition : CanonicalKey) : Option Int :=
  match update.ttl with
  | some ttl => some ttl
  | none => definition.ttl

/-- The authority of an update comes before its timestamp. -/
def StateUpdate.precedence (update : StateUpdate) : Nat ×ₗ Int :=
  toLex (update.authority.rank, update.timestamp)

theorem SourceAuthority.rank_injective : Function.Injective SourceAuthority.rank := by
  intro first second
  cases first <;> cases second <;> decide

theorem precedence_lt_iff {first second : StateUpdate} :
    first.precedence < second.precedence ↔ first.authority.rank < second.authority.rank ∨
      first.authority = second.authority ∧ first.timestamp < second.timestamp := by
  rw [StateUpdate.precedence, StateUpdate.precedence, Prod.Lex.toLex_lt_toLex]
  exact or_congr_right (and_congr_left' SourceAuthority.rank_injective.eq_iff)

/-- An update without a version, an expected version, or an idempotency key is valid for a key. -/
structure ValidFor (config : PlaneConfig) (ref : String) (definition : CanonicalKey)
    (update : StateUpdate) : Prop where
  entity : update.entityRef = ref
  resolved : config.registry.resolve update.key = some definition
  typed : validateValue definition update.value = true
  unversioned : update.version = 0
  unconditional : update.expectedVersion = none
  unkeyed : update.idempotencyKey = ""

/-- The updates of one key have distinct timestamps that no lifetime separates. -/
structure Deliverable (config : PlaneConfig) (plane : InMemoryStatePlane) (ref : String)
    (definition : CanonicalKey) (updates : List StateUpdate) : Prop where
  registered : ∃ entity, plane.entities.lookup ref = some entity ∧
    entity.entityType ∈ definition.entityTypes
  valid : ∀ update ∈ updates, ValidFor config ref definition update
  distinct : (updates.map StateUpdate.timestamp).Nodup
  close : ∀ first ∈ updates, ∀ second ∈ updates, first.timestamp ≠ second.timestamp →
    ∀ update ∈ updates, ∀ ttl ∈ update.lifetime definition,
      |first.timestamp - second.timestamp| ≤ ttl

/-- Two values differ in nothing but their versions. -/
def SameButVersion (value other : StateValue) : Prop :=
  { value with version := other.version } = other

/-- The plane holds the value of one update, or none before the first one. -/
structure HoldsUpdate (start : InMemoryStatePlane) (ref : String) (definition : CanonicalKey)
    (held : Option StateUpdate) (plane : InMemoryStatePlane) : Prop where
  entities : plane.entities = start.entities
  stored : match held with
    | none => plane.state.lookup (ref, definition.key) = none
    | some update => ∃ value, plane.state.lookup (ref, definition.key) = some value ∧
        SameButVersion (storedValue update definition none) value

section Deliver
variable {config : PlaneConfig} {start : InMemoryStatePlane} {ref : String}
  {definition : CanonicalKey} {updates : List StateUpdate}

/-- The updates differ in their precedence, since they differ in their timestamps. -/
theorem Deliverable.apart (deliverable : Deliverable config start ref definition updates) :
    ∀ first ∈ updates, ∀ second ∈ updates, first.precedence = second.precedence →
      first = second := by
  intro first firstMember second secondMember equal
  have times : first.timestamp = second.timestamp := (Prod.mk.inj (toLex_inj.mp equal)).2
  exact List.inj_on_of_nodup_map deliverable.distinct firstMember secondMember times

/-- A delivered value is fresh at the time of every other update. -/
theorem Deliverable.fresh (deliverable : Deliverable config start ref definition updates)
    {held update : StateUpdate} (heldMember : held ∈ updates) (member : update ∈ updates)
    (apart : held.timestamp ≠ update.timestamp) {value : StateValue}
    (same : SameButVersion (storedValue held definition none) value) :
    value.isFresh update.timestamp none = true := by
  have lifetime : value.ttl = held.lifetime definition := by rw [← same]; rfl
  have time : value.timestamp = held.timestamp := by rw [← same]; rfl
  cases limit : held.lifetime definition with
  | none => simp [StateValue.isFresh, lifetime, limit]
  | some ttl =>
      have near := deliverable.close update member held heldMember apart.symm held heldMember ttl
        limit
      have inside : max 0 (update.timestamp - held.timestamp) ≤ ttl :=
        max_le ((abs_nonneg _).trans near) ((le_abs_self _).trans near)
      simpa [StateValue.isFresh, StateValue.age, lifetime, limit, time] using inside

/-- An update that meets no conflict is stored with the next version. -/
theorem deliver_accepts {plane : InMemoryStatePlane} {update : StateUpdate}
    (deliverable : Deliverable config start ref definition updates) (member : update ∈ updates)
    (entities : plane.entities = start.entities)
    (free : writeConflict "state" (plane.heldState update definition.key) none update.authority
      update.timestamp 0 = .ok none) :
    ∃ result next, publishOne config update plane = .ok result next ∧
      HoldsUpdate start ref definition (some update) next := by
  have valid := deliverable.valid update member
  have admitted : StateAdmitted config plane update definition := by
    refine ⟨?_, ?_, valid.resolved, valid.typed, ?_⟩
    · rw [valid.unkeyed]; rfl
    · rw [entities, valid.entity]; exact deliverable.registered
    · rw [valid.unconditional, valid.unversioned]; exact free
  rw [publishOne_run, judgeState_of_admitted admitted]
  refine ⟨_, _, rfl, ?_, ?_⟩
  · rw [acceptState_entities, entities]
  · refine ⟨storedValue update definition (plane.heldState update definition.key), ?_, rfl⟩
    rw [acceptState_state, ← valid.entity]
    exact lookup_assign_same _ _ _

/-- An update that meets a conflict changes nothing. -/
theorem deliver_rejects {plane : InMemoryStatePlane} {update : StateUpdate} {reason : String}
    (deliverable : Deliverable config start ref definition updates) (member : update ∈ updates)
    (entities : plane.entities = start.entities)
    (conflict : writeConflict "state" (plane.heldState update definition.key) none update.authority
      update.timestamp 0 = .ok (some reason)) :
    ∃ result, publishOne config update plane = .ok result plane := by
  have valid := deliverable.valid update member
  obtain ⟨entity, known, typed⟩ := deliverable.registered
  have unused : plane.duplicate update.idempotencyKey = none := by rw [valid.unkeyed]; rfl
  have found : plane.entities.lookup update.entityRef = some entity := by
    rw [entities, valid.entity]; exact known
  have judged : judgeState config plane update = .ok (.error (rejected update reason true)) := by
    simp [judgeState, unused, found, valid.resolved, typed, valid.typed, valid.unconditional,
      valid.unversioned, conflict, bind, Except.bind, pure, Except.pure]
  rw [publishOne_run, judged]
  exact ⟨_, rfl⟩

/-- A fresh record resists exactly a lower authority and an earlier time. -/
theorem heldConflict_of_fresh {noun : String} {held : Held} {authority : SourceAuthority}
    (fresh : authority.rank < held.authority.rank → held.fresh = .ok true) (timestamp : Int) :
    if authority.rank < held.authority.rank ∨ authority = held.authority ∧ timestamp < held.timestamp
    then ∃ reason, heldConflict noun held authority timestamp 0 = .ok (some reason)
    else heldConflict noun held authority timestamp 0 = .ok none := by
  unfold heldConflict
  by_cases lower : authority.rank < held.authority.rank
  · rw [if_pos (Or.inl lower), if_pos lower, fresh lower]
    exact ⟨"lower-authority source cannot replace fresh " ++ noun, rfl⟩
  · by_cases late : authority = held.authority ∧ timestamp < held.timestamp
    · rw [if_pos (Or.inr late), if_neg lower, if_pos (by simpa using late)]
      exact ⟨"out-of-order " ++ noun ++ " update", rfl⟩
    · rw [if_neg (not_or.mpr ⟨lower, late⟩), if_neg lower, if_neg (by simpa using late)]
      rfl

/-- One delivery moves the stored value to the update that wins. -/
theorem publishOne_delivers (deliverable : Deliverable config start ref definition updates) :
    Delivers StateUpdate.precedence (publishOne config) (· ∈ updates)
      (HoldsUpdate start ref definition) := by
  intro held update heldMember member plane holds
  have valid := deliverable.valid update member
  cases held with
  | none =>
      have empty : plane.heldState update definition.key = none := by
        rw [InMemoryStatePlane.heldState, valid.entity, holds.stored]
        rfl
      exact deliver_accepts deliverable member holds.entities (by rw [empty]; rfl)
  | some earlier =>
      have earlierMember := heldMember earlier rfl
      obtain ⟨value, found, same⟩ := holds.stored
      have record : plane.heldState update definition.key = some (value.held update.timestamp) := by
        rw [InMemoryStatePlane.heldState, valid.entity, found]
        rfl
      have authority : (value.held update.timestamp).authority = earlier.authority := by
        rw [← same]; rfl
      have time : (value.held update.timestamp).timestamp = earlier.timestamp := by
        rw [← same]; rfl
      have judged := @heldConflict_of_fresh "state" (value.held update.timestamp) update.authority
        (fun lower => congrArg Except.ok (deliverable.fresh earlierMember member
          (fun equal => by
            have one := List.inj_on_of_nodup_map deliverable.distinct earlierMember member equal
            rw [authority, one] at lower
            exact absurd lower (lt_irrefl _)) same)) update.timestamp
      simp only [authority, time, ← precedence_lt_iff] at judged
      have asked : writeConflict "state" (plane.heldState update definition.key) none
          update.authority update.timestamp 0 =
          heldConflict "state" (value.held update.timestamp) update.authority update.timestamp 0 := by
        rw [record]; rfl
      by_cases before : update.precedence < earlier.precedence
      · -- A lower precedence meets a conflict and leaves the earlier update.
        rw [if_pos before] at judged
        obtain ⟨reason, conflict⟩ := judged
        obtain ⟨result, ran⟩ := deliver_rejects deliverable member holds.entities
          (asked.trans conflict)
        have kept : keep StateUpdate.precedence (some earlier) update = some earlier :=
          if_neg before.not_gt
        rw [kept]
        exact ⟨result, plane, ran, holds⟩
      · rw [if_neg before] at judged
        have kept : keep StateUpdate.precedence (some earlier) update = some update := by
          rcases (not_lt.mp before).lt_or_eq with after | equal
          · exact if_pos after
          · rw [deliverable.apart earlier earlierMember update member equal]
            exact ite_self _
        rw [kept]
        exact deliver_accepts deliverable member holds.entities (asked.trans judged)

/-- The newest update of the highest authority. -/
def Newest (updates : List StateUpdate) (winner : StateUpdate) : Prop :=
  winner ∈ updates ∧ ∀ update ∈ updates, update.authority.rank < winner.authority.rank ∨
    update.authority = winner.authority ∧ update.timestamp ≤ winner.timestamp

theorem newest_of_wins {winner : StateUpdate}
    (wins : Wins StateUpdate.precedence updates winner) : Newest updates winner := by
  refine ⟨wins.1, fun update member => ?_⟩
  have order := Prod.Lex.toLex_le_toLex.mp (wins.2 update member)
  exact order.imp_right (And.imp_left fun same => SourceAuthority.rank_injective same)

/-- The value of the newest update of the highest authority is stored up to its version by every
order and every batching of the updates. -/
theorem publishState_confluent (deliverable : Deliverable config start ref definition updates)
    (empty : start.state.lookup (ref, definition.key) = none) (nonempty : updates ≠ []) :
    ∃ winner, Newest updates winner ∧
      ∀ batches : List (List StateUpdate), batches.flatten.Perm updates →
        ∃ results next value, batches.mapM (publishState config) start = .ok results next ∧
          next.state.lookup (ref, definition.key) = some value ∧
          SameButVersion (storedValue winner definition none) value := by
  obtain ⟨winner, wins⟩ := exists_wins StateUpdate.precedence nonempty
  refine ⟨winner, newest_of_wins wins, fun batches order => ?_⟩
  obtain ⟨results, next, ran, holds⟩ := returns_winner (publishOne_delivers deliverable)
    deliverable.apart (fun _ member => member) wins order start ⟨rfl, empty⟩
  obtain ⟨value, found, same⟩ := holds.stored
  exact ⟨results, next, value, ran, found, same⟩

end Deliver

/-- Two measurements of the queue depth, a tick apart. -/
def earlyDepth : StateUpdate :=
  { entityRef := "component/component/r0", key := "runtime.queue_depth", value := .int 4,
    producer := "writer", timestamp := 0 }

def lateDepth : StateUpdate :=
  { earlyDepth with value := .int 5, timestamp := 1 }

/-- The plane knows the runtime and no value of its queue. -/
def queuePlane : InMemoryStatePlane := runPlane defaultConfig [.upsertEntity 0 queueEntity] {}

/-- The measurements belong to this definition. -/
def depthDefinition : CanonicalKey :=
  (defaultConfig.registry.resolve "runtime.queue_depth").get (by decide +kernel)

theorem depths_deliverable : Deliverable defaultConfig queuePlane "component/component/r0"
    depthDefinition [earlyDepth, lateDepth] where
  registered := ⟨queueEntity, by decide +kernel, by decide +kernel⟩
  valid := by
    intro update member
    have resolved : defaultConfig.registry.resolve "runtime.queue_depth" = some depthDefinition :=
      (Option.some_get _).symm
    simp only [List.mem_cons, List.not_mem_nil, or_false] at member
    rcases member with rfl | rfl
    · exact ⟨rfl, resolved, by decide +kernel, rfl, rfl, rfl⟩
    · exact ⟨rfl, resolved, by decide +kernel, rfl, rfl, rfl⟩
  distinct := by decide
  close := by decide +kernel

/-- Both orders of the measurements end with the late one. -/
theorem depths_confluent : ∃ winner, Newest [earlyDepth, lateDepth] winner ∧
    ∀ batches : List (List StateUpdate), batches.flatten.Perm [earlyDepth, lateDepth] →
      ∃ results next value,
        batches.mapM (publishState defaultConfig) queuePlane = .ok results next ∧
        next.state.lookup ("component/component/r0", depthDefinition.key) = some value ∧
        SameButVersion (storedValue winner depthDefinition none) value :=
  publishState_confluent depths_deliverable (by decide +kernel) (by decide)

/-- The version of the stored value that a delivery ends with. -/
def deliveredVersion (batches : List (List StateUpdate)) : Option Int :=
  ((finalState (batches.mapM (publishState defaultConfig) queuePlane)).state.lookup
    ("component/component/r0", depthDefinition.key)).map StateValue.version

/-- The two orders of the measurements end with different versions of the late one. -/
theorem depths_versions_differ :
    Deliverable defaultConfig queuePlane "component/component/r0" depthDefinition
      [earlyDepth, lateDepth] ∧
    deliveredVersion [[earlyDepth, lateDepth]] = some 2 ∧
    deliveredVersion [[lateDepth, earlyDepth]] = some 1 :=
  ⟨depths_deliverable, by decide +kernel, by decide +kernel⟩

end StateFlow.Plane
