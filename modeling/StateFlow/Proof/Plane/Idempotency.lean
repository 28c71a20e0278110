import StateFlow.Proof.Plane.Changes

namespace StateFlow.Plane
open Python Table Effect

section Answers
variable {config : PlaneConfig} {plane : InMemoryStatePlane}

theorem duplicate_isSome {key : String} (named : key ≠ "") :
    (plane.duplicate key).isSome = (plane.idempotency.lookup key).isSome := by
  simp [InMemoryStatePlane.duplicate, named]

/-- A repeated key is answered as a duplicate. -/
theorem duplicate_marked {key : String} {result : WriteResult}
    (found : plane.duplicate key = some result) :
    result.duplicate = true ∧ result.accepted = false := by
  refine ⟨?_, duplicate_accepted found⟩
  unfold InMemoryStatePlane.duplicate at found
  split at found
  · cases found
  · cases seen : plane.idempotency.lookup key <;> rw [seen] at found <;> cases found
    rfl

theorem judgeState_of_seen {update : StateUpdate} {result : WriteResult}
    (seen : plane.duplicate update.idempotencyKey = some result) :
    judgeState config plane update = .ok (.error result) := by
  simp [judgeState, seen, pure, Except.pure]

theorem judgeState_unmarked {update : StateUpdate} {result : WriteResult}
    (unused : plane.duplicate update.idempotencyKey = none)
    (judged : judgeState config plane update = .ok (.error result)) : result.duplicate = false := by
  simp only [judgeState, unused, bind, Except.bind, pure, Except.pure] at judged
  split at judged
  · cases judged; rfl
  · split at judged
    · cases judged; rfl
    · split at judged
      · cases judged; rfl
      · split at judged
        · cases judged; rfl
        · split at judged
          · cases judged
          · split at judged <;> cases judged; rfl

theorem judgeRelation_of_seen {update : RelationUpdate} {result : WriteResult}
    (seen : plane.duplicate update.idempotencyKey = some result) :
    judgeRelation plane update = .ok (.error result) := by
  simp [judgeRelation, seen, pure, Except.pure]

theorem judgeRelation_unmarked {update : RelationUpdate} {result : WriteResult}
    (unused : plane.duplicate update.idempotencyKey = none)
    (judged : judgeRelation plane update = .ok (.error result)) : result.duplicate = false := by
  simp only [judgeRelation, unused, bind, Except.bind, pure, Except.pure] at judged
  split at judged
  · split at judged
    · cases judged; rfl
    · split at judged
      · cases judged
      · split at judged <;> cases judged; rfl
  · cases judged; rfl

theorem remember_idempotency (key : String) (result : WriteResult) :
    (plane.remember key result).idempotency =
      if key = "" then plane.idempotency else assign key result plane.idempotency := by
  unfold InMemoryStatePlane.remember
  split <;> rfl

/-- A step remembers the key of an accepted write and of no other one. -/
def Remembers (step : Step) (key : String) : Prop :=
  (step.after.idempotency.lookup key).isSome =
    ((step.before.idempotency.lookup key).isSome ||
      (step.accepted && decide (step.call.idempotencyKey = key)))

/-- A step that carries a remembered key answers so and is not accepted. -/
structure Recalls (step : Step) (key : String) : Prop where
  remembers : Remembers step key
  duplicate : step.call.idempotencyKey = key →
    step.duplicate = (step.before.idempotency.lookup key).isSome
  unaccepted : step.call.idempotencyKey = key →
    (step.before.idempotency.lookup key).isSome = true → step.accepted = false

/-- A write that an earlier one answers stores nothing. -/
theorem recalls_of_rejected {call : Call} {result : WriteResult} {key : String}
    (unaccepted : result.accepted = false)
    (marked : call.idempotencyKey = key →
      result.duplicate = (plane.idempotency.lookup key).isSome) :
    Recalls ⟨call, .ok (some result), plane, plane⟩ key := by
  constructor
  · simp [Remembers, Step.accepted, unaccepted]
  · intro carried
    simp [Step.duplicate, unaccepted, marked carried]
  · exact fun _ _ => unaccepted

/-- An accepted write enters its own key only. -/
theorem recalls_of_accepted {call : Call} {result : WriteResult} {next : InMemoryStatePlane}
    {key : String} (named : key ≠ "") (accepted : result.accepted = true)
    (unused : plane.duplicate call.idempotencyKey = none)
    (stored : next.idempotency = if call.idempotencyKey = "" then plane.idempotency
      else assign call.idempotencyKey result plane.idempotency) :
    Recalls ⟨call, .ok (some result), plane, next⟩ key := by
  have absent (carried : call.idempotencyKey = key) :
      (plane.idempotency.lookup key).isSome = false := by
    rw [← duplicate_isSome named, ← carried, unused]
    rfl
  constructor
  · by_cases carried : call.idempotencyKey = key
    · simp [Remembers, Step.accepted, accepted, stored, carried, named]
    · by_cases blank : call.idempotencyKey = ""
      · simp [Remembers, Step.accepted, accepted, stored, blank, Ne.symm named]
      · simp [Remembers, Step.accepted, accepted, stored, blank, carried,
          lookup_assign_other (Ne.symm carried)]
  · intro carried
    simp [Step.duplicate, accepted, absent carried]
  · intro carried seen
    exact absurd ((absent carried).symm.trans seen) (by decide)

/-- A raising write stores nothing and carries an unused key. -/
theorem recalls_of_raised {call : Call} {exception : Exception} {key : String} (named : key ≠ "")
    (unused : plane.duplicate call.idempotencyKey = none) :
    Recalls ⟨call, .error exception, plane, plane⟩ key := by
  constructor
  · simp [Remembers, Step.accepted]
  · intro carried
    rw [← duplicate_isSome named, ← carried, unused]
    rfl
  · exact fun _ _ => rfl

/-- The mark of a rejected write tells whether its key was remembered. -/
theorem marks_of_cases {key carried : String} {result : WriteResult} (named : key ≠ "")
    (same : carried = key)
    (seen : ∀ previous, plane.duplicate carried = some previous → result = previous)
    (unseen : plane.duplicate carried = none → result.duplicate = false) :
    result.duplicate = (plane.idempotency.lookup key).isSome := by
  subst same
  rw [← duplicate_isSome named]
  cases found : plane.duplicate carried with
  | none => exact unseen found
  | some previous =>
      rw [seen previous found]
      exact (duplicate_marked found).1

theorem publishState_recalls (update : StateUpdate) {key : String} (named : key ≠ "") :
    Recalls ((Call.publishState update).step config plane) key := by
  have ran := run_answered (publishOne config update) plane
  rw [publishOne_run] at ran
  rcases judged : judgeState config plane update with exception | (result | value)
  all_goals rw [judged] at ran
  · rw [step_of_error (.publishState update) ran]
    apply recalls_of_raised named
    cases seen : plane.duplicate update.idempotencyKey with
    | none => exact seen
    | some previous => cases (judgeState_of_seen seen).symm.trans judged
  · rw [step_of_ok (.publishState update) ran]
    apply recalls_of_rejected (judgeState_rejects judged)
    intro carried
    apply marks_of_cases named carried
    · intro previous seen
      cases (judgeState_of_seen seen).symm.trans judged
      rfl
    · exact fun unused => judgeState_unmarked unused judged
  · obtain ⟨definition, admitted, _⟩ := judgeState_accepts judged
    rw [step_of_ok (.publishState update) ran]
    exact recalls_of_accepted named rfl admitted.unused (remember_idempotency _ _)

theorem upsertRelation_recalls (update : RelationUpdate) {key : String} (named : key ≠ "") :
    Recalls ((Call.upsertRelation update).step config plane) key := by
  have ran := run_answered (upsertRelation config update) plane
  rw [upsertRelation_run] at ran
  have unused_of_other {verdict : Except Exception (Except WriteResult GraphRelation)}
      (judged : judgeRelation plane update = verdict)
      (other : ∀ result, verdict ≠ .ok (.error result)) :
      plane.duplicate update.idempotencyKey = none := by
    cases seen : plane.duplicate update.idempotencyKey with
    | none => rfl
    | some previous => exact absurd (judged.symm.trans (judgeRelation_of_seen seen)) (other _)
  rcases judged : judgeRelation plane update with exception | (result | relation)
  all_goals rw [judged] at ran
  · rw [step_of_error (.upsertRelation update) ran]
    exact recalls_of_raised named (unused_of_other judged fun _ same => by cases same)
  · rw [step_of_ok (.upsertRelation update) ran]
    apply recalls_of_rejected (judgeRelation_rejects judged)
    intro carried
    apply marks_of_cases named carried
    · intro previous seen
      cases (judgeRelation_of_seen seen).symm.trans judged
      rfl
    · exact fun unused => judgeRelation_unmarked unused judged
  · rw [step_of_ok (.upsertRelation update) ran]
    exact recalls_of_accepted named rfl (unused_of_other judged fun _ same => by cases same)
      (remember_idempotency _ _)

/-- A call without a key keeps the remembered keys. -/
theorem recalls_of_same {step : Step} {key : String} (named : key ≠ "")
    (blank : step.call.idempotencyKey = "")
    (same : step.after.idempotency = step.before.idempotency) : Recalls step key := by
  have other : step.call.idempotencyKey ≠ key := fun carried => named (carried.symm.trans blank)
  constructor
  · simp [Remembers, same, other]
  · exact fun carried => absurd carried other
  · exact fun carried => absurd carried other

/-- A call that never counts keeps the remembered keys. -/
theorem recalls_of_idle {call : Call} {key : String} (named : key ≠ "")
    (blank : call.idempotencyKey = "")
    (idle : ∀ step : Step, step.call = call → step.contributes = false) :
    Recalls (call.step config plane) key := by
  have same := congrArg Core.idempotency
    ((@step_accounts config plane call).none (idle _ (step_call plane call)))
  exact recalls_of_same named (by rw [step_call]; exact blank) same

theorem step_recalls (plane : InMemoryStatePlane) (call : Call) {key : String}
    (named : key ≠ "") : Recalls (call.step config plane) key := by
  cases call with
  | publishState update => exact publishState_recalls update named
  | upsertRelation update => exact upsertRelation_recalls update named
  | upsertEntity now entity =>
      have kept : (finalState (upsertEntity config now entity plane)).idempotency =
          plane.idempotency := by
        rw [upsertEntity_run]
        repeat' split
        all_goals rfl
      apply recalls_of_same named (by rw [step_call]; rfl)
      rw [step_after, step_before, ← kept]
      exact congrArg _ (finalState_done _ _ plane)
  | publishEvent event =>
      apply recalls_of_same named (by rw [step_call]; rfl)
      rw [step_after, step_before]
      refine (congrArg _ (finalState_then _ _ plane)).trans ?_
      rcases publishEvent_cases config event plane with ⟨result, ran, _⟩ | ⟨result, ran, _⟩
      all_goals
        rw [ran]
        rfl
  | registerComponent descriptor =>
      exact recalls_of_idle named rfl fun step same => by rw [Step.contributes, same]
  | heartbeat beat => exact recalls_of_idle named rfl fun step same => by rw [Step.contributes, same]
  | publishMetric sample =>
      exact recalls_of_idle named rfl fun step same => by rw [Step.contributes, same]
  | getSnapshot now unique request =>
      exact recalls_of_idle named rfl fun step same => by rw [Step.contributes, same]

end Answers

/-- A step carries a key and its write is accepted. -/
def Step.accepts (step : Step) (key : String) : Bool :=
  step.accepted && decide (step.call.idempotencyKey = key)

/-- A plane remembers the keys of the accepted writes before it. -/
theorem chained_remembers {config : PlaneConfig} {first last : InMemoryStatePlane}
    {steps : List Step} {key : String} (named : key ≠ "")
    (chained : Chained config first steps last) :
    (last.idempotency.lookup key).isSome =
      ((first.idempotency.lookup key).isSome || steps.any fun step => step.accepts key) := by
  induction chained with
  | nil plane => simp
  | @cons plane last rest call chain ih =>
      have here : Remembers (call.step config plane) key := (step_recalls plane call named).remembers
      rw [Remembers, step_before] at here
      rw [ih, here, List.any_cons, Bool.or_assoc]
      rfl

/-- A chain accepts an unused key at most once and a remembered key never. -/
theorem chained_accepts {config : PlaneConfig} {first last : InMemoryStatePlane}
    {steps : List Step} {key : String} (named : key ≠ "")
    (chained : Chained config first steps last) :
    steps.countP (fun step => step.accepts key) ≤
      if (first.idempotency.lookup key).isSome then 0 else 1 := by
  induction chained with
  | nil plane => simp
  | @cons plane last rest call chain ih =>
      have recalls : Recalls (call.step config plane) key := step_recalls plane call named
      have remembered := recalls.remembers
      rw [Remembers, step_before] at remembered
      rw [List.countP_cons]
      cases accepted : (call.step config plane).accepts key with
      | false =>
          have same : ((call.step config plane).after.idempotency.lookup key).isSome =
              (plane.idempotency.lookup key).isSome := by
            rw [remembered]
            change (_ || Step.accepts _ key) = _
            rw [accepted, Bool.or_false]
          rw [same] at ih
          simpa using ih
      | true =>
          have carried := (Bool.and_eq_true_iff.mp accepted)
          have unused : (plane.idempotency.lookup key).isSome = false := by
            cases seen : (plane.idempotency.lookup key).isSome with
            | false => rfl
            | true =>
                have refused := recalls.unaccepted (of_decide_eq_true carried.2)
                rw [step_before] at refused
                exact absurd (carried.1.symm.trans (refused seen)) (by decide)
          have used : ((call.step config plane).after.idempotency.lookup key).isSome = true := by
            rw [remembered]
            change (_ || Step.accepts _ key) = _
            rw [accepted, Bool.or_true]
          rw [used, if_pos rfl] at ih
          rw [unused]
          simpa using ih

/-- At most one write with a key is accepted. It answers every later write with that key, and a
write that is not accepted leaves the plane and its key alone. -/
theorem idempotency_exact (config : PlaneConfig) (operations : List Operation) (key : String)
    (named : key ≠ "") :
    (runSteps config operations {}).countP (fun step => step.accepts key) ≤ 1 ∧
    ∀ early step late, runSteps config operations {} = early ++ step :: late →
      step.call.idempotencyKey = key →
      ((∃ earlier ∈ early, earlier.accepts key = true) →
        step.accepted = false ∧ step.duplicate = true) ∧
      ((¬ ∃ earlier ∈ early, earlier.accepts key = true) → step.duplicate = false) ∧
      (step.accepted = false → step.after = step.before) := by
  have chained := @runSteps_chained config operations {}
  constructor
  · exact chained_accepts named chained
  intro early step late joined carried
  rw [joined] at chained
  obtain ⟨middle, call, before, same, _⟩ := chained.split
  have recalls : Recalls step key := same ▸ step_recalls middle call named
  have seen : (step.before.idempotency.lookup key).isSome = early.any fun step => step.accepts key := by
    rw [same, step_before]
    exact chained_remembers named before
  refine ⟨?_, ?_, ?_⟩
  · intro earlier
    have used := seen.trans (List.any_eq_true.mpr earlier)
    exact ⟨recalls.unaccepted carried used, (recalls.duplicate carried).trans used⟩
  · intro unused
    rw [recalls.duplicate carried, seen]
    exact Bool.eq_false_iff.mpr fun found => unused (List.any_eq_true.mp found)
  · intro unaccepted
    have account : Accounts config step := same ▸ step_accounts middle call
    have write : step.call.isWrite = true := by
      cases kind : step.call with
      | publishState _ | upsertRelation _ | publishMetric _ | publishEvent _ => rfl
      | registerComponent _ | upsertEntity _ _ | heartbeat _ | getSnapshot _ _ _ =>
          rw [kind] at carried
          exact absurd carried.symm named
    exact account.rejected write unaccepted

/-- A queue depth is written twice with one key. -/
def repeatedWrite : StateUpdate where
  entityRef := "component/component/r0"
  key := "runtime.queue_depth"
  value := .int 1
  producer := "p"
  timestamp := 0
  idempotencyKey := "k"

/-- The owner of a queue is registered, and its depth comes twice with one key. -/
def repeatedRun : List Operation :=
  [.upsertEntity 0 queueEntity, .publishState [repeatedWrite, repeatedWrite]]

/-- The first of the two writes is accepted, and the second one is answered as a duplicate. -/
theorem idempotency_exact_of_repeated :
    (runSteps defaultConfig repeatedRun {}).countP (fun step => step.accepts "k") = 1 ∧
    ∃ early step late, runSteps defaultConfig repeatedRun {} = early ++ step :: late ∧
      step.accepted = false ∧ step.duplicate = true ∧ step.after = step.before := by
  have counted : (runSteps defaultConfig repeatedRun {}).countP
      (fun step => step.accepts "k") = 1 := by decide +kernel
  obtain ⟨_, answered⟩ := idempotency_exact defaultConfig repeatedRun "k" (by decide)
  refine ⟨counted, ?_⟩
  have three : (runSteps defaultConfig repeatedRun {}).length = 3 := by decide +kernel
  obtain ⟨first, second, third, ran⟩ := List.length_eq_three.mp three
  have carried : third.call.idempotencyKey = "k" := by
    have last : ((runSteps defaultConfig repeatedRun {})[2]?.map fun step =>
        step.call.idempotencyKey) = some "k" := by decide +kernel
    rw [ran] at last
    exact Option.some.inj last
  have earlier : second.accepts "k" = true := by
    have write : ((runSteps defaultConfig repeatedRun {})[1]?.map fun step =>
        step.accepts "k") = some true := by decide +kernel
    rw [ran] at write
    exact Option.some.inj write
  obtain ⟨repeated, _, kept⟩ := answered [first, second] third [] (by rw [ran]; rfl) carried
  obtain ⟨refused, duplicate⟩ := repeated ⟨second, by simp, earlier⟩
  exact ⟨[first, second], third, [], by rw [ran]; rfl, refused, duplicate, kept refused⟩

end StateFlow.Plane
