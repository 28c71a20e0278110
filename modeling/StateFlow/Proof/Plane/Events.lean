import StateFlow.Proof.Plane.Changes

namespace StateFlow.Plane
open Python Table Effect

/-- The event that a step stores. -/
def Step.storedEvent (step : Step) : Option String :=
  match step.call with
  | .publishEvent event => if step.accepted then some event.eventId else none
  | _ => none

/-- The accepted events of some steps in their order. -/
def acceptedIds (steps : List Step) : List String := steps.filterMap Step.storedEvent

/-- Every submission of an accepted event is answered as a duplicate and changes nothing. -/
def AnswersRepeats (steps : List Step) : Prop :=
  ∀ early step late event, steps = early ++ step :: late → step.call = .publishEvent event →
    event.eventId ∈ acceptedIds early →
    step.accepted = false ∧ step.duplicate = true ∧ step.after = step.before

/-- Every submission of an accepted event comes before its eviction. -/
def RepeatsInTime (limit : Nat) (steps : List Step) : Prop :=
  ∀ early step late event, steps = early ++ step :: late → step.call = .publishEvent event →
    event.eventId ∈ acceptedIds early → event.eventId ∈ latest limit (acceptedIds early)

section Events
variable {config : PlaneConfig} {plane : InMemoryStatePlane}

theorem publishEvent_run (config : PlaneConfig) (event : StateEvent) (plane : InMemoryStatePlane) :
    publishEvent config event plane =
      if (plane.events.lookup event.eventId).isSome then
        .ok (unaccepted event.subjectRef event.eventType "duplicate event_id" true) plane
      else if (plane.entities.lookup event.subjectRef).isNone then
        .ok (unaccepted event.subjectRef event.eventType "subject entity is not registered" false)
          plane
      else .ok { accepted := true, entityRef := event.subjectRef, key := event.eventType,
                 version := (acceptEvent config plane event).revision, reason := "accepted" }
        (acceptEvent config plane event) := by
  unfold publishEvent
  rw [get_bind]
  split
  · rfl
  · split <;> rfl

theorem remember_events (key : String) (result : WriteResult) :
    (plane.remember key result).events = plane.events := by
  unfold InMemoryStatePlane.remember
  split <;> rfl

/-- Only an event changes the stored events. -/
theorem step_events_of_other (call : Call) (other : ∀ event, call ≠ .publishEvent event) :
    (call.step config plane).after.events = plane.events := by
  rw [step_after]
  cases call with
  | publishEvent event => exact absurd rfl (other event)
  | registerComponent descriptor =>
      refine (congrArg _ (finalState_done _ _ plane)).trans ?_
      rw [registerComponent_run]
      repeat' split
      all_goals rfl
  | upsertEntity now entity =>
      refine (congrArg _ (finalState_done _ _ plane)).trans ?_
      rw [upsertEntity_run]
      repeat' split
      all_goals rfl
  | heartbeat beat =>
      refine (congrArg _ (finalState_done _ _ plane)).trans ?_
      rw [heartbeat_run]
      split <;> rfl
  | publishState update =>
      refine (congrArg _ (finalState_then _ _ plane)).trans ?_
      rw [publishOne_run]
      repeat' split
      · rfl
      · rfl
      · exact remember_events _ _
  | upsertRelation update =>
      refine (congrArg _ (finalState_then _ _ plane)).trans ?_
      rw [upsertRelation_run]
      repeat' split
      · rfl
      · rfl
      · exact remember_events _ _
  | publishMetric sample =>
      refine (congrArg _ (finalState_then _ _ plane)).trans ?_
      rcases publishMetric_cases config sample plane with ⟨_, ran, _⟩ | ⟨_, _, _, ran, _⟩
      all_goals
        rw [ran]
        rfl
  | getSnapshot now unique request =>
      refine (congrArg _ (finalState_done _ _ plane)).trans ?_
      rw [getSnapshot_run]
      split <;> rfl

/-- A step stores the event that it accepted. -/
theorem storedEvent_cases (step : Step) : step.storedEvent = none ∨
    ∃ event, step.call = .publishEvent event ∧ step.accepted = true ∧
      step.storedEvent = some event.eventId := by
  unfold Step.storedEvent
  split
  · rename_i event called
    by_cases accepted : step.accepted
    · exact .inr ⟨event, called, accepted, if_pos accepted⟩
    · exact .inl (if_neg accepted)
  · exact .inl rfl

/-- The stored events of a plane. -/
def InMemoryStatePlane.eventIds (plane : InMemoryStatePlane) : List String :=
  plane.events.map Prod.fst

theorem map_latest {A B : Type} (convert : A → B) (limit : Nat) (items : List A) :
    (latest limit items).map convert = latest limit (items.map convert) := by
  unfold latest
  rw [List.map_drop, List.length_map]

/-- The three answers to a submission. -/
theorem event_cases (event : StateEvent) :
    (event.eventId ∈ plane.eventIds ∧
      (Call.publishEvent event).step config plane = ⟨.publishEvent event, .ok (some
        (unaccepted event.subjectRef event.eventType "duplicate event_id" true)), plane, plane⟩) ∨
    (event.eventId ∉ plane.eventIds ∧
      (Call.publishEvent event).step config plane = ⟨.publishEvent event, .ok (some
        (unaccepted event.subjectRef event.eventType "subject entity is not registered" false)),
        plane, plane⟩) ∨
    (event.eventId ∉ plane.eventIds ∧
      (Call.publishEvent event).step config plane = ⟨.publishEvent event, .ok (some
        { accepted := true, entityRef := event.subjectRef, key := event.eventType,
          version := (acceptEvent config plane event).revision, reason := "accepted" }),
        plane, acceptEvent config plane event⟩) := by
  have ran := run_answered (publishEvent config event) plane
  have known := @lookup_isSome_iff _ _ _ _ _ event.eventId plane.events
  rw [publishEvent_run] at ran
  by_cases stored : event.eventId ∈ plane.eventIds
  · rw [if_pos (known.mpr stored)] at ran
    exact .inl ⟨stored, step_of_ok (.publishEvent event) ran⟩
  · rw [if_neg (mt known.mp stored)] at ran
    by_cases absent : (plane.entities.lookup event.subjectRef).isNone
    · rw [if_pos absent] at ran
      exact .inr (.inl ⟨stored, step_of_ok (.publishEvent event) ran⟩)
    · rw [if_neg absent] at ran
      exact .inr (.inr ⟨stored, step_of_ok (.publishEvent event) ran⟩)

/-- A submission is a duplicate of a stored event. -/
theorem event_duplicate_iff (event : StateEvent) :
    ((Call.publishEvent event).step config plane).duplicate = true ↔
      event.eventId ∈ plane.eventIds := by
  rcases @event_cases config plane event with ⟨stored, same⟩ | ⟨stored, same⟩ | ⟨stored, same⟩
  all_goals
    rw [same]
    simp [Step.duplicate, unaccepted, stored]

/-- A stored event is not accepted again. -/
theorem event_accepted_absent {event : StateEvent}
    (accepted : ((Call.publishEvent event).step config plane).accepted = true) :
    event.eventId ∉ plane.eventIds := by
  rcases @event_cases config plane event with ⟨stored, same⟩ | ⟨stored, same⟩ | ⟨stored, same⟩
  · rw [same] at accepted
    cases accepted
  · exact stored
  · exact stored

/-- A step appends its accepted event to the bounded log. -/
theorem step_eventIds (call : Call)
    (fits : latest (max 1 config.maxEvents) plane.eventIds = plane.eventIds) :
    (call.step config plane).after.eventIds = latest (max 1 config.maxEvents)
      (plane.eventIds ++ acceptedIds [call.step config plane]) := by
  by_cases published : ∃ event, call = .publishEvent event
  · obtain ⟨event, rfl⟩ := published
    rcases @event_cases config plane event with ⟨_, same⟩ | ⟨_, same⟩ | ⟨absent, same⟩
    · rw [same]
      simp [acceptedIds, Step.storedEvent, Step.accepted, unaccepted, fits]
    · rw [same]
      simp [acceptedIds, Step.storedEvent, Step.accepted, unaccepted, fits]
    · have none : plane.events.lookup event.eventId = none :=
        Option.not_isSome_iff_eq_none.mp (mt lookup_isSome_iff.mp absent)
      rw [same]
      simp only [acceptedIds, Step.storedEvent, Step.accepted, if_true, List.filterMap_cons,
        List.filterMap_nil]
      unfold InMemoryStatePlane.eventIds acceptEvent recordChange
      rw [assign_of_absent none, map_latest]
      simp
  · have other : ∀ event, call ≠ .publishEvent event := fun event same => published ⟨event, same⟩
    have quiet : acceptedIds [call.step config plane] = [] := by
      unfold acceptedIds
      have none : (call.step config plane).storedEvent = none := by
        unfold Step.storedEvent
        rw [step_call]
        cases call with
        | publishEvent event => exact absurd rfl (other event)
        | _ => rfl
      simp [none]
    unfold InMemoryStatePlane.eventIds at fits ⊢
    rw [quiet, List.append_nil, step_events_of_other call other, fits]

/-- The stored events are the last accepted ones. -/
theorem chained_eventIds {first last : InMemoryStatePlane} {steps : List Step}
    (chained : Chained config first steps last)
    (fits : latest (max 1 config.maxEvents) first.eventIds = first.eventIds) :
    last.eventIds = latest (max 1 config.maxEvents) (first.eventIds ++ acceptedIds steps) := by
  induction chained with
  | nil plane => simp [acceptedIds, fits]
  | @cons plane last rest call chain ih =>
      have here := step_eventIds call fits
      have parts : acceptedIds (call.step config plane :: rest) =
          acceptedIds [call.step config plane] ++ acceptedIds rest := by
        simp only [acceptedIds, ← List.filterMap_append, List.singleton_append]
      rw [ih (by rw [here]; simpa using latest_append _ (plane.eventIds ++ _) []), here,
        latest_append, List.append_assoc, parts]

/-- The accepted events of a run are distinct when each of its repeats is rejected. -/
theorem acceptedIds_nodup {steps : List Step} (answers : AnswersRepeats steps) :
    (acceptedIds steps).Nodup := by
  induction steps using List.reverseRecOn with
  | nil => exact List.nodup_nil
  | append_singleton early step ih =>
      have before : (acceptedIds early).Nodup := by
        apply ih
        intro front item back event joined
        exact answers front item (back ++ [step]) event (by rw [joined]; simp)
      have parts : acceptedIds (early ++ [step]) = acceptedIds early ++ acceptedIds [step] :=
        List.filterMap_append
      rw [parts]
      rcases storedEvent_cases step with stored | ⟨event, called, accepted, stored⟩
      · simpa [acceptedIds, stored] using before
      · have fresh : event.eventId ∉ acceptedIds early := by
          intro repeated
          have rejected := (answers early step [] event rfl called repeated).1
          exact absurd (accepted.symm.trans rejected) (by decide)
        have last : acceptedIds [step] = [event.eventId] := by simp [acceptedIds, stored]
        rw [last]
        exact List.nodup_append.mpr ⟨before, List.nodup_singleton _, by
          intro id inside other same
          rw [List.mem_singleton.mp same]
          exact fun equal => fresh (equal ▸ inside)⟩

/-- The plane before a step of a run holds the last accepted events. -/
theorem eventIds_before {operations : List Operation} {early late : List Step} {step : Step}
    (joined : runSteps config operations {} = early ++ step :: late) :
    ∃ (middle : InMemoryStatePlane) (call : Call), step = call.step config middle ∧
      middle.eventIds = latest (max 1 config.maxEvents) (acceptedIds early) := by
  have chained := @runSteps_chained config operations {}
  rw [joined] at chained
  obtain ⟨middle, call, before, same, _⟩ := chained.split
  exact ⟨middle, call, same, chained_eventIds before List.drop_nil⟩

/-- Each event is accepted once and each repeat is answered as a duplicate, exactly when each
repeat of an accepted event comes while the event is stored. -/
theorem events_once_iff (config : PlaneConfig) (operations : List Operation) :
    ((acceptedIds (runSteps config operations {})).Nodup ∧
        AnswersRepeats (runSteps config operations {})) ↔
      RepeatsInTime (max 1 config.maxEvents) (runSteps config operations {}) := by
  constructor
  · rintro ⟨-, answers⟩ early step late event joined called repeated
    obtain ⟨middle, call, same, held⟩ := eventIds_before joined
    have duplicate := (answers early step late event joined called repeated).2.1
    rw [same, step_call] at called
    rw [same, called] at duplicate
    exact held ▸ event_duplicate_iff event |>.mp duplicate
  · intro timely
    have answers : AnswersRepeats (runSteps config operations {}) := by
      intro early step late event joined called repeated
      obtain ⟨middle, call, same, held⟩ := eventIds_before joined
      have stored := timely early step late event joined called repeated
      rw [← held] at stored
      rw [same, step_call] at called
      have duplicate := (@event_duplicate_iff config middle event).mpr stored
      have rejected : ((Call.publishEvent event).step config middle).accepted = false :=
        Bool.eq_false_iff.mpr (mt event_accepted_absent (not_not.mpr stored))
      rw [same, called]
      exact ⟨rejected, duplicate, by
        rw [(step_accounts middle (.publishEvent event)).rejected (by rw [step_call]; rfl) rejected]⟩
    exact ⟨acceptedIds_nodup answers, answers⟩

end Events

/-- A plane that stores one event. -/
def oneEvent : PlaneConfig := { defaultConfig with maxEvents := 1 }

/-- An event about a queue. -/
def queueEvent (eventId : String) : StateEvent where
  eventId := eventId
  eventType := "restart"
  subjectRef := "component/component/r0"
  producer := "p"
  timestamp := 0

/-- Two events and the first one again. -/
def repeatedEvents : List Operation :=
  [.upsertEntity 0 queueEntity,
    .publishEvents [queueEvent "e0", queueEvent "e1", queueEvent "e0"]]

/-- An evicted event is accepted again. -/
theorem events_not_once :
    ¬ ((acceptedIds (runSteps oneEvent repeatedEvents {})).Nodup ∧
      AnswersRepeats (runSteps oneEvent repeatedEvents {})) := by
  have accepted : acceptedIds (runSteps oneEvent repeatedEvents {}) = ["e0", "e1", "e0"] := by
    decide +kernel
  rw [accepted]
  exact fun once => absurd once.1 (by decide)

end StateFlow.Plane
