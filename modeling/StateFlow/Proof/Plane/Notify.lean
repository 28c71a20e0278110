import StateFlow.Construction.Plane.Notify
import StateFlow.Proof.Plane.Events

namespace StateFlow.Plane
open Python Table Effect Fanout

section Notes
variable {config : PlaneConfig}

/-- The changes of a call take the next cursors and enter the log in their order. -/
structure Notes (config : PlaneConfig) (before : InMemoryStatePlane) (changes : List StateChange)
    (after : InMemoryStatePlane) : Prop where
  revision : after.revision = before.revision + changes.length
  cursors : changes.map StateChange.cursor = List.range' (before.revision + 1) changes.length
  kept : latest config.maxChanges after.changes =
    latest config.maxChanges (before.changes ++ changes)

theorem Notes.nil (plane : InMemoryStatePlane) : Notes config plane [] plane :=
  ⟨rfl, rfl, by rw [List.append_nil]⟩

theorem Notes.append {first middle last : InMemoryStatePlane} {early late : List StateChange}
    (before : Notes config first early middle) (after : Notes config middle late last) :
    Notes config first (early ++ late) last := by
  constructor
  · rw [after.revision, before.revision, List.length_append, Nat.add_assoc]
  · rw [List.map_append, before.cursors, after.cursors, before.revision, List.length_append,
      ← List.range'_append_1]
    congr 2
    omega
  · rw [after.kept, ← latest_append, before.kept, latest_append, List.append_assoc]

/-- A recorded change takes the next cursor. -/
theorem Notes.of_counts {before after : InMemoryStatePlane} {change : StateChange}
    (cursor : change.cursor = before.revision + 1)
    (counts : after.revision = before.revision + 1 ∧
      after.changes = latest config.maxChanges (before.changes ++ [change])) :
    Notes config before [change] after := by
  refine ⟨counts.1, by rw [List.map_singleton, cursor]; rfl, ?_⟩
  rw [counts.2]
  simpa using latest_append config.maxChanges (before.changes ++ [change]) []

/-- An update returns the change that it records, or it changes nothing. -/
def NotesOne (config : PlaneConfig) (single : PlaneAction (WriteResult × Option StateChange)) :
    Prop :=
  ∀ plane, (∃ result change next, single plane = .ok (result, some change) next ∧
      Notes config plane [change] next) ∨
    (∃ result, single plane = .ok (result, none) plane) ∨
    ∃ exception, single plane = .error exception plane

theorem notePublish_run (config : PlaneConfig) (update : StateUpdate)
    (plane : InMemoryStatePlane) :
    notePublish config update plane = match judgeState config plane update with
      | .error exception => .error exception plane
      | .ok (.error result) => .ok (result, none) plane
      | .ok (.ok value) => .ok (acceptedState value, some (nextChange plane "state"
          value.entityRef value.key value.version value.timestamp))
            (acceptState config plane update value) := by
  unfold notePublish
  rw [get_bind, lift_bind]
  rcases judgeState config plane update with exception | (result | value) <;> rfl

theorem noteRelation_run (config : PlaneConfig) (update : RelationUpdate)
    (plane : InMemoryStatePlane) :
    noteRelation config update plane = match judgeRelation plane update with
      | .error exception => .error exception plane
      | .ok (.error result) => .ok (result, none) plane
      | .ok (.ok relation) => .ok (acceptedRelation relation, some (nextChange plane "relation"
          update.sourceRef update.relationType relation.version relation.timestamp))
            (acceptRelation config plane update relation) := by
  unfold noteRelation
  rw [get_bind, lift_bind]
  rcases judgeRelation plane update with exception | (result | relation) <;> rfl

theorem notePublish_notes (update : StateUpdate) : NotesOne config (notePublish config update) := by
  intro plane
  rw [notePublish_run]
  rcases judgeState config plane update with exception | (result | value)
  · exact Or.inr (Or.inr ⟨exception, rfl⟩)
  · exact Or.inr (Or.inl ⟨result, rfl⟩)
  · exact Or.inl ⟨_, _, _, rfl, .of_counts rfl (acceptState_counts plane update value)⟩

theorem noteRelation_notes (update : RelationUpdate) :
    NotesOne config (noteRelation config update) := by
  intro plane
  rw [noteRelation_run]
  rcases judgeRelation plane update with exception | (result | relation)
  · exact Or.inr (Or.inr ⟨exception, rfl⟩)
  · exact Or.inr (Or.inl ⟨result, rfl⟩)
  · exact Or.inl ⟨_, _, _, rfl, .of_counts rfl (acceptRelation_counts plane update relation)⟩

theorem noteEvent_notes (event : StateEvent) : NotesOne config (noteEvent config event) := by
  intro plane
  unfold noteEvent
  rw [get_bind]
  by_cases known : (plane.events.lookup event.eventId).isSome = true
  · rw [if_pos known]
    exact Or.inr (Or.inl ⟨_, rfl⟩)
  · by_cases absent : (plane.entities.lookup event.subjectRef).isNone = true
    · rw [if_neg known, if_pos absent]
      exact Or.inr (Or.inl ⟨_, rfl⟩)
    · rw [if_neg known, if_neg absent]
      exact Or.inl ⟨_, _, _, rfl, .of_counts rfl ⟨rfl, rfl⟩⟩

/-- A recording returns its changes. A recording that raises has recorded some. -/
def Records {A : Type} (config : PlaneConfig) (plane : InMemoryStatePlane)
    (changesOf : A → List StateChange) :
    EStateM.Result Exception InMemoryStatePlane A → Prop
  | .ok answer next => Notes config plane (changesOf answer) next
  | .error _ next => ∃ lost, Notes config plane lost next

/-- A batch records the changes of its items. -/
theorem mapM_records {U : Type} {single : U → PlaneAction (WriteResult × Option StateChange)}
    (each : ∀ item, NotesOne config (single item)) (items : List U) (plane : InMemoryStatePlane) :
    Records config plane (List.filterMap Prod.snd) (items.mapM single plane) := by
  induction items generalizing plane with
  | nil => exact Notes.nil plane
  | cons item rest ih =>
      rw [List.mapM_cons]
      rcases each item plane with ⟨result, change, next, ran, noted⟩ | ⟨result, ran⟩ |
        ⟨exception, ran⟩
      · have later := ih next
        rw [bind_of_ok ran]
        cases continued : rest.mapM single next with
        | ok answers last =>
            rw [continued] at later
            rw [bind_of_ok continued]
            exact noted.append later
        | error exception last =>
            rw [continued] at later
            rw [bind_of_error continued]
            obtain ⟨lost, later⟩ := later
            exact ⟨_, noted.append later⟩
      · have later := ih plane
        rw [bind_of_ok ran]
        cases continued : rest.mapM single plane with
        | ok answers last =>
            rw [continued] at later
            rw [bind_of_ok continued]
            exact later
        | error exception last =>
            rw [continued] at later
            rw [bind_of_error continued]
            exact later
      · rw [bind_of_error ran]
        exact ⟨[], .nil plane⟩

/-- A computation that only reads off the changes has recorded them. -/
theorem records_then {A : Type} {program : PlaneAction A} {changesOf : A → List StateChange}
    {plane : InMemoryStatePlane} (recorded : Records config plane changesOf (program plane)) :
    Records config plane id ((do return changesOf (← program)) plane) := by
  cases ran : program plane with
  | ok answer next =>
      rw [ran] at recorded
      rw [bind_of_ok ran]
      exact recorded
  | error exception next =>
      rw [ran] at recorded
      rw [bind_of_error ran]
      exact recorded

theorem noteEntity_records (now : Int) (entity : GraphEntity) (plane : InMemoryStatePlane) :
    Records config plane Option.toList (noteEntity config now entity plane) := by
  unfold noteEntity
  rw [get_bind]
  cases plane.entities.lookup entity.ref with
  | none => exact Notes.of_counts rfl ⟨rfl, rfl⟩
  | some previous =>
      by_cases moved : previous.graph ≠ entity.graph
      · simp only [if_pos moved]
        exact ⟨[], .nil plane⟩
      · by_cases same : previous = entity
        · simp only [if_neg moved, if_pos same]
          exact Notes.nil plane
        · simp only [if_neg moved, if_neg same]
          exact Notes.of_counts rfl ⟨rfl, rfl⟩

/-- A call that returns notifies the changes that it records. -/
theorem record_records (write : Write) (plane : InMemoryStatePlane) :
    Records config plane id (write.record config plane) := by
  cases write with
  | upsertEntity now entity => exact records_then (noteEntity_records now entity plane)
  | publishState updates => exact records_then (mapM_records notePublish_notes updates plane)
  | upsertRelations updates => exact records_then (mapM_records noteRelation_notes updates plane)
  | publishEvents events => exact records_then (mapM_records noteEvent_notes events plane)

/-- Two updates with the same effect are batches with the same effect. -/
theorem batch_apply {U : Type} {noting : U → PlaneAction (WriteResult × Option StateChange)}
    {single : U → PlaneAction WriteResult}
    (each : ∀ item plane, (do return (← noting item).1) plane = single item plane)
    (items : List U) (plane : InMemoryStatePlane) :
    finalState ((do return (← items.mapM noting).filterMap Prod.snd :
      PlaneAction (List StateChange)) plane) = finalState (items.mapM single plane) := by
  rw [finalState_then (items.mapM noting) fun answers => answers.filterMap Prod.snd]
  induction items generalizing plane with
  | nil => rfl
  | cons item rest ih =>
      rw [finalState_mapM_cons, finalState_mapM_cons, ← each item plane]
      cases ran : noting item plane with
      | ok answer next =>
          rw [bind_of_ok ran]
          exact ih next
      | error exception next =>
          rw [bind_of_error ran]

/-- The recording part of a call has the effect of the call. -/
theorem record_apply (write : Write) (plane : InMemoryStatePlane) :
    finalState (write.record config plane) = write.operation.apply config plane := by
  cases write with
  | upsertEntity now entity =>
      rw [show finalState ((Write.upsertEntity now entity).record config plane) =
        finalState (noteEntity config now entity plane) from finalState_then _ _ plane,
        Write.operation, Operation.apply, upsertEntity_run]
      unfold noteEntity
      rw [get_bind]
      cases plane.entities.lookup entity.ref with
      | none => rfl
      | some previous =>
          by_cases moved : previous.graph ≠ entity.graph
          · simp only [if_pos moved]
            rfl
          · by_cases same : previous = entity
            · simp only [if_neg moved, if_pos same]
              rfl
            · simp only [if_neg moved, if_neg same]
              rfl
  | publishState updates =>
      apply batch_apply
      intro update plane
      rw [publishOne_run]
      have ran := notePublish_run config update plane
      rcases judged : judgeState config plane update with exception | (result | value)
      all_goals rw [judged] at ran
      · exact bind_of_error ran
      · exact bind_of_ok ran
      · exact bind_of_ok ran
  | upsertRelations updates =>
      apply batch_apply
      intro update plane
      rw [upsertRelation_run]
      have ran := noteRelation_run config update plane
      rcases judged : judgeRelation plane update with exception | (result | relation)
      all_goals rw [judged] at ran
      · exact bind_of_error ran
      · exact bind_of_ok ran
      · exact bind_of_ok ran
  | publishEvents events =>
      apply batch_apply
      intro event plane
      change EStateM.bind (noteEvent config event) _ plane = _
      unfold EStateM.bind noteEvent publishEvent
      rw [get_bind, get_bind]
      by_cases known : (plane.events.lookup event.eventId).isSome = true
      · simp only [if_pos known]
        rfl
      · by_cases absent : (plane.entities.lookup event.subjectRef).isNone = true
        · simp only [if_neg known, if_pos absent]
          rfl
        · simp only [if_neg known, if_neg absent]
          rfl

end Notes

section Runs
variable {W S : Type} {config : PlaneConfig}

section Returned
variable [DecidableEq W]

/-- A turn in which a call returns answers with the changes that the call recorded. -/
def Shared.answer (config : PlaneConfig) (shared : Shared W S) :
    Action W S → List (W × List StateChange)
  | .call writer write =>
      match shared.board.pending writer, write.record config shared.plane with
      | [], .ok changes _ => [(writer, changes)]
      | _, _ => []
  | .notify _ _ | .subscribe _ => []

/-- The calls of an interleaving that return, with their writers and their changes. -/
def Shared.returned (config : PlaneConfig) (shared : Shared W S) :
    List (Action W S) → List (W × List StateChange)
  | [] => []
  | action :: rest => shared.answer config action ++ (shared.act config action).returned config rest

/-- A turn publishes what its call returned. -/
theorem act_published (shared : Shared W S) (action : Action W S) :
    (shared.act config action).board.published =
      shared.board.published ++ shared.answer config action := by
  cases action with
  | call writer write =>
      simp only [Shared.act, Shared.answer]
      cases shared.board.pending writer with
      | cons delivery rest => simp
      | nil => cases write.record config shared.plane <;> simp [Board.publish]
  | notify writer outcome =>
      have kept : (shared.board.deliver writer).published = shared.board.published := by
        unfold Board.deliver
        split <;> rfl
      cases outcome <;> simpa [Shared.act, Shared.answer] using kept
  | subscribe callback => simp [Shared.act, Shared.answer, Board.subscribe]

/-- A board holds exactly the answers of the calls that returned. -/
theorem run_published (shared : Shared W S) (actions : List (Action W S)) :
    (shared.run config actions).board.published =
      shared.board.published ++ shared.returned config actions := by
  induction actions generalizing shared with
  | nil => exact (List.append_nil _).symm
  | cons action rest ih =>
      change ((shared.act config action).run config rest).board.published = _
      rw [ih, act_published, List.append_assoc]
      rfl

/-- The changes of a call that returns are sent by its writer. -/
theorem returned_sent {shared : Shared W S} {early late : List (Action W S)} {writer : W}
    {write : Write} {changes : List StateChange} {next : InMemoryStatePlane}
    (idle : (shared.run config early).board.pending writer = [])
    (ran : write.record config (shared.run config early).plane = .ok changes next) :
    changes.Sublist ((shared.run config (early ++ .call writer write :: late)).board.sentBy
      writer) := by
  have split : shared.run config (early ++ .call writer write :: late) =
      ((shared.run config early).act config (.call writer write)).run config late := by
    simp [Shared.run]
  have answered : (shared.run config early).answer config (.call writer write) =
      [(writer, changes)] := by
    simp only [Shared.answer, idle, ran]
  rw [split, Board.sentBy, run_published, act_published, answered]
  simp only [List.filter_append, List.flatMap_append, List.filter_singleton, decide_true, cond_true,
    List.flatMap_singleton]
  exact (List.sublist_append_right _ _).trans (List.sublist_append_left _ _)

end Returned

/-- The changes that the calls returned are among those that were recorded since the start. -/
def Logged (config : PlaneConfig) (start : InMemoryStatePlane) (shared : Shared W S) : Prop :=
  ∃ recorded, Notes config start recorded shared.plane ∧ shared.board.sent.Sublist recorded

theorem Logged.rising {start : InMemoryStatePlane} {shared : Shared W S}
    (logged : Logged config start shared) :
    (shared.board.sent.map StateChange.cursor).Pairwise (· < ·) := by
  obtain ⟨recorded, noted, sent⟩ := logged
  apply List.Pairwise.sublist (sent.map StateChange.cursor)
  rw [noted.cursors]
  exact List.pairwise_lt_range'

variable [DecidableEq W]

theorem sent_publish (board : Board W S StateChange) (writer : W) (changes : List StateChange) :
    (board.publish writer changes).sent = board.sent ++ changes := by
  simp [Board.sent, Board.publish]

theorem sent_deliver (board : Board W S StateChange) (writer : W) :
    (board.deliver writer).sent = board.sent := by
  unfold Board.deliver
  split <;> rfl

/-- This is what a turn can do. -/
inductive Turned (config : PlaneConfig) (shared : Shared W S) : Action W S → Shared W S → Prop
  | waits (action : Action W S) : Turned config shared action shared
  | records {changes : List StateChange} {next : InMemoryStatePlane} (writer : W) (write : Write)
      (idle : shared.board.pending writer = []) (noted : Notes config shared.plane changes next) :
      Turned config shared (.call writer write) ⟨next, shared.board.publish writer changes⟩
  | raises {lost : List StateChange} {next : InMemoryStatePlane} (writer : W) (write : Write)
      (noted : Notes config shared.plane lost next) :
      Turned config shared (.call writer write) ⟨next, shared.board⟩
  | notifies (writer : W) (outcome : Except Exception Unit) :
      Turned config shared (.notify writer outcome) ⟨shared.plane, shared.board.deliver writer⟩
  | subscribes (callback : S) :
      Turned config shared (.subscribe callback) ⟨shared.plane, shared.board.subscribe callback⟩

theorem act_turned (shared : Shared W S) (action : Action W S) :
    Turned config shared action (shared.act config action) := by
  cases action with
  | call writer write =>
      simp only [Shared.act]
      cases owed : shared.board.pending writer with
      | cons delivery rest => exact .waits _
      | nil =>
          have noted := @record_records config write shared.plane
          cases ran : write.record config shared.plane with
          | ok changes next =>
              rw [ran] at noted
              exact .records writer write owed noted
          | error exception next =>
              rw [ran] at noted
              obtain ⟨lost, noted⟩ := noted
              exact .raises writer write noted
  | notify writer outcome => cases outcome <;> exact .notifies writer _
  | subscribe callback => exact .subscribes callback

/-- A turn logs the changes that it returns. -/
theorem Turned.logged {start : InMemoryStatePlane} {shared next : Shared W S} {action : Action W S}
    (turned : Turned config shared action next) (logged : Logged config start shared) :
    Logged config start next := by
  obtain ⟨recorded, before, sent⟩ := logged
  cases turned with
  | waits => exact ⟨recorded, before, sent⟩
  | records writer write idle noted =>
      refine ⟨_, before.append noted, ?_⟩
      rw [sent_publish]
      exact sent.append (List.Sublist.refl _)
  | raises writer write noted =>
      exact ⟨_, before.append noted, sent.trans (List.sublist_append_left _ _)⟩
  | notifies writer outcome => exact ⟨recorded, before, (sent_deliver _ writer).symm ▸ sent⟩
  | subscribes callback => exact ⟨recorded, before, sent⟩

variable [DecidableEq S] {callback : S} {copies : Nat}

/-- A turn keeps account of what a callback receives. -/
theorem Turned.tracks {shared next : Shared W S} {action : Action W S}
    (turned : Turned config shared action next) (tracks : shared.board.Tracks callback copies)
    (settled : action ≠ .subscribe callback) : next.board.Tracks callback copies := by
  cases turned with
  | waits => exact tracks
  | records writer write idle noted => exact tracks_publish tracks idle _
  | raises writer write noted => exact tracks
  | notifies writer outcome => exact tracks_deliver tracks writer
  | subscribes other => exact tracks_subscribe tracks fun same => settled (same ▸ rfl)

/-- The invariants hold after every interleaving. -/
theorem run_tracks {start : InMemoryStatePlane} {shared : Shared W S} {actions : List (Action W S)}
    (logged : Logged config start shared) (tracks : shared.board.Tracks callback copies)
    (settled : ∀ action ∈ actions, action ≠ .subscribe callback) :
    Logged config start (shared.run config actions) ∧
      (shared.run config actions).board.Tracks callback copies := by
  induction actions generalizing shared with
  | nil => exact ⟨logged, tracks⟩
  | cons action rest ih =>
      have turned : Turned config shared action (shared.act config action) :=
        act_turned shared action
      exact ih (turned.logged logged) (turned.tracks tracks (settled action List.mem_cons_self))
        fun other member => settled other (List.mem_cons_of_mem _ member)

/-- A writer sends exactly the changes that its returned calls record. In every interleaving a
callback that was registered before the run receives each of them once for each of its
registrations, when the writer of the call has notified, and nothing else. The changes of one writer
arrive in the order of their cursors. -/
theorem notified_exactly (config : PlaneConfig) (plane : InMemoryStatePlane) (callbacks : List S)
    (actions : List (Action W S)) (callback : S)
    (settled : ∀ action ∈ actions, action ≠ .subscribe callback) :
    Logged config plane (runShared config plane callbacks actions) ∧
    (∀ early writer write late changes next, actions = early ++ .call writer write :: late →
      (runShared config plane callbacks early).board.pending writer = [] →
      write.record config (runShared config plane callbacks early).plane = .ok changes next →
      Notes config (runShared config plane callbacks early).plane changes next ∧
        changes.Sublist ((runShared config plane callbacks actions).board.sentBy writer)) ∧
    (∀ writer, (runShared config plane callbacks actions).board.sentBy writer =
      (((⟨plane, .fresh callbacks⟩ : Shared W S).returned config actions).filter
        fun entry => entry.1 = writer).flatMap Prod.snd) ∧
    (∀ writer, (runShared config plane callbacks actions).board.pending writer = [] →
      ∀ change ∈ (runShared config plane callbacks actions).board.sentBy writer,
        ((runShared config plane callbacks actions).board.inbox callback).count change =
          callbacks.count callback) ∧
    (∀ change ∈ (runShared config plane callbacks actions).board.inbox callback,
      change ∈ (runShared config plane callbacks actions).board.sent) ∧
    ∀ writer,
      (((runShared config plane callbacks actions).board.inboxFrom writer callback).map
        StateChange.cursor).Pairwise (· ≤ ·) ∧
      (callbacks.count callback = 1 →
        (((runShared config plane callbacks actions).board.inboxFrom writer callback).map
          StateChange.cursor).Pairwise (· < ·)) := by
  have empty : Logged config plane (⟨plane, .fresh callbacks⟩ : Shared W S) :=
    ⟨[], .nil plane, List.Sublist.refl _⟩
  obtain ⟨logged, tracks⟩ := @run_tracks W S config _ _ callback _ plane _ actions empty
    (tracks_fresh callbacks callback) settled
  change Logged config plane (runShared config plane callbacks actions) at logged
  change (runShared config plane callbacks actions).board.Tracks _ _ at tracks
  have distinct : (runShared config plane callbacks actions).board.sent.Nodup :=
    .of_map _ (logged.rising.imp Nat.ne_of_lt)
  have rising (writer : W) :
      ((runShared config plane callbacks actions).board.sentBy writer).Pairwise
        fun first second => first.cursor < second.cursor :=
    (List.pairwise_map.mp logged.rising).sublist (List.filter_sublist.flatMap Prod.snd)
  refine ⟨logged, ?_, fun writer => ?_,
    fun writer idle change sent => tracks.count_inbox distinct idle sent,
    fun change received => tracks.inbox_subset received, fun writer => ⟨?_, ?_⟩⟩
  · rintro early writer write late changes next rfl idle ran
    have noted := @record_records config write (runShared config plane callbacks early).plane
    rw [ran] at noted
    exact ⟨noted, returned_sent idle ran⟩
  · rw [Board.sentBy, runShared, run_published]
    rfl
  · rw [List.pairwise_map]
    exact tracks.ordered (fun change => Nat.le_refl change.cursor)
      ((rising writer).imp Nat.le_of_lt)
  · intro once
    rw [once] at tracks
    rw [List.pairwise_map]
    exact tracks.ordered_once (rising writer)

end Runs

/-- Two writers record one after the other. The second one notifies first, and the callback that
was registered last raises. -/
def overtaking : List (Action Bool String) :=
  [.call true (.upsertEntity 0 queueEntity), .call false (.publishEvents [queueEvent "event"]),
    .notify false (.ok ()), .notify false (.error .valueError), .notify true (.ok ()),
    .notify true (.error .valueError)]

def overtaken : Shared Bool String :=
  runShared { registry := {} } {} ["observer", "failing"] overtaking

theorem notified_exactly_of_overtaking :
    (overtaken.board.sentBy true).length = 1 ∧
    ∀ change ∈ overtaken.board.sentBy true,
      (overtaken.board.inbox "observer").count change = 1 := by
  refine ⟨by decide +kernel, ?_⟩
  have settled : ∀ action ∈ overtaking, action ≠ .subscribe "observer" := by
    rintro action member rfl
    simp [overtaking] at member
  exact (notified_exactly { registry := {} } {} ["observer", "failing"] overtaking "observer"
    settled).2.2.2.1 true (by decide +kernel)

/-- Every call has notified. Each callback receives the second change before the first one. -/
theorem overtaken_reversed :
    (overtaken.board.pending true = [] ∧ overtaken.board.pending false = []) ∧
    (overtaken.board.inbox "observer").map StateChange.cursor = [2, 1] ∧
    (overtaken.board.inbox "failing").map StateChange.cursor = [2, 1] := by
  decide +kernel

end StateFlow.Plane
