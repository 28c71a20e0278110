import StateFlow.Library.Fanout
import StateFlow.Construction.Plane.Run

namespace StateFlow.Plane
open Python Table Effect Fanout

deriving instance DecidableEq for StateChange

/-- The change that `_record_change` returns. -/
def nextChange (plane : InMemoryStatePlane) (kind subjectRef keyOrRelation : String)
    (version timestamp : Int) : StateChange :=
  ⟨plane.revision + 1, kind, subjectRef, keyOrRelation, version, timestamp⟩

section Notes
variable (config : PlaneConfig)

/-- `_publish_one` returns its result and the change of an accepted update. -/
def notePublish (update : StateUpdate) : PlaneAction (WriteResult × Option StateChange) := do
  match ← lift (judgeState config (← get) update) with
  | .error result => return (result, none)
  | .ok value =>
      let change := nextChange (← get) "state" value.entityRef value.key value.version
        value.timestamp
      modify fun plane => acceptState config plane update value
      return (acceptedState value, some change)

/-- `_upsert_relation` returns its result and the change of an accepted update. -/
def noteRelation (update : RelationUpdate) : PlaneAction (WriteResult × Option StateChange) := do
  match ← lift (judgeRelation (← get) update) with
  | .error result => return (result, none)
  | .ok relation =>
      let change := nextChange (← get) "relation" update.sourceRef update.relationType
        relation.version relation.timestamp
      modify fun plane => acceptRelation config plane update relation
      return (acceptedRelation relation, some change)

/-- One event of `publish_events` with its change. -/
def noteEvent (event : StateEvent) : PlaneAction (WriteResult × Option StateChange) := do
  let plane ← get
  if (plane.events.lookup event.eventId).isSome then
    return (unaccepted event.subjectRef event.eventType "duplicate event_id" true, none)
  else if (plane.entities.lookup event.subjectRef).isNone then
    return (unaccepted event.subjectRef event.eventType "subject entity is not registered" false,
      none)
  else
    let change := nextChange plane "event" event.subjectRef event.eventType 1 event.timestamp
    set (acceptEvent config plane event)
    return ({ accepted := true, entityRef := event.subjectRef, key := event.eventType,
              version := change.cursor, reason := "accepted" }, some change)

/-- `upsert_entity` returns early without a change when it stores an equal entity. -/
def noteEntity (now : Int) (entity : GraphEntity) : PlaneAction (Option StateChange) := do
  let plane ← get
  match plane.entities.lookup entity.ref with
  | some previous =>
      if previous.graph ≠ entity.graph then throw .valueError
      if previous = entity then return none
  | none => pure ()
  let stored := { plane with entities := assign entity.ref entity plane.entities }
  set (recordChange config stored "entity" entity.ref entity.entityType 1 now)
  return some (nextChange stored "entity" entity.ref entity.entityType 1 now)

/-- The calls that notify. -/
inductive Write where
  | upsertEntity (now : Int) (entity : GraphEntity)
  | publishState (updates : List StateUpdate)
  | upsertRelations (updates : List RelationUpdate)
  | publishEvents (events : List StateEvent)

/-- The part of a call under the lock. It returns the changes to notify. -/
def Write.record : Write → PlaneAction (List StateChange)
  | .upsertEntity now entity => do return (← noteEntity config now entity).toList
  | .publishState updates => do
      return (← updates.mapM (notePublish config)).filterMap Prod.snd
  | .upsertRelations updates => do
      return (← updates.mapM (noteRelation config)).filterMap Prod.snd
  | .publishEvents events => do return (← events.mapM (noteEvent config)).filterMap Prod.snd

/-- The call without its notifications. -/
def Write.operation : Write → Operation
  | .upsertEntity now entity => .upsertEntity now entity
  | .publishState updates => .publishState updates
  | .upsertRelations updates => .upsertRelations updates
  | .publishEvents events => .publishEvents events

end Notes

/-- Some writers share a plane. Each writer hands its changes to the callbacks that it copied. -/
structure Shared (W S : Type) where
  plane : InMemoryStatePlane
  board : Board W S StateChange

/-- A turn of a writer or of a client that subscribes. A callback may raise. A callback that calls
the plane is one more writer. -/
inductive Action (W S : Type) where
  | call (writer : W) (write : Write)
  | notify (writer : W) (outcome : Except Exception Unit)
  | subscribe (callback : S)

section Shared
variable {W S : Type} [DecidableEq W] (config : PlaneConfig)

/-- A writer calls again after its notifications. A call that raises notifies nobody, and
`_notify` continues after a callback that raises. -/
def Shared.act (shared : Shared W S) : Action W S → Shared W S
  | .call writer write =>
      match shared.board.pending writer with
      | [] =>
          match write.record config shared.plane with
          | .ok changes next => ⟨next, shared.board.publish writer changes⟩
          | .error _ next => { shared with plane := next }
      | _ :: _ => shared
  | .notify writer outcome =>
      match outcome with
      | .ok () => { shared with board := shared.board.deliver writer }
      | .error _ => { shared with board := shared.board.deliver writer }
  | .subscribe callback => { shared with board := shared.board.subscribe callback }

/-- The turns of an interleaving. -/
def Shared.run (shared : Shared W S) (actions : List (Action W S)) : Shared W S :=
  actions.foldl (Shared.act config) shared

/-- An interleaving starts with some callbacks and without notifications. -/
def runShared (plane : InMemoryStatePlane) (callbacks : List S) (actions : List (Action W S)) :
    Shared W S :=
  Shared.run config ⟨plane, .fresh callbacks⟩ actions

end Shared

end StateFlow.Plane
