import Mathlib.Tactic.NormNum
import StateFlow.Construction.Plane.Run

namespace StateFlow.Plane
open Python Effect

/-- `_datetime` parses a wall clock inside the calendar with its zone, in microseconds. -/
structure Stamp where
  wall : Int
  zone : Int
  inside : minDateTime ≤ wall ∧ wall ≤ maxDateTime
  offset : |zone| < 86400000000

def Stamp.instant (stamp : Stamp) : Int := stamp.wall - stamp.zone

/-- `_duration_ms` never returns a negative duration. -/
def durationMs : Option Int → Except Exception (Option Int)
  | none => .ok none
  | some milliseconds => do return some (← timedeltaOfMs (max 0 milliseconds))

/-- An object of a request has its own timestamp and lifetime. -/
structure Item (U : Type) where
  fields : U
  timestamp : Stamp
  ttlMs : Option Int := none

/-- `_required` rejects an empty text. -/
def required (texts : List String) : Except Exception Unit :=
  if "" ∈ texts then .error .valueError else .ok ()

/-- `_state_update` -/
def stateUpdate (item : Item StateUpdate) : Except Exception StateUpdate := do
  let fields := item.fields
  required [fields.entityRef, fields.key, fields.producer]
  return { fields with timestamp := item.timestamp.instant, ttl := ← durationMs item.ttlMs }

/-- `_relation_update` -/
def relationUpdate (item : Item RelationUpdate) : Except Exception RelationUpdate := do
  let fields := item.fields
  required [fields.sourceRef, fields.relationType, fields.targetRef, fields.producer]
  return { fields with timestamp := item.timestamp.instant, zone := item.timestamp.zone,
                       ttl := ← durationMs item.ttlMs }

/-- `_metric_sample` -/
def metricSample (item : Item MetricSample) : Except Exception MetricSample := do
  let fields := item.fields
  required [fields.entityRef, fields.metricKey, fields.producer]
  return { fields with timestamp := item.timestamp.instant }

/-- `_state_event` -/
def stateEvent (item : Item StateEvent) : Except Exception StateEvent := do
  let fields := item.fields
  required [fields.eventId, fields.eventType, fields.subjectRef, fields.producer]
  return { fields with timestamp := item.timestamp.instant }

/-- A missing and an empty lifetime last ten seconds. -/
def heartbeatTtl (ttl : Option Int) : Int :=
  match ttl with
  | none | some 0 => 10000000
  | some ttl => ttl

/-- `_heartbeat` -/
def heartbeatOf (item : Item Heartbeat) : Except Exception Heartbeat := do
  let fields := item.fields
  required [fields.subjectRef, fields.producer]
  let ttl ← durationMs item.ttlMs
  return { fields with timestamp := item.timestamp.instant, zone := item.timestamp.zone,
                       ttl := heartbeatTtl ttl }

/-- `_batch` rejects an empty list. Every object is parsed before the first write. -/
def batchOf {U V : Type} (parse : U → Except Exception V) (items : List U) :
    Except Exception (List V) :=
  if items = [] then .error .valueError else items.mapM parse

/-- `_component_descriptor` -/
def componentDescriptor (descriptor : ComponentDescriptor) : Except Exception ComponentDescriptor :=
  if descriptor.componentId = "" || descriptor.kind = "" then .error .valueError
  else .ok descriptor

/-- `_snapshot_request` -/
def snapshotRequest (request : SnapshotRequest) : Except Exception SnapshotRequest :=
  if request.entities = [] || request.keys = [] then .error .valueError else .ok request

/-- One request to `StatePlaneAPI.post`. The constructor of an entity has checked it. -/
inductive Post where
  | registerComponent (descriptor : ComponentDescriptor)
  | upsertEntities (now : Int) (entities : List GraphEntity)
  | publishState (updates : List (Item StateUpdate))
  | upsertRelations (relations : List (Item RelationUpdate))
  | publishMetrics (samples : List (Item MetricSample))
  | publishEvents (events : List (Item StateEvent))
  | heartbeat (beat : Item Heartbeat)
  | getSnapshot (now : Int) (unique : String) (request : SnapshotRequest)

section Posts
variable (config : PlaneConfig)

/-- A request is parsed and then passed to the plane. -/
def Post.run : Post → PlaneAction Unit
  | .registerComponent descriptor => do
      let descriptor ← lift (componentDescriptor descriptor)
      Plane.registerComponent descriptor
  | .upsertEntities now entities => do
      let entities ← lift (batchOf .ok entities)
      entities.forM (upsertEntity config now)
  | .publishState items => do
      let updates ← lift (batchOf stateUpdate items)
      let _ ← Plane.publishState config updates
  | .upsertRelations items => do
      let updates ← lift (batchOf relationUpdate items)
      let _ ← Plane.upsertRelations config updates
  | .publishMetrics items => do
      let samples ← lift (batchOf metricSample items)
      let _ ← Plane.publishMetrics config samples
  | .publishEvents items => do
      let events ← lift (batchOf stateEvent items)
      let _ ← Plane.publishEvents config events
  | .heartbeat item => do
      let beat ← lift (heartbeatOf item)
      Plane.heartbeat beat
  | .getSnapshot now unique request => do
      let request ← lift (snapshotRequest request)
      let _ ← Plane.getSnapshot config now unique request

/-- The plane that a list of requests reaches, also when some of them raise. -/
def runPosts (posts : List Post) (plane : InMemoryStatePlane) : InMemoryStatePlane :=
  posts.foldl (fun plane post => finalState (post.run config plane)) plane

end Posts

end StateFlow.Plane
