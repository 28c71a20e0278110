import StateFlow.Construction.Plane.Graph
import StateFlow.Construction.Plane.Pages

namespace StateFlow.Plane
open Python Table Effect

/-- A client of the plane writes or reads. -/
inductive Activity where
  | operate (operation : Operation)
  | getState (now : Int) (unique : String) (query : StateQuery)
  | queryGraph (query : GraphQuery)
  | changes (query : ChangeQuery) (afterCursor : Int)
  | freshness (now : Int)

/-- Every activity except a call of `get_snapshot`. -/
def Activity.isPlain : Activity → Bool
  | .operate (.getSnapshot _ _ _) => false
  | _ => true

/-- The unique part of the token that a read of the state may draw. -/
def Activity.unique? : Activity → Option String
  | .getState _ unique _ => some unique
  | _ => none

section Activities
variable (config : PlaneConfig)

/-- The plane after an activity. The change log and the freshness are computed from a plane that
stays as it is. -/
def Activity.apply (plane : InMemoryStatePlane) : Activity → InMemoryStatePlane
  | .operate operation => operation.apply config plane
  | .getState now unique query => finalState (Plane.getState config now unique query plane)
  | .queryGraph query => finalState (Plane.queryGraph query plane)
  | .changes _ _ => plane
  | .freshness _ => plane

/-- The plane after some activities. -/
def runActivities (activities : List Activity) (plane : InMemoryStatePlane) :
    InMemoryStatePlane :=
  activities.foldl (Activity.apply config) plane

/-- A read of the state without a token that returns. -/
def Activity.readsLive (plane : InMemoryStatePlane) : Activity → Bool
  | .getState now unique query =>
      query.snapshot = "" &&
        answersWith (fun _ => true) (Plane.getState config now unique query plane)
  | _ => false

/-- The number of reads without a token that return. -/
def liveReads : List Activity → InMemoryStatePlane → Nat
  | [], _ => 0
  | activity :: rest, plane =>
      (activity.readsLive config plane).toNat + liveReads rest (activity.apply config plane)

end Activities

end StateFlow.Plane
