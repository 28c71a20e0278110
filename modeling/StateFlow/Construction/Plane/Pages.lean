import StateFlow.Library.Glob
import StateFlow.Construction.Plane.Trace

namespace StateFlow.Plane
open Python

/-- The filter and the limit of a reader of the change log. -/
structure ChangeQuery where
  entityPrefix : String := ""
  keys : List String := []
  limit : Int := 100

/-- An empty prefix and an empty list of patterns select every change. -/
def ChangeQuery.selects (query : ChangeQuery) (change : StateChange) : Bool :=
  (query.entityPrefix = "" || change.subjectRef.startsWith query.entityPrefix) &&
    (query.keys = [] || query.keys.any fun pattern => fnmatchcase change.keyOrRelation pattern)

/-- `changes` returns the first selected changes after a cursor. -/
def InMemoryStatePlane.changesAfter (plane : InMemoryStatePlane) (query : ChangeQuery)
    (afterCursor : Int) : List StateChange :=
  (plane.changes.filter fun change => afterCursor < change.cursor && query.selects change).take
    query.limit.toNat

/-- A reader continues after the last change that it received. -/
def nextCursor (afterCursor : Int) (changes : List StateChange) : Int :=
  match changes.getLast? with
  | some change => change.cursor
  | none => afterCursor

/-- Writers and one reader take turns. -/
inductive Turn where
  | write (operation : Operation)
  | read

/-- A page keeps the cursor and the plane of its read. -/
structure Page where
  after : Int
  plane : InMemoryStatePlane
  changes : List StateChange

section Watch
variable (config : PlaneConfig) (query : ChangeQuery)

/-- The pages that a reader receives. -/
def watch : List Turn → InMemoryStatePlane → Int → List Page
  | [], _, _ => []
  | .write operation :: rest, plane, cursor => watch rest (operation.apply config plane) cursor
  | .read :: rest, plane, cursor =>
      let changes := plane.changesAfter query cursor
      ⟨cursor, plane, changes⟩ :: watch rest plane (nextCursor cursor changes)

/-- The cursor that a reader holds in the end. -/
def lastCursor (start : Int) (pages : List Page) : Int :=
  pages.foldl (fun cursor page => nextCursor cursor page.changes) start

/-- The writes among the turns. -/
def turnWrites : List Turn → List Operation
  | [] => []
  | .write operation :: rest => operation :: turnWrites rest
  | .read :: rest => turnWrites rest

end Watch

end StateFlow.Plane
