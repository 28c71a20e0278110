import StateFlow.Construction.Plane.Pages
import StateFlow.Library.Streaming

namespace StateFlow.Rpc
open Plane Streaming

/-- The cursor and the page size of a stream, and whether it waits for later changes. -/
structure WatchStateRequest where
  afterCursor : Int := 0
  entityPrefix : String := ""
  keys : List String := []
  batchSize : Int := 0
  follow : Bool := false

/-- A missing size is a hundred changes, and a page has at most a thousand. -/
def batchLimit (batchSize : Int) : Int :=
  max 1 (min (if batchSize = 0 then 100 else batchSize) 1000)

/-- `WatchState` serves a stream of a plane to a reader. -/
structure Watcher where
  plane : InMemoryStatePlane := {}
  stream : Stream StateChange
  limit : Int
  follow : Bool
  polled : Bool := false
  closed : Bool := false

/-- Writers, the server, and the reader take turns. A reader that lost its stream asks again from the
last change that it received. -/
inductive WatchTurn where
  | write (operation : Operation)
  | resume
  | receive
  | reopen (batchSize : Int) (follow : Bool)

section Watch
variable (config : PlaneConfig) (request : WatchStateRequest)

def Watcher.query (watcher : Watcher) : ChangeQuery where
  entityPrefix := request.entityPrefix
  keys := request.keys
  limit := watcher.limit

/-- A message has 64 bits for a cursor and for a version. -/
def fitsMessage (change : StateChange) : Bool :=
  change.cursor < 2 ^ 63 && (-2 ^ 63 ≤ change.version && change.version < 2 ^ 63 : Bool)

/-- A negative cursor starts at zero. -/
def WatchStateRequest.start : Int := max 0 request.afterCursor

def WatchStateRequest.watcher : Watcher where
  stream := ⟨request.start, [], [], []⟩
  limit := batchLimit request.batchSize
  follow := request.follow

/-- The generator of `WatchState` yields the rest of its page, returns, or takes the next page. A change that
fits no message ends it with an exception. -/
def Watcher.resume (watcher : Watcher) : Watcher :=
  if watcher.closed then watcher
  else match watcher.stream.page with
    | change :: _ =>
        if fitsMessage change then { watcher with stream := watcher.stream.send StateChange.cursor }
        else { watcher with closed := true }
    | [] =>
        if watcher.polled && !watcher.follow then { watcher with closed := true }
        else
          let changes := watcher.plane.changesAfter (watcher.query request) watcher.stream.cursor
          { watcher with polled := true, stream := { watcher.stream with page := changes } }

def Watcher.turn (watcher : Watcher) : WatchTurn → Watcher
  | .write operation => { watcher with plane := operation.apply config watcher.plane }
  | .resume => watcher.resume request
  | .receive => { watcher with stream := watcher.stream.receive }
  | .reopen batchSize follow => {
      plane := watcher.plane
      stream := watcher.stream.reopen StateChange.cursor request.start
      limit := batchLimit batchSize
      follow := follow }

def WatchStateRequest.run (turns : List WatchTurn) : Watcher :=
  turns.foldl (Watcher.turn config request) request.watcher

/-- The writes among the turns -/
def watchWrites : List WatchTurn → List Operation
  | [] => []
  | .write operation :: rest => operation :: watchWrites rest
  | _ :: rest => watchWrites rest

end Watch

end StateFlow.Rpc
