import StateFlow.Library.Mailbox
import StateFlow.Library.Racing
import StateFlow.Construction.State.Store

namespace StateFlow.Harness
open Python State Mailbox Racing

/-- The thread of a reporter is at one of these points of `_run`. The condition of its loop reads the
stop flag first. -/
inductive Worker where
  | checkStop
  | checkEmpty
  | fetch
  | deliver (event : AgentStateEvent)
  | exited

/-- The event that the thread has taken and not yet passed to the sink. -/
def Worker.inHand : Worker → List AgentStateEvent
  | .deliver event => [event]
  | _ => []

/-- A call of `publish` counts its event after the queue has answered. -/
inductive Publisher where
  | idle
  | counting (event : AgentStateEvent) (accepted : Bool)

/-- `published` and `dropped` are counters of all publishers. Only the thread counts failures. The
log of deliveries says how the sink answered. -/
structure Reporter (P : Type) (maxQueue : Int) where
  queue : Queue (Option AgentStateEvent) maxQueue
  stopping : Bool
  closing : Nat
  worker : Worker
  publisher : P → Publisher
  counter : Bool → Cell P Nat AgentStateEvent
  failed : Nat
  delivered : List (AgentStateEvent × Except Exception Unit)

/-- A turn of a publisher, of a caller of `close`, or of the thread. -/
inductive ReporterTurn (P : Type) where
  | offer (publisher : P) (event : AgentStateEvent)
  | readCount (publisher : P)
  | writeCount (publisher : P)
  | stop
  | sentinel
  | work (outcome : Except Exception Unit)

namespace Reporter
variable {P : Type} {maxQueue : Int}

def fresh : Reporter P maxQueue where
  queue := Queue.fresh
  stopping := false
  closing := 0
  worker := .checkStop
  publisher _ := .idle
  counter _ := Cell.fresh 0
  failed := 0
  delivered := []

/-- The statistics of the reporter. -/
def published (reporter : Reporter P maxQueue) : Nat := (reporter.counter true).value

def dropped (reporter : Reporter P maxQueue) : Nat := (reporter.counter false).value

/-- The events of the calls that have returned this answer. -/
def returned (reporter : Reporter P maxQueue) (accepted : Bool) : List AgentStateEvent :=
  (reporter.counter accepted).done

/-- The events that the queue has accepted. The sentinels of `close` are not events. -/
def accepted (reporter : Reporter P maxQueue) : List AgentStateEvent :=
  reporter.queue.accepted.filterMap id

def waiting (reporter : Reporter P maxQueue) : List AgentStateEvent :=
  reporter.queue.waiting.filterMap id

/-- One turn of `_run`. A sink that raises is counted and the loop goes on. -/
def work (reporter : Reporter P maxQueue) (outcome : Except Exception Unit) :
    Reporter P maxQueue :=
  match reporter.worker with
  | .checkStop =>
      { reporter with worker := if reporter.stopping then .checkEmpty else .fetch }
  | .checkEmpty =>
      { reporter with worker := if reporter.queue.waiting.isEmpty then .exited else .fetch }
  | .fetch =>
      match reporter.queue.take with
      | none => { reporter with worker := .checkStop }
      | some (none, rest) => { reporter with queue := rest, worker := .checkStop }
      | some (some event, rest) => { reporter with queue := rest, worker := .deliver event }
  | .deliver event =>
      { reporter with
        worker := .checkStop
        delivered := reporter.delivered ++ [(event, outcome)]
        failed :=
          match outcome with
          | .ok () => reporter.failed
          | .error _ => reporter.failed + 1 }
  | .exited => reporter

/-- `put_nowait` of `close` may find a full queue. -/
def putSentinel (reporter : Reporter P maxQueue) : Reporter P maxQueue :=
  match reporter.closing with
  | 0 => reporter
  | closing + 1 =>
      { reporter with closing := closing, queue := (reporter.queue.offer none).getD reporter.queue }

section Turns
variable [DecidableEq P]

/-- `put_nowait` of `publish`. -/
def offer (reporter : Reporter P maxQueue) (thread : P) (event : AgentStateEvent) :
    Reporter P maxQueue :=
  match reporter.publisher thread, reporter.queue.offer (some event) with
  | .idle, some queue =>
      { reporter with
        queue := queue
        publisher := Function.update reporter.publisher thread (.counting event true) }
  | .idle, none =>
      { reporter with
        publisher := Function.update reporter.publisher thread (.counting event false) }
  | .counting .., _ => reporter

/-- The increment of a counter reads it and writes it in two turns. -/
def readCount (reporter : Reporter P maxQueue) (thread : P) : Reporter P maxQueue :=
  match reporter.publisher thread with
  | .idle => reporter
  | .counting _ accepted =>
      if ((reporter.counter accepted).held thread).isSome then reporter
      else
        { reporter with
          counter := Function.update reporter.counter accepted
            ((reporter.counter accepted).read thread) }

def writeCount (reporter : Reporter P maxQueue) (thread : P) : Reporter P maxQueue :=
  match reporter.publisher thread with
  | .idle => reporter
  | .counting event accepted =>
      if ((reporter.counter accepted).held thread).isSome then
        { reporter with
          counter := Function.update reporter.counter accepted
            ((reporter.counter accepted).write (fun count _ => count + 1) thread event)
          publisher := Function.update reporter.publisher thread .idle }
      else reporter

/-- `close` sets the flag first. -/
def act (reporter : Reporter P maxQueue) : ReporterTurn P → Reporter P maxQueue
  | .offer thread event => reporter.offer thread event
  | .readCount thread => reporter.readCount thread
  | .writeCount thread => reporter.writeCount thread
  | .stop => { reporter with stopping := true, closing := reporter.closing + 1 }
  | .sentinel => reporter.putSentinel
  | .work outcome => reporter.work outcome

/-- The turns of an interleaving. -/
def run (reporter : Reporter P maxQueue) (turns : List (ReporterTurn P)) : Reporter P maxQueue :=
  turns.foldl act reporter

end Turns

end Reporter

end StateFlow.Harness
