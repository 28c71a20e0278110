import StateFlow.Construction.Adapters.KubernetesWatch

namespace StateFlow.Adapters
open Python Table Effect Plane

/-- The process of a poll with any target of its publications. -/
structure WatchProcess (W : Type) where
  world : W
  cursor : KubernetesWatchCursor

/-- A poll has the answers of the server and the effect of each publication on the target. -/
structure WatchPoll (W : Type) where
  answers : ApiAnswers
  publish : DeploymentObservation → EStateM Exception W AdapterPublishReport

section Collection
variable {W : Type} (text : Text) (client : KubernetesSourceClient)

/-- An exception of the target leaves the process. -/
def onTarget {A : Type} (action : EStateM Exception W A) :
    EStateM SourceFailure (WatchProcess W) A := fun process =>
  match action process.world with
  | .ok value world => .ok value { process with world := world }
  | .error exception world => .error (.raised exception) { process with world := world }

/-- `collect_kubernetes` publishes a batch before it moves the cursor. -/
def collectPoll (poll : WatchPoll W) : EStateM SourceFailure (WatchProcess W) CollectionReport := do
  let batch ← lift (collectBatch text client poll.answers (← get).cursor)
  let reports ← batch.observations.mapM fun observation => onTarget (poll.publish observation)
  modify fun process => { process with cursor := batch.cursor }
  return {
    source := "kubernetes-watch"
    observations := batch.observations.length
    accepted := (reports.map AdapterPublishReport.accepted).sum
    rejected := (reports.map AdapterPublishReport.rejected).sum
    watermark := batch.cursor.watermark }

/-- The observations whose publication returned before the first exception. -/
def completed (publish : DeploymentObservation → EStateM Exception W AdapterPublishReport) :
    List DeploymentObservation → W → List DeploymentObservation
  | [], _ => []
  | observation :: rest, world =>
      match publish observation world with
      | .ok _ next => observation :: completed publish rest next
      | .error _ _ => []

/-- The observations that a poll published completely. -/
def WatchPoll.delivered (poll : WatchPoll W) (process : WatchProcess W) : List DeploymentObservation :=
  match collectBatch text client poll.answers process.cursor with
  | .ok batch => completed poll.publish batch.observations process.world
  | .error _ => []

/-- A failed poll is followed by another one. -/
def runPolls (polls : List (WatchPoll W)) (process : WatchProcess W) : WatchProcess W :=
  polls.foldl (fun process poll => finalState (collectPoll text client poll process)) process

/-- What each poll of a run published completely. -/
def deliveries : List (WatchPoll W) → WatchProcess W → List (List DeploymentObservation)
  | [], _ => []
  | poll :: rest, process =>
      poll.delivered text client process ::
        deliveries rest (finalState (collectPoll text client poll process))

end Collection

end StateFlow.Adapters
