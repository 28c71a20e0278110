import StateFlow.Construction.Adapters.Kubernetes

namespace StateFlow.Adapters
open Python Table Effect Plane

/-- A cursor holds one version for each kind of resource. -/
structure KubernetesWatchCursor where
  nodeResourceVersion : String := ""
  podResourceVersion : String := ""

def KubernetesWatchCursor.initialized (cursor : KubernetesWatchCursor) : Bool :=
  cursor.nodeResourceVersion ≠ "" && cursor.podResourceVersion ≠ ""

structure KubernetesWatchBatch where
  observations : List DeploymentObservation
  cursor : KubernetesWatchCursor
  relisted : Bool := false
  events : Nat := 0

/-- These kinds of resources are watched. -/
inductive Resource where
  | nodes
  | pods
  deriving DecidableEq, Repr

/-- The answers of the server during one poll. A watch starts behind a version. -/
structure ApiAnswers where
  list : Resource → Except SourceFailure Value
  watch : Resource → String → Except SourceFailure (List Value)
  clock : Int

section Watch
variable (text : Text) (client : KubernetesSourceClient) (timestamp : Int)

def nodeList (items : List Value) : Value := .dict [("kind", .str "NodeList"), ("items", .list items)]

def podList (items : List Value) : Value := .dict [("kind", .str "PodList"), ("items", .list items)]

/-- `decode_resource` decodes a list of one item. -/
def decodeResource (deleted : Bool) (resource : Resource) (item : Value) :
    Except SourceFailure (List DeploymentObservation) :=
  match resource with
  | .nodes => decode text client timestamp deleted (nodeList [item]) (podList [])
  | .pods => decode text client timestamp deleted (nodeList []) (podList [item])

/-- A list payload has to carry its version. -/
def listResourceVersion (payload : Value) : Except SourceFailure String := do
  match getD (← mapping payload) "metadata" .none with
  | .dict metadata =>
      let version := getD metadata "resourceVersion" .none
      if version.truthy then return text.str version else throw .client
  | _ => throw .client

def objectResourceVersion (item : List (String × Value)) : String :=
  match getD item "metadata" .none with
  | .dict metadata => textOf text metadata "resourceVersion" ""
  | _ => ""

def statusCode (item : List (String × Value)) : Int :=
  match text.int (getD item "code" (.int 0)) with
  | .ok code => code
  | .error _ => 0

/-- What a watch has read so far. -/
structure WatchProgress where
  observations : List DeploymentObservation
  version : String
  events : Nat

/-- The object of an event. Any other value counts as an empty one. -/
def eventObject (event : List (String × Value)) : List (String × Value) :=
  match getD event "object" .none with
  | .dict item => item
  | _ => []

/-- An event advances the version. A bookmark does nothing else. -/
def watchEvent (resource : Resource) (progress : WatchProgress) (event : List (String × Value)) :
    Except SourceFailure WatchProgress := do
  let eventType := text.upper (textOf text event "type" "")
  let item := eventObject event
  if eventType = "ERROR" then
    if statusCode text item = 410 then throw .expired else throw .client
  let eventVersion := objectResourceVersion text item
  let version := if eventVersion = "" then progress.version else eventVersion
  if eventType = "BOOKMARK" then
    return { progress with version := version, events := progress.events + 1 }
  if eventType ∉ ["ADDED", "MODIFIED", "DELETED"] then throw .client
  let decoded ← decodeResource text client timestamp (decide (eventType = "DELETED")) resource
    (.dict item)
  return ⟨progress.observations ++ decoded, version, progress.events + 1⟩

/-- `_watch_resource` reads the events behind a version in order. -/
def watchResource (answers : ApiAnswers) (resource : Resource) (version : String) :
    Except SourceFailure WatchProgress := do
  let events ← (← answers.watch resource version).mapM mapping
  events.foldlM (watchEvent text client answers.clock resource) ⟨[], version, 0⟩

/-- `relist` reads both lists and takes their versions. -/
def relist (answers : ApiAnswers) : Except SourceFailure KubernetesWatchBatch := do
  let nodePayload ← answers.list .nodes
  let podPayload ← answers.list .pods
  let observations ← decode text client answers.clock false nodePayload podPayload
  let cursor := ⟨← listResourceVersion text nodePayload, ← listResourceVersion text podPayload⟩
  return { observations := observations, cursor := cursor, relisted := true }

def watchBoth (answers : ApiAnswers) (cursor : KubernetesWatchCursor) :
    Except SourceFailure KubernetesWatchBatch := do
  let nodes ← watchResource text client answers .nodes cursor.nodeResourceVersion
  let pods ← watchResource text client answers .pods cursor.podResourceVersion
  return {
    observations := nodes.observations ++ pods.observations
    cursor := ⟨nodes.version, pods.version⟩
    events := nodes.events + pods.events }

/-- An expired version is answered by a relist. -/
def collectBatch (answers : ApiAnswers) (cursor : KubernetesWatchCursor) :
    Except SourceFailure KubernetesWatchBatch :=
  if cursor.initialized then
    match watchBoth text client answers cursor with
    | .error .expired => relist text client answers
    | .error (.http status) =>
        if status = 410 then relist text client answers else .error (.http status)
    | result => result
  else relist text client answers

end Watch

structure CollectionReport where
  source : String
  observations : Nat
  accepted : Nat
  rejected : Nat
  watermark : String

def AdapterPublishReport.results (report : AdapterPublishReport) : List WriteResult :=
  report.stateResults ++ report.relationResults

def AdapterPublishReport.accepted (report : AdapterPublishReport) : Nat :=
  report.results.countP WriteResult.accepted

def AdapterPublishReport.rejected (report : AdapterPublishReport) : Nat :=
  report.results.length - report.accepted

/-- The process of the adapter keeps its cursor between the polls. -/
structure KubernetesProcess where
  world : World
  cursor : KubernetesWatchCursor := {}

/-- An exception of the adapter leaves the process. -/
def onWorld {A : Type} (action : EStateM Exception World A) :
    EStateM SourceFailure KubernetesProcess A := fun process =>
  match action process.world with
  | .ok value world => .ok value { process with world := world }
  | .error exception world => .error (.raised exception) { process with world := world }

def KubernetesWatchCursor.watermark (cursor : KubernetesWatchCursor) : String :=
  "nodes=" ++ cursor.nodeResourceVersion ++ ";pods=" ++ cursor.podResourceVersion

/-- One poll publishes a batch before it moves the cursor. -/
def collectKubernetes (config : PlaneConfig) (text : Text) (client : KubernetesSourceClient)
    (answers : ApiAnswers) : EStateM SourceFailure KubernetesProcess CollectionReport := do
  let batch ← lift (collectBatch text client answers (← get).cursor)
  let reports ← batch.observations.mapM fun observation =>
    onWorld (publishDeployment config answers.clock observation)
  modify fun process => { process with cursor := batch.cursor }
  return {
    source := "kubernetes-watch"
    observations := batch.observations.length
    accepted := (reports.map AdapterPublishReport.accepted).sum
    rejected := (reports.map AdapterPublishReport.rejected).sum
    watermark := batch.cursor.watermark }

end StateFlow.Adapters
