import Mathlib.Data.Prod.Lex
import Mathlib.Data.String.Basic
import Mathlib.Order.WithBot
import StateFlow.Library.Selection
import StateFlow.Construction.Control.Journal
import StateFlow.Construction.Prediction.Service

namespace StateFlow.Control
open Python Table Effect State Plane Predictions Selection

inductive KVActionType where
  | keep | offload | prefetch | migrate
  deriving DecidableEq, Repr

def KVActionType.value : KVActionType → String
  | keep => "keep"
  | offload => "offload"
  | prefetch => "prefetch"
  | migrate => "migrate"

/-- A target names a location and has no negative measure. -/
structure KVTarget where
  locationRef : String
  tier : String
  effectiveBwBytesPerSecond : ℚ := 0
  transferSetupSeconds : ℚ := 0
  hbmCapacityBytes : Int := 0
  networkByteCost : ℚ := 0
  storageIoByteCost : ℚ := 0
  available : Bool := true
  healthy : Bool := true
  located : locationRef ≠ ""
  tiered : tier ≠ ""
  nonneg : 0 ≤ effectiveBwBytesPerSecond ∧ 0 ≤ transferSetupSeconds ∧ 0 ≤ hbmCapacityBytes
    ∧ 0 ≤ networkByteCost ∧ 0 ≤ storageIoByteCost

def isHbm (lower : String → String) (target : KVTarget) : Bool :=
  lower target.tier ∈ ["hbm", "gpu", "gpu_hbm"]

/-- An owner manages some prefix and may always keep. -/
structure KVActionOwner where
  componentRef : String
  managedKvPrefixes : List String
  allowedActions : List KVActionType := [.keep, .offload, .prefetch, .migrate]
  named : componentRef ≠ ""
  managing : managedKvPrefixes ≠ [] ∧ "" ∉ managedKvPrefixes
  keeps : .keep ∈ allowedActions

def KVActionOwner.manages (owner : KVActionOwner) (kvRef : String) : Bool :=
  owner.managedKvPrefixes.any fun part => kvRef.startsWith part

structure KVControlRequest where
  snapshotId : String
  kvRef : String
  targets : List KVTarget
  agentRef : String := ""
  expectedStateOwner : String := ""
  policyVersion : String := "agent-aware-kv-0.1"
  named : snapshotId ≠ "" ∧ kvRef ≠ "" ∧ policyVersion ≠ ""

/-- The thresholds of the controller are shares. -/
structure KVControllerConfig where
  minSnapshotCompleteness : ℚ := 1 / 2
  minPredictionConfidence : ℚ := 1 / 2
  offloadHbmPressure : ℚ := 9 / 10
  offloadMaxReuseProbability : ℚ := 3 / 10
  prefetchMinReuseProbability : ℚ := 6 / 10
  prefetchHorizonSeconds : ℚ := 5
  maxPrefetchHbmPressure : ℚ := 98 / 100
  reservationTtlSeconds : ℚ := 5
  offloadPhases : List String := ["TOOL_WAITING", "BLOCKED", "PAUSED"]
  stableTransferStates : List String := ["idle", "resident", "ready"]
  shares : ∀ share ∈ [minSnapshotCompleteness, minPredictionConfidence, offloadHbmPressure,
    offloadMaxReuseProbability, prefetchMinReuseProbability, maxPrefetchHbmPressure],
    0 ≤ share ∧ share ≤ 1
  timed : 0 ≤ prefetchHorizonSeconds ∧ 0 < reservationTtlSeconds
  stable : stableTransferStates ≠ [] ∧ "" ∉ stableTransferStates

/-- The plan names its selected target and what it observed. -/
structure KVControlPlan where
  decision : DecisionRecord
  predictions : List Prediction
  currentLocation : String
  selectedTarget : String
  phase : Option String
  reuseProbability : Option ℚ
  resumeSeconds : Option ℚ
  hbmPressure : Option ℚ

section Readings
variable (snapshot : Snapshot) (entityRef key : String)

def readings : List StateValue :=
  snapshot.values.filter fun item => item.entityRef = entityRef ∧ item.key = key

/-- A snapshot holds at most one value of an entity under a key. -/
def stateValue : Except Exception (Option Value) :=
  match readings snapshot entityRef key with
  | [] => .ok none
  | [item] => .ok (some item.value)
  | _ => .error .valueError

/-- A reading is a non-negative number. -/
def optionalReading : Except Exception (Option ℚ) := do
  match ← stateValue snapshot entityRef key with
  | none => return none
  | some value => return some (← numeric value)

def requiredReading : Except Exception ℚ := do
  match ← optionalReading snapshot entityRef key with
  | some value => return value
  | none => throw .runtimeError

def optionalText : Except Exception (Option String) := do
  match ← stateValue snapshot entityRef key with
  | none => return none
  | some value =>
      match value.text? with
      | some text => return some text
      | none => throw .valueError

def requiredText : Except Exception String := do
  match ← optionalText snapshot entityRef key with
  | some text => if text = "" then throw .runtimeError else return text
  | none => throw .runtimeError

def optionalInstant (text : Text) : Except Exception (Option Int) := do
  match ← stateValue snapshot entityRef key with
  | none => return none
  | some value =>
      match value, value.text? with
      | .datetime instant, _ => return some instant
      | _, some instant =>
          match ← parseInstant text instant with
          | .datetime instant => return some instant
          | _ => throw .valueError
      | _, none => throw .valueError

end Readings

/-- The pressure of the current location needs both of its own readings. -/
def hbmPressure (lower : String → String) (snapshot : Snapshot) (target : KVTarget) :
    Except Exception (Option ℚ) :=
  if !isHbm lower target || target.hbmCapacityBytes ≤ 0 then .ok none
  else do
    let used ← optionalReading snapshot target.locationRef "resource.hbm.used"
    let reserved ← optionalReading snapshot target.locationRef "resource.hbm.reserved"
    return do return ((← used) + (← reserved)) / target.hbmCapacityBytes

/-- The location of a target decides the action that moves there. -/
def actionType (lower : String → String) (current target : KVTarget) : KVActionType :=
  if current.locationRef = target.locationRef then .keep
  else if isHbm lower current && !isHbm lower target then .offload
  else if !isHbm lower current && isHbm lower target then .prefetch
  else .migrate

/-- A controller belongs to an owner and plans against the plane. -/
structure AgentAwareKVController where
  text : Text
  owner : KVActionOwner
  config : KVControllerConfig
  service : PredictionService
  entities : String → Option GraphEntity
  snapshots : SnapshotTable

section Candidates
variable (controller : AgentAwareKVController) (snapshot : Snapshot) (request : KVControlRequest)

def validateOwnership : Except Exception (GraphEntity × GraphEntity) := do
  if !controller.owner.manages request.kvRef then throw .permissionError
  match controller.entities request.kvRef with
  | none => throw .keyError
  | some kvEntity =>
      if kvEntity.entityType ≠ "stateful_object" then throw .keyError
      if kvEntity.ownerComponentRef = "" then throw .permissionError
      if request.expectedStateOwner ≠ ""
          ∧ kvEntity.ownerComponentRef ≠ request.expectedStateOwner then throw .permissionError
      match controller.entities controller.owner.componentRef with
      | none => throw .keyError
      | some ownerEntity =>
          if ownerEntity.entityType ≠ "component" then throw .keyError
          return (kvEntity, ownerEntity)

/-- The memory of a move is that of its HBM end. -/
def hbmResource (current target : KVTarget) : Option KVTarget :=
  if isHbm controller.text.lower target then some target
  else if isHbm controller.text.lower current then some current
  else none

def resourceReading (resource : Option KVTarget) (key : String) : Except Exception (Option ℚ) :=
  match resource with
  | some resource => optionalReading snapshot resource.locationRef key
  | none => .ok none

/-- A present number becomes one parameter. -/
def optionalParameter (name : String) (value : Option ℚ) : List (String × Value) :=
  match value with
  | some value => [(name, .float value)]
  | none => []

/-- The parameters of a move. A missing reading leaves its parameter out. -/
def moveParameters (current target : KVTarget) (size : Int) (used reserved : Option ℚ) :
    List (String × Value) :=
  let toHbm := isHbm controller.text.lower target
  let moved := decide (target.locationRef ≠ current.locationRef)
  let bytes := if moved then size else 0
  let capacity := match hbmResource controller current target with
    | some resource => if 0 < resource.hbmCapacityBytes then
        [("hbm_capacity_bytes", Value.int resource.hbmCapacityBytes)] else []
    | none => []
  [("kv_ref", .str request.kvRef), ("source_location", .str current.locationRef),
    ("target_location", .str target.locationRef), ("target_kv_location", .str target.locationRef),
    ("transfer_bytes", .int bytes), ("transfer_setup_seconds", .float target.transferSetupSeconds),
    ("network_byte_cost", .float target.networkByteCost),
    ("storage_io_bytes", .int (if toHbm then 0 else bytes)),
    ("storage_io_byte_cost", .float target.storageIoByteCost),
    ("predicted_kv_growth_bytes", .int (if toHbm && moved then size else 0)),
    ("hbm_release_bytes", .int (if isHbm controller.text.lower current && !toHbm then size else 0)),
    ("base_success_probability", .float 1)]
  ++ (if bytes = 0 ∨ 0 < target.effectiveBwBytesPerSecond then
      [("effective_bw_bytes_per_second", .float target.effectiveBwBytesPerSecond)] else [])
  ++ capacity
  ++ optionalParameter "hbm_used_bytes" used
  ++ optionalParameter "hbm_reserved_bytes" reserved

def moveCandidate (current target : KVTarget) (parameters : List (String × Value)) :
    CandidateAction :=
  let action := actionType controller.text.lower current target
  { actionType := action.value
    targetComponent := controller.owner.componentRef
    parameters := parameters
    candidateId := "candidate:kv:" ++ toString snapshot.logicalTime ++ ":" ++ request.kvRef ++ ":"
      ++ action.value ++ ":" ++ target.locationRef }

/-- A disallowed or unusable target yields no candidate. -/
def proposes (current target : KVTarget) : Bool :=
  decide (actionType controller.text.lower current target ∈ controller.owner.allowedActions)
  && (decide (target.locationRef = current.locationRef) || (target.available && target.healthy))

def candidate (current : KVTarget) (size : Int) (target : KVTarget) :
    Except Exception CandidateAction := do
  let resource := hbmResource controller current target
  let used ← resourceReading snapshot resource "resource.hbm.used"
  let reserved ← resourceReading snapshot resource "resource.hbm.reserved"
  return moveCandidate controller snapshot request current target
    (moveParameters controller request current target size used reserved)

/-- A candidate and the target that it moves to. -/
structure Move where
  target : KVTarget
  action : CandidateAction

def candidates (current : KVTarget) (size : Int) : Except Exception (List Move) := do
  let moves ← (request.targets.filter (proposes controller current)).mapM fun target => do
    return Move.mk target (← candidate controller snapshot request current size target)
  if moves.any fun move => move.action.actionType = KVActionType.keep.value then return moves
  throw .runtimeError

end Candidates

/-- The observed signals of the agent and of its cache. -/
structure KVSignals where
  phase : Option String
  reuse : Option ℚ
  resumeSeconds : Option ℚ
  hbmPressure : Option ℚ
  transferState : Option String

section Select
variable (controller : AgentAwareKVController) (snapshot : Snapshot) (current : KVTarget)
  (signals : KVSignals)

/-- The signals ask for one kind of move or for none. -/
def desiredAction : Option (KVActionType × String) :=
  let config := controller.config
  let hot := isHbm controller.text.lower current
  if hot && signals.phase.any (fun phase => phase ∈ config.offloadPhases)
      && signals.hbmPressure.any (fun pressure => config.offloadHbmPressure ≤ pressure)
      && signals.reuse.any (fun reuse => reuse ≤ config.offloadMaxReuseProbability) then
    some (.offload, "hbm_pressure_offload")
  else if !hot && signals.resumeSeconds.any (fun seconds => seconds ≤ config.prefetchHorizonSeconds)
      && signals.reuse.any (fun reuse => config.prefetchMinReuseProbability ≤ reuse) then
    some (.prefetch, "expected_resume_prefetch")
  else none

abbrev Pair := Move × Prediction

/-- A usable prediction is confident, complete, and knows its transfer time. -/
def usable (desired : KVActionType) (pair : Pair) : Bool :=
  pair.1.action.actionType = desired.value
  && controller.config.minPredictionConfidence ≤ pair.2.confidence.value
  && pair.2.fallback = "none" && pair.2.performance.transferEtaSeconds.isSome

/-- The predicted pressure of the target stays below the limit. -/
def resourceSafe (pair : Pair) : Bool :=
  pair.2.futureState.hbmPressure.any fun pressure =>
    pressure ≤ controller.config.maxPrefetchHbmPressure

/-- An unknown cost ranks last. -/
def pairKey (pair : Pair) : ℚ ×ₗ WithTop ℚ ×ₗ String :=
  toLex (pair.2.performance.transferEtaSeconds.getD 0,
    toLex (match pair.2.cost.monetaryCost with
      | some cost => (cost : WithTop ℚ)
      | none => ⊤, pair.1.target.locationRef))

/-- Every unmet condition keeps the cache where it is. -/
def selectPair (pairs : List Pair) : Except Exception (Pair × String) :=
  match pairs.find? fun pair => pair.1.action.actionType = KVActionType.keep.value with
  | none => .error .runtimeError
  | some keep =>
      if snapshot.completeness < controller.config.minSnapshotCompleteness then
        .ok (keep, "snapshot_incomplete_keep")
      else
        match desiredAction controller current signals with
        | none => .ok (keep, "baseline_keep")
        | some (desired, reason) =>
            if !signals.transferState.any
                (fun state => state ∈ controller.config.stableTransferStates) then
              .ok (keep, "transfer_state_unsafe_keep")
            else
              let eligible := pairs.filter (usable controller desired)
              if eligible.isEmpty then .ok (keep, "prediction_fallback_keep")
              else
                let safe := if desired = .prefetch then eligible.filter (resourceSafe controller)
                  else eligible
                match safe.argmin pairKey with
                | some best => .ok (best, reason)
                | none => .ok (keep, "resource_guard_keep")

end Select

/-- The process generates the identifiers of a plan and its instant. -/
structure PlanIds where
  prediction : Nat → String
  decision : String
  action : String
  timestamp : Int

/-- The controller journals its predictions and its decisions. -/
structure KVJournals where
  predictions : List PredictionRecord := []
  control : InMemoryControlJournal := {}

section Plan
variable (controller : AgentAwareKVController) (ids : PlanIds) (request : KVControlRequest)

/-- A move to another HBM target proposes a reservation and every move names its rollback. -/
def moveAction (snapshot : Snapshot) (kvEntity ownerEntity : GraphEntity) (current : KVTarget)
    (selected : Pair) (size : Int) (transferState : Option String) (expiresAt : Int) : Action :=
  let target := selected.1.target
  let candidate := selected.1.action
  let moved := decide (target.locationRef ≠ current.locationRef)
  { targetComponent := ownerEntity.ref
    actionType := candidate.actionType
    parameters := candidate.parameters ++ [("candidate_id", .str candidate.candidateId),
      ("size_bytes", .int size)]
    preconditions := [("snapshot_id", .str snapshot.token),
      ("snapshot_logical_time", .int snapshot.logicalTime), ("kv_ref", .str request.kvRef),
      ("expected_location", .str current.locationRef),
      ("expected_state_owner", .str kvEntity.ownerComponentRef),
      ("action_owner", .str controller.owner.componentRef),
      ("expected_transfer_state", (transferState.map Value.str).getD .none)]
    idempotencyKey := "kv:" ++ snapshot.token ++ ":" ++ candidate.candidateId
    reservations := if isHbm controller.text.lower target && moved then
      [⟨target.locationRef, controller.owner.componentRef, .ofList [("hbm_bytes", (size : ℚ))],
        expiresAt, "proposed"⟩] else []
    timeoutSeconds := max 1 ((selected.2.performance.transferEtaSeconds.getD 0) * 2)
    rollbackAction := if candidate.actionType = KVActionType.keep.value then [] else
      [("action_type", .str KVActionType.migrate.value), ("kv_ref", .str request.kvRef),
        ("target_location", .str current.locationRef)]
    dryRun := true
    actionId := ids.action }

/-- A request without an agent knows neither its phase nor its return. -/
def agentText (snapshot : Snapshot) (agentRef : String) : Except Exception (Option String) :=
  if agentRef = "" then .ok none else optionalText snapshot agentRef "agent.phase"

def agentResume (text : Text) (snapshot : Snapshot) (agentRef : String) :
    Except Exception (Option Int) :=
  if agentRef = "" then .ok none
  else optionalInstant snapshot agentRef "agent.expected_resume_time" text

/-- What the controller reads before it proposes anything. -/
structure Observed where
  snapshot : Snapshot
  kvEntity : GraphEntity
  ownerEntity : GraphEntity
  size : Int
  current : KVTarget
  signals : KVSignals

def observe : Except Exception Observed := do
  match controller.snapshots.read request.snapshotId with
  | none => throw .keyError
  | some snapshot =>
      let (kvEntity, ownerEntity) ← validateOwnership controller request
      if request.targets.isEmpty then throw .runtimeError
      if ¬ (request.targets.map KVTarget.locationRef).Nodup then throw .valueError
      let size ← requiredReading snapshot request.kvRef "kv.size"
      let location ← requiredText snapshot request.kvRef "kv.location"
      match request.targets.find? fun target => target.locationRef = location with
      | none => throw .runtimeError
      | some current =>
          let reuse ← optionalReading snapshot request.kvRef "kv.reuse_probability"
          let transferState ← optionalText snapshot request.kvRef "kv.transfer_state"
          let phase ← agentText snapshot request.agentRef
          let resume ← agentResume controller.text snapshot request.agentRef
          let pressure ← hbmPressure controller.text.lower snapshot current
          let seconds := resume.map fun instant =>
            max 0 (((instant - snapshot.createdAt : Int) : ℚ) / 1000000)
          return ⟨snapshot, kvEntity, ownerEntity, ⌊size⌋, current,
            ⟨phase, reuse, seconds, pressure, transferState⟩⟩

/-- A reservation expires inside the calendar. -/
def reservationExpiry (observed : Observed) (target : KVTarget) : Except Exception Int :=
  if isHbm controller.text.lower target && target.locationRef ≠ observed.current.locationRef then do
    match ← timedeltaOfSeconds controller.config.reservationTtlSeconds with
    | .timedelta ttl => addDuration observed.snapshot.createdAt ttl
    | _ => throw .typeError
  else .ok 0

def planDecision (observed : Observed) (moves : List Move) (predictions : List Prediction)
    (action : Action) (reason : String) (confidence : String × String) : DecisionRecord where
  snapshotId := observed.snapshot.token
  policyVersion := request.policyVersion
  candidateIds := moves.map fun move => move.action.candidateId
  predictionIds := predictions.map Prediction.predictionId
  modelVersions := sortedSet (predictions.map Prediction.modelVersion)
  selectedAction := action
  reason := reason
  constraints := ["snapshot_completeness=" ++ confidence.1,
    "prediction_confidence=" ++ confidence.2, "owner=" ++ controller.owner.componentRef]
  decisionId := ids.decision
  timestamp := ids.timestamp

def onPredictions {A : Type} (action : EStateM Exception (List PredictionRecord) A) :
    EStateM Exception KVJournals A :=
  zoom KVJournals.predictions (fun journals records => { journals with predictions := records }) action

def onControl {A : Type} (action : EStateM Exception InMemoryControlJournal A) :
    EStateM Exception KVJournals A :=
  zoom KVJournals.control (fun journals control => { journals with control := control }) action

/-- A prediction service answers the requests of a plan, or it raises. -/
abbrev ManyPredictions :=
  List (PredictionRequest × String) → EStateM Exception (List PredictionRecord) (List Prediction)

/-- `plan` journals one dry-run decision over the predictions of a service. -/
def planWith (service : ManyPredictions) (format : ℚ → String) :
    EStateM Exception KVJournals KVControlPlan := do
  let observed ← lift (observe controller request)
  let snapshot := observed.snapshot
  let moves ← lift (candidates controller snapshot request observed.current observed.size)
  let requests := moves.zipIdx.map fun entry =>
    (PredictionRequest.mk snapshot.token entry.1.action, ids.prediction entry.2)
  let predictions ← onPredictions (service requests)
  let (selected, reason) ← lift (selectPair controller snapshot observed.current observed.signals
    (moves.zip predictions))
  let target := selected.1.target
  let expiresAt ← lift (reservationExpiry controller observed target)
  let action := moveAction controller ids request snapshot observed.kvEntity observed.ownerEntity
    observed.current selected observed.size observed.signals.transferState expiresAt
  let decision := planDecision controller ids request observed moves predictions action reason
    (format snapshot.completeness, format selected.2.confidence.value)
  let _ ← onControl (recordDecision decision predictions)
  return ⟨decision, predictions, observed.current.locationRef, target.locationRef,
    observed.signals.phase, observed.signals.reuse, observed.signals.resumeSeconds,
    observed.signals.hbmPressure⟩

/-- The own service of the controller runs the analytical model. -/
def plan (format : ℚ → String) : EStateM Exception KVJournals KVControlPlan :=
  planWith controller ids request (predictMany controller.service controller.snapshots) format

end Plan

end StateFlow.Control
