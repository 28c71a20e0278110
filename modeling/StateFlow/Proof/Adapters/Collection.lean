import StateFlow.Library.Delivery
import StateFlow.Construction.Adapters.Collection
import StateFlow.Proof.Adapters.Lifecycles

namespace StateFlow.Adapters
open Python Table Effect Plane Replica Delivery

section Failures

/-- A result does not report an expired version. -/
def Unexpired {A : Type} (result : Except SourceFailure A) : Prop :=
  ∀ failure, result = .error failure → failure ≠ .expired ∧ failure ≠ .http 410

theorem unexpired_ok {A : Type} (value : A) :
    Unexpired (.ok value : Except SourceFailure A) := fun _ failed => by cases failed

theorem unexpired_client {A : Type} :
    Unexpired (.error .client : Except SourceFailure A) := by
  intro failure failed
  cases failed
  exact ⟨by decide, by decide⟩

theorem unexpired_raised {A : Type} (result : Except Exception A) : Unexpired (raised result) := by
  intro failure failed
  cases result with
  | ok value => cases failed
  | error exception =>
      cases failed
      simp

theorem unexpired_bind {A B : Type} {program : Except SourceFailure A}
    {next : A → Except SourceFailure B} (first : Unexpired program)
    (rest : ∀ value, program = .ok value → Unexpired (next value)) : Unexpired (program >>= next) := by
  cases program with
  | error failure => exact fun other failed => first other (by cases failed; rfl)
  | ok value => exact rest value rfl

theorem unexpired_mapM {A B : Type} {body : A → Except SourceFailure B} {items : List A}
    (each : ∀ item ∈ items, Unexpired (body item)) : Unexpired (items.mapM body) := by
  induction items with
  | nil => exact unexpired_ok _
  | cons item rest ih =>
      rw [List.mapM_cons]
      exact unexpired_bind (each item List.mem_cons_self) fun _ _ => unexpired_bind
        (ih fun other listed => each other (List.mem_cons_of_mem _ listed)) fun _ _ => unexpired_ok _

theorem unexpired_foldlM {A B : Type} {body : B → A → Except SourceFailure B} {items : List A}
    (each : ∀ item ∈ items, ∀ start, Unexpired (body start item)) (start : B) :
    Unexpired (items.foldlM body start) := by
  induction items generalizing start with
  | nil => exact unexpired_ok _
  | cons item rest ih =>
      rw [List.foldlM_cons]
      exact unexpired_bind (each item List.mem_cons_self start) fun next _ =>
        ih (fun other listed => each other (List.mem_cons_of_mem _ listed)) next

theorem unexpired_mapping (value : Value) : Unexpired (mapping value) := by
  unfold mapping
  split
  · exact unexpired_ok _
  · exact unexpired_client

end Failures

section Watches
variable {text : Text} {client : KubernetesSourceClient} {timestamp : Int}

theorem unexpired_decodeNode (deleted : Bool) (item : List (String × Value)) :
    Unexpired (decodeNode text client timestamp deleted item) := by
  unfold decodeNode
  refine unexpired_bind (unexpired_mapping _) fun metadata _ => ?_
  refine unexpired_bind (unexpired_mapping _) fun status _ => ?_
  simp only
  split
  · exact unexpired_ok _
  · have health : Unexpired (observedHealth text deleted status) := by
      unfold observedHealth
      split
      · exact unexpired_ok _
      · exact unexpired_bind (unexpired_raised _) fun _ _ => unexpired_ok _
    exact unexpired_bind health fun _ _ =>
      unexpired_bind (unexpired_raised _) fun _ _ => unexpired_ok _

theorem unexpired_decodePod (deleted : Bool) (item : List (String × Value)) :
    Unexpired (decodePod text client timestamp deleted item) := by
  unfold decodePod
  refine unexpired_bind (unexpired_mapping _) fun metadata _ => ?_
  refine unexpired_bind (unexpired_mapping _) fun spec _ => ?_
  refine unexpired_bind (unexpired_mapping _) fun status _ => ?_
  simp only
  split
  · exact unexpired_ok _
  · have ready : Unexpired (observedReady text deleted status) := by
      unfold observedReady
      split
      · exact unexpired_ok _
      · exact unexpired_raised _
    exact unexpired_bind ready fun _ _ =>
      unexpired_bind (unexpired_raised _) fun _ _ => unexpired_ok _

theorem unexpired_decodeResource (deleted : Bool) (resource : Resource)
    (item : List (String × Value)) :
    Unexpired (decodeResource text client timestamp deleted resource (.dict item)) := by
  have decoded := @decodeResource_eq text client timestamp ⟨item, deleted⟩ resource
  simp only at decoded
  rw [decoded]
  have read : Unexpired (decodeChange text client timestamp ⟨item, deleted⟩ resource) := by
    cases resource with
    | nodes => exact unexpired_decodeNode deleted item
    | pods => exact unexpired_decodePod deleted item
  exact unexpired_bind read fun _ _ => unexpired_ok _

/-- Only an error event with the status of an expiry reports one. -/
theorem unexpired_watchEvent {resource : Resource} {event : List (String × Value)}
    (unexpired : eventType text event = "ERROR" → statusCode text (eventObject event) ≠ 410)
    (progress : WatchProgress) :
    Unexpired (watchEvent text client timestamp resource progress event) := by
  unfold eventType at unexpired
  unfold watchEvent
  simp only
  split
  · rename_i failed
    rw [if_neg (unexpired failed)]
    exact unexpired_client
  · split
    · exact unexpired_ok _
    · split
      · exact unexpired_client
      · exact unexpired_bind (unexpired_decodeResource _ _ _) fun _ _ => unexpired_ok _

end Watches

section Served
variable (text : Text) (client : KubernetesSourceClient) (cluster : Cluster)

/-- A watch answers with the changes behind its version in order, or it fails. No version has
expired. -/
structure Serves (cursor : KubernetesWatchCursor) (answers : ApiAnswers) : Prop where
  watches : ∀ resource values events,
    answers.watch resource (cursor.version resource) = .ok values →
    values.mapM mapping = .ok events → ∃ changes, Streams text cluster resource
      (cluster.position resource (cursor.version resource)) changes events
  current : ∀ resource, Unexpired (answers.watch resource (cursor.version resource))
  unexpired : ∀ resource values events,
    answers.watch resource (cursor.version resource) = .ok values →
    values.mapM mapping = .ok events → ∀ event ∈ events, eventType text event = "ERROR" →
      statusCode text (eventObject event) ≠ 410

/-- The observation of a change without its instant. -/
def observe (resource : Resource) (change : ClusterChange) : Option DeploymentObservation :=
  match decodeChange text client 0 change resource with
  | .ok decoded => decoded
  | .error _ => none

def undated (observation : DeploymentObservation) : DeploymentObservation :=
  { observation with observedAt := 0 }

/-- A node observation belongs to the nodes and any other one to the pods. -/
def Resource.owns : Resource → DeploymentObservation → Bool
  | .nodes, observation => observation.ofNode
  | .pods, observation => !observation.ofNode

/-- The delivered observations of a resource without their instants. -/
def shown (resource : Resource) (delivered : List DeploymentObservation) :
    List DeploymentObservation :=
  (delivered.filter resource.owns).map undated

variable {text client cluster} {cursor : KubernetesWatchCursor} {answers : ApiAnswers}
  {resource : Resource}

/-- A served poll watches and does not list again. -/
theorem Serves.both (serves : Serves text cluster cursor answers) :
    Unexpired (watchBoth text client answers cursor) := by
  have watch (resource : Resource) :
      Unexpired (watchResource text client answers resource (cursor.version resource)) := by
    unfold watchResource
    refine unexpired_bind (serves.current resource) fun values answered => ?_
    refine unexpired_bind (unexpired_mapM fun value _ => unexpired_mapping value) fun events read => ?_
    exact unexpired_foldlM (fun event listed progress => unexpired_watchEvent
      (serves.unexpired resource values events answered read event listed) progress) _
  unfold watchBoth
  exact unexpired_bind (watch .nodes) fun _ _ =>
    unexpired_bind (watch .pods) fun _ _ => unexpired_ok _

theorem Serves.batch (serves : Serves text cluster cursor answers)
    (initialized : cursor.initialized = true) :
    collectBatch text client answers cursor = watchBoth text client answers cursor := by
  have unexpired := @Serves.both text client _ _ _ serves
  unfold collectBatch
  rw [if_pos initialized]
  cases ran : watchBoth text client answers cursor with
  | ok batch => rfl
  | error failure =>
      obtain ⟨current, status⟩ := unexpired failure ran
      cases failure with
      | expired => exact absurd rfl current
      | http code =>
          have other : code ≠ 410 := fun same => status (by rw [same])
          exact if_neg other
      | client => rfl
      | raised exception => rfl

theorem undated_of_decodeChange {timestamp : Int} {change : ClusterChange}
    {decoded : Option DeploymentObservation}
    (returned : decodeChange text client timestamp change resource = .ok decoded) :
    decoded.map undated = observe text client resource change := by
  have still := @decodeChange_timestamp text client 0 change resource
  rw [decodeChange_timestamp] at returned
  unfold observe
  cases read : decodeChange text client 0 change resource with
  | error failure => rw [read] at returned; cases returned
  | ok observation =>
      rw [read] at returned still
      cases returned
      have same := Except.ok.inj still
      cases observation with
      | none => rfl
      | some observation => exact same.symm

/-- The decoded changes are observed in order. -/
theorem Decodes.undated {timestamp : Int} {changes : List ClusterChange}
    {observations : List DeploymentObservation}
    (decodes : Decodes text client timestamp resource changes observations) :
    observations.map undated = changes.filterMap (observe text client resource) := by
  obtain ⟨decoded, returned, rfl⟩ := decodes
  induction changes generalizing decoded with
  | nil => cases returned; rfl
  | cons change rest ih =>
      rw [List.mapM_cons] at returned
      obtain ⟨first, read, continued⟩ := except_bind_ok returned
      obtain ⟨others, reads, finished⟩ := except_bind_ok continued
      cases finished
      have here := undated_of_decodeChange read
      have later := ih others reads
      rw [List.filterMap_cons (f := observe text client resource), ← here, ← later]
      cases first <;> rfl

theorem owns_of_decodeChange {timestamp : Int} {change : ClusterChange}
    {observation : DeploymentObservation}
    (decoded : decodeChange text client timestamp change resource = .ok (some observation)) :
    resource.owns observation = true ∧ ∀ other, other ≠ resource → other.owns observation = false := by
  cases resource with
  | nodes =>
      have node := decodeNode_ofNode decoded
      refine ⟨node, fun other different => ?_⟩
      cases other with
      | nodes => exact absurd rfl different
      | pods => simp [Resource.owns, node]
  | pods =>
      have pod := decodePod_ofNode decoded
      refine ⟨by simp [Resource.owns, pod], fun other different => ?_⟩
      cases other with
      | nodes => exact pod
      | pods => exact absurd rfl different

/-- The observations of a watch belong to its resource. -/
theorem Watched.owned {next : KubernetesWatchCursor} {observations : List DeploymentObservation}
    (watched : Watched text client answers resource cursor next observations)
    (serves : Serves text cluster cursor answers) (other : Resource) :
    observations.filter other.owns = if other = resource then observations else [] := by
  obtain ⟨progress, returned, _, rfl⟩ := watched
  unfold watchResource at returned
  obtain ⟨values, answered, mapped⟩ := except_bind_ok returned
  obtain ⟨events, read, ran⟩ := except_bind_ok mapped
  obtain ⟨part, streams⟩ := serves.watches resource values events answered read
  obtain ⟨_, _, observations, added, decodes⟩ := foldlM_streams streams rfl ran
  rw [List.nil_append] at added
  rw [added]
  split
  · rename_i same
    subst same
    refine List.filter_eq_self.mpr fun observation member => ?_
    obtain ⟨change, _, decoded⟩ := decodes.mem member
    exact (owns_of_decodeChange decoded).1
  · rename_i different
    refine List.filter_eq_nil_iff.mpr fun observation member => ?_
    obtain ⟨change, _, decoded⟩ := decodes.mem member
    simp [(owns_of_decodeChange decoded).2 other different]

/-- A watch brings the observations of the changes between two versions. -/
theorem Watched.between {next : KubernetesWatchCursor} {observations : List DeploymentObservation}
    (watched : Watched text client answers resource cursor next observations)
    (serves : Serves text cluster cursor answers) :
    (∀ values events changes, answers.watch resource (cursor.version resource) = .ok values →
      values.mapM mapping = .ok events →
      Streams text cluster resource (cluster.position resource (cursor.version resource)) changes
        events →
      cluster.position resource (next.version resource) =
        cluster.position resource (cursor.version resource) + changes.length) ∧
    cluster.position resource (cursor.version resource) ≤
      cluster.position resource (next.version resource) ∧
    observations.map undated = between (cluster.changes resource) (observe text client resource)
      (cluster.position resource (cursor.version resource))
      (cluster.position resource (next.version resource)) := by
  obtain ⟨progress, returned, version, rfl⟩ := watched
  unfold watchResource at returned
  obtain ⟨values, answered, mapped⟩ := except_bind_ok returned
  obtain ⟨events, read, ran⟩ := except_bind_ok mapped
  obtain ⟨part, streams⟩ := serves.watches resource values events answered read
  obtain ⟨placed, taken, observations, added, decodes⟩ := foldlM_streams streams rfl ran
  rw [List.nil_append] at added
  rw [← version, added, decodes.undated]
  refine ⟨?_, by omega, ?_⟩
  · intro others found changes again mapped stream
    cases answered.symm.trans again
    cases read.symm.trans mapped
    exact (foldlM_streams stream rfl ran).1
  · have lengths := congrArg List.length taken
    rw [List.length_append, List.length_take, List.length_take] at lengths
    unfold Delivery.between
    rw [placed, taken, List.drop_append, List.length_take, List.drop_eq_nil_of_le (by simp),
      List.nil_append]
    by_cases inside : cluster.position resource (cursor.version resource) ≤
        (cluster.changes resource).length
    · rw [min_eq_left inside, Nat.sub_self, List.drop_zero]
    · have none : part = [] := List.length_eq_zero_iff.mp (by omega)
      rw [none, List.drop_nil]

end Served

section Publication
variable {W : Type} {publish : DeploymentObservation → EStateM Exception W AdapterPublishReport}

theorem completed_prefix (observations : List DeploymentObservation) (world : W) :
    completed publish observations world <+: observations := by
  induction observations generalizing world with
  | nil => exact List.prefix_rfl
  | cons observation rest ih =>
      unfold completed
      split
      · exact List.cons_prefix_cons.mpr ⟨rfl, ih _⟩
      · exact List.nil_prefix

/-- A batch that returned has published all of its observations, and one that raised has not. Both
keep the cursor. -/
theorem publication_cases (observations : List DeploymentObservation) (process : WatchProcess W) :
    (∃ reports next, observations.mapM (fun observation => onTarget (publish observation)) process =
        .ok reports next ∧ next.cursor = process.cursor ∧
      completed publish observations process.world = observations) ∨
    ∃ failure next, observations.mapM (fun observation => onTarget (publish observation)) process =
        .error failure next ∧ next.cursor = process.cursor ∧
      completed publish observations process.world ≠ observations := by
  induction observations generalizing process with
  | nil => exact .inl ⟨[], process, rfl, rfl, rfl⟩
  | cons observation rest ih =>
      rw [List.mapM_cons]
      unfold completed
      cases ran : publish observation process.world with
      | error exception world =>
          refine .inr ⟨.raised exception, { process with world := world }, bind_of_error ?_, rfl,
            (List.cons_ne_nil _ _).symm⟩
          unfold onTarget
          rw [ran]
      | ok report world =>
          have first : onTarget (publish observation) process =
              .ok report { process with world := world } := by
            unfold onTarget
            rw [ran]
          rw [bind_of_ok first]
          rcases ih { process with world := world } with
            ⟨reports, next, later, cursor, all⟩ | ⟨failure, next, later, cursor, part⟩
          · rw [bind_of_ok later]
            exact .inl ⟨report :: reports, next, rfl, cursor, congrArg _ all⟩
          · exact .inr ⟨failure, next, bind_of_error later, cursor,
              fun same => part (List.tail_eq_of_cons_eq same)⟩

end Publication

section Run
variable {W : Type} (text : Text) (client : KubernetesSourceClient) (cluster : Cluster)

/-- A poll raises and keeps the cursor, or it publishes its whole batch and moves the cursor. -/
theorem collectPoll_cases (poll : WatchPoll W) (process : WatchProcess W) :
    (∃ failure next, collectPoll text client poll process = .error failure next ∧
      next.cursor = process.cursor ∧
      ((poll.delivered text client process = [] ∨
        ∃ batch, collectBatch text client poll.answers process.cursor = .ok batch ∧
          poll.delivered text client process <+: batch.observations))) ∨
    ∃ report next batch, collectPoll text client poll process = .ok report next ∧
      collectBatch text client poll.answers process.cursor = .ok batch ∧
      next.cursor = batch.cursor ∧ poll.delivered text client process = batch.observations := by
  unfold collectPoll WatchPoll.delivered
  rw [get_bind]
  cases collected : collectBatch text client poll.answers process.cursor with
  | error failure =>
      rw [lift_bind]
      exact .inl ⟨failure, process, rfl, rfl, .inl rfl⟩
  | ok batch =>
      rw [lift_bind]
      simp only
      rcases @publication_cases W poll.publish batch.observations process with
        ⟨reports, next, ran, _, all⟩ | ⟨failure, next, ran, cursor, _⟩
      · rw [bind_of_ok ran]
        exact .inr ⟨_, _, batch, rfl, rfl, rfl, all⟩
      · rw [bind_of_error ran]
        exact .inl ⟨failure, next, rfl, cursor, .inr ⟨batch, rfl, completed_prefix _ _⟩⟩

/-- A poll returns when it fetches a batch and each of its publications returns. -/
theorem collectPoll_returns {poll : WatchPoll W} {process : WatchProcess W}
    {batch : KubernetesWatchBatch}
    (collected : collectBatch text client poll.answers process.cursor = .ok batch)
    (all : poll.delivered text client process = batch.observations) :
    ∃ report next, collectPoll text client poll process = .ok report next ∧
      next.cursor = batch.cursor := by
  unfold WatchPoll.delivered at all
  unfold collectPoll
  rw [get_bind]
  rw [collected] at all ⊢
  simp only [lift_bind] at all ⊢
  rcases @publication_cases W poll.publish batch.observations process with
    ⟨reports, next, ran, _⟩ | ⟨failure, next, ran, _, part⟩
  · rw [bind_of_ok ran]
    exact ⟨_, _, rfl, rfl⟩
  · exact absurd all part

/-- The server serves each poll of a run. -/
def ServedRun : List (WatchPoll W) → WatchProcess W → Prop
  | [], _ => True
  | poll :: rest, process => Serves text cluster process.cursor poll.answers ∧
      ServedRun rest (finalState (collectPoll text client poll process))

/-- The number of changes behind the version of a resource. -/
def WatchProcess.position (process : WatchProcess W) (resource : Resource) : Nat :=
  cluster.position resource (process.cursor.version resource)

variable {text client cluster} {resource : Resource}

/-- A batch brings the observations of the changes that its cursor moves over. -/
theorem batch_between {cursor : KubernetesWatchCursor} {answers : ApiAnswers}
    {batch : KubernetesWatchBatch} (serves : Serves text cluster cursor answers)
    (initialized : cursor.initialized = true)
    (collected : collectBatch text client answers cursor = .ok batch) (resource : Resource) :
    (∀ values events changes, answers.watch resource (cursor.version resource) = .ok values →
      values.mapM mapping = .ok events →
      Streams text cluster resource (cluster.position resource (cursor.version resource)) changes
        events →
      cluster.position resource (batch.cursor.version resource) =
        cluster.position resource (cursor.version resource) + changes.length) ∧
    cluster.position resource (cursor.version resource) ≤
      cluster.position resource (batch.cursor.version resource) ∧
    shown resource batch.observations =
      between (cluster.changes resource) (observe text client resource)
        (cluster.position resource (cursor.version resource))
        (cluster.position resource (batch.cursor.version resource)) := by
  rw [serves.batch initialized] at collected
  obtain ⟨_, nodes, pods, split, watchedNodes, watchedPods⟩ := watchBoth_ok collected
  have own : ∃ observations, Watched text client answers resource cursor batch.cursor observations ∧
      batch.observations.filter resource.owns = observations := by
    have parts := split ▸ @List.filter_append _ resource.owns nodes pods
    rw [watchedNodes.owned serves, watchedPods.owned serves] at parts
    cases resource with
    | nodes => exact ⟨nodes, watchedNodes, by simpa using parts⟩
    | pods => exact ⟨pods, watchedPods, by simpa using parts⟩
  obtain ⟨observations, watched, owned⟩ := own
  unfold shown
  rw [owned]
  exact watched.between serves

/-- An event never clears a version. -/
theorem watchEvent_version {timestamp : Int} {event : List (String × Value)}
    {progress next : WatchProgress} (present : progress.version ≠ "")
    (ran : watchEvent text client timestamp resource progress event = .ok next) :
    next.version ≠ "" := by
  have kept : (if objectResourceVersion text (eventObject event) = "" then progress.version
      else objectResourceVersion text (eventObject event)) ≠ "" := by
    split
    · exact present
    · assumption
  unfold watchEvent at ran
  simp only at ran
  split at ran
  · split at ran <;> cases ran
  · split at ran
    · cases ran
      exact kept
    · split at ran
      · cases ran
      · obtain ⟨decoded, _, finished⟩ := except_bind_ok ran
        cases finished
        exact kept

/-- A served poll keeps an initialized cursor. -/
theorem batch_initialized {cursor : KubernetesWatchCursor} {answers : ApiAnswers}
    {batch : KubernetesWatchBatch} (serves : Serves text cluster cursor answers)
    (initialized : cursor.initialized = true)
    (collected : collectBatch text client answers cursor = .ok batch) :
    batch.cursor.initialized = true := by
  have watched (resource : Resource) {observations : List DeploymentObservation}
      (present : cursor.version resource ≠ "")
      (watch : Watched text client answers resource cursor batch.cursor observations) :
      batch.cursor.version resource ≠ "" := by
    obtain ⟨progress, returned, version, _⟩ := watch
    unfold watchResource at returned
    obtain ⟨values, answered, mapped⟩ := except_bind_ok returned
    obtain ⟨events, read, ran⟩ := except_bind_ok mapped
    rw [← version]
    clear read
    have start : WatchProgress.version ⟨[], cursor.version resource, 0⟩ ≠ "" := present
    generalize (⟨[], cursor.version resource, 0⟩ : WatchProgress) = first at ran start
    induction events generalizing first with
    | nil => cases ran; exact start
    | cons event rest ih =>
        rw [List.foldlM_cons] at ran
        obtain ⟨next, here, later⟩ := except_bind_ok ran
        exact ih next later (watchEvent_version start here)
  rw [serves.batch initialized] at collected
  obtain ⟨_, nodes, pods, _, watchedNodes, watchedPods⟩ := watchBoth_ok collected
  unfold KubernetesWatchCursor.initialized at initialized ⊢
  simp only [Bool.and_eq_true, decide_eq_true_eq] at initialized ⊢
  exact ⟨watched .nodes initialized.1 watchedNodes, watched .pods initialized.2 watchedPods⟩

theorem runPolls_cons (poll : WatchPoll W) (rest : List (WatchPoll W)) (process : WatchProcess W) :
    runPolls text client (poll :: rest) process =
      runPolls text client rest (finalState (collectPoll text client poll process)) := rfl

/-- A served poll keeps an initialized cursor and brings the changes that it moves over. -/
theorem served_poll {poll : WatchPoll W} {process : WatchProcess W}
    (serves : Serves text cluster process.cursor poll.answers)
    (initialized : process.cursor.initialized = true) (resource : Resource) :
    (finalState (collectPoll text client poll process)).cursor.initialized = true ∧
    (((finalState (collectPoll text client poll process)).position cluster resource =
          process.position cluster resource ∧
        shown resource (poll.delivered text client process) <+:
          remaining (cluster.changes resource) (observe text client resource)
            (process.position cluster resource)) ∨
      (process.position cluster resource ≤
          (finalState (collectPoll text client poll process)).position cluster resource ∧
        shown resource (poll.delivered text client process) =
          between (cluster.changes resource) (observe text client resource)
            (process.position cluster resource)
            ((finalState (collectPoll text client poll process)).position cluster resource))) := by
  rcases collectPoll_cases text client poll process with
    ⟨failure, next, ran, cursor, part⟩ | ⟨report, next, batch, ran, collected, cursor, all⟩
  · rw [ran, finalState_error]
    unfold WatchProcess.position
    rw [cursor]
    refine ⟨initialized, .inl ⟨rfl, ?_⟩⟩
    rcases part with empty | ⟨batch, collected, early⟩
    · rw [empty]
      exact List.nil_prefix
    · obtain ⟨_, _, whole⟩ := batch_between serves initialized collected resource
      have here : shown resource (poll.delivered text client process) <+:
          shown resource batch.observations := (early.filter _).map _
      rw [whole] at here
      exact here.trans (between_earlier _ _)
  · rw [ran, finalState_ok]
    unfold WatchProcess.position
    rw [cursor, all]
    obtain ⟨_, forward, whole⟩ := batch_between serves initialized collected resource
    exact ⟨batch_initialized serves initialized collected, .inr ⟨forward, whole⟩⟩

/-- A served run delivers the changes of each resource at least once and in order. -/
theorem run_attempts (resource : Resource) {polls : List (WatchPoll W)} {start : WatchProcess W}
    (listed : start.cursor.initialized = true) (served : ServedRun text client cluster polls start) :
    Attempts (cluster.changes resource) (observe text client resource)
      (start.position cluster resource)
      ((deliveries text client polls start).map (shown resource))
      ((runPolls text client polls start).position cluster resource) := by
  induction polls generalizing start with
  | nil => exact .done _
  | cons poll rest ih =>
      obtain ⟨serves, later⟩ := served
      obtain ⟨still, outcome⟩ := served_poll serves listed resource
      have attempts := ih still later
      rw [runPolls_cons]
      rcases outcome with ⟨same, part⟩ | ⟨forward, whole⟩
      · exact .aborted part (same ▸ attempts)
      · exact .committed forward whole attempts

/-- Each poll of a served run is served behind an initialized cursor. -/
theorem served_split {early late : List (WatchPoll W)} {poll : WatchPoll W}
    {start : WatchProcess W} (listed : start.cursor.initialized = true)
    (served : ServedRun text client cluster (early ++ poll :: late) start) :
    Serves text cluster (runPolls text client early start).cursor poll.answers ∧
      (runPolls text client early start).cursor.initialized = true := by
  induction early generalizing start with
  | nil => exact ⟨served.1, listed⟩
  | cons first rest ih => exact ih (served_poll served.1 listed .nodes).1 served.2

/-- A process never moves its cursor past a change that it has not published completely. A poll
that raises keeps the cursor, and one that returns moves it over the changes that it was answered.
A poll whose fetches and publications return, returns.
Each change is published at least once and in the order of its resource. -/
theorem collect_delivers (text : Text) (client : KubernetesSourceClient) (cluster : Cluster)
    (polls : List (WatchPoll W)) (start : WatchProcess W)
    (listed : start.cursor.initialized = true)
    (served : ServedRun text client cluster polls start) :
    (∀ early poll late, polls = early ++ poll :: late →
      (∀ failure next, collectPoll text client poll (runPolls text client early start) =
          .error failure next → next.cursor = (runPolls text client early start).cursor) ∧
      ∀ report next, collectPoll text client poll (runPolls text client early start) =
          .ok report next → ∀ resource values events changes,
        poll.answers.watch resource
            ((runPolls text client early start).cursor.version resource) = .ok values →
        values.mapM mapping = .ok events →
        Streams text cluster resource ((runPolls text client early start).position cluster resource)
          changes events →
        next.position cluster resource =
          (runPolls text client early start).position cluster resource + changes.length) ∧
    (∀ early poll late, polls = early ++ poll :: late → ∀ batch,
      collectBatch text client poll.answers (runPolls text client early start).cursor = .ok batch →
      poll.delivered text client (runPolls text client early start) = batch.observations →
      ∃ report next, collectPoll text client poll (runPolls text client early start) =
        .ok report next ∧ next.cursor = batch.cursor) ∧
    ∀ resource,
      start.position cluster resource ≤ (runPolls text client polls start).position cluster resource ∧
      (between (cluster.changes resource) (observe text client resource)
        (start.position cluster resource)
        ((runPolls text client polls start).position cluster resource)).Sublist
          ((deliveries text client polls start).flatMap (shown resource)) ∧
      ∀ delivered ∈ deliveries text client polls start, ∃ position,
        start.position cluster resource ≤ position ∧
        position ≤ (runPolls text client polls start).position cluster resource ∧
        shown resource delivered <+:
          remaining (cluster.changes resource) (observe text client resource) position := by
  refine ⟨?_, fun _ _ _ _ _ collected all => collectPoll_returns text client collected all, ?_⟩
  · intro early poll late split
    obtain ⟨serves, initialized⟩ := served_split listed (split ▸ served)
    rcases collectPoll_cases text client poll (runPolls text client early start) with
      ⟨failure, next, ran, cursor, _⟩ | ⟨report, next, batch, ran, collected, cursor, _⟩
    · constructor
      · intro other last again
        cases ran.symm.trans again
        exact cursor
      · intro report last again
        cases ran.symm.trans again
    · constructor
      · intro failure last again
        cases ran.symm.trans again
      · intro other last again resource values events changes answered mapped streams
        cases ran.symm.trans again
        unfold WatchProcess.position
        rw [cursor]
        exact (batch_between serves initialized collected resource).1 values events changes
          answered mapped streams
  · intro resource
    have attempts := run_attempts resource listed served
    refine ⟨attempts.forward, ?_, ?_⟩
    · rw [List.flatMap_def]
      exact attempts.delivers
    · intro delivered member
      exact attempts.ordered _ (List.mem_map_of_mem member)

end Run

section Demo

theorem serves_watched : Serves asciiText shortCluster ⟨"1", "1"⟩ watchedAnswers where
  watches := honest_watched.watches
  current resource := by cases resource <;> exact unexpired_ok _
  unexpired resource values events answered read event member failed := by
    cases resource with
    | nodes =>
        cases answered
        cases read
        rw [List.mem_singleton.mp member] at failed
        exact absurd failed (by decide +kernel)
    | pods =>
        cases answered
        cases read
        cases member

/-- The publication of a removal raises, and then it returns. -/
def retriedPolls : List (WatchPoll Unit) :=
  [⟨watchedAnswers, fun _ => throw .runtimeError⟩, ⟨watchedAnswers, fun _ => return ⟨[], []⟩⟩]

def retriedStart : WatchProcess Unit := ⟨(), ⟨"1", "1"⟩⟩

theorem served_retried : ServedRun asciiText demoClient shortCluster retriedPolls retriedStart := by
  refine ⟨serves_watched, ?_, trivial⟩
  rcases collectPoll_cases asciiText demoClient
    ⟨watchedAnswers, fun _ => throw .runtimeError⟩ retriedStart with
    ⟨failure, next, ran, cursor, _⟩ | ⟨report, next, batch, ran, collected, cursor, _⟩
  · rw [ran, finalState_error, cursor]
    exact serves_watched
  · have raises : answersWith (fun _ => true) (collectPoll asciiText demoClient
        ⟨watchedAnswers, fun _ => throw .runtimeError⟩ retriedStart) = false := by decide +kernel
    rw [ran] at raises
    cases raises

/-- The removal is published although its first publication raised. -/
theorem collect_delivers_of_retried :
    (between (shortCluster.changes .nodes) (observe asciiText demoClient .nodes)
      (retriedStart.position shortCluster .nodes)
      ((runPolls asciiText demoClient retriedPolls retriedStart).position shortCluster
        .nodes)).Sublist
      ((deliveries asciiText demoClient retriedPolls retriedStart).flatMap (shown .nodes)) :=
  ((collect_delivers asciiText demoClient shortCluster retriedPolls retriedStart (by decide)
    served_retried).2.2 .nodes).2.1

end Demo

/-- The process of the state plane as a process with a target. -/
def KubernetesProcess.onPlane (process : KubernetesProcess) : WatchProcess World :=
  ⟨process.world, process.cursor⟩

def KubernetesProcess.ofPlane (_ : KubernetesProcess) (process : WatchProcess World) :
    KubernetesProcess := ⟨process.world, process.cursor⟩

/-- The poll of the state plane is a poll whose target is the plane. -/
theorem collectKubernetes_eq (config : PlaneConfig) (text : Text) (client : KubernetesSourceClient)
    (answers : ApiAnswers) :
    collectKubernetes config text client answers =
      zoom KubernetesProcess.onPlane KubernetesProcess.ofPlane
        (collectPoll text client ⟨answers, publishDeployment config answers.clock⟩) := by
  have wrapped (observation : DeploymentObservation) :
      onWorld (publishDeployment config answers.clock observation) =
        zoom KubernetesProcess.onPlane KubernetesProcess.ofPlane
          (onTarget (publishDeployment config answers.clock observation)) := by
    funext process
    unfold onWorld zoom onTarget KubernetesProcess.onPlane
    cases publishDeployment config answers.clock observation process.world <;> rfl
  have batch (observations : List DeploymentObservation) :
      observations.mapM (fun observation =>
          onWorld (publishDeployment config answers.clock observation)) =
        zoom KubernetesProcess.onPlane KubernetesProcess.ofPlane
          (observations.mapM fun observation =>
            onTarget (publishDeployment config answers.clock observation)) := by
    simp only [wrapped]
    exact (zoom_mapM (by intros; rfl) (by intros; rfl) (by intros; rfl) _ observations).symm
  funext process
  unfold collectKubernetes collectPoll
  rw [get_bind, lift_bind]
  cases collected : collectBatch text client answers process.cursor with
  | error failure =>
      unfold zoom
      rw [get_bind, lift_bind]
      simp only [KubernetesProcess.onPlane, collected]
      rfl
  | ok found =>
      simp only [batch]
      cases ran : found.observations.mapM (fun observation =>
        onTarget (publishDeployment config answers.clock observation)) process.onPlane with
      | error failure next =>
          have stopped : zoom KubernetesProcess.onPlane KubernetesProcess.ofPlane
              (found.observations.mapM fun observation =>
                onTarget (publishDeployment config answers.clock observation)) process =
              .error failure (process.ofPlane next) := by
            unfold zoom
            rw [ran]
          rw [bind_of_error stopped]
          unfold zoom
          rw [get_bind, lift_bind]
          simp only [KubernetesProcess.onPlane, collected] at ran ⊢
          rw [bind_of_error ran]
      | ok reports next =>
          rw [bind_of_ok (zoom_of_ok ran)]
          unfold zoom
          rw [get_bind, lift_bind]
          simp only [KubernetesProcess.onPlane, collected] at ran ⊢
          rw [bind_of_ok ran]
          rfl

end StateFlow.Adapters
