import StateFlow.Proof.Adapters.Cluster

namespace StateFlow.Adapters
open Python Table Effect Plane Replica

section Batch
variable (text : Text) (client : KubernetesSourceClient)

/-- The marks that a log of changes leaves. -/
def marks (resource : Resource) (changes : List ClusterChange) : List (String × String) :=
  changes.filterMap (mark text client resource)

/-- The marks that observations leave on the entities of a resource. -/
def statuses (resource : Resource) (observations : List DeploymentObservation) :
    List (String × String) :=
  observations.filterMap resource.status

/-- The observations that some changes decode to. -/
def Decodes (timestamp : Int) (resource : Resource) (changes : List ClusterChange)
    (observations : List DeploymentObservation) : Prop :=
  ∃ decoded, changes.mapM (fun change => decodeChange text client timestamp change resource) =
    .ok decoded ∧ observations = decoded.filterMap id

variable (cluster : Cluster)

/-- A batch extends the seen changes of a resource by a part. A watch brings the marks of the part,
and a list brings the marks of the existing objects. -/
structure Brings (resource : Resource) (before after part : List ClusterChange) (relisted : Bool)
    (entries : List (String × String)) : Prop where
  advances : after = before ++ part
  watched : relisted = false → entries = marks text client resource part
  listed : relisted = true → ∀ entry, entry ∈ entries ↔ ∃ change,
    Exists text resource after change ∧ mark text client resource change = some entry

variable {text client cluster} {timestamp : Int} {resource : Resource}
  {changes before after part : List ClusterChange} {observations : List DeploymentObservation}
  {entries : List (String × String)} {relisted : Bool}

theorem Decodes.statuses (decodes : Decodes text client timestamp resource changes observations) :
    statuses resource observations = marks text client resource changes := by
  obtain ⟨decoded, returned, rfl⟩ := decodes
  exact marks_of_mapM returned

theorem Decodes.mem (decodes : Decodes text client timestamp resource changes observations)
    {observation : DeploymentObservation} (member : observation ∈ observations) :
    ∃ change ∈ changes,
      decodeChange text client timestamp change resource = .ok (some observation) := by
  obtain ⟨decoded, returned, rfl⟩ := decodes
  obtain ⟨some, inside, rfl⟩ := List.mem_filterMap.mp member
  exact mem_of_mapM returned inside

theorem Decodes.cons {change : ClusterChange} {decoded : Option DeploymentObservation}
    (read : decodeChange text client timestamp change resource = .ok decoded)
    (decodes : Decodes text client timestamp resource changes observations) :
    Decodes text client timestamp resource (change :: changes)
      (decoded.toList ++ observations) := by
  obtain ⟨others, returned, rfl⟩ := decodes
  refine ⟨decoded :: others, ?_, by cases decoded <;> rfl⟩
  rw [List.mapM_cons, read, returned]
  rfl

theorem marks_append (first second : List ClusterChange) :
    marks text client resource (first ++ second) =
      marks text client resource first ++ marks text client resource second :=
  List.filterMap_append

section Brought
variable (brings : Brings text client resource before after part relisted entries)
  (own : OwnEntities text client resource after)
include brings own

/-- The latest entry of a key is its latest mark. -/
theorem Brings.final {key status other : String} (entry : latest entries key = some status)
    (last : latest (marks text client resource after) key = some other) : status = other := by
  cases relisted with
  | false =>
      rw [brings.advances, marks_append, ← brings.watched rfl, latest_append, entry] at last
      cases last
      rfl
  | true =>
      obtain ⟨change, existing, marked⟩ :=
        (brings.listed rfl (key, status)).mp (mem_of_latest entry)
      have found := latest_of_live own existing marked
      exact Option.some.inj (found.symm.trans last)

/-- Each entry names a key of the part or has its latest mark. -/
theorem Brings.each {entry : String × String} (member : entry ∈ entries) :
    entry.1 ∈ (marks text client resource part).map Prod.fst ∨
      ∀ status, latest (marks text client resource before ++ marks text client resource part)
        entry.1 = some status → entry.2 = status := by
  cases relisted with
  | false =>
      rw [← brings.watched rfl]
      exact Or.inl (List.mem_map_of_mem member)
  | true =>
      obtain ⟨change, existing, marked⟩ := (brings.listed rfl entry).mp member
      have found := latest_of_live own existing marked
      refine Or.inr fun status last => ?_
      rw [← marks_append, ← brings.advances] at last
      exact Option.some.inj (found.symm.trans last)

/-- Only a list leaves out a key of the part, and only when its object was removed. -/
theorem Brings.missing {key status : String} (absent : key ∉ entries.map Prod.fst)
    (mentioned : key ∈ (marks text client resource part).map Prod.fst)
    (last : latest (marks text client resource after) key = some status) :
    relisted = true ∧ status = "deleted" := by
  cases relisted with
  | false =>
      rw [← brings.watched rfl] at mentioned
      exact absurd mentioned absent
  | true =>
      obtain ⟨change, inside, marked, removed | existing⟩ := live_or_removed own last
      · exact ⟨rfl, mark_of_removal removed marked⟩
      · have listed := (brings.listed rfl (key, status)).mpr ⟨change, existing, marked⟩
        exact absurd (List.mem_map_of_mem listed) absent

end Brought

section Answers
variable {cursor next : KubernetesWatchCursor} {answers : ApiAnswers}

/-- An event that carries no change keeps the position of the version. -/
theorem version_kept {position : Nat} {version read : String}
    (placed : cluster.position resource version = position)
    (moved : read ≠ "" → cluster.position resource read = position) :
    cluster.position resource (if read = "" then version else read) = position := by
  split
  · exact placed
  · rename_i present
    exact moved present

theorem watchEvent_bookmark {progress next : WatchProgress} {event : List (String × Value)}
    (marked : eventType text event = "BOOKMARK")
    (ran : watchEvent text client timestamp resource progress event = .ok next) :
    next = { progress with
      version := if objectResourceVersion text (eventObject event) = "" then progress.version
        else objectResourceVersion text (eventObject event)
      events := progress.events + 1 } := by
  unfold eventType at marked
  unfold watchEvent at ran
  simp only [marked] at ran
  cases ran
  rfl

theorem watchEvent_error {progress next : WatchProgress} {event : List (String × Value)}
    (failed : eventType text event = "ERROR") :
    watchEvent text client timestamp resource progress event ≠ .ok next := by
  intro ran
  unfold eventType at failed
  unfold watchEvent at ran
  simp only [failed, if_true] at ran
  split at ran <;> cases ran

theorem watchEvent_change {progress next : WatchProgress} {event : List (String × Value)}
    {change : ClusterChange} (carried : eventObject event = change.item)
    (typed : eventType text event ∈ if change.deleted then ["DELETED"] else ["ADDED", "MODIFIED"])
    (versioned : objectResourceVersion text change.item ≠ "")
    (ran : watchEvent text client timestamp resource progress event = .ok next) :
    ∃ decoded, decodeChange text client timestamp change resource = .ok decoded ∧
      next.observations = progress.observations ++ decoded.toList ∧
      next.version = objectResourceVersion text change.item := by
  have kind : eventType text event ∈ ["ADDED", "MODIFIED", "DELETED"] ∧
      decide (eventType text event = "DELETED") = change.deleted := by
    cases removed : change.deleted with
    | true =>
        rw [removed] at typed
        simp [List.mem_singleton.mp typed]
    | false =>
        rw [removed] at typed
        rcases (by simpa using typed) with same | same <;> simp [same]
  obtain ⟨member, removal⟩ := kind
  have correct : eventType text event ≠ "ERROR" := by
    intro wrong
    rw [wrong] at member
    exact absurd member (by decide)
  have moving : eventType text event ≠ "BOOKMARK" := by
    intro wrong
    rw [wrong] at member
    exact absurd member (by decide)
  unfold eventType at removal member correct moving
  unfold watchEvent at ran
  simp only [if_neg correct, if_neg moving, removal, carried, if_neg versioned,
    if_neg (not_not.mpr member)] at ran
  obtain ⟨decoded, read, finished⟩ := except_bind_ok ran
  rw [decodeResource_eq] at read
  cases inner : decodeChange text client timestamp change resource with
  | error failure => rw [inner] at read; cases read
  | ok observation =>
      rw [inner] at read
      cases read
      cases finished
      exact ⟨observation, rfl, rfl, rfl⟩

/-- A watch reads the changes of its stream. -/
theorem foldlM_streams {position : Nat} {events : List (List (String × Value))}
    (streams : Streams text cluster resource position changes events) {progress final : WatchProgress}
    (placed : cluster.position resource progress.version = position)
    (ran : events.foldlM (watchEvent text client timestamp resource) progress = .ok final) :
    cluster.position resource final.version = position + changes.length ∧
      (cluster.changes resource).take (position + changes.length) =
        (cluster.changes resource).take position ++ changes ∧
      ∃ observations, final.observations = progress.observations ++ observations ∧
        Decodes text client timestamp resource changes observations := by
  induction streams generalizing progress with
  | done position =>
      cases ran
      exact ⟨placed, by simp, [], by simp, [], rfl, rfl⟩
  | error position changes events failed =>
      rw [List.foldlM_cons] at ran
      obtain ⟨next, first, _⟩ := except_bind_ok ran
      exact absurd first (watchEvent_error failed)
  | @bookmark event position changes events marked moved rest ih =>
      rw [List.foldlM_cons] at ran
      obtain ⟨next, first, continued⟩ := except_bind_ok ran
      have kept : cluster.position resource next.version = position := by
        rw [watchEvent_bookmark marked first]
        exact version_kept placed moved
      obtain ⟨last, taken, observations, added, decodes⟩ := ih kept continued
      refine ⟨last, taken, observations, ?_, decodes⟩
      rw [added, watchEvent_bookmark marked first]
  | @change change event position changes events here carried typed versioned moved rest ih =>
      rw [List.foldlM_cons] at ran
      obtain ⟨next, first, continued⟩ := except_bind_ok ran
      obtain ⟨decoded, read, observed, version⟩ :=
        watchEvent_change carried typed versioned first
      obtain ⟨last, taken, observations, added, decodes⟩ := ih (version ▸ moved) continued
      have shift : position + (change :: changes).length = position + 1 + changes.length := by
        rw [List.length_cons]
        omega
      refine ⟨by rw [shift]; exact last, ?_, decoded.toList ++ observations, ?_, decodes.cons read⟩
      · rw [shift, taken, List.take_add_one, here]
        simp
      · rw [added, observed, List.append_assoc]

/-- What a watch of a resource brought. -/
def Watched (text : Text) (client : KubernetesSourceClient) (answers : ApiAnswers)
    (resource : Resource) (cursor next : KubernetesWatchCursor)
    (observations : List DeploymentObservation) : Prop :=
  ∃ progress, watchResource text client answers resource (cursor.version resource) = .ok progress ∧
    progress.version = next.version resource ∧ progress.observations = observations

/-- What a list of a resource brought. -/
def Listed (text : Text) (client : KubernetesSourceClient) (answers : ApiAnswers)
    (resource : Resource) (next : KubernetesWatchCursor)
    (observations : List DeploymentObservation) : Prop :=
  ∃ payload items, answers.list resource = .ok payload ∧ listItems payload = .ok items ∧
    listResourceVersion text payload = .ok (next.version resource) ∧
    Decodes text client answers.clock resource (items.map fun item => ⟨item, false⟩) observations

theorem Watched.brings (watched : Watched text client answers resource cursor next observations)
    (honest : Honest text cluster cursor answers) :
    ∃ part changes, Decodes text client answers.clock resource changes observations ∧
      Brings text client resource (seen cluster cursor resource) (seen cluster next resource) part
        false (statuses resource observations) := by
  obtain ⟨progress, returned, version, rfl⟩ := watched
  unfold watchResource at returned
  obtain ⟨values, answered, mapped⟩ := except_bind_ok returned
  obtain ⟨events, read, ran⟩ := except_bind_ok mapped
  obtain ⟨part, streams⟩ := honest.watches resource values events answered read
  obtain ⟨placed, taken, observations, added, decodes⟩ := foldlM_streams streams rfl ran
  rw [List.nil_append] at added
  rw [← added] at decodes
  refine ⟨part, part, decodes, ?_, fun _ => decodes.statuses, (nomatch ·)⟩
  unfold seen
  rw [← version, placed, taken]

theorem Listed.brings (listed : Listed text client answers resource next observations)
    (honest : Honest text cluster cursor answers) :
    ∃ part changes, Decodes text client answers.clock resource changes observations ∧
      Brings text client resource (seen cluster cursor resource) (seen cluster next resource) part
        true (statuses resource observations) := by
  obtain ⟨payload, items, answered, read, version, decodes⟩ := listed
  have advances := honest.advances resource payload _ answered version
  refine ⟨((cluster.changes resource).take
    (cluster.position resource (next.version resource))).drop
      (cluster.position resource (cursor.version resource)), _, decodes, ?_, (nomatch ·), ?_⟩
  · have split := List.take_append_drop (cluster.position resource (cursor.version resource))
      ((cluster.changes resource).take (cluster.position resource (next.version resource)))
    rw [List.take_take, min_eq_left advances] at split
    exact split.symm
  · intro _ entry
    have existing := honest.lists resource payload items _ answered read version
    rw [decodes.statuses]
    unfold marks
    rw [List.mem_filterMap]
    constructor
    · rintro ⟨listed, member, marked⟩
      obtain ⟨item, inside, rfl⟩ := List.mem_map.mp member
      obtain ⟨⟨_, deleted⟩, rfl, live⟩ := (existing item).mp inside
      obtain rfl : deleted = false := live.1
      exact ⟨_, live, marked⟩
    · rintro ⟨⟨item, deleted⟩, live, marked⟩
      obtain rfl : deleted = false := live.1
      have inside := (existing item).mpr ⟨_, rfl, live⟩
      exact ⟨_, List.mem_map_of_mem inside, marked⟩

theorem watchBoth_ok {batch : KubernetesWatchBatch}
    (returned : watchBoth text client answers cursor = .ok batch) :
    batch.relisted = false ∧ ∃ nodes pods, batch.observations = nodes ++ pods ∧
      Watched text client answers .nodes cursor batch.cursor nodes ∧
      Watched text client answers .pods cursor batch.cursor pods := by
  unfold watchBoth at returned
  obtain ⟨nodes, readNodes, first⟩ := except_bind_ok returned
  obtain ⟨pods, readPods, finished⟩ := except_bind_ok first
  cases finished
  exact ⟨rfl, nodes.observations, pods.observations, rfl, ⟨nodes, readNodes, rfl, rfl⟩,
    ⟨pods, readPods, rfl, rfl⟩⟩

theorem relist_ok {batch : KubernetesWatchBatch}
    (returned : relist text client answers = .ok batch) :
    batch.relisted = true ∧ ∃ nodes pods, batch.observations = nodes ++ pods ∧
      Listed text client answers .nodes batch.cursor nodes ∧
      Listed text client answers .pods batch.cursor pods := by
  unfold relist at returned
  obtain ⟨nodePayload, listedNodes, first⟩ := except_bind_ok returned
  obtain ⟨podPayload, listedPods, second⟩ := except_bind_ok first
  obtain ⟨observations, decoded, third⟩ := except_bind_ok second
  obtain ⟨nodeVersion, versionNodes, fourth⟩ := except_bind_ok third
  obtain ⟨podVersion, versionPods, finished⟩ := except_bind_ok fourth
  cases finished
  unfold decode at decoded
  obtain ⟨nodes, readNodes, decoded⟩ := except_bind_ok decoded
  obtain ⟨pods, readPods, decoded⟩ := except_bind_ok decoded
  obtain ⟨nodeObservations, mappedNodes, decoded⟩ := except_bind_ok decoded
  obtain ⟨podObservations, mappedPods, decoded⟩ := except_bind_ok decoded
  cases decoded
  refine ⟨rfl, nodeObservations.filterMap id, podObservations.filterMap id,
    List.filterMap_append, ⟨nodePayload, nodes, listedNodes, readNodes, versionNodes,
      nodeObservations, ?_, rfl⟩, ⟨podPayload, pods, listedPods, readPods, versionPods,
      podObservations, ?_, rfl⟩⟩
  · rw [List.mapM_map]
    exact mappedNodes
  · rw [List.mapM_map]
    exact mappedPods

theorem collectBatch_ok {batch : KubernetesWatchBatch}
    (collected : collectBatch text client answers cursor = .ok batch) :
    watchBoth text client answers cursor = .ok batch ∨ relist text client answers = .ok batch := by
  unfold collectBatch at collected
  split at collected
  · split at collected
    · exact Or.inr collected
    · split at collected
      · exact Or.inr collected
      · cases collected
    · exact Or.inl collected
  · exact Or.inr collected

/-- The observations of a batch are those of the nodes and then those of the pods. -/
theorem collectBatch_brings {batch : KubernetesWatchBatch}
    (honest : Honest text cluster cursor answers)
    (collected : collectBatch text client answers cursor = .ok batch) :
    ∃ nodes pods, batch.observations = nodes ++ pods ∧
      (∀ node ∈ nodes, node.instanceId = "") ∧ (∀ pod ∈ pods, pod.ofNode = false) ∧
      (∃ part, Brings text client .nodes (seen cluster cursor .nodes)
        (seen cluster batch.cursor .nodes) part batch.relisted (statuses .nodes nodes)) ∧
      ∃ part, Brings text client .pods (seen cluster cursor .pods)
        (seen cluster batch.cursor .pods) part batch.relisted (statuses .pods pods) := by
  have brought : ∃ nodes pods, batch.observations = nodes ++ pods ∧
      (∃ part changes, Decodes text client answers.clock .nodes changes nodes ∧
        Brings text client .nodes (seen cluster cursor .nodes)
          (seen cluster batch.cursor .nodes) part batch.relisted (statuses .nodes nodes)) ∧
      ∃ part changes, Decodes text client answers.clock .pods changes pods ∧
        Brings text client .pods (seen cluster cursor .pods)
          (seen cluster batch.cursor .pods) part batch.relisted (statuses .pods pods) := by
    rcases collectBatch_ok collected with watched | listed
    · obtain ⟨live, nodes, pods, split, watchedNodes, watchedPods⟩ := watchBoth_ok watched
      rw [live]
      exact ⟨nodes, pods, split, watchedNodes.brings honest, watchedPods.brings honest⟩
    · obtain ⟨again, nodes, pods, split, listedNodes, listedPods⟩ := relist_ok listed
      rw [again]
      exact ⟨nodes, pods, split, listedNodes.brings honest, listedPods.brings honest⟩
  obtain ⟨nodes, pods, split, ⟨nodePart, nodeChanges, decodesNodes, bringsNodes⟩,
    podPart, podChanges, decodesPods, bringsPods⟩ := brought
  refine ⟨nodes, pods, split, ?_, ?_, ⟨nodePart, bringsNodes⟩, podPart, bringsPods⟩
  · intro node member
    obtain ⟨change, _, read⟩ := decodesNodes.mem member
    exact (decodeNode_ok read).2.1
  · intro pod member
    obtain ⟨change, _, read⟩ := decodesPods.mem member
    exact decodePod_ofNode read

end Answers

end Batch

end StateFlow.Adapters
