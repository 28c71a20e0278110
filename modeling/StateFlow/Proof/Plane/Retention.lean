import StateFlow.Library.Retention
import StateFlow.Construction.Plane.Retention
import StateFlow.Proof.Plane.Demands

namespace StateFlow.Plane
open Python Table Effect Retention

/-- The unique part of a token follows its second dash. -/
def uniquePart (token : String) : List Char :=
  ((token.toList.drop 9).dropWhile fun letter => letter ≠ '-').drop 1

theorem uniquePart_token (revision : Nat) (unique : String) :
    uniquePart ("snapshot-" ++ toString revision ++ "-" ++ unique) = unique.toList := by
  have digits : ∀ letter ∈ (toString revision).toList, decide (letter ≠ '-') = true := by
    intro letter member
    rw [Nat.toString_eq_repr, Nat.toList_repr] at member
    have digit : letter.isDigit = true :=
      Nat.isDigit_of_mem_toDigits (by decide) (by decide) member
    exact decide_eq_true fun dash => absurd (dash ▸ digit) (by decide)
  have parts : ("snapshot-" ++ toString revision ++ "-" ++ unique).toList =
      "snapshot-".toList ++ ((toString revision).toList ++ '-' :: unique.toList) := by
    simp only [String.toList_append, List.append_assoc]
    rfl
  rw [uniquePart, parts, List.drop_left' (by rfl), List.dropWhile_append_of_pos digits]
  rfl

theorem takeSnapshot_token {config : PlaneConfig} {plane : InMemoryStatePlane} {now : Int}
    {unique : String} {request : SnapshotRequest} {snapshot : Snapshot}
    (taken : takeSnapshot config plane now unique request = .ok snapshot) :
    uniquePart snapshot.token = unique.toList := by
  obtain ⟨findings, _, continued⟩ := except_bind_ok taken
  dsimp only at continued
  split at continued
  all_goals
    obtain ⟨relations, _, final⟩ := except_bind_ok continued
    cases final
    exact uniquePart_token plane.revision unique

section Frames
variable (config : PlaneConfig) (plane : InMemoryStatePlane)

/-- A call other than `get_snapshot` keeps the snapshots. -/
theorem call_snapshots (call : Call)
    (plain : ∀ now unique request, call ≠ .getSnapshot now unique request) :
    (finalState (call.run config plane)).snapshots = plane.snapshots := by
  rw [← step_after]
  rcases step_snapshots plane call with same | ⟨now, unique, request, _, called, _⟩
  · exact same
  · exact absurd called (plain now unique request)

/-- A batch of writes keeps the snapshots. -/
theorem batch_snapshots {U : Type} (single : U → PlaneAction WriteResult) (wrap : U → Call)
    (runs : ∀ item, (wrap item).run config = do return some (← single item))
    (plain : ∀ item now unique request, wrap item ≠ .getSnapshot now unique request)
    (items : List U) :
    (finalState (items.mapM single plane)).snapshots = plane.snapshots := by
  have each : ∀ item, Within (Frame.fixes InMemoryStatePlane.snapshots) (single item) := by
    intro item state
    rw [Frame.fixes_rel, ← finalState_then (single item) some state, ← runs]
    exact call_snapshots config state (wrap item) (plain item)
  exact within_mapM (fun item _ => each item) plane

/-- A write keeps the snapshots. -/
theorem write_snapshots {operation : Operation}
    (plain : (Activity.operate operation).isPlain = true) :
    (operation.apply config plane).snapshots = plane.snapshots := by
  cases operation with
  | registerComponent descriptor =>
      rw [Operation.apply, ← finalState_done (registerComponent descriptor) none plane]
      exact call_snapshots config plane (.registerComponent descriptor) (by rintro _ _ _ ⟨⟩)
  | upsertEntity now entity =>
      rw [Operation.apply, ← finalState_done (upsertEntity config now entity) none plane]
      exact call_snapshots config plane (.upsertEntity now entity) (by rintro _ _ _ ⟨⟩)
  | heartbeat beat =>
      rw [Operation.apply, ← finalState_done (heartbeat beat) none plane]
      exact call_snapshots config plane (.heartbeat beat) (by rintro _ _ _ ⟨⟩)
  | publishState updates =>
      exact batch_snapshots config plane (publishOne config) .publishState (fun _ => rfl)
        (by rintro _ _ _ _ ⟨⟩) updates
  | upsertRelations updates =>
      exact batch_snapshots config plane (upsertRelation config) .upsertRelation (fun _ => rfl)
        (by rintro _ _ _ _ ⟨⟩) updates
  | publishMetrics samples =>
      exact batch_snapshots config plane (publishMetric config) .publishMetric (fun _ => rfl)
        (by rintro _ _ _ _ ⟨⟩) samples
  | publishEvents events =>
      exact batch_snapshots config plane (publishEvent config) .publishEvent (fun _ => rfl)
        (by rintro _ _ _ _ ⟨⟩) events
  | getSnapshot now unique request => cases plain

theorem within_readSnapshot (token : String) : Within (Frame.fixes id) (readSnapshot token) := by
  apply within_bind within_get
  intro plane
  cases plane.snapshots.lookup token with
  | none => exact within_throw _
  | some snapshot => exact within_pure _

/-- A query of the graph leaves the plane as it is. -/
theorem within_queryGraph (query : GraphQuery) : Within (Frame.fixes id) (queryGraph query) := by
  have source : Within (Frame.fixes id) (relationSource query.snapshot) := by
    apply within_ite
    · exact fun _ => within_bind (within_readSnapshot _) fun _ => within_pure _
    · exact fun _ => within_bind within_get fun _ => within_pure _
  exact within_bind source fun _ => within_bind within_get fun _ => within_pure _

end Frames

section Runs
variable {config : PlaneConfig}

/-- The snapshots of one plane enter those of another with tokens of the given unique parts. -/
def Retains (config : PlaneConfig) (before after : InMemoryStatePlane) (count : Nat)
    (uniques : List String) : Prop :=
  ∃ entries : List (String × Snapshot), entries.length = count ∧
    after.snapshots = keepAll (max 1 config.maxSnapshots) before.snapshots entries ∧
    List.Sublist (entries.map fun entry => uniquePart entry.1) (uniques.map String.toList)

theorem Retains.of_same {before after : InMemoryStatePlane}
    (same : after.snapshots = before.snapshots) (uniques : List String) :
    Retains config before after 0 uniques :=
  ⟨[], rfl, same, List.nil_sublist _⟩

theorem Retains.append {first middle last : InMemoryStatePlane} {early late : Nat}
    {fresh other : List String} (before : Retains config first middle early fresh)
    (after : Retains config middle last late other) :
    Retains config first last (early + late) (fresh ++ other) := by
  obtain ⟨front, frontCount, kept, frontUniques⟩ := before
  obtain ⟨back, backCount, keptLater, backUniques⟩ := after
  refine ⟨front ++ back, ?_, ?_, ?_⟩
  · rw [List.length_append, frontCount, backCount]
  · rw [keptLater, kept, keepAll_append]
  · rw [List.map_append, List.map_append]
    exact frontUniques.append backUniques

theorem getSnapshot_retains {plane next : InMemoryStatePlane} {now : Int} {unique : String}
    {request : SnapshotRequest} {snapshot : Snapshot}
    (froze : getSnapshot config now unique request plane = .ok snapshot next) :
    next.snapshots =
        keep (max 1 config.maxSnapshots) plane.snapshots (snapshot.token, snapshot) ∧
      uniquePart snapshot.token = unique.toList := by
  rw [getSnapshot_run] at froze
  cases taken : takeSnapshot config plane now unique request with
  | error exception => rw [taken] at froze; cases froze
  | ok found =>
      rw [taken] at froze
      cases froze
      exact ⟨rfl, takeSnapshot_token taken⟩

/-- A read without a token keeps a snapshot when it returns. A read with a token keeps none. -/
theorem getState_retains (plane : InMemoryStatePlane) (now : Int) (unique : String)
    (query : StateQuery) :
    Retains config plane (finalState (getState config now unique query plane))
      (query.snapshot = "" && answersWith (fun _ => true)
        (getState config now unique query plane)).toNat [unique] := by
  by_cases live : query.snapshot = ""
  · rw [decide_eq_true live, Bool.true_and, getState, if_neg (not_not.mpr live)]
    cases ran : getSnapshot config now unique ⟨[query.entityRef], query.keys, query.maxAgeMs,
        query.minAuthority, false⟩ plane with
    | error exception next =>
        rw [bind_of_error ran]
        rw [getSnapshot_run] at ran
        split at ran <;> cases ran
        exact .of_same rfl _
    | ok snapshot next =>
        rw [bind_of_ok ran]
        obtain ⟨kept, part⟩ := getSnapshot_retains ran
        exact ⟨[(snapshot.token, snapshot)], rfl, kept, by rw [List.map_singleton, part]; rfl⟩
  · rw [decide_eq_false live, Bool.false_and]
    apply Retains.of_same
    have inside : Within (Frame.fixes id) (getState config now unique query) := by
      unfold getState
      rw [if_pos live]
      exact within_bind (within_readSnapshot _) fun _ => within_pure _
    exact congrArg InMemoryStatePlane.snapshots (inside plane)

theorem activity_retains (plane : InMemoryStatePlane) {activity : Activity}
    (plain : activity.isPlain = true) :
    Retains config plane (activity.apply config plane) (activity.readsLive config plane).toNat
      activity.unique?.toList := by
  cases activity with
  | operate operation => exact .of_same (write_snapshots config plane plain) _
  | getState now unique query => exact getState_retains plane now unique query
  | queryGraph query =>
      exact .of_same (congrArg InMemoryStatePlane.snapshots (within_queryGraph query plane)) _
  | changes query afterCursor => exact .of_same rfl _
  | freshness now => exact .of_same rfl _

/-- The reads of a run keep one snapshot each when they return. -/
theorem runActivities_retains (activities : List Activity)
    (plain : ∀ activity ∈ activities, activity.isPlain = true) (plane : InMemoryStatePlane) :
    Retains config plane (runActivities config activities plane)
      (liveReads config activities plane) (activities.filterMap Activity.unique?) := by
  induction activities generalizing plane with
  | nil => exact .of_same rfl _
  | cons activity rest ih =>
      have later := ih (fun other member => plain other (List.mem_cons_of_mem _ member))
        (activity.apply config plane)
      have joined := (activity_retains plane (plain activity List.mem_cons_self)).append later
      have uniques : (activity :: rest).filterMap Activity.unique? =
          activity.unique?.toList ++ rest.filterMap Activity.unique? := by
        cases drawn : activity.unique? with
        | none => rw [List.filterMap_cons_none drawn]; rfl
        | some unique => rw [List.filterMap_cons_some drawn]; rfl
      rw [uniques]
      exact joined

end Runs

/-- A frozen snapshot is read back unchanged exactly while fewer reads of the state without a token
have returned than the plane keeps snapshots. Every other read and every write leaves it. -/
theorem readSnapshot_kept_iff (config : PlaneConfig) (plane frozen : InMemoryStatePlane)
    (now : Int) (unique : String) (request : SnapshotRequest) (snapshot : Snapshot)
    (froze : getSnapshot config now unique request plane = .ok snapshot frozen)
    (activities : List Activity) (plain : ∀ activity ∈ activities, activity.isPlain = true)
    (distinct : (unique :: activities.filterMap Activity.unique?).Nodup) :
    readSnapshot snapshot.token (runActivities config activities frozen) =
        .ok snapshot (runActivities config activities frozen) ↔
      liveReads config activities frozen < max 1 config.maxSnapshots := by
  obtain ⟨start, part⟩ := getSnapshot_retains froze
  obtain ⟨later, count, kept, drawn⟩ := @runActivities_retains config activities plain frozen
  have tokens : (snapshot.token :: later.map Prod.fst).Nodup := by
    apply List.Nodup.of_map uniquePart
    rw [List.map_cons, List.map_map, part]
    apply List.Nodup.sublist (drawn.cons_cons unique.toList)
    exact distinct.map fun _ _ => String.toList_inj.mp
  have entered : (runActivities config activities frozen).snapshots =
      keepAll (max 1 config.maxSnapshots) plane.snapshots
        ((snapshot.token, snapshot) :: later) := by
    rw [kept, start]
    rfl
  have found := lookup_keepAll (max 1 config.maxSnapshots) tokens plane.snapshots snapshot
  rw [← entered, count] at found
  rw [readSnapshot, get_bind, found]
  split <;> rename_i room
  · exact iff_of_true rfl (by assumption)
  · exact iff_of_false (by rintro ⟨⟩) (by assumption)

/-- A plane that keeps some snapshots. -/
def keepingConfig (maxSnapshots : Nat) : PlaneConfig where
  registry := {}
  maxSnapshots := maxSnapshots

/-- A snapshot of nothing. -/
def nothingAsked : SnapshotRequest := { entities := [], keys := [] }

/-- The plane after a snapshot of nothing. -/
def frozenPlane (maxSnapshots : Nat) : InMemoryStatePlane :=
  finalState (getSnapshot (keepingConfig maxSnapshots) 0 "a" nothingAsked {})

/-- A read of one entity without a token. -/
def liveRead : Activity := .getState 0 "b" { entityRef := "component/component/r0", keys := [] }

/-- A plane that keeps two snapshots and knows the default keys. -/
def twoKept : PlaneConfig := { defaultConfig with maxSnapshots := 2 }

/-- One queue has a depth. -/
def queuedPlane : InMemoryStatePlane :=
  runActivities twoKept
    [.operate (.upsertEntity 0 queueEntity), .operate (.publishState [queueWrite 1 1 0])] {}

def depthAsked : SnapshotRequest :=
  { entities := ["component/component/r0"], keys := ["runtime.queue_depth"] }

/-- These activities change the depth and read the state once without a token. -/
def quietActivities : List Activity :=
  [.operate (.publishState [queueWrite 2 2 1]), liveRead, .queryGraph { roots := [] }, .changes {} 0,
    .freshness 0, .operate (.publishState [queueWrite 3 3 2])]

/-- The depth is kept as it was frozen. -/
theorem readSnapshot_kept_iff_of_two : ∃ snapshot frozen,
    getSnapshot twoKept 0 "a" depthAsked queuedPlane = .ok snapshot frozen ∧
    snapshot.values.map (fun stored => stored.value.number?) = [some 1] ∧
    ((runActivities twoKept quietActivities frozen).state.map fun entry => entry.2.value.number?) =
      [some 3] ∧
    readSnapshot snapshot.token (runActivities twoKept quietActivities frozen) =
      .ok snapshot (runActivities twoKept quietActivities frozen) := by
  have returned : answersWith (fun snapshot => decide
      (snapshot.values.map (fun stored => stored.value.number?) = [some 1]))
      (getSnapshot twoKept 0 "a" depthAsked queuedPlane) = true := by decide +kernel
  obtain ⟨snapshot, frozen, froze, depth⟩ := returned_of_answers returned
  have reached : frozen = finalState (getSnapshot twoKept 0 "a" depthAsked queuedPlane) := by
    rw [froze]
    rfl
  refine ⟨snapshot, frozen, froze, of_decide_eq_true depth, ?_, ?_⟩
  · rw [reached]
    decide +kernel
  · refine (readSnapshot_kept_iff twoKept queuedPlane frozen 0 "a" depthAsked snapshot froze
      quietActivities (by decide) (by decide)).mpr ?_
    rw [reached]
    decide +kernel

/-- A plane that keeps one snapshot loses it to the next read of the state. -/
theorem liveRead_evicts : ∃ snapshot,
    getSnapshot (keepingConfig 1) 0 "a" nothingAsked {} = .ok snapshot (frozenPlane 1) ∧
    liveRead.isPlain = true ∧
    readSnapshot snapshot.token (runActivities (keepingConfig 1) [liveRead] (frozenPlane 1)) =
      .error .keyError (runActivities (keepingConfig 1) [liveRead] (frozenPlane 1)) :=
  ⟨_, rfl, rfl, rfl⟩

end StateFlow.Plane
