import StateFlow.Construction.Rpc.Watch
import StateFlow.Proof.Plane.Pages

namespace StateFlow.Rpc
open Plane Paging Streaming

section Watch
variable {config : PlaneConfig} {request : WatchStateRequest}

/-- The filter of a stream stays the same while its page size changes. -/
def WatchStateRequest.selects (request : WatchStateRequest) : StateChange → Bool :=
  ChangeQuery.selects { entityPrefix := request.entityPrefix, keys := request.keys }

/-- A change was missed when the log had room for newer ones only. -/
def Evicted (config : PlaneConfig) (recorded : List StateChange) (change : StateChange) : Prop :=
  config.maxChanges ≤ recorded.countP fun newer => change.cursor < newer.cursor

abbrev FollowsChanges (config : PlaneConfig) (request : WatchStateRequest)
    (recorded : List StateChange) (watcher : Watcher) : Prop :=
  watcher.stream.Follows StateChange.cursor request.selects request.start recorded
    (Evicted config recorded)

theorem watchWrites_append (early late : List WatchTurn) :
    watchWrites (early ++ late) = watchWrites early ++ watchWrites late := by
  induction early with
  | nil => rfl
  | cons turn rest ih => cases turn <;> simp [watchWrites, ih]

/-- The plane of a watcher has the writes of its turns. -/
theorem watcher_plane (turns : List WatchTurn) (watcher : Watcher) :
    (turns.foldl (Watcher.turn config request) watcher).plane =
      runPlane config (watchWrites turns) watcher.plane := by
  induction turns generalizing watcher with
  | nil => rfl
  | cons turn rest ih =>
      rw [List.foldl_cons, ih]
      cases turn with
      | write operation => rfl
      | resume =>
          simp only [Watcher.turn, Watcher.resume, watchWrites]
          split
          · rfl
          · split <;> split <;> rfl
      | receive => rfl
      | reopen batchSize follow => rfl

/-- A log of a run holds the latest changes up to its revision. -/
theorem gone_evicted {recorded log : List StateChange} {revision : Nat}
    (ordered : Ordered StateChange.cursor recorded)
    (kept : log = latest config.maxChanges (recorded.take revision)) {change : StateChange}
    (member : change ∈ recorded) (absent : change ∉ log)
    (passed : ∃ last ∈ log, change.cursor ≤ last.cursor) : Evicted config recorded change := by
  obtain ⟨last, held, bound⟩ := passed
  rw [kept] at absent held
  have parts := List.take_append_drop revision recorded
  have early : change ∈ recorded.take revision := by
    rw [← parts] at member
    rcases List.mem_append.mp member with here | later
    · exact here
    · rw [← parts] at ordered
      have less := (List.pairwise_append.mp ordered).2.2 last (List.mem_of_mem_drop held) change later
      omega
  exact (le_countP_of_evicted (ordered.sublist (List.take_sublist _ _)) early absent).trans
    ((List.take_sublist revision recorded).countP_le)

/-- One turn of a run. -/
theorem turn_follows {recorded : List StateChange} {revision : Nat} {watcher : Watcher}
    (ordered : Ordered StateChange.cursor recorded)
    (kept : watcher.plane.changes = latest config.maxChanges (recorded.take revision))
    (follows : FollowsChanges config request recorded watcher) (turn : WatchTurn) :
    FollowsChanges config request recorded (watcher.turn config request turn) := by
  cases turn with
  | write operation => exact follows
  | receive => exact Stream.follows_receive follows
  | reopen batchSize follow => exact Stream.follows_reopen follows
  | resume =>
      simp only [Watcher.turn, Watcher.resume]
      split
      · exact follows
      · split
        · split
          · exact Stream.follows_send follows
          · exact follows
        · rename_i empty
          split
          · exact follows
          · refine Stream.follows_poll follows empty ?_ ?_ ?_
            · rw [kept]
              exact (ordered.sublist (List.take_sublist _ _)).sublist (List.drop_sublist _ _)
            · intro change member
              rw [kept] at member
              exact List.mem_of_mem_take (List.mem_of_mem_drop member)
            · exact fun change member absent passed => gone_evicted ordered kept member absent passed

/-- Every turn of a run keeps the stream behind the record of its writes. -/
theorem run_follows {recorded : List StateChange} {turns : List WatchTurn}
    (ordered : Ordered StateChange.cursor recorded)
    (kept : KeepsLatest config (watchWrites turns) recorded) :
    FollowsChanges config request recorded (request.run config turns) := by
  induction turns using List.reverseRecOn with
  | nil => exact Stream.follows_fresh
  | append_singleton turns turn ih =>
      rw [watchWrites_append] at kept
      have earlier : KeepsLatest config (watchWrites turns) recorded := by
        intro early late joined
        exact kept early (late ++ watchWrites [turn]) (by rw [joined, List.append_assoc])
      have here := kept (watchWrites turns) (watchWrites [turn]) rfl
      unfold WatchStateRequest.run
      rw [List.foldl_append]
      refine @turn_follows _ _ _ (runPlane config (watchWrites turns) {}).revision _ ordered ?_
        (ih earlier) turn
      rw [show (request.run config turns).plane = runPlane config (watchWrites turns) {} from
        watcher_plane turns request.watcher]
      exact here

end Watch

/-- In every interleaving of writers with a stream that its reader may lose and ask for again, with any
page sizes, the reader receives selected changes once and in order. A change that the reader passed
without receiving it was evicted by newer ones. -/
theorem watch_resumes (config : PlaneConfig) (request : WatchStateRequest) (turns : List WatchTurn) :
    let received := (request.run config turns).stream.received
    ∃ recorded : List StateChange,
      Recorded config {} (runPlane config (watchWrites turns) {})
        (runSteps config (watchWrites turns) {}) recorded ∧
      received.Pairwise (fun first second => first.cursor < second.cursor) ∧
      (∀ change ∈ received,
        change ∈ recorded ∧ request.selects change = true ∧ request.start < change.cursor) ∧
      ∀ change ∈ recorded, request.selects change = true → request.start < change.cursor →
        change.cursor ≤ nextCursor request.start received → change ∉ received →
        config.maxChanges ≤ recorded.countP fun newer => change.cursor < newer.cursor := by
  intro received
  obtain ⟨recorded, full, prefixes⟩ := @run_recorded config (watchWrites turns) {} List.drop_nil
  have kept : KeepsLatest config (watchWrites turns) recorded := by
    intro early late joined
    simpa using prefixes early late joined
  -- Asking again at this point drops what the reader did not receive.
  have follows := Stream.follows_reopen (@run_follows config request _ _ full.ordered kept)
  have whole : (((request.run config turns).stream.reopen StateChange.cursor request.start)).items =
      received := by simp [Stream.items, Stream.reopen, received]
  obtain ⟨sorted, _, inside, complete⟩ := follows
  rw [whole] at sorted inside complete
  refine ⟨recorded, full, sorted, inside, fun change member selected beyond passed absent => ?_⟩
  rw [← nextAfter_eq_nextCursor] at passed
  exact (complete change member selected beyond passed).resolve_left absent

section Rounds
variable {config : PlaneConfig} {request : WatchStateRequest} {watcher : Watcher}

/-- A change that a log holds has room in it. -/
theorem not_evicted {recorded : List StateChange} (ordered : Ordered StateChange.cursor recorded)
    {change : StateChange} (member : change ∈ latest config.maxChanges recorded) :
    ¬ Evicted config recorded change := by
  unfold Evicted latest at *
  have parts := List.take_append_drop (recorded.length - config.maxChanges) recorded
  have apart := ordered
  rw [← parts] at apart
  have older : (recorded.take (recorded.length - config.maxChanges)).countP
      (fun newer => change.cursor < newer.cursor) = 0 := by
    refine List.countP_eq_zero.mpr fun other early => ?_
    have less := (List.pairwise_append.mp apart).2.2 other early change member
    simpa using less.le
  have fewer : (recorded.drop (recorded.length - config.maxChanges)).countP
      (fun newer => change.cursor < newer.cursor) <
        (recorded.drop (recorded.length - config.maxChanges)).length :=
    List.countP_lt_length_iff.mpr ⟨change, member, by simp⟩
  rw [← parts, List.countP_append, older]
  rw [List.length_drop] at fewer
  omega

/-- A round of an open stream without writers -/
def serveRound : List WatchTurn := [.resume, .receive]

/-- Every selected change of a log and every change of a page fits its message. -/
structure Fitting (request : WatchStateRequest) (watcher : Watcher) : Prop where
  log : ∀ change ∈ watcher.plane.changes, request.selects change = true → fitsMessage change = true
  page : ∀ change ∈ watcher.stream.page, fitsMessage change = true

/-- An open stream that waits for changes takes the rounds of a stream over the log. -/
theorem serveRound_stream (follow : watcher.follow = true) (opened : watcher.closed = false)
    (fits : Fitting request watcher) :
    let after := serveRound.foldl (Watcher.turn config request) watcher
    after.stream = watcher.stream.round StateChange.cursor request.selects watcher.limit.toNat
        watcher.plane.changes ∧
      after.plane = watcher.plane ∧ after.limit = watcher.limit ∧ after.follow = true ∧
        after.closed = false := by
  simp only [serveRound, List.foldl_cons, List.foldl_nil, Watcher.turn, Watcher.resume, Stream.round,
    follow, opened]
  cases page : watcher.stream.page with
  | nil =>
      simp
      rfl
  | cons change rest =>
      have fit := fits.page change (page ▸ List.mem_cons_self)
      simp [fit]

/-- A round takes its changes from the page and from the selected ones of the log. -/
theorem round_page {stream : Stream StateChange} {limit : Nat} {log : List StateChange}
    {change : StateChange}
    (member : change ∈ (stream.round StateChange.cursor request.selects limit log).page) :
    change ∈ stream.page ∨ change ∈ log ∧ request.selects change = true := by
  have received (stream : Stream StateChange) : stream.receive.page = stream.page := by
    unfold Stream.receive
    split <;> rfl
  unfold Stream.round at member
  rw [received] at member
  split at member
  · have taken := List.mem_filter.mp (List.mem_of_mem_take member)
    exact .inr ⟨taken.1, (Bool.and_eq_true_iff.mp taken.2).2⟩
  · unfold Stream.send at member
    split at member
    · exact .inl member
    · rename_i page
      exact .inl (page ▸ List.mem_cons_of_mem _ member)

theorem serveRound_fits (follow : watcher.follow = true) (opened : watcher.closed = false)
    (fits : Fitting request watcher) :
    Fitting request (serveRound.foldl (Watcher.turn config request) watcher) := by
  obtain ⟨stream, plane, _⟩ := @serveRound_stream config request _ follow opened fits
  refine ⟨by rw [plane]; exact fits.log, fun change member => ?_⟩
  rw [stream] at member
  rcases round_page member with earlier | ⟨logged, selected⟩
  · exact fits.page change earlier
  · exact fits.log change logged selected

theorem serveRounds_stream (rounds : Nat) (follow : watcher.follow = true)
    (opened : watcher.closed = false) (fits : Fitting request watcher) :
    let after := (List.replicate rounds serveRound).flatten.foldl (Watcher.turn config request) watcher
    after.stream = (Stream.round StateChange.cursor request.selects watcher.limit.toNat
        watcher.plane.changes)^[rounds] watcher.stream := by
  induction rounds generalizing watcher with
  | zero => rfl
  | succ rounds ih =>
      have next := @serveRound_fits config request _ follow opened fits
      obtain ⟨stream, plane, limit, follow, opened⟩ :=
        @serveRound_stream config request _ follow opened fits
      intro after
      have again := ih follow opened next
      rw [stream, plane, limit] at again
      simpa [after, List.replicate_succ, List.foldl_append] using again

theorem serveRounds_writes (rounds : Nat) :
    watchWrites (List.replicate rounds serveRound).flatten = [] := by
  induction rounds with
  | zero => rfl
  | succ rounds ih => simpa [List.replicate_succ, watchWrites_append, serveRound, watchWrites] using ih

/-- A reader that asks again takes the rounds of the library over the log that it finds. -/
theorem reopened_stream (turns : List WatchTurn) (batchSize : Int) (rounds : Nat)
    (fits : ∀ change ∈ (request.run config turns).plane.changes, request.selects change = true →
      fitsMessage change = true) :
    (request.run config (turns ++ .reopen batchSize true ::
        (List.replicate rounds serveRound).flatten)).stream =
      (Stream.round StateChange.cursor request.selects (batchLimit batchSize).toNat
        (request.run config turns).plane.changes)^[rounds]
          ((request.run config turns).stream.reopen StateChange.cursor request.start) := by
  unfold WatchStateRequest.run
  rw [List.foldl_append, List.foldl_cons]
  exact serveRounds_stream rounds rfl rfl ⟨fits, fun _ member => by cases member⟩

theorem batchLimit_pos (batchSize : Int) : 0 < (batchLimit batchSize).toNat := by
  unfold batchLimit
  omega

/-- After enough rounds a reader that asked again holds what it passed, and it passed the whole log. -/
theorem reopened_receives {turns : List WatchTurn} {batchSize : Int} {further : Nat}
    (sorted : Ordered StateChange.cursor (request.run config turns).plane.changes)
    (fits : ∀ change ∈ (request.run config turns).plane.changes, request.selects change = true →
      fitsMessage change = true) :
    let log := (request.run config turns).plane.changes
    let last := (request.run config (turns ++ .reopen batchSize true ::
      (List.replicate (3 * log.length + further) serveRound).flatten)).stream
    last.items = last.received ∧ ∀ change ∈ log, request.selects change = true →
      change.cursor ≤ nextAfter StateChange.cursor request.start last.items := by
  intro log last
  have fresh : ((request.run config turns).stream.reopen StateChange.cursor request.start).weight
      StateChange.cursor request.selects log request.start ≤ 3 * log.length + further := by
    have some := List.length_filter_le (fun change => nextAfter StateChange.cursor request.start
      ((request.run config turns).stream.reopen StateChange.cursor request.start).items <
        change.cursor && request.selects change) log
    simp only [Stream.weight, Stream.remaining, Stream.reopen, List.length_nil] at some ⊢
    omega
  have served := Stream.rounds_receive (batchLimit_pos batchSize) sorted fresh (by simp [Stream.reopen])
  simp only [last]
  rw [reopened_stream _ _ _ fits]
  exact served

end Rounds

/-- Two writes of one queue, and a reader that loses its stream after the first one -/
def watchedTurns : List WatchTurn :=
  [.write (.upsertEntity 0 queueEntity), .resume, .resume, .receive,
    .write (.publishState [queueWrite 3 0 0])]

end StateFlow.Rpc
