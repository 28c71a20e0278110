import StateFlow.Library.Paging
import StateFlow.Construction.Plane.Pages
import StateFlow.Proof.Plane.Changes

namespace StateFlow.Plane
open Python Table Effect Paging

section Recorded
variable {config : PlaneConfig}

theorem Recorded.append {first middle last : InMemoryStatePlane} {early late : List Step}
    {before after : List StateChange} (front : Recorded config first middle early before)
    (back : Recorded config middle last late after) :
    Recorded config first last (early ++ late) (before ++ after) := by
  constructor
  · rw [List.map_append, front.cursors, back.cursors, front.revision, List.length_append,
      ← List.range'_append_1]
    congr 2
    omega
  · rw [back.revision, front.revision, List.length_append]
    omega
  · rw [List.filter_append]
    exact List.rel_append front.owners back.owners
  · rw [back.kept, front.kept, latest_append, List.append_assoc]

/-- The log after some operations keeps the last ones of the changes recorded so far. -/
def KeepsLatest (config : PlaneConfig) (operations : List Operation)
    (recorded : List StateChange) : Prop :=
  ∀ early late, operations = early ++ late →
    (runPlane config early {}).changes =
      latest config.maxChanges (recorded.take (runPlane config early {}).revision)

/-- The changes of a run stay the same ones while the run continues. -/
theorem run_recorded (operations : List Operation) {plane : InMemoryStatePlane}
    (fits : latest config.maxChanges plane.changes = plane.changes) :
    ∃ recorded, Recorded config plane (runPlane config operations plane)
        (runSteps config operations plane) recorded ∧
      ∀ early late, operations = early ++ late →
        (runPlane config early plane).changes = latest config.maxChanges (plane.changes ++
          recorded.take ((runPlane config early plane).revision - plane.revision)) := by
  induction operations generalizing plane with
  | nil =>
      refine ⟨[], ⟨rfl, rfl, .nil, by rw [List.append_nil, fits]; rfl⟩, ?_⟩
      intro early late joined
      rw [(List.append_eq_nil_iff.mp joined.symm).1, List.take_nil, List.append_nil, fits]
      rfl
  | cons operation rest ih =>
      obtain ⟨now, here⟩ := chained_recorded (operation_chained operation plane) fits
      have full : latest config.maxChanges (operation.apply config plane).changes =
          (operation.apply config plane).changes := by
        rw [here.kept]
        simpa using latest_append config.maxChanges (plane.changes ++ now) []
      obtain ⟨future, later, prefixes⟩ := ih full
      refine ⟨now ++ future, here.append later, ?_⟩
      intro early late joined
      cases early with
      | nil =>
          rw [show runPlane config [] plane = plane from rfl, Nat.sub_self, List.take_zero,
            List.append_nil, fits]
      | cons head tail =>
          obtain ⟨rfl, same⟩ := List.cons_eq_cons.mp joined
          have counted := here.revision
          obtain ⟨tailRecorded, tailHere⟩ := chained_recorded
            (@runSteps_chained config tail (operation.apply config plane)) full
          have grown := tailHere.revision
          change (runPlane config tail (operation.apply config plane)).changes = latest
            config.maxChanges (plane.changes ++ (now ++ future).take
              ((runPlane config tail (operation.apply config plane)).revision - plane.revision))
          rw [prefixes tail late same, here.kept, latest_append, List.append_assoc,
            List.take_append, @List.take_of_length_le _ _ now (by omega)]
          congr 4
          omega

end Recorded

section Watch
variable {config : PlaneConfig} {query : ChangeQuery}

theorem nextAfter_eq_nextCursor (after : Int) (changes : List StateChange) :
    nextAfter StateChange.cursor after changes = nextCursor after changes := by
  unfold nextAfter nextCursor
  cases changes.getLast? <;> rfl

/-- A page is a read of the change log. -/
def Page.toRead (page : Page) : Read StateChange := ⟨page.after, page.plane.changes, page.changes⟩

/-- The pages of a reader read the logs at its turns. -/
theorem watch_reads (turns : List Turn) (plane : InMemoryStatePlane) (start : Int) :
    (watch config query turns plane start).map Page.toRead =
      reads StateChange.cursor query.selects query.limit.toNat start
        ((watch config query turns plane start).map fun page => page.plane.changes) := by
  induction turns generalizing plane start with
  | nil => rfl
  | cons turn rest ih =>
      cases turn with
      | write operation => exact ih (operation.apply config plane) start
      | read =>
          have later := ih plane (nextCursor start (plane.changesAfter query start))
          rw [← nextAfter_eq_nextCursor] at later
          simp only [watch, List.map_cons, reads, ← nextAfter_eq_nextCursor]
          exact congrArg _ later

theorem lastCursor_eq (start : Int) (done : List Page) :
    lastCursor start done = lastAfter StateChange.cursor start (done.map Page.toRead) := by
  unfold lastCursor lastAfter
  rw [List.foldl_map]
  simp only [nextAfter_eq_nextCursor]
  rfl

/-- Each page reads the plane after the writes before it. -/
theorem watch_plane {turns : List Turn} {plane : InMemoryStatePlane} {start : Int} {page : Page}
    (member : page ∈ watch config query turns plane start) :
    ∃ early late, turnWrites turns = early ++ late ∧ page.plane = runPlane config early plane := by
  induction turns generalizing plane start with
  | nil => cases member
  | cons turn rest ih =>
      cases turn with
      | write operation =>
          obtain ⟨early, late, joined, same⟩ := ih member
          exact ⟨operation :: early, late, by rw [turnWrites, joined]; rfl, same⟩
      | read =>
          rcases List.mem_cons.mp member with here | later
          · exact ⟨[], turnWrites rest, rfl, by rw [here]; rfl⟩
          · exact ih later

end Watch

/-- An item that left a bounded log has enough newer items. -/
theorem le_countP_of_evicted {A : Type} {limit : Nat} {items : List A} {position : A → Nat}
    (ordered : Ordered position items) {item : A} (member : item ∈ items)
    (gone : item ∉ latest limit items) :
    limit ≤ items.countP fun newer => position item < position newer := by
  have parts := List.take_append_drop (items.length - limit) items
  rw [← parts] at member ordered
  have early := (List.mem_append.mp member).resolve_right gone
  have newer : ∀ other ∈ latest limit items, decide (position item < position other) = true :=
    fun other late => decide_eq_true ((List.pairwise_append.mp ordered).2.2 item early other late)
  have nonempty : 0 < items.length - limit := by
    have taken := List.length_pos_of_mem early
    rw [List.length_take] at taken
    omega
  have counted : (latest limit items).countP (fun newer => position item < position newer) =
      limit := by
    rw [List.countP_eq_length.mpr newer, latest, List.length_drop]
    omega
  rw [← counted]
  exact (List.drop_sublist _ _).countP_le

section Watch
variable {config : PlaneConfig} {query : ChangeQuery}

theorem Recorded.ordered {first last : InMemoryStatePlane} {steps : List Step}
    {recorded : List StateChange} (full : Recorded config first last steps recorded) :
    Ordered StateChange.cursor recorded := by
  have increasing : (recorded.map StateChange.cursor).Pairwise (· < ·) := by
    rw [full.cursors]
    exact List.pairwise_lt_range'
  exact List.pairwise_map.mp increasing

/-- The pages of a reader hold selected changes once and in order. A passed change is missing only
when enough newer ones were recorded before the read that passed it. -/
theorem pages_exact (config : PlaneConfig) (query : ChangeQuery) (turns : List Turn) (start : Int) :
    ∃ recorded : List StateChange,
      Recorded config {} (runPlane config (turnWrites turns) {})
        (runSteps config (turnWrites turns) {}) recorded ∧
      KeepsLatest config (turnWrites turns) recorded ∧
      ((watch config query turns {} start).flatMap Page.changes).Pairwise
        (fun first second => first.cursor < second.cursor) ∧
      ((watch config query turns {} start).flatMap Page.changes).Nodup ∧
      (∀ change ∈ (watch config query turns {} start).flatMap Page.changes,
        change ∈ recorded ∧ query.selects change = true ∧ start < change.cursor) ∧
      ∀ change ∈ recorded, query.selects change = true → start < change.cursor →
        change.cursor ≤ lastCursor start (watch config query turns {} start) →
        change ∉ (watch config query turns {} start).flatMap Page.changes →
        ∃ page ∈ watch config query turns {} start, page.after < change.cursor ∧
          change.cursor ≤ nextCursor page.after page.changes ∧
          config.maxChanges ≤ (recorded.take page.plane.revision).countP
            fun newer => change.cursor < newer.cursor := by
  obtain ⟨recorded, full, prefixes⟩ := @run_recorded config (turnWrites turns) {} List.drop_nil
  have kept : KeepsLatest config (turnWrites turns) recorded := by
    intro early late joined
    simpa using prefixes early late joined
  have logged (page : Page) (member : page ∈ watch config query turns {} start) :
      page.plane.changes = latest config.maxChanges (recorded.take page.plane.revision) := by
    obtain ⟨early, late, joined, same⟩ := watch_plane member
    rw [same]
    exact kept early late joined
  have log_ordered : ∀ log ∈ (watch config query turns {} start).map fun page =>
      page.plane.changes, Ordered StateChange.cursor log := by
    intro log listed
    obtain ⟨page, member, rfl⟩ := List.mem_map.mp listed
    rw [logged page member]
    exact (full.ordered.sublist (List.take_sublist _ _)).sublist (List.drop_sublist _ _)
  have items : (watch config query turns {} start).flatMap Page.changes =
      ((watch config query turns {} start).map Page.toRead).flatMap Read.items := by
    rw [List.flatMap_map]
    rfl
  have increasing : Ordered StateChange.cursor
      ((watch config query turns {} start).flatMap Page.changes) := by
    rw [items, watch_reads]
    exact reads_ordered log_ordered
  refine ⟨recorded, full, kept, increasing, ?_, ?_, ?_⟩
  · exact increasing.imp fun less same => absurd (congrArg StateChange.cursor same) (by omega)
  · intro change member
    rw [items, watch_reads] at member
    obtain ⟨beyond, selected, log, listed, inside⟩ := mem_reads member
    obtain ⟨page, reading, rfl⟩ := List.mem_map.mp listed
    rw [logged page reading] at inside
    exact ⟨List.mem_of_mem_take (List.mem_of_mem_drop inside), selected, beyond⟩
  · intro change member selected beyond passed missing
    rw [lastCursor_eq, watch_reads] at passed
    rw [items, watch_reads] at missing
    obtain ⟨read, listed, below, reached, gone, last, held, bound⟩ :=
      absent_of_passed log_ordered selected beyond passed missing
    rw [← watch_reads] at listed
    obtain ⟨page, reading, rfl⟩ := List.mem_map.mp listed
    rw [nextAfter_eq_nextCursor] at reached
    refine ⟨page, reading, below, reached, ?_⟩
    change change ∉ page.plane.changes at gone
    change last ∈ page.plane.changes at held
    rw [logged page reading] at gone held
    have parts := List.take_append_drop page.plane.revision recorded
    have early : change ∈ recorded.take page.plane.revision := by
      rw [← parts] at member
      rcases List.mem_append.mp member with here | later
      · exact here
      · have whole := full.ordered
        rw [← parts] at whole
        have less := (List.pairwise_append.mp whole).2.2 last (List.mem_of_mem_drop held) change later
        omega
    exact le_countP_of_evicted (full.ordered.sublist (List.take_sublist _ _)) early gone

end Watch

end StateFlow.Plane
