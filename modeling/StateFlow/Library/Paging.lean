import Mathlib.Data.List.Pairwise
import Mathlib.Data.List.Sort

namespace StateFlow.Paging

variable {A : Type} (position : A → Nat)

/-- The positions of a log increase. -/
def Ordered (log : List A) : Prop := log.Pairwise fun first second => position first < position second

/-- A page holds the first selected items after a position. -/
def page (selects : A → Bool) (limit : Nat) (after : Int) (log : List A) : List A :=
  (log.filter fun item => after < position item && selects item).take limit

/-- The reader continues after the last item of its page. -/
def nextAfter (after : Int) (items : List A) : Int :=
  (items.getLast?.map fun item => (position item : Int)).getD after

/-- A read keeps its start, the log that it found, and its page. -/
structure Read (A : Type) where
  after : Int
  log : List A
  items : List A

/-- The reads of a reader that finds another log each time. -/
def reads (selects : A → Bool) (limit : Nat) : Int → List (List A) → List (Read A)
  | _, [] => []
  | after, log :: rest =>
      let items := page position selects limit after log
      ⟨after, log, items⟩ :: reads selects limit (nextAfter position after items) rest

/-- The position that a reader reaches. -/
def lastAfter (after : Int) (done : List (Read A)) : Int :=
  done.foldl (fun after read => nextAfter position after read.items) after

section Pages
variable {position} {selects : A → Bool} {limit : Nat} {after : Int} {log : List A}

theorem mem_page {item : A} (member : item ∈ page position selects limit after log) :
    item ∈ log ∧ after < position item ∧ selects item = true := by
  have inside := List.mem_filter.mp (List.mem_of_mem_take member)
  simpa using inside

theorem page_ordered (ordered : Ordered position log) :
    Ordered position (page position selects limit after log) :=
  (ordered.sublist List.filter_sublist).sublist (List.take_sublist _ _)

/-- The last item of an ordered log has the largest position. -/
theorem Ordered.le_nextAfter {items : List A} (ordered : Ordered position items) {item : A}
    (member : item ∈ items) (after : Int) :
    (position item : Int) ≤ nextAfter position after items := by
  obtain ⟨front, last, split⟩ :=
    (List.eq_nil_or_concat' items).resolve_left (List.ne_nil_of_mem member)
  subst split
  unfold nextAfter
  rw [List.getLast?_append, List.getLast?_singleton, Option.some_or, Option.map_some, Option.getD_some]
  rcases List.mem_append.mp member with early | here
  · have earlier := (List.pairwise_append.mp ordered).2.2 item early last (List.mem_singleton.mpr rfl)
    omega
  · rw [List.mem_singleton.mp here]

/-- An ordered list is a part of each ordered list that holds its items. -/
theorem Ordered.sublist_of_subset {items others : List A} (ordered : Ordered position items)
    (larger : Ordered position others) (inside : ∀ item ∈ items, item ∈ others) :
    items.Sublist others := by
  have distinct : items.Nodup :=
    ordered.imp fun less same => absurd (congrArg position same) less.ne
  exact List.sublist_of_subperm_of_pairwise (List.subperm_of_subset distinct inside) ordered larger

/-- The next position is the old one or the position of an item of the page. -/
theorem nextAfter_cases (after : Int) (items : List A) :
    (items = [] ∧ nextAfter position after items = after) ∨
      ∃ item ∈ items, nextAfter position after items = position item := by
  rcases List.eq_nil_or_concat' items with none | ⟨front, last, split⟩
  · subst none
    exact .inl ⟨rfl, rfl⟩
  · subst split
    refine .inr ⟨last, List.mem_append_right front (List.mem_singleton.mpr rfl), ?_⟩
    unfold nextAfter
    rw [List.getLast?_append]
    rfl

theorem after_le_nextAfter :
    after ≤ nextAfter position after (page position selects limit after log) := by
  rcases @nextAfter_cases _ position after (page position selects limit after log) with
    ⟨_, same⟩ | ⟨item, member, same⟩
  · omega
  · have later := (mem_page member).2.1
    omega

/-- A page holds each selected item of an ordered log up to its next position. -/
theorem mem_page_of_passed (ordered : Ordered position log) {item : A} (member : item ∈ log)
    (selected : selects item = true) (later : after < position item)
    (passed : (position item : Int) ≤
      nextAfter position after (page position selects limit after log)) :
    item ∈ page position selects limit after log := by
  have found : item ∈ log.filter fun item => after < position item && selects item :=
    List.mem_filter.mpr ⟨member, by simp [later, selected]⟩
  have sorted : Ordered position (log.filter fun item => after < position item && selects item) :=
    ordered.sublist List.filter_sublist
  unfold page at passed ⊢
  rw [← List.take_append_drop limit (log.filter _)] at found sorted
  rcases List.mem_append.mp found with early | late
  · exact early
  · rcases @nextAfter_cases _ position after
      ((log.filter fun item => after < position item && selects item).take limit) with
      ⟨_, same⟩ | ⟨last, inside, same⟩
    · omega
    · have beyond := (List.pairwise_append.mp sorted).2.2 last inside item late
      omega

/-- Each item of the pages is selected and comes after the start. -/
theorem mem_reads {logs : List (List A)} {item : A}
    (member : item ∈ (reads position selects limit after logs).flatMap Read.items) :
    after < position item ∧ selects item = true ∧ ∃ log ∈ logs, item ∈ log := by
  induction logs generalizing after with
  | nil => cases member
  | cons log rest ih =>
      rcases List.mem_append.mp member with here | later
      · obtain ⟨inside, beyond, selected⟩ := mem_page here
        exact ⟨beyond, selected, log, List.mem_cons_self, inside⟩
      · obtain ⟨beyond, selected, other, listed, inside⟩ := ih later
        have reached := @after_le_nextAfter _ position selects limit after log
        exact ⟨by omega, selected, other, List.mem_cons_of_mem _ listed, inside⟩

/-- The positions increase over all pages. -/
theorem reads_ordered {logs : List (List A)} (ordered : ∀ log ∈ logs, Ordered position log) :
    Ordered position ((reads position selects limit after logs).flatMap Read.items) := by
  induction logs generalizing after with
  | nil => exact List.Pairwise.nil
  | cons log rest ih =>
      have here := @page_ordered _ position selects limit after log (ordered log List.mem_cons_self)
      refine List.pairwise_append.mpr
        ⟨here, ih fun other listed => ordered other (List.mem_cons_of_mem _ listed), ?_⟩
      intro first inside second later
      have reached := here.le_nextAfter inside after
      have beyond := (mem_reads later).1
      omega

/-- A selected item that a reader passed without receiving it was absent from the log of the read
that passed it. -/
theorem absent_of_passed {logs : List (List A)} (ordered : ∀ log ∈ logs, Ordered position log)
    {item : A} (selected : selects item = true) (beyond : after < position item)
    (passed : position item ≤ lastAfter position after (reads position selects limit after logs))
    (missing : item ∉ (reads position selects limit after logs).flatMap Read.items) :
    ∃ read ∈ reads position selects limit after logs, read.after < position item ∧
      position item ≤ nextAfter position read.after read.items ∧ item ∉ read.log ∧
      ∃ last ∈ read.log, position item ≤ position last := by
  induction logs generalizing after with
  | nil =>
      change (position item : Int) ≤ after at passed
      omega
  | cons log rest ih =>
      have absent := fun here => missing (List.mem_append_left _ here)
      by_cases here : (position item : Int) ≤
          nextAfter position after (page position selects limit after log)
      · have gone : item ∉ log := fun member => absent
          (mem_page_of_passed (ordered log List.mem_cons_self) member selected beyond here)
        rcases @nextAfter_cases _ position after
          (page position selects limit after log) with ⟨_, same⟩ | ⟨last, inside, same⟩
        · omega
        · exact ⟨_, List.mem_cons_self, beyond, here, gone, last, (mem_page inside).1, by omega⟩
      · obtain ⟨read, listed, found⟩ := @ih
          (nextAfter position after (page position selects limit after log))
          (fun other listed => ordered other (List.mem_cons_of_mem _ listed)) (by omega) passed
          (fun later => missing (List.mem_append_right _ later))
        exact ⟨read, List.mem_cons_of_mem _ listed, found⟩

end Pages

end StateFlow.Paging
