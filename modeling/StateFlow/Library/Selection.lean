import Mathlib.Data.List.MinMax
import Mathlib.Data.List.Nodup
import StateFlow.Library.Table

namespace StateFlow.Selection

variable {α β : Type}

/-- The survivors are the items that stay near a leader. -/
def survivors (leader : Option α) (near : α → α → Bool) (items : List α) : List α :=
  match leader with
  | some best => items.filter (near best)
  | none => []

theorem survivors_sublist (leader : Option α) (near : α → α → Bool) (items : List α) :
    (survivors leader near items).Sublist items := by
  cases leader with
  | none => exact List.nil_sublist items
  | some best => exact List.filter_sublist

section Least
variable [LinearOrder β] (score : α → β)

/-- A nonempty list has a least item. -/
theorem argmin_of_ne_nil {items : List α} (present : items ≠ []) :
    ∃ best ∈ items, items.argmin score = some best := by
  cases found : items.argmin score with
  | none => exact absurd (List.argmin_eq_none.mp found) present
  | some best => exact ⟨best, List.argmin_mem (Option.mem_def.mpr found), rfl⟩

/-- No item scores below the least item. -/
theorem argmin_le {items : List α} {best item : α} (least : items.argmin score = some best)
    (member : item ∈ items) : score best ≤ score item :=
  List.le_of_mem_argmin member (Option.mem_def.mpr least)

theorem argmin_mem {items : List α} {best : α} (least : items.argmin score = some best) :
    best ∈ items :=
  List.argmin_mem (Option.mem_def.mpr least)

theorem argmax_of_ne_nil {items : List α} (present : items ≠ []) :
    ∃ best ∈ items, items.argmax score = some best := by
  cases found : items.argmax score with
  | none => exact absurd (List.argmax_eq_none.mp found) present
  | some best => exact ⟨best, List.argmax_mem (Option.mem_def.mpr found), rfl⟩

theorem le_argmax {items : List α} {best item : α} (greatest : items.argmax score = some best)
    (member : item ∈ items) : score item ≤ score best :=
  List.le_of_mem_argmax member (Option.mem_def.mpr greatest)

theorem argmax_mem {items : List α} {best : α} (greatest : items.argmax score = some best) :
    best ∈ items :=
  List.argmax_mem (Option.mem_def.mpr greatest)

/-- The least item survives when it is near itself. -/
theorem survivors_argmin_ne_nil {near : α → α → Bool} {items : List α} (present : items ≠ [])
    (reflexive : ∀ item ∈ items, near item item) :
    survivors (items.argmin score) near items ≠ [] := by
  obtain ⟨best, member, least⟩ := argmin_of_ne_nil score present
  rw [least]
  exact List.ne_nil_of_mem (List.mem_filter.mpr ⟨member, reflexive best member⟩)

/-- A survivor of the least item stays near every item that scores no higher than it. -/
theorem mem_survivors_argmin {near : α → α → Bool} {items : List α} {item : α} :
    item ∈ survivors (items.argmin score) near items ↔
      item ∈ items ∧ ∃ best, items.argmin score = some best ∧ near best item := by
  constructor
  · intro member
    cases least : items.argmin score with
    | none => rw [least] at member; cases member
    | some best =>
        rw [least] at member
        obtain ⟨inside, close⟩ := List.mem_filter.mp member
        exact ⟨inside, best, rfl, close⟩
  · rintro ⟨inside, best, least, close⟩
    rw [least]
    exact List.mem_filter.mpr ⟨inside, close⟩

end Least

/-- The last item with a key is the one that a keyed table of the list holds. -/
def lastWith [DecidableEq β] (key : α → β) (query : β) (items : List α) : Option α :=
  items.reverse.find? fun item => key item = query

section Keyed
variable [DecidableEq β] (key : α → β)

theorem lastWith_some {query : β} {items : List α} {item : α}
    (found : lastWith key query items = some item) : item ∈ items ∧ key item = query := by
  have matched := List.find?_some found
  exact ⟨List.mem_reverse.mp (List.mem_of_find?_eq_some found), by simpa using matched⟩

/-- A later item replaces the item of its key. -/
theorem lastWith_concat (query : β) (items : List α) (item : α) :
    lastWith key query (items ++ [item]) =
      if key item = query then some item else lastWith key query items := by
  unfold lastWith
  rw [List.reverse_append]
  by_cases same : key item = query
  · simp [same]
  · simp [same]

/-- A keyed table of a list with distinct keys holds each of its items. -/
theorem lastWith_of_nodup {items : List α} (distinct : (items.map key).Nodup) {item : α}
    (member : item ∈ items) : lastWith key (key item) items = some item := by
  cases found : lastWith key (key item) items with
  | none =>
      have absent := List.find?_eq_none.mp found item (List.mem_reverse.mpr member)
      simp at absent
  | some other =>
      obtain ⟨inside, same⟩ := lastWith_some key found
      rw [List.inj_on_of_nodup_map distinct inside member same]

/-- A list with distinct keys has one item under each of its keys. -/
theorem filter_of_nodup {items : List α} (distinct : (items.map key).Nodup) {item : α}
    (member : item ∈ items) : items.filter (fun other => key other = key item) = [item] := by
  induction items with
  | nil => cases member
  | cons first rest ih =>
      obtain ⟨fresh, later⟩ := List.nodup_cons.mp distinct
      rcases List.mem_cons.mp member with rfl | inside
      · have none : rest.filter (fun other => key other = key item) = [] :=
          List.filter_eq_nil_iff.mpr fun other listed same =>
            fresh (List.mem_map.mpr ⟨other, listed, of_decide_eq_true same⟩)
        rw [List.filter_cons_of_pos (by simp), none]
      · have apart : key first ≠ key item := fun same =>
          fresh (List.mem_map.mpr ⟨item, inside, same.symm⟩)
        rw [List.filter_cons_of_neg (by simpa using apart), ih later inside]

/-- A table that assigns a list in order holds the last item of each key. -/
theorem lookup_foldl_assign [BEq β] [LawfulBEq β] (query : β) (items : List α)
    (table : List (β × α)) :
    (items.foldl (fun table item => Table.assign (key item) item table) table).lookup query =
      (lastWith key query items).or (table.lookup query) := by
  induction items generalizing table with
  | nil => rfl
  | cons item rest ih =>
      rw [List.foldl_cons, ih, Table.lookup_assign]
      unfold lastWith
      rw [List.reverse_cons, List.find?_append, Option.or_assoc]
      by_cases same : query = key item
      · simp [same]
      · simp [same, Ne.symm same]

end Keyed

end StateFlow.Selection
