import StateFlow.Library.Table

namespace StateFlow.Table

variable {κ α : Type} [DecidableEq κ]

/-- A table without the hidden keys. -/
def without (hidden : List κ) (items : List (κ × α)) : List (κ × α) :=
  items.filter fun entry => entry.1 ∉ hidden

/-- The entries of the allowed keys, in the order of the keys. -/
def only (allowed : List κ) (items : List (κ × α)) : List (κ × α) :=
  allowed.filterMap fun key => (items.lookup key).map fun value => (key, value)

/-- Two tables are the same mapping. -/
def SameMapping (first second : List (κ × α)) : Prop :=
  ∀ key, first.lookup key = second.lookup key

/-- Two tables differ at most in the hidden keys. -/
def AgreeOff (hidden : List κ) (first second : List (κ × α)) : Prop :=
  ∀ key, key ∉ hidden → first.lookup key = second.lookup key

/-- A table carries no hidden key. -/
def Lacks (hidden : List κ) (items : List (κ × α)) : Prop :=
  ∀ key ∈ hidden, items.lookup key = none

section Redaction
variable {hidden allowed : List κ} {first second items : List (κ × α)}

theorem lookup_without (hidden : List κ) (items : List (κ × α)) (key : κ) :
    (without hidden items).lookup key = if key ∈ hidden then none else items.lookup key := by
  induction items with
  | nil => simp [without]
  | cons entry rest ih =>
      unfold without at ih ⊢
      by_cases secret : entry.1 ∈ hidden
      · rw [List.filter_cons_of_neg (by simpa using secret), ih, lookup_cons]
        by_cases same : key = entry.1
        · rw [same, if_pos secret, if_pos secret]
        · rw [if_neg same]
      · rw [List.filter_cons_of_pos (by simpa using secret), lookup_cons, lookup_cons, ih]
        by_cases same : key = entry.1
        · rw [if_pos same, if_pos same, if_neg (same ▸ secret)]
        · rw [if_neg same, if_neg same]

theorem without_lacks (hidden : List κ) (items : List (κ × α)) : Lacks hidden (without hidden items) :=
  fun key member => by rw [lookup_without, if_pos member]

/-- Hiding more keys keeps a table without the hidden ones. -/
theorem Lacks.without {others : List κ} (lacks : Lacks hidden items) :
    Lacks hidden (Table.without others items) := by
  intro key member
  rw [lookup_without]
  split
  · rfl
  · exact lacks key member

/-- Tables that agree off the hidden keys are the same mapping without them. -/
theorem AgreeOff.without (agree : AgreeOff hidden first second) :
    SameMapping (Table.without hidden first) (Table.without hidden second) := by
  intro key
  rw [lookup_without, lookup_without]
  split
  · rfl
  · rename_i shown
    exact agree key shown

theorem SameMapping.without (same : SameMapping first second) (others : List κ) :
    SameMapping (Table.without others first) (Table.without others second) := by
  intro key
  rw [lookup_without, lookup_without, same key]

/-- An allow-list of shown keys reads the same entries. -/
theorem AgreeOff.only (agree : AgreeOff hidden first second)
    (shown : ∀ key ∈ allowed, key ∉ hidden) :
    Table.only allowed first = Table.only allowed second :=
  List.filterMap_congr fun key member => by rw [agree key (shown key member)]

theorem only_lacks (shown : ∀ key ∈ allowed, key ∉ hidden) : Lacks hidden (Table.only allowed items) := by
  intro key secret
  rw [List.lookup_eq_none_iff]
  intro entry member
  obtain ⟨name, listed, read⟩ := List.mem_filterMap.mp member
  obtain ⟨value, _, made⟩ := Option.map_eq_some_iff.mp read
  rw [← made, bne_iff_ne]
  rintro rfl
  exact shown key listed secret

/-- Tables that agree off the hidden keys and carry none of them are the same mapping. -/
theorem AgreeOff.same (agree : AgreeOff hidden first second) (left : Lacks hidden first)
    (right : Lacks hidden second) : SameMapping first second := by
  intro key
  by_cases secret : key ∈ hidden
  · rw [left key secret, right key secret]
  · exact agree key secret

/-- The same mapping is empty in both tables or in none. -/
theorem SameMapping.isEmpty (same : SameMapping first second) : first.isEmpty = second.isEmpty := by
  cases first with
  | nil =>
      cases second with
      | nil => rfl
      | cons entry rest =>
          have found := same entry.1
          rw [lookup_cons, if_pos rfl] at found
          cases found
  | cons entry rest =>
      cases second with
      | nil =>
          have found := same entry.1
          rw [lookup_cons, if_pos rfl] at found
          cases found
      | cons other rest => rfl

theorem AgreeOff.getD (agree : AgreeOff hidden first second) {key : κ} (shown : key ∉ hidden)
    (default : α) : Table.getD first key default = Table.getD second key default := by
  rw [Table.getD, Table.getD, agree key shown]

end Redaction

end StateFlow.Table
