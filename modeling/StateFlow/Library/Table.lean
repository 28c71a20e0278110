import Mathlib.Data.List.Basic

namespace StateFlow.Table

variable {κ α : Type} [BEq κ]

/-- An assignment replaces a present key in place and appends an absent one. -/
def assign (key : κ) (value : α) : List (κ × α) → List (κ × α)
  | [] => [(key, value)]
  | entry :: rest => if entry.1 == key then (key, value) :: rest else entry :: assign key value rest

/-- A read returns a default for an absent key. -/
def getD (items : List (κ × α)) (key : κ) (default : α) : α := (items.lookup key).getD default

/-- An assignment adds no entry besides its own. -/
theorem mem_assign {key : κ} {value : α} {items : List (κ × α)} {entry : κ × α}
    (member : entry ∈ assign key value items) : entry = (key, value) ∨ entry ∈ items := by
  induction items with
  | nil => exact Or.inl (by simpa [assign] using member)
  | cons first rest ih =>
      unfold assign at member
      split at member
      · rcases List.mem_cons.mp member with same | later
        · exact Or.inl same
        · exact Or.inr (List.mem_cons_of_mem _ later)
      · rcases List.mem_cons.mp member with same | later
        · exact Or.inr (same ▸ List.mem_cons_self)
        · exact (ih later).imp_right (List.mem_cons_of_mem _)

/-- Two tables have the same keys in one order and related values. -/
def Matches (related : α → α → Prop) : List (κ × α) → List (κ × α) → Prop :=
  List.Forall₂ fun entry other => entry.1 = other.1 ∧ related entry.2 other.2

/-- Related assignments keep two tables related. -/
theorem matches_assign {related : α → α → Prop} {first second : List (κ × α)} {left right : α}
    (alike : Matches related first second) (key : κ) (assigned : related left right) :
    Matches related (assign key left first) (assign key right second) := by
  unfold Matches at alike ⊢
  induction alike with
  | nil => exact .cons ⟨rfl, assigned⟩ .nil
  | cons named later ih =>
      unfold assign
      rw [← named.1]
      split
      · exact .cons ⟨rfl, assigned⟩ later
      · exact .cons named ih

section Lawful
variable [LawfulBEq κ]

/-- A lookup reads the first entry of its key. -/
theorem lookup_cons [DecidableEq κ] (query : κ) (entry : κ × α) (rest : List (κ × α)) :
    (entry :: rest).lookup query = if query = entry.1 then some entry.2 else rest.lookup query := by
  obtain ⟨key, value⟩ := entry
  rw [List.lookup_cons]
  by_cases same : query = key
  · simp [same]
  · simp [same, beq_eq_false_iff_ne.mpr same]

/-- Two tables that agree on the entries of a key answer alike. -/
theorem lookup_congr [DecidableEq κ] {key : κ} {first second : List (κ × α)}
    (agree : List.Forall₂ (fun entry other => entry.1 = other.1 ∧
      (key = entry.1 → entry.2 = other.2)) first second) : first.lookup key = second.lookup key := by
  induction agree with
  | nil => rfl
  | cons named later ih =>
      rw [lookup_cons, lookup_cons, ← named.1, ih]
      split
      · rename_i same
        rw [named.2 same]
      · rfl

theorem lookup_assign [DecidableEq κ] (key query : κ) (value : α) (items : List (κ × α)) :
    (assign key value items).lookup query =
      if query = key then some value else items.lookup query := by
  induction items with
  | nil => simp [assign, lookup_cons]
  | cons entry rest ih =>
      by_cases here : entry.1 = key
      · by_cases same : query = key <;> simp [assign, here, lookup_cons, same]
      · by_cases first : query = entry.1
        · have different : query ≠ key := fun same => here (first.symm.trans same)
          simp [assign, here, lookup_cons, first]
        · simp [assign, here, lookup_cons, first, ih]

@[simp] theorem lookup_assign_same [DecidableEq κ] (key : κ) (value : α) (items : List (κ × α)) :
    (assign key value items).lookup key = some value := by
  simp [lookup_assign]

theorem lookup_assign_other [DecidableEq κ] {key query : κ} (different : query ≠ key) (value : α)
    (items : List (κ × α)) : (assign key value items).lookup query = items.lookup query := by
  simp [lookup_assign, different]

/-- An assignment keeps the keys of a table distinct. -/
theorem assign_keys_nodup {key : κ} {value : α} {items : List (κ × α)}
    (distinct : (items.map Prod.fst).Nodup) : ((assign key value items).map Prod.fst).Nodup := by
  induction items with
  | nil => simp [assign]
  | cons first rest ih =>
      rw [List.map_cons, List.nodup_cons] at distinct
      unfold assign
      split
      · rename_i same
        rw [List.map_cons, List.nodup_cons, ← LawfulBEq.eq_of_beq same]
        exact distinct
      · rename_i different
        rw [List.map_cons, List.nodup_cons]
        refine ⟨fun inside => ?_, ih distinct.2⟩
        obtain ⟨entry, member, named⟩ := List.mem_map.mp inside
        rcases mem_assign member with new | old
        · rw [new] at named
          exact different (by rw [← named]; exact BEq.refl key)
        · exact distinct.1 (List.mem_map.mpr ⟨entry, old, named⟩)

/-- An absent key is appended. -/
theorem assign_of_absent [DecidableEq κ] {key : κ} {items : List (κ × α)}
    (absent : items.lookup key = none) (value : α) :
    assign key value items = items ++ [(key, value)] := by
  induction items with
  | nil => rfl
  | cons first rest ih =>
      rw [lookup_cons] at absent
      split at absent
      · cases absent
      · rename_i different
        have other : (first.1 == key) = false := beq_eq_false_iff_ne.mpr (Ne.symm different)
        simp [assign, other, ih absent]

/-- An assignment of the present value changes nothing. -/
theorem assign_of_lookup [DecidableEq κ] {key : κ} {value : α} {items : List (κ × α)}
    (present : items.lookup key = some value) : assign key value items = items := by
  induction items with
  | nil => cases present
  | cons first rest ih =>
      rw [lookup_cons] at present
      unfold assign
      split at present
      · rename_i same
        cases present
        rw [same, if_pos BEq.rfl]
      · rename_i different
        rw [if_neg (by simpa using Ne.symm different), ih present]

/-- The keys of a table are those that a lookup finds. -/
theorem lookup_isSome_iff [DecidableEq κ] {key : κ} {items : List (κ × α)} :
    (items.lookup key).isSome = true ↔ key ∈ items.map Prod.fst := by
  induction items with
  | nil => simp
  | cons first rest ih =>
      rw [lookup_cons, List.map_cons, List.mem_cons, ← ih]
      by_cases here : key = first.1
      · simp [here]
      · simp [here]

/-- A lookup returns the value of some entry. -/
theorem mem_of_lookup {key : κ} {value : α} {items : List (κ × α)}
    (found : items.lookup key = some value) : (key, value) ∈ items := by
  obtain ⟨front, back, split, _⟩ := List.lookup_eq_some_iff.mp found
  rw [split]
  exact List.mem_append_right front List.mem_cons_self

/-- A lookup finds each entry of a table with distinct keys. -/
theorem lookup_of_mem [DecidableEq κ] {entry : κ × α} {items : List (κ × α)}
    (distinct : (items.map Prod.fst).Nodup) (member : entry ∈ items) :
    items.lookup entry.1 = some entry.2 := by
  induction items with
  | nil => cases member
  | cons first rest ih =>
      rw [List.map_cons, List.nodup_cons] at distinct
      rw [lookup_cons]
      rcases List.mem_cons.mp member with same | later
      · rw [same, if_pos rfl]
      · rw [if_neg, ih distinct.2 later]
        intro same
        exact distinct.1 (same ▸ List.mem_map_of_mem later)

/-- A table grows when every present key keeps its value. -/
def Grows (before after : List (κ × α)) : Prop :=
  ∀ key value, before.lookup key = some value → after.lookup key = some value

omit [LawfulBEq κ] in
theorem Grows.refl (items : List (κ × α)) : Grows items items := fun _ _ found => found

omit [LawfulBEq κ] in
theorem Grows.trans {first second third : List (κ × α)} (before : Grows first second)
    (after : Grows second third) : Grows first third :=
  fun key value found => after key value (before key value found)

/-- An assignment to an absent key only grows a table. -/
theorem grows_assign [DecidableEq κ] {key : κ} {items : List (κ × α)}
    (absent : items.lookup key = none) (value : α) : Grows items (assign key value items) := by
  intro query stored found
  rw [lookup_assign, if_neg]
  · exact found
  · intro same
    rw [same, absent] at found
    cases found

end Lawful

end StateFlow.Table
