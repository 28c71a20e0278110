import StateFlow.Library.Table

namespace StateFlow.Table

variable {κ α β : Type} [BEq κ] {free : κ → Prop} {observe : α → β} {same : β → β → Prop}

/-- Every present entry keeps its observation outside the free keys. -/
def Spares (free : κ → Prop) (observe : α → β) (same : β → β → Prop)
    (before after : List (κ × α)) : Prop :=
  ∀ key old, ¬ free key → before.lookup key = some old →
    ∃ new, after.lookup key = some new ∧ same (observe old) (observe new)

/-- The last listed write of a key replaces the observation of its present entry. -/
def Overwrites (free : κ → Prop) (observe : α → β) (writes : List (κ × β))
    (before after : List (κ × α)) : Prop :=
  ∀ key old, ¬ free key → before.lookup key = some old →
    ∃ new, after.lookup key = some new ∧
      observe new = (writes.reverse.lookup key).getD (observe old)

theorem overwrites_refl (items : List (κ × α)) : Overwrites free observe [] items items :=
  fun _ old _ found => ⟨old, found, rfl⟩

theorem overwrites_of_grows {before after : List (κ × α)} (grown : Grows before after) :
    Overwrites free observe [] before after :=
  fun key old _ found => ⟨old, grown key old found, rfl⟩

theorem Overwrites.trans {first second third : List (κ × α)} {early late : List (κ × β)}
    (before : Overwrites free observe early first second)
    (after : Overwrites free observe late second third) :
    Overwrites free observe (early ++ late) first third := by
  intro key old locked found
  obtain ⟨middle, present, observed⟩ := before key old locked found
  obtain ⟨new, kept, last⟩ := after key middle locked present
  refine ⟨new, kept, ?_⟩
  rw [last, observed, List.reverse_append, List.lookup_append]
  cases late.reverse.lookup key <;> rfl

section Writes
variable [DecidableEq κ]

/-- A write that replaces an entry overwrites it. -/
theorem overwrites_of_lookup [LawfulBEq κ] {key : κ} {value : α} {before after : List (κ × α)}
    (stored : ∀ query, after.lookup query =
      if query = key then some value else before.lookup query) :
    Overwrites free observe [(key, observe value)] before after := by
  intro query old _ found
  rw [stored, List.reverse_singleton, lookup_cons]
  split
  · exact ⟨value, rfl, rfl⟩
  · exact ⟨old, found, rfl⟩

/-- A write to a free key overwrites nothing that counts. -/
theorem overwrites_of_free {key : κ} (allowed : free key) {value : α}
    {before after : List (κ × α)} (stored : ∀ query, after.lookup query =
      if query = key then some value else before.lookup query) :
    Overwrites free observe [] before after := by
  intro query old locked found
  have other : query ≠ key := fun own => locked (own ▸ allowed)
  refine ⟨old, ?_, rfl⟩
  rw [stored, if_neg other, found]

end Writes

/-- The entries are spared exactly when each last write repeats its present entry. -/
theorem spares_iff {writes : List (κ × β)} {before after : List (κ × α)}
    (reflexive : ∀ observation, same observation observation)
    (overwritten : Overwrites free observe writes before after) :
    Spares free observe same before after ↔ ∀ key old written, ¬ free key →
      before.lookup key = some old → writes.reverse.lookup key = some written →
        same (observe old) written := by
  constructor
  · intro spared key old written locked found last
    obtain ⟨new, present, observed⟩ := overwritten key old locked found
    obtain ⟨kept, again, agrees⟩ := spared key old locked found
    cases present.symm.trans again
    rwa [observed, last, Option.getD_some] at agrees
  · intro repeated key old locked found
    obtain ⟨new, present, observed⟩ := overwritten key old locked found
    refine ⟨new, present, ?_⟩
    rw [observed]
    cases last : writes.reverse.lookup key with
    | none => exact reflexive _
    | some written => exact repeated key old written locked found last

end StateFlow.Table
