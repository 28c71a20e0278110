import Mathlib.Data.String.Basic
import StateFlow.Library.Table

namespace StateFlow.Table

variable {κ β : Type} [DecidableEq κ] [LinearOrder κ]

/-- An insertion keeps the order of the keys and replaces the value of a present key. -/
def insertEntry (key : κ) (value : β) : List (κ × β) → List (κ × β)
  | [] => [(key, value)]
  | (other, previous) :: rest =>
      if key < other then (key, value) :: (other, previous) :: rest
      else if key = other then (key, value) :: rest
      else (other, previous) :: insertEntry key value rest

theorem mem_insertEntry {key : κ} {value : β} {items : List (κ × β)} {entry : κ × β}
    (member : entry ∈ insertEntry key value items) : entry = (key, value) ∨ entry ∈ items := by
  induction items with
  | nil => exact .inl (List.mem_singleton.mp member)
  | cons first rest ih =>
      unfold insertEntry at member
      split_ifs at member with before same
      · exact List.mem_cons.mp member
      · exact (List.mem_cons.mp member).imp_right (List.mem_cons_of_mem first)
      · rcases List.mem_cons.mp member with here | later
        · exact .inr (here ▸ List.mem_cons_self)
        · exact (ih later).imp_right (List.mem_cons_of_mem first)

theorem insertEntry_ordered {items : List (κ × β)} (key : κ) (value : β)
    (ordered : items.Pairwise fun first second => first.1 < second.1) :
    (insertEntry key value items).Pairwise fun first second => first.1 < second.1 := by
  induction items with
  | nil => exact List.pairwise_singleton _ _
  | cons first rest ih =>
      obtain ⟨least, later⟩ := List.pairwise_cons.mp ordered
      unfold insertEntry
      split_ifs with before same
      · refine List.pairwise_cons.mpr ⟨fun entry member => ?_, ordered⟩
        rcases List.mem_cons.mp member with rfl | inside
        · exact before
        · exact before.trans (least entry inside)
      · exact List.pairwise_cons.mpr ⟨fun entry member => same ▸ least entry member, later⟩
      · refine List.pairwise_cons.mpr ⟨fun entry member => ?_, ih later⟩
        rcases mem_insertEntry member with rfl | inside
        · exact lt_of_le_of_ne (not_lt.mp before) (Ne.symm same)
        · exact least entry inside

theorem lookup_insertEntry (key query : κ) (value : β) (items : List (κ × β)) :
    (insertEntry key value items).lookup query =
      if query = key then some value else items.lookup query := by
  induction items with
  | nil => rw [insertEntry, lookup_cons, List.lookup_nil]
  | cons first rest ih =>
      unfold insertEntry
      by_cases here : query = key
      · rw [if_pos here]
        split_ifs with before same
        · rw [lookup_cons, if_pos here]
        · rw [lookup_cons, if_pos here]
        · rw [lookup_cons, if_neg (here ▸ same), ih, if_pos here]
      · rw [if_neg here]
        split_ifs with before same
        · rw [lookup_cons, if_neg here]
        · rw [lookup_cons, lookup_cons, if_neg here, if_neg (same ▸ here)]
        · rw [lookup_cons, lookup_cons, ih, if_neg here]

/-- A mapping lists its entries by their keys. Two mappings with the same entries are equal, in
whatever order the entries came. -/
structure Mapping (κ β : Type) [LinearOrder κ] where
  entries : List (κ × β)
  ordered : entries.Pairwise fun first second => first.1 < second.1

namespace Mapping

instance [DecidableEq β] : DecidableEq (Mapping κ β) := fun first second =>
  decidable_of_iff (first.entries = second.entries)
    ⟨fun same => by cases first; cases second; cases same; rfl, congrArg entries⟩

def lookup (mapping : Mapping κ β) (key : κ) : Option β := mapping.entries.lookup key

instance : EmptyCollection (Mapping κ β) := ⟨⟨[], .nil⟩⟩

def insert (key : κ) (value : β) (mapping : Mapping κ β) : Mapping κ β :=
  ⟨insertEntry key value mapping.entries, insertEntry_ordered key value mapping.ordered⟩

/-- The first entry of a key counts. -/
def ofList (items : List (κ × β)) : Mapping κ β :=
  items.foldr (fun entry mapping => mapping.insert entry.1 entry.2) ∅

variable {first second mapping : Mapping κ β}

@[simp] theorem lookup_ofList (items : List (κ × β)) (key : κ) :
    (ofList items).lookup key = items.lookup key := by
  induction items with
  | nil => rfl
  | cons entry rest ih =>
      rw [lookup_cons, ← ih]
      exact lookup_insertEntry entry.1 key entry.2 _

omit [DecidableEq κ] in
/-- Each key has one entry. -/
theorem keys_nodup (mapping : Mapping κ β) : (mapping.entries.map Prod.fst).Nodup :=
  List.pairwise_map.mpr (mapping.ordered.imp ne_of_lt)

omit [DecidableEq κ] in
theorem nodup (mapping : Mapping κ β) : mapping.entries.Nodup :=
  mapping.ordered.imp fun before same => before.ne (congrArg Prod.fst same)

theorem mem_entries {entry : κ × β} :
    entry ∈ mapping.entries ↔ mapping.lookup entry.1 = some entry.2 :=
  ⟨lookup_of_mem mapping.keys_nodup, fun found => mem_of_lookup found⟩

/-- Mappings are equal when they answer every key alike. -/
theorem ext_lookup (same : ∀ key, first.lookup key = second.lookup key) : first = second := by
  have members : first.entries.Perm second.entries :=
    (List.perm_ext_iff_of_nodup first.nodup second.nodup).mpr fun entry => by
      rw [mem_entries, mem_entries, same]
  have listed : first.entries = second.entries :=
    members.eq_of_pairwise (fun _ _ _ _ before after => (before.asymm after).elim)
      first.ordered second.ordered
  cases first
  cases second
  cases listed
  rfl

@[simp] theorem ofList_entries (mapping : Mapping κ β) : ofList mapping.entries = mapping :=
  ext_lookup (lookup_ofList mapping.entries)

end Mapping

end StateFlow.Table
