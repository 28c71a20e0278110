import Mathlib.Data.List.DropRight
import Mathlib.Data.List.Induction
import StateFlow.Library.Table

namespace StateFlow.Retention
open Table
variable {κ α : Type}

/-- The end of a joined list fills up from its second part. -/
theorem rtake_append (first second : List α) (limit : Nat) :
    (first ++ second).rtake limit =
      first.rtake (limit - second.length) ++ second.rtake limit := by
  simp only [List.rtake_eq_reverse_take_reverse, List.reverse_append, List.take_append,
    List.length_reverse]

theorem rtake_of_length_le {items : List α} {limit : Nat} (short : items.length ≤ limit) :
    items.rtake limit = items := by
  rw [List.rtake, Nat.sub_eq_zero_of_le short, List.drop_zero]

/-- A new item has the same place after a list and after its end. -/
theorem rtake_rtake_concat (items : List α) (item : α) (limit : Nat) :
    (items.rtake limit ++ [item]).rtake limit = (items ++ [item]).rtake limit := by
  cases limit with
  | zero => rw [List.rtake_zero, List.rtake_zero]
  | succ room =>
      rw [List.rtake_concat_succ, List.rtake_concat_succ]
      simp only [List.rtake_eq_reverse_take_reverse, List.reverse_reverse, List.take_take,
        Nat.min_eq_left (Nat.le_succ room)]

section Keep
variable [DecidableEq κ]

/-- An entry moves to the end of its table. The oldest entries leave a full table. -/
def keep (limit : Nat) (table : List (κ × α)) (entry : κ × α) : List (κ × α) :=
  (table.filter (fun other => other.1 ≠ entry.1) ++ [entry]).rtake limit

/-- The entries enter the table one after the other. -/
def keepAll (limit : Nat) (table entries : List (κ × α)) : List (κ × α) :=
  entries.foldl (keep limit) table

theorem keepAll_append (limit : Nat) (table first second : List (κ × α)) :
    keepAll limit table (first ++ second) = keepAll limit (keepAll limit table first) second :=
  List.foldl_append

/-- The latest entries close the table. The other entries have other keys. -/
def Closes (limit : Nat) (entries table : List (κ × α)) : Prop :=
  ∃ others, table = others ++ entries.rtake limit ∧
    ∀ other ∈ others, other.1 ∉ entries.map Prod.fst

theorem closes_keep {limit : Nat} {entries table : List (κ × α)} {entry : κ × α}
    (closed : Closes limit entries table) (new : entry.1 ∉ entries.map Prod.fst) :
    Closes limit (entries ++ [entry]) (keep limit table entry) := by
  obtain ⟨others, rfl, apart⟩ := closed
  have stays : (entries.rtake limit).filter (fun other => other.1 ≠ entry.1) =
      entries.rtake limit := by
    rw [List.filter_eq_self]
    intro other member
    have listed : other.1 ∈ entries.map Prod.fst :=
      List.mem_map_of_mem (List.mem_of_mem_drop member)
    exact decide_eq_true fun same => new (same ▸ listed)
  refine ⟨(others.filter fun other => other.1 ≠ entry.1).rtake
    (limit - (entries.rtake limit ++ [entry]).length), ?_, ?_⟩
  · rw [keep, List.filter_append, stays, List.append_assoc, rtake_append, rtake_rtake_concat]
  · intro other member listed
    have inside := List.mem_filter.mp (List.mem_of_mem_drop member)
    rw [List.map_append, List.mem_append] at listed
    rcases listed with earlier | last
    · exact apart other inside.1 earlier
    · exact of_decide_eq_true inside.2 (List.mem_singleton.mp last)

/-- Entries of distinct keys close the table that they enter. -/
theorem closes_keepAll (limit : Nat) (table : List (κ × α)) {entries : List (κ × α)}
    (distinct : (entries.map Prod.fst).Nodup) :
    Closes limit entries (keepAll limit table entries) := by
  induction entries using List.reverseRecOn with
  | nil =>
      refine ⟨table, ?_, fun _ _ => List.not_mem_nil⟩
      rw [List.rtake_nil, List.append_nil]
      rfl
  | append_singleton early entry ih =>
      rw [List.map_append, List.nodup_append] at distinct
      rw [keepAll_append]
      apply closes_keep (ih distinct.1)
      exact fun earlier => distinct.2.2 _ earlier _ (List.mem_singleton.mpr rfl) rfl

/-- An entry stays in its table until the later entries fill it. -/
theorem lookup_keepAll (limit : Nat) {key : κ} {later : List (κ × α)}
    (distinct : (key :: later.map Prod.fst).Nodup) (table : List (κ × α)) (value : α) :
    (keepAll limit table ((key, value) :: later)).lookup key =
      if later.length < limit then some value else none := by
  obtain ⟨others, closed, apart⟩ :=
    closes_keepAll limit table (show (((key, value) :: later).map Prod.fst).Nodup from distinct)
  have gone : others.lookup key = none := by
    by_contra found
    obtain ⟨other, present, same⟩ :=
      List.mem_map.mp (lookup_isSome_iff.mp (Option.isSome_iff_ne_none.mpr found))
    exact apart other present (same ▸ List.mem_cons_self)
  rw [closed, List.lookup_append, gone, Option.none_or]
  split
  · rename_i room
    rw [rtake_of_length_le (Nat.succ_le_of_lt room), lookup_cons, if_pos rfl]
  · rename_i full
    have cut : ((key, value) :: later).rtake limit = later.drop (later.length - limit) := by
      rw [List.rtake, List.length_cons, Nat.succ_sub (not_lt.mp full), List.drop_succ_cons]
    rw [cut]
    by_contra found
    have listed := lookup_isSome_iff.mp (Option.isSome_iff_ne_none.mpr found)
    rw [List.map_drop] at listed
    exact (List.nodup_cons.mp distinct).1 (List.mem_of_mem_drop listed)

end Keep

end StateFlow.Retention
