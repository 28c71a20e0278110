import Mathlib.Data.List.Sort
import Mathlib.Order.Defs.LinearOrder

namespace StateFlow.Ranking

variable {α : Type} [LinearOrder α]

/-- The values of a list in ascending order. -/
def ascending (values : List α) : List α := values.insertionSort (· ≤ ·)

theorem ascending_perm (values : List α) : (ascending values).Perm values :=
  List.perm_insertionSort _ values

theorem ascending_sorted (values : List α) : (ascending values).Pairwise (· ≤ ·) :=
  List.pairwise_insertionSort _ values

@[simp] theorem length_ascending (values : List α) : (ascending values).length = values.length :=
  (ascending_perm values).length_eq

/-- The sorted list does not depend on the order of the values. -/
theorem ascending_congr {values others : List α} (same : values.Perm others) :
    ascending values = ascending others :=
  List.Perm.eq_of_pairwise (fun _ _ _ _ => le_antisymm) (ascending_sorted values)
    (ascending_sorted others)
    ((ascending_perm values).trans (same.trans (ascending_perm others).symm))

section Rank
variable {sorted : List α} {rank : ℕ}

/-- The values up to a rank are at most the value at it. -/
theorem rank_le_count (ordered : sorted.Pairwise (· ≤ ·)) (inside : rank < sorted.length) :
    rank + 1 ≤ sorted.countP fun value => value ≤ sorted[rank] := by
  have short : ∀ value ∈ sorted.take (rank + 1), decide (value ≤ sorted[rank]) = true := by
    intro value member
    obtain ⟨index, bound, rfl⟩ := List.getElem_of_mem member
    rw [List.length_take] at bound
    rw [List.getElem_take, decide_eq_true_eq]
    rcases Nat.lt_or_ge index rank with before | after
    · exact List.pairwise_iff_getElem.mp ordered index rank (by omega) inside before
    · have same : index = rank := by omega
      simp only [same, le_refl]
  have counted := List.countP_eq_length.mpr short
  rw [List.length_take, min_eq_left inside] at counted
  rw [← counted]
  exact (List.take_sublist _ _).countP_le

/-- The values below the value at a rank stand before it. -/
theorem count_lt_le_rank (ordered : sorted.Pairwise (· ≤ ·)) (inside : rank < sorted.length) :
    (sorted.countP fun value => value < sorted[rank]) ≤ rank := by
  have none : (sorted.drop rank).countP (fun value => decide (value < sorted[rank])) = 0 := by
    rw [List.countP_eq_zero]
    intro value member
    obtain ⟨index, bound, rfl⟩ := List.getElem_of_mem member
    rw [List.length_drop] at bound
    rw [List.getElem_drop, decide_eq_true_eq, not_lt]
    rcases Nat.eq_zero_or_pos index with zero | later
    · simp only [zero, Nat.add_zero, le_refl]
    · exact List.pairwise_iff_getElem.mp ordered rank (rank + index) inside (by omega) (by omega)
  calc (sorted.countP fun value => value < sorted[rank])
      = (sorted.take rank).countP (fun value => decide (value < sorted[rank])) +
        (sorted.drop rank).countP (fun value => decide (value < sorted[rank])) := by
          rw [← List.countP_append, List.take_append_drop]
    _ ≤ (sorted.take rank).length := by
          rw [none, Nat.add_zero]
          exact List.countP_le_length
    _ ≤ rank := List.length_take_le _ _

end Rank

end StateFlow.Ranking
