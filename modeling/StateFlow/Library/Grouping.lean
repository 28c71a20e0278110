import Mathlib.Algebra.BigOperators.Group.List.Basic
import Mathlib.Algebra.BigOperators.Group.Multiset.Basic
import Mathlib.Algebra.Order.BigOperators.Group.List
import Mathlib.Algebra.Order.Field.Basic
import Mathlib.Data.List.Induction
import Mathlib.Data.List.Nodup
import StateFlow.Library.Table

namespace StateFlow.Grouping

variable {α β κ : Type} [DecidableEq κ]

/-- A group holds the items of one key in their order. -/
def group (key : α → κ) (wanted : κ) (items : List α) : List α :=
  items.filter fun item => key item = wanted

section Group
variable {key : α → κ} {wanted : κ} {items others : List α} {item : α}

@[simp] theorem group_nil : group key wanted [] = [] := rfl

theorem mem_group : item ∈ group key wanted items ↔ item ∈ items ∧ key item = wanted := by
  simp [group]

/-- A new item joins the group of its key only. -/
theorem group_concat :
    group key wanted (items ++ [item]) =
      if key item = wanted then group key wanted items ++ [item] else group key wanted items := by
  unfold group
  rw [List.filter_append]
  by_cases same : key item = wanted <;> simp [same]

theorem group_perm (same : items.Perm others) :
    (group key wanted items).Perm (group key wanted others) :=
  same.filter _

end Group

/-- The groups of distinct keys partition the items. -/
theorem groups_perm (key : α → κ) {keys : List κ} (distinct : keys.Nodup) {items : List α}
    (covered : ∀ item ∈ items, key item ∈ keys) :
    (keys.flatMap fun wanted => group key wanted items).Perm items := by
  induction keys generalizing items with
  | nil =>
      have empty : items = [] :=
        List.eq_nil_iff_forall_not_mem.mpr fun item member => List.not_mem_nil (covered item member)
      rw [empty]
      exact List.Perm.refl _
  | cons first rest ih =>
      obtain ⟨fresh, others⟩ := List.nodup_cons.mp distinct
      -- The items of the first key leave, and the other groups do not notice.
      let remaining := items.filter fun item => !decide (key item = first)
      have kept : ∀ wanted ∈ rest, group key wanted items = group key wanted remaining := by
        intro wanted member
        have apart : wanted ≠ first := fun same => fresh (same ▸ member)
        unfold group
        rw [List.filter_filter]
        apply List.filter_congr
        intro item _
        by_cases same : key item = wanted
        · simp [same, apart]
        · simp [same]
      have inside : ∀ item ∈ remaining, key item ∈ rest := by
        intro item member
        obtain ⟨known, other⟩ := List.mem_filter.mp member
        have apart : key item ≠ first := by simpa using other
        exact (List.mem_cons.mp (covered item known)).resolve_left apart
      rw [List.flatMap_cons, List.flatMap_congr kept]
      exact ((ih others inside).append_left _).trans (List.filter_append_perm _ items)

/-- Distinct keys split a sum over their groups. -/
theorem sum_groups [AddCommMonoid β] (key : α → κ) (amount : α → β) {keys : List κ}
    (distinct : keys.Nodup) {items : List α} (covered : ∀ item ∈ items, key item ∈ keys) :
    (keys.map fun wanted => ((group key wanted items).map amount).sum).sum
      = (items.map amount).sum := by
  rw [← ((groups_perm key distinct covered).map amount).sum_eq, List.map_flatMap, List.flatMap,
    List.sum_flatten, List.map_map]
  rfl

/-- A loop that sorts its items into numbered boxes. -/
def distribute (index : α → ℕ) (count : ℕ) (items : List α) : List (List α) :=
  items.foldl (fun boxes item => boxes.modify (index item) (· ++ [item])) (List.replicate count [])

/-- Each box of the loop is a group. -/
theorem distribute_eq (index : α → ℕ) (count : ℕ) (items : List α) :
    distribute index count items = (List.range count).map fun box => group index box items := by
  unfold distribute
  induction items using List.reverseRecOn with
  | nil => simp [List.map_const']
  | append_singleton items item ih =>
      rw [List.foldl_append, ih]
      apply List.ext_getElem (by simp)
      intro box first second
      simp only [List.foldl_cons, List.foldl_nil, List.getElem_modify, List.getElem_map,
        List.getElem_range, group_concat]

/-- A loop that appends each item to the list of its key. -/
def gather (key : α → κ) (items : List α) : List (κ × List α) :=
  items.foldl (fun table item =>
    Table.assign (key item) (Table.getD table (key item) [] ++ [item]) table) []

theorem gather_concat (key : α → κ) (items : List α) (item : α) :
    gather key (items ++ [item]) = Table.assign (key item)
      (Table.getD (gather key items) (key item) [] ++ [item]) (gather key items) := by
  simp [gather]

/-- The loop stores the group of every key that occurs. -/
theorem lookup_gather (key : α → κ) (wanted : κ) (items : List α) :
    (gather key items).lookup wanted =
      if wanted ∈ items.map key then some (group key wanted items) else none := by
  induction items using List.reverseRecOn with
  | nil => rfl
  | append_singleton items item ih =>
      rw [gather_concat, Table.lookup_assign, group_concat]
      by_cases own : wanted = key item
      · subst own
        have stored : Table.getD (gather key items) (key item) [] = group key (key item) items := by
          unfold Table.getD
          rw [ih]
          split
          · rfl
          · rename_i absent
            refine (List.filter_eq_nil_iff.mpr fun other member same => absent ?_).symm
            exact List.mem_map.mpr ⟨other, member, of_decide_eq_true same⟩
        simp [stored]
      · simp [own, Ne.symm own, ih]

/-- The loop stores each key once. -/
theorem gather_keys_nodup (key : α → κ) (items : List α) :
    ((gather key items).map Prod.fst).Nodup := by
  induction items using List.reverseRecOn with
  | nil => exact List.nodup_nil
  | append_singleton items item ih =>
      rw [gather_concat]
      exact Table.assign_keys_nodup ih

theorem mem_gather_keys {key : α → κ} {items : List α} {wanted : κ} :
    wanted ∈ (gather key items).map Prod.fst ↔ wanted ∈ items.map key := by
  rw [← Table.lookup_isSome_iff, lookup_gather]
  split <;> simp [*]

/-- Each stored entry is the group of its key. -/
theorem gather_eq (key : α → κ) (items : List α) :
    gather key items = ((gather key items).map Prod.fst).map fun wanted =>
      (wanted, group key wanted items) := by
  rw [List.map_map]
  conv_lhs => rw [← List.map_id (gather key items)]
  apply List.map_congr_left
  intro entry member
  have found := Table.lookup_of_mem (gather_keys_nodup key items) member
  rw [lookup_gather] at found
  split at found
  · exact Prod.ext rfl (Option.some.inj found).symm
  · cases found

/-- A sum over the present results counts an absent one as zero. -/
theorem sum_filterMap {γ : Type} [AddMonoid γ] (result : α → Option β) (amount : β → γ)
    (items : List α) :
    ((items.filterMap result).map amount).sum
      = (items.map fun item => ((result item).map amount).getD 0).sum := by
  induction items with
  | nil => rfl
  | cons item rest ih =>
      cases shown : result item with
      | none => simp [List.filterMap_cons_none shown, shown, ih]
      | some found => simp [List.filterMap_cons_some shown, shown, ih]

/-- A sum of differences is the difference of the sums. -/
theorem sum_map_sub [AddCommGroup β] (first second : α → β) (items : List α) :
    (items.map fun item => first item - second item).sum
      = (items.map first).sum - (items.map second).sum := by
  have split : (Multiset.map (fun item => first item - second item) (items : Multiset α)).sum = _ :=
    Multiset.sum_map_sub
  simpa only [Multiset.map_coe, Multiset.sum_coe] using split

/-- The mean of no values is zero. -/
def mean [Field β] (values : List β) : β := values.sum / values.length

section Mean
variable [Field β] [LinearOrder β] [IsStrictOrderedRing β] {values : List β}

theorem le_mean {lower : β} (present : values ≠ []) (bounded : ∀ value ∈ values, lower ≤ value) :
    lower ≤ mean values := by
  have long : (0 : β) < values.length := Nat.cast_pos.mpr (List.length_pos_iff.mpr present)
  have total := List.card_nsmul_le_sum values lower bounded
  rw [mean, le_div_iff₀ long, mul_comm]
  rwa [nsmul_eq_mul] at total

theorem mean_le {upper : β} (present : values ≠ []) (bounded : ∀ value ∈ values, value ≤ upper) :
    mean values ≤ upper := by
  have long : (0 : β) < values.length := Nat.cast_pos.mpr (List.length_pos_iff.mpr present)
  have total := List.sum_le_card_nsmul values upper bounded
  rw [mean, div_le_iff₀ long, mul_comm]
  rwa [nsmul_eq_mul] at total

end Mean

end StateFlow.Grouping
