import Mathlib.Tactic.LinearCombination
import StateFlow.Library.Double

namespace StateFlow.Double
open Python

section Intervals
variable {value : ℚ}

theorem two_zpow_add (bits : Nat) (place : Int) :
    (2 : ℚ) ^ (bits + place) = 2 ^ bits * 2 ^ place := by
  rw [zpow_add₀ (by norm_num), zpow_natCast]

theorem zpow_le_nearest {place : Int} (low : (2 : ℚ) ^ place ≤ value) :
    (2 : ℚ) ^ place ≤ nearest value := by
  have positive : 0 < value := lt_of_lt_of_le (zpow_pos (by norm_num) _) low
  have reached : place ≤ Int.log 2 value :=
    (Int.zpow_le_iff_le_log (by norm_num) positive).mp (by exact_mod_cast low)
  have below := Int.zpow_log_le_self (by norm_num : 1 < 2) positive
  have above := Int.lt_zpow_succ_log_self (by norm_num : 1 < 2) value
  push_cast at below above
  exact (zpow_le_zpow_right₀ (by norm_num) reached).trans (nearest_between below above).1

theorem nearest_le_zpow {place : Int} (nonneg : 0 ≤ value) (high : value < (2 : ℚ) ^ place) :
    nearest value ≤ (2 : ℚ) ^ place := by
  rcases eq_or_lt_of_le nonneg with rfl | positive
  · rw [nearest_zero]
    exact high.le
  · have reached : Int.log 2 value < place :=
      (Int.lt_zpow_iff_log_lt (by norm_num) positive).mp (by exact_mod_cast high)
    have below := Int.zpow_log_le_self (by norm_num : 1 < 2) positive
    have above := Int.lt_zpow_succ_log_self (by norm_num : 1 < 2) value
    push_cast at below above
    exact (nearest_between below above).2.trans
      (zpow_le_zpow_right₀ (by norm_num) (Int.add_one_le_iff.mpr reached))

section Significands
variable {significand place : Int}

/-- A number reaches a double from the middle between the double and the one below it on. -/
theorem le_nearest_iff (nonneg : 0 ≤ value) (low : 2 ^ 52 < significand)
    (high : significand ≤ 2 ^ 53) :
    significand * 2 ^ place ≤ nearest value ↔
      (significand : ℚ) - 1 / 2 < value / 2 ^ place ∨
        (significand : ℚ) - 1 / 2 = value / 2 ^ place ∧ significand % 2 = 0 := by
  have power : (0 : ℚ) < 2 ^ place := zpow_pos (by norm_num) _
  have lower : (2 : ℚ) ^ 52 + 1 ≤ significand := by exact_mod_cast low
  have upper : (significand : ℚ) ≤ 2 ^ 53 := by exact_mod_cast high
  have bottom := two_zpow_add 52 place
  have top := two_zpow_add 53 place
  rcases lt_or_ge (value / 2 ^ place) (2 ^ 53) with inside | beyond
  · rcases lt_or_ge (value / 2 ^ place) (2 ^ 52) with below | near
    · have short := nearest_le_zpow nonneg (by rwa [bottom, ← div_lt_iff₀ power])
      refine iff_of_false ?_ ?_
      · rw [not_le]
        rw [bottom] at short
        exact short.trans_lt (mul_lt_mul_of_pos_right (by linarith) power)
      · rintro (less | ⟨same, _⟩) <;> linarith
    · rw [nearest_of_place near inside, mul_le_mul_iff_left₀ power, ← le_roundHalfEven_iff]
      exact_mod_cast Iff.rfl
  · have reached := zpow_le_nearest (by rwa [top, ← le_div_iff₀ power])
    refine iff_of_true ?_ (.inl (by linarith))
    rw [top] at reached
    exact (mul_le_mul_of_nonneg_right upper power.le).trans reached

/-- A number stays at a double up to the middle between the double and the one above it. -/
theorem nearest_le_iff (nonneg : 0 ≤ value) (low : 2 ^ 52 ≤ significand)
    (high : significand < 2 ^ 53) :
    nearest value ≤ significand * 2 ^ place ↔
      value / 2 ^ place < (significand : ℚ) + 1 / 2 ∨
        value / 2 ^ place = (significand : ℚ) + 1 / 2 ∧ significand % 2 = 0 := by
  have power : (0 : ℚ) < 2 ^ place := zpow_pos (by norm_num) _
  have lower : (2 : ℚ) ^ 52 ≤ significand := by exact_mod_cast low
  have upper : (significand : ℚ) + 1 ≤ 2 ^ 53 := by exact_mod_cast high
  have bottom := two_zpow_add 52 place
  have top := two_zpow_add 53 place
  rcases lt_or_ge (value / 2 ^ place) (2 ^ 53) with inside | beyond
  · rcases lt_or_ge (value / 2 ^ place) (2 ^ 52) with below | near
    · have short := nearest_le_zpow nonneg (by rwa [bottom, ← div_lt_iff₀ power])
      refine iff_of_true ?_ (.inl (by linarith))
      rw [bottom] at short
      exact short.trans (mul_le_mul_of_nonneg_right lower power.le)
    · rw [nearest_of_place near inside, mul_le_mul_iff_left₀ power, ← roundHalfEven_le_iff]
      exact_mod_cast Iff.rfl
  · have reached := zpow_le_nearest (by rwa [top, ← le_div_iff₀ power])
    refine iff_of_false ?_ ?_
    · rw [not_le]
      rw [top] at reached
      exact (mul_lt_mul_of_pos_right (by linarith) power).trans_le reached
    · rintro (less | ⟨same, _⟩) <;> linarith

end Significands

/-- The numbers around a double that round to it. Its lower neighbor is closer when the double is a
power of two. A tie goes to the even significand. -/
def RoundsTo (value double : ℚ) : Prop :=
  let spacing := ulp double
  let below := double - if double = 2 ^ 52 * spacing then spacing / 4 else spacing / 2
  let above := double + spacing / 2
  (below < value ∨ below = value ∧ ⌊double / spacing⌋ % 2 = 0) ∧
    (value < above ∨ value = above ∧ ⌊double / spacing⌋ % 2 = 0)

instance (value double : ℚ) : Decidable (RoundsTo value double) :=
  inferInstanceAs (Decidable (_ ∧ _))

theorem nearest_eq_iff {double : ℚ} (nonneg : 0 ≤ value) (positive : 0 < double)
    (exact : nearest double = double) : nearest value = double ↔ RoundsTo value double := by
  obtain ⟨low, high⟩ := ulp_bounds positive.ne'
  rw [abs_of_pos positive] at low high
  have spacing := ulp_pos double
  unfold RoundsTo
  dsimp only
  obtain ⟨place, placed⟩ : ∃ place : Int, ulp double = 2 ^ place := ⟨_, rfl⟩
  obtain ⟨significand, whole⟩ : ∃ significand : Int, double = significand * 2 ^ place :=
    ⟨_, by rw [← placed]; exact exact.symm⟩
  rw [placed] at low high spacing ⊢
  rw [whole] at low high ⊢
  have least : 2 ^ 52 ≤ significand := by exact_mod_cast le_of_mul_le_mul_right low spacing
  have most : significand < 2 ^ 53 := by exact_mod_cast lt_of_mul_lt_mul_right high spacing.le
  rw [mul_div_cancel_right₀ _ spacing.ne', Int.floor_intCast]
  have upper : nearest value ≤ significand * 2 ^ place ↔
      value < significand * 2 ^ place + 2 ^ place / 2 ∨
        value = significand * 2 ^ place + 2 ^ place / 2 ∧ significand % 2 = 0 := by
    rw [nearest_le_iff nonneg least most, div_lt_iff₀ spacing, div_eq_iff spacing.ne', add_mul,
      one_div_mul_eq_div]
  have lower : significand * 2 ^ place ≤ nearest value ↔
      significand * 2 ^ place - (if significand * 2 ^ place = (2 : ℚ) ^ 52 * 2 ^ place
        then (2 : ℚ) ^ place / 4 else 2 ^ place / 2) < value ∨
      significand * 2 ^ place - (if significand * 2 ^ place = (2 : ℚ) ^ 52 * 2 ^ place
        then (2 : ℚ) ^ place / 4 else 2 ^ place / 2) = value ∧ significand % 2 = 0 := by
    split_ifs with power
    · -- Below a power of two the doubles are twice as dense.
      have smallest : significand = 2 ^ 52 := by
        exact_mod_cast mul_right_cancel₀ spacing.ne' power
      have positive : (0 : ℚ) < 2 ^ (place - 1) := zpow_pos (by norm_num) _
      have twice : (2 : ℚ) ^ place = 2 * 2 ^ (place - 1) := by
        rw [zpow_sub_one₀ (by norm_num)]
        ring
      have dense := @le_nearest_iff value (2 ^ 53) (place - 1) nonneg (by norm_num) le_rfl
      rw [lt_div_iff₀ positive, eq_div_iff positive.ne'] at dense
      rw [smallest, twice]
      generalize (2 : ℚ) ^ (place - 1) = half at dense ⊢
      have start : ((2 ^ 52 : Int) : ℚ) * (2 * half) = (2 ^ 53 : Int) * half := by
        push_cast
        ring
      have middle : 2 * half / 4 = 1 / 2 * half := by ring
      rw [start, middle, ← sub_mul]
      exact dense
    · have larger : 2 ^ 52 < significand := by
        refine lt_of_le_of_ne least fun same => power ?_
        rw [← same]
        norm_num
      rw [le_nearest_iff nonneg larger most.le, lt_div_iff₀ spacing, eq_div_iff spacing.ne', sub_mul,
        one_div_mul_eq_div]
  rw [le_antisymm_iff, and_comm, lower, upper]

/-- The middle between a whole number and the double below it. -/
def edge (whole : Nat) : ℚ := whole - 2 ^ (2 * whole - 1).log2 / 2 ^ 54

/-- A small whole number has an even significand. -/
theorem natCast_le_nearest_iff {whole : Nat} (nonneg : 0 ≤ value) (positive : 0 < whole)
    (small : whole ≤ 2 ^ 52) : whole ≤ nearest value ↔ edge whole ≤ value := by
  have low := Nat.log2_self_le (by omega : 2 * whole - 1 ≠ 0)
  have high := @Nat.lt_log2_self (2 * whole - 1)
  have bits : (2 * whole - 1).log2 < 53 := (Nat.log2_lt (by omega)).mpr (by omega)
  unfold edge
  generalize (2 * whole - 1).log2 = place at low high bits ⊢
  obtain ⟨fine, place_eq⟩ : ∃ fine, place + (fine + 1) = 53 := ⟨52 - place, by omega⟩
  have power : (0 : ℚ) < 2 ^ (fine + 1) := by positivity
  have inverse : (2 : ℚ) ^ (-(fine + 1 : Int)) = (2 ^ (fine + 1))⁻¹ := by
    rw [zpow_neg]
    exact_mod_cast rfl
  have least : (2 ^ 52 : Int) < whole * 2 ^ (fine + 1) := by
    have scaled := Nat.mul_le_mul_right (2 ^ fine) (by omega : 2 ^ place + 1 ≤ 2 * whole)
    rw [add_mul, ← pow_add, show place + fine = 52 by omega, one_mul, mul_comm 2, mul_assoc,
      ← pow_succ'] at scaled
    exact_mod_cast (Nat.lt_add_of_pos_right (by positivity)).trans_le scaled
  have most : (whole * 2 ^ (fine + 1) : Int) ≤ 2 ^ 53 := by
    rw [pow_succ] at high
    have scaled := Nat.mul_le_mul_right (2 ^ (fine + 1)) (by omega : whole ≤ 2 ^ place)
    rw [← pow_add, place_eq] at scaled
    exact_mod_cast scaled
  have even : (whole * 2 ^ (fine + 1) : Int) % 2 = 0 := by
    rw [pow_succ, ← mul_assoc]
    omega
  have reached := @le_nearest_iff value _ (-(fine + 1 : Int)) nonneg least most
  rw [inverse, and_iff_left even, ← le_iff_lt_or_eq] at reached
  push_cast at reached
  rw [mul_inv_cancel_right₀ power.ne', div_inv_eq_mul] at reached
  have shift : (2 : ℚ) ^ 53 = 2 ^ place * 2 ^ (fine + 1) := by rw [← pow_add, place_eq]
  have scaled : ((whole : ℚ) - 2 ^ place / 2 ^ 54) * 2 ^ (fine + 1) =
      whole * 2 ^ (fine + 1) - 1 / 2 := by
    linear_combination (1 / 2 ^ 54 : ℚ) * shift
  rw [reached, ← scaled, mul_le_mul_iff_left₀ power]

/-- From 2 ^ 52 on the doubles are whole. -/
theorem nearest_whole (large : 2 ^ 52 ≤ nearest value) : ∃ whole : Int, nearest value = whole := by
  rcases lt_or_ge value (2 ^ 52) with below | above
  · have nonneg : 0 ≤ value := by
      by_contra negative
      have opposite := nearest_nonneg (neg_nonneg.mpr (not_le.mp negative).le)
      rw [nearest_neg] at opposite
      linarith
    have short := @nearest_le_zpow value (52 : Nat) nonneg (by rwa [zpow_natCast])
    rw [zpow_natCast] at short
    exact ⟨2 ^ 52, by rw [le_antisymm short large]; norm_num⟩
  · have positive : 0 < value := lt_of_lt_of_le (by norm_num) above
    have place : (52 : Nat) ≤ Int.log 2 value :=
      (Int.zpow_le_iff_le_log (by norm_num) positive).mp (by exact_mod_cast above)
    obtain ⟨wide, placed⟩ : ∃ wide : Nat, Int.log 2 value - 52 = wide :=
      ⟨(Int.log 2 value - 52).toNat, by omega⟩
    have spacing : ulp value = ((2 ^ wide : Int) : ℚ) := by
      rw [ulp, abs_of_pos positive, placed, zpow_natCast]
      norm_num
    exact ⟨_, by rw [nearest, spacing, ← Int.cast_mul]⟩

/-- These numbers keep a whole part when they are rounded. From 2 ^ 52 on the whole part needs a
double of its own. -/
def KeepsWhole (whole : Nat) (value : ℚ) : Prop :=
  if whole < 2 ^ 52 then edge whole ≤ value ∧ value < edge (whole + 1)
  else nearest whole = whole ∧ RoundsTo value whole

instance (whole : Nat) (value : ℚ) : Decidable (KeepsWhole whole value) :=
  inferInstanceAs (Decidable (ite _ _ _))

theorem floor_nearest_iff {whole : Nat} (nonneg : 0 ≤ value) :
    ⌊nearest value⌋ = whole ↔ KeepsWhole whole value := by
  unfold KeepsWhole
  split_ifs with small
  · have after := natCast_le_nearest_iff nonneg (Nat.succ_pos whole) small
    push_cast at after
    rw [Int.floor_eq_iff, Int.cast_natCast, ← not_le, after, not_le]
    apply and_congr_left'
    rcases Nat.eq_zero_or_pos whole with rfl | positive
    · refine iff_of_true (by exact_mod_cast nearest_nonneg nonneg) (le_trans ?_ nonneg)
      norm_num [edge]
    · exact natCast_le_nearest_iff nonneg positive small.le
  · have large : (2 : ℚ) ^ 52 ≤ whole := by exact_mod_cast not_lt.mp small
    have positive : (0 : ℚ) < whole := lt_of_lt_of_le (by norm_num) large
    constructor
    · intro floor
      have reached : (whole : ℚ) ≤ nearest value := by
        have below := Int.floor_le (nearest value)
        rwa [floor, Int.cast_natCast] at below
      obtain ⟨found, is_whole⟩ := nearest_whole (large.trans reached)
      have same : nearest value = whole := by
        rw [is_whole, Int.floor_intCast] at floor
        rw [is_whole, floor, Int.cast_natCast]
      have exact : nearest (whole : ℚ) = whole := by rw [← same, nearest_nearest]
      exact ⟨exact, (nearest_eq_iff nonneg positive exact).mp same⟩
    · rintro ⟨exact, rounds⟩
      rw [(nearest_eq_iff nonneg positive exact).mpr rounds, Int.floor_natCast]

end Intervals

/-- A truncation drops the fraction of a number. -/
def truncate (value : ℚ) : Int := if 0 ≤ value then ⌊value⌋ else ⌈value⌉

section Truncation
variable {value near : ℚ}

@[simp] theorem truncate_neg (value : ℚ) : truncate (-value) = -truncate value := by
  rcases lt_trichotomy value 0 with less | rfl | more
  · rw [truncate, truncate, if_pos (by linarith), if_neg (by linarith), Int.floor_neg]
  · simp [truncate]
  · rw [truncate, truncate, if_neg (by linarith), if_pos more.le, Int.ceil_neg]

theorem truncate_of_nonneg (nonneg : 0 ≤ value) : truncate value = ⌊|value|⌋₊ := by
  rw [truncate, if_pos nonneg, abs_of_nonneg nonneg, Int.natCast_floor_eq_floor nonneg]

theorem truncate_nearest_of_nonneg (nonneg : 0 ≤ value) (near_nonneg : 0 ≤ near) :
    truncate (nearest near) = truncate value ↔ KeepsWhole ⌊|value|⌋₊ |near| := by
  rw [truncate_of_nonneg nonneg, truncate, if_pos (nearest_nonneg near_nonneg),
    abs_of_nonneg near_nonneg, floor_nearest_iff near_nonneg]

/-- Exactly these numbers truncate like another one when they are rounded. -/
theorem truncate_nearest_iff (positive : 0 ≤ value → 0 ≤ near) (negative : value ≤ 0 → near ≤ 0) :
    truncate (nearest near) = truncate value ↔ KeepsWhole ⌊|value|⌋₊ |near| := by
  rcases le_total 0 value with nonneg | nonpos
  · exact truncate_nearest_of_nonneg nonneg (positive nonneg)
  · have turned := truncate_nearest_of_nonneg (neg_nonneg.mpr nonpos)
      (neg_nonneg.mpr (negative nonpos))
    rw [nearest_neg, truncate_neg, truncate_neg, neg_inj, abs_neg, abs_neg] at turned
    exact turned

theorem nearest_pos (positive : 0 < value) : 0 < nearest value := by
  have low := Int.zpow_log_le_self (by norm_num : 1 < 2) positive
  push_cast at low
  exact lt_of_lt_of_le (zpow_pos (by norm_num) _) (zpow_le_nearest low)

theorem roundsTo_zero : RoundsTo 0 0 := by
  have spacing := ulp_pos 0
  unfold RoundsTo
  dsimp only
  rw [if_neg (by positivity)]
  exact ⟨.inl (by linarith), .inl (by linarith)⟩

theorem nearest_eq_nearest_of_pos (positive : 0 < value) (nonneg : 0 ≤ near) :
    nearest near = nearest value ↔ RoundsTo |near| |nearest value| := by
  rw [abs_of_nonneg nonneg, abs_of_pos (nearest_pos positive)]
  exact nearest_eq_iff nonneg (nearest_pos positive) (nearest_nearest value)

/-- Exactly these numbers round like another one. -/
theorem nearest_eq_nearest_iff (positive : 0 ≤ value → 0 ≤ near)
    (negative : value ≤ 0 → near ≤ 0) :
    nearest near = nearest value ↔ RoundsTo |near| |nearest value| := by
  rcases lt_trichotomy value 0 with less | rfl | more
  · have turned := nearest_eq_nearest_of_pos (neg_pos.mpr less) (neg_nonneg.mpr (negative less.le))
    rw [nearest_neg, nearest_neg, neg_inj, abs_neg, abs_neg] at turned
    exact turned
  · rw [le_antisymm (negative le_rfl) (positive le_rfl), nearest_zero, abs_zero]
    exact iff_of_true rfl roundsTo_zero
  · exact nearest_eq_nearest_of_pos more (positive more.le)

end Truncation

end StateFlow.Double
