import Mathlib.Data.Int.Log
import Mathlib.Tactic.Linarith
import Mathlib.Tactic.Ring
import StateFlow.Library.Value

namespace StateFlow.Double
open Python

/-- The distance between the doubles around a number. -/
def ulp (value : ℚ) : ℚ := 2 ^ (Int.log 2 |value| - 52)

/-- The nearest double of a number. A tie goes to the even significand. -/
def nearest (value : ℚ) : ℚ := roundHalfEven (value / ulp value) * ulp value

section Halves
variable {value : ℚ} {bound : Int}

theorem le_roundHalfEven_iff :
    bound ≤ roundHalfEven value ↔
      (bound : ℚ) - 1 / 2 < value ∨ (bound : ℚ) - 1 / 2 = value ∧ bound % 2 = 0 := by
  have below : (⌊value⌋ : ℚ) ≤ value := Int.floor_le value
  have above : value < ⌊value⌋ + 1 := Int.lt_floor_add_one value
  unfold roundHalfEven
  generalize ⌊value⌋ = floor at below above
  rcases lt_trichotomy bound (floor + 1) with low | rfl | high
  · have under : (bound : ℚ) ≤ floor := by exact_mod_cast Int.lt_add_one_iff.mp low
    have result : bound ≤ (if value - floor < 1 / 2 then floor
        else if 1 / 2 < value - floor then floor + 1
        else if floor % 2 = 0 then floor else floor + 1) := by
      split_ifs <;> omega
    exact ⟨fun _ => .inl (by linarith), fun _ => result⟩
  · push_cast
    constructor
    · intro reached
      split_ifs at reached with near far even
      · omega
      · exact .inl (by linarith)
      · omega
      · exact .inr ⟨by linarith, by omega⟩
    · rintro (far | ⟨tie, even⟩)
      · split_ifs with near other even
        · linarith
        · exact le_rfl
        · exact absurd (show (1 : ℚ) / 2 < value - floor by linarith) other
        · exact le_rfl
      · split_ifs with near other odd
        · linarith
        · exact le_rfl
        · omega
        · exact le_rfl
  · have wide : (floor : ℚ) + 2 ≤ bound := by exact_mod_cast (by omega : floor + 2 ≤ bound)
    have result : ¬ bound ≤ (if value - floor < 1 / 2 then floor
        else if 1 / 2 < value - floor then floor + 1
        else if floor % 2 = 0 then floor else floor + 1) := by
      split_ifs <;> omega
    refine ⟨fun reached => absurd reached result, ?_⟩
    rintro (far | ⟨tie, _⟩) <;> linarith

theorem roundHalfEven_le_iff :
    roundHalfEven value ≤ bound ↔
      value < (bound : ℚ) + 1 / 2 ∨ value = (bound : ℚ) + 1 / 2 ∧ bound % 2 = 0 := by
  have next := @le_roundHalfEven_iff value (bound + 1)
  rw [← not_lt, ← Int.add_one_le_iff, next]
  push_cast
  constructor
  · intro neither
    rw [not_or, not_lt, not_and] at neither
    rcases lt_or_eq_of_le neither.1 with less | same
    · exact .inl (by linarith)
    · exact .inr ⟨by linarith, by have := neither.2 same.symm; omega⟩
  · rintro (less | ⟨same, even⟩) (more | ⟨tie, odd⟩)
    · linarith
    · linarith
    · linarith
    · omega

theorem roundHalfEven_mono {first second : ℚ} (ordered : first ≤ second) :
    roundHalfEven first ≤ roundHalfEven second := by
  rcases le_roundHalfEven_iff.mp (le_refl (roundHalfEven first)) with near | ⟨tie, even⟩
  · exact le_roundHalfEven_iff.mpr (.inl (by linarith))
  · rcases lt_or_eq_of_le ordered with less | same
    · exact le_roundHalfEven_iff.mpr (.inl (by linarith))
    · rw [same]

@[simp] theorem roundHalfEven_intCast (number : Int) : roundHalfEven number = number := by
  apply le_antisymm
  · exact roundHalfEven_le_iff.mpr (.inl (by linarith))
  · exact le_roundHalfEven_iff.mpr (.inl (by linarith))

@[simp] theorem roundHalfEven_two_pow (exponent : Nat) :
    roundHalfEven (2 ^ exponent) = 2 ^ exponent := by
  have whole := roundHalfEven_intCast (2 ^ exponent)
  push_cast at whole
  exact whole

/-- A rounding ignores the sign. -/
@[simp] theorem roundHalfEven_neg (value : ℚ) : roundHalfEven (-value) = -roundHalfEven value := by
  apply eq_of_forall_le_iff
  intro bound
  rw [le_roundHalfEven_iff, le_neg, roundHalfEven_le_iff]
  push_cast
  constructor
  · rintro (less | ⟨same, even⟩)
    · exact .inl (by linarith)
    · exact .inr ⟨by linarith, by omega⟩
  · rintro (less | ⟨same, even⟩)
    · exact .inl (by linarith)
    · exact .inr ⟨by linarith, by omega⟩

/-- A rounding moves a number by a half at most. -/
theorem abs_roundHalfEven_sub_le (value : ℚ) : |roundHalfEven value - value| ≤ 1 / 2 := by
  rw [abs_le]
  constructor
  · rcases roundHalfEven_le_iff.mp (le_refl (roundHalfEven value)) with near | ⟨tie, _⟩ <;> linarith
  · rcases le_roundHalfEven_iff.mp (le_refl (roundHalfEven value)) with near | ⟨tie, _⟩ <;> linarith

/-- A number within a half of an integer rounds to it. -/
theorem roundHalfEven_of_near {number : Int} (near : |value - number| < 1 / 2) :
    roundHalfEven value = number := by
  obtain ⟨low, high⟩ := abs_lt.mp near
  apply le_antisymm
  · exact roundHalfEven_le_iff.mpr (.inl (by linarith))
  · exact le_roundHalfEven_iff.mpr (.inl (by linarith))

end Halves

theorem nearest_nonneg {value : ℚ} (nonneg : 0 ≤ value) : 0 ≤ nearest value := by
  have spacing : (0 : ℚ) ≤ ulp value := zpow_nonneg (by norm_num) _
  have zero := roundHalfEven_intCast 0
  have rounded := roundHalfEven_mono (div_nonneg nonneg spacing)
  push_cast at zero
  rw [zero] at rounded
  exact mul_nonneg (by exact_mod_cast rounded) spacing

/-- The binary place of a number decides its spacing. -/
theorem ulp_of_place {value : ℚ} {place : Int} (low : (2 : ℚ) ^ place ≤ value)
    (high : value < 2 ^ (place + 1)) : ulp value = 2 ^ (place - 52) := by
  have positive : 0 < value := lt_of_lt_of_le (zpow_pos (by norm_num) _) low
  have lower : place ≤ Int.log 2 value :=
    (Int.zpow_le_iff_le_log (by norm_num) positive).mp (by exact_mod_cast low)
  have upper : Int.log 2 value < place + 1 :=
    (Int.lt_zpow_iff_log_lt (by norm_num) positive).mp (by exact_mod_cast high)
  rw [ulp, abs_of_pos positive, le_antisymm (Int.lt_add_one_iff.mp upper) lower]

/-- A rounded number stays between the powers of two around it. -/
theorem nearest_between {value : ℚ} {place : Int} (low : (2 : ℚ) ^ place ≤ value)
    (high : value < 2 ^ (place + 1)) :
    (2 : ℚ) ^ place ≤ nearest value ∧ nearest value ≤ 2 ^ (place + 1) := by
  have spacing : (0 : ℚ) < 2 ^ (place - 52) := zpow_pos (by norm_num) _
  have small : (2 : ℚ) ^ place = ((2 ^ 52 : Int) : ℚ) * 2 ^ (place - 52) := by
    rw [zpow_sub₀ (by norm_num)]
    push_cast
    ring
  have large : (2 : ℚ) ^ (place + 1) = ((2 ^ 53 : Int) : ℚ) * 2 ^ (place - 52) := by
    rw [zpow_add₀ (by norm_num), zpow_sub₀ (by norm_num)]
    push_cast
    ring
  rw [nearest, ulp_of_place low high, small, large]
  rw [small, ← le_div_iff₀ spacing] at low
  rw [large, ← div_lt_iff₀ spacing] at high
  constructor
  · apply mul_le_mul_of_nonneg_right _ spacing.le
    have rounded := roundHalfEven_mono low
    rw [roundHalfEven_intCast] at rounded
    exact_mod_cast rounded
  · apply mul_le_mul_of_nonneg_right _ spacing.le
    have rounded := roundHalfEven_mono high.le
    rw [roundHalfEven_intCast] at rounded
    exact_mod_cast rounded

/-- A double has a significand of 53 bits. -/
def IsDouble (value : ℚ) : Prop :=
  ∃ significand place : Int, |significand| < 2 ^ 53 ∧ value = significand * 2 ^ place

section Rounding
variable {value : ℚ}

theorem ulp_pos (value : ℚ) : 0 < ulp value := zpow_pos (by norm_num) _

@[simp] theorem nearest_zero : nearest 0 = 0 := by
  have zero := roundHalfEven_intCast 0
  rw [Int.cast_zero] at zero
  rw [nearest, zero_div, zero, Int.cast_zero, zero_mul]

@[simp] theorem nearest_neg (value : ℚ) : nearest (-value) = -nearest value := by
  have spacing : ulp (-value) = ulp value := by rw [ulp, ulp, abs_neg]
  rw [nearest, spacing, neg_div, roundHalfEven_neg, nearest, Int.cast_neg, neg_mul]

/-- A number other than zero has 53 bits before its spacing. -/
theorem ulp_bounds (nonzero : value ≠ 0) :
    2 ^ 52 * ulp value ≤ |value| ∧ |value| < 2 ^ 53 * ulp value := by
  have positive : 0 < |value| := abs_pos.mpr nonzero
  have low := Int.zpow_log_le_self (by norm_num : 1 < 2) positive
  have high := Int.lt_zpow_succ_log_self (by norm_num : 1 < 2) |value|
  have scaled : (2 : ℚ) ^ Int.log 2 |value| = 2 ^ 52 * ulp value := by
    rw [ulp, zpow_sub₀ (by norm_num)]
    field_simp
  push_cast at low high
  rw [zpow_add_one₀ (by norm_num)] at high
  rw [scaled] at low high
  exact ⟨low, by linarith⟩

/-- The spacing follows from the bits before it. -/
theorem ulp_eq_of_bounds {place : Int} (low : 2 ^ 52 * 2 ^ place ≤ |value|)
    (high : |value| < 2 ^ 53 * 2 ^ place) : ulp value = 2 ^ place := by
  have same : ulp |value| = ulp value := by rw [ulp, ulp, abs_abs]
  rw [← same]
  have spacing : ulp |value| = 2 ^ ((52 + place) - 52) := by
    apply ulp_of_place
    · rw [zpow_add₀ (by norm_num)]
      exact_mod_cast low
    · rw [show (52 + place + 1 : Int) = 53 + place by ring, zpow_add₀ (by norm_num)]
      exact_mod_cast high
  rw [spacing, add_sub_cancel_left]

/-- A number rounds to a significand of its place. -/
theorem nearest_of_place {place : Int} (low : 2 ^ 52 ≤ value / 2 ^ place)
    (high : value / 2 ^ place < 2 ^ 53) :
    nearest value = roundHalfEven (value / 2 ^ place) * 2 ^ place := by
  have power : (0 : ℚ) < 2 ^ place := zpow_pos (by norm_num) _
  rw [le_div_iff₀ power] at low
  rw [div_lt_iff₀ power] at high
  have nonneg : 0 ≤ value := le_trans (by positivity) low
  rw [nearest, ulp_eq_of_bounds (by rwa [abs_of_nonneg nonneg]) (by rwa [abs_of_nonneg nonneg])]

/-- A number with a scaled significand of 53 bits rounds to a whole significand. -/
theorem nearest_scaled {scale : Nat} (low : 2 ^ 52 ≤ value * 2 ^ scale)
    (high : value * 2 ^ scale < 2 ^ 53) :
    nearest value = roundHalfEven (value * 2 ^ scale) / 2 ^ scale := by
  have placed : value / 2 ^ (-(scale : Int)) = value * 2 ^ scale := by
    rw [zpow_neg, zpow_natCast, div_inv_eq_mul]
  rw [← placed] at low high
  rw [nearest_of_place low high, placed, zpow_neg, zpow_natCast, div_eq_mul_inv]

/-- A number with a wide spacing rounds to a multiple of it. -/
theorem nearest_wide {wide : Nat} (low : 2 ^ 52 * 2 ^ wide ≤ value)
    (high : value < 2 ^ 53 * 2 ^ wide) :
    nearest value = roundHalfEven (value / 2 ^ wide) * 2 ^ wide := by
  have power : (0 : ℚ) < 2 ^ wide := by positivity
  have placed := @nearest_of_place value wide
  rw [zpow_natCast, le_div_iff₀ power, div_lt_iff₀ power] at placed
  exact placed low high

/-- A power of two moves the spacing. -/
theorem ulp_mul_zpow (nonzero : value ≠ 0) (place : Int) :
    ulp (value * 2 ^ place) = ulp value * 2 ^ place := by
  obtain ⟨low, high⟩ := ulp_bounds nonzero
  have power : (0 : ℚ) < 2 ^ place := zpow_pos (by norm_num) _
  have moved : ulp value * 2 ^ place = 2 ^ (Int.log 2 |value| - 52 + place) := by
    rw [ulp, zpow_add₀ (by norm_num)]
  rw [moved]
  apply ulp_eq_of_bounds
  · rw [← moved, abs_mul, abs_of_pos power, ← mul_assoc]
    exact mul_le_mul_of_nonneg_right low power.le
  · rw [← moved, abs_mul, abs_of_pos power, ← mul_assoc]
    exact mul_lt_mul_of_pos_right high power

/-- A power of two commutes with the rounding. -/
theorem nearest_mul_zpow (value : ℚ) (place : Int) :
    nearest (value * 2 ^ place) = nearest value * 2 ^ place := by
  by_cases zero : value = 0
  · rw [zero, zero_mul, nearest_zero, zero_mul]
  · have power : (2 : ℚ) ^ place ≠ 0 := zpow_ne_zero _ (by norm_num)
    rw [nearest, ulp_mul_zpow zero, mul_div_mul_right _ _ power, nearest, mul_assoc]

/-- A double rounds to itself. -/
theorem nearest_of_isDouble (double : IsDouble value) : nearest value = value := by
  obtain ⟨significand, place, short, rfl⟩ := double
  rw [nearest_mul_zpow]
  congr 1
  by_cases zero : significand = 0
  · rw [zero, Int.cast_zero, nearest_zero]
  · -- The spacing of a short significand is at most one.
    have nonzero : (significand : ℚ) ≠ 0 := by exact_mod_cast zero
    have bits : Int.log 2 |(significand : ℚ)| < 53 := by
      apply (Int.lt_zpow_iff_log_lt (by norm_num) (abs_pos.mpr nonzero)).mp
      exact_mod_cast short
    obtain ⟨fine, spacing⟩ : ∃ fine : Nat, ulp (significand : ℚ) * 2 ^ fine = 1 := by
      refine ⟨(52 - Int.log 2 |(significand : ℚ)|).toNat, ?_⟩
      rw [ulp, ← zpow_natCast, ← zpow_add₀ (by norm_num), Int.toNat_of_nonneg (by omega)]
      simp
    have whole : (significand : ℚ) / ulp significand = ((significand * 2 ^ fine : Int) : ℚ) := by
      rw [div_eq_iff (ulp_pos _).ne']
      push_cast
      rw [mul_assoc, mul_comm _ (ulp _), spacing, mul_one]
    rw [nearest, whole, roundHalfEven_intCast, ← whole, div_mul_cancel₀ _ (ulp_pos _).ne']

/-- A rounded number is a double. -/
theorem isDouble_nearest (value : ℚ) : IsDouble (nearest value) := by
  by_cases zero : value = 0
  · exact ⟨0, 0, by norm_num, by rw [zero, nearest_zero]; simp⟩
  · have spacing := ulp_pos value
    have inside : |value / ulp value| < 2 ^ 53 := by
      rw [abs_div, abs_of_pos spacing, div_lt_iff₀ spacing]
      exact (ulp_bounds zero).2
    have high : roundHalfEven (value / ulp value) ≤ 2 ^ 53 := by
      have rounded := roundHalfEven_mono (abs_lt.mp inside).2.le
      rwa [roundHalfEven_two_pow] at rounded
    have low : -(2 ^ 53) ≤ roundHalfEven (value / ulp value) := by
      have rounded := roundHalfEven_mono (abs_lt.mp inside).1.le
      rwa [roundHalfEven_neg, roundHalfEven_two_pow] at rounded
    -- A significand that was rounded up to 54 bits is a power of two.
    rcases eq_or_lt_of_le high with top | below
    · refine ⟨1, 53 + (Int.log 2 |value| - 52), by norm_num, ?_⟩
      rw [nearest, top, zpow_add₀ (by norm_num), ulp]
      push_cast
      norm_num
    · rcases eq_or_lt_of_le low with bottom | above
      · refine ⟨-1, 53 + (Int.log 2 |value| - 52), by norm_num, ?_⟩
        rw [nearest, ← bottom, zpow_add₀ (by norm_num), ulp]
        push_cast
        norm_num
      · exact ⟨_, _, abs_lt.mpr ⟨above, below⟩, rfl⟩

theorem nearest_nearest (value : ℚ) : nearest (nearest value) = nearest value :=
  nearest_of_isDouble (isDouble_nearest value)

/-- A double neither underflows nor overflows in this range. -/
def Normal (value : ℚ) : Prop :=
  value = 0 ∨ (2 : ℚ) ^ (-1022 : Int) ≤ |value| ∧ |value| ≤ (2 : ℚ) ^ (1023 : Int)

theorem normal_of_bounds (low : value ≠ 0 → 1 ≤ |value| * 2 ^ 100) (high : |value| ≤ 2 ^ 100) :
    Normal value := by
  by_cases zero : value = 0
  · exact .inl zero
  · have smallest : (2 : ℚ) ^ (-1022 : Int) ≤ 2 ^ (-100 : Int) :=
      zpow_le_zpow_right₀ (by norm_num) (by norm_num)
    have largest : (2 : ℚ) ^ (100 : Int) ≤ 2 ^ (1023 : Int) :=
      zpow_le_zpow_right₀ (by norm_num) (by norm_num)
    refine .inr ⟨smallest.trans ?_, le_trans (by exact_mod_cast high) largest⟩
    rw [zpow_neg, inv_le_iff_one_le_mul₀ (by positivity)]
    exact_mod_cast low zero

end Rounding

/-- The double of a number of milliseconds in seconds. -/
def secondsOf (milliseconds : Nat) : ℚ := nearest (milliseconds / 1000)

/-- The whole milliseconds of these seconds. -/
def throughSeconds (milliseconds : Nat) : Int := ⌊nearest (secondsOf milliseconds * 1000)⌋

/-- The doubles around the seconds are sparse beside the ones around the milliseconds. -/
def Sparse (milliseconds : Nat) : Prop :=
  1000 * 2 ^ milliseconds.log2 ≤ 512 * milliseconds

instance (milliseconds : Nat) : Decidable (Sparse milliseconds) :=
  inferInstanceAs (Decidable (_ ≤ _))

/-- The part of the milliseconds that the sparse seconds round away. -/
def residue (milliseconds : Nat) : Nat := milliseconds * 2 ^ (61 - milliseconds.log2) % 1000

/-- The milliseconds come back from their seconds. Below 2 ^ 52 only a loss to the lower double
matters. Above it the milliseconds need a double of their own and any loss matters. -/
def Survives (milliseconds : Nat) : Prop :=
  if milliseconds < 2 ^ 52 then
    Sparse milliseconds → ¬ (256 < residue milliseconds ∧ residue milliseconds < 500)
  else
    2 ^ (milliseconds.log2 - 52) ∣ milliseconds ∧ (Sparse milliseconds →
      min (residue milliseconds) (1000 - residue milliseconds) < 256 ∨
      min (residue milliseconds) (1000 - residue milliseconds) = 256 ∧
        milliseconds / 2 ^ (milliseconds.log2 - 52) % 2 = 0)

instance (milliseconds : Nat) : Decidable (Survives milliseconds) :=
  inferInstanceAs (Decidable (ite _ _ _))

example : ¬ Survives 1001 ∧ Survives 1500 := by decide

section Thousandths
variable {amount : Nat}

/-- A thousandth rounds down exactly below its half. -/
theorem roundHalfEven_thousandth (apart : amount % 1000 ≠ 500) :
    roundHalfEven ((amount : ℚ) / 1000) =
      if amount % 1000 < 500 then ((amount / 1000 : Nat) : Int) else (amount / 1000 : Nat) + 1 := by
  have parts : ((amount : Nat) : ℚ) = 1000 * (amount / 1000 : Nat) + (amount % 1000 : Nat) := by
    exact_mod_cast (Nat.div_add_mod amount 1000).symm
  generalize amount / 1000 = whole at parts ⊢
  have small : amount % 1000 < 1000 := Nat.mod_lt _ (by norm_num)
  generalize amount % 1000 = part at *
  split
  · rename_i low
    have low : (part : ℚ) < 500 := by exact_mod_cast low
    have nonneg : (0 : ℚ) ≤ part := Nat.cast_nonneg part
    apply le_antisymm
    · exact roundHalfEven_le_iff.mpr (.inl (by push_cast; linarith))
    · exact le_roundHalfEven_iff.mpr (.inl (by push_cast; linarith))
  · rename_i high
    have high : (500 : ℚ) < part := by exact_mod_cast (by omega : 500 < part)
    have small : (part : ℚ) < 1000 := by exact_mod_cast small
    apply le_antisymm
    · exact roundHalfEven_le_iff.mpr (.inl (by push_cast; linarith))
    · exact le_roundHalfEven_iff.mpr (.inl (by push_cast; linarith))

/-- A rounded thousandth misses at most half of one. -/
theorem thousandth_bounds :
    amount - 500 ≤ 1000 * roundHalfEven ((amount : ℚ) / 1000) ∧
      1000 * roundHalfEven ((amount : ℚ) / 1000) ≤ (amount : Int) + 500 := by
  have low := le_roundHalfEven_iff.mp (le_refl (roundHalfEven ((amount : ℚ) / 1000)))
  have high := roundHalfEven_le_iff.mp (le_refl (roundHalfEven ((amount : ℚ) / 1000)))
  generalize roundHalfEven ((amount : ℚ) / 1000) = rounded at low high ⊢
  constructor
  · have near : (amount : ℚ) - 500 ≤ 1000 * rounded := by
      rcases high with less | ⟨same, _⟩ <;> linarith
    exact_mod_cast near
  · have near : 1000 * (rounded : ℚ) ≤ amount + 500 := by
      rcases low with less | ⟨same, _⟩ <;> linarith
    exact_mod_cast near

end Thousandths

/-- A significand after the division by 1000 and the multiplication by 1000. The quotient has a
larger scale. -/
def roundTrip (shift significand : Nat) : Int :=
  roundHalfEven ((1000 * roundHalfEven (((significand * 2 ^ shift : Nat) : ℚ) / 1000) : Int)
    / 2 ^ shift)

section Significand
variable {significand : Nat}

/-- Dense seconds lose less than half of a spacing. -/
theorem roundTrip_dense : roundTrip 10 significand = significand := by
  obtain ⟨low, high⟩ := @thousandth_bounds (significand * 2 ^ 10)
  unfold roundTrip
  generalize roundHalfEven (((significand * 2 ^ 10 : Nat) : ℚ) / 1000) = whole at low high ⊢
  have low : (1024 : ℚ) * significand - 500 ≤ 1000 * whole := by
    exact_mod_cast (by push_cast at low; omega : (1024 : Int) * significand - 500 ≤ 1000 * whole)
  have high : (1000 : ℚ) * whole ≤ 1024 * significand + 500 := by
    exact_mod_cast (by push_cast at high; omega : 1000 * whole ≤ (1024 : Int) * significand + 500)
  apply le_antisymm
  · refine roundHalfEven_le_iff.mpr (.inl ?_)
    rw [div_lt_iff₀ (by norm_num)]
    push_cast
    linarith
  · refine le_roundHalfEven_iff.mpr (.inl ?_)
    rw [lt_div_iff₀ (by norm_num)]
    push_cast
    linarith

/-- The milliseconds of sparse seconds in units of their spacing. -/
theorem roundTrip_sparse (apart : significand * 2 ^ 9 % 1000 ≠ 500) :
    ∃ gap : Int, (1000 * roundHalfEven (((significand * 2 ^ 9 : Nat) : ℚ) / 1000) : Int) =
        512 * significand + gap ∧
      gap = if significand * 2 ^ 9 % 1000 < 500 then -((significand * 2 ^ 9 % 1000 : Nat) : Int)
        else 1000 - (significand * 2 ^ 9 % 1000 : Nat) := by
  rw [roundHalfEven_thousandth apart]
  refine ⟨_, ?_, rfl⟩
  split <;> omega

theorem roundTrip_le : roundTrip 9 significand ≤ significand + 1 := by
  obtain ⟨_, high⟩ := @thousandth_bounds (significand * 2 ^ 9)
  unfold roundTrip
  generalize roundHalfEven (((significand * 2 ^ 9 : Nat) : ℚ) / 1000) = whole at high ⊢
  have high : (1000 : ℚ) * whole ≤ 512 * significand + 500 := by
    exact_mod_cast (by push_cast at high; omega : 1000 * whole ≤ (512 : Int) * significand + 500)
  refine roundHalfEven_le_iff.mpr (.inl ?_)
  rw [div_lt_iff₀ (by norm_num)]
  push_cast
  linarith

/-- A significand keeps its value or rounds up unless it loses more than half of a spacing. -/
theorem le_roundTrip_iff (apart : significand * 2 ^ 9 % 1000 ≠ 500) (even : significand % 2 = 0) :
    (significand : Int) ≤ roundTrip 9 significand ↔
      ¬ (256 < significand * 2 ^ 9 % 1000 ∧ significand * 2 ^ 9 % 1000 < 500) := by
  obtain ⟨gap, scaled, cases⟩ := roundTrip_sparse apart
  unfold roundTrip
  rw [scaled, le_roundHalfEven_iff, lt_div_iff₀ (by norm_num), eq_div_iff (by norm_num)]
  have small : significand * 2 ^ 9 % 1000 < 1000 := Nat.mod_lt _ (by norm_num)
  generalize significand * 2 ^ 9 % 1000 = part at apart cases small ⊢
  push_cast
  have lower : ((significand : ℚ) - 1 / 2) * 2 ^ 9 < 512 * significand + gap ↔ -256 < gap := by
    rw [show ((significand : ℚ) - 1 / 2) * 2 ^ 9 = 512 * significand + (-256 : Int) by
      push_cast; ring, add_lt_add_iff_left, Int.cast_lt]
  have tie : ((significand : ℚ) - 1 / 2) * 2 ^ 9 = 512 * significand + gap ↔ -256 = gap := by
    rw [show ((significand : ℚ) - 1 / 2) * 2 ^ 9 = 512 * significand + (-256 : Int) by
      push_cast; ring, add_right_inj, Int.cast_inj]
  rw [lower, tie, cases]
  split <;> omega

/-- A significand keeps its value exactly when it misses less than half of a spacing, or half of
one and is even. -/
theorem roundTrip_eq_iff (apart : significand * 2 ^ 9 % 1000 ≠ 500) :
    roundTrip 9 significand = significand ↔
      min (significand * 2 ^ 9 % 1000) (1000 - significand * 2 ^ 9 % 1000) < 256 ∨
      min (significand * 2 ^ 9 % 1000) (1000 - significand * 2 ^ 9 % 1000) = 256 ∧
        significand % 2 = 0 := by
  obtain ⟨gap, scaled, cases⟩ := roundTrip_sparse apart
  unfold roundTrip
  rw [scaled, le_antisymm_iff, le_roundHalfEven_iff, roundHalfEven_le_iff,
    lt_div_iff₀ (by norm_num), eq_div_iff (by norm_num), div_lt_iff₀ (by norm_num),
    div_eq_iff (by norm_num)]
  have small : significand * 2 ^ 9 % 1000 < 1000 := Nat.mod_lt _ (by norm_num)
  generalize significand * 2 ^ 9 % 1000 = part at apart cases small ⊢
  push_cast
  have low : ((significand : ℚ) - 1 / 2) * 2 ^ 9 = 512 * significand + (-256 : Int) := by
    push_cast; ring
  have high : ((significand : ℚ) + 1 / 2) * 2 ^ 9 = 512 * significand + (256 : Int) := by
    push_cast; ring
  rw [low, high, add_lt_add_iff_left, add_lt_add_iff_left, add_right_inj, add_right_inj,
    Int.cast_lt, Int.cast_lt, Int.cast_inj, Int.cast_inj, cases]
  split <;> omega

/-- The seconds of a significand have a significand of 53 bits. -/
structure Fits (shift significand : Nat) : Prop where
  low : 2 ^ 52 ≤ significand
  high : significand < 2 ^ 53
  secondsLow : 1000 * 2 ^ 52 ≤ significand * 2 ^ shift
  secondsHigh : significand * 2 ^ shift < 1000 * 2 ^ 53
  shifted : shift = 9 ∨ shift = 10

theorem Fits.product {shift : Nat} (fits : Fits shift significand) :
    2 ^ 52 * 2 ^ shift ≤
        1000 * roundHalfEven (((significand * 2 ^ shift : Nat) : ℚ) / 1000) ∧
      1000 * roundHalfEven (((significand * 2 ^ shift : Nat) : ℚ) / 1000) < 2 ^ 53 * 2 ^ shift := by
  obtain ⟨low, high, secondsLow, secondsHigh, shifted⟩ := fits
  obtain ⟨below, above⟩ := @thousandth_bounds (significand * 2 ^ shift)
  have floor : (2 ^ 52 : Int) ≤ roundHalfEven (((significand * 2 ^ shift : Nat) : ℚ) / 1000) := by
    have ordered : (((2 ^ 52 : Nat) : Int) : ℚ) ≤ ((significand * 2 ^ shift : Nat) : ℚ) / 1000 := by
      rw [le_div_iff₀ (by norm_num)]
      exact_mod_cast (by omega : 2 ^ 52 * 1000 ≤ significand * 2 ^ shift)
    have rounded := roundHalfEven_mono ordered
    rwa [roundHalfEven_intCast] at rounded
  rcases shifted with rfl | rfl
  · refine ⟨by omega, ?_⟩
    generalize roundHalfEven _ = whole at above ⊢
    push_cast at above
    omega
  · refine ⟨?_, ?_⟩
    · by_cases least : significand = 2 ^ 52
      · subst least
        rw [roundHalfEven_thousandth (by norm_num)]
        norm_num
      · generalize roundHalfEven _ = whole at below ⊢
        push_cast at below
        omega
    · generalize roundHalfEven _ = whole at above ⊢
      push_cast at above
      omega

end Significand

section Seconds
variable {milliseconds significand shift : Nat}

theorem secondsOf_eq {scale : Nat} (fits : Fits shift significand)
    (scaled : milliseconds * 2 ^ scale = significand * 2 ^ shift) :
    secondsOf milliseconds =
      roundHalfEven (((significand * 2 ^ shift : Nat) : ℚ) / 1000) / 2 ^ scale := by
  have value : (milliseconds : ℚ) / 1000 * 2 ^ scale = ((significand * 2 ^ shift : Nat) : ℚ) / 1000 := by
    rw [← scaled]
    push_cast
    ring
  rw [secondsOf, nearest_scaled, value]
  · rw [value, le_div_iff₀ (by norm_num)]
    exact_mod_cast (by have := fits.secondsLow; omega : 2 ^ 52 * 1000 ≤ significand * 2 ^ shift)
  · rw [value, div_lt_iff₀ (by norm_num)]
    exact_mod_cast (by have := fits.secondsHigh; omega : significand * 2 ^ shift < 2 ^ 53 * 1000)

/-- Milliseconds below their significand come back as a part of it. -/
theorem throughSeconds_narrow {scale : Nat} (fits : Fits shift significand)
    (scaled : milliseconds * 2 ^ scale = significand) :
    throughSeconds milliseconds = ⌊(roundTrip shift significand : ℚ) / 2 ^ scale⌋ := by
  obtain ⟨low, high⟩ := fits.product
  have seconds := @secondsOf_eq milliseconds _ _ (scale + shift) fits
    (by rw [pow_add, ← mul_assoc, scaled])
  unfold throughSeconds roundTrip
  generalize roundHalfEven (((significand * 2 ^ shift : Nat) : ℚ) / 1000) = whole at *
  have value : secondsOf milliseconds * 1000 * 2 ^ scale = ((1000 * whole : Int) : ℚ) / 2 ^ shift := by
    rw [seconds, pow_add]
    push_cast
    field_simp
  rw [nearest_scaled, value]
  · rw [value, le_div_iff₀ (by positivity)]
    exact_mod_cast low
  · rw [value, div_lt_iff₀ (by positivity)]
    exact_mod_cast high

/-- Milliseconds above their significand come back as a multiple of it. -/
theorem throughSeconds_wide {wide : Nat} (fits : Fits shift significand) (bounded : wide ≤ shift)
    (scaled : milliseconds = significand * 2 ^ wide) :
    throughSeconds milliseconds = roundTrip shift significand * 2 ^ wide := by
  obtain ⟨low, high⟩ := fits.product
  have seconds := @secondsOf_eq milliseconds _ _ (shift - wide) fits
    (by rw [scaled, mul_assoc, ← pow_add, Nat.add_sub_cancel' bounded])
  have split : (2 : ℚ) ^ shift = 2 ^ (shift - wide) * 2 ^ wide := by
    rw [← pow_add, Nat.sub_add_cancel bounded]
  unfold throughSeconds roundTrip
  generalize roundHalfEven (((significand * 2 ^ shift : Nat) : ℚ) / 1000) = whole at *
  have value : secondsOf milliseconds * 1000 / 2 ^ wide = ((1000 * whole : Int) : ℚ) / 2 ^ shift := by
    rw [seconds, split]
    push_cast
    field_simp
  rw [nearest_wide, value, Int.floor_eq_iff]
  · push_cast
    exact ⟨le_rfl, lt_add_one _⟩
  · rw [← le_div_iff₀ (by positivity), value, le_div_iff₀ (by positivity)]
    exact_mod_cast low
  · rw [← div_lt_iff₀ (by positivity), value, div_lt_iff₀ (by positivity)]
    exact_mod_cast high

/-- Milliseconds between two doubles never come back. -/
theorem throughSeconds_between {place : Nat} (low : 2 ^ place ≤ milliseconds)
    (high : milliseconds < 2 ^ (place + 1)) (large : 52 ≤ place)
    (between : ¬ 2 ^ (place - 52) ∣ milliseconds) : throughSeconds milliseconds ≠ milliseconds := by
  have apart : milliseconds ≠ 2 ^ place := fun same =>
    between (same ▸ pow_dvd_pow 2 (Nat.sub_le place 52))
  unfold throughSeconds
  generalize secondsOf milliseconds * 1000 = value
  intro same
  have floor : (milliseconds : ℚ) ≤ nearest value ∧ nearest value < milliseconds + 1 := by
    have bounds := Int.floor_eq_iff.mp same
    exact_mod_cast bounds
  have above : (2 : ℚ) ^ place < milliseconds := by
    exact_mod_cast lt_of_le_of_ne low (Ne.symm apart)
  have below : (milliseconds : ℚ) + 1 ≤ 2 ^ (place + 1) := by exact_mod_cast high
  have positive : 0 < value := by
    by_contra negative
    have least : nearest value ≤ 0 := by
      have spacing : (0 : ℚ) ≤ ulp value := zpow_nonneg (by norm_num) _
      have rounded := roundHalfEven_mono (div_nonpos_of_nonpos_of_nonneg (not_lt.mp negative) spacing)
      have zero := roundHalfEven_intCast 0
      push_cast at zero
      rw [zero] at rounded
      exact mul_nonpos_of_nonpos_of_nonneg (by exact_mod_cast rounded) spacing
    have power : (0 : ℚ) < 2 ^ place := by positivity
    linarith
  -- The rounded value lies in the same place, where the spacing is that of the milliseconds.
  have lower := Int.zpow_log_le_self (b := 2) (by norm_num) positive
  have upper := Int.lt_zpow_succ_log_self (b := 2) (by norm_num) value
  push_cast at lower upper
  obtain ⟨least, most⟩ := nearest_between lower upper
  have placed : Int.log 2 value = place := by
    apply le_antisymm
    · by_contra higher
      have steps : (2 : ℚ) ^ ((place : Int) + 1) ≤ 2 ^ Int.log 2 value :=
        zpow_le_zpow_right₀ (by norm_num) (by omega)
      rw [show ((place : Int) + 1) = ((place + 1 : Nat) : Int) by push_cast; ring,
        zpow_natCast] at steps
      linarith
    · by_contra smaller
      have steps : (2 : ℚ) ^ (Int.log 2 value + 1) ≤ 2 ^ (place : Int) :=
        zpow_le_zpow_right₀ (by norm_num) (by omega)
      rw [zpow_natCast] at steps
      linarith
  have split : 52 + (place - 52) = place := by omega
  rw [placed, zpow_natCast] at lower
  rw [placed, show ((place : Int) + 1) = ((place + 1 : Nat) : Int) by push_cast; ring,
    zpow_natCast] at upper
  have wide := @nearest_wide value (place - 52)
    (by rw [← pow_add, split]; exact lower)
    (by rw [← pow_add, show 53 + (place - 52) = place + 1 by omega]; exact upper)
  rw [wide] at same
  have whole : ((roundHalfEven (value / 2 ^ (place - 52)) : ℚ) * 2 ^ (place - 52)) =
      ((roundHalfEven (value / 2 ^ (place - 52)) * 2 ^ (place - 52) : Int) : ℚ) := by push_cast; rfl
  rw [whole, Int.floor_intCast] at same
  exact between (by exact_mod_cast (Dvd.intro_left _ same : ((2 : Int) ^ (place - 52)) ∣ milliseconds))

theorem throughSeconds_nonneg : 0 ≤ throughSeconds milliseconds := by
  have seconds : 0 ≤ secondsOf milliseconds := nearest_nonneg (by positivity)
  exact Int.floor_nonneg.mpr (nearest_nonneg (by positivity))

theorem throughSeconds_zero : throughSeconds 0 = 0 := by
  have zero := roundHalfEven_intCast 0
  push_cast at zero
  simp [throughSeconds, secondsOf, nearest, zero]

/-- A significand of milliseconds fits with the shift of its seconds. -/
theorem fits_of_place (low : 2 ^ 52 ≤ significand) (high : significand < 2 ^ 53)
    (sparse : Sparse milliseconds ↔ 1000 * 2 ^ 52 ≤ 512 * significand) :
    Fits (if Sparse milliseconds then 9 else 10) significand := by
  split
  · rename_i wide
    have wide := sparse.mp wide
    exact ⟨low, high, by omega, by omega, .inl rfl⟩
  · rename_i dense
    have dense : ¬ 1000 * 2 ^ 52 ≤ 512 * significand := fun wide => dense (sparse.mpr wide)
    exact ⟨low, high, by omega, by omega, .inr rfl⟩

theorem sparse_scaled {place scale : Nat} (placed : milliseconds.log2 = place)
    (whole : place + scale = 52) :
    Sparse milliseconds ↔ 1000 * 2 ^ 52 ≤ 512 * (milliseconds * 2 ^ scale) := by
  have power : 0 < 2 ^ scale := by positivity
  rw [Sparse, placed, ← Nat.mul_le_mul_right_iff power, ← whole, pow_add]
  constructor <;> intro ordered <;> linarith

theorem survives_narrow {place scale : Nat} (placed : milliseconds.log2 = place)
    (whole : place + scale = 52) (positive : 0 < scale) (low : 2 ^ place ≤ milliseconds)
    (high : milliseconds < 2 ^ (place + 1)) :
    throughSeconds milliseconds = milliseconds ↔ Survives milliseconds := by
  have power : 0 < 2 ^ scale := by positivity
  have least : 2 ^ 52 ≤ milliseconds * 2 ^ scale := by
    rw [← whole, pow_add]
    exact Nat.mul_le_mul_right _ low
  have most : milliseconds * 2 ^ scale < 2 ^ 53 := by
    rw [show 53 = place + 1 + scale by omega, pow_add]
    exact Nat.mul_lt_mul_of_pos_right high power
  have small : milliseconds < 2 ^ 52 :=
    lt_of_lt_of_le high (Nat.pow_le_pow_right (by norm_num) (by omega))
  have fits := @fits_of_place milliseconds _ least most (sparse_scaled placed whole)
  have residue_eq : residue milliseconds = milliseconds * 2 ^ scale * 2 ^ 9 % 1000 := by
    rw [residue, placed, mul_assoc, ← pow_add, show 61 - place = scale + 9 by omega]
  have even : milliseconds * 2 ^ scale % 2 = 0 := by
    obtain ⟨rest, rfl⟩ : ∃ rest, scale = rest + 1 := ⟨scale - 1, by omega⟩
    rw [pow_succ, ← mul_assoc]
    exact Nat.mul_mod_left _ _
  have pairs : 2 ≤ 2 ^ scale := by
    calc 2 = 2 ^ 1 := rfl
      _ ≤ 2 ^ scale := Nat.pow_le_pow_right (by norm_num) positive
  rw [throughSeconds_narrow fits rfl, Survives, if_pos small, residue_eq, Int.floor_eq_iff,
    le_div_iff₀ (by positivity), div_lt_iff₀ (by positivity)]
  have lower : (((milliseconds : Int) : ℚ)) * 2 ^ scale =
      (((milliseconds * 2 ^ scale : Nat) : Int) : ℚ) := by push_cast; ring
  have upper : (((milliseconds : Int) : ℚ) + 1) * 2 ^ scale =
      (((milliseconds * 2 ^ scale : Nat) + (2 ^ scale : Nat) : Int) : ℚ) := by push_cast; ring
  rw [lower, upper, Int.cast_le, Int.cast_lt]
  generalize milliseconds * 2 ^ scale = significand at *
  split at fits
  · rename_i sparse
    rw [if_pos sparse]
    have below := @roundTrip_le significand
    rw [and_iff_left (by omega), le_roundTrip_iff (by omega) even]
    exact ⟨fun kept _ => kept, fun kept => kept sparse⟩
  · rename_i dense
    rw [if_neg dense, roundTrip_dense]
    exact ⟨fun _ sparse => absurd sparse dense, fun _ => ⟨le_rfl, by omega⟩⟩

theorem survives_wide {place wide : Nat} (placed : milliseconds.log2 = place)
    (whole : place = 52 + wide) (bounded : wide ≤ 4) (low : 2 ^ place ≤ milliseconds)
    (high : milliseconds < 2 ^ (place + 1)) :
    throughSeconds milliseconds = milliseconds ↔ Survives milliseconds := by
  have power : 0 < 2 ^ wide := by positivity
  have large : ¬ milliseconds < 2 ^ 52 :=
    not_lt.mpr (le_trans (Nat.pow_le_pow_right (by norm_num) (by omega)) low)
  have spacing : place - 52 = wide := by omega
  rw [Survives, if_neg large, placed, spacing]
  by_cases divides : 2 ^ wide ∣ milliseconds
  · obtain ⟨significand, rfl⟩ := divides
    rw [mul_comm (2 ^ wide) significand] at *
    have least : 2 ^ 52 ≤ significand := by
      rw [whole, pow_add] at low
      exact Nat.le_of_mul_le_mul_right low power
    have most : significand < 2 ^ 53 := by
      rw [show place + 1 = 53 + wide by omega, pow_add] at high
      exact Nat.lt_of_mul_lt_mul_right high
    have sparse_iff : Sparse (significand * 2 ^ wide) ↔ 1000 * 2 ^ 52 ≤ 512 * significand := by
      rw [Sparse, placed, whole, pow_add, ← mul_assoc, ← mul_assoc]
      exact Nat.mul_le_mul_right_iff power
    have fits := @fits_of_place (significand * 2 ^ wide) _ least most sparse_iff
    have residue_eq : residue (significand * 2 ^ wide) = significand * 2 ^ 9 % 1000 := by
      rw [residue, placed, mul_assoc, ← pow_add, show wide + (61 - place) = 9 by omega]
    have shifted : wide ≤ if Sparse (significand * 2 ^ wide) then 9 else 10 := by split <;> omega
    rw [throughSeconds_wide fits shifted rfl, residue_eq, Nat.mul_div_cancel _ power,
      and_iff_right (Dvd.intro_left _ rfl)]
    have cancel : ∀ back : Int, back * 2 ^ wide = ((significand * 2 ^ wide : Nat) : Int) ↔
        back = significand := by
      intro back
      push_cast
      exact mul_left_inj' (by positivity)
    rw [cancel]
    split
    · rename_i sparse
      rw [roundTrip_eq_iff (by omega)]
      exact ⟨fun kept _ => kept, fun kept => kept sparse⟩
    · rename_i dense
      rw [roundTrip_dense]
      exact ⟨fun _ sparse => absurd sparse dense, fun _ => rfl⟩
  · refine ⟨fun same => absurd same ?_, fun both => absurd both.1 divides⟩
    exact throughSeconds_between low high (by omega) (by rwa [spacing])

/-- Exactly the surviving milliseconds come back from their seconds. -/
theorem throughSeconds_eq_iff (bounded : milliseconds < 2 ^ 57) :
    throughSeconds milliseconds = milliseconds ↔ Survives milliseconds := by
  by_cases zero : milliseconds = 0
  · subst zero
    exact iff_of_true throughSeconds_zero (by decide)
  · have low := Nat.log2_self_le zero
    have high := @Nat.lt_log2_self milliseconds
    have place : milliseconds.log2 < 57 :=
      (Nat.pow_lt_pow_iff_right (by norm_num : 1 < 2)).mp (lt_of_le_of_lt low bounded)
    rcases lt_or_ge milliseconds.log2 52 with narrow | wide
    · exact @survives_narrow _ _ (52 - milliseconds.log2) rfl (by omega) (by omega) low high
    · exact @survives_wide _ _ (milliseconds.log2 - 52) rfl (by omega) (by omega) low high

end Seconds

end StateFlow.Double
