import Mathlib.Order.WithBot
import StateFlow.Library.Binary64

namespace StateFlow.Binary64
open Python

/-- Numbers from here on are too large for the format. -/
def limit : ℚ := (2 ^ 256) ^ 4

theorem limit_pos : 0 < limit := by
  unfold limit
  positivity

/-- A finite number of the format. -/
structure Finite where
  value : ℚ
  exact : rounded value = value
  bounded : |value| < limit
  deriving DecidableEq

/-- A finite number, an infinity, or no number. Both zeros are one number. -/
inductive Float64 where
  | finite (number : Finite)
  | infinite (negative : Bool)
  | nan
  deriving DecidableEq

/-- The nearest number of the format. A number beyond the largest one becomes an infinity. -/
def double (value : ℚ) : Float64 :=
  if bounded : |rounded value| < limit then .finite ⟨rounded value, rounded_rounded value, bounded⟩
  else .infinite (decide (value < 0))

namespace Float64

/-- The place of a number among all numbers and infinities. -/
def extended : Float64 → Option (WithBot (WithTop ℚ))
  | finite number => some ((number.value : WithTop ℚ) : WithBot (WithTop ℚ))
  | infinite true => some ⊥
  | infinite false => some ⊤
  | nan => none

/-- No comparison holds for `nan`. -/
instance : LE Float64 := ⟨fun x y => ∃ first ∈ x.extended, ∃ second ∈ y.extended, first ≤ second⟩

instance : LT Float64 := ⟨fun x y => ∃ first ∈ x.extended, ∃ second ∈ y.extended, first < second⟩

instance : DecidableLE Float64 := fun x y =>
  inferInstanceAs (Decidable (∃ first ∈ x.extended, ∃ second ∈ y.extended, first ≤ second))

instance : DecidableLT Float64 := fun x y =>
  inferInstanceAs (Decidable (∃ first ∈ x.extended, ∃ second ∈ y.extended, first < second))

instance : Zero Float64 := ⟨double 0⟩

instance : One Float64 := ⟨double 1⟩

instance : IntCast Float64 := ⟨fun number => double number⟩

instance : RatCast Float64 := ⟨double⟩

instance : Neg Float64 where
  neg
    | finite number => double (-number.value)
    | infinite negative => infinite !negative
    | nan => nan

instance : Add Float64 where
  add
    | finite x, finite y => double (x.value + y.value)
    | infinite first, infinite second => if first = second then infinite first else nan
    | infinite negative, finite _ | finite _, infinite negative => infinite negative
    | _, _ => nan

instance : Sub Float64 := ⟨fun x y => x + -y⟩

/-- An infinity takes the sign of the other factor. -/
def scaled (negative : Bool) (factor : ℚ) : Float64 :=
  if factor = 0 then nan else infinite (negative != decide (factor < 0))

instance : Mul Float64 where
  mul
    | finite x, finite y => double (x.value * y.value)
    | infinite first, infinite second => infinite (first != second)
    | infinite negative, finite x | finite x, infinite negative => scaled negative x.value
    | _, _ => nan

/-- A quotient by zero raises in the language. It has no value here. -/
instance : Div Float64 where
  div
    | finite x, finite y => if y.value = 0 then nan else double (x.value / y.value)
    | infinite negative, finite y => scaled negative y.value
    | finite _, infinite _ => 0
    | _, _ => nan

section Order
variable {x y z : Float64} {number other : Finite} {value : ℚ}

@[simp] theorem finite_le : finite number ≤ finite other ↔ number.value ≤ other.value := by
  change (∃ a ∈ some _, ∃ b ∈ some _, a ≤ b) ↔ _
  simp

@[simp] theorem finite_lt : finite number < finite other ↔ number.value < other.value := by
  change (∃ a ∈ some _, ∃ b ∈ some _, a < b) ↔ _
  simp

theorem extended_some (present : x ≠ nan) : ∃ place, place ∈ x.extended := by
  cases x with
  | finite number => exact ⟨_, rfl⟩
  | infinite negative => cases negative <;> exact ⟨_, rfl⟩
  | nan => exact absurd rfl present

theorem ne_nan_of_le (ordered : x ≤ y) : x ≠ nan ∧ y ≠ nan := by
  obtain ⟨a, hasA, b, hasB, _⟩ := ordered
  constructor
  · rintro rfl
    cases hasA
  · rintro rfl
    cases hasB

theorem le_infinity (present : x ≠ nan) : x ≤ infinite false := by
  obtain ⟨place, known⟩ := extended_some present
  exact ⟨place, known, ⊤, rfl, le_top⟩

theorem infinity_le (present : x ≠ nan) : infinite true ≤ x := by
  obtain ⟨place, known⟩ := extended_some present
  exact ⟨⊥, rfl, place, known, bot_le⟩

@[simp] theorem finite_lt_infinity : finite number < infinite false :=
  ⟨_, rfl, ⊤, rfl, WithBot.coe_lt_coe.mpr (WithTop.coe_lt_top _)⟩

@[simp] theorem infinity_lt_finite : infinite true < finite number :=
  ⟨⊥, rfl, _, rfl, WithBot.bot_lt_coe _⟩

theorem le_of_lt (less : x < y) : x ≤ y := by
  obtain ⟨a, hasA, b, hasB, low⟩ := less
  exact ⟨a, hasA, b, hasB, low.le⟩

theorem le_refl (present : x ≠ nan) : x ≤ x := by
  obtain ⟨place, known⟩ := extended_some present
  exact ⟨place, known, place, known, le_rfl⟩

theorem le_trans (first : x ≤ y) (second : y ≤ z) : x ≤ z := by
  obtain ⟨a, hasA, b, hasB, low⟩ := first
  obtain ⟨c, hasC, d, hasD, high⟩ := second
  cases hasB.symm.trans hasC
  exact ⟨a, hasA, d, hasD, low.trans high⟩

theorem lt_of_le_of_lt (first : x ≤ y) (second : y < z) : x < z := by
  obtain ⟨a, hasA, b, hasB, low⟩ := first
  obtain ⟨c, hasC, d, hasD, high⟩ := second
  cases hasB.symm.trans hasC
  exact ⟨a, hasA, d, hasD, low.trans_lt high⟩

theorem lt_of_lt_of_le (first : x < y) (second : y ≤ z) : x < z := by
  obtain ⟨a, hasA, b, hasB, low⟩ := first
  obtain ⟨c, hasC, d, hasD, high⟩ := second
  cases hasB.symm.trans hasC
  exact ⟨a, hasA, d, hasD, low.trans_le high⟩

theorem not_lt_of_le (ordered : x ≤ y) : ¬ y < x := by
  rintro ⟨c, hasC, d, hasD, high⟩
  obtain ⟨a, hasA, b, hasB, low⟩ := ordered
  cases hasA.symm.trans hasD
  cases hasB.symm.trans hasC
  exact absurd low (not_le.mpr high)

/-- Two numbers are in order unless they are in the other one. -/
theorem le_of_not_lt (present : x ≠ nan) (known : y ≠ nan) (apart : ¬ y < x) : x ≤ y := by
  obtain ⟨a, hasA⟩ := extended_some present
  obtain ⟨b, hasB⟩ := extended_some known
  exact ⟨a, hasA, b, hasB, not_lt.mp fun less => apart ⟨b, hasB, a, hasA, less⟩⟩

/-- A rounded number is finite or beyond the finite numbers. -/
theorem double_cases (value : ℚ) :
    (∃ number : Finite, double value = finite number ∧ number.value = rounded value) ∨
      limit ≤ rounded value ∧ double value = infinite false ∨
      rounded value ≤ -limit ∧ double value = infinite true := by
  unfold double
  split_ifs with bounded
  · exact .inl ⟨_, rfl, rfl⟩
  · rcases le_abs.mp (not_lt.mp bounded) with large | small
    · have positive : ¬ value < 0 := by
        intro negative
        have below := rounded_mono negative.le
        rw [rounded_zero] at below
        linarith [limit_pos]
      rw [decide_eq_false positive]
      exact .inr (.inl ⟨large, rfl⟩)
    · have negative : value < 0 := by
        by_contra positive
        have above := rounded_nonneg (not_lt.mp positive)
        linarith [limit_pos]
      rw [decide_eq_true negative]
      exact .inr (.inr ⟨by linarith, rfl⟩)

theorem double_ne_nan (value : ℚ) : double value ≠ nan := by
  unfold double
  split_ifs <;> exact nofun

@[simp] theorem double_finite (number : Finite) : double number.value = finite number := by
  obtain ⟨value, exact, bounded⟩ := number
  unfold double
  rw [dif_pos (by rwa [exact])]
  simp only [exact]

theorem finite_le_double : finite number ≤ double value ↔ number.value ≤ rounded value := by
  have inside := abs_lt.mp number.bounded
  rcases double_cases value with ⟨other, same, known⟩ | ⟨large, same⟩ | ⟨small, same⟩
  · rw [same, finite_le, known]
  · rw [same]
    exact iff_of_true (le_infinity nofun) (by linarith)
  · rw [same]
    exact iff_of_false (fun ordered => not_lt_of_le ordered infinity_lt_finite) (by linarith)

theorem double_le_finite : double value ≤ finite number ↔ rounded value ≤ number.value := by
  have inside := abs_lt.mp number.bounded
  rcases double_cases value with ⟨other, same, known⟩ | ⟨large, same⟩ | ⟨small, same⟩
  · rw [same, finite_le, known]
  · rw [same]
    exact iff_of_false (fun ordered => not_lt_of_le ordered finite_lt_infinity) (by linarith)
  · rw [same]
    exact iff_of_true (infinity_le nofun) (by linarith)

/-- The rounding keeps the order. -/
theorem double_mono {value other : ℚ} (ordered : value ≤ other) : double value ≤ double other := by
  have kept := rounded_mono ordered
  rcases double_cases other with ⟨number, same, known⟩ | ⟨_, same⟩ | ⟨small, same⟩
  · rw [same, double_le_finite, known]
    exact kept
  · rw [same]
    exact le_infinity (double_ne_nan value)
  · rw [same]
    rcases double_cases value with ⟨number, _, known⟩ | ⟨large, _⟩ | ⟨_, alike⟩
    · have inside := abs_lt.mp number.bounded
      rw [known] at inside
      linarith
    · linarith [limit_pos]
    · rw [alike]
      exact le_refl nofun

end Order

section Nonnegative
variable {x y z w : Float64} {number : Finite} {value : ℚ}

theorem zero_eq : (0 : Float64) = finite ⟨0, rounded_zero, by rw [abs_zero]; exact limit_pos⟩ :=
  double_finite ⟨0, rounded_zero, by rw [abs_zero]; exact limit_pos⟩

theorem rounded_one : rounded 1 = 1 :=
  Representable.rounded ⟨1, 0, by norm_num, by norm_num, by norm_num⟩

theorem one_small : |(1 : ℚ)| < limit := by
  unfold limit
  norm_num

theorem one_eq : (1 : Float64) = finite ⟨1, rounded_one, one_small⟩ :=
  double_finite ⟨1, rounded_one, one_small⟩

@[simp] theorem zero_le_finite : 0 ≤ finite number ↔ 0 ≤ number.value := by rw [zero_eq, finite_le]

@[simp] theorem zero_lt_finite : 0 < finite number ↔ 0 < number.value := by rw [zero_eq, finite_lt]

theorem zero_lt_infinity : 0 < infinite false := by
  rw [zero_eq]
  exact finite_lt_infinity

theorem not_zero_le_negative : ¬ 0 ≤ infinite true := by
  rw [zero_eq]
  exact fun ordered => not_lt_of_le ordered infinity_lt_finite

theorem not_zero_le_nan : ¬ 0 ≤ nan := fun ordered => (ne_nan_of_le ordered).2 rfl

/-- A number from zero on is finite or the infinity. -/
theorem nonneg_cases (nonneg : 0 ≤ x) :
    (∃ number : Finite, x = finite number ∧ 0 ≤ number.value) ∨ x = infinite false := by
  cases x with
  | finite number => exact .inl ⟨number, rfl, zero_le_finite.mp nonneg⟩
  | infinite negative =>
      cases negative with
      | false => exact .inr rfl
      | true => exact absurd nonneg not_zero_le_negative
  | nan => exact absurd nonneg not_zero_le_nan

theorem double_nonneg (nonneg : 0 ≤ value) : 0 ≤ double value := by
  rw [zero_eq, finite_le_double]
  exact rounded_nonneg nonneg

theorem eq_zero_of_nonneg (nonneg : 0 ≤ x) (least : ¬ 0 < x) : x = 0 := by
  rcases nonneg_cases nonneg with ⟨number, rfl, low⟩ | rfl
  · rw [zero_lt_finite, not_lt] at least
    rw [← double_finite, le_antisymm least low]
    rfl
  · exact absurd zero_lt_infinity least

theorem add_nonneg (first : 0 ≤ x) (second : 0 ≤ y) : 0 ≤ x + y := by
  rcases nonneg_cases first with ⟨left, rfl, low⟩ | rfl
  · rcases nonneg_cases second with ⟨right, rfl, high⟩ | rfl
    · exact double_nonneg (Rat.add_nonneg low high)
    · exact le_of_lt zero_lt_infinity
  · rcases nonneg_cases second with ⟨right, rfl, high⟩ | rfl
    · exact le_of_lt zero_lt_infinity
    · exact le_of_lt zero_lt_infinity

/-- Sums of numbers from zero on keep the order. -/
theorem add_mono (first : 0 ≤ x) (left : x ≤ z) (second : 0 ≤ y) (right : y ≤ w) :
    x + y ≤ z + w := by
  have present := (ne_nan_of_le (add_nonneg first second)).2
  rcases nonneg_cases (le_trans first left) with ⟨c, rfl, _⟩ | rfl
  · rcases nonneg_cases (le_trans second right) with ⟨d, rfl, _⟩ | rfl
    · rcases nonneg_cases first with ⟨a, rfl, _⟩ | rfl
      · rcases nonneg_cases second with ⟨b, rfl, _⟩ | rfl
        · exact double_mono (add_le_add (finite_le.mp left) (finite_le.mp right))
        · exact absurd finite_lt_infinity (not_lt_of_le right)
      · exact absurd finite_lt_infinity (not_lt_of_le left)
    · exact le_infinity present
  · rcases nonneg_cases (le_trans second right) with ⟨d, rfl, _⟩ | rfl
    · exact le_infinity present
    · exact le_infinity present

theorem add_zero (nonneg : 0 ≤ x) : x + 0 = x := by
  rcases nonneg_cases nonneg with ⟨number, rfl, _⟩ | rfl
  · rw [zero_eq]
    change double (number.value + 0) = _
    rw [Rat.add_zero, double_finite]
  · rw [zero_eq]
    rfl

theorem zero_add (nonneg : 0 ≤ x) : 0 + x = x := by
  rcases nonneg_cases nonneg with ⟨number, rfl, _⟩ | rfl
  · rw [zero_eq]
    change double (0 + number.value) = _
    rw [Rat.zero_add, double_finite]
  · rw [zero_eq]
    rfl

/-- A sum of numbers from zero on reaches each of them. -/
theorem le_add_right (first : 0 ≤ x) (second : 0 ≤ y) : x ≤ x + y := by
  have sum := add_mono first (le_refl (ne_nan_of_le first).2) (le_refl (ne_nan_of_le second).1) second
  rwa [add_zero first] at sum

theorem le_add_left (first : 0 ≤ x) (second : 0 ≤ y) : y ≤ x + y := by
  have sum := add_mono (le_refl (ne_nan_of_le first).1) first second (le_refl (ne_nan_of_le second).2)
  rwa [zero_add second] at sum

/-- A sum of numbers from zero on is zero when both are. -/
theorem add_pos_iff (first : 0 ≤ x) (second : 0 ≤ y) : 0 < x + y ↔ 0 < x ∨ 0 < y := by
  constructor
  · intro positive
    by_contra neither
    rw [not_or] at neither
    rw [eq_zero_of_nonneg first neither.1, eq_zero_of_nonneg second neither.2,
      add_zero (le_refl (ne_nan_of_le first).1)] at positive
    exact not_lt_of_le (le_refl (ne_nan_of_le first).1) positive
  · rintro (left | right)
    · exact lt_of_lt_of_le left (le_add_right first second)
    · exact lt_of_lt_of_le right (le_add_left first second)

@[simp] theorem nan_add (y : Float64) : nan + y = nan := by cases y <;> rfl

@[simp] theorem add_nan (x : Float64) : x + nan = nan := by cases x <;> rfl

end Nonnegative

/-- A charge is a number from zero on. An infinite price without a count has no number. -/
def Charge (x : Float64) : Prop := x = nan ∨ 0 ≤ x

section Charges
variable {x y : Float64}

theorem Charge.nonneg (charge : Charge x) (present : x ≠ nan) : 0 ≤ x := charge.resolve_left present

theorem Charge.add (first : Charge x) (second : Charge y) : Charge (x + y) := by
  rcases first with rfl | left
  · exact .inl (nan_add y)
  · rcases second with rfl | right
    · exact .inl (add_nan x)
    · exact .inr (add_nonneg left right)

/-- A sum of charges has a number when both have. It is positive when one of them is. -/
theorem Charge.add_eq_nan (first : Charge x) (second : Charge y) : x + y = nan ↔ x = nan ∨ y = nan := by
  constructor
  · intro absent
    by_contra both
    rw [not_or] at both
    exact (ne_nan_of_le (add_nonneg (first.nonneg both.1) (second.nonneg both.2))).2 absent
  · rintro (rfl | rfl)
    · exact nan_add y
    · exact add_nan x

end Charges

end Float64

/-- The operations of a number type of the language. -/
class Arithmetic (F : Type) extends Zero F, One F, IntCast F, RatCast F, Neg F, Add F, Sub F, Mul F,
    Div F, LT F

scoped instance : Arithmetic ℚ where

instance : Arithmetic Float64 where

section Comparisons
variable {F : Type} [Arithmetic F] [DecidableLT F]

/-- `max(first, second)` keeps the first argument unless the second one is greater. -/
def greatest (first second : F) : F := if first < second then second else first

/-- `min(first, second)` -/
def least (first second : F) : F := if second < first then second else first

theorem greatest_rat (first second : ℚ) : greatest first second = max first second := by
  unfold greatest
  split_ifs with less
  · exact (max_eq_right less.le).symm
  · exact (max_eq_left (not_lt.mp less)).symm

theorem least_rat (first second : ℚ) : least first second = min first second := by
  unfold least
  split_ifs with less
  · exact (min_eq_right less.le).symm
  · exact (min_eq_left (not_lt.mp less)).symm

end Comparisons

namespace Float64

section Products
variable {x y : Float64} {number : Finite} {bound : Float64}

@[simp] theorem nan_mul (y : Float64) : nan * y = nan := by cases y <;> rfl

@[simp] theorem mul_nan (x : Float64) : x * nan = nan := by cases x <;> rfl

/-- The greater of zero and a number is a number from zero on. -/
theorem greatest_zero (x : Float64) :
    0 < x ∧ greatest 0 x = x ∨ ¬ 0 < x ∧ greatest 0 x = 0 := by
  unfold greatest
  split_ifs with positive
  · exact .inl ⟨positive, rfl⟩
  · exact .inr ⟨positive, rfl⟩

theorem zero_le_zero : (0 : Float64) ≤ 0 := le_refl (by rw [zero_eq]; exact nofun)

theorem greatest_nonneg (x : Float64) : 0 ≤ greatest 0 x := by
  rcases greatest_zero x with ⟨positive, same⟩ | ⟨_, same⟩
  · rw [same]
    exact le_of_lt positive
  · rw [same]
    exact zero_le_zero

theorem greatest_pos_iff : 0 < greatest 0 x ↔ 0 < x := by
  rcases greatest_zero x with ⟨positive, same⟩ | ⟨least, same⟩
  · rw [same]
  · rw [same]
    exact iff_of_false (not_lt_of_le zero_le_zero) least

/-- A number below the greater of zero and another one is below the other one. -/
theorem lt_greatest_iff (nonneg : 0 ≤ bound) : bound < greatest 0 x ↔ bound < x := by
  rcases greatest_zero x with ⟨_, same⟩ | ⟨least, same⟩
  · rw [same]
  · rw [same]
    exact iff_of_false (not_lt_of_le nonneg) fun less => least (lt_of_le_of_lt nonneg less)

theorem greatest_lt_iff (positive : 0 < bound) : greatest 0 x < bound ↔ ¬ bound ≤ x := by
  have present := (ne_nan_of_le (le_of_lt positive)).2
  rcases greatest_zero x with ⟨reached, same⟩ | ⟨least, same⟩
  · rw [same]
    refine ⟨fun less ordered => not_lt_of_le ordered less, fun apart => ?_⟩
    by_contra other
    exact apart (le_of_not_lt present (ne_nan_of_le (le_of_lt reached)).2 other)
  · rw [same]
    exact iff_of_true positive fun ordered => least (lt_of_lt_of_le positive ordered)

theorem finite_mul_infinity {factor : Finite} (one : 1 ≤ factor.value) :
    finite factor * infinite false = infinite false := by
  change scaled false factor.value = _
  unfold scaled
  rw [if_neg (by linarith), decide_eq_false (by linarith)]
  rfl

/-- A factor of at least one keeps a positive number. -/
theorem le_mul_of_one_le {factor : Finite} (one : 1 ≤ factor.value) (positive : 0 < x) :
    x ≤ finite factor * x := by
  rcases nonneg_cases (le_of_lt positive) with ⟨number, rfl, _⟩ | rfl
  · rw [zero_lt_finite] at positive
    nth_rewrite 1 [← double_finite number]
    exact double_mono (le_mul_of_one_le_left positive.le one)
  · rw [finite_mul_infinity one]
    exact le_refl nofun

theorem finite_mul_zero (factor : Finite) : finite factor * 0 = 0 := by
  rw [zero_eq]
  change double (factor.value * 0) = _
  rw [mul_zero]
  exact zero_eq

theorem zero_mul_finite (factor : Finite) : 0 * finite factor = 0 := by
  rw [zero_eq]
  change double (0 * factor.value) = _
  rw [zero_mul]
  exact zero_eq

theorem zero_mul_infinity (negative : Bool) : 0 * infinite negative = nan := by
  rw [zero_eq]
  change scaled negative 0 = _
  unfold scaled
  exact if_pos rfl

end Products

/-- These counts have a number of the format. The conversion of other integers overflows. -/
def Counted (count : Int) : Prop := -floatLimit < count ∧ count < floatLimit

instance (count : Int) : Decidable (Counted count) := inferInstanceAs (Decidable (_ ∧ _))

section Counts
variable {count : Int} {price : Float64}

/-- The gap at the largest number of the format -/
def widest : ℚ := 2 ^ (971 : Int)

theorem widest_pos : 0 < widest := zpow_pos (by norm_num) _

theorem limit_eq : limit = 2 ^ 53 * widest := by
  unfold limit widest
  rw [← pow_mul, ← zpow_natCast, ← zpow_natCast, ← zpow_add₀ (by norm_num)]
  rfl

theorem floatLimit_eq : (floatLimit : ℚ) = limit - widest / 2 := by
  have twice : ((2 : ℚ) ^ 194) ^ 5 * 2 = widest := by
    unfold widest
    rw [← pow_mul, ← pow_succ, ← zpow_natCast]
    rfl
  rw [floatLimit, limit, Int.cast_sub, Int.cast_pow, Int.cast_pow, Int.cast_pow, Int.cast_pow,
    Int.cast_ofNat, ← twice, mul_div_cancel_right₀ _ two_ne_zero]

theorem gap_largest : gap ((2 ^ 53 - 1) * widest) = widest := by
  have power := widest_pos
  have start : (2 : ℚ) ^ (1023 : Int) = 2 ^ 52 * widest := by
    unfold widest
    rw [← zpow_natCast, ← zpow_add₀ (by norm_num)]
    rfl
  have nonneg : 0 ≤ (2 ^ 53 - 1) * widest := mul_nonneg (by norm_num) power.le
  have placed : place ((2 ^ 53 - 1) * widest) = 1023 := by
    apply place_eq _ _ (by norm_num)
    · rw [abs_of_nonneg nonneg, start]
      exact mul_le_mul_of_nonneg_right (by norm_num) power.le
    · rw [abs_of_nonneg nonneg, zpow_add_one₀ (by norm_num), start, mul_right_comm]
      exact mul_lt_mul_of_pos_right (by norm_num) power
  rw [gap, placed]
  rfl

/-- A count below the limit of the conversion rounds to a finite number. -/
theorem rounded_counted (high : count < floatLimit) : rounded count < limit := by
  have power := widest_pos
  have number : Representable ((2 ^ 53 - 1) * widest) :=
    ⟨2 ^ 53 - 1, 971, by norm_num, by norm_num, by rw [Int.cast_sub, Int.cast_pow, Int.cast_ofNat, Int.cast_one, widest]⟩
  have stays : StaysAt ((2 ^ 53 - 1) * widest) count := by
    refine .inl ?_
    have bounded : (count : ℚ) < floatLimit := by exact_mod_cast high
    rw [floatLimit_eq, limit_eq] at bounded
    rw [gap_largest]
    linarith
  have short := (rounded_le_iff number (mul_nonneg (by norm_num) power.le)).mpr stays
  rw [limit_eq]
  linarith

theorem finite_counted (counted : Counted count) :
    ∃ number : Finite, (count : Float64) = finite number ∧ number.value = rounded count := by
  have high := rounded_counted counted.2
  have low := @rounded_counted (-count) (by have := counted.1; omega)
  rw [Int.cast_neg, rounded_neg] at low
  rcases double_cases count with known | ⟨large, _⟩ | ⟨small, _⟩
  · exact known
  · exact absurd high (not_lt.mpr large)
  · exact absurd low (by linarith)

/-- Positive counts have numbers from one on. -/
theorem finite_count (counted : Counted count) (positive : 0 < count) :
    ∃ number : Finite, (count : Float64) = finite number ∧ 1 ≤ number.value := by
  obtain ⟨number, same, known⟩ := finite_counted counted
  refine ⟨number, same, ?_⟩
  rw [known, ← rounded_one]
  exact rounded_mono (by exact_mod_cast positive)

theorem zero_count : ((0 : Int) : Float64) = 0 := by
  change double ((0 : Int) : ℚ) = double 0
  rw [Int.cast_zero]

/-- A count at a price charges a number from zero on. Only an infinite price without a count has no
number. -/
theorem charge_count (counted : Counted count) (some : 0 ≤ count) (price : Float64) :
    Charge (count * greatest 0 price) ∧
      (count * greatest 0 price = nan ↔ count = 0 ∧ price = infinite false) ∧
      (0 < count * greatest 0 price ↔ 0 < count ∧ 0 < price) := by
  rcases eq_or_lt_of_le some with rfl | positive
  · rw [zero_count]
    rcases nonneg_cases (greatest_nonneg price) with ⟨number, same, _⟩ | same
    · have plain : price ≠ infinite false := by
        rintro rfl
        unfold greatest at same
        rw [if_pos zero_lt_infinity] at same
        cases same
      rw [same, zero_mul_finite]
      exact ⟨.inr zero_le_zero, iff_of_false (ne_nan_of_le zero_le_zero).1 fun both => plain both.2,
        iff_of_false (not_lt_of_le zero_le_zero) fun both => lt_irrefl _ both.1⟩
    · have endless : price = infinite false := by
        rcases greatest_zero price with ⟨_, kept⟩ | ⟨_, zero⟩
        · rw [← kept, same]
        · have clash := zero.symm.trans same
          rw [zero_eq] at clash
          cases clash
      rw [same, zero_mul_infinity]
      exact ⟨.inl rfl, iff_of_true rfl ⟨rfl, endless⟩,
        iff_of_false (fun less => (ne_nan_of_le (le_of_lt less)).2 rfl) fun both => lt_irrefl _ both.1⟩
  · obtain ⟨number, same, one⟩ := finite_count counted positive
    rw [same]
    rcases greatest_zero price with ⟨priced, kept⟩ | ⟨free, zero⟩
    · have reached := le_mul_of_one_le one priced
      have charged := lt_of_lt_of_le priced reached
      rw [kept]
      exact ⟨.inr (le_of_lt charged),
        iff_of_false (ne_nan_of_le reached).2 fun both => positive.ne' both.1,
        iff_of_true charged ⟨positive, priced⟩⟩
    · rw [zero, finite_mul_zero]
      refine ⟨.inr zero_le_zero, iff_of_false (ne_nan_of_le zero_le_zero).1 fun both => ?_,
        iff_of_false (not_lt_of_le zero_le_zero) fun both => free both.2⟩
      exact free (both.2 ▸ zero_lt_infinity)

end Counts

/-- A difference from a sum that keeps a bound. The credit may reach below the sum by half of the gap
below the bound. -/
def CoveredBy (bound : Float64) : Float64 → Float64 → Prop
  | finite sum, finite credit =>
      ∃ least, bound = finite least ∧ Reaches least.value (sum.value - credit.value)
  | infinite false, finite _ | infinite false, infinite true | finite _, infinite true => True
  | _, _ => False

theorem neg_finite (number : Finite) :
    ∃ negated : Finite, -finite number = finite negated ∧ negated.value = -number.value := by
  refine ⟨⟨-number.value, by rw [rounded_neg, number.exact], by rw [abs_neg]; exact number.bounded⟩,
    ?_, rfl⟩
  exact double_finite ⟨-number.value, _, _⟩

theorem representable_finite (number : Finite) : Representable number.value := by
  rw [← number.exact]
  exact representable_rounded number.value

/-- A positive bound of a sum stays a bound of the difference exactly when the credit leaves it. -/
theorem le_sub_iff {bound sum credit : Float64} (positive : 0 < bound)
    (below : sum ≠ nan → bound ≤ sum) : bound ≤ sum - credit ↔ CoveredBy bound sum credit := by
  have present := (ne_nan_of_le (le_of_lt positive)).2
  have absent : ¬ bound ≤ nan := fun ordered => (ne_nan_of_le ordered).2 rfl
  have lowest : ¬ bound ≤ infinite true := fun ordered =>
    not_zero_le_negative (le_trans (le_of_lt positive) ordered)
  change bound ≤ sum + -credit ↔ _
  cases sum with
  | nan =>
      rw [nan_add]
      exact iff_of_false absent id
  | infinite negative =>
      cases negative with
      | true => exact absurd (below nofun) lowest
      | false =>
          cases credit with
          | finite number =>
              obtain ⟨negated, same, _⟩ := neg_finite number
              rw [same]
              exact iff_of_true (le_infinity present) trivial
          | infinite negative =>
              cases negative with
              | true => exact iff_of_true (le_infinity present) trivial
              | false => exact iff_of_false absent id
          | nan => exact iff_of_false absent id
  | finite number =>
      cases credit with
      | finite other =>
          obtain ⟨negated, same, known⟩ := neg_finite other
          rcases nonneg_cases (le_of_lt positive) with ⟨least, rfl, _⟩ | rfl
          · rw [same]
            change finite least ≤ double (number.value + negated.value) ↔ _
            rw [finite_le_double, le_rounded_iff (representable_finite least) (zero_lt_finite.mp positive),
              known, ← sub_eq_add_neg]
            refine ⟨fun reached => ⟨least, rfl, reached⟩, ?_⟩
            rintro ⟨other, same, reached⟩
            cases same
            exact reached
          · exact absurd finite_lt_infinity (not_lt_of_le (below nofun))
      | infinite negative =>
          cases negative with
          | true => exact iff_of_true (le_infinity present) trivial
          | false => exact iff_of_false lowest id
      | nan => exact iff_of_false absent id

/-- A product that stays at a bound, up to half of the gap above it. An infinite factor makes an
infinite product. -/
def StaysBelow (bound : Float64) : Float64 → Float64 → Prop
  | finite first, finite second =>
      ∀ most, bound = finite most → StaysAt most.value (first.value * second.value)
  | first, second => first * second = infinite false → bound = infinite false

theorem finite_lt_double {number : Finite} {value : ℚ} :
    finite number < double value ↔ number.value < rounded value := by
  rw [← not_le, ← double_le_finite]
  refine ⟨fun less ordered => not_lt_of_le ordered less, fun apart => ?_⟩
  by_contra other
  exact apart (le_of_not_lt (double_ne_nan value) nofun other)

theorem infinity_not_lt (x : Float64) : ¬ infinite false < x := by
  intro less
  obtain ⟨first, known, second, _, order⟩ := less
  cases known
  exact not_top_lt order

theorem lt_infinity_iff {x : Float64} (nonneg : 0 ≤ x) : x < infinite false ↔ x ≠ infinite false := by
  rcases nonneg_cases nonneg with ⟨number, rfl, _⟩ | rfl
  · exact iff_of_true finite_lt_infinity nofun
  · exact iff_of_false (infinity_not_lt _) fun differs => differs rfl

theorem scaled_not_finite {negative : Bool} {factor : ℚ} {number : Finite} :
    scaled negative factor ≠ finite number := by
  unfold scaled
  split_ifs <;> exact nofun

/-- A product that is not finite exceeds a finite bound when it is the infinity. -/
theorem not_lt_iff_of_not_finite {bound product : Float64} (nonneg : 0 ≤ bound)
    (large : ∀ number, product ≠ finite number) :
    ¬ bound < product ↔ (product = infinite false → bound = infinite false) := by
  cases product with
  | finite number => exact absurd rfl (large number)
  | infinite negative =>
      cases negative with
      | false =>
          rw [lt_infinity_iff nonneg, not_not]
          exact ⟨fun same _ => same, fun kept => kept rfl⟩
      | true =>
          refine iff_of_true (fun less => ?_) nofun
          exact not_zero_le_negative (le_of_lt (lt_of_le_of_lt nonneg less))
  | nan => exact iff_of_true (fun less => (ne_nan_of_le (le_of_lt less)).2 rfl) nofun

/-- A product exceeds a bound exactly when it does not stay below it. -/
theorem not_lt_mul_iff {bound first second : Float64} (nonneg : 0 ≤ bound) :
    ¬ bound < first * second ↔ StaysBelow bound first second := by
  cases first with
  | finite number =>
      cases second with
      | finite other =>
          change ¬ bound < double (number.value * other.value) ↔
            ∀ most, bound = finite most → StaysAt most.value (number.value * other.value)
          rcases nonneg_cases nonneg with ⟨most, rfl, low⟩ | rfl
          · rw [finite_lt_double, not_lt, rounded_le_iff (representable_finite most) low]
            refine ⟨fun kept other same => ?_, fun kept => kept most rfl⟩
            cases same
            exact kept
          · exact iff_of_true (infinity_not_lt _) nofun
      | infinite negative => exact not_lt_iff_of_not_finite nonneg fun _ => scaled_not_finite
      | nan => exact not_lt_iff_of_not_finite nonneg nofun
  | infinite negative =>
      cases second with
      | finite other => exact not_lt_iff_of_not_finite nonneg fun _ => scaled_not_finite
      | infinite other => exact not_lt_iff_of_not_finite nonneg nofun
      | nan => exact not_lt_iff_of_not_finite nonneg nofun
  | nan => exact not_lt_iff_of_not_finite nonneg fun _ => by rw [nan_mul]; exact nofun

/-- A product of numbers from zero on is a charge. -/
theorem mul_charge {x y : Float64} (first : 0 ≤ x) (second : 0 ≤ y) : Charge (x * y) := by
  have large (number : Finite) (nonneg : 0 ≤ number.value) : Charge (scaled false number.value) := by
    unfold scaled
    split_ifs
    · exact .inl rfl
    · rw [decide_eq_false (not_lt.mpr nonneg)]
      exact .inr (le_of_lt zero_lt_infinity)
  rcases nonneg_cases first with ⟨left, rfl, low⟩ | rfl
  · rcases nonneg_cases second with ⟨right, rfl, high⟩ | rfl
    · exact .inr (double_nonneg (mul_nonneg low high))
    · exact large left low
  · rcases nonneg_cases second with ⟨right, rfl, high⟩ | rfl
    · exact large right high
    · exact .inr (le_of_lt zero_lt_infinity)

/-- A sum of charges from a number on has a number when all of them have. It is positive when one of
them is. -/
theorem foldl_charges {first : Float64} (nonneg : 0 ≤ first) {charges : List Float64}
    (each : ∀ charge ∈ charges, Charge charge) :
    Charge (charges.foldl (· + ·) first) ∧
      (charges.foldl (· + ·) first = nan ↔ nan ∈ charges) ∧
      (nan ∉ charges → (0 < charges.foldl (· + ·) first ↔ 0 < first ∨ ∃ charge ∈ charges, 0 < charge)) := by
  induction charges using List.reverseRecOn with
  | nil => simp [Charge, nonneg, (ne_nan_of_le nonneg).2]
  | append_singleton charges last ih =>
      obtain ⟨charge, absent, positive⟩ := ih fun item member => each item (by simp [member])
      have added : Charge last := each last (by simp)
      rw [List.foldl_append, List.foldl_cons, List.foldl_nil]
      refine ⟨charge.add added, ?_, fun present => ?_⟩
      · rw [charge.add_eq_nan added, absent]
        simp [eq_comm]
      · rw [List.mem_append, List.mem_singleton, not_or] at present
        have number := charge.nonneg (mt absent.mp present.1)
        rw [add_pos_iff number (added.nonneg (Ne.symm present.2)), positive present.1]
        simp [or_assoc, or_and_right, exists_or]

theorem infinite_mul_nonneg {number : Finite} (negative : Bool) (nonneg : 0 ≤ number.value)
    (present : infinite negative * finite number ≠ nan) :
    infinite negative * finite number = infinite negative := by
  change scaled negative number.value ≠ nan at present
  change scaled negative number.value = _
  unfold scaled at present ⊢
  split_ifs at present ⊢
  · exact absurd rfl present
  · rw [decide_eq_false (not_lt.mpr nonneg), Bool.bne_false]

/-- A share of at most one of a number from zero on is at most the number. -/
theorem mul_le_of_le_one {share x : Float64} (small : share ≤ 1) (nonneg : 0 ≤ x)
    (present : share * x ≠ nan) : share * x ≤ x := by
  rcases nonneg_cases nonneg with ⟨number, rfl, low⟩ | rfl
  · cases share with
    | finite factor =>
        rw [one_eq, finite_le] at small
        have kept := double_mono (mul_le_of_le_one_left low small)
        rwa [double_finite number] at kept
    | infinite negative =>
        cases negative with
        | true =>
            rw [infinite_mul_nonneg true low present]
            exact infinity_le nofun
        | false =>
            rw [one_eq] at small
            exact absurd finite_lt_infinity (not_lt_of_le small)
    | nan => exact absurd (nan_mul _) present
  · exact le_infinity present

/-- Zero or no number -/
def Void (x : Float64) : Prop := x = 0 ∨ x = nan

theorem Void.mul_right {x : Float64} (void : Void x) (y : Float64) : Void (x * y) := by
  rcases void with rfl | rfl
  · cases y with
    | finite number => exact .inl (zero_mul_finite number)
    | infinite negative => exact .inr (zero_mul_infinity negative)
    | nan => exact .inr (mul_nan 0)
  · exact .inr (nan_mul y)

theorem Void.mul_left {y : Float64} (void : Void y) (x : Float64) : Void (x * y) := by
  rcases void with rfl | rfl
  · cases x with
    | finite number => exact .inl (finite_mul_zero number)
    | infinite negative =>
        right
        rw [zero_eq]
        change scaled negative 0 = _
        exact if_pos rfl
    | nan => exact .inr (nan_mul 0)
  · exact .inr (mul_nan x)

theorem Void.add {x y : Float64} (first : Void x) (second : Void y) : Void (x + y) := by
  rcases first with rfl | rfl
  · rcases second with rfl | rfl
    · exact .inl (add_zero zero_le_zero)
    · exact .inr (add_nan 0)
  · exact .inr (nan_add y)

theorem Void.not_pos {x : Float64} (void : Void x) : ¬ 0 < x := by
  rcases void with rfl | rfl
  · exact not_lt_of_le zero_le_zero
  · exact fun less => (ne_nan_of_le (le_of_lt less)).2 rfl

/-- Nothing exceeds zero or no number but the positive numbers. -/
theorem Void.not_lt {x y : Float64} (void : Void x) (least : ¬ 0 < y) : ¬ x < y := by
  rcases void with rfl | rfl
  · exact least
  · exact fun less => (ne_nan_of_le (le_of_lt less)).1 rfl

/-- A number that is on neither side of zero is zero or no number. -/
theorem void_of_not_lt {x : Float64} (low : ¬ x < 0) (high : ¬ 0 < x) : Void x := by
  by_cases absent : x = nan
  · exact .inr absent
  · exact .inl (eq_zero_of_nonneg (le_of_not_lt (ne_nan_of_le zero_le_zero).1 absent low) high)

/-- A positive count is a number from one on, or it is beyond the finite numbers. -/
theorem positive_count {count : Int} (positive : 0 < count) :
    (∃ number : Finite, (count : Float64) = finite number ∧ 1 ≤ number.value) ∨
      (count : Float64) = infinite false := by
  have reached : 1 ≤ rounded count := by
    rw [← rounded_one]
    exact rounded_mono (by exact_mod_cast positive)
  rcases double_cases count with ⟨number, same, known⟩ | ⟨_, same⟩ | ⟨small, _⟩
  · exact .inl ⟨number, same, known ▸ reached⟩
  · exact .inr same
  · linarith [limit_pos]

/-- A positive count keeps the sign of a factor. -/
theorem count_mul_pos {count : Int} {x : Float64} (positive : 0 < count) (priced : 0 < x) :
    0 < (count : Float64) * x := by
  rcases positive_count positive with ⟨number, same, one⟩ | same
  · rw [same]
    exact lt_of_lt_of_le priced (le_mul_of_one_le one priced)
  · have present := (ne_nan_of_le (le_of_lt priced)).2
    rw [same]
    rcases nonneg_cases (le_of_lt priced) with ⟨other, rfl, low⟩ | rfl
    · rw [zero_lt_finite] at priced
      have kept : infinite false * finite other ≠ nan := by
        change scaled false other.value ≠ nan
        unfold scaled
        rw [if_neg priced.ne']
        exact nofun
      rw [infinite_mul_nonneg false low kept]
      exact zero_lt_infinity
    · exact zero_lt_infinity

theorem count_mul_neg {count : Int} {x : Float64} (positive : 0 < count) (negative : x < 0) :
    (count : Float64) * x < 0 := by
  have lowest : infinite true < 0 := by
    rw [zero_eq]
    exact infinity_lt_finite
  have turned (other : Finite) (low : other.value < 0) :
      scaled false other.value = infinite true := by
    unfold scaled
    rw [if_neg low.ne, decide_eq_true low]
    rfl
  cases x with
  | finite other =>
      have low : other.value < 0 := by
        rwa [zero_eq, finite_lt] at negative
      rcases positive_count positive with ⟨number, same, one⟩ | same
      · rw [same]
        have lower := double_mono (mul_le_of_one_le_left low.le one)
        rw [double_finite] at lower
        exact lt_of_le_of_lt lower negative
      · rw [same]
        change scaled false other.value < 0
        rw [turned other low]
        exact lowest
  | infinite sign =>
      cases sign with
      | true =>
          rcases positive_count positive with ⟨number, same, one⟩ | same
          · rw [same]
            change scaled true number.value < 0
            unfold scaled
            rw [if_neg (by linarith), decide_eq_false (by linarith)]
            exact lowest
          · rw [same]
            exact lowest
      | false => exact absurd zero_lt_infinity (not_lt_of_le (le_of_lt negative))
  | nan => exact absurd rfl (ne_nan_of_le (le_of_lt negative)).1

/-- A number or an infinity. They are in one order. -/
structure Number where
  value : Float64
  present : value ≠ nan
  deriving DecidableEq

namespace Number

/-- The place of a number among all numbers and infinities -/
def place (x : Number) : WithBot (WithTop ℚ) := x.value.extended.getD ⊥

theorem extended_place (x : Number) : x.value.extended = some x.place := by
  obtain ⟨place, known⟩ := extended_some x.present
  unfold Number.place
  rw [Option.mem_def.mp known, Option.getD_some]

theorem extended_injective {x y : Float64} (present : x ≠ nan) (same : x.extended = y.extended) :
    x = y := by
  cases x with
  | finite number =>
      cases y with
      | finite other =>
          have values : number.value = other.value := by simpa [extended] using same
          rw [← double_finite number, values, double_finite]
      | infinite negative => cases negative <;> simp [extended] at same
      | nan => cases same
  | infinite sign =>
      cases y with
      | finite other => cases sign <;> simp [extended] at same
      | infinite negative => cases sign <;> cases negative <;> first | rfl | simp [extended] at same
      | nan => cases sign <;> cases same
  | nan => exact absurd rfl present

theorem place_injective : Function.Injective place := by
  intro x y same
  have known := congrArg some same
  rw [← extended_place, ← extended_place] at known
  have values := extended_injective x.present known
  cases x
  cases y
  simp only at values
  subst values
  rfl

instance : LinearOrder Number := LinearOrder.lift' place place_injective

theorem le_iff {x y : Number} : x ≤ y ↔ x.value ≤ y.value := by
  change x.place ≤ y.place ↔ ∃ first ∈ x.value.extended, ∃ second ∈ y.value.extended, first ≤ second
  simp [extended_place]

end Number

/-- `sum` adds the numbers from the left. The version of the language decides its rounding. -/
def plainSum (numbers : List Float64) : Float64 := numbers.foldl (· + ·) 0

/-- A quotient lies between two numbers when the dividend lies between their multiples. -/
theorem div_between {dividend divisor least most : Finite} (positive : 0 < divisor.value)
    (low : divisor.value * least.value ≤ dividend.value)
    (high : dividend.value ≤ divisor.value * most.value) :
    finite least ≤ finite dividend / finite divisor ∧
      finite dividend / finite divisor ≤ finite most := by
  have quotient : finite dividend / finite divisor = double (dividend.value / divisor.value) :=
    if_neg positive.ne'
  rw [quotient, ← double_finite least, ← double_finite most]
  constructor
  · apply double_mono
    rw [le_div_iff₀ positive]
    linarith
  · apply double_mono
    rw [div_le_iff₀ positive]
    linarith

end Float64

end StateFlow.Binary64
