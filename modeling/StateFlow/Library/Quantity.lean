import StateFlow.Library.Decimal
import StateFlow.Library.Double

namespace StateFlow.Decimal
open Double

/-- A quantity scales its number by a letter, by two letters, or by an exponent. -/
inductive Suffix where
  | absent
  | milli
  | kilo
  | mega
  | giga
  | tera
  | peta
  | exa
  | kibi
  | mebi
  | gibi
  | tebi
  | pebi
  | exbi
  | power (exponent : Exponent)

namespace Suffix

def letters : Suffix → List Char
  | absent => []
  | milli => ['m']
  | kilo => ['k']
  | mega => ['M']
  | giga => ['G']
  | tera => ['T']
  | peta => ['P']
  | exa => ['E']
  | kibi => ['K', 'i']
  | mebi => ['M', 'i']
  | gibi => ['G', 'i']
  | tebi => ['T', 'i']
  | pebi => ['P', 'i']
  | exbi => ['E', 'i']
  | power exponent => exponent.letters

def scale : Suffix → ℚ
  | absent => 1
  | milli => 1 / 1000
  | kilo => 1000
  | mega => 1000 ^ 2
  | giga => 1000 ^ 3
  | tera => 1000 ^ 4
  | peta => 1000 ^ 5
  | exa => 1000 ^ 6
  | kibi => 1024
  | mebi => 1024 ^ 2
  | gibi => 1024 ^ 3
  | tebi => 1024 ^ 4
  | pebi => 1024 ^ 5
  | exbi => 1024 ^ 6
  | power exponent => 10 ^ exponent.value

/-- A suffix of one letter scales by a power of ten. -/
def decimal : Suffix → Bool
  | milli | kilo | mega | giga | tera | peta | exa => true
  | _ => false

def exponent? : Suffix → Option Exponent
  | power exponent => some exponent
  | _ => none

/-- The letters that do not belong to the literal of a quantity. -/
def tail : Suffix → List Char
  | power _ => []
  | suffix => suffix.letters

/-- These letters scale the literal of a quantity. -/
def factor : Suffix → ℚ
  | power _ => 1
  | suffix => suffix.scale

theorem factor_bounds (suffix : Suffix) : 1 / 1000 ≤ suffix.factor ∧ suffix.factor ≤ 2 ^ 60 := by
  cases suffix <;> norm_num [factor, scale]

theorem factor_pos (suffix : Suffix) : 0 < suffix.factor :=
  lt_of_lt_of_le (by norm_num) suffix.factor_bounds.1

theorem scale_pos {suffix : Suffix} (decimal : suffix.decimal = true) : 0 < suffix.scale := by
  cases suffix <;> cases decimal <;> norm_num [scale]

/-- A suffix without a tail does not scale its literal. -/
theorem factor_plain {suffix : Suffix} (plain : suffix.tail = []) : suffix.factor = 1 := by
  cases suffix with
  | absent | power => rfl
  | _ => cases plain

/-- A factor of two letters is a power of two. -/
theorem factor_binary {suffix : Suffix} (binary : suffix.decimal = false) :
    ∃ place : Int, suffix.factor = 2 ^ place := by
  cases suffix with
  | absent | power => exact ⟨0, rfl⟩
  | kibi => exact ⟨10, by norm_num [factor, scale]⟩
  | mebi => exact ⟨20, by norm_num [factor, scale]⟩
  | gibi => exact ⟨30, by norm_num [factor, scale]⟩
  | tebi => exact ⟨40, by norm_num [factor, scale]⟩
  | pebi => exact ⟨50, by norm_num [factor, scale]⟩
  | exbi => exact ⟨60, by norm_num [factor, scale]⟩
  | _ => cases binary

end Suffix

/-- A quantity stays within 63 bits and has at most three decimal places. -/
structure Quantity where
  number : Numeral
  suffix : Suffix
  bounded : |number.value * suffix.scale| ≤ 2 ^ 63 - 1
  precise : ∃ thousandths : Int, number.value * suffix.scale * 1000 = thousandths

namespace Quantity
variable (quantity : Quantity)

def letters : List Char := quantity.number.letters ++ quantity.suffix.letters

def text : String := String.ofList quantity.letters

def value : ℚ := quantity.number.value * quantity.suffix.scale

/-- A quantity other than zero has at least one thousandth. -/
theorem least_value (nonzero : quantity.value ≠ 0) : 1 ≤ |quantity.value| * 1000 := by
  obtain ⟨thousandths, precise⟩ := quantity.precise
  have whole : quantity.value * 1000 = thousandths := precise
  have some : thousandths ≠ 0 := by
    intro zero
    rw [zero, Int.cast_zero] at whole
    exact nonzero (by linarith)
  have counted : (1 : ℚ) ≤ |(thousandths : ℚ)| := by
    exact_mod_cast Int.one_le_abs some
  rwa [← whole, abs_mul, abs_of_pos (by norm_num : (0 : ℚ) < 1000)] at counted

/-- The literal at the front of a quantity. -/
def literal : Literal := ⟨quantity.number, quantity.suffix.exponent?⟩

theorem letters_eq : quantity.letters = quantity.literal.letters ++ quantity.suffix.tail := by
  unfold letters literal Literal.letters
  cases quantity.suffix <;> simp [Suffix.letters, Suffix.tail, Suffix.exponent?, exponentLetters]

theorem value_eq : quantity.value = quantity.literal.value * quantity.suffix.factor := by
  unfold value literal Literal.value
  cases quantity.suffix <;>
    simp [Suffix.scale, Suffix.factor, Suffix.exponent?, exponentValue]

/-- The literal of a quantity is as moderate as the quantity. -/
theorem literal_normal : Normal quantity.literal.value := by
  obtain ⟨low, high⟩ := quantity.suffix.factor_bounds
  have positive := quantity.suffix.factor_pos
  have size : |quantity.value| = |quantity.literal.value| * quantity.suffix.factor := by
    rw [value_eq, abs_mul, abs_of_pos positive]
  have nonneg := abs_nonneg quantity.literal.value
  apply normal_of_bounds
  · intro nonzero
    have least := quantity.least_value (by rw [value_eq]; exact mul_ne_zero nonzero positive.ne')
    rw [size] at least
    have scaled := mul_le_mul_of_nonneg_left high nonneg
    linarith
  · have bounded : |quantity.value| ≤ 2 ^ 63 - 1 := quantity.bounded
    rw [size] at bounded
    have scaled := mul_le_mul_of_nonneg_left low nonneg
    linarith

/-- The number that is rounded last. A decimal factor scales the double of its number. -/
def near : ℚ :=
  if quantity.suffix.decimal then nearest quantity.number.value * quantity.suffix.scale
  else quantity.value

/-- A literal that is rounded and scaled comes to the same double. -/
theorem nearest_scaled_literal :
    nearest (nearest quantity.literal.value * quantity.suffix.factor) = nearest quantity.near := by
  unfold near
  split_ifs with decimal
  · have same : quantity.literal.value = quantity.number.value ∧
        quantity.suffix.factor = quantity.suffix.scale := by
      unfold literal Literal.value
      cases suffix : quantity.suffix <;> rw [suffix] at decimal <;> cases decimal <;>
        exact ⟨by simp [Suffix.exponent?, exponentValue], rfl⟩
    rw [same.1, same.2]
  · obtain ⟨place, binary⟩ := Suffix.factor_binary (Bool.not_eq_true _ ▸ decimal)
    rw [value_eq, binary, nearest_mul_zpow, nearest_mul_zpow, nearest_nearest]

theorem nearest_plain_literal (plain : quantity.suffix.tail = []) :
    nearest quantity.literal.value = nearest quantity.near := by
  have scaled := quantity.nearest_scaled_literal
  rwa [Suffix.factor_plain plain, mul_one, nearest_nearest] at scaled

/-- A number that is a double is not rounded before it is scaled. -/
theorem near_eq (exact : quantity.suffix.decimal = true → IsDouble quantity.number.value) :
    quantity.near = quantity.value := by
  unfold near
  split_ifs with decimal
  · rw [nearest_of_isDouble (exact decimal), value]
  · rfl

theorem near_nonneg (nonneg : 0 ≤ quantity.value) : 0 ≤ quantity.near := by
  unfold near
  split_ifs with decimal
  · have positive := Suffix.scale_pos decimal
    exact mul_nonneg (nearest_nonneg (nonneg_of_mul_nonneg_left nonneg positive)) positive.le
  · exact nonneg

theorem near_nonpos (nonpos : quantity.value ≤ 0) : quantity.near ≤ 0 := by
  unfold near
  split_ifs with decimal
  · have positive := Suffix.scale_pos decimal
    have opposite := nearest_nonneg (neg_nonneg.mpr (nonpos_of_mul_nonpos_left nonpos positive))
    rw [nearest_neg] at opposite
    exact mul_nonpos_of_nonpos_of_nonneg (neg_nonneg.mp opposite) positive.le
  · exact nonpos

end Quantity

end StateFlow.Decimal
