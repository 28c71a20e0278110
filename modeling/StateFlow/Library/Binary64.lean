import StateFlow.Library.Double

namespace StateFlow.Binary64
open Python Double

/-- The binary place of a number. Zero and the smallest numbers share the least place. -/
def place (value : ℚ) : Int :=
  if value = 0 then -1022 else max (Int.log 2 |value|) (-1022)

/-- The gap between the numbers of the format at a number. -/
def gap (value : ℚ) : ℚ := 2 ^ (place value - 52)

/-- The nearest number of the format, as if there were no largest one. -/
def rounded (value : ℚ) : ℚ := roundHalfEven (value / gap value) * gap value

/-- A number of the format has a significand of 53 bits, and none below the least gap. -/
def Representable (value : ℚ) : Prop :=
  ∃ significand exponent : Int, |significand| < 2 ^ 53 ∧ -1074 ≤ exponent ∧
    value = significand * 2 ^ exponent

section Rounded
variable {value other : ℚ}

theorem gap_pos (value : ℚ) : 0 < gap value := zpow_pos (by norm_num) _

theorem place_of_ne_zero (nonzero : value ≠ 0) :
    place value = max (Int.log 2 |value|) (-1022) := if_neg nonzero

theorem least_le_place (value : ℚ) : -1022 ≤ place value := by
  unfold place
  split_ifs <;> omega

@[simp] theorem place_neg (value : ℚ) : place (-value) = place value := by
  simp only [place, neg_eq_zero, abs_neg]

@[simp] theorem gap_neg (value : ℚ) : gap (-value) = gap value := by
  rw [gap, gap, place_neg]

/-- A number is below the end of its place. -/
theorem abs_lt_place (value : ℚ) : |value| < 2 ^ (place value + 1) := by
  rcases eq_or_ne value 0 with rfl | nonzero
  · rw [abs_zero]
    exact zpow_pos (by norm_num) _
  · have high := @Int.lt_zpow_succ_log_self ℚ _ _ _ _ 2 (by norm_num) |value|
    push_cast at high
    refine lt_of_lt_of_le high (zpow_le_zpow_right₀ (by norm_num) ?_)
    rw [place_of_ne_zero nonzero]
    omega

/-- A number reaches its place unless the place is the least one. -/
theorem place_le_abs (above : -1022 < place value) : (2 : ℚ) ^ place value ≤ |value| := by
  have nonzero : value ≠ 0 := by
    rintro rfl
    exact absurd above (lt_irrefl _)
  have log : place value = Int.log 2 |value| := by
    rw [place_of_ne_zero nonzero] at above ⊢
    omega
  rw [log]
  exact_mod_cast Int.zpow_log_le_self (by norm_num : 1 < 2) (abs_pos.mpr nonzero)

/-- The place of a number follows from its bounds. -/
theorem place_eq {least : Int} (low : (2 : ℚ) ^ least ≤ |value|) (high : |value| < 2 ^ (least + 1))
    (normal : -1022 ≤ least) : place value = least := by
  have positive : 0 < |value| := lt_of_lt_of_le (zpow_pos (by norm_num) _) low
  have lower : least ≤ Int.log 2 |value| :=
    (Int.zpow_le_iff_le_log (by norm_num) positive).mp (by exact_mod_cast low)
  have upper : Int.log 2 |value| < least + 1 :=
    (Int.lt_zpow_iff_log_lt (by norm_num) positive).mp (by exact_mod_cast high)
  rw [place_of_ne_zero (abs_pos.mp positive)]
  omega

/-- The place of a number that is smaller than another one is at most its place. -/
theorem place_mono (ordered : |value| ≤ |other|) : place value ≤ place other := by
  rcases eq_or_ne value 0 with rfl | nonzero
  · exact least_le_place other
  · have positive := abs_pos.mpr nonzero
    have logs := @Int.log_mono_right ℚ _ _ _ _ 2 _ _ positive ordered
    rw [place_of_ne_zero nonzero, place_of_ne_zero (abs_pos.mp (positive.trans_le ordered))]
    omega

theorem gap_eq_of_place (same : place value = place other) : gap value = gap other := by
  rw [gap, gap, same]

@[simp] theorem rounded_zero : rounded 0 = 0 := by
  have zero := roundHalfEven_intCast 0
  rw [Int.cast_zero] at zero
  rw [rounded, zero_div, zero, Int.cast_zero, zero_mul]

@[simp] theorem rounded_neg (value : ℚ) : rounded (-value) = -rounded value := by
  rw [rounded, gap_neg, neg_div, roundHalfEven_neg, Int.cast_neg, neg_mul, rounded]

theorem end_of_place (value : ℚ) : (2 : ℚ) ^ (place value + 1) = 2 ^ 53 * gap value := by
  rw [gap, ← zpow_natCast, ← zpow_add₀ (by norm_num)]
  congr 1
  push_cast
  ring

theorem start_of_place (value : ℚ) : (2 : ℚ) ^ place value = 2 ^ 52 * gap value := by
  rw [gap, ← zpow_natCast, ← zpow_add₀ (by norm_num)]
  congr 1
  push_cast
  ring

/-- A rounded number stays within the end of its place. -/
theorem rounded_le_end (value : ℚ) : rounded value ≤ 2 ^ (place value + 1) := by
  have spacing := gap_pos value
  have below := (le_abs_self value).trans (abs_lt_place value).le
  rw [end_of_place, ← div_le_iff₀ spacing] at below
  have whole := roundHalfEven_mono below
  rw [roundHalfEven_two_pow] at whole
  rw [end_of_place, rounded]
  exact mul_le_mul_of_nonneg_right (by exact_mod_cast whole) spacing.le

/-- A number that reaches a place rounds to one that does. -/
theorem start_le_rounded (low : (2 : ℚ) ^ place value ≤ value) :
    (2 : ℚ) ^ place value ≤ rounded value := by
  have spacing := gap_pos value
  rw [start_of_place, ← le_div_iff₀ spacing] at low
  have whole := roundHalfEven_mono low
  rw [roundHalfEven_two_pow] at whole
  rw [start_of_place, rounded]
  exact mul_le_mul_of_nonneg_right (by exact_mod_cast whole) spacing.le

theorem rounded_nonneg (nonneg : 0 ≤ value) : 0 ≤ rounded value := by
  have zero := roundHalfEven_intCast 0
  have whole := roundHalfEven_mono (div_nonneg nonneg (gap_pos value).le)
  rw [Int.cast_zero] at zero
  rw [zero] at whole
  exact mul_nonneg (by exact_mod_cast whole) (gap_pos value).le

theorem rounded_mono_of_nonneg (nonneg : 0 ≤ value) (ordered : value ≤ other) :
    rounded value ≤ rounded other := by
  have places : place value ≤ place other :=
    place_mono (by rwa [abs_of_nonneg nonneg, abs_of_nonneg (nonneg.trans ordered)])
  rcases eq_or_lt_of_le places with same | less
  · have spacing := gap_pos other
    have whole := roundHalfEven_mono (div_le_div_of_nonneg_right ordered spacing.le)
    rw [rounded, rounded, gap_eq_of_place same]
    exact mul_le_mul_of_nonneg_right (by exact_mod_cast whole) spacing.le
  · -- The places are apart, so the end of the first one is in between.
    have least := least_le_place value
    have reached := @place_le_abs other (by omega)
    rw [abs_of_nonneg (nonneg.trans ordered)] at reached
    calc rounded value ≤ 2 ^ (place value + 1) := rounded_le_end value
      _ ≤ 2 ^ place other := zpow_le_zpow_right₀ (by norm_num) (by omega)
      _ ≤ rounded other := start_le_rounded reached

theorem rounded_mono (ordered : value ≤ other) : rounded value ≤ rounded other := by
  rcases le_total 0 value with nonneg | negative
  · exact rounded_mono_of_nonneg nonneg ordered
  · rcases le_total 0 other with reached | below
    · have first := rounded_nonneg (neg_nonneg.mpr negative)
      rw [rounded_neg] at first
      exact (neg_nonneg.mp first).trans (rounded_nonneg reached)
    · have turned := rounded_mono_of_nonneg (neg_nonneg.mpr below) (neg_le_neg ordered)
      rw [rounded_neg, rounded_neg] at turned
      exact neg_le_neg_iff.mp turned

/-- A number of the format is a whole number of its gaps. -/
theorem Representable.whole (number : Representable value) :
    ∃ significand : Int, |significand| < 2 ^ 53 ∧ value = significand * gap value := by
  obtain ⟨significand, exponent, short, least, same⟩ := number
  have fits : place value - 52 ≤ exponent := by
    by_contra wide
    have above : -1022 < place value := by omega
    have reached := place_le_abs above
    have power : (0 : ℚ) < 2 ^ exponent := zpow_pos (by norm_num) _
    have small : |value| < 2 ^ (53 + exponent) := by
      rw [same, abs_mul, abs_of_pos power, zpow_add₀ (by norm_num)]
      exact mul_lt_mul_of_pos_right (by exact_mod_cast short) power
    have less := (zpow_lt_zpow_iff_right₀ (by norm_num : (1 : ℚ) < 2)).mp (reached.trans_lt small)
    omega
  have split : (2 : ℚ) ^ exponent = 2 ^ (exponent - (place value - 52)).toNat * gap value := by
    rw [gap, ← zpow_natCast, ← zpow_add₀ (by norm_num), Int.toNat_of_nonneg (by omega)]
    congr 1
    ring
  have scaled : value = (significand * 2 ^ (exponent - (place value - 52)).toNat : Int) * gap value := by
    push_cast
    rw [mul_assoc, ← split]
    exact same
  refine ⟨_, ?_, scaled⟩
  have bounded := abs_lt_place value
  have spacing := gap_pos value
  rw [end_of_place] at bounded
  nth_rewrite 1 [scaled] at bounded
  rw [abs_mul, abs_of_pos spacing, mul_lt_mul_iff_left₀ spacing] at bounded
  exact_mod_cast bounded

/-- A number of the format rounds to itself. -/
theorem Representable.rounded (number : Representable value) : rounded value = value := by
  obtain ⟨significand, _, same⟩ := number.whole
  have spacing := gap_pos value
  have whole : value / gap value = significand := by
    rw [div_eq_iff spacing.ne']
    exact same
  rw [Binary64.rounded, whole, roundHalfEven_intCast]
  exact same.symm

/-- A rounded number is a number of the format. -/
theorem representable_rounded (value : ℚ) : Representable (rounded value) := by
  have spacing := gap_pos value
  have least := least_le_place value
  have inside : |value / gap value| < 2 ^ 53 := by
    rw [abs_div, abs_of_pos spacing, div_lt_iff₀ spacing, ← end_of_place]
    exact abs_lt_place value
  have high := roundHalfEven_mono (abs_lt.mp inside).2.le
  have low := roundHalfEven_mono (abs_lt.mp inside).1.le
  rw [roundHalfEven_two_pow] at high
  rw [roundHalfEven_neg, roundHalfEven_two_pow] at low
  -- A significand that was rounded up to 54 bits is a power of two.
  rcases eq_or_lt_of_le high with top | below
  · refine ⟨1, place value + 1, by norm_num, by omega, ?_⟩
    rw [rounded, top, end_of_place]
    push_cast
    ring
  · rcases eq_or_lt_of_le low with bottom | above
    · refine ⟨-1, place value + 1, by norm_num, by omega, ?_⟩
      rw [rounded, ← bottom, end_of_place]
      push_cast
      ring
    · exact ⟨_, _, abs_lt.mpr ⟨above, below⟩, by omega, rfl⟩

theorem rounded_rounded (value : ℚ) : rounded (rounded value) = rounded value :=
  (representable_rounded value).rounded

/-- The rounding of a number with a known gap. -/
theorem le_rounded_of_gap {significand : Int} {spacing : ℚ} (known : gap value = spacing) :
    significand * spacing ≤ rounded value ↔
      significand * spacing - spacing / 2 < value ∨
        significand * spacing - spacing / 2 = value ∧ significand % 2 = 0 := by
  subst known
  have spacing := gap_pos value
  rw [rounded, mul_le_mul_iff_left₀ spacing, Int.cast_le, le_roundHalfEven_iff, lt_div_iff₀ spacing,
    eq_div_iff spacing.ne', sub_mul, one_div_mul_eq_div]

theorem rounded_le_of_gap {significand : Int} {spacing : ℚ} (known : gap value = spacing) :
    rounded value ≤ significand * spacing ↔
      value < significand * spacing + spacing / 2 ∨
        value = significand * spacing + spacing / 2 ∧ significand % 2 = 0 := by
  subst known
  have spacing := gap_pos value
  rw [rounded, mul_le_mul_iff_left₀ spacing, Int.cast_le, roundHalfEven_le_iff, div_lt_iff₀ spacing,
    div_eq_iff spacing.ne', add_mul, one_div_mul_eq_div]

end Rounded

/-- The gap below a positive number of the format. Below a power of two the numbers are twice as
dense. -/
def gapBelow (bound : ℚ) : ℚ :=
  if bound = 2 ^ place bound ∧ -1022 < place bound then gap bound / 2 else gap bound

/-- A number reaches a bound of the format, up to half of the gap below it. A tie goes to the even
significand. -/
def Reaches (bound value : ℚ) : Prop :=
  bound - gapBelow bound / 2 < value ∨
    bound - gapBelow bound / 2 = value ∧ ⌊bound / gapBelow bound⌋ % 2 = 0

/-- A number stays at a bound of the format, up to half of the gap above it. -/
def StaysAt (bound value : ℚ) : Prop :=
  value < bound + gap bound / 2 ∨
    value = bound + gap bound / 2 ∧ ⌊bound / gap bound⌋ % 2 = 0

section Halfway
variable {bound value : ℚ}

theorem gapBelow_pos (bound : ℚ) : 0 < gapBelow bound := by
  unfold gapBelow
  split_ifs
  · exact half_pos (gap_pos bound)
  · exact gap_pos bound

/-- The numbers from a number of the format up to a bound have one gap, and the bound lies at least
this gap above its start. -/
def OneGap (bound spacing : ℚ) : Prop :=
  ∃ start, rounded start = start ∧ start + spacing ≤ bound ∧
    ∀ value, start ≤ value → value < bound → gap value = spacing

/-- The powers of two from the least place on are numbers of the format. -/
theorem rounded_zpow {exponent : Int} (normal : -1022 ≤ exponent) :
    rounded (2 ^ exponent) = 2 ^ exponent :=
  Representable.rounded ⟨1, exponent, by norm_num, by omega, by simp⟩

/-- Below a power of two the numbers lie one place lower. -/
theorem oneGap_power (power : bound = 2 ^ place bound) (normal : -1022 < place bound) :
    OneGap bound (gap bound / 2) := by
  have lower : (2 : ℚ) ^ (place bound - 1) = bound / 2 := by
    rw [zpow_sub_one₀ (by norm_num), ← power, div_eq_mul_inv]
  have start := start_of_place bound
  rw [← power] at start
  have spacing := gap_pos bound
  refine ⟨bound / 2, ?_, by linarith, fun value low high => ?_⟩
  · rw [← lower]
    exact rounded_zpow (by omega)
  · have nonneg : 0 ≤ value := by linarith
    have placed : place value = place bound - 1 := by
      apply place_eq
      · rwa [lower, abs_of_nonneg nonneg]
      · rwa [sub_add_cancel, ← power, abs_of_nonneg nonneg]
      · omega
    rw [gap, gap, placed, show place bound - 1 - 52 = place bound - 52 - 1 by ring,
      zpow_sub_one₀ (by norm_num), div_eq_mul_inv]

/-- At the least place all numbers have one gap. -/
theorem oneGap_bottom {significand : Int} (whole : bound = significand * gap bound)
    (positive : 0 < bound) (bottom : place bound = -1022) : OneGap bound (gap bound) := by
  have spacing := gap_pos bound
  refine ⟨0, rounded_zero, ?_, fun value low high => gap_eq_of_place ?_⟩
  · have counted : 0 < significand := by
      rw [whole, mul_pos_iff_of_pos_right spacing] at positive
      exact_mod_cast positive
    have one : (1 : ℚ) ≤ significand := by exact_mod_cast counted
    rw [zero_add]
    nth_rewrite 2 [whole]
    exact le_mul_of_one_le_left spacing.le one
  · apply le_antisymm
    · exact place_mono (by rw [abs_of_nonneg low, abs_of_pos positive]; exact high.le)
    · rw [bottom]
      exact least_le_place value

/-- Above a power of two the numbers down to it have one place. -/
theorem oneGap_inside {significand : Int} (whole : bound = significand * gap bound)
    (positive : 0 < bound) (normal : -1022 < place bound) (inside : bound ≠ 2 ^ place bound) :
    OneGap bound (gap bound) := by
  have spacing := gap_pos bound
  have start := start_of_place bound
  have reached := place_le_abs normal
  rw [abs_of_pos positive] at reached
  refine ⟨2 ^ place bound, rounded_zpow normal.le, ?_, fun value low high => gap_eq_of_place ?_⟩
  · have less := lt_of_le_of_ne reached inside.symm
    rw [start] at less ⊢
    nth_rewrite 2 [whole] at less
    nth_rewrite 3 [whole]
    rw [mul_lt_mul_iff_left₀ spacing] at less
    have next : (2 : ℚ) ^ 52 + 1 ≤ significand := by exact_mod_cast less
    calc 2 ^ 52 * gap bound + gap bound = (2 ^ 52 + 1) * gap bound := by ring
      _ ≤ significand * gap bound := mul_le_mul_of_nonneg_right next spacing.le
  · have nonneg : 0 ≤ value := le_trans (zpow_pos (by norm_num) _).le low
    apply le_antisymm
    · exact place_mono (by rw [abs_of_nonneg nonneg, abs_of_pos positive]; exact high.le)
    · have power : |(2 : ℚ) ^ place bound| = 2 ^ place bound :=
        abs_of_pos (zpow_pos (by norm_num) _)
      have placed : place (2 ^ place bound) = place bound := by
        apply place_eq power.ge _ normal.le
        rw [power]
        exact zpow_lt_zpow_right₀ (by norm_num) (lt_add_one _)
      rw [← placed]
      exact place_mono (by rwa [power, abs_of_nonneg nonneg])

/-- A positive number of the format is a multiple of the gap below it, and the numbers right below it
have this gap. -/
theorem gap_below_cases (number : Representable bound) (positive : 0 < bound) :
    (∃ significand : Int, bound = significand * gapBelow bound) ∧ OneGap bound (gapBelow bound) := by
  obtain ⟨significand, _, whole⟩ := number.whole
  unfold gapBelow
  split_ifs with power
  · refine ⟨⟨2 ^ 53, ?_⟩, oneGap_power power.1 power.2⟩
    have start := start_of_place bound
    rw [← power.1] at start
    push_cast
    linarith
  · refine ⟨⟨significand, whole⟩, ?_⟩
    rcases (least_le_place bound).eq_or_lt with bottom | normal
    · exact oneGap_bottom whole positive bottom.symm
    · exact oneGap_inside whole positive normal fun same => power ⟨same, normal⟩

/-- A rounded number reaches a positive number of the format exactly from the middle below it on. -/
theorem le_rounded_iff (number : Representable bound) (positive : 0 < bound) :
    bound ≤ rounded value ↔ Reaches bound value := by
  obtain ⟨⟨significand, whole⟩, start, fixed, apart, dense⟩ := gap_below_cases number positive
  have spacing := gapBelow_pos bound
  unfold Reaches
  rcases lt_or_ge value bound with below | reached
  · rcases lt_or_ge value start with low | near
    · have short := rounded_mono low.le
      rw [fixed] at short
      refine iff_of_false (by linarith) ?_
      rintro (less | ⟨same, _⟩) <;> linarith
    · have rounding := @le_rounded_of_gap _ significand _ (dense value near below)
      have floor : ⌊bound / gapBelow bound⌋ = significand := by
        rw [Int.floor_eq_iff, le_div_iff₀ spacing, div_lt_iff₀ spacing, ← whole]
        exact ⟨le_rfl, by linarith⟩
      rw [← whole] at rounding
      rw [rounding, floor]
  · have kept := rounded_mono reached
    rw [number.rounded] at kept
    exact iff_of_true kept (.inl (by linarith))

/-- A rounded number stays at a number of the format exactly up to the middle above it. -/
theorem rounded_le_iff (number : Representable bound) (nonneg : 0 ≤ bound) :
    rounded value ≤ bound ↔ StaysAt bound value := by
  obtain ⟨significand, short, whole⟩ := number.whole
  have spacing := gap_pos bound
  have finish := end_of_place bound
  have least := least_le_place bound
  have next : bound + gap bound ≤ 2 ^ (place bound + 1) := by
    have step : (significand : ℚ) + 1 ≤ 2 ^ 53 := by exact_mod_cast (abs_lt.mp short).2
    rw [finish]
    nth_rewrite 1 [whole]
    calc significand * gap bound + gap bound = (significand + 1) * gap bound := by ring
      _ ≤ 2 ^ 53 * gap bound := mul_le_mul_of_nonneg_right step spacing.le
  unfold StaysAt
  rcases le_or_gt value bound with reached | above
  · have kept := rounded_mono reached
    rw [number.rounded] at kept
    exact iff_of_true kept (.inl (by linarith))
  · have positive : 0 < value := nonneg.trans_lt above
    rcases lt_or_ge value (2 ^ (place bound + 1)) with inside | beyond
    · have same : gap value = gap bound := by
        apply gap_eq_of_place
        apply le_antisymm
        · by_contra higher
          have reached := @place_le_abs value (by omega)
          rw [abs_of_pos positive] at reached
          have ordered : (2 : ℚ) ^ (place bound + 1) ≤ 2 ^ place value :=
            zpow_le_zpow_right₀ (by norm_num) (by omega)
          linarith
        · exact place_mono (by rw [abs_of_nonneg nonneg, abs_of_pos positive]; exact above.le)
      have rounding := @rounded_le_of_gap _ significand _ same
      have floor : ⌊bound / gap bound⌋ = significand := by
        rw [Int.floor_eq_iff, le_div_iff₀ spacing, div_lt_iff₀ spacing, ← whole]
        exact ⟨le_rfl, by linarith⟩
      rw [← whole] at rounding
      rw [rounding, floor]
    · have kept := rounded_mono beyond
      rw [Representable.rounded ⟨1, place bound + 1, by norm_num, by omega, by simp⟩] at kept
      refine iff_of_false (by linarith) ?_
      rintro (less | ⟨same, _⟩) <;> linarith

end Halfway

end StateFlow.Binary64
