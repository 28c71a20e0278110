import StateFlow.Construction.Adapters.KubernetesWatch
import StateFlow.Library.Ascii
import StateFlow.Library.Gated
import StateFlow.Library.Quantity
import StateFlow.Library.Truncation

namespace StateFlow.Adapters
open Python Table Effect Decimal Double

/-- No decimal literal ends with the last letter of a suffix. -/
def suffixEnds : List Char := ['m', 'k', 'M', 'G', 'T', 'P', 'E', 'i']

/-- `float` reads a decimal literal as its nearest double. It rejects a text that ends with a
suffix. -/
structure Floats (text : Text) : Prop where
  literal : ∀ literal : Literal, Normal literal.value →
    text.parseFloat (String.ofList literal.letters) = some (nearest literal.value)
  suffix : ∀ front : List Char, ∀ letter ∈ suffixEnds,
    text.parseFloat (String.ofList (front ++ [letter])) = none

/-- The three parsers of quantities. -/
inductive Measure where
  | cpu
  | memory
  | gpu
  deriving DecidableEq, Repr

namespace Measure

def resource : Measure → String
  | cpu => "cpu"
  | memory => "memory"
  | gpu => "nvidia.com/gpu"

def parse (text : Text) (measure : Measure) (value : String) : Except Exception Value :=
  match measure with
  | cpu => do return .float (← cpuCores text value)
  | memory => do return .int (← byteCount text value)
  | gpu => do return .float (← text.float (.str value))

/-- Each parser knows these suffixes. -/
def knows : Measure → Suffix → Bool
  | _, .absent | _, .power _ => true
  | cpu, .milli => true
  | memory, .mega | memory, .giga | memory, .tera => true
  | memory, .kibi | memory, .mebi | memory, .gibi | memory, .tebi => true
  | _, _ => false

/-- The memory is a whole number of bytes. The other quantities are doubles. -/
def result : Measure → ℚ → Value
  | memory, value => .int (truncate value)
  | _, value => .float value

/-- A double is exact when it is the nearest one. -/
def exact : Measure → Quantity → Value
  | memory, quantity => .int (truncate quantity.value)
  | _, quantity => .float (nearest quantity.value)

end Measure

section Texts
variable {text : Text} (quantity : Quantity)

theorem float_literal (floats : Floats text) :
    text.float (.str (String.ofList quantity.literal.letters)) =
      .ok (nearest quantity.literal.value) := by
  simp only [Text.float, floats.literal _ quantity.literal_normal]

theorem tail_ends (suffix : Suffix) :
    suffix.tail = [] ∨ ∃ front, ∃ letter ∈ suffixEnds, suffix.tail = front ++ [letter] := by
  cases suffix with
  | absent | power => exact .inl rfl
  | kibi => exact .inr ⟨['K'], 'i', by decide, rfl⟩
  | mebi => exact .inr ⟨['M'], 'i', by decide, rfl⟩
  | gibi => exact .inr ⟨['G'], 'i', by decide, rfl⟩
  | tebi => exact .inr ⟨['T'], 'i', by decide, rfl⟩
  | pebi => exact .inr ⟨['P'], 'i', by decide, rfl⟩
  | exbi => exact .inr ⟨['E'], 'i', by decide, rfl⟩
  | _ => exact .inr ⟨[], _, by decide, rfl⟩

/-- `float` reads a quantity when no letters follow its literal. -/
theorem float_quantity (floats : Floats text) : text.float (.str quantity.text) =
    if quantity.suffix.tail = [] then .ok (nearest quantity.near) else .error .valueError := by
  split_ifs with plain
  · rw [Quantity.text, quantity.letters_eq, plain, List.append_nil, float_literal quantity floats,
      quantity.nearest_plain_literal plain]
  · obtain ⟨front, letter, known, tail_eq⟩ := (tail_ends quantity.suffix).resolve_left plain
    rw [Quantity.text, quantity.letters_eq, tail_eq, ← List.append_assoc]
    simp only [Text.float, floats.suffix _ _ known]

/-- A suffix of letters is found in the tail of a quantity. -/
theorem withoutSuffix_quantity {marks : String}
    (strange : marks.toList.all foreign = true) :
    withoutSuffix marks quantity.text =
      if marks.toList <:+ quantity.suffix.tail then
        some (String.ofList (quantity.literal.letters ++
          quantity.suffix.tail.take (quantity.suffix.tail.length - marks.length)))
      else none := by
  unfold withoutSuffix Quantity.text
  rw [String.toList_ofList, quantity.letters_eq,
    if_congr (Literal.suffix_append_iff strange) rfl rfl]
  split_ifs with ends
  · have short : marks.length ≤ quantity.suffix.tail.length := by
      rw [← String.length_toList]
      exact ends.length_le
    rw [String.length_ofList, List.length_append, Nat.add_sub_assoc short,
      List.take_length_add_append]
  · rfl

theorem cpuCores_quantity (floats : Floats text) : cpuCores text quantity.text =
    if Measure.cpu.knows quantity.suffix then .ok (nearest quantity.near)
    else .error .valueError := by
  unfold cpuCores
  rw [withoutSuffix_quantity quantity (by decide)]
  by_cases milli : quantity.suffix = .milli
  · have scaled := quantity.nearest_scaled_literal
    rw [milli] at scaled ⊢
    rw [if_pos (by decide), if_pos (show Measure.cpu.knows .milli = true from rfl),
      show "m".length = 1 from rfl, ← scaled]
    simp only [Suffix.tail, Suffix.letters, List.length_singleton, Nat.sub_self, List.take_zero,
      List.append_nil, float_literal quantity floats]
    exact congrArg (fun value => Except.ok (nearest value)) (div_eq_mul_one_div _ _)
  · have other : ¬ "m".toList <:+ quantity.suffix.tail ∧
        (quantity.suffix.tail = [] ↔ Measure.cpu.knows quantity.suffix = true) := by
      cases suffix : quantity.suffix with
      | milli => exact absurd suffix milli
      | power => exact ⟨show ¬ "m".toList <:+ [] by decide, iff_of_true rfl rfl⟩
      | _ => exact ⟨by decide, by decide⟩
    rw [if_neg other.1]
    simp only [float_quantity quantity floats, other.2]

/-- The number of letters and the multiplier that the parser of bytes finds in a tail. -/
def matched (tail : List Char) : Option (Nat × ℚ) :=
  byteSuffixes.findSome? fun entry =>
    if entry.1.toList <:+ tail then some (entry.1.length, entry.2) else none

theorem matched_tail (suffix : Suffix) : matched suffix.tail =
    if Measure.memory.knows suffix = true ∧ suffix.tail ≠ [] then
      some (suffix.tail.length, suffix.factor) else none := by
  cases suffix with
  | power =>
      rw [if_neg fun both => both.2 rfl]
      change matched [] = none
      decide +kernel
  | _ => decide +kernel

/-- A search only depends on what its test says about the items of the list. -/
theorem findSome_congr {A B : Type} {first second : A → Option B} {items : List A}
    (same : ∀ item ∈ items, first item = second item) :
    items.findSome? first = items.findSome? second := by
  induction items with
  | nil => rfl
  | cons item rest ih =>
      rw [List.findSome?_cons, List.findSome?_cons, same item List.mem_cons_self,
        ih fun other inside => same other (List.mem_cons_of_mem item inside)]

theorem byteCount_quantity (floats : Floats text) : byteCount text quantity.text =
    if Measure.memory.knows quantity.suffix then .ok (truncate (nearest quantity.near))
    else .error .valueError := by
  have strange : ∀ entry ∈ byteSuffixes, entry.1.toList.all foreign = true := by decide +kernel
  have scaled : (byteSuffixes.findSome? fun entry =>
      (withoutSuffix entry.1 quantity.text).map fun amount => (amount, entry.2)) =
      (matched quantity.suffix.tail).map fun found =>
        (String.ofList (quantity.literal.letters ++
          quantity.suffix.tail.take (quantity.suffix.tail.length - found.1)), found.2) := by
    rw [matched, List.map_findSome?]
    apply findSome_congr
    intro entry inside
    rw [withoutSuffix_quantity quantity (strange entry inside)]
    change _ = Option.map _ (ite _ _ _)
    split_ifs <;> rfl
  unfold byteCount
  dsimp only
  rw [scaled, matched_tail]
  by_cases plain : quantity.suffix.tail = []
  · have known : Measure.memory.knows quantity.suffix = true := by
      cases suffix : quantity.suffix <;> rw [suffix] at plain <;> first | rfl | cases plain
    rw [if_neg fun both => both.2 plain, if_pos known]
    simp only [Option.map_none, float_quantity quantity floats, if_pos plain]
    rfl
  · by_cases known : Measure.memory.knows quantity.suffix = true
    · rw [if_pos ⟨known, plain⟩, if_pos known]
      simp only [Option.map_some, Nat.sub_self, List.take_zero, List.append_nil,
        float_literal quantity floats]
      exact congrArg (fun value => Except.ok (truncate value)) quantity.nearest_scaled_literal
    · rw [if_neg fun both => known both.1, if_neg known]
      simp only [Option.map_none, float_quantity quantity floats, if_neg plain]
      rfl

/-- A parser answers a quantity with a known suffix and rejects any other one. -/
theorem parse_quantity (floats : Floats text) (measure : Measure) :
    measure.parse text quantity.text =
      if measure.knows quantity.suffix then .ok (measure.result (nearest quantity.near))
      else .error .valueError := by
  cases measure with
  | cpu =>
      unfold Measure.parse
      dsimp only
      rw [cpuCores_quantity quantity floats]
      split_ifs <;> rfl
  | memory =>
      unfold Measure.parse
      dsimp only
      rw [byteCount_quantity quantity floats]
      split_ifs <;> rfl
  | gpu =>
      have plain : quantity.suffix.tail = [] ↔ Measure.gpu.knows quantity.suffix = true := by
        cases quantity.suffix with
        | absent | power => exact iff_of_true rfl rfl
        | _ => exact ⟨by rintro ⟨⟩, by rintro ⟨⟩⟩
      unfold Measure.parse
      dsimp only
      rw [float_quantity quantity floats, if_congr plain rfl rfl]
      split_ifs <;> rfl

end Texts

/-- The result of a scaled number rounds to the exact one. -/
def Keeps (measure : Measure) (quantity : Quantity) : Prop :=
  match measure with
  | .memory => KeepsWhole ⌊|quantity.value|⌋₊ |quantity.near|
  | _ => RoundsTo |quantity.near| |nearest quantity.value|

section Exactness
variable {measure : Measure} {quantity : Quantity}

theorem result_exact_iff :
    measure.result (nearest quantity.near) = measure.exact quantity ↔ Keeps measure quantity := by
  cases measure with
  | memory =>
      change Value.int _ = .int _ ↔ KeepsWhole _ _
      rw [Value.int.injEq, truncate_nearest_iff quantity.near_nonneg quantity.near_nonpos]
  | cpu | gpu =>
      change Value.float _ = .float _ ↔ RoundsTo _ _
      rw [Value.float.injEq, nearest_eq_nearest_iff quantity.near_nonneg quantity.near_nonpos]

/-- A quantity of doubles loses nothing. -/
theorem keeps_of_isDouble (exact : IsDouble quantity.value)
    (number : quantity.suffix.decimal = true → IsDouble quantity.number.value) :
    Keeps measure quantity := by
  rw [← result_exact_iff, quantity.near_eq number]
  cases measure with
  | memory => exact congrArg (fun value => Value.int (truncate value)) (nearest_of_isDouble exact)
  | cpu | gpu => rfl

/-- A parser is exact for a known suffix when the scaled number rounds to the exact result. -/
theorem parse_exact_iff {text : Text} (floats : Floats text) :
    measure.parse text quantity.text = .ok (measure.exact quantity) ↔
      measure.knows quantity.suffix = true ∧ Keeps measure quantity := by
  rw [parse_quantity quantity floats]
  split_ifs with known
  · rw [Except.ok.injEq, result_exact_iff, and_iff_right known]
  · exact iff_of_false (by rintro ⟨⟩) fun both => known both.1

end Exactness

def IsQuantity (value : String) : Prop := ∃ quantity : Quantity, value = quantity.text

/-- A text spells a quantity whose suffix a parser knows. -/
def Known (measure : Measure) (value : String) : Prop :=
  ∃ quantity : Quantity, value = quantity.text ∧ measure.knows quantity.suffix = true

section Gates
variable {text : Text}

theorem gated_parse (floats : Floats text) (measure : Measure) {value : String}
    (valid : IsQuantity value) :
    Gated .valueError (Known measure value) (measure.parse text value) := by
  obtain ⟨quantity, rfl⟩ := valid
  rw [parse_quantity quantity floats]
  split_ifs with known
  · exact .passes ⟨quantity, rfl, known⟩ _
  · refine .fails ?_
    rintro ⟨other, same, spelled⟩
    -- Two quantities of one text have one outcome.
    have refused := parse_quantity quantity floats measure
    rw [same, parse_quantity other floats, if_pos spelled, if_neg known] at refused
    cases refused

theorem gated_addQuantity {failure : Exception} {raw : List (String × String)}
    {name target : String} {parse : String → Except Exception Value} {condition : String → Prop}
    (each : ∀ value, raw.lookup name = some value → Gated failure (condition value) (parse value))
    (result : List (String × Value)) :
    Gated failure (∀ value, raw.lookup name = some value → condition value)
      (addQuantity raw name target parse result) := by
  unfold addQuantity
  cases found : raw.lookup name with
  | none => exact .passes (by rintro value ⟨⟩) result
  | some value =>
      have same : condition value ↔ ∀ other, some value = some other → condition other :=
        ⟨fun held _ spelled => Option.some.inj spelled ▸ held, fun all => all value rfl⟩
      exact (gated_map (each value found)).congr same

/-- The quantities that a node can allocate. -/
def Allocates (text : Text) (value : Value) (measure : Measure) (amount : String) : Prop :=
  (stringMapping text value).lookup measure.resource = some amount

theorem gated_allocatable (floats : Floats text) {value : Value}
    (valid : ∀ measure amount, Allocates text value measure amount → IsQuantity amount) :
    Gated .valueError (∀ measure amount, Allocates text value measure amount → Known measure amount)
      (allocatable text value) := by
  have step (measure : Measure) (target : String) (result : List (String × Value)) :
      Gated .valueError (∀ amount, Allocates text value measure amount → Known measure amount)
        (addQuantity (stringMapping text value) measure.resource target (measure.parse text)
          result) :=
    gated_addQuantity (fun amount found => gated_parse floats measure (valid measure amount found))
      result
  let raw := (stringMapping text value).map fun entry => (entry.1, Value.str entry.2)
  have parts := gated_bind (step .cpu "cpu_cores" raw) fun cpu _ =>
    gated_bind (step .memory "memory_bytes" cpu) fun memory _ => step .gpu "gpu" memory
  refine Gated.congr parts ⟨?_, fun all => ⟨all .cpu, all .memory, all .gpu⟩⟩
  rintro ⟨cpu, memory, gpu⟩ (_ | _ | _)
  · exact cpu
  · exact memory
  · exact gpu

end Gates

end StateFlow.Adapters
