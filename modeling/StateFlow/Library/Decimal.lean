import Mathlib.Algebra.Order.Field.Rat
import Mathlib.Data.List.Basic
import Mathlib.Data.List.TakeWhile

namespace StateFlow.Decimal

/-- A number may leave out its sign. -/
inductive Sign where
  | absent
  | plus
  | minus
  deriving DecidableEq, Repr

def Sign.letters : Sign → List Char
  | .absent => []
  | .plus => ['+']
  | .minus => ['-']

def Sign.factor : Sign → Int
  | .minus => -1
  | _ => 1

/-- A list of decimal digits. It may be empty. -/
structure Digits where
  letters : List Char
  digits : letters.all Char.isDigit = true
  deriving DecidableEq

/-- The first digit of a list is the most significant one. -/
def Digits.value (digits : Digits) : Nat :=
  digits.letters.foldl (fun value letter => 10 * value + (letter.toNat - '0'.toNat)) 0

/-- A number without a point has no fraction. -/
def fractionLetters : Option Digits → List Char
  | none => []
  | some digits => '.' :: digits.letters

/-- The digits of a fraction leave out its point. -/
def fractionDigits : Option Digits → List Char
  | none => []
  | some digits => digits.letters

def fractionValue : Option Digits → ℚ
  | none => 0
  | some digits => digits.value / 10 ^ digits.letters.length

/-- A number has a digit before or after its point. -/
structure Numeral where
  sign : Sign
  whole : Digits
  fraction : Option Digits
  filled : whole.letters ++ fractionDigits fraction ≠ []

namespace Numeral

def letters (numeral : Numeral) : List Char :=
  numeral.sign.letters ++ (numeral.whole.letters ++ fractionLetters numeral.fraction)

def value (numeral : Numeral) : ℚ :=
  numeral.sign.factor * (numeral.whole.value + fractionValue numeral.fraction)

end Numeral

/-- An exponent is a whole number behind one of two letters. -/
structure Exponent where
  capital : Bool
  sign : Sign
  digits : Digits
  filled : digits.letters ≠ []

namespace Exponent

def mark (exponent : Exponent) : Char := if exponent.capital then 'E' else 'e'

def letters (exponent : Exponent) : List Char :=
  exponent.mark :: (exponent.sign.letters ++ exponent.digits.letters)

def value (exponent : Exponent) : Int := exponent.sign.factor * exponent.digits.value

end Exponent

/-- A number without an exponent is not scaled. -/
def exponentLetters : Option Exponent → List Char
  | none => []
  | some exponent => exponent.letters

def exponentValue : Option Exponent → Int
  | none => 0
  | some exponent => exponent.value

/-- A decimal literal. -/
structure Literal where
  numeral : Numeral
  exponent : Option Exponent

namespace Literal

def letters (literal : Literal) : List Char :=
  literal.numeral.letters ++ exponentLetters literal.exponent

def value (literal : Literal) : ℚ :=
  literal.numeral.value * 10 ^ exponentValue literal.exponent

end Literal

section Read

def readSign : List Char → Sign × List Char
  | '+' :: rest => (.plus, rest)
  | '-' :: rest => (.minus, rest)
  | letters => (.absent, letters)

def readDigits (letters : List Char) : Digits × List Char :=
  (⟨letters.takeWhile Char.isDigit, List.all_takeWhile⟩, letters.dropWhile Char.isDigit)

def readFraction : List Char → Option Digits × List Char
  | '.' :: rest => (some (readDigits rest).1, (readDigits rest).2)
  | letters => (none, letters)

/-- The longest number at the front of a text, and the text behind it. -/
def readNumeral (letters : List Char) : Option (Numeral × List Char) :=
  let signed := readSign letters
  let whole := readDigits signed.2
  let fraction := readFraction whole.2
  if filled : whole.1.letters ++ fractionDigits fraction.1 ≠ [] then
    some (⟨signed.1, whole.1, fraction.1, filled⟩, fraction.2)
  else none

/-- An exponent ends the text. -/
def exponentBehind (capital : Bool) (letters : List Char) : Option Exponent :=
  let signed := readSign letters
  let digits := readDigits signed.2
  if filled : digits.1.letters ≠ [] then
    if digits.2 = [] then some ⟨capital, signed.1, digits.1, filled⟩ else none
  else none

def readExponent : List Char → Option (Option Exponent)
  | [] => some none
  | 'E' :: rest => (exponentBehind true rest).map some
  | 'e' :: rest => (exponentBehind false rest).map some
  | _ => none

/-- The literal that a whole text spells. -/
def readLiteral (letters : List Char) : Option Literal :=
  (readNumeral letters).bind fun found =>
    (readExponent found.2).map fun exponent => ⟨found.1, exponent⟩

end Read

section Split
variable {letters : List Char}

theorem readSign_split (letters : List Char) :
    (readSign letters).1.letters ++ (readSign letters).2 = letters := by
  unfold readSign
  split <;> rfl

theorem readDigits_split (letters : List Char) :
    (readDigits letters).1.letters ++ (readDigits letters).2 = letters :=
  List.takeWhile_append_dropWhile

theorem readFraction_split (letters : List Char) :
    fractionLetters (readFraction letters).1 ++ (readFraction letters).2 = letters := by
  unfold readFraction
  split
  · exact congrArg (List.cons '.') (readDigits_split _)
  · rfl

theorem readNumeral_split {numeral : Numeral} {rest : List Char}
    (found : readNumeral letters = some (numeral, rest)) : numeral.letters ++ rest = letters := by
  unfold readNumeral at found
  dsimp only at found
  split at found
  · obtain ⟨rfl, rfl⟩ := Prod.mk.inj (Option.some.inj found)
    rw [Numeral.letters, List.append_assoc, List.append_assoc, readFraction_split, readDigits_split,
      readSign_split]
  · cases found

theorem exponentBehind_split {capital : Bool} {exponent : Exponent}
    (found : exponentBehind capital letters = some exponent) :
    exponent.capital = capital ∧ exponent.sign.letters ++ exponent.digits.letters = letters := by
  unfold exponentBehind at found
  dsimp only at found
  split at found
  · split at found
    · rename_i ends
      obtain rfl := Option.some.inj found
      have digits := readDigits_split (readSign letters).2
      rw [ends, List.append_nil] at digits
      exact ⟨rfl, by rw [digits, readSign_split]⟩
    · cases found
  · cases found

theorem readExponent_split {exponent : Option Exponent}
    (found : readExponent letters = some exponent) : exponentLetters exponent = letters := by
  unfold readExponent at found
  split at found
  · obtain rfl := Option.some.inj found
    rfl
  · obtain ⟨inner, behind, rfl⟩ := Option.map_eq_some_iff.mp found
    obtain ⟨marked, split⟩ := exponentBehind_split behind
    rw [exponentLetters, Exponent.letters, Exponent.mark, marked, split, if_pos rfl]
  · obtain ⟨inner, behind, rfl⟩ := Option.map_eq_some_iff.mp found
    obtain ⟨marked, split⟩ := exponentBehind_split behind
    rw [exponentLetters, Exponent.letters, Exponent.mark, marked, split, if_neg Bool.false_ne_true]
  · cases found

end Split

section Complete
variable {rest : List Char}

/-- A text stops a list of digits. -/
def Stops (letters : List Char) : Prop :=
  ∀ letter ∈ letters.head?, letter.isDigit = false

theorem readSign_letters (sign : Sign)
    (unsigned : ∀ letter ∈ rest.head?, letter ≠ '+' ∧ letter ≠ '-') :
    readSign (sign.letters ++ rest) = (sign, rest) := by
  cases sign with
  | plus => rfl
  | minus => rfl
  | absent =>
      change readSign rest = _
      unfold readSign
      split
      · exact absurd rfl (unsigned '+' rfl).1
      · exact absurd rfl (unsigned '-' rfl).2
      · rfl

theorem readDigits_letters (digits : Digits) (stops : Stops rest) :
    readDigits (digits.letters ++ rest) = (digits, rest) := by
  have inside : ∀ letter ∈ digits.letters, letter.isDigit = true :=
    List.all_eq_true.mp digits.digits
  have after : rest.takeWhile Char.isDigit = [] ∧ rest.dropWhile Char.isDigit = rest := by
    cases rest with
    | nil => exact ⟨rfl, rfl⟩
    | cons letter rest =>
        have fails := stops letter rfl
        exact ⟨List.takeWhile_cons_of_neg (by rw [fails]; exact Bool.false_ne_true),
          List.dropWhile_cons_of_neg (by rw [fails]; exact Bool.false_ne_true)⟩
  unfold readDigits
  congr 1
  · congr 1
    rw [List.takeWhile_append_of_pos inside, after.1, List.append_nil]
  · rw [List.dropWhile_append_of_pos inside, after.2]

theorem readFraction_letters (fraction : Option Digits) (stops : Stops rest)
    (pointless : '.' ∉ rest.head?) :
    readFraction (fractionLetters fraction ++ rest) = (fraction, rest) := by
  cases fraction with
  | some digits =>
      change (some (readDigits (digits.letters ++ rest)).1,
        (readDigits (digits.letters ++ rest)).2) = _
      rw [readDigits_letters digits stops]
  | none =>
      change readFraction rest = _
      unfold readFraction
      split
      · exact absurd rfl pointless
      · rfl

/-- A digit is not a sign. -/
theorem unsigned_of_digit {letter : Char} (digit : letter.isDigit = true) :
    letter ≠ '+' ∧ letter ≠ '-' := by
  constructor <;> rintro rfl <;> exact absurd digit (by decide)

theorem digit_of_head (digits : Digits) (filled : digits.letters ≠ []) :
    ∀ letter ∈ (digits.letters ++ rest).head?, letter.isDigit = true := by
  intro letter first
  apply List.all_eq_true.mp digits.digits
  obtain ⟨head, tail, split⟩ := List.exists_cons_of_ne_nil filled
  rw [split] at first ⊢
  cases first
  exact List.mem_cons_self

theorem readNumeral_letters (numeral : Numeral) (stops : Stops rest)
    (pointless : '.' ∉ rest.head?) :
    readNumeral (numeral.letters ++ rest) = some (numeral, rest) := by
  obtain ⟨sign, whole, fraction, filled⟩ := numeral
  have behind : Stops (fractionLetters fraction ++ rest) := by
    cases fraction with
    | none => exact stops
    | some digits =>
        rintro letter ⟨⟩
        rfl
  -- A number without whole digits starts with its point.
  have unsigned : ∀ letter ∈ (whole.letters ++ (fractionLetters fraction ++ rest)).head?,
      letter ≠ '+' ∧ letter ≠ '-' := by
    intro letter first
    by_cases empty : whole.letters = []
    · cases fraction with
      | none => exact absurd empty (by simpa [fractionDigits] using filled)
      | some digits =>
          rw [empty] at first
          cases first
          decide
    · exact unsigned_of_digit (digit_of_head whole empty letter first)
  have signed : readSign (Numeral.letters ⟨sign, whole, fraction, filled⟩ ++ rest) =
      (sign, whole.letters ++ (fractionLetters fraction ++ rest)) := by
    rw [Numeral.letters, List.append_assoc, List.append_assoc]
    exact readSign_letters sign unsigned
  unfold readNumeral
  dsimp only
  rw [signed, readDigits_letters whole behind, readFraction_letters fraction stops pointless,
    dif_pos filled]

theorem exponentBehind_letters (exponent : Exponent) :
    exponentBehind exponent.capital (exponent.sign.letters ++ exponent.digits.letters) =
      some exponent := by
  obtain ⟨capital, sign, digits, filled⟩ := exponent
  have read : readDigits digits.letters = (digits, []) := by
    have whole := @readDigits_letters [] digits (by rintro letter ⟨⟩)
    rwa [List.append_nil] at whole
  have unsigned : ∀ letter ∈ digits.letters.head?, letter ≠ '+' ∧ letter ≠ '-' := by
    intro letter first
    have digit := @digit_of_head [] digits filled letter (by rwa [List.append_nil])
    exact unsigned_of_digit digit
  unfold exponentBehind
  dsimp only
  rw [readSign_letters sign unsigned, read, dif_pos filled, if_pos rfl]

theorem readExponent_letters (exponent : Option Exponent) :
    readExponent (exponentLetters exponent) = some exponent := by
  cases exponent with
  | none => rfl
  | some exponent =>
      have behind := exponentBehind_letters exponent
      rw [exponentLetters, Exponent.letters, Exponent.mark]
      cases marked : exponent.capital <;> rw [marked] at behind
      · exact congrArg (Option.map some) behind
      · exact congrArg (Option.map some) behind

/-- An exponent stops the digits of a number. -/
theorem exponent_stops (exponent : Option Exponent) :
    Stops (exponentLetters exponent) ∧ '.' ∉ (exponentLetters exponent).head? := by
  cases exponent with
  | none => exact ⟨by rintro letter ⟨⟩, by rintro ⟨⟩⟩
  | some exponent =>
      rw [exponentLetters, Exponent.letters, Exponent.mark]
      cases exponent.capital
      · exact ⟨by rintro letter ⟨⟩; rfl, by rintro ⟨⟩⟩
      · exact ⟨by rintro letter ⟨⟩; rfl, by rintro ⟨⟩⟩

end Complete

/-- The reader accepts exactly the spelling of a literal. -/
theorem readLiteral_eq_some_iff {letters : List Char} {literal : Literal} :
    readLiteral letters = some literal ↔ literal.letters = letters := by
  constructor
  · intro found
    obtain ⟨⟨numeral, rest⟩, front, read⟩ := Option.bind_eq_some_iff.mp found
    obtain ⟨exponent, behind, rfl⟩ := Option.map_eq_some_iff.mp read
    rw [Literal.letters, readExponent_split behind, readNumeral_split front]
  · rintro rfl
    obtain ⟨stops, pointless⟩ := exponent_stops literal.exponent
    unfold readLiteral
    rw [Literal.letters, readNumeral_letters literal.numeral stops pointless, Option.bind_some,
      readExponent_letters]
    rfl

section Last
variable {letter : Char}

theorem last_of_append {front back : List Char} (filled : back ≠ [])
    (last : letter ∈ (front ++ back).getLast?) : letter ∈ back := by
  rw [List.getLast?_append_of_ne_nil _ filled] at last
  exact List.mem_of_mem_getLast? last

/-- A number ends with a digit or with its point. -/
theorem Numeral.last_letter {numeral : Numeral} (last : letter ∈ numeral.letters.getLast?) :
    letter.isDigit = true ∨ letter = '.' := by
  have body : numeral.whole.letters ++ fractionLetters numeral.fraction ≠ [] := by
    have filled := numeral.filled
    cases fraction : numeral.fraction with
    | none => simpa [fraction, fractionDigits, fractionLetters] using filled
    | some digits => simp [fractionLetters]
  rcases List.mem_append.mp (last_of_append body last) with whole | fraction
  · exact .inl (List.all_eq_true.mp numeral.whole.digits letter whole)
  · cases found : numeral.fraction with
    | none =>
        rw [found] at fraction
        cases fraction
    | some digits =>
        rw [found] at fraction
        rcases List.mem_cons.mp fraction with point | inside
        · exact .inr point
        · exact .inl (List.all_eq_true.mp digits.digits letter inside)

theorem Literal.last_letter {literal : Literal} (last : letter ∈ literal.letters.getLast?) :
    letter.isDigit = true ∨ letter = '.' := by
  rw [Literal.letters] at last
  cases found : literal.exponent with
  | none =>
      rw [found, exponentLetters, List.append_nil] at last
      exact Numeral.last_letter last
  | some exponent =>
      rw [found, exponentLetters, Exponent.letters, ← List.cons_append, ← List.append_assoc] at last
      exact .inl (List.all_eq_true.mp exponent.digits.digits letter
        (last_of_append exponent.filled last))

/-- No number contains this letter. -/
def foreign (letter : Char) : Bool := !letter.isDigit && letter ≠ '.'

theorem readLiteral_of_last {front : List Char} (strange : foreign letter = true) :
    readLiteral (front ++ [letter]) = none := by
  cases found : readLiteral (front ++ [letter]) with
  | none => rfl
  | some literal =>
      have spelled := readLiteral_eq_some_iff.mp found
      have last := @Literal.last_letter letter literal (by rw [spelled, List.getLast?_concat]; rfl)
      rcases last with known | known <;> simp [foreign, known] at strange

/-- Letters that no number contains stand behind a literal. -/
theorem Literal.suffix_append_iff {literal : Literal} {marks back : List Char}
    (strange : marks.all foreign = true) :
    marks <:+ literal.letters ++ back ↔ marks <:+ back := by
  refine ⟨fun ends => ?_, fun ends => List.suffix_append_of_suffix ends⟩
  have behind : back <:+ literal.letters ++ back := List.suffix_append _ _
  rcases le_total marks.length back.length with short | long
  · exact List.suffix_of_suffix_length_le ends behind short
  · obtain ⟨extra, rfl⟩ := List.suffix_of_suffix_length_le behind ends long
    have inside := List.suffix_append_self_iff.mp ends
    by_cases empty : extra = []
    · subst empty
      exact List.suffix_refl back
    · have last : extra.getLast empty ∈ literal.letters.getLast? := by
        rw [inside.getLast empty, Option.mem_def, List.getLast?_eq_some_getLast]
      have other := List.all_eq_true.mp strange _
        (List.mem_append_left back (List.getLast_mem empty))
      rcases Literal.last_letter last with known | known <;> simp [foreign, known] at other

end Last

end StateFlow.Decimal
