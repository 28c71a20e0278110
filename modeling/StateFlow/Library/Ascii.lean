import StateFlow.Library.Value

namespace StateFlow.Python

/-- A nonempty list of decimal digits. -/
def asciiDigits (letters : List Char) : Option Nat :=
  if !letters.isEmpty && letters.all Char.isDigit then
    some (letters.foldl (fun value letter => 10 * value + (letter.toNat - '0'.toNat)) 0)
  else none

/-- A decimal integer with an optional sign. -/
def asciiInt (text : String) : Option Int :=
  match text.toList with
  | '-' :: letters => (asciiDigits letters).map fun value => -(value : Int)
  | letters => (asciiDigits letters).map fun value => (value : Int)

/-- This interpreter covers ASCII letters and decimal integers. It knows no calendar text. -/
def asciiText : Text where
  upper := String.toUpper
  lower := String.toLower
  parseInt := asciiInt
  parseFloat text := (asciiInt text).map fun value => (value : ℚ)
  parseDateTime _ := none
  repr _ := ""

end StateFlow.Python
