import PdfDisplay.Number.Digits

/-!
# Counts

Whole numbers that a user writes: decimal digits, after a plus sign if one likes, for a
number that fits a word of 64 bits.
-/

namespace PdfDisplay.Word

/-- The text without a plus sign in front. -/
def unsigned : List Char → List Char
  | '+' :: rest => rest
  | text => text

/-- The number that a text writes. -/
def parse? (text : List Char) : Option Nat :=
  let digits := unsigned text
  let value := Digits.value (Digits.ofChars digits)
  if digits ≠ [] ∧ digits.all Char.isDigit ∧ value < 0x10000000000000000 then some value else none

end PdfDisplay.Word
