/-!
# Hexadecimal digits

Digits of either case, the numbers that sequences of them write, and bytes as pairs of
digits.
-/

namespace PdfDisplay.Hex

/-- The value of a digit. -/
def digit? (c : Char) : Option Nat :=
  if c.isDigit then some (c.toNat - 48)
  else if 'a' ≤ c ∧ c ≤ 'f' then some (c.toNat - 87)
  else if 'A' ≤ c ∧ c ≤ 'F' then some (c.toNat - 55)
  else none

/-- The number that digits write; there must be a digit. -/
def value? : List Char → Option Nat
  | [] => none
  | digits => digits.foldlM (fun value c => (digit? c).map (value * 16 + ·)) 0

/-- A byte as two digits, letters in upper case. -/
def upperPair (b : UInt8) : List Char :=
  let digit (n : Nat) : Char := Char.ofNat (if n < 10 then n + 48 else n + 55)
  [digit (b.toNat / 16), digit (b.toNat % 16)]

end PdfDisplay.Hex
