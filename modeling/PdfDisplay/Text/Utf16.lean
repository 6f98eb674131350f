import PdfDisplay.Text.Utf8

/-!
# Code units as UTF-16

Text destinations are UTF-16 with the high byte first. A surrogate pair is one character;
a surrogate without its partner becomes the replacement character.
-/

namespace PdfDisplay.Utf16

/-- Pairs of bytes as code units, high byte first; a last single byte is dropped. -/
def units : Bytes → List Nat
  | high :: low :: rest => (high.toNat * 256 + low.toNat) :: units rest
  | _ => []

/-- Whether a unit begins a surrogate pair. -/
def isHigh (unit : Nat) : Bool := 0xD800 ≤ unit && unit < 0xDC00

/-- Whether a unit ends a surrogate pair. -/
def isLow (unit : Nat) : Bool := 0xDC00 ≤ unit && unit < 0xE000

/-- The character of a unit that is not in a pair. -/
def single (unit : Nat) : Char :=
  if isHigh unit || isLow unit then replacement else Char.ofNat unit

/-- The characters of a sequence of code units. -/
def decode : List Nat → List Char
  | [] => []
  | [unit] => [single unit]
  | unit :: next :: rest =>
    if isHigh unit && isLow next then
      Char.ofNat (0x10000 + (unit - 0xD800) * 1024 + (next - 0xDC00)) :: decode rest
    else single unit :: decode (next :: rest)

/-- Some units give some text. -/
theorem decode_ne_nil {units : List Nat} (h : units ≠ []) : decode units ≠ [] := by
  match units, h with
  | [_], _ => simp [decode]
  | _ :: _ :: _, _ =>
    rw [decode]
    split <;> simp

end PdfDisplay.Utf16
