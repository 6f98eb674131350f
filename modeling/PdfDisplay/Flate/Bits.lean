import PdfDisplay.Text.Utf8

/-!
# Bits of a compressed stream

A compressed stream is read bit by bit, the low bit of each byte first. Reading fails in two
ways: the stream ends too early, or it breaks a rule of the format.
-/

namespace PdfDisplay.Flate

/-- Why a stream cannot be decompressed. -/
inductive Error where
  /-- The input ends before the stream does. -/
  | incomplete
  /-- The stream breaks a rule of the format. -/
  | corrupt
  deriving DecidableEq, Repr

/-- The wording of the reason. -/
def Error.message : Error → String
  | incomplete => "incomplete deflate stream"
  | corrupt => "corrupt deflate stream"

/-- What is left of a stream: some bits of the current byte and the bytes behind it. -/
structure Bits where
  /-- The unread bits of the current byte, the next one lowest. -/
  current : Nat
  /-- How many they are. -/
  left : Nat
  /-- The bytes behind the current one. -/
  rest : Bytes

namespace Bits

/-- All bits of some bytes. -/
def ofBytes (bytes : Bytes) : Bits := ⟨0, 0, bytes⟩

/-- How many bits are left. -/
def size (b : Bits) : Nat := b.left + 8 * b.rest.length

/-- Takes the next bit. -/
def next (b : Bits) : Except Error (Bool × Bits) :=
  match b.left, b.rest with
  | left + 1, rest => .ok (b.current % 2 == 1, ⟨b.current / 2, left, rest⟩)
  | 0, byte :: rest => .ok (byte.toNat % 2 == 1, ⟨byte.toNat / 2, 7, rest⟩)
  | 0, [] => .error .incomplete

/-- Takes a number of `count` bits, its lowest bit first. -/
def take : (count : Nat) → Bits → Except Error (Nat × Bits)
  | 0, b => .ok (0, b)
  | count + 1, b => do
    let (bit, b) ← b.next
    let (high, b) ← take count b
    return (high * 2 + bit.toNat, b)

/-- The bytes behind the current one. -/
def align (b : Bits) : Bytes := b.rest

end Bits

end PdfDisplay.Flate
