import PdfDisplay.GlyphName
import PdfDisplay.Object.Basic

/-!
# Encodings of simple fonts

A simple font without a character map reads its one-byte codes through an encoding: a base
encoding, in which single codes are given another character by the name of its glyph. Fonts
without a known base encoding read codes as code points, which is not the encoding's
business.
-/

namespace PdfDisplay

/-- A base encoding. -/
inductive BaseEncoding where
  /-- The Windows encoding of Western languages. -/
  | winAnsi
  /-- The Macintosh encoding of Western languages. -/
  | macRoman
  /-- The standard encoding, of which the ASCII part is known. -/
  | standard
  /-- Any other encoding, or none. -/
  | unspecified
  deriving DecidableEq, Repr, Inhabited

namespace BaseEncoding

/-- The encoding with a name. -/
def ofName (name : String) : BaseEncoding :=
  match name with
  | "WinAnsiEncoding" => winAnsi
  | "MacRomanEncoding" => macRoman
  | "StandardEncoding" => standard
  | _ => unspecified

/-- The Windows characters of the codes from 128 to 159. Undefined ones are controls. -/
def winAnsiRow : List Nat := [
  0x20AC, 0x0081, 0x201A, 0x0192, 0x201E, 0x2026, 0x2020, 0x2021, 0x02C6, 0x2030, 0x0160, 0x2039,
  0x0152, 0x008D, 0x017D, 0x008F, 0x0090, 0x2018, 0x2019, 0x201C, 0x201D, 0x2022, 0x2013, 0x2014,
  0x02DC, 0x2122, 0x0161, 0x203A, 0x0153, 0x009D, 0x017E, 0x0178]

/-- The Macintosh characters of the codes from 128 on. -/
def macRomanRow : List Nat := [
  0x00C4, 0x00C5, 0x00C7, 0x00C9, 0x00D1, 0x00D6, 0x00DC, 0x00E1, 0x00E0, 0x00E2, 0x00E4, 0x00E3,
  0x00E5, 0x00E7, 0x00E9, 0x00E8, 0x00EA, 0x00EB, 0x00ED, 0x00EC, 0x00EE, 0x00EF, 0x00F1, 0x00F3,
  0x00F2, 0x00F4, 0x00F6, 0x00F5, 0x00FA, 0x00F9, 0x00FB, 0x00FC, 0x2020, 0x00B0, 0x00A2, 0x00A3,
  0x00A7, 0x2022, 0x00B6, 0x00DF, 0x00AE, 0x00A9, 0x2122, 0x00B4, 0x00A8, 0x2260, 0x00C6, 0x00D8,
  0x221E, 0x00B1, 0x2264, 0x2265, 0x00A5, 0x00B5, 0x2202, 0x2211, 0x220F, 0x03C0, 0x222B, 0x00AA,
  0x00BA, 0x03A9, 0x00E6, 0x00F8, 0x00BF, 0x00A1, 0x00AC, 0x221A, 0x0192, 0x2248, 0x2206, 0x00AB,
  0x00BB, 0x2026, 0x00A0, 0x00C0, 0x00C3, 0x00D5, 0x0152, 0x0153, 0x2013, 0x2014, 0x201C, 0x201D,
  0x2018, 0x2019, 0x00F7, 0x25CA, 0x00FF, 0x0178, 0x2044, 0x20AC, 0x2039, 0x203A, 0xFB01, 0xFB02,
  0x2021, 0x00B7, 0x201A, 0x201E, 0x2030, 0x00C2, 0x00CA, 0x00C1, 0x00CB, 0x00C8, 0x00CD, 0x00CE,
  0x00CF, 0x00CC, 0x00D3, 0x00D4, 0xF8FF, 0x00D2, 0x00DA, 0x00DB, 0x00D9, 0x0131, 0x02C6, 0x02DC,
  0x00AF, 0x02D8, 0x02D9, 0x02DA, 0x00B8, 0x02DD, 0x02DB, 0x02C7]

/-- The character of a code. -/
def decode? (encoding : BaseEncoding) (code : UInt8) : Option Char :=
  let n := code.toNat
  match encoding with
  | winAnsi =>
    some (Char.ofNat (if 0x80 ≤ n ∧ n < 0xA0 then winAnsiRow.getD (n - 0x80) n else n))
  | macRoman => some (Char.ofNat (if 0x80 ≤ n then macRomanRow.getD (n - 0x80) n else n))
  | standard =>
    if n = 0x27 then some '\u2019'
    else if n = 0x60 then some '\u2018'
    else if 0x20 ≤ n ∧ n ≤ 0x7E then some (Char.ofNat n)
    else none
  | unspecified => none

end BaseEncoding

/-- The encoding of a simple font. -/
structure Encoding where
  /-- The base encoding. -/
  base : BaseEncoding
  /-- Codes with another character, the latest first. -/
  differences : List (UInt8 × Char)
  deriving DecidableEq, Repr, Inhabited

namespace Encoding

/-- A base encoding without differences. -/
def ofBase (base : BaseEncoding) : Encoding := ⟨base, []⟩

/-- The encoding of fonts that declare none. -/
def unspecified : Encoding := ofBase .unspecified

/-- The code that an integer in a list of differences sets, if 32 bits hold it. -/
def startCode? (value : Int) : Option UInt32 :=
  if 0 ≤ value ∧ value < 0x100000000 then some (UInt32.ofNat value.toNat) else none

/-- Gives a code the character of a glyph name, if it is one byte and the name is known. -/
def differ (encoding : Encoding) (code : UInt32) (name : String) : Encoding :=
  match GlyphName.char? name with
  | some c =>
    if code < 256 then
      { encoding with differences := (code.toUInt8, c) :: encoding.differences }
    else encoding
  | none => encoding

/-- Applies a list of differences: a number sets the code, and each name goes to the next
code. Names in front of the first number go nowhere. Codes have 32 bits: zero follows the
greatest one. -/
def applyFrom (encoding : Encoding) (code? : Option UInt32) : List Object → Encoding
  | [] => encoding
  | .integer value :: rest => applyFrom encoding (startCode? value) rest
  | .name name :: rest =>
    match code? with
    | some code => applyFrom (encoding.differ code name) (some (code + 1)) rest
    | none => applyFrom encoding none rest
  | _ :: rest => applyFrom encoding code? rest

/-- Applies a list of differences. -/
def applyDifferences (encoding : Encoding) (items : List Object) : Encoding :=
  applyFrom encoding none items

/-- The encoding that an object declares: a name, or a dictionary with a base encoding and
differences. -/
def ofObject : Option Object → Encoding
  | some (.name name) => ofBase (.ofName name)
  | some (.dictionary entries) =>
    let d : Dictionary := ⟨entries⟩
    let encoding := ofBase (((d.name? "BaseEncoding").map BaseEncoding.ofName).getD .unspecified)
    match d.array? "Differences" with
    | some items => encoding.applyDifferences items
    | none => encoding
  | _ => unspecified

/-- The character of a code. -/
def decode? (encoding : Encoding) (code : UInt8) : Option Char :=
  (encoding.differences.lookup code).orElse fun _ => encoding.base.decode? code

end Encoding

end PdfDisplay
