import PdfDisplay.Text.Utf8

/-!
# Byte classes

The page description language divides bytes into white space, delimiters and the regular
bytes that make up names, numbers and keywords. Only six bytes are white space here; the
vertical tab is a regular byte.
-/

namespace PdfDisplay.Byte

/-- The byte of an ASCII character. -/
abbrev of (c : Char) : UInt8 := c.toUInt8

/-- White space: blank, tab, carriage return, line feed, form feed and zero. -/
def isWhite (b : UInt8) : Bool :=
  b == 0x20 || b == 0x09 || b == 0x0D || b == 0x0A || b == 0x0C || b == 0x00

/-- Whether a byte ends a line, and with it a comment. -/
def isLineEnd (b : UInt8) : Bool := b == 0x0A || b == 0x0D

/-- The delimiters: brackets of all kinds, the slash and the percent sign. -/
def isDelimiter (b : UInt8) : Bool :=
  b == of '(' || b == of ')' || b == of '<' || b == of '>' || b == of '[' || b == of ']' ||
    b == of '\x7b' || b == of '\x7d' || b == of '/' || b == of '%'

/-- The bytes that make up names, numbers and keywords. -/
def isRegular (b : UInt8) : Bool := !(isWhite b || isDelimiter b)

/-- Whether the byte is a decimal digit. -/
def isDigit (b : UInt8) : Bool := of '0' ≤ b && b ≤ of '9'

/-- Whether the byte is an octal digit. -/
def isOctal (b : UInt8) : Bool := of '0' ≤ b && b ≤ of '7'

/-- The value of a decimal digit. -/
def digit (b : UInt8) : Nat := b.toNat - 48

/-- The value of a hexadecimal digit of either case. -/
def hexValue? (b : UInt8) : Option UInt8 :=
  if isDigit b then some (b - of '0')
  else if of 'a' ≤ b && b ≤ of 'f' then some (b - of 'a' + 10)
  else if of 'A' ≤ b && b ≤ of 'F' then some (b - of 'A' + 10)
  else none

/-- Pairs of hexadecimal digit values as bytes; a last single digit is followed by zero. -/
def ofHexDigits : List UInt8 → Bytes
  | [] => []
  | [high] => [high * 16]
  | high :: low :: rest => (high * 16 + low) :: ofHexDigits rest

end PdfDisplay.Byte
