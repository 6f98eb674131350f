import PdfDisplay.Text.Hex

/-!
# Glyph names

The character that the name of a glyph stands for. Names that spell out a code point, names
of one character, and the common names of punctuation and digits are known; a suffix behind
a period is not part of the name.
-/

namespace PdfDisplay.GlyphName

/-- Common names of punctuation, digits and symbols, in alphabetical order. -/
def common : List (String × Char) := [
  ("ampersand", '&'), ("asterisk", '*'), ("at", '@'), ("backslash", '\\'), ("braceleft", '\x7b'),
  ("braceright", '\x7d'), ("bracketleft", '['), ("bracketright", ']'), ("bullet", '\u2022'),
  ("colon", ':'), ("comma", ','), ("copyright", '\u00a9'), ("degree", '\u00b0'), ("dollar", '$'),
  ("eight", '8'), ("ellipsis", '\u2026'), ("emdash", '\u2014'), ("endash", '\u2013'),
  ("equal", '='), ("exclam", '!'), ("fi", '\ufb01'), ("five", '5'), ("fl", '\ufb02'),
  ("four", '4'), ("greater", '>'), ("hyphen", '-'), ("less", '<'), ("nine", '9'),
  ("numbersign", '#'), ("one", '1'), ("parenleft", '('), ("parenright", ')'), ("percent", '%'),
  ("period", '.'), ("plus", '+'), ("question", '?'), ("quotedbl", '"'),
  ("quotedblleft", '\u201c'), ("quotedblright", '\u201d'), ("quoteleft", '\u2018'),
  ("quoteright", '\u2019'), ("quotesingle", '\''), ("registered", '\u00ae'), ("semicolon", ';'),
  ("seven", '7'), ("six", '6'), ("slash", '/'), ("space", ' '), ("three", '3'),
  ("trademark", '\u2122'), ("two", '2'), ("underscore", '_'), ("zero", '0')]

/-- The number that hexadecimal digits write, a plus sign in front of them permitted. -/
def signedHexValue? : List Char → Option Nat
  | '+' :: digits => Hex.value? digits
  | digits => Hex.value? digits

/-- The character with a code point. -/
def charOf? (code : Nat) : Option Char :=
  if code.isValidChar then some (Char.ofNat code) else none

/-- The number of bytes that characters take up. -/
def byteLength (text : List Char) : Nat := (text.map Char.utf8Size).foldl (· + ·) 0

/-- The part of a name in front of its first period. -/
def stem (name : String) : List Char := name.toList.takeWhile (· != '.')

/-- A name of one character, or a common name. -/
def plain? (stem : List Char) : Option Char :=
  match stem with
  | [c] => some c
  | _ => common.lookup (String.ofList stem)

/-- A name that spells out a code point with four to six digits, or else a plain name. -/
def spelled? (stem : List Char) : Option Char :=
  match stem with
  | 'u' :: digits =>
    if 4 ≤ digits.length ∧ digits.length ≤ 6 ∧ digits.all fun c => (Hex.digit? c).isSome then
      (Hex.value? digits).bind charOf?
    else plain? stem
  | _ => plain? stem

/-- The character of a glyph name. -/
def char? (name : String) : Option Char :=
  match stem name with
  | 'u' :: 'n' :: 'i' :: digits =>
    if byteLength digits = 4 then (signedHexValue? digits).bind charOf?
    else spelled? (stem name)
  | _ => spelled? (stem name)

end PdfDisplay.GlyphName
