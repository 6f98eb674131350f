import PdfDisplay.CharMap
import PdfDisplay.DisplayList
import PdfDisplay.Encoding
import PdfDisplay.Font.Program
import PdfDisplay.WidthTable

/-!
# Fonts

A font turns the bytes of a shown string into character codes, and gives the text and the
width of each code. The text comes from the character map if there is one, else, for simple
fonts, from the encoding, and else the code is taken for a code point.
-/

namespace PdfDisplay

/-- The kind of a font. -/
inductive FontKind where
  /-- A composite font. -/
  | composite
  /-- A Type 1 font. -/
  | type1
  /-- A multiple master font. -/
  | multipleMaster
  /-- A TrueType font. -/
  | trueType
  /-- A font whose glyphs are page contents. -/
  | type3
  /-- Any other kind. -/
  | other (name : String)
  deriving DecidableEq, Repr, Inhabited

namespace FontKind

/-- The kind with a name. -/
def ofName (name : String) : FontKind :=
  match name with
  | "Type0" => composite
  | "Type1" => type1
  | "MMType1" => multipleMaster
  | "TrueType" => trueType
  | "Type3" => type3
  | name => other name

/-- The name of the kind. -/
def name : FontKind → String
  | composite => "Type0"
  | type1 => "Type1"
  | multipleMaster => "MMType1"
  | trueType => "TrueType"
  | type3 => "Type3"
  | other name => name

/-- Whether the kind is composite. -/
def isComposite : FontKind → Bool
  | composite => true
  | _ => false

end FontKind

/-- A font. -/
structure Font where
  /-- The name by which page contents select the font. -/
  tag : String
  /-- The kind. -/
  kind : FontKind
  /-- The declared name. -/
  baseName : String
  /-- The family: the declared name without the mark of a subset, or else the tag. -/
  family : String
  /-- The name of the encoding, if it has one. -/
  encodingName? : Option String
  /-- The encoding of a simple font. -/
  encoding : Encoding
  /-- The embedded program. -/
  program? : Option FontProgram
  /-- The character map. -/
  charMap? : Option CharMap
  /-- The declared widths. -/
  widths? : Option WidthTable
  /-- The width of codes without a declared one. -/
  defaultWidth : Float
  /-- The direction in which the font is written. -/
  writingMode : WritingMode
  /-- How many bytes a code has. -/
  codeLength : Nat
  deriving Inhabited

/-- A declared name without the mark of a subset: six capital letters and a plus sign. -/
def withoutSubsetMark (name : String) : String :=
  let mark := name.toList.takeWhile (· != '+')
  match name.toList.dropWhile (· != '+') with
  | _ :: rest => if mark.length = 6 ∧ mark.all Char.isUpper then String.ofList rest else name
  | [] => name

namespace Font

/-- The font for a tag that names none: one-byte codes that are code points, with the
standard width. -/
def fallback (tag : String) : Font where
  tag := tag
  kind := .other ""
  baseName := ""
  family := tag
  encodingName? := none
  encoding := .unspecified
  program? := none
  charMap? := none
  widths? := none
  defaultWidth := WidthTable.standard
  writingMode := .horizontal
  codeLength := 1

/-- The number that bytes write, the most significant first. -/
def codeOf (bytes : Bytes) : Nat := bytes.foldl (fun code b => code * 256 + b.toNat) 0

/-- The codes in bytes that are cut into pieces of `length` bytes. The bytes read of the
piece that is cut off are `piece`, the last one first. -/
def codesFrom (length : Nat) (piece : Bytes) : Bytes → List Nat
  | [] => if piece.isEmpty then [] else [codeOf piece.reverse]
  | b :: rest =>
    if length ≤ piece.length + 1 then codeOf (b :: piece).reverse :: codesFrom length [] rest
    else codesFrom length (b :: piece) rest

/-- The codes in a string. A last piece that is too short is a code of its own. -/
def codes (font : Font) (bytes : Bytes) : List Nat := codesFrom font.codeLength [] bytes

/-- The character that a code is as a code point. -/
def codePoint (code : Nat) : Char := if code.isValidChar then Char.ofNat code else replacement

/-- The character that the encoding of a simple font gives a code. -/
def encoded? (font : Font) (code : Nat) : Option Char :=
  if font.kind.isComposite ∨ 256 ≤ code then none else font.encoding.decode? (UInt8.ofNat code)

/-- The text of a code. -/
def text (font : Font) (code : Nat) : String :=
  match font.charMap?.bind (·.lookup? code) with
  | some text => text
  | none => String.singleton ((font.encoded? code).getD (codePoint code))

/-- The width of a code, in thousandths of the font size. -/
def width (font : Font) (code : Nat) : Float :=
  (font.widths?.bind (·.explicit? code)).getD font.defaultWidth

/-- Whether the font is written in columns. -/
def isVertical (font : Font) : Bool := font.writingMode = .vertical

end Font

end PdfDisplay
