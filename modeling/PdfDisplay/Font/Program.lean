import PdfDisplay.Text.Utf8

/-!
# Font programs

The file of glyphs that a font embeds, with the format that the document declares for it.
-/

namespace PdfDisplay

/-- The format of a font program. -/
inductive FontFormat where
  /-- A TrueType file. -/
  | trueType
  /-- A Type 1 file. -/
  | type1
  /-- A compact font file. -/
  | openType
  /-- Any other file. -/
  | binary
  deriving DecidableEq, Repr, Inhabited

namespace FontFormat

/-- The word for the format. -/
def text : FontFormat → String
  | trueType => "truetype"
  | type1 => "type1"
  | openType => "opentype"
  | binary => "binary"

/-- The media type of the format. -/
def mediaType : FontFormat → String
  | trueType => "font/ttf"
  | type1 => "application/x-font-type1"
  | openType => "font/otf"
  | binary => "application/octet-stream"

end FontFormat

/-- A font program. -/
structure FontProgram where
  /-- The bytes of the file. -/
  bytes : Bytes
  /-- The format. -/
  format : FontFormat
  deriving DecidableEq, Repr, Inhabited

namespace FontProgram

/-- The number of bytes. -/
def size (program : FontProgram) : Nat := program.bytes.length

/-- Whether the file is empty. -/
def isEmpty (program : FontProgram) : Bool := program.bytes.isEmpty

end FontProgram

end PdfDisplay
