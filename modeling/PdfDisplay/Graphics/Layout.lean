import PdfDisplay.Graphics.Instruction

/-!
# Text layout

Showing strings moves the pen behind each glyph and at each displacement between strings.
The text of a string depends on its codes alone; where it begins is the distance that the
pen has moved before it. Strings without text leave no segment, but move the pen.
-/

namespace PdfDisplay

/-- The pen: the state of text, and how far along the line it has moved. -/
structure Pen where
  /-- The state of text. -/
  text : TextState
  /-- The distance from where the pen began. -/
  distance : Float
  deriving Inhabited

namespace Pen

/-- Moves the pen. Columns go down. -/
def move (pen : Pen) (vertical : Bool) (shift : Point) : Pen :=
  ⟨pen.text.advance shift.x shift.y,
    pen.distance + (if vertical then -shift.y else shift.x)⟩

/-- Moves the pen over a glyph. -/
def glyph (font : Font) (pen : Pen) (code : Nat) : Pen :=
  let isSpace := code == 32 && font.codeLength == 1
  pen.move font.isVertical (pen.text.glyphAdvance (font.width code) isSpace font.isVertical)

/-- Moves the pen over the glyphs of a string. -/
def string (font : Font) (pen : Pen) (bytes : Bytes) : Pen :=
  (font.codes bytes).foldl (glyph font) pen

/-- Moves the pen by a displacement. -/
def adjust (font : Font) (pen : Pen) (amount : Float) : Pen :=
  pen.move font.isVertical (pen.text.adjustment amount font.isVertical)

end Pen

/-- The text of a string. -/
def Font.stringText (font : Font) (bytes : Bytes) : String :=
  String.join ((font.codes bytes).map font.text)

/-- Shown text: where the pen ends, and the texts with the distances at which they begin. -/
structure Layout where
  /-- The pen behind the last piece. -/
  pen : Pen
  /-- The texts that are not empty. -/
  segments : List TextSegment
  deriving Inhabited

namespace Layout

/-- Lays out pieces from where the pen is. -/
def ofPieces (font : Font) (pen : Pen) : List TextPiece → Layout
  | [] => ⟨pen, []⟩
  | .adjust amount :: rest => ofPieces font (pen.adjust font amount) rest
  | .string bytes :: rest =>
    let layout := ofPieces font (pen.string font bytes) rest
    let text := font.stringText bytes
    if text.isEmpty then layout
    else { layout with segments := ⟨pen.distance, text⟩ :: layout.segments }

end Layout

/-! ## Items -/

/-- Degrees in a radian. -/
def degreesPerRadian : Float := 57.29577951308232

namespace TextItem

/-- The factor from distances along the line to distances on the page. -/
def lineScale (font : Font) (frame : GraphicsFrame) : Float :=
  let placed := frame.text.matrix.andThen frame.transform
  if font.isVertical then hypot placed.c placed.d else hypot placed.a placed.b

/-- The item of text that is shown in a font, from the frame before it was shown. The angle
is subtracted from zero, so that a straight line has the angle zero without a sign. -/
def ofSegments (font : Font) (frame : GraphicsFrame) (pageHeight : Float)
    (segments : List TextSegment) : TextItem :=
  let start := frame.text.renderingMatrix frame.transform
  let placed := start.andThen (Transform.flip pageHeight)
  let scale := lineScale font frame
  { position := ⟨placed.e, placed.f⟩
    rotation := 0.0 - Float.atan2 start.b start.a * degreesPerRadian
    family := font.family
    size := frame.text.size * hypot start.a start.b
    color :=
      if frame.text.mode.usesStrokeColor then frame.style.strokeColor else frame.style.fillColor
    text := String.join (segments.map (·.text))
    segments := segments.map fun segment => { segment with offset := segment.offset * scale }
    writingMode := font.writingMode
    invisible := frame.text.mode = .invisible }

end TextItem

end PdfDisplay
