import PdfDisplay.Font.Basic

/-!
# Text state

The parameters of text, and the two matrices of a text object: where the next glyph goes,
and where the line began. Moving to a new line starts from where the line began; showing
glyphs moves the text matrix alone.
-/

namespace PdfDisplay

/-- What is done with glyphs. -/
inductive TextRenderMode where
  /-- They are filled. -/
  | fill
  /-- They are stroked. -/
  | stroke
  /-- They are filled and then stroked. -/
  | fillStroke
  /-- They are laid out but not painted. -/
  | invisible
  /-- They are filled, and clip what follows. -/
  | fillClip
  /-- They are stroked, and clip what follows. -/
  | strokeClip
  /-- They are filled and stroked, and clip what follows. -/
  | fillStrokeClip
  /-- They clip what follows. -/
  | clip
  deriving DecidableEq, Repr, Inhabited

namespace TextRenderMode

/-- The mode with a code. -/
def ofCode? : Int → Option TextRenderMode
  | 0 => some fill
  | 1 => some stroke
  | 2 => some fillStroke
  | 3 => some invisible
  | 4 => some fillClip
  | 5 => some strokeClip
  | 6 => some fillStrokeClip
  | 7 => some clip
  | _ => none

/-- Whether glyphs have the color of strokes rather than that of fills. -/
def usesStrokeColor : TextRenderMode → Bool
  | stroke | strokeClip => true
  | _ => false

end TextRenderMode

/-- The parameters and matrices of text. -/
structure TextState where
  /-- What is added behind each glyph. -/
  charSpacing : Float := 0
  /-- What is added behind each one-byte space. -/
  wordSpacing : Float := 0
  /-- The horizontal scaling, as a fraction. -/
  scaling : Float := 1
  /-- The distance between lines. -/
  leading : Float := 0
  /-- How far the baseline is raised. -/
  rise : Float := 0
  /-- What is done with glyphs. -/
  mode : TextRenderMode := .fill
  /-- The selected font. -/
  font? : Option Font := none
  /-- The font size. -/
  size : Float := 0
  /-- Where the next glyph goes. -/
  matrix : Transform := .identity
  /-- Where the line began. -/
  lineMatrix : Transform := .identity
  deriving Inhabited

namespace TextState

/-- Begins a text object. -/
def beginText (t : TextState) : TextState :=
  { t with matrix := .identity, lineMatrix := .identity }

/-- Selects a font. -/
def setFont (t : TextState) (font : Font) (size : Float) : TextState :=
  { t with font? := some font, size }

/-- Replaces both matrices. -/
def setMatrix (t : TextState) (matrix : Transform) : TextState :=
  { t with matrix, lineMatrix := matrix }

/-- Begins a line at a displacement from the start of the last one. -/
def moveBy (t : TextState) (x y : Float) : TextState :=
  t.setMatrix ((Transform.translation x y).andThen t.lineMatrix)

/-- Begins a line and takes its vertical distance for the leading. -/
def moveBySettingLeading (t : TextState) (x y : Float) : TextState :=
  { t with leading := -y }.moveBy x y

/-- Begins a line at the distance of the leading. -/
def nextLine (t : TextState) : TextState := t.moveBy 0.0 (-t.leading)

/-- Begins a line at the distance of the font size. -/
def nextLineBySize (t : TextState) : TextState := t.moveBy 0.0 (-t.size)

/-- Moves on along the line. -/
def advance (t : TextState) (x y : Float) : TextState :=
  { t with matrix := (Transform.translation x y).andThen t.matrix }

/-- From glyphs to the page, whose transform is given. -/
def renderingMatrix (t : TextState) (transform : Transform) : Transform :=
  ((⟨t.scaling, 0.0, 0.0, 1.0, 0.0, t.rise⟩ : Transform).andThen t.matrix).andThen transform

/-- Where the next glyph goes on the page. -/
def origin (t : TextState) (transform : Transform) : Point :=
  (t.renderingMatrix transform).point ⟨0.0, 0.0⟩

/-- How far a glyph moves the pen. In columns every glyph takes one font size. -/
def glyphAdvance (t : TextState) (width : Float) (isSpace vertical : Bool) : Point :=
  let spacing := t.charSpacing + (if isSpace then t.wordSpacing else 0.0)
  if vertical then ⟨0.0, -t.size + spacing⟩
  else ⟨(width / 1000.0 * t.size + spacing) * t.scaling, 0.0⟩

/-- How far a number between strings moves the pen, in thousandths of the font size. -/
def adjustment (t : TextState) (amount : Float) (vertical : Bool) : Point :=
  let shift := -amount / 1000.0 * t.size
  if vertical then ⟨0.0, shift⟩ else ⟨shift * t.scaling, 0.0⟩

end TextState

end PdfDisplay
