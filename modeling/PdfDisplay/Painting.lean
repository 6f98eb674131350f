import PdfDisplay.Path

/-!
# Colors, line styles and painting

How a path is painted: the colors, the style of lines, and which of filling and stroking a
painting operator asks for. Color components lie between zero and one.
-/

namespace PdfDisplay

/-- A color by its red, green and blue components. -/
structure Color where
  /-- The red component. -/
  red : Float
  /-- The green component. -/
  green : Float
  /-- The blue component. -/
  blue : Float
  deriving DecidableEq, Repr

namespace Color

/-- A component moved between zero and one; NaN is zero. -/
def component (x : Float) : Float := if x.isNaN then 0 else clamp 0 1 x

/-- The color of some components, each moved between zero and one. -/
def rgb (red green blue : Float) : Color := ⟨component red, component green, component blue⟩

/-- Black. -/
def black : Color := rgb 0 0 0

instance : Inhabited Color := ⟨black⟩

/-- A shade of gray. -/
def gray (level : Float) : Color := rgb level level level

/-- The color that four inks give: each primary takes away itself and the black. -/
def cmyk (cyan magenta yellow black : Float) : Color :=
  rgb (1.0 - lesser (cyan + black) 1.0) (1.0 - lesser (magenta + black) 1.0)
    (1.0 - lesser (yellow + black) 1.0)

/-- A component as two hexadecimal digits. -/
def hexByte (x : Float) : List Char :=
  let n := (toByte (x * 255.0)).toNat
  [Nat.digitChar (n / 16), Nat.digitChar (n % 16)]

/-- The color as a number sign and six hexadecimal digits. -/
def hex (c : Color) : String :=
  String.ofList ('#' :: (hexByte c.red ++ hexByte c.green ++ hexByte c.blue))

end Color

/-- How lines end. -/
inductive LineCap where
  /-- At the end point. -/
  | butt
  /-- In a half circle. -/
  | round
  /-- In half a square. -/
  | square
  deriving DecidableEq, Repr, Inhabited

/-- The line end with a code. -/
def LineCap.ofCode? : Int → Option LineCap
  | 0 => some butt
  | 1 => some round
  | 2 => some square
  | _ => none

/-- How lines meet. -/
inductive LineJoin where
  /-- In a corner. -/
  | miter
  /-- In an arc. -/
  | round
  /-- In an edge. -/
  | bevel
  deriving DecidableEq, Repr, Inhabited

/-- The line meeting with a code. -/
def LineJoin.ofCode? : Int → Option LineJoin
  | 0 => some miter
  | 1 => some round
  | 2 => some bevel
  | _ => none

/-- The lengths of dashes and gaps; no lengths make a solid line. -/
structure DashPattern where
  /-- The lengths. -/
  lengths : List Float
  /-- Where in the pattern a line begins. -/
  phase : Float
  deriving DecidableEq, Repr

namespace DashPattern

/-- A solid line. -/
def solid : DashPattern := ⟨[], 0⟩

instance : Inhabited DashPattern := ⟨solid⟩

/-- Whether the line is solid. -/
def isSolid (d : DashPattern) : Bool := d.lengths.isEmpty

/-- The pattern with all lengths multiplied by a factor. -/
def scaled (d : DashPattern) (factor : Float) : DashPattern :=
  ⟨d.lengths.map (· * factor), d.phase * factor⟩

end DashPattern

/-- Which points a path encloses. -/
inductive FillRule where
  /-- Those that the path winds around. -/
  | nonZeroWinding
  /-- Those from which a ray crosses the path an odd number of times. -/
  | evenOdd
  deriving DecidableEq, Repr, Inhabited

/-- What a painting operator does with a path. -/
inductive PaintMode where
  /-- Fills it. -/
  | fill
  /-- Strokes it. -/
  | stroke
  /-- Fills it and then strokes it. -/
  | fillAndStroke
  deriving DecidableEq, Repr, Inhabited

/-- Whether the path is filled. -/
def PaintMode.fills : PaintMode → Bool
  | fill | fillAndStroke => true
  | stroke => false

/-- Whether the path is stroked. -/
def PaintMode.strokes : PaintMode → Bool
  | stroke | fillAndStroke => true
  | fill => false

/-- What a painting operator takes from the graphics state. -/
structure PaintStyle where
  /-- The width of lines. -/
  lineWidth : Float := 1.0
  /-- How lines end. -/
  lineCap : LineCap := .butt
  /-- How lines meet. -/
  lineJoin : LineJoin := .miter
  /-- How far a corner may reach, in line widths. -/
  miterLimit : Float := 10.0
  /-- The dashes. -/
  dash : DashPattern := .solid
  /-- The color of strokes. -/
  strokeColor : Color := .black
  /-- The color of fills. -/
  fillColor : Color := .black
  deriving DecidableEq, Repr, Inhabited

/-- A painting operator. -/
structure PaintOperator where
  /-- What it does with the path. -/
  mode : PaintMode
  /-- Which points it fills. -/
  rule : FillRule := .nonZeroWinding
  /-- Whether it closes the path first. -/
  closes : Bool := false
  deriving DecidableEq, Repr

/-- The painting operator with a name. -/
def PaintOperator.ofName? (name : String) : Option PaintOperator :=
  match name with
  | "S" => some ⟨.stroke, .nonZeroWinding, false⟩
  | "s" => some ⟨.stroke, .nonZeroWinding, true⟩
  | "f" => some ⟨.fill, .nonZeroWinding, false⟩
  | "F" => some ⟨.fill, .nonZeroWinding, false⟩
  | "f*" => some ⟨.fill, .evenOdd, false⟩
  | "B" => some ⟨.fillAndStroke, .nonZeroWinding, false⟩
  | "B*" => some ⟨.fillAndStroke, .evenOdd, false⟩
  | "b" => some ⟨.fillAndStroke, .nonZeroWinding, true⟩
  | "b*" => some ⟨.fillAndStroke, .evenOdd, true⟩
  | _ => none

/-- The path that a painting operator paints. -/
def PathBuilder.painted (b : PathBuilder) (operator : PaintOperator) : Path :=
  if operator.closes then b.close.path else b.path

end PdfDisplay
