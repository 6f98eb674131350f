import PdfDisplay.Geometry

/-!
# Paths

A path is a list of segments; every move begins a new subpath. `PathBuilder` takes the path
construction operators one by one. It sends each operand through the transform in force when
the operator comes, so a later change of the transform leaves the points drawn before it
alone.

The builder has a current point exactly if it has drawn anything, and the first thing drawn
is a move.
-/

namespace PdfDisplay

/-- A segment of a path. -/
inductive PathSegment where
  /-- Begins a subpath at a point. -/
  | move (target : Point)
  /-- A straight line to a point. -/
  | line (target : Point)
  /-- A cubic curve with two control points. -/
  | curve (first second target : Point)
  /-- A line back to the start of the subpath. -/
  | close
  deriving DecidableEq, Repr

namespace PathSegment

/-- The segment with every point sent through a transform. -/
def map (t : Transform) : PathSegment → PathSegment
  | move p => move (t.point p)
  | line p => line (t.point p)
  | curve p q r => curve (t.point p) (t.point q) (t.point r)
  | close => close

/-- The points of the segment, control points included. -/
def points : PathSegment → List Point
  | move p => [p]
  | line p => [p]
  | curve p q r => [p, q, r]
  | close => []

/-- Whether the segment begins a subpath. -/
def isMove : PathSegment → Bool
  | move _ => true
  | _ => false

end PathSegment

/-- A path. -/
structure Path where
  /-- The segments. -/
  segments : List PathSegment
  deriving DecidableEq, Repr, Inhabited

namespace Path

/-- The path with every point sent through a transform. -/
def map (t : Transform) (path : Path) : Path := ⟨path.segments.map (·.map t)⟩

/-- The segments in front of the first move, behind those of the same subpath, latest
first, and the subpaths from that move on. -/
def splitFrom (done : List PathSegment) : List PathSegment → List (List PathSegment)
  | [] => if done.isEmpty then [] else [done.reverse]
  | s :: rest =>
    if s.isMove && !done.isEmpty then done.reverse :: splitFrom [s] rest
    else splitFrom (s :: done) rest

/-- The segments split in front of every move. -/
def subpaths (path : Path) : List (List PathSegment) := splitFrom [] path.segments

/-- All points, control points included. -/
def points (path : Path) : List Point := path.segments.flatMap PathSegment.points

/-- The least bounds that hold all points. -/
def bounds? (path : Path) : Option Bounds := Bounds.ofPoints? path.points

end Path

/-! ## Construction -/

/-- A path under construction. -/
structure PathBuilder where
  /-- The segments drawn, latest first. -/
  drawn : List PathSegment
  /-- Where the next segment begins. -/
  current? : Option Point
  /-- Where the subpath began. -/
  start? : Option Point
  /-- The transform for the operands to come. -/
  transform : Transform
  deriving DecidableEq, Repr

namespace PathBuilder

/-- Nothing drawn. -/
def new (transform : Transform) : PathBuilder := ⟨[], none, none, transform⟩

/-- Whether nothing is drawn. -/
def isEmpty (b : PathBuilder) : Bool := b.drawn.isEmpty

/-- The path drawn so far. -/
def path (b : PathBuilder) : Path := ⟨b.drawn.reverse⟩

/-- The image of an operand. -/
def place (b : PathBuilder) (x y : Float) : Point := b.transform.point ⟨x, y⟩

/-- Draws a segment that ends at a point. -/
def draw (b : PathBuilder) (segment : PathSegment) (target : Point) : PathBuilder :=
  { b with drawn := segment :: b.drawn, current? := some target }

/-- Begins a subpath. -/
def moveTo (b : PathBuilder) (x y : Float) : PathBuilder :=
  { b.draw (.move (b.place x y)) (b.place x y) with start? := some (b.place x y) }

/-- Begins a subpath if there is no current point. -/
def ensureStart (b : PathBuilder) (x y : Float) : PathBuilder :=
  if b.current?.isSome then b else b.moveTo x y

/-- Draws a line; without a current point it only moves. -/
def lineTo (b : PathBuilder) (x y : Float) : PathBuilder :=
  if b.current?.isSome then b.draw (.line (b.place x y)) (b.place x y) else b.moveTo x y

/-- Draws a curve; without a current point it begins at the first control point. -/
def curveTo (b : PathBuilder) (x₁ y₁ x₂ y₂ x₃ y₃ : Float) : PathBuilder :=
  (b.ensureStart x₁ y₁).draw
    (.curve (b.place x₁ y₁) (b.place x₂ y₂) (b.place x₃ y₃)) (b.place x₃ y₃)

/-- Draws a curve whose first control point is the current point; without one it draws
nothing. -/
def curveFromCurrent (b : PathBuilder) (x₂ y₂ x₃ y₃ : Float) : PathBuilder :=
  match b.current? with
  | some p => b.draw (.curve p (b.place x₂ y₂) (b.place x₃ y₃)) (b.place x₃ y₃)
  | none => b

/-- Draws a curve whose second control point is its end. -/
def curveToEnd (b : PathBuilder) (x₁ y₁ x₃ y₃ : Float) : PathBuilder :=
  (b.ensureStart x₁ y₁).draw
    (.curve (b.place x₁ y₁) (b.place x₃ y₃) (b.place x₃ y₃)) (b.place x₃ y₃)

/-- Closes the subpath, if anything is drawn. -/
def close (b : PathBuilder) : PathBuilder :=
  if b.isEmpty then b
  else { b with drawn := .close :: b.drawn, current? := b.start?.orElse fun _ => b.current? }

/-- Draws a rectangle: a move, three lines, and a close. -/
def rectangle (b : PathBuilder) (x y width height : Float) : PathBuilder :=
  let b := b.moveTo x y
  let b := b.lineTo (x + width) y
  let b := b.lineTo (x + width) (y + height)
  let b := b.lineTo x (y + height)
  b.close

/-- Changes the transform for the operands to come. -/
def setTransform (b : PathBuilder) (transform : Transform) : PathBuilder :=
  { b with transform := transform }

/-- The builder with nothing drawn. -/
def reset (b : PathBuilder) : PathBuilder := new b.transform

end PathBuilder

end PdfDisplay
