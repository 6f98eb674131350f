import PdfDisplay.Number.Binary

/-!
# Points, transforms and bounds

A transform takes `(x, y)` to the row vector `[x y 1]` times its matrix, so `a.andThen b`
applies `a` first and `b` next. Page contents have their origin at the bottom left and the
display list has it at the top left; `Transform.flip` goes from the one to the other.

The sums are evaluated from left to right as they are written here: doubles do not associate.
-/

namespace PdfDisplay

/-- A point of the plane. -/
structure Point where
  /-- The horizontal coordinate. -/
  x : Float
  /-- The vertical coordinate. -/
  y : Float
  deriving DecidableEq, Repr, Inhabited

/-- The affine transform `[a b c d e f]`. -/
structure Transform where
  /-- What the horizontal unit contributes to the horizontal coordinate. -/
  a : Float
  /-- What the horizontal unit contributes to the vertical coordinate. -/
  b : Float
  /-- What the vertical unit contributes to the horizontal coordinate. -/
  c : Float
  /-- What the vertical unit contributes to the vertical coordinate. -/
  d : Float
  /-- The horizontal displacement. -/
  e : Float
  /-- The vertical displacement. -/
  f : Float
  deriving DecidableEq, Repr

namespace Transform

/-- The transform that changes nothing. -/
def identity : Transform := ⟨1, 0, 0, 1, 0, 0⟩

instance : Inhabited Transform := ⟨identity⟩

/-- The displacement by `(x, y)`. -/
def translation (x y : Float) : Transform := ⟨1, 0, 0, 1, x, y⟩

/-- From the bottom-left origin to the top-left origin of a page of the given height. -/
def flip (height : Float) : Transform := ⟨1, 0, 0, -1, 0, height⟩

/-- The first six of some values, if there are as many. -/
def ofValues? : List Float → Option Transform
  | a :: b :: c :: d :: e :: f :: _ => some ⟨a, b, c, d, e, f⟩
  | _ => none

/-- The six values. -/
def values (t : Transform) : List Float := [t.a, t.b, t.c, t.d, t.e, t.f]

/-- Applies `t` and then `u`. -/
def andThen (t u : Transform) : Transform where
  a := t.a * u.a + t.b * u.c
  b := t.a * u.b + t.b * u.d
  c := t.c * u.a + t.d * u.c
  d := t.c * u.b + t.d * u.d
  e := t.e * u.a + t.f * u.c + u.e
  f := t.e * u.b + t.f * u.d + u.f

/-- The image of a point. -/
def point (t : Transform) (p : Point) : Point :=
  ⟨t.a * p.x + t.c * p.y + t.e, t.b * p.x + t.d * p.y + t.f⟩

/-- The image of a displacement. -/
def vector (t : Transform) (dx dy : Float) : Point :=
  ⟨t.a * dx + t.c * dy, t.b * dx + t.d * dy⟩

/-- The factor by which lengths grow on average: the root of the absolute determinant. -/
def meanScale (t : Transform) : Float := (t.a * t.d - t.b * t.c).abs.sqrt

end Transform

/-- A rectangle with sides parallel to the axes, in coordinates that grow downward. -/
structure Bounds where
  /-- The left side. -/
  left : Float
  /-- The upper side. -/
  top : Float
  /-- The right side. -/
  right : Float
  /-- The lower side. -/
  bottom : Float
  deriving DecidableEq, Repr, Inhabited

namespace Bounds

/-- The bounds of one point. -/
def ofPoint (p : Point) : Bounds := ⟨p.x, p.y, p.x, p.y⟩

/-- The bounds extended to a point. -/
def extend (b : Bounds) (p : Point) : Bounds :=
  ⟨lesser b.left p.x, lesser b.top p.y, greater b.right p.x, greater b.bottom p.y⟩

/-- The least bounds that hold some points; no points have none. -/
def ofPoints? : List Point → Option Bounds
  | [] => none
  | p :: rest => some (rest.foldl extend (ofPoint p))

/-- The horizontal extent. -/
def width (b : Bounds) : Float := b.right - b.left

/-- The vertical extent. -/
def height (b : Bounds) : Float := b.bottom - b.top

/-- The least bounds that hold both. -/
def union (b c : Bounds) : Bounds :=
  ⟨lesser b.left c.left, lesser b.top c.top, greater b.right c.right, greater b.bottom c.bottom⟩

end Bounds

end PdfDisplay
