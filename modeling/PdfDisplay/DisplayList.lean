import PdfDisplay.Painting
import PdfDisplay.Raster
import PdfDisplay.Text.Normal

/-!
# Display lists

What a page shows: paths, runs of text and images, in the order in which they are painted.
All coordinates have their origin at the top left of the page and grow downward.
-/

namespace PdfDisplay

/-! ## Paths -/

/-- The style with its lengths multiplied by a factor. -/
def PaintStyle.scaled (style : PaintStyle) (factor : Float) : PaintStyle :=
  { style with lineWidth := style.lineWidth * factor, dash := style.dash.scaled factor }

/-- A painted path. -/
structure PathItem where
  /-- The path. -/
  path : Path
  /-- Whether it is filled and stroked. -/
  mode : PaintMode
  /-- Which points are filled. -/
  rule : FillRule
  /-- The style, in the units of the page. -/
  style : PaintStyle
  deriving DecidableEq, Repr, Inhabited

/-- The item of a path that is painted in a style, under a transform that scales the lengths
of the style. -/
def PathItem.ofPainted (path : Path) (operator : PaintOperator) (style : PaintStyle)
    (transform : Transform) (pageHeight : Float) : PathItem where
  path := path.map (Transform.flip pageHeight)
  mode := operator.mode
  rule := operator.rule
  style := style.scaled transform.meanScale

/-- The bounds of the path. -/
def PathItem.bounds? (item : PathItem) : Option Bounds := item.path.bounds?

/-! ## Text -/

/-- The direction in which text is written. -/
inductive WritingMode where
  /-- In rows. -/
  | horizontal
  /-- In columns. -/
  | vertical
  deriving DecidableEq, Repr, Inhabited

/-- A part of a text run that was shown as one string. -/
structure TextSegment where
  /-- The distance from the start of the run. -/
  offset : Float
  /-- The text. -/
  text : String
  deriving DecidableEq, Repr, Inhabited

/-- A run of text. -/
structure TextItem where
  /-- Where the baseline of the first glyph begins. -/
  position : Point
  /-- The angle of the baseline, in degrees. -/
  rotation : Float
  /-- The font family. -/
  family : String
  /-- The font size. -/
  size : Float
  /-- The color. -/
  color : Color
  /-- The text of all segments. -/
  text : String
  /-- The segments. -/
  segments : List TextSegment
  /-- The direction. -/
  writingMode : WritingMode
  /-- Whether the text is laid out but not painted. -/
  invisible : Bool
  deriving DecidableEq, Repr, Inhabited

namespace TextSegment

/-- The segment with its text normalized. -/
def normalized (form : NormalForm) (segment : TextSegment) : TextSegment :=
  { segment with text := form.apply segment.text }

end TextSegment

namespace TextItem

/-- The run with its text, and the text of each segment, normalized. -/
def normalized (form : NormalForm) (item : TextItem) : TextItem :=
  { item with
    text := form.apply item.text
    segments := item.segments.map (·.normalized form) }

end TextItem

/-! ## Images -/

/-- A placed image. -/
structure ImageItem where
  /-- The name of the image on its page. -/
  name : String
  /-- From the unit square, whose origin is the first pixel of the first row, to the page. -/
  transform : Transform
  /-- The bounds on the page. -/
  bounds : Bounds
  /-- Pixels in a row. -/
  pixelWidth : Nat
  /-- Rows. -/
  pixelHeight : Nat
  /-- The image. -/
  raster : Raster
  deriving DecidableEq, Repr, Inhabited

namespace ImageItem

/-- From the unit square with the first row on top to the one with the first row at its
upper end. -/
def rowOrder : Transform := ⟨1, 0, 0, -1, 0, 1⟩

/-- The corners of the unit square. -/
def corners : List Point := [⟨0, 0⟩, ⟨1, 0⟩, ⟨0, 1⟩, ⟨1, 1⟩]

/-- The item of an image that is drawn under a transform. -/
def place (name : String) (transform : Transform) (pageHeight : Float) (raster : Raster) :
    ImageItem :=
  let placed := (rowOrder.andThen transform).andThen (Transform.flip pageHeight)
  { name
    transform := placed
    bounds := (Bounds.ofPoints? (corners.map placed.point)).getD ⟨0, 0, 0, 0⟩
    pixelWidth := raster.width
    pixelHeight := raster.height
    raster }

end ImageItem

/-! ## Lists -/

/-- An item of a display list. -/
inductive DisplayItem where
  /-- A painted path. -/
  | path (item : PathItem)
  /-- A run of text. -/
  | text (item : TextItem)
  /-- A placed image. -/
  | image (item : ImageItem)
  deriving DecidableEq, Repr, Inhabited

namespace DisplayItem

/-- The path, if the item is one. -/
def path? : DisplayItem → Option PathItem
  | path item => some item
  | _ => none

/-- The run of text, if the item is one. -/
def text? : DisplayItem → Option TextItem
  | text item => some item
  | _ => none

/-- The image, if the item is one. -/
def image? : DisplayItem → Option ImageItem
  | image item => some item
  | _ => none

/-- The item with its text normalized. -/
def normalized (form : NormalForm) : DisplayItem → DisplayItem
  | text item => text (item.normalized form)
  | item => item

end DisplayItem

/-- The items of a page in the order in which they are painted. -/
abbrev DisplayList := List DisplayItem

namespace DisplayList

/-- The paths of a list. -/
def paths (items : DisplayList) : List PathItem := items.filterMap DisplayItem.path?

/-- The runs of text of a list. -/
def texts (items : DisplayList) : List TextItem := items.filterMap DisplayItem.text?

/-- The images of a list. -/
def images (items : DisplayList) : List ImageItem := items.filterMap DisplayItem.image?

/-- The list with all text normalized. -/
def normalized (form : NormalForm) (items : DisplayList) : DisplayList :=
  if form = .none then items else items.map (·.normalized form)

end DisplayList

end PdfDisplay
