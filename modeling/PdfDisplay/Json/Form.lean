import PdfDisplay.DisplayList
import PdfDisplay.Font.Program
import PdfDisplay.Json.Shape
import PdfDisplay.Warning

/-!
# The JSON form of display lists

Display lists and warnings as JSON values, written and read back. Members are written in
alphabetical order. Reading takes values as they are: colors are not moved into their range,
and rasters not checked against their dimensions.
-/

namespace PdfDisplay

/-! ## Geometry -/

namespace Point

/-- The JSON form of a point. -/
def toJson (p : Point) : Json := .object [("x", .ofFloat p.x), ("y", .ofFloat p.y)]

/-- The point with a JSON form. -/
def ofJson? (value : Json) : Option Point := do
  let r ← Json.record? ["x", "y"] value
  return ⟨← r.required "x" Json.float?, ← r.required "y" Json.float?⟩

end Point

namespace Transform

/-- The JSON form of a transform. -/
def toJson (t : Transform) : Json :=
  .object [("a", .ofFloat t.a), ("b", .ofFloat t.b), ("c", .ofFloat t.c), ("d", .ofFloat t.d),
    ("e", .ofFloat t.e), ("f", .ofFloat t.f)]

/-- The transform with a JSON form. -/
def ofJson? (value : Json) : Option Transform := do
  let r ← Json.record? ["a", "b", "c", "d", "e", "f"] value
  return ⟨← r.required "a" Json.float?, ← r.required "b" Json.float?,
    ← r.required "c" Json.float?, ← r.required "d" Json.float?,
    ← r.required "e" Json.float?, ← r.required "f" Json.float?⟩

end Transform

namespace Bounds

/-- The JSON form of bounds. -/
def toJson (b : Bounds) : Json :=
  .object [("bottom", .ofFloat b.bottom), ("top", .ofFloat b.top), ("x0", .ofFloat b.left),
    ("x1", .ofFloat b.right)]

/-- The bounds with a JSON form. -/
def ofJson? (value : Json) : Option Bounds := do
  let r ← Json.record? ["x0", "top", "x1", "bottom"] value
  return ⟨← r.required "x0" Json.float?, ← r.required "top" Json.float?,
    ← r.required "x1" Json.float?, ← r.required "bottom" Json.float?⟩

end Bounds

/-! ## Painting -/

namespace Color

/-- The JSON form of a color. -/
def toJson (c : Color) : Json :=
  .object [("b", .ofFloat c.blue), ("g", .ofFloat c.green), ("r", .ofFloat c.red)]

/-- The color with a JSON form. -/
def ofJson? (value : Json) : Option Color := do
  let r ← Json.record? ["r", "g", "b"] value
  return ⟨← r.required "r" Json.float?, ← r.required "g" Json.float?,
    ← r.required "b" Json.float?⟩

end Color

namespace LineCap

/-- The name of a line end. -/
def name : LineCap → String
  | butt => "Butt"
  | round => "Round"
  | square => "Square"

/-- The JSON form of a line end. -/
def toJson (cap : LineCap) : Json := .string cap.name

/-- The line end with a JSON form. -/
def ofJson? : Json → Option LineCap := Json.simpleChoice? .loose [butt, round, square] name

end LineCap

namespace LineJoin

/-- The name of a line meeting. -/
def name : LineJoin → String
  | miter => "Miter"
  | round => "Round"
  | bevel => "Bevel"

/-- The JSON form of a line meeting. -/
def toJson (join : LineJoin) : Json := .string join.name

/-- The line meeting with a JSON form. -/
def ofJson? : Json → Option LineJoin := Json.simpleChoice? .loose [miter, round, bevel] name

end LineJoin

namespace DashPattern

/-- The JSON form of dashes. -/
def toJson (d : DashPattern) : Json :=
  .object [("array", .ofList .ofFloat d.lengths), ("phase", .ofFloat d.phase)]

/-- The dashes with a JSON form. -/
def ofJson? (value : Json) : Option DashPattern := do
  let r ← Json.record? ["array", "phase"] value
  return ⟨← r.required "array" (Json.list? Json.float?), ← r.required "phase" Json.float?⟩

end DashPattern

namespace FillRule

/-- The name of a fill rule. -/
def name : FillRule → String
  | nonZeroWinding => "NonZeroWinding"
  | evenOdd => "EvenOdd"

/-- The JSON form of a fill rule. -/
def toJson (rule : FillRule) : Json := .string rule.name

/-- The fill rule with a JSON form. -/
def ofJson? : Json → Option FillRule := Json.simpleChoice? .loose [nonZeroWinding, evenOdd] name

end FillRule

namespace PaintMode

/-- The name of what is done with a path. -/
def name : PaintMode → String
  | fill => "Fill"
  | stroke => "Stroke"
  | fillAndStroke => "FillAndStroke"

/-- The JSON form of what is done with a path. -/
def toJson (mode : PaintMode) : Json := .string mode.name

/-- What is done with a path, from its JSON form. -/
def ofJson? : Json → Option PaintMode :=
  Json.simpleChoice? .loose [fill, stroke, fillAndStroke] name

end PaintMode

/-! ## Paths -/

namespace PathSegment

/-- The JSON form of a segment. -/
def toJson : PathSegment → Json
  | move p => .choice "MoveTo" p.toJson
  | line p => .choice "LineTo" p.toJson
  | curve p q r =>
    .choice "CurveTo" (.object [("cp1", p.toJson), ("cp2", q.toJson), ("end", r.toJson)])
  | close => .string "ClosePath"

/-- The three points of a curve with a JSON form. -/
def curveOfJson? (reading : Json.Reading) (value : Json) : Option PathSegment := do
  let r ← reading.record? ["cp1", "cp2", "end"] value
  return .curve (← r.required "cp1" Point.ofJson?) (← r.required "cp2" Point.ofJson?)
    (← r.required "end" Point.ofJson?)

/-- The segment with a JSON form. -/
def ofJson? (reading : Json.Reading) (value : Json) : Option PathSegment :=
  match Json.choiceData? value with
  | some ("MoveTo", data) => (Point.ofJson? data).map move
  | some ("LineTo", data) => (Point.ofJson? data).map line
  | some ("CurveTo", data) => curveOfJson? reading data
  | _ => Json.simpleChoice? reading [close] (fun _ => "ClosePath") value

end PathSegment

namespace Path

/-- The JSON form of a path. -/
def toJson (path : Path) : Json := .object [("segments", .ofList PathSegment.toJson path.segments)]

/-- The path with a JSON form. -/
def ofJson? (reading : Json.Reading) (value : Json) : Option Path := do
  let r ← Json.record? ["segments"] value
  return ⟨← r.required "segments" (Json.list? (PathSegment.ofJson? reading))⟩

end Path

/-! ## Rasters -/

namespace RasterData

/-- The JSON form of the data of a raster. -/
def toJson : RasterData → Json
  | rgba bytes => .choice "Rgba" (.ofBytes bytes)
  | jpeg bytes => .choice "Jpeg" (.ofBytes bytes)

/-- The data of a raster with a JSON form. -/
def ofJson? (value : Json) : Option RasterData :=
  match Json.choiceData? value with
  | some ("Rgba", data) => (Json.bytes? data).map rgba
  | some ("Jpeg", data) => (Json.bytes? data).map jpeg
  | _ => none

end RasterData

namespace Raster

/-- The JSON form of a raster. -/
def toJson (raster : Raster) : Json :=
  .object [("data", raster.data.toJson), ("height", .ofNat raster.height),
    ("width", .ofNat raster.width)]

/-- The raster with a JSON form. -/
def ofJson? (value : Json) : Option Raster := do
  let r ← Json.record? ["width", "height", "data"] value
  return ⟨← r.required "width" Json.nat32?, ← r.required "height" Json.nat32?,
    ← r.required "data" RasterData.ofJson?⟩

end Raster

/-! ## Items -/

namespace PathItem

/-- The members of the JSON form of a path item. -/
def members (item : PathItem) : List (String × Json) := [
  ("dash", item.style.dash.toJson),
  ("fill_color", item.style.fillColor.toJson),
  ("fill_rule", item.rule.toJson),
  ("kind", .string "path"),
  ("line_cap", item.style.lineCap.toJson),
  ("line_join", item.style.lineJoin.toJson),
  ("line_width", .ofFloat item.style.lineWidth),
  ("miter_limit", .ofFloat item.style.miterLimit),
  ("paint", item.mode.toJson),
  ("path", item.path.toJson),
  ("stroke_color", item.style.strokeColor.toJson)]

/-- The keys of the data of a path item, in order. -/
def keys : List String := ["path", "paint", "fill_rule", "fill_color", "stroke_color",
  "line_width", "line_cap", "line_join", "miter_limit", "dash"]

/-- The path item with a JSON form. -/
def ofJson? (value : Json) : Option PathItem := do
  let r ← Json.record? keys value
  return {
    path := ← r.required "path" (Path.ofJson? .loose)
    mode := ← r.required "paint" PaintMode.ofJson?
    rule := ← r.required "fill_rule" FillRule.ofJson?
    style := {
      fillColor := ← r.required "fill_color" Color.ofJson?
      strokeColor := ← r.required "stroke_color" Color.ofJson?
      lineWidth := ← r.required "line_width" Json.float?
      lineCap := ← r.required "line_cap" LineCap.ofJson?
      lineJoin := ← r.required "line_join" LineJoin.ofJson?
      miterLimit := ← r.required "miter_limit" Json.float?
      dash := ← r.required "dash" DashPattern.ofJson? } }

end PathItem

namespace WritingMode

/-- The name of a direction. -/
def name : WritingMode → String
  | horizontal => "Horizontal"
  | vertical => "Vertical"

/-- The JSON form of a direction. -/
def toJson (mode : WritingMode) : Json := .string mode.name

/-- The direction with a JSON form. -/
def ofJson? : Json → Option WritingMode := Json.simpleChoice? .loose [horizontal, vertical] name

end WritingMode

namespace TextSegment

/-- The JSON form of a segment of text. -/
def toJson (segment : TextSegment) : Json :=
  .object [("offset", .ofFloat segment.offset), ("text", .string segment.text)]

/-- The segment of text with a JSON form. -/
def ofJson? (value : Json) : Option TextSegment := do
  let r ← Json.record? ["offset", "text"] value
  return ⟨← r.required "offset" Json.float?, ← r.required "text" Json.string?⟩

end TextSegment

namespace TextItem

/-- The members of the JSON form of a text item. -/
def members (item : TextItem) : List (String × Json) := [
  ("color", item.color.toJson),
  ("font_family", .string item.family),
  ("font_size", .ofFloat item.size),
  ("invisible", .boolean item.invisible),
  ("kind", .string "text"),
  ("position", item.position.toJson),
  ("rotation_degrees", .ofFloat item.rotation),
  ("segments", .ofList TextSegment.toJson item.segments),
  ("text", .string item.text),
  ("writing_mode", item.writingMode.toJson)]

/-- The keys of the data of a text item, in order. -/
def keys : List String := ["position", "rotation_degrees", "font_family", "font_size", "color",
  "text", "segments", "writing_mode", "invisible"]

/-- The text item with a JSON form. -/
def ofJson? (value : Json) : Option TextItem := do
  let r ← Json.record? keys value
  return {
    position := ← r.required "position" Point.ofJson?
    rotation := ← r.required "rotation_degrees" Json.float?
    family := ← r.required "font_family" Json.string?
    size := ← r.required "font_size" Json.float?
    color := ← r.required "color" Color.ofJson?
    text := ← r.required "text" Json.string?
    segments := ← r.required "segments" (Json.list? TextSegment.ofJson?)
    writingMode := ← r.required "writing_mode" WritingMode.ofJson?
    invisible := ← r.required "invisible" Json.boolean? }

end TextItem

namespace ImageItem

/-- The members of the JSON form of an image item. -/
def members (item : ImageItem) : List (String × Json) := [
  ("bbox", item.bounds.toJson),
  ("kind", .string "image"),
  ("name", .string item.name),
  ("pixel_height", .ofNat item.pixelHeight),
  ("pixel_width", .ofNat item.pixelWidth),
  ("raster", item.raster.toJson),
  ("transform", item.transform.toJson)]

/-- The keys of the data of an image item, in order. -/
def keys : List String :=
  ["name", "transform", "bbox", "pixel_width", "pixel_height", "raster"]

/-- The image item with a JSON form. -/
def ofJson? (value : Json) : Option ImageItem := do
  let r ← Json.record? keys value
  return {
    name := ← r.required "name" Json.string?
    transform := ← r.required "transform" Transform.ofJson?
    bounds := ← r.required "bbox" Bounds.ofJson?
    pixelWidth := ← r.required "pixel_width" Json.nat32?
    pixelHeight := ← r.required "pixel_height" Json.nat32?
    raster := ← r.required "raster" Raster.ofJson? }

end ImageItem

namespace DisplayItem

/-- The JSON form of an item. The member `kind` tells the kinds apart. -/
def toJson : DisplayItem → Json
  | path item => .object item.members
  | text item => .object item.members
  | image item => .object item.members

/-- The item of a kind whose data have a JSON form. -/
def ofKind? (kind : String) (data : Json) : Option DisplayItem :=
  match kind with
  | "path" => (PathItem.ofJson? data).map path
  | "text" => (TextItem.ofJson? data).map text
  | "image" => (ImageItem.ofJson? data).map image
  | _ => none

/-- The item with a JSON form. The kind is a member, or comes first in a list. -/
def ofJson? : Json → Option DisplayItem
  | .object members => do
    ofKind? (← (Json.object members).required "kind" Json.string?) (.object members)
  | .array (kind :: items) => do ofKind? (← kind.string?) (.array items)
  | _ => none

end DisplayItem

namespace DisplayList

/-- The JSON form of a display list. -/
def toJson (items : DisplayList) : Json := .object [("items", .ofList DisplayItem.toJson items)]

/-- The display list with a JSON form. -/
def ofJson? (value : Json) : Option DisplayList := do
  let r ← Json.record? ["items"] value
  r.required "items" (Json.list? DisplayItem.ofJson?)

end DisplayList

/-! ## Warnings -/

namespace WarningCode

/-- The name of a category. -/
def name : WarningCode → String
  | missingReference => "MissingReference"
  | malformedDictionary => "MalformedDictionary"
  | unsupportedEncoding => "UnsupportedEncoding"
  | corruptStream => "CorruptStream"
  | resourceLimitReached => "ResourceLimitReached"
  | truncatedContent => "TruncatedContent"
  | other _ => "Other"

/-- The categories without data. -/
def simple : List WarningCode := [missingReference, malformedDictionary, unsupportedEncoding,
  corruptStream, resourceLimitReached, truncatedContent]

/-- The JSON form of a category. -/
def toJson (code : WarningCode) : Json :=
  match code with
  | other detail => .object [("detail", .string detail), ("type", .string code.name)]
  | code => .object [("type", .string code.name)]

/-- How the name of a category is read from its form: in a list it is a string, in an object
any choice without data. -/
def nameReader : Json → Json → Option String
  | .array _ => Json.string?
  | _ => Json.choiceName? .exact

/-- The category with a JSON form. -/
def ofJson? (value : Json) : Option WarningCode := do
  let r ← Json.record? ["type", "detail"] value
  let text ← r.required "type" (nameReader value)
  if text = "Other" then (r.required "detail" Json.string?).map other
  else
    let code ← simple.find? fun candidate => candidate.name = text
    match r.member? "detail" with
    | none | some .null => some code
    | some _ => none

end WarningCode

namespace Warning

/-- The JSON form of a warning. -/
def toJson (w : Warning) : Json :=
  .object [("code", w.code.toJson), ("description", .string w.description),
    ("font_name", .ofOption .string w.fontName?), ("object", .ofOption .string w.object?),
    ("operator_index", .ofOption .ofNat w.operatorIndex?)]

/-- The keys of a warning, in order. -/
def keys : List String := ["code", "description", "operator_index", "font_name", "object"]

/-- The warning with a JSON form. -/
def ofJson? (value : Json) : Option Warning := do
  let r ← Json.record? keys value
  return {
    code := ← r.required "code" WarningCode.ofJson?
    description := ← r.required "description" Json.string?
    operatorIndex? := ← r.optional "operator_index" Json.nat64?
    fontName? := ← r.optional "font_name" Json.string?
    object? := ← r.optional "object" Json.string? }

end Warning

/-! ## Other choices -/

namespace FontFormat

/-- The name of a font format. -/
def name : FontFormat → String
  | trueType => "TrueType"
  | type1 => "Type1"
  | openType => "OpenType"
  | binary => "Binary"

/-- The JSON form of a font format. -/
def toJson (format : FontFormat) : Json := .string format.name

/-- The font format with a JSON form. -/
def ofJson? : Json → Option FontFormat :=
  Json.simpleChoice? .exact [trueType, type1, openType, binary] name

end FontFormat

namespace NormalForm

/-- The name of a normalization. -/
def name : NormalForm → String
  | none => "None"
  | nfc => "Nfc"
  | nfd => "Nfd"
  | nfkc => "Nfkc"
  | nfkd => "Nfkd"

/-- The JSON form of a normalization. -/
def toJson (form : NormalForm) : Json := .string form.name

/-- The normalization with a JSON form. -/
def ofJson? : Json → Option NormalForm :=
  Json.simpleChoice? .exact [none, nfc, nfd, nfkc, nfkd] name

end NormalForm

end PdfDisplay
