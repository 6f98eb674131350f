import PdfDisplay.Font.Registry
import PdfDisplay.Json.Form
import PdfDisplay.Page.Rendering

/-!
# Rows

What is printed about one item of a page or one font: columns of text with tabs between
them, or members of a JSON object. Numbers in columns have two decimal places. The JSON form
of an image says how many bytes its data have, and leaves them out.
-/

namespace PdfDisplay

/-- Columns with tabs between them. -/
def tabulated (columns : List String) : String := "\t".intercalate columns

/-- A number in a column. -/
def columnText (x : Float) : String := fixedText 2 x

/-! ## Items -/

/-- Bounds as four columns. -/
def Bounds.columns (b : Bounds) : List String := [b.left, b.top, b.right, b.bottom].map columnText

/-- The word for how a path is painted. -/
def PaintMode.word : PaintMode → String
  | fill => "fill"
  | stroke => "stroke"
  | fillAndStroke => "fill+stroke"

/-- A path as columns. -/
def PathItem.columns (item : PathItem) : List String :=
  ["path", item.mode.word] ++ (item.bounds?.elim (List.replicate 4 "-") Bounds.columns) ++
    [item.style.fillColor.hex, item.style.strokeColor.hex, columnText item.style.lineWidth]

/-- A run of text as columns. -/
def TextItem.columns (item : TextItem) : List String :=
  ["text", columnText item.position.x, columnText item.position.y, columnText item.size,
    columnText item.rotation, item.family, item.color.hex, item.text] ++
    (if item.invisible then ["(invisible)"] else [])

/-- A placed image as columns. -/
def ImageItem.columns (item : ImageItem) : List String :=
  ["image", item.name] ++ item.bounds.columns ++
    [toString item.pixelWidth ++ "x" ++ toString item.pixelHeight, item.raster.mediaType]

namespace DisplayItem

/-- An item as columns. -/
def columns : DisplayItem → List String
  | path item => item.columns
  | text item => item.columns
  | image item => item.columns

/-- The line about an item of a page. -/
def line (page : Nat) (item : DisplayItem) : String := tabulated (toString page :: item.columns)

end DisplayItem

/-- The JSON form of a placed image without its data. -/
def ImageItem.summary (item : ImageItem) : Json :=
  .object [("bbox", item.bounds.toJson), ("bytes", .ofNat item.raster.byteCount),
    ("kind", .string "image"), ("mime_type", .string item.raster.mediaType),
    ("name", .string item.name), ("pixel_height", .ofNat item.pixelHeight),
    ("pixel_width", .ofNat item.pixelWidth),
    ("transform", .ofList Json.ofFloat item.transform.values)]

/-- The JSON form of an item without the data of images. -/
def DisplayItem.summary : DisplayItem → Json
  | image item => item.summary
  | item => item.toJson

namespace RenderedPage

/-- The lines about a page: one for each item. -/
def lines (number : Nat) (page : RenderedPage) : List String :=
  page.items.map (DisplayItem.line number)

/-- The JSON form of a page. -/
def summary (number : Nat) (page : RenderedPage) : Json :=
  .object [("items", .ofList DisplayItem.summary page.items), ("page", .ofNat number),
    ("truncated", .ofOption (fun t => .string t.text) page.truncated?)]

end RenderedPage

/-! ## Fonts -/

/-- What became of a font program, in a word. -/
def Registration.word : Registration → String
  | registered => "registered"
  | duplicate => "duplicate"
  | renamed name => "renamed:" ++ name

/-- A font of a page, with what became of its program. -/
structure FontRow where
  /-- The number of the page. -/
  page : Nat
  /-- The font. -/
  font : Font
  /-- What became of its program, if it has one. -/
  registration? : Option Registration

namespace FontRow

/-- The row of a font, whose program is registered. -/
def ofFont (page : Nat) (font : Font) (registry : FontRegistry) : FontRow × FontRegistry :=
  match font.program? with
  | some program =>
    let (registry, registration) := registry.register font.family program
    (⟨page, font, some registration⟩, registry)
  | none => (⟨page, font, none⟩, registry)

/-- What became of the program, in a word. -/
def registrationWord (row : FontRow) : String := row.registration?.elim "-" Registration.word

/-- The names of the columns. -/
def header : String :=
  tabulated
    ["page", "tag", "subtype", "family", "program", "bytes", "tounicode", "registration"]

/-- A row as columns. -/
def columns (row : FontRow) : List String :=
  [toString row.page, row.font.tag, row.font.kind.name, row.font.family] ++
    (row.font.program?.elim ["-", "-"] fun p => [p.format.text, toString p.size]) ++
    [if row.font.charMap?.isSome then "true" else "false", row.registrationWord]

/-- The line about a font. -/
def line (row : FontRow) : String := tabulated row.columns

/-- The JSON form of a row. -/
def summary (row : FontRow) : Json :=
  .object [("family", .string row.font.family), ("page", .ofNat row.page),
    ("program", .ofOption
      (fun p => .object [("bytes", .ofNat p.size), ("format", .string p.format.text)])
      row.font.program?),
    ("registration", .string row.registrationWord), ("subtype", .string row.font.kind.name),
    ("tag", .string row.font.tag), ("to_unicode", .boolean row.font.charMap?.isSome)]

end FontRow

end PdfDisplay
