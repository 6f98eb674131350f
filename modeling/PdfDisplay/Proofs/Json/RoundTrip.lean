import PdfDisplay.Json.Form

/-!
# Forms that are read back

Display lists and warnings are read back from their JSON forms as they were
(`Json.forms_read_back`). A form keeps the numbers that are finite (`DisplayItem.isFinite`) and the
dimensions that fit 32 bits (`DisplayItem.fitsWords`).

Each type has its own theorem `ofJson?_toJson`, which rests on those of the types of its parts.
-/

namespace PdfDisplay

/-! ## What a form keeps -/

/-- Whether the coordinates are finite. -/
def Point.isFinite (p : Point) : Bool := p.x.isFinite && p.y.isFinite

/-- Whether the six values are finite. -/
def Transform.isFinite (t : Transform) : Bool := t.values.all Float.isFinite

/-- Whether the sides are finite. -/
def Bounds.isFinite (b : Bounds) : Bool :=
  b.left.isFinite && b.top.isFinite && b.right.isFinite && b.bottom.isFinite

/-- Whether the components are finite. -/
def Color.isFinite (c : Color) : Bool :=
  c.red.isFinite && c.green.isFinite && c.blue.isFinite

/-- Whether the lengths and the phase are finite. -/
def DashPattern.isFinite (d : DashPattern) : Bool :=
  d.lengths.all Float.isFinite && d.phase.isFinite

/-- Whether the points are finite. -/
def Path.isFinite (path : Path) : Bool := path.points.all Point.isFinite

/-- Whether the colors, the lengths and the limit are finite. -/
def PaintStyle.isFinite (style : PaintStyle) : Bool :=
  style.fillColor.isFinite && style.strokeColor.isFinite && style.lineWidth.isFinite &&
    style.miterLimit.isFinite && style.dash.isFinite

/-- Whether the path and the style are finite. -/
def PathItem.isFinite (item : PathItem) : Bool := item.path.isFinite && item.style.isFinite

/-- Whether all numbers of a run of text are finite. -/
def TextItem.isFinite (item : TextItem) : Bool :=
  item.position.isFinite && item.rotation.isFinite && item.size.isFinite &&
    item.color.isFinite && item.segments.all fun segment => segment.offset.isFinite

/-- Whether the place of an image is finite. -/
def ImageItem.isFinite (item : ImageItem) : Bool := item.transform.isFinite && item.bounds.isFinite

/-- Whether all numbers of an item are finite. -/
def DisplayItem.isFinite : DisplayItem → Bool
  | path item => item.isFinite
  | text item => item.isFinite
  | image item => item.isFinite

/-- Whether the dimensions are numbers of 32 bits. -/
def Raster.fitsWords (raster : Raster) : Bool :=
  raster.width < 0x100000000 && raster.height < 0x100000000

/-- Whether all dimensions of an item are numbers of 32 bits. -/
def DisplayItem.fitsWords : DisplayItem → Bool
  | path _ | text _ => true
  | image item =>
    item.pixelWidth < 0x100000000 && item.pixelHeight < 0x100000000 && item.raster.fitsWords

/-! ## Shapes -/

namespace Json

variable {α : Type}

/-- **A finite number is read back as it was written**; the numbers that are not finite have no form
of their own. -/
theorem float?_ofFloat {x : Float} (h : x.isFinite) : float? (ofFloat x) = some x := by
  rw [ofFloat, if_pos h]
  rfl

/-- A count is read back if it lies below the bound of its type, which the reader checks. -/
theorem natBelow?_ofNat {bound n : Nat} (h : n < bound) : natBelow? bound (ofNat n) = some n := by
  rw [ofNat, natBelow?, if_pos ⟨Int.natCast_nonneg n, Int.ofNat_lt.mpr h⟩, Int.toNat_natCast]

theorem string?_string (text : String) : string? (.string text) = some text := rfl

theorem nat32?_ofNat {n : Nat} (h : n < 0x100000000) : nat32? (ofNat n) = some n :=
  natBelow?_ofNat h

theorem nat64?_ofNat {n : Nat} (h : n < 0x10000000000000000) : nat64? (ofNat n) = some n :=
  natBelow?_ofNat h

/-- **A list is read back if each of its items is**, by induction over the items; readers of lists
are all of this shape. -/
theorem list?_ofList {write : α → Json} {read : Json → Option α} {items : List α}
    (h : ∀ item ∈ items, read (write item) = some item) :
    list? read (ofList write items) = some items := by
  rw [ofList, list?]
  induction items with
  | nil => rfl
  | cons item items ih =>
    obtain ⟨hitem, hitems⟩ := List.forall_mem_cons.mp h
    rw [List.map_cons, List.mapM_cons, hitem, ih hitems]
    rfl

theorem bytes?_ofBytes (bytes : Bytes) : bytes? (ofBytes bytes) = some bytes := by
  refine list?_ofList fun b _ => ?_
  rw [natBelow?_ofNat b.toNat_lt, Option.map_some, UInt8.ofNat_toNat]

/-- A step of a reader that succeeds. Computing the step instead would count up to the bounds of the
numbers that are read. -/
theorem bind_of_eq_some {β : Type} {value? : Option α} {value : α} {read : α → Option β}
    {result : β} (hvalue : value? = some value) (hread : read value = some result) :
    (value? >>= read) = some result := by
  rw [hvalue, Option.bind_eq_bind, Option.bind_some, hread]

/-- A required member is read from the record that holds it, by the reader of its type. -/
theorem required_of_member {record form : Json} {key : String} {read : Json → Option α}
    {value : α} (hmember : record.member? key = some form) (hread : read form = some value) :
    required record key read = some value := by
  rw [required, hmember, Option.bind_some, hread]

/-- A value that is never written as null can be told from one that is absent. -/
theorem optional_of_member {record : Json} {key : String} {write : α → Json}
    {read : Json → Option α} {value? : Option α}
    (hmember : record.member? key = some (ofOption write value?))
    (hnull : ∀ value, write value ≠ null)
    (hread : ∀ value ∈ value?, read (write value) = some value) :
    optional record key read = some value? := by
  rw [optional, hmember]
  cases value? with
  | none => rfl
  | some value =>
    rw [ofOption]
    split
    case h_1 habsent => cases habsent
    case h_2 hform => exact absurd (Option.some.inj hform) (hnull value)
    case h_3 hform =>
      cases hform
      rw [hread value rfl, Option.map_some]

end Json

open Json

/-! ## Geometry -/

theorem Point.ofJson?_toJson {p : Point} (h : p.isFinite) : ofJson? p.toJson = some p := by
  rw [isFinite, Bool.and_eq_true] at h
  simp [ofJson?, toJson, record?, required, member?, float?_ofFloat, h]

theorem Transform.ofJson?_toJson {t : Transform} (h : t.isFinite) :
    ofJson? t.toJson = some t := by
  simp only [isFinite, values, List.all_cons, List.all_nil, Bool.and_true, Bool.and_eq_true] at h
  simp [ofJson?, toJson, record?, required, member?, float?_ofFloat, h]

theorem Bounds.ofJson?_toJson {b : Bounds} (h : b.isFinite) : ofJson? b.toJson = some b := by
  simp only [isFinite, Bool.and_eq_true] at h
  simp [ofJson?, toJson, record?, required, member?, float?_ofFloat, h]

/-! ## Painting -/

theorem Color.ofJson?_toJson {c : Color} (h : c.isFinite) : ofJson? c.toJson = some c := by
  simp only [isFinite, Bool.and_eq_true] at h
  simp [ofJson?, toJson, record?, required, member?, float?_ofFloat, h]

theorem LineCap.ofJson?_toJson (cap : LineCap) : ofJson? cap.toJson = some cap := by
  cases cap <;> rfl

theorem LineJoin.ofJson?_toJson (join : LineJoin) : ofJson? join.toJson = some join := by
  cases join <;> rfl

theorem DashPattern.ofJson?_toJson {d : DashPattern} (h : d.isFinite) :
    ofJson? d.toJson = some d := by
  rw [isFinite, Bool.and_eq_true, List.all_eq_true] at h
  have hlengths : list? float? (ofList ofFloat d.lengths) = some d.lengths :=
    list?_ofList fun x hx => float?_ofFloat (h.1 x hx)
  simp [ofJson?, toJson, record?, required, member?, hlengths, float?_ofFloat h.2]

theorem FillRule.ofJson?_toJson (rule : FillRule) : ofJson? rule.toJson = some rule := by
  cases rule <;> rfl

theorem PaintMode.ofJson?_toJson (mode : PaintMode) : ofJson? mode.toJson = some mode := by
  cases mode <;> rfl

/-! ## Paths -/

/-- A segment is read back by the name of its kind and its points, whichever of the two readings of
records is used. -/
theorem PathSegment.ofJson?_toJson (reading : Reading) {s : PathSegment}
    (h : ∀ p ∈ s.points, p.isFinite) : ofJson? reading s.toJson = some s := by
  have hpoint : ∀ p ∈ s.points, Point.ofJson? p.toJson = some p :=
    fun p hp => Point.ofJson?_toJson (h p hp)
  cases s with
  | move p | line p =>
    rw [points, List.forall_mem_singleton] at hpoint
    simp [ofJson?, toJson, choice, choiceData?, choice?, hpoint]
  | curve p q r =>
    simp only [points, List.forall_mem_cons] at hpoint
    obtain ⟨hp, hq, hr, -⟩ := hpoint
    simp [ofJson?, toJson, choice, choiceData?, choice?, curveOfJson?, Reading.record?, required,
      member?, hp, hq, hr]
  | close => cases reading <;> rfl

theorem Path.ofJson?_toJson (reading : Reading) {path : Path} (h : path.isFinite) :
    ofJson? reading path.toJson = some path := by
  simp only [isFinite, points, List.all_eq_true, List.mem_flatMap] at h
  have hsegments : list? (PathSegment.ofJson? reading)
      (ofList PathSegment.toJson path.segments) = some path.segments :=
    list?_ofList fun s hs => PathSegment.ofJson?_toJson reading fun p hp => h p ⟨s, hs, hp⟩
  simp [ofJson?, toJson, record?, required, member?, hsegments]

/-! ## Rasters -/

/-- The data of a raster are read back byte by byte, with the name that tells samples from a file.
-/
theorem RasterData.ofJson?_toJson (data : RasterData) : ofJson? data.toJson = some data := by
  cases data <;> simp [ofJson?, toJson, choice, choiceData?, choice?, bytes?_ofBytes]

/-- A raster is read back with its dimensions, which have to be numbers of 32 bits. -/
theorem Raster.ofJson?_toJson {raster : Raster} (h : raster.fitsWords) :
    ofJson? raster.toJson = some raster := by
  simp only [fitsWords, Bool.and_eq_true, decide_eq_true_eq] at h
  have hwidth : raster.toJson.required "width" nat32? = some raster.width :=
    required_of_member (by simp [toJson, member?]) (nat32?_ofNat h.1)
  have hheight : raster.toJson.required "height" nat32? = some raster.height :=
    required_of_member (by simp [toJson, member?]) (nat32?_ofNat h.2)
  have hdata : raster.toJson.required "data" RasterData.ofJson? = some raster.data :=
    required_of_member (by simp [toJson, member?]) (RasterData.ofJson?_toJson raster.data)
  exact bind_of_eq_some rfl (bind_of_eq_some hwidth (bind_of_eq_some hheight
    (bind_of_eq_some hdata rfl)))

/-! ## Items -/

/-- **A painted path is read back from its members**, which are looked up by their keys one after
another. -/
theorem PathItem.ofJson?_members {item : PathItem} (h : item.isFinite) :
    ofJson? (.object item.members) = some item := by
  simp only [isFinite, PaintStyle.isFinite, Bool.and_eq_true] at h
  obtain ⟨hpath, ⟨⟨⟨hfill, hstroke⟩, hwidth⟩, hlimit⟩, hdash⟩ := h
  simp [ofJson?, members, record?, required, member?, Path.ofJson?_toJson .loose hpath,
    PaintMode.ofJson?_toJson, FillRule.ofJson?_toJson, Color.ofJson?_toJson hfill,
    Color.ofJson?_toJson hstroke, float?_ofFloat hwidth, LineCap.ofJson?_toJson,
    LineJoin.ofJson?_toJson, float?_ofFloat hlimit, DashPattern.ofJson?_toJson hdash]

theorem WritingMode.ofJson?_toJson (mode : WritingMode) : ofJson? mode.toJson = some mode := by
  cases mode <;> rfl

/-- A segment of a text is read back with its offset, of which only finite numbers have a form. -/
theorem TextSegment.ofJson?_toJson {segment : TextSegment} (h : segment.offset.isFinite) :
    ofJson? segment.toJson = some segment := by
  simp [ofJson?, toJson, record?, required, member?, string?, float?_ofFloat h]

/-- **A shown text is read back from its members**, its segments and their offsets included. -/
theorem TextItem.ofJson?_members {item : TextItem} (h : item.isFinite) :
    ofJson? (.object item.members) = some item := by
  simp only [isFinite, Bool.and_eq_true, List.all_eq_true] at h
  obtain ⟨⟨⟨⟨hposition, hrotation⟩, hsize⟩, hcolor⟩, hoffsets⟩ := h
  have hsegments : list? TextSegment.ofJson? (ofList TextSegment.toJson item.segments) =
      some item.segments :=
    list?_ofList fun segment hsegment => TextSegment.ofJson?_toJson (hoffsets segment hsegment)
  simp [ofJson?, members, record?, required, member?, string?, boolean?,
    Point.ofJson?_toJson hposition, float?_ofFloat hrotation, float?_ofFloat hsize,
    Color.ofJson?_toJson hcolor, hsegments, WritingMode.ofJson?_toJson]

/-- **A placed image is read back from its members**, its raster included. -/
theorem ImageItem.ofJson?_members {item : ImageItem} (h : item.isFinite)
    (hwords : (DisplayItem.image item).fitsWords) : ofJson? (.object item.members) = some item := by
  simp only [isFinite, Bool.and_eq_true] at h
  simp only [DisplayItem.fitsWords, Bool.and_eq_true, decide_eq_true_eq] at hwords
  obtain ⟨⟨hpixelWidth, hpixelHeight⟩, hpixels⟩ := hwords
  -- the form is kept closed: only its members are looked up, and the raster is large
  generalize hform : Json.object item.members = form
  have hname : form.required "name" string? = some item.name :=
    required_of_member (by simp [← hform, members, member?]) (string?_string item.name)
  have htransform : form.required "transform" Transform.ofJson? = some item.transform :=
    required_of_member (by simp [← hform, members, member?]) (Transform.ofJson?_toJson h.1)
  have hbounds : form.required "bbox" Bounds.ofJson? = some item.bounds :=
    required_of_member (by simp [← hform, members, member?]) (Bounds.ofJson?_toJson h.2)
  have hwidth : form.required "pixel_width" nat32? = some item.pixelWidth :=
    required_of_member (by simp [← hform, members, member?]) (nat32?_ofNat hpixelWidth)
  have hheight : form.required "pixel_height" nat32? = some item.pixelHeight :=
    required_of_member (by simp [← hform, members, member?]) (nat32?_ofNat hpixelHeight)
  have hraster : form.required "raster" Raster.ofJson? = some item.raster :=
    required_of_member (by simp [← hform, members, member?]) (Raster.ofJson?_toJson hpixels)
  have hrecord : record? keys form = some form := by rw [← hform, record?]
  exact bind_of_eq_some hrecord (bind_of_eq_some hname (bind_of_eq_some htransform
    (bind_of_eq_some hbounds (bind_of_eq_some hwidth (bind_of_eq_some hheight
      (bind_of_eq_some hraster rfl))))))

/-- **An item of any kind is read back**, because the tag of its form names the kind and its members
follow. -/
theorem DisplayItem.ofJson?_toJson {item : DisplayItem} (h : item.isFinite)
    (hwords : item.fitsWords) : ofJson? item.toJson = some item := by
  cases item with
  | path item =>
    have hkind : (Json.object item.members).member? "kind" = some (.string "path") := by
      simp [member?, PathItem.members]
    simp [ofJson?, toJson, required, hkind, string?, ofKind?, PathItem.ofJson?_members h]
  | text item =>
    have hkind : (Json.object item.members).member? "kind" = some (.string "text") := by
      simp [member?, TextItem.members]
    simp [ofJson?, toJson, required, hkind, string?, ofKind?, TextItem.ofJson?_members h]
  | image item =>
    have hkind : (Json.object item.members).member? "kind" = some (.string "image") := by
      simp [member?, ImageItem.members]
    simp [ofJson?, toJson, required, hkind, string?, ofKind?, ImageItem.ofJson?_members h hwords]

/-- A display list is read back item by item, if all its numbers are finite and all its dimensions
fit 32 bits. -/
theorem DisplayList.ofJson?_toJson {items : DisplayList}
    (h : ∀ item ∈ items, item.isFinite ∧ item.fitsWords) :
    DisplayList.ofJson? items.toJson = some items := by
  have hitems : list? DisplayItem.ofJson? (ofList DisplayItem.toJson items) = some items :=
    list?_ofList fun item hitem => DisplayItem.ofJson?_toJson (h item hitem).1 (h item hitem).2
  simp [ofJson?, toJson, record?, required, member?, hitems]

/-! ## Warnings -/

theorem WarningCode.ofJson?_toJson (code : WarningCode) : ofJson? code.toJson = some code := by
  cases code with
  | other detail =>
    simp [ofJson?, toJson, name, record?, required, member?, nameReader, choiceName?, choice?,
      string?]
  | _ => rfl

/-- A warning is read back with all that it names, an operator's index as far as 64 bits hold it. -/
theorem Warning.ofJson?_toJson {w : Warning}
    (h : ∀ index ∈ w.operatorIndex?, index < 0x10000000000000000) :
    ofJson? w.toJson = some w := by
  have hcode : w.toJson.required "code" WarningCode.ofJson? = some w.code :=
    required_of_member (by simp [toJson, member?]) (WarningCode.ofJson?_toJson w.code)
  have hdescription : w.toJson.required "description" string? = some w.description :=
    required_of_member (by simp [toJson, member?]) (string?_string w.description)
  have hindex : w.toJson.optional "operator_index" nat64? = some w.operatorIndex? :=
    optional_of_member (by simp [toJson, member?]) (by simp [ofNat])
      fun index hmem => nat64?_ofNat (h index hmem)
  have hfont : w.toJson.optional "font_name" string? = some w.fontName? :=
    optional_of_member (by simp [toJson, member?]) (by simp) fun text _ => string?_string text
  have hobject : w.toJson.optional "object" string? = some w.object? :=
    optional_of_member (by simp [toJson, member?]) (by simp) fun text _ => string?_string text
  exact bind_of_eq_some rfl (bind_of_eq_some hcode (bind_of_eq_some hdescription
    (bind_of_eq_some hindex (bind_of_eq_some hfont (bind_of_eq_some hobject rfl)))))

/-- **What is written is read back.** Every display list of finite numbers and every warning is
the one that its form is read as. -/
theorem Json.forms_read_back :
    (∀ items : DisplayList, (∀ item ∈ items, item.isFinite ∧ item.fitsWords) →
      DisplayList.ofJson? items.toJson = some items) ∧
    ∀ w : Warning, (∀ index ∈ w.operatorIndex?, index < 0x10000000000000000) →
      Warning.ofJson? w.toJson = some w :=
  ⟨fun _ h => DisplayList.ofJson?_toJson h, fun _ h => Warning.ofJson?_toJson h⟩

/-- A list with items of all kinds, and a warning of a category of its own. -/
theorem Json.forms_read_back_kinds :
    let segments : List PathSegment :=
      [.move ⟨0, 0⟩, .line ⟨0.5, -3⟩, .curve ⟨1, 2⟩ ⟨3, 4⟩ ⟨5, 6⟩, .close]
    let style : PaintStyle := ⟨1.5, .round, .bevel, 10, ⟨[3, 1], 0⟩, .gray 0.5, .black⟩
    let text : TextItem :=
      ⟨⟨1, 2⟩, 90, "Times", 12, .black, "a\nb", [⟨0, "a"⟩, ⟨7.25, "\nb"⟩], .vertical, true⟩
    let image (data : RasterData) : ImageItem :=
      ⟨"I", .identity, ⟨0, 0, 1, 1⟩, 1, 1, ⟨1, 1, data⟩⟩
    let items : DisplayList := [.path ⟨⟨segments⟩, .fillAndStroke, .evenOdd, style⟩, .text text,
      .image (image (.rgba [1, 2, 3, 255])), .image (image (.jpeg [0xFF, 0xD8, 0xFF, 0xD9]))]
    let w : Warning := ⟨.other "width", "unknown", some 7, some "F1", none⟩
    (∀ item ∈ items, item.isFinite ∧ item.fitsWords) ∧
      DisplayList.ofJson? items.toJson = some items ∧
      (∀ index ∈ w.operatorIndex?, index < 0x10000000000000000) ∧
      Warning.ofJson? w.toJson = some w := by
  intro segments style text image items w
  have hitems : ∀ item ∈ items, item.isFinite ∧ item.fitsWords := by decide +kernel
  have hindex : ∀ index ∈ w.operatorIndex?, index < 0x10000000000000000 := by decide
  exact ⟨hitems, Json.forms_read_back.1 items hitems, hindex, Json.forms_read_back.2 w hindex⟩

end PdfDisplay
