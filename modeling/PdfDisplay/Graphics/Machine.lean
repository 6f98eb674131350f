import PdfDisplay.Graphics.Layout
import PdfDisplay.Image.Basic
import PdfDisplay.Page.Resources

/-!
# The drawing machine

Instructions are executed one after another on a machine, which holds the graphics state,
the path under construction, the fonts, and what has been drawn. Selecting a font and
drawing a named object ask the store of the page for objects; everything else depends on the
machine alone.

What cannot be drawn is left out with a warning, which names the operator by its index.
-/

namespace PdfDisplay

/-- The page that is drawn. -/
structure PageContext (m : Type → Type) where
  /-- The source of objects. -/
  store : ObjectStore m
  /-- The height of the page. -/
  height : Float
  /-- The named resources. -/
  resources : PageResources
  /-- The options. -/
  options : RenderOptions

/-- What instructions are executed on. -/
structure Machine where
  /-- The graphics state. -/
  state : GraphicsState := {}
  /-- The path under construction. -/
  builder : PathBuilder := .new .identity
  /-- The fonts that have been resolved. -/
  fonts : FontCache
  /-- The items drawn, the latest first. -/
  drawn : List DisplayItem := []
  /-- The warnings given, the latest first. -/
  warnings : List Warning := []
  /-- Whether a text object is open. -/
  inText : Bool := false
  /-- The number of inline images that have come. -/
  inlineImages : Nat := 0

namespace Machine

/-- The items drawn, in the order in which they were drawn. -/
def items (machine : Machine) : DisplayList := machine.drawn.reverse

/-- Gives a warning at an operator. -/
def warn (machine : Machine) (index : Nat) (warning : Warning) : Machine :=
  { machine with warnings := warning.atOperator index :: machine.warnings }

/-- Draws an item. -/
def emit (machine : Machine) (item : DisplayItem) : Machine :=
  { machine with drawn := item :: machine.drawn }

/-- Changes the current frame. -/
def mapFrame (machine : Machine) (change : GraphicsFrame → GraphicsFrame) : Machine :=
  { machine with state := machine.state.map change }

/-- Changes the state of text. -/
def mapText (machine : Machine) (change : TextState → TextState) : Machine :=
  machine.mapFrame (·.mapText change)

/-- Hands the transform of the current frame to the path under construction. -/
def syncPath (machine : Machine) : Machine :=
  { machine with builder := machine.builder.setTransform machine.state.frame.transform }

/-! ## Painting -/

/-- Paints the path under construction, if there is one. -/
def paint (machine : Machine) (pageHeight : Float) (operator : PaintOperator) : Machine :=
  if machine.builder.isEmpty then machine
  else
    let frame := machine.state.frame
    let item := PathItem.ofPainted (machine.builder.painted operator) operator frame.style
      frame.transform pageHeight
    { machine.emit (.path item) with builder := machine.builder.reset }

/-- Applies the parameters of a named graphics state. -/
def applyParameters (machine : Machine) (resources : PageResources) (index : Nat)
    (name : String) : Machine :=
  match resources.parameters[name]? with
  | some parameters =>
    machine.mapFrame (·.mapStyle fun style =>
      (StyleChange.ofParameters parameters).foldl PaintStyle.change style)
  | none =>
    machine.warn index
      { code := .missingReference,
        description := "ExtGState /" ++ name ++ " not in page resources" }

/-! ## Text -/

/-- Shows text. -/
def showPieces (machine : Machine) (pageHeight : Float) (index : Nat) (pieces : List TextPiece) :
    Machine :=
  let frame := machine.state.frame
  match frame.text.font? with
  | none =>
    machine.warn index { code := .missingReference, description := "text shown before Tf" }
  | some font =>
    let layout := Layout.ofPieces font ⟨frame.text, 0.0⟩ pieces
    let moved := machine.mapText fun _ => layout.pen.text
    if layout.segments.isEmpty then moved
    else moved.emit (.text (.ofSegments font frame pageHeight layout.segments))

variable {m : Type → Type} [Monad m]

/-- Selects a font, which is resolved if that has not been done yet. -/
def selectFont (page : PageContext m) (index : Nat) (tag : String) (size : Float)
    (machine : Machine) : m Machine := do
  let (font, fonts) ←
    machine.fonts.getOrResolve page.store tag (page.resources.fonts[tag]?)
  let warned := font.warnings.foldl (fun machine warning => machine.warn index warning) machine
  return { warned with fonts }.mapText (·.setFont font.value size)

/-- Executes an instruction of an open text object. -/
def stepText (page : PageContext m) (index : Nat) (machine : Machine) :
    TextInstruction → m Machine
  | .selectFont tag size => machine.selectFont page index tag size
  | .setMatrix matrix => return machine.mapText (·.setMatrix matrix)
  | .moveBy x y => return machine.mapText (·.moveBy x y)
  | .moveBySettingLeading x y => return machine.mapText (·.moveBySettingLeading x y)
  | .nextLine => return machine.mapText (·.nextLine)
  | .setScaling scaling => return machine.mapText ({ · with scaling })
  | .showPieces pieces => return machine.showPieces page.height index pieces
  | .showOnNextLine bytes =>
    return (machine.mapText (·.nextLineBySize)).showPieces page.height index [.string bytes]
  | .showSpaced wordSpacing charSpacing bytes =>
    return (machine.mapText fun t => { t with wordSpacing, charSpacing }.nextLineBySize).showPieces
      page.height index [.string bytes]

/-! ## Images -/

/-- Draws an image, or warns of the reason why it is not shown. -/
def placeImage (page : PageContext m) (index : Nat) (name : String) (d : Dictionary)
    (data : Bytes) (target? : Option ObjectRef) (machine : Machine) : Machine :=
  match Image.decode d data page.options with
  | .ok raster =>
    machine.emit (.image (.place name machine.state.frame.transform page.height raster))
  | .error e =>
    machine.warn index
      { code := e.warningCode, description := "image " ++ name ++ ": " ++ e.message,
        object? := target?.map (·.text) }

/-- Warns that a named object is not drawn. -/
def warnObject (machine : Machine) (index : Nat) (target : ObjectRef) (code : WarningCode)
    (description : String) : Machine :=
  machine.warn index { code, description, object? := some target.text }

/-- Draws a named object, if it is an image. -/
def drawObject (page : PageContext m) (index : Nat) (name : String) (machine : Machine) :
    m Machine := do
  match page.resources.drawable[name]? with
  | none =>
    return machine.warn index
      { code := .missingReference, description := "XObject /" ++ name ++ " not in page resources" }
  | some target =>
    match ← page.store.text target with
    | .error e => return machine.warnObject index target e.warningCode e.message
    | .ok text =>
      match Dictionary.parse? (Utf8.encode text) with
      | none =>
        return machine.warnObject index target .malformedDictionary
          ("XObject /" ++ name ++ " has no dictionary")
      | some d =>
        if d.name? "Subtype" = some "Image" then
          match ← page.store.raw target with
          | .error e => return machine.warnObject index target e.warningCode e.message
          | .ok data => return machine.placeImage page index name d data (some target)
        else return machine

/-- Draws an inline image. -/
def drawImage (page : PageContext m) (index : Nat) (entries : List (String × Operand))
    (data : Bytes) (machine : Machine) : Machine :=
  let count := machine.inlineImages + 1
  placeImage page index ("inline-" ++ toString count) (Operand.dictionaryOf entries) data none
    { machine with inlineImages := count }

/-! ## Execution -/

/-- Executes an instruction; `index` is that of its operator. -/
def step (page : PageContext m) (index : Nat) (machine : Machine) : Instruction → m Machine
  | .save => return { machine with state := machine.state.save }
  -- the path is told even if nothing was restored: the transform is then the one it has
  | .restore => return { machine with state := machine.state.restore }.syncPath
  | .concat transform => return (machine.mapFrame (·.concat transform)).syncPath
  | .style change => return machine.mapFrame (·.mapStyle (·.change change))
  | .applyParameters name => return machine.applyParameters page.resources index name
  | .setColor ink space color => return machine.mapFrame (·.setSpaceAndColor space color ink)
  | .setSpace ink space => return machine.mapFrame (·.setSpace space ink)
  | .setComponents ink components =>
    return machine.mapFrame fun frame => (frame.setComponents? components ink).getD frame
  | .draw pathStep => return { machine with builder := machine.builder.step pathStep }
  | .paint operator => return machine.paint page.height operator
  | .dropPath => return { machine with builder := machine.builder.reset }
  | .setText parameter => return machine.mapText (·.set parameter)
  | .beginText => return { machine.mapText (·.beginText) with inText := true }
  | .endText => return { machine with inText := false }
  | .text instruction =>
    if machine.inText then machine.stepText page index instruction else return machine
  | .drawObject name => machine.drawObject page index name
  | .drawImage entries data => return machine.drawImage page index entries data

/-- Executes an operator. -/
def execute (page : PageContext m) (index : Nat) (machine : Machine) (operator : Operator) :
    m Machine :=
  match Instruction.ofOperator? operator with
  | some instruction => machine.step page index instruction
  | none => return machine

/-- Executes operators, the first of which has the given index. -/
def executeAll (page : PageContext m) (index : Nat) (machine : Machine) :
    List Operator → m Machine
  | [] => return machine
  | operator :: rest => do
    let machine ← machine.execute page index operator
    executeAll page (index + 1) machine rest

end Machine

end PdfDisplay
