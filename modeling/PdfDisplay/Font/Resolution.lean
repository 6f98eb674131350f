import PdfDisplay.Failure
import PdfDisplay.Font.Basic
import PdfDisplay.Store.Basic

/-!
# Resolving fonts

A font dictionary leads to other objects: its encoding, its character map, its widths, its
descriptor and the embedded program. A link that is broken makes only the part behind it
absent, and is reported as a warning. `Font.resolve` therefore always gives a font; what is
kept of it was read without an error.

The objects are asked for in a fixed order, so that warnings come in a fixed order too.
-/

namespace PdfDisplay

/-- The font that is being resolved, and where its objects come from. -/
structure FontResolver (m : Type → Type) where
  /-- The source of objects. -/
  store : ObjectStore m
  /-- The tag of the font. -/
  tag : String

namespace FontResolver

variable {m : Type → Type} [Monad m] {α : Type}

/-! ## Links -/

/-- Gives a warning about the font. -/
def warn (r : FontResolver m) (code : WarningCode) (description : String)
    (target? : Option ObjectRef) : Diagnosing m Unit :=
  Diagnosing.warn
    { code, description, fontName? := some r.tag, object? := target?.map (·.text) }

/-- The answer to a request, or a warning. -/
def fetch (r : FontResolver m) (key : String) (target : ObjectRef)
    (answer : m (Except StoreError α)) : Diagnosing m (Option α) := do
  match ← (answer : m _) with
  | .ok value => return some value
  | .error e =>
    r.warn e.warningCode ("/" ++ key ++ ": " ++ e.message) (some target)
    return none

/-- The decoded data of a stream. -/
def stream (r : FontResolver m) (key : String) (target : ObjectRef) : Diagnosing m (Option Bytes) :=
  r.fetch key target (r.store.decoded target)

/-- The dictionary that a reference leads to. -/
def dictionaryAt (r : FontResolver m) (key : String) (target : ObjectRef) :
    Diagnosing m (Option Dictionary) := do
  match ← r.fetch key target (r.store.text target) with
  | none => return none
  | some text =>
    match Dictionary.parse? (Utf8.encode text) with
    | some d => return some d
    | none =>
      r.warn .malformedDictionary ("/" ++ key ++ " is not a dictionary") (some target)
      return none

/-- The object that a value is or leads to. -/
def object (r : FontResolver m) (key : String) : Object → Diagnosing m (Option Object)
  | .reference target => do
    match ← r.fetch key target (r.store.text target) with
    | none => return none
    | some text =>
      match Object.parse? (Utf8.encode text) with
      | some value => return some value
      | none =>
        r.warn .malformedDictionary ("/" ++ key ++ " object is unreadable") (some target)
        return none
  | value => return some value

/-- The dictionary that a value is or leads to. -/
def dictionary (r : FontResolver m) (key : String) : Object → Diagnosing m (Option Dictionary)
  | .dictionary entries => return some ⟨entries⟩
  | .reference target => r.dictionaryAt key target
  | _ => do
    r.warn .malformedDictionary ("/" ++ key ++ " is not a dictionary") none
    return none

/-- The object under a key. -/
def entry (r : FontResolver m) (d : Dictionary) (key : String) : Diagnosing m (Option Object) :=
  match d.get? key with
  | some value => r.object key value
  | none => return none

/-! ## Parts -/

/-- The character map that a value leads to. Only a reference leads to one, and a map
without entries is none. -/
def charMap (r : FontResolver m) : Option Object → Diagnosing m (Option CharMap)
  | some (.reference target) => do
    match ← r.stream "ToUnicode" target with
    | none => return none
    | some data =>
      match CharMap.parse data with
      | .ok map => return if map.isEmpty then none else some map
      | .error e =>
        r.warn .malformedDictionary ("ToUnicode: " ++ e.failure.detail) (some target)
        return none
  | _ => return none

/-- The code of the first declared width: a whole number of 32 bits, or else zero. -/
def firstCode (value? : Option Object) : Nat :=
  match value?.bind Object.integer? with
  | some value => if 0 ≤ value ∧ value < 0x100000000 then value.toNat else 0
  | none => 0

/-- The widths that a simple font declares. -/
def simpleWidths (r : FontResolver m) (d : Dictionary) (missing? : Option Float) :
    Diagnosing m (Option WidthTable) := do
  match ← r.entry d "Widths" with
  | none => return none
  | some (.array items) =>
    let first := firstCode (← r.entry d "FirstChar")
    match WidthTable.ofSimple first items missing? with
    | .ok table => return some table
    | .error e =>
      r.warn .malformedDictionary ("/Widths: " ++ e.failure.detail) none
      return none
  | some _ =>
    r.warn .malformedDictionary "/Widths is not an array" none
    return none

/-- The widths that a composite font's descendant declares. -/
def compositeWidths (r : FontResolver m) (d : Dictionary) (default? : Option Float) :
    Diagnosing m (Option WidthTable) := do
  match ← r.entry d "W" with
  | none => return none
  | some (.array items) =>
    match WidthTable.ofComposite items default? with
    | .ok table => return some table
    | .error e =>
      r.warn .malformedDictionary ("/W: " ++ e.failure.detail) none
      return none
  | some _ =>
    r.warn .malformedDictionary "/W is not an array" none
    return none

/-- The descriptor of a font. -/
def descriptor (r : FontResolver m) (d : Dictionary) : Diagnosing m (Option Dictionary) :=
  match d.get? "FontDescriptor" with
  | some value => r.dictionary "FontDescriptor" value
  | none => return none

/-- The key under which a descriptor refers to its program, and the reference. -/
def programLink? (d : Dictionary) : Option (String × ObjectRef) :=
  ["FontFile2", "FontFile", "FontFile3"].findSome? fun key =>
    (d.reference? key).map ((key, ·))

/-- The format of a program in a stream of one of many formats. -/
def formatOf (subtype? : Option String) : FontFormat :=
  match subtype? with
  | some "Type1C" => .openType
  | some "CIDFontType0C" => .openType
  | _ => .binary

/-- The format of the program under a key. -/
def programFormat (r : FontResolver m) (key : String) (target : ObjectRef) :
    Diagnosing m FontFormat := do
  match key with
  | "FontFile2" => return .trueType
  | "FontFile" => return .type1
  | key => return formatOf ((← r.dictionaryAt key target).bind (·.name? "Subtype"))

/-- The program that a descriptor refers to. -/
def program (r : FontResolver m) (d : Dictionary) : Diagnosing m (Option FontProgram) := do
  match programLink? d with
  | none => return none
  | some (key, target) =>
    -- the dictionary is asked for before the data
    let format ← r.programFormat key target
    return (← r.stream key target).map (⟨·, format⟩)

/-! ## Kinds of fonts -/

/-- Completes a font of Type 3, whose widths are scaled by its font matrix. -/
def type3 (r : FontResolver m) (d : Dictionary) (encoding? : Option Object) (font : Font) :
    Diagnosing m Font := do
  let scale := (((d.array? "FontMatrix").bind (·.head?)).bind Object.number?).elim 1.0 (· * 1000.0)
  let widths? ← r.simpleWidths d none
  return { font with
    encoding := .ofObject encoding?
    defaultWidth := WidthTable.standard * scale
    widths? := widths?.map (·.scaled scale) }

/-- Completes any other simple font. -/
def simple (r : FontResolver m) (d : Dictionary) (encoding? : Option Object) (font : Font) :
    Diagnosing m Font := do
  let descriptor? ← r.descriptor d
  let missing? := descriptor?.bind (·.number? "MissingWidth")
  let widths? ← r.simpleWidths d missing?
  let program? ← descriptor?.elim (pure none) r.program
  return { font with
    encoding := .ofObject encoding?
    defaultWidth := missing?.getD font.defaultWidth
    widths?
    program? }

/-- The direction in which a composite font with an encoding is written. -/
def directionOf : Option Object → WritingMode
  | some (.name name) => if "-V".toList.isSuffixOf name.toList then .vertical else .horizontal
  | some (.dictionary entries) =>
    if (Dictionary.mk entries).integer? "WMode" = some 1 then .vertical else .horizontal
  | _ => .horizontal

/-- The code length that an embedded encoding declares. -/
def encodingCodeLength (r : FontResolver m) (d : Dictionary) (encoding? : Option Object) :
    Diagnosing m (Option Nat) := do
  match encoding?, d.reference? "Encoding" with
  | some (.dictionary _), some target =>
    match ← r.stream "Encoding" target with
    | some data => return (CharMap.parse data).toOption.bind (·.codeLength?)
    | none => return none
  | _, _ => return none

/-- The code length of a composite font: that of its embedded encoding, or, where the
encoding is no reference, that of its character map, and else two. -/
def codeLength (r : FontResolver m) (d : Dictionary) (encoding? : Option Object)
    (charMap? : Option CharMap) : Diagnosing m Nat := do
  let embedded? ← r.encodingCodeLength d encoding?
  if (d.reference? "Encoding").isSome then return embedded?.getD 2
  else return (charMap?.bind (·.codeLength?)).getD 2

/-- The descendant of a composite font. -/
def descendant (r : FontResolver m) (d : Dictionary) : Diagnosing m (Option Dictionary) := do
  match ← r.entry d "DescendantFonts" with
  | some (.array (first :: _)) => r.dictionary "DescendantFonts" first
  | _ => return none

/-- Completes a composite font. -/
def composite (r : FontResolver m) (d : Dictionary) (encoding? : Option Object) (font : Font) :
    Diagnosing m Font := do
  let font := { font with
    writingMode := directionOf encoding?
    codeLength := ← r.codeLength d encoding? font.charMap? }
  match ← r.descendant d with
  | none =>
    r.warn .malformedDictionary "Type0 font without a descendant font" none
    return font
  | some descendant =>
    let default? := (← r.entry descendant "DW").bind Object.number?
    let widths? ← r.compositeWidths descendant default?
    let descriptor? ← r.descriptor descendant
    let program? ← descriptor?.elim (pure none) r.program
    return { font with
      defaultWidth := default?.getD WidthTable.standard
      widths?
      program? }

/-- The font of a dictionary. -/
def font (r : FontResolver m) (d : Dictionary) : Diagnosing m Font := do
  let kind := FontKind.ofName ((d.name? "Subtype").getD "")
  let baseName := (d.name? "BaseFont").getD ""
  let stripped := withoutSubsetMark baseName
  let encoding? ← r.entry d "Encoding"
  let charMap? ← r.charMap (d.get? "ToUnicode")
  let font := { Font.fallback r.tag with
    kind
    baseName
    family := if stripped.isEmpty then r.tag else stripped
    encodingName? := encoding?.bind Object.name?
    charMap? }
  match kind with
  | .composite => r.composite d encoding? font
  | .type3 => r.type3 d encoding? font
  | _ => r.simple d encoding? font

end FontResolver

namespace Font

variable {m : Type → Type} [Monad m]

/-- Resolves a font dictionary. -/
def resolve (store : ObjectStore m) (tag : String) (d : Dictionary) : m (Diagnosed Font) :=
  (FontResolver.font ⟨store, tag⟩ d).collect

/-- Resolves the text of a font dictionary. A text that begins no dictionary gives no
font. -/
def resolveText (store : ObjectStore m) (tag : String) (text : Bytes) :
    m (Except Failure (Diagnosed Font)) := do
  match Dictionary.parse? text with
  | some d => return .ok (← resolve store tag d)
  | none => return .error (.failed .font ("font " ++ tag ++ " has no dictionary"))

end Font

end PdfDisplay
