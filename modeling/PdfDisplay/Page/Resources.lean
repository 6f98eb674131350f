import PdfDisplay.Font.Cache
import PdfDisplay.Text.Blank

/-!
# Page resources

What page contents refer to by name: fonts, images and parameters of the graphics state,
each in a category of the resources dictionary. A category may be a reference, and so may
the parameters. What cannot be read is left out, with a warning for each entry, or for the
category.
-/

namespace PdfDisplay

/-- The named resources of a page. -/
structure PageResources where
  /-- The fonts by their tags. -/
  fonts : Std.TreeMap String FontEntry := ∅
  /-- The objects that can be drawn. -/
  drawable : Std.TreeMap String ObjectRef := ∅
  /-- The parameters of the graphics state. -/
  parameters : Std.TreeMap String Dictionary := ∅

namespace PageResources

variable {m : Type → Type} [Monad m]

/-- No resources. -/
def empty : PageResources := {}

instance : EmptyCollection PageResources := ⟨empty⟩

/-! ## Entries -/

/-- Warns of an entry of the wrong shape. -/
def warnMalformed (description : String) : Diagnosing m Unit :=
  Diagnosing.warn { code := .malformedDictionary, description }

/-- The dictionary that a value is or leads to. -/
def dictionary (store : ObjectStore m) (key : String) : Object → Diagnosing m (Option Dictionary)
  | .dictionary entries => return some ⟨entries⟩
  | .reference target => do
    match ← (store.text target : m _) with
    | .ok text =>
      match Dictionary.parse? (Utf8.encode text) with
      | some d => return some d
      | none =>
        Diagnosing.warn
          { code := .malformedDictionary, description := "/" ++ key ++ " is not a dictionary",
            object? := some target.text }
        return none
    | .error e =>
      Diagnosing.warn
        { code := e.warningCode, description := "/" ++ key ++ ": " ++ e.message,
          object? := some target.text }
      return none
  | _ => do
    warnMalformed ("/" ++ key ++ " is not a dictionary")
    return none

/-- The entries of a category. -/
def category (store : ObjectStore m) (d : Dictionary) (key : String) :
    Diagnosing m (List (String × Object)) := do
  match d.get? key with
  | none => return []
  | some value =>
    match ← dictionary store key value with
    | some entries => return entries.entries
    | none => return []

/-- The font that an entry gives. -/
def fontEntry (tag : String) : Object → Diagnosing m (Option FontEntry)
  | .reference target => return some (.reference target)
  | .dictionary entries => return some (.inline ⟨entries⟩)
  | _ => do
    warnMalformed ("/Font /" ++ tag ++ " is neither a dictionary nor a reference")
    return none

/-- The object that an entry gives. -/
def drawableEntry (name : String) : Object → Diagnosing m (Option ObjectRef)
  | .reference target => return some target
  | _ => do
    warnMalformed ("/XObject /" ++ name ++ " is not a reference")
    return none

/-- The table of the entries that can be read. -/
def tabulate {α : Type} (read : String → Object → Diagnosing m (Option α))
    (table : Std.TreeMap String α) : List (String × Object) → Diagnosing m (Std.TreeMap String α)
  | [] => return table
  | (key, value) :: rest => do
    match ← read key value with
    | some entry => tabulate read (table.insert key entry) rest
    | none => tabulate read table rest

/-! ## Dictionaries -/

/-- The resources in a dictionary. -/
def ofDictionary (store : ObjectStore m) (d : Dictionary) : Diagnosing m PageResources := do
  let fonts ← tabulate fontEntry ∅ (← category store d "Font")
  let drawable ← tabulate drawableEntry ∅ (← category store d "XObject")
  let parameters ← tabulate (dictionary store) ∅ (← category store d "ExtGState")
  return { fonts, drawable, parameters }

/-- The resources in the text of a dictionary; a blank text has none. -/
def parse (store : ObjectStore m) (text : String) : m (Diagnosed PageResources) :=
  Diagnosing.collect do
    if text.toList.all isBlank then return ∅
    else
      match Dictionary.parse? (Utf8.encode text) with
      | some d => ofDictionary store d
      | none =>
        warnMalformed "/Resources is not a dictionary"
        return ∅

end PageResources

end PdfDisplay
