import PdfDisplay.CommandLine.Arguments
import PdfDisplay.CommandLine.Rows
import PdfDisplay.Document.Pages
import PdfDisplay.PageSelection
import PdfDisplay.Store.Memo

/-!
# Running commands

A command works on the pages of one document, in ascending order, behind a store that
remembers its answers. Messages are given as the work goes on; the output is given at the
end, so that a command that fails prints messages only.
-/

namespace PdfDisplay.CommandLine

/-- What a command prints when it succeeds. -/
inductive Output where
  /-- Lines of text. -/
  | lines (rows : List String)
  /-- A JSON value on one line. -/
  | json (value : Json)
  deriving Inhabited

/-- The text that is printed. -/
def Output.text : Output → String
  | lines rows => String.join (rows.map (· ++ "\n"))
  | json value => value.compact ++ "\n"

/-- What a command leaves behind. -/
structure Outcome where
  /-- The exit code. -/
  exitCode : Nat
  /-- What is printed. -/
  output : Output
  /-- The messages, in the order in which they were given. -/
  messages : List String
  deriving Inhabited

/-- Why there is no document behind a path. -/
inductive LoadError where
  /-- There is no file. -/
  | notFound
  /-- The file cannot be read. -/
  | unreadable (reason : String)
  /-- The file holds no document that can be rendered. -/
  | refused (failure : Failure)
  deriving DecidableEq, Repr

/-- The message about a file. -/
def LoadError.message (path : String) : LoadError → String
  | notFound => "Error: file not found: " ++ path
  | unreadable reason => "Error: failed to read " ++ path ++ ": " ++ reason
  | refused failure => "Error: failed to open PDF: " ++ failure.detail

/-! ## Work -/

/-- Work that gives messages, may fail with a last one, and remembers what it has loaded. -/
abbrev Job : Type → Type := ExceptT String (StateT (List String) (StateM Memo))

namespace Job

/-- Gives a message. -/
def report (message : String) : Job Unit :=
  modifyThe (List String) (· ++ [message])

/-- Work that only asks the store. -/
def ask {α : Type} (request : StateM Memo α) : Job α :=
  (StateT.lift request : StateT (List String) (StateM Memo) α)

/-- A result that may be missing, with the message for that case. -/
def ofExcept {ε α : Type} (message : ε → String) : Except ε α → Job α
  | .ok a => pure a
  | .error e => throw (message e)

/-- Does the work. -/
def run (job : Job Output) : Outcome :=
  match Id.run (((ExceptT.run job).run []).run {}) with
  | ((.ok output, messages), _) => ⟨0, output, messages⟩
  | ((.error message, messages), _) => ⟨1, .lines [], messages ++ [message]⟩

end Job

/-- The document of a command, as a store that remembers its answers. -/
def documentStore (d : PagedDocument) : ObjectStore (StateM Memo) := d.document.store.memoized

/-- The indices of the pages that a request selects. -/
def selectedPages (d : PagedDocument) (request : Request) : Job (List Nat) :=
  match request.pages? with
  | none => pure (List.range d.pageCount)
  | some selection =>
    Job.ofExcept (fun e => "Error: " ++ e.message) (PageSelection.parse selection d.pageCount)

/-- What the page with an index is rendered from. -/
def pageInput (d : PagedDocument) (index : Nat) : Job PageInput :=
  Job.ofExcept (fun e => "Error reading page " ++ toString (index + 1) ++ ": " ++ e.detail)
    (d.page index)

/-- Gives the warnings about the page with an index, if they are wanted. -/
def reportWarnings (request : Request) (index : Nat) (warnings : List Warning) : Job Unit :=
  if request.showWarnings then
    warnings.forM fun w => Job.report ("page " ++ toString (index + 1) ++ ": " ++ w.text)
  else pure ()

/-! ## Rendering -/

/-- A page with its number. -/
def renderPage (d : PagedDocument) (request : Request) (options : RenderOptions) (index : Nat) :
    Job (Nat × RenderedPage) := do
  let input ← pageInput d index
  let rendered ← Job.ask (input.render (documentStore d) options)
  reportWarnings request index rendered.warnings
  return (index + 1, rendered.value)

/-- Prints what the selected pages show. -/
def render (d : PagedDocument) (request : Request) (options : RenderOptions) : Job Output := do
  let pages ← (← selectedPages d request).mapM (renderPage d request options)
  return match request.format with
    | .text => .lines (pages.flatMap fun (number, page) => page.lines number)
    | .json => .json (.ofList (fun (number, page) => page.summary number) pages)

/-! ## Listing fonts -/

/-- The rows of some fonts of a page, whose programs are registered. -/
def fontRows (page : Nat) (registry : FontRegistry) : List Font → List FontRow × FontRegistry
  | [] => ([], registry)
  | font :: rest =>
    let (row, registry) := FontRow.ofFont page font registry
    let (rows, registry) := fontRows page registry rest
    (row :: rows, registry)

/-- The fonts that the page with an index declares. -/
def pageFonts (d : PagedDocument) (request : Request) (index : Nat) : Job (List Font) := do
  let input ← pageInput d index
  let resources ← Job.ask (PageResources.parse (documentStore d) input.resources)
  let fonts ← Job.ask (FontCache.preload (documentStore d) ∅ resources.value.fonts)
  reportWarnings request index (resources.warnings ++ fonts.warnings)
  return fonts.value.fonts

/-- The rows of the fonts of some pages, in the order of the pages. -/
def fontRowsFrom (d : PagedDocument) (request : Request) (registry : FontRegistry) :
    List Nat → Job (List FontRow × FontRegistry)
  | [] => return ([], registry)
  | index :: rest => do
    let (first, registry) := fontRows (index + 1) registry (← pageFonts d request index)
    let (others, registry) ← fontRowsFrom d request registry rest
    return (first ++ others, registry)

/-- Lists the fonts of the selected pages. -/
def listFonts (d : PagedDocument) (request : Request) : Job Output := do
  let (rows, registry) ← fontRowsFrom d request ∅ (← selectedPages d request)
  return match request.format with
    | .text => .lines (FontRow.header :: rows.map FontRow.line)
    | .json => .json (.object [("fonts", .ofList FontRow.summary rows),
        ("registered_families", .ofList Json.string registry.families)])

/-! ## Commands -/

namespace Command

/-- What a command is told. -/
def request : Command → Request
  | render request _ | fonts request => request

/-- The work of a command on a document. -/
def job (d : PagedDocument) : Command → Job Output
  | render request options => CommandLine.render d request options
  | fonts request => listFonts d request

/-- Runs a command on the document behind its path. -/
def run (command : Command) (loaded : Except LoadError PagedDocument) : Outcome :=
  Job.run do
    let d ← Job.ofExcept (LoadError.message command.request.file) loaded
    command.job d

end Command

end PdfDisplay.CommandLine
