import PdfDisplay.Page.Content

/-!
# Rendering pages

A page is rendered in three steps: its resources are read, all fonts that they declare are
resolved, and its contents are executed, as far as the byte limit admits.
-/

namespace PdfDisplay

/-- What a page is rendered from. -/
structure PageInput where
  /-- The vertical coordinate of the upper side of the page. -/
  height : Float
  /-- The text of the resources dictionary. -/
  resources : String
  /-- The contents. -/
  content : Bytes
  deriving DecidableEq, Repr, Inhabited

/-- A rendered page. -/
structure RenderedPage where
  /-- What the page shows. -/
  items : DisplayList
  /-- The fonts of the page, in alphabetical order of their tags. -/
  fonts : List Font
  /-- Why the contents were cut short, if they were. -/
  truncated? : Option Truncation

namespace PageInput

/-- Why not all bytes of the contents are read, if there are too many. -/
def cut? (page : PageInput) (limit : Nat) : Option Truncation :=
  if limit < page.content.length then some (.byteLimit page.content.length limit) else none

variable {m : Type → Type} [Monad m]

/-- Renders a page. -/
def render (store : ObjectStore m) (options : RenderOptions) (page : PageInput) :
    m (Diagnosed RenderedPage) := do
  let resources ← PageResources.parse store page.resources
  let fonts ← FontCache.preload store ∅ resources.value.fonts
  let cut? := page.cut? options.maxStreamBytes
  let context : PageContext m := ⟨store, page.height, resources.value, options⟩
  let run ← Content.run context fonts.value (page.content.take options.maxStreamBytes)
  let warnings :=
    resources.warnings ++ fonts.warnings ++ cut?.toList.map Truncation.warning ++ run.warnings
  return {
    value := {
      items := run.items
      fonts := run.fonts.fonts
      truncated? := cut?.orElse fun _ => run.stopped? }
    warnings := if options.collectWarnings then warnings else [] }

end PageInput

end PdfDisplay
