import PdfDisplay.Document.Basic
import PdfDisplay.Page.Rendering

/-!
# Pages of a document

The pages are the leaves of a tree. A node passes its box and its resources on to the pages
below it that have none of their own; `Document.inherited?` looks for them from the page
upward. The contents of a page may be in several streams, which are joined by line feeds, so
that no word runs across the end of a stream.

A document that can be rendered is a `PagedDocument`: it is not encrypted, and its pages are
known.
-/

namespace PdfDisplay

namespace Document

/-- A failure to read the structure of a document. -/
def malformed {α : Type} (message : String) : Except Failure α := .error (.failed .parse message)

/-- Whether the document is encrypted: its trailer refers to a dictionary that says how. -/
def isEncrypted (d : Document) : Bool :=
  match (entryValue? "Encrypt" d.trailer).bind Value.reference? with
  | some target => (d.getDictionary target).toOption.isSome
  | none => false

/-! ## The page tree -/

/-- A node of the page tree. -/
inductive Node where
  /-- A page. -/
  | page (target : ObjectRef)
  /-- A group of nodes. -/
  | group (kids : List Value)
  /-- Something else. -/
  | other

/-- The nodes below the one that a reference leads to. -/
def kids (d : Document) (target : ObjectRef) : List Value :=
  match d.getDictionary target with
  | .ok entries => (((entryValue? "Kids" entries).map d.resolve).bind Value.array?).getD []
  | .error _ => []

/-- The node that a kid is. -/
def node (d : Document) : Value → Node
  | .reference target =>
    match d.getDictionary target with
    | .ok entries =>
      match ((entryValue? "Type" entries).bind Value.name?).map Utf8.decode with
      | some "Page" => .page target
      | some "Pages" => .group (d.kids target)
      | _ => .other
    | .error _ => .other
  | _ => .other

/-- A node that is still to be looked at. -/
structure PendingNode where
  /-- The node. -/
  value : Value
  /-- How many of the groups around it have nodes that come after it. -/
  depth : Nat

/-- A group is entered only where fewer groups than this around it are unfinished. -/
def depthLimit : Nat := 256

/-- The depth of the nodes of a group at a depth. The group around it stays unfinished if its
next node is pending too; every other pending node is at a lesser depth. -/
def depthBelow (depth : Nat) (rest : List PendingNode) : Nat :=
  if rest.head?.any (·.depth == depth) then depth + 1 else depth

/-- The pages among nodes and below them, from left to right. The tree may have cycles, so
at most `limit` nodes are looked at. -/
def pagesFrom (d : Document) : (limit : Nat) → (pending : List PendingNode) → List ObjectRef
  | 0, _ | _, [] => []
  | limit + 1, kid :: rest =>
    match d.node kid.value with
    | .page target => target :: pagesFrom d limit rest
    | .group kids =>
      if kid.depth < depthLimit then
        -- the pages of a group come before those behind it
        pagesFrom d limit (kids.map (⟨·, depthBelow kid.depth rest⟩) ++ rest)
      else pagesFrom d limit rest
    | .other => pagesFrom d limit rest

/-- The root of the page tree. -/
def pageRoot? (d : Document) : Option ObjectRef := do
  let catalog ← (entryValue? "Root" d.trailer).bind Value.reference?
  let entries ← (d.getDictionary catalog).toOption
  (entryValue? "Pages" entries).bind Value.reference?

/-- The pages in their order. -/
def pages (d : Document) : List ObjectRef :=
  match d.pageRoot? with
  | some root => d.pagesFrom d.size ((d.kids root).map (⟨·, 0⟩))
  | none => []

/-! ## Parts of a page -/

/-- The entries of a page or of a node above it. -/
def pageDictionary (d : Document) (target : ObjectRef) :
    Except Failure (List (Bytes × Value)) :=
  match d.getDictionary target with
  | .ok entries => .ok entries
  | .error e => malformed ("failed to get page dictionary: " ++ e.message)

/-- How many nodes are looked at from a page upward. -/
def heightLimit : Nat := 64

/-- The value of a key on a node, or on the nearest node above that has the key. -/
def inheritedFrom? (d : Document) (key : String) :
    (steps : Nat) → ObjectRef → Except Failure (Option Value)
  | 0, _ => .ok none
  | steps + 1, target => do
    let entries ← d.pageDictionary target
    match entryValue? key entries with
    | some value => return some value
    | none =>
      match (entryValue? "Parent" entries).bind Value.reference? with
      | some parent => inheritedFrom? d key steps parent
      | none => return none

/-- The value of a key on a page, or the one that it inherits. -/
def inherited? (d : Document) (key : String) (page : ObjectRef) :
    Except Failure (Option Value) :=
  d.inheritedFrom? key heightLimit page

/-- The number that a value leads to. -/
def coordinate (d : Document) (value : Value) : Except Failure Float :=
  let value := d.resolve value
  match value.number? with
  | some x => .ok x
  | none => malformed ("expected number, got " ++ value.sketch)

/-- The upper side of a box. -/
def upperSide (d : Document) : List Value → Except Failure Float
  | [_, y0, _, y1] => do return greater (← d.coordinate y0) (← d.coordinate y1)
  | items => malformed ("expected 4-element MediaBox, got " ++ toString items.length)

/-- The vertical coordinate of the upper side of a page. -/
def pageHeight (d : Document) (page : ObjectRef) : Except Failure Float := do
  match (← d.inherited? "MediaBox" page).map d.resolve with
  | some (.array items) => d.upperSide items
  | _ => malformed "MediaBox not found on page or ancestors"

/-- The text of the resources of a page. -/
def pageResources (d : Document) (page : ObjectRef) : Except Failure String := do
  return match ← d.inherited? "Resources" page with
  | some value => (d.resolve value).text
  | none => ""

/-- The streams that hold the contents of a page. What a list holds besides references is
left out. -/
def contentStreams (d : Document) (page : ObjectRef) : Except Failure (List ObjectRef) := do
  match entryValue? "Contents" (← d.pageDictionary page) with
  | none => return []
  | some contents =>
    match d.resolve contents with
    | .array items => return items.filterMap Value.reference?
    | .stream _ _ => return contents.reference?.toList
    | _ => malformed "/Contents is not a stream or array"

/-- The data of several streams as one: from the first that is not empty on, with a line
feed between one and the next. -/
def joined (streams : List Bytes) : Bytes :=
  [Byte.of '\n'].intercalate (streams.dropWhile List.isEmpty)

/-- The contents of a page. -/
def pageContent (d : Document) (page : ObjectRef) : Except Failure Bytes := do
  let streams ← (← d.contentStreams page).mapM fun target =>
    match d.decoded target with
    | .ok data => .ok data
    | .error e => .error (.failed .store e.message)
  return joined streams

/-- What a page is rendered from. -/
def pageInput (d : Document) (page : ObjectRef) : Except Failure PageInput := do
  let height ← d.pageHeight page
  let resources ← d.pageResources page
  let content ← d.pageContent page
  return { height, resources, content }

end Document

/-! ## Documents with their pages -/

/-- A document that can be rendered, with its pages. -/
structure PagedDocument where
  /-- The document. -/
  document : Document
  /-- The pages in their order. -/
  pages : List ObjectRef
  /-- The pages are those of the document. -/
  pages_eq : pages = document.pages := by rfl
  /-- The document is not encrypted. -/
  readable : document.isEncrypted = false

namespace PagedDocument

/-- The document with its pages, unless it is encrypted. -/
def ofDocument (document : Document) : Except Failure PagedDocument :=
  if h : document.isEncrypted = false then
    .ok { document, pages := document.pages, readable := h }
  else Document.malformed "encrypted documents are not supported"

/-- The number of pages. -/
def pageCount (d : PagedDocument) : Nat := d.pages.length

/-- What the page with an index is rendered from; the first page has index zero. -/
def page (d : PagedDocument) (index : Nat) : Except Failure PageInput :=
  match d.pages[index]? with
  | some target => d.document.pageInput target
  | none =>
    Document.malformed ("page index " ++ toString index ++ " out of range (0.." ++
      toString d.pageCount ++ ")")

end PagedDocument

end PdfDisplay
