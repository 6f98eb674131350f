import PdfDisplay.Font.Cache
import PdfDisplay.Proofs.Store.Simulation

/-!
# Fonts from related stores

Resolving a font makes the same of related answers: for every function of the resolution, from the
single request to the fonts of a whole page, a simulation that relates two stores relates what the
function does with them. The lemmas follow the definitions, each of which asks through the ones in
front of it.
-/

namespace PdfDisplay

variable {m n : Type → Type} [Monad m] [Monad n] {R : Simulation m n}
  {store : ObjectStore m} {store' : ObjectStore n} (hstore : R.Stores store store')

namespace FontResolver

variable (tag : String)

/-! ## Links -/

/-- Fetching asks once and leaves a warning where the answer is an error, so it goes in step
whenever the two answers do. -/
theorem rel_fetch {α : Type} {x : m (Except StoreError α)} {y : n (Except StoreError α)}
    (h : R.Rel x y) (key : String) (target : ObjectRef) :
    R.diagnosing.Rel (fetch ⟨store, tag⟩ key target x) (fetch ⟨store', tag⟩ key target y) := by
  refine R.diagnosing.bind (R.lift h) fun answer => ?_
  cases answer with
  | ok value => exact R.diagnosing.pure _
  | error e => exact R.warned _ _

include hstore

theorem rel_stream (key : String) (target : ObjectRef) :
    R.diagnosing.Rel (stream ⟨store, tag⟩ key target) (stream ⟨store', tag⟩ key target) :=
  rel_fetch tag (hstore.decoded target) key target

theorem rel_dictionaryAt (key : String) (target : ObjectRef) :
    R.diagnosing.Rel (dictionaryAt ⟨store, tag⟩ key target)
      (dictionaryAt ⟨store', tag⟩ key target) := by
  refine R.diagnosing.bind (rel_fetch tag (hstore.text target) key target) fun text? => ?_
  cases text? with
  | none => exact R.diagnosing.pure _
  | some text =>
    dsimp only
    cases Dictionary.parse? (Utf8.encode text) with
    | some d => exact R.diagnosing.pure _
    | none => exact R.warned _ _

/-- Following a reference asks for one text; any other value asks for nothing. -/
theorem rel_object (key : String) (value : Object) :
    R.diagnosing.Rel (object ⟨store, tag⟩ key value) (object ⟨store', tag⟩ key value) := by
  cases value with
  | reference target =>
    refine R.diagnosing.bind (rel_fetch tag (hstore.text target) key target) fun text? => ?_
    cases text? with
    | none => exact R.diagnosing.pure _
    | some text =>
      dsimp only
      cases Object.parse? (Utf8.encode text) with
      | some value => exact R.diagnosing.pure _
      | none => exact R.warned _ _
  | _ => exact R.diagnosing.pure _

theorem rel_dictionary (key : String) (value : Object) :
    R.diagnosing.Rel (dictionary ⟨store, tag⟩ key value) (dictionary ⟨store', tag⟩ key value) := by
  cases value with
  | dictionary entries => exact R.diagnosing.pure _
  | reference target => exact rel_dictionaryAt hstore tag key target
  | _ => exact R.warned _ _

theorem rel_entry (d : Dictionary) (key : String) :
    R.diagnosing.Rel (entry ⟨store, tag⟩ d key) (entry ⟨store', tag⟩ d key) := by
  unfold entry
  cases d.get? key with
  | some value => exact rel_object hstore tag key value
  | none => exact R.diagnosing.pure _

/-! ## Parts -/

/-- The map to text is parsed from a stream, and a parse error leaves the same warning on both
sides. -/
theorem rel_charMap (value? : Option Object) :
    R.diagnosing.Rel (charMap ⟨store, tag⟩ value?) (charMap ⟨store', tag⟩ value?) := by
  unfold charMap
  split
  case h_1 target =>
    refine R.diagnosing.bind (rel_stream hstore tag _ target) fun data? => ?_
    cases data? with
    | none => exact R.diagnosing.pure _
    | some data =>
      dsimp only
      cases CharMap.parse data with
      | ok map => exact R.diagnosing.pure _
      | error e => exact R.warned _ _
  case h_2 => exact R.diagnosing.pure _

/-- Widths are asked for in the order array, first code, so the requests of both sides come in the
same order. -/
theorem rel_simpleWidths (d : Dictionary) (missing? : Option Float) :
    R.diagnosing.Rel (simpleWidths ⟨store, tag⟩ d missing?)
      (simpleWidths ⟨store', tag⟩ d missing?) := by
  refine R.diagnosing.bind (rel_entry hstore tag d _) fun value? => ?_
  split
  case h_1 => exact R.diagnosing.pure _
  case h_2 items =>
    refine R.diagnosing.bind (rel_entry hstore tag d _) fun first? => ?_
    dsimp only
    cases WidthTable.ofSimple (firstCode first?) items missing? with
    | ok table => exact R.diagnosing.pure _
    | error e => exact R.warned _ _
  case h_3 => exact R.warned _ _

theorem rel_compositeWidths (d : Dictionary) (default? : Option Float) :
    R.diagnosing.Rel (compositeWidths ⟨store, tag⟩ d default?)
      (compositeWidths ⟨store', tag⟩ d default?) := by
  refine R.diagnosing.bind (rel_entry hstore tag d _) fun value? => ?_
  split
  case h_1 => exact R.diagnosing.pure _
  case h_2 items =>
    cases WidthTable.ofComposite items default? with
    | ok table => exact R.diagnosing.pure _
    | error e => exact R.warned _ _
  case h_3 => exact R.warned _ _

theorem rel_descriptor (d : Dictionary) :
    R.diagnosing.Rel (descriptor ⟨store, tag⟩ d) (descriptor ⟨store', tag⟩ d) := by
  unfold descriptor
  cases d.get? "FontDescriptor" with
  | some value => exact rel_dictionary hstore tag _ value
  | none => exact R.diagnosing.pure _

theorem rel_programFormat (key : String) (target : ObjectRef) :
    R.diagnosing.Rel (programFormat ⟨store, tag⟩ key target)
      (programFormat ⟨store', tag⟩ key target) := by
  unfold programFormat
  split
  case h_1 => exact R.diagnosing.pure _
  case h_2 => exact R.diagnosing.pure _
  case h_3 =>
    exact R.diagnosing.bind (rel_dictionaryAt hstore tag _ target) fun _ => R.diagnosing.pure _

/-- A font program asks for its dictionary first, if its key needs that to tell the format, and for
its data behind it. -/
theorem rel_program (d : Dictionary) :
    R.diagnosing.Rel (program ⟨store, tag⟩ d) (program ⟨store', tag⟩ d) := by
  unfold program
  cases programLink? d with
  | none => exact R.diagnosing.pure _
  | some link =>
    refine R.diagnosing.bind (rel_programFormat hstore tag _ _) fun format => ?_
    exact R.diagnosing.bind (rel_stream hstore tag _ _) fun _ => R.diagnosing.pure _

/-- The program that a descriptor refers to, where there is a descriptor. -/
theorem rel_embedded (descriptor? : Option Dictionary) :
    R.diagnosing.Rel (descriptor?.elim (pure none) (program ⟨store, tag⟩))
      (descriptor?.elim (pure none) (program ⟨store', tag⟩)) := by
  cases descriptor? with
  | none => exact R.diagnosing.pure _
  | some d => exact rel_program hstore tag d

/-! ## Kinds of fonts -/

theorem rel_type3 (d : Dictionary) (encoding? : Option Object) (font : Font) :
    R.diagnosing.Rel (type3 ⟨store, tag⟩ d encoding? font)
      (type3 ⟨store', tag⟩ d encoding? font) :=
  R.diagnosing.bind (rel_simpleWidths hstore tag d none) fun _ => R.diagnosing.pure _

/-- A simple font puts the readers of its parts one behind the other, and each of them goes in step.
-/
theorem rel_simple (d : Dictionary) (encoding? : Option Object) (font : Font) :
    R.diagnosing.Rel (simple ⟨store, tag⟩ d encoding? font)
      (simple ⟨store', tag⟩ d encoding? font) := by
  refine R.diagnosing.bind (rel_descriptor hstore tag d) fun descriptor? => ?_
  refine R.diagnosing.bind (rel_simpleWidths hstore tag d _) fun widths? => ?_
  exact R.diagnosing.bind (rel_embedded hstore tag descriptor?) fun _ => R.diagnosing.pure _

theorem rel_encodingCodeLength (d : Dictionary) (encoding? : Option Object) :
    R.diagnosing.Rel (encodingCodeLength ⟨store, tag⟩ d encoding?)
      (encodingCodeLength ⟨store', tag⟩ d encoding?) := by
  unfold encodingCodeLength
  split
  case h_1 target _ =>
    refine R.diagnosing.bind (rel_stream hstore tag _ target) fun data? => ?_
    cases data? <;> exact R.diagnosing.pure _
  case h_2 => exact R.diagnosing.pure _

/-- The code length asks for the data of an embedded encoding, and settles the rest from what was
read before. -/
theorem rel_codeLength (d : Dictionary) (encoding? : Option Object) (charMap? : Option CharMap) :
    R.diagnosing.Rel (codeLength ⟨store, tag⟩ d encoding? charMap?)
      (codeLength ⟨store', tag⟩ d encoding? charMap?) := by
  refine R.diagnosing.bind (rel_encodingCodeLength hstore tag d encoding?) fun embedded? => ?_
  split <;> exact R.diagnosing.pure _

theorem rel_descendant (d : Dictionary) :
    R.diagnosing.Rel (descendant ⟨store, tag⟩ d) (descendant ⟨store', tag⟩ d) := by
  refine R.diagnosing.bind (rel_entry hstore tag d _) fun value? => ?_
  split
  case h_1 => exact rel_dictionary hstore tag _ _
  case h_2 => exact R.diagnosing.pure _

/-- A composite font goes in step part by part; where it has no descendant, it leaves the same
warning on both sides. -/
theorem rel_composite (d : Dictionary) (encoding? : Option Object) (font : Font) :
    R.diagnosing.Rel (composite ⟨store, tag⟩ d encoding? font)
      (composite ⟨store', tag⟩ d encoding? font) := by
  refine R.diagnosing.bind (rel_codeLength hstore tag d encoding? _) fun codeLength => ?_
  refine R.diagnosing.bind (rel_descendant hstore tag d) fun descendant? => ?_
  cases descendant? with
  | none => exact R.warned _ _
  | some descendant =>
    refine R.diagnosing.bind (rel_entry hstore tag descendant _) fun default? => ?_
    refine R.diagnosing.bind (rel_compositeWidths hstore tag descendant _) fun widths? => ?_
    refine R.diagnosing.bind (rel_descriptor hstore tag descendant) fun descriptor? => ?_
    exact R.diagnosing.bind (rel_embedded hstore tag descriptor?) fun _ => R.diagnosing.pure _

/-- **Reading a font dictionary goes in step**, by its three kinds. -/
theorem rel_font (d : Dictionary) :
    R.diagnosing.Rel (font ⟨store, tag⟩ d) (font ⟨store', tag⟩ d) := by
  refine R.diagnosing.bind (rel_entry hstore tag d _) fun encoding? => ?_
  refine R.diagnosing.bind (rel_charMap hstore tag _) fun charMap? => ?_
  dsimp only
  split
  case h_1 => exact rel_composite hstore tag d encoding? _
  case h_2 => exact rel_type3 hstore tag d encoding? _
  case h_3 => exact rel_simple hstore tag d encoding? _

end FontResolver

/-! ## Fonts -/

include hstore

/-- **A font is resolved alike** with stores that give related answers. -/
theorem Font.rel_resolve (tag : String) (d : Dictionary) :
    R.Rel (resolve store tag d) (resolve store' tag d) :=
  R.collect (FontResolver.rel_font hstore tag d)

/-- A font is read from its text, which asks for no object unless the text is a dictionary. -/
theorem Font.rel_resolveText (tag : String) (text : Bytes) :
    R.Rel (resolveText store tag text) (resolveText store' tag text) := by
  unfold resolveText
  cases Dictionary.parse? text with
  | some d => exact R.bind (rel_resolve hstore tag d) fun _ => R.pure _
  | none => exact R.pure _

namespace FontCache

theorem rel_resolveEntry (tag : String) (given? : Option FontEntry) :
    R.Rel (resolveEntry store tag given?) (resolveEntry store' tag given?) := by
  unfold resolveEntry
  split
  case h_1 d => exact Font.rel_resolve hstore tag d
  case h_2 target =>
    refine R.bind (hstore.text target) fun text => ?_
    cases text with
    | error e => exact R.pure _
    | ok text =>
      refine R.bind (Font.rel_resolveText hstore tag _) fun resolved => ?_
      cases resolved <;> exact R.pure _
  case h_3 => exact R.pure _

/-- The cache is looked at first, and it is the same on both sides, so both resolve an entry or
neither does. -/
theorem rel_getOrResolve (cache : FontCache) (tag : String) (given? : Option FontEntry) :
    R.Rel (getOrResolve store cache tag given?) (getOrResolve store' cache tag given?) := by
  unfold getOrResolve
  cases cache.get? tag with
  | some font => exact R.pure _
  | none => exact R.bind (rel_resolveEntry hstore tag given?) fun _ => R.pure _

/-- **Preloading goes in step**, by induction over the entries, with the cache and the warnings so
far the same on both sides. -/
theorem rel_preloadFrom (warnings : List Warning) (cache : FontCache)
    (given : List (String × FontEntry)) :
    R.Rel (preloadFrom store warnings cache given) (preloadFrom store' warnings cache given) := by
  induction given generalizing warnings cache with
  | nil => exact R.pure _
  | cons entry rest ih =>
    exact R.bind (rel_getOrResolve hstore cache entry.1 entry.2) fun resolved =>
      ih (warnings ++ resolved.1.warnings) resolved.2

/-- **The fonts of a page are resolved alike** with stores that give related answers. -/
theorem rel_preload (cache : FontCache) (entries : Std.TreeMap String FontEntry) :
    R.Rel (preload store cache entries) (preload store' cache entries) :=
  rel_preloadFrom hstore [] cache entries.toList

end FontCache

end PdfDisplay
