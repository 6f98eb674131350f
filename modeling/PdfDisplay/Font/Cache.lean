import PdfDisplay.Font.Resolution
import Std.Data.TreeMap

/-!
# The font cache

A page selects its fonts by tags. The cache resolves each tag once; a tag that the page does
not define, or whose dictionary cannot be read, is kept as the fallback font.
-/

namespace PdfDisplay

/-- How page resources give a font. -/
inductive FontEntry where
  /-- By reference. -/
  | reference (target : ObjectRef)
  /-- By its dictionary. -/
  | inline (d : Dictionary)
  deriving Inhabited

/-- The fonts of a page by their tags. -/
structure FontCache where
  /-- The fonts. -/
  byTag : Std.TreeMap String Font

namespace FontCache

/-- No fonts. -/
def empty : FontCache := ⟨∅⟩

instance : EmptyCollection FontCache := ⟨empty⟩

/-- The font with a tag. -/
def get? (cache : FontCache) (tag : String) : Option Font := cache.byTag[tag]?

/-- Whether there is a font with a tag. -/
def contains (cache : FontCache) (tag : String) : Bool := cache.byTag.contains tag

/-- The number of fonts. -/
def size (cache : FontCache) : Nat := cache.byTag.size

/-- Whether there are no fonts. -/
def isEmpty (cache : FontCache) : Bool := cache.byTag.isEmpty

/-- The tags in alphabetical order. -/
def tags (cache : FontCache) : List String := cache.byTag.keys

/-- The fonts in alphabetical order of their tags. -/
def fonts (cache : FontCache) : List Font := cache.byTag.values

/-- The cache with a font under a tag. -/
def insert (cache : FontCache) (tag : String) (font : Font) : FontCache :=
  ⟨cache.byTag.insert tag font⟩

variable {m : Type → Type} [Monad m]

/-- The fallback font, with the reason why a tag names no other. -/
def unresolved (tag : String) (warning : Warning) : Diagnosed Font :=
  ⟨.fallback tag, [warning.withFont tag]⟩

/-- The font that an entry of the resources gives. -/
def resolveEntry (store : ObjectStore m) (tag : String) :
    Option FontEntry → m (Diagnosed Font)
  | some (.inline d) => Font.resolve store tag d
  | some (.reference target) => do
    match ← store.text target with
    | .error e =>
      return unresolved tag
        { code := .missingReference, description := e.message, object? := some target.text }
    | .ok text =>
      match ← Font.resolveText store tag (Utf8.encode text) with
      | .ok font => return font
      | .error failure =>
        return unresolved tag
          { code := .malformedDictionary, description := failure.detail,
            object? := some target.text }
  | none =>
    return unresolved tag
      { code := .missingReference, description := "font not in page resources" }

/-- The font with a tag, which is resolved if the cache does not have it. -/
def getOrResolve (store : ObjectStore m) (cache : FontCache) (tag : String)
    (given? : Option FontEntry) : m (Diagnosed Font × FontCache) := do
  match cache.get? tag with
  | some font => return (.clean font, cache)
  | none =>
    let resolved ← resolveEntry store tag given?
    return (resolved, cache.insert tag resolved.value)

/-- Resolves fonts one after another, behind the warnings given so far. -/
def preloadFrom (store : ObjectStore m) (warnings : List Warning) (cache : FontCache) :
    List (String × FontEntry) → m (Diagnosed FontCache)
  | [] => return ⟨cache, warnings⟩
  | (tag, entry) :: rest => do
    let (font, cache) ← getOrResolve store cache tag (some entry)
    preloadFrom store (warnings ++ font.warnings) cache rest

/-- Resolves all fonts that page resources declare. -/
def preload (store : ObjectStore m) (cache : FontCache)
    (entries : Std.TreeMap String FontEntry) : m (Diagnosed FontCache) :=
  preloadFrom store [] cache entries.toList

end FontCache

end PdfDisplay
