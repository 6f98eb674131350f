import PdfDisplay.Graphics.Layout
import PdfDisplay.Font.Cache
import PdfDisplay.Proofs.CharMap.Texts
import PdfDisplay.Proofs.Font.Completeness

/-!
# The texts of fonts

A shown string that has bytes has codes, and every code has a text: the encodings give a
character, and so does a code point; a character map gives a text that is not empty, since it
was read (`CharMap.lookup?_ne_empty`). So only a string without bytes has the empty text
(`Font.stringText_eq_empty_iff`).

This rests on where the map of a font comes from. `Font.MapIsRead` says it, and resolving
fonts, one by one or all of a page, gives no others.
-/

namespace PdfDisplay

/-! ## Texts of codes and strings -/

theorem join_eq_empty_iff (texts : List String) :
    String.join texts = "" ↔ ∀ text ∈ texts, text = "" := by
  induction texts with
  | nil => simp
  | cons text texts ih =>
    rw [String.join_cons, String.append_eq_empty_iff, ih, List.forall_mem_cons]

namespace Font

/-- Whether the character map of a font, if it has one, was read from a text. -/
def MapIsRead (font : Font) : Prop :=
  ∀ map, font.charMap? = some map → ∃ data, CharMap.parse data = .ok map

theorem mapIsRead_fallback (tag : String) : (fallback tag).MapIsRead := nofun

/-- Every code has a text, be it the one that the map has for it or a single character, and neither
is empty. -/
theorem text_ne_empty {font : Font} (hfont : font.MapIsRead) (code : Nat) :
    font.text code ≠ "" := by
  rw [text]
  split
  case h_1 text hlookup =>
    obtain ⟨map, hmap, hlookup⟩ := Option.bind_eq_some_iff.mp hlookup
    obtain ⟨data, hread⟩ := hfont map hmap
    exact CharMap.lookup?_ne_empty hread hlookup
  case h_2 => exact String.singleton_ne_empty

/-- There are codes as soon as there are bytes, in the piece that is cut off or behind it. -/
theorem codesFrom_eq_nil_iff (length : Nat) (piece bytes : Bytes) :
    codesFrom length piece bytes = [] ↔ piece = [] ∧ bytes = [] := by
  induction bytes generalizing piece with
  | nil => simp [codesFrom]
  | cons b bytes ih =>
    rw [codesFrom]
    split
    case isTrue => simp
    case isFalse => simp [ih]

theorem codes_eq_nil_iff (font : Font) (bytes : Bytes) : font.codes bytes = [] ↔ bytes = [] := by
  rw [codes, codesFrom_eq_nil_iff, eq_self, true_and]

/-- **Only a string without bytes has no text**, as every byte belongs to a code and every code has
a text. -/
theorem stringText_eq_empty_iff {font : Font} (hfont : font.MapIsRead) (bytes : Bytes) :
    font.stringText bytes = "" ↔ bytes = [] := by
  rw [stringText, join_eq_empty_iff, List.forall_mem_map, ← codes_eq_nil_iff font bytes,
    List.eq_nil_iff_forall_not_mem]
  refine forall_congr' fun code => imp_congr_right fun _ => ?_
  exact iff_false_intro (text_ne_empty hfont code)

end Font

/-! ## Resolving -/

variable {m : Type → Type} [Monad m] [LawfulMonad m]

/-- A font that is resolved has a map that was read, or none, whatever the store answers. -/
theorem Font.yields_resolve (store : ObjectStore m) (tag : String) (d : Dictionary) :
    Yields (·.value.MapIsRead) (Font.resolve store tag d) := by
  have hreports := FontResolver.reports_font ⟨store, tag⟩ store.gives_any d
  refine hreports.collect.mono fun result ⟨_, hdescribes⟩ map hmap => ?_
  obtain ⟨_, _, data, _, hread⟩ := hdescribes.charMap.read map hmap
  exact ⟨data, hread⟩

namespace FontCache

/-- Whether the character maps of all fonts were read. -/
def MapsAreRead (cache : FontCache) : Prop :=
  ∀ tag font, cache.get? tag = some font → font.MapIsRead

theorem mapsAreRead_empty : (∅ : FontCache).MapsAreRead := by
  intro tag font hget
  rw [get?, show (∅ : FontCache).byTag = ∅ from rfl, Std.TreeMap.getElem?_emptyc] at hget
  cases hget

theorem mapsAreRead_insert {cache : FontCache} (hcache : cache.MapsAreRead) (tag : String)
    {font : Font} (hfont : font.MapIsRead) : (cache.insert tag font).MapsAreRead := by
  intro tag' font' hget
  rw [get?, insert, Std.TreeMap.getElem?_insert] at hget
  split at hget
  case isTrue =>
    cases hget
    exact hfont
  case isFalse => exact hcache tag' font' hget

theorem yields_resolveEntry (store : ObjectStore m) (tag : String) (given? : Option FontEntry) :
    Yields (·.value.MapIsRead) (resolveEntry store tag given?) := by
  rw [resolveEntry.eq_def]
  split
  case h_1 d => exact Font.yields_resolve store tag d
  -- wherever a font cannot be read, the fallback takes its place, which has no map
  case h_2 target =>
    refine .bind (.trivial _) fun text _ => ?_
    split
    case h_1 => exact .pure (Font.mapIsRead_fallback tag)
    case h_2 text =>
      rw [Font.resolveText]
      split
      case h_1 d _ =>
        rw [bind_assoc]
        refine .bind (Font.yields_resolve store tag d) fun font hfont => ?_
        rw [pure_bind]
        exact .pure hfont
      case h_2 =>
        rw [pure_bind]
        exact .pure (Font.mapIsRead_fallback tag)
  case h_3 => exact .pure (Font.mapIsRead_fallback tag)

/-- **Whatever a tag names, the font for it has a map that was read**, and so have the fonts that
are kept. -/
theorem yields_getOrResolve (store : ObjectStore m) {cache : FontCache}
    (hcache : cache.MapsAreRead) (tag : String) (given? : Option FontEntry) :
    Yields (fun r => r.1.value.MapIsRead ∧ r.2.MapsAreRead)
      (getOrResolve store cache tag given?) := by
  rw [getOrResolve]
  split
  case h_1 font hget => exact .pure ⟨hcache tag font hget, hcache⟩
  case h_2 =>
    refine .bind (yields_resolveEntry store tag given?) fun font hfont => ?_
    exact .pure ⟨hfont, mapsAreRead_insert hcache tag hfont⟩

theorem yields_preloadFrom (store : ObjectStore m) (warnings : List Warning) {cache : FontCache}
    (hcache : cache.MapsAreRead) (entries : List (String × FontEntry)) :
    Yields (·.value.MapsAreRead) (preloadFrom store warnings cache entries) := by
  induction entries generalizing warnings cache with
  | nil => exact .pure hcache
  | cons entry entries ih =>
    obtain ⟨tag, given⟩ := entry
    exact .bind (yields_getOrResolve store hcache tag (some given)) fun _ h => ih _ h.2

/-- The fonts of a page that are resolved in front of its contents. -/
theorem yields_preload (store : ObjectStore m) {cache : FontCache} (hcache : cache.MapsAreRead)
    (entries : Std.TreeMap String FontEntry) :
    Yields (·.value.MapsAreRead) (preload store cache entries) :=
  yields_preloadFrom store [] hcache entries.toList

end FontCache

end PdfDisplay
