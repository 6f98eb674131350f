import PdfDisplay.Proofs.Graphics.Erasing

/-!
# Fonts that are resolved in front of the contents

The fonts of a page may be resolved before its contents are executed, or one by one as they are
selected. With a store that is a function of the requests, this makes no difference to what the
contents show (`Content.run_preload`). What carries the proof is `FontCache.Serves`: every font that
is kept is the one that its tag names on the page, and so it does not matter when it was resolved.
Two machines whose caches serve the same page differ in their caches and warnings only, and the
tags that the contents select end up in both (`Machine.servedAlike_executeAll`).
-/

namespace PdfDisplay

/-! ## Caches -/

namespace FontCache

variable (store : ObjectStore Id) (entries : Std.TreeMap String FontEntry)

/-- The font that a tag names on a page. -/
def named (tag : String) : Font := (resolveEntry store tag entries[tag]?).run.value

/-- Whether a cache keeps fonts under the tags that name them on a page, and has the fonts of some
tags. -/
structure Serves (tags : List String) (cache : FontCache) : Prop where
  /-- The fonts are those that the tags name. -/
  eq_named : ∀ tag font, cache.get? tag = some font → font = named store entries tag
  /-- The fonts of the tags are there. -/
  get?_eq : ∀ tag ∈ tags, cache.get? tag = some (named store entries tag)

variable {store entries} {tags : List String} {cache : FontCache}

theorem Serves.mono (h : cache.Serves store entries tags) {fewer : List String}
    (hfewer : fewer ⊆ tags) : cache.Serves store entries fewer :=
  ⟨h.eq_named, fun tag htag => h.get?_eq tag (hfewer htag)⟩

theorem serves_empty : (∅ : FontCache).Serves store entries [] := by
  refine ⟨fun tag font hget => ?_, fun tag htag => absurd htag List.not_mem_nil⟩
  rw [get?, show (∅ : FontCache).byTag = ∅ from rfl, Std.TreeMap.getElem?_emptyc] at hget
  cases hget

theorem Serves.concat (h : cache.Serves store entries tags) {tag : String}
    (hget : cache.get? tag = some (named store entries tag)) :
    cache.Serves store entries (tags ++ [tag]) := by
  refine ⟨h.eq_named, fun other hother => ?_⟩
  obtain hother | hother := List.mem_append.mp hother
  · exact h.get?_eq other hother
  · rwa [List.mem_singleton.mp hother]

theorem get?_insert (cache : FontCache) (tag : String) (font : Font) (other : String) :
    (cache.insert tag font).get? other = if tag = other then some font else cache.get? other := by
  rw [get?, insert, Std.TreeMap.getElem?_insert]
  by_cases h : tag = other
  · rw [if_pos h, if_pos (Std.LawfulEqCmp.compare_eq_iff_eq.mpr h)]
  · rw [if_neg h, if_neg fun heq => h (Std.LawfulEqCmp.compare_eq_iff_eq.mp heq)]
    rfl

theorem Serves.insert (h : cache.Serves store entries tags) (tag : String) :
    (cache.insert tag (named store entries tag)).Serves store entries (tags ++ [tag]) := by
  have hkept : (cache.insert tag (named store entries tag)).Serves store entries tags := by
    constructor
    · intro other font hget
      rw [get?_insert] at hget
      split at hget
      case isTrue htag =>
        cases hget
        rw [htag]
      case isFalse => exact h.eq_named other font hget
    · intro other hother
      rw [get?_insert]
      split
      case isTrue htag => rw [htag]
      case isFalse => exact h.get?_eq other hother
  exact hkept.concat (by rw [get?_insert, if_pos rfl])

/-- **A tag gets the font that it names**, whether that has been resolved before or not. -/
theorem Serves.getOrResolve (h : cache.Serves store entries tags) (tag : String) :
    ∃ warnings served, cache.getOrResolve store tag entries[tag]? =
        (⟨named store entries tag, warnings⟩, served) ∧
      served.Serves store entries (tags ++ [tag]) := by
  rw [FontCache.getOrResolve]
  split
  case h_1 font hget =>
    obtain rfl := h.eq_named tag font hget
    exact ⟨[], cache, rfl, h.concat hget⟩
  case h_2 => exact ⟨_, _, rfl, h.insert tag⟩

/-- **Preloading serves every tag that was given**, by induction over the entries that are left. -/
theorem Serves.preloadFrom (h : cache.Serves store entries []) (warnings : List Warning)
    {given : List (String × FontEntry)}
    (hgiven : ∀ entry ∈ given, entries[entry.1]? = some entry.2) :
    (FontCache.preloadFrom store warnings cache given).run.value.Serves store entries [] := by
  induction given generalizing warnings cache with
  | nil => exact h
  | cons entry given ih =>
    obtain ⟨tag, entry⟩ := entry
    obtain ⟨hentry, hgiven⟩ := List.forall_mem_cons.mp hgiven
    obtain ⟨more, served, hresolved, hserved⟩ := h.getOrResolve tag
    rw [hentry] at hresolved
    rw [FontCache.preloadFrom, hresolved]
    exact ih (hserved.mono (List.nil_subset _)) _ hgiven

/-- The fonts that are resolved in front of the contents are those that their tags name. -/
theorem serves_preload (store : ObjectStore Id) (entries : Std.TreeMap String FontEntry) :
    (preload store ∅ entries).run.value.Serves store entries [] :=
  serves_empty.preloadFrom [] fun _ h => Std.TreeMap.mem_toList_iff_getElem?_eq_some.mp h

end FontCache

/-! ## Tags that contents select -/

namespace Operator

/-- The tag of the font that an operator selects. -/
def selectedTag? (context : DrawingContext) (operator : Operator) : Option String :=
  match Instruction.ofOperator? operator with
  | some (.text (.selectFont tag _)) => if context.inText then some tag else none
  | _ => none

/-- The tags of the fonts that operators select, one after another. -/
def selectedTags (context : DrawingContext) : List Operator → List String
  | [] => []
  | operator :: rest =>
    (operator.selectedTag? context).toList ++ selectedTags (context.next operator) rest

end Operator

/-! ## Machines -/

namespace Machine

/-- The machine without its fonts and warnings. -/
def withoutFonts (machine : Machine) : Machine := { machine with fonts := ∅, warnings := [] }

/-- Whether machines differ in their fonts and warnings only, and the fonts of both are those of a
page, with those of some tags. -/
structure ServedAlike (page : PageContext Id) (tags : List String) (a b : Machine) : Prop where
  /-- All else is the same. -/
  same : a.withoutFonts = b.withoutFonts
  /-- The fonts of the first are those of the page. -/
  left : a.fonts.Serves page.store page.resources.fonts tags
  /-- The fonts of the second are those of the page. -/
  right : b.fonts.Serves page.store page.resources.fonts tags

variable {page : PageContext Id} {tags : List String} {a b : Machine}

theorem lockstep_servedAlike (page : PageContext Id) (tags : List String) :
    Lockstep (ServedAlike page tags) fun _ _ => True where
  state h := congrArg (·.state) h.same
  builder h := congrArg (·.builder) h.same
  inText h := congrArg (·.inText) h.same
  setState h state := ⟨congrArg ({ · with state }) h.same, h.left, h.right⟩
  setBuilder h builder := ⟨congrArg ({ · with builder }) h.same, h.left, h.right⟩
  setInText h inText := ⟨congrArg ({ · with inText }) h.same, h.left, h.right⟩
  warn h _ _ := ⟨h.same, h.left, h.right⟩
  emit h item _ := ⟨congrArg (·.emit item) h.same, h.left, h.right⟩

theorem drawsAlike_servedAlike (page : PageContext Id) (tags : List String) :
    DrawsAlike (ServedAlike page tags) where
  inlineImages h := congrArg (·.inlineImages) h.same
  countImage h inlineImages := ⟨congrArg ({ · with inlineImages }) h.same, h.left, h.right⟩
  emitImage h item := ⟨congrArg (·.emit (.image item)) h.same, h.left, h.right⟩

theorem ServedAlike.mono (h : ServedAlike page tags a b) {fewer : List String}
    (hfewer : fewer ⊆ tags) : ServedAlike page fewer a b :=
  ⟨h.same, h.left.mono hfewer, h.right.mono hfewer⟩

/-- **A font is selected alike** from caches that serve the same page. -/
theorem ServedAlike.selectFont (h : ServedAlike page tags a b) (i j : Nat) (tag : String)
    (size : Float) :
    ServedAlike page (tags ++ [tag]) (a.selectFont page i tag size)
      (b.selectFont page j tag size) := by
  obtain ⟨warnings, served, hresolved, hserved⟩ := h.left.getOrResolve tag
  obtain ⟨warnings', served', hresolved', hserved'⟩ := h.right.getOrResolve tag
  rw [Machine.selectFont, Machine.selectFont, hresolved, hresolved']
  have hstored : ServedAlike page (tags ++ [tag])
      { warnings.foldl (fun machine warning => machine.warn i warning) a with fonts := served }
      { warnings'.foldl (fun machine warning => machine.warn j warning) b with
        fonts := served' } := by
    rw [foldl_warn, foldl_warn]
    exact ⟨h.same, hserved, hserved'⟩
  exact (lockstep_servedAlike page _).mapText hstored _

/-- An operator on machines with different caches does the same, if both caches serve the font that
it may select. -/
theorem ServedAlike.execute (h : ServedAlike page tags a b) (i j : Nat) (operator : Operator) :
    ServedAlike page (tags ++ (operator.selectedTag? a.context).toList)
      (a.execute page i operator) (b.execute page j operator) := by
  have hselect : SelectsAlike page (ServedAlike page tags) fun _ _ => True :=
    fun h _ tag size => .pure ((h.selectFont _ _ tag size).mono (List.subset_append_left _ _))
  have hkept : ServedAlike page tags (a.execute page i operator) (b.execute page j operator) :=
    ((drawsAlike_servedAlike page tags).coupled_execute (lockstep_servedAlike page tags) h
      True.intro hselect operator).of_id
  rw [Operator.selectedTag?]
  split
  case h_1 tag size hread =>
    split
    case isTrue hin =>
      -- a selection, by which both caches have one more tag
      have hin' : b.inText = true := ((lockstep_servedAlike page tags).inText h).symm.trans hin
      have hexecute : ∀ (machine : Machine) (index : Nat), machine.inText = true →
          machine.execute page index operator = machine.selectFont page index tag size := by
        intro machine index hopen
        rw [Machine.execute, hread]
        exact if_pos hopen
      rw [hexecute a i hin, hexecute b j hin']
      exact h.selectFont i j tag size
    case isFalse => rwa [Option.toList_none, List.append_nil]
  case h_2 => rwa [Option.toList_none, List.append_nil]

/-- **Runs with caches that serve the same page are alike**, and serve it with the fonts that the
operators select. -/
theorem servedAlike_executeAll (h : ServedAlike page tags a b) (index : Nat)
    (operators : List Operator) :
    ServedAlike page (tags ++ Operator.selectedTags a.context operators)
      (a.executeAll page index operators) (b.executeAll page index operators) := by
  induction operators generalizing index tags a b with
  | nil => rwa [Operator.selectedTags, List.append_nil]
  | cons operator rest ih =>
    let after : Machine := (a.execute page index operator).run
    have hcontext : after.context = a.context.next operator :=
      possible_pure (a := after) _ (yields_execute_context page index a operator)
    -- the tags that are served grow from operator to operator
    rw [Operator.selectedTags, ← List.append_assoc, ← hcontext]
    exact ih (h.execute index index operator) (index + 1)

end Machine

/-! ## Page contents -/

namespace Content

/-- **Resolving the fonts in front of the contents changes nothing that is shown.** With the fonts
that the page declares resolved first, and with each resolved as it is selected, contents show the
same and stop for the same reason, and the tags that they select have the same fonts. -/
theorem run_preload (page : PageContext Id) (content : Bytes) :
    let preloaded := (FontCache.preload page.store ∅ page.resources.fonts).run.value
    let eager := (run page preloaded content).run
    let lazy := (run page ∅ content).run
    eager.items = lazy.items ∧ eager.stopped? = lazy.stopped? ∧
      ∀ tag ∈ Operator.selectedTags (Machine.context { fonts := ∅ })
          ((Operator.readAll content).operators.take page.options.maxOperators),
        ∃ font, eager.fonts.get? tag = some font ∧ lazy.fonts.get? tag = some font := by
  have hfirst : Machine.ServedAlike page []
      { fonts := (FontCache.preload page.store ∅ page.resources.fonts).run.value }
      { fonts := ∅ } :=
    ⟨rfl, FontCache.serves_preload _ _, FontCache.serves_empty⟩
  have hlast := Machine.servedAlike_executeAll hfirst 0
    ((Operator.readAll content).operators.take page.options.maxOperators)
  refine ⟨?_, rfl, fun tag htag => ⟨_, hlast.left.get?_eq tag htag, hlast.right.get?_eq tag htag⟩⟩
  exact congrArg (fun machine => machine.items.normalized page.options.normalForm) hlast.same

/-- A font that is declared and one that is not. -/
theorem run_preload_declared :
    let resources := (PageResources.parse ObjectTable.empty.store
      "<< /Font << /F << /BaseFont /Times >> >> >>" : Id (Diagnosed PageResources)).run.value
    let page : PageContext Id := ⟨ObjectTable.empty.store, 100, resources, {}⟩
    let preloaded := (FontCache.preload page.store ∅ page.resources.fonts).run.value
    let content := Utf8.encode "BT /F 1 Tf (A) Tj /G 2 Tf (B) Tj ET"
    let tags := Operator.selectedTags (Machine.context { fonts := ∅ })
      ((Operator.readAll content).operators.take page.options.maxOperators)
    preloaded.tags = ["F"] ∧ tags = ["F", "G"] ∧ (run page ∅ content).run.items.length = 2 ∧
      (run page preloaded content).run.items = (run page ∅ content).run.items ∧
      ∃ font, (run page preloaded content).run.fonts.get? "G" = some font ∧
        (run page ∅ content).run.fonts.get? "G" = some font := by
  intro resources page preloaded content tags
  obtain ⟨hitems, -, hfonts⟩ := run_preload page content
  exact ⟨by decide +kernel, by decide +kernel, by decide +kernel, hitems,
    hfonts "G" (by decide +kernel)⟩

end Content

end PdfDisplay
