import PdfDisplay.Proofs.Font.Accounts
import PdfDisplay.Proofs.Graphics.Showing
import PdfDisplay.Proofs.Page.Resources

/-!
# Fonts of pages

The fonts of a rendered page are those that its resources declare and those that its contents
select, each resolved once. The account of the fonts resolved in front of the contents goes along
with every operator (`Machine.yields_executeAll_accounted`), and so there is one for the page in the
end (`PageInput.resolves_fonts_once`): its outcomes are in the order of the fonts, and each has left
its warnings once, however often the contents select the font.
-/

namespace PdfDisplay

/-! ## Runs -/

namespace Machine

variable {m : Type → Type} [Monad m] [LawfulMonad m] (page : PageContext m)
  {outcome : String → Option FontEntry → Diagnosed Font → Prop}
  (h : ∀ tag declared?, Yields (outcome tag declared?)
    (FontCache.resolveEntry page.store tag declared?))
  {tags : List String} {preloaded : List Warning}

include h

/-- **An operator keeps the account**, with the tag that it selects. -/
theorem yields_execute_accounted (index : Nat) {machine : Machine}
    (haccount : FontCache.Accounted page.resources.fonts outcome tags machine.fonts
      (machine.warnings ++ preloaded)) (operator : Operator) :
    Yields (fun after =>
        FontCache.Accounted page.resources.fonts outcome
          (tags ++ (operator.selectedTag? machine.context).toList) after.fonts
          (after.warnings ++ preloaded) ∧
        after.inText = (machine.context.next operator).inText)
      (machine.execute page index operator) := by
  refine (yields_execute_tells page index machine h operator).mono fun after => ?_
  refine And.imp_left fun htells => ?_
  obtain ⟨others, outcomes, haccount⟩ := haccount
  generalize operator.selectedTag? machine.context = selected? at htells ⊢
  cases htells with
  | beside hbeside =>
    obtain ⟨given, hwarnings, hgiven⟩ := hbeside.warnings
    rw [hbeside.fonts, hwarnings, Option.toList_none, List.append_nil, List.append_assoc]
    exact ⟨_, _, haccount.beside fun w hw => (hgiven w hw).2.1⟩
  | found hget hfonts hwarnings =>
    rw [hfonts, hwarnings]
    exact ⟨_, _, haccount.found hget⟩
  | resolved hget houtcome hfonts hwarnings =>
    rw [hfonts, hwarnings, List.append_assoc]
    refine ⟨_, _, haccount.resolved hget houtcome ?_⟩
    rw [List.map_reverse, List.map_map]
    exact List.reverse_perm _

/-- **A run keeps the account**, with the tags that its operators select. -/
theorem yields_executeAll_accounted (index : Nat) {machine : Machine} {context : DrawingContext}
    (hcontext : context.inText = machine.inText)
    (haccount : FontCache.Accounted page.resources.fonts outcome tags machine.fonts
      (machine.warnings ++ preloaded)) (operators : List Operator) :
    Yields (fun after => FontCache.Accounted page.resources.fonts outcome
        (tags ++ Operator.selectedTags context operators) after.fonts (after.warnings ++ preloaded))
      (machine.executeAll page index operators) := by
  induction operators generalizing index machine context tags with
  | nil =>
    rw [Operator.selectedTags, List.append_nil]
    exact .pure haccount
  | cons operator rest ih =>
    refine (yields_execute_accounted page h index haccount operator).bind ?_
    rintro after ⟨hafter, hinText⟩
    -- whether a text object is open is all that matters of the context
    rw [Operator.selectedTags, ← List.append_assoc,
      Operator.selectedTag?_congr (b := machine.context) hcontext]
    refine ih (index + 1) ?_ hafter
    rw [hinText]
    exact DrawingContext.inText_next (b := machine.context) hcontext operator

end Machine

/-- Contents keep the account; that they stop early is told without a font. -/
theorem Content.yields_run_accounted {m : Type → Type} [Monad m] [LawfulMonad m]
    (page : PageContext m) {outcome : String → Option FontEntry → Diagnosed Font → Prop}
    (h : ∀ tag declared?, Yields (outcome tag declared?)
      (FontCache.resolveEntry page.store tag declared?))
    {tags : List String} {fonts : FontCache} {preloaded : List Warning}
    (haccount : FontCache.Accounted page.resources.fonts outcome tags fonts preloaded)
    (content : Bytes) :
    Yields (fun run => FontCache.Accounted page.resources.fonts outcome
        (tags ++ Operator.selectedTags {}
          ((Operator.readAll content).operators.take page.options.maxOperators))
        run.fonts (run.warnings ++ preloaded))
      (run page fonts content) := by
  have hcontext : ({} : DrawingContext).inText = ({ fonts } : Machine).inText := rfl
  refine (Machine.yields_executeAll_accounted page h 0 hcontext haccount _).bind ?_
  rintro machine ⟨others, outcomes, haccount⟩
  refine .pure ?_
  dsimp only
  cases stop? (Operator.readAll content) page.options.maxOperators with
  | none =>
    exact ⟨_, _, haccount.permuteWarnings ((List.reverse_perm _).append_right _)⟩
  | some stop =>
    have hstop : ∀ w ∈ [stop.1.warning.atOperator stop.2], w.fontName? = none :=
      List.forall_mem_singleton.mpr rfl
    exact ⟨_, _, (haccount.beside hstop).permuteWarnings ((List.reverse_perm _).append_right _)⟩

/-! ## Pages -/

/-- What is known of the fonts and the warnings of a rendered page, where `selected` are the tags
that its contents select: they are those of resolutions, of which no two are of one tag, and, where
warnings are collected, whatever else was warned of is about no font. -/
structure RenderedPage.ResolvesOnce (outcome : String → Option FontEntry → Diagnosed Font → Prop)
    (selected : List String) (collects : Bool) (resources : Diagnosed PageResources)
    (rendered : Diagnosed RenderedPage) (outcomes : FontOutcomes) (others : List Warning) :
    Prop where
  /-- The tags are strictly increasing. -/
  sorted : (outcomes.map (·.1)).Pairwise (· < ·)
  /-- The tags are those that are declared and those that are selected. -/
  mem_tags : ∀ tag, tag ∈ outcomes.map (·.1) ↔ tag ∈ resources.value.fonts ∨ tag ∈ selected
  /-- Each is an outcome of the entry that is declared, if there is one. -/
  outcome : ∀ resolved ∈ outcomes, outcome resolved.1 resources.value.fonts[resolved.1]? resolved.2
  /-- The fonts are those of the outcomes, in their order. -/
  fonts : rendered.value.fonts = outcomes.map (·.2.value)
  /-- The warnings of each outcome come once. -/
  warnings : collects → (rendered.warnings.map (·.unnumbered)).Perm
    ((resources.warnings ++ others ++ outcomes.warnings).map (·.unnumbered))
  /-- The other warnings are about no font. -/
  others : ∀ w ∈ others, w.fontName? = none

namespace PageInput

variable {m : Type → Type} [Monad m] [LawfulMonad m]

/-- **There is an account of the fonts of a page.** -/
theorem yields_render_resolvesOnce (store : ObjectStore m) (options : RenderOptions)
    (page : PageInput) {parsed : Diagnosed PageResources → Prop}
    {outcome : String → Option FontEntry → Diagnosed Font → Prop}
    (hparsed : Yields parsed (PageResources.parse store page.resources))
    (houtcome : ∀ tag declared?, Yields (outcome tag declared?)
      (FontCache.resolveEntry store tag declared?)) :
    Yields (fun rendered => ∃ resources outcomes others, parsed resources ∧
        RenderedPage.ResolvesOnce outcome (Operator.selectedTags {} (page.operators options))
          options.collectWarnings resources rendered outcomes others)
      (page.render store options) := by
  rw [render]
  refine hparsed.bind fun resources hresources => ?_
  refine (FontCache.yields_preload_accounted store houtcome resources.value.fonts).bind
    fun fonts hfonts => ?_
  refine (Content.yields_run_accounted ⟨store, page.height, resources.value, options⟩ houtcome
    hfonts (page.content.take options.maxStreamBytes)).bind ?_
  rintro run ⟨others, outcomes, haccount⟩
  refine .pure ?_
  have hcut : ∀ w ∈ (page.cut? options.maxStreamBytes).toList.map Truncation.warning,
      w.fontName? = none := by
    rintro _ hw
    obtain ⟨reason, -, rfl⟩ := List.mem_map.mp hw
    rfl
  obtain ⟨sorted, hsorted, htags, hlist⟩ := (haccount.beside hcut).sort
  refine ⟨resources, sorted, _, hresources, htags, fun tag => ?_, hsorted.outcome, hlist,
    fun hcollects => ?_, hsorted.others⟩
  · rw [hsorted.mem_tags, List.mem_append, Std.TreeMap.mem_keys]
    rfl
  · have hwarnings := hsorted.warnings.append_left (resources.warnings.map (·.unnumbered))
    rw [← List.map_append, ← List.map_append] at hwarnings
    rw [if_pos hcollects, List.append_assoc resources.warnings (_ ++ others)]
    refine (List.Perm.map _ ?_).trans hwarnings
    -- only the warnings of the fonts resolved first are in another place
    rw [List.append_assoc, List.append_assoc, ← List.append_assoc _ run.warnings]
    exact List.Perm.append_left _ List.perm_append_comm

/-- **Every font of a page is resolved once.** Whatever is known of the resources that are read and
of the outcomes of resolutions, the fonts of a page are strictly increasing by their tags, which are
those that the resources declare and those that the contents select. They are the fonts of outcomes
of which no two are of one tag, and the warnings of the page are those of the resources, those of
each outcome, once, and others that are about no font. The warnings of the resources are about no
font either, while those of a resolution are about the font with its tag. -/
theorem resolves_fonts_once (store : ObjectStore m) (options : RenderOptions)
    (page : PageInput) {parsed : Diagnosed PageResources → Prop}
    {outcome : String → Option FontEntry → Diagnosed Font → Prop}
    (hparsed : Yields parsed (PageResources.parse store page.resources))
    (houtcome : ∀ tag declared?, Yields (outcome tag declared?)
      (FontCache.resolveEntry store tag declared?)) :
    let selected := Operator.selectedTags {} (page.operators options)
    Yields (fun rendered => ∃ resources, parsed resources ∧
        (rendered.value.fonts.map (·.tag)).Pairwise (· < ·) ∧
        ∀ tag, tag ∈ rendered.value.fonts.map (·.tag) ↔
          tag ∈ resources.value.fonts ∨ tag ∈ selected)
      (page.render store options) ∧
    Yields (fun rendered => ∃ resources outcomes others, parsed resources ∧
        RenderedPage.ResolvesOnce outcome selected options.collectWarnings resources rendered
          outcomes others)
      (page.render store options) ∧
    Yields (fun resources => ∀ w ∈ resources.warnings, w.fontName? = none)
      (PageResources.parse store page.resources) ∧
    ∀ tag declared?, Yields (fun resolved => ∀ w ∈ resolved.warnings, w.fontName? = some tag)
      (FontCache.resolveEntry store tag declared?) := by
  intro selected
  have hresolve := FontCache.yields_resolveEntry_isAbout store
  refine ⟨?_, yields_render_resolvesOnce store options page hparsed houtcome,
    PageResources.yields_parse_warnings store page.resources, fun tag declared? =>
      (hresolve tag declared?).mono fun _ h w hw => (h.1 w hw).font⟩
  have htag (tag : String) (declared? : Option FontEntry) :
      Yields (fun font => font.value.tag = tag) (FontCache.resolveEntry store tag declared?) :=
    (hresolve tag declared?).mono fun _ => And.right
  refine (yields_render_resolvesOnce store options page hparsed htag).mono ?_
  rintro rendered ⟨resources, outcomes, others, hresources, honce⟩
  have htags : rendered.value.fonts.map (·.tag) = outcomes.map (·.1) := by
    rw [honce.fonts, List.map_map]
    exact List.map_congr_left honce.outcome
  rw [htags]
  exact ⟨resources, hresources, honce.sorted, honce.mem_tags⟩

/-- A font that is declared, and one that is not and is selected twice. -/
theorem resolves_fonts_once_undeclared :
    let store : ObjectStore Id := ObjectTable.empty.store
    let page : PageInput := ⟨100, "<< /Font << /F << /BaseFont /Times >> >> >>",
      Utf8.encode "/H 1 Tf BT /G 1 Tf /G 2 Tf /F 3 Tf ET"⟩
    let resources := (PageResources.parse store page.resources).run
    let selected := Operator.selectedTags {} (page.operators {})
    let rendered := (page.render store {}).run
    selected = ["G", "G", "F"] ∧ rendered.value.fonts.map (·.tag) = ["F", "G"] ∧
      rendered.warnings.map (·.fontName?) = [some "G"] ∧
      ∃ outcomes others, RenderedPage.ResolvesOnce
        (fun tag declared? font => font = (FontCache.resolveEntry store tag declared?).run) selected
        true resources rendered outcomes others := by
  intro store page resources selected rendered
  have hparsed : Yields (· = resources) (PageResources.parse store page.resources) := .pure rfl
  have houtcome (tag : String) (declared? : Option FontEntry) :
      Yields (· = (FontCache.resolveEntry store tag declared?).run)
        (FontCache.resolveEntry store tag declared?) := .pure rfl
  obtain ⟨-, honce, -⟩ := resolves_fonts_once store {} page hparsed houtcome
  obtain ⟨_, outcomes, others, rfl, honce⟩ := possible_pure (a := rendered) _ honce
  exact ⟨by decide +kernel, by decide +kernel, by decide +kernel, outcomes, others, honce⟩

end PageInput

end PdfDisplay
