import PdfDisplay.Proofs.Font.Completeness

/-!
# Widths of the codes of a font

A font keeps the width of the codes without a declared one twice, by itself and in its table of
widths. The two are the same in every font that is resolved, and they are what the font declares
(`Answers.DefaultWidth`), whatever else of the font cannot be read. So a font and its table give
every code the same width (`Font.widths_of_codes`).
-/

namespace PdfDisplay

namespace Font

/-- A font with the default width of its table gives all codes the widths that the table gives. -/
theorem width_eq {font : Font} {table : WidthTable} (hwidths : font.widths? = some table)
    (hdefault : table.default = font.defaultWidth) (code : Nat) :
    font.width code = table.width code := by
  rw [width, WidthTable.width, hwidths, hdefault]
  rfl

/-- **Widths of codes.** A list of widths makes a table exactly if it is divided into entries, and
then the last entries count. A font that is resolved gives every code the width that its table
gives it, which is the explicit one or else the default width that the font declares. -/
theorem widths_of_codes {m : Type → Type} [Monad m] [LawfulMonad m] {store : ObjectStore m}
    {answers : Answers} (h : store.Gives answers) (items : List Object) (default? : Option Float)
    (tag : String) (d : Dictionary) :
    ((∃ table, WidthTable.ofComposite items default? = .ok table) ↔
      ∃ entries, WidthTable.Declares items entries) ∧
    (∀ entries, WidthTable.Declares items entries →
      ∃ table, WidthTable.ofComposite items default? = .ok table ∧
        table.default = default?.getD WidthTable.standard ∧
        ∀ code, table.explicit? code = WidthEntry.lastWidth? entries code) ∧
    Yields
      (fun result => ∀ table, result.value.widths? = some table →
        answers.DefaultWidth d table.default (.ofName ((d.name? "Subtype").getD "")) ∧
        ∀ code, result.value.width code = table.width code ∧
          table.width code = (table.explicit? code).getD table.default)
      (resolve store tag d) := by
  refine ⟨WidthTable.exists_ofComposite_iff, fun entries hentries =>
    WidthTable.ofComposite_of_declares hentries default?, ?_⟩
  refine (Reports.collect (FontResolver.reports_font_all ⟨store, tag⟩ h d)).mono ?_
  intro result ⟨_, _, hkeeps, _⟩ table htable
  obtain ⟨hdefault, hdeclared⟩ := hkeeps table htable
  refine ⟨?_, fun code => ⟨width_eq htable hdefault code, rfl⟩⟩
  rwa [hdefault]

/-- A range over single codes, in a composite font with a default width of its own, whose character
map is not there. -/
theorem widths_of_codes_composite :
    let items : List Object := [.integer 1, .array [.integer 500, .integer 600], .real 1.5,
      .integer 9, .integer 700]
    let entries : List WidthEntry := [.list 1 [500, 600], .range ⟨1, 9, 700⟩]
    let d : Dictionary := ⟨[("Subtype", .name "Type0"), ("ToUnicode", .reference ⟨9, 0⟩),
      ("DescendantFonts", .array [.dictionary [("DW", .integer 250), ("W", .array items)]])]⟩
    let store : ObjectStore Id := ⟨fun target => .error (.missing target),
      fun target => .error (.missing target), fun target => .error (.missing target)⟩
    let font := (resolve store "F1" d).value
    WidthEntry.lastWidth? entries 2 = some 600 ∧ WidthEntry.lastWidth? entries 3 = some 700 ∧
      (∃ table, WidthTable.ofComposite items (some 250) = .ok table ∧
        ∀ code, table.explicit? code = WidthEntry.lastWidth? entries code) ∧
      store.answers.DefaultWidth d 250 .composite ∧
      ∃ table, font.widths? = some table ∧ table.default = 250 ∧
        ∀ code, font.width code = table.width code := by
  intro items entries d store font
  obtain ⟨-, hentries, hfont⟩ := widths_of_codes store.gives_answers items (some 250) "F1" d
  have hdeclares : WidthTable.Declares items entries :=
    .list (by decide +kernel) (.cons (by decide +kernel) (.cons (by decide +kernel) .nil))
      (by decide) (.range (by decide +kernel) (by decide +kernel) (by decide)
        (by decide +kernel) .nil)
  obtain ⟨table, htable, -, hcodes⟩ := hentries entries hdeclares
  have hdefault : font.widths?.map (·.default) = some 250 := by decide +kernel
  obtain ⟨widths, hwidths, hvalue⟩ := Option.map_eq_some_iff.mp hdefault
  obtain ⟨hdeclared, hagree⟩ := possible_pure _ hfont widths hwidths
  rw [hvalue] at hdeclared
  exact ⟨by decide +kernel, by decide +kernel, ⟨table, htable, hcodes⟩, hdeclared, widths,
    hwidths, hvalue, fun code => (hagree code).1⟩

end Font

end PdfDisplay
