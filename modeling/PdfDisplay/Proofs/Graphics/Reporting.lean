import PdfDisplay.Proofs.Font.Completeness
import PdfDisplay.Proofs.Graphics.Asides
import PdfDisplay.Proofs.Page.Preloading

/-!
# Warnings and fonts of operators

What an operator does to the warnings and to the fonts goes together: selecting a font that has not
been resolved yet adds the font and the warnings of its resolution, and nothing else adds a font or
gives a warning about one. `Machine.Tells` is this for an operator, whatever is known of the
outcomes of resolutions (`Machine.yields_execute_tells`).
-/

namespace PdfDisplay

/-! ## Resolving entries -/

/-- **The font of an entry has its tag**, and the warnings are about that font. -/
theorem FontCache.yields_resolveEntry_isAbout {m : Type → Type} [Monad m] [LawfulMonad m]
    (store : ObjectStore m) (tag : String) (declared? : Option FontEntry) :
    Yields (fun resolved => (∀ w ∈ resolved.warnings, w.IsAbout tag) ∧ resolved.value.tag = tag)
      (resolveEntry store tag declared?) := by
  have hresolve (d : Dictionary) : Yields (fun resolved : Diagnosed Font =>
      (∀ w ∈ resolved.warnings, w.IsAbout tag) ∧ resolved.value.tag = tag)
      (Font.resolve store tag d) :=
    (Warns.collect (FontResolver.reports_font ⟨store, tag⟩ store.gives_any d)).mono
      fun _ h => ⟨h.1, h.2.tag⟩
  -- a fallback comes with one warning, which has the tag as well
  have hunresolved {warning : Warning} (hcode : warning.code ≠ .truncatedContent) :
      (∀ w ∈ (unresolved tag warning).warnings, w.IsAbout tag) ∧
        (unresolved tag warning).value.tag = tag :=
    ⟨List.forall_mem_singleton.mpr ⟨rfl, hcode⟩, rfl⟩
  rw [resolveEntry.eq_def]
  split
  case h_1 d => exact hresolve d
  case h_2 target =>
    refine .bind (.trivial _) fun text _ => ?_
    split
    case h_1 => exact .pure (hunresolved (by simp))
    case h_2 text =>
      rw [Font.resolveText]
      split
      case h_1 d _ =>
        rw [bind_assoc]
        refine (hresolve d).bind fun resolved h => ?_
        rw [pure_bind]
        exact .pure h
      case h_2 =>
        rw [pure_bind]
        exact .pure (hunresolved (by simp))
  case h_3 => exact .pure (hunresolved (by simp))

/-! ## Open text objects -/

/-- Only the limits of text objects open or close them. -/
theorem DrawingContext.inText_step (context : DrawingContext) (i : Instruction) :
    (context.step i).inText =
      match i with
      | .beginText => true
      | .endText => false
      | _ => context.inText := by
  cases i with
  | restore =>
    rw [step]
    split <;> rfl
  | _ => rfl

theorem DrawingContext.inText_next {a b : DrawingContext} (h : a.inText = b.inText)
    (operator : Operator) : (a.next operator).inText = (b.next operator).inText := by
  rw [next, next]
  cases Instruction.ofOperator? operator with
  | none => exact h
  | some i => rw [Option.elim_some, Option.elim_some, inText_step, inText_step, h]

theorem Operator.selectedTag?_congr {a b : DrawingContext} (h : a.inText = b.inText)
    (operator : Operator) : operator.selectedTag? a = operator.selectedTag? b := by
  rw [selectedTag?, selectedTag?, h]

namespace Machine

/-! ## Operators -/

/-- Whether what happened to the fonts and the warnings at an operator is only that warnings were
given, about no font and not about the end of the contents. -/
structure Beside (index : Nat) (before after : Machine) : Prop where
  /-- The fonts are the same. -/
  fonts : after.fonts = before.fonts
  /-- The warnings are put in front of those given before. -/
  warnings : ∃ given, after.warnings = given ++ before.warnings ∧ ∀ w ∈ given,
    w.operatorIndex? = some index ∧ w.fontName? = none ∧ w.code ≠ .truncatedContent

namespace Beside

variable {index : Nat}

theorem of_eq {before after : Machine} (hfonts : after.fonts = before.fonts)
    (hwarnings : after.warnings = before.warnings) : Beside index before after :=
  ⟨hfonts, [], hwarnings, List.forall_mem_nil _⟩

theorem trans {first second third : Machine} (h : Beside index first second)
    (h' : Beside index second third) : Beside index first third := by
  obtain ⟨given, hwarnings, hgiven⟩ := h.warnings
  obtain ⟨given', hwarnings', hgiven'⟩ := h'.warnings
  refine ⟨h'.fonts.trans h.fonts, given' ++ given, ?_,
    List.forall_mem_append.mpr ⟨hgiven', hgiven⟩⟩
  rw [hwarnings', hwarnings, List.append_assoc]

theorem of_aside {before after : Machine} (h : Aside index before after) :
    Beside index before after ∧ after.inText = before.inText := by
  cases h with
  | warn warning hfont hcode =>
    exact ⟨⟨rfl, [warning.atOperator index], rfl,
      List.forall_mem_singleton.mpr ⟨rfl, hfont, hcode⟩⟩, rfl⟩
  | emit => exact ⟨.of_eq rfl rfl, rfl⟩
  | frame => exact ⟨.of_eq rfl rfl, rfl⟩
  | countImage => exact ⟨.of_eq rfl rfl, rfl⟩

theorem of_asides {before after : Machine} (h : Asides index before after) :
    Beside index before after ∧ after.inText = before.inText :=
  h.of_closed (R := fun before after => Beside index before after ∧ after.inText = before.inText)
    (fun _ => ⟨.of_eq rfl rfl, rfl⟩) (fun h h' => ⟨h.1.trans h'.1, h'.2.trans h.2⟩) Beside.of_aside

end Beside

variable {m : Type → Type} {outcome : String → Option FontEntry → Diagnosed Font → Prop}
  (page : PageContext m) (index : Nat) (machine : Machine)

/-- What happened to the fonts and the warnings at an operator that selects a font, or none, if
`outcome` is what is known of the outcomes of resolutions. -/
inductive Tells (outcome : String → Option FontEntry → Diagnosed Font → Prop) :
    Option String → Machine → Prop
  /-- No font is selected. -/
  | beside {after : Machine} (h : Beside index machine after) : Tells outcome none after
  /-- A font is selected that has been resolved. -/
  | found {tag : String} {font : Font} {after : Machine}
    (hget : machine.fonts.get? tag = some font) (hfonts : after.fonts = machine.fonts)
    (hwarnings : after.warnings = machine.warnings) : Tells outcome (some tag) after
  /-- A font is selected and resolved. -/
  | resolved {tag : String} {font : Diagnosed Font} {after : Machine}
    (hget : machine.fonts.get? tag = none) (houtcome : outcome tag page.resources.fonts[tag]? font)
    (hfonts : after.fonts = machine.fonts.insert tag font.value)
    (hwarnings : after.warnings =
      (font.warnings.map (·.atOperator index)).reverse ++ machine.warnings) :
    Tells outcome (some tag) after

variable [Monad m] [LawfulMonad m]

theorem yields_selectFont_tells
    (h : ∀ tag declared?, Yields (outcome tag declared?)
      (FontCache.resolveEntry page.store tag declared?))
    (tag : String) (size : Float) :
    Yields (fun after => Tells page index machine outcome (some tag) after ∧
        after.inText = machine.inText)
      (machine.selectFont page index tag size) := by
  rw [selectFont, FontCache.getOrResolve]
  split
  case h_1 font hget =>
    rw [pure_bind]
    exact .pure ⟨.found hget rfl rfl, rfl⟩
  case h_2 hget =>
    rw [bind_assoc]
    refine (h tag _).bind fun font hfont => ?_
    rw [pure_bind]
    refine .pure ⟨.resolved hget hfont rfl ?_, ?_⟩
    all_goals rw [foldl_warn]; rfl

/-- Instructions other than selections are beside the fonts: they leave the cache as it is, and no
warning of theirs names a font. -/
theorem yields_step_beside {instruction : Instruction}
    (h : ∀ tag size, instruction ≠ .text (.selectFont tag size)) :
    Yields (fun after => Beside index machine after ∧
        after.inText = (machine.context.step instruction).inText)
      (machine.step page index instruction) := by
  rw [DrawingContext.inText_step]
  by_cases haside : instruction.IsAside
  · refine (yields_step_asides page index machine haside).mono fun after hafter => ?_
    refine (Beside.of_asides hafter).imp_right fun hinText => ?_
    split
    case h_1 => exact haside.elim
    case h_2 => exact haside.elim
    case h_3 => exact hinText
  -- what is left is about paths and states, and gives no warning at all
  · cases instruction with
    | paint operator =>
      refine .pure ?_
      rw [paint]
      split <;> exact ⟨.of_eq rfl rfl, rfl⟩
    | save | restore | concat _ | draw _ | dropPath => exact .pure ⟨.of_eq rfl rfl, rfl⟩
    | beginText | endText => exact .pure ⟨.of_eq rfl rfl, rfl⟩
    | text instruction =>
      cases instruction with
      | selectFont tag size => exact absurd rfl (h tag size)
      | _ => exact absurd True.intro haside
    | _ => exact absurd True.intro haside

/-- **Selections add fonts and the warnings of their resolution**, and other operators give only
warnings that are about no font. -/
theorem yields_execute_tells
    (h : ∀ tag declared?, Yields (outcome tag declared?)
      (FontCache.resolveEntry page.store tag declared?))
    (operator : Operator) :
    Yields (fun after =>
        Tells page index machine outcome (operator.selectedTag? machine.context) after ∧
        after.inText = (machine.context.next operator).inText)
      (machine.execute page index operator) := by
  rw [execute, DrawingContext.next, Operator.selectedTag?]
  cases Instruction.ofOperator? operator with
  | none => exact .pure ⟨.beside (.of_eq rfl rfl), rfl⟩
  | some i =>
    dsimp only [Option.elim_some]
    split
    -- a selection outside of a text object is none
    case h_1 tag size hselect =>
      obtain rfl := Option.some.inj hselect
      change Yields (fun after =>
        Tells page index machine outcome (if machine.inText then some tag else none) after ∧
          after.inText = machine.inText) _
      rw [step]
      split
      case isTrue => exact yields_selectFont_tells page index machine h tag size
      case isFalse => exact .pure ⟨.beside (.of_eq rfl rfl), rfl⟩
    case h_2 hselect =>
      refine (yields_step_beside page index machine ?_).mono fun after => And.imp_left .beside
      rintro tag size rfl
      exact hselect tag size rfl

end Machine

end PdfDisplay
