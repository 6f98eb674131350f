import Mathlib.Logic.Relation
import PdfDisplay.Graphics.Machine
import PdfDisplay.Proofs.Store.Reports

/-!
# Instructions beside the path and the fonts

Most instructions leave the path under construction, the transforms and the fonts alone, and all
that they do is made up of a few kinds of changes. `Machine.Aside` lists these, with what the
warnings among them have in common: they belong to the operator that is executed, are about no font,
and do not say that the contents are cut short. Instructions of this kind (`Instruction.IsAside`) do
nothing else (`Machine.yields_step_asides`), so what asides keep is kept by all of them.
-/

namespace PdfDisplay

/-- Whether an instruction leaves the path, the transforms, the fonts and the limits of text objects
alone. -/
def Instruction.IsAside : Instruction → Prop
  | .save | .restore | .concat _ => False
  | .draw _ | .paint _ | .dropPath => False
  | .beginText | .endText => False
  | .text (.selectFont _ _) => False
  | _ => True

theorem ImageError.warningCode_ne_truncatedContent (e : ImageError) :
    e.warningCode ≠ .truncatedContent := by
  rw [ImageError.warningCode]
  cases e.kind <;> decide

namespace Machine

/-- A change that an operator makes beside the path, the transforms and the fonts. -/
inductive Aside (index : Nat) : Machine → Machine → Prop
  /-- A warning is given. -/
  | warn (machine : Machine) (warning : Warning) (hfont : warning.fontName? = none)
    (hcode : warning.code ≠ .truncatedContent) : Aside index machine (machine.warn index warning)
  /-- An item other than a path is drawn. -/
  | emit (machine : Machine) (item : DisplayItem) (h : item.path? = none) :
    Aside index machine (machine.emit item)
  /-- The frame is changed, but not its transform. -/
  | frame (machine : Machine) (change : GraphicsFrame → GraphicsFrame)
    (h : (change machine.state.frame).transform = machine.state.frame.transform) :
    Aside index machine (machine.mapFrame change)
  /-- An inline image has come. -/
  | countImage (machine : Machine) :
    Aside index machine { machine with inlineImages := machine.inlineImages + 1 }

/-- Any number of asides. -/
abbrev Asides (index : Nat) : Machine → Machine → Prop := Relation.ReflTransGen (Aside index)

/-- What is kept by every aside is kept by all of them. -/
theorem Asides.of_closed {index : Nat} {R : Machine → Machine → Prop}
    (hrefl : ∀ machine, R machine machine)
    (htrans : ∀ {first second third}, R first second → R second third → R first third)
    (haside : ∀ {before after}, Aside index before after → R before after)
    {before after : Machine} (h : Asides index before after) : R before after := by
  induction h with
  | refl => exact hrefl before
  | tail _ hstep ih => exact htrans ih (haside hstep)

variable {m : Type → Type} (page : PageContext m) (index : Nat) (machine : Machine)

theorem asides_text (change : TextState → TextState) :
    Asides index machine (machine.mapText change) :=
  .single (.frame machine _ rfl)

theorem asides_components (ink : Ink) (components : List Float) :
    Asides index machine
      (machine.mapFrame fun frame => (frame.setComponents? components ink).getD frame) := by
  refine .single (.frame machine _ ?_)
  rw [GraphicsFrame.setComponents?]
  cases (machine.state.frame.space ink).color? components with
  | none => rfl
  | some color => cases ink <;> rfl

theorem asides_space (space : ColorSpace) (color : Color) (ink : Ink) :
    Asides index machine (machine.mapFrame (·.setSpaceAndColor space color ink)) :=
  .single (.frame machine _ (by cases ink <;> rfl))

/-- Applying parameters is an aside: it does not touch the path, nor what was saved. -/
theorem asides_applyParameters (resources : PageResources) (name : String) :
    Asides index machine (machine.applyParameters resources index name) := by
  rw [applyParameters]
  split
  case h_1 => exact .single (.frame machine _ rfl)
  case h_2 => exact .single (.warn machine _ rfl (by simp))

/-- Showing pieces is an aside as far as the path is concerned. -/
theorem asides_showPieces (pageHeight : Float) (pieces : List TextPiece) :
    Asides index machine (machine.showPieces pageHeight index pieces) := by
  rw [showPieces]
  dsimp only
  split
  case h_1 => exact .single (.warn machine _ rfl (by simp))
  case h_2 =>
    split
    case isTrue => exact asides_text index machine _
    case isFalse => exact .tail (asides_text index machine _) (.emit _ _ rfl)

/-- Placing an image is one too, be the image drawn or refused with a warning. -/
theorem asides_placeImage (name : String) (d : Dictionary) (data : Bytes)
    (target? : Option ObjectRef) :
    Asides index machine (machine.placeImage page index name d data target?) := by
  rw [placeImage]
  split
  case h_1 => exact .single (.emit machine _ rfl)
  case h_2 e _ => exact .single (.warn machine _ rfl e.warningCode_ne_truncatedContent)

theorem asides_drawImage (entries : List (String × Operand)) (data : Bytes) :
    Asides index machine (machine.drawImage page index entries data) :=
  .head (.countImage machine) (asides_placeImage page index _ _ _ data none)

variable [Monad m] [LawfulMonad m]

theorem yields_drawObject_asides (name : String) :
    Yields (Asides index machine) (machine.drawObject page index name) := by
  rw [drawObject]
  split
  case h_1 => exact .pure (.single (.warn machine _ rfl (by simp)))
  case h_2 target _ =>
    -- both requests to the store may fail, and each failure is one warning
    have hfails (e : StoreError) :
        Asides index machine (machine.warnObject index target e.warningCode e.message) :=
      .single (.warn machine _ rfl e.warningCode_ne_truncatedContent)
    refine .bind (.trivial _) fun text _ => ?_
    split
    case h_1 e => exact .pure (hfails e)
    case h_2 text =>
      split
      case h_1 => exact .pure (.single (.warn machine _ rfl (by simp)))
      case h_2 d _ =>
        split
        case isFalse => exact .pure .refl
        case isTrue =>
          refine .bind (.trivial _) fun data _ => ?_
          split
          case h_1 e => exact .pure (hfails e)
          case h_2 data => exact .pure (asides_placeImage page index machine _ _ _ _)

/-- **The instructions of text objects are asides** with the exception of those that select a font.
-/
theorem yields_stepText_asides {instruction : TextInstruction}
    (h : (Instruction.text instruction).IsAside) :
    Yields (Asides index machine) (machine.stepText page index instruction) := by
  cases instruction with
  | selectFont tag size => exact h.elim
  | showPieces pieces => exact .pure (asides_showPieces index machine _ pieces)
  | showOnNextLine bytes =>
    exact .pure ((asides_text index machine _).trans (asides_showPieces index _ _ _))
  | showSpaced wordSpacing charSpacing bytes =>
    exact .pure ((asides_text index machine _).trans (asides_showPieces index _ _ _))
  | _ => exact .pure (asides_text index machine _)

/-- **Instructions beside the path and the fonts are made up of asides.** -/
theorem yields_step_asides {instruction : Instruction} (h : instruction.IsAside) :
    Yields (Asides index machine) (machine.step page index instruction) := by
  cases instruction with
  | save | restore | concat _ | draw _ | paint _ | dropPath | beginText | endText => exact h.elim
  | style change => exact .pure (.single (.frame machine _ rfl))
  | applyParameters name => exact .pure (asides_applyParameters index machine _ name)
  | setColor ink space color => exact .pure (asides_space index machine space color ink)
  | setSpace ink space => exact .pure (asides_space index machine space .black ink)
  | setComponents ink components => exact .pure (asides_components index machine ink components)
  | setText parameter => exact .pure (asides_text index machine _)
  -- outside of a text object such an instruction does nothing
  | text instruction =>
    rw [step]
    split
    case isTrue => exact yields_stepText_asides page index machine h
    case isFalse => exact .pure .refl
  | drawObject name => exact yields_drawObject_asides page index machine name
  | drawImage entries data => exact .pure (asides_drawImage page index machine entries data)

end Machine

end PdfDisplay
