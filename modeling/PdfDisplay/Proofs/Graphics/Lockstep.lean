import PdfDisplay.Proofs.Graphics.Drawing
import PdfDisplay.Proofs.Graphics.Operators

/-!
# Machines in lockstep

Two runs are compared by a relation between their machines. `Machine.Lockstep` lists what such a
relation must allow for: related machines are in the same state, and stay related if both are
changed alike, warn, or draw the same item. Then instructions keep them related
(`Machine.Lockstep.coupled_execute`), as long as selecting a font and drawing an image do, which
depend on more than that. Where the fonts agree as well, selecting one keeps machines related
(`Machine.Lockstep.coupled_selectFont`); where all images are drawn in both, so does drawing them
(`Machine.DrawsAlike.coupled_drawObject`).
-/

namespace PdfDisplay

namespace Machine

/-- Whether a relation of machines, and one of the indices of operators, is kept by what
instructions do to both machines alike, drawing images apart. -/
structure Lockstep (R : Machine → Machine → Prop) (S : Nat → Nat → Prop) : Prop where
  /-- The graphics states are the same. -/
  state : ∀ {a b}, R a b → a.state = b.state
  /-- The paths are the same. -/
  builder : ∀ {a b}, R a b → a.builder = b.builder
  /-- Text objects are open at the same time. -/
  inText : ∀ {a b}, R a b → a.inText = b.inText
  /-- Any graphics state may follow. -/
  setState : ∀ {a b}, R a b → ∀ state, R { a with state } { b with state }
  /-- Any path may follow. -/
  setBuilder : ∀ {a b}, R a b → ∀ builder, R { a with builder } { b with builder }
  /-- Text objects may be opened and closed. -/
  setInText : ∀ {a b}, R a b → ∀ inText, R { a with inText } { b with inText }
  /-- Warnings may be given. -/
  warn : ∀ {a b i j}, R a b → S i j → ∀ warning, R (a.warn i warning) (b.warn j warning)
  /-- Items may be drawn. -/
  emit : ∀ {a b}, R a b → ∀ item, item.image? = none → R (a.emit item) (b.emit item)

/-- Whether a relation is kept by drawing images, too. -/
structure DrawsAlike (R : Machine → Machine → Prop) : Prop where
  /-- The inline images are counted alike. -/
  inlineImages : ∀ {a b}, R a b → a.inlineImages = b.inlineImages
  /-- An inline image may be counted. -/
  countImage : ∀ {a b}, R a b → ∀ inlineImages, R { a with inlineImages } { b with inlineImages }
  /-- Images may be drawn. -/
  emitImage : ∀ {a b}, R a b → ∀ item, R (a.emit (.image item)) (b.emit (.image item))

/-- Whether a relation is kept by selecting a font on a page. -/
def SelectsAlike {m : Type → Type} [Monad m] (page : PageContext m)
    (R : Machine → Machine → Prop) (S : Nat → Nat → Prop) : Prop :=
  ∀ {a b i j}, R a b → S i j → ∀ tag size,
    Coupled R (a.selectFont page i tag size) (b.selectFont page j tag size)

variable {R : Machine → Machine → Prop} {S : Nat → Nat → Prop} {a b : Machine} {i j : Nat}

namespace Lockstep

variable (h : Lockstep R S) (hab : R a b) (hij : S i j)

include h hab

theorem mapState (change : GraphicsState → GraphicsState) :
    R { a with state := change a.state } { b with state := change b.state } := by
  rw [h.state hab]
  exact h.setState hab _

theorem mapBuilder (change : PathBuilder → PathBuilder) :
    R { a with builder := change a.builder } { b with builder := change b.builder } := by
  rw [h.builder hab]
  exact h.setBuilder hab _

theorem mapFrame (change : GraphicsFrame → GraphicsFrame) :
    R (a.mapFrame change) (b.mapFrame change) :=
  h.mapState hab (·.map change)

theorem mapText (change : TextState → TextState) : R (a.mapText change) (b.mapText change) :=
  h.mapFrame hab _

theorem syncPath : R a.syncPath b.syncPath := by
  have hframe : a.state.frame = b.state.frame := congrArg _ (h.state hab)
  rw [Machine.syncPath, Machine.syncPath, hframe]
  exact h.mapBuilder hab (·.setTransform b.state.frame.transform)

theorem paint (pageHeight : Float) (operator : PaintOperator) :
    R (a.paint pageHeight operator) (b.paint pageHeight operator) := by
  rw [Machine.paint, Machine.paint, h.builder hab, h.state hab]
  split
  case isTrue => exact hab
  case isFalse => exact h.setBuilder (h.emit hab (.path _) rfl) _

include hij

theorem foldl_warn (warnings : List Warning) :
    R (warnings.foldl (fun machine warning => machine.warn i warning) a)
      (warnings.foldl (fun machine warning => machine.warn j warning) b) := by
  induction warnings generalizing a b with
  | nil => exact hab
  | cons warning warnings ih => exact ih (h.warn hab hij warning)

theorem applyParameters (resources : PageResources) (name : String) :
    R (a.applyParameters resources i name) (b.applyParameters resources j name) := by
  rw [Machine.applyParameters, Machine.applyParameters]
  split
  case h_1 => exact h.mapFrame hab _
  case h_2 => exact h.warn hab hij _

theorem showPieces (pageHeight : Float) (pieces : List TextPiece) :
    R (a.showPieces pageHeight i pieces) (b.showPieces pageHeight j pieces) := by
  rw [Machine.showPieces, Machine.showPieces, h.state hab]
  dsimp only
  split
  case h_1 => exact h.warn hab hij _
  case h_2 font _ =>
    have hmoved := h.mapText hab
      fun _ => (Layout.ofPieces font ⟨b.state.frame.text, 0.0⟩ pieces).pen.text
    split
    case isTrue => exact hmoved
    case isFalse => exact h.emit hmoved (.text _) rfl

variable {m : Type → Type} [Monad m] [LawfulMonad m] {page : PageContext m}

omit hab hij in
/-- Where machines keep the same fonts, a font may be selected: both resolve it, or neither has to,
and the store is asked alike. -/
theorem selectsAlike (page : PageContext m) (hfonts : ∀ {a b}, R a b → a.fonts = b.fonts)
    (hset : ∀ {a b}, R a b → ∀ fonts, R { a with fonts } { b with fonts }) :
    SelectsAlike page R S := by
  intro a b i j hab hij tag size
  rw [selectFont, selectFont, hfonts hab]
  refine (Coupled.refl _).bind ?_
  rintro ⟨font, fonts⟩ _ rfl
  exact .pure (h.mapText (hset (h.foldl_warn hab hij font.warnings) fonts) _)

variable (hselect : SelectsAlike page R S)

include hselect

theorem coupled_stepText (instruction : TextInstruction) :
    Coupled R (a.stepText page i instruction) (b.stepText page j instruction) := by
  cases instruction with
  | selectFont tag size => exact hselect hab hij tag size
  | showPieces pieces => exact .pure (h.showPieces hab hij _ pieces)
  | showOnNextLine bytes => exact .pure (h.showPieces (h.mapText hab _) hij _ _)
  | showSpaced wordSpacing charSpacing bytes =>
    exact .pure (h.showPieces (h.mapText hab _) hij _ _)
  | _ => exact .pure (h.mapText hab _)

/-- **Instructions keep machines related**, by the cases of the instruction, each of which reads and
writes only what the relation keeps. -/
theorem coupled_step {instruction : Instruction}
    (hobject : ∀ name, instruction = .drawObject name →
      Coupled R (a.drawObject page i name) (b.drawObject page j name))
    (himage : ∀ entries data, instruction = .drawImage entries data →
      R (a.drawImage page i entries data) (b.drawImage page j entries data)) :
    Coupled R (a.step page i instruction) (b.step page j instruction) := by
  cases instruction with
  | save => exact .pure (h.mapState hab (·.save))
  | restore => exact .pure (h.syncPath (h.mapState hab (·.restore)))
  | concat transform => exact .pure (h.syncPath (h.mapFrame hab _))
  | style change => exact .pure (h.mapFrame hab _)
  | applyParameters name => exact .pure (h.applyParameters hab hij _ name)
  | setColor ink space color => exact .pure (h.mapFrame hab _)
  | setSpace ink space => exact .pure (h.mapFrame hab _)
  | setComponents ink components => exact .pure (h.mapFrame hab _)
  | draw pathStep => exact .pure (h.mapBuilder hab (·.step pathStep))
  | paint operator => exact .pure (h.paint hab _ operator)
  | dropPath => exact .pure (h.mapBuilder hab (·.reset))
  | setText parameter => exact .pure (h.mapText hab _)
  | beginText => exact .pure (h.setInText (h.mapText hab _) true)
  | endText => exact .pure (h.setInText hab false)
  -- both machines are in a text object or neither is
  | text instruction =>
    rw [step, step, h.inText hab]
    split
    case isTrue => exact h.coupled_stepText hab hij hselect instruction
    case isFalse => exact .pure hab
  | drawObject name => exact hobject name rfl
  | drawImage entries data => exact .pure (himage entries data rfl)

/-- Operators keep machines related, drawing images apart. -/
theorem coupled_execute_of_not_image {operator : Operator} (hobject : operator.name ≠ "Do")
    (himage : operator.name ≠ "BI") :
    Coupled R (a.execute page i operator) (b.execute page j operator) := by
  rw [execute, execute]
  split
  case h_2 => exact .pure hab
  case h_1 instruction hread =>
    have hnamed := Instruction.isNamed_of_ofOperator? hread
    refine h.coupled_step hab hij hselect ?_ ?_
    · rintro name rfl
      exact absurd hnamed hobject
    · rintro entries data rfl
      exact absurd hnamed himage

end Lockstep

/-! ## Images -/

namespace DrawsAlike

variable (h : Lockstep R S) (himages : DrawsAlike R) (hab : R a b) (hij : S i j)

include h himages hab hij

theorem apply (pageHeight : Float) (effect : ImageEffect) :
    R (a.apply pageHeight i effect) (b.apply pageHeight j effect) := by
  cases effect with
  | none => exact hab
  | warn warning => exact h.warn hab hij warning
  | draw name raster =>
    rw [Machine.apply, Machine.apply, h.state hab]
    exact himages.emitImage hab _

theorem placeImage {m : Type → Type} (page : PageContext m) (name : String) (d : Dictionary)
    (data : Bytes) (target? : Option ObjectRef) :
    R (a.placeImage page i name d data target?) (b.placeImage page j name d data target?) := by
  obtain ⟨effect, heffect⟩ := exists_placeImage_eq page name d data target?
  rw [heffect, heffect]
  exact himages.apply h hab hij page.height effect

theorem drawImage {m : Type → Type} (page : PageContext m) (entries : List (String × Operand))
    (data : Bytes) : R (a.drawImage page i entries data) (b.drawImage page j entries data) := by
  rw [Machine.drawImage, Machine.drawImage, himages.inlineImages hab]
  exact himages.placeImage h (himages.countImage hab _) hij page _ _ _ _

variable {m : Type → Type} [Monad m] [LawfulMonad m] {page : PageContext m}

theorem coupled_drawObject (name : String) :
    Coupled R (a.drawObject page i name) (b.drawObject page j name) := by
  obtain ⟨effect, heffect, -⟩ := exists_drawObject_eq page name
  rw [heffect, heffect]
  refine (Coupled.refl effect).map ?_
  rintro effect _ rfl
  exact himages.apply h hab hij page.height effect

/-- **Operators keep machines related**, if selecting a font does, which is the one instruction that
looks at the cache. -/
theorem coupled_execute (hselect : SelectsAlike page R S) (operator : Operator) :
    Coupled R (a.execute page i operator) (b.execute page j operator) := by
  rw [execute, execute]
  split
  case h_2 => exact .pure hab
  case h_1 instruction _ =>
    exact h.coupled_step hab hij hselect (fun name _ => himages.coupled_drawObject h hab hij name)
      fun entries data _ => himages.drawImage h hab hij page entries data

end DrawsAlike

end Machine

end PdfDisplay
