import Mathlib.Logic.Relation
import PdfDisplay.Proofs.Font.Texts
import PdfDisplay.Proofs.Graphics.Drawing

/-!
# Elementary changes of the machine

What paints, shows text or draws images goes through many cases, but all of them are made up of few
changes of the machine, which `Machine.Change` lists (`Machine.yields_step_changes`). What every
change keeps, all of them keep (`Machine.Changes.of_closed`), so that a property of the machine asks
for one case for each change. The other instructions save and restore, set the transform or the
color space, go on with the path, and open or close text objects.
-/

namespace PdfDisplay

/-- Whether the text of an item, if it is a run of text, is that of its segments. -/
def DisplayItem.Joined (item : DisplayItem) : Prop :=
  ∀ text, item = .text text → text.text = String.join (text.segments.map (·.text))

/-- A path has no text, so it is joined in no way that could fail. -/
theorem joined_path (item : PathItem) : (DisplayItem.path item).Joined := by
  rintro _ ⟨⟩

theorem joined_image (item : ImageItem) : (DisplayItem.image item).Joined := by
  rintro _ ⟨⟩

/-- A run of text keeps the texts of its segments; only their offsets are placed. -/
theorem TextItem.segments_ofSegments (font : Font) (frame : GraphicsFrame) (pageHeight : Float)
    (segments : List TextSegment) :
    (ofSegments font frame pageHeight segments).segments.map (·.text) =
      segments.map (·.text) := by
  rw [ofSegments, List.map_map]
  rfl

/-- **The text of a run is that of its segments joined**, as it is made from them. -/
theorem joined_ofSegments (font : Font) (frame : GraphicsFrame) (pageHeight : Float)
    (segments : List TextSegment) :
    (DisplayItem.text (.ofSegments font frame pageHeight segments)).Joined := by
  rintro _ ⟨⟩
  rw [TextItem.segments_ofSegments]
  rfl

/-! ## The pen -/

theorem font_ofPieces (font : Font) (pen : Pen) (pieces : List TextPiece) :
    (Layout.ofPieces font pen pieces).pen.text.font? = pen.text.font? := by
  -- the pen moves glyph by glyph, and a move replaces the matrix only
  have hglyphs : ∀ (codes : List Nat) (pen : Pen),
      (codes.foldl (Pen.glyph font) pen).text.font? = pen.text.font? := by
    intro codes
    induction codes with
    | nil => exact fun _ => rfl
    | cons code codes ih => exact fun pen => ih _
  induction pieces generalizing pen with
  | nil => rfl
  | cons piece rest ih =>
    cases piece with
    | adjust amount => exact ih _
    | string bytes =>
      rw [Layout.ofPieces]
      split
      case isTrue => exact (ih _).trans (hglyphs _ pen)
      case isFalse => exact (ih _).trans (hglyphs _ pen)

namespace Machine

/-! ## Changes -/

/-- An elementary change. -/
inductive Change : Machine → Machine → Prop
  /-- A warning is given. -/
  | warn (machine : Machine) (index : Nat) (warning : Warning) :
    Change machine (machine.warn index warning)
  /-- An item is drawn; a run of text has the text of its segments. -/
  | emit (machine : Machine) (item : DisplayItem) (h : item.Joined) :
    Change machine (machine.emit item)
  /-- The style of painting is changed. -/
  | style (machine : Machine) (change : PaintStyle → PaintStyle) :
    Change machine (machine.mapFrame (·.mapStyle change))
  /-- The state of text is changed, but not the font. -/
  | text (machine : Machine) (change : TextState → TextState)
    (h : (change machine.state.frame.text).font? = machine.state.frame.text.font?) :
    Change machine (machine.mapText change)
  /-- A font is selected; it and those that are kept have maps that were read. -/
  | select (machine : Machine) (font : Font) (fonts : FontCache) (size : Float)
    (h : machine.fonts.MapsAreRead → font.MapIsRead ∧ fonts.MapsAreRead) :
    Change machine ({ machine with fonts }.mapText (·.setFont font size))
  /-- The path is dropped. -/
  | resetPath (machine : Machine) : Change machine { machine with builder := machine.builder.reset }
  /-- An inline image has come. -/
  | countImage (machine : Machine) :
    Change machine { machine with inlineImages := machine.inlineImages + 1 }

/-- The instructions that are made up of elementary changes. -/
inductive Compound : Instruction → Prop
  | style (change : StyleChange) : Compound (.style change)
  | setComponents (ink : Ink) (components : List Float) : Compound (.setComponents ink components)
  | setText (parameter : TextParameter) : Compound (.setText parameter)
  | dropPath : Compound .dropPath
  | applyParameters (name : String) : Compound (.applyParameters name)
  | paint (operator : PaintOperator) : Compound (.paint operator)
  | text (instruction : TextInstruction) : Compound (.text instruction)
  | drawObject (name : String) : Compound (.drawObject name)
  | drawImage (entries : List (String × Operand)) (data : Bytes) :
    Compound (.drawImage entries data)

/-- Any number of elementary changes. -/
abbrev Changes : Machine → Machine → Prop := Relation.ReflTransGen Change

/-- What is kept by every change is kept by all of them. -/
theorem Changes.of_closed {R : Machine → Machine → Prop} (hrefl : ∀ machine, R machine machine)
    (htrans : ∀ {first second third}, R first second → R second third → R first third)
    (hchange : ∀ {before after}, Change before after → R before after) {before after : Machine}
    (h : Changes before after) : R before after := by
  induction h with
  | refl => exact hrefl before
  | tail _ hstep ih => exact htrans ih (hchange hstep)

theorem changes_warn (machine : Machine) (index : Nat) (warning : Warning) :
    Changes machine (machine.warn index warning) :=
  .single (.warn machine index warning)

/-- Warnings are put in front of those given, so the list of a machine holds the latest one first.
-/
theorem foldl_warn (index : Nat) (warnings : List Warning) (machine : Machine) :
    warnings.foldl (fun machine warning => machine.warn index warning) machine =
      { machine with
        warnings := (warnings.map (·.atOperator index)).reverse ++ machine.warnings } := by
  induction warnings generalizing machine with
  | nil => rfl
  | cons warning warnings ih =>
    rw [List.foldl_cons, ih, warn, List.map_cons, List.reverse_cons, List.append_assoc]
    rfl

/-- Warnings change the list of warnings only, by induction over those that are left. -/
theorem changes_foldl_warn (index : Nat) (warnings : List Warning) (machine : Machine) :
    Changes machine
      (warnings.foldl (fun machine warning => machine.warn index warning) machine) := by
  induction warnings generalizing machine with
  | nil => exact .refl
  | cons warning warnings ih => exact (changes_warn machine index warning).trans (ih _)

theorem changes_paint (machine : Machine) (pageHeight : Float) (operator : PaintOperator) :
    Changes machine (machine.paint pageHeight operator) := by
  rw [paint]
  split
  case isTrue => exact .refl
  case isFalse =>
    -- the item is made of the path before that is dropped
    exact .tail (.single (.emit machine _ (joined_path _))) (.resetPath _)

/-- Components change the style of painting, if they give a color. -/
theorem changes_setComponents (machine : Machine) (ink : Ink) (components : List Float) :
    Changes machine
      (machine.mapFrame fun frame => (frame.setComponents? components ink).getD frame) := by
  have hstyle : ∃ style, (machine.state.frame.setComponents? components ink).getD
      machine.state.frame = machine.state.frame.mapStyle fun _ => style := by
    rw [GraphicsFrame.setComponents?]
    cases (machine.state.frame.space ink).color? components with
    | none => exact ⟨_, rfl⟩
    | some color => cases ink <;> exact ⟨_, rfl⟩
  obtain ⟨style, hstyle⟩ := hstyle
  rw [mapFrame, GraphicsState.map, hstyle]
  exact .single (.style machine fun _ => style)

theorem changes_applyParameters (machine : Machine) (resources : PageResources) (index : Nat)
    (name : String) : Changes machine (machine.applyParameters resources index name) := by
  rw [applyParameters]
  split
  case h_1 => exact .single (.style machine _)
  case h_2 => exact changes_warn machine index _

/-- Showing pieces draws a run of text, or none, and moves the pen. -/
theorem changes_showPieces (machine : Machine) (pageHeight : Float) (index : Nat)
    (pieces : List TextPiece) :
    Changes machine (machine.showPieces pageHeight index pieces) := by
  rw [showPieces]
  dsimp only
  split
  case h_1 => exact changes_warn machine index _
  case h_2 font _ =>
    have hmoved := Change.text machine
      (fun _ => (Layout.ofPieces font ⟨machine.state.frame.text, 0.0⟩ pieces).pen.text)
      (font_ofPieces font _ pieces)
    split
    case isTrue => exact .single hmoved
    case isFalse => exact .tail (.single hmoved) (.emit _ _ (joined_ofSegments font _ _ _))

theorem changes_apply (machine : Machine) (pageHeight : Float) (index : Nat)
    (effect : ImageEffect) : Changes machine (machine.apply pageHeight index effect) := by
  cases effect with
  | none => exact .refl
  | warn warning => exact changes_warn machine index warning
  | draw name raster => exact .single (.emit machine _ (joined_image _))

theorem changes_drawImage {m : Type → Type} (page : PageContext m) (index : Nat)
    (entries : List (String × Operand)) (data : Bytes) (machine : Machine) :
    Changes machine (machine.drawImage page index entries data) := by
  obtain ⟨effect, heffect⟩ := exists_drawImage_eq page index entries data machine
  rw [heffect]
  exact .head (.countImage machine) (changes_apply _ _ index effect)

/-! ## Instructions that ask the store -/

variable {m : Type → Type} [Monad m] [LawfulMonad m]

/-- **Selecting a font resolves it, keeps it, and leaves its warnings**, each of which is a change
of one kind. -/
theorem yields_selectFont_changes (page : PageContext m) (index : Nat) (tag : String)
    (size : Float) (machine : Machine) :
    Yields (Changes machine) (machine.selectFont page index tag size) := by
  have hfonts : Yields (fun r => machine.fonts.MapsAreRead → r.1.value.MapIsRead ∧ r.2.MapsAreRead)
      (machine.fonts.getOrResolve page.store tag (page.resources.fonts[tag]?)) := by
    by_cases hread : machine.fonts.MapsAreRead
    · exact (FontCache.yields_getOrResolve page.store hread tag _).mono fun _ h _ => h
    · exact (Yields.trivial _).mono fun _ _ h => absurd h hread
  refine .bind hfonts fun (font, fonts) hfont => .pure ?_
  refine .tail (changes_foldl_warn index font.warnings machine) (.select _ font.value fonts size ?_)
  rw [foldl_warn]
  exact hfont

theorem yields_stepText_changes (page : PageContext m) (index : Nat) (machine : Machine)
    (instruction : TextInstruction) :
    Yields (Changes machine) (machine.stepText page index instruction) := by
  cases instruction with
  | selectFont tag size => exact yields_selectFont_changes page index tag size machine
  | showPieces pieces => exact .pure (changes_showPieces machine _ index pieces)
  | showOnNextLine bytes =>
    exact .pure (.head (.text machine _ rfl) (changes_showPieces _ _ index _))
  | showSpaced wordSpacing charSpacing bytes =>
    exact .pure (.head (.text machine _ rfl) (changes_showPieces _ _ index _))
  | _ => exact .pure (.single (.text machine _ rfl))

theorem yields_drawObject_changes (page : PageContext m) (index : Nat) (name : String)
    (machine : Machine) : Yields (Changes machine) (machine.drawObject page index name) := by
  obtain ⟨effect, heffect, -⟩ := exists_drawObject_eq page name
  rw [heffect, map_eq_pure_bind]
  exact .bind (.trivial _) fun effect _ => .pure (changes_apply machine _ index effect)

/-- **What changes the style, paints, shows text or draws images is made up of elementary
changes.** -/
theorem yields_step_changes (page : PageContext m) (index : Nat) (machine : Machine)
    {instruction : Instruction} (h : Compound instruction) :
    Yields (Changes machine) (machine.step page index instruction) := by
  cases h with
  | style change => exact .pure (.single (.style machine _))
  | setComponents ink components => exact .pure (changes_setComponents machine ink components)
  | setText parameter =>
    exact .pure (.single (.text machine _ (by cases parameter <;> rfl)))
  | dropPath => exact .pure (.single (.resetPath machine))
  | applyParameters name => exact .pure (changes_applyParameters machine _ index name)
  | paint operator => exact .pure (changes_paint machine _ operator)
  -- outside of a text object the machine stays as it is, which takes no change at all
  | text instruction =>
    rw [step]
    split
    case isTrue => exact yields_stepText_changes page index machine instruction
    case isFalse => exact .pure .refl
  | drawObject name => exact yields_drawObject_changes page index name machine
  | drawImage entries data => exact .pure (changes_drawImage page index entries data machine)

/-! ## Runs -/

/-- What every operator keeps is kept by a run, by induction over the operators with the machine and
the index as they go on. -/
theorem yields_executeAll_of_execute {R : Machine → Machine → Prop} (page : PageContext m)
    (hrefl : ∀ machine, R machine machine)
    (htrans : ∀ {first second third}, R first second → R second third → R first third)
    (hexecute : ∀ index machine operator, Yields (R machine) (machine.execute page index operator))
    (index : Nat) (machine : Machine) (operators : List Operator) :
    Yields (R machine) (machine.executeAll page index operators) := by
  induction operators generalizing index machine with
  | nil => exact .pure (hrefl machine)
  | cons operator rest ih =>
    refine .bind (hexecute index machine operator) fun after hafter => ?_
    exact (ih (index + 1) after).mono fun _ h => htrans hafter h

end Machine

end PdfDisplay
