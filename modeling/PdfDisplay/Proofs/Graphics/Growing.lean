import PdfDisplay.Proofs.Graphics.Changes

/-!
# What runs draw

Runs only add to what is drawn, and a run of text that they add has the text of its segments
(`Machine.yields_executeAll_grows`). Along the way the fonts that are kept, selected or saved stay
fonts whose character maps were read.
-/

namespace PdfDisplay

namespace Machine

/-! ## Growth -/

/-- Whether the selected font of a frame, if there is one, has a map that was read. -/
def FontIsRead (frame : GraphicsFrame) : Prop :=
  ∀ font, frame.text.font? = some font → font.MapIsRead

/-- Whether all fonts in a machine have maps that were read. -/
structure FontsAreRead (machine : Machine) : Prop where
  /-- Those that are kept. -/
  kept : machine.fonts.MapsAreRead
  /-- The selected one. -/
  selected : FontIsRead machine.state.frame
  /-- Those selected in the saved frames. -/
  saved : ∀ frame ∈ machine.state.saved, FontIsRead frame

/-- Whether one machine has drawn what another has, and joined runs of text or other items
behind it. -/
structure Grows (before after : Machine) : Prop where
  /-- What is drawn in addition; the latest item stands first. -/
  drawn : ∃ items, after.drawn = items ++ before.drawn ∧ ∀ item ∈ items, item.Joined
  /-- The fonts stay fonts whose maps were read. -/
  fonts : before.FontsAreRead → after.FontsAreRead

namespace Grows

theorem refl (machine : Machine) : Grows machine machine := ⟨⟨[], rfl, List.forall_mem_nil _⟩, id⟩

theorem trans {first second third : Machine} (h : Grows first second) (h' : Grows second third) :
    Grows first third := by
  obtain ⟨items, hitems, hjoined⟩ := h.drawn
  obtain ⟨items', hitems', hjoined'⟩ := h'.drawn
  refine ⟨⟨items' ++ items, ?_, ?_⟩, h'.fonts ∘ h.fonts⟩
  · rw [hitems', hitems, List.append_assoc]
  · exact List.forall_mem_append.mpr ⟨hjoined', hjoined⟩

/-- Nothing is drawn. -/
theorem of_drawn_eq {before after : Machine} (hdrawn : after.drawn = before.drawn)
    (hfonts : before.FontsAreRead → after.FontsAreRead) : Grows before after :=
  ⟨⟨[], hdrawn, List.forall_mem_nil _⟩, hfonts⟩

/-- Nothing is drawn, and no font and no frame is touched. -/
theorem of_state_eq {before after : Machine} (hdrawn : after.drawn = before.drawn)
    (hfonts : after.fonts = before.fonts) (hstate : after.state = before.state) :
    Grows before after :=
  .of_drawn_eq hdrawn fun h => ⟨hfonts ▸ h.kept, hstate ▸ h.selected, hstate ▸ h.saved⟩

/-- What has been drawn stays the beginning of what is drawn. -/
theorem prefix_items {before after : Machine} (h : Grows before after) :
    before.items <+: after.items := by
  obtain ⟨items, hitems, -⟩ := h.drawn
  rw [Machine.items, Machine.items, hitems, List.reverse_append]
  exact List.prefix_append _ _

end Grows

theorem Change.grows {before after : Machine} (h : Change before after) : Grows before after := by
  cases h with
  | emit item hitem => exact ⟨⟨[item], rfl, by simpa using hitem⟩, fun h => ⟨h.1, h.2, h.3⟩⟩
  | text change hfont =>
    refine .of_drawn_eq rfl fun h => ⟨h.kept, fun font hselected => ?_, h.saved⟩
    exact h.selected font (hfont.symm.trans hselected)
  | select font fonts size hread =>
    refine .of_drawn_eq rfl fun h => ⟨(hread h.kept).2, ?_, h.saved⟩
    rintro _ ⟨⟩
    exact (hread h.kept).1
  | _ => exact .of_drawn_eq rfl fun h => ⟨h.kept, h.selected, h.saved⟩

theorem Changes.grows {before after : Machine} (h : Changes before after) : Grows before after :=
  h.of_closed .refl .trans Change.grows

/-! ## Steps -/

/-- Changes of the frame that leave the selected font alone. -/
theorem grows_mapFrame (machine : Machine) {change : GraphicsFrame → GraphicsFrame}
    (h : ∀ frame, (change frame).text = frame.text) : Grows machine (machine.mapFrame change) := by
  refine .of_drawn_eq rfl fun hread => ⟨hread.kept, ?_, hread.saved⟩
  intro font hselected
  exact hread.selected font (by rwa [← h])

theorem text_setSpaceAndColor (frame : GraphicsFrame) (space : ColorSpace) (color : Color)
    (ink : Ink) : (frame.setSpaceAndColor space color ink).text = frame.text := by
  cases ink <;> rfl

theorem grows_restore (machine : Machine) :
    Grows machine { machine with state := machine.state.restore }.syncPath := by
  refine .of_drawn_eq rfl fun h => ?_
  cases hsaved : machine.state.saved with
  | nil =>
    rw [GraphicsState.restore_of_saved_eq_nil hsaved]
    exact ⟨h.kept, h.selected, h.saved⟩
  | cons frame saved =>
    rw [GraphicsState.restore_of_saved_eq_cons hsaved]
    obtain ⟨hframe, hbelow⟩ := List.forall_mem_cons.mp (hsaved ▸ h.saved)
    exact ⟨h.kept, hframe, hbelow⟩

variable {m : Type → Type} [Monad m] [LawfulMonad m]

theorem yields_step_grows (page : PageContext m) (index : Nat) (machine : Machine)
    (instruction : Instruction) : Yields (Grows machine) (machine.step page index instruction) := by
  -- of the other instructions only five touch the state of text or what is saved
  have hcompound : ∀ {instruction}, Compound instruction →
      Yields (Grows machine) (machine.step page index instruction) :=
    fun h => (yields_step_changes page index machine h).mono fun _ => Changes.grows
  cases instruction with
  | save =>
    refine .pure (.of_drawn_eq rfl fun h => ⟨h.kept, h.selected, ?_⟩)
    exact List.forall_mem_cons.mpr ⟨h.selected, h.saved⟩
  | restore => exact .pure (grows_restore machine)
  | concat transform =>
    have hframe : Grows machine (machine.mapFrame (·.concat transform)) :=
      grows_mapFrame machine fun _ => rfl
    exact .pure (hframe.trans (.of_state_eq rfl rfl rfl))
  | setColor ink space color =>
    exact .pure (grows_mapFrame machine fun frame => text_setSpaceAndColor frame _ _ ink)
  | setSpace ink space =>
    exact .pure (grows_mapFrame machine fun frame => text_setSpaceAndColor frame _ _ ink)
  | draw pathStep => exact .pure (.of_state_eq rfl rfl rfl)
  | beginText =>
    have hbegun := (Change.text machine TextState.beginText rfl).grows
    exact .pure (hbegun.trans (.of_state_eq rfl rfl rfl))
  | endText => exact .pure (.of_state_eq rfl rfl rfl)
  | style change => exact hcompound (.style change)
  | setComponents ink components => exact hcompound (.setComponents ink components)
  | setText parameter => exact hcompound (.setText parameter)
  | dropPath => exact hcompound .dropPath
  | applyParameters name => exact hcompound (.applyParameters name)
  | paint operator => exact hcompound (.paint operator)
  | text instruction => exact hcompound (.text instruction)
  | drawObject name => exact hcompound (.drawObject name)
  | drawImage entries data => exact hcompound (.drawImage entries data)

theorem yields_execute_grows (page : PageContext m) (index : Nat) (machine : Machine)
    (operator : Operator) : Yields (Grows machine) (machine.execute page index operator) := by
  rw [execute]
  split
  case h_1 instruction _ => exact yields_step_grows page index machine instruction
  case h_2 => exact .pure (.refl machine)

/-- **Runs only add to what is drawn**, and add joined runs of text. -/
theorem yields_executeAll_grows (page : PageContext m) (index : Nat) (machine : Machine)
    (operators : List Operator) :
    Yields (Grows machine) (machine.executeAll page index operators) :=
  yields_executeAll_of_execute page .refl .trans (yields_execute_grows page) index machine operators

end Machine

end PdfDisplay
