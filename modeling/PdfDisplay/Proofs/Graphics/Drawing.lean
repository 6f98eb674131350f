import PdfDisplay.Graphics.Machine
import PdfDisplay.Proofs.Store.Comparison

/-!
# Attempts to draw images

A named object is drawn in two steps: the store is asked for it, and then an image is drawn, a
warning is given, or nothing is done. The first depends on the page alone, and the second on the
answers and on the transform of the machine (`Machine.exists_drawObject_eq`).
-/

namespace PdfDisplay

/-- Whether a store leaves no trace of the requests that images make. -/
structure ObjectStore.Silent {m : Type → Type} [Monad m] (store : ObjectStore m) : Prop where
  /-- There is no trace of requests for texts. -/
  text : ∀ target, PdfDisplay.Silent (store.text target)
  /-- There is no trace of requests for data as they are. -/
  raw : ∀ target, PdfDisplay.Silent (store.raw target)

/-- A store that is a function of the requests leaves no trace of them. -/
theorem ObjectStore.silent_id (store : ObjectStore Id) : store.Silent :=
  ⟨fun _ => rfl, fun _ => rfl⟩

/-- What comes of an attempt to draw an image. -/
inductive ImageEffect where
  /-- Nothing. -/
  | none
  /-- A warning. -/
  | warn (warning : Warning)
  /-- A drawn image. -/
  | draw (name : String) (raster : Raster)

namespace Machine

/-- The machine behind an attempt to draw an image. -/
def apply (machine : Machine) (pageHeight : Float) (index : Nat) : ImageEffect → Machine
  | .none => machine
  | .warn warning => machine.warn index warning
  | .draw name raster =>
    machine.emit (.image (.place name machine.state.frame.transform pageHeight raster))

theorem exists_placeImage_eq {m : Type → Type} (page : PageContext m) (name : String)
    (d : Dictionary) (data : Bytes) (target? : Option ObjectRef) :
    ∃ effect, ∀ (index : Nat) (machine : Machine),
      machine.placeImage page index name d data target? =
        machine.apply page.height index effect := by
  unfold placeImage
  cases Image.decode d data page.options with
  | ok raster => exact ⟨.draw name raster, fun _ _ => rfl⟩
  | error e => exact ⟨.warn _, fun _ _ => rfl⟩

theorem exists_drawImage_eq {m : Type → Type} (page : PageContext m) (index : Nat)
    (entries : List (String × Operand)) (data : Bytes) (machine : Machine) :
    ∃ effect, machine.drawImage page index entries data =
      { machine with inlineImages := machine.inlineImages + 1 }.apply page.height index effect := by
  obtain ⟨effect, heffect⟩ := exists_placeImage_eq page
    ("inline-" ++ toString (machine.inlineImages + 1)) (Operand.dictionaryOf entries) data none
  exact ⟨effect, heffect index _⟩

variable {m : Type → Type} [Monad m] [LawfulMonad m]

/-- Whether a program asks the store of a page and then draws an image, warns or does nothing. -/
def AsksAndDraws (page : PageContext m) (program : Nat → Machine → m Machine) : Prop :=
  ∃ effect : m ImageEffect,
    (∀ index machine, program index machine = machine.apply page.height index <$> effect) ∧
      (page.store.Silent → Silent effect)

namespace AsksAndDraws

variable {page : PageContext m}

theorem pure {program : Nat → Machine → Machine} {effect : ImageEffect}
    (h : ∀ index machine, program index machine = machine.apply page.height index effect) :
    AsksAndDraws page fun index machine => Pure.pure (program index machine) :=
  ⟨Pure.pure effect, fun index machine => by rw [map_pure, ← h], fun _ => .pure effect⟩

theorem bind {α : Type} {request : m α} {program : α → Nat → Machine → m Machine}
    (hrequest : page.store.Silent → Silent request)
    (h : ∀ answer, AsksAndDraws page (program answer)) :
    AsksAndDraws page fun index machine =>
      request >>= fun answer => program answer index machine := by
  refine ⟨request >>= fun answer => (h answer).choose, fun index machine => ?_, fun hsilent => ?_⟩
  · rw [map_bind]
    exact bind_congr fun answer => (h answer).choose_spec.1 index machine
  · exact (hrequest hsilent).bind fun answer => (h answer).choose_spec.2 hsilent

end AsksAndDraws

theorem asksAndDraws_drawObject (page : PageContext m) (name : String) :
    AsksAndDraws page fun index machine => machine.drawObject page index name := by
  -- what is drawn depends on the answers alone, so every path through the function ends in one
  -- effect
  have hnone : AsksAndDraws page fun _ machine => pure machine :=
    .pure fun _ _ => (rfl : _ = apply _ _ _ .none)
  have hwarn : ∀ warning, AsksAndDraws page fun index machine =>
      pure (machine.warn index warning) :=
    fun warning => .pure fun _ _ => (rfl : _ = apply _ _ _ (.warn warning))
  unfold drawObject
  split
  case h_1 => exact hwarn _
  case h_2 target _ =>
    refine .bind (fun hsilent => hsilent.text target) fun text => ?_
    cases text with
    | error e => exact hwarn _
    | ok text =>
      dsimp only
      split
      case h_1 => exact hwarn _
      case h_2 d _ =>
        split
        case isFalse => exact hnone
        case isTrue =>
          refine .bind (fun hsilent => hsilent.raw target) fun data => ?_
          cases data with
          | error e => exact hwarn _
          | ok data =>
            obtain ⟨effect, heffect⟩ := exists_placeImage_eq page name d data (some target)
            exact .pure heffect

/-- **A named object is asked for and then drawn**: what is asked for does not depend on the
machine, and what is done to it depends on the answers. -/
theorem exists_drawObject_eq (page : PageContext m) (name : String) :
    ∃ effect : m ImageEffect,
      (∀ index machine,
        drawObject page index name machine = machine.apply page.height index <$> effect) ∧
      (page.store.Silent → Silent effect) :=
  asksAndDraws_drawObject page name

end Machine

end PdfDisplay
