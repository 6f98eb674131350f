import PdfDisplay.Graphics.Machine
import PdfDisplay.Proofs.Font.Simulation

/-!
# Machines on pages with related stores

Instructions ask the store of the page when a font is selected and when a named object is drawn. A
page with another store in its place (`PageContext.over`), the answers of which are related, makes
related machines of every machine.
-/

namespace PdfDisplay

variable {m n : Type → Type}

/-- The page with another store. -/
def PageContext.over (page : PageContext m) (store : ObjectStore n) : PageContext n :=
  ⟨store, page.height, page.resources, page.options⟩

namespace Machine

variable [Monad m] [Monad n] {R : Simulation m n} {page : PageContext m} {store : ObjectStore n}
  (hstore : R.Stores page.store store) (index : Nat) (machine : Machine)

include hstore

/-- Selecting a font goes in step because the cache that decides whether the store is asked is part
of the machine, which is the same on both sides. -/
theorem rel_selectFont (tag : String) (size : Float) :
    R.Rel (machine.selectFont page index tag size)
      (machine.selectFont (page.over store) index tag size) :=
  R.bind (FontCache.rel_getOrResolve hstore machine.fonts tag _) fun _ => R.pure _

theorem rel_stepText (instruction : TextInstruction) :
    R.Rel (machine.stepText page index instruction)
      (machine.stepText (page.over store) index instruction) := by
  cases instruction with
  | selectFont tag size => exact rel_selectFont hstore index machine tag size
  | _ => exact R.pure _

theorem rel_drawObject (name : String) :
    R.Rel (machine.drawObject page index name)
      (machine.drawObject (page.over store) index name) := by
  unfold drawObject
  dsimp only [PageContext.over]
  -- the resources are the same on both sides, so both ask for the same object
  cases page.resources.drawable[name]? with
  | none => exact R.pure _
  | some target =>
    refine R.bind (hstore.text target) fun text => ?_
    cases text with
    | error e => exact R.pure _
    | ok text =>
      dsimp only
      cases Dictionary.parse? (Utf8.encode text) with
      | none => exact R.pure _
      | some d =>
        dsimp only
        split
        case isFalse => exact R.pure _
        case isTrue =>
          refine R.bind (hstore.raw target) fun data => ?_
          cases data <;> exact R.pure _

/-- **Every instruction goes in step**: selecting a font and drawing a named object may ask the
store, and the others are functions of the machine. -/
theorem rel_step (instruction : Instruction) :
    R.Rel (machine.step page index instruction)
      (machine.step (page.over store) index instruction) := by
  cases instruction with
  | text instruction =>
    rw [step, step]
    split
    case isTrue => exact rel_stepText hstore index machine instruction
    case isFalse => exact R.pure _
  | drawObject name => exact rel_drawObject hstore index machine name
  | _ => exact R.pure _

/-- An operator goes in step, as the instruction that it asks for is found without the store. -/
theorem rel_execute (operator : Operator) :
    R.Rel (machine.execute page index operator)
      (machine.execute (page.over store) index operator) := by
  unfold execute
  cases Instruction.ofOperator? operator with
  | some instruction => exact rel_step hstore index machine instruction
  | none => exact R.pure _

/-- **Operators are executed alike** on a page with a store that gives related answers. -/
theorem rel_executeAll (operators : List Operator) :
    R.Rel (machine.executeAll page index operators)
      (machine.executeAll (page.over store) index operators) := by
  induction operators generalizing index machine with
  | nil => exact R.pure _
  | cons operator rest ih =>
    exact R.bind (rel_execute hstore index machine operator) fun machine => ih (index + 1) machine

end Machine

end PdfDisplay
