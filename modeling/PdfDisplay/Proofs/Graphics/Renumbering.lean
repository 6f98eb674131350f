import PdfDisplay.Proofs.Graphics.Lockstep

/-!
# Operators under other indices

The index of an operator goes into the warnings that it gives and nowhere else. So an operator that
is executed under another index does the same, with its warnings numbered by that index
(`Machine.renumber_execute`). Indices are exchanged by a function, in the warnings given before
and in those to come alike.
-/

namespace PdfDisplay

/-- The warning with the index of its operator, if it has one, exchanged. -/
def Warning.renumber (g : Nat → Nat) (warning : Warning) : Warning :=
  { warning with operatorIndex? := warning.operatorIndex?.map g }

namespace Machine

/-- The machine with the indices in its warnings exchanged. -/
def renumber (g : Nat → Nat) (machine : Machine) : Machine :=
  { machine with warnings := machine.warnings.map (·.renumber g) }

/-- Machines whose warnings are numbered differently go in lockstep, since no operator reads a
warning that was given. -/
theorem lockstep_renumber (g : Nat → Nat) :
    Lockstep (fun a b => b = a.renumber g) (fun i j => j = g i) where
  state := by rintro a _ rfl; rfl
  builder := by rintro a _ rfl; rfl
  inText := by rintro a _ rfl; rfl
  setState := by rintro a _ rfl _; rfl
  setBuilder := by rintro a _ rfl _; rfl
  setInText := by rintro a _ rfl _; rfl
  warn := by rintro a _ i _ rfl rfl _; rfl
  emit := by rintro a _ rfl _ _; rfl

theorem drawsAlike_renumber (g : Nat → Nat) : DrawsAlike fun a b => b = a.renumber g where
  inlineImages := by rintro a _ rfl; rfl
  countImage := by rintro a _ rfl _; rfl
  emitImage := by rintro a _ rfl _; rfl

/-- **Under another index an operator does the same**, and gives its warnings that index. -/
theorem renumber_execute {m : Type → Type} [Monad m] [LawfulMonad m] (g : Nat → Nat)
    (machine : Machine) (index : Nat) (page : PageContext m) (operator : Operator) :
    renumber g <$> machine.execute page index operator =
      (machine.renumber g).execute page (g index) operator := by
  have hsteps := lockstep_renumber g
  have hselect : SelectsAlike page (fun a b => b = a.renumber g) (fun i j => j = g i) :=
    hsteps.selectsAlike page (by rintro a _ rfl; rfl) (by rintro a _ rfl _; rfl)
  have hcoupled : Coupled (fun a b => b = a.renumber g) (machine.execute page index operator)
      ((machine.renumber g).execute page (g index) operator) :=
    (drawsAlike_renumber g).coupled_execute hsteps rfl rfl hselect operator
  exact (hcoupled.map_eq_map fun _ _ hab => hab.symm).trans (id_map _)

end Machine

end PdfDisplay
