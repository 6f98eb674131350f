import PdfDisplay.Graphics.Machine
import PdfDisplay.Proofs.Store.Outcome

/-!
# Traces

A trace keeps the machines that a run goes through, so that what the operators of a run do can be
said of each of them at its place. The run ends with the last of the machines
(`Machine.executeAll_eq_trace`), and what every operator does where an invariant holds is done at
every place of the trace (`Machine.yields_trace`, `Machine.Steps.getElem`).
-/

namespace PdfDisplay

namespace Machine

variable {m : Type → Type} [Monad m]

/-- The machines behind the operators of a run, one after another. -/
def trace (page : PageContext m) (index : Nat) (machine : Machine) :
    List Operator → m (List Machine)
  | [] => return []
  | operator :: rest => do
    let after ← machine.execute page index operator
    let machines ← trace page (index + 1) after rest
    return after :: machines

variable [LawfulMonad m]

/-- The last of the machines is the one that the run ends with. -/
theorem executeAll_eq_trace (page : PageContext m) (index : Nat) (machine : Machine)
    (operators : List Operator) :
    machine.executeAll page index operators =
      (·.getLastD machine) <$> machine.trace page index operators := by
  induction operators generalizing index machine with
  | nil =>
    rw [executeAll, trace, map_pure]
    rfl
  | cons operator rest ih =>
    rw [executeAll, trace, map_bind]
    refine bind_congr fun after => ?_
    rw [ih, map_bind, map_eq_pure_bind]
    refine bind_congr fun machines => ?_
    rw [map_pure, List.getLastD_cons]

/-- Whether machines follow one another by operators, every step with a property. -/
inductive Steps (P : Operator → Machine → Machine → Prop) :
    List Operator → Machine → List Machine → Prop
  /-- No operator is left. -/
  | nil (machine : Machine) : Steps P [] machine []
  /-- An operator is executed. -/
  | cons {operator : Operator} {operators : List Operator} {before after : Machine}
    {machines : List Machine} (h : P operator before after)
    (hrest : Steps P operators after machines) :
    Steps P (operator :: operators) before (after :: machines)

namespace Steps

variable {P : Operator → Machine → Machine → Prop} {operators : List Operator}
  {machine : Machine} {machines : List Machine}

theorem length_eq (h : Steps P operators machine machines) :
    machines.length = operators.length := by
  induction h with
  | nil => rfl
  | cons _ _ ih => rw [List.length_cons, ih, List.length_cons]

theorem getElem (h : Steps P operators machine machines) {i : Nat} {operator : Operator}
    {before after : Machine} (hoperator : operators[i]? = some operator)
    (hbefore : (machine :: machines)[i]? = some before) (hafter : machines[i]? = some after) :
    P operator before after := by
  induction h generalizing i with
  | nil => cases hoperator
  | cons hstep _ ih =>
    cases i with
    | zero =>
      cases hoperator
      cases hbefore
      cases hafter
      exact hstep
    | succ i => exact ih hoperator hbefore hafter

/-- All machines on the way lead to the last one. -/
theorem forall_last {R : Machine → Machine → Prop} (hrefl : ∀ machine, R machine machine)
    (htrans : ∀ {first second third}, R first second → R second third → R first third)
    (hstep : ∀ {operator before after}, P operator before after → R before after)
    (h : Steps P operators machine machines) :
    ∀ passed ∈ machine :: machines, R passed (machines.getLastD machine) := by
  induction h with
  | nil machine => exact List.forall_mem_singleton.mpr (hrefl machine)
  | cons h _ ih =>
    rw [List.getLastD_cons]
    exact List.forall_mem_cons.mpr ⟨htrans (hstep h) (ih _ List.mem_cons_self), ih⟩

end Steps

/-- What every operator does where an invariant holds is done throughout a run. -/
theorem yields_trace {I : Machine → Prop} {P : Operator → Machine → Machine → Prop}
    (page : PageContext m)
    (hexecute : ∀ index {machine} operator, I machine →
      Yields (fun after => P operator machine after ∧ I after)
        (machine.execute page index operator))
    (index : Nat) {machine : Machine} (h : I machine) (operators : List Operator) :
    Yields (Steps P operators machine) (machine.trace page index operators) := by
  induction operators generalizing index machine with
  | nil => exact .pure (.nil machine)
  | cons operator rest ih =>
    refine .bind (hexecute index operator h) fun after ⟨hstep, hafter⟩ => ?_
    exact .bind (ih (index + 1) hafter) fun machines hrest => .pure (.cons hstep hrest)

end Machine

end PdfDisplay
