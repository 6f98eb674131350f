import PdfDisplay.Proofs.Graphics.Changes
import PdfDisplay.Proofs.Graphics.Operators

/-!
# Saving and restoring the graphics state

Between a save and the restore that belongs to it, a run leaves the frames below alone:
`Machine.restores_state` says that the restore brings back the state in front of the save, the
current frame and the saved ones alike, and that a restore without a save does nothing.

Two things are followed through a run. The saved frames are changed by saving and restoring
only, and never below the level where a run that is balanced began (`yields_executeAll`). And
the path under construction always has the transform of the current frame (`InStep`): this is
why a restore that restores nothing does not change the path either.
-/

namespace PdfDisplay

/-! ## Paths -/

namespace PathBuilder

@[simp] theorem transform_moveTo (b : PathBuilder) (x y : Float) :
    (b.moveTo x y).transform = b.transform := rfl

/-- Drawing a segment moves the current point and leaves the matrix of the path builder alone. -/
@[simp] theorem transform_draw (b : PathBuilder) (segment : PathSegment) (target : Point) :
    (b.draw segment target).transform = b.transform := rfl

@[simp] theorem transform_ensureStart (b : PathBuilder) (x y : Float) :
    (b.ensureStart x y).transform = b.transform := by
  rw [ensureStart]
  split <;> rfl

@[simp] theorem transform_lineTo (b : PathBuilder) (x y : Float) :
    (b.lineTo x y).transform = b.transform := by
  rw [lineTo]
  split <;> rfl

@[simp] theorem transform_close (b : PathBuilder) : b.close.transform = b.transform := by
  rw [close]
  split <;> rfl

/-- Going on with a path leaves the transform for the operands to come as it is. -/
@[simp] theorem transform_step (b : PathBuilder) (s : PathStep) :
    (b.step s).transform = b.transform := by
  cases s with
  | curveFromCurrent x₂ y₂ x₃ y₃ =>
    rw [step, curveFromCurrent]
    split <;> rfl
  | _ => simp [step, curveTo, curveToEnd, rectangle]

end PathBuilder

namespace Machine

/-! ## What an instruction leaves alone -/

/-- Whether the path under construction has the transform of the current frame. -/
def InStep (machine : Machine) : Prop := machine.builder.transform = machine.state.frame.transform

/-- Whether no frame has been saved or restored between two machines, and the path has stayed in
step. -/
structure SameLevel (before after : Machine) : Prop where
  /-- The saved frames are the same. -/
  saved : after.state.saved = before.state.saved
  /-- The path is in step if it was. -/
  inStep : before.InStep → after.InStep

namespace SameLevel

theorem refl (machine : Machine) : SameLevel machine machine := ⟨rfl, id⟩

theorem trans {first second third : Machine} (h : SameLevel first second)
    (h' : SameLevel second third) : SameLevel first third :=
  ⟨h'.saved.trans h.saved, h'.inStep ∘ h.inStep⟩

end SameLevel

/-- Elementary changes touch neither the saved frames nor the transforms. -/
theorem Change.sameLevel {before after : Machine} (h : Change before after) :
    SameLevel before after := by
  cases h <;> exact ⟨rfl, id⟩

/-- **Changes leave the saved states and the level as they are**, since each of them does. -/
theorem Changes.sameLevel {before after : Machine} (h : Changes before after) :
    SameLevel before after :=
  h.of_closed .refl .trans Change.sameLevel

/-- Changes of the frame that leave the transform alone. -/
theorem sameLevel_mapFrame (machine : Machine) {change : GraphicsFrame → GraphicsFrame}
    (h : ∀ frame, (change frame).transform = frame.transform) :
    SameLevel machine (machine.mapFrame change) :=
  ⟨rfl, fun hstep => hstep.trans (h machine.state.frame).symm⟩

/-- Changing the path under construction leaves the level as it is, if the matrix of the builder is
kept in step. -/
theorem sameLevel_builder (machine : Machine) {builder : PathBuilder}
    (h : builder.transform = machine.builder.transform) :
    SameLevel machine { machine with builder } :=
  ⟨rfl, fun hstep => h.trans hstep⟩

theorem transform_setSpaceAndColor (frame : GraphicsFrame) (space : ColorSpace) (color : Color)
    (ink : Ink) : (frame.setSpaceAndColor space color ink).transform = frame.transform := by
  cases ink <;> rfl

section Effects

variable {m : Type → Type} [Monad m] [LawfulMonad m]

/-- **Instructions other than saving and restoring stay at their level.** -/
theorem yields_step_sameLevel (page : PageContext m) (index : Nat) (machine : Machine)
    {instruction : Instruction} (hsave : instruction ≠ .save) (hrestore : instruction ≠ .restore) :
    Yields (SameLevel machine) (machine.step page index instruction) := by
  -- saving and restoring apart, only a change of matrix, a color and a path step are no compound
  -- instructions
  have hcompound : ∀ {instruction}, Compound instruction →
      Yields (SameLevel machine) (machine.step page index instruction) :=
    fun h => (yields_step_changes page index machine h).mono fun _ => Changes.sameLevel
  cases instruction with
  | save => exact absurd rfl hsave
  | restore => exact absurd rfl hrestore
  | concat transform => exact .pure ⟨rfl, fun _ => rfl⟩
  | setColor ink space color =>
    exact .pure (sameLevel_mapFrame machine fun frame => transform_setSpaceAndColor frame _ _ ink)
  | setSpace ink space =>
    exact .pure (sameLevel_mapFrame machine fun frame => transform_setSpaceAndColor frame _ _ ink)
  | draw pathStep => exact .pure (sameLevel_builder machine (PathBuilder.transform_step _ _))
  | beginText => exact .pure ⟨rfl, id⟩
  | endText => exact .pure ⟨rfl, id⟩
  | style change => exact hcompound (.style change)
  | setComponents ink components => exact hcompound (.setComponents ink components)
  | setText parameter => exact hcompound (.setText parameter)
  | dropPath => exact hcompound .dropPath
  | applyParameters name => exact hcompound (.applyParameters name)
  | paint operator => exact hcompound (.paint operator)
  | text instruction => exact hcompound (.text instruction)
  | drawObject name => exact hcompound (.drawObject name)
  | drawImage entries data => exact hcompound (.drawImage entries data)

end Effects

end Machine

/-! ## Balanced operators -/

namespace Operator

/-- How many operators save a frame. -/
def saves (operators : List Operator) : Nat := operators.countP (·.name = "q")

/-- How many operators restore a frame. -/
def restores (operators : List Operator) : Nat := operators.countP (·.name = "Q")

/-- Whether operators restore as many frames as they save, and at no point have restored more
than they have saved. -/
structure Balanced (operators : List Operator) : Prop where
  /-- No beginning restores more than it saves. -/
  prefixes : ∀ front, front <+: operators → restores front ≤ saves front
  /-- As many frames are restored as are saved. -/
  total : restores operators = saves operators

/-- **Balance can be counted on the beginnings of the list**: none of them restores more than it
saves, and the whole list restores as much. -/
theorem balanced_iff_take (operators : List Operator) :
    Balanced operators ↔
      (∀ n ≤ operators.length, restores (operators.take n) ≤ saves (operators.take n)) ∧
        restores operators = saves operators := by
  constructor
  · intro h
    exact ⟨fun n _ => h.prefixes _ (List.take_prefix n operators), h.total⟩
  · rintro ⟨htake, htotal⟩
    refine ⟨fun front hfront => ?_, htotal⟩
    rw [List.prefix_iff_eq_take.mp hfront]
    exact htake _ hfront.length_le

instance (operators : List Operator) : Decidable (Balanced operators) :=
  decidable_of_iff
    ((∀ n < operators.length + 1, restores (operators.take n) ≤ saves (operators.take n)) ∧
      restores operators = saves operators) <| by
    rw [balanced_iff_take]
    simp only [Nat.lt_succ_iff]

/-- Whether operators restore the frames that they save and `depth` frames more. -/
structure Closes (depth : Nat) (operators : List Operator) : Prop where
  /-- No beginning restores more than that. -/
  prefixes : ∀ front, front <+: operators → restores front ≤ depth + saves front
  /-- All of them are restored. -/
  total : restores operators = depth + saves operators

theorem Balanced.closes {operators : List Operator} (h : Balanced operators) :
    Closes 0 operators :=
  ⟨fun front hfront => by rw [Nat.zero_add]; exact h.prefixes front hfront,
    by rw [Nat.zero_add]; exact h.total⟩

namespace Closes

variable {depth : Nat} {operator : Operator} {rest : List Operator}

/-- What an operator in front adds to the depth and takes off it, it does for every list. -/
theorem tail {next : Nat} (h : Closes depth (operator :: rest))
    (hcount : ∀ operators, restores operators + depth + saves (operator :: operators) =
      restores (operator :: operators) + next + saves operators) : Closes next rest := by
  constructor
  · intro front hfront
    have hprefix := h.prefixes (operator :: front) (List.cons_prefix_cons.mpr ⟨rfl, hfront⟩)
    have := hcount front
    omega
  · have htotal := h.total
    have := hcount rest
    omega

theorem of_save (h : Closes depth (operator :: rest)) (hname : operator.name = "q") :
    Closes (depth + 1) rest := by
  refine h.tail fun operators => ?_
  have hsaves : saves (operator :: operators) = saves operators + 1 :=
    List.countP_cons_of_pos (by simp [hname])
  have hrestores : restores (operator :: operators) = restores operators :=
    List.countP_cons_of_neg (by simp [hname])
  omega

/-- A restoring operator closes a level, so there has to be one. -/
theorem of_restore (h : Closes depth (operator :: rest)) (hname : operator.name = "Q") :
    ∃ below, depth = below + 1 ∧ Closes below rest := by
  have hcount : ∀ operators, saves (operator :: operators) = saves operators ∧
      restores (operator :: operators) = restores operators + 1 :=
    fun operators => ⟨List.countP_cons_of_neg (by simp [hname]),
      List.countP_cons_of_pos (by simp [hname])⟩
  -- the operator on its own is a beginning, and must not restore more than is open
  have hopen := h.prefixes [operator] (List.cons_prefix_cons.mpr ⟨rfl, List.nil_prefix⟩)
  obtain ⟨hsaves, hrestores⟩ := hcount []
  obtain ⟨below, rfl⟩ : ∃ below, depth = below + 1 := by
    rw [hsaves, hrestores] at hopen
    exact Nat.exists_eq_add_one.mpr (Nat.lt_of_lt_of_le (Nat.succ_pos _) hopen)
  refine ⟨below, rfl, h.tail fun operators => ?_⟩
  have := hcount operators
  omega

theorem of_other (h : Closes depth (operator :: rest)) (hsave : operator.name ≠ "q")
    (hrestore : operator.name ≠ "Q") : Closes depth rest := by
  refine h.tail fun operators => ?_
  have hsaves : saves (operator :: operators) = saves operators :=
    List.countP_cons_of_neg (by simp [hsave])
  have hrestores : restores (operator :: operators) = restores operators :=
    List.countP_cons_of_neg (by simp [hrestore])
  omega

end Closes

end Operator

/-! ## Runs -/

namespace Machine

variable {m : Type → Type} [Monad m]

/-- Saving puts a copy of the frame on the stack and changes nothing else. -/
theorem execute_save (page : PageContext m) (index : Nat) (machine : Machine) {operator : Operator}
    (h : operator.name = "q") :
    machine.execute page index operator = pure { machine with state := machine.state.save } := by
  rw [execute, Instruction.ofOperator?_save h]
  rfl

/-- Restoring takes a frame from the stack, if there is one, and gives its matrix to the path
builder. -/
theorem execute_restore (page : PageContext m) (index : Nat) (machine : Machine)
    {operator : Operator} (h : operator.name = "Q") :
    machine.execute page index operator =
      pure ({ machine with state := machine.state.restore } : Machine).syncPath := by
  rw [execute, Instruction.ofOperator?_restore h]
  rfl

variable [LawfulMonad m]

/-- Operators other than those that save and restore stay at their level. -/
theorem yields_execute_sameLevel (page : PageContext m) (index : Nat) (machine : Machine)
    {operator : Operator} (hsave : operator.name ≠ "q") (hrestore : operator.name ≠ "Q") :
    Yields (SameLevel machine) (machine.execute page index operator) := by
  rw [execute]
  split
  case h_1 instruction hread =>
    obtain ⟨hq, hQ⟩ := Instruction.savesBy_of_ofOperator? hread
    exact yields_step_sameLevel page index machine (fun h => hsave (hq.mp h))
      fun h => hrestore (hQ.mp h)
  case h_2 => exact .pure (.refl machine)

/-- Every operator keeps the path in step: its builder has the matrix of the frame before and after
it. -/
theorem yields_execute_inStep (page : PageContext m) (index : Nat) {machine : Machine}
    (hstep : machine.InStep) (operator : Operator) :
    Yields InStep (machine.execute page index operator) := by
  by_cases hsave : operator.name = "q"
  · rw [execute_save page index machine hsave]
    exact .pure hstep
  by_cases hrestore : operator.name = "Q"
  · rw [execute_restore page index machine hrestore]
    exact .pure rfl
  · have hsame := yields_execute_sameLevel page index machine hsave hrestore
    exact hsame.mono fun _ h => h.inStep hstep

/-- Every run keeps the path in step, by induction over the operators. -/
theorem yields_executeAll_inStep (page : PageContext m) (index : Nat) {machine : Machine}
    (hstep : machine.InStep) (operators : List Operator) :
    Yields InStep (machine.executeAll page index operators) := by
  induction operators generalizing index machine with
  | nil => exact .pure hstep
  | cons operator rest ih =>
    exact .bind (yields_execute_inStep page index hstep operator) fun _ h => ih (index + 1) h

/-- **A run that closes the levels above a base ends at the base**: `above` are the frames that
have been saved on top of the base in front of the run. -/
theorem yields_executeAll {base : List GraphicsFrame} (page : PageContext m) (index : Nat)
    {machine : Machine} {operators : List Operator} {above : List GraphicsFrame}
    (hsaved : machine.state.saved = above ++ base)
    (hcloses : Operator.Closes above.length operators) :
    Yields (fun after => after.state.saved = base) (machine.executeAll page index operators) := by
  induction operators generalizing index machine above with
  | nil =>
    have hempty : above = [] := List.eq_nil_of_length_eq_zero hcloses.total.symm
    refine .pure ?_
    rw [hsaved, hempty, List.nil_append]
  | cons operator rest ih =>
    by_cases hsave : operator.name = "q"
    · rw [executeAll, execute_save page index machine hsave, pure_bind]
      have habove : ({ machine with state := machine.state.save } : Machine).state.saved =
          (machine.state.frame :: above) ++ base := congrArg _ hsaved
      exact ih (index + 1) habove (hcloses.of_save hsave)
    by_cases hrestore : operator.name = "Q"
    · -- something is still open, so what is restored lies above the base
      obtain ⟨below, hlength, hrest⟩ := hcloses.of_restore hrestore
      obtain ⟨frame, above, rfl⟩ := List.exists_cons_of_length_eq_add_one hlength
      rw [executeAll, execute_restore page index machine hrestore, pure_bind]
      have hrestored : machine.state.restore.saved = above ++ base :=
        congrArg GraphicsState.saved (GraphicsState.restore_of_saved_eq_cons hsaved)
      rw [← Nat.succ.inj hlength] at hrest
      exact ih (index + 1) hrestored hrest
    · refine .bind (yields_execute_sameLevel page index machine hsave hrestore) fun after h => ?_
      exact ih (index + 1) (h.saved.trans hsaved) (hcloses.of_other hsave hrestore)

/-- **A run over two lists is a run over the first and one over the second**, which goes on counting
the operators where the first one stopped. -/
theorem executeAll_append (page : PageContext m) (index : Nat) (machine : Machine)
    (first second : List Operator) :
    machine.executeAll page index (first ++ second) =
      machine.executeAll page index first >>= fun after =>
        after.executeAll page (index + first.length) second := by
  induction first generalizing index machine with
  | nil => rw [List.nil_append, executeAll, pure_bind, List.length_nil, Nat.add_zero]
  | cons operator first ih =>
    rw [List.cons_append, executeAll, executeAll, bind_assoc, List.length_cons]
    refine bind_congr fun after => ?_
    rw [ih, Nat.add_assoc, Nat.add_comm 1]

/-! ## Machines of a page -/

/-- Whether a machine comes up in the execution of page contents: some operators, executed from
the beginning, can lead to it. -/
def Reachable (page : PageContext m) (machine : Machine) : Prop :=
  ∃ fonts operators, Possible machine (({ fonts } : Machine).executeAll page 0 operators)

/-- The path is always in step, as it is so in the first machine and every operator keeps it so. -/
theorem Reachable.inStep {page : PageContext m} {machine : Machine} (h : Reachable page machine) :
    machine.InStep := by
  obtain ⟨fonts, operators, hpossible⟩ := h
  have hfirst : InStep { fonts } := rfl
  exact hpossible InStep (yields_executeAll_inStep page 0 hfirst operators)

/-- **Restoring brings back what was saved.** A balanced run between a save and a restore leaves
the current frame and the saved ones as they were in front of the save, and the path with the
transform of that frame; a restore when nothing is saved changes nothing at all. -/
theorem restores_state (page : PageContext m) (index : Nat) {machine : Machine}
    (hreachable : Reachable page machine) {inner : List Operator}
    (hinner : Operator.Balanced inner) (saving restoring : List Operand) :
    Yields (fun after => after.state = machine.state ∧
        after.builder.transform = after.state.frame.transform)
      (machine.executeAll page index (⟨"q", saving⟩ :: (inner ++ [⟨"Q", restoring⟩]))) ∧
    (machine.state.saved = [] →
      machine.execute page index ⟨"Q", restoring⟩ = pure machine) := by
  constructor
  · rw [executeAll, execute_save page index machine rfl, pure_bind, executeAll_append]
    -- behind `q` the saved frame lies on top, below whatever the inner operators save themselves
    have hsaved : ({ machine with state := machine.state.save } : Machine).state.saved =
        [] ++ machine.state.frame :: machine.state.saved := rfl
    refine .bind (yields_executeAll page (index + 1) hsaved hinner.closes) fun after hsaved => ?_
    have hrestored := GraphicsState.restore_of_saved_eq_cons hsaved
    rw [executeAll, execute_restore page _ after rfl, pure_bind, executeAll]
    exact .pure ⟨hrestored, rfl⟩
  · intro hempty
    have hstate := GraphicsState.restore_of_saved_eq_nil hempty
    -- the builder has the matrix already, so giving it again changes nothing
    have hpath : machine.builder.setTransform machine.state.frame.transform = machine.builder := by
      rw [← hreachable.inStep]
      rfl
    rw [execute_restore page index machine rfl, hstate, syncPath, hpath]

/-- The machine in front of the first operator, and a run with a save and a restore of its own. -/
theorem restores_state_first :
    let page : PageContext Id := ⟨ObjectTable.empty.store, 792, ∅, {}⟩
    let machine : Machine := { fonts := ∅ }
    let inner : List Operator :=
      [⟨"cm", []⟩, ⟨"q", []⟩, ⟨"w", [.integer 2]⟩, ⟨"Q", []⟩, ⟨"BT", []⟩]
    Reachable page machine ∧ Operator.Balanced inner ∧
      (machine.executeAll page 0 (⟨"q", []⟩ :: (inner ++ [⟨"Q", []⟩]))).state = machine.state ∧
      machine.execute page 0 ⟨"Q", []⟩ = machine := by
  intro page machine inner
  have hreachable : Reachable page machine := ⟨∅, [], possible_pure⟩
  have hinner : Operator.Balanced inner := by decide
  obtain ⟨hrun, hrestore⟩ := restores_state page 0 hreachable hinner [] []
  exact ⟨hreachable, hinner, (possible_pure _ hrun).1, hrestore rfl⟩

end Machine

end PdfDisplay
