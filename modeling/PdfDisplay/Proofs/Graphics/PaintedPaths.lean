import PdfDisplay.Proofs.Graphics.Asides
import PdfDisplay.Proofs.Graphics.Constructions
import PdfDisplay.Proofs.Graphics.Growing
import PdfDisplay.Proofs.Graphics.Saving
import PdfDisplay.Proofs.Graphics.Trace

/-!
# Painted paths

Where a path is depends on the transforms under which it was constructed, and how it looks on the
state in which it is painted. `Construction` is what operators say about the first alone. The
machine follows it (`Machine.Follows`), through saving and restoring and through everything that
comes between two steps, and `Machine.paints_construction` says of every operator of a run which
path it paints.
-/

namespace PdfDisplay

/-- Whether an instruction neither touches the path nor sets the transform. -/
def Instruction.IsBesidePath : Instruction → Prop
  | .save | .restore | .concat _ => False
  | .draw _ | .paint _ | .dropPath => False
  | _ => True

namespace Machine

/-! ## Following a construction -/

/-- Whether a machine has constructed a path. -/
structure Follows (c : Construction) (machine : Machine) : Prop where
  /-- The path is in step. -/
  inStep : machine.InStep
  /-- The transform in force is that of the frame. -/
  transform : machine.state.frame.transform = c.transform
  /-- The saved transforms are those of the saved frames. -/
  saved : machine.state.saved.map (·.transform) = c.saved
  /-- The path is drawn. -/
  draws : machine.builder.Draws c.path

/-- Whether the path has gone on as what was said about paths says, if anything was, and nothing but
that path has been painted. -/
structure Constructs (pageHeight : Float) (event? : Option PathEvent) (before after : Machine) :
    Prop where
  /-- The path goes on as constructed. -/
  follows : ∀ c, Follows c before → Follows (event?.elim c c.step) after
  /-- What is painted is the path constructed. -/
  paths : ∀ c, Follows c before → DisplayList.paths after.items =
    DisplayList.paths before.items ++
      ((event?.bind PathEvent.painting?).bind (c.item? pageHeight before.state.frame)).toList

/-- Whether nothing has been done that concerns paths. -/
structure KeepsPath (before after : Machine) : Prop where
  /-- The path is the same. -/
  builder : after.builder = before.builder
  /-- The transform is the same. -/
  transform : after.state.frame.transform = before.state.frame.transform
  /-- The saved frames are the same. -/
  saved : after.state.saved = before.state.saved
  /-- No path is painted. -/
  paths : DisplayList.paths after.items = DisplayList.paths before.items

/-- The first machine follows the first construction: no path, and the identity for its matrix. -/
theorem follows_first (fonts : FontCache) : Follows {} { fonts } :=
  ⟨rfl, rfl, rfl, PathBuilder.draws_new _⟩

/-- An item adds its path, if it has one, behind those drawn before. -/
theorem paths_emit (machine : Machine) (item : DisplayItem) :
    DisplayList.paths (machine.emit item).items =
      DisplayList.paths machine.items ++ item.path?.toList := by
  have hitems : (machine.emit item).items = machine.items ++ [item] := List.reverse_cons
  rw [hitems, DisplayList.paths, List.filterMap_append]
  cases item <;> rfl

namespace KeepsPath

theorem refl (machine : Machine) : KeepsPath machine machine := ⟨rfl, rfl, rfl, rfl⟩

theorem trans {first second third : Machine} (h : KeepsPath first second)
    (h' : KeepsPath second third) : KeepsPath first third :=
  ⟨h'.builder.trans h.builder, h'.transform.trans h.transform, h'.saved.trans h.saved,
    h'.paths.trans h.paths⟩

theorem of_aside {index : Nat} {before after : Machine} (h : Aside index before after) :
    KeepsPath before after := by
  cases h with
  | warn => exact ⟨rfl, rfl, rfl, rfl⟩
  | emit item hitem =>
    refine ⟨rfl, rfl, rfl, ?_⟩
    rw [paths_emit, hitem, Option.toList_none, List.append_nil]
  | frame change htransform => exact ⟨rfl, htransform, rfl, rfl⟩
  | countImage => exact ⟨rfl, rfl, rfl, rfl⟩

/-- What keeps the path constructs nothing, and the construction that was followed still is. -/
theorem constructs {before after : Machine} (h : KeepsPath before after) (pageHeight : Float) :
    Constructs pageHeight none before after where
  follows c hc := {
    inStep := by
      rw [InStep, h.builder, h.transform]
      exact hc.inStep
    transform := h.transform.trans hc.transform
    saved := by
      rw [h.saved]
      exact hc.saved
    draws := by
      rw [h.builder]
      exact hc.draws }
  paths c _ := by
    rw [h.paths]
    exact (List.append_nil _).symm

end KeepsPath

/-! ## What instructions do -/

/-- **Restoring takes the matrix back on both sides**: the machine's from its stack, and the
construction's from its own. -/
theorem constructs_restore (machine : Machine) (pageHeight : Float) :
    Constructs pageHeight (some .restore) machine
      { machine with state := machine.state.restore }.syncPath where
  follows c hc := by
    rw [Option.elim_some, Construction.step, ← hc.saved]
    cases hsaved : machine.state.saved with
    | nil =>
      rw [GraphicsState.restore_of_saved_eq_nil hsaved]
      exact ⟨rfl, hc.transform, hc.saved, hc.draws.setTransform _⟩
    | cons frame saved =>
      rw [GraphicsState.restore_of_saved_eq_cons hsaved]
      exact ⟨rfl, rfl, rfl, hc.draws.setTransform _⟩
  paths _ _ := (List.append_nil _).symm

/-- **A step of a path is a step of its construction**, placed by the matrix that holds now. -/
theorem constructs_draw (machine : Machine) (pageHeight : Float) (s : PathStep) :
    Constructs pageHeight (some (.draw s)) machine
      { machine with builder := machine.builder.step s } where
  follows c hc := by
    refine ⟨(PathBuilder.transform_step _ s).trans hc.inStep, hc.transform, hc.saved, ?_⟩
    have hplaced : (fun p => c.transform.point p) = Construction.placed c.transform :=
      funext (Construction.point_eq_placed c.transform)
    have hpath : (c.step (.draw s)).path = c.path.step (Construction.placed c.transform) s :=
      Path.ofSteps_concat _ _ _ _
    have hstep := hc.draws.step s
    rw [hc.inStep, hc.transform, hplaced, ← hpath] at hstep
    exact hstep
  paths _ _ := (List.append_nil _).symm

theorem follows_reset {c : Construction} {machine : Machine} (h : Follows c machine) :
    Follows { c with steps := [] } { machine with builder := machine.builder.reset } :=
  ⟨h.inStep, h.transform, h.saved, PathBuilder.draws_new _⟩

theorem follows_emit {c : Construction} {machine : Machine} (h : Follows c machine)
    (item : DisplayItem) : Follows c (machine.emit item) :=
  ⟨h.inStep, h.transform, h.saved, h.draws⟩

/-- **Painting draws the path of the construction**, with the style of the frame, and both begin
anew. -/
theorem constructs_paint (machine : Machine) (pageHeight : Float) (painting : PaintOperator) :
    Constructs pageHeight (some (.paint painting)) machine
      (machine.paint pageHeight painting) := by
  rw [paint]
  split
  case isTrue hempty =>
    -- without a path, steps may have come that draw nothing
    refine ⟨fun c hc => ⟨hc.inStep, hc.transform, hc.saved, ?_⟩, fun c hc => ?_⟩
    · have hpath : c.path = ⟨[]⟩ := by
        rw [hc.draws.isEmpty_eq] at hempty
        exact congrArg Path.mk (List.isEmpty_iff.mp hempty)
      have hdraws := hc.draws
      rw [hpath] at hdraws
      exact hdraws
    · rw [hc.draws.isEmpty_eq] at hempty
      rw [Option.bind_some, PathEvent.painting?, Option.bind_some, Construction.item?_eq,
        if_pos hempty]
      exact (List.append_nil _).symm
  case isFalse hdrawn =>
    refine ⟨fun c hc => follows_reset (follows_emit hc _), fun c hc => ?_⟩
    have hpainted : machine.builder.painted painting =
        ⟨c.path.segments ++ if painting.closes then [.close] else []⟩ :=
      congrArg Path.mk (hc.draws.segments_painted (Bool.eq_false_iff.mpr hdrawn) painting)
    rw [hc.draws.isEmpty_eq] at hdrawn
    rw [Option.bind_some, PathEvent.painting?, Option.bind_some, Construction.item?_eq,
      if_neg hdrawn, ← hpainted]
    exact paths_emit machine _

variable {m : Type → Type} [Monad m] [LawfulMonad m]

/-- Selecting a font leaves the path and the matrices as they are. -/
theorem yields_selectFont_keepsPath (page : PageContext m) (index : Nat) (tag : String)
    (size : Float) (machine : Machine) :
    Yields (KeepsPath machine) (machine.selectFont page index tag size) := by
  refine .bind (.trivial _) fun (font, fonts) _ => .pure ?_
  rw [foldl_warn]
  exact ⟨rfl, rfl, rfl, rfl⟩

/-- Instructions that neither touch the path nor set the transform leave both alone. -/
theorem yields_step_keepsPath (page : PageContext m) (index : Nat) (machine : Machine)
    {instruction : Instruction} (h : instruction.IsBesidePath) :
    Yields (KeepsPath machine) (machine.step page index instruction) := by
  -- besides asides, three instructions leave the path alone: the two ends of a text object, and
  -- selections
  by_cases haside : instruction.IsAside
  · exact (yields_step_asides page index machine haside).mono fun _ hasides =>
      hasides.of_closed .refl .trans .of_aside
  · cases instruction with
    | save | restore | concat _ | draw _ | paint _ | dropPath => exact h.elim
    | beginText => exact .pure ⟨rfl, rfl, rfl, rfl⟩
    | endText => exact .pure ⟨rfl, rfl, rfl, rfl⟩
    | text instruction =>
      cases instruction with
      | selectFont tag size =>
        rw [step]
        split
        case isTrue => exact yields_selectFont_keepsPath page index tag size machine
        case isFalse => exact .pure (.refl machine)
      | _ => exact absurd True.intro haside
    | _ => exact absurd True.intro haside

/-- **Every instruction does to the path what it does to constructions.** -/
theorem yields_step_constructs (page : PageContext m) (index : Nat) (machine : Machine)
    (instruction : Instruction) :
    Yields (fun after =>
        Constructs page.height instruction.event? machine after ∧
        (¬ instruction.TouchesPath → after.builder.path = machine.builder.path))
      (machine.step page index instruction) := by
  cases instruction with
  | save =>
    exact .pure ⟨⟨fun c hc => ⟨hc.inStep, hc.transform,
      congrArg₂ List.cons hc.transform hc.saved, hc.draws⟩,
      fun _ _ => (List.append_nil _).symm⟩, fun _ => rfl⟩
  | restore => exact .pure ⟨constructs_restore machine page.height, fun _ => rfl⟩
  -- the new matrix is applied before the old one, so it is the left factor
  | concat transform =>
    refine .pure ⟨⟨fun c hc => ⟨rfl, ?_, hc.saved, hc.draws.setTransform _⟩,
      fun _ _ => (List.append_nil _).symm⟩, fun _ => rfl⟩
    exact (congrArg transform.andThen hc.transform).trans
      (Construction.andThen_eq_product transform c.transform)
  | draw s => exact .pure ⟨constructs_draw machine page.height s, fun h => absurd True.intro h⟩
  | paint painting =>
    exact .pure ⟨constructs_paint machine page.height painting, fun h => absurd True.intro h⟩
  | dropPath =>
    exact .pure ⟨⟨fun _ => follows_reset, fun _ _ => (List.append_nil _).symm⟩,
      fun h => absurd True.intro h⟩
  | _ =>
    exact Yields.mono (yields_step_keepsPath page index machine True.intro) fun _ h =>
      ⟨h.constructs page.height, fun _ => congrArg PathBuilder.path h.builder⟩

/-- Whether an operator does to the path what it says about paths, and leaves it alone if its name
is that of no operator of paths. -/
def PaintsConstruction (pageHeight : Float) (operator : Operator) (before after : Machine) : Prop :=
  Constructs pageHeight (PathEvent.read? operator) before after ∧
    (operator.name ∉ Operator.pathNames → after.builder.path = before.builder.path)

/-- **Each operator does to the path what the construction says**, by the cases of the instruction
that it asks for. -/
theorem yields_execute_constructs (page : PageContext m) (index : Nat) (machine : Machine)
    (operator : Operator) :
    Yields (PaintsConstruction page.height operator machine)
      (machine.execute page index operator) := by
  have hevent := PathEvent.read?_eq_bind operator
  rw [execute]
  split
  case h_1 instruction hread =>
    rw [hread, Option.bind_some] at hevent
    refine (yields_step_constructs page index machine instruction).mono fun after h => ?_
    rw [PaintsConstruction, hevent]
    exact ⟨h.1, fun hname => h.2 fun htouches =>
      hname (Instruction.mem_pathNames hread htouches)⟩
  -- an operator that asks for nothing is no event of the construction
  case h_2 hread =>
    rw [hread, Option.bind_none] at hevent
    refine .pure ?_
    rw [PaintsConstruction, hevent]
    exact ⟨(KeepsPath.refl machine).constructs page.height, fun _ => rfl⟩

/-! ## Runs -/

omit [Monad m] [LawfulMonad m] in
/-- All machines on the way follow what is constructed, by induction over the operators and the
machines that they lead to. -/
theorem Steps.follows {pageHeight : Float} {operators : List Operator} {machine : Machine}
    {machines : List Machine} (h : Steps (PaintsConstruction pageHeight) operators machine machines)
    {c : Construction} (hc : Follows c machine) {i : Nat} {passed : Machine}
    (hpassed : (machine :: machines)[i]? = some passed) :
    Follows ((operators.take i).foldl .next c) passed := by
  induction h generalizing c i with
  | nil machine =>
    cases i with
    | zero =>
      cases hpassed
      exact hc
    | succ i => cases hpassed
  | cons hstep _ ih =>
    cases i with
    | zero =>
      cases hpassed
      exact hc
    | succ i => exact ih (hstep.1.follows c hc) hpassed

/-- **A path is where it was constructed, and looks as the state in which it is painted says.** A
run ends with the last of its machines. Wherever it has come to, the path has the transform of the
current frame, which is that of the operators before, and is the one constructed by them. Each
operator adds to the paths the one that it paints, and the path under construction is left alone by
everything but path construction, painting and `n`. -/
theorem paints_construction (page : PageContext m) (fonts : FontCache)
    (operators : List Operator) :
    let first : Machine := { fonts }
    first.executeAll page 0 operators = (·.getLastD first) <$> first.trace page 0 operators ∧
    Yields (fun machines => machines.length = operators.length ∧
        (∀ i machine, (first :: machines)[i]? = some machine →
          machine.builder.transform = machine.state.frame.transform ∧
          machine.state.frame.transform = (Construction.after (operators.take i)).transform ∧
          machine.builder.path = (Construction.after (operators.take i)).path) ∧
        ∀ i operator before after, operators[i]? = some operator →
          (first :: machines)[i]? = some before → machines[i]? = some after →
          DisplayList.paths after.items = DisplayList.paths before.items ++
            ((Construction.after (operators.take i)).painted? page.height before.state.frame
              operator).toList ∧
          (operator.name ∉ Operator.pathNames → after.builder.path = before.builder.path))
      (first.trace page 0 operators) := by
  intro first
  refine ⟨executeAll_eq_trace page 0 first operators, ?_⟩
  -- what holds of each step holds of all machines along the trace, and the construction follows
  -- them
  have htrace : Yields (Steps (PaintsConstruction page.height) operators first)
      (first.trace page 0 operators) :=
    yields_trace page (fun index machine operator _ =>
      (yields_execute_constructs page index machine operator).mono fun _ h => ⟨h, True.intro⟩)
      0 True.intro operators
  refine htrace.mono fun machines hsteps => ⟨hsteps.length_eq, ?_, ?_⟩
  · intro i machine hmachine
    have hfollows := hsteps.follows (follows_first fonts) hmachine
    exact ⟨hfollows.inStep, hfollows.transform, hfollows.draws.path_eq⟩
  · intro i operator before after hoperator hbefore hafter
    have hstep := hsteps.getElem hoperator hbefore hafter
    exact ⟨hstep.1.paths _ (hsteps.follows (follows_first fonts) hbefore), hstep.2⟩

/-- A path that is begun under a transform which is restored before the path goes on under two
others, and a curve whose first control point stays where it was placed. All points lie on a page of
height 792, and the width of the line has been tripled. -/
theorem paints_construction_restored :
    let page : PageContext Id := ⟨ObjectTable.empty.store, 792, ∅, {}⟩
    let operators : List Operator :=
      [⟨"q", []⟩, ⟨"cm", [.real 2, .real 1, .real 1, .real 3, .real 10, .real 20]⟩,
        ⟨"m", [.integer 9, .real 1, .real 1]⟩, ⟨"Q", []⟩,
        ⟨"cm", [.real 0, .real 3, .real (-3), .real 0, .real 5, .real 6]⟩,
        ⟨"l", [.real 3, .real 4]⟩,
        ⟨"cm", [.real 1, .real 0, .real 0, .real 1, .real 2, .real 0]⟩,
        ⟨"v", [.real 3, .real 4, .real 5, .real 6]⟩, ⟨"w", [.real 2]⟩, ⟨"S", []⟩]
    let machines : List Machine := ({ fonts := ∅ } : Machine).trace page 0 operators
    machines.length = 10 ∧
    ∀ before after, machines[8]? = some before → machines[9]? = some after →
      DisplayList.paths after.items = DisplayList.paths before.items ++
        [{ path := ⟨[.move ⟨13, 768⟩, .line ⟨-7, 777⟩,
             .curve ⟨-7, 777⟩ ⟨-7, 771⟩ ⟨-13, 765⟩]⟩
           mode := .stroke
           rule := .nonZeroWinding
           style := { lineWidth := 6 } }] := by
  intro page operators machines
  obtain ⟨-, hyields⟩ := paints_construction page ∅ operators
  obtain ⟨hlength, -, hsteps⟩ := possible_pure (a := machines) _ hyields
  refine ⟨hlength, fun before after hbefore hafter => ?_⟩
  have htransform : machines[8]?.map (·.state.frame.transform) = some ⟨0, 3, -3, 0, 5, 12⟩ := by
    decide +kernel
  have hstyle : machines[8]?.map (·.state.frame.style) = some { lineWidth := 2 } := by
    decide +kernel
  rw [hbefore] at htransform hstyle
  have hpainted : (Construction.after (operators.take 9)).painted? 792
      { transform := ⟨0, 3, -3, 0, 5, 12⟩, style := { lineWidth := 2 } } ⟨"S", []⟩ = some
      { path := ⟨[.move ⟨13, 768⟩, .line ⟨-7, 777⟩,
          .curve ⟨-7, 777⟩ ⟨-7, 771⟩ ⟨-13, 765⟩]⟩
        mode := .stroke
        rule := .nonZeroWinding
        style := { lineWidth := 6 } } := by
    decide +kernel
  rw [← Option.some.inj htransform, ← Option.some.inj hstyle] at hpainted
  have hpaths := (hsteps 9 ⟨"S", []⟩ before after rfl
    (List.getElem?_cons_succ.trans hbefore) hafter).1
  -- of the frame only the transform and the style matter to the item
  exact hpaths.trans (congrArg (_ ++ ·.toList) hpainted)

end Machine

end PdfDisplay
