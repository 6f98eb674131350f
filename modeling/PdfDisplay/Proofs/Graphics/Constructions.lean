import PdfDisplay.DisplayList
import PdfDisplay.Proofs.Graphics.Operators
import PdfDisplay.Proofs.Path.Construction

/-!
# Constructions of paths

What a list of operators says about paths is written out here in full, without a machine: which
operands an operator reads (`PathEvent.read?`), and by their formulas where a point comes to lie
under a transform, what it is to apply one transform in front of another, and how much lengths grow.
A `Construction` collects what has been said so far: the transform in force and the saved ones, and
the steps since the path was last painted or dropped, each with the transform under which it came.

Nothing of this is taken from the operations of transforms or from the readings of instructions.
That these do the same is what the lemmas say: `PathEvent.read?_eq_bind` of the operands, and
`Construction.item?_eq` of the item that is painted.
-/

namespace PdfDisplay

/-! ## Numbers at the end of operands -/

namespace Operand

/-- The numbers that a list of operands begins with. -/
def leadingNumbers : List Operand → List Float
  | [] => []
  | x :: rest => x.number?.elim [] (· :: leadingNumbers rest)

theorem length_leadingNumbers_le (operands : List Operand) :
    (leadingNumbers operands).length ≤ operands.length := by
  induction operands with
  | nil => exact Nat.le_refl 0
  | cons x rest ih =>
    rw [leadingNumbers]
    cases x.number? with
    | none => exact Nat.zero_le _
    | some v => exact Nat.succ_le_succ ih

/-- **The last operands are numbers exactly if enough numbers lead the reversed list**, by induction
over that list: one that is no number ends both the run of leading numbers and every longer reading.
-/
theorem mapM_number?_take (count : Nat) (operands : List Operand) (h : count ≤ operands.length) :
    (operands.take count).reverse.mapM number? =
      if count ≤ (leadingNumbers operands).length then
        some ((leadingNumbers operands).take count).reverse
      else none := by
  induction operands generalizing count with
  | nil =>
    obtain rfl : count = 0 := Nat.le_zero.mp h
    rfl
  | cons x rest ih =>
    -- where no operand is taken, nothing can be wrong with the first one
    obtain _ | count := count
    · rfl
    have hrest := ih count (Nat.le_of_succ_le_succ h)
    rw [List.take_succ_cons, List.reverse_cons, List.mapM_append, hrest, leadingNumbers]
    -- an operand that is no number ends the leading numbers, and makes every longer reading fail
    cases hx : x.number? with
    | none => split <;> simp [hx]
    | some v =>
      simp only [Option.elim_some, List.length_cons, Nat.add_le_add_iff_right,
        List.take_succ_cons, List.reverse_cons]
      split <;> simp [hx]

/-- The last operands are numbers exactly if so many numbers stand at the end. -/
theorem lastNumbers?_eq (count : Nat) (operands : List Operand) :
    lastNumbers? count operands =
      if count ≤ (leadingNumbers operands.reverse).length then
        some ((leadingNumbers operands.reverse).take count).reverse
      else none := by
  have hlength : (leadingNumbers operands.reverse).length ≤ operands.length :=
    Nat.le_trans (length_leadingNumbers_le _) (Nat.le_of_eq List.length_reverse)
  rw [lastNumbers?, last?]
  split
  case isTrue hcount =>
    have hlast : operands.drop (operands.length - count) =
        (operands.reverse.take count).reverse := by
      rw [List.take_reverse, List.reverse_reverse]
    rw [hlast, ← mapM_number?_take count _ (by rwa [List.length_reverse])]
    rfl
  case isFalse hcount =>
    rw [if_neg (by omega)]
    rfl

end Operand

/-! ### Readings of numbers -/

namespace Instruction.OperandReading

theorem numbers₂_eq (make : Float → Float → Instruction) (operands : List Operand) :
    numbers₂ make operands =
      match Operand.leadingNumbers operands.reverse with
      | y :: x :: _ => some (make x y)
      | _ => .none := by
  rw [numbers₂, Operand.lastNumbers?_eq]
  rcases Operand.leadingNumbers operands.reverse with _ | ⟨y, _ | ⟨x, rest⟩⟩ <;> simp

/-- The readings of two, four and six numbers take them from the end of the operands, the last of
them last. -/
theorem numbers₄_eq (make : Float → Float → Float → Float → Instruction)
    (operands : List Operand) :
    numbers₄ make operands =
      match Operand.leadingNumbers operands.reverse with
      | w :: z :: y :: x :: _ => some (make x y z w)
      | _ => .none := by
  rw [numbers₄, Operand.lastNumbers?_eq]
  rcases Operand.leadingNumbers operands.reverse with
    _ | ⟨w, _ | ⟨z, _ | ⟨y, _ | ⟨x, rest⟩⟩⟩⟩ <;> simp

theorem numbers₆_eq (make : Float → Float → Float → Float → Float → Float → Instruction)
    (operands : List Operand) :
    numbers₆ make operands =
      match Operand.leadingNumbers operands.reverse with
      | f :: e :: d :: c :: b :: a :: _ => some (make a b c d e f)
      | _ => .none := by
  rw [numbers₆, Operand.lastNumbers?_eq]
  rcases Operand.leadingNumbers operands.reverse with
    _ | ⟨f, _ | ⟨e, _ | ⟨d, _ | ⟨c, _ | ⟨b, _ | ⟨a, rest⟩⟩⟩⟩⟩⟩ <;> simp

end Instruction.OperandReading

/-! ## What operators say about paths -/

/-- What an operator says about paths. -/
inductive PathEvent where
  /-- Saves the transform. -/
  | save
  /-- Restores the transform saved last. -/
  | restore
  /-- Applies a transform in front of the one in force. -/
  | concat (transform : Transform)
  /-- Goes on with the path. -/
  | draw (step : PathStep)
  /-- Paints the path. -/
  | paint (painting : PaintOperator)
  /-- Drops the path. -/
  | drop

namespace PathEvent

/-- What an operator says, by its name and by the numbers at the end of its operands, which stand
here with the last one first. Whatever is in front of the numbers that are read does not matter. -/
def read? (operator : Operator) : Option PathEvent :=
  let numbers := Operand.leadingNumbers operator.operands.reverse
  match operator.name with
  | "q" => some save
  | "Q" => some restore
  | "cm" =>
    match numbers with
    | f :: e :: d :: c :: b :: a :: _ => some (concat ⟨a, b, c, d, e, f⟩)
    | _ => none
  | "m" =>
    match numbers with
    | y :: x :: _ => some (draw (.move x y))
    | _ => none
  | "l" =>
    match numbers with
    | y :: x :: _ => some (draw (.line x y))
    | _ => none
  | "c" =>
    match numbers with
    | y₃ :: x₃ :: y₂ :: x₂ :: y₁ :: x₁ :: _ => some (draw (.curve x₁ y₁ x₂ y₂ x₃ y₃))
    | _ => none
  | "v" =>
    match numbers with
    | y₃ :: x₃ :: y₂ :: x₂ :: _ => some (draw (.curveFromCurrent x₂ y₂ x₃ y₃))
    | _ => none
  | "y" =>
    match numbers with
    | y₃ :: x₃ :: y₁ :: x₁ :: _ => some (draw (.curveToEnd x₁ y₁ x₃ y₃))
    | _ => none
  | "h" => some (draw .close)
  | "re" =>
    match numbers with
    | height :: width :: y :: x :: _ => some (draw (.rectangle x y width height))
    | _ => none
  | "S" => some (paint { mode := .stroke, rule := .nonZeroWinding, closes := false })
  | "s" => some (paint { mode := .stroke, rule := .nonZeroWinding, closes := true })
  | "f" => some (paint { mode := .fill, rule := .nonZeroWinding, closes := false })
  | "F" => some (paint { mode := .fill, rule := .nonZeroWinding, closes := false })
  | "f*" => some (paint { mode := .fill, rule := .evenOdd, closes := false })
  | "B" => some (paint { mode := .fillAndStroke, rule := .nonZeroWinding, closes := false })
  | "B*" => some (paint { mode := .fillAndStroke, rule := .evenOdd, closes := false })
  | "b" => some (paint { mode := .fillAndStroke, rule := .nonZeroWinding, closes := true })
  | "b*" => some (paint { mode := .fillAndStroke, rule := .evenOdd, closes := true })
  | "n" => some drop
  | _ => none

/-- What is painted with, if the path is painted. -/
def painting? : PathEvent → Option PaintOperator
  | paint painting => some painting
  | _ => none

end PathEvent

/-- The names of the operators of path construction, of painting, and `n`. -/
def Operator.pathNames : List String :=
  ["m", "l", "c", "v", "y", "h", "re", "S", "s", "f", "F", "f*", "B", "B*", "b", "b*", "n"]

namespace Instruction

/-- What an instruction says about paths. -/
def event? : Instruction → Option PathEvent
  | save => some .save
  | restore => some .restore
  | concat transform => some (.concat transform)
  | draw step => some (.draw step)
  | paint painting => some (.paint painting)
  | dropPath => some .drop
  | _ => none

/-- Whether an instruction goes on with the path, paints or drops it. -/
def TouchesPath : Instruction → Prop
  | draw _ | paint _ | dropPath => True
  | _ => False

theorem mem_pathNames_of_ofName? {name : String} {painting : PaintOperator}
    (h : PaintOperator.ofName? name = some painting) : name ∈ Operator.pathNames := by
  rw [PaintOperator.ofName?.eq_def] at h
  split at h
  case h_10 => cases h
  all_goals decide

/-- Only the operators of paths touch the path, those that draw steps as well as those that paint.
-/
theorem mem_pathNames {operator : Operator} {i : Instruction} (h : ofOperator? operator = some i)
    (htouches : i.TouchesPath) : operator.name ∈ Operator.pathNames := by
  have hnamed := isNamed_of_ofOperator? h
  cases i with
  | draw _ =>
    have hdrawing : drawing ⊆ Operator.pathNames := by decide
    exact hdrawing hnamed
  | paint painting => exact mem_pathNames_of_ofName? hnamed
  | dropPath =>
    rw [IsNamed] at hnamed
    rw [hnamed]
    decide
  | _ => exact htouches.elim

/-- Besides them, only three operators say anything about paths: those that save, restore and change
the matrix. -/
theorem mem_names_of_event? {operator : Operator} {i : Instruction} {event : PathEvent}
    (h : ofOperator? operator = some i) (hevent : i.event? = some event) :
    operator.name ∈ ["q", "Q", "cm"] ++ Operator.pathNames := by
  have hnamed := isNamed_of_ofOperator? h
  cases i with
  | save | restore | concat _ =>
    rw [IsNamed] at hnamed
    rw [hnamed]
    decide
  | draw _ | paint _ | dropPath =>
    exact List.mem_append_right _ (mem_pathNames h True.intro)
  | _ => cases hevent

end Instruction

open Instruction.OperandReading in
/-- **Instructions are read from the operands that are written out here.** -/
theorem PathEvent.read?_eq_bind (operator : Operator) :
    read? operator = (Instruction.ofOperator? operator).bind Instruction.event? := by
  obtain ⟨name, operands⟩ := operator
  rw [read?]
  dsimp only
  split
  case h_3 =>
    change _ = (transform .concat operands).bind Instruction.event?
    rw [transform, numbers₆_eq]
    split <;> rfl
  case h_4 =>
    change _ = (numbers₂ (.draw <| .move · ·) operands).bind Instruction.event?
    rw [numbers₂_eq]
    split <;> rfl
  case h_5 =>
    change _ = (numbers₂ (.draw <| .line · ·) operands).bind Instruction.event?
    rw [numbers₂_eq]
    split <;> rfl
  case h_6 =>
    change _ = (numbers₆ (.draw <| .curve · · · · · ·) operands).bind Instruction.event?
    rw [numbers₆_eq]
    split <;> rfl
  case h_7 =>
    change _ = (numbers₄ (.draw <| .curveFromCurrent · · · ·) operands).bind Instruction.event?
    rw [numbers₄_eq]
    split <;> rfl
  case h_8 =>
    change _ = (numbers₄ (.draw <| .curveToEnd · · · ·) operands).bind Instruction.event?
    rw [numbers₄_eq]
    split <;> rfl
  case h_10 =>
    change _ = (numbers₄ (.draw <| .rectangle · · · ·) operands).bind Instruction.event?
    rw [numbers₄_eq]
    split <;> rfl
  case h_21 =>
    cases hread : Instruction.ofOperator? ⟨name, operands⟩ with
    | none => rfl
    | some i =>
      cases hevent : i.event? with
      | none => exact hevent.symm
      | some event =>
        -- the name is none of those above, which are all that say anything
        have hname := Instruction.mem_names_of_event? hread hevent
        simp_all [Operator.pathNames]
  -- what reads no operands
  all_goals rfl

/-! ## Constructions -/

/-- The path that operators construct, without a machine. -/
structure Construction where
  /-- The transform in force. -/
  transform : Transform := ⟨1, 0, 0, 1, 0, 0⟩
  /-- The transforms that are saved, the latest first. -/
  saved : List Transform := []
  /-- The steps of the path, each with the transform in force when it came. -/
  steps : List (Transform × PathStep) := []

namespace Construction

/-- The transform that does what `t` does and then what `u` does: the product of their matrices. -/
def product (t u : Transform) : Transform :=
  ⟨t.a * u.a + t.b * u.c, t.a * u.b + t.b * u.d,
    t.c * u.a + t.d * u.c, t.c * u.b + t.d * u.d,
    t.e * u.a + t.f * u.c + u.e, t.e * u.b + t.f * u.d + u.f⟩

/-- Where a point comes to lie: the row `[x y 1]` times the matrix. -/
def placed (t : Transform) (p : Point) : Point :=
  ⟨t.a * p.x + t.c * p.y + t.e, t.b * p.x + t.d * p.y + t.f⟩

/-- A point of a page with its origin at the bottom left, seen from the top left. -/
def upsideDown (pageHeight : Float) (p : Point) : Point := placed ⟨1, 0, 0, -1, 0, pageHeight⟩ p

/-- How much lengths grow: the root of the absolute determinant. -/
def lengthScale (t : Transform) : Float := (t.a * t.d - t.b * t.c).abs.sqrt

/-- Applying one matrix behind another is multiplying the two, entry by entry as the product is
written out. -/
theorem andThen_eq_product (t u : Transform) : t.andThen u = product t u := rfl

/-- A mapped point has the two coordinates that are written out. -/
theorem point_eq_placed (t : Transform) (p : Point) : t.point p = placed t p := rfl

theorem flip_point_eq_upsideDown (pageHeight : Float) (p : Point) :
    (Transform.flip pageHeight).point p = upsideDown pageHeight p := rfl

/-- The scale of lengths is the square root of the size of the determinant, however large or small
that is. -/
theorem meanScale_eq_lengthScale (t : Transform) : t.meanScale = lengthScale t := rfl

/-- What is constructed behind something that is said about paths. -/
def step (c : Construction) : PathEvent → Construction
  | .save => { c with saved := c.transform :: c.saved }
  | .restore =>
    match c.saved with
    | [] => c
    | transform :: saved => { c with transform, saved }
  | .concat transform => { c with transform := product transform c.transform }
  | .draw step => { c with steps := c.steps ++ [(c.transform, step)] }
  | .paint _ | .drop => { c with steps := [] }

/-- What is constructed behind an operator. -/
def next (c : Construction) (operator : Operator) : Construction :=
  (PathEvent.read? operator).elim c c.step

/-- What is constructed behind operators. -/
def after (operators : List Operator) : Construction := operators.foldl next {}

/-- The path, every operand placed by the transform that was in force for its step. -/
def path (c : Construction) : Path := .ofSteps placed c.steps

/-- The item of the path where it is painted, if there is a path. From the frame come the style and
the scale of its lengths, and the page only turns the points upside down. -/
def item? (c : Construction) (pageHeight : Float) (frame : GraphicsFrame)
    (painting : PaintOperator) : Option PathItem :=
  let onPage : Path := .ofSteps (fun t p => upsideDown pageHeight (placed t p)) c.steps
  let scale := lengthScale frame.transform
  if onPage.segments.isEmpty then none
  else some {
    path := ⟨onPage.segments ++ if painting.closes then [.close] else []⟩
    mode := painting.mode
    rule := painting.rule
    style := { frame.style with
      lineWidth := frame.style.lineWidth * scale
      dash := ⟨frame.style.dash.lengths.map (· * scale), frame.style.dash.phase * scale⟩ } }

/-- The item that an operator paints, if it paints and there is a path. -/
def painted? (c : Construction) (pageHeight : Float) (frame : GraphicsFrame) (operator : Operator) :
    Option PathItem :=
  ((PathEvent.read? operator).bind PathEvent.painting?).bind (c.item? pageHeight frame)

/-- What is painted is the path, upside down, and the style with its lengths scaled. -/
theorem item?_eq (c : Construction) (pageHeight : Float) (frame : GraphicsFrame)
    (painting : PaintOperator) :
    c.item? pageHeight frame painting =
      if c.path.segments.isEmpty then none
      else some (.ofPainted ⟨c.path.segments ++ if painting.closes then [.close] else []⟩ painting
        frame.style frame.transform pageHeight) := by
  have hpage : Path.ofSteps (fun t p => upsideDown pageHeight (placed t p)) c.steps =
      c.path.map (Transform.flip pageHeight) := by
    rw [path, Path.map_ofSteps]
    simp only [flip_point_eq_upsideDown]
  have hclosing : ((if painting.closes then [.close] else []) : List PathSegment).map
      (·.map (Transform.flip pageHeight)) = if painting.closes then [.close] else [] := by
    split <;> rfl
  rw [item?, hpage, PathItem.ofPainted, Path.map, Path.map, List.map_append, hclosing,
    List.isEmpty_map, meanScale_eq_lengthScale]
  rfl

end Construction

end PdfDisplay
