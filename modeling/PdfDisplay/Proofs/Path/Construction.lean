import Mathlib.Data.List.Induction
import PdfDisplay.Graphics.Instruction

/-!
# Paths from their construction steps

What a step adds to a path is said here without a builder: by the path drawn so far and by where the
operands of the step are placed. `Path.ofSteps` puts a path together in that way, from steps that
each come with a transform of their own.

A builder draws the same (`PathBuilder.Draws.step`), and it does not matter whether the operands are
sent on to the page before the path is put together or behind it (`Path.map_ofSteps`).
-/

namespace PdfDisplay

/-! ## Where a path has come to -/

/-- The point that a move goes to. -/
def PathSegment.moved? : PathSegment → Option Point
  | .move p => some p
  | _ => none

namespace Path

/-- Where the last subpath began: where the last move went. -/
def start? (path : Path) : Option Point := path.segments.reverse.findSome? PathSegment.moved?

/-- Where a path has come to: the end of its last segment, and behind a close the start of the
subpath. -/
def current? (path : Path) : Option Point :=
  path.segments.getLast?.bind fun
    | .move p => some p
    | .line p => some p
    | .curve _ _ p => some p
    | .close => path.start?

/-- The path with a further segment. -/
def add (path : Path) (segment : PathSegment) : Path := ⟨path.segments ++ [segment]⟩

/-- The subpath that is open starts at the last point that was moved to. -/
theorem start?_add (path : Path) (segment : PathSegment) :
    (path.add segment).start? = segment.moved?.or path.start? := by
  rw [start?, add, List.reverse_concat, List.findSome?_cons]
  cases segment <;> rfl

/-- The current point is the end of the last segment, or the start of the subpath that was closed.
-/
theorem current?_add (path : Path) (segment : PathSegment) :
    (path.add segment).current? =
      match segment with
      | .move p => some p
      | .line p => some p
      | .curve _ _ p => some p
      | .close => path.start? := by
  rw [current?, start?_add, add, List.getLast?_concat]
  cases segment <;> rfl

theorem start?_map (t : Transform) (path : Path) :
    (path.map t).start? = path.start?.map t.point := by
  rw [start?, map, ← List.map_reverse, List.findSome?_map, start?, List.map_findSome?]
  congr 1
  funext segment
  cases segment <;> rfl

theorem current?_map (t : Transform) (path : Path) :
    (path.map t).current? = path.current?.map t.point := by
  rw [current?, start?_map, map, List.getLast?_map, current?]
  cases path.segments.getLast? with
  | none => rfl
  | some segment => cases segment <;> rfl

/-- A move that begins the first subpath, if there is none. -/
def opening (path : Path) (p : Point) : List PathSegment :=
  if path.current?.isSome then [] else [.move p]

end Path

/-! ## Steps -/

/-- The segments that a step adds to a path; `place` says where its operands are. -/
def PathStep.segments (place : Point → Point) (path : Path) : PathStep → List PathSegment
  | .move x y => [.move (place ⟨x, y⟩)]
  | .line x y => if path.current?.isSome then [.line (place ⟨x, y⟩)] else [.move (place ⟨x, y⟩)]
  | .curve x₁ y₁ x₂ y₂ x₃ y₃ =>
    path.opening (place ⟨x₁, y₁⟩) ++ [.curve (place ⟨x₁, y₁⟩) (place ⟨x₂, y₂⟩) (place ⟨x₃, y₃⟩)]
  -- the current point is where it was placed before, whatever the transform is now
  | .curveFromCurrent x₂ y₂ x₃ y₃ =>
    path.current?.elim [] fun p => [.curve p (place ⟨x₂, y₂⟩) (place ⟨x₃, y₃⟩)]
  | .curveToEnd x₁ y₁ x₃ y₃ =>
    path.opening (place ⟨x₁, y₁⟩) ++ [.curve (place ⟨x₁, y₁⟩) (place ⟨x₃, y₃⟩) (place ⟨x₃, y₃⟩)]
  | .close => if path.segments.isEmpty then [] else [.close]
  | .rectangle x y width height =>
    [.move (place ⟨x, y⟩), .line (place ⟨x + width, y⟩), .line (place ⟨x + width, y + height⟩),
      .line (place ⟨x, y + height⟩), .close]

namespace Path

/-- The path with the segments of a step. -/
def step (place : Point → Point) (path : Path) (s : PathStep) : Path :=
  ⟨path.segments ++ s.segments place path⟩

/-- The path that steps draw, each with the transform in force when it came; `place` says where the
operands of a step under a transform are. -/
def ofSteps (place : Transform → Point → Point) (steps : List (Transform × PathStep)) : Path :=
  steps.foldl (fun path (t, s) => path.step (place t) s) ⟨[]⟩

/-- A path of steps grows by the last of them, placed by its own matrix. -/
theorem ofSteps_concat (place : Transform → Point → Point) (steps : List (Transform × PathStep))
    (t : Transform) (s : PathStep) :
    ofSteps place (steps ++ [(t, s)]) = (ofSteps place steps).step (place t) s :=
  List.foldl_append ..

/-- **Mapping a path maps the steps that follow**, as each step is placed before it is drawn. -/
theorem map_step (t : Transform) (place : Point → Point) (path : Path) (s : PathStep) :
    (path.step place s).map t = (path.map t).step (fun p => t.point (place p)) s := by
  have hopening (p : Point) :
      (path.opening p).map (·.map t) = (path.map t).opening (t.point p) := by
    rw [opening, opening, current?_map, Option.isSome_map]
    split <;> rfl
  have hsegments : (s.segments place path).map (·.map t) =
      s.segments (fun p => t.point (place p)) (path.map t) := by
    -- one case per construction operator; only whether a point is current is asked
    cases s with
    | move x y => rfl
    | line x y =>
      rw [PathStep.segments, PathStep.segments, current?_map, Option.isSome_map]
      split <;> rfl
    | curve x₁ y₁ x₂ y₂ x₃ y₃ =>
      rw [PathStep.segments, List.map_append, hopening]
      rfl
    | curveFromCurrent x₂ y₂ x₃ y₃ =>
      rw [PathStep.segments, PathStep.segments, current?_map]
      cases path.current? <;> rfl
    | curveToEnd x₁ y₁ x₃ y₃ =>
      rw [PathStep.segments, List.map_append, hopening]
      rfl
    | close =>
      rw [PathStep.segments, PathStep.segments, map, List.isEmpty_map]
      split <;> rfl
    | rectangle x y width height => rfl
  rw [step, map, List.map_append, hsegments]
  rfl

/-- **The operands may be sent on before the path is put together or behind it.** -/
theorem map_ofSteps (u : Transform) (place : Transform → Point → Point)
    (steps : List (Transform × PathStep)) :
    (ofSteps place steps).map u = ofSteps (fun t p => u.point (place t p)) steps := by
  induction steps using List.reverseRecOn with
  | nil => rfl
  | append_singleton steps recorded ih =>
    rw [ofSteps_concat, map_step, ih, ofSteps_concat]

end Path

/-! ## Builders -/

namespace PathBuilder

/-- Whether a builder has drawn a path and knows where it has come to. The path begins with a
move. -/
structure Draws (b : PathBuilder) (path : Path) : Prop where
  /-- The path is the one drawn. -/
  path_eq : b.path = path
  /-- The current point is the one of the path. -/
  current : b.current? = path.current?
  /-- The start of the subpath is the one of the path. -/
  start : b.start? = path.start?
  /-- As soon as anything is drawn, a subpath has begun. -/
  begun : path.segments ≠ [] → path.start?.isSome

namespace Draws

variable {b : PathBuilder} {path : Path} (h : b.Draws path)

include h

theorem isEmpty_eq : b.isEmpty = path.segments.isEmpty := by
  rw [← h.path_eq, PathBuilder.path, isEmpty, List.isEmpty_reverse]

/-- Another transform does not matter to what is drawn: the points of the path have been placed
already. -/
theorem setTransform (transform : Transform) : (b.setTransform transform).Draws path :=
  ⟨h.path_eq, h.current, h.start, h.begun⟩

theorem moveTo (x y : Float) : (b.moveTo x y).Draws (path.add (.move (b.place x y))) where
  path_eq := by
    rw [← h.path_eq]
    exact congrArg Path.mk List.reverse_cons
  current := by
    rw [Path.current?_add]
    rfl
  start := by
    rw [Path.start?_add]
    rfl
  begun _ := by
    rw [Path.start?_add]
    rfl

/-- A segment that begins no subpath and is no close. -/
theorem draw (hcurrent : b.current?.isSome) {segment : PathSegment} {target : Point}
    (hmoved : segment.moved? = none) (htarget : (path.add segment).current? = some target) :
    (b.draw segment target).Draws (path.add segment) where
  path_eq := by
    rw [← h.path_eq]
    exact congrArg Path.mk List.reverse_cons
  current := htarget.symm
  start := by
    rw [Path.start?_add, hmoved, Option.none_or]
    exact h.start
  begun _ := by
    have hsegments : path.segments ≠ [] := by
      intro hempty
      rw [h.current, Path.current?, hempty] at hcurrent
      cases hcurrent
    rw [Path.start?_add, hmoved, Option.none_or]
    exact h.begun hsegments

theorem line (hcurrent : b.current?.isSome) (p : Point) :
    (b.draw (.line p) p).Draws (path.add (.line p)) :=
  h.draw hcurrent rfl (Path.current?_add _ _)

theorem curve (hcurrent : b.current?.isSome) (p q r : Point) :
    (b.draw (.curve p q r) r).Draws (path.add (.curve p q r)) :=
  h.draw hcurrent rfl (Path.current?_add _ _)

theorem close (hdrawn : b.isEmpty = false) : b.close.Draws (path.add .close) := by
  have hsegments : path.segments ≠ [] := by
    rw [h.isEmpty_eq] at hdrawn
    exact List.isEmpty_eq_false_iff.mp hdrawn
  obtain ⟨start, hstart⟩ := Option.isSome_iff_exists.mp (h.begun hsegments)
  rw [PathBuilder.close, hdrawn, if_neg Bool.false_ne_true]
  refine ⟨?_, ?_, ?_, fun _ => ?_⟩
  · rw [← h.path_eq]
    exact congrArg Path.mk List.reverse_cons
  · rw [Path.current?_add, hstart]
    exact congrArg (Option.orElse · _) (h.start.trans hstart)
  · rw [Path.start?_add]
    exact h.start
  · rw [Path.start?_add, hstart]
    rfl

/-- A subpath is begun if there is no current point. -/
theorem ensureStart (x y : Float) :
    ∃ begun : Path, (b.ensureStart x y).Draws begun ∧ (b.ensureStart x y).current?.isSome ∧
      begun.segments = path.segments ++ path.opening (b.place x y) := by
  rw [PathBuilder.ensureStart, Path.opening, ← h.current]
  split
  case isTrue hcurrent => exact ⟨path, h, hcurrent, (List.append_nil _).symm⟩
  case isFalse => exact ⟨_, h.moveTo x y, rfl, rfl⟩

/-- A rectangle is drawn as its definition says, by a move, three lines and a closing. -/
theorem rectangle (x y width height : Float) :
    (b.rectangle x y width height).Draws
      (path.step (fun p => b.transform.point p) (.rectangle x y width height)) := by
  have hmove := h.moveTo x y
  -- behind the move there always is a current point
  have hfirst := hmove.line rfl (b.place (x + width) y)
  have hsecond := hfirst.line rfl (b.place (x + width) (y + height))
  have hthird := hsecond.line rfl (b.place x (y + height))
  have hclose := hthird.close rfl
  simp only [Path.add, List.append_assoc, List.cons_append, List.nil_append] at hclose
  exact hclose

/-- **A builder draws what the steps add to the path.** -/
theorem step (s : PathStep) :
    (b.step s).Draws (path.step (fun p => b.transform.point p) s) := by
  cases s with
  | move x y => exact h.moveTo x y
  | line x y =>
    rw [PathBuilder.step, PathBuilder.lineTo, Path.step, PathStep.segments, ← h.current]
    split
    case isTrue hcurrent => exact h.line hcurrent _
    case isFalse => exact h.moveTo x y
  -- a curve without a current point first begins a subpath at its first control point
  | curve x₁ y₁ x₂ y₂ x₃ y₃ =>
    obtain ⟨begun, hbegun, hcurrent, hsegments⟩ := h.ensureStart x₁ y₁
    rw [Path.step, PathStep.segments, ← List.append_assoc]
    exact hsegments ▸ hbegun.curve hcurrent _ _ _
  | curveFromCurrent x₂ y₂ x₃ y₃ =>
    rw [PathBuilder.step, PathBuilder.curveFromCurrent, Path.step, PathStep.segments, ← h.current]
    split
    case h_1 p hcurrent =>
      rw [hcurrent]
      exact h.curve (Option.isSome_of_eq_some hcurrent) _ _ _
    case h_2 hcurrent =>
      rw [hcurrent, Option.elim_none, List.append_nil]
      exact h
  | curveToEnd x₁ y₁ x₃ y₃ =>
    obtain ⟨begun, hbegun, hcurrent, hsegments⟩ := h.ensureStart x₁ y₁
    rw [Path.step, PathStep.segments, ← List.append_assoc]
    exact hsegments ▸ hbegun.curve hcurrent _ _ _
  | close =>
    rw [PathBuilder.step, Path.step, PathStep.segments, ← h.isEmpty_eq]
    split
    case isTrue hempty =>
      rw [PathBuilder.close, if_pos hempty, List.append_nil]
      exact h
    case isFalse hdrawn => exact h.close (Bool.eq_false_iff.mpr hdrawn)
  | rectangle x y width height => exact h.rectangle x y width height

end Draws

/-- A new builder draws the empty path. -/
theorem draws_new (transform : Transform) : (new transform).Draws ⟨[]⟩ :=
  ⟨rfl, rfl, rfl, fun h => absurd rfl h⟩

/-- The path that is painted, closed if the operator asks for it. -/
theorem Draws.segments_painted {b : PathBuilder} {path : Path} (h : b.Draws path)
    (hdrawn : b.isEmpty = false) (operator : PaintOperator) :
    (b.painted operator).segments =
      path.segments ++ if operator.closes then [.close] else [] := by
  rw [painted]
  split
  case isTrue => rw [(h.close hdrawn).path_eq, Path.add]
  case isFalse => rw [h.path_eq, List.append_nil]

end PathBuilder

end PdfDisplay
