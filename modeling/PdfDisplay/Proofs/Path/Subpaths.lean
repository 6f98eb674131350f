import PdfDisplay.Page.Content
import PdfDisplay.Proofs.Graphics.PaintedPaths

/-!
# Paths begin with a move

A builder knows where its path has come to, whatever it is called with (`PathBuilder.Draws.call`),
and the path, as soon as there is one, begins with a move. So splitting a path in front of its moves
loses nothing and gives subpaths, each of which has its one move in front
(`Path.BeginsWithMove.splits`).

Painting where nothing is drawn gives the path without segments. The machine does not paint there:
all paths of a display list have a move in front (`Machine.yields_executeAll_movesFirst`).
-/

namespace PdfDisplay

/-! ## Subpaths -/

/-- Whether segments are a subpath: a move, and behind it no other. -/
def PathSegment.IsSubpath (part : List PathSegment) : Prop :=
  ∃ start rest, part = .move start :: rest ∧ ∀ segment ∈ rest, segment.isMove = false

theorem PathSegment.IsSubpath.concat {part : List PathSegment} (h : IsSubpath part)
    {segment : PathSegment} (hsegment : segment.isMove = false) :
    IsSubpath (part ++ [segment]) := by
  obtain ⟨start, rest, rfl, hrest⟩ := h
  refine ⟨start, rest ++ [segment], rfl, ?_⟩
  exact List.forall_mem_append.mpr ⟨hrest, List.forall_mem_singleton.mpr hsegment⟩

namespace Path

open PathSegment (IsSubpath)

/-- Splitting loses no segment; those read of a subpath stand in front. -/
theorem flatten_splitFrom (done segments : List PathSegment) :
    (splitFrom done segments).flatten = done.reverse ++ segments := by
  induction segments generalizing done with
  | nil => cases done <;> simp [splitFrom]
  | cons segment rest ih =>
    rw [splitFrom]
    split
    case isTrue => rw [List.flatten_cons, ih, List.reverse_singleton, List.singleton_append]
    case isFalse => rw [ih, List.reverse_cons, List.append_assoc, List.singleton_append]

/-- Behind the beginning of a subpath there are subpaths only. -/
theorem isSubpath_of_mem_splitFrom {done segments : List PathSegment}
    (hdone : IsSubpath done.reverse) : ∀ part ∈ splitFrom done segments, IsSubpath part := by
  have hne : done.isEmpty = false := by
    obtain ⟨start, rest, hsubpath, -⟩ := hdone
    cases done with
    | nil => cases hsubpath
    | cons => rfl
  -- `done` is what was read since the last move, so it is a subpath throughout
  induction segments generalizing done with
  | nil =>
    rw [splitFrom, hne, if_neg Bool.false_ne_true]
    exact List.forall_mem_singleton.mpr hdone
  | cons segment rest ih =>
    rw [splitFrom, hne, Bool.not_false, Bool.and_true]
    split
    case isTrue hmove =>
      have hsingle : IsSubpath [segment].reverse := by
        cases segment with
        | move start => exact ⟨start, [], rfl, List.forall_mem_nil _⟩
        | _ => cases hmove
      exact List.forall_mem_cons.mpr ⟨hdone, ih hsingle rfl⟩
    case isFalse hmove =>
      refine ih ?_ rfl
      rw [List.reverse_cons]
      exact hdone.concat (Bool.eq_false_iff.mpr hmove)

/-- Whether a path has a move in front. -/
def MovesFirst (path : Path) : Prop := ∃ start rest, path.segments = .move start :: rest

/-- Whether splitting a path in front of its moves loses nothing and gives subpaths. -/
structure Splits (path : Path) : Prop where
  /-- The subpaths one after another are the path. -/
  flatten : path.subpaths.flatten = path.segments
  /-- Each of them has one move, which stands in front. -/
  isSubpath : ∀ part ∈ path.subpaths, IsSubpath part

/-- Whether a path begins with a move as soon as it begins. -/
def BeginsWithMove (path : Path) : Prop := path.segments ≠ [] → path.MovesFirst

/-- **A path that begins with a move splits into subpaths**, each a move and what is drawn from it.
-/
theorem BeginsWithMove.splits {path : Path} (h : path.BeginsWithMove) : path.Splits where
  flatten := flatten_splitFrom [] path.segments
  isSubpath := by
    rw [subpaths]
    cases hsegments : path.segments with
    | nil => exact List.forall_mem_nil _
    | cons segment rest =>
      obtain ⟨start, rest', hfirst⟩ := h (hsegments ▸ List.cons_ne_nil segment rest)
      obtain ⟨rfl, rfl⟩ := List.cons.inj (hsegments.symm.trans hfirst)
      have hdone : IsSubpath [PathSegment.move start].reverse :=
        ⟨start, [], rfl, List.forall_mem_nil _⟩
      have hsplit : splitFrom [] (.move start :: rest) = splitFrom [.move start] rest := rfl
      rw [hsplit]
      exact isSubpath_of_mem_splitFrom hdone

theorem MovesFirst.append {path : Path} (h : path.MovesFirst) (more : List PathSegment) :
    MovesFirst ⟨path.segments ++ more⟩ := by
  obtain ⟨start, rest, hsegments⟩ := h
  exact ⟨start, rest ++ more, congrArg (· ++ more) hsegments⟩

/-- Where there is no path a step begins one with a move, or adds nothing. -/
theorem beginsWithMove_segments (place : Point → Point) (s : PathStep) :
    BeginsWithMove ⟨s.segments place ⟨[]⟩⟩ := by
  intro hsegments
  cases s with
  | curveFromCurrent | close => exact absurd rfl hsegments
  | _ => exact ⟨_, _, rfl⟩

/-- A step keeps a path beginning with a move, as a step that needs a start makes one. -/
theorem BeginsWithMove.step {path : Path} (h : path.BeginsWithMove) (place : Point → Point)
    (s : PathStep) : (path.step place s).BeginsWithMove := by
  by_cases hempty : path.segments = []
  · obtain rfl : path = ⟨[]⟩ := congrArg Path.mk hempty
    exact beginsWithMove_segments place s
  · exact fun _ => (h hempty).append _

theorem beginsWithMove_ofSteps (place : Transform → Point → Point)
    (steps : List (Transform × PathStep)) : (ofSteps place steps).BeginsWithMove := by
  induction steps using List.reverseRecOn with
  | nil => exact fun h => absurd rfl h
  | append_singleton steps recorded ih =>
    rw [ofSteps_concat]
    exact ih.step _ _

end Path

/-! ## Calls of a builder -/

namespace PathBuilder

open PdfDisplay.Path (BeginsWithMove MovesFirst)

/-- What a builder can be called with. -/
inductive Call where
  /-- A step of construction. -/
  | step (s : PathStep)
  /-- Another transform. -/
  | setTransform (transform : Transform)
  /-- The end of the path, which is not painted. -/
  | endPath
  /-- A painting operator, which takes the path. -/
  | paint (operator : PaintOperator)

/-- The builder behind a call. -/
def call (b : PathBuilder) : Call → PathBuilder
  | .step s => b.step s
  | .setTransform transform => b.setTransform transform
  | .endPath => b.reset
  | .paint _ => b.reset

/-- The builder behind some calls. -/
def callAll (b : PathBuilder) (calls : List Call) : PathBuilder := calls.foldl call b

variable {b : PathBuilder} {path : Path}

/-- **A builder draws a path that begins with a move**, whatever it is called with. -/
theorem Draws.call (h : b.Draws path) (hpath : path.BeginsWithMove) (c : Call) :
    ∃ path', (b.call c).Draws path' ∧ path'.BeginsWithMove := by
  have hnew : (⟨[]⟩ : Path).BeginsWithMove := fun h => absurd rfl h
  cases c with
  | step s => exact ⟨_, h.step s, hpath.step _ s⟩
  | setTransform transform => exact ⟨path, h.setTransform transform, hpath⟩
  | endPath => exact ⟨⟨[]⟩, draws_new _, hnew⟩
  | paint operator => exact ⟨⟨[]⟩, draws_new _, hnew⟩

/-- **Whatever is called, the builder draws a path that begins with a move**, by induction over the
calls. -/
theorem Draws.callAll (h : b.Draws path) (hpath : path.BeginsWithMove) (calls : List Call) :
    ∃ path', (b.callAll calls).Draws path' ∧ path'.BeginsWithMove := by
  induction calls generalizing b path with
  | nil => exact ⟨path, h, hpath⟩
  | cons c calls ih =>
    obtain ⟨path', h', hpath'⟩ := h.call hpath c
    exact ih h' hpath'

theorem Draws.start?_eq_none_iff (h : b.Draws path) : b.start? = none ↔ path.segments = [] := by
  rw [h.start]
  constructor
  · intro hnone
    by_contra hsegments
    have hbegun := h.begun hsegments
    rw [hnone] at hbegun
    cases hbegun
  · intro hsegments
    rw [Path.start?, hsegments]
    rfl

theorem Draws.current?_eq_none_iff (h : b.Draws path) :
    b.current? = none ↔ path.segments = [] := by
  rw [h.current]
  constructor
  · intro hnone
    by_contra hsegments
    have hbegun := h.begun hsegments
    rw [Path.current?, List.getLast?_eq_some_getLast hsegments, Option.bind_some] at hnone
    -- only a close has no end of its own, and it goes back to where the subpath began
    split at hnone
    case h_4 =>
      rw [hnone] at hbegun
      cases hbegun
    all_goals cases hnone
  · intro hsegments
    rw [Path.current?, hsegments]
    rfl

theorem Draws.segments_painted_eq_nil_iff (h : b.Draws path) (operator : PaintOperator) :
    (b.painted operator).segments = [] ↔ path.segments = [] := by
  cases hempty : b.isEmpty with
  | true =>
    have hnil : path.segments = [] := List.isEmpty_iff.mp (h.isEmpty_eq ▸ hempty)
    have hpainted : b.painted operator = b.path := by
      rw [painted, PathBuilder.close, if_pos hempty, ite_self]
    rw [hpainted, h.path_eq]
  | false =>
    rw [h.segments_painted hempty operator, List.append_eq_nil_iff, and_iff_left_iff_imp]
    intro hnil
    rw [h.isEmpty_eq, hnil] at hempty
    cases hempty

/-- Painting may close the path, which keeps its beginning. -/
theorem Draws.beginsWithMove_painted (h : b.Draws path) (hpath : path.BeginsWithMove)
    (operator : PaintOperator) : (b.painted operator).BeginsWithMove := by
  intro hpainted
  have hsegments : path.segments ≠ [] := by rwa [ne_eq, ← h.segments_painted_eq_nil_iff operator]
  have hdrawn : b.isEmpty = false := by
    rw [h.isEmpty_eq]
    exact List.isEmpty_eq_false_iff.mpr hsegments
  obtain ⟨start, rest, hmove⟩ := (hpath hsegments).append (if operator.closes then [.close] else [])
  exact ⟨start, rest, (h.segments_painted hdrawn operator).trans hmove⟩

end PathBuilder

/-! ## Paths of a page -/

/-- The path of an item that is painted begins with a move or is empty. -/
theorem Construction.movesFirst_of_item? {c : Construction} {pageHeight : Float}
    {frame : GraphicsFrame} {painting : PaintOperator} {item : PathItem}
    (h : c.item? pageHeight frame painting = some item) : item.path.MovesFirst := by
  rw [item?] at h
  split at h
  case isTrue => cases h
  case isFalse hdrawn =>
    cases h
    have hdrawn := List.isEmpty_eq_false_iff.mp (Bool.eq_false_iff.mpr hdrawn)
    exact (Path.beginsWithMove_ofSteps _ _ hdrawn).append _

namespace Machine

open PdfDisplay.Path (MovesFirst)

/-- Whether a machine follows a construction, and all paths that it has painted have a move in
front. -/
def PaintsMovesFirst (machine : Machine) : Prop :=
  (∃ c, Follows c machine) ∧ ∀ item ∈ DisplayList.paths machine.items, item.path.MovesFirst

variable {m : Type → Type} [Monad m] [LawfulMonad m]

theorem yields_execute_movesFirst (page : PageContext m) (index : Nat) {machine : Machine}
    (h : machine.PaintsMovesFirst) (operator : Operator) :
    Yields PaintsMovesFirst (machine.execute page index operator) := by
  obtain ⟨⟨c, hc⟩, hpaths⟩ := h
  refine (yields_execute_constructs page index machine operator).mono fun after ⟨hstep, _⟩ => ?_
  refine ⟨⟨_, hstep.follows c hc⟩, ?_⟩
  rw [hstep.paths c hc]
  refine List.forall_mem_append.mpr ⟨hpaths, fun item hitem => ?_⟩
  obtain ⟨painting, -, hpainted⟩ := Option.bind_eq_some_iff.mp (Option.mem_toList.mp hitem)
  exact Construction.movesFirst_of_item? hpainted

/-- **Every path that a run paints begins with a move or is empty**, by induction over the
operators. -/
theorem yields_executeAll_movesFirst (page : PageContext m) (index : Nat) {machine : Machine}
    (h : machine.PaintsMovesFirst) (operators : List Operator) :
    Yields PaintsMovesFirst (machine.executeAll page index operators) := by
  induction operators generalizing index machine with
  | nil => exact .pure h
  | cons operator rest ih =>
    exact .bind (yields_execute_movesFirst page index h operator) fun _ h => ih (index + 1) h

end Machine

theorem DisplayList.paths_normalized (form : NormalForm) (items : DisplayList) :
    (items.normalized form).paths = items.paths := by
  rw [normalized]
  split
  case isTrue => rfl
  case isFalse =>
    rw [paths, List.filterMap_map, paths]
    congr 1
    funext item
    cases item <;> rfl

theorem Content.yields_run_movesFirst {m : Type → Type} [Monad m] [LawfulMonad m]
    (page : PageContext m) (fonts : FontCache) (content : Bytes) :
    Yields (fun run => ∀ item ∈ DisplayList.paths run.items, item.path.MovesFirst)
      (run page fonts content) := by
  have hfirst : Machine.PaintsMovesFirst { fonts } :=
    ⟨⟨_, Machine.follows_first fonts⟩, List.forall_mem_nil _⟩
  refine .bind (Machine.yields_executeAll_movesFirst page 0 hfirst _) fun machine h => .pure ?_
  rw [DisplayList.paths_normalized]
  exact h.2

namespace PathBuilder

open PdfDisplay.Path (MovesFirst)

/-- **What a builder represents.** After any calls it has a current point and the start of a subpath
exactly if it has drawn anything. Its path then begins with a move, the start is where the last move
went, and the current point is the end of the last segment, behind a close the start. So every path
that is painted then has a move in front and splits into subpaths, and where nothing is drawn the
path that is painted has no segments. That does not come to a page: all paths of its display list
have a move in front. -/
theorem callAll_represents {m : Type → Type} [Monad m] [LawfulMonad m] (page : PageContext m)
    (fonts : FontCache) (content : Bytes) :
    (∀ (transform : Transform) (calls : List Call),
      let b := (new transform).callAll calls
      (b.path.segments = [] ↔ b.current? = none) ∧ (b.current? = none ↔ b.start? = none) ∧
      (b.path.segments ≠ [] → b.path.MovesFirst ∧ b.start? = b.path.start? ∧
        b.current? = b.path.current?) ∧
      ∀ painting : PaintOperator,
        ((b.painted painting).segments = [] ↔ b.path.segments = []) ∧
        (b.path.segments ≠ [] → (b.painted painting).MovesFirst) ∧
        (b.painted painting).Splits) ∧
    Yields (fun run => ∀ item ∈ DisplayList.paths run.items,
        item.path.MovesFirst ∧ item.path.Splits)
      (Content.run page fonts content) := by
  constructor
  · intro transform calls b
    obtain ⟨path, h, hpath⟩ := (draws_new transform).callAll (fun h => absurd rfl h) calls
    obtain rfl : b.path = path := h.path_eq
    refine ⟨h.current?_eq_none_iff.symm, h.current?_eq_none_iff.trans h.start?_eq_none_iff.symm,
      fun hdrawn => ⟨hpath hdrawn, h.start, h.current⟩, fun painting => ?_⟩
    have hempty := h.segments_painted_eq_nil_iff painting
    have hpainted := h.beginsWithMove_painted hpath painting
    exact ⟨hempty, fun hdrawn => hpainted (mt hempty.mp hdrawn), hpainted.splits⟩
  · refine (Content.yields_run_movesFirst page fonts content).mono fun run h item hitem => ?_
    have hmoves := h item hitem
    exact ⟨hmoves, Path.BeginsWithMove.splits fun _ => hmoves⟩

/-- A line and a rectangle, behind a curve that is passed over because there is no current point. -/
theorem callAll_represents_rectangle :
    let page : PageContext Id := ⟨ObjectTable.empty.store, 100, ∅, {}⟩
    let content := Utf8.encode "1 1 2 2 v 0 0 m 5 0 l 1 1 2 2 re S S"
    let b := (new .identity).callAll
      [.step (.curveFromCurrent 1 1 2 2), .step (.move 0 0), .step (.line 5 0), .step .close]
    b.path.segments = [.move (Transform.identity.point ⟨0, 0⟩),
        .line (Transform.identity.point ⟨5, 0⟩), .close] ∧
      b.current? = some (Transform.identity.point ⟨0, 0⟩) ∧ b.start? = b.current? ∧
      (∀ painting : PaintOperator, (b.painted painting).MovesFirst ∧ (b.painted painting).Splits) ∧
      (DisplayList.paths (Content.run page ∅ content).items).map
        (·.path.subpaths.map List.length) = [[2, 5]] ∧
      ∀ item ∈ DisplayList.paths (Content.run page ∅ content).items, item.path.Splits := by
  intro page content b
  obtain ⟨hcalls, hpages⟩ := callAll_represents page ∅ content
  obtain ⟨-, -, hdrawn, hpainted⟩ := hcalls .identity
    [.step (.curveFromCurrent 1 1 2 2), .step (.move 0 0), .step (.line 5 0), .step .close]
  have hsegments : b.path.segments = [.move (Transform.identity.point ⟨0, 0⟩),
      .line (Transform.identity.point ⟨5, 0⟩), .close] := rfl
  have hne : b.path.segments ≠ [] := hsegments ▸ List.cons_ne_nil _ _
  obtain ⟨-, hstart, hcurrent⟩ := hdrawn hne
  refine ⟨hsegments, hcurrent, hstart, fun painting => ?_, by decide +kernel, fun item hitem => ?_⟩
  · exact ⟨(hpainted painting).2.1 hne, (hpainted painting).2.2⟩
  · exact (possible_pure _ hpages item hitem).2

/-- Stroking where nothing is drawn. -/
theorem not_movesFirst_painted :
    ¬ ∀ (transform : Transform) (calls : List Call) (painting : PaintOperator),
      (((new transform).callAll calls).painted painting).MovesFirst := by
  intro h
  obtain ⟨start, rest, hsegments⟩ := h .identity [] ⟨.stroke, .nonZeroWinding, false⟩
  cases hsegments

end PathBuilder

end PdfDisplay
