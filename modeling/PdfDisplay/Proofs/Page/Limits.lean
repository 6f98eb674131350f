import PdfDisplay.Proofs.Graphics.Drawing
import PdfDisplay.Proofs.Graphics.Saving
import PdfDisplay.Proofs.Graphics.Showing

/-!
# The limit for operators

An operator draws at most one item and leaves what has been drawn alone
(`Machine.yields_execute_addsAtMost`), and so a run draws at most one item for each operator. With
a greater limit, page contents show what they show with a smaller one and then what the further
operators draw: `Content.run_limits`. Normalization does not disturb this, as it goes over the
items one by one.
-/

namespace PdfDisplay

/-- The page with another limit for operators. -/
def PageContext.withLimit {m : Type → Type} (page : PageContext m) (limit : Nat) : PageContext m :=
  { page with options := { page.options with maxOperators := limit } }

theorem DisplayList.normalized_append (form : NormalForm) (items more : DisplayList) :
    normalized form (items ++ more) = normalized form items ++ normalized form more := by
  rw [normalized, normalized, normalized]
  split
  case isTrue => rfl
  case isFalse => exact List.map_append

theorem DisplayList.length_normalized (form : NormalForm) (items : DisplayList) :
    (normalized form items).length = items.length := by
  rw [normalized]
  split
  case isTrue => rfl
  case isFalse => exact List.length_map _

namespace Machine

/-! ## Items of operators -/

/-- Whether one machine has drawn what another has, and at most some number of items behind it. -/
def AddsAtMost (count : Nat) (before after : Machine) : Prop :=
  ∃ more, after.items = before.items ++ more ∧ more.length ≤ count

namespace AddsAtMost

theorem of_drawn_eq {count : Nat} {before after : Machine} (h : after.drawn = before.drawn) :
    AddsAtMost count before after :=
  ⟨[], by rw [items, items, h, List.append_nil], Nat.zero_le count⟩

theorem of_drawn_cons {item : DisplayItem} {before after : Machine}
    (h : after.drawn = item :: before.drawn) : AddsAtMost 1 before after :=
  ⟨[item], by rw [items, items, h, List.reverse_cons], Nat.le_refl 1⟩

theorem trans {count count' : Nat} {first second third : Machine}
    (h : AddsAtMost count first second) (h' : AddsAtMost count' second third) :
    AddsAtMost (count + count') first third := by
  obtain ⟨more, hmore, hlength⟩ := h
  obtain ⟨more', hmore', hlength'⟩ := h'
  refine ⟨more ++ more', by rw [hmore', hmore, List.append_assoc], ?_⟩
  rw [List.length_append]
  exact Nat.add_le_add hlength hlength'

end AddsAtMost

theorem addsAtMost_paint (machine : Machine) (pageHeight : Float) (operator : PaintOperator) :
    AddsAtMost 1 machine (machine.paint pageHeight operator) := by
  rw [paint]
  split
  case isTrue => exact .of_drawn_eq rfl
  case isFalse => exact .of_drawn_cons rfl

theorem addsAtMost_applyParameters (machine : Machine) (resources : PageResources) (index : Nat)
    (name : String) : AddsAtMost 1 machine (machine.applyParameters resources index name) := by
  rw [applyParameters]
  split <;> exact .of_drawn_eq rfl

theorem addsAtMost_showPieces (machine : Machine) (pageHeight : Float) (index : Nat)
    (pieces : List TextPiece) :
    AddsAtMost 1 machine (machine.showPieces pageHeight index pieces) := by
  rw [showPieces]
  dsimp only
  split
  case h_1 => exact .of_drawn_eq rfl
  case h_2 =>
    split
    case isTrue => exact .of_drawn_eq rfl
    case isFalse => exact .of_drawn_cons rfl

theorem addsAtMost_apply (machine : Machine) (pageHeight : Float) (index : Nat)
    (effect : ImageEffect) : AddsAtMost 1 machine (machine.apply pageHeight index effect) := by
  cases effect with
  | none => exact .of_drawn_eq rfl
  | warn warning => exact .of_drawn_eq rfl
  | draw name raster => exact .of_drawn_cons rfl

theorem addsAtMost_drawImage {m : Type → Type} (page : PageContext m) (index : Nat)
    (entries : List (String × Operand)) (data : Bytes) (machine : Machine) :
    AddsAtMost 1 machine (machine.drawImage page index entries data) := by
  obtain ⟨effect, heffect⟩ := exists_drawImage_eq page index entries data machine
  rw [heffect]
  exact addsAtMost_apply { machine with inlineImages := machine.inlineImages + 1 } _ index effect

variable {m : Type → Type} [Monad m] [LawfulMonad m] (page : PageContext m) (index : Nat)
  (machine : Machine)

theorem yields_selectFont_addsAtMost (tag : String) (size : Float) :
    Yields (AddsAtMost 1 machine) (machine.selectFont page index tag size) := by
  refine .bind (.trivial _) fun (font, fonts) _ => .pure (.of_drawn_eq ?_)
  rw [foldl_warn]
  rfl

theorem yields_stepText_addsAtMost (instruction : TextInstruction) :
    Yields (AddsAtMost 1 machine) (machine.stepText page index instruction) := by
  cases instruction with
  | selectFont tag size => exact yields_selectFont_addsAtMost page index machine tag size
  | showPieces pieces => exact .pure (addsAtMost_showPieces machine _ index pieces)
  | showOnNextLine bytes => exact .pure (addsAtMost_showPieces (machine.mapText _) _ index _)
  | showSpaced wordSpacing charSpacing bytes =>
    exact .pure (addsAtMost_showPieces (machine.mapText _) _ index _)
  | _ => exact .pure (.of_drawn_eq rfl)

theorem yields_drawObject_addsAtMost (name : String) :
    Yields (AddsAtMost 1 machine) (machine.drawObject page index name) := by
  obtain ⟨effect, heffect, -⟩ := exists_drawObject_eq page name
  rw [heffect, map_eq_pure_bind]
  exact .bind (.trivial _) fun effect _ => .pure (addsAtMost_apply machine _ index effect)

/-- **No instruction draws more than one item**, by the cases of the instruction. -/
theorem yields_step_addsAtMost (instruction : Instruction) :
    Yields (AddsAtMost 1 machine) (machine.step page index instruction) := by
  cases instruction with
  | applyParameters name => exact .pure (addsAtMost_applyParameters machine _ index name)
  | paint operator => exact .pure (addsAtMost_paint machine _ operator)
  | text instruction =>
    rw [step]
    split
    case isTrue => exact yields_stepText_addsAtMost page index machine instruction
    case isFalse => exact .pure (.of_drawn_eq rfl)
  | drawObject name => exact yields_drawObject_addsAtMost page index machine name
  | drawImage entries data => exact .pure (addsAtMost_drawImage page index entries data machine)
  | _ => exact .pure (.of_drawn_eq rfl)

/-- **An operator draws at most one item** and leaves what has been drawn alone. -/
theorem yields_execute_addsAtMost (operator : Operator) :
    Yields (AddsAtMost 1 machine) (machine.execute page index operator) := by
  rw [execute]
  split
  case h_1 instruction _ => exact yields_step_addsAtMost page index machine instruction
  case h_2 => exact .pure (.of_drawn_eq rfl)

/-- A run draws at most one item for each operator. -/
theorem yields_executeAll_addsAtMost (operators : List Operator) :
    Yields (AddsAtMost operators.length machine) (machine.executeAll page index operators) := by
  induction operators generalizing index machine with
  | nil => exact .pure (.of_drawn_eq rfl)
  | cons operator rest ih =>
    refine .bind (yields_execute_addsAtMost page index machine operator) fun after hafter => ?_
    refine (ih (index + 1) after).mono fun last hlast => ?_
    rw [List.length_cons, Nat.add_comm]
    exact hafter.trans hlast

omit [LawfulMonad m] in
/-- The limit plays no part in the execution of operators. -/
theorem executeAll_withLimit (limit : Nat) (operators : List Operator) :
    machine.executeAll (page.withLimit limit) index operators =
      machine.executeAll page index operators := by
  induction operators generalizing index machine with
  | nil => rfl
  | cons operator rest ih => exact bind_congr fun after => ih (index + 1) after

end Machine

/-! ## Contents under limits -/

namespace Content

variable {m : Type → Type} [Monad m] [LawfulMonad m]

/-- What a run hands on depends on the last machine alone. -/
theorem exists_run_eq_map (page : PageContext m) (fonts : FontCache) (content : Bytes) :
    ∃ finish : Machine → Run,
      run page fonts content = finish <$> finalMachine page fonts (Operator.readAll content) ∧
        ∀ machine, (finish machine).items = machine.items.normalized page.options.normalForm := by
  refine ⟨_, (map_eq_pure_bind _ _).symm, fun machine => ?_⟩
  rfl

/-- With a greater limit, a run goes on where it stops with a smaller one. -/
theorem continues_finalMachine (page : PageContext m) (fonts : FontCache)
    (reading : Operator.Reading) {few many : Nat} (h : few ≤ many) :
    Continues (Machine.AddsAtMost (many - few))
      (finalMachine (page.withLimit few) fonts reading)
      (finalMachine (page.withLimit many) fonts reading) := by
  -- the operators that only the greater limit admits
  let further := (reading.operators.take many).drop few
  have hsplit : reading.operators.take many = reading.operators.take few ++ further := by
    rw [← List.take_append_drop few (reading.operators.take many), List.take_take,
      Nat.min_eq_left h]
  have hlength : further.length ≤ many - few := by
    rw [List.length_drop]
    exact Nat.sub_le_sub_right (List.length_take_le many _) few
  refine ⟨Machine, finalMachine (page.withLimit few) fonts reading, id, fun machine =>
    machine.executeAll page (0 + (reading.operators.take few).length) further, (id_map _).symm, ?_,
    fun machine => ?_⟩
  · rw [finalMachine, finalMachine, Machine.executeAll_withLimit, Machine.executeAll_withLimit]
    exact (congrArg _ hsplit).trans (Machine.executeAll_append page 0 _ _ further)
  · refine (Machine.yields_executeAll_addsAtMost page _ machine further).mono ?_
    rintro after ⟨more, hmore, hcount⟩
    exact ⟨more, hmore, hcount.trans hlength⟩

/-- **A limit cuts off what the operators behind it draw, and nothing else.** Page contents show
what the operators within the limit draw. With a greater limit they show the same and at most as
many items behind it as the limit is greater, since every operator draws at most one item, behind
those that have been drawn. -/
theorem run_limits (page : PageContext m) (fonts : FontCache) (content : Bytes) :
    (∀ limit, (·.items) <$> run (page.withLimit limit) fonts content =
        (·.items.normalized page.options.normalForm) <$>
          Machine.executeAll page 0 { fonts } ((Operator.readAll content).operators.take limit)) ∧
      (∀ few many, few ≤ many →
        Continues (fun short long => short.items <+: long.items ∧
            long.items.length ≤ short.items.length + (many - few))
          (run (page.withLimit few) fonts content) (run (page.withLimit many) fonts content)) ∧
      ∀ (index : Nat) (machine : Machine) (operator : Operator),
        Yields (fun after => ∃ more, after.items = machine.items ++ more ∧ more.length ≤ 1)
          (machine.execute page index operator) := by
  refine ⟨fun limit => ?_, fun few many hlimits => ?_, Machine.yields_execute_addsAtMost page⟩
  · rw [items_run, finalMachine, Machine.executeAll_withLimit]
    rfl
  · obtain ⟨finish, hrun, hitems⟩ := exists_run_eq_map (page.withLimit few) fonts content
    obtain ⟨finish', hrun', hitems'⟩ := exists_run_eq_map (page.withLimit many) fonts content
    rw [hrun, hrun']
    refine (continues_finalMachine page fonts _ hlimits).map ?_
    rintro short long ⟨more, hmore, hcount⟩
    have hlong : (finish' long).items =
        (finish short).items ++ more.normalized page.options.normalForm := by
      rw [hitems, hitems', hmore]
      exact DisplayList.normalized_append _ _ _
    rw [hlong, List.length_append, DisplayList.length_normalized]
    exact ⟨⟨_, rfl⟩, Nat.add_le_add_left hcount _⟩

/-- A limit between two strokes cuts off the second. -/
theorem run_limits_strokes :
    let page : PageContext Id := ⟨ObjectTable.empty.store, 100, ∅, {}⟩
    let items (limit : Nat) : DisplayList :=
      (run (page.withLimit limit) ∅ (Utf8.encode "0 0 m 9 9 l S 0 9 m 9 0 l S")).items
    3 ≤ 6 ∧ (items 3).length = 1 ∧ (items 6).length = 2 ∧ items 3 <+: items 6 ∧
      (items 6).length ≤ (items 3).length + (6 - 3) := by
  intro page items
  have hcontinues := (run_limits page ∅ (Utf8.encode "0 0 m 9 9 l S 0 9 m 9 0 l S")).2.1 3 6
    (by decide)
  exact ⟨by decide, by decide +kernel, by decide +kernel, hcontinues.of_id⟩

end Content

end PdfDisplay
