import Mathlib.Logic.Function.Basic
import Mathlib.Order.Monotone.Basic
import PdfDisplay.Page.Content
import PdfDisplay.Proofs.Graphics.Changes
import PdfDisplay.Proofs.Graphics.Operands
import PdfDisplay.Proofs.Graphics.Renumbering

/-!
# Operators without effect

An operator has no effect if it is not known, if it belongs to a text object and none is open, or if
its last operands are not what it asks for. Whether a text object is open, and how many components a
color has, depends on the operators in front, but on nothing else: `DrawingContext` follows it
through an operator list, and the machine follows the same way
(`Machine.yields_execute_context`).

`Content.finalMachine_inert` says what becomes of a run if such operators are erased: the same, with
the warnings numbered anew. And operands in front of those that an operator reads may be put there
or left out.
-/

namespace PdfDisplay

/-! ## Contexts -/

/-- What decides which operators have an effect. -/
structure DrawingContext where
  /-- Whether a text object is open. -/
  inText : Bool := false
  /-- The color spaces. -/
  spaces : Ink → ColorSpace := fun _ => .gray
  /-- The color spaces of the saved frames, the latest first. -/
  saved : List (Ink → ColorSpace) := []

namespace DrawingContext

/-- The context behind an instruction. -/
def step (context : DrawingContext) : Instruction → DrawingContext
  | .save => { context with saved := context.spaces :: context.saved }
  | .restore =>
    match context.saved with
    | [] => context
    | spaces :: saved => { context with spaces, saved }
  | .setColor ink space _ => { context with spaces := Function.update context.spaces ink space }
  | .setSpace ink space => { context with spaces := Function.update context.spaces ink space }
  | .beginText => { context with inText := true }
  | .endText => { context with inText := false }
  | _ => context

/-- The context behind an operator. -/
def next (context : DrawingContext) (operator : Operator) : DrawingContext :=
  (Instruction.ofOperator? operator).elim context context.step

end DrawingContext

namespace Machine

/-- The context of a machine. -/
def context (machine : Machine) : DrawingContext where
  inText := machine.inText
  spaces := machine.state.frame.space
  saved := machine.state.saved.map (·.space)

theorem Change.context_eq {before after : Machine} (h : Change before after) :
    after.context = before.context := by
  cases h <;> rfl

/-- A list of changes leaves the context as it is, since each of them does. -/
theorem Changes.context_eq {before after : Machine} (h : Changes before after) :
    after.context = before.context :=
  h.of_closed (R := fun before after => after.context = before.context) (fun _ => rfl)
    (fun hfirst hsecond => hsecond.trans hfirst) Change.context_eq

/-- Setting a color space sets the space for one ink and leaves the other's. -/
theorem space_setSpaceAndColor (frame : GraphicsFrame) (space : ColorSpace) (color : Color)
    (ink : Ink) :
    (frame.setSpaceAndColor space color ink).space = Function.update frame.space ink space := by
  funext other
  cases ink <;> cases other <;> rfl

/-- **Restoring is a step of the context**, which keeps its own stack beside the machine's. -/
theorem context_restore (machine : Machine) :
    ({ machine with state := machine.state.restore } : Machine).context =
      machine.context.step .restore := by
  cases hsaved : machine.state.saved with
  | nil =>
    rw [GraphicsState.restore_of_saved_eq_nil hsaved, DrawingContext.step]
    simp only [context, hsaved, List.map_nil]
  | cons frame saved =>
    rw [GraphicsState.restore_of_saved_eq_cons hsaved, DrawingContext.step]
    simp only [context, hsaved, List.map_cons]

section Effects

variable {m : Type → Type} [Monad m] [LawfulMonad m]

/-- **The context follows every instruction**, so which operators are asked for anything can be said
without the machine. -/
theorem yields_step_context (page : PageContext m) (index : Nat) (machine : Machine)
    (instruction : Instruction) :
    Yields (fun after => after.context = machine.context.step instruction)
      (machine.step page index instruction) := by
  -- compound instructions change nothing that a context looks at
  have hcompound : ∀ {instruction}, Compound instruction →
      Yields (fun after => after.context = machine.context)
        (machine.step page index instruction) :=
    fun h => (yields_step_changes page index machine h).mono fun _ => Changes.context_eq
  cases instruction with
  | restore => exact .pure (context_restore machine)
  | setColor ink space color =>
    exact .pure (congrArg (fun spaces => { machine.context with spaces })
      (space_setSpaceAndColor machine.state.frame space color ink))
  | setSpace ink space =>
    exact .pure (congrArg (fun spaces => { machine.context with spaces })
      (space_setSpaceAndColor machine.state.frame space .black ink))
  | style change => exact hcompound (.style change)
  | setComponents ink components => exact hcompound (.setComponents ink components)
  | setText parameter => exact hcompound (.setText parameter)
  | dropPath => exact hcompound .dropPath
  | applyParameters name => exact hcompound (.applyParameters name)
  | paint operator => exact hcompound (.paint operator)
  | text instruction => exact hcompound (.text instruction)
  | drawObject name => exact hcompound (.drawObject name)
  | drawImage entries data => exact hcompound (.drawImage entries data)
  | _ => exact .pure rfl

/-- **The context of a machine follows the operators**, so that what a run will look at can be told
from the operators alone. -/
theorem yields_execute_context (page : PageContext m) (index : Nat) (machine : Machine)
    (operator : Operator) :
    Yields (fun after => after.context = machine.context.next operator)
      (machine.execute page index operator) := by
  rw [execute, DrawingContext.next]
  split
  case h_1 instruction hread =>
    rw [hread]
    exact yields_step_context page index machine instruction
  case h_2 hread =>
    rw [hread]
    exact .pure rfl

end Effects

end Machine

/-! ## Operators without effect -/

namespace Operator

open Instruction

/-- Whether an operator has no effect in a context. -/
inductive Inert (context : DrawingContext) (operator : Operator) : Prop
  /-- It is not known. -/
  | unknown (h : ¬ Known operator.name)
  /-- It belongs to text objects, and none is open. -/
  | outsideText (hname : operator.name ∈ textNames) (h : context.inText = false)
  /-- Its last operands are too few, or not of the kinds that it asks for. -/
  | unfit {kinds : List Operand.Kind} (hkinds : kinds? operator.name = some kinds)
    (h : ¬ Operand.Fit kinds operator.operands)
  /-- Its components are too few for a color in the current space. -/
  | fewComponents {ink : Ink} (hink : componentInk? operator.name = some ink)
    (h : (context.spaces ink).color? (Operand.components operator.operands) = .none)
  /-- It has not the entries and the data of an inline image. -/
  | noImage (hname : operator.name = "BI")
    (h : ∀ entries data, operator.operands ≠ [.dictionary entries, .literalString data])

/-- Whether operators are left when operators without effect are erased from others, which begin in
a context. -/
inductive Erases : DrawingContext → List Operator → List Operator → Prop
  /-- No operator is left. -/
  | nil (context : DrawingContext) : Erases context [] []
  /-- An operator stays. -/
  | keep {context : DrawingContext} (operator : Operator) {operators kept : List Operator}
    (h : Erases (context.next operator) operators kept) :
    Erases context (operator :: operators) (operator :: kept)
  /-- An operator without effect is erased. -/
  | erase {context : DrawingContext} {operator : Operator} {operators kept : List Operator}
    (hinert : operator.Inert context) (h : Erases context operators kept) :
    Erases context (operator :: operators) kept

/-- Whether an operator is the same as another or has operands in front of those that it reads. -/
inductive Pads (operator : Operator) : Operator → Prop
  /-- It is the same. -/
  | same : Pads operator operator
  /-- It reads a fixed number of operands, as many are there, and others are put in front. -/
  | front (extra : List Operand) (hink : componentInk? operator.name = .none)
    (himage : operator.name ≠ "BI")
    (henough : ∀ kinds, kinds? operator.name = some kinds →
      kinds.length ≤ operator.operands.length) :
    Pads operator ⟨operator.name, extra ++ operator.operands⟩

/-- Operands that are put in front of those that are read are passed over. -/
theorem Pads.ofOperator?_eq {operator padded : Operator} (h : Pads operator padded) :
    ofOperator? padded = ofOperator? operator := by
  cases h with
  | same => rfl
  | front extra hink himage henough =>
    cases hkinds : kinds? operator.name with
    | some kinds => exact ofOperator?_append hkinds (henough kinds hkinds) extra
    | none =>
      have hunknown : ¬ Known operator.name := by
        simp [Known, hkinds, hink, himage]
      rw [ofOperator?_eq_none_of_unknown hunknown, ofOperator?_eq_none_of_unknown]
      exact hunknown

end Operator

namespace Machine

open Instruction

variable {m : Type → Type} [Monad m]

/-- An operator that asks for nothing leaves the machine as it is. -/
theorem execute_of_ofOperator?_eq_none (page : PageContext m) (index : Nat) (machine : Machine)
    {operator : Operator} (h : ofOperator? operator = none) :
    machine.execute page index operator = pure machine := by
  rw [execute, h]

/-- **An operator without effect leaves the machine as it is.** -/
theorem execute_inert (page : PageContext m) (index : Nat) {machine : Machine}
    {operator : Operator} (h : operator.Inert machine.context) :
    machine.execute page index operator = pure machine := by
  cases h with
  | unknown h =>
    exact execute_of_ofOperator?_eq_none page index machine (ofOperator?_eq_none_of_unknown h)
  | unfit hkinds h =>
    have hnone : ofOperator? operator = none := by
      rw [← Option.not_isSome_iff_eq_none, isSome_ofOperator?_iff hkinds]
      exact h
    exact execute_of_ofOperator?_eq_none page index machine hnone
  | noImage hname h =>
    obtain ⟨name, operands⟩ := operator
    cases hname
    exact execute_of_ofOperator?_eq_none page index machine (ofOperator?_image_eq_none h)
  -- the operator may well ask for something, but only of an open text object
  | outsideText hname h =>
    rw [execute]
    split
    case h_1 i hread =>
      obtain ⟨instruction, rfl⟩ := isText_of_ofOperator? hname hread
      exact if_neg (Bool.eq_false_iff.mp h)
    case h_2 => rfl
  | @fewComponents ink hink h =>
    -- too few components leave the color as it was
    have hkept : ((machine.state.frame.setComponents?
        (Operand.components operator.operands) ink).getD machine.state.frame) =
        machine.state.frame := by
      rw [GraphicsFrame.setComponents?, show (machine.state.frame.space ink).color? _ = none from h]
      rfl
    rw [execute, ofOperator?_of_componentInk hink operator.operands]
    dsimp only
    rw [step, mapFrame, GraphicsState.map, hkept]

/-! ## Runs -/

/-- **Padding the operators changes no run**, by induction over both lists, one operator at a time.
-/
theorem executeAll_of_pads (page : PageContext m) (index : Nat) (machine : Machine)
    {operators padded : List Operator} (h : List.Forall₂ Operator.Pads operators padded) :
    machine.executeAll page index padded = machine.executeAll page index operators := by
  induction h generalizing index machine with
  | nil => rfl
  | cons hpads _ ih =>
    rw [executeAll, executeAll, execute, execute, hpads.ofOperator?_eq]
    exact bind_congr fun after => ih (index + 1) after

/-- The places of the items of a list behind one more item, which stays in front. -/
def placesBehind (f : Nat → Nat) : Nat → Nat
  | 0 => 0
  | i + 1 => f i + 1

/-- Renumbering behind a first place is strictly increasing if it was so before. -/
theorem strictMono_placesBehind {f : Nat → Nat} (h : StrictMono f) :
    StrictMono (placesBehind f) := by
  refine strictMono_nat_of_lt_succ fun i => ?_
  cases i with
  | zero => exact Nat.succ_pos _
  | succ i => exact Nat.succ_lt_succ (h (Nat.lt_succ_self i))

variable [LawfulMonad m]

/-- **Erasing operators without effect changes the numbers of the operators and nothing else.** The
operators that are left keep their order; `f` says where each was, and where the list ended. The
machines may start at other indices, if these are exchanged in the same way. -/
theorem executeAll_of_erases (page : PageContext m) {context : DrawingContext}
    {operators kept : List Operator} (h : Operator.Erases context operators kept) :
    ∃ f : Nat → Nat, StrictMono f ∧ (∀ i, kept[i]? = operators[f i]?) ∧
      f kept.length = operators.length ∧
      ∀ (first first' : Nat) (g : Nat → Nat) (machine : Machine), machine.context = context →
        (∀ i, g (first' + i) = first + f i) →
        (machine.renumber g).executeAll page first operators =
          renumber g <$> machine.executeAll page first' kept := by
  induction h with
  | nil context =>
    refine ⟨id, strictMono_id, fun _ => rfl, rfl, fun first first' g machine _ _ => ?_⟩
    rw [executeAll, executeAll, map_pure]
  | @keep context operator operators kept h ih =>
    obtain ⟨f, hmono, hkept, hend, hrun⟩ := ih
    refine ⟨placesBehind f, strictMono_placesBehind hmono, ?_, congrArg (· + 1) hend, ?_⟩
    · intro i
      cases i with
      | zero => rfl
      | succ i => exact hkept i
    · intro first first' g machine hcontext hg
      -- both runs execute the operator, and only the indices in its warnings differ
      have hindex : g first' = first := hg 0
      rw [executeAll, executeAll, map_bind, ← hindex, ← renumber_execute, bind_map_left]
      refine (hcontext ▸ yields_execute_context page first' machine operator).bind_eq_bind
        fun after hafter => ?_
      rw [hindex]
      refine hrun (first + 1) (first' + 1) g after hafter fun i => ?_
      rw [Nat.add_assoc, Nat.add_comm 1 i, hg, Nat.add_assoc, Nat.add_comm 1]
      rfl
  | @erase context operator operators kept hinert h ih =>
    obtain ⟨f, hmono, hkept, hend, hrun⟩ := ih
    refine ⟨(f · + 1), fun i j hij => Nat.succ_lt_succ (hmono hij), hkept,
      congrArg (· + 1) hend, ?_⟩
    intro first first' g machine hcontext hg
    have hinert' : operator.Inert (machine.renumber g).context := hcontext.symm ▸ hinert
    rw [executeAll, execute_inert page first hinert', pure_bind]
    refine hrun (first + 1) first' g machine hcontext fun i => ?_
    rw [hg, Nat.add_assoc, Nat.add_comm 1]

/-- Operands in front of those that are read can make an operator read that read nothing before. -/
theorem not_execute_append :
    ¬ ∀ (page : PageContext Id) (index : Nat) (machine : Machine) (operator : Operator)
        (extra : List Operand), componentInk? operator.name = none → operator.name ≠ "BI" →
        machine.execute page index ⟨operator.name, extra ++ operator.operands⟩ =
          machine.execute page index operator := by
  intro h
  have hgs := h ⟨ObjectTable.empty.store, 792, ∅, {}⟩ 0 { fonts := ∅ } ⟨"gs", []⟩ [.name "G"] rfl
    (by decide)
  have hcount := congrArg (fun machine : Machine => machine.warnings.length) hgs
  revert hcount
  decide

end Machine

namespace Content

variable {m : Type → Type} [Monad m] [LawfulMonad m]

/-- **Operators without effect may be erased, and operands may be put in front of those that are
read.** For operators within the limit, the first leaves the machine with the same items, frames,
path and fonts, and with the same warnings, numbered by where the operators were; the second changes
nothing at all. -/
theorem finalMachine_inert (page : PageContext m) (fonts : FontCache) {reading : Operator.Reading}
    (hlimit : reading.operators.length ≤ page.options.maxOperators) :
    (∀ kept, Operator.Erases {} reading.operators kept →
      ∃ f : Nat → Nat, StrictMono f ∧ (∀ i, kept[i]? = reading.operators[f i]?) ∧
        f kept.length = reading.operators.length ∧
        finalMachine page fonts reading =
          Machine.renumber f <$> finalMachine page fonts { reading with operators := kept }) ∧
    ∀ padded, List.Forall₂ Operator.Pads reading.operators padded →
      finalMachine page fonts { reading with operators := padded } =
        finalMachine page fonts reading := by
  constructor
  · intro kept herases
    obtain ⟨f, hmono, hkept, hend, hrun⟩ := Machine.executeAll_of_erases page herases
    refine ⟨f, hmono, hkept, hend, ?_⟩
    -- what is kept is no longer, so it stays within the limit too
    have hshorter : kept.length ≤ reading.operators.length := hend ▸ hmono.le_apply
    -- the first context is that of the first machine, where every ink is in the gray space
    have hcontext : ({ fonts } : Machine).context = {} := by
      have hspaces : ({} : GraphicsFrame).space = fun _ => .gray := by
        funext ink
        cases ink <;> rfl
      exact congrArg (fun spaces => ({ spaces } : DrawingContext)) hspaces
    rw [finalMachine, finalMachine, List.take_of_length_le hlimit,
      List.take_of_length_le (hshorter.trans hlimit)]
    exact hrun 0 0 f { fonts } hcontext fun i => by rw [Nat.zero_add, Nat.zero_add]
  · intro padded hpads
    have hlength : padded.length ≤ page.options.maxOperators := hpads.length_eq ▸ hlimit
    rw [finalMachine, finalMachine, List.take_of_length_le hlimit, List.take_of_length_le hlength]
    exact Machine.executeAll_of_pads page 0 { fonts } hpads

/-- An unknown operator, text outside a text object and a code out of range are erased in front of
an operator that gives a warning, and the operands of that are padded. -/
theorem finalMachine_inert_warning :
    let page : PageContext Id := ⟨ObjectTable.empty.store, 792, ∅, {}⟩
    let reading : Operator.Reading := ⟨[⟨"sh", []⟩, ⟨"Tj", [.literalString [65]]⟩,
      ⟨"J", [.integer 3]⟩, ⟨"gs", [.name "G"]⟩], none⟩
    let kept : List Operator := [⟨"gs", [.name "G"]⟩]
    let padded := reading.operators.take 3 ++ [⟨"gs", [.null, .name "G"]⟩]
    reading.operators.length ≤ page.options.maxOperators ∧
      Operator.Erases {} reading.operators kept ∧
      List.Forall₂ Operator.Pads reading.operators padded ∧
      (finalMachine page ∅ reading).warnings.map (·.operatorIndex?) = [some 3] ∧
      (∃ f : Nat → Nat, f 1 = 4 ∧
        finalMachine page ∅ reading =
          (finalMachine page ∅ { reading with operators := kept }).renumber f) ∧
      finalMachine page ∅ { reading with operators := padded } = finalMachine page ∅ reading := by
  intro page reading kept padded
  have hlimit : reading.operators.length ≤ page.options.maxOperators := by decide
  have herases : Operator.Erases {} reading.operators kept :=
    .erase (.unknown (by decide)) <| .erase (.outsideText (by decide) rfl) <|
      .erase (.unfit rfl (by decide)) <| .keep _ (.nil _)
  have hpads : List.Forall₂ Operator.Pads reading.operators padded :=
    .cons .same <| .cons .same <| .cons .same <|
      .cons (.front [.null] rfl (by decide) (by rintro _ ⟨⟩; decide)) .nil
  obtain ⟨herase, hpad⟩ := finalMachine_inert page ∅ hlimit
  obtain ⟨f, -, -, hend, hrun⟩ := herase kept herases
  exact ⟨hlimit, herases, hpads, by decide, ⟨f, hend, hrun⟩, hpad padded hpads⟩

end Content

end PdfDisplay
