import PdfDisplay.Proofs.Graphics.Lockstep
import PdfDisplay.Proofs.Page.Simulation

/-!
# Images and the rest of the page

The operators that draw images ask the store and then draw an image or warn; whatever the answers
are, the rest of the machine stays as it is (`Machine.exists_execute_eq`). So the rest of a page is
the same if these operators make their requests and do nothing else, and if requests leave no trace,
it is the same without these operators: `Content.finalMachine_images`.
-/

namespace PdfDisplay

/-- The list without its images. -/
def DisplayList.withoutImages (items : DisplayList) : DisplayList :=
  items.filter (·.image?.isNone)

theorem DisplayList.withoutImages_normalized (form : NormalForm) (items : DisplayList) :
    (normalized form items).withoutImages = normalized form (withoutImages items) := by
  rw [normalized, normalized]
  split
  case isTrue => rfl
  case isFalse =>
    rw [withoutImages, List.filter_map]
    congr 2
    funext item
    cases item <;> rfl

/-- Whether an operator is one of those that draw images. -/
def Operator.DrawsImage (operator : Operator) : Prop :=
  operator.name = "Do" ∨ operator.name = "BI"

instance : DecidablePred Operator.DrawsImage :=
  fun operator => inferInstanceAs (Decidable (operator.name = "Do" ∨ operator.name = "BI"))

/-- Whether an instruction is one of those that draw images. -/
inductive Instruction.DrawsImage : Instruction → Prop
  /-- It draws a named object. -/
  | object (name : String) : DrawsImage (.drawObject name)
  /-- It draws an inline image. -/
  | inline (entries : List (String × Operand)) (data : Bytes) : DrawsImage (.drawImage entries data)

open Instruction.OperandReading in
theorem Instruction.drawsImage_of_ofOperator? {operator : Operator} (h : operator.DrawsImage)
    {i : Instruction} (hread : ofOperator? operator = some i) : i.DrawsImage := by
  obtain ⟨name, operands⟩ := operator
  obtain rfl | rfl : name = "Do" ∨ name = "BI" := h
  · exact makes_name DrawsImage.object operands i hread
  · exact makes_inlineImage DrawsImage.inline operands i hread

namespace Machine

/-- The machine without the images that have been drawn, their number and the warnings. -/
def withoutImages (machine : Machine) : Machine :=
  { machine with
    drawn := DisplayList.withoutImages machine.drawn
    warnings := []
    inlineImages := 0 }

theorem items_withoutImages (machine : Machine) :
    machine.withoutImages.items = DisplayList.withoutImages machine.items :=
  List.filter_reverse.symm

/-- Machines that are the same without images go in lockstep. -/
theorem lockstep_withoutImages :
    Lockstep (fun a b => a.withoutImages = b.withoutImages) fun _ _ => True where
  state h := congrArg (·.state) h
  builder h := congrArg (·.builder) h
  inText h := congrArg (·.inText) h
  setState h state := congrArg ({ · with state }) h
  setBuilder h builder := congrArg ({ · with builder }) h
  setInText h inText := congrArg ({ · with inText }) h
  warn h _ _ := h
  emit {a b} h item hitem := by
    have hdrawn : ∀ machine : Machine, (machine.emit item).withoutImages =
        machine.withoutImages.emit item := fun machine =>
      congrArg (fun drawn => { machine.withoutImages with drawn })
        (List.filter_cons_of_pos (by rw [hitem]; rfl))
    rw [hdrawn, hdrawn, h]

/-! ## Operators that draw images -/

theorem withoutImages_apply (machine : Machine) (pageHeight : Float) (index : Nat)
    (effect : ImageEffect) :
    (machine.apply pageHeight index effect).withoutImages = machine.withoutImages := by
  cases effect <;> rfl

/-- Drawing an inline image changes the images, the warnings about them and the number of images
that have come, none of which is looked at here. -/
theorem withoutImages_drawImage {m : Type → Type} (page : PageContext m) (index : Nat)
    (entries : List (String × Operand)) (data : Bytes) (machine : Machine) :
    (machine.drawImage page index entries data).withoutImages = machine.withoutImages := by
  obtain ⟨effect, heffect⟩ := exists_drawImage_eq page index entries data machine
  rw [heffect]
  exact withoutImages_apply { machine with inlineImages := machine.inlineImages + 1 } _ index effect

section Effects

variable {m : Type → Type} [Monad m] [LawfulMonad m]

/-- **An operator that draws images changes nothing else**, whatever the store answers; what it asks
the store for does not depend on the machine. -/
theorem exists_execute_eq (page : PageContext m) (index : Nat) {operator : Operator}
    (h : operator.DrawsImage) :
    ∃ changes : m {change : Machine → Machine //
        ∀ machine, (change machine).withoutImages = machine.withoutImages},
      (∀ machine, machine.execute page index operator = (·.1 machine) <$> changes) ∧
        (page.store.Silent → Silent changes) := by
  unfold execute
  split
  case h_2 => exact ⟨pure ⟨id, fun _ => rfl⟩, fun _ => by rw [map_pure]; rfl, fun _ => .pure _⟩
  case h_1 instruction hread =>
    cases Instruction.drawsImage_of_ofOperator? h hread with
    -- the store is asked once, and its answer decides on an effect that is about images only
    | object name =>
      obtain ⟨effect, heffect, hsilent⟩ := exists_drawObject_eq page name
      refine ⟨(fun effect => ⟨fun machine => machine.apply page.height index effect,
        fun machine => withoutImages_apply machine _ index effect⟩) <$> effect, fun machine => ?_,
        fun hstore => (hsilent hstore).map _⟩
      rw [← comp_map]
      exact heffect index machine
    | inline entries data =>
      refine ⟨pure ⟨drawImage page index entries data, withoutImages_drawImage page index _ _⟩,
        fun _ => ?_, fun _ => .pure _⟩
      rw [map_pure]
      rfl

/-- Executes an operator, but if it draws images, it makes its requests and does nothing else. -/
def executeMuted (page : PageContext m) (index : Nat) (machine : Machine) (operator : Operator) :
    m Machine :=
  if operator.DrawsImage then (fun _ => machine) <$> machine.execute page index operator
  else machine.execute page index operator

/-- Executes operators, those that draw images for their requests only. -/
def executeAllMuted (page : PageContext m) (index : Nat) (machine : Machine) :
    List Operator → m Machine
  | [] => return machine
  | operator :: rest => do
    let machine ← machine.executeMuted page index operator
    executeAllMuted page (index + 1) machine rest

variable (page : PageContext m) {a b : Machine}

/-- **Operators keep machines the same without images**, unless they draw one: none of them looks at
the items that were drawn. -/
theorem coupled_execute_of_not_drawsImage (hab : a.withoutImages = b.withoutImages) (i j : Nat)
    {operator : Operator} (h : ¬ operator.DrawsImage) :
    Coupled (fun a b => a.withoutImages = b.withoutImages) (a.execute page i operator)
      (b.execute page j operator) := by
  have hselect : SelectsAlike page (fun a b => a.withoutImages = b.withoutImages)
      fun _ _ => True :=
    lockstep_withoutImages.selectsAlike page (fun h => congrArg (·.fonts) h)
      fun h fonts => congrArg ({ · with fonts }) h
  obtain ⟨hobject, himage⟩ := not_or.mp h
  exact lockstep_withoutImages.coupled_execute_of_not_image hab True.intro hselect hobject himage

/-- **An operator does the same beside images when the one that draws them is muted**, for any two
machines that are the same beside images. -/
theorem coupled_executeMuted (hab : a.withoutImages = b.withoutImages) (i : Nat)
    (operator : Operator) :
    Coupled (fun a b => a.withoutImages = b.withoutImages) (a.execute page i operator)
      (b.executeMuted page i operator) := by
  rw [executeMuted]
  split
  case isFalse h => exact coupled_execute_of_not_drawsImage page hab i i h
  case isTrue h =>
    obtain ⟨changes, hchanges, -⟩ := exists_execute_eq page i h
    rw [hchanges, hchanges, ← comp_map]
    refine (Coupled.refl changes).map ?_
    rintro change _ rfl
    exact (change.2 a).trans hab

theorem coupled_executeAllMuted (hab : a.withoutImages = b.withoutImages) (i : Nat)
    (operators : List Operator) :
    Coupled (fun a b => a.withoutImages = b.withoutImages) (a.executeAll page i operators)
      (b.executeAllMuted page i operators) := by
  induction operators generalizing i a b with
  | nil => exact .pure hab
  | cons operator rest ih =>
    exact (coupled_executeMuted page hab i operator).bind fun _ _ h => ih h (i + 1)

/-- Where requests leave no trace, nothing is left of an image operator. -/
theorem executeMuted_of_silent (hsilent : page.store.Silent) (machine : Machine) (i : Nat)
    {operator : Operator} (h : operator.DrawsImage) :
    machine.executeMuted page i operator = pure machine := by
  obtain ⟨changes, hchanges, hquiet⟩ := exists_execute_eq page i h
  rw [executeMuted, if_pos h, hchanges, ← comp_map]
  exact (hquiet hsilent).map_const machine

/-- **Image operators may be left out**, as far as the rest of the machine is concerned. -/
theorem coupled_executeAll_filter (hsilent : page.store.Silent)
    (hab : a.withoutImages = b.withoutImages) (i j : Nat) (operators : List Operator) :
    Coupled (fun a b => a.withoutImages = b.withoutImages) (a.executeAll page i operators)
      (b.executeAll page j (operators.filter fun operator => ¬ operator.DrawsImage)) := by
  induction operators generalizing i j a b with
  | nil => exact .pure hab
  | cons operator rest ih =>
    by_cases h : operator.DrawsImage
    · -- only the first run executes it, so the second makes its requests, which leave no trace
      rw [List.filter_cons_of_neg (by simp [h]), executeAll, ← pure_bind b fun machine =>
        machine.executeAll page j (rest.filter fun operator => ¬ operator.DrawsImage),
        ← executeMuted_of_silent page hsilent b i h]
      exact (coupled_executeMuted page hab i operator).bind fun _ _ h => ih h (i + 1) j
    · rw [List.filter_cons_of_pos (by simp [h])]
      exact (coupled_execute_of_not_drawsImage page hab i j h).bind fun _ _ h =>
        ih h (i + 1) (j + 1)

end Effects

end Machine

/-! ## Page contents -/

namespace Content

variable {m : Type → Type} [Monad m] [LawfulMonad m]

/-- What a machine leaves behind apart from images and warnings: all else that is in it, and the
paths and texts of the display list. -/
def apartFromImages (form : NormalForm) (machine : Machine) : Machine × DisplayList :=
  (machine.withoutImages, DisplayList.withoutImages (machine.items.normalized form))

theorem apartFromImages_eq (form : NormalForm) {a b : Machine}
    (h : a.withoutImages = b.withoutImages) :
    apartFromImages form a = apartFromImages form b := by
  simp only [apartFromImages, DisplayList.withoutImages_normalized,
    ← Machine.items_withoutImages, h]

/-- The reading without the operators that draw images. -/
def withoutImages (reading : Operator.Reading) : Operator.Reading :=
  { reading with operators := reading.operators.filter fun operator => ¬ operator.DrawsImage }

variable {reading : Operator.Reading}

/-- A run can leave out the operators that draw images, as far as everything but images is
concerned, if the store cannot notice that it is asked less often. -/
theorem finalMachine_withoutImages (page : PageContext m) (fonts : FontCache)
    (hlimit : reading.operators.length ≤ page.options.maxOperators)
    (hsilent : page.store.Silent) :
    apartFromImages page.options.normalForm <$> finalMachine page fonts reading =
      apartFromImages page.options.normalForm <$>
        finalMachine page fonts (withoutImages reading) := by
  have hkept : (withoutImages reading).operators.length ≤ page.options.maxOperators :=
    Nat.le_trans (List.length_filter_le _ _) hlimit
  rw [finalMachine, finalMachine, List.take_of_length_le hlimit, List.take_of_length_le hkept]
  exact (Machine.coupled_executeAll_filter page hsilent rfl 0 0 _).map_eq_map
    fun _ _ => apartFromImages_eq _

end Content

end PdfDisplay
