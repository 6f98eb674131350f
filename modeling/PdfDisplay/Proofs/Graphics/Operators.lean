import PdfDisplay.Graphics.Instruction

/-!
# What the operators can ask for

Which instructions an operator can be read as is decided by its name: the operands only supply
the numbers and names in them. `OperandReading.Makes p` says that every instruction that a
reading of operands makes has the property `p`, with one lemma for each form of reading.
-/

namespace PdfDisplay

namespace Instruction

namespace OperandReading

/-- Whether every instruction that a reading makes has a property. -/
def Makes (p : Instruction → Prop) (reading : OperandReading) : Prop :=
  ∀ operands instruction, reading operands = some instruction → p instruction

variable {p : Instruction → Prop}

theorem makes_none {i : Instruction} (h : p i) : Makes p (none i) := by
  intro operands instruction hread
  cases hread
  exact h

/-- A reading that takes something from the operands and goes on from it makes what its second part
makes. -/
theorem makes_bind {α : Type} {source : List Operand → Option α} {read : α → Option Instruction}
    (h : ∀ a instruction, read a = some instruction → p instruction) :
    Makes p fun operands => (source operands).bind read := by
  intro operands instruction hread
  obtain ⟨a, -, hread⟩ := Option.bind_eq_some_iff.mp hread
  exact h a instruction hread

theorem makes_number {make : Float → Instruction} (h : ∀ x, p (make x)) :
    Makes p (number make) := by
  refine makes_bind fun numbers instruction hread => ?_
  split at hread
  case h_1 => cases hread; exact h _
  case h_2 => cases hread

/-- A reading of two numbers makes what is made of any two; so do the readings of three, four and
six. -/
theorem makes_numbers₂ {make : Float → Float → Instruction} (h : ∀ x y, p (make x y)) :
    Makes p (numbers₂ make) := by
  refine makes_bind fun numbers instruction hread => ?_
  split at hread
  case h_1 => cases hread; exact h _ _
  case h_2 => cases hread

theorem makes_numbers₃ {make : Float → Float → Float → Instruction}
    (h : ∀ x y z, p (make x y z)) : Makes p (numbers₃ make) := by
  refine makes_bind fun numbers instruction hread => ?_
  split at hread
  case h_1 => cases hread; exact h _ _ _
  case h_2 => cases hread

theorem makes_numbers₄ {make : Float → Float → Float → Float → Instruction}
    (h : ∀ x y z w, p (make x y z w)) : Makes p (numbers₄ make) := by
  refine makes_bind fun numbers instruction hread => ?_
  split at hread
  case h_1 => cases hread; exact h _ _ _ _
  case h_2 => cases hread

theorem makes_numbers₆ {make : Float → Float → Float → Float → Float → Float → Instruction}
    (h : ∀ a b c d e f, p (make a b c d e f)) : Makes p (numbers₆ make) := by
  refine makes_bind fun numbers instruction hread => ?_
  split at hread
  case h_1 => cases hread; exact h _ _ _ _ _ _
  case h_2 => cases hread

/-- A reading of a matrix makes what is made of any matrix. -/
theorem makes_transform {make : Transform → Instruction} (h : ∀ t, p (make t)) :
    Makes p (transform make) :=
  makes_numbers₆ fun _ _ _ _ _ _ => h _

/-- A reading of a code makes what is made of the values with a code, and nothing of the others. -/
theorem makes_code {α : Type} {ofCode? : Int → Option α} {make : α → Instruction}
    (h : ∀ a, p (make a)) : Makes p (code ofCode? make) := by
  intro operands instruction hread
  obtain ⟨a, -, rfl⟩ := Option.map_eq_some_iff.mp hread
  exact h a

theorem makes_name {make : String → Instruction} (h : ∀ text, p (make text)) :
    Makes p (name make) := by
  intro operands instruction hread
  obtain ⟨text, -, rfl⟩ := Option.map_eq_some_iff.mp hread
  exact h text

theorem makes_string {make : Bytes → Instruction} (h : ∀ bytes, p (make bytes)) :
    Makes p (string make) := by
  intro operands instruction hread
  obtain ⟨bytes, -, rfl⟩ := Option.map_eq_some_iff.mp hread
  exact h bytes

theorem makes_dash (h : ∀ pattern, p (.style (.dash pattern))) : Makes p dash := by
  refine makes_bind fun last instruction hread => ?_
  split at hread
  case h_1 =>
    obtain ⟨phase, -, hread⟩ := Option.bind_eq_some_iff.mp hread
    cases hread
    exact h _
  case h_2 => cases hread

theorem makes_font (h : ∀ tag size, p (.text (.selectFont tag size))) : Makes p font := by
  refine makes_bind fun last instruction hread => ?_
  split at hread
  case h_1 =>
    obtain ⟨size, -, rfl⟩ := Option.map_eq_some_iff.mp hread
    exact h _ _
  case h_2 => cases hread

theorem makes_spacedString (h : ∀ word char bytes, p (.text (.showSpaced word char bytes))) :
    Makes p spacedString := by
  refine makes_bind fun last instruction hread => ?_
  split at hread
  case h_1 =>
    obtain ⟨word, -, hread⟩ := Option.bind_eq_some_iff.mp hread
    obtain ⟨char, -, hread⟩ := Option.bind_eq_some_iff.mp hread
    obtain ⟨bytes, -, hread⟩ := Option.bind_eq_some_iff.mp hread
    cases hread
    exact h _ _ _
  case h_2 => cases hread

theorem makes_pieces (h : ∀ pieces, p (.text (.showPieces pieces))) : Makes p pieces := by
  intro operands instruction hread
  rw [pieces] at hread
  split at hread
  case h_1 => cases hread; exact h _
  case h_2 => cases hread

/-- The components of a color are as many as there are, so nothing is asked of their number. -/
theorem makes_components {ink : Ink} (h : ∀ numbers, p (.setComponents ink numbers)) :
    Makes p (components ink) := by
  intro operands instruction hread
  cases hread
  exact h _

theorem makes_inlineImage (h : ∀ entries data, p (.drawImage entries data)) :
    Makes p inlineImage := by
  intro operands instruction hread
  rw [inlineImage.eq_def] at hread
  split at hread
  case h_1 => cases hread; exact h _ _
  case h_2 => cases hread

end OperandReading

/-! ## The table -/

open OperandReading

/-- What holds of everything that the readings in the table make, and of painting, holds of
everything that an operator asks for. -/
theorem of_ofOperator? {p : String → Instruction → Prop} {operator : Operator} {i : Instruction}
    (h : ofOperator? operator = some i) (htable : ∀ entry ∈ table, Makes (p entry.1) entry.2)
    (hpaint : ∀ name painting, PaintOperator.ofName? name = some painting →
      p name (.paint painting)) : p operator.name i := by
  rw [ofOperator?] at h
  split at h
  case h_1 painting hname =>
    cases h
    exact hpaint _ _ hname
  case h_2 =>
    obtain ⟨reading, hlookup, hread⟩ := Option.bind_eq_some_iff.mp h
    obtain ⟨before, behind, hentries, -⟩ := List.lookup_eq_some_iff.mp hlookup
    have hentry : (operator.name, reading) ∈ table := by
      rw [hentries]
      exact List.mem_append_right _ List.mem_cons_self
    exact htable _ hentry _ _ hread

/-- The operators that go on with the path. -/
def drawing : List String := ["m", "l", "c", "v", "y", "h", "re"]

/-- Whether a name is that of an operator which asks for an instruction, for those instructions that
are told from the rest by it. -/
def IsNamed (name : String) : Instruction → Prop
  | .save => name = "q"
  | .restore => name = "Q"
  | .concat _ => name = "cm"
  | .draw _ => name ∈ drawing
  | .paint painting => PaintOperator.ofName? name = some painting
  | .dropPath => name = "n"
  | .drawObject _ => name = "Do"
  | .drawImage _ _ => name = "BI"
  | _ => True

/-- **The instructions of the table have the names they stand under**, entry by entry. -/
theorem isNamed_table : ∀ entry ∈ table, Makes (IsNamed entry.1) entry.2 := by
  simp only [table, List.forall_mem_cons, List.not_mem_nil, false_implies, implies_true, and_true]
  refine ⟨makes_none ?_, makes_none ?_, makes_transform ?_, makes_number ?_, makes_code ?_,
    makes_code ?_, makes_number ?_, makes_dash ?_, makes_name ?_, makes_number ?_, makes_number ?_,
    makes_numbers₃ ?_, makes_numbers₃ ?_, makes_numbers₄ ?_, makes_numbers₄ ?_, makes_name ?_,
    makes_name ?_, makes_components ?_, makes_components ?_, makes_components ?_,
    makes_components ?_, makes_numbers₂ ?_, makes_numbers₂ ?_, makes_numbers₆ ?_,
    makes_numbers₄ ?_, makes_numbers₄ ?_, makes_none ?_, makes_numbers₄ ?_, makes_none ?_,
    makes_number ?_, makes_number ?_, makes_number ?_, makes_number ?_, makes_code ?_,
    makes_none ?_, makes_none ?_, makes_font ?_, makes_transform ?_, makes_numbers₂ ?_,
    makes_numbers₂ ?_, makes_none ?_, makes_number ?_, makes_string ?_, makes_string ?_,
    makes_spacedString ?_, makes_pieces ?_, makes_name ?_, makes_inlineImage ?_⟩ <;>
    simp [IsNamed, drawing]

/-- **An instruction has the name of the operator that asks for it**, so a property of instructions
can be read off the name of the operator. -/
theorem isNamed_of_ofOperator? {operator : Operator} {i : Instruction}
    (h : ofOperator? operator = some i) : IsNamed operator.name i :=
  of_ofOperator? h isNamed_table fun _ _ hname => hname

/-- The operator `q` asks for saving the state, whatever its operands are. -/
theorem ofOperator?_save {operator : Operator} (h : operator.name = "q") :
    ofOperator? operator = some .save := by
  obtain ⟨name, operands⟩ := operator
  subst h
  rfl

/-- The operator `Q` asks for restoring the state, whatever its operands are. -/
theorem ofOperator?_restore {operator : Operator} (h : operator.name = "Q") :
    ofOperator? operator = some .restore := by
  obtain ⟨name, operands⟩ := operator
  subst h
  rfl

/-- Whether a name and an instruction agree on saving and restoring. -/
def SavesBy (name : String) (i : Instruction) : Prop :=
  (i = .save ↔ name = "q") ∧ (i = .restore ↔ name = "Q")

/-- **Only `q` saves and only `Q` restores**, so counting their names is counting what a run saves
and restores. -/
theorem savesBy_of_ofOperator? {operator : Operator} {i : Instruction}
    (h : ofOperator? operator = some i) : SavesBy operator.name i := by
  have hnamed := isNamed_of_ofOperator? h
  refine ⟨⟨?_, fun hname => ?_⟩, ⟨?_, fun hname => ?_⟩⟩
  · rintro rfl
    exact hnamed
  · exact Option.some.inj (h.symm.trans (ofOperator?_save hname))
  · rintro rfl
    exact hnamed
  · exact Option.some.inj (h.symm.trans (ofOperator?_restore hname))

end Instruction

end PdfDisplay
