import Mathlib.Data.List.Forall2
import Mathlib.Data.List.Induction
import Mathlib.Tactic.IntervalCases
import PdfDisplay.Proofs.Graphics.Operators

/-!
# What operators ask of their operands

An operator reads a fixed number of operands from the end of its operand list, and each has to be of
a kind. `Operator.kinds?` lists the kinds for every operator but those that set a color by its
components, which read as many operands as there are, and inline images, which read their whole
list.

The readings of the instruction table do what the list says (`Instruction.isSome_of_kinds`): they
make an instruction exactly where the last operands fit, and do not look at those in front.
-/

namespace PdfDisplay

/-! ## Fitting operands -/

namespace Operand

/-- What an operand has to be. -/
inductive Kind where
  /-- A number. -/
  | number
  /-- A whole number from zero to a greatest one. -/
  | code (greatest : Int)
  /-- A name. -/
  | name
  /-- A string of either form. -/
  | string
  /-- An array. -/
  | array
  deriving DecidableEq, Repr

/-- The elements of an array. -/
def elements? : Operand → Option (List Operand)
  | .array elements => some elements
  | _ => none

/-- Whether an operand is of a kind. -/
def Kind.admits : Kind → Operand → Bool
  | number, operand => operand.number?.isSome
  | code greatest, operand => operand.whole?.any fun value => 0 ≤ value ∧ value ≤ greatest
  | name, operand => operand.name?.isSome
  | string, operand => operand.bytes?.isSome
  | array, operand => operand.elements?.isSome

/-- Whether operands end with as many as there are kinds, each of its kind. -/
def Fit (kinds : List Kind) (operands : List Operand) : Prop :=
  ∃ front last, operands = front ++ last ∧ List.Forall₂ (fun kind x => kind.admits x) kinds last

/-- **The last operands are an end of the list**: `last?` gives a list exactly if it has that many
elements and the operands end with it. -/
theorem last?_eq_some_iff {count : Nat} {operands last : List Operand} :
    last? count operands = some last ↔ ∃ front, operands = front ++ last ∧ last.length = count := by
  rw [last?]
  constructor
  · intro h
    split at h
    case isTrue hcount =>
      cases h
      refine ⟨operands.take (operands.length - count), (List.take_append_drop _ _).symm, ?_⟩
      rw [List.length_drop]
      omega
    case isFalse => cases h
  · rintro ⟨front, rfl, rfl⟩
    rw [if_pos (by simp), List.length_append, Nat.add_sub_cancel, List.drop_left]

/-- Operands in front of a list that is long enough do not change what its last ones are. -/
theorem last?_append {count : Nat} {operands : List Operand} (h : count ≤ operands.length)
    (extra : List Operand) : last? count (extra ++ operands) = last? count operands := by
  have hlast : last? count operands = some (operands.drop (operands.length - count)) := if_pos h
  obtain ⟨front, hfront, hlength⟩ := last?_eq_some_iff.mp hlast
  rw [hlast, last?_eq_some_iff]
  exact ⟨extra ++ front, by rw [List.append_assoc, ← hfront], hlength⟩

/-- Operands fit the kinds exactly if the last ones, as many as there are kinds, are of their kinds
one by one. -/
theorem fit_iff_last? {kinds : List Kind} {operands : List Operand} :
    Fit kinds operands ↔ ∃ last, last? kinds.length operands = some last ∧
      List.Forall₂ (fun kind x => kind.admits x) kinds last := by
  constructor
  · rintro ⟨front, last, rfl, hfit⟩
    exact ⟨last, last?_eq_some_iff.mpr ⟨front, rfl, hfit.length_eq.symm⟩, hfit⟩
  · rintro ⟨last, hlast, hfit⟩
    obtain ⟨front, hfront, -⟩ := last?_eq_some_iff.mp hlast
    exact ⟨front, last, hfront, hfit⟩

instance (kinds : List Kind) (operands : List Operand) : Decidable (Fit kinds operands) :=
  decidable_of_iff ((last? kinds.length operands).any fun last =>
      (kinds.zip last).all fun (kind, x) => kind.admits x) <| by
    rw [fit_iff_last?, Option.any_eq_true]
    refine exists_congr fun last => and_congr_right fun hlast => ?_
    obtain ⟨-, -, hlength⟩ := last?_eq_some_iff.mp hlast
    rw [List.forall₂_iff_zip]
    simp [hlength]

theorem last?_one (operands : List Operand) :
    last? 1 operands = operands.getLast?.map ([·]) := by
  cases operands using List.reverseRecOn with
  | nil => rfl
  | append_singleton front x =>
    rw [List.getLast?_concat]
    exact last?_eq_some_iff.mpr ⟨front, rfl, rfl⟩

end Operand

/-! ## Readings -/

namespace Instruction

namespace OperandReading

open Operand

/-- Whether a reading makes an instruction exactly of operand lists whose last operands are of some
kinds, and does not look at the operands in front. -/
structure Asks (kinds : List Kind) (reading : OperandReading) : Prop where
  /-- The operands that are read have to fit. -/
  isSome_iff : ∀ operands, (reading operands).isSome ↔ Fit kinds operands
  /-- Only they are looked at. -/
  append : ∀ (extra : List Operand) {operands : List Operand}, kinds.length ≤ operands.length →
    reading (extra ++ operands) = reading operands

/-- A reading of the last operands, which are as many as there are kinds. -/
theorem asks_last? {kinds : List Kind} {read : List Operand → Option Instruction}
    (h : ∀ last, last.length = kinds.length →
      ((read last).isSome ↔ List.Forall₂ (fun kind x => kind.admits x) kinds last)) :
    Asks kinds fun operands => (last? kinds.length operands).bind read where
  isSome_iff operands := by
    rw [fit_iff_last?, Option.isSome_bind, Option.any_eq_true]
    refine exists_congr fun last => and_congr_right fun hlast => ?_
    obtain ⟨-, -, hlength⟩ := last?_eq_some_iff.mp hlast
    exact h last hlength
  append extra operands hlength := by rw [last?_append hlength]

/-- A reading of the last operand asks for one operand of a kind, if what it makes of an operand is
decided by that kind. -/
theorem asks_getLast? {kind : Kind} {read : Operand → Option Instruction}
    (h : ∀ x, (read x).isSome ↔ kind.admits x) :
    Asks [kind] fun operands => operands.getLast?.bind read := by
  have hread : (fun operands : List Operand => operands.getLast?.bind read) =
      fun operands => (last? 1 operands).bind fun last => last.head?.bind read := by
    funext operands
    rw [last?_one, Option.bind_map]
    rfl
  rw [hread]
  refine asks_last? fun last hlength => ?_
  obtain ⟨x, rfl⟩ := List.length_eq_one_iff.mp hlength
  simp [h]

theorem asks_none (i : Instruction) : Asks [] (none i) :=
  ⟨fun operands => by simpa [none] using ⟨operands, [], by simp⟩, fun _ _ _ => rfl⟩

/-- Operands are all numbers, and as many numbers are read, or else nothing is read. -/
theorem mapM_number?_cases (operands : List Operand) :
    (∃ numbers, operands.mapM number? = some numbers ∧ numbers.length = operands.length ∧
        ∀ x ∈ operands, Kind.number.admits x) ∨
      operands.mapM number? = Option.none ∧ ¬ ∀ x ∈ operands, Kind.number.admits x := by
  -- by induction over the operands: one that is no number makes the whole reading fail
  induction operands with
  | nil => exact .inl ⟨[], rfl, rfl, List.forall_mem_nil _⟩
  | cons x rest ih =>
    rw [List.mapM_cons, List.forall_mem_cons]
    cases hx : x.number? with
    | none =>
      refine .inr ⟨rfl, fun h => ?_⟩
      simp [Kind.admits, hx] at h
    | some number =>
      obtain ⟨numbers, hread, hlength, hall⟩ | ⟨hread, hall⟩ := ih
      · refine .inl ⟨number :: numbers, ?_, congrArg (· + 1) hlength, ?_, hall⟩
        · rw [hread]
          rfl
        · rw [Kind.admits, hx]
          rfl
      · refine .inr ⟨?_, fun h => hall h.2⟩
        rw [hread]
        rfl

/-- Elements fit one kind repeated exactly if each of them is of that kind. -/
theorem forall₂_replicate_iff {kind : Kind} {last : List Operand} :
    List.Forall₂ (fun kind x => Kind.admits kind x) (List.replicate last.length kind) last ↔
      ∀ x ∈ last, kind.admits x := by
  induction last with
  | nil => simp
  | cons x rest ih =>
    rw [List.length_cons, List.replicate_succ, List.forall₂_cons, ih, List.forall_mem_cons]

/-- **A reading of so many numbers asks for that many operands, each a number.** All the operators
with a fixed count of numbers are cases of it. -/
theorem asks_numbers {count : Nat} {read : List Float → Option Instruction}
    (h : ∀ numbers, numbers.length = count → (read numbers).isSome) :
    Asks (List.replicate count .number) fun operands =>
      (lastNumbers? count operands).bind read := by
  have hlast := @asks_last? (List.replicate count .number) fun last =>
    (last.mapM number?).bind read
  simp only [List.length_replicate] at hlast
  -- taking the last operands and reading them as numbers are two steps of one bind
  have hread : (fun operands => (lastNumbers? count operands).bind read) =
      fun operands => (last? count operands).bind fun last => (last.mapM number?).bind read := by
    funext operands
    exact Option.bind_assoc ..
  rw [hread]
  refine hlast fun last hlength => ?_
  subst hlength
  rw [forall₂_replicate_iff]
  obtain ⟨numbers, hmap, hcount, hall⟩ | ⟨hmap, hall⟩ := mapM_number?_cases last
  · rw [hmap, Option.bind_some]
    exact iff_of_true (h numbers hcount) hall
  · rw [hmap, Option.bind_none]
    exact iff_of_false Bool.false_ne_true hall

theorem asks_number {make : Float → Instruction} : Asks [.number] (number make) := by
  refine @asks_numbers 1 _ fun numbers hlength => ?_
  obtain ⟨x, rfl⟩ := List.length_eq_one_iff.mp hlength
  rfl

theorem asks_numbers₂ {make : Float → Float → Instruction} :
    Asks [.number, .number] (numbers₂ make) := by
  refine @asks_numbers 2 _ fun numbers hlength => ?_
  obtain ⟨x, y, rfl⟩ := List.length_eq_two.mp hlength
  rfl

theorem asks_numbers₃ {make : Float → Float → Float → Instruction} :
    Asks [.number, .number, .number] (numbers₃ make) := by
  refine @asks_numbers 3 _ fun numbers hlength => ?_
  obtain ⟨x, y, z, rfl⟩ := List.length_eq_three.mp hlength
  rfl

theorem asks_numbers₄ {make : Float → Float → Float → Float → Instruction} :
    Asks [.number, .number, .number, .number] (numbers₄ make) := by
  refine @asks_numbers 4 _ fun numbers hlength => ?_
  match numbers, hlength with
  | [_, _, _, _], _ => rfl

theorem asks_numbers₆ {make : Float → Float → Float → Float → Float → Float → Instruction} :
    Asks [.number, .number, .number, .number, .number, .number] (numbers₆ make) := by
  refine @asks_numbers 6 _ fun numbers hlength => ?_
  match numbers, hlength with
  | [_, _, _, _, _, _], _ => rfl

/-- A reading of what the last operand is seen as. -/
theorem asks_view {α : Type} {kind : Kind} {view : Operand → Option α} {make : α → Instruction}
    (h : ∀ x, (view x).isSome ↔ kind.admits x) :
    Asks [kind] fun operands => (operands.getLast?.bind view).map make := by
  have hread : (fun operands : List Operand => (operands.getLast?.bind view).map make) =
      fun operands => operands.getLast?.bind fun x => (view x).map make := by
    funext operands
    rw [Option.map_bind]
    rfl
  rw [hread]
  exact asks_getLast? fun x => by rw [Option.isSome_map, h]

/-- A reading of a code asks for a whole number in the range in which the codes are listed, and
refuses what the list leaves out. -/
theorem asks_code {α : Type} {ofCode? : Int → Option α} {make : α → Instruction} {greatest : Int}
    (h : ∀ value, (ofCode? value).isSome ↔ 0 ≤ value ∧ value ≤ greatest) :
    Asks [.code greatest] (code ofCode? make) := by
  have hread : code ofCode? make = fun operands =>
      (operands.getLast?.bind fun x => x.whole?.bind ofCode?).map make := by
    funext operands
    rw [code, Option.bind_assoc]
  rw [hread]
  refine asks_view fun x => ?_
  rw [Kind.admits]
  cases x.whole? with
  | none => simp
  | some value => simp [h]

theorem asks_name {make : String → Instruction} : Asks [.name] (name make) :=
  asks_view fun _ => .rfl

theorem asks_string {make : Bytes → Instruction} : Asks [.string] (string make) :=
  asks_view fun _ => .rfl

/-- Showing an array asks for the array only: elements that are neither strings nor numbers are left
out of it and refuse nothing. -/
theorem asks_pieces : Asks [.array] pieces := by
  have hread : pieces = fun operands => (operands.getLast?.bind elements?).map fun elements =>
      .text (.showPieces (elements.filterMap piece?)) := by
    funext operands
    rw [pieces.eq_def]
    cases operands.getLast? with
    | none => rfl
    | some x => cases x <;> rfl
  rw [hread]
  exact asks_view fun _ => .rfl

/-- A dash pattern asks for an array and a number, and does not ask what the array holds. -/
theorem asks_dash : Asks [.array, .number] dash := by
  refine asks_last? fun last hlength => ?_
  obtain ⟨x, phase, rfl⟩ := List.length_eq_two.mp hlength
  cases x <;> cases phase <;> simp [Kind.admits, elements?, number?]

theorem asks_font : Asks [.name, .number] font := by
  refine asks_last? fun last hlength => ?_
  obtain ⟨x, size, rfl⟩ := List.length_eq_two.mp hlength
  cases x <;> cases size <;> simp [Kind.admits, number?, name?]

theorem asks_spacedString : Asks [.number, .number, .string] spacedString := by
  refine asks_last? fun last hlength => ?_
  obtain ⟨word, char, x, rfl⟩ := List.length_eq_three.mp hlength
  cases hword : word.number? <;> cases hchar : char.number? <;> cases hx : x.bytes? <;>
    simp [Kind.admits, hword, hchar, hx]

end OperandReading

/-! ## The table -/

open OperandReading

/-- The operators by the kinds of the operands that they read. -/
def kindGroups : List (List Operand.Kind × List String) := [
  ([], ["q", "Q", "h", "n", "BT", "ET", "T*", "S", "s", "f", "F", "f*", "B", "B*", "b", "b*"]),
  ([.number], ["w", "M", "g", "G", "Tc", "Tw", "TL", "Ts", "Tz"]),
  ([.number, .number], ["m", "l", "Td", "TD"]),
  ([.number, .number, .number], ["rg", "RG"]),
  ([.number, .number, .number, .number], ["k", "K", "v", "y", "re"]),
  ([.number, .number, .number, .number, .number, .number], ["cm", "c", "Tm"]),
  ([.code 2], ["J", "j"]),
  ([.code 7], ["Tr"]),
  ([.array, .number], ["d"]),
  ([.name], ["gs", "cs", "CS", "Do"]),
  ([.name, .number], ["Tf"]),
  ([.string], ["Tj", "\x27"]),
  ([.number, .number, .string], ["\x22"]),
  ([.array], ["TJ"])]

/-- The kinds of the operands that an operator reads from the end of its list. -/
def kinds? (name : String) : Option (List Operand.Kind) :=
  (kindGroups.find? (name ∈ ·.2)).map (·.1)

/-- What the operators that set a color by as many components as there are set it for. -/
def componentInk? (name : String) : Option Ink :=
  match name with
  | "sc" => some .fill
  | "scn" => some .fill
  | "SC" => some .stroke
  | "SCN" => some .stroke
  | _ => .none

/-- The operators that take effect in text objects only. -/
def textNames : List String := ["Tf", "Tm", "Td", "TD", "T*", "Tz", "Tj", "TJ", "\x27", "\x22"]

/-- Whether an operator is known. -/
def Known (name : String) : Prop :=
  (kinds? name).isSome ∨ (componentInk? name).isSome ∨ name = "BI"

instance (name : String) : Decidable (Known name) :=
  inferInstanceAs (Decidable (_ ∨ _ ∨ _))

/-- Whether a reading asks of its operands what is listed for its name. -/
def Follows (entry : String × OperandReading) : Prop :=
  ∀ kinds, kinds? entry.1 = some kinds → Asks kinds entry.2

/-- A reading follows the list if it asks for the kinds that are listed under its name. -/
theorem OperandReading.Asks.follows {name : String} {reading : OperandReading}
    {kinds : List Operand.Kind} (h : Asks kinds reading) (hname : kinds? name = some kinds) :
    Follows (name, reading) := by
  intro kinds' hname'
  cases hname.symm.trans hname'
  exact h

/-- A name under which nothing is listed puts no demand on its reading. -/
theorem follows_of_none {name : String} {reading : OperandReading} (h : kinds? name = .none) :
    Follows (name, reading) := by
  intro kinds hname
  cases h.symm.trans hname

/-- The codes of line caps are the whole numbers from 0 to 2, and no others. -/
theorem isSome_lineCap (value : Int) :
    (LineCap.ofCode? value).isSome ↔ 0 ≤ value ∧ value ≤ 2 := by
  constructor
  · intro h
    rw [LineCap.ofCode?.eq_def] at h
    split at h
    case h_4 => cases h
    all_goals decide
  · rintro ⟨hlow, hhigh⟩
    interval_cases value <;> rfl

theorem isSome_lineJoin (value : Int) :
    (LineJoin.ofCode? value).isSome ↔ 0 ≤ value ∧ value ≤ 2 := by
  constructor
  · intro h
    rw [LineJoin.ofCode?.eq_def] at h
    split at h
    case h_4 => cases h
    all_goals decide
  · rintro ⟨hlow, hhigh⟩
    interval_cases value <;> rfl

/-- The codes of text render modes are the whole numbers from 0 to 7, and no others. -/
theorem isSome_renderMode (value : Int) :
    (TextRenderMode.ofCode? value).isSome ↔ 0 ≤ value ∧ value ≤ 7 := by
  constructor
  · intro h
    rw [TextRenderMode.ofCode?.eq_def] at h
    split at h
    case h_9 => cases h
    all_goals decide
  · rintro ⟨hlow, hhigh⟩
    interval_cases value <;> rfl

/-- **Every reading of the instruction table asks for what is listed**: the table is gone through
entry by entry, each settled by the lemma of its reading. -/
theorem follows_table : ∀ entry ∈ table, Follows entry := by
  simp only [table, List.forall_mem_cons, List.not_mem_nil, false_implies, implies_true, and_true]
  -- in the order of the table; its last entries set colors, for which no kinds are listed
  exact ⟨(asks_none _).follows rfl, (asks_none _).follows rfl, asks_numbers₆.follows rfl,
    asks_number.follows rfl, (asks_code isSome_lineCap).follows rfl,
    (asks_code isSome_lineJoin).follows rfl, asks_number.follows rfl, asks_dash.follows rfl,
    asks_name.follows rfl, asks_number.follows rfl, asks_number.follows rfl,
    asks_numbers₃.follows rfl, asks_numbers₃.follows rfl, asks_numbers₄.follows rfl,
    asks_numbers₄.follows rfl, asks_name.follows rfl, asks_name.follows rfl, follows_of_none rfl,
    follows_of_none rfl, follows_of_none rfl, follows_of_none rfl, asks_numbers₂.follows rfl,
    asks_numbers₂.follows rfl, asks_numbers₆.follows rfl, asks_numbers₄.follows rfl,
    asks_numbers₄.follows rfl, (asks_none _).follows rfl, asks_numbers₄.follows rfl,
    (asks_none _).follows rfl, asks_number.follows rfl, asks_number.follows rfl,
    asks_number.follows rfl, asks_number.follows rfl, (asks_code isSome_renderMode).follows rfl,
    (asks_none _).follows rfl, (asks_none _).follows rfl, asks_font.follows rfl,
    asks_numbers₆.follows rfl, asks_numbers₂.follows rfl, asks_numbers₂.follows rfl,
    (asks_none _).follows rfl, asks_number.follows rfl, asks_string.follows rfl,
    asks_string.follows rfl, asks_spacedString.follows rfl, asks_pieces.follows rfl,
    asks_name.follows rfl, follows_of_none rfl⟩

/-! ## What the kinds decide -/

/-- The painting operators read no operands, so the list names the empty list of kinds for each. -/
theorem kinds?_of_ofName? {name : String} {painting : PaintOperator}
    (h : PaintOperator.ofName? name = some painting) : kinds? name = some [] := by
  rw [PaintOperator.ofName?.eq_def] at h
  split at h
  case h_10 => cases h
  all_goals rfl

theorem known_table : ∀ entry ∈ table, Known entry.1 := by
  simp only [table, List.forall_mem_cons, List.not_mem_nil, false_implies, implies_true, and_true]
  decide +kernel

/-- An operator that is not known asks for nothing, whatever its operands are, and the machine
passes over it. -/
theorem ofOperator?_eq_none_of_unknown {operator : Operator} (h : ¬ Known operator.name) :
    ofOperator? operator = .none := by
  by_contra hsome
  obtain ⟨i, hread⟩ := Option.ne_none_iff_exists'.mp hsome
  refine h (of_ofOperator? (p := fun name _ => Known name) hread ?_ ?_)
  · exact fun entry hentry _ _ _ => known_table entry hentry
  · intro name painting hname
    exact .inl (Option.isSome_of_eq_some (kinds?_of_ofName? hname))

/-- Whatever the list of kinds names is an operator: it paints a path or stands in the instruction
table, so no kind is listed in vain. -/
theorem isSome_of_kinds :
    ∀ group ∈ kindGroups, ∀ name ∈ group.2,
      (PaintOperator.ofName? name).isSome ∨ (table.lookup name).isSome := by
  decide +kernel

/-- An operator with listed kinds has a reading that asks for them. -/
theorem exists_reading {name : String} {kinds : List Operand.Kind} (h : kinds? name = some kinds) :
    ∃ reading, Asks kinds reading ∧
      ∀ operands, ofOperator? ⟨name, operands⟩ = reading operands := by
  cases hpaint : PaintOperator.ofName? name with
  -- painting operators come before the table and read no operands
  | some painting =>
    cases h.symm.trans (kinds?_of_ofName? hpaint)
    refine ⟨_, asks_none (.paint painting), fun operands => ?_⟩
    rw [ofOperator?, hpaint]
    rfl
  | none =>
    obtain ⟨group, hgroup, -⟩ := Option.map_eq_some_iff.mp h
    -- the name stands in some group, and every name of a group has a reading
    have hsome := isSome_of_kinds group (List.mem_of_find?_eq_some hgroup) name
      (by simpa using List.find?_some hgroup)
    rw [hpaint] at hsome
    obtain ⟨reading, hlookup⟩ := Option.isSome_iff_exists.mp (hsome.resolve_left Bool.false_ne_true)
    obtain ⟨before, behind, hentries, -⟩ := List.lookup_eq_some_iff.mp hlookup
    have hentry : (name, reading) ∈ table := by
      rw [hentries]
      exact List.mem_append_right _ List.mem_cons_self
    refine ⟨reading, follows_table _ hentry kinds h, fun operands => ?_⟩
    rw [ofOperator?, hpaint]
    dsimp only
    rw [hlookup, Option.bind_some]

/-- **An operator with listed kinds asks for something exactly if its last operands fit.** -/
theorem isSome_ofOperator?_iff {operator : Operator} {kinds : List Operand.Kind}
    (h : kinds? operator.name = some kinds) :
    (ofOperator? operator).isSome ↔ Operand.Fit kinds operator.operands := by
  obtain ⟨reading, hasks, hread⟩ := exists_reading h
  rw [hread operator.operands]
  exact hasks.isSome_iff operator.operands

/-- **Operands in front of those that are read are passed over.** -/
theorem ofOperator?_append {operator : Operator} {kinds : List Operand.Kind}
    (h : kinds? operator.name = some kinds) (hlength : kinds.length ≤ operator.operands.length)
    (extra : List Operand) :
    ofOperator? ⟨operator.name, extra ++ operator.operands⟩ = ofOperator? operator := by
  obtain ⟨reading, hasks, hread⟩ := exists_reading h
  rw [hread, hread operator.operands]
  exact hasks.append extra hlength

/-- The operators that set color components make an instruction of any operands at all, those that
are no numbers left out. -/
theorem ofOperator?_of_componentInk {name : String} {ink : Ink} (h : componentInk? name = some ink)
    (operands : List Operand) :
    ofOperator? ⟨name, operands⟩ = some (.setComponents ink (Operand.components operands)) := by
  rw [componentInk?.eq_def] at h
  split at h
  case h_5 => cases h
  all_goals
    cases h
    rfl

/-- An inline image written as an operator of its own asks for the form in which the reader hands it
over, a dictionary and the data, and for no other. -/
theorem ofOperator?_image_eq_none {operands : List Operand}
    (h : ∀ entries data, operands ≠ [.dictionary entries, .literalString data]) :
    ofOperator? ⟨"BI", operands⟩ = .none := by
  show inlineImage operands = .none
  rw [inlineImage.eq_def]
  split
  case h_1 entries data => exact absurd rfl (h entries data)
  case h_2 => rfl

/-- Whether an instruction is one of an open text object. -/
def IsText (i : Instruction) : Prop := ∃ instruction, i = .text instruction

/-- The readings of the operators of text objects make instructions of text objects only, each of
them by its lemma. -/
theorem makes_isText : ∀ name ∈ textNames,
    ∃ reading, Makes IsText reading ∧
      ∀ operands, ofOperator? ⟨name, operands⟩ = reading operands := by
  simp only [textNames, List.forall_mem_cons, List.not_mem_nil, false_implies, implies_true,
    and_true]
  exact ⟨⟨font, makes_font fun _ _ => ⟨_, rfl⟩, fun _ => rfl⟩,
    ⟨transform (.text <| .setMatrix ·), makes_transform fun _ => ⟨_, rfl⟩, fun _ => rfl⟩,
    ⟨numbers₂ (.text <| .moveBy · ·), makes_numbers₂ fun _ _ => ⟨_, rfl⟩, fun _ => rfl⟩,
    ⟨numbers₂ (.text <| .moveBySettingLeading · ·), makes_numbers₂ fun _ _ => ⟨_, rfl⟩,
      fun _ => rfl⟩,
    ⟨none (.text .nextLine), makes_none ⟨_, rfl⟩, fun _ => rfl⟩,
    ⟨number fun percent => .text (.setScaling (percent / 100.0)), makes_number fun _ => ⟨_, rfl⟩,
      fun _ => rfl⟩,
    ⟨string fun bytes => .text (.showPieces [.string bytes]), makes_string fun _ => ⟨_, rfl⟩,
      fun _ => rfl⟩,
    ⟨pieces, makes_pieces fun _ => ⟨_, rfl⟩, fun _ => rfl⟩,
    ⟨string (.text <| .showOnNextLine ·), makes_string fun _ => ⟨_, rfl⟩, fun _ => rfl⟩,
    ⟨spacedString, makes_spacedString fun _ _ _ => ⟨_, rfl⟩, fun _ => rfl⟩⟩

/-- **The operators of text objects ask for nothing that takes effect anywhere else.** -/
theorem isText_of_ofOperator? {operator : Operator} (hname : operator.name ∈ textNames)
    {i : Instruction} (h : ofOperator? operator = some i) : IsText i := by
  obtain ⟨reading, hmakes, hread⟩ := makes_isText operator.name hname
  exact hmakes operator.operands i ((hread operator.operands).symm.trans h)

end Instruction

end PdfDisplay
