import PdfDisplay.Proofs.Syntax.Cutting
import PdfDisplay.Proofs.Syntax.RoundTrip
import PdfDisplay.Proofs.Syntax.Searching

/-!
# How deep operands nest, and how many operators there are

Where more than `Container.maxOpen` containers are open, no value begins. So no operand nests
deeper than one container more, whatever its bytes are (`Operand.nesting_le_of_read`); the entries
of an inline image are operands, and stand in one further dictionary. The invariant is that the
containers that are open leave room for each other (`Container.Shallow`).

What holds of all operators of page contents is shown along `Operator.Reaches`, the places that the
reading comes to: `Operator.Reaches.exists_end` says that the reading ends at one of them.
-/

namespace PdfDisplay

/-! ## Open containers -/

namespace Operand

theorem itemNesting_le_iff {items : List Operand} {depth : Nat} :
    itemNesting items ≤ depth ↔ ∀ item ∈ items, item.nesting ≤ depth := by
  induction items with
  | nil => simp [itemNesting]
  | cons item items ih => rw [itemNesting, Nat.max_le, ih, List.forall_mem_cons]

theorem entryNesting_le_iff {entries : List (String × Operand)} {depth : Nat} :
    entryNesting entries ≤ depth ↔ ∀ entry ∈ entries, entry.2.nesting ≤ depth := by
  induction entries with
  | nil => simp [entryNesting]
  | cons entry entries ih => rw [entryNesting, Nat.max_le, ih, List.forall_mem_cons]

theorem nesting_of_constant? {word : String} {value : Operand}
    (h : constant? word = some value) : value.nesting = 0 := by
  rw [constant?] at h
  repeat' split at h
  all_goals cases h
  all_goals rfl

end Operand

namespace Container

open Operand (itemNesting_le_iff entryNesting_le_iff)

variable {stack : List Container} {v : Operand} {l : Lexeme} {next : Operand ⊕ List Container}

/-- What a container is read as if it ends. -/
def value : Container → Operand
  | array items => .array items.reverse
  | dictionary entries _ => .dictionary entries.reverse

/-- Whether each of the open containers nests no deeper than those around it leave room for. -/
def Shallow : List Container → Prop
  | [] => True
  | inner :: outer =>
    outer.length ≤ maxOpen ∧ inner.value.nesting ≤ maxOpen + 1 - outer.length ∧ Shallow outer

/-- Whether the containers that are open are shallow, or the value nests as deep as allowed. -/
def ShallowNext : Operand ⊕ List Container → Prop
  | .inl value => value.nesting ≤ maxOpen + 1
  | .inr stack => Shallow stack

theorem Shallow.put (h : Shallow stack) (hv : v.nesting ≤ maxOpen + 1 - stack.length) :
    ShallowNext (put v stack) := by
  cases stack with
  | nil => exact hv
  | cons inner outer =>
    obtain ⟨hlength, hinner, houter⟩ := h
    -- the containers outside take their share of the levels; `room` is what is left inside
    obtain ⟨room, hroom⟩ : ∃ room, maxOpen + 1 - outer.length = room + 1 :=
      ⟨maxOpen - outer.length, by omega⟩
    rw [List.length_cons] at hv
    replace hv : v.nesting ≤ room := by omega
    rw [hroom] at hinner
    cases inner with
    | array items =>
      refine ⟨hlength, ?_, houter⟩
      rw [Container.value, Operand.nesting, Nat.add_le_add_iff_right, itemNesting_le_iff] at hinner
      rw [hroom, Container.value, Operand.nesting, Nat.add_le_add_iff_right, itemNesting_le_iff,
        List.reverse_cons, List.forall_mem_append, List.forall_mem_singleton]
      exact ⟨hinner, hv⟩
    | dictionary entries key? =>
      cases key? with
      | none => exact ⟨hlength, hroom ▸ hinner, houter⟩
      | some key =>
        refine ⟨hlength, ?_, houter⟩
        rw [Container.value, Operand.nesting, Nat.add_le_add_iff_right, entryNesting_le_iff]
          at hinner
        rw [hroom, Container.value, Operand.nesting, Nat.add_le_add_iff_right, entryNesting_le_iff,
          List.reverse_cons, List.forall_mem_append, List.forall_mem_singleton]
        exact ⟨hinner, hv⟩

theorem Shallow.begin (h : Shallow stack) (hbegin : begin stack l = .ok next) :
    ShallowNext next := by
  rw [Container.begin.eq_def] at hbegin
  split at hbegin
  case isTrue => cases hbegin
  case isFalse hroom =>
    obtain rfl := Except.ok.inj hbegin
    have hscalar (v : Operand) (hv : v.nesting = 0) : ShallowNext (Container.put v stack) :=
      h.put (hv ▸ Nat.zero_le _)
    cases l with
    | arrayStart => exact ⟨Nat.le_of_not_lt hroom, by change 1 ≤ _; omega, h⟩
    | dictionaryStart => exact ⟨Nat.le_of_not_lt hroom, by change 1 ≤ _; omega, h⟩
    | keyword word =>
      refine hscalar _ ?_
      cases hword : Operand.constant? word with
      | none => rfl
      | some v => exact Operand.nesting_of_constant? hword
    | _ => exact hscalar _ rfl

/-- **The containers that are open leave room for each other**, whatever lexeme comes. -/
theorem Shallow.feed (h : Shallow stack) (hfeed : feed stack l = .ok next) :
    ShallowNext next := by
  revert hfeed
  fun_cases Container.feed stack l with
  | case1 | case3 =>
    rintro ⟨⟩
    exact h.2.2.put h.2.1
  | case2 | case4 | case5 =>
    rintro ⟨⟩
    exact h
  | case6 => exact h.begin

end Container

/-! ## Operands and inline images -/

namespace Operand

open Container (maxOpen Shallow)

variable {text rest : Bytes} {value : Operand}

/-- **A value is nested one level deeper at most than containers may be open where it begins**, by
induction over the lexemes that complete it. -/
theorem nesting_le_of_finish {stack : List Container} (hstack : Shallow stack)
    (h : finish stack text = .ok (value, rest)) : value.nesting ≤ maxOpen + 1 := by
  fun_induction finish stack text with
  | case1 | case2 | case3 => cases h
  | case4 _ _ _ _ _ _ _ hfeed =>
    cases h
    exact hstack.feed hfeed
  | case5 _ _ _ _ _ _ _ hfeed ih => exact ih (hstack.feed hfeed) h

/-- **No operand nests deeper than containers may be open, and one more.** -/
theorem nesting_le_of_read {l : Lexeme} (h : read l text = .ok (value, rest)) :
    value.nesting ≤ maxOpen + 1 := by
  have hnone : Shallow [] := trivial
  rw [read] at h
  split at h
  case h_1 => cases h
  case h_2 hbegin =>
    cases h
    exact hnone.begin hbegin
  case h_3 hbegin => exact nesting_le_of_finish (hnone.begin hbegin) h

end Operand

namespace InlineImage

open Container (maxOpen)

variable {text rest : Bytes}

theorem nesting_le_of_readEntries {read entries : List (String × Operand)}
    (hread : ∀ entry ∈ read, entry.2.nesting ≤ maxOpen + 1)
    (h : readEntries read text = .ok (entries, rest)) :
    ∀ entry ∈ entries, entry.2.nesting ≤ maxOpen + 1 := by
  fun_induction readEntries read text with
  | case1 | case2 | case4 | case5 | case7 => cases h
  | case3 | case6 =>
    cases h
    exact fun entry hentry => hread entry (List.mem_reverse.mp hentry)
  | case8 _ _ _ _ _ _ _ _ _ _ _ _ _ hvalue _ ih =>
    exact ih (List.forall_mem_cons.mpr ⟨Operand.nesting_le_of_read hvalue, hread⟩) h
  | case9 _ _ _ _ _ _ _ _ ih => exact ih hread h

theorem nesting_le_of_read {image : InlineImage} (h : read text = .ok (image, rest)) :
    ∀ entry ∈ image.entries, entry.2.nesting ≤ maxOpen + 1 := by
  rw [read] at h
  split at h
  case h_1 => cases h
  case h_2 hentries =>
    split at h
    case h_1 =>
      cases h
      exact nesting_le_of_readEntries (List.forall_mem_nil _) hentries
    case h_2 => cases h

end InlineImage

/-! ## Contents -/

namespace Operator

open Container (maxOpen)

variable {content text rest : Bytes} {read : List Operator} {pending : List Operand}

/-- How deep operands of an operator may nest: the entries of an inline image stand in a
dictionary. -/
def maxNesting (operator : Operator) : Nat :=
  if operator.name = "BI" then maxOpen + 2 else maxOpen + 1

theorem lt_maxNesting (operator : Operator) : maxOpen < operator.maxNesting := by
  rw [maxNesting]
  split <;> omega

theorem nesting_ofInlineImage {image : InlineImage}
    (h : ∀ entry ∈ image.entries, entry.2.nesting ≤ maxOpen + 1) :
    ∀ value ∈ (ofInlineImage image).operands, value.nesting ≤ (ofInlineImage image).maxNesting := by
  refine List.forall_mem_cons.mpr ⟨?_, List.forall_mem_singleton.mpr (Nat.zero_le _)⟩
  exact Nat.succ_le_succ (Operand.entryNesting_le_iff.mpr h)

/-- Whether the values that a piece holds nest as deep as allowed. -/
def Piece.IsShallow : Piece → Prop
  | .operand value => value.nesting ≤ maxOpen + 1
  | .image i => ∀ entry ∈ i.entries, entry.2.nesting ≤ maxOpen + 1
  | .word _ | .stray => True

theorem Piece.isShallow_of_read {l : Lexeme} {piece : Piece}
    (h : Piece.read l text = .ok (piece, rest)) : piece.IsShallow := by
  have hoperand (h : (Operand.read l text).map (fun done => (Piece.operand done.1, done.2)) =
      .ok (piece, rest)) : piece.IsShallow := by
    cases hread : Operand.read l text with
    | error e => rw [hread] at h; cases h
    | ok done =>
      rw [hread] at h
      cases h
      exact Operand.nesting_le_of_read hread
  -- only an inline image and an operand carry values; every other piece is trivially shallow
  cases l with
  | keyword name =>
    rw [Piece.read] at h
    split at h
    case isTrue =>
      cases hread : InlineImage.read text with
      | error e => rw [hread] at h; cases h
      | ok done =>
        rw [hread] at h
        cases h
        exact InlineImage.nesting_le_of_read hread
    case isFalse =>
      split at h
      case h_1 value hconstant =>
        cases h
        exact Nat.le_trans (Nat.le_of_eq (Operand.nesting_of_constant? hconstant)) (Nat.zero_le _)
      case h_2 =>
        cases h
        trivial
  | arrayEnd | dictionaryEnd =>
    cases h
    trivial
  | _ => exact hoperand h

namespace Reaches

/-- The operands of all operators nest as deep as allowed, also those that no word has taken. -/
theorem nesting_le (h : Reaches content read pending text) :
    (∀ operator ∈ read, ∀ value ∈ operator.operands, value.nesting ≤ operator.maxNesting) ∧
      ∀ value ∈ pending, value.nesting ≤ maxOpen + 1 := by
  induction h with
  | start => exact ⟨List.forall_mem_nil _, List.forall_mem_nil _⟩
  | @piece read pending _ _ _ _ piece _ _ hpiece ih =>
    obtain ⟨hread, hpending⟩ := ih
    have hshallow := Piece.isShallow_of_read hpiece
    cases piece with
    | operand value => exact ⟨hread, List.forall_mem_cons.mpr ⟨hshallow, hpending⟩⟩
    | word name =>
      refine ⟨List.forall_mem_cons.mpr ⟨fun value hvalue => ?_, hread⟩, List.forall_mem_nil _⟩
      exact Nat.le_trans (hpending value (List.mem_reverse.mp hvalue)) (lt_maxNesting _)
    | image image =>
      have himage := nesting_ofInlineImage hshallow
      exact ⟨List.forall_mem_cons.mpr ⟨himage, hread⟩, List.forall_mem_nil _⟩
    | stray => exact ⟨hread, hpending⟩

/-- Every operator has taken a byte of its own, so the operators read and the bytes left are no more
than the bytes there were. -/
theorem length_add_le (h : Reaches content read pending text) :
    read.length + text.length ≤ content.length := by
  induction h with
  | start => exact Nat.le_of_eq (Nat.zero_add _)
  | @piece read pending _ _ _ _ piece _ hscan hpiece ih =>
    have hlength := length_lt_of_piece hscan hpiece
    have hoperators : (piece.operators read pending).length ≤ read.length + 1 := by
      cases piece with
      | word | image => exact Nat.le_refl _
      | operand | stray => exact Nat.le_succ _
    omega

/-- **The reading ends at a place that it comes to.** -/
theorem exists_end (content : Bytes) :
    ∃ read pending text stopped?, Reaches content read pending text ∧
      readAll content = ⟨read.reverse, stopped?⟩ := by
  suffices hend : ∀ {read pending text}, Reaches content read pending text →
      ∃ read pending text stopped?, Reaches content read pending text ∧
        readAll content = ⟨read.reverse, stopped?⟩ from hend .start
  intro read pending text h
  induction hn : text.length using Nat.strongRecOn generalizing read pending text with
  | ind n ih =>
    obtain ⟨stopped?, hstopped⟩ | ⟨l, mid, piece, rest, hscan, hpiece⟩ := readFrom_cases text
    · exact ⟨read, pending, text, stopped?, h, h.readAll_eq.trans (hstopped read pending)⟩
    · exact ih _ (hn ▸ length_lt_of_piece hscan hpiece) (.piece h hscan hpiece) rfl

end Reaches

/-- **There are no more operators than bytes**, the case of `length_add_le` in which nothing has
been read yet. -/
theorem length_operators_le (content : Bytes) :
    (readAll content).operators.length ≤ content.length := by
  obtain ⟨read, pending, text, stopped?, hreaches, hend⟩ := Reaches.exists_end content
  have hlength := hreaches.length_add_le
  rw [hend, List.length_reverse]
  omega

/-- **The operands of contents nest as deep as containers may be open, and one more**; the
dictionary around the entries of an inline image comes on top of that. -/
theorem nesting_le_of_mem_operators {operator : Operator}
    (h : operator ∈ (readAll content).operators) :
    ∀ value ∈ operator.operands, value.nesting ≤ operator.maxNesting := by
  obtain ⟨read, pending, text, stopped?, hreaches, hend⟩ := Reaches.exists_end content
  rw [hend, List.mem_reverse] at h
  exact hreaches.nesting_le.1 operator h

end Operator

end PdfDisplay
