import PdfDisplay.Syntax.InlineImage

/-!
# Operators

Page contents are a sequence of operators, each behind its operands. `Operator.readAll`
collects operands until a word comes that is not a constant, and hands all of them to that
word. An inline image is one operator `BI`, whose operands are its entries and its data.

Contents that cannot be read to their end keep the operators before the place where the
reading stopped.
-/

namespace PdfDisplay

/-- A word of page contents with the operands in front of it. -/
structure Operator where
  /-- The word. -/
  name : String
  /-- The values in front of it. -/
  operands : List Operand

namespace Operator

/-- The operator of an inline image. -/
def ofInlineImage (image : InlineImage) : Operator :=
  ⟨"BI", [.dictionary image.entries, .literalString image.data]⟩

/-- What contents show next. -/
inductive Piece where
  /-- A value in front of an operator. -/
  | operand (value : Operand)
  /-- A word that takes the values in front of it. -/
  | word (name : String)
  /-- An inline image. -/
  | image (image : InlineImage)
  /-- A closing bracket that nothing opens. -/
  | stray

/-- Reads the piece that begins with the lexeme `l` and goes on with `text`. -/
def Piece.read (l : Lexeme) (text : Bytes) : Except ContentError (Piece × Bytes) :=
  match l with
  | .keyword name =>
    if name = "BI" then (InlineImage.read text).map fun (i, rest) => (.image i, rest)
    else
      match Operand.constant? name with
      | some value => .ok (.operand value, text)
      | none => .ok (.word name, text)
  | .arrayEnd | .dictionaryEnd => .ok (.stray, text)
  | l => (Operand.read l text).map fun (value, rest) => (.operand value, rest)

theorem Piece.length_le_of_read {l : Lexeme} {text : Bytes} {piece : Piece} {rest : Bytes}
    (h : Piece.read l text = .ok (piece, rest)) : rest.length ≤ text.length := by
  have map_ok {α : Type} {x : Except ContentError (α × Bytes)} {f : α → Piece}
      (hx : ∀ a rest', x = .ok (a, rest') → rest'.length ≤ text.length)
      (hm : x.map (fun (a, rest') => (f a, rest')) = .ok (piece, rest)) :
      rest.length ≤ text.length := by
    cases x with
    | error e => cases hm
    | ok pair =>
      cases hm
      exact hx _ _ rfl
  unfold Piece.read at h
  split at h
  · split at h
    · exact map_ok (fun _ _ => InlineImage.length_le_of_read) h
    · split at h <;> cases h <;> exact Nat.le_refl _
  · cases h
    exact Nat.le_refl _
  · cases h
    exact Nat.le_refl _
  · exact map_ok (fun _ _ => Operand.length_le_of_read) h

/-- The operators that contents hold, and why the reading stopped before their end. -/
structure Reading where
  /-- The operators read. -/
  operators : List Operator
  /-- What stopped the reading, if it did not reach the end. -/
  stopped? : Option ContentError

/-- Reads on behind the operators `read` and the pending operands, both latest first. -/
def readFrom (read : List Operator) (pending : List Operand) (text : Bytes) : Reading :=
  match h : Lexeme.scan text with
  | .done => ⟨read.reverse, none⟩
  | .unterminated => ⟨read.reverse, some .unterminatedString⟩
  | .lexeme l rest =>
    have := Lexeme.length_lt_of_scan h
    match h' : Piece.read l rest with
    | .error e => ⟨read.reverse, some e⟩
    | .ok (piece, rest') =>
      have := Piece.length_le_of_read h'
      match piece with
      | .operand value => readFrom read (value :: pending) rest'
      | .word name => readFrom (⟨name, pending.reverse⟩ :: read) [] rest'
      | .image image => readFrom (ofInlineImage image :: read) [] rest'
      | .stray => readFrom read pending rest'
  termination_by text.length

/-- The operators of page contents, as far as they can be read. -/
def readAll (text : Bytes) : Reading := readFrom [] [] text

/-- The operators of page contents that can be read to their end. -/
def readAll? (text : Bytes) : Except ContentError (List Operator) :=
  match (readAll text).stopped? with
  | none => .ok (readAll text).operators
  | some e => .error e

end Operator

end PdfDisplay
