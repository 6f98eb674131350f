import PdfDisplay.Syntax.Operator

/-!
# Reading contents step by step

The readers of operands, of the entries of inline images and of contents take one lexeme after
another off a text. Here each of them is written as what one lexeme does and how the reading
goes on behind it: `Operand.finish_of_feed`, `InlineImage.readEntries_eq` and
`Operator.readFrom_of_piece`.
-/

namespace PdfDisplay

open Lexeme

namespace Operand

open Container

/-- Goes on reading after a value has been handed over: the reading is complete, or some
containers are still open. -/
def resume : Operand ⊕ List Container → Bytes → Except ContentError (Operand × Bytes)
  | .inl value, text => .ok (value, text)
  | .inr stack, text => finish stack text

/-- Reading the rest of an operand is feeding it the next lexeme and going on: the reader's loop,
taken one step. -/
theorem finish_of_feed {stack : List Container} {text rest : Bytes} {l : Lexeme}
    {next : Operand ⊕ List Container} (hscan : scan text = .lexeme l rest)
    (hfeed : feed stack l = .ok next) : finish stack text = resume next rest := by
  rw [finish]
  split
  · next h => rw [h] at hscan; cases hscan
  · next h => rw [h] at hscan; cases hscan
  · next l' rest' h =>
    rw [h] at hscan
    obtain ⟨rfl, rfl⟩ := Front.lexeme.inj hscan
    rw [hfeed]
    cases next <;> rfl

/-- At the end of the text an operand that is still open is an error, which names the container that
was cut off. -/
theorem finish_of_done {text : Bytes} (h : scan text = .done) (stack : List Container) :
    finish stack text = .error (cutOff stack) := by
  rw [finish]
  split
  case h_1 => rfl
  case h_2 hscan | h_3 hscan => cases h.symm.trans hscan

theorem finish_of_unterminated {text : Bytes} (h : scan text = .unterminated)
    (stack : List Container) : finish stack text = .error .unterminatedString := by
  rw [finish]
  split
  case h_2 => rfl
  case h_1 hscan | h_3 hscan => cases h.symm.trans hscan

theorem finish_of_error {stack : List Container} {text rest : Bytes} {l : Lexeme}
    {e : ContentError} (hscan : scan text = .lexeme l rest) (hfeed : feed stack l = .error e) :
    finish stack text = .error e := by
  rw [finish]
  split
  case h_1 h | h_2 h => cases hscan.symm.trans h
  case h_3 h =>
    cases hscan.symm.trans h
    rw [hfeed]

theorem read_of_begin {l : Lexeme} {text : Bytes} {next : Operand ⊕ List Container}
    (h : Container.begin [] l = .ok next) : read l text = resume next text := by
  rw [read, h]
  cases next <;> rfl

end Operand

namespace InlineImage

/-- Goes on reading entries behind a key. -/
def readValue (read : List (String × Operand)) (key : String) :
    Front → Except ContentError (List (String × Operand) × Bytes)
  | .done => .error .imageKeyWithoutValue
  | .unterminated => .error .unterminatedString
  | .lexeme (.keyword "ID") rest => .ok (read.reverse, rest)
  | .lexeme l rest =>
    match Operand.read l rest with
    | .error e => .error e
    | .ok (value, rest') => readEntries ((key, value) :: read) rest'

/-- Goes on reading entries. -/
def readEntry (read : List (String × Operand)) :
    Front → Except ContentError (List (String × Operand) × Bytes)
  | .done => .error .imageWithoutData
  | .unterminated => .error .unterminatedString
  | .lexeme (.keyword "ID") rest => .ok (read.reverse, rest)
  | .lexeme (.name key) rest => readValue read key (scan rest)
  | .lexeme _ rest => readEntries read rest

/-- Reading the entries of an inline image is a step over what the next scan gives, and the text
itself is looked at no further. -/
theorem readEntries_eq (read : List (String × Operand)) (text : Bytes) :
    readEntries read text = readEntry read (scan text) := by
  rw [readEntries]
  -- the branches are those of the reader; each is named by the lexemes behind it
  split
  case h_1 h => exact (congrArg (readEntry read) h).symm
  case h_2 h => exact (congrArg (readEntry read) h).symm
  case h_3 rest h => exact (congrArg (readEntry read) h).symm
  case h_4 key rest h =>
    refine Eq.trans ?_ (congrArg (readEntry read) h).symm
    dsimp only [readEntry]
    split
    case h_1 h' => exact (congrArg (readValue read key) h').symm
    case h_2 h' => exact (congrArg (readValue read key) h').symm
    case h_3 rest' h' => exact (congrArg (readValue read key) h').symm
    case h_4 l rest' hne h' =>
      refine Eq.trans ?_ (congrArg (readValue read key) h').symm
      rw [readValue.eq_4 _ _ _ _ hne]
      split
      case h_1 e h'' => rw [h'']
      case h_2 value rest'' h'' => rw [h'']
  case h_5 l rest hID hname h =>
    refine Eq.trans ?_ (congrArg (readEntry read) h).symm
    exact (readEntry.eq_5 _ _ _ hID hname).symm

end InlineImage

namespace Operator

/-- Goes on reading behind a piece. -/
def goOn (read : List Operator) (pending : List Operand) : Piece → Bytes → Reading
  | .operand value, text => readFrom read (value :: pending) text
  | .word name, text => readFrom (⟨name, pending.reverse⟩ :: read) [] text
  | .image image, text => readFrom (ofInlineImage image :: read) [] text
  | .stray, text => readFrom read pending text

/-- **One step of the operator reader**: it scans a lexeme, reads the piece that lexeme begins, and
either stops with its error or goes on behind it. -/
theorem readFrom_of_lexeme {text mid : Bytes} {l : Lexeme} (hscan : scan text = .lexeme l mid)
    (read : List Operator) (pending : List Operand) :
    readFrom read pending text =
      match Piece.read l mid with
      | .error e => ⟨read.reverse, some e⟩
      | .ok (piece, rest) => goOn read pending piece rest := by
  rw [readFrom]
  split
  · next h => rw [h] at hscan; cases hscan
  · next h => rw [h] at hscan; cases hscan
  · next l' mid' h =>
    rw [h] at hscan
    obtain ⟨rfl, rfl⟩ := Front.lexeme.inj hscan
    split
    · next e h' => rw [h']
    · next piece rest h' => cases piece <;> simp only [h', goOn]

/-- A piece that is read takes its place among the operators read or the operands that wait for one.
-/
theorem readFrom_of_piece {text mid rest : Bytes} {l : Lexeme} {piece : Piece}
    (hscan : scan text = .lexeme l mid) (hpiece : Piece.read l mid = .ok (piece, rest))
    (read : List Operator) (pending : List Operand) :
    readFrom read pending text = goOn read pending piece rest := by
  rw [readFrom_of_lexeme hscan, hpiece]

/-- A piece that cannot be read stops the reader, which keeps the operators it has. -/
theorem readFrom_of_error {text mid : Bytes} {l : Lexeme} {e : ContentError}
    (hscan : scan text = .lexeme l mid) (hpiece : Piece.read l mid = .error e)
    (read : List Operator) (pending : List Operand) :
    readFrom read pending text = ⟨read.reverse, some e⟩ := by
  rw [readFrom_of_lexeme hscan, hpiece]

/-- At the end of the text the reader stops without an error, and operands that still wait are
dropped. -/
theorem readFrom_of_done {text : Bytes} (h : scan text = .done) (read : List Operator)
    (pending : List Operand) : readFrom read pending text = ⟨read.reverse, none⟩ := by
  rw [readFrom]
  split
  case h_1 => rfl
  case h_2 hscan | h_3 hscan => cases h.symm.trans hscan

/-- A string that is never closed stops the reader with an error of its own and leaves the operators
read before it. -/
theorem readFrom_of_unterminated {text : Bytes} (h : scan text = .unterminated)
    (read : List Operator) (pending : List Operand) :
    readFrom read pending text = ⟨read.reverse, some .unterminatedString⟩ := by
  rw [readFrom]
  split
  case h_2 => rfl
  case h_1 hscan | h_3 hscan => cases h.symm.trans hscan

theorem readFrom_nil (read : List Operator) (pending : List Operand) :
    readFrom read pending [] = ⟨read.reverse, none⟩ :=
  readFrom_of_done rfl read pending

/-- **What a piece can be**: an inline image, something that is told by its lexeme alone, or an
operand. -/
theorem Piece.read_cases {l : Lexeme} {text rest : Bytes} {piece : Piece}
    (h : Piece.read l text = .ok (piece, rest)) :
    (∃ image, l = .keyword "BI" ∧ piece = .image image ∧
      InlineImage.read text = .ok (image, rest)) ∨
    (rest = text ∧ ∀ text', Piece.read l text' = .ok (piece, text')) ∨
    (∃ value, piece = .operand value ∧ Operand.read l text = .ok (value, rest) ∧
      ∀ text', Piece.read l text' =
        (Operand.read l text').map fun (value, rest) => (.operand value, rest)) := by
  have hoperand (hread : ∀ text', Piece.read l text' =
      (Operand.read l text').map fun (value, rest) => (.operand value, rest)) :
      ∃ value, piece = .operand value ∧ Operand.read l text = .ok (value, rest) ∧
        ∀ text', Piece.read l text' =
          (Operand.read l text').map fun (value, rest) => (.operand value, rest) := by
    rw [hread] at h
    cases hvalue : Operand.read l text with
    | error e => rw [hvalue] at h; cases h
    | ok done =>
      rw [hvalue] at h
      cases h
      exact ⟨done.1, rfl, rfl, hread⟩
  -- a keyword is an inline image or stands alone, a stray closer stands alone, the rest are
  -- operands
  cases l with
  | keyword name =>
    rw [Piece.read] at h
    split at h
    case isTrue hBI =>
      cases himage : InlineImage.read text with
      | error e => rw [himage] at h; cases h
      | ok done =>
        rw [himage] at h
        cases h
        exact .inl ⟨done.1, congrArg _ hBI, rfl, rfl⟩
    case isFalse hBI =>
      split at h
      case h_1 value hconstant =>
        cases h
        refine .inr (.inl ⟨rfl, fun text' => ?_⟩)
        rw [Piece.read, if_neg hBI, hconstant]
      case h_2 hconstant =>
        cases h
        refine .inr (.inl ⟨rfl, fun text' => ?_⟩)
        rw [Piece.read, if_neg hBI, hconstant]
  | arrayEnd =>
    cases h
    exact .inr (.inl ⟨rfl, fun _ => rfl⟩)
  | dictionaryEnd =>
    cases h
    exact .inr (.inl ⟨rfl, fun _ => rfl⟩)
  | _ => exact .inr (.inr (hoperand fun _ => rfl))

end Operator

end PdfDisplay
