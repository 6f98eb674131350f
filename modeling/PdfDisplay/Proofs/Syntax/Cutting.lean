import PdfDisplay.Proofs.Syntax.Appending

/-!
# Contents that are cut short

Page contents are cut where they exceed a limit, at any byte. The operators in front of the cut
are read as they are from all of the contents; only the last of them may have been shortened, as
a number or a name can be. There is one exception, `Operator.readAll_take`: a cut within the data
of an inline image, where the reader no longer finds as many bytes as the entries declare, looks
for an `EI` instead, and goes on behind one that belongs to the data.

The induction is on the length of the text, along the pieces of contents: a piece that does not
reach the cut is the same with and without what follows (`Piece.read_append`), and nothing but one
more operator comes of a piece that does (`goOn_eq`).
-/

namespace PdfDisplay

namespace Operator

open InlineImage (CutIn)

variable {read : List Operator} {pending : List Operand} {text rest tail : Bytes}

/-! ## Operators and pieces -/

/-- Whether a piece has added at most one operator to those read. -/
def AddsOne (read read' : List Operator) : Prop :=
  read' = read ∨ ∃ operator, read' = operator :: read

theorem AddsOne.prefix_reverse {read' : List Operator} (h : AddsOne read read') :
    read.reverse <+: read'.reverse := by
  rcases h with rfl | ⟨operator, rfl⟩
  · exact List.prefix_refl _
  · rw [List.reverse_cons]
    exact List.prefix_append _ _

theorem AddsOne.dropLast_reverse {read' : List Operator} (h : AddsOne read read') :
    read'.reverse.dropLast <+: read.reverse := by
  rcases h with rfl | ⟨operator, rfl⟩
  · exact List.dropLast_prefix _
  · have hdrop : (operator :: read).reverse.dropLast = read.reverse := by
      rw [List.reverse_cons, List.dropLast_concat]
    exact hdrop ▸ List.prefix_refl _

/-- Behind a piece the reading goes on with at most one operator more. -/
theorem goOn_eq (read : List Operator) (pending : List Operand) (piece : Piece) :
    ∃ read' pending', AddsOne read read' ∧
      ∀ text, goOn read pending piece text = readFrom read' pending' text := by
  cases piece with
  | operand value => exact ⟨read, value :: pending, .inl rfl, fun _ => rfl⟩
  | word name => exact ⟨⟨name, pending.reverse⟩ :: read, [], .inr ⟨_, rfl⟩, fun _ => rfl⟩
  | image image => exact ⟨ofInlineImage image :: read, [], .inr ⟨_, rfl⟩, fun _ => rfl⟩
  | stray => exact ⟨read, pending, .inl rfl, fun _ => rfl⟩

/-- Either nothing is read any more, or a piece is. -/
theorem readFrom_cases (text : Bytes) :
    (∃ stopped?, ∀ read pending, readFrom read pending text = ⟨read.reverse, stopped?⟩) ∨
      ∃ l mid piece rest, Lexeme.scan text = .lexeme l mid ∧
        Piece.read l mid = .ok (piece, rest) := by
  cases hscan : Lexeme.scan text with
  | done => exact .inl ⟨none, readFrom_of_done hscan⟩
  | unterminated => exact .inl ⟨some .unterminatedString, readFrom_of_unterminated hscan⟩
  | lexeme l mid =>
    cases hpiece : Piece.read l mid with
    | error e => exact .inl ⟨some e, readFrom_of_error hscan hpiece⟩
    | ok done => exact .inr ⟨l, mid, done.1, done.2, rfl, hpiece⟩

theorem length_lt_of_piece {l : Lexeme} {mid : Bytes} {piece : Piece}
    (hscan : Lexeme.scan text = .lexeme l mid) (hpiece : Piece.read l mid = .ok (piece, rest)) :
    rest.length < text.length :=
  Nat.lt_of_le_of_lt (Piece.length_le_of_read hpiece) (Lexeme.length_lt_of_scan hscan)

/-- The operators that have been read stay in front, by induction over the pieces that are still to
be read. -/
theorem prefix_readFrom (read : List Operator) (pending : List Operand) (text : Bytes) :
    read.reverse <+: (readFrom read pending text).operators := by
  induction hn : text.length using Nat.strongRecOn generalizing read pending text with
  | ind n ih =>
    obtain ⟨stopped?, hnone⟩ | ⟨l, mid, piece, rest, hscan, hpiece⟩ := readFrom_cases text
    · exact hnone read pending ▸ List.prefix_refl read.reverse
    · obtain ⟨read', pending', hadds, hnext⟩ := goOn_eq read pending piece
      rw [readFrom_of_piece hscan hpiece, hnext]
      have hlength := length_lt_of_piece hscan hpiece
      exact hadds.prefix_reverse.trans (ih _ (hn ▸ hlength) read' pending' rest rfl)

/-! ## Where readings part -/

/-- Whether two readings part at an inline image: with `tail` behind the text it is read in whole,
and without it the reading goes on behind a part of it. -/
def PartAtImage (text tail : Bytes) (short long : List Operator) : Prop :=
  ∃ before whole found after, CutIn text tail whole found ∧
    short = before ++ ofInlineImage found :: after ∧ after ≠ [] ∧
    before ++ [ofInlineImage whole] <+: long

theorem PartAtImage.not_prefix {short long : List Operator} (h : PartAtImage text tail short long) :
    ¬ short.dropLast <+: long := by
  obtain ⟨before, whole, found, after, hcut, rfl, hafter, hlong⟩ := h
  intro hprefix
  rw [List.dropLast_append_of_ne_nil (List.cons_ne_nil _ _), List.dropLast_cons_of_ne_nil hafter,
    List.append_cons] at hprefix
  have hshort : before ++ [ofInlineImage found] <+: long := (List.prefix_append _ _).trans hprefix
  -- both readings have an image at the same place, so its data would be the same
  have hsame := List.prefix_of_prefix_length_le hshort hlong (by simp)
  have hsame := List.append_cancel_left (hsame.eq_of_length (by simp))
  obtain ⟨body, -, hdata⟩ := hcut.data
  refine hdata.ne ?_
  have hoperands := congrArg Operator.operands (List.cons.inj hsame).1
  exact Operand.literalString.inj (List.cons.inj (List.cons.inj hoperands).2).1

/-- **Readings of a text and of a longer one** agree up to the last operator of the text, or part
at an inline image. -/
theorem dropLast_prefix_or_partAtImage (read : List Operator) (pending : List Operand)
    (text tail : Bytes) :
    (readFrom read pending text).operators.dropLast <+:
        (readFrom read pending (text ++ tail)).operators ∨
      PartAtImage text tail (readFrom read pending text).operators
        (readFrom read pending (text ++ tail)).operators := by
  induction hn : text.length using Nat.strongRecOn generalizing read pending text with
  | ind n ih =>
    have hbefore := prefix_readFrom read pending (text ++ tail)
    obtain ⟨stopped?, hnone⟩ | ⟨l, mid, piece, rest, hscan, hpiece⟩ := readFrom_cases text
    · rw [hnone]
      exact .inl ((List.dropLast_prefix _).trans hbefore)
    obtain ⟨read', pending', hadds, hnext⟩ := goOn_eq read pending piece
    have hlength := length_lt_of_piece hscan hpiece
    rw [readFrom_of_piece hscan hpiece, hnext]
    by_cases hrest : rest = []
    · -- the piece reaches the end of the text: what it is may depend on the tail
      subst hrest
      rw [readFrom_nil]
      exact .inl (hadds.dropLast_reverse.trans hbefore)
    have hmid : mid ≠ [] := (Piece.suffix_of_read hpiece).ne_nil hrest
    have hlonger := Lexeme.scan_append hscan hmid tail
    have hsuffix := (Piece.suffix_of_read hpiece).trans (Lexeme.suffix_of_scan hscan)
    obtain hsame | ⟨whole, found, rest', rfl, hwhole, hcut⟩ := Piece.read_append hpiece hrest tail
    · rw [readFrom_of_piece hlonger hsame, hnext]
      rcases ih _ (hn ▸ hlength) read' pending' rest rfl with hprefix | hpart
      · exact .inl hprefix
      · obtain ⟨before, whole, found, after, hcut, hshort⟩ := hpart
        exact .inr ⟨before, whole, found, after, hcut.of_suffix hsuffix, hshort⟩
    · -- an image with other data: all that both readings share is in front of it
      have hshort := prefix_readFrom (ofInlineImage found :: read) [] rest
      have hlong := prefix_readFrom (ofInlineImage whole :: read) [] rest'
      rw [List.reverse_cons] at hshort hlong
      rw [← hnext, goOn, readFrom_of_piece hlonger hwhole, goOn]
      obtain ⟨after, hafter⟩ := hshort
      rw [← hafter, List.append_assoc]
      by_cases hnil : after = []
      · rw [hnil, List.append_nil, List.dropLast_concat]
        exact .inl ((List.prefix_append _ _).trans hlong)
      · have hcut := hcut.of_suffix (Lexeme.suffix_of_scan hscan)
        exact .inr ⟨read.reverse, whole, found, after, hcut, rfl, hnil, hlong⟩

/-! ## Cut contents -/

/-- **Cutting contents short invents no operators**, but at an inline image. With at most the last
of them removed, the operators in front of a cut are those with which all of the contents begin,
exactly unless the cut lies within the data of an inline image, the reader finds an end among the
data in front of the cut, and at least one operator is read behind it. -/
theorem readAll_take (content : Bytes) (k : Nat) :
    ¬ (readAll (content.take k)).operators.dropLast <+: (readAll content).operators ↔
      PartAtImage (content.take k) (content.drop k) (readAll (content.take k)).operators
        (readAll content).operators := by
  constructor
  · intro h
    have hparts := dropLast_prefix_or_partAtImage [] [] (content.take k) (content.drop k)
    rw [List.take_append_drop] at hparts
    exact hparts.resolve_left h
  · exact PartAtImage.not_prefix

/-- Twenty-three samples that hold an `EI` of their own, cut in front of the end of the image. -/
theorem not_dropLast_prefix_image :
    ¬ ∀ (content : Bytes) (k : Nat),
      (readAll (content.take k)).operators.dropLast <+: (readAll content).operators := by
  intro h
  have hnames : ∀ short long : List Operator, short.dropLast <+: long →
      (short.map (·.name)).dropLast <+: long.map (·.name) := by
    intro short long hprefix
    rw [← List.map_dropLast]
    exact hprefix.map _
  have hprefix := hnames _ _
    (h (Utf8.encode "BI /W 23 /H 1 /BPC 8 /CS /G ID ab EI 0 0 m 9 9 l S q q\nEI S") 54)
  have hshort : (readAll ((Utf8.encode
      "BI /W 23 /H 1 /BPC 8 /CS /G ID ab EI 0 0 m 9 9 l S q q\nEI S").take 54)).operators.map
        (·.name) = ["BI", "m", "l", "S", "q", "q"] := by decide +kernel
  have hlong : (readAll (Utf8.encode
      "BI /W 23 /H 1 /BPC 8 /CS /G ID ab EI 0 0 m 9 9 l S q q\nEI S")).operators.map (·.name) =
        ["BI", "S"] := by decide +kernel
  rw [hshort, hlong] at hprefix
  revert hprefix
  decide

end Operator

end PdfDisplay
