import Mathlib.Data.List.Basic
import PdfDisplay.Proofs.Syntax.Framing

/-!
# The search for the end of an inline image

Where the entries of an inline image do not tell where its data end, the reader looks for an `EI`
that stands alone. It takes the first one: `Operator.readAll_searched` says that data without such
an `EI` are read back exactly, and that there is no image, and nothing behind it, where no `EI`
stands alone.

The search keeps the data that it has passed over. `InlineImage.scanData_append_of_forall` is its
invariant: as long as no end begins in what is passed over, the search goes on behind it.
-/

namespace PdfDisplay

open Lexeme

namespace InlineImage

/-! ## Ends that stand alone -/

/-- Whether an `EI` stands alone in a text: in front of it is white space or nothing, and behind it
white space, a delimiter or nothing. -/
def HasEnd (text : Bytes) : Prop :=
  ∃ before after, text = before ++ Byte.of 'E' :: Byte.of 'I' :: after ∧
    (∀ b ∈ before.getLast?, Byte.isWhite b = true) ∧ endsWord after = true

/-- Whether the entries tell how long the data at the front of a text are, and an `EI` is there. -/
def EndsAsDeclared (entries : List (String × Operand)) (text : Bytes) : Prop :=
  ∃ length rest, dataLength? entries = some length ∧
    length ≤ text.length ∧ end? (skipWhite false (text.drop length)) = some rest

theorem separated_reverse (before : Bytes) :
    separated before.reverse = true ↔ ∀ b ∈ before.getLast?, Byte.isWhite b = true := by
  rw [← List.head?_reverse]
  cases before.reverse with
  | nil => simp [separated]
  | cons b read => simp [separated]

theorem end?_of_endsWord {rest : Bytes}
    (h : endsWord rest = true) : end? (Byte.of 'E' :: Byte.of 'I' :: rest) = some rest :=
  if_pos ⟨rfl, rfl, h⟩

/-! ## The search -/

/-- **The search goes on behind a text in which no end begins.** -/
theorem scanData_append_of_forall {read front tail : Bytes}
    (h : ∀ before more, front = before ++ more → more ≠ [] →
      separated (before.reverse ++ read) = true → end? (more ++ tail) = none) :
    scanData read (front ++ tail) = scanData (front.reverse ++ read) tail := by
  induction front generalizing read with
  | nil => rfl
  | cons b front ih =>
    have hfirst : (if separated read then end? (b :: (front ++ tail)) else none) = none := by
      split
      case isTrue hseparated => exact h [] (b :: front) rfl (List.cons_ne_nil _ _) hseparated
      case isFalse => rfl
    rw [List.cons_append, scanData, hfirst, List.reverse_cons, List.append_assoc]
    refine ih fun before more hfront hmore hseparated => ?_
    refine h (b :: before) more (by rw [hfront, List.cons_append]) hmore ?_
    rwa [List.reverse_cons, List.append_assoc]

/-- Data without an end are taken up to the first one, and the white space in front of it is none of
them. -/
theorem scanData_of_first {data rest : Bytes} {separator : UInt8}
    (hseparator : Byte.isWhite separator = true) (hrest : endsWord rest = true)
    (h : ¬ HasEnd (data ++ [separator])) :
    scanData [] (data ++ separator :: Byte.of 'E' :: Byte.of 'I' :: rest) = some (data, rest) := by
  have hnone : ∀ before more, data ++ [separator] = before ++ more → more ≠ [] →
      separated (before.reverse ++ []) = true → end? (more ++ Byte.of 'E' :: Byte.of 'I' :: rest) =
        none := by
    intro before more hfront _ hseparated
    refine Option.eq_none_iff_forall_ne_some.mpr fun after hend => h ?_
    obtain ⟨htext, hafter⟩ := end?_eq_some hend
    rw [List.append_nil] at hseparated
    match more with
    | [b] => cases htext
    | b :: b' :: more =>
      rw [List.cons_append, List.cons_append, List.cons.injEq, List.cons.injEq] at htext
      obtain ⟨rfl, rfl, rfl⟩ := htext
      -- the end is in front of the separator, which ends the word
      have hmore : more ≠ [] := by
        rintro rfl
        cases hafter
      rw [endsWord_append hmore] at hafter
      exact ⟨before, more, hfront, (separated_reverse before).mp hseparated, hafter⟩
  have hend : (if separated (separator :: data.reverse)
      then end? (Byte.of 'E' :: Byte.of 'I' :: rest) else none) = some rest :=
    (if_pos hseparator).trans (end?_of_endsWord hrest)
  rw [List.append_cons, scanData_append_of_forall hnone, List.reverse_append, List.append_nil,
    List.reverse_singleton, List.singleton_append, scanData, hend]
  dsimp only
  rw [withoutSeparator, if_pos hseparator, List.reverse_reverse]

/-- A search does not miss an end marker that stands between white space and the end of a word. -/
theorem scanData_ne_none {read before after : Bytes}
    (hbefore : separated (before.reverse ++ read) = true) (hafter : endsWord after = true) :
    scanData read (before ++ Byte.of 'E' :: Byte.of 'I' :: after) ≠ none := by
  induction before generalizing read with
  | nil =>
    have hend : (if separated read then end? (Byte.of 'E' :: Byte.of 'I' :: after) else none) =
        some after := (if_pos hbefore).trans (end?_of_endsWord hafter)
    rw [List.nil_append, scanData, hend]
    exact Option.some_ne_none _
  | cons b before ih =>
    rw [List.cons_append, scanData]
    split
    case h_1 => exact Option.some_ne_none _
    case h_2 =>
      rw [List.reverse_cons, List.append_assoc] at hbefore
      exact ih hbefore

/-- The search fails only where no `EI` stands alone, between white space and the end of a word. -/
theorem scanData_eq_none_iff {text : Bytes} : scanData [] text = none ↔ ¬ HasEnd text := by
  constructor
  · rintro hnone ⟨before, after, rfl, hbefore, hafter⟩
    refine scanData_ne_none ?_ hafter hnone
    rw [List.append_nil]
    exact (separated_reverse before).mpr hbefore
  · intro h
    have hnone : ∀ before more, text = before ++ more → more ≠ [] →
        separated (before.reverse ++ []) = true → end? (more ++ []) = none := by
      intro before more htext _ hseparated
      refine Option.eq_none_iff_forall_ne_some.mpr fun after hend => h ?_
      obtain ⟨hmore, hafter⟩ := end?_eq_some hend
      rw [List.append_nil] at hmore hseparated
      exact ⟨before, after, hmore ▸ htext, (separated_reverse before).mp hseparated, hafter⟩
    have hsearch := scanData_append_of_forall hnone
    rw [List.append_nil] at hsearch
    rw [hsearch]
    rfl

theorem readData_of_not_endsAsDeclared {entries : List (String × Operand)} {text : Bytes}
    (h : ¬ EndsAsDeclared entries text) : readData entries text = scanData [] text := by
  have htaken : (dataLength? entries).bind (takeData · text) = none := by
    refine Option.eq_none_iff_forall_ne_some.mpr fun taken htaken => h ?_
    obtain ⟨length, hlength, htake⟩ := Option.bind_eq_some_iff.mp htaken
    obtain ⟨hle, -, hend⟩ := takeData_eq_some htake
    exact ⟨length, taken.2, hlength, hle, hend⟩
  rw [readData, htaken]
  rfl

theorem exists_separator (text : Bytes) :
    ∃ gap, text = gap ++ skipSeparator text ∧ ∀ b ∈ gap, Byte.isWhite b = true := by
  rw [skipSeparator.eq_def]
  split
  case h_1 rest => exact ⟨[0x0D, 0x0A], rfl, by simp [Byte.isWhite]⟩
  case h_2 b rest _ =>
    split
    case isTrue hb => exact ⟨[b], rfl, List.forall_mem_singleton.mpr hb⟩
    case isFalse => exact ⟨[], rfl, List.forall_mem_nil _⟩
  case h_3 => exact ⟨[], rfl, List.forall_mem_nil _⟩

/-- The white space in front of the data separates an `EI` from the word `ID`. -/
theorem HasEnd.of_skipSeparator {text : Bytes} (h : HasEnd (skipSeparator text)) :
    HasEnd text := by
  obtain ⟨before, after, hdata, hbefore, hafter⟩ := h
  obtain ⟨gap, htext, hgap⟩ := exists_separator text
  refine ⟨gap ++ before, after, ?_, ?_, hafter⟩
  · rw [List.append_assoc, ← hdata, ← htext]
  · cases before with
    | nil =>
      rw [List.append_nil]
      exact fun b hb => hgap b (List.mem_of_getLast? hb)
    | cons b before =>
      rwa [List.getLast?_append_of_ne_nil _ (List.cons_ne_nil b before)]

/-- What an image is read as whose data do not end where its entries tell. -/
theorem read_of_readEntries {body after : Bytes} {entries : List (String × Operand)}
    (hentries : readEntries [] body = .ok (entries, after))
    (h : ¬ EndsAsDeclared entries (skipSeparator after)) :
    read body = (scanData [] (skipSeparator after)).elim (.error .imageWithoutEnd)
      fun (data, rest) => .ok (⟨entries, data⟩, rest) := by
  rw [read, hentries]
  dsimp only
  rw [readData_of_not_endsAsDeclared h]
  cases scanData [] (skipSeparator after) <;> rfl

end InlineImage

/-! ## Images in contents -/

namespace Operator

open InlineImage

/-- The operators behind a piece, latest first. -/
def Piece.operators (read : List Operator) (pending : List Operand) : Piece → List Operator
  | .word name => ⟨name, pending.reverse⟩ :: read
  | .image i => ofInlineImage i :: read
  | _ => read

/-- The pending operands behind a piece, latest first. -/
def Piece.operands (pending : List Operand) : Piece → List Operand
  | .operand value => value :: pending
  | .stray => pending
  | _ => []

/-- Whether the reading of contents comes to a text, behind operators and pending operands, both
latest first. -/
inductive Reaches (content : Bytes) : List Operator → List Operand → Bytes → Prop where
  /-- It begins with all of the contents. -/
  | start : Reaches content [] [] content
  /-- A piece takes it further. -/
  | piece {read : List Operator} {pending : List Operand} {text mid rest : Bytes} {l : Lexeme}
    {piece : Piece} (h : Reaches content read pending text) (hscan : scan text = .lexeme l mid)
    (hpiece : Piece.read l mid = .ok (piece, rest)) :
    Reaches content (piece.operators read pending) (piece.operands pending) rest

theorem goOn_eq_readFrom (read : List Operator) (pending : List Operand) (piece : Piece)
    (text : Bytes) :
    goOn read pending piece text =
      readFrom (piece.operators read pending) (piece.operands pending) text := by
  cases piece <;> rfl

/-- From a place that the reader has reached it goes on as if it had begun there with what it has
read. -/
theorem Reaches.readAll_eq {content text : Bytes} {read : List Operator} {pending : List Operand}
    (h : Reaches content read pending text) : readAll content = readFrom read pending text := by
  induction h with
  | start => rfl
  | piece _ hscan hpiece ih => rw [ih, readFrom_of_piece hscan hpiece, goOn_eq_readFrom]

/-- **Data whose length is not declared end at the first `EI` that stands alone.** Take an inline
image, anywhere in contents, whose data do not end where the entries tell. If no `EI` stands alone
in the data and the white space behind them, they are read back exactly, and the contents go on
behind the `EI` that follows. If none stands alone behind `ID`, the reading fails, and the operators
in front of the image are kept. -/
theorem readAll_searched {content text body after : Bytes} {read : List Operator}
    {pending : List Operand} {entries : List (String × Operand)}
    (hreaches : Reaches content read pending text)
    (hscan : scan text = .lexeme (.keyword "BI") body)
    (hentries : readEntries [] body = .ok (entries, after)) :
    (∀ (data rest : Bytes) (separator : UInt8),
      after = 0x20 :: (data ++ separator :: Byte.of 'E' :: Byte.of 'I' :: rest) →
      Byte.isWhite separator = true → endsWord rest = true → ¬ HasEnd (data ++ [separator]) →
      ¬ EndsAsDeclared entries (data ++ separator :: Byte.of 'E' :: Byte.of 'I' :: rest) →
      readAll content =
        ⟨read.reverse ++ ofInlineImage ⟨entries, data⟩ :: (readAll rest).operators,
          (readAll rest).stopped?⟩) ∧
    (¬ HasEnd after → ¬ EndsAsDeclared entries (skipSeparator after) →
      readAll content = ⟨read.reverse, some .imageWithoutEnd⟩) := by
  -- both halves rest on the search: it finds the first delimited end, or there is none
  constructor
  · rintro data rest separator rfl hseparator hrest hend hdeclared
    have hskip (text : Bytes) : skipSeparator (0x20 :: text) = text :=
      skipSeparator_cons (fun hpair => absurd hpair.1 (by decide))
    have hread := read_of_readEntries hentries (by rwa [hskip])
    rw [hskip, scanData_of_first hseparator hrest hend] at hread
    have hpiece : Piece.read (.keyword "BI") body = .ok (.image ⟨entries, data⟩, rest) := by
      rw [Piece.read, if_pos rfl, hread]
      rfl
    rw [hreaches.readAll_eq, readFrom_of_piece hscan hpiece, goOn]
    have hbehind := readFrom_append [] (ofInlineImage ⟨entries, data⟩ :: read) [] rest
    rw [List.nil_append, List.reverse_cons, List.append_assoc] at hbehind
    exact hbehind
  · intro hend hdeclared
    have hread := read_of_readEntries hentries hdeclared
    rw [scanData_eq_none_iff.mpr fun h => hend h.of_skipSeparator] at hread
    have hpiece : Piece.read (.keyword "BI") body = .error .imageWithoutEnd := by
      rw [Piece.read, if_pos rfl, hread]
      rfl
    rw [hreaches.readAll_eq, readFrom_of_error hscan hpiece]

/-- An image with a filter, whose data hold an `EI` that begins a word. -/
theorem readAll_searched_word :
    readAll (Utf8.encode "q BI/F/Fl ID x EIy EI Q") =
        ⟨[⟨"q", []⟩, ofInlineImage ⟨[("F", .name "Fl")], Utf8.encode "x EIy"⟩, ⟨"Q", []⟩], none⟩ ∧
      readAll (Utf8.encode "q BI/F/Fl ID x EIy") = ⟨[⟨"q", []⟩], some .imageWithoutEnd⟩ := by
  have hfiltered (text : Bytes) : ¬ EndsAsDeclared [("F", .name "Fl")] text := by
    rintro ⟨length, rest, hlength, -⟩
    revert hlength
    exact nofun
  have hbefore (tail : Bytes) : Reaches (Utf8.encode "q" ++ 0x20 :: tail) [⟨"q", []⟩] []
      (0x20 :: tail) := by
    have hscan : scan (Utf8.encode "q" ++ 0x20 :: tail) = .lexeme (.keyword "q") (0x20 :: tail) :=
      scan_append_of_isWord (isWord_literal 'q' [] rfl rfl) rfl
    exact .piece .start hscan rfl
  constructor
  · have htext : Utf8.encode "q BI/F/Fl ID x EIy EI Q" =
        Utf8.encode "q" ++ 0x20 :: Utf8.encode "BI/F/Fl ID x EIy EI Q" := by decide +kernel
    have hscan : scan (0x20 :: Utf8.encode "BI/F/Fl ID x EIy EI Q") =
        .lexeme (.keyword "BI") (Utf8.encode "/F/Fl ID x EIy EI Q") := by decide +kernel
    have hlexemes : Scans (Utf8.encode "/F/Fl ID x EIy EI Q")
        (Operand.entryLexemes [("F", .name "Fl")] ++ [.keyword "ID"])
        (Utf8.encode " x EIy EI Q") := by
      decide +kernel
    have hentries : readEntries [] (Utf8.encode "/F/Fl ID x EIy EI Q") =
        .ok ([("F", .name "Fl")], Utf8.encode " x EIy EI Q") :=
      readEntries_of_scans (by decide) hlexemes
    have hread := (readAll_searched (hbefore _) hscan hentries).1 (Utf8.encode "x EIy")
      (Utf8.encode " Q") 0x20 (by decide +kernel) rfl (by decide +kernel)
      (scanData_eq_none_iff.mp (by decide +kernel)) (hfiltered _)
    have hrest : readAll (Utf8.encode " Q") = ⟨[⟨"Q", []⟩], none⟩ :=
      (readFrom_of_piece (l := .keyword "Q") (by decide +kernel) rfl [] []).trans (readFrom_nil _ _)
    rw [htext, hread, hrest]
    rfl
  · have htext : Utf8.encode "q BI/F/Fl ID x EIy" =
        Utf8.encode "q" ++ 0x20 :: Utf8.encode "BI/F/Fl ID x EIy" := by decide +kernel
    have hscan : scan (0x20 :: Utf8.encode "BI/F/Fl ID x EIy") =
        .lexeme (.keyword "BI") (Utf8.encode "/F/Fl ID x EIy") := by decide +kernel
    have hlexemes : Scans (Utf8.encode "/F/Fl ID x EIy")
        (Operand.entryLexemes [("F", .name "Fl")] ++ [.keyword "ID"]) (Utf8.encode " x EIy") := by
      decide +kernel
    have hentries : readEntries [] (Utf8.encode "/F/Fl ID x EIy") =
        .ok ([("F", .name "Fl")], Utf8.encode " x EIy") :=
      readEntries_of_scans (by decide) hlexemes
    rw [htext]
    exact (readAll_searched (hbefore _) hscan hentries).2
      (scanData_eq_none_iff.mp (by decide +kernel)) (hfiltered _)

end Operator

end PdfDisplay
