import PdfDisplay.Proofs.Syntax.Cutting
import PdfDisplay.Proofs.Syntax.RoundTrip
import PdfDisplay.Proofs.Syntax.Writing

/-!
# The frame of inline images

The data of an inline image may be any bytes, so the reader must not look into them. Where the
entries declare how long unfiltered data are, it does not: `Operator.readAll_image` reads back the
entries and the data as they were written, and goes on behind them as if the contents began there.

The entries are read like those of a dictionary, with one limit: a value within more than 256
containers stops the reading, and no image comes of it (`Operator.not_readAll_image`).
-/

namespace PdfDisplay

open Lexeme Operand

namespace InlineImage

/-! ## Entries -/

/-- **Written entries are read as what they are**, by induction over them: a name, the lexemes of
its value, and so on up to the word that ends them. -/
theorem readEntries_of_scans {entries : List (String × Operand)}
    (hdepth : ∀ entry ∈ entries, entry.2.depth ≤ Container.maxOpen)
    {read : List (String × Operand)} {text rest : Bytes}
    (h : Scans text (entryLexemes entries ++ [.keyword "ID"]) rest) :
    readEntries read text = .ok (read.reverse ++ entries, rest) := by
  induction entries generalizing read text with
  | nil =>
    cases h with
    | cons hscan hnil =>
      cases hnil
      rw [readEntries_eq, hscan, List.append_nil]
      rfl
  | cons entry entries ih =>
    obtain ⟨key, value⟩ := entry
    rw [entryLexemes, List.cons_append, List.append_assoc] at h
    cases h with
    | cons hkey h =>
      obtain ⟨mid, hvalue, hentries⟩ := h.append_inv
      have hopen : ([] : List Container).length + value.depth ≤ Container.maxOpen := by
        rw [List.length_nil, Nat.zero_add]
        exact hdepth _ List.mem_cons_self
      obtain ⟨l, after, next, hl, hscan, hbegin, hnext⟩ := begin_of_scans value hopen hvalue
      have hread : Operand.read l after = .ok (value, mid) := (read_of_begin hbegin).trans hnext
      -- no value begins with the word that ends the entries
      have hID : l ≠ .keyword "ID" := by
        rintro rfl
        exact absurd (constant?_of_head? hl).2 (by decide)
      rw [readEntries_eq, hkey, readEntry, hscan, readValue.eq_4 _ _ _ _ (by simpa using hID),
        hread]
      dsimp only
      rw [ih (fun entry hentry => hdepth entry (List.mem_cons_of_mem _ hentry)) hentries,
        List.reverse_cons, List.append_assoc, List.singleton_append]

/-! ## Images -/

/-- How an image is written: `BI`, its entries, `ID`, white space, its data and `EI`. -/
inductive Written (image : InlineImage) : Bytes → Prop where
  /-- One white space, no carriage return, stands in front of the data, and any number of them
  behind. -/
  | mk {head gap : Bytes} {separator : UInt8}
    (hhead : Compact (.keyword "BI" :: (entryLexemes image.entries ++ [.keyword "ID"])) head)
    (hseparator : Byte.isWhite separator = true) (hreturn : separator ≠ 0x0D)
    (hgap : ∀ b ∈ gap, Byte.isWhite b = true) :
    Written image
      (head ++ separator :: (image.data ++ (gap ++ [Byte.of 'E', Byte.of 'I'])))

theorem read_of_scans {image : InlineImage}
    (hlength : dataLength? image.entries = some image.data.length)
    (hdepth : ∀ entry ∈ image.entries, entry.2.depth ≤ Container.maxOpen) {text gap rest : Bytes}
    {separator : UInt8} (hseparator : Byte.isWhite separator = true) (hreturn : separator ≠ 0x0D)
    (hgap : ∀ b ∈ gap, Byte.isWhite b = true) (hrest : endsWord rest = true)
    (h : Scans text (entryLexemes image.entries ++ [.keyword "ID"])
      (separator :: (image.data ++ (gap ++ Byte.of 'E' :: Byte.of 'I' :: rest)))) :
    InlineImage.read text = .ok (image, rest) := by
  have hdata := takeData_append_end image.data hgap hrest
  rw [InlineImage.read, readEntries_of_scans hdepth h]
  dsimp only [List.reverse_nil, List.nil_append]
  rw [skipSeparator_cons (fun hpair => hreturn hpair.1), if_pos hseparator, readData, hlength,
    Option.bind_some, hdata]
  rfl

end InlineImage

namespace Operator

open InlineImage

/-- Readings go on in the same way behind any operators. -/
theorem readFrom_append (read before : List Operator) (pending : List Operand) (text : Bytes) :
    readFrom (read ++ before) pending text =
      ⟨before.reverse ++ (readFrom read pending text).operators,
        (readFrom read pending text).stopped?⟩ := by
  induction hn : text.length using Nat.strongRecOn generalizing read pending text with
  | ind n ih =>
    obtain ⟨stopped?, hnone⟩ | ⟨l, mid, piece, rest, hscan, hpiece⟩ := readFrom_cases text
    · rw [hnone, hnone, List.reverse_append]
    · have hlength := length_lt_of_piece hscan hpiece
      rw [readFrom_of_piece hscan hpiece, readFrom_of_piece hscan hpiece]
      cases piece with
      | operand value => exact ih _ (hn ▸ hlength) read (value :: pending) rest rfl
      | word name => exact ih _ (hn ▸ hlength) (⟨name, pending.reverse⟩ :: read) [] rest rfl
      | image image => exact ih _ (hn ▸ hlength) (ofInlineImage image :: read) [] rest rfl
      | stray => exact ih _ (hn ▸ hlength) read pending rest rfl

/-- **Inline images are framed by the length that their entries declare.** An image without a
filter is read back with its entries and its data, whatever bytes these are, and what follows it is
read as if the contents began there. -/
theorem readAll_image {image : InlineImage} {text rest : Bytes} (himage : image.Written text)
    (hlength : dataLength? image.entries = some image.data.length)
    (hdepth : ∀ entry ∈ image.entries, entry.2.depth ≤ 256) (hrest : endsWord rest = true) :
    readAll (text ++ rest) =
      ⟨ofInlineImage image :: (readAll rest).operators, (readAll rest).stopped?⟩ := by
  obtain ⟨hhead, hseparator, hreturn, hgap⟩ := himage
  rw [List.append_assoc, List.cons_append, List.append_assoc, List.append_assoc, List.cons_append,
    List.singleton_append]
  have hends (after : Bytes) : endsWord (_ :: after) = true := (Gap.white hseparator).endsWord after
  cases scans_append_of_compact hhead (hends _) with
  | @cons _ entries _ _ _ hscan hscans =>
    have hread := read_of_scans hlength hdepth hseparator hreturn hgap hrest hscans
    have hpiece : Piece.read (.keyword "BI") entries = .ok (.image image, rest) := by
      rw [Piece.read, if_pos rfl, hread]
      rfl
    rw [readAll, readFrom_of_piece hscan hpiece, goOn]
    exact readFrom_append [] [ofInlineImage image] [] rest

/-- The entries of a stencil of thirty-two pixels. -/
def stencil : List (String × Operand) :=
  [("W", .integer 32), ("H", .integer 1), ("IM", .boolean true)]

theorem compact_stencil :
    Compact (entryLexemes stencil ++ [.keyword "ID"]) (Utf8.encode "/W 32/H 1/IM true ID") := by
  have htext : Utf8.encode "/W 32/H 1/IM true ID" =
      (Byte.of '/' :: Utf8.encode "W") ++ ([0x20] ++ (Utf8.encode (toString (32 : Int)) ++
        ((Byte.of '/' :: Utf8.encode "H") ++ ([0x20] ++ (Utf8.encode (toString (1 : Int)) ++
          ((Byte.of '/' :: Utf8.encode "IM") ++ ([0x20] ++ (Utf8.encode "true" ++
            ([0x20] ++ Utf8.encode "ID"))))))))) := by decide +kernel
  rw [htext]
  exact .spaced (written_name (by decide +kernel)) (.white rfl) <|
    .joined (written_integer (by decide)) (.inr rfl) <|
    .spaced (written_name (by decide +kernel)) (.white rfl) <|
    .joined (written_integer (by decide)) (.inr rfl) <|
    .spaced (written_name (by decide +kernel)) (.white rfl) <|
    .spaced (.keyword (isWord_literal 't' ['r', 'u', 'e'] rfl rfl)) (.white rfl) <|
    .last (.keyword (isWord_literal 'I' ['D'] rfl rfl))

theorem written_BI : Lexeme.Written (.keyword "BI") (Utf8.encode "BI") :=
  .keyword (isWord_literal 'B' ['I'] rfl rfl)

/-- Four samples that spell an end of their own are read as data, as their length is declared. -/
theorem readAll_image_end :
    readAll (Utf8.encode "BI/W 32/H 1/IM true ID  EI \nEI q") =
      ⟨[ofInlineImage ⟨stencil, [0x20, Byte.of 'E', Byte.of 'I', 0x20]⟩, ⟨"q", []⟩], none⟩ := by
  have htext : Utf8.encode "BI/W 32/H 1/IM true ID  EI \nEI q" =
      ((Utf8.encode "BI" ++ Utf8.encode "/W 32/H 1/IM true ID") ++ 0x20 ::
        ([0x20, Byte.of 'E', Byte.of 'I', 0x20] ++ ([0x0A] ++ [Byte.of 'E', Byte.of 'I']))) ++
      Utf8.encode " q" := by decide +kernel
  have himage : InlineImage.Written ⟨stencil, [0x20, Byte.of 'E', Byte.of 'I', 0x20]⟩
      ((Utf8.encode "BI" ++ Utf8.encode "/W 32/H 1/IM true ID") ++ 0x20 ::
        ([0x20, Byte.of 'E', Byte.of 'I', 0x20] ++ ([0x0A] ++ [Byte.of 'E', Byte.of 'I']))) :=
    .mk (.joined written_BI (.inr (by decide +kernel)) compact_stencil) rfl (by decide)
      (List.forall_mem_singleton.mpr rfl)
  have hrest : readAll (Utf8.encode " q") = ⟨[⟨"q", []⟩], none⟩ :=
    (readFrom_of_piece (l := .keyword "q") (by decide +kernel) rfl [] []).trans (readFrom_nil _ _)
  rw [htext, readAll_image himage (by decide +kernel) (by decide) (by decide +kernel), hrest]

/-- A number within some arrays. -/
def nested : Nat → Operand
  | 0 => .integer 0
  | n + 1 => .array [nested n]

/-- The text of a number within some arrays. -/
def nestedText (n : Nat) : Bytes :=
  List.replicate n (Byte.of '[') ++ (Utf8.encode (toString (0 : Int)) ++
    List.replicate n (Byte.of ']'))

theorem compact_nested (n : Nat) : Compact (nested n).lexemes (nestedText n) := by
  induction n with
  | zero =>
    rw [nestedText, List.replicate_zero, List.replicate_zero, List.nil_append, List.append_nil]
    exact .last (written_integer (by decide))
  | succ n ih =>
    have hlexemes : (nested (n + 1)).lexemes =
        [.arrayStart] ++ ((nested n).lexemes ++ [.arrayEnd]) := by
      rw [nested, Operand.lexemes, itemLexemes, itemLexemes, List.append_nil, List.singleton_append]
    have htext : nestedText (n + 1) = [Byte.of '['] ++ (nestedText n ++ [Byte.of ']']) := by
      rw [nestedText, nestedText, List.replicate_succ, List.replicate_succ', List.cons_append,
        List.append_assoc, List.append_assoc, List.singleton_append]
    have hinner := ih.append (.last .arrayEnd) rfl
    obtain ⟨next, rest, hcons⟩ := hinner.exists_cons
    rw [hlexemes, htext, hcons]
    exact .joined .arrayStart (.inl rfl) (hcons ▸ hinner)

/-- A stencil with a further entry. -/
theorem written_stencil {value : Operand} {text : Bytes} (h : Compact value.lexemes text)
    (hends : endsWord text = true) :
    InlineImage.Written ⟨("X", value) :: stencil, Utf8.encode "abcd"⟩
      ((Utf8.encode "BI" ++ ((Byte.of '/' :: Utf8.encode "X") ++
        (text ++ Utf8.encode "/W 32/H 1/IM true ID"))) ++
          0x20 :: (Utf8.encode "abcd" ++ ([0x20] ++ [Byte.of 'E', Byte.of 'I']))) := by
  have hkey : Lexeme.Written (.name "X") (Byte.of '/' :: Utf8.encode "X") :=
    written_name (by decide +kernel)
  have hentries := h.append compact_stencil (by decide +kernel)
  have hentries := (Compact.last hkey).append hentries (by rwa [endsWord_append h.ne_nil])
  refine .mk ?_ rfl (by decide) (List.forall_mem_singleton.mpr rfl)
  rw [entryLexemes, List.cons_append, List.append_assoc]
  exact (Compact.last written_BI).append hentries rfl

/-- A number within 257 arrays stops the reading in front of the image. -/
theorem not_readAll_image :
    ¬ ∀ (image : InlineImage) (text rest : Bytes), image.Written text →
        dataLength? image.entries = some image.data.length → endsWord rest = true →
        readAll (text ++ rest) =
          ⟨ofInlineImage image :: (readAll rest).operators, (readAll rest).stopped?⟩ := by
  intro h
  have hread := h _ _ [] (written_stencil (compact_nested 257) rfl) (by decide +kernel) rfl
  have hlength := congrArg (·.operators.length) hread
  revert hlength
  decide +kernel

end Operator

end PdfDisplay
