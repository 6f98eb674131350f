import PdfDisplay.Proofs.Syntax.Suffix

/-!
# Appending to a text

What is read in front of the end of a text does not depend on what is appended to the text: a
lexeme, an operand or an entry that leaves something of the text over is read the same way
from the longer text (`Lexeme.scan_append`, `Operand.read_append`,
`InlineImage.readEntries_append`). What reaches the end of the text may be different there: a
number may go on, and a closing bracket may become a pair.

The data of an inline image are the exception. `InlineImage.readData_append` says that data
which do not reach the end are read the same way, unless it is only the longer text that holds
as many bytes as the entries declare.
-/

namespace PdfDisplay

variable {text rest tail : Bytes}

/-- A run that stops inside the text stops there as well when a tail follows. -/
theorem takeWhile_append_of_dropWhile {p : UInt8 → Bool} (h : text.dropWhile p ≠ [])
    (tail : Bytes) : (text ++ tail).takeWhile p = text.takeWhile p := by
  induction text with
  | nil => exact absurd rfl h
  | cons b text ih =>
    by_cases hb : p b = true
    · rw [List.dropWhile_cons_of_pos hb] at h
      rw [List.cons_append, List.takeWhile_cons_of_pos hb, List.takeWhile_cons_of_pos hb, ih h]
    · rw [List.cons_append, List.takeWhile_cons_of_neg hb, List.takeWhile_cons_of_neg hb]

/-- What is left behind such a run has the tail behind it. -/
theorem dropWhile_append_of_dropWhile {p : UInt8 → Bool} (h : text.dropWhile p ≠ [])
    (tail : Bytes) : (text ++ tail).dropWhile p = text.dropWhile p ++ tail := by
  rw [List.dropWhile_append, if_neg (by simpa using h)]

namespace Lexeme

/-! ## Lexemes -/

theorem head?_append_of_ne_nil (h : text ≠ []) (tail : Bytes) :
    (text ++ tail).head? = text.head? := by
  obtain ⟨b, text, rfl⟩ := List.exists_cons_of_ne_nil h
  rfl

theorem drop_one_append (h : text ≠ []) (tail : Bytes) :
    (text ++ tail).drop 1 = text.drop 1 ++ tail := by
  obtain ⟨b, text, rfl⟩ := List.exists_cons_of_ne_nil h
  rfl

/-- **A tail changes nothing in front of where skipping stops**, as long as it stops inside the
text. -/
theorem skipWhite_append {comment : Bool} (h : skipWhite comment text ≠ []) (tail : Bytes) :
    skipWhite comment (text ++ tail) = skipWhite comment text ++ tail := by
  fun_induction skipWhite comment text with
  | case1 => exact absurd rfl h
  | case2 b text ih => rw [List.cons_append, skipWhite, ih h]
  | case3 b text hb ih => rw [List.cons_append, skipWhite, if_pos hb, ih h]
  | case4 text hb ih => rw [List.cons_append, skipWhite, if_neg hb, if_pos rfl, ih h]
  | case5 b text hb hc => rw [List.cons_append, skipWhite, if_neg hb, if_neg hc]

/-- Only the end of the text can make a bracket stray that is none in a longer text. -/
theorem isStray_append {b : UInt8} (h : text ≠ [] ∨ isStray b text = false) (tail : Bytes) :
    isStray b (text ++ tail) = isStray b text := by
  rcases List.eq_nil_or_concat text with rfl | ⟨init, last, rfl⟩
  · have hstray := h.resolve_left (· rfl)
    have hgt : (b == Byte.of '>') = false := by
      rcases hb : b == Byte.of '>' with _ | _
      · rfl
      · simp [isStray, hb] at hstray
    simp [isStray, hgt]
  · rw [isStray, isStray, head?_append_of_ne_nil (by simp)]

/-- Where the first lexeme of a text begins it begins with a tail behind the text, too. -/
theorem toFront_append {comment : Bool} {b : UInt8} (h : toFront comment text = b :: rest)
    (tail : Bytes) : toFront comment (text ++ tail) = b :: (rest ++ tail) := by
  fun_induction toFront comment text with
  | case1 => cases h
  | case2 c text ih => rw [List.cons_append, toFront, ih h]
  | case3 c text hc ih =>
    have hne : text ≠ [] := by
      rintro rfl
      cases h
    rw [List.cons_append, toFront, isStray_append (.inl hne), if_pos hc, ih h]
  | case4 text hc ih =>
    have hne : text ≠ [] := by
      rintro rfl
      cases h
    rw [List.cons_append, toFront, isStray_append (.inl hne), if_neg hc, if_pos rfl, ih h]
  | case5 c text hc hcomment =>
    have hstray : isStray c text = false := by
      rw [Bool.or_eq_true, not_or, Bool.not_eq_true, Bool.not_eq_true] at hc
      exact hc.2
    cases h
    rw [List.cons_append, toFront, isStray_append (.inr hstray), if_neg hc, if_neg hcomment]

/-- **A literal string that closes in the text closes at the same byte with a tail behind it**, by
induction along the run of its reader. -/
theorem run_append {r : StringReader} {bytes : Bytes} (h : r.run text = some (bytes, rest))
    (tail : Bytes) : r.run (text ++ tail) = some (bytes, rest ++ tail) := by
  induction text generalizing r with
  | nil => cases h
  | cons b text ih =>
    rw [StringReader.run] at h
    rw [List.cons_append, StringReader.run]
    cases hnext : r.next b with
    | inl r' =>
      rw [hnext] at h
      exact ih h
    | inr bytes' =>
      rw [hnext] at h
      cases h
      rfl

/-- A numeral with a point: digits, the point, and the digits behind it. -/
theorem numeral_of_point {after : Bytes} (h : text.dropWhile Byte.isDigit = 0x2E :: after) :
    numeral text =
      (⟨text.takeWhile Byte.isDigit, some (after.takeWhile Byte.isDigit)⟩,
        after.dropWhile Byte.isDigit) := by
  rw [numeral, h]
  rfl

/-- A numeral without a point ends at the first byte that is no digit. -/
theorem numeral_of_ne_point {b : UInt8} {after : Bytes}
    (h : text.dropWhile Byte.isDigit = b :: after) (hb : b ≠ 0x2E) :
    numeral text = (⟨text.takeWhile Byte.isDigit, none⟩, b :: after) := by
  rw [numeral, h]
  split
  case h_1 heq => exact absurd (List.cons.inj heq).1 hb
  case h_2 => rfl

/-- A number that ends before the text does ends there with a tail too; one that reaches the end of
the text might go on in the tail. -/
theorem numeral_append_of_ne_nil (h : (numeral text).2 ≠ []) (tail : Bytes) :
    numeral (text ++ tail) = ((numeral text).1, (numeral text).2 ++ tail) := by
  have hne : text.dropWhile Byte.isDigit ≠ [] := by
    intro hnil
    rw [numeral, hnil] at h
    exact h rfl
  have hdrop := dropWhile_append_of_dropWhile hne tail
  have htake := takeWhile_append_of_dropWhile hne tail
  obtain ⟨b, after, hafter⟩ := List.exists_cons_of_ne_nil hne
  rw [hafter, List.cons_append] at hdrop
  by_cases hb : b = 0x2E
  · subst hb
    rw [numeral_of_point hafter] at h ⊢
    rw [numeral_of_point hdrop, htake, dropWhile_append_of_dropWhile h,
      takeWhile_append_of_dropWhile h]
  · rw [numeral_of_ne_point hafter hb, numeral_of_ne_point hdrop hb, htake]
    rfl

/-- Whether what a longer text begins with is what a text begins with, `tail` behind it, unless
that reaches the end of the text. -/
def Extends (tail : Bytes) (short long : Front) : Prop :=
  ∀ l rest, short = .lexeme l rest → rest ≠ [] → long = .lexeme l (rest ++ tail)

namespace Extends

/-- `Extends` goes through a choice whose condition looks at the same bytes on both sides. -/
theorem ite {c : Prop} [Decidable c] {short long short' long' : Front}
    (h : Extends tail short long) (h' : Extends tail short' long') :
    Extends tail (if c then short else short') (if c then long else long') := by
  split
  case isTrue => exact h
  case isFalse => exact h'

theorem lexeme (l : Lexeme) (rest : Bytes) :
    Extends tail (.lexeme l rest) (.lexeme l (rest ++ tail)) := by
  rintro _ _ ⟨⟩ _
  rfl

theorem drop (l : Lexeme) (text : Bytes) :
    Extends tail (.lexeme l (text.drop 1)) (.lexeme l ((text ++ tail).drop 1)) := by
  rintro _ _ ⟨⟩ hrest
  have htext : text ≠ [] := (List.drop_suffix 1 text).ne_nil hrest
  rw [drop_one_append htext]

/-- What begins with the bytes of a kind. -/
theorem takeWhile (f : Bytes → Lexeme) (p : UInt8 → Bool) (text : Bytes) :
    Extends tail (.lexeme (f (text.takeWhile p)) (text.dropWhile p))
      (.lexeme (f ((text ++ tail).takeWhile p)) ((text ++ tail).dropWhile p)) := by
  rintro _ _ ⟨⟩ hrest
  rw [takeWhile_append_of_dropWhile hrest, dropWhile_append_of_dropWhile hrest]

/-- A number is extended unless it reaches the end of the text, where `Extends` asks for nothing. -/
theorem number (f : Numeral → Lexeme) (text : Bytes) :
    Extends tail (.lexeme (f (numeral text).1) (numeral text).2)
      (.lexeme (f (numeral (text ++ tail)).1) (numeral (text ++ tail)).2) := by
  rintro _ _ ⟨⟩ hrest
  rw [numeral_append_of_ne_nil hrest]

/-- A literal string that is closed is closed with a tail behind it. -/
theorem literalString (text : Bytes) :
    Extends tail
      (match StringReader.start.run text with
      | some (bytes, rest) => .lexeme (Lexeme.literalString bytes) rest
      | none => .unterminated)
      (match StringReader.start.run (text ++ tail) with
      | some (bytes, rest) => .lexeme (Lexeme.literalString bytes) rest
      | none => .unterminated) := by
  intro l rest h _
  split at h
  case h_1 bytes rest hrun =>
    cases h
    rw [run_append hrun]
  case h_2 => cases h

/-- A string in digits, or a pair of angle brackets. -/
theorem angle (text : Bytes) :
    Extends tail
      (if text.head? = some (Byte.of '<') then .lexeme dictionaryStart (text.drop 1)
      else .lexeme (hexString (hexBytes (text.takeWhile inHexString)))
        ((text.dropWhile inHexString).drop 1))
      (if (text ++ tail).head? = some (Byte.of '<') then
        .lexeme dictionaryStart ((text ++ tail).drop 1)
      else .lexeme (hexString (hexBytes ((text ++ tail).takeWhile inHexString)))
        (((text ++ tail).dropWhile inHexString).drop 1)) := by
  rcases List.eq_nil_or_concat text with rfl | ⟨init, last, rfl⟩
  · rintro _ _ ⟨⟩ hrest
    exact absurd rfl hrest
  · rw [head?_append_of_ne_nil (by simp)]
    refine ite (drop _ _) ?_
    rintro _ _ ⟨⟩ hrest
    have hdrop : (init.concat last).dropWhile inHexString ≠ [] :=
      (List.drop_suffix 1 _).ne_nil hrest
    rw [takeWhile_append_of_dropWhile hdrop,
      dropWhile_append_of_dropWhile hdrop, drop_one_append hdrop]

end Extends

/-- **The first lexeme of a text with a tail is that of the text**, with the tail behind its rest,
by going through the arms of `begin`. -/
theorem extends_begin (b : UInt8) (text tail : Bytes) :
    Extends tail (begin b text) (begin b (text ++ tail)) := by
  rw [begin.eq_def b text, begin.eq_def b (text ++ tail)]
  exact .ite (.literalString text) <| .ite (.angle text) <| .ite (.drop _ _) <|
    .ite (.lexeme _ _) <| .ite (.lexeme _ _) <|
    .ite (.takeWhile (fun written => name (Utf8.decode (unescapeName written))) _ _) <|
    .ite (.number _ _) <| .ite (.number _ (b :: text)) <|
    .takeWhile (fun word => keyword (Utf8.decode (b :: word))) _ _

/-- **A lexeme that does not reach the end of a text** is also the first of every longer text. -/
theorem scan_append {l : Lexeme} (h : scan text = .lexeme l rest) (hrest : rest ≠ [])
    (tail : Bytes) : scan (text ++ tail) = .lexeme l (rest ++ tail) := by
  rw [scan] at h
  split at h
  case h_1 => cases h
  case h_2 b after hfront =>
    rw [scan, toFront_append hfront]
    exact extends_begin b after tail l rest h hrest

theorem ne_nil_of_scan {l : Lexeme} (h : scan text = .lexeme l rest) : text ≠ [] := by
  rintro rfl
  cases h

end Lexeme

open Lexeme

/-! ## Operands -/

namespace Operand

/-- **An operand that ends before the text does is read the same way with a tail behind**, by
induction over the lexemes it consists of. -/
theorem finish_append {stack : List Container} {value : Operand}
    (h : finish stack text = .ok (value, rest)) (hrest : rest ≠ []) (tail : Bytes) :
    finish stack (text ++ tail) = .ok (value, rest ++ tail) := by
  fun_induction finish stack text with
  | case1 => cases h
  | case2 => cases h
  | case3 => cases h
  | case4 stack text l rest' hscan _ value' hfeed =>
    cases h
    exact finish_of_feed (scan_append hscan hrest tail) hfeed
  | case5 stack text l rest' hscan _ stack' hfeed ih =>
    have hrest' : rest' ≠ [] := (suffix_of_finish h).ne_nil hrest
    rw [finish_of_feed (scan_append hscan hrest' tail) hfeed]
    exact ih h

/-- **An operand that does not reach the end of a text** is also read from every longer text. -/
theorem read_append {l : Lexeme} {value : Operand} (h : read l text = .ok (value, rest))
    (hrest : rest ≠ []) (tail : Bytes) : read l (text ++ tail) = .ok (value, rest ++ tail) := by
  cases hbegin : Container.begin [] l with
  | error e =>
    rw [read, hbegin] at h
    cases h
  | ok next =>
    rw [read_of_begin hbegin] at h ⊢
    cases next with
    | inl value' => cases h; rfl
    | inr stack => exact finish_append h hrest tail

end Operand

/-! ## Entries of inline images -/

namespace InlineImage

/-- **Entries that do not reach the end of a text** are also read from every longer text. -/
theorem readEntries_append {read entries : List (String × Operand)}
    (h : readEntries read text = .ok (entries, rest)) (hrest : rest ≠ []) (tail : Bytes) :
    readEntries read (text ++ tail) = .ok (entries, rest ++ tail) := by
  fun_induction readEntries read text with
  | case1 | case2 | case4 | case5 | case7 => cases h
  | case3 read text rest' hscan =>
    cases h
    rw [readEntries_eq, scan_append hscan hrest]
    rfl
  | case6 read text key rest' hscan _ rest'' hscan' =>
    cases h
    rw [readEntries_eq, scan_append hscan (ne_nil_of_scan hscan'), readEntry,
      scan_append hscan' hrest]
    rfl
  | case8 read text key rest' hscan _ l rest'' hne hscan' _ value last hread _ ih =>
    have hlast : last ≠ [] := (suffix_of_readEntries h).ne_nil hrest
    have hrest'' : rest'' ≠ [] := (Operand.suffix_of_read hread).ne_nil hlast
    rw [readEntries_eq, scan_append hscan (ne_nil_of_scan hscan'), readEntry,
      scan_append hscan' hrest'', readValue.eq_4 _ _ _ _ hne, Operand.read_append hread hlast]
    exact ih h
  | case9 read text l rest' hID hname hscan _ ih =>
    have hrest' : rest' ≠ [] := (suffix_of_readEntries h).ne_nil hrest
    rw [readEntries_eq, scan_append hscan hrest', readEntry.eq_5 _ _ _ hID hname]
    exact ih h

/-! ## Data of inline images -/

theorem endsWord_append (h : text ≠ []) (tail : Bytes) :
    endsWord (text ++ tail) = endsWord text := by
  obtain ⟨b, text, rfl⟩ := List.exists_cons_of_ne_nil h
  rfl

/-- Whether `EI` stands at the front is decided by three bytes, so a tail behind as many changes
nothing. -/
theorem end?_append_of_length (h : 2 < text.length)
    (tail : Bytes) : end? (text ++ tail) = (end? text).map (· ++ tail) := by
  match text with
  | e :: i :: b :: text =>
    have hends : endsWord (b :: (text ++ tail)) = endsWord (b :: text) := rfl
    rw [List.cons_append, List.cons_append, List.cons_append, end?, end?, hends]
    split <;> rfl

/-- An end marker with something behind it stays one when a tail follows. -/
theorem end?_append (h : end? text = some rest) (hrest : rest ≠ [])
    (tail : Bytes) : end? (text ++ tail) = some (rest ++ tail) := by
  obtain ⟨rfl, hends⟩ := end?_eq_some h
  rw [← endsWord_append hrest tail] at hends
  rw [List.cons_append, List.cons_append, end?, if_pos ⟨rfl, rfl, hends⟩]

/-- The separator in front of image data is one white byte, except that a carriage return and a line
feed count as one. -/
theorem skipSeparator_cons {b : UInt8} (h : ¬ (b = 0x0D ∧ text.head? = some 0x0A)) :
    skipSeparator (b :: text) = if Byte.isWhite b then text else b :: text := by
  rw [skipSeparator.eq_def]
  split
  case h_1 heq =>
    cases heq
    exact absurd ⟨rfl, rfl⟩ h
  case h_2 heq =>
    cases heq
    rfl
  case h_3 heq => cases heq

/-- The separator is the same with a tail behind, if it does not reach the end of the text. -/
theorem skipSeparator_append (h : skipSeparator text ≠ []) (tail : Bytes) :
    skipSeparator (text ++ tail) = skipSeparator text ++ tail := by
  cases text with
  | nil => exact absurd rfl h
  | cons b text =>
    by_cases hpair : b = 0x0D ∧ text.head? = some 0x0A
    · obtain ⟨rfl, hhead⟩ := hpair
      obtain ⟨after, rfl⟩ := List.head?_eq_some_iff.mp hhead
      rfl
    · rw [skipSeparator_cons hpair] at h ⊢
      -- at the end of the text a carriage return could still take a line feed with it
      have hpair' : ¬ (b = 0x0D ∧ (text ++ tail).head? = some 0x0A) := by
        rintro ⟨rfl, hhead⟩
        have htext : text ≠ [] := by
          rintro rfl
          exact h rfl
        rw [head?_append_of_ne_nil htext] at hhead
        exact hpair ⟨rfl, hhead⟩
      rw [List.cons_append, skipSeparator_cons hpair']
      split <;> rfl

/-- Data that are taken by their length in front of the end of a text. -/
theorem takeData_append {length : Nat} {data : Bytes}
    (h : takeData length text = some (data, rest)) (hrest : rest ≠ []) (tail : Bytes) :
    takeData length (text ++ tail) = some (data, rest ++ tail) := by
  obtain ⟨hlength, rfl, hend⟩ := takeData_eq_some h
  have hwhite : skipWhite false (text.drop length) ≠ [] := (suffix_of_end? hend).ne_nil hrest
  have hlonger : length ≤ (text ++ tail).length := by
    rw [List.length_append]
    omega
  have hend' := end?_append hend hrest tail
  rw [takeData, if_pos hlonger, List.drop_append_of_le_length hlength, skipWhite_append hwhite,
    hend', List.take_append_of_le_length hlength]
  rfl

/-- A search that finds the end marker has passed over its two letters at least. -/
theorem add_two_le_of_scanData {read data : Bytes} (h : scanData read text = some (data, rest)) :
    rest.length + 2 ≤ text.length := by
  fun_induction scanData read text with
  | case1 => cases h
  | case2 read b text rest' hend =>
    cases h
    split at hend
    case isTrue =>
      rw [(end?_eq_some hend).1]
      exact Nat.le_refl _
    case isFalse => cases hend
  | case3 read b text _ ih =>
    have := ih h
    rw [List.length_cons]
    omega

/-- Data that are found in front of the end of a text. -/
theorem scanData_append {read data : Bytes} (h : scanData read text = some (data, rest))
    (hrest : rest ≠ []) (tail : Bytes) :
    scanData read (text ++ tail) = some (data, rest ++ tail) := by
  fun_induction scanData read text with
  | case1 => cases h
  | case2 read b text rest' hend =>
    cases h
    split at hend
    case isFalse => cases hend
    case isTrue hseparated =>
      have hlonger : end? (b :: (text ++ tail)) = some (rest ++ tail) := end?_append hend hrest tail
      rw [List.cons_append, scanData, if_pos hseparated, hlonger]
  | case3 read b text hend ih =>
    -- enough of the text is left to tell whether an end stands here
    have hlength : 2 < (b :: text).length := by
      have := add_two_le_of_scanData h
      have := List.length_pos_iff.mpr hrest
      rw [List.length_cons]
      omega
    have hlonger : (if separated read = true then end? (b :: (text ++ tail)) else none) = none := by
      split
      case isTrue hseparated =>
        rw [if_pos hseparated] at hend
        rw [← List.cons_append, end?_append_of_length hlength, hend]
        rfl
      case isFalse => rfl
    rw [List.cons_append, scanData, hlonger]
    exact ih h

/-- What is found by looking for the end is also taken by its length. -/
theorem scanData_eq_some {read data : Bytes} (h : scanData read text = some (data, rest)) :
    ∃ gap, read.reverse ++ text = data ++ (gap ++ Byte.of 'E' :: Byte.of 'I' :: rest) ∧
      endsWord rest = true ∧ ∀ b ∈ gap, Byte.isWhite b = true := by
  fun_induction scanData read text with
  | case1 => cases h
  | case2 read b text rest' hend =>
    cases h
    split at hend
    case isFalse => cases hend
    case isTrue hseparated =>
      obtain ⟨htext, hends⟩ := end?_eq_some hend
      rw [htext]
      cases read with
      | nil => exact ⟨[], rfl, hends, List.forall_mem_nil _⟩
      | cons w read =>
        have hw : Byte.isWhite w = true := hseparated
        refine ⟨[w], ?_, hends, by simpa using hw⟩
        rw [withoutSeparator, if_pos hw, List.reverse_cons, List.append_assoc]
  | case3 read b text _ ih =>
    obtain ⟨gap, hgap, hends, hwhite⟩ := ih h
    refine ⟨gap, ?_, hends, hwhite⟩
    rw [← hgap, List.reverse_cons, List.append_assoc, List.singleton_append]

/-- White bytes in front of a text are skipped with whatever else is skipped. -/
theorem skipWhite_append_of_white {gap : Bytes} (h : ∀ b ∈ gap, Byte.isWhite b = true)
    (text : Bytes) : skipWhite false (gap ++ text) = skipWhite false text := by
  induction gap with
  | nil => rfl
  | cons b gap ih =>
    rw [List.cons_append, skipWhite, if_pos (h b List.mem_cons_self),
      ih fun c hc => h c (List.mem_cons_of_mem b hc)]

/-- Data in front of their end are taken by their length, whatever they are. -/
theorem takeData_append_end (data : Bytes) {gap : Bytes} (hwhite : ∀ b ∈ gap, Byte.isWhite b = true)
    (hends : endsWord rest = true) :
    takeData data.length (data ++ (gap ++ Byte.of 'E' :: Byte.of 'I' :: rest)) =
      some (data, rest) := by
  have hend : end? (Byte.of 'E' :: Byte.of 'I' :: rest) = some rest := by
    rw [end?, if_pos ⟨rfl, rfl, hends⟩]
  have hskip : skipWhite false (gap ++ Byte.of 'E' :: Byte.of 'I' :: rest) =
      Byte.of 'E' :: Byte.of 'I' :: rest := skipWhite_append_of_white hwhite _
  rw [takeData, if_pos (by rw [List.length_append]; omega), List.drop_left, List.take_left, hskip,
    hend]
  rfl

/-- Data that a search finds are taken when their length is declared: the marker stands where taking
looks for it. -/
theorem takeData_of_scanData {data : Bytes} (h : scanData [] text = some (data, rest)) :
    takeData data.length text = some (data, rest) := by
  obtain ⟨gap, htext, hends, hwhite⟩ := scanData_eq_some h
  rw [List.reverse_nil, List.nil_append] at htext
  rw [htext, takeData_append_end data hwhite hends]

/-- Whether a text ends within data of some length that the longer text holds, and other data are
found in the text by looking for their end. -/
structure CutShort (text tail data found : Bytes) : Prop where
  /-- The longer text holds the data. -/
  whole : ∃ rest, takeData data.length (text ++ tail) = some (data, rest)
  /-- The text does not hold as many, with their end. -/
  short : takeData data.length text = none
  /-- The text holds an end. -/
  found : ∃ rest, scanData [] text = some (found, rest)

/-- The data that are found are not those that the longer text holds. -/
theorem CutShort.ne {data found : Bytes} (h : CutShort text tail data found) : found ≠ data := by
  rintro rfl
  obtain ⟨rest, hscan⟩ := h.found
  have hshort := h.short
  rw [takeData_of_scanData hscan] at hshort
  cases hshort

/-- **Data that do not reach the end of a text** are also read from every longer text, unless the
text is cut short within data of the length that the entries declare. -/
theorem readData_append {entries : List (String × Operand)} {data : Bytes}
    (h : readData entries text = some (data, rest)) (hrest : rest ≠ []) (tail : Bytes) :
    readData entries (text ++ tail) = some (data, rest ++ tail) ∨
      ∃ whole rest', readData entries (text ++ tail) = some (whole, rest') ∧
        dataLength? entries = some whole.length ∧ CutShort text tail whole data := by
  cases hlength : dataLength? entries with
  | none =>
    rw [readData, hlength] at h ⊢
    exact .inl (scanData_append h hrest tail)
  | some length =>
    rw [readData, hlength] at h ⊢
    rw [Option.bind_some] at h ⊢
    cases htake : takeData length text with
    | some taken =>
      rw [htake] at h
      cases h
      rw [takeData_append htake hrest]
      exact .inl rfl
    | none =>
      rw [htake] at h
      cases hlonger : takeData length (text ++ tail) with
      | none => exact .inl (scanData_append h hrest tail)
      | some taken =>
        -- only the longer text holds as many bytes as are declared
        obtain ⟨whole, rest'⟩ := taken
        obtain ⟨hle, hwhole, -⟩ := takeData_eq_some hlonger
        have hwhole : whole.length = length := by
          rw [hwhole, List.length_take, Nat.min_eq_left hle]
        subst hwhole
        exact .inr ⟨whole, rest', rfl, rfl, ⟨rest', hlonger⟩, htake, ⟨rest, h⟩⟩

/-! ## Inline images -/

/-- Whether a text is cut short within the data of an inline image: with `tail` behind it the image
is `whole`, whose data have the length that its entries declare, and without it is `found`. -/
structure CutIn (text tail : Bytes) (whole found : InlineImage) : Prop where
  /-- The entries are the same. -/
  entries : found.entries = whole.entries
  /-- The entries declare the length of the data. -/
  declared : dataLength? whole.entries = some whole.data.length
  /-- The data begin somewhere in the text. -/
  data : ∃ body, body <:+ text ∧ CutShort body tail whole.data found.data

/-- Where an image is cut inside a shorter end of the text it is cut inside the text. -/
theorem CutIn.of_suffix {short : Bytes} {whole found : InlineImage}
    (h : CutIn short tail whole found) (hsuffix : short <:+ text) :
    CutIn text tail whole found := by
  obtain ⟨body, hbody, hcut⟩ := h.data
  exact ⟨h.entries, h.declared, body, hbody.trans hsuffix, hcut⟩

/-- **An inline image that does not reach the end of a text** is also read from every longer text,
unless the text is cut short within its data. -/
theorem read_append {image : InlineImage} (h : read text = .ok (image, rest)) (hrest : rest ≠ [])
    (tail : Bytes) :
    read (text ++ tail) = .ok (image, rest ++ tail) ∨
      ∃ whole rest', read (text ++ tail) = .ok (whole, rest') ∧ CutIn text tail whole image := by
  rw [read] at h
  split at h
  case h_1 => cases h
  case h_2 entries mid hentries =>
    split at h
    case h_2 => cases h
    case h_1 data rest' hdata =>
      cases h
      have hseparator : skipSeparator mid ≠ [] := (suffix_of_readData hdata).ne_nil hrest
      have hmid : mid ≠ [] := (suffix_skipSeparator mid).ne_nil hseparator
      have hlonger := readEntries_append hentries hmid tail
      rw [read, hlonger]
      dsimp only
      rw [skipSeparator_append hseparator]
      -- the data end where they did, or the longer text completes the declared length
      rcases readData_append hdata hrest tail with hsame | ⟨whole, rest', hwhole, hdeclared, hcut⟩
      · rw [hsame]
        exact .inl rfl
      · rw [hwhole]
        have hsuffix := (suffix_skipSeparator mid).trans (suffix_of_readEntries hentries)
        exact .inr ⟨⟨entries, whole⟩, rest', rfl, rfl, hdeclared, _, hsuffix, hcut⟩

end InlineImage

/-! ## Pieces of contents -/

namespace Operator

open InlineImage (CutIn)

/-- **A piece that does not reach the end of a text** is also read from every longer text, unless
it is an inline image and the text is cut short within its data. -/
theorem Piece.read_append {l : Lexeme} {piece : Piece} (h : Piece.read l text = .ok (piece, rest))
    (hrest : rest ≠ []) (tail : Bytes) :
    Piece.read l (text ++ tail) = .ok (piece, rest ++ tail) ∨
      ∃ whole found rest', piece = .image found ∧
        Piece.read l (text ++ tail) = .ok (.image whole, rest') ∧ CutIn text tail whole found := by
  obtain ⟨image, rfl, rfl, himage⟩ | ⟨rfl, hread⟩ | ⟨value, rfl, hvalue, hread⟩ :=
    Piece.read_cases h
  · have hBI : ∀ text', Piece.read (.keyword "BI") text' =
        (InlineImage.read text').map fun found => (.image found.1, found.2) := fun _ => rfl
    rw [hBI]
    rcases InlineImage.read_append himage hrest tail with hsame | ⟨whole, rest', hwhole, hcut⟩
    · rw [hsame]
      exact .inl rfl
    · rw [hwhole]
      exact .inr ⟨whole, image, rest', rfl, rfl, hcut⟩
  · exact .inl (hread _)
  · rw [hread, Operand.read_append hvalue hrest]
    exact .inl rfl

end Operator

end PdfDisplay
