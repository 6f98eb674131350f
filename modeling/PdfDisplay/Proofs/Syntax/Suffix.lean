import PdfDisplay.Proofs.Syntax.Steps

/-!
# What reading leaves over

Every reader takes something off the front of a text: what it leaves over is an end of the text,
from the first lexeme (`Lexeme.suffix_of_scan`) to whole inline images
(`InlineImage.suffix_of_read`) and the pieces of contents (`Operator.Piece.suffix_of_read`).
-/

namespace PdfDisplay

variable {text rest : Bytes}

/-! ## Lexemes -/

namespace Lexeme

theorem suffix_toFront (comment : Bool) (text : Bytes) : toFront comment text <:+ text := by
  fun_induction toFront comment text with
  | case1 => exact List.suffix_refl []
  | case2 b text ih => exact ih.trans (List.suffix_cons b text)
  | case3 b text _ ih => exact ih.trans (List.suffix_cons b text)
  | case4 text _ ih => exact ih.trans (List.suffix_cons _ text)
  | case5 b text => exact List.suffix_refl (b :: text)

theorem suffix_skipWhite (comment : Bool) (text : Bytes) : skipWhite comment text <:+ text := by
  fun_induction skipWhite comment text with
  | case1 => exact List.suffix_refl []
  | case2 b text ih => exact ih.trans (List.suffix_cons b text)
  | case3 b text _ ih => exact ih.trans (List.suffix_cons b text)
  | case4 text _ ih => exact ih.trans (List.suffix_cons _ text)
  | case5 b text => exact List.suffix_refl (b :: text)

/-- What is left behind a literal string is a suffix of the text it was read from. -/
theorem suffix_of_run {r : StringReader} {bytes : Bytes} (h : r.run text = some (bytes, rest)) :
    rest <:+ text := by
  induction text generalizing r with
  | nil => cases h
  | cons b text ih =>
    rw [StringReader.run] at h
    split at h
    case h_1 => exact (ih h).trans (List.suffix_cons b text)
    case h_2 =>
      cases h
      exact List.suffix_cons b _

theorem suffix_numeral (text : Bytes) : (numeral text).2 <:+ text := by
  have hwhole : text.dropWhile Byte.isDigit <:+ text := List.dropWhile_suffix _
  rw [numeral]
  split
  case h_1 after hafter =>
    rw [hafter] at hwhole
    exact ((List.dropWhile_suffix _).trans (List.suffix_cons _ after)).trans hwhole
  case h_2 => exact hwhole

/-- Whether what a text begins with, if it is a lexeme, leaves an end of the text over. -/
def LeavesEnd (text : Bytes) : Front → Prop
  | .lexeme _ rest => rest <:+ text
  | _ => True

/-- A choice between two fronts leaves a suffix if both of its arms do, so the arms of `begin` are
settled one at a time. -/
theorem LeavesEnd.ite {c : Prop} [Decidable c] {front front' : Front} (h : LeavesEnd text front)
    (h' : LeavesEnd text front') : LeavesEnd text (if c then front else front') := by
  split
  case isTrue => exact h
  case isFalse => exact h'

/-- **What a lexeme leaves behind is a suffix of the text**, by going through the arms of `begin`:
each of them drops bytes from the front and puts none back. -/
theorem leavesEnd_begin (b : UInt8) (text : Bytes) : LeavesEnd (b :: text) (begin b text) := by
  have hcons : text <:+ b :: text := List.suffix_cons b text
  have hword : text.dropWhile Byte.isRegular <:+ b :: text := (List.dropWhile_suffix _).trans hcons
  have hhex : (text.dropWhile inHexString).drop 1 <:+ b :: text :=
    ((List.drop_suffix 1 _).trans (List.dropWhile_suffix _)).trans hcons
  have hpair : text.drop 1 <:+ b :: text := (List.drop_suffix 1 text).trans hcons
  have hsigned := (suffix_numeral text).trans hcons
  rw [begin]
  refine .ite ?_ <| .ite (.ite hpair hhex) <| .ite hpair <| .ite hcons <| .ite hcons <|
    .ite hword <| .ite hsigned <| .ite (suffix_numeral (b :: text)) hword
  -- a literal string
  split
  case h_1 bytes rest hrun => exact (suffix_of_run hrun).trans hcons
  case h_2 => trivial

/-- What a scan leaves is a suffix of what it was given. -/
theorem suffix_of_scan {l : Lexeme} (h : scan text = .lexeme l rest) : rest <:+ text := by
  rw [scan] at h
  split at h
  case h_1 => cases h
  case h_2 b after hfront =>
    have hbegin := leavesEnd_begin b after
    rw [h] at hbegin
    exact (hfront ▸ hbegin).trans (suffix_toFront false text)

end Lexeme

open Lexeme

/-! ## Operands -/

namespace Operand

/-- What an operand leaves is a suffix too, by induction over the lexemes it is made of. -/
theorem suffix_of_finish {stack : List Container} {value : Operand}
    (h : finish stack text = .ok (value, rest)) : rest <:+ text := by
  fun_induction finish stack text with
  | case1 | case2 | case3 => cases h
  | case4 stack text l rest' hscan _ value' hfeed =>
    cases h
    exact suffix_of_scan hscan
  | case5 stack text l rest' hscan _ stack' hfeed ih => exact (ih h).trans (suffix_of_scan hscan)

theorem suffix_of_read {l : Lexeme} {value : Operand} (h : read l text = .ok (value, rest)) :
    rest <:+ text := by
  rw [read] at h
  split at h
  case h_1 => cases h
  case h_2 =>
    cases h
    exact List.suffix_refl _
  case h_3 => exact suffix_of_finish h

end Operand

/-! ## Inline images -/

namespace InlineImage

theorem suffix_of_readEntries {read entries : List (String × Operand)}
    (h : readEntries read text = .ok (entries, rest)) : rest <:+ text := by
  fun_induction readEntries read text with
  | case1 | case2 | case4 | case5 | case7 => cases h
  | case3 read text rest' hscan =>
    cases h
    exact suffix_of_scan hscan
  | case6 read text key rest' hscan _ rest'' hscan' =>
    cases h
    exact (suffix_of_scan hscan').trans (suffix_of_scan hscan)
  | case8 read text key rest' hscan _ l rest'' _ hscan' _ value last hread _ ih =>
    exact ((ih h).trans (Operand.suffix_of_read hread)).trans
      ((suffix_of_scan hscan').trans (suffix_of_scan hscan))
  | case9 read text l rest' _ _ hscan _ ih => exact (ih h).trans (suffix_of_scan hscan)

theorem suffix_skipSeparator (text : Bytes) : skipSeparator text <:+ text := by
  rw [skipSeparator.eq_def]
  split
  case h_1 rest => exact (List.suffix_cons _ rest).trans (List.suffix_cons _ _)
  case h_2 b rest _ =>
    split
    case isTrue => exact List.suffix_cons b rest
    case isFalse => exact List.suffix_refl _
  case h_3 => exact List.suffix_refl []

/-- The end marker is the two letters `EI` where a word ends behind them, and what is left begins
right behind the letters. -/
theorem end?_eq_some (h : end? text = some rest) :
    text = Byte.of 'E' :: Byte.of 'I' :: rest ∧ endsWord rest = true := by
  rw [end?.eq_def] at h
  split at h
  case h_1 e i rest' =>
    split at h
    case isTrue hEI =>
      obtain ⟨rfl, rfl, hends⟩ := hEI
      cases h
      exact ⟨rfl, hends⟩
    case isFalse => cases h
  case h_2 => cases h

theorem suffix_of_end? (h : end? text = some rest) : rest <:+ text := by
  rw [(end?_eq_some h).1]
  exact (List.suffix_cons _ rest).trans (List.suffix_cons _ _)

/-- A search for the end marker leaves a suffix of the text, wherever it finds one. -/
theorem suffix_of_scanData {read data : Bytes} (h : scanData read text = some (data, rest)) :
    rest <:+ text := by
  fun_induction scanData read text with
  | case1 => cases h
  | case2 read b text rest' hend =>
    cases h
    split at hend
    case isTrue => exact suffix_of_end? hend
    case isFalse => cases hend
  | case3 read b text _ ih => exact (ih h).trans (List.suffix_cons b text)

/-- **What taking data of a declared length means**: the text holds that many bytes, they are the
data, and `EI` follows them behind white space. -/
theorem takeData_eq_some {length : Nat} {data : Bytes}
    (h : takeData length text = some (data, rest)) :
    length ≤ text.length ∧
      data = text.take length ∧ end? (skipWhite false (text.drop length)) = some rest := by
  rw [takeData] at h
  split at h
  case isTrue hlength =>
    obtain ⟨rest', hend, hpair⟩ := Option.map_eq_some_iff.mp h
    cases hpair
    exact ⟨hlength, rfl, hend⟩
  case isFalse => cases h

theorem suffix_of_takeData {length : Nat} {data : Bytes}
    (h : takeData length text = some (data, rest)) : rest <:+ text := by
  obtain ⟨-, -, hend⟩ := takeData_eq_some h
  have hwhite := (suffix_of_end? hend).trans (suffix_skipWhite false _)
  exact hwhite.trans (List.drop_suffix length text)

/-- Of the two ways to read the data of an image, by declared length and by search, each leaves a
suffix. -/
theorem suffix_of_readData {entries : List (String × Operand)} {data : Bytes}
    (h : readData entries text = some (data, rest)) : rest <:+ text := by
  rw [readData] at h
  cases htaken : (dataLength? entries).bind (takeData · text) with
  | none =>
    rw [htaken] at h
    exact suffix_of_scanData h
  | some taken =>
    rw [htaken] at h
    cases h
    obtain ⟨length, -, htake⟩ := Option.bind_eq_some_iff.mp htaken
    exact suffix_of_takeData htake

theorem suffix_of_read {image : InlineImage} (h : read text = .ok (image, rest)) :
    rest <:+ text := by
  rw [read] at h
  split at h
  case h_1 => cases h
  case h_2 entries rest' hentries =>
    split at h
    case h_1 data rest'' hdata =>
      cases h
      exact ((suffix_of_readData hdata).trans (suffix_skipSeparator rest')).trans
        (suffix_of_readEntries hentries)
    case h_2 => cases h

end InlineImage

/-! ## Contents -/

namespace Operator

/-- **Every piece of a content stream leaves a suffix** of the text: operands, operators and inline
images alike. -/
theorem Piece.suffix_of_read {l : Lexeme} {piece : Piece}
    (h : Piece.read l text = .ok (piece, rest)) : rest <:+ text := by
  obtain ⟨_, -, -, himage⟩ | ⟨rfl, -⟩ | ⟨_, -, hvalue, -⟩ := Piece.read_cases h
  · exact InlineImage.suffix_of_read himage
  · exact List.suffix_refl _
  · exact Operand.suffix_of_read hvalue

end Operator

end PdfDisplay
