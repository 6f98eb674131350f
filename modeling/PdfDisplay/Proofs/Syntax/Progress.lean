import PdfDisplay.Proofs.Syntax.Joining

/-!
# Progress of the lexer

At every position of a text, taking a lexeme off comes to one of three things (`Lexeme.Advances`):
nothing is left but white space, comments and delimiters that close nothing (`Lexeme.Barren`); or a
literal string begins that does not end; or a lexeme is taken, and the reading goes on at a later
position, which is no later than the end of the text.

What follows the data of an inline image is looked for at several positions, and the reading can go
back from where the data should have ended. None of these positions is behind the end of the text
(`InlineImage.StaysWithin`).
-/

namespace PdfDisplay

variable {content text rest : Bytes} {position : Nat}

namespace Lexeme

/-! ## Texts without lexemes -/

/-- Whether a text holds nothing but white space, comments and delimiters that close nothing. -/
inductive Barren : Bytes → Prop where
  /-- Nothing at all. -/
  | nil : Barren []
  /-- White space. -/
  | white {b : UInt8} {rest : Bytes} (hb : Byte.isWhite b = true) (h : Barren rest) :
    Barren (b :: rest)
  /-- A comment, up to a line end or the end of the text. -/
  | comment {body rest : Bytes} (hbody : ∀ b ∈ body, Byte.isLineEnd b = false)
    (hend : ∀ b ∈ rest.head?, Byte.isLineEnd b = true) (h : Barren rest) :
    Barren (Byte.of '%' :: (body ++ rest))
  /-- A delimiter that closes nothing. -/
  | stray {b : UInt8} {rest : Bytes} (hb : isStray b rest = true) (h : Barren rest) :
    Barren (b :: rest)

/-- Whether a text, which may begin within a comment, holds no lexeme. -/
def BarrenBehind : (comment : Bool) → Bytes → Prop
  | false, text => Barren text
  | true, text => ∃ body rest, text = body ++ rest ∧ (∀ b ∈ body, Byte.isLineEnd b = false) ∧
    (∀ b ∈ rest.head?, Byte.isLineEnd b = true) ∧ Barren rest

theorem isWhite_of_isLineEnd {b : UInt8} (h : Byte.isLineEnd b = true) :
    Byte.isWhite b = true := by
  rw [Byte.isLineEnd, Bool.or_eq_true, beq_iff_eq, beq_iff_eq] at h
  obtain rfl | rfl := h <;> rfl

theorem isStray_of_append {b : UInt8} {before : Bytes} (h : isStray b (before ++ rest) = true) :
    isStray b before = true := by
  cases before with
  | nil =>
    rw [isStray, Bool.or_eq_true] at h ⊢
    refine h.imp_right fun hbracket => ?_
    rw [Bool.and_eq_true] at hbracket ⊢
    exact ⟨hbracket.1, rfl⟩
  | cons c before => exact h

/-- What is passed over in front of a lexeme holds none. -/
theorem exists_barren (comment : Bool) (text : Bytes) :
    ∃ before, text = before ++ toFront comment text ∧ BarrenBehind comment before := by
  fun_induction toFront comment text with
  | case1 comment =>
    refine ⟨[], rfl, ?_⟩
    cases comment with
    | false => exact .nil
    | true =>
      have hend : ∀ b ∈ ([] : Bytes).head?, Byte.isLineEnd b = true :=
        fun b hb => absurd hb (Option.not_mem_none b)
      exact ⟨[], [], rfl, List.forall_mem_nil _, hend, .nil⟩
  | case2 b text ih =>
    obtain ⟨before, htext, hbefore⟩ := ih
    refine ⟨b :: before, congrArg (b :: ·) htext, ?_⟩
    cases hb : Byte.isLineEnd b with
    | true =>
      -- the line end is white space behind the comment
      rw [hb] at hbefore
      have hbarren : Barren (b :: before) := .white (isWhite_of_isLineEnd hb) hbefore
      refine ⟨[], b :: before, rfl, List.forall_mem_nil _, ?_, hbarren⟩
      rintro _ ⟨⟩
      exact hb
    | false =>
      rw [hb] at hbefore
      obtain ⟨body, rest, rfl, hbody, hrest⟩ := hbefore
      exact ⟨b :: body, rest, rfl, List.forall_mem_cons.mpr ⟨hb, hbody⟩, hrest⟩
  | case3 b text hb ih =>
    obtain ⟨before, htext, hbefore⟩ := ih
    refine ⟨b :: before, congrArg (b :: ·) htext, ?_⟩
    obtain hwhite | hstray := Bool.or_eq_true_iff.mp hb
    · exact .white hwhite hbefore
    · rw [htext] at hstray
      exact .stray (isStray_of_append hstray) hbefore
  | case4 text _ ih =>
    obtain ⟨before, htext, body, rest, rfl, hbody, hend, hrest⟩ := ih
    exact ⟨_, congrArg (_ :: ·) htext, .comment hbody hend hrest⟩
  | case5 b text => exact ⟨[], rfl, .nil⟩

theorem toFront_comment_eq_nil {body : Bytes} (hbody : ∀ b ∈ body, Byte.isLineEnd b = false)
    (hend : ∀ b ∈ rest.head?, Byte.isLineEnd b = true) (h : toFront false rest = []) :
    toFront true (body ++ rest) = [] := by
  induction body with
  | nil =>
    cases rest with
    | nil => rfl
    | cons e rest =>
      have he : Byte.isLineEnd e = true := hend e rfl
      rw [toFront, isWhite_of_isLineEnd he, Bool.true_or, if_pos rfl] at h
      rw [List.nil_append, toFront, he, Bool.not_true, h]
  | cons b body ih =>
    rw [List.forall_mem_cons] at hbody
    rw [List.cons_append, toFront, hbody.1, Bool.not_false, ih hbody.2]

theorem Barren.toFront_eq_nil (h : Barren text) : toFront false text = [] := by
  induction h with
  | nil => rfl
  | white hb _ ih => rw [toFront, hb, Bool.true_or, if_pos rfl, ih]
  | @comment body rest hbody hend _ ih =>
    have hmark : (Byte.isWhite (Byte.of '%') || isStray (Byte.of '%') (body ++ rest)) = false := rfl
    rw [toFront, hmark, if_neg Bool.false_ne_true, if_pos rfl, toFront_comment_eq_nil hbody hend ih]
  | stray hb _ ih => rw [toFront, hb, Bool.or_true, if_pos rfl, ih]

/-- **The end is reported exactly where no lexeme is left.** -/
theorem scan_eq_done_iff_barren : scan text = .done ↔ Barren text := by
  refine scan_eq_done_iff.trans ⟨fun hfront => ?_, Barren.toFront_eq_nil⟩
  obtain ⟨before, htext, hbefore⟩ := exists_barren false text
  rw [hfront, List.append_nil] at htext
  exact htext ▸ hbefore

/-! ## Positions -/

/-- Whether what is left over of a text begins at a position or behind it, and no later than at the
end of the text. -/
def LeftFrom (content : Bytes) (position : Nat) (rest : Bytes) : Prop :=
  ∃ next, position ≤ next ∧ next ≤ content.length ∧ rest = content.drop next

theorem leftFrom_of_suffix (hposition : position ≤ content.length)
    (h : rest <:+ content.drop position) : LeftFrom content position rest := by
  have hlength := h.length_le
  rw [List.length_drop] at hlength
  refine ⟨content.length - rest.length, by omega, Nat.sub_le _ _, ?_⟩
  exact List.suffix_iff_eq_drop.mp (h.trans (List.drop_suffix position content))

/-- What taking a lexeme off at a position of a text comes to. -/
inductive Advances (content : Bytes) (position : Nat) : Front → Prop where
  /-- There is no lexeme any more. -/
  | done (h : Barren (content.drop position)) : Advances content position .done
  /-- A literal string begins that does not end. -/
  | unterminated {before body : Bytes}
    (htext : content.drop position = before ++ Byte.of '(' :: body) (hbefore : Barren before)
    (hbody : StringReader.start.run body = none) : Advances content position .unterminated
  /-- The reading goes on at a later position. -/
  | lexeme {l : Lexeme} {next : Nat} (hlt : position < next) (hle : next ≤ content.length) :
    Advances content position (.lexeme l (content.drop next))

theorem unterminated_of_begin {b : UInt8} (h : begin b rest = .unterminated) :
    b = Byte.of '(' ∧ StringReader.start.run rest = none := by
  rw [begin] at h
  split at h
  case isTrue hb =>
    split at h
    case h_1 => cases h
    case h_2 hrun => exact ⟨hb, hrun⟩
  case isFalse =>
    repeat' split at h
    all_goals cases h

/-- **Taking a lexeme off makes progress**, at every position of a text. -/
theorem advances_scan (h : position ≤ content.length) :
    Advances content position (scan (content.drop position)) := by
  cases hscan : scan (content.drop position) with
  | done => exact .done (scan_eq_done_iff_barren.mp hscan)
  | unterminated =>
    obtain ⟨before, htext, hbefore⟩ := exists_barren false (content.drop position)
    rw [scan] at hscan
    split at hscan
    case h_1 => cases hscan
    case h_2 b body hfront =>
      obtain ⟨rfl, hbody⟩ := unterminated_of_begin hscan
      exact .unterminated (hfront ▸ htext) hbefore hbody
  | lexeme l rest =>
    obtain ⟨next, -, hle, rfl⟩ := leftFrom_of_suffix h (suffix_of_scan hscan)
    have hlt := length_lt_of_scan hscan
    rw [List.length_drop, List.length_drop] at hlt
    exact .lexeme (by omega) hle

end Lexeme

/-! ## Inline images -/

namespace InlineImage

open Lexeme

/-- Whether all that looks for the end of an inline image from a position on leaves an end of the
text over, which begins no earlier. -/
structure StaysWithin (content : Bytes) (position : Nat) : Prop where
  /-- An `EI` behind white space. -/
  ending : ∀ rest, end? (skipWhite false (content.drop position)) = some rest →
    LeftFrom content position rest
  /-- Data of a declared length, which the text holds, and an `EI` behind them. -/
  taken : ∀ length data rest, takeData length (content.drop position) = some (data, rest) →
    position + length ≤ content.length ∧ LeftFrom content (position + length) rest
  /-- The first `EI` that stands alone. -/
  searched : ∀ data rest, scanData [] (content.drop position) = some (data, rest) →
    LeftFrom content position rest
  /-- A whole image. -/
  image : ∀ image rest, read (content.drop position) = .ok (image, rest) →
    LeftFrom content position rest

theorem staysWithin (h : position ≤ content.length) : StaysWithin content position where
  ending _ hend :=
    leftFrom_of_suffix h ((suffix_of_end? hend).trans (suffix_skipWhite false _))
  taken length data rest htake := by
    obtain ⟨hlength, -, hend⟩ := takeData_eq_some htake
    rw [List.length_drop] at hlength
    have hsuffix := (suffix_of_end? hend).trans (suffix_skipWhite false _)
    rw [List.drop_drop] at hsuffix
    have hwithin : position + length ≤ content.length := by omega
    exact ⟨hwithin, leftFrom_of_suffix hwithin hsuffix⟩
  searched _ _ hsearch := leftFrom_of_suffix h (suffix_of_scanData hsearch)
  image _ _ hread := leftFrom_of_suffix h (suffix_of_read hread)

end InlineImage

end PdfDisplay
