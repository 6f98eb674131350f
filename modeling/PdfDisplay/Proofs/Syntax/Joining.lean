import Mathlib.Data.List.Forall2
import Mathlib.Data.List.TakeWhile
import PdfDisplay.Proofs.Syntax.Appending
import PdfDisplay.Proofs.Syntax.Scanning

/-!
# Joining texts

A line feed ends whatever a text ends in, be it a number, a word, a name or a comment, and begins
nothing itself. So texts with line feeds between them are read one after the other
(`Lexeme.Lexes.intercalate`): no lexeme is cut, and no two become one.

The one thing that a line feed does not end is a string in angle brackets that is still open at
the end of its text (`Lexeme.EndsInHexString`), which goes on in the next text.
-/

namespace PdfDisplay

namespace Lexeme

/-- What texts are joined by. -/
abbrev lineFeed : UInt8 := Byte.of '\n'

/-! ## Whole texts -/

/-- Whether a text can be read to its end, and what its lexemes are. -/
def Lexes (text : Bytes) (ls : List Lexeme) : Prop :=
  ∃ last, Scans text ls last ∧ scan last = .done

/-- Whether a text begins with an angle bracket that opens a string which is not closed. -/
def OpensHexString (text : Bytes) : Prop :=
  ∃ body, toFront false text = Byte.of '<' :: body ∧ body.head? ≠ some (Byte.of '<') ∧
    Byte.of '>' ∉ body

/-- Whether such a string is left over behind some of the lexemes of a text. -/
def EndsInHexString (text : Bytes) : Prop :=
  ∃ ls rest, Scans text ls rest ∧ OpensHexString rest

variable {text text' tail rest : Bytes} {b : UInt8}

theorem begin_ne_done (b : UInt8) (rest : Bytes) : begin b rest ≠ .done := by
  intro h
  rw [begin] at h
  repeat' split at h
  all_goals cases h

/-- A text has no lexeme in it exactly where skipping white space and comments leaves nothing of it.
-/
theorem scan_eq_done_iff : scan text = .done ↔ toFront false text = [] := by
  rw [scan]
  split
  case h_1 hfront => exact iff_of_true rfl hfront
  case h_2 b rest hfront => exact iff_of_false (begin_ne_done b rest) (by rw [hfront]; nofun)

theorem lexes_nil : Lexes [] [] := ⟨[], .nil, rfl⟩

/-- The empty text lexes to the empty list and to no other. -/
theorem eq_nil_of_lexes_nil {ls : List Lexeme} (h : Lexes [] ls) : ls = [] := by
  obtain ⟨last, hscans, -⟩ := h
  cases hscans with
  | nil => rfl
  | cons hscan _ => cases hscan

/-- What a text holds depends only on where its lexemes begin. -/
theorem Lexes.congr {ls : List Lexeme} (h : Lexes text ls) (hscan : scan text' = scan text) :
    Lexes text' ls := by
  obtain ⟨last, hscans, hdone⟩ := h
  cases hscans with
  | nil => exact ⟨text', .nil, hscan.trans hdone⟩
  | cons hfirst hrest => exact ⟨last, .cons (hscan.trans hfirst) hrest, hdone⟩

/-- A lexeme in front of a text that lexes to its end makes a longer text that does. -/
theorem Lexes.cons {l : Lexeme} {ls : List Lexeme} (hscan : scan text = .lexeme l rest)
    (h : Lexes rest ls) : Lexes text (l :: ls) := by
  obtain ⟨last, hscans, hdone⟩ := h
  exact ⟨last, .cons hscan hscans, hdone⟩

/-- Where a run of the scanner stops, a suffix of its text is left. -/
theorem Scans.suffix {ls : List Lexeme} (h : Scans text ls rest) : rest <:+ text := by
  induction h with
  | nil => exact List.suffix_refl _
  | cons hscan _ ih => exact ih.trans (suffix_of_scan hscan)

theorem not_endsInHexString (h : Byte.of '<' ∉ text) : ¬ EndsInHexString text := by
  rintro ⟨ls, rest, hscans, body, hfront, -, -⟩
  have hsuffix := (suffix_toFront false rest).trans hscans.suffix
  rw [hfront] at hsuffix
  exact h (hsuffix.subset List.mem_cons_self)

/-! ## The front of a text -/

/-- A line feed and a tail behind a text change nothing in whether its first byte is a stray closer,
since that test looks one byte ahead and a line feed closes nothing. -/
theorem isStray_append_lineFeed (b : UInt8) (text tail : Bytes) :
    isStray b (text ++ lineFeed :: tail) = isStray b text := by
  cases text with
  | nil => rfl
  | cons c text => rfl

/-- A text without lexemes is passed over, and a comment at its end with it. -/
theorem toFront_append_lineFeed {comment : Bool} (h : toFront comment text = []) (tail : Bytes) :
    toFront comment (text ++ lineFeed :: tail) = toFront false tail := by
  fun_induction toFront comment text with
  | case1 comment => cases comment <;> rfl
  | case2 b text ih => rw [List.cons_append, toFront, ih h]
  | case3 b text hb ih =>
    rw [List.cons_append, toFront, isStray_append_lineFeed, if_pos hb, ih h]
  | case4 text hb ih =>
    rw [List.cons_append, toFront, isStray_append_lineFeed, if_neg hb, if_pos rfl, ih h]
  | case5 b text hb hcomment => cases h

/-- A text without a lexeme, closed by a line feed, is passed over: even if it ends inside a
comment, the line feed ends the comment. -/
theorem scan_append_lineFeed_of_done (h : scan text = .done) (tail : Bytes) :
    scan (text ++ lineFeed :: tail) = scan tail := by
  rw [scan, toFront_append_lineFeed (scan_eq_done_iff.mp h), scan]

theorem isStray_of_toFront {comment : Bool} (h : toFront comment text = b :: rest) :
    isStray b rest = false := by
  fun_induction toFront comment text with
  | case1 => cases h
  | case2 c text ih | case3 c text hc ih | case4 text hc ih => exact ih h
  | case5 c text hc hcomment =>
    cases h
    rw [Bool.or_eq_true, not_or, Bool.not_eq_true, Bool.not_eq_true] at hc
    exact hc.2

/-! ## The first lexeme -/

/-- A byte at which `p` fails stops the run, so what follows it does not lengthen it. -/
theorem takeWhile_append_of_stop {p : UInt8 → Bool} {e : UInt8} (he : p e = false)
    (text tail : Bytes) : (text ++ e :: tail).takeWhile p = text.takeWhile p := by
  induction text with
  | nil => exact List.takeWhile_cons_of_neg (by simp [he])
  | cons b text ih => rw [List.cons_append, List.takeWhile_cons, List.takeWhile_cons, ih]

/-- What is left of the run is then what was left before, with the stop and the tail behind it. -/
theorem dropWhile_append_of_stop {p : UInt8 → Bool} {e : UInt8} (he : p e = false)
    (text tail : Bytes) : (text ++ e :: tail).dropWhile p = text.dropWhile p ++ e :: tail := by
  induction text with
  | nil => exact List.dropWhile_cons_of_neg (by simp [he])
  | cons b text ih =>
    rw [List.cons_append, List.dropWhile_cons, List.dropWhile_cons, ih]
    split <;> rfl

/-- A line feed ends a number, as it is neither a digit nor a point, so what follows it adds nothing
to the number. -/
theorem numeral_append_lineFeed (text tail : Bytes) :
    numeral (text ++ lineFeed :: tail) =
      ((numeral text).1, (numeral text).2 ++ lineFeed :: tail) := by
  have hdrop := dropWhile_append_of_stop (p := Byte.isDigit) (e := lineFeed) rfl text tail
  have htake := takeWhile_append_of_stop (p := Byte.isDigit) (e := lineFeed) rfl text tail
  cases hafter : text.dropWhile Byte.isDigit with
  | nil =>
    rw [hafter, List.nil_append] at hdrop
    rw [numeral_of_ne_point hdrop (by decide), htake, numeral, hafter]
    rfl
  | cons b after =>
    rw [hafter, List.cons_append] at hdrop
    by_cases hb : b = 0x2E
    · subst hb
      rw [numeral_of_point hafter, numeral_of_point hdrop, htake, dropWhile_append_of_stop rfl,
        takeWhile_append_of_stop rfl]
    · rw [numeral_of_ne_point hafter hb, numeral_of_ne_point hdrop hb, htake]
      rfl

/-- Whether a lexeme in front of the end of a text is also in front of a line feed and a tail. -/
def Keeps (tail : Bytes) (short long : Front) : Prop :=
  ∀ l rest, short = .lexeme l rest → long = .lexeme l (rest ++ lineFeed :: tail)

namespace Keeps

/-- `Keeps` goes through a choice whose condition is the same for the short and the long text, one
arm at a time. -/
theorem ite {c : Prop} [Decidable c] {short long short' long' : Front}
    (h : c → Keeps tail short long) (h' : ¬ c → Keeps tail short' long') :
    Keeps tail (if c then short else short') (if c then long else long') := by
  split
  case isTrue hc => exact h hc
  case isFalse hc => exact h' hc

/-- A lexeme that leaves its rest untouched keeps the tail behind it. -/
theorem lexeme (l : Lexeme) (rest : Bytes) :
    Keeps tail (.lexeme l rest) (.lexeme l (rest ++ lineFeed :: tail)) := by
  rintro _ _ ⟨⟩
  rfl

/-- The second byte of a pair. -/
theorem pair (l : Lexeme) (h : text ≠ []) :
    Keeps tail (.lexeme l (text.drop 1)) (.lexeme l ((text ++ lineFeed :: tail).drop 1)) := by
  rw [drop_one_append h]
  exact lexeme l _

/-- A word or a name. -/
theorem word (f : Bytes → Lexeme) (text : Bytes) :
    Keeps tail (.lexeme (f (text.takeWhile Byte.isRegular)) (text.dropWhile Byte.isRegular))
      (.lexeme (f ((text ++ lineFeed :: tail).takeWhile Byte.isRegular))
        ((text ++ lineFeed :: tail).dropWhile Byte.isRegular)) := by
  rw [takeWhile_append_of_stop rfl, dropWhile_append_of_stop rfl]
  exact lexeme _ _

/-- A number keeps the tail: the line feed is neither a digit nor a point, so the numeral ends where
it ended before. -/
theorem number (f : Numeral → Lexeme) (text : Bytes) :
    Keeps tail (.lexeme (f (numeral text).1) (numeral text).2)
      (.lexeme (f (numeral (text ++ lineFeed :: tail)).1)
        (numeral (text ++ lineFeed :: tail)).2) := by
  rw [numeral_append_lineFeed]
  exact lexeme _ _

/-- A literal string keeps the tail: a string that closes in the short text closes at the same byte
in the long one, and one that stays open is not asked about. -/
theorem literalString (text : Bytes) :
    Keeps tail
      (match StringReader.start.run text with
      | some (bytes, rest) => .lexeme (Lexeme.literalString bytes) rest
      | none => .unterminated)
      (match StringReader.start.run (text ++ lineFeed :: tail) with
      | some (bytes, rest) => .lexeme (Lexeme.literalString bytes) rest
      | none => .unterminated) := by
  intro l rest h
  split at h
  case h_1 bytes rest hrun =>
    cases h
    rw [run_append hrun]
  case h_2 => cases h

/-- A string in digits that is closed, or a pair of angle brackets. -/
theorem angle (h : text.head? = some (Byte.of '<') ∨ Byte.of '>' ∈ text) :
    Keeps tail
      (if text.head? = some (Byte.of '<') then .lexeme dictionaryStart (text.drop 1)
      else .lexeme (hexString (hexBytes (text.takeWhile inHexString)))
        ((text.dropWhile inHexString).drop 1))
      (if (text ++ lineFeed :: tail).head? = some (Byte.of '<') then
        .lexeme dictionaryStart ((text ++ lineFeed :: tail).drop 1)
      else .lexeme (hexString (hexBytes ((text ++ lineFeed :: tail).takeWhile inHexString)))
        (((text ++ lineFeed :: tail).dropWhile inHexString).drop 1)) := by
  have htext : text ≠ [] := by
    rintro rfl
    exact h.elim nofun nofun
  rw [head?_append_of_ne_nil htext]
  refine ite (fun _ => pair _ htext) fun hhead => ?_
  -- the closing bracket comes before the line feed
  have hdrop : text.dropWhile inHexString ≠ [] := by
    rw [ne_eq, List.dropWhile_eq_nil_iff]
    intro hall
    exact absurd (hall _ (h.resolve_left hhead)) (by decide)
  rw [takeWhile_append_of_dropWhile hdrop, dropWhile_append_of_dropWhile hdrop]
  exact pair _ hdrop

end Keeps

/-- **The first lexeme of a text does not change when a line feed and a tail are put behind it**,
unless the text ends in a `>` that could be half of a bracket, or inside a hexadecimal string. -/
theorem keeps_begin (hpair : b = Byte.of '>' → text ≠ [])
    (hclosed : b = Byte.of '<' → text.head? = some (Byte.of '<') ∨ Byte.of '>' ∈ text)
    (tail : Bytes) : Keeps tail (begin b text) (begin b (text ++ lineFeed :: tail)) := by
  rw [begin.eq_def b text, begin.eq_def b (text ++ lineFeed :: tail)]
  exact .ite (fun _ => .literalString text) fun _ =>
    .ite (fun hb => .angle (hclosed hb)) fun _ =>
    .ite (fun hb => .pair _ (hpair hb)) fun _ =>
    .ite (fun _ => .lexeme _ _) fun _ =>
    .ite (fun _ => .lexeme _ _) fun _ =>
    .ite (fun _ => .word (fun written => name (Utf8.decode (unescapeName written))) _) fun _ =>
    .ite (fun _ => .number _ _) fun _ =>
    .ite (fun _ => .number _ (b :: text)) fun _ =>
    .word (fun word => keyword (Utf8.decode (b :: word))) _

/-- **A line feed ends every lexeme** but a string in angle brackets. -/
theorem scan_append_lineFeed {l : Lexeme} (h : scan text = .lexeme l rest)
    (hhex : ¬ OpensHexString text) (tail : Bytes) :
    scan (text ++ lineFeed :: tail) = .lexeme l (rest ++ lineFeed :: tail) := by
  rw [scan] at h
  split at h
  case h_1 => cases h
  case h_2 b body hfront =>
    have hpair : b = Byte.of '>' → body ≠ [] := by
      rintro rfl rfl
      exact absurd (isStray_of_toFront hfront) (by decide)
    have hclosed : b = Byte.of '<' → body.head? = some (Byte.of '<') ∨ Byte.of '>' ∈ body := by
      rintro rfl
      by_contra hopen
      rw [not_or] at hopen
      exact hhex ⟨body, hfront, hopen.1, hopen.2⟩
    rw [scan, toFront_append hfront]
    exact keeps_begin hpair hclosed tail l rest h

/-! ## Joined texts -/

/-- **Two texts with a line feed between them** are read one after the other. -/
theorem Lexes.append {ls ls' : List Lexeme} (h : Lexes text ls) (hhex : ¬ EndsInHexString text)
    (h' : Lexes text' ls') : Lexes (text ++ lineFeed :: text') (ls ++ ls') := by
  obtain ⟨last, hscans, hdone⟩ := h
  induction hscans with
  | nil => exact h'.congr (scan_append_lineFeed_of_done hdone text')
  | cons hscan _ ih =>
    refine .cons (scan_append_lineFeed hscan (fun hopens => hhex ⟨_, _, .nil, hopens⟩) text') ?_
    refine ih (fun hends => hhex ?_) hdone
    obtain ⟨ls, rest, hrest, hopens⟩ := hends
    exact ⟨_, rest, .cons hscan hrest, hopens⟩

/-- **Texts with line feeds between them** are read one after the other. -/
theorem Lexes.intercalate {texts : List Bytes} {lexemes : List (List Lexeme)}
    (h : List.Forall₂ Lexes texts lexemes) (hhex : ∀ text ∈ texts, ¬ EndsInHexString text) :
    Lexes ([lineFeed].intercalate texts) lexemes.flatten := by
  induction h with
  | nil => exact lexes_nil
  | @cons text ls texts lexemes hfirst hrest ih =>
    obtain ⟨hhexFirst, hhexRest⟩ := List.forall_mem_cons.mp hhex
    cases hrest with
    | nil =>
      rw [List.intercalate_singleton, List.flatten_singleton]
      exact hfirst
    | cons hnext hrest =>
      rw [List.intercalate_cons_cons, List.append_assoc, List.singleton_append,
        List.flatten_cons]
      exact hfirst.append hhexFirst (ih hhexRest)

end Lexeme

end PdfDisplay
