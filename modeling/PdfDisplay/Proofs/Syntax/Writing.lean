import PdfDisplay.Proofs.Syntax.Appending
import PdfDisplay.Proofs.Syntax.Scanning

/-!
# Lexemes as other programs write them

`Lexeme.Spells` is what a careful writer does. Contents hold more: numbers with points and signs,
escapes of every kind in strings, blanks between hexadecimal digits, and lexemes without a gap
between them wherever a delimiter tells them apart. `Lexeme.Written` relates a lexeme to all its
texts, and `Lexeme.Compact` lexemes to the texts that write one after another.

The main statement is `Lexeme.scans_append_of_compact`: a text that writes lexemes, in front of
something that ends a word, is scanned as these lexemes, and what follows it is left.
-/

namespace PdfDisplay

open InlineImage (endsWord endsWord_append)

namespace Lexeme

/-! ## Texts of one lexeme -/

/-- The text of a number without its sign. -/
def Numeral.text (n : Numeral) : Bytes :=
  match n.fraction? with
  | some fraction => n.whole ++ Byte.of '.' :: fraction
  | none => n.whole

/-- Whether a number is written in digits. -/
structure Numeral.IsDecimal (n : Numeral) : Prop where
  /-- Digits stand before the point. -/
  whole : ∀ b ∈ n.whole, Byte.isDigit b = true
  /-- Digits stand behind the point. -/
  fraction : ∀ fraction, n.fraction? = some fraction → ∀ b ∈ fraction, Byte.isDigit b = true

/-- How a lexeme is written, in one of all its texts. -/
inductive Written : Lexeme → Bytes → Prop where
  /-- A number without a sign: digits, a point, or both. -/
  | unsigned {n : Numeral} (h : n.IsDecimal) (hne : n.text ≠ []) :
    Written (n.lexeme false) n.text
  /-- A number behind a plus sign. -/
  | positive {n : Numeral} (h : n.IsDecimal) :
    Written (n.lexeme false) (Byte.of '+' :: n.text)
  /-- A number behind a minus sign. -/
  | negative {n : Numeral} (h : n.IsDecimal) :
    Written (n.lexeme true) (Byte.of '-' :: n.text)
  /-- A name behind its slash: regular bytes, in which number signs may stand for others. -/
  | name {written : Bytes} (h : ∀ b ∈ written, Byte.isRegular b = true) :
    Written (name (Utf8.decode (unescapeName written))) (Byte.of '/' :: written)
  /-- A string in parentheses: its text up to the parenthesis that closes it. -/
  | literalString {bytes written : Bytes} (h : StringReader.start.run written = some (bytes, [])) :
    Written (literalString bytes) (Byte.of '(' :: written)
  /-- A string in angle brackets: digits, and whatever else is passed over. -/
  | hexString {written : Bytes} (h : ∀ b ∈ written, inHexString b = true)
    (hfirst : written.head? ≠ some (Byte.of '<')) :
    Written (hexString (hexBytes written)) (Byte.of '<' :: (written ++ [Byte.of '>']))
  /-- An opening bracket. -/
  | arrayStart : Written arrayStart [Byte.of '[']
  /-- A closing bracket. -/
  | arrayEnd : Written arrayEnd [Byte.of ']']
  /-- Opening angle brackets. -/
  | dictionaryStart : Written dictionaryStart [Byte.of '<', Byte.of '<']
  /-- Closing angle brackets. -/
  | dictionaryEnd : Written dictionaryEnd [Byte.of '>', Byte.of '>']
  /-- A word. -/
  | keyword {word : String} (h : IsWord word) : Written (keyword word) (Utf8.encode word)

/-- Whether the text of a lexeme shows its end: strings and brackets do. -/
def isClosed : Lexeme → Bool
  | literalString _ | hexString _ => true
  | arrayStart | arrayEnd | dictionaryStart | dictionaryEnd => true
  | _ => false

/-- How lexemes are written one after another. A gap may be left out behind what shows its end,
and in front of a delimiter. -/
inductive Compact : List Lexeme → Bytes → Prop where
  /-- The last lexeme. -/
  | last {l : Lexeme} {text : Bytes} (h : Written l text) : Compact [l] text
  /-- A lexeme, a gap, and further lexemes. -/
  | spaced {l next : Lexeme} {ls : List Lexeme} {text g rest : Bytes} (h : Written l text)
    (hg : Gap g) (hrest : Compact (next :: ls) rest) :
    Compact (l :: next :: ls) (text ++ (g ++ rest))
  /-- A lexeme, and further lexemes without a gap between them. -/
  | joined {l next : Lexeme} {ls : List Lexeme} {text rest : Bytes} (h : Written l text)
    (happart : l.isClosed = true ∨ endsWord rest = true) (hrest : Compact (next :: ls) rest) :
    Compact (l :: next :: ls) (text ++ rest)

/-- The text of an integer. -/
theorem written_integer {value : Int} (h : IsInt64 value) :
    Written (integer value) (Utf8.encode (toString value)) := by
  have hdecimal (n : Nat) : Numeral.IsDecimal ⟨decimal n, none⟩ :=
    ⟨isDigit_of_mem_decimal, nofun⟩
  cases value with
  | ofNat n =>
    have hlexeme : (⟨decimal n, none⟩ : Numeral).lexeme false = integer n :=
      lexeme_of_isInt64 false h
    rw [show Utf8.encode (toString (Int.ofNat n)) = decimal n from encode_toString_nat n]
    exact hlexeme ▸ .unsigned (hdecimal n) (decimal_ne_nil n)
  | negSucc n =>
    have hlexeme : (⟨decimal (n + 1), none⟩ : Numeral).lexeme true = integer (Int.negSucc n) :=
      lexeme_of_isInt64 true h
    rw [encode_toString_negSucc]
    exact hlexeme ▸ .negative (hdecimal (n + 1))

/-- What a careful writer writes. -/
theorem written_of_spells {l : Lexeme} {text : Bytes} (h : Spells l text) : Written l text := by
  cases h with
  | integer h => exact written_integer h
  | @name text written h =>
    have hwritten := Written.name (isRegular_of_nameSpelling h)
    rwa [unescapeName_of_spelling h, Utf8.decode_encode] at hwritten
  | literalString =>
    exact .literalString (StringReader.run_of_stringSpelling (stringSpelling_literalText _)
      (by decide) [])
  | @hexString bytes written h =>
    have hwritten := Written.hexString (inHexString_of_hexSpelling h) (head?_of_hexSpelling h)
    rwa [hexBytes_of_hexSpelling h] at hwritten
  | arrayStart => exact .arrayStart
  | arrayEnd => exact .arrayEnd
  | dictionaryStart => exact .dictionaryStart
  | dictionaryEnd => exact .dictionaryEnd
  | keyword h => exact .keyword h

/-- The text of a name whose bytes are written as they are. -/
theorem written_name {text : String}
    (h : ∀ b ∈ Utf8.encode text, Byte.isRegular b = true ∧ b ≠ Byte.of '#') :
    Written (name text) (Byte.of '/' :: Utf8.encode text) := by
  have hspelling (bytes : Bytes) (h : ∀ b ∈ bytes, Byte.isRegular b = true ∧ b ≠ Byte.of '#') :
      NameSpelling bytes bytes := by
    induction bytes with
    | nil => exact .nil
    | cons b bytes ih =>
      obtain ⟨hb, hbytes⟩ := List.forall_mem_cons.mp h
      exact .plain hb.1 hb.2 (ih hbytes)
  exact written_of_spells (.name (hspelling _ h))

/-! ## Scanning one lexeme -/

/-- A number before something that ends a word. -/
theorem numeral_text_append {n : Numeral} (h : n.IsDecimal) {rest : Bytes}
    (hrest : endsWord rest = true) : numeral (n.text ++ rest) = (n, rest) := by
  obtain ⟨whole, fraction?⟩ := n
  cases fraction? with
  | none => exact numeral_append h.whole hrest
  | some fraction =>
    have hpoint : ∀ b, (0x2E :: (fraction ++ rest)).head? = some b →
        Byte.isDigit b = false := by
      rintro b hb
      rw [← Option.some.inj hb]
      rfl
    have hdigits := h.fraction fraction rfl
    have hend := isDigit_of_endsWord hrest
    have htext : (⟨whole, some fraction⟩ : Numeral).text ++ rest =
        whole ++ 0x2E :: (fraction ++ rest) := by
      rw [Numeral.text, List.append_assoc, List.cons_append]
      rfl
    have hwhole : ∀ b ∈ whole, Byte.isDigit b = true := h.whole
    rw [htext, numeral_of_point (dropWhile_append_of_all hwhole hpoint),
      takeWhile_append_of_all hwhole hpoint, takeWhile_append_of_all hdigits hend,
      dropWhile_append_of_all hdigits hend]

/-- No number shows its end: where one is written, the end of a word has to follow it. -/
theorem isClosed_lexeme (negative : Bool) (n : Numeral) : (n.lexeme negative).isClosed = false := by
  rw [Numeral.lexeme.eq_def]
  split
  case h_1 => split <;> rfl
  case h_2 =>
    rw [apply_ite isClosed]
    exact ite_self false

/-- The text of a decimal numeral begins with a digit or a point. -/
theorem beginsNumber_text {n : Numeral} (h : n.IsDecimal) {b : UInt8} {rest : Bytes}
    (hb : n.text = b :: rest) : (Byte.isDigit b || b = Byte.of '.') = true := by
  obtain ⟨whole, fraction?⟩ := n
  cases whole with
  | cons digit whole =>
    have hdigit : Byte.isDigit digit = true := h.whole digit List.mem_cons_self
    have hfirst : b = digit := by
      cases fraction? <;> exact (List.cons.inj hb).1.symm
    rw [hfirst, hdigit, Bool.true_or]
  | nil =>
    cases fraction? with
    | none => cases hb
    | some fraction =>
      obtain rfl : Byte.of '.' = b := (List.cons.inj hb).1
      decide

theorem isRegular_of_beginsNumber {b : UInt8} (hb : (Byte.isDigit b || b = Byte.of '.') = true) :
    Byte.isRegular b = true := by
  rw [Bool.or_eq_true, decide_eq_true_iff] at hb
  obtain hdigit | rfl := hb
  · exact Byte.isRegular_of_isDigit hdigit
  · rfl

/-- **A decimal numeral is scanned from its text**, as an integer or a real number depending on its
point and on its size. -/
theorem scan_append_of_unsigned {n : Numeral} (h : n.IsDecimal) (hne : n.text ≠ [])
    {rest : Bytes} (hrest : endsWord rest = true) :
    scan (n.text ++ rest) = .lexeme (n.lexeme false) rest := by
  obtain ⟨b, digits, hb⟩ := List.exists_cons_of_ne_nil hne
  have hbegins := beginsNumber_text h hb
  rw [hb, List.cons_append, scan_cons_of_isRegular (isRegular_of_beginsNumber hbegins),
    begin_number hbegins, ← List.cons_append, ← hb, numeral_text_append h hrest]

/-- The same with a sign in front, of which a plus changes nothing and a minus changes the sign of
the value. -/
theorem scan_append_of_signed {n : Numeral} (h : n.IsDecimal) {sign : UInt8} {negative : Bool}
    (hsign : sign = Byte.of '+' ∧ negative = false ∨ sign = Byte.of '-' ∧ negative = true)
    {rest : Bytes} (hrest : endsWord rest = true) :
    scan (sign :: (n.text ++ rest)) = .lexeme (n.lexeme negative) rest := by
  have hscan : scan (sign :: (n.text ++ rest)) =
      .lexeme ((numeral (n.text ++ rest)).1.lexeme negative) (numeral (n.text ++ rest)).2 := by
    obtain ⟨rfl, rfl⟩ | ⟨rfl, rfl⟩ := hsign
    · rw [scan_cons_of_isRegular rfl]
      rfl
    · rw [scan_cons_of_isRegular rfl]
      rfl
  rw [hscan, numeral_text_append h hrest]

/-- A literal string is scanned from whatever bytes the string reader closes on, not just from the
spellings a writer would choose. -/
theorem scan_append_of_run {bytes written : Bytes}
    (h : StringReader.start.run written = some (bytes, [])) (rest : Bytes) :
    scan (Byte.of '(' :: (written ++ rest)) = .lexeme (literalString bytes) rest := by
  rw [scan_cons rfl rfl (by decide), begin, if_pos rfl, run_append h]
  rfl

/-- **A lexeme is scanned from each of its texts**, if its end can be told. -/
theorem scan_append_of_written {l : Lexeme} {text : Bytes} (h : Written l text) {rest : Bytes}
    (hrest : l.isClosed = true ∨ endsWord rest = true) : scan (text ++ rest) = .lexeme l rest := by
  -- no text of a number, a name or a word shows its end
  have hopen (hl : l.isClosed = false) : endsWord rest = true :=
    hrest.resolve_left (by rw [hl]; exact Bool.false_ne_true)
  cases h with
  | unsigned h hne => exact scan_append_of_unsigned h hne (hopen (isClosed_lexeme _ _))
  | positive h => exact scan_append_of_signed h (.inl ⟨rfl, rfl⟩) (hopen (isClosed_lexeme _ _))
  | negative h => exact scan_append_of_signed h (.inr ⟨rfl, rfl⟩) (hopen (isClosed_lexeme _ _))
  | name h => exact scan_append_of_isRegular h (hopen rfl)
  | literalString h => exact scan_append_of_run h rest
  | hexString h hfirst =>
    rw [List.cons_append, List.append_assoc, List.singleton_append]
    exact scan_append_of_inHexString h hfirst rest
  | arrayStart => rfl
  | arrayEnd => rfl
  | dictionaryStart => rfl
  | dictionaryEnd => rfl
  | keyword h => exact scan_append_of_isWord h (hopen rfl)

/-! ## Scanning many lexemes -/

theorem Written.ne_nil {l : Lexeme} {text : Bytes} (h : Written l text) : text ≠ [] := by
  cases h with
  | unsigned _ hne => exact hne
  | keyword h =>
    obtain ⟨first, rest, hword, -⟩ := h
    rw [hword]
    exact List.cons_ne_nil _ _
  | _ => exact List.cons_ne_nil _ _

theorem Compact.ne_nil {ls : List Lexeme} {text : Bytes} (h : Compact ls text) : text ≠ [] := by
  cases h with
  | last h => exact h.ne_nil
  | spaced h => exact List.append_ne_nil_of_left_ne_nil h.ne_nil _
  | joined h => exact List.append_ne_nil_of_left_ne_nil h.ne_nil _

theorem Compact.exists_cons {ls : List Lexeme} {text : Bytes} (h : Compact ls text) :
    ∃ l rest, ls = l :: rest := by
  cases h <;> exact ⟨_, _, rfl⟩

/-- Compact texts can be put one behind the other without a separator where the second one ends the
word before it. -/
theorem Compact.append {first second : List Lexeme} {text text' : Bytes} (h : Compact first text)
    (h' : Compact second text') (hends : endsWord text' = true) :
    Compact (first ++ second) (text ++ text') := by
  induction h with
  | last h =>
    obtain ⟨next, rest, rfl⟩ := h'.exists_cons
    exact .joined h (.inr hends) h'
  | spaced h hg _ ih =>
    rw [List.append_assoc, List.append_assoc]
    exact .spaced h hg ih
  | joined h happart hrest ih =>
    rw [← endsWord_append hrest.ne_nil text'] at happart
    rw [List.append_assoc]
    exact .joined h happart ih

/-- **Written lexemes are scanned one after another**, and what follows them is left. -/
theorem scans_append_of_compact {ls : List Lexeme} {text : Bytes} (h : Compact ls text)
    {tail : Bytes} (htail : endsWord tail = true) : Scans (text ++ tail) ls tail := by
  induction h with
  | last h => exact .cons (scan_append_of_written h (.inr htail)) .nil
  | spaced h hg _ ih =>
    rw [List.append_assoc, List.append_assoc]
    exact .cons (scan_append_of_written h (.inr (hg.endsWord _))) (.of_append_gap hg ih)
  | joined h happart hrest ih =>
    rw [← endsWord_append hrest.ne_nil tail] at happart
    rw [List.append_assoc]
    exact .cons (scan_append_of_written h happart) ih

end Lexeme

end PdfDisplay
