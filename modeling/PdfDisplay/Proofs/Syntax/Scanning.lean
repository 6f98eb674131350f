import Mathlib.Algebra.Group.Nat.Defs
import PdfDisplay.Proofs.Syntax.Spelling

/-!
# Scanning written lexemes

A lexeme that is written in front of something that ends a word is the first that
`Lexeme.scan` takes off: `Lexeme.scan_append_of_spells`. The cases are the kinds of lexemes,
each of which has its own section. `Lexeme.scans_of_spaced` lifts the statement to texts of
many lexemes, for which `Lexeme.Scans` says what is taken off one after another.
-/

namespace PdfDisplay

open InlineImage (endsWord)

/-! ## Words and what ends them -/

/-- Whatever stands behind the end of a word is no regular byte, so `takeWhile` over regular bytes
stops in front of it. -/
theorem head?_of_endsWord {rest : Bytes} (h : endsWord rest = true) {b : UInt8}
    (hb : rest.head? = some b) : Byte.isRegular b = false := by
  cases rest with
  | nil => cases hb
  | cons c rest =>
    obtain rfl := Option.some.inj hb
    simpa [endsWord] using h

/-- **A run of bytes is cut off where it ends**: taking bytes while `p` holds gives back a word all
of whose bytes satisfy `p` and whose successor does not. -/
theorem takeWhile_append_of_all {p : UInt8 → Bool} {word rest : Bytes}
    (hword : ∀ b ∈ word, p b = true) (hrest : ∀ b, rest.head? = some b → p b = false) :
    (word ++ rest).takeWhile p = word := by
  rw [List.takeWhile_append_of_pos hword]
  cases rest with
  | nil => exact List.append_nil word
  | cons c rest =>
    rw [List.takeWhile_cons_of_neg (by rw [hrest c rfl]; exact Bool.false_ne_true),
      List.append_nil]

/-- What is left when such a run is dropped is exactly the text behind it, the other half of
`takeWhile_append_of_all`. -/
theorem dropWhile_append_of_all {p : UInt8 → Bool} {word rest : Bytes}
    (hword : ∀ b ∈ word, p b = true) (hrest : ∀ b, rest.head? = some b → p b = false) :
    (word ++ rest).dropWhile p = rest := by
  rw [List.dropWhile_append_of_pos hword]
  cases rest with
  | nil => rfl
  | cons c rest =>
    rw [List.dropWhile_cons_of_neg (by rw [hrest c rfl]; exact Bool.false_ne_true)]

namespace Byte

/-- A regular byte is none of the delimiters, which is how the arms of `begin` that test for one
delimiter each are ruled out. -/
theorem ne_of_isRegular {b d : UInt8} (hb : isRegular b = true) (hd : isRegular d = false) :
    b ≠ d := by
  rintro rfl
  rw [hb] at hd
  cases hd

end Byte

namespace Lexeme

/-- Scanning starts at the first byte itself where that byte is neither white space, nor a stray
closer, nor the beginning of a comment. -/
theorem scan_cons {b : UInt8} {rest : Bytes} (hw : Byte.isWhite b = false)
    (hs : isStray b rest = false) (hc : b ≠ Byte.of '%') : scan (b :: rest) = begin b rest := by
  have h : toFront false (b :: rest) = b :: rest := by
    rw [toFront, hw, hs, Bool.false_or, if_neg Bool.false_ne_true, if_neg hc]
  rw [scan, h]

/-- In particular, a text that begins with a regular byte is scanned from that byte on, since
nothing is skipped in front of it. -/
theorem scan_cons_of_isRegular {b : UInt8} (hb : Byte.isRegular b = true) (rest : Bytes) :
    scan (b :: rest) = begin b rest := by
  have hw : Byte.isWhite b = false := by
    simp only [Byte.isRegular, Bool.not_eq_true', Bool.or_eq_false_iff] at hb
    exact hb.1
  have hne : ∀ c : UInt8, Byte.isRegular c = false → (b == c) = false := fun c hc =>
    beq_eq_false_iff_ne.mpr (Byte.ne_of_isRegular hb hc)
  refine scan_cons hw ?_ (Byte.ne_of_isRegular hb rfl)
  rw [isStray, hne _ rfl, hne _ rfl, hne _ rfl, hne _ rfl]
  rfl

/-! ## Keywords -/

/-- A regular byte that begins no number begins a keyword, which reaches as far as regular bytes do.
-/
theorem begin_word {b : UInt8} (hb : Byte.isRegular b = true) (hn : beginsNumber b = false)
    (rest : Bytes) :
    begin b rest =
      .lexeme (keyword (Utf8.decode (b :: rest.takeWhile Byte.isRegular)))
        (rest.dropWhile Byte.isRegular) := by
  have hne : ∀ c : UInt8, Byte.isRegular c = false → ¬ b = c := fun c hc =>
    Byte.ne_of_isRegular hb hc
  simp only [beginsNumber, Bool.or_eq_false_iff, beq_eq_false_iff_ne] at hn
  obtain ⟨⟨⟨hd, hplus⟩, hminus⟩, hpoint⟩ := hn
  -- the byte is no delimiter, since it is regular, and the last two tests are for numbers
  rw [begin, if_neg (hne _ rfl), if_neg (hne _ rfl), if_neg (hne _ rfl), if_neg (hne _ rfl),
    if_neg (hne _ rfl), if_neg (hne _ rfl), if_neg (by simp [hplus, hminus]),
    if_neg (by simp [hd, hpoint])]

/-- **A word is scanned as a keyword**, whatever stands behind it, as long as the word ends there.
-/
theorem scan_append_of_isWord {word : String} (h : IsWord word) {rest : Bytes}
    (hrest : endsWord rest = true) :
    scan (Utf8.encode word ++ rest) = .lexeme (keyword word) rest := by
  obtain ⟨first, tail, hw, hn, hregular⟩ := h
  have hfirst := hregular first List.mem_cons_self
  have htail : ∀ b ∈ tail, Byte.isRegular b = true := fun b hb =>
    hregular b (List.mem_cons_of_mem _ hb)
  rw [hw, List.cons_append, scan_cons_of_isRegular hfirst, begin_word hfirst hn,
    takeWhile_append_of_all htail fun b => head?_of_endsWord hrest,
    dropWhile_append_of_all htail fun b => head?_of_endsWord hrest, ← hw, Utf8.decode_encode]

/-! ## Names -/

/-- A byte of a written name other than `#` stands for itself. -/
theorem unescapeName_cons {b : UInt8} (hb : b ≠ Byte.of '#') (rest : Bytes) :
    unescapeName (b :: rest) = b :: unescapeName rest := by
  match rest with
  | [] => rfl
  | [_] => rfl
  | high :: low :: rest =>
    rw [unescapeName, decide_eq_false hb]

/-- A `#` with two hexadecimal digits behind it stands for the byte whose halves the digits are. -/
theorem unescapeName_escaped {b high low : UInt8} (h : HexPair b high low) (rest : Bytes) :
    unescapeName (Byte.of '#' :: high :: low :: rest) = b :: unescapeName rest := by
  rw [unescapeName, decide_eq_true rfl, h.high, h.low]
  dsimp only
  rw [Byte.high_add_low]

/-- **Unescaping a spelled name gives the name back**, by induction on the spelling: each of its
bytes was written either as itself or as an escape. -/
theorem unescapeName_of_spelling {bytes text : Bytes} (h : NameSpelling bytes text) :
    unescapeName text = bytes := by
  induction h with
  | nil => rfl
  | plain _ hm _ ih => rw [unescapeName_cons hm, ih]
  | escaped hp _ ih => rw [unescapeName_escaped hp, ih]

/-- A spelled name is one word: no byte of it, escaped or not, is white space or a delimiter. -/
theorem isRegular_of_nameSpelling {bytes text : Bytes} (h : NameSpelling bytes text) :
    ∀ b ∈ text, Byte.isRegular b = true := by
  induction h with
  | nil => exact fun b hb => absurd hb List.not_mem_nil
  | plain hb _ _ ih =>
    exact List.forall_mem_cons.mpr ⟨hb, ih⟩
  | escaped hp _ ih =>
    exact List.forall_mem_cons.mpr ⟨rfl, List.forall_mem_cons.mpr
      ⟨Byte.isRegular_of_hexValue? hp.high, List.forall_mem_cons.mpr
        ⟨Byte.isRegular_of_hexValue? hp.low, ih⟩⟩⟩

/-- A solidus and regular bytes behind it are scanned as the name that unescaping those bytes gives.
-/
theorem scan_append_of_isRegular {written : Bytes} (h : ∀ b ∈ written, Byte.isRegular b = true)
    {rest : Bytes} (hrest : endsWord rest = true) :
    scan (Byte.of '/' :: (written ++ rest)) =
      .lexeme (name (Utf8.decode (unescapeName written))) rest := by
  rw [scan_cons rfl rfl (by decide)]
  change Front.lexeme (name (Utf8.decode (unescapeName
    ((written ++ rest).takeWhile Byte.isRegular)))) ((written ++ rest).dropWhile Byte.isRegular) = _
  rw [takeWhile_append_of_all h fun b => head?_of_endsWord hrest,
    dropWhile_append_of_all h fun b => head?_of_endsWord hrest]

/-- **A name is scanned from each of its spellings**, whichever of its bytes are written as escapes.
-/
theorem scan_append_of_nameSpelling {text : String} {written : Bytes}
    (h : NameSpelling (Utf8.encode text) written) {rest : Bytes} (hrest : endsWord rest = true) :
    scan (Byte.of '/' :: (written ++ rest)) = .lexeme (name text) rest := by
  rw [scan_append_of_isRegular (isRegular_of_nameSpelling h) hrest, unescapeName_of_spelling h,
    Utf8.decode_encode]

/-! ## Strings -/

namespace StringReader

/-- A byte that does not close the string takes the reader further. -/
theorem run_cons_of_next {r r' : StringReader} {b : UInt8} (h : r.next b = .inl r')
    (rest : Bytes) : r.run (b :: rest) = r'.run rest := by
  rw [run, h]

variable (depth : UInt32) (read : Bytes)

/-- A byte that needs no backslash is kept as it is and changes neither the reader's escape nor its
depth. -/
theorem next_plain {b : UInt8} (hb : needsBackslash b = false) :
    next ⟨.none, depth, read⟩ b = .inl ⟨.none, depth, b :: read⟩ := by
  simp only [needsBackslash, Bool.or_eq_false_iff, beq_eq_false_iff_ne] at hb
  obtain ⟨⟨hopen, hclose⟩, hslash⟩ := hb
  simp only [next, plain, if_neg hopen, if_neg hclose, if_neg hslash]

theorem next_backslash :
    next ⟨.none, depth, read⟩ (Byte.of '\\') = .inl ⟨.backslash, depth, read⟩ := rfl

/-- A parenthesis within others closes the innermost one, unless the count of those outside has
come to zero. -/
theorem next_close (hdepth : depth ≠ 0) :
    next ⟨.none, depth + 1, read⟩ (Byte.of ')') = .inl ⟨.none, depth, Byte.of ')' :: read⟩ := by
  have hnext : next ⟨.none, depth + 1, read⟩ (Byte.of ')') =
      if depth + 1 - 1 = 0 then .inr read.reverse
      else .inl ⟨.none, depth + 1 - 1, Byte.of ')' :: read⟩ := rfl
  rw [hnext, UInt32.add_sub_cancel, if_neg hdepth]

/-- Behind a backslash, the letter of a named escape stands for the byte the table gives it. -/
theorem next_named {letter b : UInt8} (h : (letter, b) ∈ namedEscapes) :
    next ⟨.backslash, depth, read⟩ letter = .inl ⟨.none, depth, b :: read⟩ := by
  have hall : namedEscapes.all fun (letter, b) => escaped letter == b && letter != 0x0D &&
      letter != 0x0A && !Byte.isOctal letter := by decide
  have hletter := List.all_eq_true.mp hall _ h
  simp only [Bool.and_eq_true, beq_iff_eq, bne_iff_ne, Bool.not_eq_true'] at hletter
  obtain ⟨⟨⟨hbyte, hcr⟩, hlf⟩, hoctal⟩ := hletter
  simp only [next, if_neg hcr, if_neg hlf, hoctal, hbyte, Bool.false_eq_true, if_false]

/-- Behind a backslash, an octal digit begins a code that may take two more digits. -/
theorem next_firstDigit {b : UInt8} (hb : Byte.isOctal b = true) :
    next ⟨.backslash, depth, read⟩ b = .inl ⟨.octal (Byte.digit b) 2, depth, read⟩ := by
  have hends : ∀ b : UInt8, Byte.isOctal b = true → b ≠ 0x0D ∧ b ≠ 0x0A :=
    Byte.forall_of_halves (by decide)
  obtain ⟨hcr, hlf⟩ := hends b hb
  simp only [next, if_neg hcr, if_neg hlf, if_pos hb]

/-- A further octal digit counts for the code as long as the code has not had its three. -/
theorem next_digit {b : UInt8} (hb : Byte.isOctal b = true) (value more : Nat) :
    next ⟨.octal value (more + 1), depth, read⟩ b =
      .inl ⟨.octal (value * 8 + Byte.digit b) more, depth, read⟩ := by
  simp [next, hb]

/-- Behind its last digit an octal escape is a byte read. -/
theorem run_octal (value : Nat) (rest : Bytes) :
    run ⟨.octal value 0, depth, read⟩ rest =
      run ⟨.none, depth, UInt8.ofNat value :: read⟩ rest := by
  cases rest with
  | nil => rfl
  | cons b rest =>
    have hnext : next ⟨.octal value 0, depth, read⟩ b =
        next ⟨.none, depth, UInt8.ofNat value :: read⟩ b := by
      simp [next]
    rw [run, run, hnext]

/-- A backslash in front of a line end is dropped together with the line end, which may be one byte
or two. -/
theorem run_lineEnd {lineEnd : Bytes} (h : lineEnd = [0x0A] ∨ lineEnd = [0x0D, 0x0A])
    (rest : Bytes) :
    run ⟨.backslash, depth, read⟩ (lineEnd ++ rest) = run ⟨.none, depth, read⟩ rest := by
  obtain rfl | rfl := h <;> rfl

variable {depth}

/-- Whether a count of open parentheses is not zero and does not come to zero while others are
opened, of which there are fewer than `more`. -/
def Counts (depth : UInt32) (more : Nat) : Prop := ∀ further < more, depth + .ofNat further ≠ 0

theorem Counts.ne_zero {more : Nat} (h : Counts depth (more + 1)) : depth ≠ 0 := by
  simpa using h 0 (Nat.succ_pos more)

/-- Between the parentheses of a pair one more is open. -/
theorem Counts.inner {more : Nat} (h : Counts depth (more + 1)) : Counts (depth + 1) more := by
  intro further hfurther
  have hnext := h (further + 1) (Nat.succ_lt_succ hfurther)
  rwa [UInt32.ofNat_add, UInt32.add_comm (.ofNat further), ← UInt32.add_assoc] at hnext

/-- One parenthesis is open at first, and fewer than 2^32 others do not bring the count to zero. -/
theorem counts_one {more : Nat} (h : more < 2 ^ 32) : Counts 1 more := by
  intro further hfurther hzero
  have hsum := congrArg UInt32.toNat hzero
  rw [UInt32.toNat_add, UInt32.toNat_ofNat] at hsum
  simp at hsum
  omega

/-- **Written bytes are read**, in whatever way they are written, and the parentheses that are open
in front of them are open behind them, as long as their count does not come to zero in between. -/
theorem run_append_of_stringSpelling {more : Nat} {bytes text : Bytes}
    (h : StringSpelling more bytes text) (hdepth : Counts depth more) (rest : Bytes) :
    run ⟨.none, depth, read⟩ (text ++ rest) =
      run ⟨.none, depth, bytes.reverse ++ read⟩ rest := by
  -- the reader makes the steps of the spelling; only nested parentheses change the depth
  induction h generalizing depth read rest with
  | nil => rfl
  | plain hb _ ih =>
    rw [List.cons_append, run_cons_of_next (next_plain depth read hb), ih _ hdepth,
      List.reverse_cons, List.append_assoc, List.singleton_append]
  | nested _ _ ihinner ih =>
    have hopen : next ⟨.none, depth, read⟩ (Byte.of '(') =
        .inl ⟨.none, depth + 1, Byte.of '(' :: read⟩ := rfl
    rw [List.cons_append, run_cons_of_next hopen, List.append_assoc, ihinner _ hdepth.inner,
      List.cons_append, run_cons_of_next (next_close depth _ hdepth.ne_zero), ih _ hdepth]
    congr 2
    simp
  | named hb _ ih =>
    rw [List.cons_append, run_cons_of_next (next_backslash depth read), List.cons_append,
      run_cons_of_next (next_named depth read hb), ih _ hdepth, List.reverse_cons,
      List.append_assoc, List.singleton_append]
  | octal hhigh hmid hlow _ ih =>
    simp only [List.cons_append]
    rw [run_cons_of_next (next_backslash depth read),
      run_cons_of_next (next_firstDigit depth read hhigh),
      run_cons_of_next (next_digit depth read hmid _ _),
      run_cons_of_next (next_digit depth read hlow _ _), run_octal, ih _ hdepth,
      List.reverse_cons, List.append_assoc, List.singleton_append]
  | continued hend _ ih =>
    rw [List.cons_append, run_cons_of_next (next_backslash depth read), List.append_assoc,
      run_lineEnd depth read hend, ih _ hdepth]

/-- A string is read up to the parenthesis that closes it. -/
theorem run_of_stringSpelling {more : Nat} {bytes text : Bytes}
    (h : StringSpelling more bytes text) (hmore : more < 2 ^ 32) (rest : Bytes) :
    start.run (text ++ Byte.of ')' :: rest) = some (bytes, rest) := by
  have hclose : next ⟨.none, 1, bytes.reverse ++ []⟩ (Byte.of ')') =
      .inr (bytes.reverse ++ []).reverse := if_pos (show (1 : UInt32) - 1 = 0 by decide)
  rw [start, run_append_of_stringSpelling [] h (counts_one hmore), run, hclose, List.append_nil,
    List.reverse_reverse]

end StringReader

/-- **A literal string is scanned from each of its spellings**, if its raw parentheses stand within
each other no deeper than the 32-bit counter of the reader can count. -/
theorem scan_append_of_stringSpelling {more : Nat} {bytes text : Bytes}
    (h : StringSpelling more bytes text) (hmore : more < 2 ^ 32) (rest : Bytes) :
    scan (Byte.of '(' :: (text ++ Byte.of ')' :: rest)) = .lexeme (literalString bytes) rest := by
  rw [scan_cons rfl rfl (by decide), begin, if_pos rfl,
    StringReader.run_of_stringSpelling h hmore]

/-- A spelling in hexadecimal digits stays inside its angle brackets: it holds no `>`. -/
theorem inHexString_of_hexSpelling {bytes text : Bytes} (h : HexSpelling bytes text) :
    ∀ b ∈ text, inHexString b = true := by
  induction h with
  | nil => exact fun b hb => absurd hb List.not_mem_nil
  | pair hp _ ih =>
    exact List.forall_mem_cons.mpr ⟨bne_iff_ne.mpr (Byte.ne_gt_of_hexValue? hp.high),
      List.forall_mem_cons.mpr ⟨bne_iff_ne.mpr (Byte.ne_gt_of_hexValue? hp.low), ih⟩⟩

/-- **Pairing up the digits of a spelling gives the bytes back**, white space between the digits
included, and an odd last digit as the high half of a byte. -/
theorem hexBytes_of_hexSpelling {bytes text : Bytes} (h : HexSpelling bytes text) :
    hexBytes text = bytes := by
  rw [hexBytes]
  induction h with
  | nil => rfl
  | pair hp _ ih =>
    rw [List.filterMap_cons_some hp.high, List.filterMap_cons_some hp.low, Byte.ofHexDigits, ih,
      Byte.high_add_low]

/-- A spelling in hexadecimal digits does not begin with `<`, so the bracket in front of it is never
taken for the opening of a dictionary. -/
theorem head?_of_hexSpelling {bytes text : Bytes} (h : HexSpelling bytes text) :
    text.head? ≠ some (Byte.of '<') := by
  intro hhead
  cases h with
  | nil => cases hhead
  | pair hp _ =>
    have hnone : Byte.hexValue? (Byte.of '<') = none := by decide
    have hhigh := hp.high
    rw [Option.some.inj hhead, hnone] at hhigh
    cases hhigh

/-- Bytes between angle brackets are scanned as the string their digits spell, unless a second `<`
follows the first. -/
theorem scan_append_of_inHexString {written : Bytes} (h : ∀ b ∈ written, inHexString b = true)
    (hfirst : written.head? ≠ some (Byte.of '<')) (rest : Bytes) :
    scan (Byte.of '<' :: (written ++ Byte.of '>' :: rest)) =
      .lexeme (hexString (hexBytes written)) rest := by
  have hend : ∀ b, (Byte.of '>' :: rest).head? = some b → inHexString b = false := by
    rintro b hb
    rw [← Option.some.inj hb]
    rfl
  -- the opening angle bracket is not the first of two
  have hhead : (written ++ Byte.of '>' :: rest).head? ≠ some (Byte.of '<') := by
    cases written with
    | nil => exact fun hb => absurd (Option.some.inj hb) (by decide)
    | cons b written => exact hfirst
  rw [scan_cons rfl rfl (by decide), begin, if_neg (by decide), if_pos rfl, if_neg hhead,
    takeWhile_append_of_all h hend, dropWhile_append_of_all h hend]
  rfl

/-- **A hexadecimal string is scanned from each of its spellings**, and nothing behind its `>` is
looked at. -/
theorem scan_append_of_hexSpelling {bytes text : Bytes} (h : HexSpelling bytes text)
    (rest : Bytes) :
    scan (Byte.of '<' :: (text ++ Byte.of '>' :: rest)) = .lexeme (hexString bytes) rest := by
  rw [scan_append_of_inHexString (inHexString_of_hexSpelling h) (head?_of_hexSpelling h),
    hexBytes_of_hexSpelling h]

/-! ## Integers -/

/-- A natural number in decimal digits. -/
def decimal (n : Nat) : Bytes := (Nat.toDigits 10 n).map Char.toUInt8

theorem toNat_lt_of_isDigit {c : Char} (h : c.isDigit = true) : 48 ≤ c.toNat ∧ c.toNat ≤ 57 := by
  rw [Char.isDigit, Bool.and_eq_true, decide_eq_true_iff, decide_eq_true_iff] at h
  exact h

/-- The text of a natural number is its decimal digits, encoded one byte to each. -/
theorem encode_toString_nat (n : Nat) : Utf8.encode (toString n) = decimal n := by
  rw [Nat.toString_eq_ofList_toDigits, Utf8.encode_ofList_of_ascii, decimal]
  intro c hc
  have h := toNat_lt_of_isDigit (Nat.isDigit_of_mem_toDigits (by decide) (by decide) hc)
  omega

theorem isDigit_of_mem_decimal {n : Nat} : ∀ b ∈ decimal n, Byte.isDigit b = true := by
  intro b hb
  obtain ⟨c, hc, rfl⟩ := List.mem_map.mp hb
  have h := toNat_lt_of_isDigit (Nat.isDigit_of_mem_toDigits (by decide) (by decide) hc)
  have hb : c.toUInt8.toNat = c.toNat := by
    rw [Char.toUInt8, UInt32.toNat_toUInt8]
    exact Nat.mod_eq_of_lt (by change c.toNat < _; omega)
  simp only [Byte.isDigit, Bool.and_eq_true, decide_eq_true_eq, UInt8.le_iff_toNat_le, hb]
  exact h

/-- **The digits of a number count to the number**, which is the one place where a written integer
meets the value it is read as. -/
theorem digitsValue_decimal (n : Nat) : digitsValue (decimal n) = n := by
  have hdigit : ∀ c ∈ Nat.toDigits 10 n, Byte.digit c.toUInt8 = c.toNat - 48 := by
    intro c hc
    have h := toNat_lt_of_isDigit (Nat.isDigit_of_mem_toDigits (by decide) (by decide) hc)
    rw [Byte.digit, Char.toUInt8, UInt32.toNat_toUInt8]
    exact congrArg (· - 48) (Nat.mod_eq_of_lt (by change c.toNat < _; omega))
  rw [digitsValue, decimal, List.map_map, Digits.value_eq_foldl,
    List.map_congr_left (g := fun c => c.toNat - 48) hdigit, List.foldl_map]
  simp only [Nat.mul_comm _ 10]
  exact Nat.ofDigitChars_ten_toDigits

theorem decimal_ne_nil (n : Nat) : decimal n ≠ [] := by
  rw [decimal, ne_eq, List.map_eq_nil_iff]
  exact Nat.toDigits_ne_nil

theorem isDigit_of_endsWord {rest : Bytes} (hrest : endsWord rest = true) :
    ∀ b, rest.head? = some b → Byte.isDigit b = false := by
  intro b hb
  rcases hd : Byte.isDigit b with _ | _
  · rfl
  · exact absurd (head?_of_endsWord hrest hb) (by simp [Byte.isRegular_of_isDigit hd])

/-- Digits before something that ends a word are a number without a point. -/
theorem numeral_append {digits rest : Bytes} (hdigits : ∀ b ∈ digits, Byte.isDigit b = true)
    (hrest : endsWord rest = true) : numeral (digits ++ rest) = (⟨digits, none⟩, rest) := by
  have hend := isDigit_of_endsWord hrest
  rw [numeral, takeWhile_append_of_all hdigits hend, dropWhile_append_of_all hdigits hend]
  split
  · -- a point is regular, so it does not end a word
    exact absurd (head?_of_endsWord hrest rfl) (by decide)
  · rfl

/-- A numeral without a point whose value fits 64 bits is an integer, for both signs, and never
falls over into a real number. -/
theorem lexeme_of_isInt64 (negative : Bool) {n : Nat}
    (h : IsInt64 (if negative then -(n : Int) else n)) :
    (⟨decimal n, none⟩ : Numeral).lexeme negative =
      integer (if negative then -(n : Int) else n) := by
  simp only [Numeral.lexeme, digitsValue_decimal]
  exact if_pos h

/-- A digit or a point begins a number, and the numeral reaches as far as digits and at most one
point go. -/
theorem begin_number {b : UInt8} (hb : (Byte.isDigit b || b = Byte.of '.') = true) (rest : Bytes) :
    begin b rest =
      .lexeme ((numeral (b :: rest)).1.lexeme false) (numeral (b :: rest)).2 := by
  have hne : ∀ c : UInt8, (Byte.isDigit c || c = Byte.of '.') = false → ¬ b = c := by
    rintro c hc rfl
    rw [hb] at hc
    cases hc
  have hsign : ¬ (b = Byte.of '+' || b = Byte.of '-') = true := by
    simp only [Bool.or_eq_true, decide_eq_true_eq, not_or]
    exact ⟨hne _ rfl, hne _ rfl⟩
  rw [begin, if_neg (hne _ rfl), if_neg (hne _ rfl), if_neg (hne _ rfl), if_neg (hne _ rfl),
    if_neg (hne _ rfl), if_neg (hne _ rfl), if_neg hsign, if_pos hb]

theorem scan_append_of_natural {n : Nat} (hn : IsInt64 n) {rest : Bytes}
    (hrest : endsWord rest = true) :
    scan (Utf8.encode (toString (n : Int)) ++ rest) = .lexeme (integer n) rest := by
  have htext : Utf8.encode (toString (n : Int)) = decimal n := encode_toString_nat n
  have hdigits := isDigit_of_mem_decimal (n := n)
  rw [htext]
  rcases hd : decimal n with _ | ⟨b, digits⟩
  · exact absurd hd (decimal_ne_nil n)
  · have hb : Byte.isDigit b = true := hdigits b (hd ▸ List.mem_cons_self)
    rw [List.cons_append, scan_cons_of_isRegular (Byte.isRegular_of_isDigit hb),
      begin_number (by rw [hb, Bool.true_or]), ← List.cons_append, ← hd,
      numeral_append hdigits hrest]
    exact congrArg (Front.lexeme · rest) (lexeme_of_isInt64 false hn)

theorem encode_toString_negSucc (n : Nat) :
    Utf8.encode (toString (Int.negSucc n)) = Byte.of '-' :: decimal (n + 1) := by
  have hsign : Utf8.encode "-" = [Byte.of '-'] := Utf8.encode_literal ['-'] rfl
  change Utf8.encode ("-" ++ toString (n + 1)) = _
  rw [Utf8.encode_append, encode_toString_nat, hsign]
  rfl

/-- A negative number that fits 64 bits is scanned as itself: the sign is the first byte of its
text, and the digits behind it are those of its size. -/
theorem scan_append_of_negative {n : Nat} (hn : IsInt64 (-(n + 1 : Nat) : Int)) {rest : Bytes}
    (hrest : endsWord rest = true) :
    scan (Utf8.encode (toString (Int.negSucc n)) ++ rest) =
      .lexeme (integer (Int.negSucc n)) rest := by
  rw [encode_toString_negSucc, List.cons_append, scan_cons rfl rfl (by decide)]
  change Front.lexeme ((numeral (decimal (n + 1) ++ rest)).1.lexeme true)
    (numeral (decimal (n + 1) ++ rest)).2 = _
  rw [numeral_append isDigit_of_mem_decimal hrest]
  exact congrArg (Front.lexeme · rest) (lexeme_of_isInt64 true hn)

/-- **An integer is scanned from its text**, for every value that 64 bits hold. -/
theorem scan_append_of_isInt64 {value : Int} (h : IsInt64 value) {rest : Bytes}
    (hrest : endsWord rest = true) :
    scan (Utf8.encode (toString value) ++ rest) = .lexeme (integer value) rest := by
  cases value with
  | ofNat n => exact scan_append_of_natural h hrest
  | negSucc n => exact scan_append_of_negative h hrest

/-! ## All lexemes -/

/-- **A written lexeme is scanned**, if something follows that ends a word. -/
theorem scan_append_of_spells {l : Lexeme} {text : Bytes} (h : Spells l text) {rest : Bytes}
    (hrest : endsWord rest = true) : scan (text ++ rest) = .lexeme l rest := by
  cases h with
  | integer h => exact scan_append_of_isInt64 h hrest
  | name h => exact scan_append_of_nameSpelling h hrest
  | literalString =>
    rw [List.cons_append, List.append_assoc, List.singleton_append]
    exact scan_append_of_stringSpelling (stringSpelling_literalText _) (by decide) rest
  | hexString h =>
    rw [List.cons_append, List.append_assoc, List.singleton_append]
    exact scan_append_of_hexSpelling h rest
  | arrayStart => rfl
  | arrayEnd => rfl
  | dictionaryStart => rfl
  | dictionaryEnd => rfl
  | keyword h => exact scan_append_of_isWord h hrest

/-! ## Texts of many lexemes -/

/-- What is taken off a text one lexeme after another, and what is left. -/
inductive Scans : Bytes → List Lexeme → Bytes → Prop where
  /-- Nothing is taken. -/
  | nil {text : Bytes} : Scans text [] text
  /-- A lexeme is taken, and then others. -/
  | cons {text rest last : Bytes} {l : Lexeme} {ls : List Lexeme}
    (h : scan text = .lexeme l rest) (hrest : Scans rest ls last) : Scans text (l :: ls) last

/-- Two runs of the scanner of which the second begins where the first one stopped are one run over
both. -/
theorem Scans.append {text mid last : Bytes} {first second : List Lexeme}
    (hfirst : Scans text first mid) (hsecond : Scans mid second last) :
    Scans text (first ++ second) last := by
  induction hfirst with
  | nil => exact hsecond
  | cons hl _ ih => exact .cons hl (ih hsecond)

/-- A run over two lists of lexemes stops somewhere between them, and is cut there into a run for
each. -/
theorem Scans.append_inv {text last : Bytes} {first second : List Lexeme}
    (h : Scans text (first ++ second) last) :
    ∃ mid, Scans text first mid ∧ Scans mid second last := by
  induction first generalizing text with
  | nil => exact ⟨text, .nil, h⟩
  | cons l first ih =>
    cases h with
    | cons hl hrest =>
      obtain ⟨mid, hfirst, hsecond⟩ := ih hrest
      exact ⟨mid, .cons hl hfirst, hsecond⟩

/-- A text that comes to an end is made of its lexemes in one way. -/
theorem Scans.eq_of_done {text last last' : Bytes} {ls ls' : List Lexeme} (h : Scans text ls last)
    (h' : Scans text ls' last') (hdone : scan last = .done) (hdone' : scan last' = .done) :
    ls = ls' := by
  induction h generalizing ls' with
  | nil =>
    cases h' with
    | nil => rfl
    | cons hscan _ => cases hdone.symm.trans hscan
  | cons hscan _ ih =>
    cases h' with
    | nil => cases hdone'.symm.trans hscan
    | cons hscan' hrest' =>
      cases hscan.symm.trans hscan'
      rw [ih hrest' hdone]

/-- White space and comments in front of a text change nothing in a run that scans at least one
lexeme. -/
theorem Scans.of_append_gap {g rest last : Bytes} {l : Lexeme} {ls : List Lexeme} (hg : Gap g)
    (h : Scans rest (l :: ls) last) : Scans (g ++ rest) (l :: ls) last := by
  cases h with
  | cons hl hrest => exact .cons ((scan_append_of_gap hg rest).trans hl) hrest

theorem scans_nil_iff {text last : Bytes} : Scans text [] last ↔ text = last := by
  constructor
  · rintro ⟨⟩
    rfl
  · rintro rfl
    exact .nil

/-- The first lexeme of a run is decided by the first scan, and the rest of the run goes on from
what that scan left. -/
theorem scans_cons_iff {text rest last : Bytes} {first l : Lexeme} {ls : List Lexeme}
    (h : scan text = .lexeme first rest) :
    Scans text (l :: ls) last ↔ first = l ∧ Scans rest ls last := by
  constructor
  · intro hscans
    cases hscans with
    | cons hl hrest =>
      obtain ⟨rfl, rfl⟩ := Front.lexeme.inj (h.symm.trans hl)
      exact ⟨rfl, hrest⟩
  · rintro ⟨rfl, hrest⟩
    exact .cons h hrest

/-- A text whose first scan gives no lexeme has no run that reads one. -/
theorem not_scans_cons {text last : Bytes} {l : Lexeme} {ls : List Lexeme}
    (h : ∀ first rest, scan text ≠ .lexeme first rest) : ¬ Scans text (l :: ls) last := by
  intro hscans
  cases hscans with
  | cons hl _ => exact h _ _ hl

/-- Taking the lexemes off decides. -/
instance decidableScans : ∀ (text : Bytes) (ls : List Lexeme) (last : Bytes),
    Decidable (Scans text ls last)
  | text, [], last => decidable_of_iff (text = last) scans_nil_iff.symm
  | text, l :: ls, last =>
    match h : scan text with
    | .lexeme first rest =>
      have := decidableScans rest ls last
      decidable_of_iff (first = l ∧ Scans rest ls last) (scans_cons_iff h).symm
    | .done => isFalse (not_scans_cons fun _ _ => h ▸ nofun)
    | .unterminated => isFalse (not_scans_cons fun _ _ => h ▸ nofun)

/-- **Lexemes written with gaps between them are scanned one after another.** -/
theorem scans_of_spaced {ls : List Lexeme} {text : Bytes} (h : Spaced ls text) :
    Scans text ls [] := by
  induction h with
  | nil => exact .nil
  | @last l text h =>
    have hl : scan (text ++ []) = .lexeme l [] := scan_append_of_spells h rfl
    rw [List.append_nil] at hl
    exact .cons hl .nil
  | cons h hg _ ih =>
    exact .cons (scan_append_of_spells h (hg.endsWord _)) (.of_append_gap hg ih)

end Lexeme

end PdfDisplay
