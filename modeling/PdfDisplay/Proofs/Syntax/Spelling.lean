import PdfDisplay.Proofs.Text.Utf8
import PdfDisplay.Syntax.InlineImage
import PdfDisplay.Text.Hex

/-!
# Written lexemes

How lexemes are written, as relations between what is meant and the bytes that say it, since
there is a choice: a byte of a name may be written as it is or as a number sign with two
digits, digits have two cases, and between two lexemes there is any mix of white space and
comments.

The main statement is `Lexeme.scan_append_of_spells`: a lexeme that is written before
something that ends a word is the first that `Lexeme.scan` takes off. `Lexeme.scans_of_spaced`
lifts this to texts.
-/

namespace PdfDisplay

/-! ## Classes of bytes -/

namespace Byte

/-- What holds of all pairs of four-bit halves holds of all bytes. -/
theorem forall_of_halves {p : UInt8 → Prop}
    (h : ∀ high < 16, ∀ low < 16, p (UInt8.ofNat (high * 16 + low))) (b : UInt8) : p b := by
  have hlt := b.toNat_lt
  have hb := h (b.toNat / 16) (by omega) (b.toNat % 16) (by omega)
  rwa [Nat.div_add_mod', UInt8.ofNat_toNat] at hb

theorem isRegular_of_hexValue? {d v : UInt8} (h : hexValue? d = some v) : isRegular d = true := by
  have hall : ∀ d : UInt8, (hexValue? d).isSome → isRegular d = true :=
    forall_of_halves (by decide)
  exact hall d (by rw [h]; rfl)

theorem isRegular_of_isDigit {d : UInt8} (h : isDigit d = true) : isRegular d = true := by
  refine isRegular_of_hexValue? (v := d - of '0') ?_
  rw [hexValue?, if_pos h]

theorem ne_gt_of_hexValue? {d v : UInt8} (h : hexValue? d = some v) : d ≠ of '>' := by
  rintro rfl
  cases h

/-- A byte is its two hexadecimal digits. -/
theorem high_add_low (b : UInt8) : b / 16 * 16 + b % 16 = b := by
  revert b
  exact forall_of_halves (by decide)

/-- The two halves of a byte are the same whether one divides the byte or the number it stands for.
-/
theorem ofNat_halves (b : UInt8) :
    UInt8.ofNat (b.toNat / 16) = b / 16 ∧ UInt8.ofNat (b.toNat % 16) = b % 16 := by
  revert b
  exact forall_of_halves (by decide)

end Byte

/-! ## Gaps -/

/-- What stands between neighbouring lexemes: white space and comments, at least one, every
comment with its line end. -/
inductive Gap : Bytes → Prop where
  /-- White space. -/
  | white {b : UInt8} (h : Byte.isWhite b = true) : Gap [b]
  /-- A comment. -/
  | comment {body : Bytes} {e : UInt8} (hbody : ∀ b ∈ body, Byte.isLineEnd b = false)
    (he : Byte.isLineEnd e = true) : Gap (Byte.of '%' :: (body ++ [e]))
  /-- Two gaps one after the other. -/
  | append {g g' : Bytes} (h : Gap g) (h' : Gap g') : Gap (g ++ g')

namespace Lexeme

/-- Inside a comment, everything up to the first line end is passed over and the line end with it.
-/
theorem toFront_comment {body : Bytes} {e : UInt8} (rest : Bytes)
    (hbody : ∀ b ∈ body, Byte.isLineEnd b = false) (he : Byte.isLineEnd e = true) :
    toFront true (body ++ e :: rest) = toFront false rest := by
  induction body with
  | nil => rw [List.nil_append, toFront, he, Bool.not_true]
  | cons b body ih =>
    rw [List.cons_append, toFront, hbody b List.mem_cons_self, Bool.not_false]
    exact ih fun c hc => hbody c (List.mem_cons_of_mem _ hc)

/-- **A gap is passed over whole**: the front of a text with a gap before it is the front of the
text, by induction on how the gap is made of blanks and comments. -/
theorem toFront_append_of_gap {g : Bytes} (h : Gap g) (rest : Bytes) :
    toFront false (g ++ rest) = toFront false rest := by
  induction h generalizing rest with
  | white hb => rw [List.singleton_append, toFront, hb, Bool.true_or, if_pos rfl]
  | @comment body e hbody he =>
    have hs : (Byte.isWhite (Byte.of '%') || isStray (Byte.of '%') (body ++ e :: rest)) = false :=
      rfl
    rw [List.cons_append, List.append_assoc, List.singleton_append, toFront, hs,
      if_neg Bool.false_ne_true, if_pos rfl, toFront_comment rest hbody he]
  | append _ _ ih ih' => rw [List.append_assoc, ih, ih']

/-- A gap in front of a text is passed over. -/
theorem scan_append_of_gap {g : Bytes} (h : Gap g) (rest : Bytes) :
    scan (g ++ rest) = scan rest := by
  rw [scan, toFront_append_of_gap h, scan]

end Lexeme

/-- A gap ends a word: it is empty at the end of the text, or begins with a byte that is not
regular. -/
theorem Gap.endsWord {g : Bytes} (h : Gap g) (rest : Bytes) :
    InlineImage.endsWord (g ++ rest) = true := by
  induction h generalizing rest with
  | white hb => simp [InlineImage.endsWord, Byte.isRegular, hb]
  | comment _ _ => rfl
  | append _ _ ih _ => rw [List.append_assoc, ih]

/-! ## Spellings -/

/-- Two hexadecimal digits, of either case, that write a byte. -/
structure HexPair (b high low : UInt8) : Prop where
  /-- The first digit. -/
  high : Byte.hexValue? high = some (b / 16)
  /-- The second digit. -/
  low : Byte.hexValue? low = some (b % 16)

/-- How the bytes of a name are written. Bytes that are not regular, and the number sign, can
only be written in digits. -/
inductive NameSpelling : Bytes → Bytes → Prop where
  /-- No bytes. -/
  | nil : NameSpelling [] []
  /-- A byte as it is. -/
  | plain {b : UInt8} {bytes text : Bytes} (hb : Byte.isRegular b = true) (hm : b ≠ Byte.of '#')
    (h : NameSpelling bytes text) : NameSpelling (b :: bytes) (b :: text)
  /-- A byte in digits. -/
  | escaped {b high low : UInt8} {bytes text : Bytes} (hp : HexPair b high low)
    (h : NameSpelling bytes text) :
    NameSpelling (b :: bytes) (Byte.of '#' :: high :: low :: text)

/-- Whether a byte of a literal string is written behind a backslash: parentheses and the
backslash itself are. -/
def needsBackslash (b : UInt8) : Bool :=
  b == Byte.of '(' || b == Byte.of ')' || b == Byte.of '\\'

/-- How the bytes of a literal string are written between its parentheses. -/
def literalText (bytes : Bytes) : Bytes :=
  bytes.flatMap fun b => if needsBackslash b then [Byte.of '\\', b] else [b]

/-- The letters that stand behind a backslash for a byte, each with its byte. -/
def namedEscapes : List (UInt8 × UInt8) :=
  [(Byte.of 'n', 0x0A), (Byte.of 'r', 0x0D), (Byte.of 't', 0x09), (Byte.of 'b', 0x08),
    (Byte.of 'f', 0x0C), (Byte.of '\\', Byte.of '\\'), (Byte.of '(', Byte.of '('),
    (Byte.of ')', Byte.of ')')]

/-- How the bytes of a literal string may be written between its parentheses. A byte can be written
in several ways; parentheses that are written as they are come in pairs, and at most `depth` of
these pairs stand within each other. -/
inductive StringSpelling : (depth : Nat) → Bytes → Bytes → Prop where
  /-- No bytes. -/
  | nil {depth : Nat} : StringSpelling depth [] []
  /-- A byte as it is. -/
  | plain {depth : Nat} {b : UInt8} {bytes text : Bytes} (hb : needsBackslash b = false)
    (h : StringSpelling depth bytes text) : StringSpelling depth (b :: bytes) (b :: text)
  /-- A pair of parentheses as they are, with less depth between them. -/
  | nested {depth : Nat} {inner innerText bytes text : Bytes}
    (hinner : StringSpelling depth inner innerText) (h : StringSpelling (depth + 1) bytes text) :
    StringSpelling (depth + 1) (Byte.of '(' :: (inner ++ Byte.of ')' :: bytes))
      (Byte.of '(' :: (innerText ++ Byte.of ')' :: text))
  /-- A byte by its letter. -/
  | named {depth : Nat} {letter b : UInt8} {bytes text : Bytes} (hb : (letter, b) ∈ namedEscapes)
    (h : StringSpelling depth bytes text) :
    StringSpelling depth (b :: bytes) (Byte.of '\\' :: letter :: text)
  /-- A byte in three octal digits, of whose number the low eight bits count. -/
  | octal {depth : Nat} {high mid low : UInt8} {bytes text : Bytes}
    (hhigh : Byte.isOctal high = true) (hmid : Byte.isOctal mid = true)
    (hlow : Byte.isOctal low = true) (h : StringSpelling depth bytes text) :
    StringSpelling depth
      (UInt8.ofNat ((Byte.digit high * 8 + Byte.digit mid) * 8 + Byte.digit low) :: bytes)
      (Byte.of '\\' :: high :: mid :: low :: text)
  /-- A line that is continued: the line end is no part of the string. -/
  | continued {depth : Nat} {lineEnd bytes text : Bytes}
    (hend : lineEnd = [0x0A] ∨ lineEnd = [0x0D, 0x0A]) (h : StringSpelling depth bytes text) :
    StringSpelling depth bytes (Byte.of '\\' :: (lineEnd ++ text))

/-- A string as it is written out has all its parentheses behind backslashes. -/
theorem stringSpelling_literalText (bytes : Bytes) :
    StringSpelling 0 bytes (literalText bytes) := by
  induction bytes with
  | nil => exact .nil
  | cons b bytes ih =>
    rw [literalText, List.flatMap_cons, ← literalText]
    split
    case isTrue hb =>
      refine .named ?_ ih
      simp only [needsBackslash, Bool.or_eq_true, beq_iff_eq] at hb
      obtain (rfl | rfl) | rfl := hb <;> decide
    case isFalse hb => exact .plain (Bool.eq_false_iff.mpr hb) ih

/-- How the bytes of a string are written in digits. -/
inductive HexSpelling : Bytes → Bytes → Prop where
  /-- No bytes. -/
  | nil : HexSpelling [] []
  /-- A byte. -/
  | pair {b high low : UInt8} {bytes text : Bytes} (hp : HexPair b high low)
    (h : HexSpelling bytes text) : HexSpelling (b :: bytes) (high :: low :: text)

/-- Whether a byte begins a number. -/
def beginsNumber (b : UInt8) : Bool :=
  Byte.isDigit b || b == Byte.of '+' || b == Byte.of '-' || b == Byte.of '.'

/-- Whether a text can stand as a word: regular bytes, of which the first begins no number. -/
def IsWord (word : String) : Prop :=
  ∃ first rest, Utf8.encode word = first :: rest ∧ beginsNumber first = false ∧
    ∀ b ∈ first :: rest, Byte.isRegular b = true

/-- Whether a text is a word can be computed: its first byte begins no number, and all its bytes are
regular. -/
theorem isWord_iff (word : String) :
    IsWord word ↔ ((Utf8.encode word).head?.any (!beginsNumber ·) &&
      (Utf8.encode word).all Byte.isRegular) = true := by
  rw [IsWord, Bool.and_eq_true, List.all_eq_true]
  cases Utf8.encode word with
  | nil => exact ⟨fun ⟨_, _, h, _⟩ => absurd h nofun, fun h => absurd h.1 Bool.false_ne_true⟩
  | cons b bytes =>
    rw [List.head?_cons, Option.any_some, Bool.not_eq_true']
    constructor
    · rintro ⟨first, rest, heq, hfirst, hall⟩
      cases heq
      exact ⟨hfirst, hall⟩
    · rintro ⟨hfirst, hall⟩
      exact ⟨b, bytes, rfl, hfirst, hall⟩

/-- A text of ASCII letters is a word if its first letter begins no number and all are regular, so a
keyword of the language needs a `decide` only. -/
theorem isWord_literal (c : Char) (chars : List Char) (hc : beginsNumber c.toUInt8 = false)
    (h : (c :: chars).all (fun d => d.toNat < 0x80 && Byte.isRegular d.toUInt8) = true) :
    IsWord (String.ofList (c :: chars)) := by
  have hall := List.all_eq_true.mp h
  have hencode : Utf8.encode (String.ofList (c :: chars)) = (c :: chars).map Char.toUInt8 := by
    refine Utf8.encode_ofList_of_ascii fun d hd => ?_
    exact of_decide_eq_true (Bool.and_eq_true_iff.mp (hall d hd)).1
  refine ⟨_, _, hencode, hc, ?_⟩
  rw [← List.map_cons]
  intro b hb
  obtain ⟨d, hd, rfl⟩ := List.mem_map.mp hb
  exact (Bool.and_eq_true_iff.mp (hall d hd)).2

instance (word : String) : Decidable (IsWord word) := decidable_of_iff _ (isWord_iff word).symm

/-- Whether 64 bits hold a number. -/
def IsInt64 (value : Int) : Prop := -0x8000000000000000 ≤ value ∧ value < 0x8000000000000000

instance (value : Int) : Decidable (IsInt64 value) := inferInstanceAs (Decidable (_ ∧ _))

namespace Lexeme

/-- How a lexeme is written. Numbers other than 64-bit integers have no spelling here. -/
inductive Spells : Lexeme → Bytes → Prop where
  /-- An integer in decimal digits. -/
  | integer {value : Int} (h : IsInt64 value) :
    Spells (integer value) (Utf8.encode (toString value))
  /-- A name behind its slash. -/
  | name {text : String} {written : Bytes} (h : NameSpelling (Utf8.encode text) written) :
    Spells (name text) (Byte.of '/' :: written)
  /-- A string in parentheses. -/
  | literalString {bytes : Bytes} :
    Spells (literalString bytes) (Byte.of '(' :: (literalText bytes ++ [Byte.of ')']))
  /-- A string in angle brackets. -/
  | hexString {bytes written : Bytes} (h : HexSpelling bytes written) :
    Spells (hexString bytes) (Byte.of '<' :: (written ++ [Byte.of '>']))
  /-- An opening bracket. -/
  | arrayStart : Spells arrayStart [Byte.of '[']
  /-- A closing bracket. -/
  | arrayEnd : Spells arrayEnd [Byte.of ']']
  /-- Opening angle brackets. -/
  | dictionaryStart : Spells dictionaryStart [Byte.of '<', Byte.of '<']
  /-- Closing angle brackets. -/
  | dictionaryEnd : Spells dictionaryEnd [Byte.of '>', Byte.of '>']
  /-- A word. -/
  | keyword {word : String} (h : IsWord word) : Spells (keyword word) (Utf8.encode word)

/-- How lexemes are written one after another, with a gap between neighbours. -/
inductive Spaced : List Lexeme → Bytes → Prop where
  /-- No lexemes. -/
  | nil : Spaced [] []
  /-- The last lexeme. -/
  | last {l : Lexeme} {text : Bytes} (h : Spells l text) : Spaced [l] text
  /-- A lexeme, a gap, and further lexemes. -/
  | cons {l next : Lexeme} {ls : List Lexeme} {text g rest : Bytes} (h : Spells l text)
    (hg : Gap g) (hrest : Spaced (next :: ls) rest) :
    Spaced (l :: next :: ls) (text ++ (g ++ rest))

/-- Whether a lexeme has a spelling. -/
def IsWritable : Lexeme → Prop
  | integer value => IsInt64 value
  | real _ => False
  | keyword word => IsWord word
  | _ => True

end Lexeme

/-! ## Everything can be written -/

/-- A digit that is printed in upper case has its number as value. -/
theorem hexValue?_upper : ∀ n < 16,
    Byte.hexValue? (Char.ofNat (if n < 10 then n + 48 else n + 55)).toUInt8 =
      some (UInt8.ofNat n) := by
  decide

theorem toNat_upper_lt : ∀ n < 16,
    (Char.ofNat (if n < 10 then n + 48 else n + 55)).toNat < 0x80 := by
  decide

/-- **The two upper-case digits of a byte are a pair that spells it**, for each of the 256 bytes. -/
theorem hexPair_upperPair (b : UInt8) :
    ∃ high low, (Hex.upperPair b).map Char.toUInt8 = [high, low] ∧ HexPair b high low := by
  have hb := b.toNat_lt
  obtain ⟨hhigh, hlow⟩ := Byte.ofNat_halves b
  refine ⟨_, _, rfl, ?_, ?_⟩
  · rw [← hhigh]
    exact hexValue?_upper _ (by omega)
  · rw [← hlow]
    exact hexValue?_upper _ (by omega)

theorem toNat_lt_of_mem_upperPair {b : UInt8} {c : Char} (h : c ∈ Hex.upperPair b) :
    c.toNat < 0x80 := by
  have hb := b.toNat_lt
  rcases List.mem_cons.mp h with rfl | h
  · exact toNat_upper_lt _ (by omega)
  · rw [List.mem_singleton.mp h]
    exact toNat_upper_lt _ (by omega)

theorem exists_hexPair (b : UInt8) : ∃ high low, HexPair b high low := by
  obtain ⟨high, low, -, hp⟩ := hexPair_upperPair b
  exact ⟨high, low, hp⟩

/-- Every name has a spelling: each of its bytes can be escaped. -/
theorem exists_nameSpelling (bytes : Bytes) : ∃ text, NameSpelling bytes text := by
  induction bytes with
  | nil => exact ⟨[], .nil⟩
  | cons b bytes ih =>
    obtain ⟨text, h⟩ := ih
    obtain ⟨high, low, hp⟩ := exists_hexPair b
    exact ⟨_, .escaped hp h⟩

theorem exists_hexSpelling (bytes : Bytes) : ∃ text, HexSpelling bytes text := by
  induction bytes with
  | nil => exact ⟨[], .nil⟩
  | cons b bytes ih =>
    obtain ⟨text, h⟩ := ih
    obtain ⟨high, low, hp⟩ := exists_hexPair b
    exact ⟨_, .pair hp h⟩

namespace Lexeme

/-- **Every writable lexeme has a text**, so what is said about all spellings of a lexeme never
holds for want of one. -/
theorem exists_spells {l : Lexeme} (h : l.IsWritable) : ∃ text, Spells l text := by
  cases l with
  | integer value => exact ⟨_, .integer h⟩
  | real value => exact absurd h id
  | name text =>
    obtain ⟨written, hw⟩ := exists_nameSpelling (Utf8.encode text)
    exact ⟨_, .name hw⟩
  | literalString bytes => exact ⟨_, .literalString⟩
  | hexString bytes =>
    obtain ⟨written, hw⟩ := exists_hexSpelling bytes
    exact ⟨_, .hexString hw⟩
  | arrayStart => exact ⟨_, .arrayStart⟩
  | arrayEnd => exact ⟨_, .arrayEnd⟩
  | dictionaryStart => exact ⟨_, .dictionaryStart⟩
  | dictionaryEnd => exact ⟨_, .dictionaryEnd⟩
  | keyword word => exact ⟨_, .keyword h⟩

/-- Every sequence of lexemes that have spellings can be written. -/
theorem exists_spaced {ls : List Lexeme} (h : ∀ l ∈ ls, l.IsWritable) :
    ∃ text, Spaced ls text := by
  induction ls with
  | nil => exact ⟨[], .nil⟩
  | cons l ls ih =>
    obtain ⟨text, hl⟩ := exists_spells (h l List.mem_cons_self)
    obtain ⟨rest, hrest⟩ := ih fun l' hl' => h l' (List.mem_cons_of_mem _ hl')
    cases ls with
    | nil => exact ⟨text, .last hl⟩
    | cons next ls => exact ⟨_, .cons hl (.white (b := 0x20) rfl) hrest⟩

end Lexeme

end PdfDisplay
