import PdfDisplay.Number.Binary
import PdfDisplay.Number.Digits
import PdfDisplay.Syntax.Byte

/-!
# Lexemes

The lexical units that page contents, object texts and character maps share. `Lexeme.scan`
takes the first one off a text: it skips white space, comments and closing delimiters that
close nothing, and then reads a string, a name, a number, a bracket or a keyword. The only
text that cannot be read on is a literal string without its closing parenthesis.

`Lexeme.length_lt_of_scan` says that every lexeme shortens the text, which is what makes
the readers built on `scan` terminate.
-/

namespace PdfDisplay

/-- A lexical unit. -/
inductive Lexeme where
  /-- A number without a point, within 64 bits. -/
  | integer (value : Int)
  /-- Any other number. -/
  | real (value : Float)
  /-- A name, without its slash. -/
  | name (text : String)
  /-- A string in parentheses. -/
  | literalString (bytes : Bytes)
  /-- A string in angle brackets. -/
  | hexString (bytes : Bytes)
  /-- An opening bracket. -/
  | arrayStart
  /-- A closing bracket. -/
  | arrayEnd
  /-- A pair of opening angle brackets. -/
  | dictionaryStart
  /-- A pair of closing angle brackets. -/
  | dictionaryEnd
  /-- Any other word. -/
  | keyword (text : String)
  deriving DecidableEq, Repr

namespace Lexeme

/-! ## White space and comments -/

/-- The text without the white space and comments at its front. `comment` says that the
text begins inside a comment, which lasts up to a line end. -/
def skipWhite : (comment : Bool) → Bytes → Bytes
  | _, [] => []
  | true, b :: rest => skipWhite (!Byte.isLineEnd b) rest
  | false, b :: rest =>
    if Byte.isWhite b then skipWhite false rest
    else if b = Byte.of '%' then skipWhite true rest
    else b :: rest

/-- Whether `b` closes nothing when it is followed by `rest`: no lexeme begins with it. -/
def isStray (b : UInt8) (rest : Bytes) : Bool :=
  b == Byte.of ')' || b == Byte.of '\x7b' || b == Byte.of '\x7d' ||
    (b == Byte.of '>' && rest.head? != some (Byte.of '>'))

/-- The text from its first lexeme on. -/
def toFront : (comment : Bool) → Bytes → Bytes
  | _, [] => []
  | true, b :: rest => toFront (!Byte.isLineEnd b) rest
  | false, b :: rest =>
    if Byte.isWhite b || isStray b rest then toFront false rest
    else if b = Byte.of '%' then toFront true rest
    else b :: rest

/-! ## Literal strings -/

/-- Where a literal string reader is within an escape. -/
inductive Escape where
  /-- Outside every escape. -/
  | none
  /-- Behind a backslash. -/
  | backslash
  /-- Behind some octal digits, of which `more` may follow. -/
  | octal (value : Nat) (more : Nat)
  /-- Behind a backslash and a carriage return, which a line feed belongs to. -/
  | lineBreak
  deriving DecidableEq, Repr

/-- A literal string that is being read. -/
structure StringReader where
  /-- Where it is within an escape. -/
  escape : Escape
  /-- How many parentheses are open, counted in 32 bits. -/
  depth : UInt32
  /-- The bytes read, latest first. -/
  read : Bytes
  deriving DecidableEq, Repr

namespace StringReader

/-- Behind the opening parenthesis. -/
def start : StringReader := ⟨.none, 1, []⟩

/-- A byte outside every escape. A closing parenthesis that brings the count of the open ones to
zero gives the bytes of the string; the count itself is not checked, and starts over behind the
greatest number of 32 bits. -/
def plain (depth : UInt32) (read : Bytes) (b : UInt8) : StringReader ⊕ Bytes :=
  if b = Byte.of '(' then .inl ⟨.none, depth + 1, b :: read⟩
  else if b = Byte.of ')' then
    if depth - 1 = 0 then .inr read.reverse else .inl ⟨.none, depth - 1, b :: read⟩
  else if b = Byte.of '\\' then .inl ⟨.backslash, depth, read⟩
  else .inl ⟨.none, depth, b :: read⟩

/-- The byte that a letter behind a backslash stands for; all but five stand for
themselves. -/
def escaped (b : UInt8) : UInt8 :=
  if b = Byte.of 'n' then 0x0A
  else if b = Byte.of 'r' then 0x0D
  else if b = Byte.of 't' then 0x09
  else if b = Byte.of 'b' then 0x08
  else if b = Byte.of 'f' then 0x0C
  else b

/-- The next byte. An octal escape has at most three digits and keeps its low eight bits; a
line break behind a backslash is dropped. -/
def next (r : StringReader) (b : UInt8) : StringReader ⊕ Bytes :=
  match r.escape with
  | .none => plain r.depth r.read b
  | .backslash =>
    if b = 0x0D then .inl ⟨.lineBreak, r.depth, r.read⟩
    else if b = 0x0A then .inl ⟨.none, r.depth, r.read⟩
    else if Byte.isOctal b then .inl ⟨.octal (Byte.digit b) 2, r.depth, r.read⟩
    else .inl ⟨.none, r.depth, escaped b :: r.read⟩
  | .octal value more =>
    if Byte.isOctal b && 0 < more then
      .inl ⟨.octal (value * 8 + Byte.digit b) (more - 1), r.depth, r.read⟩
    else plain r.depth (UInt8.ofNat value :: r.read) b
  | .lineBreak => if b = 0x0A then .inl ⟨.none, r.depth, r.read⟩ else plain r.depth r.read b

/-- Reads to the closing parenthesis; nothing when there is none. -/
def run (r : StringReader) : Bytes → Option (Bytes × Bytes)
  | [] => .none
  | b :: rest =>
    match r.next b with
    | .inl r' => r'.run rest
    | .inr bytes => some (bytes, rest)

theorem length_lt_of_run {r : StringReader} {text bytes rest : Bytes}
    (h : r.run text = some (bytes, rest)) : rest.length < text.length := by
  induction text generalizing r with
  | nil => simp [run] at h
  | cons b text ih =>
    rw [run] at h
    split at h
    · exact Nat.lt_succ_of_lt (ih h)
    · simp only [Option.some.injEq, Prod.mk.injEq] at h
      simp [← h.2]

end StringReader

/-! ## Names, numbers and hexadecimal strings -/

/-- The bytes of a written name: a number sign before two hexadecimal digits stands for the
byte with that value. -/
def unescapeName : Bytes → Bytes
  | mark :: high :: low :: rest =>
    match decide (mark = Byte.of '#'), Byte.hexValue? high, Byte.hexValue? low with
    | true, some h, some l => (h * 16 + l) :: unescapeName rest
    | _, _, _ => mark :: unescapeName (high :: low :: rest)
  | bytes => bytes

/-- The natural number that decimal digits write. -/
def digitsValue (digits : Bytes) : Nat := Digits.value (digits.map Byte.digit)

/-- A number as written: the digits before the point and, if there is a point, those
behind it. -/
structure Numeral where
  /-- The digits before the point. -/
  whole : Bytes
  /-- The digits behind the point. -/
  fraction? : Option Bytes

/-- Takes the digits, and a point and digits, off a text; a second point ends the number. -/
def numeral (text : Bytes) : Numeral × Bytes :=
  match text.dropWhile Byte.isDigit with
  | 0x2E :: rest =>
    (⟨text.takeWhile Byte.isDigit, some (rest.takeWhile Byte.isDigit)⟩,
      rest.dropWhile Byte.isDigit)
  | rest => (⟨text.takeWhile Byte.isDigit, none⟩, rest)

/-- The number that `digits / 10 ^ places` is, with its sign. -/
def signedReal (negative : Bool) (digits : Bytes) (places : Nat) : Float :=
  let size := Digits.toFloat (digits.map Byte.digit) (-(places : Int))
  if negative then -size else size

/-- The lexeme of a number. Without any digit it is zero; without a point it is an integer
if 64 bits hold it. -/
def Numeral.lexeme (negative : Bool) (n : Numeral) : Lexeme :=
  match n.fraction? with
  | some fraction =>
    if n.whole.isEmpty && fraction.isEmpty then integer 0
    else real (signedReal negative (n.whole ++ fraction) fraction.length)
  | none =>
    let value : Int := if negative then -(digitsValue n.whole : Int) else digitsValue n.whole
    if -0x8000000000000000 ≤ value ∧ value < 0x8000000000000000 then integer value
    else real (signedReal negative n.whole 0)

/-- Whether a byte belongs to a hexadecimal string: all but the closing bracket do. -/
def inHexString (b : UInt8) : Bool := b != Byte.of '>'

/-- The bytes that a hexadecimal string writes; whatever is no digit is passed over. -/
def hexBytes (body : Bytes) : Bytes := Byte.ofHexDigits (body.filterMap Byte.hexValue?)

/-! ## The first lexeme -/

/-- What a text begins with. -/
inductive Front where
  /-- Nothing: the text holds no further lexeme. -/
  | done
  /-- A literal string that does not end. -/
  | unterminated
  /-- A lexeme, and what follows it. -/
  | lexeme (first : Lexeme) (rest : Bytes)
  deriving DecidableEq, Repr

/-- The lexeme that begins with `b`. -/
def begin (b : UInt8) (rest : Bytes) : Front :=
  if b = Byte.of '(' then
    match StringReader.start.run rest with
    | some (bytes, rest') => .lexeme (literalString bytes) rest'
    | none => .unterminated
  else if b = Byte.of '<' then
    if rest.head? = some (Byte.of '<') then .lexeme dictionaryStart (rest.drop 1)
    else
      .lexeme (hexString (hexBytes (rest.takeWhile inHexString)))
        ((rest.dropWhile inHexString).drop 1)
  else if b = Byte.of '>' then .lexeme dictionaryEnd (rest.drop 1)
  else if b = Byte.of '[' then .lexeme arrayStart rest
  else if b = Byte.of ']' then .lexeme arrayEnd rest
  else if b = Byte.of '/' then
    .lexeme (name (Utf8.decode (unescapeName (rest.takeWhile Byte.isRegular))))
      (rest.dropWhile Byte.isRegular)
  else if b = Byte.of '+' || b = Byte.of '-' then
    .lexeme ((numeral rest).1.lexeme (b = Byte.of '-')) (numeral rest).2
  else if Byte.isDigit b || b = Byte.of '.' then
    .lexeme ((numeral (b :: rest)).1.lexeme false) (numeral (b :: rest)).2
  else
    .lexeme (keyword (Utf8.decode (b :: rest.takeWhile Byte.isRegular)))
      (rest.dropWhile Byte.isRegular)

/-- Takes the first lexeme off a text. -/
def scan (text : Bytes) : Front :=
  match toFront false text with
  | [] => .done
  | b :: rest => begin b rest

/-! ## Progress -/

theorem length_toFront_le (comment : Bool) (text : Bytes) :
    (toFront comment text).length ≤ text.length := by
  fun_induction toFront comment text <;> simp_all <;> omega

theorem length_dropWhile_le (p : UInt8 → Bool) (text : Bytes) :
    (text.dropWhile p).length ≤ text.length :=
  (List.dropWhile_sublist p).length_le

theorem length_numeral_le (text : Bytes) : (numeral text).2.length ≤ text.length := by
  have h := length_dropWhile_le Byte.isDigit text
  unfold numeral
  split
  · next rest heq =>
    rw [heq, List.length_cons] at h
    exact Nat.le_trans (length_dropWhile_le Byte.isDigit rest) (by omega)
  · exact h

theorem length_numeral_lt {b : UInt8} {rest : Bytes}
    (hb : Byte.isDigit b = true ∨ b = Byte.of '.') :
    (numeral (b :: rest)).2.length ≤ rest.length := by
  have h := length_dropWhile_le Byte.isDigit rest
  have hd : Byte.isDigit (Byte.of '.') = false := by decide
  unfold numeral
  rcases hb with hb | rfl
  · rw [List.dropWhile_cons_of_pos hb]
    split
    · next rest' heq =>
      rw [heq, List.length_cons] at h
      exact Nat.le_trans (length_dropWhile_le Byte.isDigit rest') (by omega)
    · exact h
  · rw [List.dropWhile_cons_of_neg (by simp [hd])]
    split
    · next rest' heq =>
      obtain rfl : rest = rest' := (List.cons.inj heq).2
      exact h
    · next hne => exact absurd rfl (hne rest)

theorem length_le_of_begin {b : UInt8} {rest : Bytes} {first : Lexeme} {rest' : Bytes}
    (h : begin b rest = .lexeme first rest') : rest'.length ≤ rest.length := by
  unfold begin at h
  repeat' split at h
  all_goals simp only [Front.lexeme.injEq, reduceCtorEq] at h
  · next hr => exact h.2 ▸ Nat.le_of_lt (StringReader.length_lt_of_run hr)
  · exact h.2 ▸ by simp
  · rw [← h.2, List.length_drop]
    exact Nat.le_trans (Nat.sub_le ..) (length_dropWhile_le _ _)
  · exact h.2 ▸ by simp
  · exact h.2 ▸ Nat.le_refl _
  · exact h.2 ▸ Nat.le_refl _
  · exact h.2 ▸ length_dropWhile_le _ _
  · exact h.2 ▸ length_numeral_le _
  · next hd => exact h.2 ▸ length_numeral_lt (by simpa using hd)
  · exact h.2 ▸ length_dropWhile_le _ _

/-- Every lexeme shortens the text. -/
theorem length_lt_of_scan {text : Bytes} {first : Lexeme} {rest : Bytes}
    (h : scan text = .lexeme first rest) : rest.length < text.length := by
  unfold scan at h
  split at h
  · cases h
  · next b rest' heq =>
    have h₁ := length_toFront_le false text
    have h₂ := length_le_of_begin h
    rw [heq, List.length_cons] at h₁
    omega

end Lexeme

end PdfDisplay
