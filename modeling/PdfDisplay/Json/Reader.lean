import PdfDisplay.Json.Basic
import PdfDisplay.Number.Digits
import PdfDisplay.Text.Hex
import PdfDisplay.Text.Utf16

/-!
# Reading JSON

A text is cut into tokens, one character at a time, and the tokens build the value with a
stack of the arrays and objects that are open. Everything that JSON does not allow makes the
reading fail.
-/

namespace PdfDisplay.Json

/-! ## Tokens -/

/-- A JSON token. -/
inductive Token where
  /-- An opening bracket. -/
  | arrayStart
  /-- A closing bracket. -/
  | arrayEnd
  /-- An opening brace. -/
  | objectStart
  /-- A closing brace. -/
  | objectEnd
  /-- A colon. -/
  | colon
  /-- A comma. -/
  | comma
  /-- A string. -/
  | string (text : String)
  /-- Any other scalar. -/
  | scalar (value : Json)

/-- A number with its digits before and behind the point and its exponent. -/
def realOf (negative : Bool) (whole fraction : List Char) (exponent : Int) : Float :=
  let size := Digits.toFloat (Digits.ofChars (whole ++ fraction)) (exponent - fraction.length)
  if negative then -size else size

/-- A number as JSON writes it: no sign but a minus, no needless zero in front, digits on
both sides of a point. Whole numbers of up to 64 bits are integers; minus zero is not. -/
def number? (text : List Char) : Option Json :=
  let negative := text.head? = some '-'
  let text := if negative then text.drop 1 else text
  let whole := text.takeWhile Char.isDigit
  let rest := text.dropWhile Char.isDigit
  if whole.isEmpty || (whole.head? = some '0' && 1 < whole.length) then none
  else
    let (pointed, fraction, rest) :=
      match rest with
      | '.' :: rest => (true, rest.takeWhile Char.isDigit, rest.dropWhile Char.isDigit)
      | rest => (false, [], rest)
    if pointed && fraction.isEmpty then none
    else
      match rest with
      | [] =>
        let size := Digits.value (Digits.ofChars whole)
        let value : Int := if negative then -(size : Int) else size
        let fits := -0x8000000000000000 ≤ value ∧ value < 0x10000000000000000
        if pointed || (negative && size = 0) || !decide fits then
          some (.real (realOf negative whole fraction 0))
        else some (.integer value)
      | e :: rest =>
        if e = 'e' || e = 'E' then
          let digits := if rest.head? = some '-' || rest.head? = some '+' then rest.drop 1 else rest
          if digits.isEmpty || !digits.all Char.isDigit then none
          else
            let size : Int := Digits.value (Digits.ofChars digits)
            let exponent := if rest.head? = some '-' then -size else size
            some (.real (realOf negative whole fraction exponent))
        else none

/-- A word outside strings: a constant or a number. -/
def scalar? (word : List Char) : Option Json :=
  if word = "null".toList then some .null
  else if word = "true".toList then some (.boolean true)
  else if word = "false".toList then some (.boolean false)
  else number? word

/-- Where the token reader is. Words, code units and tokens come latest first. -/
inductive Mode where
  /-- Between tokens or in a word outside strings. -/
  | outside (word : List Char)
  /-- In a string. -/
  | inside (units : List Nat)
  /-- In a string, behind a backslash. -/
  | escape (units : List Nat)
  /-- In a string, behind some of the four digits of a code unit. -/
  | code (units : List Nat) (value : Nat) (more : Nat)

/-- The tokens with the word that has ended, if there is one. -/
def endWord (tokens : List Token) : List Char → Option (List Token)
  | [] => some tokens
  | word => (scalar? word.reverse).map fun value => .scalar value :: tokens

/-- The token of a punctuation character. -/
def punctuation? (c : Char) : Option Token :=
  if c = '[' then some .arrayStart
  else if c = ']' then some .arrayEnd
  else if c = '\x7b' then some .objectStart
  else if c = '\x7d' then some .objectEnd
  else if c = ':' then some .colon
  else if c = ',' then some .comma
  else none

/-- The code unit that a letter behind a backslash stands for. -/
def escapeUnit? (c : Char) : Option Nat :=
  if c = 'n' then some 10
  else if c = 'r' then some 13
  else if c = 't' then some 9
  else if c = 'b' then some 8
  else if c = 'f' then some 12
  else if c = '"' ∨ c = '\\' ∨ c = '/' then some c.toNat
  else none

/-- What one character does to the mode and the tokens. -/
def next (mode : Mode) (tokens : List Token) (c : Char) : Option (Mode × List Token) :=
  match mode with
  | .outside word =>
    if c = ' ' ∨ c = '\n' ∨ c = '\t' ∨ c = '\r' then
      (endWord tokens word).map fun tokens => (.outside [], tokens)
    else if c = '"' then (endWord tokens word).map fun tokens => (.inside [], tokens)
    else
      match punctuation? c with
      | some token => (endWord tokens word).map fun tokens => (.outside [], token :: tokens)
      | none => some (.outside (c :: word), tokens)
  | .inside units =>
    if c = '"' then
      some (.outside [], .string (String.ofList (Utf16.decode units.reverse)) :: tokens)
    else if c = '\\' then some (.escape units, tokens)
    else if c.toNat < 32 then none
    else some (.inside (c.toNat :: units), tokens)
  | .escape units =>
    if c = 'u' then some (.code units 0 3, tokens)
    else (escapeUnit? c).map fun unit => (.inside (unit :: units), tokens)
  | .code units value more =>
    (Hex.digit? c).map fun digit =>
      let value := value * 16 + digit
      match more with
      | 0 => (.inside (value :: units), tokens)
      | more + 1 => (.code units value more, tokens)

/-- The tokens of a text. -/
def tokens? (mode : Mode) (tokens : List Token) : List Char → Option (List Token)
  | [] =>
    match mode with
    | .outside word => (endWord tokens word).map List.reverse
    | _ => none
  | c :: rest =>
    match next mode tokens c with
    | some (mode, tokens) => tokens? mode tokens rest
    | none => none

/-! ## Values -/

/-- What may come next inside an open array or object. -/
inductive Awaited where
  /-- The first item or member, or the end. -/
  | first
  /-- An item or member. -/
  | item
  /-- A colon behind a key. -/
  | colon (key : String)
  /-- The value of a member. -/
  | value (key : String)
  /-- A comma or the end. -/
  | separator

/-- An array or object whose end has not been read; its parts come latest first. -/
inductive Frame where
  /-- An array. -/
  | array (items : List Json)
  /-- An object. -/
  | object (members : List (String × Json))

/-- What has been built: the open arrays and objects with what each awaits, or a complete
value. -/
inductive Building where
  /-- Some are open, the innermost first. -/
  | within (frames : List (Frame × Awaited))
  /-- The value is complete. -/
  | complete (value : Json)

/-- Hands a value to the innermost open array or object. -/
def place (value : Json) : List (Frame × Awaited) → Option Building
  | [] => some (.complete value)
  | (.array items, .first) :: outer | (.array items, .item) :: outer =>
    some (.within ((.array (value :: items), .separator) :: outer))
  | (.object members, .value key) :: outer =>
    some (.within ((.object ((key, value) :: members), .separator) :: outer))
  | _ => none

/-- What one token does. -/
def build (building : Building) (token : Token) : Option Building :=
  match building with
  | .complete _ => none
  | .within frames =>
    match token, frames with
    | .scalar value, frames => place value frames
    | .string key, (.object members, .first) :: outer
    | .string key, (.object members, .item) :: outer =>
      some (.within ((.object members, .colon key) :: outer))
    | .string text, frames => place (.string text) frames
    | .colon, (.object members, .colon key) :: outer =>
      some (.within ((.object members, .value key) :: outer))
    | .comma, (frame, .separator) :: outer => some (.within ((frame, .item) :: outer))
    | .arrayStart, frames =>
      (place .null frames).map fun _ => .within ((.array [], .first) :: frames)
    | .objectStart, frames =>
      (place .null frames).map fun _ => .within ((.object [], .first) :: frames)
    | .arrayEnd, (.array items, .first) :: outer | .arrayEnd, (.array items, .separator) :: outer =>
      place (.array items.reverse) outer
    | .objectEnd, (.object members, .first) :: outer
    | .objectEnd, (.object members, .separator) :: outer => place (.object members.reverse) outer
    | _, _ => none

/-- Reads a text that holds one value. -/
def parse? (text : String) : Option Json := do
  let tokens ← tokens? (.outside []) [] text.toList
  match ← tokens.foldlM build (.within []) with
  | .complete value => some value
  | .within _ => none

end PdfDisplay.Json
