import PdfDisplay.Syntax.Lexeme

/-!
# Operands

The values written in front of an operator. Arrays and dictionaries nest, and are read with
an explicit stack of the containers that are open: `Container.feed` says what one lexeme
does to that stack, and `Operand.finish` feeds it until the outermost container closes. A
limit on the height of the stack bounds how deep operands nest.
-/

namespace PdfDisplay

/-- A value in front of an operator. -/
inductive Operand where
  /-- A whole number. -/
  | integer (value : Int)
  /-- A number with a fraction, or beyond 64 bits. -/
  | real (value : Float)
  /-- A name. -/
  | name (text : String)
  /-- A string written in parentheses. -/
  | literalString (bytes : Bytes)
  /-- A string written in angle brackets. -/
  | hexString (bytes : Bytes)
  /-- A sequence of values. -/
  | array (items : List Operand)
  /-- A truth value. -/
  | boolean (value : Bool)
  /-- The null value. -/
  | null
  /-- Keys and values in the order written; a key may occur twice. -/
  | dictionary (entries : List (String × Operand))
  deriving Inhabited

namespace Operand

/-- The value of a number. -/
def number? : Operand → Option Float
  | integer value => some (Float.ofInt value)
  | real value => some value
  | _ => none

/-- The text of a name. -/
def name? : Operand → Option String
  | name text => some text
  | _ => none

/-- The value that a word stands for. -/
def constant? (word : String) : Option Operand :=
  if word = "true" then some (.boolean true)
  else if word = "false" then some (.boolean false)
  else if word = "null" then some .null
  else none

/-- The bytes of a string of either kind. -/
def bytes? : Operand → Option Bytes
  | literalString bytes => some bytes
  | hexString bytes => some bytes
  | _ => none

end Operand

/-! ## What can stop a reading -/

/-- Why page contents cannot be read to their end. -/
inductive ContentError where
  /-- A literal string has no closing parenthesis. -/
  | unterminatedString
  /-- An array has no closing bracket. -/
  | unterminatedArray
  /-- A dictionary has no closing brackets. -/
  | unterminatedDictionary
  /-- Containers nest deeper than the limit. -/
  | nestingTooDeep
  /-- An inline image ends before its data begin. -/
  | imageWithoutData
  /-- An inline image ends behind a key. -/
  | imageKeyWithoutValue
  /-- The data of an inline image do not end. -/
  | imageWithoutEnd
  deriving DecidableEq, Repr

/-- The wording of the reason. -/
def ContentError.message : ContentError → String
  | unterminatedString => "unterminated literal string"
  | unterminatedArray => "unterminated array"
  | unterminatedDictionary => "unterminated dictionary"
  | nestingTooDeep => "operand nesting too deep"
  | imageWithoutData => "unterminated inline image (missing ID)"
  | imageKeyWithoutValue => "unterminated inline image dictionary"
  | imageWithoutEnd => "unterminated inline image (missing EI)"

/-! ## Open containers -/

/-- A container whose end has not been read. -/
inductive Container where
  /-- An array with the items read, latest first. -/
  | array (items : List Operand)
  /-- A dictionary with the entries read, latest first, and the key that a value is
  awaited for. -/
  | dictionary (entries : List (String × Operand)) (key? : Option String)
  deriving Inhabited

namespace Container

/-- How many containers may be open where a value begins. -/
def maxOpen : Nat := 256

/-- Why a reading that ends inside these containers fails. -/
def cutOff : List Container → ContentError
  | dictionary _ _ :: _ => .unterminatedDictionary
  | _ => .unterminatedArray

/-- Hands a complete value to the innermost open container. Outside all containers it is
the value that was to be read. -/
def put (value : Operand) : List Container → Operand ⊕ List Container
  | [] => .inl value
  | array items :: outer => .inr (array (value :: items) :: outer)
  | dictionary entries (some key) :: outer =>
    .inr (dictionary ((key, value) :: entries) none :: outer)
  | dictionary entries none :: outer => .inr (dictionary entries none :: outer)

/-- Begins a value with a lexeme. A word other than the three constants is kept as a name,
and a closing bracket in place of a value reads as null. -/
def begin (stack : List Container) (l : Lexeme) :
    Except ContentError (Operand ⊕ List Container) :=
  if maxOpen < stack.length then .error .nestingTooDeep
  else
    .ok <| match l with
      | .integer value => put (.integer value) stack
      | .real value => put (.real value) stack
      | .name text => put (.name text) stack
      | .literalString bytes => put (.literalString bytes) stack
      | .hexString bytes => put (.hexString bytes) stack
      | .arrayStart => .inr (array [] :: stack)
      | .dictionaryStart => .inr (dictionary [] none :: stack)
      | .keyword text => put ((Operand.constant? text).getD (.name text)) stack
      | .arrayEnd => put .null stack
      | .dictionaryEnd => put .null stack

/-- What the next lexeme does to the open containers: a value of an array or of a key, a
key, or the end of the innermost container. Lexemes that fit nowhere are passed over. -/
def feed (stack : List Container) (l : Lexeme) :
    Except ContentError (Operand ⊕ List Container) :=
  match stack, l with
  | array items :: outer, .arrayEnd => .ok (put (.array items.reverse) outer)
  | array items :: outer, .dictionaryEnd => .ok (.inr (array items :: outer))
  | dictionary entries _ :: outer, .dictionaryEnd =>
    .ok (put (.dictionary entries.reverse) outer)
  | dictionary entries none :: outer, .name key =>
    .ok (.inr (dictionary entries (some key) :: outer))
  | dictionary entries none :: outer, _ => .ok (.inr (dictionary entries none :: outer))
  | stack, l => begin stack l

end Container

/-! ## Reading an operand -/

namespace Operand

/-- Reads on until the outermost open container closes. -/
def finish (stack : List Container) (text : Bytes) : Except ContentError (Operand × Bytes) :=
  match h : Lexeme.scan text with
  | .done => .error (Container.cutOff stack)
  | .unterminated => .error .unterminatedString
  | .lexeme l rest =>
    have := Lexeme.length_lt_of_scan h
    match Container.feed stack l with
    | .error e => .error e
    | .ok (.inl value) => .ok (value, rest)
    | .ok (.inr stack') => finish stack' rest
  termination_by text.length

/-- Reads the operand that begins with the lexeme `l` and goes on with `text`. -/
def read (l : Lexeme) (text : Bytes) : Except ContentError (Operand × Bytes) :=
  match Container.begin [] l with
  | .error e => .error e
  | .ok (.inl value) => .ok (value, text)
  | .ok (.inr stack) => finish stack text

theorem length_lt_of_finish {stack : List Container} {text : Bytes} {value : Operand}
    {rest : Bytes} (h : finish stack text = .ok (value, rest)) : rest.length < text.length := by
  fun_induction finish stack text with
  | case1 | case2 | case3 => cases h
  | case4 stack text l rest' hscan _ value' hfeed =>
    simp only [Except.ok.injEq, Prod.mk.injEq] at h
    exact h.2 ▸ Lexeme.length_lt_of_scan hscan
  | case5 stack text l rest' hscan _ stack' hfeed ih =>
    exact Nat.lt_trans (ih h) (Lexeme.length_lt_of_scan hscan)

theorem length_le_of_read {l : Lexeme} {text : Bytes} {value : Operand} {rest : Bytes}
    (h : read l text = .ok (value, rest)) : rest.length ≤ text.length := by
  unfold read at h
  split at h
  · cases h
  · simp only [Except.ok.injEq, Prod.mk.injEq] at h
    exact h.2 ▸ Nat.le_refl _
  · exact Nat.le_of_lt (length_lt_of_finish h)

end Operand

end PdfDisplay
