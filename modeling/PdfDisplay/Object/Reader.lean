import PdfDisplay.Object.Basic
import PdfDisplay.Syntax.Lexeme

/-!
# Reading objects

`Object.parse?` reads the first object of a text and `Dictionary.parse?` the first
dictionary. Reading is permissive: what cannot begin an object is passed over, a container
that does not end holds what was read, and a closing bracket of either kind ends the
innermost container. Containers beyond a depth read as null.

The text is first split into lexemes, and triples `N G R` are joined into references. What
remains is one walk along the lexemes with the stack of the containers that are open.
-/

namespace PdfDisplay

/-- A lexeme of an object text, with references recognised. -/
inductive Token where
  /-- A reference; nothing if its numbers are out of range. -/
  | reference (target? : Option ObjectRef)
  /-- Any other lexeme. -/
  | lexeme (l : Lexeme)
  deriving DecidableEq, Repr

namespace Token

/-- The lexemes of a text up to its end or an unterminated string, behind those read,
latest first. -/
def lexemesOnto (read : List Lexeme) (text : Bytes) : List Lexeme :=
  match h : Lexeme.scan text with
  | .lexeme l rest =>
    have := Lexeme.length_lt_of_scan h
    lexemesOnto (l :: read) rest
  | .done => read.reverse
  | .unterminated => read.reverse
  termination_by text.length

/-- The lexemes of a text up to its end or an unterminated string. -/
def lexemes (text : Bytes) : List Lexeme := lexemesOnto [] text

/-- The reference that two numbers make, if they are in range. -/
def target? (number generation : Int) : Option ObjectRef :=
  if 0 ≤ number ∧ number < 0x100000000 ∧ 0 ≤ generation ∧ generation < 0x10000 then
    some ⟨number.toNat, generation.toNat⟩
  else none

/-- Joins each `N G R` into a reference, from left to right; the tokens so far come latest
first. -/
def joinOnto (read : List Token) : List Lexeme → List Token
  | .integer number :: .integer generation :: .keyword word :: rest =>
    if word = "R" then joinOnto (reference (target? number generation) :: read) rest
    else joinOnto (lexeme (.integer number) :: read) (.integer generation :: .keyword word :: rest)
  | l :: rest => joinOnto (lexeme l :: read) rest
  | [] => read.reverse

/-- The tokens of a sequence of lexemes. -/
def join (lexemes : List Lexeme) : List Token := joinOnto [] lexemes

end Token

/-! ## Open containers -/

/-- A container of an object text whose end has not been read. -/
inductive OpenObject where
  /-- An array with the items read, latest first. -/
  | array (items : List Object)
  /-- A dictionary with the entries read and the key that a value is awaited for. -/
  | dictionary (entries : Dictionary) (key? : Option String)
  deriving Inhabited

namespace OpenObject

/-- How many containers may be open where a container begins. -/
def maxOpen : Nat := 128

/-- The container with what it holds so far. -/
def value : OpenObject → Object
  | array items => .array items.reverse
  | dictionary entries _ => .dictionary entries.entries

/-- The container with a further value. -/
def put (v : Object) : OpenObject → OpenObject
  | array items => array (v :: items)
  | dictionary entries (some key) => dictionary (entries.insert key v) none
  | dictionary entries none => dictionary entries none

/-- The container without the key that a value was awaited for. -/
def drop : OpenObject → OpenObject
  | array items => array items
  | dictionary entries _ => dictionary entries none

/-- What one token does: it opens, changes or closes containers, or completes the
outermost value. -/
inductive Step where
  /-- The containers that are open now. -/
  | opened (stack : List OpenObject)
  /-- The value that was to be read. -/
  | done (value : Object)

/-- Hands a value to the innermost container. -/
def putIn (v : Object) : List OpenObject → Step
  | [] => .done v
  | inner :: outer => .opened (inner.put v :: outer)

/-- Passes over something that is no value. -/
def dropIn : List OpenObject → Step
  | [] => .opened []
  | inner :: outer => .opened (inner.drop :: outer)

/-- A token where a value may begin. -/
def begin (stack : List OpenObject) : Token → Step
  | .reference (some target) => putIn (.reference target) stack
  | .reference none => putIn .null stack
  | .lexeme (.integer value) => putIn (.integer value) stack
  | .lexeme (.real value) => putIn (.real value) stack
  | .lexeme (.name text) => putIn (.name text) stack
  | .lexeme (.literalString bytes) => putIn (.string bytes) stack
  | .lexeme (.hexString bytes) => putIn (.string bytes) stack
  | .lexeme .arrayStart =>
    if stack.length < maxOpen then .opened (array [] :: stack) else putIn .null stack
  | .lexeme .dictionaryStart =>
    if stack.length < maxOpen then .opened (dictionary ∅ none :: stack) else putIn .null stack
  | .lexeme (.keyword "true") => putIn (.boolean true) stack
  | .lexeme (.keyword "false") => putIn (.boolean false) stack
  | .lexeme (.keyword "null") => putIn .null stack
  | .lexeme _ => dropIn stack

/-- What the next token does to the open containers. -/
def feed (stack : List OpenObject) (token : Token) : Step :=
  match stack, token with
  | array items :: outer, .lexeme .arrayEnd => putIn (array items).value outer
  | array items :: outer, .lexeme .dictionaryEnd => putIn (array items).value outer
  | dictionary entries key? :: outer, .lexeme .dictionaryEnd =>
    putIn (dictionary entries key?).value outer
  | dictionary entries none :: outer, .lexeme .arrayEnd =>
    putIn (dictionary entries none).value outer
  | dictionary entries none :: outer, .lexeme (.name key) =>
    .opened (dictionary entries (some key) :: outer)
  | dictionary entries none :: outer, _ => .opened (dictionary entries none :: outer)
  | stack, token => begin stack token

/-- The outermost value when the text ends: every open container ends with it. -/
def close : List OpenObject → Option Object
  | [] => none
  | inner :: outer => some (outer.foldl (fun v o => (o.put v).value) inner.value)

/-- Reads tokens until the outermost value is complete or the text ends. -/
def run (stack : List OpenObject) : List Token → Option Object
  | [] => close stack
  | token :: rest =>
    match feed stack token with
    | .opened stack' => run stack' rest
    | .done value => some value

end OpenObject

/-! ## Reading -/

/-- The lexemes without the header `N G obj` of an object. -/
def Token.withoutHeader : List Lexeme → List Lexeme
  | .integer number :: .integer generation :: .keyword word :: rest =>
    if word = "obj" then rest
    else .integer number :: .integer generation :: .keyword word :: rest
  | lexemes => lexemes

/-- The first object of a text. -/
def Object.parse? (text : Bytes) : Option Object :=
  OpenObject.run [] (Token.join (Token.withoutHeader (Token.lexemes text)))

/-- The first dictionary of a text. -/
def Dictionary.parse? (text : Bytes) : Option Dictionary :=
  match (Token.lexemes text).dropWhile (· != .dictionaryStart) with
  | [] => none
  | _ :: rest =>
    (OpenObject.run [.dictionary ∅ none] (Token.join rest)).bind Object.dictionary?

end PdfDisplay
