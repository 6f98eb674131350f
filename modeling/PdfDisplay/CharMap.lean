import PdfDisplay.Failure
import PdfDisplay.Syntax.Lexeme
import PdfDisplay.Text.Utf16
import Std.Data.HashMap

/-!
# Character maps

A character map gives the text of character codes. It is written as sections of entries:
code spaces, which say how many bytes a code has; single codes with their text; and ranges
of codes, with one text that is advanced along the range or with a list of texts.

`CharMap.readMappings` turns a map into the list of its mappings, and `CharMap.ofMappings`
tabulates them, later ones over earlier ones. A section that is broken anywhere makes the
whole map fail, so that a map is never read in part.
-/

namespace PdfDisplay

/-- Why a character map is refused. -/
inductive CharMapError where
  /-- A literal string has no closing parenthesis. -/
  | unterminatedString
  /-- A section has no end. -/
  | missingEnd (word : String)
  /-- The code spaces do not come in pairs, or there are none. -/
  | codeSpaceShape
  /-- A bound of a code space is no hexadecimal string. -/
  | codeSpaceBound
  /-- The bounds of a code space have different lengths, or none, or more than four bytes. -/
  | codeSpaceLength
  /-- A code has a number of bytes outside one to four. -/
  | codeLength (bytes : Nat)
  /-- A text has no bytes. -/
  | emptyText
  /-- A text has an odd number of bytes. -/
  | oddText (bytes : Nat)
  /-- A single code has no text. -/
  | charWithoutText
  /-- A single code is no hexadecimal string. -/
  | charSource
  /-- The text of a single code is neither string nor name. -/
  | charText
  /-- A bound of a range is no hexadecimal string. -/
  | rangeBound
  /-- The bounds of a range are out of order or too far apart. -/
  | rangeSpan
  /-- A list of texts does not end or holds something else. -/
  | rangeList
  /-- A range has no text. -/
  | rangeText
  deriving DecidableEq, Repr

/-- The failure as it is reported. -/
def CharMapError.failure : CharMapError → Failure
  | unterminatedString => .failed .interpreter "unterminated literal string"
  | missingEnd word => .failed .parse ("missing " ++ word)
  | codeSpaceShape => .failed .parse "malformed codespace range"
  | codeSpaceBound => .failed .parse "codespace bound is not a hex string"
  | codeSpaceLength => .failed .parse "codespace bounds differ in length"
  | codeLength bytes => .failed .parse ("character code of " ++ toString bytes ++ " bytes")
  | emptyText => .failed .parse "empty destination"
  | oddText bytes => .failed .parse ("destination of odd length " ++ toString bytes)
  | charWithoutText => .failed .parse "bfchar entry without destination"
  | charSource => .failed .parse "bfchar source is not a hex string"
  | charText => .failed .parse "bfchar destination is not a string"
  | rangeBound => .failed .parse "malformed bfrange: bounds are not hex strings"
  | rangeSpan => .failed .parse "malformed bfrange: invalid code span"
  | rangeList => .failed .parse "malformed bfrange: unterminated destination array"
  | rangeText => .failed .parse "malformed bfrange: missing destination"

/-- One mapping of a character map. -/
inductive Mapping where
  /-- A single code. -/
  | char (code : Nat) (text : List Char)
  /-- The codes from `first` to `last`: the text with its last character advanced by the
  distance from `first`. -/
  | range (first last : Nat) (text : List Char)
  deriving DecidableEq, Repr

namespace Mapping

/-- The greatest code. -/
def maxCode : Nat := 0xFFFFFFFF

/-- A character advanced by some code points; outside the characters it is the replacement
character. -/
def advanceChar (offset : Nat) (c : Char) : Char :=
  if (c.toNat + offset).isValidChar then Char.ofNat (c.toNat + offset) else replacement

/-- A text with its last character advanced. -/
def advance (offset : Nat) : List Char → List Char
  | [] => []
  | [c] => [advanceChar offset c]
  | c :: rest => c :: advance offset rest

/-- The text that a mapping gives a code. -/
def text? (code : Nat) : Mapping → Option (List Char)
  | char c text => if c = code then some text else none
  | range first last text =>
    if first ≤ code ∧ code ≤ last then some (advance (code - first) text) else none

/-- The codes that a mapping gives a text. -/
def codes : Mapping → List Nat
  | char code _ => [code]
  | range first last _ => List.range' first (last + 1 - first)

end Mapping

/-- A character map. -/
structure CharMap where
  /-- How many bytes a code has, if a code space says so. -/
  codeLength? : Option Nat
  /-- The mapping that gives a code its text. -/
  mappings : Std.HashMap Nat Mapping

namespace CharMap

/-! ## Entries -/

/-- The bytes of a hexadecimal string. -/
def hexBytes? : Lexeme → Option Bytes
  | .hexString bytes => some bytes
  | _ => none

/-- The value of a code of one to four bytes. -/
def codeValue (bytes : Bytes) : Except CharMapError Nat :=
  if 1 ≤ bytes.length ∧ bytes.length ≤ 4 then
    .ok (bytes.foldl (fun value b => value * 256 + b.toNat) 0)
  else .error (.codeLength bytes.length)

/-- The text that bytes stand for: UTF-16, or one byte as one code unit. -/
def textOf : Bytes → Except CharMapError (List Char)
  | [] => .error .emptyText
  | [b] => .ok (Utf16.decode [b.toNat])
  | bytes =>
    if bytes.length % 2 = 0 then .ok (Utf16.decode (Utf16.units bytes))
    else .error (.oddText bytes.length)

/-- The greatest code length of pairs of bounds. -/
def codeSpaces (longest : Nat) : List Lexeme → Except CharMapError Nat
  | low :: high :: rest =>
    match hexBytes? low, hexBytes? high with
    | some l, some h =>
      if l.length = 0 ∨ 4 < l.length ∨ l.length ≠ h.length then .error .codeSpaceLength
      else codeSpaces (max longest l.length) rest
    | _, _ => .error .codeSpaceBound
  | _ => .ok longest

/-- The code length that a section of code spaces declares. -/
def codeSpaceSection (body : List Lexeme) : Except CharMapError Nat :=
  if body.isEmpty ∨ body.length % 2 ≠ 0 then .error .codeSpaceShape
  else codeSpaces 0 body

/-- One single code: a name in place of its text maps nothing. -/
def charEntry (source target : Lexeme) : Except CharMapError (Option Mapping) := do
  let some bytes := hexBytes? source | throw .charSource
  let code ← codeValue bytes
  match target with
  | .hexString bytes | .literalString bytes => return some (.char code (← textOf bytes))
  | .name _ => return none
  | _ => throw .charText

/-- Pairs of codes and texts, behind the mappings read, latest first. -/
def charEntries (read : List Mapping) : List Lexeme → Except CharMapError (List Mapping)
  | source :: target :: rest => do
    match ← charEntry source target with
    | some mapping => charEntries (mapping :: read) rest
    | none => charEntries read rest
  | _ => .ok read

/-- The mappings of a section of single codes, behind those read. -/
def charSection (read : List Mapping) (body : List Lexeme) :
    Except CharMapError (List Mapping) :=
  if body.length % 2 ≠ 0 then .error .charWithoutText else charEntries read body

/-- How far apart the bounds of a range may be. -/
def maxSpan : Nat := 0xFFFF

/-- The bounds of a range. -/
def rangeBounds (low high : Lexeme) : Except CharMapError (Nat × Nat) :=
  match hexBytes? low, hexBytes? high with
  | some l, some h => do
    let first ← codeValue l
    let last ← codeValue h
    if last < first ∨ maxSpan < last - first then throw .rangeSpan
    return (first, last)
  | _, _ => .error .rangeBound

mutual

/-- Ranges of codes, behind the mappings read, latest first. -/
def rangeEntries (read : List Mapping) : List Lexeme → Except CharMapError (List Mapping)
  | [] => .ok read
  | low :: high :: .hexString bytes :: rest =>
    match rangeBounds low high with
    | .error e => .error e
    | .ok (first, last) =>
      match textOf bytes with
      | .error e => .error e
      | .ok text => rangeEntries (.range first last text :: read) rest
  | low :: high :: .arrayStart :: rest =>
    match rangeBounds low high with
    | .error e => .error e
    | .ok (first, last) => rangeTexts read first last rest
  | low :: high :: _ =>
    match rangeBounds low high with
    | .error e => .error e
    | .ok _ => .error .rangeText
  | [_] => .error .rangeBound

/-- The texts of a list, for the codes from `code` on; those past the range are passed
over. Codes do not count past the greatest one. -/
def rangeTexts (read : List Mapping) (code last : Nat) :
    List Lexeme → Except CharMapError (List Mapping)
  | .arrayEnd :: rest => rangeEntries read rest
  | .hexString bytes :: rest =>
    if code ≤ last then
      match textOf bytes with
      | .error e => .error e
      | .ok text => rangeTexts (.char code text :: read) (min (code + 1) Mapping.maxCode) last rest
    else rangeTexts read (min (code + 1) Mapping.maxCode) last rest
  | _ => .error .rangeList

end

/-! ## Sections -/

/-- The lexemes up to the word that ends a section, and what follows; `read` holds those
read so far, latest first. -/
def sectionTo (word : String) (read : List Lexeme) (text : Bytes) :
    Except CharMapError (List Lexeme × Bytes) :=
  match h : Lexeme.scan text with
  | .done => .error (.missingEnd word)
  | .unterminated => .error .unterminatedString
  | .lexeme l rest =>
    have := Lexeme.length_lt_of_scan h
    if l = .keyword word then .ok (read.reverse, rest) else sectionTo word (l :: read) rest
  termination_by text.length

theorem length_lt_of_sectionTo {word : String} {read : List Lexeme} {text : Bytes}
    {body : List Lexeme} {rest : Bytes} (h : sectionTo word read text = .ok (body, rest)) :
    rest.length < text.length := by
  fun_induction sectionTo word read text with
  | case1 | case2 => cases h
  | case3 read text rest' _ hlt =>
    simp only [Except.ok.injEq, Prod.mk.injEq] at h
    exact h.2 ▸ hlt
  | case4 read text l rest' _ hlt _ ih => exact Nat.lt_trans (ih h) hlt

/-- What has been read of a map: the greatest declared code length, and the mappings,
latest first. -/
structure Contents where
  /-- The greatest declared code length. -/
  codeLength? : Option Nat
  /-- The mappings, latest first. -/
  mappings : List Mapping

/-- The word that ends the section a word begins. -/
def endOf? (word : String) : Option String :=
  match word with
  | "begincodespacerange" => some "endcodespacerange"
  | "beginbfchar" => some "endbfchar"
  | "beginbfrange" => some "endbfrange"
  | _ => none

/-- Adds the section that ends with the given word. -/
def addSection (contents : Contents) (word : String) (body : List Lexeme) :
    Except CharMapError Contents :=
  if word = "endcodespacerange" then do
    let length ← codeSpaceSection body
    return { contents with codeLength? := some (max (contents.codeLength?.getD 0) length) }
  else if word = "endbfchar" then do
    return { contents with mappings := ← charSection contents.mappings body }
  else do
    return { contents with mappings := ← rangeEntries contents.mappings body }

/-- Reads the sections of a map; everything between them is passed over. -/
def readSections (contents : Contents) (text : Bytes) : Except CharMapError Contents :=
  match h : Lexeme.scan text with
  | .done => .ok contents
  | .unterminated => .error .unterminatedString
  | .lexeme l rest =>
    have := Lexeme.length_lt_of_scan h
    match (match l with | .keyword word => endOf? word | _ => none) with
    | none => readSections contents rest
    | some word =>
      match h' : sectionTo word [] rest with
      | .error e => .error e
      | .ok (body, rest') =>
        have := length_lt_of_sectionTo h'
        match addSection contents word body with
        | .error e => .error e
        | .ok contents' => readSections contents' rest'
  termination_by text.length

/-! ## Tables -/

/-- Enters a mapping under its codes. A text is made when it is looked up, so a long text for
many codes takes no room. -/
def tabulate (table : Std.HashMap Nat Mapping) (mapping : Mapping) : Std.HashMap Nat Mapping :=
  mapping.codes.foldl (fun table code => table.insert code mapping) table

/-- The table of some mappings, later ones over earlier ones. -/
def ofMappings (codeLength? : Option Nat) (mappings : List Mapping) : CharMap :=
  ⟨codeLength?, mappings.foldl tabulate ∅⟩

/-- Reads a character map. -/
def parse (text : Bytes) : Except CharMapError CharMap := do
  let contents ← readSections ⟨none, []⟩ text
  return ofMappings contents.codeLength? contents.mappings.reverse

/-- The text of a code. -/
def lookup? (map : CharMap) (code : Nat) : Option String :=
  (map.mappings[code]?.bind (·.text? code)).map String.ofList

/-- The number of codes that have a text. -/
def size (map : CharMap) : Nat := map.mappings.size

/-- Whether no code has a text. -/
def isEmpty (map : CharMap) : Bool := map.mappings.isEmpty

end CharMap

end PdfDisplay
