import PdfDisplay.Document.Pages
import PdfDisplay.Object.Reader

/-!
# Files

A file holds the values of a document one after another, each behind a header `N G obj`, and
dictionaries that say where to begin. Files also hold tables of positions; they are not
needed here, because the body is read from its beginning to its end, later values over
earlier ones. Values inside object streams are read as well, unless the file has others in
their place.
-/

namespace PdfDisplay

/-! ## Values from objects -/

mutual

/-- The value that an object is. -/
def Document.Value.ofObject : Object → Document.Value
  | .null => .null
  | .boolean value => .boolean value
  | .integer value => .integer value
  | .real value => .real value.toFloat32
  | .name text => .name (Utf8.encode text)
  | .string bytes => .string bytes
  | .array items => .array (Document.Value.ofObjects items)
  | .dictionary entries => .dictionary (Document.Value.ofEntries entries)
  | .reference target => .reference target

/-- The values that objects are. -/
def Document.Value.ofObjects : List Object → List Document.Value
  | [] => []
  | item :: rest => Document.Value.ofObject item :: Document.Value.ofObjects rest

/-- Keys with the values that objects are. -/
def Document.Value.ofEntries : List (String × Object) → List (Bytes × Document.Value)
  | [] => []
  | (key, value) :: rest =>
    (Utf8.encode key, Document.Value.ofObject value) :: Document.Value.ofEntries rest

end

namespace Document.File

/-! ## Data of streams -/

/-- The position of a word in a text, counted from `position` at its beginning. -/
def find? (word : Bytes) (position : Nat) : Bytes → Option Nat
  | [] => none
  | b :: rest =>
    if word.isPrefixOf (b :: rest) then some position else find? word (position + 1) rest

/-- The word behind the data of a stream. -/
def endWord : Bytes := Utf8.encode "endstream"

/-- The number of bytes of the end of a line that a text begins with. -/
def lineEnd : Bytes → Nat
  | 0x0D :: 0x0A :: _ => 2
  | 0x0D :: _ | 0x0A :: _ => 1
  | _ => 0

/-- The number of bytes of the data that a text begins with: as many as are declared, if the
end follows there, or else all before the end. -/
def dataSize (declared? : Option Int) (text : Bytes) : Nat :=
  let toEnd := (find? endWord 0 text).getD text.length
  match declared? with
  | some size =>
    if 0 ≤ size ∧ endWord.isPrefixOf ((text.drop size.toNat).dropWhile Byte.isWhite) then size.toNat
    else toEnd
  | none => toEnd

/-! ## The body -/

/-- What is being read. -/
inductive Opened where
  /-- A value. -/
  | value (target : ObjectRef)
  /-- A dictionary that says where to begin. -/
  | trailer
  deriving DecidableEq, Repr

/-- A part of a file that has been read. -/
inductive Part where
  /-- A value. -/
  | value (target : ObjectRef) (v : Value)
  /-- A dictionary that says where to begin. -/
  | trailer (entries : List (Bytes × Value))

/-- What has been read of a file. -/
structure Reading where
  /-- The parts, latest first. -/
  parts : List Part := []
  /-- What is being read. -/
  open? : Option Opened := none
  /-- The lexemes of it, latest first. -/
  lexemes : List Lexeme := []

namespace Reading

/-- The object whose lexemes have been read. -/
def object? (r : Reading) : Option Object := OpenObject.run [] (Token.join r.lexemes.reverse)

/-- Adds the part that has been read. -/
def close (r : Reading) : Reading :=
  match r.open?, r.object? with
  | some (.value target), some o => ⟨.value target (.ofObject o) :: r.parts, none, []⟩
  | some .trailer, some (.dictionary entries) =>
    ⟨.trailer (Value.ofEntries entries) :: r.parts, none, []⟩
  | _, _ => ⟨r.parts, none, []⟩

/-- Adds a stream whose dictionary has been read. -/
def closeStream (r : Reading) (data : Bytes) : Reading :=
  match r.open?, r.object? with
  | some (.value target), some (.dictionary entries) =>
    ⟨.value target (.stream (Value.ofEntries entries) data) :: r.parts, none, []⟩
  | _, _ => ⟨r.parts, none, []⟩

/-- The number of bytes that the dictionary of a stream declares. -/
def declaredSize? (r : Reading) : Option Int :=
  (r.object?.bind Object.dictionary?).bind (·.integer? "Length")

/-- Reads a lexeme. -/
def push (r : Reading) : Lexeme → Reading
  | .keyword "obj" =>
    match r.lexemes with
    | .integer generation :: .integer number :: _ =>
      { r with open? := (Token.target? number generation).map .value, lexemes := [] }
    | _ => ⟨r.parts, none, []⟩
  | .keyword "trailer" => ⟨r.parts, some .trailer, []⟩
  | .keyword "endobj" | .keyword "startxref" => r.close
  | l => { r with lexemes := l :: r.lexemes }

end Reading

/-- Reads a text to its end. -/
def readFrom (r : Reading) (text : Bytes) : Reading :=
  match h : Lexeme.scan text with
  | .done | .unterminated => r.close
  | .lexeme l rest =>
    have := Lexeme.length_lt_of_scan h
    if l = .keyword "stream" then
      let data := rest.drop (lineEnd rest)
      let size := dataSize r.declaredSize? data
      readFrom (r.closeStream (data.take size)) (data.drop size)
    else readFrom (r.push l) rest
  termination_by text.length
  decreasing_by
    · simp only [List.length_drop]
      omega
    · omega

/-- The parts of a file, in their order. -/
def parts (bytes : Bytes) : List Part := (readFrom {} bytes).parts.reverse

/-! ## Object streams -/

/-- Pairs of numbers. -/
def pairs : List Lexeme → List (Nat × Nat)
  | .integer (.ofNat number) :: .integer (.ofNat position) :: rest =>
    (number, position) :: pairs rest
  | _ => []

/-- A number under a key. -/
def count (key : String) (entries : List (Bytes × Value)) : Nat :=
  match entryValue? key entries with
  | some (.integer (.ofNat n)) => n
  | _ => 0

/-- The values inside a stream, if it is an object stream. -/
def packed : Value → List (ObjectRef × Value)
  | .stream entries data =>
    match (entryValue? "Type" entries).bind Value.name?, decodeData entries data with
    | some type, .ok data =>
      if type = Utf8.encode "ObjStm" then
        let first := count "First" entries
        let index := (pairs (Token.lexemes (data.take first))).take (count "N" entries)
        index.filterMap fun (number, position) =>
          (Object.parse? (data.drop (first + position))).map fun o => (⟨number, 0⟩, .ofObject o)
      else []
    | _, _ => []
  | _ => []

/-! ## Documents -/

/-- The dictionary of a part that says where to begin. -/
def start? : Part → Option (List (Bytes × Value))
  | .trailer entries | .value _ (.stream entries _) =>
    if (entryValue? "Root" entries).isSome then some entries else none
  | _ => none

/-- The table with the values of a part. -/
def withPart (values : Std.HashMap ObjectRef Value) : Part → Std.HashMap ObjectRef Value
  | .value target v => values.insert target v
  | .trailer _ => values

/-- The table with the values inside a stream that are not in it. -/
def withPacked (values : Std.HashMap ObjectRef Value) : Part → Std.HashMap ObjectRef Value
  | .value _ v => (packed v).foldl (fun values (target, v) => values.insertIfNew target v) values
  | .trailer _ => values

/-- The document in a file. -/
def document (bytes : Bytes) : Except Failure Document :=
  if !(Utf8.encode "%PDF-").isPrefixOf bytes then
    malformed "failed to parse PDF: couldn\x27t parse input: invalid file header"
  else
    let parts := parts bytes
    match parts.reverse.findSome? start? with
    | none => malformed "failed to parse PDF: the file has no trailer"
    | some trailer =>
      .ok ⟨parts.reverse.foldl withPacked (parts.foldl withPart ∅), trailer⟩

/-- The document in a file, with its pages. -/
def load (bytes : Bytes) : Except Failure PagedDocument := do
  PagedDocument.ofDocument (← document bytes)

end Document.File

end PdfDisplay
