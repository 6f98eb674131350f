import PdfDisplay.Document.Value
import PdfDisplay.Filter.Ascii85
import PdfDisplay.Flate.Salvage
import PdfDisplay.Store.Basic

/-!
# Documents

A document is a table of values and a trailer, from which everything else is found by
reference. A value may itself be a reference; `Document.get` follows references to the value
at their end, as far as a limit admits.

`Document.store` is the document as an object store: the text of an object is the text of
its value.
-/

namespace PdfDisplay

/-- A document. -/
structure Document where
  /-- The values by their references. -/
  values : Std.HashMap ObjectRef Document.Value
  /-- Where to begin. -/
  trailer : List (Bytes × Document.Value)

namespace Document

/-- Why a reference does not lead to the value that is asked for. -/
inductive AccessError where
  /-- There is no such value. -/
  | notFound (target : ObjectRef)
  /-- References lead on further than they are followed. -/
  | tooManySteps
  /-- The value is of another kind. -/
  | wrongKind (expected found : String)
  deriving DecidableEq, Repr

/-- The wording of the reason. -/
def AccessError.message : AccessError → String
  | notFound target =>
    "object ID " ++ toString target.number ++ " " ++ toString target.generation ++ " not found"
  | tooManySteps => "dereferencing object reached limit, may indicate a reference cycle"
  | wrongKind expected found =>
    "object has wrong type; expected type " ++ expected ++ " but found type " ++ found

/-- The number of values. -/
def size (d : Document) : Nat := d.values.size

/-- How many references in a row are followed. -/
def stepLimit : Nat := 128

/-- The value at the end of references. -/
def follow (d : Document) : (steps : Nat) → Value → Except AccessError Value
  | steps, .reference target =>
    match d.values[target]?, steps with
    | none, _ => .error (.notFound target)
    | some _, 0 => .error .tooManySteps
    | some value, steps + 1 => follow d steps value
  | _, value => .ok value

/-- The value that a reference leads to. -/
def get (d : Document) (target : ObjectRef) : Except AccessError Value :=
  match d.values[target]? with
  | some value => d.follow stepLimit value
  | none => .error (.notFound target)

/-- The entries of the dictionary that a reference leads to. -/
def getDictionary (d : Document) (target : ObjectRef) :
    Except AccessError (List (Bytes × Value)) := do
  match ← d.get target with
  | .dictionary entries => return entries
  | value => throw (.wrongKind "Dictionary" value.kind)

/-- The value that a value leads to; a reference that leads nowhere is left as it is. -/
def resolve (d : Document) : Value → Value
  | .reference target => (d.get target).toOption.getD (.reference target)
  | value => value

/-! ## Data of streams -/

/-- Why data cannot be decoded. -/
inductive DecodingError where
  /-- The filters are not given as `expected`. -/
  | filterKind (expected found : String)
  /-- A filter is not known. -/
  | unknownFilter
  /-- The data are no base-85 text. -/
  | ascii85 (error : Ascii85.Error)
  deriving DecidableEq, Repr

/-- The wording of the reason. -/
def DecodingError.message : DecodingError → String
  | filterKind expected found => (AccessError.wrongKind expected found).message
  | unknownFilter =>
    "missing feature of lopdf: decompression algorithms; please open an issue at " ++
      "https://github.com/J-F-Liu/lopdf/ to let the developers know of your usecase"
  | ascii85 error => "couldn't decompress stream decoding ASCII85 failed: " ++ error.message

/-- The names of the filters that a value declares. -/
def filterNames : Value → Except DecodingError (List Bytes)
  | .name bytes => .ok [bytes]
  | .array items => items.mapM fun item =>
    match item.name? with
    | some bytes => .ok bytes
    | none => .error (.filterKind "Name" item.kind)
  | value => .error (.filterKind "Name or Array" value.kind)

/-- Removes one filter from data. Of compressed data that are damaged, what can be had is
taken. -/
def removeFilter (name data : Bytes) : Except DecodingError Bytes :=
  match Utf8.decode name with
  | "FlateDecode" => .ok (Flate.salvage data)
  | "ASCII85Decode" => (Ascii85.decode data).mapError .ascii85
  | _ => .error .unknownFilter

/-- Removes the filters that a stream declares. A list of no filters leaves no data. -/
def decodeData (entries : List (Bytes × Value)) (data : Bytes) : Except DecodingError Bytes :=
  match entryValue? "Filter" entries with
  | none => .ok data
  | some value => do
    match ← filterNames value with
    | [] => return []
    | filters => filters.foldlM (fun data name => removeFilter name data) data

/-! ## The store -/

/-- The value that a request asks for. -/
def find (d : Document) (target : ObjectRef) : Except StoreError Value :=
  match d.get target with
  | .ok value => .ok value
  | .error _ => .error (.missing target)

/-- The text of an object. -/
def text (d : Document) (target : ObjectRef) : Except StoreError String := do
  return (← d.find target).text

/-- The entries and the data of a stream. -/
def stream (d : Document) (target : ObjectRef) :
    Except StoreError (List (Bytes × Value) × Bytes) := do
  match ← d.find target with
  | .stream entries data => return (entries, data)
  | _ => throw (.notAStream target)

/-- The data of a stream as they are. -/
def raw (d : Document) (target : ObjectRef) : Except StoreError Bytes := do
  return (← d.stream target).2

/-- The data of a stream, filters removed. -/
def decoded (d : Document) (target : ObjectRef) : Except StoreError Bytes := do
  let (entries, data) ← d.stream target
  match decodeData entries data with
  | .ok bytes => return bytes
  | .error e => throw (.undecodable target e.message)

/-- The document as a store. -/
def store (d : Document) : ObjectStore Id where
  text target := d.text target
  decoded target := d.decoded target
  raw target := d.raw target

end Document

end PdfDisplay
