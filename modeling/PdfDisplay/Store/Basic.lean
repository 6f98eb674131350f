import PdfDisplay.Filter
import PdfDisplay.Flate.Inflate
import PdfDisplay.Object.Reader
import PdfDisplay.Text.Quoted
import PdfDisplay.Warning
import Std.Data.HashMap

/-!
# Object stores

Rendering never reads a document itself: it asks an object store for the text of an object,
for the data of a stream with its filters removed, and for the data as they are. A store
answers in a monad of its own, so that one that keeps a record of its requests is a store
too.

`ObjectTable` is the store that holds its objects in memory. It decodes data with no filter
and with a single `FlateDecode`.
-/

namespace PdfDisplay

/-- Why a store cannot answer. -/
inductive StoreError where
  /-- There is no such object. -/
  | missing (target : ObjectRef)
  /-- The object has no data. -/
  | notAStream (target : ObjectRef)
  /-- The data cannot be decoded. -/
  | undecodable (target : ObjectRef) (reason : String)
  /-- The document behind the store fails. -/
  | backend (reason : String)
  deriving DecidableEq, Repr

namespace StoreError

/-- The wording of the reason. -/
def message : StoreError → String
  | missing target => "object " ++ target.text ++ " not found"
  | notAStream target => "object " ++ target.text ++ " is not a stream"
  | undecodable target reason => "failed to decode stream " ++ target.text ++ ": " ++ reason
  | backend reason => "backend error: " ++ reason

/-- Whether data are there but cannot be decoded. -/
def isCorruptStream : StoreError → Bool
  | undecodable _ _ => true
  | _ => false

/-- The category of the warning about a part that is absent for this reason. -/
def warningCode : StoreError → WarningCode
  | undecodable _ _ => .corruptStream
  | notAStream _ => .malformedDictionary
  | missing _ | backend _ => .missingReference

end StoreError

/-- A source of objects, which answers in the monad `m`. -/
structure ObjectStore (m : Type → Type) where
  /-- The text of an object; of a stream, the text of its dictionary. -/
  text : ObjectRef → m (Except StoreError String)
  /-- The data of a stream, filters removed. -/
  decoded : ObjectRef → m (Except StoreError Bytes)
  /-- The data of a stream as they are. -/
  raw : ObjectRef → m (Except StoreError Bytes)

/-! ## Objects in memory -/

/-- An object in memory. -/
structure StoredObject where
  /-- The text of the object, or of the dictionary of a stream. -/
  text : String
  /-- The data of a stream as they are. -/
  data? : Option Bytes
  deriving DecidableEq, Repr, Inhabited

namespace StoredObject

/-- The dictionary that the text begins with; without one it is empty. -/
def dictionary (stored : StoredObject) : Dictionary :=
  (Dictionary.parse? (Utf8.encode stored.text)).getD ∅

/-- Whether a dictionary of decoding parameters asks for a predictor. -/
def predicts (parameters : Dictionary) : Bool :=
  match parameters.integer? "Predictor" with
  | some predictor => 1 < predictor
  | none => false

/-- Removes the filters that a dictionary declares from data. -/
def decodeData (target : ObjectRef) (d : Dictionary) (data : Bytes) : Except StoreError Bytes :=
  match Filter.names (d.get? "Filter") with
  | [] => .ok data
  | ["FlateDecode"] =>
    if ((d.dictionary? "DecodeParms").map predicts).getD false then
      .error (.undecodable target "predictors are not supported")
    else
      match Flate.inflate data with
      | .ok bytes => .ok bytes
      | .error e => .error (.undecodable target e.message)
  | filters =>
    .error (.undecodable target ("unsupported filter chain " ++ Quoted.encodeList filters))

end StoredObject

/-- Objects in memory. -/
structure ObjectTable where
  /-- The objects by their references. -/
  objects : Std.HashMap ObjectRef StoredObject

namespace ObjectTable

/-- No objects. -/
def empty : ObjectTable := ⟨∅⟩

/-- Adds an object, in the place of one with the same reference. -/
def insert (table : ObjectTable) (target : ObjectRef) (stored : StoredObject) : ObjectTable :=
  ⟨table.objects.insert target stored⟩

/-- The number of objects. -/
def size (table : ObjectTable) : Nat := table.objects.size

/-- The object that a reference names. -/
def find (table : ObjectTable) (target : ObjectRef) : Except StoreError StoredObject :=
  match table.objects[target]? with
  | some stored => .ok stored
  | none => .error (.missing target)

/-- The text of an object. -/
def text (table : ObjectTable) (target : ObjectRef) : Except StoreError String := do
  return (← table.find target).text

/-- The data of a stream as they are. -/
def raw (table : ObjectTable) (target : ObjectRef) : Except StoreError Bytes := do
  match (← table.find target).data? with
  | some data => return data
  | none => throw (.notAStream target)

/-- The data of a stream, filters removed. -/
def decoded (table : ObjectTable) (target : ObjectRef) : Except StoreError Bytes := do
  let stored ← table.find target
  match stored.data? with
  | some data => StoredObject.decodeData target stored.dictionary data
  | none => throw (.notAStream target)

/-- The table as a store. -/
def store (table : ObjectTable) : ObjectStore Id where
  text target := table.text target
  decoded target := table.decoded target
  raw target := table.raw target

end ObjectTable

end PdfDisplay
