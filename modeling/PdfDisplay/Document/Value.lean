import PdfDisplay.Entries
import PdfDisplay.Number.Decimal
import PdfDisplay.Object.Basic
import PdfDisplay.Syntax.Byte
import PdfDisplay.Text.Hex

/-!
# Values of a document

A document holds its values as they are stored: names are bytes, numbers with a fraction
have single precision, and a stream is a value with a dictionary and data. `Value.text`
writes a value so that the object reader can read it: whatever a name cannot hold as it is
becomes a number sign with two digits, and strings are written in digits throughout.
-/

namespace PdfDisplay.Document

/-- A value of a document. -/
inductive Value where
  /-- The null value. -/
  | null
  /-- A truth value. -/
  | boolean (value : Bool)
  /-- A whole number. -/
  | integer (value : Int)
  /-- A number with a fraction. -/
  | real (value : Float32)
  /-- A name. -/
  | name (bytes : Bytes)
  /-- A string. -/
  | string (bytes : Bytes)
  /-- A sequence of values. -/
  | array (items : List Value)
  /-- Keys with their values. -/
  | dictionary (entries : List (Bytes × Value))
  /-- A dictionary with data. -/
  | stream (entries : List (Bytes × Value)) (data : Bytes)
  /-- A reference to another value. -/
  | reference (target : ObjectRef)
  deriving Inhabited

/-- The value of a key in a dictionary. -/
def entryValue? (key : String) (entries : List (Bytes × Value)) : Option Value :=
  Entries.get? (Utf8.encode key) entries

namespace Value

/-- The stream with some data, whose dictionary states their number. -/
def ofData (entries : List (Bytes × Value)) (data : Bytes) : Value :=
  .stream (Entries.insert (Utf8.encode "Length") (.integer data.length) entries) data

/-- The word for the kind of a value. -/
def kind : Value → String
  | null => "Null"
  | boolean _ => "Boolean"
  | integer _ => "Integer"
  | real _ => "Real"
  | name _ => "Name"
  | string _ => "String"
  | array _ => "Array"
  | dictionary _ => "Dictionary"
  | stream _ _ => "Stream"
  | reference _ => "Reference"

/-- The bytes of a name. -/
def name? : Value → Option Bytes
  | name bytes => some bytes
  | _ => none

/-- The items of an array. -/
def array? : Value → Option (List Value)
  | array items => some items
  | _ => none

/-- The target of a reference. -/
def reference? : Value → Option ObjectRef
  | reference target => some target
  | _ => none

/-- The value of a number. -/
def number? : Value → Option Float
  | integer value => some (Float.ofInt value)
  | real value => some value.toFloat
  | _ => none

/-! ## Text -/

/-- Whether a name can hold a byte as it is: a printable one that is neither a delimiter nor
the number sign. -/
def isPlain (b : UInt8) : Bool :=
  0x21 ≤ b && b ≤ 0x7E && !Byte.isDelimiter b && b != Byte.of '#'

/-- A byte of a name. -/
def nameByte (b : UInt8) : List Char :=
  if isPlain b then [Char.ofNat b.toNat] else '#' :: Hex.upperPair b

/-- A name with its slash. -/
def nameText (bytes : Bytes) : String := String.ofList ('/' :: bytes.flatMap nameByte)

/-- A string as digits in angle brackets. -/
def stringText (bytes : Bytes) : String :=
  String.ofList ('<' :: (bytes.flatMap Hex.upperPair ++ ['>']))

mutual

/-- A value as the object reader reads it; a stream as its dictionary. -/
def text : Value → String
  | .null => "null"
  | .boolean value => if value then "true" else "false"
  | .integer value => toString value
  | .real value => plainText32 value
  | .name bytes => nameText bytes
  | .string bytes => stringText bytes
  | .array items => "[" ++ " ".intercalate (texts items) ++ "]"
  | .dictionary entries => "<<" ++ String.join (entryTexts entries) ++ " >>"
  | .stream entries _ => "<<" ++ String.join (entryTexts entries) ++ " >>"
  | .reference target => target.text

/-- The texts of some values. -/
def texts : List Value → List String
  | [] => []
  | item :: rest => text item :: texts rest

/-- The texts of keys with their values, each with a blank in front. -/
def entryTexts : List (Bytes × Value) → List String
  | [] => []
  | (key, value) :: rest => (" " ++ nameText key ++ " " ++ text value) :: entryTexts rest

end

/-! ## Sketches -/

mutual

/-- A value in a message: names and strings as text, nothing escaped. -/
def sketch : Value → String
  | .null => "Null"
  | .boolean value => if value then "true" else "false"
  | .integer value => toString value
  | .real value => plainText32 value
  | .name bytes => "/" ++ Utf8.decode bytes
  | .string bytes => "(" ++ Utf8.decode bytes ++ ")"
  | .array items => "[" ++ " ".intercalate (sketches items) ++ "]"
  | .dictionary entries => "<<" ++ String.join (entrySketches entries) ++ ">>"
  | .stream entries _ => "<<" ++ String.join (entrySketches entries) ++ ">>stream...endstream"
  | .reference target => target.text

/-- The sketches of some values. -/
def sketches : List Value → List String
  | [] => []
  | item :: rest => sketch item :: sketches rest

/-- The sketches of keys with their values. -/
def entrySketches : List (Bytes × Value) → List String
  | [] => []
  | (key, value) :: rest => ("/" ++ Utf8.decode key ++ " " ++ sketch value) :: entrySketches rest

end

end Value

end PdfDisplay.Document
