import PdfDisplay.Json.Basic
import PdfDisplay.Text.Utf8

/-!
# Shapes of JSON values

How typed values are written in JSON and read back. A record is an object; in reading, the
list of its members in their order is accepted too, and members that are not known are
ignored. A choice without data is the string of its name, and one with data an object with
one member. Numbers that are not finite are written as null, which reads as no number.

How freely the data of a choice are read depends on where it stands, which is a `Reading`:
inside the items of a display list more is accepted than elsewhere.
-/

namespace PdfDisplay.Json

/-! ## Writing -/

/-- A number; null if it is not finite. -/
def ofFloat (x : Float) : Json := if x.isFinite then .real x else .null

/-- A number without a fraction. -/
def ofNat (n : Nat) : Json := .integer n

/-- A sequence of values. -/
def ofList {α : Type} (write : α → Json) (items : List α) : Json := .array (items.map write)

/-- A value that may be absent. -/
def ofOption {α : Type} (write : α → Json) : Option α → Json
  | some value => write value
  | none => .null

/-- Bytes as a sequence of numbers. -/
def ofBytes (bytes : Bytes) : Json := ofList (fun b => ofNat b.toNat) bytes

/-- A choice with data. -/
def choice (name : String) (data : Json) : Json := .object [(name, data)]

/-! ## Reading -/

/-- The value of a number. -/
def float? : Json → Option Float
  | integer value => some (Float.ofInt value)
  | real value => some value
  | _ => none

/-- A natural number less than a bound. -/
def natBelow? (bound : Nat) : Json → Option Nat
  | integer value => if 0 ≤ value ∧ value < bound then some value.toNat else none
  | _ => none

/-- A number of 32 bits. -/
def nat32? : Json → Option Nat := natBelow? 0x100000000

/-- A number of 64 bits. -/
def nat64? : Json → Option Nat := natBelow? 0x10000000000000000

/-- The text of a string. -/
def string? : Json → Option String
  | string text => some text
  | _ => none

/-- A truth value. -/
def boolean? : Json → Option Bool
  | boolean value => some value
  | _ => none

/-- A sequence of values. -/
def list? {α : Type} (read : Json → Option α) : Json → Option (List α)
  | array items => items.mapM read
  | _ => none

/-- Bytes as a sequence of numbers. -/
def bytes? : Json → Option Bytes := list? fun item => (natBelow? 256 item).map UInt8.ofNat

/-- A record with all of its members under their keys. -/
def record? (keys : List String) : Json → Option Json
  | object members => some (object members)
  | array items => if items.length = keys.length then some (object (keys.zip items)) else none
  | _ => none

/-- A member that has to be there. -/
def required {α : Type} (record : Json) (key : String) (read : Json → Option α) : Option α :=
  (record.member? key).bind read

/-- A member that may be absent or null. -/
def optional {α : Type} (record : Json) (key : String) (read : Json → Option α) :
    Option (Option α) :=
  match record.member? key with
  | none | some null => some none
  | some value => (read value).map some

/-- How the data of a choice are read. -/
inductive Reading where
  /-- No data may be null, and a record of a choice is an object. -/
  | exact
  /-- No data may also be an empty object, and a record of a choice also a list. -/
  | loose
  deriving DecidableEq, Repr

namespace Reading

/-- Whether a value stands for no data. -/
def isNothing : Reading → Json → Bool
  | _, null => true
  | loose, object [] => true
  | _, _ => false

/-- The record that the data of a choice are. -/
def record? (keys : List String) : Reading → Json → Option Json
  | _, object members => some (object members)
  | loose, value => Json.record? keys value
  | exact, _ => none

end Reading

/-- The name of a choice, and its data if it has some. -/
def choice? : Json → Option (String × Option Json)
  | string name => some (name, none)
  | object [(name, data)] => some (name, some data)
  | _ => none

/-- The name of a choice without data. -/
def choiceName? (reading : Reading) (value : Json) : Option String := do
  let (name, data) ← choice? value
  if data.all reading.isNothing then some name else none

/-- A choice without data, by the names of all values. -/
def simpleChoice? {α : Type} (reading : Reading) (values : List α) (name : α → String)
    (value : Json) : Option α := do
  let text ← choiceName? reading value
  values.find? fun candidate => name candidate = text

/-- The data of a choice that has some. -/
def choiceData? (value : Json) : Option (String × Json) :=
  match choice? value with
  | some (name, some data) => some (name, data)
  | _ => none

end PdfDisplay.Json
