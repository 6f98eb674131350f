import PdfDisplay.Entries
import PdfDisplay.Number.Binary
import PdfDisplay.Text.Utf8

/-!
# Objects

The values that a document is made of, references to other objects included. Dictionaries
keep their entries in source order and hold each key once: inserting a key that is present
replaces its value in place.
-/

namespace PdfDisplay

/-- The number and generation that a reference names an object by. -/
structure ObjectRef where
  /-- The object number. -/
  number : Nat
  /-- The generation. -/
  generation : Nat
  deriving DecidableEq, Hashable, Repr, Inhabited

/-- A reference as it is written. -/
def ObjectRef.text (r : ObjectRef) : String :=
  toString r.number ++ " " ++ toString r.generation ++ " R"

/-- A value of a document. -/
inductive Object where
  /-- The null value. -/
  | null
  /-- A truth value. -/
  | boolean (value : Bool)
  /-- A whole number. -/
  | integer (value : Int)
  /-- A number with a fraction, or beyond 64 bits. -/
  | real (value : Float)
  /-- A name. -/
  | name (text : String)
  /-- A string. -/
  | string (bytes : Bytes)
  /-- A sequence of values. -/
  | array (items : List Object)
  /-- Keys with their values. -/
  | dictionary (entries : List (String × Object))
  /-- A reference to another object. -/
  | reference (target : ObjectRef)
  deriving Inhabited

/-- Keys with their values, in source order. -/
structure Dictionary where
  /-- The entries. -/
  entries : List (String × Object)
  deriving Inhabited

namespace Object

/-- The text of a name. -/
def name? : Object → Option String
  | name text => some text
  | _ => none

/-- The value of a number. -/
def number? : Object → Option Float
  | integer value => some (Float.ofInt value)
  | real value => some value
  | _ => none

/-- The value of a number without its fraction, clamped to 64 bits; infinities and NaN have
none. -/
def integer? : Object → Option Int
  | integer value => some value
  | real value => if value.isFinite then some (toInt64 value) else none
  | _ => none

/-- A truth value. -/
def boolean? : Object → Option Bool
  | boolean value => some value
  | _ => none

/-- The target of a reference. -/
def reference? : Object → Option ObjectRef
  | reference target => some target
  | _ => none

/-- The items of an array. -/
def array? : Object → Option (List Object)
  | array items => some items
  | _ => none

/-- The entries of a dictionary. -/
def dictionary? : Object → Option Dictionary
  | dictionary entries => some ⟨entries⟩
  | _ => none

/-- The bytes of a string. -/
def bytes? : Object → Option Bytes
  | string bytes => some bytes
  | _ => none

end Object

namespace Dictionary

/-- No entries. -/
def empty : Dictionary := ⟨[]⟩

instance : EmptyCollection Dictionary := ⟨empty⟩

/-- Sets a key to a value. -/
def insert (d : Dictionary) (key : String) (value : Object) : Dictionary :=
  ⟨Entries.insert key value d.entries⟩

/-- The value of a key. -/
def get? (d : Dictionary) (key : String) : Option Object :=
  Entries.get? key d.entries

/-- The value of the first of the keys that is present. -/
def getAny? (d : Dictionary) (keys : List String) : Option Object :=
  keys.findSome? d.get?

/-- A name under a key. -/
def name? (d : Dictionary) (key : String) : Option String := (d.get? key).bind Object.name?

/-- A number under a key. -/
def number? (d : Dictionary) (key : String) : Option Float := (d.get? key).bind Object.number?

/-- A whole number under a key. -/
def integer? (d : Dictionary) (key : String) : Option Int :=
  (d.get? key).bind Object.integer?

/-- A truth value under a key. -/
def boolean? (d : Dictionary) (key : String) : Option Bool :=
  (d.get? key).bind Object.boolean?

/-- A reference under a key. -/
def reference? (d : Dictionary) (key : String) : Option ObjectRef :=
  (d.get? key).bind Object.reference?

/-- An array under a key. -/
def array? (d : Dictionary) (key : String) : Option (List Object) :=
  (d.get? key).bind Object.array?

/-- A dictionary under a key. -/
def dictionary? (d : Dictionary) (key : String) : Option Dictionary :=
  (d.get? key).bind Object.dictionary?

/-- The bytes of a string under a key. -/
def bytes? (d : Dictionary) (key : String) : Option Bytes := (d.get? key).bind Object.bytes?

/-- Whether a key is present. -/
def contains (d : Dictionary) (key : String) : Bool := (d.get? key).isSome

/-- The number of entries. -/
def size (d : Dictionary) : Nat := d.entries.length

/-- The keys, in source order. -/
def keys (d : Dictionary) : List String := d.entries.map (·.1)

/-! ## Laws of insertion -/

@[simp] theorem get?_insert_self (d : Dictionary) (key : String) (value : Object) :
    (d.insert key value).get? key = some value :=
  Entries.get?_insert_self key value d.entries

theorem get?_insert_of_ne (d : Dictionary) {key other : String} (value : Object)
    (h : key ≠ other) : (d.insert key value).get? other = d.get? other :=
  Entries.get?_insert_of_ne value d.entries h

end Dictionary

end PdfDisplay
