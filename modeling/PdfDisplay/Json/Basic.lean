import PdfDisplay.Number.Decimal

/-!
# JSON values

Values with their text form. Whole numbers and other numbers are kept apart, objects keep
the order of their members, and numbers that are not finite are written as null.
-/

namespace PdfDisplay

/-- A JSON value. -/
inductive Json where
  /-- The null value. -/
  | null
  /-- A truth value. -/
  | boolean (value : Bool)
  /-- A number without fraction and exponent. -/
  | integer (value : Int)
  /-- Any other number. -/
  | real (value : Float)
  /-- A string. -/
  | string (text : String)
  /-- A sequence of values. -/
  | array (items : List Json)
  /-- Members in the order written. -/
  | object (members : List (String × Json))
  deriving Inhabited

namespace Json

/-! ## Text -/

/-- A code unit as four hexadecimal digits behind `\u`. -/
def escapeCode (code : Nat) : List Char :=
  let digits := Nat.toDigits 16 code
  '\\' :: 'u' :: (List.replicate (4 - digits.length) '0' ++ digits)

/-- A character of a string: quotes, backslashes and control characters are escaped. -/
def escapeChar (c : Char) : List Char :=
  if c = '"' then ['\\', '"']
  else if c = '\\' then ['\\', '\\']
  else if c = '\n' then ['\\', 'n']
  else if c = '\r' then ['\\', 'r']
  else if c = '\t' then ['\\', 't']
  else if c.toNat = 8 then ['\\', 'b']
  else if c.toNat = 12 then ['\\', 'f']
  else if c.toNat < 32 then escapeCode c.toNat
  else [c]

/-- A string in quotes. -/
def quote (text : String) : String :=
  String.ofList ('"' :: (text.toList.flatMap escapeChar ++ ['"']))

mutual

/-- The value on one line, without blanks. -/
def compact : Json → String
  | .null => "null"
  | .boolean value => if value then "true" else "false"
  | .integer value => toString value
  | .real value => if value.isFinite then shortestText value else "null"
  | .string text => quote text
  | .array items => "[" ++ ",".intercalate (compactItems items) ++ "]"
  | .object members => "\x7b" ++ ",".intercalate (compactMembers members) ++ "\x7d"

/-- The texts of some values. -/
def compactItems : List Json → List String
  | [] => []
  | item :: rest => compact item :: compactItems rest

/-- The texts of some members. -/
def compactMembers : List (String × Json) → List String
  | [] => []
  | (key, value) :: rest => (quote key ++ ":" ++ compact value) :: compactMembers rest

end

/-! ## Members -/

/-- The value of a member; of two with one key, the last. -/
def member? (value : Json) (key : String) : Option Json :=
  match value with
  | .object members => (members.reverse.find? fun (k, _) => k = key).map (·.2)
  | _ => none

end Json

end PdfDisplay
