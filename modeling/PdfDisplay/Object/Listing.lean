import PdfDisplay.Number.Decimal
import PdfDisplay.Object.Basic
import PdfDisplay.Text.Quoted

/-!
# Listings of objects

A diagnostic that names an object shows its kind and its parts, numbers with the fewest
digits that read back.
-/

namespace PdfDisplay

/-- A reference with its parts named. -/
def ObjectRef.listing (r : ObjectRef) : String :=
  "ObjRef \x7b num: " ++ toString r.number ++ ", generation: " ++ toString r.generation ++ " \x7d"

mutual

/-- An object with its kind and parts. -/
def Object.listing : Object → String
  | .null => "Null"
  | .boolean value => "Boolean(" ++ (if value then "true" else "false") ++ ")"
  | .integer value => "Integer(" ++ toString value ++ ")"
  | .real value => "Real(" ++ shortestText value ++ ")"
  | .name text => "Name(" ++ Quoted.encode text ++ ")"
  | .string bytes => "String([" ++ ", ".intercalate (bytes.map fun b => toString b.toNat) ++ "])"
  | .array items => "Array([" ++ ", ".intercalate (Object.listings items) ++ "])"
  | .dictionary entries =>
    "Dictionary(Dictionary \x7b entries: [" ++ ", ".intercalate (Object.entryListings entries) ++
      "] \x7d)"
  | .reference target => "Reference(" ++ target.listing ++ ")"

/-- The listings of some objects. -/
def Object.listings : List Object → List String
  | [] => []
  | item :: rest => item.listing :: Object.listings rest

/-- The listings of keys with their values. -/
def Object.entryListings : List (String × Object) → List String
  | [] => []
  | (key, value) :: rest =>
    ("(" ++ Quoted.encode key ++ ", " ++ value.listing ++ ")") :: Object.entryListings rest

end

end PdfDisplay
