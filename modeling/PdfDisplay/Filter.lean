import PdfDisplay.Object.Basic

/-!
# Stream filters

A stream declares the filters its data went through, as one name or a list of names. Inline
images use short names for them.
-/

namespace PdfDisplay.Filter

/-- The full name of a filter. -/
def canonical (name : String) : String :=
  match name with
  | "Fl" => "FlateDecode"
  | "DCT" => "DCTDecode"
  | "AHx" => "ASCIIHexDecode"
  | "A85" => "ASCII85Decode"
  | "LZW" => "LZWDecode"
  | "RL" => "RunLengthDecode"
  | "CCF" => "CCITTFaxDecode"
  | name => name

/-- The filters that a value declares; what is no name declares none. -/
def names : Option Object → List String
  | some (.name name) => [canonical name]
  | some (.array items) => (items.filterMap Object.name?).map canonical
  | _ => []

end PdfDisplay.Filter
