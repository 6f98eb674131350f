import PdfDisplay.Failure
import PdfDisplay.Object.Listing
import Std.Data.HashMap

/-!
# Glyph widths

The widths of the glyphs of a font, in thousandths of the font size, by character code. A
width may be given for a single code or for a range of codes; a single code goes before the
ranges, and a later range before an earlier one. Codes without a width have the default.

Composite fonts declare widths in a list that mixes `c [w1 w2 …]` and `first last w`; simple
fonts declare a first code and one width per code.
-/

namespace PdfDisplay

/-- Why declared widths are refused. -/
inductive WidthError where
  /-- What should be a code is something else. -/
  | notACode (found : Object)
  /-- A width in a list is no number. -/
  | listWidth (first : Nat)
  /-- A list goes on behind the greatest code. -/
  | listOverflow
  /-- A range has no width. -/
  | rangeWidth (first last : Nat)
  /-- The last code of a range is less than the first. -/
  | rangeInverted (first last : Nat)
  /-- Nothing follows a code. -/
  | withoutWidths (first : Nat)
  /-- A width of a simple font is no number. -/
  | simpleWidth
  /-- The widths of a simple font go on behind the greatest code. -/
  | simpleOverflow

/-- The wording of the reason. -/
def WidthError.message : WidthError → String
  | notACode found => "expected character code, found " ++ found.listing
  | listWidth first => "non-numeric width in /W list at " ++ toString first
  | listOverflow => "/W list overflows"
  | rangeWidth first last =>
    "/W range " ++ toString first ++ ".." ++ toString last ++ " has no width"
  | rangeInverted first last =>
    "/W range " ++ toString first ++ ".." ++ toString last ++ " is inverted"
  | withoutWidths first => "/W entry " ++ toString first ++ " has no widths"
  | simpleWidth => "non-numeric entry in /Widths"
  | simpleOverflow => "/Widths overflows"

/-- The failure of a job for this reason. -/
def WidthError.failure (e : WidthError) : Failure := .failed .parse e.message

/-- One width for a range of codes. -/
structure WidthRange where
  /-- The first code. -/
  first : Nat
  /-- The last code. -/
  last : Nat
  /-- The width. -/
  width : Float
  deriving DecidableEq, Repr

/-- The widths of a font. -/
structure WidthTable where
  /-- Widths of single codes. -/
  singles : Std.HashMap Nat Float
  /-- Widths of ranges, the latest first. -/
  ranges : List WidthRange
  /-- The width of all other codes. -/
  default : Float

namespace WidthTable

/-- The width where a font declares none. -/
def standard : Float := 1000.0

/-- One width for all codes. -/
def uniform (width : Float) : WidthTable := ⟨∅, [], width⟩

/-- The greatest code. -/
def maxCode : Nat := 0xFFFFFFFF

/-- The code that an object denotes. -/
def codeOf (object : Object) : Except WidthError Nat :=
  match object.integer? with
  | some value =>
    if 0 ≤ value ∧ value ≤ maxCode then .ok value.toNat else .error (.notACode object)
  | none => .error (.notACode object)

/-- Adds the width of a single code. -/
def addSingle (table : WidthTable) (code : Nat) (width : Float) : WidthTable :=
  { table with singles := table.singles.insert code width }

/-- Adds the width of a range. -/
def addRange (table : WidthTable) (range : WidthRange) : WidthTable :=
  { table with ranges := range :: table.ranges }

/-- Adds the widths of consecutive codes. `notNumber` and `overflow` are the errors for a
width that is no number and for a code past the greatest. -/
def addList (notNumber overflow : WidthError) (table : WidthTable) (code : Nat) :
    List Object → Except WidthError WidthTable
  | [] => .ok table
  | item :: rest =>
    match item.number? with
    | none => .error notNumber
    | some width =>
      if maxCode < code then .error overflow
      else addList notNumber overflow (table.addSingle code width) (code + 1) rest

/-- The range that two codes and a width make. -/
def rangeOf (first : Nat) (last : Object) (width? : Option Object) :
    Except WidthError WidthRange := do
  let last ← codeOf last
  let some width := width?.bind Object.number? | throw (.rangeWidth first last)
  if last < first then throw (.rangeInverted first last)
  return ⟨first, last, width⟩

/-- Adds the entries of a composite font's list. -/
def addEntries (table : WidthTable) : List Object → Except WidthError WidthTable
  | [] => .ok table
  | [code] =>
    match codeOf code with
    | .error e => .error e
    | .ok first => .error (.withoutWidths first)
  | code :: .array widths :: rest =>
    match codeOf code with
    | .error e => .error e
    | .ok first =>
      match addList (.listWidth first) .listOverflow table first widths with
      | .error e => .error e
      | .ok table => addEntries table rest
  | [code, last] =>
    match codeOf code with
    | .error e => .error e
    | .ok first =>
      match rangeOf first last none with
      | .error e => .error e
      | .ok range => .ok (table.addRange range)
  | code :: last :: width :: rest =>
    match codeOf code with
    | .error e => .error e
    | .ok first =>
      match rangeOf first last (some width) with
      | .error e => .error e
      | .ok range => addEntries (table.addRange range) rest

/-- The widths that a composite font declares, with its default width. -/
def ofComposite (entries : List Object) (default? : Option Float) :
    Except WidthError WidthTable :=
  addEntries (uniform (default?.getD standard)) entries

/-- The widths that a simple font declares from its first code on, with the width of the
codes without one. -/
def ofSimple (firstCode : Nat) (widths : List Object) (missing? : Option Float) :
    Except WidthError WidthTable :=
  addList .simpleWidth .simpleOverflow (uniform (missing?.getD standard)) firstCode widths

/-- The widths multiplied by a factor. -/
def scaled (table : WidthTable) (factor : Float) : WidthTable where
  singles := table.singles.map fun _ width => width * factor
  ranges := table.ranges.map fun range => { range with width := range.width * factor }
  default := table.default * factor

/-- The width declared for a code. -/
def explicit? (table : WidthTable) (code : Nat) : Option Float :=
  table.singles[code]?.orElse fun _ =>
    (table.ranges.find? fun range => range.first ≤ code && code ≤ range.last).map (·.width)

/-- The width of a code. -/
def width (table : WidthTable) (code : Nat) : Float :=
  (table.explicit? code).getD table.default

/-- The number of single codes and ranges. -/
def size (table : WidthTable) : Nat := table.singles.size + table.ranges.length

/-- Whether no width is declared. -/
def isEmpty (table : WidthTable) : Bool := table.singles.isEmpty && table.ranges.isEmpty

end WidthTable

end PdfDisplay
