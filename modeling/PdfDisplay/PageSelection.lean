import PdfDisplay.Number.Word
import PdfDisplay.Text.Blank

/-!
# Selections of pages

A selection such as `1,3-5` lists pages and ranges of pages, counted from one. Blanks around
numbers and empty parts do not matter. `PageSelection.parse` gives the indices of the pages,
counted from zero, in ascending order and each once, however the ranges overlap.
-/

namespace PdfDisplay

/-- Why a selection is refused. -/
inductive PageSelectionError where
  /-- A page number is no number. -/
  | notANumber (text : String)
  /-- A page number is zero. -/
  | pageZero
  /-- There is no page with a number. -/
  | beyondLast (page count : Nat)
  /-- A range ends before it begins. -/
  | backwards (part : String)
  /-- No part is left. -/
  | nothingSelected (input : String)
  deriving DecidableEq, Repr

/-- The wording of the reason. -/
def PageSelectionError.message : PageSelectionError → String
  | notANumber text => "invalid page number: \x27" ++ text ++ "\x27"
  | pageZero => "page 0 is invalid (pages start at 1)"
  | beyondLast page count =>
    "page " ++ toString page ++ " exceeds document page count (" ++ toString count ++ ")"
  | backwards part => "range \x27" ++ part ++ "\x27 runs backwards"
  | nothingSelected input => "no pages selected by \x27" ++ input ++ "\x27"

namespace PageSelection

/-- A range of pages, both ends included. -/
structure Range where
  /-- The number of the first page. -/
  first : Nat
  /-- The number of the last page. -/
  last : Nat
  deriving DecidableEq, Repr

/-- The indices of the pages of a range. -/
def Range.indices (range : Range) : List Nat :=
  List.range' (range.first - 1) (range.last + 1 - range.first)

/-- The number of a page of a document with `count` pages. -/
def pageNumber (count : Nat) (text : List Char) : Except PageSelectionError Nat :=
  let text := trimBlanks text
  match Word.parse? text with
  | none => .error (.notANumber (String.ofList text))
  | some 0 => .error .pageZero
  | some page => if count < page then .error (.beyondLast page count) else .ok page

/-- The range that a part gives: a page, or two pages with a hyphen between them. -/
def parsePart (count : Nat) (part : List Char) : Except PageSelectionError Range := do
  let range ← match part.dropWhile (· != '-') with
    | [] => do
      let page ← pageNumber count part
      pure (Range.mk page page)
    | _ :: last => do
      let first ← pageNumber count (part.takeWhile (· != '-'))
      let last ← pageNumber count last
      pure (Range.mk first last)
  if range.last < range.first then throw (.backwards (String.ofList part))
  return range

/-- The parts between commas, without blanks around them; empty ones are left out. -/
def parts (input : String) : List (List Char) :=
  ((input.toList.splitOn ',').map trimBlanks).filter fun part => !part.isEmpty

/-- A sorted list with each number once. -/
def distinct : List Nat → List Nat
  | a :: b :: rest => if a = b then distinct (b :: rest) else a :: distinct (b :: rest)
  | short => short

/-- The indices of the pages that a selection names, in a document with `count` pages. -/
def parse (input : String) (count : Nat) : Except PageSelectionError (List Nat) := do
  let ranges ← (parts input).mapM (parsePart count)
  if ranges.isEmpty then throw (.nothingSelected input)
  return distinct ((ranges.flatMap Range.indices).mergeSort (· ≤ ·))

end PageSelection

end PdfDisplay
