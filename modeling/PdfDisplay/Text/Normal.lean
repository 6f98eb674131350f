import PdfDisplay.Text.Normal.Canonical
import PdfDisplay.Text.Normal.Compatibility
import PdfDisplay.Text.Normal.Composition

/-!
# Normalization forms

The four Unicode normalization forms. Decomposition replaces every character by its full
canonical or compatibility mapping and then sorts each run of combining marks by class,
keeping the order of equal classes; composition walks the result once and joins each
character to the last starter when nothing between them blocks it.

Hangul syllables are decomposed and composed by arithmetic on their code points, all other
characters through tables.
-/

namespace PdfDisplay

/-- The normalization applied to emitted text. -/
inductive NormalForm where
  /-- Text is left as it is. -/
  | none
  /-- Canonical decomposition, then composition. -/
  | nfc
  /-- Canonical decomposition. -/
  | nfd
  /-- Compatibility decomposition, then composition. -/
  | nfkc
  /-- Compatibility decomposition. -/
  | nfkd
  deriving DecidableEq, Repr, Inhabited

namespace Normal

/-! ## Character data -/

/-- The row of a code point in a table of blocks. -/
def row? (blocks : List (Nat × List (Nat × List Nat))) (code : Nat) : Option (List Nat) :=
  (blocks.lookup (code / 256)).bind (·.lookup code)

/-- The class of a code point by a list of ranges in ascending order. -/
def classIn (code : Nat) : List (Nat × Nat × Nat) → Nat
  | [] => 0
  | (first, last, value) :: rest =>
    if code < first then 0 else if code ≤ last then value else classIn code rest

/-- The canonical combining class; starters have class zero. -/
def combiningClass (c : Char) : Nat := classIn c.toNat combiningRanges

/-! ## Hangul syllables -/

/-- The first precomposed syllable. -/
def syllableBase : Nat := 0xAC00

/-- The first leading consonant. -/
def leadBase : Nat := 0x1100

/-- The first vowel. -/
def vowelBase : Nat := 0x1161

/-- One before the first trailing consonant. -/
def trailBase : Nat := 0x11A7

/-- The letters of a precomposed syllable. -/
def syllableLetters? (code : Nat) : Option (List Nat) :=
  if syllableBase ≤ code ∧ code < syllableBase + 11172 then
    let index := code - syllableBase
    let letters := [leadBase + index / 588, vowelBase + index % 588 / 28]
    some (if index % 28 = 0 then letters else letters ++ [trailBase + index % 28])
  else none

/-- The syllable that a leading consonant and a vowel, or an open syllable and a trailing
consonant, make. -/
def syllable? (first second : Nat) : Option Nat :=
  if leadBase ≤ first ∧ first < leadBase + 19 ∧ vowelBase ≤ second ∧ second < vowelBase + 21 then
    some (syllableBase + ((first - leadBase) * 21 + (second - vowelBase)) * 28)
  else if syllableBase ≤ first ∧ first < syllableBase + 11172 ∧ (first - syllableBase) % 28 = 0 ∧
      trailBase < second ∧ second < trailBase + 28 then
    some (first + (second - trailBase))
  else none

/-! ## Decomposition -/

/-- The canonical decomposition of one character. -/
def canonicalLetters (c : Char) : List Char :=
  match (syllableLetters? c.toNat).orElse fun _ => row? canonicalBlocks c.toNat with
  | some letters => letters.map Char.ofNat
  | none => [c]

/-- The compatibility decomposition of one character. -/
def compatibilityLetters (c : Char) : List Char :=
  match row? compatibilityBlocks c.toNat with
  | some letters => letters.map Char.ofNat
  | none => canonicalLetters c

/-- A character with its canonical combining class. -/
structure Letter where
  /-- The character. -/
  char : Char
  /-- Its class. -/
  rank : Nat
  deriving DecidableEq, Repr, Inhabited

/-- The character with its class. -/
def Letter.ofChar (c : Char) : Letter := ⟨c, combiningClass c⟩

/-- A run of marks in order: those of each class together, the lowest class first. -/
abbrev Run := List (Nat × List Letter)

namespace Run

/-- Puts a mark in front of a run. -/
def insert (mark : Letter) : Run → Run
  | [] => [(mark.rank, [mark])]
  | (rank, marks) :: rest =>
    if mark.rank = rank then (rank, mark :: marks) :: rest
    else if mark.rank < rank then (mark.rank, [mark]) :: (rank, marks) :: rest
    else (rank, marks) :: insert mark rest

/-- The marks of a run. -/
def marks (run : Run) : List Letter := run.flatMap Prod.snd

end Run

/-- Puts a letter in front of a text in order, which is given as the marks before its first
starter and the rest. -/
def arrange (letter : Letter) : Run × List Letter → Run × List Letter
  | (run, rest) =>
    if letter.rank = 0 then ([], letter :: (run.marks ++ rest)) else (Run.insert letter run, rest)

/-- Sorts every run of marks by class, and keeps the order of equal classes. -/
def sortMarks (text : List Letter) : List Letter :=
  let (run, rest) := text.foldr arrange ([], [])
  run.marks ++ rest

/-- Decomposes every character by `letters` and sorts the marks. -/
def decompose (letters : Char → List Char) (text : List Char) : List Letter :=
  sortMarks ((text.flatMap letters).map Letter.ofChar)

/-! ## Composition -/

/-- The primary composite of two characters. -/
def composite? (first second : Char) : Option Char :=
  ((syllable? first.toNat second.toNat).orElse fun _ =>
    (compositionRows.lookup second.toNat).bind (·.lookup first.toNat)).map Char.ofNat

/-- A text that is being composed. -/
structure Composer where
  /-- What cannot change any more, latest first. -/
  done : List Char := []
  /-- The last starter. -/
  starter? : Option Char := none
  /-- The marks behind it that did not compose with it, latest first. -/
  marks : List Letter := []
  deriving Inhabited

namespace Composer

/-- Everything that was composed, latest first. -/
def text (c : Composer) : List Char := c.marks.map Letter.char ++ (c.starter?.toList ++ c.done)

/-- Whether the marks behind the last starter keep a letter from composing with it. -/
def blocks (c : Composer) (letter : Letter) : Bool :=
  -- the marks are sorted by class, so the last one has the greatest
  c.marks.head?.any fun mark => letter.rank ≤ mark.rank

/-- Composes with the last starter, if a letter does. -/
def join? (c : Composer) (letter : Letter) : Option Composer :=
  if c.blocks letter then none
  else (c.starter?.bind (composite? · letter.char)).map fun whole => { c with starter? := whole }

/-- Takes the next letter. Marks before the first starter stay as they are. -/
def next (c : Composer) (letter : Letter) : Composer :=
  match c.join? letter with
  | some composer => composer
  | none =>
    if letter.rank = 0 then ⟨c.text, letter.char, []⟩ else { c with marks := letter :: c.marks }

end Composer

/-- Composes a decomposed text. -/
def compose (text : List Letter) : List Char := (text.foldl Composer.next {}).text.reverse

end Normal

namespace NormalForm

/-- The text in a normalization form. -/
def apply (form : NormalForm) (text : String) : String :=
  match form with
  | .none => text
  | .nfc => String.ofList (Normal.compose (Normal.decompose Normal.canonicalLetters text.toList))
  | .nfd => ofLetters (Normal.decompose Normal.canonicalLetters text.toList)
  | .nfkc =>
    String.ofList (Normal.compose (Normal.decompose Normal.compatibilityLetters text.toList))
  | .nfkd => ofLetters (Normal.decompose Normal.compatibilityLetters text.toList)
where
  /-- The text of some letters. -/
  ofLetters (letters : List Normal.Letter) : String :=
    String.ofList (letters.map Normal.Letter.char)

end NormalForm

end PdfDisplay
