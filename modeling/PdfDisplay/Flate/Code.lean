import PdfDisplay.Flate.Bits

/-!
# Prefix codes

A prefix code is given by the length of the code word of each symbol; words of one length
are consecutive, in the order of their symbols, and shorter words come first. Walking the
code tree from left to right therefore meets the symbols sorted by length, which is how the
tree is grown.

A code whose words do not use up all sequences of bits is refused, unless it has no word, or
a single one, which is one bit. In such a code, what is not the word is an error.
-/

namespace PdfDisplay.Flate

/-- A part of a code tree. -/
inductive Tree where
  /-- No word goes on here. -/
  | missing
  /-- The end of a word. -/
  | leaf (symbol : Nat)
  /-- What follows a zero and what follows a one. -/
  | node (zero one : Tree)

namespace Tree

/-- Reads the rest of a word. -/
def decode : Tree → Bits → Except Error (Nat × Bits)
  | missing, _ => .error .corrupt
  | leaf symbol, b => .ok (symbol, b)
  | node zero one, b =>
    match b.next with
    | .error e => .error e
    | .ok (true, b) => one.decode b
    | .ok (false, b) => zero.decode b

/-- Grows the tree below a node at `depth` from the symbols that are left, each with its
length and sorted by it; gives the tree and the symbols that have no place in it. -/
def grow : (room depth : Nat) → List (Nat × Nat) → Tree × List (Nat × Nat)
  | _, _, [] => (missing, [])
  | 0, depth, (length, symbol) :: rest =>
    if length = depth then (leaf symbol, rest) else (missing, (length, symbol) :: rest)
  | room + 1, depth, (length, symbol) :: rest =>
    if length = depth then (leaf symbol, rest)
    else
      let (zero, rest) := grow room (depth + 1) ((length, symbol) :: rest)
      let (one, rest) := grow room (depth + 1) rest
      (node zero one, rest)

end Tree

/-- A prefix code; every word has at least one bit. -/
structure Code where
  /-- The words that begin with a zero. -/
  zero : Tree
  /-- The words that begin with a one. -/
  one : Tree

namespace Code

/-- The longest word. -/
def maxLength : Nat := 15

/-- The symbols that have a word, with its length, sorted by length. -/
def sorted (lengths : List Nat) : List (Nat × Nat) :=
  (List.range' 1 maxLength).flatMap fun length =>
    (lengths.zipIdx.filter (·.1 == length))

/-- The share of all words of the greatest length that the words take up. -/
def share (lengths : List Nat) : Nat :=
  (lengths.map fun length => if length = 0 then 0 else 1 <<< (maxLength - length)).foldl (· + ·) 0

/-- Whether words are no words, or a single one of one bit. -/
def isSparse : List (Nat × Nat) → Bool
  | [] | [(1, _)] => true
  | _ => false

/-- The code with the given word lengths. `partly` permits a code of a single word of one bit,
or of none. -/
def ofLengths (partly : Bool) (lengths : List Nat) : Except Error Code :=
  let words := sorted lengths
  if share lengths = 1 <<< maxLength || (partly && isSparse words) then
    let (zero, rest) := Tree.grow (maxLength - 1) 1 words
    let (one, _) := Tree.grow (maxLength - 1) 1 rest
    .ok ⟨zero, one⟩
  else .error .corrupt

/-- Reads one word. -/
def decode (code : Code) (b : Bits) : Except Error (Nat × Bits) :=
  match b.next with
  | .error e => .error e
  | .ok (true, b) => code.one.decode b
  | .ok (false, b) => code.zero.decode b

end Code

end PdfDisplay.Flate
