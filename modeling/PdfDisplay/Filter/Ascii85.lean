import PdfDisplay.Syntax.Byte

/-!
# Base-85 text

Data as printable characters: five digits to the base 85 write four bytes, and the letter
`z` writes four zeros. A tilde ends the data, and so does any character that has no meaning
in it; white space is passed over. A last group of fewer digits is filled up with the highest
digit and writes one byte less than it has digits.
-/

namespace PdfDisplay.Ascii85

/-- Why a text cannot be read. -/
inductive Error where
  /-- Four zeros are written inside a group. -/
  | zerosInside
  /-- The number of a group is too great to be multiplied for its next digit. -/
  | product
  /-- The number of a group is too great for its last digit to be added. -/
  | sum
  deriving DecidableEq, Repr

/-- The wording of the reason. -/
def Error.message : Error → String
  | zerosInside => "z character is not allowed in the middle of a group"
  | product => "multiplication overflow"
  | sum => "addition overflow"

/-- The group of digits that has begun. -/
structure Group where
  /-- The number of its digits. -/
  count : Nat := 0
  /-- The number that they write. -/
  value : Nat := 0
  deriving DecidableEq, Repr, Inhabited

namespace Group

/-- The least number that four bytes cannot hold. -/
def bound : Nat := 0x100000000

/-- The group with one more digit. -/
def push (group : Group) (digit : Nat) : Except Error Group :=
  if bound ≤ group.value * 85 then .error .product
  else if bound ≤ group.value * 85 + digit then .error .sum
  else .ok ⟨group.count + 1, group.value * 85 + digit⟩

/-- The four bytes of the number, the highest of them first. -/
def bytes (group : Group) : Bytes :=
  [24, 16, 8, 0].map fun shift => UInt8.ofNat (group.value >>> shift)

/-- The bytes that a group at the end of the data writes. -/
def last (group : Group) : Except Error Bytes :=
  if group.count = 0 then .ok []
  else do
    let full ← (List.replicate (5 - group.count) 84).foldlM push group
    return full.bytes.take (group.count - 1)

end Group

/-- The value of a digit. -/
def digit? (b : UInt8) : Option Nat :=
  if 33 ≤ b && b ≤ 117 then some (b.toNat - 33) else none

/-- White space within the data. -/
def isBlank (b : UInt8) : Bool := b != 0x00 && Byte.isWhite b

/-- Reads data behind a group that has begun; `read` holds the bytes read, latest first. -/
def decodeFrom (read : Bytes) (group : Group) : Bytes → Except Error Bytes
  | [] => do return read.reverse ++ (← group.last)
  | b :: rest =>
    if isBlank b then decodeFrom read group rest
    else if b = Byte.of 'z' then
      if group.count = 0 then decodeFrom (0 :: 0 :: 0 :: 0 :: read) group rest
      else .error .zerosInside
    else
      match digit? b with
      | none => do return read.reverse ++ (← group.last)
      | some digit => do
        let group ← group.push digit
        if group.count = 5 then decodeFrom (group.bytes.reverse ++ read) {} rest
        else decodeFrom read group rest

/-- The data that a text writes. -/
def decode (text : Bytes) : Except Error Bytes := decodeFrom [] {} text

end PdfDisplay.Ascii85
