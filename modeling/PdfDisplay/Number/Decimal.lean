import PdfDisplay.Number.Binary

/-!
# Decimal forms of numbers

Three decimal forms of a binary number are needed, all of them exact: a fixed number of
significant digits, the fewest digits that read back as the same number, and a fixed number
of places after the point. Each is a `Decimal`, a digit string with a power of ten, and is
found by comparing quotients of naturals; no intermediate result is rounded.

How a `Decimal` is then laid out (positional or with an exponent) is a separate choice,
made by the functions under `Decimal.text`.
-/

namespace PdfDisplay

/-- Rounds the quotient `num / den` to the nearest natural, a half to the even neighbour. -/
def roundHalfEven (num den : Nat) : Nat :=
  let whole := num / den
  let twice := 2 * (num % den)
  if twice < den then whole
  else if den < twice then whole + 1
  else whole + whole % 2

/-- A positive decimal number `digits · 10 ^ exponent`. -/
structure Decimal where
  /-- The digits, read as one natural. -/
  digits : Nat
  /-- The power of ten that scales them. -/
  exponent : Int
  deriving DecidableEq, Repr

namespace Decimal

/-- Scales the quotient `num / den` by a power of ten. -/
def scale (num den : Nat) : Int → Nat × Nat
  | .ofNat k => (num * Nat.pow 10 k, den)
  | .negSucc k => (num, den * Nat.pow 10 (k + 1))

/-- The `k` with `10 ^ k ≤ num / den < 10 ^ (k + 1)`, for positive `num` and `den`. The
first guess from the binary lengths is at most one too small. -/
def leadingPlace (num den : Nat) : Int :=
  -- 30103 / 100000 is nearly the decimal logarithm of two
  let guess : Int := ((num.log2 : Int) - den.log2 - 1) * 30103 / 100000
  let fits (k : Int) : Bool := let (n, d) := scale num den (-k); d ≤ n
  if fits (guess + 2) then guess + 2
  else if fits (guess + 1) then guess + 1
  else if fits guess then guess
  else guess - 1

/-- The number without trailing zero digits; at most `fuel` of them are removed. -/
def trim : (fuel : Nat) → Decimal → Decimal
  | 0, d => d
  | fuel + 1, d =>
    if d.digits ≠ 0 ∧ d.digits % 10 = 0 then trim fuel ⟨d.digits / 10, d.exponent + 1⟩ else d

/-- The value rounded to `count` significant digits, a half to even. -/
def significant (count : Nat) (b : Binary) : Decimal :=
  let (num, den) := b.ratio
  let place := leadingPlace num den - (count - 1 : Nat)
  let (n, d) := scale num den (-place)
  trim (count + 1) ⟨roundHalfEven n d, place⟩

/-! ## The fewest digits -/

/-- The numbers that round to a binary number form an interval around it. Its ends and the
number itself, all three multiplied by four and by `2 ^ shift`, over one denominator. -/
structure Neighbourhood where
  /-- The lower end. -/
  low : Nat
  /-- The number. -/
  value : Nat
  /-- The upper end. -/
  high : Nat
  /-- The common denominator. -/
  den : Nat
  /-- Whether the ends themselves round to the number. -/
  closed : Bool

/-- The interval that rounds to `b`, for a format with `stored` significand bits. Below a
power of two the numbers lie twice as dense, so the interval reaches half as far down. -/
def neighbourhood (stored : Nat) (lowest : Int) (b : Binary) : Neighbourhood :=
  let m := b.significand
  let below := if m = 1 <<< stored ∧ lowest < b.exponent then 1 else 2
  let unit (n : Nat) : Nat := (Binary.ratio ⟨false, n, b.exponent⟩).1
  ⟨unit (4 * m - below), unit (4 * m), unit (4 * m + 2), 4 * b.ratio.2, m % 2 == 0⟩

/-- Whether the decimal number lies in the interval. -/
def Neighbourhood.holds (i : Neighbourhood) (d : Decimal) : Bool :=
  let (n, e) := scale d.digits 1 d.exponent
  if i.closed then i.low * e ≤ n * i.den && n * i.den ≤ i.high * e
  else i.low * e < n * i.den && n * i.den < i.high * e

/-- The multiple of `10 ^ place` nearest to the number among the two next to it, if one of
them lies in the interval. Of two that are equally near it is the greater one. -/
def Neighbourhood.onGrid? (i : Neighbourhood) (place : Int) : Option Decimal :=
  let (n, d) := scale i.value i.den (-place)
  let lower : Decimal := ⟨n / d, place⟩
  let upper : Decimal := ⟨n / d + 1, place⟩
  let nearest := if 2 * (n % d) < d then lower else upper
  if i.holds lower && i.holds upper then some nearest
  else if i.holds lower then some lower
  else if i.holds upper then some upper
  else none

/-- The first grid that has a number in the interval, going from coarse to fine. -/
def Neighbourhood.coarsest (i : Neighbourhood) : (steps : Nat) → (place : Int) → Decimal
  | 0, place =>
    let (n, d) := scale i.value i.den (-place)
    ⟨roundHalfEven n d, place⟩
  | steps + 1, place => (i.onGrid? place).getD (i.coarsest steps (place - 1))

/-- The decimal number with the fewest digits that reads back as `b`, for a format with
`stored` significand bits whose numbers have at most `count` decimal digits. -/
def shortest (stored : Nat) (lowest : Int) (count : Nat) (b : Binary) : Decimal :=
  let i := neighbourhood stored lowest b
  trim (count + 1) (i.coarsest count (leadingPlace i.value i.den))

/-- The shortest decimal form of a positive finite double. -/
def shortest64 (b : Binary) : Decimal := shortest 52 (-1074) 17 b

/-- The shortest decimal form of a positive finite single-precision number. -/
def shortest32 (b : Binary) : Decimal := shortest 23 (-149) 9 b

/-! ## Layout -/

/-- The digits as characters. -/
def digitText (d : Decimal) : List Char := Nat.toDigits 10 d.digits

/-- The power of ten of the first digit. -/
def place (d : Decimal) : Int := d.exponent + d.digitText.length - 1

/-- Digits with a point after `whole` of them; zeros fill what the digits do not reach. -/
def point (digits : List Char) : Int → List Char
  | .ofNat (whole + 1) =>
    let padded := digits ++ List.replicate (whole + 1 - digits.length) '0'
    padded.take (whole + 1) ++
      (if padded.length ≤ whole + 1 then [] else '.' :: padded.drop (whole + 1))
  | .ofNat 0 => '0' :: '.' :: digits
  | .negSucc n => '0' :: '.' :: (List.replicate (n + 1) '0' ++ digits)

/-- All digits around a point, and no exponent: `1500`, `0.25`. -/
def positional (d : Decimal) : String := String.ofList (point d.digitText (d.place + 1))

/-- One digit before the point and an exponent behind `e`: `2.5e-3`. -/
def scientific (d : Decimal) : String :=
  String.ofList (point d.digitText 1) ++ "e" ++ toString d.place

end Decimal

/-! ## Texts -/

/-- A sign before the text of an absolute value. -/
def signed (negative : Bool) (text : String) : String :=
  if negative then "-" ++ text else text

/-- Lays out a double: `zero` for a zero and `layout` for other absolute values, behind the
sign; infinities and NaN are `inf` and `nan`. -/
def floatText (zero nan : String) (layout : Binary → String) (x : Float) : String :=
  match Binary.ofFloat? x with
  | some b => signed b.negative (if b.significand = 0 then zero else layout b)
  | none => if x.isNaN then nan else signed (signBit x) "inf"

/-- A double with `count` significant digits and an exponent, without trailing zeros. -/
def scientificText (count : Nat) : Float → String :=
  floatText "0e0" "nan" fun b => (Decimal.significant count b).scientific

/-- A double with the fewest digits that read back: positional from a ten-thousandth up to
ten to the sixteenth with at least one decimal place, else with an exponent. -/
def shortestText : Float → String :=
  floatText "0.0" "NaN" fun b =>
    let d := Decimal.shortest64 b
    if d.place < -4 || 15 < d.place then d.scientific
    else if 0 ≤ d.exponent then d.positional ++ ".0"
    else d.positional

/-- A single-precision number with the fewest digits that read back, never with an
exponent. -/
def plainText32 (x : Float32) : String :=
  match Binary.ofFloat32? x with
  | some b =>
    signed b.negative (if b.significand = 0 then "0" else (Decimal.shortest32 b).positional)
  | none => if x.isNaN then "NaN" else signed (x < 0) "inf"

/-- A double with `places` decimal places, a half rounded to the even neighbour. -/
def fixedText (places : Nat) (x : Float) : String :=
  match Binary.ofFloat? x with
  | some b =>
    let (n, d) := b.ratio
    let digits := Nat.toDigits 10 (roundHalfEven (n * Nat.pow 10 places) d)
    let digits := List.replicate (places + 1 - digits.length) '0' ++ digits
    let whole := digits.length - places
    signed b.negative (String.ofList (Decimal.point digits whole))
  | none => if x.isNaN then "NaN" else signed (signBit x) "inf"

end PdfDisplay
