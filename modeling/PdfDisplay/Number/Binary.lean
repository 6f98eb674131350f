/-!
# Exact values of binary numbers

A finite double is a whole number times a power of two, so everything that has to be exact
about it (how it is written, what its whole part is) is arithmetic on naturals. `Binary` is
that view; `Binary.ofFloat?` takes it, and answers nothing for the infinities and for NaN.

Conversions to whole numbers drop the fraction. They clamp to the target's range and send
NaN to zero, so that they are total.
-/

namespace PdfDisplay

/-- The exact value `± significand · 2 ^ exponent` of a finite binary number. -/
structure Binary where
  /-- Whether the sign bit is set; zero has a sign too. -/
  negative : Bool
  /-- The whole-number factor. -/
  significand : Nat
  /-- The power of two that scales it. -/
  exponent : Int
  deriving DecidableEq, Repr

namespace Binary

/-- The absolute value as a quotient of naturals with a positive denominator. -/
def ratio (b : Binary) : Nat × Nat :=
  match b.exponent with
  | .ofNat e => (b.significand <<< e, 1)
  | .negSucc e => (b.significand, 1 <<< (e + 1))

/-- The value with its fraction dropped. -/
def wholePart (b : Binary) : Int :=
  let whole : Nat := b.ratio.1 / b.ratio.2
  if b.negative then -(whole : Int) else whole

/-- Whether the value has no fraction. -/
def isWhole (b : Binary) : Bool := b.ratio.1 % b.ratio.2 == 0

/-- The whole number nearest to the absolute value, a half rounded up. -/
def nearestAbs (b : Binary) : Nat := (2 * b.ratio.1 + b.ratio.2) / (2 * b.ratio.2)

/-- Reads an interchange bit pattern of `width` exponent bits above `stored` significand
bits; an infinity or NaN has no exact value. -/
def ofBits? (width stored bits : Nat) : Option Binary :=
  let field := (bits >>> stored) % (1 <<< width)
  let fraction := bits % (1 <<< stored)
  let negative := (bits >>> (width + stored)) % 2 == 1
  let lowest : Int := 2 - (1 <<< (width - 1) : Nat) - (stored : Nat)
  if field + 1 = 1 <<< width then none
  else if field = 0 then some ⟨negative, fraction, lowest⟩
  else some ⟨negative, (1 <<< stored) + fraction, lowest + field - 1⟩

/-- The exact value of a finite double. -/
def ofFloat? (x : Float) : Option Binary := ofBits? 11 52 x.toBits.toNat

/-- The exact value of a finite single-precision number. -/
def ofFloat32? (x : Float32) : Option Binary := ofBits? 8 23 x.toBits.toNat

end Binary

/-! ## Whole numbers from doubles -/

/-- Whether the sign bit is set, also of a zero or an infinity. -/
def signBit (x : Float) : Bool := x.toBits.toNat >>> 63 == 1

/-- The double without its fraction, clamped to `low … high`; NaN gives zero. -/
def clampWhole (low high : Int) (x : Float) : Int :=
  match Binary.ofFloat? x with
  | some b => max low (min high b.wholePart)
  | none => if x.isNaN then 0 else if signBit x then low else high

/-- The double as a signed 64-bit whole number: fraction dropped, out-of-range values
clamped. -/
def toInt64 (x : Float) : Int := clampWhole (-0x8000000000000000) 0x7FFFFFFFFFFFFFFF x

/-- The double as a signed 64-bit whole number, clamped, if it has no fraction. -/
def wholeInt64? (x : Float) : Option Int :=
  match Binary.ofFloat? x with
  | some b => if b.isWhole then some (toInt64 x) else none
  | none => none

/-- The double as an unsigned 64-bit whole number: fraction dropped, out-of-range values
clamped. -/
def toNat64 (x : Float) : Nat := (clampWhole 0 0xFFFFFFFFFFFFFFFF x).toNat

/-- The byte nearest to the double, a half rounded away from zero and values outside the
bytes clamped. -/
def toByte (x : Float) : UInt8 :=
  match Binary.ofFloat? x with
  | some b => if b.negative then 0 else UInt8.ofNat (min 255 b.nearestAbs)
  | none => if x.isNaN || signBit x then 0 else 255

/-! ## Comparisons that pass over NaN -/

/-- The smaller number, and of two equal zeros the second; when one of them is not a number,
the other. -/
def lesser (x y : Float) : Float :=
  if x.isNaN then y else if y.isNaN then x else if x < y then x else y

/-- The larger number, and of two equal zeros the second; when one of them is not a number,
the other. -/
def greater (x y : Float) : Float :=
  if x.isNaN then y else if y.isNaN then x else if y < x then x else y

/-- The number moved into `low … high`; NaN stays. -/
def clamp (low high x : Float) : Float :=
  if x < low then low else if high < x then high else x

/-! ## Lengths -/

/-- Longer sides are made shorter before they are squared. -/
def longSide : Float := 1e150

/-- Shorter sides are made longer before they are squared. -/
def shortSide : Float := 1e-140

/-- The power of two with the exponent -512. -/
def shortening : Float := 7.458340731200207e-155

/-- The power of two with the exponent 600. -/
def lengthening : Float := 4.149515568880993e180

/-- The length of the vector `(x, y)`. Both are scaled by a power of two before they are
squared, so that no intermediate result overflows or vanishes; an infinite component makes
the length infinite even beside NaN. -/
def hypot (x y : Float) : Float :=
  let x := x.abs
  let y := y.abs
  if x.isInf || y.isInf then 1.0 / 0.0
  else if x.isNaN || y.isNaN then 0.0 / 0.0
  else
    let large := greater x y
    let small := lesser x y
    let scale : Float :=
      if longSide < large then shortening else if large < shortSide then lengthening else 1.0
    let a := large * scale
    let b := small * scale
    (a * a + b * b).sqrt / scale

end PdfDisplay
