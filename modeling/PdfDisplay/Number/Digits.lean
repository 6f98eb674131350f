/-!
# Digits

The natural number that a sequence of digits writes. Neighbouring digits are first joined in
pairs, which are digits to the square of the base, so that the factors of every product have
about equal length. `Digits.value_eq_foldl` says that this gives the same number as taking
the digits one by one.

`Digits.toFloat` is the double nearest to a decimal number. Halfway between two doubles there
are only numbers of fewer digits than it looks at, so of what follows those it is enough to
know whether it is zero.
-/

namespace PdfDisplay.Digits

/-- The number that digits write, the lowest digit first. -/
def ofLowest (base : Nat) (digits : List Nat) : Nat :=
  digits.foldr (fun digit value => digit + base * value) 0

/-- Joins digits in pairs behind those joined so far, which come highest first. -/
def pairs (base : Nat) (joined : List Nat) : List Nat → List Nat
  | low :: high :: rest => pairs base ((low + base * high) :: joined) rest
  | rest => joined.reverse ++ rest

/-- The number that digits write, the lowest digit first. Every round halves the number of
digits, so there need not be more rounds than digits. -/
def join : (rounds base : Nat) → List Nat → Nat
  | _, _, [] => 0
  | _, _, [digit] => digit
  | 0, base, digits => ofLowest base digits
  | rounds + 1, base, digits => join rounds (base * base) (pairs base [] digits)

/-- The number that decimal digits write, the highest digit first. -/
def value (digits : List Nat) : Nat := join digits.length 10 digits.reverse

/-- The values of decimal digits. -/
def ofChars (digits : List Char) : List Nat := digits.map fun c => c.toNat - 48

/-! ## Doubles -/

/-- How many digits decide which double is nearest. -/
def deciding : Nat := 800

/-- A decimal number whose first digit has a place of this size is infinite as a double, or
zero below the point. -/
def farPlace : Int := 400

/-- The digits that decide, and a one for the rest unless that is zero. -/
def cut (digits : List Nat) : List Nat :=
  digits.take deciding ++ if (digits.drop deciding).all (· == 0) then [] else [1]

/-- The double nearest to the number that decimal digits write, the highest digit first,
times a power of ten. -/
def toFloat (digits : List Nat) (exponent : Int) : Float :=
  let digits := digits.dropWhile (· == 0)
  let place := digits.length + exponent
  if digits.isEmpty || place < -farPlace then 0.0
  else if farPlace < place then 1.0 / 0.0
  else
    let shift := place - (cut digits).length
    Float.ofScientific (value (cut digits)) (shift < 0) shift.natAbs

/-! ## Joining keeps the number -/

theorem pairs_eq_append (base : Nat) (joined digits : List Nat) :
    pairs base joined digits = joined.reverse ++ pairs base [] digits := by
  match digits with
  | [] => simp [pairs]
  | [digit] => simp [pairs]
  | low :: high :: rest =>
    rw [pairs, pairs, pairs_eq_append base (_ :: joined) rest, pairs_eq_append base [_] rest]
    simp

theorem ofLowest_pairs (base : Nat) (digits : List Nat) :
    ofLowest (base * base) (pairs base [] digits) = ofLowest base digits := by
  match digits with
  | [] => rfl
  | [digit] => simp [pairs, ofLowest]
  | low :: high :: rest =>
    have ih := ofLowest_pairs base rest
    rw [pairs, pairs_eq_append]
    simp only [ofLowest, List.reverse_cons, List.reverse_nil, List.nil_append,
      List.singleton_append, List.foldr_cons] at ih ⊢
    rw [ih, Nat.mul_add, Nat.mul_assoc, Nat.add_assoc]

theorem join_eq_ofLowest (rounds base : Nat) (digits : List Nat) :
    join rounds base digits = ofLowest base digits := by
  fun_induction join rounds base digits with
  | case1 => rfl
  | case2 => simp [ofLowest]
  | case3 => rfl
  | case4 rounds base digits _ _ ih => rw [ih, ofLowest_pairs]

/-- The number is that of its digits taken one by one. -/
theorem value_eq_foldl (digits : List Nat) :
    value digits = digits.foldl (fun value digit => value * 10 + digit) 0 := by
  rw [value, join_eq_ofLowest, ofLowest, List.foldr_reverse]
  simp only [Nat.mul_comm, Nat.add_comm]

end PdfDisplay.Digits
