import Mathlib.Algebra.Group.Nat.Defs
import PdfDisplay.Number.Binary

/-!
# Whole numbers as doubles

A whole number with at most 53 bits is a double, so that nothing is lost when it is taken for one
and back: `toNat64_ofInt`. The proof follows the number through its conversion. Its digits are
moved to the top of the significand, which neither rounding there (`ofNat_of_lt`) nor the product
with one (`mul_one_of_top`) changes, and `Binary.ofBits?` finds them again in the bits of the
result (`Binary.ofFloat?_pack`).
-/

namespace PdfDisplay

open Float.Model Float.Model.UnpackedFloat

/-! ## Rounding what is exact -/

/-- A significand is moved so that it has 53 bits, but not below the least exponent. -/
theorem targetExponent_eq (m : Nat) (e : Int) :
    Format.binary64.targetExponent (totalExponent m e) = max (m.log2 + 1 + e - 53) (-1074) :=
  rfl

/-- A significand that fits is not moved. -/
theorem shiftToTargetExponent_of_lt {m : Nat} {e : Int} (hm : m < 2 ^ 53) (he : -1074 ≤ e) :
    shiftToTargetExponent Format.binary64 m e .exact = (⟨m, false, false⟩, e) := by
  have hlog : m.log2 ≤ 52 := by
    by_cases h : m = 0
    · simp [h]
    · have := (Nat.log2_lt h).mpr hm
      omega
  have htarget : (Format.binary64.targetExponent (totalExponent m e) - e).toNat = 0 := by
    rw [targetExponent_eq]
    omega
  rw [shiftToTargetExponent, shiftToExponent, htarget, Int.natCast_zero, Int.add_zero]
  rfl

/-- Zeros at the end of a significand are dropped without a trace. -/
theorem shiftRight_mul_two_pow (m k : Nat) :
    (⟨m * 2 ^ k, false, false⟩ : ExtendedMantissa) >>> k = ⟨m, false, false⟩ := by
  induction k generalizing m with
  | zero => rw [Nat.pow_zero, Nat.mul_one]; rfl
  | succ k ih =>
    have hstep : (⟨m * 2 ^ (k + 1), false, false⟩ : ExtendedMantissa) >>> (k + 1) =
        ((⟨(m * 2) * 2 ^ k, false, false⟩ : ExtendedMantissa) >>> k).shiftRightOne := by
      rw [Nat.pow_succ', ← Nat.mul_assoc]
      rfl
    rw [hstep, ih, ExtendedMantissa.shiftRightOne, Nat.mul_div_cancel _ Nat.two_pos,
      Nat.mul_mod_left]
    rfl

/-- A number that fits once it is moved is not rounded. -/
theorem roundWithAccuracy_of_shift (s : Sign) {m m' : Nat} {e e' : Int} (hpos : 0 < m)
    (hm : m < 2 ^ 53) (he : -1074 ≤ e)
    (h : shiftToTargetExponent Format.binary64 m' e' .exact = (⟨m, false, false⟩, e)) :
    roundWithAccuracy Format.binary64 s m' e' .exact = .finite s m e hpos := by
  have hrounded : (⟨m, false, false⟩ : ExtendedMantissa).roundedMantissa = m := rfl
  rw [roundWithAccuracy, h]
  dsimp only
  rw [hrounded, shiftToTargetExponent_of_lt hm he]
  exact dif_neg (Nat.ne_of_gt hpos)

/-! ## Whole numbers -/

/-- The significand of a whole number: its digits, moved to the top. -/
def topSignificand (n : Nat) : Nat := n <<< (52 - n.log2)

theorem topSignificand_bounds {n : Nat} (hpos : 0 < n) (hn : n < 2 ^ 53) :
    2 ^ 52 ≤ topSignificand n ∧ topSignificand n < 2 ^ 53 := by
  have hne : n ≠ 0 := Nat.ne_of_gt hpos
  have hlog : n.log2 < 53 := (Nat.log2_lt hne).mpr hn
  have hlow : 2 ^ n.log2 ≤ n := Nat.log2_self_le hne
  have hhigh : n < 2 ^ (n.log2 + 1) := Nat.lt_log2_self
  rw [topSignificand, Nat.shiftLeft_eq]
  -- shifting by what is missing to 52 moves the top bit to its place
  constructor
  · calc 2 ^ 52 = 2 ^ n.log2 * 2 ^ (52 - n.log2) := by
          rw [← Nat.pow_add]
          congr 1
          omega
      _ ≤ n * 2 ^ (52 - n.log2) := Nat.mul_le_mul_right _ hlow
  · calc n * 2 ^ (52 - n.log2) < 2 ^ (n.log2 + 1) * 2 ^ (52 - n.log2) :=
          Nat.mul_lt_mul_of_pos_right hhigh (Nat.two_pow_pos _)
      _ = 2 ^ 53 := by
          rw [← Nat.pow_add]
          congr 1
          omega

/-- A whole number is rounded to itself if the 53 bits of a significand hold it. -/
theorem ofNat_of_lt {n : Nat} (hpos : 0 < n) (hn : n < 2 ^ 53) :
    ∃ h, UnpackedFloat.ofNat Format.binary64 n =
      .finite .positive (topSignificand n) ((n.log2 : Int) - 52) h := by
  obtain ⟨hlow, hhigh⟩ := topSignificand_bounds hpos hn
  have hlog : n.log2 < 53 := (Nat.log2_lt (Nat.ne_of_gt hpos)).mpr hn
  -- the exponent that is aimed at is the one with which the significand fills its 53 bits
  have htarget : Format.binary64.targetExponent (totalExponent n 0) = (n.log2 : Int) - 52 := by
    rw [targetExponent_eq]
    omega
  have hmoved : decreaseExponent n 0 ((n.log2 : Int) - 52) =
      (topSignificand n, (n.log2 : Int) - 52) := by
    have hamount : (0 - ((n.log2 : Int) - 52)).toNat = 52 - n.log2 := by omega
    rw [decreaseExponent, hamount, ← topSignificand]
    congr 1
    omega
  refine ⟨by omega, ?_⟩
  -- a positive number is rounded as it is
  have hcompare : compare (n : Int) 0 = .gt := Int.compare_eq_gt.mpr (by omega)
  rw [UnpackedFloat.ofNat, UnpackedFloat.ofInt, UnpackedFloat.normalize, hcompare]
  change round Format.binary64 .positive n 0 = _
  rw [UnpackedFloat.round, htarget, hmoved]
  exact roundWithAccuracy_of_shift _ _ hhigh (by omega)
    (shiftToTargetExponent_of_lt hhigh (by omega))

/-- A product with one is the other factor, if that has its top bit set and so needs no rounding. -/
theorem mul_one_of_top (s : Sign) {m : Nat} {e : Int} (hlow : 2 ^ 52 ≤ m) (hhigh : m < 2 ^ 53)
    (he : -1074 ≤ e) (hpos : 0 < m) (hone : 0 < 2 ^ 52) :
    UnpackedFloat.mul Format.binary64 (.finite s m e hpos) (.finite .positive (2 ^ 52) (-52) hone) =
      .finite s m e hpos := by
  have hsign : s * .positive = s := by cases s <;> rfl
  -- the product has 105 bits, of which the lower 52 are zero
  have hlog : (m * 2 ^ 52).log2 = 104 :=
    (Nat.log2_eq_iff (by omega)).mpr ⟨by omega, by omega⟩
  have htarget : Format.binary64.targetExponent (totalExponent (m * 2 ^ 52) (e + -52)) = e := by
    rw [targetExponent_eq, hlog]
    omega
  have hshift : shiftToTargetExponent Format.binary64 (m * 2 ^ 52) (e + -52) .exact =
      (⟨m, false, false⟩, e) := by
    have hamount : (e - (e + -52)).toNat = 52 := by omega
    rw [shiftToTargetExponent, htarget, shiftToExponent, hamount]
    refine Prod.ext (shiftRight_mul_two_pow m 52) ?_
    change e + -52 + 52 = e
    omega
  change roundWithAccuracy Format.binary64 (s * .positive) (m * 2 ^ 52) (e + -52) .exact = _
  rw [hsign]
  exact roundWithAccuracy_of_shift s hpos hhigh he hshift

/-! ## Bits -/

theorem toNat_packComponents (s : Sign) (e : BitVec 11) (m : BitVec 52) :
    (packComponents Format.binary64 s e m).toNat =
      (s.toBitVec.toNat * 2 ^ 11 + e.toNat) * 2 ^ 52 + m.toNat := by
  rw [packComponents, BitVec.toNat_append, BitVec.toNat_append,
    ← Nat.shiftLeft_add_eq_or_of_lt e.isLt, ← Nat.shiftLeft_add_eq_or_of_lt m.isLt,
    Nat.shiftLeft_eq, Nat.shiftLeft_eq]

theorem toNat_unpackSign (bits : BitVec Format.binary64.numBits) :
    (unpackSign bits).toNat = bits.toNat / 2 ^ 63 % 2 := by
  change (bits.extractLsb 63 63).toNat = _
  rw [BitVec.extractLsb_toNat, Nat.shiftRight_eq_div_pow]

theorem unpackSign_packComponents (s : Sign) (e : BitVec 11) (m : BitVec 52) :
    Sign.ofBitVec (unpackSign (packComponents Format.binary64 s e m)) = s := by
  have hbit : unpackSign (packComponents Format.binary64 s e m) = s.toBitVec := by
    have hs := s.toBitVec.isLt
    have he := e.isLt
    have hm := m.isLt
    rw [← BitVec.toNat_inj, toNat_unpackSign, toNat_packComponents]
    omega
  rw [hbit]
  cases s <;> rfl

/-- A number whose digits are at the top is packed as it is. -/
theorem pack_of_top (s : Sign) {m : Nat} {e : Int} (hlow : 2 ^ 52 ≤ m) (hhigh : m < 2 ^ 53)
    (he : -1074 ≤ e) (hmax : e ≤ 971) (hpos : 0 < m) :
    UnpackedFloat.pack Format.binary64 (.finite s m e hpos) =
      packComponents Format.binary64 s (BitVec.ofNat 11 (e + 1075).toNat) (BitVec.ofNat 52 m) := by
  have hne : m ≠ 0 := Nat.ne_of_gt hpos
  -- the top bit is there, so the number is normal and its top bit is left out
  have hlog : m.log2 + 1 = Format.binary64.mantissaBits := by
    have := (Nat.le_log2 hne).mpr hlow
    have := (Nat.log2_lt hne).mpr hhigh
    change m.log2 + 1 = 53
    omega
  have hbias : (e + Format.binary64.exponentBias + 52).toNat = (e + 1075).toNat := by
    change (e + 1023 + 52).toNat = _
    omega
  have hfits : ¬ 2 ^ 11 ≤ (e + 1075).toNat + 1 := by omega
  change (if 2 ^ 11 ≤ (e + Format.binary64.exponentBias + 52).toNat + 1 then _
    else if m.log2 + 1 = Format.binary64.mantissaBits then _ else _) = _
  rw [hbias, if_neg hfits, if_pos hlog, ← hbias]
  rfl

/-- Where the exponent has neither zeros nor ones only, the number has a bit in front of those of
its significand that are stored. -/
theorem exists_unpack_eq_finite {bits : BitVec Format.binary64.numBits}
    (hones : unpackExponent bits ≠ -1#11) (hzero : unpackExponent bits ≠ 0#11) :
    ∃ hpos, UnpackedFloat.unpack Format.binary64 bits =
      .finite (Sign.ofBitVec (unpackSign bits)) (1#1 ++ unpackMantissa bits).toNat
        ((unpackExponent bits).toNat - (1023 + 52)) hpos :=
  ⟨_, (if_neg hones).trans (if_neg hzero)⟩

theorem finite_congr {s s' : Sign} {m m' : Nat} {e e' : Int} {hpos : 0 < m} {hpos' : 0 < m'}
    (hs : s = s') (hm : m = m') (he : e = e') :
    UnpackedFloat.finite s m e hpos = .finite s' m' e' hpos' := by
  subst hs hm he
  rfl

/-- **A number whose significand has its top bit is packed exactly**, as long as its exponent is one
of a normal number. -/
theorem unpack_pack_of_top (s : Sign) {m : Nat} {e : Int} (hlow : 2 ^ 52 ≤ m) (hhigh : m < 2 ^ 53)
    (he : -1074 ≤ e) (hmax : e ≤ 971) (hpos : 0 < m) :
    UnpackedFloat.unpack Format.binary64
        (UnpackedFloat.pack Format.binary64 (.finite s m e hpos)) = .finite s m e hpos := by
  have hexponent : (BitVec.ofNat 11 (e + 1075).toNat).toNat = (e + 1075).toNat := by
    rw [BitVec.toNat_ofNat, Nat.mod_eq_of_lt (by omega)]
  -- the two exponents with a meaning of their own do not occur
  have hones : BitVec.ofNat 11 (e + 1075).toNat ≠ -1#11 := by
    intro h
    have := congrArg BitVec.toNat h
    rw [hexponent] at this
    change _ = 2047 at this
    omega
  have hzero : BitVec.ofNat 11 (e + 1075).toNat ≠ 0#11 := by
    intro h
    have := congrArg BitVec.toNat h
    rw [hexponent] at this
    change _ = 0 at this
    omega
  -- the top bit that was left out is put back
  have hmantissa : (1#1 ++ BitVec.ofNat 52 m).toNat = m := by
    rw [BitVec.toNat_append, ← Nat.shiftLeft_add_eq_or_of_lt (BitVec.isLt _), BitVec.toNat_ofNat]
    change 1 <<< 52 + m % 2 ^ 52 = m
    omega
  let bits :=
    packComponents Format.binary64 s (BitVec.ofNat 11 (e + 1075).toNat) (BitVec.ofNat 52 m)
  have hfield : unpackExponent bits = BitVec.ofNat 11 (e + 1075).toNat :=
    unpackExponent_packComponents
  obtain ⟨hpos', hunpack⟩ := exists_unpack_eq_finite (hfield ▸ hones) (hfield ▸ hzero)
  rw [pack_of_top s hlow hhigh he hmax, hunpack]
  refine finite_congr (unpackSign_packComponents _ _ _) ?_ ?_
  · rw [unpackMantissa_packComponents, hmantissa]
  · rw [hfield, hexponent]
    omega

/-- The exact value of a packed number. -/
theorem Binary.ofFloat?_pack {m : Nat} {e : Int} (hlow : 2 ^ 52 ≤ m) (hhigh : m < 2 ^ 53)
    (he : -1074 ≤ e) (hmax : e ≤ 971) (hpos : 0 < m) :
    Binary.ofFloat? ⟨Float.Model.pack (.finite .positive m e hpos)⟩ = some ⟨false, m, e⟩ := by
  have hbits : (Float.toBits ⟨Float.Model.pack (.finite .positive m e hpos)⟩).toNat =
      (e + 1075).toNat * 2 ^ 52 + (m - 2 ^ 52) := by
    change (UnpackedFloat.pack Format.binary64 (.finite .positive m e hpos)).toNat = _
    rw [pack_of_top _ hlow hhigh he hmax, toNat_packComponents, BitVec.toNat_ofNat,
      BitVec.toNat_ofNat]
    change (0 * 2 ^ 11 + (e + 1075).toNat % 2 ^ 11) * 2 ^ 52 + m % 2 ^ 52 = _
    omega
  -- the three fields of the bits can be told apart again
  have hfield :
      ((e + 1075).toNat * 2 ^ 52 + (m - 2 ^ 52)) / 2 ^ 52 % 2 ^ 11 = (e + 1075).toNat := by
    omega
  rw [Binary.ofFloat?, hbits, Binary.ofBits?]
  simp only [Nat.shiftRight_eq_div_pow, Nat.shiftLeft_eq, Nat.one_mul, hfield]
  have hsign : ((e + 1075).toNat * 2 ^ 52 + (m - 2 ^ 52)) / 2 ^ (11 + 52) % 2 = 0 := by omega
  have hdigits : 2 ^ 52 + ((e + 1075).toNat * 2 ^ 52 + (m - 2 ^ 52)) % 2 ^ 52 = m := by omega
  have hexponent : (2 : Int) - (2 ^ (11 - 1) : Nat) - (52 : Nat) + (e + 1075).toNat - 1 = e := by
    omega
  rw [if_neg (by omega), if_neg (by omega), hsign, hdigits]
  exact congrArg (fun e => some (Binary.mk false m e)) hexponent

/-! ## Doubles -/

/-- An integer is made a number by multiplying it by one, which is why the product has to be exact.
-/
theorem ofInt_eq_mul {n : Nat} (hn : n < 2 ^ 53) :
    Float.ofInt n = n.toUInt64.toFloat * Float.ofBits 0x3FF0000000000000 := by
  change Float.ofScientific n false 0 = _
  rw [Float.ofScientific, dif_pos ⟨hn, by decide⟩, if_neg Bool.false_ne_true]
  rfl

/-- The exact value of a whole number. -/
theorem Binary.ofFloat?_ofInt {n : Nat} (hpos : 0 < n) (hn : n < 2 ^ 53) :
    Binary.ofFloat? (Float.ofInt n) = some ⟨false, topSignificand n, (n.log2 : Int) - 52⟩ := by
  obtain ⟨hlow, hhigh⟩ := topSignificand_bounds hpos hn
  have hlog : n.log2 < 53 := (Nat.log2_lt (Nat.ne_of_gt hpos)).mpr hn
  obtain ⟨htop, hofNat⟩ := ofNat_of_lt hpos hn
  have hword : n.toUInt64.toNat = n := by
    rw [Nat.toUInt64, UInt64.toNat_ofNat', Nat.mod_eq_of_lt (by omega)]
  -- both factors are exact, and so is their product
  have hone : (Float.ofBits 0x3FF0000000000000).toModel.unpack =
      .finite .positive (2 ^ 52) (-52) (by decide) := by
    rfl
  have hfactor : (n.toUInt64.toFloat).toModel.unpack =
      .finite .positive (topSignificand n) ((n.log2 : Int) - 52) htop := by
    change UnpackedFloat.unpack Format.binary64 (UnpackedFloat.pack Format.binary64
      (UnpackedFloat.ofNat Format.binary64 n.toUInt64.toNat)) = _
    rw [hword, hofNat]
    exact unpack_pack_of_top _ hlow hhigh (by omega) (by omega) _
  have hproduct : Float.ofInt n = ⟨Float.Model.pack
      (.finite .positive (topSignificand n) ((n.log2 : Int) - 52) htop)⟩ := by
    rw [ofInt_eq_mul hn]
    change Float.ofModel (Float.Model.pack (UnpackedFloat.mul Format.binary64
      (n.toUInt64.toFloat).toModel.unpack (Float.ofBits 0x3FF0000000000000).toModel.unpack)) = _
    rw [hfactor, hone, mul_one_of_top _ hlow hhigh (by omega)]
  rw [hproduct, Binary.ofFloat?_pack hlow hhigh (by omega) (by omega)]

/-- The whole part of a whole number is the number. -/
theorem Binary.wholePart_topSignificand {n : Nat} (hn : n < 2 ^ 53) :
    (⟨false, topSignificand n, (n.log2 : Int) - 52⟩ : Binary).wholePart = n := by
  have hlog : n.log2 ≤ 52 := by
    by_cases h : n = 0
    · simp [h]
    · have := (Nat.log2_lt h).mpr hn
      omega
  obtain ⟨k, hk⟩ : ∃ k, 52 - n.log2 = k := ⟨_, rfl⟩
  have hexponent : (n.log2 : Int) - 52 = -(k : Int) := by omega
  rw [Binary.wholePart, topSignificand, hk, hexponent, Nat.shiftLeft_eq]
  -- without a shift the exponent is zero, else dividing takes back what the shift added
  cases k with
  | zero => simp [Binary.ratio]
  | succ k =>
    have hratio : Binary.ratio ⟨false, n * 2 ^ (k + 1), -((k + 1 : Nat) : Int)⟩ =
        (n * 2 ^ (k + 1), 1 <<< (k + 1)) := rfl
    rw [hratio, Nat.shiftLeft_eq, Nat.one_mul, Nat.mul_div_cancel _ (Nat.two_pow_pos _)]
    rfl

/-- **A whole number below 2 ^ 53 is not changed** when it is taken for a double and back. -/
theorem toNat64_ofInt {n : Nat} (hpos : 0 < n) (hn : n < 2 ^ 53) : toNat64 (Float.ofInt n) = n := by
  rw [toNat64, clampWhole, Binary.ofFloat?_ofInt hpos hn]
  dsimp only
  rw [Binary.wholePart_topSignificand hn]
  omega

/-! ## Whole parts of doubles -/

/-- A positive whole part is the same as a signed and as an unsigned number. -/
theorem toNat64_eq_of_toInt64 {x : Float} {value : Int} (h : toInt64 x = value) (hpos : 0 < value)
    (hlt : value < 0x7FFFFFFFFFFFFFFF) : toNat64 x = value.toNat := by
  rw [toInt64, clampWhole] at h
  rw [toNat64, clampWhole]
  cases hx : Binary.ofFloat? x with
  | some b =>
    simp only [hx] at h ⊢
    omega
  | none =>
    simp only [hx] at h ⊢
    split at h
    case isTrue => omega
    case isFalse hnan =>
      rw [if_neg hnan]
      split at h <;> omega

theorem compare_one_of_le {x : Float} (h : 1.0 ≤ x) :
    (UnpackedFloat.compare (.finite .positive (2 ^ 52) (-52) (by decide)) x.toModel.unpack).any
      (·.isLE) = true := by
  have hone : (1.0 : Float) = Float.ofBits 0x3FF0000000000000 := by decide +kernel
  rw [hone] at h
  exact of_decide_eq_true h

/-- The bits of the infinity have no exact value, and no sign. -/
theorem bits_of_infinity {x : Float} (h : x.toModel.unpack = .infinity .positive) :
    Binary.ofFloat? x = none ∧ signBit x = false := by
  change UnpackedFloat.unpack Format.binary64 x.toModel.toBits.toBitVec = _ at h
  by_cases hones : @unpackExponent Format.binary64 x.toModel.toBits.toBitVec = -1#11
  case neg =>
    -- any other exponent is that of a finite number
    by_cases hzero : @unpackExponent Format.binary64 x.toModel.toBits.toBitVec = 0#11
    · replace h := (if_pos hzero).symm.trans ((if_neg hones).symm.trans h)
      by_cases hmantissa : @unpackMantissa Format.binary64 x.toModel.toBits.toBitVec = 0#52
      · cases (dif_pos hmantissa).symm.trans h
      · cases (dif_neg hmantissa).symm.trans h
    · obtain ⟨_, hfinite⟩ := exists_unpack_eq_finite hones hzero
      cases hfinite.symm.trans h
  case pos =>
    replace h := (if_pos hones).symm.trans h
    split at h
    case isFalse => cases h
    case isTrue =>
      have hsign :
          Sign.ofBitVec (@unpackSign Format.binary64 x.toModel.toBits.toBitVec) = .positive :=
        UnpackedFloat.infinity.inj h
      have hbit : @unpackSign Format.binary64 x.toModel.toBits.toBitVec = 0#1 := by
        rw [Sign.ofBitVec] at hsign
        split at hsign
        case isTrue hzero => exact hzero
        case isFalse => cases hsign
      have hfield := congrArg BitVec.toNat hones
      have htop := congrArg BitVec.toNat hbit
      rw [unpackExponent, BitVec.toNat_cast, BitVec.extractLsb_toNat] at hfield
      rw [toNat_unpackSign] at htop
      change (x.toModel.toBits.toNat >>> 52) % 2 ^ 11 = 2047 at hfield
      change x.toModel.toBits.toNat / 2 ^ 63 % 2 = 0 at htop
      have hlt := x.toModel.toBits.toNat_lt
      have hbits : x.toBits = x.toModel.toBits := rfl
      rw [Nat.shiftRight_eq_div_pow] at hfield
      constructor
      · rw [Binary.ofFloat?, hbits, Binary.ofBits?]
        simp only [Nat.shiftRight_eq_div_pow, Nat.shiftLeft_eq, Nat.one_mul, hfield]
        rfl
      · rw [signBit, hbits, Nat.shiftRight_eq_div_pow, beq_eq_false_iff_ne]
        omega

/-- An infinity that is at least one clamps to the last unsigned number. -/
theorem toNat64_of_not_isFinite {x : Float} (hfinite : x.isFinite = false) (hone : 1.0 ≤ x) :
    toNat64 x = 0xFFFFFFFFFFFFFFFF := by
  have hcompare := compare_one_of_le hone
  change x.toModel.unpack.isFinite = false at hfinite
  -- of the numbers that are not finite only the positive infinity is at least one
  cases hx : x.toModel.unpack with
  | infinity s =>
    cases s with
    | negative => rw [hx] at hcompare; cases hcompare
    | positive =>
      obtain ⟨hnone, hsign⟩ := bits_of_infinity hx
      have hnan : x.isNaN = false := by
        change x.toModel.unpack.isNaN = false
        rw [hx]
        rfl
      rw [toNat64, clampWhole, hnone]
      simp only [hnan, hsign, Bool.false_eq_true, if_false]
      rfl
  | notANumber => rw [hx] at hcompare; cases hcompare
  | zero s => rw [hx] at hfinite; cases hfinite
  | finite s m e h => rw [hx] at hfinite; cases hfinite

end PdfDisplay
