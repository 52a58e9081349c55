import RmdCanSdk.HalfFloat.Rounding

/-!
# Decoding half-precision numbers

The two conversions to single precision. They differ in the width they assume of the
mantissa when they count its leading zeros, so only one of them is right on subnormal
numbers.
-/

namespace RmdCanSdk

def countl_zero (value : BitVec 32) : Int :=
  if value = 0 then 32 else 31 - Nat.log2 value.toNat

/-- A shift of a 32-bit word; larger amounts than 31 are undefined. -/
def shiftLeft (value : BitVec 32) (amount : Int) : Option (BitVec 32) :=
  if 0 ≤ amount ∧ amount < 32 then some (value <<< amount.toNat) else none

/-- The common text of the decoders, with the number of leading zeros they attribute to the
width of the mantissa. -/
def decodeHalf (unused : Int) (value : BitVec 16) : Option (BitVec 32) :=
  if value &&& 0x7fff#16 = 0 then some (value.zeroExtend 32 <<< 16)
  else
    let halfSign := value.zeroExtend 32 &&& 0x8000#32
    let halfExp : Int := (value.zeroExtend 32 &&& 0x7c00#32).toInt
    let halfMantissa := value.zeroExtend 32 &&& 0x03ff#32
    let sign := halfSign <<< 16
    if halfExp = 0x7c00 then some (sign ||| 0x7f800000#32 ||| halfMantissa <<< 13)
    else
      let exp := halfExp / 2 ^ 10 - 15 + 127
      if halfExp = 0 then
        let leading := countl_zero halfMantissa - unused
        let exp := BitVec.ofInt 32 (exp - leading) <<< 23
        (shiftLeft halfMantissa (14 + leading)).map fun mantissa =>
          sign ||| exp ||| (mantissa &&& 0x7fffff#32)
      else some (sign ||| BitVec.ofInt 32 exp <<< 23 ||| halfMantissa <<< 13)

def halfToSingle (value : BitVec 16) : Option (BitVec 32) := decodeHalf 22 value

def heimaHalf2Single (value : BitVec 16) : Option (BitVec 32) := decodeHalf 6 value

/-! ## Fields of a half-precision pattern -/

namespace Half

/-- The exponent field. -/
def exponent (value : BitVec 16) : ℕ := value.toNat / 2 ^ 10 % 2 ^ 5

/-- The mantissa field. -/
def mantissa (value : BitVec 16) : ℕ := value.toNat % 2 ^ 10

variable (value : BitVec 16)

theorem exponent_lt : exponent value < 2 ^ 5 := Nat.mod_lt _ (by decide)

theorem mantissa_lt : mantissa value < 2 ^ 10 := Nat.mod_lt _ (by decide)

theorem magnitude_eq : magnitude value = exponent value * 2 ^ 10 + mantissa value := by
  rw [magnitude, exponent, mantissa]
  omega

theorem toNat_zeroExtend : (value.zeroExtend 32).toNat = value.toNat := by
  have inRange := value.isLt
  rw [BitVec.zeroExtend_eq_setWidth, BitVec.toNat_setWidth]
  omega

theorem toNat_sign : ((value.zeroExtend 32 &&& 0x8000#32) <<< 16).toNat =
    value.toNat / 2 ^ 15 * 2 ^ 31 := by
  have inRange := value.isLt
  have field : (value.zeroExtend 32 &&& 0x8000#32).toNat = value.toNat / 2 ^ 15 * 2 ^ 15 := by
    rw [BitVec.toNat_and, toNat_zeroExtend]
    apply (and_field value.toNat 15 1).trans
    omega
  rw [BitVec.toNat_shiftLeft, field, Nat.shiftLeft_eq]
  omega

theorem toNat_zero (zero : magnitude value = 0) :
    (value.zeroExtend 32 <<< 16).toNat = value.toNat / 2 ^ 15 * 2 ^ 31 := by
  rw [BitVec.toNat_shiftLeft, toNat_zeroExtend, Nat.shiftLeft_eq]
  have inRange := value.isLt
  rw [magnitude] at zero
  omega

theorem toInt_exp : (value.zeroExtend 32 &&& 0x7c00#32).toInt = exponent value * 2 ^ 10 := by
  have inRange := exponent_lt value
  have field : (value.zeroExtend 32 &&& 0x7c00#32).toNat = exponent value * 2 ^ 10 := by
    rw [BitVec.toNat_and, toNat_zeroExtend]
    exact and_field value.toNat 10 5
  rw [BitVec.toInt_eq_toNat_of_lt (by omega), field]
  push_cast
  rfl

theorem toNat_mantissa : (value.zeroExtend 32 &&& 0x03ff#32).toNat = mantissa value := by
  rw [BitVec.toNat_and, toNat_zeroExtend]
  exact Nat.and_two_pow_sub_one_eq_mod value.toNat 10

theorem and_magnitude : value &&& 0x7fff#16 = 0 ↔ magnitude value = 0 := by
  rw [← BitVec.toNat_inj, BitVec.toNat_and]
  exact Eq.congr_left (Nat.and_two_pow_sub_one_eq_mod value.toNat 15)

end Half

/-! ## The decoded magnitude -/

/-- The pattern a decoder computes from the fields, without the sign. -/
def singleMagnitude (unused exponent mantissa : ℕ) : Option ℕ :=
  if exponent = 0 ∧ mantissa = 0 then some 0
  else if exponent = 31 then some (255 * 2 ^ 23 + mantissa * 2 ^ 13)
  else if exponent = 0 then
    if 45 - unused - Nat.log2 mantissa < 32 then
      some ((81 + unused + Nat.log2 mantissa) * 2 ^ 23 +
        mantissa * 2 ^ (45 - unused - Nat.log2 mantissa) % 2 ^ 23)
    else none
  else some ((exponent + 112) * 2 ^ 23 + mantissa * 2 ^ 13)

/-- Three disjoint parts of a word. -/
theorem toNat_parts {sign expBits mantissaBits : BitVec 32} {isNegative exponent : ℕ}
    (isSign : sign.toNat = isNegative * 2 ^ 31) (isExponent : expBits.toNat = exponent * 2 ^ 23)
    (small : exponent < 2 ^ 8) (low : mantissaBits.toNat < 2 ^ 23) :
    (sign ||| expBits ||| mantissaBits).toNat =
      isNegative * 2 ^ 31 + (exponent * 2 ^ 23 + mantissaBits.toNat) := by
  have joined : expBits.toNat ||| mantissaBits.toNat =
      exponent * 2 ^ 23 + mantissaBits.toNat := by
    rw [isExponent, Nat.mul_comm, ← Nat.two_pow_add_eq_or_of_lt low]
  have below : exponent * 2 ^ 23 + mantissaBits.toNat < 2 ^ 31 := by omega
  rw [BitVec.or_assoc, BitVec.toNat_or, BitVec.toNat_or, joined, isSign,
    Nat.mul_comm isNegative, ← Nat.two_pow_add_eq_or_of_lt below]

theorem toNat_exponentBits {exponent : ℕ} {exp : Int} (same : exp = exponent)
    (small : exponent < 2 ^ 8) : (BitVec.ofInt 32 exp <<< 23).toNat = exponent * 2 ^ 23 := by
  rw [same, BitVec.ofInt_natCast, BitVec.toNat_shiftLeft, BitVec.toNat_ofNat, Nat.shiftLeft_eq]
  omega

theorem countl_zero_eq {value : BitVec 32} {mantissa : ℕ} (isMantissa : value.toNat = mantissa)
    (nonzero : mantissa ≠ 0) : countl_zero value = 31 - Nat.log2 mantissa := by
  rw [countl_zero, if_neg, isMantissa]
  rw [← BitVec.toNat_inj, isMantissa]
  exact nonzero

/-- The normalisation of a subnormal mantissa. -/
theorem toNat_subnormalSingle {sign halfMantissa : BitVec 32} {isNegative mantissa unused : ℕ}
    {exp amount : Int} (isSign : sign.toNat = isNegative * 2 ^ 31)
    (isMantissa : halfMantissa.toNat = mantissa) (inRange : unused + Nat.log2 mantissa < 45)
    (isExp : exp = (81 + unused + Nat.log2 mantissa : ℕ))
    (isAmount : amount = (45 - unused - Nat.log2 mantissa : ℕ)) :
    ((shiftLeft halfMantissa amount).map fun mantissa =>
        sign ||| BitVec.ofInt 32 exp <<< 23 ||| (mantissa &&& 0x7fffff#32)).map BitVec.toNat =
      (if 45 - unused - Nat.log2 mantissa < 32 then
        some ((81 + unused + Nat.log2 mantissa) * 2 ^ 23 +
          mantissa * 2 ^ (45 - unused - Nat.log2 mantissa) % 2 ^ 23)
      else none).map (isNegative * 2 ^ 31 + ·) := by
  have bounded : 81 + unused + Nat.log2 mantissa < 2 ^ 8 := by omega
  rw [shiftLeft, isAmount]
  by_cases defined : 45 - unused - Nat.log2 mantissa < 32
  · have inWidth : (0 : Int) ≤ (45 - unused - Nat.log2 mantissa : ℕ) ∧
        ((45 - unused - Nat.log2 mantissa : ℕ) : Int) < 32 := by omega
    have payload : (halfMantissa <<< (45 - unused - Nat.log2 mantissa) &&& 0x7fffff#32).toNat =
        mantissa * 2 ^ (45 - unused - Nat.log2 mantissa) % 2 ^ 23 := by
      rw [BitVec.toNat_and, BitVec.toNat_shiftLeft, isMantissa, Nat.shiftLeft_eq]
      apply (Nat.and_two_pow_sub_one_eq_mod _ 23).trans
      exact Nat.mod_mod_of_dvd _ (by decide)
    rw [if_pos inWidth, if_pos defined, Option.map_some, Option.map_some, Option.map_some,
      Int.toNat_natCast, ← payload]
    congr 1
    apply toNat_parts isSign (toNat_exponentBits isExp bounded) bounded
    rw [payload]
    exact Nat.mod_lt _ (by decide)
  · rw [if_neg (fun inWidth => defined (Int.ofNat_lt.mp inWidth.2)), if_neg defined]
    rfl

/-- The decoders put the sign before the decoded magnitude. -/
theorem toNat_decodeHalf {unused : ℕ} (inRange : unused ≤ 22) (value : BitVec 16) :
    (decodeHalf unused value).map BitVec.toNat =
      (singleMagnitude unused (Half.exponent value) (Half.mantissa value)).map
        (value.toNat / 2 ^ 15 * 2 ^ 31 + ·) := by
  have expRange := Half.exponent_lt value
  have small := Half.mantissa_lt value
  have zero : magnitude value = 0 ↔ Half.exponent value = 0 ∧ Half.mantissa value = 0 := by
    rw [Half.magnitude_eq]
    omega
  have special : (Half.exponent value : Int) * 2 ^ 10 = 0x7c00 ↔ Half.exponent value = 31 := by
    omega
  have subnormal : (Half.exponent value : Int) * 2 ^ 10 = 0 ↔ Half.exponent value = 0 := by
    omega
  have quotient : (Half.exponent value : Int) * 2 ^ 10 / 2 ^ 10 = Half.exponent value :=
    Int.mul_ediv_cancel _ (by decide)
  have payload : Half.mantissa value * 2 ^ 13 < 2 ^ 23 := by omega
  have exp : (Half.exponent value : Int) - 15 + 127 = (Half.exponent value + 112 : ℕ) := by omega
  have expBound : Half.exponent value + 112 < 2 ^ 8 := by omega
  have isMantissa := Half.toNat_mantissa value
  have isSign := Half.toNat_sign value
  have shifted : ((value.zeroExtend 32 &&& 0x03ff#32) <<< 13).toNat =
      Half.mantissa value * 2 ^ 13 := by
    rw [BitVec.toNat_shiftLeft, isMantissa, Nat.shiftLeft_eq]
    exact Nat.mod_eq_of_lt (payload.trans (by decide))
  simp only [decodeHalf, singleMagnitude, Half.and_magnitude, zero, Half.toInt_exp, special,
    subnormal, quotient]
  by_cases isZero : Half.exponent value = 0 ∧ Half.mantissa value = 0
  · rw [if_pos isZero, if_pos isZero, Option.map_some, Option.map_some,
      Half.toNat_zero value (zero.mpr isZero), Nat.add_zero]
  rw [if_neg isZero, if_neg isZero]
  by_cases isSpecial : Half.exponent value = 31
  · have infinity : (0x7f800000#32).toNat = 255 * 2 ^ 23 := rfl
    rw [if_pos isSpecial, if_pos isSpecial, Option.map_some, Option.map_some,
      toNat_parts isSign infinity (by decide) (shifted.trans_lt payload), shifted]
  rw [if_neg isSpecial, if_neg isSpecial]
  by_cases isSubnormal : Half.exponent value = 0
  · rw [if_pos isSubnormal, if_pos isSubnormal]
    have nonzero : Half.mantissa value ≠ 0 := fun noMantissa => isZero ⟨isSubnormal, noMantissa⟩
    have log : Nat.log2 (Half.mantissa value) < 10 := (Nat.log2_lt nonzero).mpr small
    have leading := countl_zero_eq isMantissa nonzero
    apply toNat_subnormalSingle isSign isMantissa (by omega)
    · rw [leading]
      omega
    · rw [leading]
      omega
  · rw [if_neg isSubnormal, if_neg isSubnormal, Option.map_some, Option.map_some,
      toNat_parts isSign (toNat_exponentBits exp expBound) expBound (shifted.trans_lt payload),
      shifted]

end RmdCanSdk
