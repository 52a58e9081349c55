import RmdCanSdk.Library.Binary

/-!
# Encoding half-precision numbers

The two conversions from single precision, on bit patterns. The shift amounts of both lie
between 0 and 24.
-/

namespace RmdCanSdk

def singleToHalf (value : BitVec 32) : BitVec 16 :=
  let sign := value &&& 0x80000000#32
  let exp : Int := (value &&& 0x7f800000#32).toInt
  let mantissa := value &&& 0x007fffff#32
  let halfSign := sign >>> 16
  if exp = 0x7f800000 then
    let nanBit := if mantissa = 0 then 0#32 else 0x0200#32
    (halfSign ||| 0x7c00#32 ||| nanBit ||| mantissa >>> 13).truncate 16
  else
    let halfExp := exp / 2 ^ 23 - 127 + 15
    if halfExp ≥ 0x1f then (halfSign ||| 0x7c00#32).truncate 16
    else if halfExp ≤ 0 then
      if 14 - halfExp > 24 then halfSign.truncate 16
      else
        let mantissa := mantissa ||| 0x00800000#32
        let halfMantissa := mantissa >>> (14 - halfExp).toNat
        let roundBit := 1#32 <<< (13 - halfExp).toNat
        let halfMantissa :=
          if mantissa &&& roundBit ≠ 0 ∧ mantissa &&& (3#32 * roundBit - 1#32) ≠ 0 then
            halfMantissa + 1#32
          else halfMantissa
        (halfSign ||| halfMantissa).truncate 16
    else
      let halfExpBits := BitVec.ofInt 32 halfExp <<< 10
      let halfMantissa := mantissa >>> 13
      if mantissa &&& 0x00001000#32 ≠ 0 ∧ mantissa &&& 0x00002fff#32 ≠ 0 then
        ((halfSign ||| halfExpBits ||| halfMantissa) + 1#32).truncate 16
      else (halfSign ||| halfExpBits ||| halfMantissa).truncate 16

def heimaSingle2Half (value : BitVec 32) : BitVec 16 :=
  let sign := value &&& 0x80000000#32
  let exp := value &&& 0x7f800000#32
  let man := value &&& 0x007fffff#32
  let halfSign := sign >>> 16
  if exp = 0x7f800000#32 then
    let nanBit := if man = 0 then 0#32 else 0x0200#32
    (halfSign ||| 0x7c00#32 ||| nanBit ||| man >>> 13).truncate 16
  else
    let halfExp := (exp >>> 23).toInt - 127 + 15
    if halfExp ≥ 0x1f then (halfSign ||| 0x7c00#32).truncate 16
    else if halfExp ≤ 0 then
      if 14 - halfExp > 24 then halfSign.truncate 16
      else
        let man := man ||| 0x00800000#32
        let halfMan := man >>> (14 - halfExp).toNat
        let roundBit := 1#32 <<< (13 - halfExp).toNat
        let halfMan :=
          if man &&& roundBit ≠ 0 ∧ man &&& (3#32 * roundBit - 1#32) ≠ 0 then
            halfMan + 1#32
          else halfMan
        (halfSign ||| halfMan).truncate 16
    else
      let halfExpBits := BitVec.ofInt 32 halfExp <<< 10
      let halfMan := man >>> 13
      let roundBit := 0x00001000#32
      if man &&& roundBit ≠ 0 ∧ man &&& (3#32 * roundBit - 1#32) ≠ 0 then
        ((halfSign ||| halfExpBits ||| halfMan) + 1#32).truncate 16
      else (halfSign ||| halfExpBits ||| halfMan).truncate 16

/-! ## Fields of a single-precision pattern -/

namespace Single

/-- The exponent field. -/
def exponent (value : BitVec 32) : ℕ := value.toNat / 2 ^ 23 % 2 ^ 8

/-- The mantissa field. -/
def mantissa (value : BitVec 32) : ℕ := value.toNat % 2 ^ 23

variable (value : BitVec 32)

theorem exponent_lt : exponent value < 2 ^ 8 := Nat.mod_lt _ (by decide)

theorem mantissa_lt : mantissa value < 2 ^ 23 := Nat.mod_lt _ (by decide)

theorem magnitude_eq : magnitude value = exponent value * 2 ^ 23 + mantissa value := by
  rw [magnitude, exponent, mantissa]
  omega

theorem toNat_sign : (value &&& 0x80000000#32).toNat = value.toNat / 2 ^ 31 * 2 ^ 31 := by
  have field := and_field value.toNat 31 1
  have inRange := value.isLt
  rw [BitVec.toNat_and]
  apply field.trans
  omega

theorem toNat_exp : (value &&& 0x7f800000#32).toNat = exponent value * 2 ^ 23 := by
  rw [BitVec.toNat_and]
  exact and_field value.toNat 23 8

theorem toInt_exp : (value &&& 0x7f800000#32).toInt = exponent value * 2 ^ 23 := by
  have inRange := exponent_lt value
  have unsigned := toNat_exp value
  rw [BitVec.toInt_eq_toNat_of_lt (by omega), unsigned]
  push_cast
  rfl

theorem toInt_exp_div : (value &&& 0x7f800000#32).toInt / 2 ^ 23 = exponent value := by
  rw [toInt_exp]
  exact Int.mul_ediv_cancel _ (by decide)

theorem toNat_mantissa : (value &&& 0x007fffff#32).toNat = mantissa value := by
  rw [BitVec.toNat_and]
  exact Nat.and_two_pow_sub_one_eq_mod value.toNat 23

theorem toNat_halfSign :
    ((value &&& 0x80000000#32) >>> 16).toNat = value.toNat / 2 ^ 31 * 2 ^ 15 := by
  rw [BitVec.toNat_ushiftRight, toNat_sign, Nat.shiftRight_eq_div_pow]
  omega

variable {value}

theorem infinity_eq : binary32.infinity = 255 * 2 ^ 23 := rfl

theorem isFinite_iff : binary32.IsFinite value ↔ exponent value < 255 := by
  have small := mantissa_lt value
  rw [BinaryFormat.IsFinite, infinity_eq, magnitude_eq]
  omega

theorem isInfinite_iff :
    binary32.IsInfinite value ↔ exponent value = 255 ∧ mantissa value = 0 := by
  have small := mantissa_lt value
  rw [BinaryFormat.IsInfinite, infinity_eq, magnitude_eq]
  omega

theorem isNaN_iff :
    binary32.IsNaN value ↔ exponent value = 255 ∧ mantissa value ≠ 0 := by
  have small := mantissa_lt value
  have inRange := exponent_lt value
  rw [BinaryFormat.IsNaN, infinity_eq, magnitude_eq]
  omega

end Single

/-- The two encoders are the same function, although they compute with the exponent in
different integer types. -/
theorem heimaSingle2Half_eq (value : BitVec 32) : heimaSingle2Half value = singleToHalf value := by
  have exp := Single.toNat_exp value
  have inRange := Single.exponent_lt value
  have shifted : ((value &&& 0x7f800000#32) >>> 23).toInt = Single.exponent value := by
    have unsigned : ((value &&& 0x7f800000#32) >>> 23).toNat = Single.exponent value := by
      rw [BitVec.toNat_ushiftRight, exp, Nat.shiftRight_eq_div_pow]
      omega
    rw [BitVec.toInt_eq_toNat_of_lt (by omega), unsigned]
  have special : (value &&& 0x7f800000#32).toInt = 0x7f800000 ↔
      value &&& 0x7f800000#32 = 0x7f800000#32 := by
    have pattern : (0x7f800000#32).toNat = 0x7f800000 := rfl
    rw [← BitVec.toNat_inj, exp, pattern, Single.toInt_exp]
    omega
  have mask : 3#32 * 0x00001000#32 - 1#32 = 0x00002fff#32 := by decide
  simp only [heimaSingle2Half, singleToHalf, shifted, special, Single.toInt_exp_div, mask]

/-! ## The magnitude -/

/-- The magnitude that the encoders compute from the fields of a pattern. -/
def halfMagnitude (exponent mantissa : ℕ) : ℕ :=
  if exponent = 255 then
    if mantissa = 0 then 0x7c00 else 0x7c00 + (0x0200 ||| mantissa / 2 ^ 13)
  else if 143 ≤ exponent then 0x7c00
  else if exponent < 102 then 0
  else if exponent ≤ 112 then shiftEven (2 ^ 23 + mantissa) (126 - exponent)
  else shiftEven ((exponent - 112) * 2 ^ 23 + mantissa) 13

theorem and_ne_zero_iff (left right : BitVec 32) :
    left &&& right ≠ 0 ↔ left.toNat &&& right.toNat ≠ 0 := by
  rw [ne_eq, ← BitVec.toNat_inj, BitVec.toNat_and]
  rfl

section

variable {halfSign bits : BitVec 32} {sign : ℕ} (isSign : halfSign.toNat = sign * 2 ^ 15)
variable (single : sign < 2) (small : bits.toNat < 2 ^ 15)
include isSign small

theorem toNat_or_sign : (halfSign ||| bits).toNat = sign * 2 ^ 15 + bits.toNat := by
  rw [BitVec.toNat_or, isSign, Nat.mul_comm, ← Nat.two_pow_add_eq_or_of_lt small]

include single

theorem toNat_truncate_or :
    ((halfSign ||| bits).truncate 16).toNat = sign * 2 ^ 15 + bits.toNat := by
  rw [BitVec.truncate_eq_setWidth, BitVec.toNat_setWidth, toNat_or_sign isSign small]
  omega

/-- The carry of an increment stays below the sign. -/
theorem toNat_truncate_succ (room : bits.toNat + 1 < 2 ^ 15) :
    (((halfSign ||| bits) + 1#32).truncate 16).toNat = sign * 2 ^ 15 + (bits.toNat + 1) := by
  rw [BitVec.truncate_eq_setWidth, BitVec.toNat_setWidth, BitVec.toNat_add,
    toNat_or_sign isSign small]
  have one : (1#32).toNat = 1 := rfl
  rw [one]
  omega

end

/-- The test of the encoders on the bits that are shifted out. -/
theorem roundsUp_iff {mantissa roundBit mask : BitVec 32} {shift : ℕ}
    (bit : roundBit.toNat = 2 ^ shift) (bits : mask.toNat = 3 * 2 ^ shift - 1) :
    (mantissa &&& roundBit ≠ 0 ∧ mantissa &&& mask ≠ 0) ↔
      RoundsUp mantissa.toNat (shift + 1) := by
  rw [and_ne_zero_iff, and_ne_zero_iff, bit, bits, guard_and_sticky_iff]

/-- The round bit of a subnormal number, and the mask of the bits that matter. -/
theorem toNat_roundBit {shift : ℕ} (small : shift ≤ 23) :
    (1#32 <<< shift).toNat = 2 ^ shift ∧
      (3#32 * 1#32 <<< shift - 1#32).toNat = 3 * 2 ^ shift - 1 := by
  have positive : 0 < 2 ^ shift := Nat.two_pow_pos shift
  have bound : 2 ^ shift ≤ 2 ^ 23 := Nat.pow_le_pow_right (by decide) small
  have bit : (1#32 <<< shift).toNat = 2 ^ shift := by
    rw [BitVec.toNat_shiftLeft, Nat.shiftLeft_eq]
    have one : (1#32).toNat = 1 := rfl
    rw [one, Nat.one_mul, Nat.mod_eq_of_lt (by omega)]
  refine ⟨bit, ?_⟩
  have one : (1#32).toNat = 1 := rfl
  have three : (3#32).toNat = 3 := rfl
  rw [BitVec.toNat_sub, BitVec.toNat_mul, bit, one, three]
  omega

section

variable {halfSign bits : BitVec 32} {sign mantissa : ℕ}
variable (isSign : halfSign.toNat = sign * 2 ^ 15) (single : sign < 2)
variable (isMantissa : bits.toNat = mantissa) (inRange : mantissa < 2 ^ 23)
include isSign single isMantissa inRange

/-- Infinities and patterns that are not numbers. -/
theorem toNat_special :
    ((halfSign ||| 0x7c00#32 ||| (if bits = 0 then 0#32 else 0x0200#32) ||| bits >>> 13).truncate
      16).toNat = sign * 2 ^ 15 + halfMagnitude 255 mantissa := by
  have zero : bits = 0 ↔ mantissa = 0 := by
    rw [← BitVec.toNat_inj, isMantissa]
    rfl
  have infinity : (0x7c00#32).toNat = 2 ^ 10 * 31 := rfl
  rw [BitVec.or_assoc, BitVec.or_assoc]
  simp only [halfMagnitude, if_true]
  by_cases isZero : mantissa = 0
  · rw [zero.mpr isZero, if_pos rfl, if_pos isZero]
    exact toNat_truncate_or isSign single (by decide)
  · have nanBit : (0x0200#32).toNat = 0x0200 := rfl
    have payload : (0x0200#32 ||| bits >>> 13).toNat = 0x0200 ||| mantissa / 2 ^ 13 := by
      rw [BitVec.toNat_or, BitVec.toNat_ushiftRight, isMantissa, Nat.shiftRight_eq_div_pow,
        nanBit]
    have small : 0x0200 ||| mantissa / 2 ^ 13 < 2 ^ 10 :=
      Nat.or_lt_two_pow (by decide) (by omega)
    have joined : (0x7c00#32 ||| (0x0200#32 ||| bits >>> 13)).toNat =
        0x7c00 + (0x0200 ||| mantissa / 2 ^ 13) := by
      rw [BitVec.toNat_or, payload, infinity, ← Nat.two_pow_add_eq_or_of_lt small]
    rw [if_neg fun isZero' => isZero (zero.mp isZero'), if_neg isZero, ← joined]
    apply toNat_truncate_or isSign single
    omega

/-- Numbers that become subnormal. -/
theorem toNat_subnormal {shift : ℕ} (lower : 13 ≤ shift) (upper : shift ≤ 23) :
    ((halfSign |||
      if (bits ||| 0x00800000#32) &&& 1#32 <<< shift ≠ 0 ∧
          (bits ||| 0x00800000#32) &&& (3#32 * 1#32 <<< shift - 1#32) ≠ 0 then
        (bits ||| 0x00800000#32) >>> (shift + 1) + 1#32
      else (bits ||| 0x00800000#32) >>> (shift + 1)).truncate 16).toNat =
      sign * 2 ^ 15 + shiftEven (2 ^ 23 + mantissa) (shift + 1) := by
  have whole : (bits ||| 0x00800000#32).toNat = 2 ^ 23 + mantissa := by
    have hidden : (0x00800000#32).toNat = 2 ^ 23 * 1 := rfl
    rw [BitVec.toNat_or, isMantissa, hidden, Nat.lor_comm, ← Nat.two_pow_add_eq_or_of_lt inRange,
      Nat.mul_one]
  rcases toNat_roundBit upper with ⟨bit, mask⟩
  have shifted : ((bits ||| 0x00800000#32) >>> (shift + 1)).toNat =
      (2 ^ 23 + mantissa) / 2 ^ (shift + 1) := by
    rw [BitVec.toNat_ushiftRight, whole, Nat.shiftRight_eq_div_pow]
  have small : (2 ^ 23 + mantissa) / 2 ^ (shift + 1) < 2 ^ 10 := by
    have power : 2 ^ 14 ≤ 2 ^ (shift + 1) := Nat.pow_le_pow_right (by decide) (by omega)
    apply lt_of_le_of_lt (Nat.div_le_div_left power (by decide))
    omega
  simp only [roundsUp_iff bit mask, whole, shiftEven]
  split
  next =>
    have next : ((bits ||| 0x00800000#32) >>> (shift + 1) + 1#32).toNat =
        (2 ^ 23 + mantissa) / 2 ^ (shift + 1) + 1 := by
      rw [BitVec.toNat_add, shifted]
      have one : (1#32).toNat = 1 := rfl
      rw [one]
      omega
    rw [toNat_truncate_or isSign single (by omega), next]
  next => rw [toNat_truncate_or isSign single (by omega), shifted]

/-- Numbers that stay normal, or become infinite by a carry. -/
theorem toNat_normal {exponent : ℕ} {halfExpBits : BitVec 32}
    (isExponent : halfExpBits.toNat = exponent * 2 ^ 10) (inRange16 : exponent < 31) :
    (if bits &&& 0x00001000#32 ≠ 0 ∧ bits &&& 0x00002fff#32 ≠ 0 then
        ((halfSign ||| halfExpBits ||| bits >>> 13) + 1#32).truncate 16
      else (halfSign ||| halfExpBits ||| bits >>> 13).truncate 16).toNat =
      sign * 2 ^ 15 + shiftEven (exponent * 2 ^ 23 + mantissa) 13 := by
  have shifted : (bits >>> 13).toNat = mantissa / 2 ^ 13 := by
    rw [BitVec.toNat_ushiftRight, isMantissa, Nat.shiftRight_eq_div_pow]
  have small : (bits >>> 13).toNat < 2 ^ 10 := by omega
  have joined : (halfExpBits ||| bits >>> 13).toNat = exponent * 2 ^ 10 + mantissa / 2 ^ 13 := by
    rw [← shifted, BitVec.toNat_or, isExponent, Nat.mul_comm, ← Nat.two_pow_add_eq_or_of_lt small]
  have quotient : (exponent * 2 ^ 23 + mantissa) / 2 ^ 13 =
      exponent * 2 ^ 10 + mantissa / 2 ^ 13 := by omega
  have rounds : RoundsUp (exponent * 2 ^ 23 + mantissa) 13 ↔ RoundsUp mantissa 13 := by
    have even : Even (exponent * 2 ^ 10) := ⟨exponent * 2 ^ 9, by ring⟩
    have remainder : (exponent * 2 ^ 23 + mantissa) % 2 ^ 13 = mantissa % 2 ^ 13 := by omega
    rw [RoundsUp, RoundsUp, quotient, remainder, Nat.even_add, iff_true_left even]
  have bit : (0x00001000#32).toNat = 2 ^ 12 := rfl
  have mask : (0x00002fff#32).toNat = 3 * 2 ^ 12 - 1 := rfl
  simp only [roundsUp_iff bit mask, isMantissa, shiftEven, rounds, quotient, BitVec.or_assoc]
  split
  next => rw [toNat_truncate_succ isSign single (by omega) (by omega), joined]
  next => rw [toNat_truncate_or isSign single (by omega), joined]

end

theorem toNat_singleToHalf (value : BitVec 32) :
    (singleToHalf value).toNat = value.toNat / 2 ^ 31 * 2 ^ 15 +
      halfMagnitude (Single.exponent value) (Single.mantissa value) := by
  have inRange := Single.exponent_lt value
  have isMantissa := Single.toNat_mantissa value
  have small := Single.mantissa_lt value
  have isSign := Single.toNat_halfSign value
  have single : value.toNat / 2 ^ 31 < 2 := by
    have bounded := value.isLt
    omega
  have special : (value &&& 0x7f800000#32).toInt = 0x7f800000 ↔ Single.exponent value = 255 := by
    rw [Single.toInt_exp]
    omega
  simp only [singleToHalf, Single.toInt_exp_div, special]
  generalize Single.exponent value = exponent at *
  by_cases notNumber : exponent = 255
  · rw [if_pos notNumber, notNumber]
    exact toNat_special isSign single isMantissa small
  rw [if_neg notNumber, halfMagnitude, if_neg notNumber]
  by_cases large : 143 ≤ exponent
  · rw [if_pos (by omega), if_pos large]
    exact toNat_truncate_or isSign single (by decide)
  rw [if_neg (by omega), if_neg large]
  by_cases tiny : exponent < 102
  · rw [if_pos (by omega), if_pos (by omega), if_pos tiny, BitVec.truncate_eq_setWidth,
      BitVec.toNat_setWidth, isSign]
    omega
  rw [if_neg tiny]
  by_cases subnormal : exponent ≤ 112
  · have amount : (14 - ((exponent : Int) - 127 + 15)).toNat = 125 - exponent + 1 := by omega
    have bit : (13 - ((exponent : Int) - 127 + 15)).toNat = 125 - exponent := by omega
    have shift : 126 - exponent = 125 - exponent + 1 := by omega
    rw [if_pos (by omega), if_neg (by omega), if_pos subnormal, amount, bit, shift]
    exact toNat_subnormal isSign single isMantissa small (by omega) (by omega)
  · have isExponent : (BitVec.ofInt 32 ((exponent : Int) - 127 + 15) <<< 10).toNat =
        (exponent - 112) * 2 ^ 10 := by
      have same : (exponent : Int) - 127 + 15 = ((exponent - 112 : ℕ) : Int) := by omega
      rw [same, BitVec.ofInt_natCast, BitVec.toNat_shiftLeft, BitVec.toNat_ofNat,
        Nat.shiftLeft_eq]
      omega
    rw [if_neg (by omega), if_neg subnormal]
    exact toNat_normal isSign single isMantissa small isExponent (by omega)

end RmdCanSdk
