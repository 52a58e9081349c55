import Mathlib.Tactic.FieldSimp
import Mathlib.Tactic.IntervalCases
import RmdCanSdk.Protocol

/-!
# Codes of the MIT protocol

The fixed-point codes over exact numbers: a code is the rounding of a number
between zero and the largest code, decoding it gives the clamped value back up to
half a step, and finite IEEE values are encoded as exact numbers are. The fields
of a packed frame are the codes they were packed from.
-/

namespace RmdCanSdk

variable {F : Type} [FloatArith F]

/-! ## Fields of a frame -/

theorem bytes_join (word : BitVec 16) :
    (((word >>> 8) &&& 0xff).setWidth 8 ++ (word &&& 0xff).setWidth 8 : BitVec 16) = word := by
  apply BitVec.eq_of_getLsbD_eq
  intro index inBounds
  rw [BitVec.getLsbD_append]
  interval_cases index <;> simp

/-- A field that starts at a byte boundary and ends inside a shared byte. -/
theorem high_join (high low : BitVec 16) :
    (((high >>> 4) &&& 0xff).setWidth 8 ++
      ((((high &&& 0x000f) <<< 4) ||| ((low >>> 8) &&& 0x000f)).setWidth 8).extractLsb' 4 4 :
        BitVec 12) = high.setWidth 12 := by
  apply BitVec.eq_of_getLsbD_eq
  intro index inBounds
  rw [BitVec.getLsbD_append]
  interval_cases index <;> simp

/-- A field that starts inside a shared byte and ends at a byte boundary. -/
theorem low_join (high low : BitVec 16) :
    (((((high &&& 0x000f) <<< 4) ||| ((low >>> 8) &&& 0x000f)).setWidth 8).extractLsb' 0 4 ++
      (low &&& 0xff).setWidth 8 : BitVec 12) = low.setWidth 12 := by
  apply BitVec.eq_of_getLsbD_eq
  intro index inBounds
  rw [BitVec.getLsbD_append]
  interval_cases index <;> simp

/-- The motor reads the codes that were packed, the last four in twelve bits. -/
theorem mitFields_packMit (pDes vDes kpDes kdDes torqueDes maxTorqueNm : F) :
    mitFields (packMit pDes vDes kpDes kdDes torqueDes maxTorqueNm) = {
      p := floatToUint pDes RmdPMin RmdPMax 16
      v := (floatToUint vDes RmdVMin RmdVMax 12).setWidth 12
      kp := (floatToUint kpDes RmdKpMin RmdKpMax 12).setWidth 12
      kd := (floatToUint kdDes RmdKdMin RmdKdMax 12).setWidth 12
      torque := (floatToUint torqueDes (-positiveTorqueLimit maxTorqueNm)
        (positiveTorqueLimit maxTorqueNm) 12).setWidth 12 } := by
  rw [mitFields, packMit]
  rw [MitFields.mk.injEq]
  exact ⟨bytes_join _, high_join _ _, low_join _ _, high_join _ _, low_join _ _⟩

/-! ## Exact codes -/

variable {min max : ℚ}

/-- The number whose rounding is the code of a value. -/
def exactCode (value min max : ℚ) (bits : Nat) : ℚ :=
  (clamp value min max - min) * (2 ^ bits - 1 : Nat) / (max - min)

theorem exactCode_nonneg (value : ℚ) (bits : Nat) (less : min < max) :
    0 ≤ exactCode value min max bits := by
  have bounds := clamp_mem value less.le
  rw [exactCode]
  apply div_nonneg
  · exact mul_nonneg (by linarith [bounds.1]) (Nat.cast_nonneg _)
  · linarith

theorem exactCode_le (value : ℚ) (bits : Nat) (less : min < max) :
    exactCode value min max bits ≤ (2 ^ bits - 1 : Nat) := by
  have bounds := clamp_mem value less.le
  rw [exactCode]
  rw [div_le_iff₀ (by linarith), mul_comm]
  apply mul_le_mul_of_nonneg_left _ (Nat.cast_nonneg _)
  linarith [bounds.2]

theorem roundHalfAway_exactCode_nonneg (value : ℚ) (bits : Nat) (less : min < max) :
    0 ≤ roundHalfAway (exactCode value min max bits) :=
  le_roundHalfAway (by exact_mod_cast exactCode_nonneg value bits less)

theorem roundHalfAway_exactCode_le (value : ℚ) (bits : Nat) (less : min < max) :
    roundHalfAway (exactCode value min max bits) ≤ (2 ^ bits - 1 : Nat) :=
  roundHalfAway_le (by exact_mod_cast exactCode_le value bits less)

theorem floatToUint_exact (value min max : ℚ) (bits : Nat) :
    floatToUint value min max bits =
      BitVec.ofInt 16 (roundHalfAway (exactCode value min max bits)) := rfl

/-- The code of an exact number fits its field. -/
theorem toNat_floatToUint (value : ℚ) (bits : Nat) (less : min < max) (narrow : bits ≤ 16) :
    ((floatToUint value min max bits).toNat : Int) =
      roundHalfAway (exactCode value min max bits) := by
  have lower := roundHalfAway_exactCode_nonneg value bits less
  have upper := roundHalfAway_exactCode_le value bits less
  have size : 2 ^ bits ≤ 2 ^ 16 := Nat.pow_le_pow_right (by decide) narrow
  have positive := Nat.two_pow_pos bits
  rw [floatToUint_exact, BitVec.toNat_ofInt]
  omega

/-- Decoding a code gives the clamped value up to half a step. -/
theorem abs_uintToFloat_floatToUint_sub_le (value : ℚ) (bits : Nat) (less : min < max)
    (narrow : bits ≤ 16) (wide : 0 < bits) :
    |uintToFloat (floatToUint value min max bits) min max bits - clamp value min max| ≤
      (max - min) / (2 ^ bits - 1 : Nat) / 2 := by
  have code := toNat_floatToUint value bits less narrow
  have upper := roundHalfAway_exactCode_le value bits less
  have error := abs_roundHalfAway_sub_le (exactCode value min max bits)
  have steps : (0 : ℚ) < (2 ^ bits - 1 : Nat) := by
    have : 2 ^ 1 ≤ 2 ^ bits := Nat.pow_le_pow_right (by decide) wide
    exact_mod_cast Nat.sub_pos_of_lt (by omega)
  have span : 0 < max - min := by linarith
  have small : ¬ (floatToUint value min max bits).toNat > 2 ^ bits - 1 := by omega
  rw [uintToFloat]
  simp only [small, if_false, FloatArith.lit_rat]
  have decoded : ((floatToUint value min max bits).toNat : ℚ) =
      (roundHalfAway (exactCode value min max bits) : ℚ) := by exact_mod_cast code
  rw [decoded]
  have exact : clamp value min max =
      exactCode value min max bits * (max - min) / (2 ^ bits - 1 : Nat) + min := by
    rw [exactCode]
    field_simp
    ring
  calc
    |(roundHalfAway (exactCode value min max bits) : ℚ) * (max - min) / (2 ^ bits - 1 : Nat) +
        min - clamp value min max| =
      |((roundHalfAway (exactCode value min max bits) : ℚ) - exactCode value min max bits) *
        ((max - min) / (2 ^ bits - 1 : Nat))| := by
        rw [exact]
        congr 1
        ring
    _ = |(roundHalfAway (exactCode value min max bits) : ℚ) - exactCode value min max bits| *
        ((max - min) / (2 ^ bits - 1 : Nat)) := by
        rw [abs_mul, abs_of_pos (div_pos span steps)]
    _ ≤ 1 / 2 * ((max - min) / (2 ^ bits - 1 : Nat)) :=
        mul_le_mul_of_nonneg_right error (div_pos span steps).le
    _ = (max - min) / (2 ^ bits - 1 : Nat) / 2 := by ring

/-- Every code decodes to a number of the range. -/
theorem uintToFloat_mem (code : BitVec 16) {bits : Nat} (less : min < max) (wide : 0 < bits) :
    min ≤ uintToFloat code min max bits ∧ uintToFloat code min max bits ≤ max := by
  have steps : (0 : ℚ) < (2 ^ bits - 1 : Nat) := by
    have : 2 ^ 1 ≤ 2 ^ bits := Nat.pow_le_pow_right (by decide) wide
    exact_mod_cast Nat.sub_pos_of_lt (by omega)
  have general : ∀ value : Nat, value ≤ 2 ^ bits - 1 →
      min ≤ (value : ℚ) * (max - min) / (2 ^ bits - 1 : Nat) + min ∧
        (value : ℚ) * (max - min) / (2 ^ bits - 1 : Nat) + min ≤ max := by
    intro value small
    have span : 0 ≤ max - min := by linarith
    have lower : 0 ≤ (value : ℚ) * (max - min) / (2 ^ bits - 1 : Nat) :=
      div_nonneg (mul_nonneg (Nat.cast_nonneg _) span) steps.le
    have upper : (value : ℚ) * (max - min) / (2 ^ bits - 1 : Nat) ≤ max - min := by
      rw [div_le_iff₀ steps, mul_comm]
      apply mul_le_mul_of_nonneg_left _ span
      exact_mod_cast small
    constructor <;> linarith
  simp only [uintToFloat, FloatArith.lit_rat]
  split
  next => exact_mod_cast general _ le_rfl
  next small => exact_mod_cast general _ (by omega)

/-- The smallest and the largest code decode to the ends of the range. -/
theorem uintToFloat_ends (min max : ℚ) :
    uintToFloat 0 min max 16 = min ∧ uintToFloat 0xffff min max 16 = max := by
  have smallest : (0 : BitVec 16).toNat = 0 := rfl
  have largest : (0xffff : BitVec 16).toNat = 65535 := rfl
  simp only [uintToFloat, FloatArith.lit_rat, smallest, largest]
  constructor <;> norm_num

/-! ## IEEE values -/

/-- Conversions that return zero on values they cannot represent. -/
def zeroConversions : Unspecified := ⟨fun _ => 0, fun _ => 0⟩

variable {unspecified : Unspecified}

/-- Finite values are encoded exactly. -/
theorem floatToUint_finite (value : ℚ) (bits : Nat) (less : min < max) (narrow : bits ≤ 16) :
    floatToUint (.finite value : Ieee unspecified) (.finite min) (.finite max) bits =
      floatToUint value min max bits := by
  have lower := roundHalfAway_exactCode_nonneg value bits less
  have upper := roundHalfAway_exactCode_le value bits less
  have size : 2 ^ bits ≤ 2 ^ 16 := Nat.pow_le_pow_right (by decide) narrow
  rw [floatToUint]
  simp only [clamp_finite, Ieee.finite_sub, Ieee.lit_eq, Ieee.finite_mul,
    Ieee.finite_div _ _ (sub_pos.mpr less).ne']
  rw [exactCode] at lower upper
  rw [Ieee.lround_finite _ (by omega) (by omega)]
  rfl

/-- NaN is encoded as whatever the conversion makes of it. -/
theorem floatToUint_nan (min max : Ieee unspecified) (bits : Nat) :
    floatToUint .nan min max bits = BitVec.ofInt 16 (unspecified.lround .nan) := by
  simp [floatToUint]

theorem positiveTorqueLimit_finite (value : ℚ) :
    positiveTorqueLimit (.finite value : Ieee unspecified) =
      .finite (positiveTorqueLimit value) := by
  simp only [positiveTorqueLimit, RmdDefaultMaxTorqueNm]
  simp only [Ieee.isFinite_finite, Ieee.lit_eq, gt_iff_lt, Ieee.finite_lt, true_and,
    FloatArith.isFinite_rat, FloatArith.lit_rat]
  split <;> rfl

theorem positiveTorqueLimit_pos (value : ℚ) : 0 < positiveTorqueLimit value := by
  rw [positiveTorqueLimit, RmdDefaultMaxTorqueNm]
  simp only [FloatArith.isFinite_rat, FloatArith.lit_rat, gt_iff_lt, true_and]
  split
  next positive => exact positive
  next => norm_num

/-! ## Rounded codes -/

section

open RoundingFormat

/-- A range whose span and largest product are single-precision numbers. -/
structure PlainRange (min max : ℚ) (bits : Nat) : Prop where
  less : min < max
  span : binary32.round (max - min) = max - min
  steps : binary32.round (2 ^ bits - 1 : Nat) = (2 ^ bits - 1 : Nat)
  largest : binary32.round ((max - min) * (2 ^ bits - 1 : Nat)) =
    (max - min) * (2 ^ bits - 1 : Nat)
  wide : 0 < bits
  narrow : bits ≤ 16
  small : (max - min) * (2 ^ bits - 1 : Nat) < 2 ^ 128

/-- The number whose rounding is the code of a value, in single precision. -/
def roundedCode (value min max : ℚ) (bits : Nat) : ℚ :=
  binary32.round (binary32.round (binary32.round (clamp value min max - min) *
    (2 ^ bits - 1 : Nat)) / (max - min))

namespace PlainRange

variable {bits : Nat} (range : PlainRange min max bits) (value : ℚ)
include range

theorem steps_pos : (0 : ℚ) < (2 ^ bits - 1 : Nat) := by
  have steps : 2 ^ 1 ≤ 2 ^ bits := Nat.pow_le_pow_right (by decide) range.wide
  exact_mod_cast Nat.sub_pos_of_lt (by omega)

/-- The offset from the lower end, after rounding. -/
theorem offset_mem : 0 ≤ binary32.round (clamp value min max - min) ∧
    binary32.round (clamp value min max - min) ≤ max - min := by
  have bounds := clamp_mem value range.less.le
  constructor
  · exact round_nonneg (sub_nonneg.mpr bounds.1)
  · exact (round_mono (sub_le_sub_right bounds.2 min)).trans_eq range.span

theorem product_mem :
    0 ≤ binary32.round (binary32.round (clamp value min max - min) * (2 ^ bits - 1 : Nat)) ∧
      binary32.round (binary32.round (clamp value min max - min) * (2 ^ bits - 1 : Nat)) ≤
        (max - min) * (2 ^ bits - 1 : Nat) := by
  have offset := range.offset_mem value
  constructor
  · exact round_nonneg (mul_nonneg offset.1 range.steps_pos.le)
  · exact (round_mono (mul_le_mul_of_nonneg_right offset.2 range.steps_pos.le)).trans_eq
      range.largest

theorem roundedCode_mem :
    0 ≤ roundedCode value min max bits ∧ roundedCode value min max bits ≤ (2 ^ bits - 1 : Nat) := by
  have product := range.product_mem value
  have span := sub_pos.mpr range.less
  constructor
  · exact round_nonneg (div_nonneg product.1 span.le)
  · apply (round_mono _).trans_eq range.steps
    rw [div_le_iff₀' span]
    exact product.2

/-- Greater values have no smaller codes. -/
theorem roundedCode_mono {left right : ℚ} (le : clamp left min max ≤ clamp right min max) :
    roundedCode left min max bits ≤ roundedCode right min max bits := by
  apply round_mono
  apply div_le_div_of_nonneg_right _ (sub_pos.mpr range.less).le
  apply round_mono
  apply mul_le_mul_of_nonneg_right _ range.steps_pos.le
  exact round_mono (sub_le_sub_right le min)

/-- A code is reached by the single-precision numbers from some number on. -/
theorem code_le_iff {code : Int} (nonneg : 0 ≤ code) (digits exponent : ℤ)
    (smallest : -149 ≤ exponent) (leading : 2 ^ 23 < digits) (few : digits ≤ 2 ^ 24)
    (below : roundedCode ((digits - 1 : ℤ) * 2 ^ exponent) min max bits < code + 1 / 2)
    (reached : (code : ℚ) + 1 / 2 ≤ roundedCode (digits * 2 ^ exponent) min max bits)
    (exact : binary32.Exact value) :
    roundHalfAway (roundedCode value min max bits) ≤ code ↔ value < digits * 2 ^ exponent := by
  constructor
  · intro small
    by_contra large
    have more := range.roundedCode_mono (clamp_mono range.less.le (le_of_not_gt large))
    exact absurd small (not_le_of_gt (lt_roundHalfAway nonneg (reached.trans more)))
  · intro less
    have pred := exact.le_pred smallest leading few less
    have fewer := range.roundedCode_mono (clamp_mono range.less.le pred)
    exact roundHalfAway_le_of_lt (fewer.trans_lt below)

theorem roundHalfAway_mem : 0 ≤ roundHalfAway (roundedCode value min max bits) ∧
    roundHalfAway (roundedCode value min max bits) ≤ (2 ^ bits - 1 : Nat) := by
  have code := range.roundedCode_mem value
  constructor
  · exact le_roundHalfAway (by exact_mod_cast code.1)
  · exact roundHalfAway_le (by exact_mod_cast code.2)

/-- Finite values are encoded in single precision. -/
theorem floatToUint_eq {value' min' max' : Binary32 unspecified}
    (isValue : value'.value = .finite value)
    (isMin : min'.value = .finite min) (isMax : max'.value = .finite max) :
    floatToUint value' min' max' bits =
      BitVec.ofInt 16 (roundHalfAway (roundedCode value min max bits)) := by
  have span := sub_pos.mpr range.less
  have offset := range.offset_mem value
  have product := range.product_mem value
  have code := range.roundedCode_mem value
  have rounded := range.roundHalfAway_mem value
  have one : (1 : ℚ) ≤ (2 ^ bits - 1 : Nat) := by exact_mod_cast range.steps_pos
  have size : 2 ^ bits ≤ 2 ^ 16 := Nat.pow_le_pow_right (by decide) range.narrow
  have smallSpan := (le_mul_of_one_le_right span.le one).trans_lt range.small
  have smallSteps : ((2 ^ bits - 1 : Nat) : ℚ) < 2 ^ 128 := by
    have bound : 2 ^ bits - 1 < 2 ^ 128 := by omega
    exact_mod_cast bound
  have isOffset : (Ieee.finite (clamp value min max - min) : Ieee unspecified).rounded binary32 =
      .finite (binary32.round (clamp value min max - min)) :=
    Ieee.rounded_finite (by rw [abs_of_nonneg offset.1]; exact offset.2.trans_lt smallSpan)
  have isSteps : (Ieee.finite (2 ^ bits - 1 : Nat) : Ieee unspecified).rounded binary32 =
      .finite (2 ^ bits - 1 : Nat) := by
    rw [Ieee.rounded_finite] <;> rw [range.steps]
    rwa [abs_of_nonneg range.steps_pos.le]
  have isSpan : (Ieee.finite (max - min) : Ieee unspecified).rounded binary32 =
      .finite (max - min) := by
    rw [Ieee.rounded_finite] <;> rw [range.span]
    rwa [abs_of_nonneg span.le]
  have isProduct : (Ieee.finite (binary32.round (clamp value min max - min) *
      (2 ^ bits - 1 : Nat)) : Ieee unspecified).rounded binary32 = .finite (binary32.round
        (binary32.round (clamp value min max - min) * (2 ^ bits - 1 : Nat))) :=
    Ieee.rounded_finite (by rw [abs_of_nonneg product.1]; exact product.2.trans_lt range.small)
  have isCode : (Ieee.finite (binary32.round (binary32.round (clamp value min max - min) *
      (2 ^ bits - 1 : Nat)) / (max - min)) : Ieee unspecified).rounded binary32 =
        .finite (roundedCode value min max bits) :=
    Ieee.rounded_finite (by
      change |roundedCode value min max bits| < _
      rw [abs_of_nonneg code.1]
      exact code.2.trans_lt smallSteps)
  rw [floatToUint]
  congr 1
  simp only [BinaryFloat.lround_eq, BinaryFloat.value_div, BinaryFloat.value_mul,
    BinaryFloat.value_sub, BinaryFloat.value_lit, value_clamp, isValue, isMin, isMax, clamp_finite,
    Ieee.finite_sub, isOffset, isSteps, isSpan, Ieee.finite_mul, isProduct,
    Ieee.finite_div _ _ span.ne', isCode]
  exact Ieee.lround_finite _ (by omega) (by omega)

/-- Codes that fit their field are told apart by it. -/
theorem setWidth_inj (value value' : ℚ) :
    (BitVec.ofInt 16 (roundHalfAway (roundedCode value min max bits))).setWidth bits =
        (BitVec.ofInt 16 (roundHalfAway (roundedCode value' min max bits))).setWidth bits ↔
      roundHalfAway (roundedCode value min max bits) =
        roundHalfAway (roundedCode value' min max bits) := by
  have left := range.roundHalfAway_mem value
  have right := range.roundHalfAway_mem value'
  have size : 2 ^ bits ≤ 2 ^ 16 := Nat.pow_le_pow_right (by decide) range.narrow
  have positive := Nat.two_pow_pos bits
  rw [← BitVec.toNat_inj, BitVec.toNat_setWidth, BitVec.toNat_setWidth, BitVec.toNat_ofInt,
    BitVec.toNat_ofInt, Nat.mod_eq_of_lt (by omega), Nat.mod_eq_of_lt (by omega)]
  omega

end PlainRange

/-! ### Gains -/

/-- NaN is encoded as whatever the conversion makes of it. -/
theorem floatToUint_value_nan {value min max : Binary32 unspecified} (nan : value.value = .nan)
    (bits : Nat) : floatToUint value min max bits = BitVec.ofInt 16 (unspecified.lround .nan) := by
  rw [floatToUint]
  congr 1
  simp [nan, Ieee.rounded]

theorem kpRange : PlainRange 0 500 12 where
  less := by norm_num
  span := by decide +kernel
  steps := by decide +kernel
  largest := by decide +kernel
  wide := by decide
  narrow := by decide
  small := by norm_num

theorem kdRange : PlainRange 0 50 12 where
  less := by norm_num
  span := by decide +kernel
  steps := by decide +kernel
  largest := by decide +kernel
  wide := by decide
  narrow := by decide
  small := by norm_num

theorem value_RmdKpMax : (RmdKpMax : Binary32 unspecified).value = .finite 500 :=
  BinaryFloat.value_lit_eq (by decide +kernel) (by norm_num)

theorem value_RmdKdMax : (RmdKdMax : Binary32 unspecified).value = .finite 50 :=
  BinaryFloat.value_lit_eq (by decide +kernel) (by norm_num)

/-- The code of a clamped gain of zero. -/
theorem gainField_zero (range : PlainRange 0 max 12) {max' : Binary32 unspecified}
    (isMax : max'.value = .finite max) :
    (floatToUint (clamp (lit 0) (lit 0) max') (lit 0) max' 12).setWidth 12 = (0 : BitVec 12) := by
  have zero : clamp (0 : ℚ) 0 max = 0 := clamp_eq_self le_rfl range.less.le
  have clamped : (clamp (lit 0) (lit 0) max').value = .finite 0 := by
    rw [value_clamp, BinaryFloat.value_lit_zero, isMax, clamp_finite, zero]
  have code : roundedCode 0 0 max 12 = (0 : Int) := by
    rw [roundedCode, zero, sub_self, round_zero, zero_mul, round_zero, zero_div, round_zero,
      Int.cast_zero]
  rw [range.floatToUint_eq _ clamped BinaryFloat.value_lit_zero isMax, code, roundHalfAway_intCast]
  rfl

end

end RmdCanSdk
