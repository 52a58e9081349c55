import RmdCanSdk.HalfFloat.Encode

/-!
# Half-precision encoding is correctly rounded

The magnitude the encoders compute is the nearest half-precision magnitude, with ties to
even. Overflow, underflow and the sign follow from that.
-/

namespace RmdCanSdk

/-! ## Magnitudes -/

/-- A shift finds the nearest half-precision magnitude when both formats are measured in
units of the smallest single-precision magnitude. -/
theorem nearestEven_of_units {pattern number shift : ℕ} (unit : ℕ) (positive : 0 < unit)
    (start : binary32.units pattern =
      binary16.units (number / 2 ^ shift) * 2 ^ 125 + number % 2 ^ shift * unit)
    (step : 2 ^ (number / 2 ^ shift / 2 ^ 10 - 1) * 2 ^ 125 = 2 ^ shift * unit) :
    NearestEven binary16.grid (binary32.grid pattern) (shiftEven number shift) := by
  have scale16 : binary16.scale = 24 := rfl
  have scale32 : binary32.scale = 149 := rfl
  have scaled : ∀ units : ℚ, units / 2 ^ 24 = units * 2 ^ 125 / 2 ^ 149 := by
    intro units
    rw [div_eq_div_iff (by positivity) (by positivity)]
    ring
  have unitPositive : (0 : ℚ) < unit / 2 ^ 149 := by positivity
  apply nearestEven_shiftEven BinaryFormat.grid_strictMono unitPositive
  · rw [BinaryFormat.grid, BinaryFormat.grid, start, scale16, scale32, scaled]
    push_cast
    ring
  · have step : (2 : ℚ) ^ (number / 2 ^ shift / 2 ^ 10 - 1) * 2 ^ 125 = 2 ^ shift * unit := by
      exact_mod_cast step
    rw [BinaryFormat.grid, BinaryFormat.grid, BinaryFormat.units_succ, scale16, scaled, scaled]
    push_cast
    rw [add_mul, add_div]
    congr 1
    rw [mul_div_assoc']
    congr 1

section

variable {exponent mantissa : ℕ}

theorem units_single (inRange : mantissa < 2 ^ 23) (normal : exponent ≠ 0) :
    binary32.units (exponent * 2 ^ 23 + mantissa) = (2 ^ 23 + mantissa) * 2 ^ (exponent - 1) :=
  BinaryFormat.units_normal inRange normal

theorem units_half (inRange : mantissa < 2 ^ 10) (normal : exponent ≠ 0) :
    binary16.units (exponent * 2 ^ 10 + mantissa) = (2 ^ 10 + mantissa) * 2 ^ (exponent - 1) :=
  BinaryFormat.units_normal inRange normal

theorem grid_smallest : binary16.grid 1 = 1 / 2 ^ 24 := by
  rw [BinaryFormat.grid, BinaryFormat.units_of_lt (by decide)]
  norm_num [BinaryFormat.scale, binary16]

/-- Below one half of the smallest magnitude. -/
theorem nearestEven_zero (inRange : mantissa < 2 ^ 23) (tiny : exponent < 102) :
    NearestEven binary16.grid (binary32.grid (exponent * 2 ^ 23 + mantissa)) 0 := by
  have half : binary32.grid (102 * 2 ^ 23 + 0) = 1 / 2 ^ 25 := by
    rw [BinaryFormat.grid, units_single (by decide) (by decide)]
    norm_num [BinaryFormat.scale, binary32]
  have less : binary32.grid (exponent * 2 ^ 23 + mantissa) < 1 / 2 ^ 25 := by
    rw [← half]
    apply BinaryFormat.grid_strictMono
    omega
  apply nearestEven_below BinaryFormat.grid_strictMono
  · rw [BinaryFormat.grid_zero]
    exact BinaryFormat.grid_nonneg _ _
  · left
    rw [BinaryFormat.grid_zero, Nat.zero_add, grid_smallest]
    linarith

/-- The exponents whose numbers are rounded to subnormal ones. -/
theorem nearestEven_subnormal (inRange : mantissa < 2 ^ 23) (nonzero : exponent ≠ 0)
    (subnormal : exponent ≤ 112) :
    NearestEven binary16.grid (binary32.grid (exponent * 2 ^ 23 + mantissa))
      (shiftEven (2 ^ 23 + mantissa) (126 - exponent)) := by
  have power : 2 ^ (126 - exponent) * 2 ^ (exponent - 1) = 2 ^ 125 := by
    rw [← pow_add]
    congr 1
    omega
  have small : (2 ^ 23 + mantissa) / 2 ^ (126 - exponent) < 2 ^ 10 := by
    have amount : 2 ^ 14 ≤ 2 ^ (126 - exponent) :=
      Nat.pow_le_pow_right (by decide) (by omega)
    apply lt_of_le_of_lt (Nat.div_le_div_left amount (by decide))
    omega
  have parts := Nat.div_add_mod' (2 ^ 23 + mantissa) (2 ^ (126 - exponent))
  apply nearestEven_of_units (2 ^ (exponent - 1)) (Nat.two_pow_pos _)
  · rw [units_single inRange nonzero, BinaryFormat.units_of_lt small, ← power, ← mul_assoc,
      ← add_mul, parts]
  · rw [Nat.div_eq_of_lt small, power]
    rfl

/-- The exponents that both formats have. -/
theorem nearestEven_normal (inRange : mantissa < 2 ^ 23) (normal : 112 < exponent) :
    NearestEven binary16.grid (binary32.grid (exponent * 2 ^ 23 + mantissa))
      (shiftEven ((exponent - 112) * 2 ^ 23 + mantissa) 13) := by
  have nonzero : exponent ≠ 0 := by omega
  have small : mantissa / 2 ^ 13 < 2 ^ 10 := by omega
  have quotient : ((exponent - 112) * 2 ^ 23 + mantissa) / 2 ^ 13 =
      (exponent - 112) * 2 ^ 10 + mantissa / 2 ^ 13 := by omega
  have remainder : ((exponent - 112) * 2 ^ 23 + mantissa) % 2 ^ 13 = mantissa % 2 ^ 13 := by
    omega
  have binade : ((exponent - 112) * 2 ^ 10 + mantissa / 2 ^ 13) / 2 ^ 10 = exponent - 112 := by
    rw [Nat.add_comm, Nat.add_mul_div_right _ _ (by decide), Nat.div_eq_of_lt small,
      Nat.zero_add]
  have power : 2 ^ (exponent - 1) = 2 ^ (exponent - 112 - 1) * 2 ^ 112 := by
    rw [← pow_add]
    congr 1
    omega
  have parts := Nat.div_add_mod' mantissa (2 ^ 13)
  apply nearestEven_of_units (2 ^ (exponent - 1)) (Nat.two_pow_pos _)
  · rw [quotient, remainder, units_half small (by omega), units_single inRange nonzero, power]
    conv => lhs; rw [← parts]
    ring
  · rw [quotient, binade, power]
    ring

/-- The encoders find the nearest magnitude, unless the exponent is too large. -/
theorem nearestEven_halfMagnitude (inRange : mantissa < 2 ^ 23) (small : exponent < 143) :
    NearestEven binary16.grid (binary32.grid (exponent * 2 ^ 23 + mantissa))
      (halfMagnitude exponent mantissa) := by
  rw [halfMagnitude, if_neg (by omega), if_neg (by omega)]
  split
  next tiny => exact nearestEven_zero inRange tiny
  next notTiny =>
    split
    next subnormal => exact nearestEven_subnormal inRange (by omega) subnormal
    next normal => exact nearestEven_normal inRange (not_le.mp normal)

theorem shiftEven_le (number shift : ℕ) : shiftEven number shift ≤ number / 2 ^ shift + 1 := by
  rw [shiftEven]
  split
  · exact le_rfl
  · exact Nat.le_succ _

theorem halfMagnitude_le (inRange : mantissa < 2 ^ 23) (finite : exponent < 255) :
    halfMagnitude exponent mantissa ≤ binary16.infinity := by
  have infinity : binary16.infinity = 31 * 2 ^ 10 := rfl
  rw [halfMagnitude, if_neg (by omega), infinity]
  split
  next => decide
  next =>
    split
    next => decide
    next =>
      split
      next =>
        apply (shiftEven_le _ _).trans
        have amount : 2 ^ 14 ≤ 2 ^ (126 - exponent) := Nat.pow_le_pow_right (by decide) (by omega)
        have quotient : (2 ^ 23 + mantissa) / 2 ^ (126 - exponent) ≤ (2 ^ 23 + mantissa) / 2 ^ 14 :=
          Nat.div_le_div_left amount (by decide)
        omega
      next =>
        apply (shiftEven_le _ _).trans
        omega

theorem halfMagnitude_lt (inRange : mantissa < 2 ^ 23) (bounded : exponent < 2 ^ 8) :
    halfMagnitude exponent mantissa < 2 ^ 15 := by
  rcases Nat.lt_or_ge exponent 255 with finite | special
  · apply (halfMagnitude_le inRange finite).trans_lt
    decide
  · rw [halfMagnitude, if_pos (by omega)]
    split
    next => decide
    next =>
      have payload : 0x0200 ||| mantissa / 2 ^ 13 < 2 ^ 10 :=
        Nat.or_lt_two_pow (by decide) (by omega)
      omega

theorem grid_infinity : binary16.grid binary16.infinity = 65536 := by
  norm_num [BinaryFormat.grid, BinaryFormat.units, BinaryFormat.infinity, BinaryFormat.scale,
    binary16]

theorem grid_largest : binary16.grid (binary16.infinity - 1) = 65504 := by
  norm_num [BinaryFormat.grid, BinaryFormat.units, BinaryFormat.infinity, BinaryFormat.scale,
    binary16]

/-- Exponents that are too large for the format. -/
theorem overflow_of_exponent (inRange : mantissa < 2 ^ 23) (large : 143 ≤ exponent) :
    65536 ≤ binary32.grid (exponent * 2 ^ 23 + mantissa) := by
  have first : binary32.grid (143 * 2 ^ 23 + 0) = 65536 := by
    rw [BinaryFormat.grid, units_single (by decide) (by decide)]
    norm_num [BinaryFormat.scale, binary32]
  rw [← first]
  apply BinaryFormat.grid_strictMono.monotone
  omega

theorem halfMagnitude_of_exponent (large : 143 ≤ exponent) (finite : exponent < 255) :
    halfMagnitude exponent mantissa = binary16.infinity := by
  rw [halfMagnitude, if_neg (by omega), if_pos large]
  rfl

/-- Infinity is the result from the middle between the largest number and its successor on. -/
theorem halfMagnitude_eq_infinity_iff (inRange : mantissa < 2 ^ 23) (finite : exponent < 255) :
    halfMagnitude exponent mantissa = binary16.infinity ↔
      65520 ≤ binary32.grid (exponent * 2 ^ 23 + mantissa) := by
  rcases Nat.lt_or_ge exponent 143 with small | large
  · have near := nearestEven_halfMagnitude inRange small
    have successor : binary16.infinity = binary16.infinity - 1 + 1 := rfl
    have even : Even (binary16.infinity - 1 + 1) := ⟨15872, rfl⟩
    have reaches := near.succ_le_iff BinaryFormat.grid_strictMono (binary16.infinity - 1)
    rw [← successor, grid_largest, grid_infinity] at reaches
    rw [← (halfMagnitude_le inRange finite).ge_iff_eq, reaches]
    constructor
    · rintro (less | ⟨tie, -⟩) <;> linarith
    · intro beyond
      rcases lt_or_eq_of_le beyond with less | tie
      · left
        linarith
      · right
        exact ⟨by linarith, successor ▸ even⟩
  · rw [halfMagnitude_of_exponent large finite, iff_true_left rfl]
    have overflow := overflow_of_exponent inRange large
    linarith

/-- Up to one half of the smallest magnitude the result is zero. -/
theorem halfMagnitude_eq_zero_iff (inRange : mantissa < 2 ^ 23) (small : exponent < 143) :
    halfMagnitude exponent mantissa = 0 ↔
      binary32.grid (exponent * 2 ^ 23 + mantissa) ≤ 1 / 2 ^ 25 := by
  have near := nearestEven_halfMagnitude inRange small
  have reaches := near.succ_le_iff BinaryFormat.grid_strictMono 0
  rw [BinaryFormat.grid_zero, Nat.zero_add, grid_smallest] at reaches
  rw [← Nat.lt_one_iff, ← not_le, reaches, not_or, not_lt]
  constructor
  · rintro ⟨below, -⟩
    linarith
  · intro below
    refine ⟨by linarith, ?_⟩
    rintro ⟨-, odd⟩
    exact absurd odd (by decide)

end

/-- The encoders do not reverse the order of magnitudes. -/
theorem halfMagnitude_mono {left right : BitVec 32} (number : ¬ binary32.IsNaN right)
    (le : magnitude left ≤ magnitude right) :
    halfMagnitude (Single.exponent left) (Single.mantissa left) ≤
      halfMagnitude (Single.exponent right) (Single.mantissa right) := by
  have leftRange := Single.mantissa_lt left
  have rightRange := Single.mantissa_lt right
  rw [Single.isNaN_iff] at number
  rw [Single.magnitude_eq, Single.magnitude_eq] at le
  generalize Single.exponent left = exponent at *
  generalize Single.mantissa left = mantissa at *
  generalize Single.mantissa right = mantissa' at *
  have bounded := Single.exponent_lt right
  generalize Single.exponent right = exponent' at *
  rcases Nat.eq_or_lt_of_le le with same | less
  · have sameExponent : exponent = exponent' := by omega
    have sameMantissa : mantissa = mantissa' := by omega
    rw [sameExponent, sameMantissa]
  · have finite : exponent < 255 := by omega
    rcases Nat.lt_or_ge exponent' 143 with small | large
    · apply NearestEven.le BinaryFormat.grid_strictMono _
        (nearestEven_halfMagnitude leftRange (by omega))
        (nearestEven_halfMagnitude rightRange small)
      exact BinaryFormat.grid_strictMono less
    · have saturated : halfMagnitude exponent' mantissa' = binary16.infinity := by
        rcases Nat.lt_or_ge exponent' 255 with isFinite | special
        · exact halfMagnitude_of_exponent large isFinite
        · have isSpecial : exponent' = 255 := by omega
          have isInfinite : mantissa' = 0 := by
            by_contra nonzero
            exact number ⟨isSpecial, nonzero⟩
          rw [halfMagnitude, if_pos isSpecial, if_pos isInfinite]
          rfl
      rw [saturated]
      exact halfMagnitude_le leftRange finite

/-! ## Patterns -/

theorem magnitude_singleToHalf (value : BitVec 32) :
    magnitude (singleToHalf value) =
      halfMagnitude (Single.exponent value) (Single.mantissa value) := by
  have small := halfMagnitude_lt (Single.mantissa_lt value) (Single.exponent_lt value)
  rw [magnitude, toNat_singleToHalf]
  omega

theorem msb_singleToHalf (value : BitVec 32) : (singleToHalf value).msb = value.msb := by
  have small := halfMagnitude_lt (Single.mantissa_lt value) (Single.exponent_lt value)
  have inRange := value.isLt
  rw [BitVec.msb_eq_decide, BitVec.msb_eq_decide, toNat_singleToHalf]
  congr 1
  rw [eq_iff_iff]
  omega

/-- What the encoding of a single-precision pattern should be. -/
structure EncodesNearest (value : BitVec 32) (half : BitVec 16) : Prop where
  sign : half.msb = value.msb
  nan : binary32.IsNaN value → binary16.IsNaN half
  infinite : binary32.IsInfinite value → binary16.IsInfinite half
  overflow : binary32.IsFinite value → 65520 ≤ |binary32.value value| → binary16.IsInfinite half
  underflow : binary32.IsFinite value → |binary32.value value| ≤ 1 / 2 ^ 25 →
    magnitude half = 0
  /-- No finite number is nearer, and if another one is as near then the last bit is zero. -/
  nearest : binary32.IsFinite value → |binary32.value value| < 65520 →
    binary16.IsFinite half ∧ ∀ other, binary16.IsFinite other →
      |binary16.value half - binary32.value value| ≤
          |binary16.value other - binary32.value value| ∧
        (|binary16.value half - binary32.value value| =
            |binary16.value other - binary32.value value| →
          binary16.value other ≠ binary16.value half → half.toNat % 2 = 0)

theorem singleToHalf_nan {value : BitVec 32} (nan : binary32.IsNaN value) :
    binary16.IsNaN (singleToHalf value) := by
  rcases Single.isNaN_iff.mp nan with ⟨special, nonzero⟩
  have large : 0x0200 ≤ 0x0200 ||| Single.mantissa value / 2 ^ 13 := Nat.left_le_or
  rw [BinaryFormat.IsNaN, magnitude_singleToHalf, halfMagnitude, if_pos special,
    if_neg nonzero]
  have infinity : binary16.infinity = 0x7c00 := rfl
  omega

theorem singleToHalf_infinite {value : BitVec 32} (infinite : binary32.IsInfinite value) :
    binary16.IsInfinite (singleToHalf value) := by
  rcases Single.isInfinite_iff.mp infinite with ⟨special, zero⟩
  rw [BinaryFormat.IsInfinite, magnitude_singleToHalf, halfMagnitude, if_pos special, if_pos zero]
  rfl

theorem encodesNearest (value : BitVec 32) : EncodesNearest value (singleToHalf value) where
  sign := msb_singleToHalf value
  nan := singleToHalf_nan
  infinite := singleToHalf_infinite
  overflow := by
    intro finite large
    rw [BinaryFormat.abs_value, Single.magnitude_eq] at large
    rw [BinaryFormat.IsInfinite, magnitude_singleToHalf]
    exact (halfMagnitude_eq_infinity_iff (Single.mantissa_lt value)
      (Single.isFinite_iff.mp finite)).mpr large
  underflow := by
    intro finite small
    rw [BinaryFormat.abs_value, Single.magnitude_eq] at small
    rw [magnitude_singleToHalf]
    apply (halfMagnitude_eq_zero_iff (Single.mantissa_lt value) _).mpr small
    by_contra large
    have overflow := overflow_of_exponent (Single.mantissa_lt value) (not_lt.mp large)
    have tiny : (1 : ℚ) / 2 ^ 25 < 65536 := by norm_num
    exact absurd (overflow.trans small) (not_le.mpr tiny)
  nearest := by
    intro finite bounded
    rw [BinaryFormat.abs_value, Single.magnitude_eq] at bounded
    have small : Single.exponent value < 143 := by
      by_contra large
      have overflow := overflow_of_exponent (Single.mantissa_lt value) (not_lt.mp large)
      linarith
    have near := nearestEven_halfMagnitude (Single.mantissa_lt value) small
    have notInfinite := (halfMagnitude_eq_infinity_iff (Single.mantissa_lt value)
      (Single.isFinite_iff.mp finite)).not.mpr (not_le.mpr bounded)
    have atMost := halfMagnitude_le (Single.mantissa_lt value) (Single.isFinite_iff.mp finite)
    rw [← Single.magnitude_eq, ← magnitude_singleToHalf] at near
    rw [← magnitude_singleToHalf] at notInfinite atMost
    refine ⟨Nat.lt_of_le_of_ne atMost notInfinite, ?_⟩
    intro other _
    rcases BinaryFormat.nearest_value near (msb_singleToHalf value) other with ⟨nearer, even⟩
    refine ⟨nearer, ?_⟩
    intro tie different
    have magnitudeEven := even tie different
    rw [magnitude, Nat.even_iff] at magnitudeEven
    omega

theorem singleToHalf_number {value : BitVec 32} (number : ¬ binary32.IsNaN value) :
    ¬ binary16.IsNaN (singleToHalf value) := by
  rw [BinaryFormat.IsNaN, magnitude_singleToHalf, not_lt]
  by_cases finite : binary32.IsFinite value
  · exact halfMagnitude_le (Single.mantissa_lt value) (Single.isFinite_iff.mp finite)
  · have infinite : binary32.IsInfinite value := le_antisymm (not_lt.mp number) (not_lt.mp finite)
    have encoded := singleToHalf_infinite infinite
    rw [BinaryFormat.IsInfinite, magnitude_singleToHalf] at encoded
    exact encoded.le

theorem singleToHalf_zero {value : BitVec 32} (zero : binary32.extended value = 0) :
    binary16.extended (singleToHalf value) = 0 := by
  rw [BinaryFormat.extended_eq_zero_iff (by decide), Single.magnitude_eq] at zero
  have noExponent : Single.exponent value = 0 := by omega
  have noMantissa : Single.mantissa value = 0 := by omega
  rw [BinaryFormat.extended_eq_zero_iff (by decide), magnitude_singleToHalf, noExponent,
    noMantissa]
  rfl

/-- The encoders do not reverse the order of numbers and infinities. -/
theorem singleToHalf_mono {left right : BitVec 32} (leftNumber : ¬ binary32.IsNaN left)
    (rightNumber : ¬ binary32.IsNaN right)
    (le : binary32.extended left ≤ binary32.extended right) :
    binary16.extended (singleToHalf left) ≤ binary16.extended (singleToHalf right) := by
  have leftHalf := singleToHalf_number leftNumber
  have rightHalf := singleToHalf_number rightNumber
  have leftSign := msb_singleToHalf left
  have rightSign := msb_singleToHalf right
  cases isLeft : left.msb with
  | false =>
      rw [isLeft] at leftSign
      cases isRight : right.msb with
      | false =>
          rw [isRight] at rightSign
          rw [BinaryFormat.extended_le_of_positive isLeft isRight leftNumber rightNumber] at le
          rw [BinaryFormat.extended_le_of_positive leftSign rightSign leftHalf rightHalf,
            magnitude_singleToHalf, magnitude_singleToHalf]
          exact halfMagnitude_mono rightNumber le
      | true =>
          -- both numbers are zeros
          have leftZero := le_antisymm
            (le.trans (BinaryFormat.extended_nonpos isRight)) (BinaryFormat.extended_nonneg isLeft)
          have rightZero := le_antisymm
            (BinaryFormat.extended_nonpos isRight) ((BinaryFormat.extended_nonneg isLeft).trans le)
          exact (singleToHalf_zero leftZero).le.trans (singleToHalf_zero rightZero).ge
  | true =>
      rw [isLeft] at leftSign
      cases isRight : right.msb with
      | false =>
          rw [isRight] at rightSign
          exact (BinaryFormat.extended_nonpos leftSign).trans (BinaryFormat.extended_nonneg rightSign)
      | true =>
          rw [isRight] at rightSign
          rw [BinaryFormat.extended_le_of_negative isLeft isRight leftNumber rightNumber] at le
          rw [BinaryFormat.extended_le_of_negative leftSign rightSign leftHalf rightHalf,
            magnitude_singleToHalf, magnitude_singleToHalf]
          exact halfMagnitude_mono leftNumber le

/-- Both encoders round to nearest with ties to even, keep the sign and the kind of every
pattern, and are monotone. -/
theorem encoders_correctly_rounded :
    (∀ value, heimaSingle2Half value = singleToHalf value) ∧
      (∀ value, EncodesNearest value (singleToHalf value)) ∧
      ∀ left right, ¬ binary32.IsNaN left → ¬ binary32.IsNaN right →
        binary32.extended left ≤ binary32.extended right →
          binary16.extended (singleToHalf left) ≤ binary16.extended (singleToHalf right) :=
  ⟨heimaSingle2Half_eq, encodesNearest, fun _ _ => singleToHalf_mono⟩

end RmdCanSdk
