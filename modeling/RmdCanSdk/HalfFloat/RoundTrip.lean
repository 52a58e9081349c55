import RmdCanSdk.HalfFloat.Decode

/-!
# Which half-precision numbers survive a round trip

`halfToSingle` is exact on every number and infinity, and both encoders invert it.
`heimaHalf2Single` agrees with it except on subnormal numbers, where it shifts the mantissa
out of the word.
-/

namespace RmdCanSdk

/-- A subnormal pattern: the exponent bits are zero and the mantissa bits are not. -/
def Subnormal (half : BitVec 16) : Prop := 0 < magnitude half ∧ magnitude half < 2 ^ 10

instance (half : BitVec 16) : Decidable (Subnormal half) := inferInstanceAs (Decidable (_ ∧ _))

theorem subnormal_iff (half : BitVec 16) :
    Subnormal half ↔ Half.exponent half = 0 ∧ Half.mantissa half ≠ 0 := by
  have small := Half.mantissa_lt half
  rw [Subnormal, Half.magnitude_eq]
  omega

/-- What the decoding of a number or an infinity should be. -/
structure DecodesExactly (half : BitVec 16) (single : BitVec 32) : Prop where
  sign : single.msb = half.msb
  infinite : binary16.IsInfinite half → binary32.IsInfinite single
  finite : binary16.IsFinite half →
    binary32.IsFinite single ∧ binary32.value single = binary16.value half

/-- Both decoders are defined and exact, and both encoders lead back. -/
def Inverts (half : BitVec 16) : Prop :=
  ∃ single, halfToSingle half = some single ∧ heimaHalf2Single half = some single ∧
    DecodesExactly half single ∧ singleToHalf single = half ∧ heimaSingle2Half single = half

/-- Both ways of encoding and decoding a single-precision pattern are defined and agree. -/
def SameRoundTrip (value : BitVec 32) : Prop :=
  ∃ single, halfToSingle (singleToHalf value) = some single ∧
    heimaHalf2Single (heimaSingle2Half value) = some single

/-! ## The decoded pattern -/

theorem toNat_injective {width : ℕ} :
    Function.Injective (BitVec.toNat : BitVec width → ℕ) :=
  fun _ _ => BitVec.eq_of_toNat_eq

/-- The decoded pattern has the sign of the half-precision one and the decoded magnitude. -/
theorem decodeHalf_of_magnitude {unused decoded : ℕ} (inRange : unused ≤ 22) {half : BitVec 16}
    (isDecoded :
      singleMagnitude unused (Half.exponent half) (Half.mantissa half) = some decoded)
    (small : decoded < 2 ^ 31) :
    ∃ single, decodeHalf unused half = some single ∧ single.msb = half.msb ∧
      magnitude single = decoded := by
  have fields := toNat_decodeHalf inRange half
  rw [isDecoded, Option.map_some, Option.map_eq_some_iff] at fields
  rcases fields with ⟨single, isSingle, parts⟩
  have bounded := half.isLt
  refine ⟨single, isSingle, ?_, ?_⟩
  · rw [BitVec.msb_eq_decide, BitVec.msb_eq_decide, parts]
    congr 1
    rw [eq_iff_iff]
    omega
  · rw [magnitude, parts]
    omega

/-- Two decoders agree exactly when they decode the same magnitude. -/
theorem decodeHalf_eq_iff {unused unused' : ℕ} (inRange : unused ≤ 22) (inRange' : unused' ≤ 22)
    (half : BitVec 16) :
    decodeHalf unused half = decodeHalf unused' half ↔
      singleMagnitude unused (Half.exponent half) (Half.mantissa half) =
        singleMagnitude unused' (Half.exponent half) (Half.mantissa half) := by
  rw [← (Option.map_injective toNat_injective).eq_iff, toNat_decodeHalf inRange,
    toNat_decodeHalf inRange']
  exact (Option.map_injective (add_right_injective _)).eq_iff

section

variable {exponent mantissa : ℕ}

/-- The branch of the decoders for subnormal numbers. -/
theorem singleMagnitude_subnormal (unused : ℕ) (nonzero : mantissa ≠ 0) :
    singleMagnitude unused 0 mantissa =
      if 45 - unused - Nat.log2 mantissa < 32 then
        some ((81 + unused + Nat.log2 mantissa) * 2 ^ 23 +
          mantissa * 2 ^ (45 - unused - Nat.log2 mantissa) % 2 ^ 23)
      else none := by
  rw [singleMagnitude, if_neg (fun zero => nonzero zero.2), if_neg (by decide), if_pos rfl]

/-- The leading bit of the mantissa becomes the implicit one. -/
theorem units_singleMagnitude_subnormal (inRange : mantissa < 2 ^ 10) (nonzero : mantissa ≠ 0) :
    ∃ decoded, singleMagnitude 22 0 mantissa = some decoded ∧
      decoded < binary32.infinity ∧ binary32.units decoded = mantissa * 2 ^ 125 := by
  have infinity : binary32.infinity = 255 * 2 ^ 23 := rfl
  have leading : Nat.log2 mantissa < 10 := (Nat.log2_lt nonzero).mpr inRange
  rcases shift_to_leading nonzero (by omega : Nat.log2 mantissa ≤ 45 - 22) with ⟨atLeast, below⟩
  rw [singleMagnitude_subnormal 22 nonzero, if_pos (by omega), infinity]
  generalize Nat.log2 mantissa = log at *
  have payload : 2 ^ 23 + mantissa * 2 ^ (45 - 22 - log) % 2 ^ 23 =
      mantissa * 2 ^ (45 - 22 - log) := by
    omega
  refine ⟨_, rfl, by omega, ?_⟩
  rw [units_single (Nat.mod_lt _ (by decide)) (by omega), payload, mul_assoc, ← pow_add]
  congr 2
  omega

/-- With the width of the mantissa, the decoded magnitude is the exact one. -/
theorem units_singleMagnitude (inRange : mantissa < 2 ^ 10) (finite : exponent < 31) :
    ∃ decoded, singleMagnitude 22 exponent mantissa = some decoded ∧
      decoded < binary32.infinity ∧
      binary32.units decoded = binary16.units (exponent * 2 ^ 10 + mantissa) * 2 ^ 125 := by
  have infinity : binary32.infinity = 255 * 2 ^ 23 := rfl
  by_cases subnormal : exponent = 0
  · have halfUnits : binary16.units mantissa = mantissa := BinaryFormat.units_of_lt inRange
    rw [subnormal, Nat.zero_mul, Nat.zero_add, halfUnits]
    by_cases zero : mantissa = 0
    · refine ⟨0, if_pos ⟨rfl, zero⟩, by decide, ?_⟩
      rw [zero]
      rfl
    · exact units_singleMagnitude_subnormal inRange zero
  · rw [singleMagnitude, if_neg (fun zero => subnormal zero.1), if_neg finite.ne,
      if_neg subnormal, infinity, units_half inRange subnormal]
    refine ⟨_, rfl, by omega, ?_⟩
    have power : 2 ^ (exponent + 112 - 1) = 2 ^ (exponent - 1) * 2 ^ 112 := by
      rw [← pow_add]
      congr 1
      omega
    rw [units_single (by omega) (by omega), power]
    ring

/-- The number of leading zeros matters exactly for subnormal numbers. -/
theorem singleMagnitude_eq_iff (inRange : mantissa < 2 ^ 10) :
    singleMagnitude 22 exponent mantissa = singleMagnitude 6 exponent mantissa ↔
      ¬ (exponent = 0 ∧ mantissa ≠ 0) := by
  by_cases zero : exponent = 0
  · subst zero
    by_cases noMantissa : mantissa = 0
    · rw [noMantissa]
      decide
    · rw [singleMagnitude_subnormal 22 noMantissa, singleMagnitude_subnormal 6 noMantissa]
      apply iff_of_false _ (not_not.mpr ⟨rfl, noMantissa⟩)
      have leading : Nat.log2 mantissa < 10 := (Nat.log2_lt noMantissa).mpr inRange
      have payload := Nat.mod_lt (mantissa * 2 ^ (45 - 22 - Nat.log2 mantissa))
        (Nat.two_pow_pos 23)
      have payload' := Nat.mod_lt (mantissa * 2 ^ (45 - 6 - Nat.log2 mantissa))
        (Nat.two_pow_pos 23)
      generalize mantissa * 2 ^ (45 - 22 - Nat.log2 mantissa) % 2 ^ 23 = exact at *
      generalize mantissa * 2 ^ (45 - 6 - Nat.log2 mantissa) % 2 ^ 23 = wrong at *
      rw [if_pos (by omega)]
      split
      · intro same
        have same := Option.some.inj same
        omega
      · exact Option.some_ne_none _
  · rw [singleMagnitude, singleMagnitude]
    simp only [zero, if_false, false_and, not_false_iff]

end

/-- The decoder of the CAN library is exact. -/
theorem halfToSingle_exact {half : BitVec 16} (number : ¬ binary16.IsNaN half) :
    ∃ single, halfToSingle half = some single ∧ DecodesExactly half single := by
  have inRange := Half.mantissa_lt half
  have infinity : binary16.infinity = 31 * 2 ^ 10 := rfl
  have fields := Half.magnitude_eq half
  rw [BinaryFormat.IsNaN] at number
  by_cases finite : Half.exponent half < 31
  · rcases units_singleMagnitude inRange finite with ⟨decoded, isDecoded, bounded, exact⟩
    rcases decodeHalf_of_magnitude (by decide) isDecoded (bounded.trans (by decide)) with
      ⟨single, isSingle, sign, same⟩
    refine ⟨single, isSingle, sign, ?_, ?_⟩
    · rw [BinaryFormat.IsInfinite]
      omega
    · intro _
      rw [BinaryFormat.IsFinite, BinaryFormat.value, BinaryFormat.value, sign, same, fields,
        BinaryFormat.grid, BinaryFormat.grid, exact]
      have scale16 : binary16.scale = 24 := rfl
      have scale32 : binary32.scale = 149 := rfl
      have scaled : ((binary16.units (Half.exponent half * 2 ^ 10 + Half.mantissa half) *
          2 ^ 125 : ℕ) : ℚ) / 2 ^ 149 =
          binary16.units (Half.exponent half * 2 ^ 10 + Half.mantissa half) / 2 ^ 24 := by
        rw [div_eq_div_iff (by positivity) (by positivity)]
        push_cast
        ring
      rw [scale16, scale32, scaled]
      exact ⟨bounded, rfl⟩
  · have isInfinite : Half.exponent half = 31 ∧ Half.mantissa half = 0 := by omega
    have isDecoded : singleMagnitude 22 (Half.exponent half) (Half.mantissa half) =
        some binary32.infinity := by
      rw [isInfinite.1, isInfinite.2]
      rfl
    rcases decodeHalf_of_magnitude (by decide) isDecoded (by decide) with
      ⟨single, isSingle, sign, same⟩
    refine ⟨single, isSingle, sign, fun _ => same, ?_⟩
    rw [BinaryFormat.IsFinite]
    omega

/-- Both encoders lead back from an exact pattern. -/
theorem singleToHalf_of_decodes {half : BitVec 16} {single : BitVec 32}
    (number : ¬ binary16.IsNaN half) (exact : DecodesExactly half single) :
    singleToHalf single = half := by
  apply eq_of_msb_of_magnitude
  · rw [msb_singleToHalf, exact.sign]
  by_cases infinite : binary16.IsInfinite half
  · rw [singleToHalf_infinite (exact.infinite infinite), infinite]
  · have finite := BinaryFormat.isFinite_of_number number infinite
    have value := (exact.finite finite).2
    have grid : binary32.grid (magnitude single) = binary16.grid (magnitude half) := by
      rw [← BinaryFormat.abs_value, ← BinaryFormat.abs_value, value]
    have small : Single.exponent single < 143 := by
      by_contra large
      have overflow := overflow_of_exponent (Single.mantissa_lt single) (not_lt.mp large)
      rw [← Single.magnitude_eq, grid, ← grid_infinity] at overflow
      exact absurd (BinaryFormat.grid_le_grid.mp overflow) (not_le.mpr finite)
    have near := nearestEven_halfMagnitude (Single.mantissa_lt single) small
    rw [← Single.magnitude_eq, grid, ← magnitude_singleToHalf] at near
    exact near.eq BinaryFormat.grid_strictMono

/-- The two decoders agree exactly on the patterns that are not subnormal. -/
theorem decoders_agree_iff (half : BitVec 16) :
    halfToSingle half = heimaHalf2Single half ↔ ¬ Subnormal half := by
  rw [subnormal_iff, ← singleMagnitude_eq_iff (Half.mantissa_lt half)]
  exact decodeHalf_eq_iff (by decide) (by decide) half

theorem inverts_iff {half : BitVec 16} (number : ¬ binary16.IsNaN half) :
    Inverts half ↔ ¬ Subnormal half := by
  rw [← decoders_agree_iff]
  constructor
  · rintro ⟨single, isSingle, isSingle', -⟩
    rw [isSingle, isSingle']
  · intro agree
    rcases halfToSingle_exact number with ⟨single, isSingle, exact⟩
    have back := singleToHalf_of_decodes number exact
    exact ⟨single, isSingle, agree ▸ isSingle, exact, back, (heimaSingle2Half_eq single).trans back⟩

/-! ## Round trips from single precision -/

theorem halfToSingle_defined (half : BitVec 16) : ∃ single, halfToSingle half = some single := by
  by_cases nan : binary16.IsNaN half
  · have inRange := Half.mantissa_lt half
    have bounded := Half.exponent_lt half
    have infinity : binary16.infinity = 31 * 2 ^ 10 := rfl
    rw [BinaryFormat.IsNaN, Half.magnitude_eq] at nan
    have special : Half.exponent half = 31 := by omega
    have isDecoded : singleMagnitude 22 (Half.exponent half) (Half.mantissa half) =
        some (255 * 2 ^ 23 + Half.mantissa half * 2 ^ 13) := by
      rw [singleMagnitude, special, if_neg (fun zero => absurd zero.1 (by decide)), if_pos rfl]
    rcases decodeHalf_of_magnitude (by decide) isDecoded (by omega) with ⟨single, isSingle, -⟩
    exact ⟨single, isSingle⟩
  · rcases halfToSingle_exact nan with ⟨single, isSingle, -⟩
    exact ⟨single, isSingle⟩

theorem sameRoundTrip_iff_not_subnormal (value : BitVec 32) :
    SameRoundTrip value ↔ ¬ Subnormal (singleToHalf value) := by
  rw [← decoders_agree_iff, SameRoundTrip, heimaSingle2Half_eq]
  constructor
  · rintro ⟨single, isSingle, isSingle'⟩
    rw [isSingle, isSingle']
  · intro agree
    rcases halfToSingle_defined (singleToHalf value) with ⟨single, isSingle⟩
    exact ⟨single, isSingle, agree ▸ isSingle⟩

theorem grid_half_smallest : binary32.grid 0x33000000 = 1 / 2 ^ 25 := by
  norm_num [BinaryFormat.grid, BinaryFormat.units, BinaryFormat.scale, binary32]

/-- The middle between the largest subnormal and the smallest normal number. -/
theorem grid_below_normal :
    2 * binary32.grid 0x387fe000 = binary16.grid 1023 + binary16.grid (1023 + 1) := by
  norm_num [BinaryFormat.grid, BinaryFormat.units, BinaryFormat.scale, binary16, binary32]

theorem infinity_le_halfMagnitude {exponent : ℕ} (mantissa : ℕ) (large : 143 ≤ exponent) :
    binary16.infinity ≤ halfMagnitude exponent mantissa := by
  have infinity : binary16.infinity = 0x7c00 := rfl
  rw [halfMagnitude, infinity]
  by_cases special : exponent = 255
  · rw [if_pos special]
    split
    next => exact le_rfl
    next => exact Nat.le_add_right _ _
  · rw [if_neg special, if_pos large]

/-- The numbers that are rounded to a subnormal half-precision number. -/
theorem subnormal_singleToHalf_iff (value : BitVec 32) :
    Subnormal (singleToHalf value) ↔
      0x33000000 < magnitude value ∧ magnitude value < 0x387fe000 := by
  have inRange := Single.mantissa_lt value
  have fields := Single.magnitude_eq value
  rw [Subnormal, magnitude_singleToHalf]
  rcases Nat.lt_or_ge (Single.exponent value) 143 with small | large
  · have zero := halfMagnitude_eq_zero_iff inRange small
    have near := nearestEven_halfMagnitude inRange small
    have normal := near.succ_le_iff BinaryFormat.grid_strictMono 1023
    have even : Even (1023 + 1) := by decide
    rw [← fields, ← grid_half_smallest, BinaryFormat.grid_le_grid] at zero
    rw [← fields, ← grid_below_normal, iff_true_intro even, and_true, ← le_iff_lt_or_eq,
      mul_le_mul_iff_right₀ two_pos, BinaryFormat.grid_le_grid] at normal
    omega
  · have beyond := infinity_le_halfMagnitude (Single.mantissa value) large
    have infinity : binary16.infinity = 0x7c00 := rfl
    omega

/-- Both decoders invert the encoders exactly on the numbers and infinities that are not
subnormal, and the two round trips of a single-precision pattern differ exactly when it is
rounded to a subnormal number. -/
theorem decoders_invert_iff (half : BitVec 16) (value : BitVec 32) :
    (¬ binary16.IsNaN half → (Inverts half ↔ ¬ Subnormal half)) ∧
      (SameRoundTrip value ↔ magnitude value ≤ 0x33000000 ∨ 0x387fe000 ≤ magnitude value) := by
  constructor
  · intro number
    exact inverts_iff number
  · rw [sameRoundTrip_iff_not_subnormal, subnormal_singleToHalf_iff]
    omega

theorem decoders_invert_one : Inverts 0x3c00#16 ∧ SameRoundTrip 0x3f800000#32 := by
  rcases decoders_invert_iff 0x3c00#16 0x3f800000#32 with ⟨inverts, sameRoundTrip⟩
  constructor
  · apply (inverts (by decide)).mpr
    decide
  · apply sameRoundTrip.mpr
    decide

/-- `heimaHalf2Single` shifts the mantissa of the smallest subnormal number by 39 bits, and
its result for 2⁻¹⁵ is 2⁻³¹. -/
theorem heimaHalf2Single_subnormal :
    ¬ binary16.IsNaN 0x0001#16 ∧ ¬ Inverts 0x0001#16 ∧
      heimaHalf2Single 0x0001#16 = none ∧
      halfToSingle 0x0200#16 = some 0x38000000#32 ∧
      heimaHalf2Single 0x0200#16 = some 0x30000000#32 ∧
      ¬ SameRoundTrip 0x38000000#32 := by
  have undefined : heimaHalf2Single 0x0001#16 = none := by decide
  have exact : halfToSingle 0x0200#16 = some 0x38000000#32 := by decide
  have wrong : heimaHalf2Single 0x0200#16 = some 0x30000000#32 := by decide
  have encoded : singleToHalf 0x38000000#32 = 0x0200#16 := by decide
  refine ⟨by decide, ?_, undefined, exact, wrong, ?_⟩
  · rintro ⟨single, -, defined, -⟩
    rw [undefined] at defined
    exact Option.some_ne_none single defined.symm
  · rintro ⟨single, isSingle, isSingle'⟩
    rw [encoded, exact] at isSingle
    rw [heimaSingle2Half_eq, encoded, wrong, ← isSingle] at isSingle'
    exact absurd isSingle' (by decide)

end RmdCanSdk
