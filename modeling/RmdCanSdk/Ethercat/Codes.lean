import Mathlib.Tactic.FieldSimp
import Mathlib.Tactic.LinearCombination
import RmdCanSdk.Ethercat.Snapshot

/-!
# Codes of the process data

The position and torque words of an RxPDO over exact numbers: where they stand in
the bytes the writer copies, what they decode to, and how far conversions to
integers can move them. A torque that no word can represent still decodes to no
more than itself.
-/

namespace RmdCanSdk

/-! ## The words in the bytes -/

section

variable {F : Type} [FloatArith F]

omit [FloatArith F] in
theorem targetPosition_writtenRx (targets : EthercatPackedTargetFrame)
    (actuals : MotorActualFrame F) (binding : EthercatPdoBinding F) :
    (writtenRx targets actuals binding).1.read32 2 =
      (packedTarget targets binding).rxBytes.read32 2 := by
  simp only [writtenRx]
  cases binding.rxProfile with
  | standard => exact Bytes.join32 _
  | pvt => exact Bytes.join32 _

omit [FloatArith F] in
theorem targetTorque_writtenRx (targets : EthercatPackedTargetFrame)
    (actuals : MotorActualFrame F) (binding : EthercatPdoBinding F) :
    (writtenRx targets actuals binding).1.read16 10 =
      (packedTarget targets binding).rxBytes.read16 10 := by
  simp only [writtenRx]
  cases binding.rxProfile with
  | standard => exact Bytes.join16 _
  | pvt => exact Bytes.join16 _

theorem targetPosition_packed (target : MotorTarget F) (params : MotorParameters F)
    (rxProfile : EthercatMtDeviceRxProfile) :
    (packEthercatTargetForRealtime target params rxProfile).rxBytes.read32 2 =
      radToCounts (clampPosition target.pos params) params := by
  cases rxProfile with
  | standard => exact Bytes.join32 _
  | pvt => exact Bytes.join32 _

theorem targetTorque_packed (target : MotorTarget F) (params : MotorParameters F)
    (rxProfile : EthercatMtDeviceRxProfile) :
    (packEthercatTargetForRealtime target params rxProfile).rxBytes.read16 10 =
      targetTorque target params := by
  cases rxProfile with
  | standard => exact Bytes.join16 _
  | pvt => exact Bytes.join16 _

end

/-! ## Positions -/

variable {params : MotorParameters ℚ} {unspecified : Unspecified}

theorem abs_polarity (unit : params.polarity = 1 ∨ params.polarity = -1) :
    |params.polarity| = 1 := by
  rcases unit with positive | negative
  · rw [positive, abs_one]
  · rw [negative, abs_neg, abs_one]

theorem polarity_mul_self (unit : params.polarity = 1 ∨ params.polarity = -1) :
    params.polarity * params.polarity = 1 := by
  rcases unit with positive | negative
  · rw [positive, one_mul]
  · rw [negative]
    norm_num

/-- The number whose rounding is the count of a position. -/
def exactCounts (rad : ℚ) (params : MotorParameters ℚ) : ℚ :=
  params.polarity * (rad / (2 * Pi)) * params.encoderResolution + params.countBias

/-- The distance between two neighbouring counts. -/
def positionStep (params : MotorParameters ℚ) : ℚ := |2 * Pi / params.encoderResolution|

/-- A position whose count fits the TargetPosition word. Without an encoder resolution
every count stands for zero. -/
structure Representable (params : MotorParameters ℚ) (rad : ℚ) : Prop where
  lower : -2 ^ 31 ≤ exactCounts rad params
  upper : exactCounts rad params ≤ 2 ^ 31 - 1
  zero : params.encoderResolution = 0 → rad = 0

/-- Between two points an affine function stays between bounds of its values there. -/
theorem affine_mem {slope offset value lower upper bottom top : ℚ}
    (aboveLower : lower ≤ value) (belowUpper : value ≤ upper)
    (lowerIn : bottom ≤ slope * lower + offset ∧ slope * lower + offset ≤ top)
    (upperIn : bottom ≤ slope * upper + offset ∧ slope * upper + offset ≤ top) :
    bottom ≤ slope * value + offset ∧ slope * value + offset ≤ top := by
  rcases le_total 0 slope with nonneg | nonpos
  · have fromLower := mul_le_mul_of_nonneg_left aboveLower nonneg
    have toUpper := mul_le_mul_of_nonneg_left belowUpper nonneg
    constructor <;> linarith [lowerIn.1, upperIn.2]
  · have fromLower := mul_le_mul_of_nonpos_left aboveLower nonpos
    have toUpper := mul_le_mul_of_nonpos_left belowUpper nonpos
    constructor <;> linarith [upperIn.1, lowerIn.2]

theorem pi_pos : (0 : ℚ) < Pi := by
  simp only [Pi, FloatArith.lit_rat]
  norm_num

/-- Positions between representable ones are representable. -/
theorem Representable.between {lower upper value : ℚ} (lowerIn : Representable params lower)
    (upperIn : Representable params upper) (aboveLower : lower ≤ value)
    (belowUpper : value ≤ upper) : Representable params value := by
  have affine : ∀ rad, exactCounts rad params =
      params.polarity * params.encoderResolution / (2 * Pi) * rad + params.countBias := by
    intro rad
    simp only [exactCounts]
    ring
  have inWord : -2 ^ 31 ≤ exactCounts value params ∧ exactCounts value params ≤ 2 ^ 31 - 1 := by
    rw [affine]
    apply affine_mem aboveLower belowUpper
    · rw [← affine]
      exact ⟨lowerIn.lower, lowerIn.upper⟩
    · rw [← affine]
      exact ⟨upperIn.lower, upperIn.upper⟩
  refine ⟨inWord.1, inWord.2, fun none => ?_⟩
  have lowerZero := lowerIn.zero none
  have upperZero := upperIn.zero none
  linarith

theorem radToCounts_finite (unspecified : Unspecified) {rad : ℚ} (representable : Representable params rad) :
    (radToCounts (.finite rad : Ieee unspecified) (params.map .finite)).toInt =
      roundHalfAway (exactCounts rad params) := by
  have lower : (-2 ^ 31 : Int) ≤ roundHalfAway (exactCounts rad params) :=
    le_roundHalfAway (by exact_mod_cast representable.lower)
  have upper : roundHalfAway (exactCounts rad params) ≤ (2 ^ 31 - 1 : Int) :=
    roundHalfAway_le (by exact_mod_cast representable.upper)
  have counts : lround ((params.map Ieee.finite).polarity *
      ((.finite rad : Ieee unspecified) / (lit 2 * Pi)) *
        (params.map Ieee.finite).encoderResolution + (params.map Ieee.finite).countBias) =
      roundHalfAway (exactCounts rad params) := by
    have divided : (.finite rad : Ieee unspecified) / (lit 2 * Pi) =
        .finite (rad / (2 * Pi)) :=
      Ieee.finite_div _ _ (mul_pos two_pos pi_pos).ne'
    rw [divided]
    exact Ieee.lround_finite _ (by exact le_trans (by decide) lower)
      (lt_of_le_of_lt upper (by decide))
  rw [radToCounts, counts]
  exact BitVec.toInt_ofInt_eq_self (by decide) lower (Int.lt_of_le_sub_one upper)

theorem radToCounts_nan (params : MotorParameters (Ieee unspecified)) :
    radToCounts .nan params = BitVec.ofInt 32 (unspecified.lround .nan) := by
  simp [radToCounts]

theorem countsToRad_zero (counts : BitVec 32) (zero : params.encoderResolution = 0) :
    countsToRad counts params = 0 := by
  simp [countsToRad, zero]

theorem countsToRad_eq (counts : BitVec 32) (nonzero : params.encoderResolution ≠ 0) :
    countsToRad counts params =
      params.polarity * (counts.toInt - params.countBias) / params.encoderResolution * 2 * Pi := by
  simp [countsToRad, nonzero]

/-- The exact count of a position stands for it. -/
theorem rad_exactCounts (unit : params.polarity = 1 ∨ params.polarity = -1)
    (nonzero : params.encoderResolution ≠ 0) (rad : ℚ) :
    params.polarity * (exactCounts rad params - params.countBias) /
      params.encoderResolution * 2 * Pi = rad := by
  have circle := pi_pos.ne'
  have square := polarity_mul_self unit
  simp only [exactCounts]
  field_simp
  linear_combination (rad * params.encoderResolution) * square

/-- A count decodes to the position it was rounded from up to half a step. -/
theorem abs_countsToRad_roundHalfAway_sub_le {rad : ℚ} {counts : BitVec 32}
    (unit : params.polarity = 1 ∨ params.polarity = -1) (nonzero : params.encoderResolution ≠ 0)
    (rounded : counts.toInt = roundHalfAway (exactCounts rad params)) :
    |countsToRad counts params - rad| ≤ positionStep params / 2 := by
  have difference : countsToRad counts params - rad =
      params.polarity * (roundHalfAway (exactCounts rad params) - exactCounts rad params) *
        (2 * Pi / params.encoderResolution) := by
    rw [countsToRad_eq counts nonzero, rounded]
    nth_rewrite 2 [← rad_exactCounts unit nonzero rad]
    ring
  calc |countsToRad counts params - rad|
    _ = |(roundHalfAway (exactCounts rad params) : ℚ) - exactCounts rad params| *
          positionStep params := by
        rw [difference, abs_mul, abs_mul, abs_polarity unit, one_mul]
        rfl
    _ ≤ 1 / 2 * positionStep params :=
        mul_le_mul_of_nonneg_right (abs_roundHalfAway_sub_le _) (abs_nonneg _)
    _ = positionStep params / 2 := by ring

/-- A representable position decodes to itself up to half a step. -/
theorem abs_countsToRad_sub_le {rad : ℚ} {counts : BitVec 32}
    (unit : params.polarity = 1 ∨ params.polarity = -1) (representable : Representable params rad)
    (rounded : counts.toInt = roundHalfAway (exactCounts rad params)) :
    |countsToRad counts params - rad| ≤ positionStep params / 2 := by
  by_cases zero : params.encoderResolution = 0
  · rw [countsToRad_zero counts zero, representable.zero zero, sub_zero, abs_zero]
    exact div_nonneg (abs_nonneg _) two_pos.le
  · exact abs_countsToRad_roundHalfAway_sub_le unit zero rounded

/-- Every word decodes between bounds of what the smallest and the largest decode to. -/
theorem countsToRad_mem {bottom top : ℚ}
    (smallest : bottom ≤ countsToRad (BitVec.intMin 32) params ∧
      countsToRad (BitVec.intMin 32) params ≤ top)
    (largest : bottom ≤ countsToRad (BitVec.intMax 32) params ∧
      countsToRad (BitVec.intMax 32) params ≤ top) (counts : BitVec 32) :
    bottom ≤ countsToRad counts params ∧ countsToRad counts params ≤ top := by
  by_cases zero : params.encoderResolution = 0
  · rw [countsToRad_zero _ zero] at smallest ⊢
    exact smallest
  have affine : ∀ counts : BitVec 32, countsToRad counts params =
      params.polarity / params.encoderResolution * 2 * Pi * counts.toInt +
        -(params.polarity * params.countBias / params.encoderResolution * 2 * Pi) := by
    intro counts
    rw [countsToRad_eq counts zero]
    ring
  rw [affine] at smallest largest ⊢
  apply affine_mem _ _ smallest largest
  · have lower := BitVec.le_toInt counts
    exact_mod_cast lower
  · have upper := BitVec.toInt_le (x := counts)
    exact_mod_cast upper

/-! ## Torques -/

def torqueScale (params : MotorParameters ℚ) : ℚ := params.torqueConstant * params.ratedCurrent

/-- The distance between two neighbouring torque words. -/
def torqueStep (params : MotorParameters ℚ) : ℚ := |torqueScale params| / 1000

theorem rawToTorque_eq (raw : BitVec 16) : rawToTorque raw params =
    params.polarity * (raw.toInt * (torqueScale params / 1000)) := by
  simp only [rawToTorque, torqueScale, FloatArith.lit_rat]
  ring

theorem abs_rawToTorque (unit : params.polarity = 1 ∨ params.polarity = -1) (raw : BitVec 16) :
    |rawToTorque raw params| = |(raw.toInt : ℚ)| * torqueStep params := by
  rw [rawToTorque_eq, abs_mul, abs_polarity unit, one_mul, abs_mul, abs_div]
  norm_num [torqueStep]

/-- The torque in thousandths of the scale. -/
def exactRaw (torque : ℚ) (params : MotorParameters ℚ) : ℚ :=
  params.polarity * 1000 * torque / torqueScale params

/-- The exact word of a torque stands for it. -/
theorem torque_exactRaw (unit : params.polarity = 1 ∨ params.polarity = -1)
    (nonzero : torqueScale params ≠ 0) (torque : ℚ) :
    params.polarity * (exactRaw torque params * (torqueScale params / 1000)) = torque := by
  have square := polarity_mul_self unit
  simp only [exactRaw]
  field_simp
  linear_combination torque * square

/-- A word decodes as far from a torque as it is from the torque's exact word. -/
theorem abs_rawToTorque_sub (unit : params.polarity = 1 ∨ params.polarity = -1)
    (nonzero : torqueScale params ≠ 0) (torque : ℚ) (raw : BitVec 16) :
    |rawToTorque raw params - torque| =
      |(raw.toInt : ℚ) - exactRaw torque params| * torqueStep params := by
  have difference : rawToTorque raw params - torque = params.polarity *
      (((raw.toInt : ℚ) - exactRaw torque params) * (torqueScale params / 1000)) := by
    rw [rawToTorque_eq]
    nth_rewrite 1 [← torque_exactRaw unit nonzero torque]
    ring
  rw [difference, abs_mul, abs_polarity unit, one_mul, abs_mul, abs_div]
  norm_num [torqueStep]

theorem abs_exactRaw (unit : params.polarity = 1 ∨ params.polarity = -1)
    (nonzero : torqueScale params ≠ 0) (torque : ℚ) :
    |exactRaw torque params| * torqueStep params = |torque| := by
  have positive : |torqueScale params| ≠ 0 := abs_ne_zero.mpr nonzero
  rw [exactRaw, torqueStep, abs_div, abs_mul, abs_mul, abs_polarity unit]
  field_simp
  norm_num [mul_comm]

theorem torqueToRaw_finite (torque : ℚ) (nonzero : torqueScale params ≠ 0) :
    torqueToRaw (.finite torque : Ieee unspecified) (params.map .finite) =
      toInt16 (.finite (exactRaw torque params) : Ieee unspecified) := by
  have scaled : ¬ ((.finite (torqueScale params) : Ieee unspecified) == .finite 0) = true := by
    simpa using nonzero
  apply (if_neg scaled).trans
  exact congrArg toInt16 (Ieee.finite_div _ _ nonzero)

/-- The word of a limited current. -/
def limitedRaw (raw : BitVec 32) (maxCurrent : Int) : BitVec 16 :=
  let limit := if maxCurrent < 0 then 0 else maxCurrent
  BitVec.ofInt 16
    (if raw.toInt > limit then limit else if raw.toInt < -limit then -limit else raw.toInt)

theorem torqueToRawLimited_finite (torque : ℚ) (maxCurrent : Int)
    (nonzero : torqueScale params ≠ 0) :
    torqueToRawLimited (.finite torque : Ieee unspecified) (params.map .finite) maxCurrent =
      limitedRaw (BitVec.ofInt 32
        (lround (.finite (exactRaw torque params) : Ieee unspecified))) maxCurrent := by
  have scaled : ¬ ((.finite (torqueScale params) : Ieee unspecified) == .finite 0) = true := by
    simpa using nonzero
  apply (if_neg scaled).trans
  exact congrArg (fun value => limitedRaw (BitVec.ofInt 32 (lround value)) maxCurrent)
    (Ieee.finite_div _ _ nonzero)

/-- The largest magnitude that the TargetTorque word of a mode can take. -/
def torqueBound (mode maxCurrent : Int) : Int :=
  if mode = 8 then 0 else if mode = 10 then min maxCurrent 32768 else 32768

/-- Narrowing does not increase the magnitude. -/
theorem natAbs_toInt_ofInt_le (value : Int) :
    (BitVec.ofInt 16 value).toInt.natAbs ≤ value.natAbs ∧
      (BitVec.ofInt 32 value).toInt.natAbs ≤ value.natAbs := by
  rw [BitVec.toInt_ofInt, BitVec.toInt_ofInt, Int.bmod_def, Int.bmod_def]
  omega

theorem natAbs_toInt_le (raw : BitVec 16) : raw.toInt.natAbs ≤ 32768 := by
  have lower := BitVec.le_toInt raw
  have upper := BitVec.toInt_lt (x := raw)
  omega

theorem natAbs_limitedRaw_le (raw : BitVec 32) {maxCurrent : Int} (nonneg : 0 ≤ maxCurrent) :
    (limitedRaw raw maxCurrent).toInt.natAbs ≤ maxCurrent.natAbs ∧
      (limitedRaw raw maxCurrent).toInt.natAbs ≤ raw.toInt.natAbs := by
  simp only [limitedRaw]
  split
  next negative => omega
  next =>
    split
    next above =>
      have narrowed := (natAbs_toInt_ofInt_le maxCurrent).1
      omega
    next =>
      split
      next below =>
        have narrowed := (natAbs_toInt_ofInt_le (-maxCurrent)).1
        omega
      next =>
        have narrowed := (natAbs_toInt_ofInt_le raw.toInt).1
        omega

theorem abs_cast (value : Int) : |(value : ℚ)| = value.natAbs := by
  rw [← Int.cast_abs, Nat.cast_natAbs]

/-- A number that a word cannot represent is larger than every word. -/
theorem natAbs_toInt16_le (value : ℚ) :
    (toInt16 (.finite value : Ieee unspecified)).toInt.natAbs ≤ (truncate value).natAbs := by
  by_cases inRange : -2 ^ 15 ≤ truncate value ∧ truncate value < 2 ^ 15
  · have word : toInt16 (.finite value : Ieee unspecified) =
        BitVec.ofInt 16 (truncate value) := if_pos inRange
    rw [word, BitVec.toInt_ofInt_eq_self (by decide) inRange.1 inRange.2]
  · have small := natAbs_toInt_le (toInt16 (.finite value : Ieee unspecified))
    omega

theorem abs_toInt16_le (value : ℚ) :
    |((toInt16 (.finite value : Ieee unspecified)).toInt : ℚ)| ≤ |value| := by
  have shrunk := abs_truncate_le value
  rw [abs_cast] at shrunk ⊢
  apply le_trans _ shrunk
  exact_mod_cast natAbs_toInt16_le value

theorem natAbs_lround_le (unspecified : Unspecified) (value : ℚ) :
    (BitVec.ofInt 32 (lround (.finite value : Ieee unspecified))).toInt.natAbs ≤
      (roundHalfAway value).natAbs := by
  by_cases inRange : -2 ^ 63 ≤ roundHalfAway value ∧ roundHalfAway value < 2 ^ 63
  · rw [Ieee.lround_finite value inRange.1 inRange.2]
    exact (natAbs_toInt_ofInt_le _).2
  · have lower := BitVec.le_toInt
      (BitVec.ofInt 32 (lround (.finite value : Ieee unspecified)))
    have upper := BitVec.toInt_lt
      (x := BitVec.ofInt 32 (lround (.finite value : Ieee unspecified)))
    omega

theorem abs_lround_le (unspecified : Unspecified) (value : ℚ) :
    |((BitVec.ofInt 32 (lround (.finite value : Ieee unspecified))).toInt : ℚ)| ≤
      |value| + 1 / 2 := by
  have error := abs_roundHalfAway_sub_le value
  have near : |(roundHalfAway value : ℚ)| ≤ |value| + 1 / 2 := by
    have triangle := abs_sub_abs_le_abs_sub (roundHalfAway value : ℚ) value
    linarith
  rw [abs_cast] at near ⊢
  apply le_trans _ near
  rw [Nat.cast_le]
  exact natAbs_lround_le unspecified value

/-- A torque within the limit decodes to one within the limit up to one step, in
every mode and also where no word represents it. -/
theorem abs_targetTorque_le (unit : params.polarity = 1 ∨ params.polarity = -1)
    {target : MotorTarget (Ieee unspecified)} {torque : ℚ} (tor : target.tor = .finite torque)
    (limited : |torque| ≤ params.maximumTorque) (nonneg : 0 ≤ target.maxCurrent) :
    |rawToTorque (targetTorque target (params.map .finite)) params| ≤
      params.maximumTorque + torqueStep params := by
  have step : 0 ≤ torqueStep params := div_nonneg (abs_nonneg _) (by norm_num)
  have kept : clampTorque target.tor (params.map .finite) = .finite torque := by
    rw [tor]
    change clamp (.finite torque : Ieee unspecified) (.finite (-params.maximumTorque))
      (.finite params.maximumTorque) = _
    rw [clamp_finite, clamp_eq_self (neg_le_of_abs_le limited) (le_of_abs_le limited)]
  have zero : ∀ raw : BitVec 16, raw = 0 → |(raw.toInt : ℚ)| * torqueStep params ≤
      params.maximumTorque + torqueStep params := by
    intro raw none
    rw [none]
    simpa using add_nonneg ((abs_nonneg torque).trans limited) step
  rw [abs_rawToTorque unit, targetTorque]
  by_cases scale : torqueScale params = 0
  · have idle : torqueStep params = 0 := by simp [torqueStep, scale]
    rw [idle, mul_zero, add_zero]
    exact (abs_nonneg torque).trans limited
  split
  next => exact zero _ rfl
  next =>
    split
    next =>
      rw [kept, torqueToRawLimited_finite torque _ scale]
      have bounded : |((limitedRaw (BitVec.ofInt 32
          (lround (.finite (exactRaw torque params) : Ieee unspecified)))
          target.maxCurrent).toInt : ℚ)| ≤ |exactRaw torque params| + 1 / 2 := by
        apply le_trans _ (abs_lround_le unspecified (exactRaw torque params))
        rw [abs_cast, abs_cast, Nat.cast_le]
        exact (natAbs_limitedRaw_le _ nonneg).2
      apply (mul_le_mul_of_nonneg_right bounded step).trans
      rw [add_mul, abs_exactRaw unit scale]
      linarith
    next =>
      rw [kept, torqueToRaw_finite torque scale]
      apply (mul_le_mul_of_nonneg_right (abs_toInt16_le (exactRaw torque params)) step).trans
      rw [abs_exactRaw unit scale]
      linarith

/-! ## Torques that are NaN -/

/-- No torque word of a mode exceeds the mode's bound. -/
theorem natAbs_targetTorque_le {F : Type} [FloatArith F] (target : MotorTarget F)
    (params : MotorParameters F) (nonneg : 0 ≤ target.maxCurrent) :
    ((targetTorque target params).toInt.natAbs : Int) ≤
      torqueBound target.mode target.maxCurrent := by
  have small := natAbs_toInt_le (targetTorque target params)
  simp only [targetTorque, torqueBound] at small ⊢
  split
  next => decide
  next notEight =>
    rw [if_neg notEight] at small
    split
    next ten =>
      rw [if_pos ten] at small
      apply le_min _ (by exact_mod_cast small)
      simp only [torqueToRawLimited]
      split
      next => simpa using nonneg
      next =>
        have limited := (natAbs_limitedRaw_le (BitVec.ofInt 32 (lround (params.polarity *
          lit 1000 * clampTorque target.tor params /
            (params.torqueConstant * params.ratedCurrent)))) nonneg).1
        simp only [limitedRaw] at limited
        omega
    next notTen =>
      rw [if_neg notTen] at small
      exact_mod_cast small

/-- Conversions that make the torque word of NaN as large as its mode allows. -/
def largestConversions (maxCurrent : Int) : Unspecified :=
  ⟨fun _ => min maxCurrent 32768, fun _ => BitVec.intMin 16⟩

theorem natAbs_limitedRaw_min {maxCurrent : Int} (nonneg : 0 ≤ maxCurrent) :
    ((limitedRaw (BitVec.ofInt 32 (min maxCurrent 32768)) maxCurrent).toInt.natAbs : Int) =
      min maxCurrent 32768 := by
  have word : (BitVec.ofInt 32 (min maxCurrent 32768)).toInt = min maxCurrent 32768 :=
    BitVec.toInt_ofInt_eq_self (by decide) (by omega) (by omega)
  have narrowed : limitedRaw (BitVec.ofInt 32 (min maxCurrent 32768)) maxCurrent =
      BitVec.ofInt 16 (min maxCurrent 32768) := by
    simp only [limitedRaw, word]
    rw [if_neg (not_lt_of_ge nonneg), if_neg (by omega), if_neg (by omega)]
  -- 32768 itself wraps to -32768
  rw [narrowed, BitVec.toInt_ofInt, Int.bmod_def]
  omega

theorem natAbs_targetTorque_nan (scale : torqueScale params ≠ 0) {maxCurrent : Int}
    {target : MotorTarget (Ieee (largestConversions maxCurrent))} (tor : target.tor = .nan)
    (current : target.maxCurrent = maxCurrent) (nonneg : 0 ≤ maxCurrent) :
    ((targetTorque target (params.map .finite)).toInt.natAbs : Int) =
      torqueBound target.mode maxCurrent := by
  have scaled : ¬ ((.finite (torqueScale params) : Ieee (largestConversions maxCurrent)) ==
      .finite 0) = true := by
    simpa using scale
  have kept : clampTorque target.tor (params.map .finite) = .nan := by
    rw [tor]
    exact clamp_nan _ _
  simp only [targetTorque, torqueBound]
  split
  next => decide
  next =>
    split
    next =>
      have raw : torqueToRawLimited (.nan : Ieee (largestConversions maxCurrent))
          (params.map .finite) maxCurrent =
            limitedRaw (BitVec.ofInt 32 (min maxCurrent 32768)) maxCurrent := by
        apply (if_neg scaled).trans
        rw [Ieee.mul_nan, Ieee.nan_div]
        rfl
      rw [kept, current, raw]
      exact natAbs_limitedRaw_min nonneg
    next =>
      have raw : torqueToRaw (.nan : Ieee (largestConversions maxCurrent)) (params.map .finite) =
          BitVec.intMin 16 := by
        apply (if_neg scaled).trans
        rw [Ieee.mul_nan, Ieee.nan_div]
        rfl
      rw [kept, raw]
      decide

end RmdCanSdk
