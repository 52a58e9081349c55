import RmdCanSdk.Can.Command
import RmdCanSdk.Driver.Written

/-!
# Limits of the gains

Gains are clamped on the way to a CAN motor. On the way to an EtherCAT drive they are only
scaled and narrowed, so a gain outside its limits reaches the drive as it is, or wrapped.
Both conversions round to single precision.
-/

namespace RmdCanSdk

open RoundingFormat

/-- A gain arrives as a number that is not negative and within one step of the clamped one. -/
def GainSent (gain limit step sent : ℚ) : Prop :=
  0 ≤ sent ∧ |sent - clamp gain 0 limit| ≤ step

/-- Both gains arrive within their limits, in a frame for a CAN motor or an RxPDO for an
EtherCAT drive. A CAN motor that is not enabled is sent the zero target, and no gain of the
caller. -/
def GainsKept (bus : MotorBus) (mode : Int) (kp kd : Single) : Prop :=
  ∀ (unspecified : Unspecified) (item : MotorTargetStruct (Binary32 unspecified)),
    item.kp = .number kp → item.kd = .number kd →
    match bus with
    | .can => ∀ motor : RuntimeMotor (Binary32 unspecified),
        let fields := mitFields (mitCommand motor (canTarget item motor.parameters))
        if item.enabled = 1 then
          GainSent kp.value 500 (500 / 4095)
              (uintToFloat (fields.kp.setWidth 16) RmdKpMin RmdKpMax 12) ∧
            GainSent kd.value 50 (50 / 4095)
              (uintToFloat (fields.kd.setWidth 16) RmdKdMin RmdKdMax 12)
        else fields.kp = 0 ∧ fields.kd = 0
    | .ethercat => ∀ (params : MotorParameters (Binary32 unspecified)) (maxCurrent : BitVec 16)
        (rx : Bytes), mode = 5 → WrittenFor item params mode maxCurrent .pvt rx →
          GainSent kp.value 500 (1 / 1000) ((rx.read32 12).toInt / 1000) ∧
            GainSent kd.value 50 (1 / 1000) ((rx.read32 16).toInt / 1000)

/-- The thousandths of a gain: the product in single precision, then the nearest integer. -/
def thousandths (gain : Single) : Int := roundHalfAway (binary32.round (gain.value * 1000))

/-- A gain whose thousandths are a word within one of the limits. Far outside, they may
wrap onto the clamped gain. -/
def GainFits (gain : Single) (limit : Int) : Prop :=
  (-2 ^ 63 ≤ thousandths gain ∧ thousandths gain < 2 ^ 63) ∧
    if thousandths gain < 0 then thousandths gain % 2 ^ 32 ≤ 1
    else thousandths gain ≤ 1000 * limit + 1 ∨ |thousandths gain % 2 ^ 32 - 1000 * limit| ≤ 1

/-- The gains that reach a motor within their limits. -/
def GainsFit (bus : MotorBus) (mode : Int) (kp kd : Single) : Prop :=
  match bus with
  | .can => True
  | .ethercat => mode = 5 → GainFits kp 500 ∧ GainFits kd 50

variable {unspecified : Unspecified}

/-! ## CAN -/

/-- Clamping twice is clamping once. -/
theorem clamp_clamp {limit : ℚ} (nonneg : 0 ≤ limit) {gain max : Binary32 unspecified} {value : ℚ}
    (isGain : gain.value = .finite value) (isMax : max.value = .finite limit) :
    (clamp (clamp gain (lit 0) max) (lit 0) max).value = .finite (clamp value 0 limit) := by
  have bounds := clamp_mem value nonneg
  rw [value_clamp, value_clamp, isGain, isMax, BinaryFloat.value_lit_zero, clamp_finite,
    clamp_finite, clamp_eq_self bounds.1 bounds.2]

/-- A clamped gain has a code less than one away from it. -/
theorem abs_gainCode_sub_le {limit gain : ℚ} (one : 1 ≤ limit) (most : limit ≤ 500)
    (exact : binary32.Exact gain) (nonneg : 0 ≤ gain) (small : gain ≤ limit) :
    |(roundHalfAway (roundedCode gain 0 limit 12) : ℚ) - gain * 4095 / limit| ≤ 1 := by
  have positive : 0 < limit := by linarith
  have steps : ((2 ^ 12 - 1 : Nat) : ℚ) = 4095 := by norm_num
  have codeEq : roundedCode gain 0 limit 12 =
      binary32.round (binary32.round (gain * 4095) / limit) := by
    rw [roundedCode, clamp_eq_self nonneg small, sub_zero, sub_zero, exact.round_eq, steps]
  have product : |binary32.round (gain * 4095) - gain * 4095| ≤ 1 / 16 := by
    have error := binary32.abs_round_sub_le (gain * 4095) (-3) (by decide) (by
      rw [abs_of_nonneg (by linarith)]
      norm_num
      linarith)
    norm_num at error ⊢
    exact error
  have scaled : |binary32.round (gain * 4095) / limit - gain * 4095 / limit| ≤ 1 / 16 := by
    rw [← sub_div, abs_div, abs_of_pos positive, div_le_iff₀ positive]
    linarith
  have quotient : |binary32.round (gain * 4095) / limit| < 2 ^ 13 := by
    have whole : gain * 4095 / limit ≤ 4095 := by
      rw [div_le_iff₀ positive]
      linarith
    have whole' : 0 ≤ gain * 4095 / limit := by positivity
    have sides := abs_le.mp scaled
    rw [abs_lt]
    constructor <;> linarith
  have code : |roundedCode gain 0 limit 12 - binary32.round (gain * 4095) / limit| ≤ 1 / 16 := by
    have error := binary32.abs_round_sub_le (binary32.round (gain * 4095) / limit) (-11)
      (by decide) (by
        norm_num at quotient ⊢
        exact quotient)
    rw [codeEq]
    norm_num at error ⊢
    linarith
  have rounded := abs_le.mp (abs_roundHalfAway_sub_le (roundedCode gain 0 limit 12))
  have codeSides := abs_le.mp code
  have scaledSides := abs_le.mp scaled
  rw [abs_le]
  constructor <;> linarith

/-- A field of twelve bits holds a clamped gain up to one step. -/
theorem gainSent_field {limit : ℚ} (range : PlainRange 0 limit 12) (one : 1 ≤ limit)
    (most : limit ≤ 500) {clamped max : Binary32 unspecified} {gain : ℚ}
    (isClamped : clamped.value = .finite (clamp gain 0 limit)) (isMax : max.value = .finite limit) :
    GainSent gain limit (limit / 4095) (uintToFloat
      (((floatToUint clamped (lit 0) max 12).setWidth 12).setWidth 16) 0 limit 12) := by
  have bounds := clamp_mem gain range.less.le
  have error := abs_gainCode_sub_le one most (BinaryFloat.exact_of_finite isClamped).1 bounds.1
    bounds.2
  have code := range.roundHalfAway_mem (clamp gain 0 limit)
  rw [range.floatToUint_eq _ isClamped BinaryFloat.value_lit_zero isMax]
  generalize roundHalfAway (roundedCode (clamp gain 0 limit) 0 limit 12) = sent at error code
  have word : (((BitVec.ofInt 16 sent).setWidth 12).setWidth 16).toNat = sent.toNat := by
    rw [BitVec.toNat_setWidth, BitVec.toNat_setWidth, BitVec.toNat_ofInt]
    omega
  have positive : 0 < limit := range.less
  have decoded : uintToFloat (((BitVec.ofInt 16 sent).setWidth 12).setWidth 16) 0 limit 12 =
      sent * limit / 4095 := by
    have small : ¬ sent.toNat > 2 ^ 12 - 1 := by omega
    have cast : (sent.toNat : ℚ) = sent := by exact_mod_cast Int.toNat_of_nonneg code.1
    rw [uintToFloat]
    simp only [word, small, if_false, FloatArith.lit_rat, cast]
    norm_num
  have nonneg : (0 : ℚ) ≤ sent := by exact_mod_cast code.1
  rw [decoded]
  refine ⟨by positivity, ?_⟩
  have scaled : (sent : ℚ) * limit / 4095 - clamp gain 0 limit =
      (sent - clamp gain 0 limit * 4095 / limit) * (limit / 4095) := by
    field_simp
  have step : 0 < limit / 4095 := div_pos positive (by norm_num)
  rw [scaled, abs_mul, abs_of_pos step]
  exact mul_le_of_le_one_left step.le error

theorem gains_kept_can (mode : Int) (kp kd : Single) : GainsKept .can mode kp kd := by
  intro unspecified item givenKp givenKd motor
  simp only
  split
  next enabled =>
    have handed := transmittedTarget_canTarget motor enabled
    have fields : mitFields (mitCommand motor (canTarget item motor.parameters)) = _ :=
      mitFields_packMit _ _ _ _ _ _
    have kpItem : item.kp.value = .finite kp.value := by
      rw [givenKp]
      rfl
    have kdItem : item.kd.value = .finite kd.value := by
      rw [givenKd]
      rfl
    have kpClamped : (handedTarget item motor.parameters).kp.value =
        .finite (clamp kp.value 0 500) := clamp_clamp (by norm_num) kpItem value_RmdKpMax
    have kdClamped : (handedTarget item motor.parameters).kd.value =
        .finite (clamp kd.value 0 50) := clamp_clamp (by norm_num) kdItem value_RmdKdMax
    rw [fields, handed]
    exact ⟨gainSent_field kpRange (by norm_num) le_rfl kpClamped value_RmdKpMax,
      gainSent_field kdRange (by norm_num) (by norm_num) kdClamped value_RmdKdMax⟩
  next disabled => exact gainFields_disabled motor disabled

/-! ## EtherCAT -/

variable {gain : Single} {limit : Int}

/-- Rounding twice moves the thousandths of a gain that is not too large by less than one. -/
theorem abs_thousandths_sub_le (small : |gain.value * 1000| < 2 ^ 20) :
    |(thousandths gain : ℚ) - gain.value * 1000| ≤ 17 / 32 := by
  have product : |binary32.round (gain.value * 1000) - gain.value * 1000| ≤ 1 / 32 := by
    have error := binary32.abs_round_sub_le (gain.value * 1000) (-4) (by decide) (by
      norm_num at small ⊢
      exact small)
    norm_num at error ⊢
    exact error
  have rounded := abs_le.mp (abs_roundHalfAway_sub_le (binary32.round (gain.value * 1000)))
  have sides := abs_le.mp product
  rw [thousandths, abs_le]
  constructor <;> linarith

/-- The thousandths of a gain tell where its clamp ends up. -/
theorem clamp_eq_zero (negative : thousandths gain < 0) : clamp gain.value 0 limit = 0 := by
  have below : gain.value < 0 := by
    by_contra nonneg
    have rounded : 0 ≤ thousandths gain := le_roundHalfAway (by
      push_cast
      exact round_nonneg (by linarith))
    exact absurd negative (not_lt_of_ge rounded)
  rw [clamp, if_pos below]

/-- Whole thousands up to the limit of the gains are single-precision numbers. -/
theorem exact_thousands (positive : 0 < limit) (most : limit ≤ 500) :
    binary32.Exact ((1000 * limit : Int) : ℚ) := by
  refine ⟨1000 * limit, 0, by rw [zpow_zero, mul_one], ?_, by decide⟩
  rw [abs_of_pos (by omega)]
  norm_num
  omega

theorem clamp_eq_limit (positive : 0 < limit) (most : limit ≤ 500)
    (large : 1000 * limit + 1 < thousandths gain) : clamp gain.value 0 limit = limit := by
  have above : (limit : ℚ) < gain.value := by
    by_contra small
    have rounded : thousandths gain ≤ 1000 * limit := roundHalfAway_le
      ((exact_thousands positive most).round_le (by
        push_cast
        linarith))
    omega
  have nonneg : (0 : ℚ) < limit := by exact_mod_cast positive
  rw [clamp, if_neg (by linarith), if_pos above]

/-- Between the limits and one thousandth beyond, the rounded gain is a step from the
clamped one. -/
theorem abs_thousandths_sub_clamp_le (positive : 0 < limit) (most : limit ≤ 500)
    (nonneg : 0 ≤ thousandths gain) (small : thousandths gain ≤ 1000 * limit + 1) :
    |(thousandths gain : ℚ) / 1000 - clamp gain.value 0 limit| ≤ 1 / 1000 := by
  have limitPos : (0 : ℚ) < limit := by exact_mod_cast positive
  have inRange : |gain.value * 1000| < 2 ^ 20 := by
    have exact : binary32.Exact (2 ^ 20) := ⟨2 ^ 20, 0, by norm_num, by decide, by decide⟩
    rw [abs_lt]
    constructor
    · by_contra low
      have rounded : thousandths gain ≤ -2 ^ 20 := roundHalfAway_le (by
        push_cast
        exact exact.neg.round_le (by linarith))
      omega
    · by_contra high
      have rounded : 2 ^ 20 ≤ thousandths gain := le_roundHalfAway (by
        push_cast
        exact exact.le_round (by linarith))
      omega
  have error := abs_le.mp (abs_thousandths_sub_le inRange)
  have lower : (0 : ℚ) ≤ thousandths gain := by exact_mod_cast nonneg
  have upper : (thousandths gain : ℚ) ≤ 1000 * limit + 1 := by exact_mod_cast small
  rw [clamp, abs_le]
  split
  next below => constructor <;> linarith
  next =>
    split
    next above => constructor <;> linarith
    next => constructor <;> linarith

/-- Words and whole gains are compared in thousandths. -/
theorem thousandths_sent_iff (word center : Int) :
    (0 ≤ (word : ℚ) / 1000 ∧ |(word : ℚ) / 1000 - center| ≤ 1 / 1000) ↔
      0 ≤ word ∧ |word - 1000 * center| ≤ 1 := by
  have sign : 0 ≤ (word : ℚ) / 1000 ↔ 0 ≤ word := by
    rw [le_div_iff₀ (by norm_num), zero_mul]
    exact_mod_cast Iff.rfl
  have scaled : |(word : ℚ) / 1000 - center| = |((word - 1000 * center : Int) : ℚ)| / 1000 := by
    rw [← abs_of_pos (show (0 : ℚ) < 1000 by norm_num), ← abs_div,
      abs_of_pos (show (0 : ℚ) < 1000 by norm_num)]
    push_cast
    congr 1
    ring
  rw [sign, scaled, div_le_div_iff_of_pos_right (by norm_num)]
  exact and_congr_right fun _ => by exact_mod_cast Iff.rfl

/-- What the low 32 bits of the thousandths are read as. -/
theorem gainSent_wrapped_iff (positive : 0 < limit) (most : limit ≤ 500) :
    GainSent gain.value limit (1 / 1000) (((thousandths gain).bmod (2 ^ 32) : Int) / 1000) ↔
      if thousandths gain < 0 then thousandths gain % 2 ^ 32 ≤ 1
      else thousandths gain ≤ 1000 * limit + 1 ∨
        |thousandths gain % 2 ^ 32 - 1000 * limit| ≤ 1 := by
  rw [GainSent]
  split
  next negative =>
    have center : clamp gain.value 0 limit = ((0 : Int) : ℚ) := by
      rw [clamp_eq_zero negative, Int.cast_zero]
    rw [center, thousandths_sent_iff, Int.abs_eq_natAbs, Int.bmod_def]
    omega
  next nonneg =>
    by_cases large : 1000 * limit + 1 < thousandths gain
    · rw [clamp_eq_limit positive most large, thousandths_sent_iff, Int.abs_eq_natAbs,
        Int.abs_eq_natAbs, Int.bmod_def]
      omega
    · have word : (thousandths gain).bmod (2 ^ 32) = thousandths gain := by
        rw [Int.bmod_def]
        omega
      have kept := abs_thousandths_sub_clamp_le positive most (le_of_not_gt nonneg)
        (le_of_not_gt large)
      rw [word]
      constructor
      · intro sent
        exact .inl (le_of_not_gt large)
      · intro fits
        refine ⟨?_, kept⟩
        rw [le_div_iff₀ (by norm_num), zero_mul]
        exact_mod_cast le_of_not_gt nonneg

/-- The word of a gain before its narrowing. -/
theorem gain_mul_thousand (unspecified : Unspecified) (gain : Single) :
    ((.number gain : Binary32 unspecified) * lit 1000).value =
      (Ieee.finite (gain.value * 1000)).rounded binary32 := by
  have thousand : (lit 1000 : Binary32 unspecified).value = .finite 1000 :=
    BinaryFloat.value_lit_eq (by decide +kernel) (by norm_num)
  rw [BinaryFloat.value_mul, thousand]
  rfl

/-- Gains beyond 64 bits may become anything, a negative one for instance. -/
theorem gainFits_iff (positive : 0 < limit) (most : limit ≤ 500) :
    GainFits gain limit ↔ ∀ unspecified : Unspecified, GainSent gain.value limit (1 / 1000)
      ((BitVec.ofInt 32 (lround (.number gain * lit 1000 : Binary32 unspecified))).toInt /
        1000) := by
  have wrapped := @gainSent_wrapped_iff gain limit positive most
  simp only [BinaryFloat.lround_eq, gain_mul_thousand]
  constructor
  · rintro ⟨inRange, fits⟩ unspecified
    rw [Ieee.lround_rounded inRange.1 inRange.2, BitVec.toInt_ofInt]
    exact wrapped.mpr fits
  · intro sent
    have inRange : -2 ^ 63 ≤ thousandths gain ∧ thousandths gain < 2 ^ 63 := by
      by_contra outside
      rcases Ieee.exists_lround_rounded outside with ⟨value, unspecific⟩
      have negative := (sent ⟨fun _ => -1, fun _ => 0⟩).1
      have narrowed : (BitVec.ofInt 32 (-1)).toInt = -1 := by decide
      rw [unspecific, narrowed] at negative
      norm_num at negative
    have own := sent zeroConversions
    rw [Ieee.lround_rounded inRange.1 inRange.2, BitVec.toInt_ofInt] at own
    exact ⟨inRange, wrapped.mp own⟩

/-- A target with gains and nothing else. -/
def gainItem (unspecified : Unspecified) (kp kd : Single) :
    MotorTargetStruct (Binary32 unspecified) where
  pos := lit 0
  vel := lit 0
  tor := lit 0
  kp := .number kp
  kd := .number kd
  enabled := 1

theorem gains_kept_ethercat_iff (kp kd : Single) :
    GainsKept .ethercat 5 kp kd ↔ GainFits kp 500 ∧ GainFits kd 50 := by
  rw [gainFits_iff (by norm_num) le_rfl, gainFits_iff (by norm_num) (by norm_num)]
  constructor
  · intro kept
    have both : ∀ unspecified : Unspecified,
        GainSent kp.value 500 (1 / 1000) ((BitVec.ofInt 32
            (lround (.number kp * lit 1000 : Binary32 unspecified))).toInt / 1000) ∧
          GainSent kd.value 50 (1 / 1000) ((BitVec.ofInt 32
            (lround (.number kd * lit 1000 : Binary32 unspecified))).toInt / 1000) := by
      intro unspecified
      rcases exists_writtenFor (gainItem unspecified kp kd) default 5 1000 .pvt with ⟨rx, written⟩
      have sent := kept unspecified _ rfl rfl _ _ rx rfl written
      rw [written.pvtGains.1, written.pvtGains.2] at sent
      exact sent
    exact ⟨fun unspecified => (both unspecified).1, fun unspecified => (both unspecified).2⟩
  · intro sent unspecified item givenKp givenKd params maxCurrent rx mode written
    have words := written.pvtGains
    rw [givenKp, givenKd] at words
    rw [words.1, words.2]
    exact ⟨sent.1 unspecified, sent.2 unspecified⟩

/-- The gains of every target reach a CAN motor within their limits. They reach an EtherCAT
drive so exactly when the mode does not use them or their thousandths fit. -/
theorem gains_kept_iff (bus : MotorBus) (mode : Int) (kp kd : Single) :
    GainsKept bus mode kp kd ↔ GainsFit bus mode kp kd := by
  cases bus with
  | can => exact iff_of_true (gains_kept_can mode kp kd) trivial
  | ethercat =>
      by_cases five : mode = 5
      · subst five
        exact (gains_kept_ethercat_iff kp kd).trans (by simp [GainsFit])
      · refine iff_of_true ?_ (fun impossible => absurd impossible five)
        intro unspecified item givenKp givenKd params maxCurrent rx impossible
        exact absurd impossible five

/-- The product in single precision is rounded up to the middle between two words. -/
example : thousandths ⟨16384049 / 2 ^ 15, by decide +kernel, by norm_num⟩ = 500002 := by
  decide +kernel

/-- A gain of -1 is written as -1000. -/
theorem gains_negative :
    let kp := Single.ofInt (-1) (by decide)
    let kd := Single.ofInt 0 (by decide)
    (∃ rx, WrittenFor (gainItem zeroConversions kp kd) default 5 1000 .pvt rx ∧
        (rx.read32 12).toInt = -1000) ∧
      ¬ GainsKept .ethercat 5 kp kd := by
  intro kp kd
  rcases exists_writtenFor (gainItem zeroConversions kp kd) default 5 1000 .pvt with ⟨rx, written⟩
  have word : (rx.read32 12).toInt = -1000 := by
    rw [written.pvtGains.1]
    decide +kernel
  refine ⟨⟨rx, written, word⟩, fun kept => ?_⟩
  have sent := (kept _ _ rfl rfl _ _ rx rfl written).1.1
  rw [word] at sent
  norm_num at sent

end RmdCanSdk
