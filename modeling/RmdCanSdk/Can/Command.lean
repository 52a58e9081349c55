import RmdCanSdk.Can.Backend
import RmdCanSdk.MitCodes

/-!
# Commands for disabled motors

The transmit loop replaces the target of a disabled motor by a zero target, which
is then limited and packed like any other. Limiting against a negative maximum
torque swaps the two bounds, and zero is clamped to one of them. How negative it may
be is a matter of the rounding of single precision.
-/

namespace RmdCanSdk

variable {F : Type} [FloatArith F]

/-- What a disabled motor is sent does not depend on its target. -/
theorem transmittedTarget_disabled (motor : RuntimeMotor F) {target : MotorTarget F}
    (disabled : target.enabled ≠ 1) :
    transmittedTarget motor target = (limitTarget default motor.parameters).target := by
  rw [transmittedTarget]
  rw [if_pos disabled]

section

variable {unspecified : Unspecified} {value : ℚ}

open RoundingFormat

/-- The range that a motor without a positive maximum torque gets. -/
theorem defaultTorqueRange : PlainRange (-24) 24 12 where
  less := by norm_num
  span := by decide +kernel
  steps := by decide +kernel
  largest := by decide +kernel
  wide := by decide
  narrow := by decide
  small := by norm_num

/-- Zero has the middle code, and so have the numbers from zero to the first one whose code
is rounded up. -/
theorem torqueCode_eq_zero_iff (nonneg : 0 ≤ value) (exact : binary32.Exact value) :
    roundHalfAway (roundedCode value (-24) 24 12) = roundHalfAway (roundedCode 0 (-24) 24 12) ↔
      value < 12291 / 2 ^ 20 := by
  have middle : roundHalfAway (roundedCode 0 (-24) 24 12) = 2048 := by decide +kernel
  have least := roundHalfAway_mono (defaultTorqueRange.roundedCode_mono
    (clamp_mono defaultTorqueRange.less.le nonneg))
  have first : (12585984 : ℤ) * 2 ^ (-30 : ℤ) = (12291 / 2 ^ 20 : ℚ) := by norm_num
  have most : roundHalfAway (roundedCode value (-24) 24 12) ≤ 2048 ↔
      value < (12585984 : ℤ) * 2 ^ (-30 : ℤ) :=
    defaultTorqueRange.code_le_iff value (by decide) 12585984 (-30) (by decide) (by decide)
      (by decide) (by decide +kernel) (by decide +kernel) exact
  rw [← first, ← most, middle]
  rw [middle] at least
  exact ⟨le_of_eq, fun upper => le_antisymm upper least⟩

/-- The torque left by the clamp has the code of zero unless the bounds are swapped by more
than rounding removes. -/
theorem torque_code_iff {maximum : Binary32 unspecified} {maximumTorque : ℚ}
    (finite : maximum.value = .finite maximumTorque) :
    let limit := positiveTorqueLimit maximum
    (floatToUint (clamp (lit 0) (-maximum) maximum) (-limit) limit 12).setWidth 12 =
        (floatToUint (lit 0) (-limit) limit 12).setWidth 12 ↔
      -12291 / 2 ^ 20 < maximumTorque := by
  intro limit
  have clamped : (clamp (lit 0) (-maximum) maximum).value =
      .finite (clamp 0 (-maximumTorque) maximumTorque) := by
    rw [value_clamp, BinaryFloat.value_lit_zero, BinaryFloat.value_neg_finite finite, finite,
      clamp_finite]
  by_cases nonneg : 0 ≤ maximumTorque
  · have zero : clamp (lit 0) (-maximum) maximum = lit 0 := by
      rw [BinaryFloat.ext_iff, clamped, BinaryFloat.value_lit_zero,
        clamp_eq_self (by linarith) nonneg]
    rw [zero]
    exact iff_of_true rfl (by linarith)
  · have negative := lt_of_not_ge nonneg
    have default : limit = lit 24 := by
      simp only [limit, positiveTorqueLimit, RmdDefaultMaxTorqueNm]
      rw [if_neg]
      rintro ⟨-, positive⟩
      rw [gt_iff_lt, BinaryFloat.lt_iff, BinaryFloat.value_lit_zero, finite,
        Ieee.finite_lt] at positive
      exact nonneg positive.le
    have upper : (lit 24 : Binary32 unspecified).value = .finite 24 :=
      BinaryFloat.value_lit_eq (by decide +kernel) (by norm_num)
    have lower := BinaryFloat.value_neg_finite upper
    have swapped : clamp 0 (-maximumTorque) maximumTorque = -maximumTorque := by
      rw [clamp, if_pos (by linarith)]
    rw [swapped] at clamped
    rw [default, defaultTorqueRange.floatToUint_eq _ clamped lower upper,
      defaultTorqueRange.floatToUint_eq _ BinaryFloat.value_lit_zero lower upper,
      defaultTorqueRange.setWidth_inj,
      torqueCode_eq_zero_iff (by linarith) (BinaryFloat.exact_of_finite clamped).1]
    constructor <;> intro bound <;> linarith

end

/-! ## The command of a disabled motor -/

variable {unspecified : Unspecified}

/-- The gains of a disabled motor are zero, whatever its parameters are. -/
theorem gainFields_disabled (motor : RuntimeMotor (Binary32 unspecified))
    {target : MotorTarget (Binary32 unspecified)} (disabled : target.enabled ≠ 1) :
    (mitFields (mitCommand motor target)).kp = 0 ∧
      (mitFields (mitCommand motor target)).kd = 0 := by
  rw [mitCommand]
  rw [transmittedTarget_disabled motor disabled, mitFields_packMit]
  exact ⟨gainField_zero kpRange value_RmdKpMax, gainField_zero kdRange value_RmdKdMax⟩

end RmdCanSdk
