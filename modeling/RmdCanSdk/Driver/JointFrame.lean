import RmdCanSdk.Can.Backend
import RmdCanSdk.Driver.Conversions

/-!
# The joint frame on the CAN path

Targets are clamped to the joint limits, converted to the motor frame, and then
clamped twice more to the same limits, which by now are compared with positions
of the motor frame.
-/

namespace RmdCanSdk

section

variable {F : Type} [FloatArith F]

/-- What `setMotorTarget` puts into the target frame for a CAN motor. -/
def canTarget (target : MotorTargetStruct F) (params : MotorParameters F) : MotorTarget F :=
  (limitTarget (toCanTarget target params) params).target

/-- The target the transmit loop hands to `packMit` when the motor is enabled. -/
def handedTarget (target : MotorTargetStruct F) (params : MotorParameters F) : MotorTarget F :=
  (limitTarget (canTarget target params) params).target

theorem transmittedTarget_canTarget (motor : RuntimeMotor F) {target : MotorTargetStruct F}
    (enabled : target.enabled = 1) :
    transmittedTarget motor (canTarget target motor.parameters) =
      handedTarget target motor.parameters := by
  rw [transmittedTarget, handedTarget]
  rw [if_neg]
  exact not_not.mpr enabled

end

variable {params : MotorParameters ℚ} {target : MotorTargetStruct ℚ}

/-- The motor-frame position of a joint target. -/
def motorPosition (params : MotorParameters ℚ) (pos : ℚ) : ℚ :=
  params.polarity * pos + params.countBias

/-- An in-range target reaches `packMit` as its motor-frame position, clamped to the
joint limits. -/
theorem handedTarget_pos (lower : params.minimumPosition ≤ target.pos)
    (upper : target.pos ≤ params.maximumPosition) :
    (handedTarget target params).pos =
      clamp (motorPosition params target.pos) params.minimumPosition params.maximumPosition := by
  have bounds := clamp_mem (motorPosition params target.pos) (lower.trans upper)
  rw [handedTarget, canTarget, toCanTarget, motorPosition] at *
  simp only [limitTarget_target, clamp_eq_self lower upper]
  exact clamp_eq_self bounds.1 bounds.2

/-- The feedback conversion undoes the command conversion. -/
theorem toPublicActual_pos_iff (unit : params.polarity = 1 ∨ params.polarity = -1)
    (actual : MotorActual ℚ) (pos : ℚ) :
    (toPublicActual actual params).pos = pos ↔ actual.pos = motorPosition params pos := by
  rw [toPublicActual, motorPosition]
  rcases unit with positive | negative
  · rw [positive]
    constructor <;> intro same <;> linarith
  · rw [negative]
    constructor <;> intro same <;> linarith

/-- An in-range joint target comes back unchanged exactly when its motor-frame
position also lies between the joint limits. -/
theorem joint_target_kept_iff (params : MotorParameters ℚ) (target : MotorTargetStruct ℚ)
    (actual : MotorActual ℚ) (unit : params.polarity = 1 ∨ params.polarity = -1)
    (lower : params.minimumPosition ≤ target.pos)
    (upper : target.pos ≤ params.maximumPosition) :
    (toPublicActual { actual with pos := (handedTarget target params).pos } params).pos =
        target.pos ↔
      params.minimumPosition ≤ motorPosition params target.pos ∧
        motorPosition params target.pos ≤ params.maximumPosition := by
  rw [toPublicActual_pos_iff unit, handedTarget_pos lower upper]
  exact clamp_eq_self_iff (lower.trans upper)

/-- A reversed joint with asymmetric limits. -/
def reversedJoint : MotorParameters ℚ := { (default : MotorParameters ℚ) with
  polarity := -1
  minimumPosition := -1 / 2
  maximumPosition := 1 }

def jointTarget (pos : ℚ) : MotorTargetStruct ℚ where
  pos := pos
  vel := 0
  tor := 0
  kp := 0
  kd := 0
  enabled := 1

theorem joint_target_kept_reversed :
    (toPublicActual { (default : MotorActual ℚ) with
      pos := (handedTarget (jointTarget (1 / 4)) reversedJoint).pos } reversedJoint).pos = 1 / 4 :=
  (joint_target_kept_iff reversedJoint (jointTarget (1 / 4)) default (.inr rfl)
    (by decide +kernel) (by decide +kernel)).mpr ⟨by decide +kernel, by decide +kernel⟩

/-- The joint target 1 rad is sent as -1/2 rad in the motor frame, which is 1/2 rad
in the joint frame. -/
theorem joint_target_moved :
    let handed := handedTarget (jointTarget 1) reversedJoint
    reversedJoint.minimumPosition ≤ 1 ∧ 1 ≤ reversedJoint.maximumPosition ∧
      motorPosition reversedJoint 1 = -1 ∧ handed.pos = -1 / 2 ∧
      (toPublicActual { (default : MotorActual ℚ) with pos := handed.pos } reversedJoint).pos ≠
        (jointTarget 1).pos := by
  decide +kernel

end RmdCanSdk
