import RmdCanSdk.Library.Binary32

/-!
# Motor types

The records exchanged between the public interface, the bus backends and the
realtime threads, over any floating-point type, and the clamp that every limit of
the SDK goes through.
-/

namespace RmdCanSdk

variable {F : Type} [FloatArith F]

/-- A reading of the steady clock, in nanoseconds since its epoch. -/
abbrev Time := Int

def Pi : F := lit 3.14159265358979323846

structure MotorParameters (F : Type) where
  polarity : F
  countBias : F
  encoderResolution : F
  gearRatioTor : F
  gearRatioPosVel : F
  ratedCurrent : F
  torqueConstant : F
  ratedTorque : F
  maximumTorque : F
  minimumPosition : F
  maximumPosition : F
  deriving DecidableEq

instance : Inhabited (MotorParameters F) where
  default := {
    polarity := lit 1
    countBias := lit 0
    encoderResolution := lit 1
    gearRatioTor := lit 1
    gearRatioPosVel := lit 1
    ratedCurrent := lit 1
    torqueConstant := lit 1
    ratedTorque := lit 1
    maximumTorque := lit 1
    minimumPosition := lit (-1)
    maximumPosition := lit 1 }

/-- The same parameters in another floating-point type. -/
def MotorParameters.map {G : Type} (convert : F → G) (params : MotorParameters F) :
    MotorParameters G where
  polarity := convert params.polarity
  countBias := convert params.countBias
  encoderResolution := convert params.encoderResolution
  gearRatioTor := convert params.gearRatioTor
  gearRatioPosVel := convert params.gearRatioPosVel
  ratedCurrent := convert params.ratedCurrent
  torqueConstant := convert params.torqueConstant
  ratedTorque := convert params.ratedTorque
  maximumTorque := convert params.maximumTorque
  minimumPosition := convert params.minimumPosition
  maximumPosition := convert params.maximumPosition

structure MotorTarget (F : Type) where
  pos : F
  vel : F
  tor : F
  kp : F
  kd : F
  mode : Int
  enabled : Int
  maxCurrent : Int
  deriving DecidableEq

instance : Inhabited (MotorTarget F) where
  default := {
    pos := lit 0
    vel := lit 0
    tor := lit 0
    kp := lit 0
    kd := lit 0
    mode := 8
    enabled := 0
    maxCurrent := 1000 }

structure MotorActual (F : Type) where
  pos : F
  vel : F
  tor : F
  encoderCount : BitVec 32
  temp : BitVec 16
  driveTemp : BitVec 16
  voltage : BitVec 16
  statusWord : BitVec 16
  errorCode : BitVec 16
  deriving DecidableEq

instance : Inhabited (MotorActual F) where
  default := {
    pos := lit 0
    vel := lit 0
    tor := lit 0
    encoderCount := 0
    temp := 0
    driveTemp := 0
    voltage := 0
    statusWord := 0xffff
    errorCode := 0 }

inductive MotorBus where
  | can
  | ethercat
  deriving DecidableEq

def clamp (value min max : F) : F :=
  if value < min then min
  else if value > max then max
  else value

/-! ## Clamping exact numbers -/

variable {value min max : ℚ}

theorem clamp_mem (value : ℚ) {min max : ℚ} (le : min ≤ max) :
    min ≤ clamp value min max ∧ clamp value min max ≤ max := by
  rw [clamp]
  split
  next => exact ⟨le_rfl, le⟩
  next notBelow =>
    split
    next => exact ⟨le, le_rfl⟩
    next notAbove => exact ⟨not_lt.mp notBelow, not_lt.mp notAbove⟩

theorem clamp_eq_self (lower : min ≤ value) (upper : value ≤ max) :
    clamp value min max = value := by
  rw [clamp]
  rw [if_neg (not_lt.mpr lower), if_neg (not_lt.mpr upper)]

theorem clamp_mono {left right : ℚ} (bounds : min ≤ max) (le : left ≤ right) :
    clamp left min max ≤ clamp right min max := by
  by_cases below : left < min
  · rw [clamp, if_pos below]
    exact (clamp_mem right bounds).1
  · by_cases above : max < right
    · have ended : clamp right min max = max := by
        rw [clamp, if_neg (by linarith), if_pos above]
      exact ended.symm ▸ (clamp_mem left bounds).2
    · rwa [clamp_eq_self (not_lt.mp below) (by linarith),
        clamp_eq_self (by linarith) (not_lt.mp above)]

/-- A number that the clamp leaves alone lies between the limits. -/
theorem clamp_eq_self_iff (le : min ≤ max) :
    clamp value min max = value ↔ min ≤ value ∧ value ≤ max := by
  constructor
  · intro unchanged
    exact unchanged ▸ clamp_mem value le
  · intro ⟨lower, upper⟩
    exact clamp_eq_self lower upper

/-! ## Clamping IEEE numbers -/

variable {unspecified : Unspecified}

@[simp] theorem clamp_finite :
    clamp (.finite value : Ieee unspecified) (.finite min) (.finite max) =
      .finite (clamp value min max) := by
  simp only [clamp, gt_iff_lt, Ieee.finite_lt]
  split
  · rfl
  · split <;> rfl

/-- NaN compares with no limit, so it passes every clamp. -/
@[simp] theorem clamp_nan (min max : Ieee unspecified) : clamp .nan min max = .nan := by
  simp [clamp]

/-- Between finite limits a clamp removes the infinities, but not NaN. -/
theorem clamp_cases (value : Ieee unspecified) (le : min ≤ max) :
    value = .nan ∨ ∃ kept, min ≤ kept ∧ kept ≤ max ∧
      clamp value (.finite min) (.finite max) = .finite kept := by
  cases value with
  | nan => exact .inl rfl
  | finite value =>
      rcases clamp_mem value le with ⟨lower, upper⟩
      exact .inr ⟨_, lower, upper, clamp_finite⟩
  | posInf => exact .inr ⟨max, le, le_rfl, by simp [clamp]⟩
  | negInf => exact .inr ⟨min, le_rfl, le, by simp [clamp]⟩

/-- The clamp of a rounding type rounds nothing. -/
@[simp] theorem value_clamp {format : RoundingFormat}
    (value min max : BinaryFloat format unspecified) :
    (clamp value min max).value = clamp value.value min.value max.value := by
  simp only [clamp, gt_iff_lt, BinaryFloat.lt_iff]
  split
  · rfl
  · split <;> rfl

end RmdCanSdk
