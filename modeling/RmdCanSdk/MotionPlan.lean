import Mathlib.Algebra.Order.Archimedean.Real.Basic
import RmdCanSdk.Library.Float
import RmdCanSdk.Library.Sinusoid
import RmdCanSdk.Types

/-!
# Motion plans

Sine targets for one motor, and the check that keeps them inside the position limits. The
check reads no phase and no frequency: it compares the band of the sine with the limits.
Over the real numbers this is exact.
-/

/-! ## Real numbers as a floating-point type -/

/-- Arithmetic on the real numbers. Numeric code takes it as a local instance, because the
real numbers have these operations already. -/
@[reducible] noncomputable def realArith : FloatArith ℝ where
  beq a b := @decide (a = b) (Classical.dec _)
  lit value := value
  isFinite _ := true
  lround value := if 0 ≤ value then ⌊value + 0.5⌋ else ⌈value - 0.5⌉
  toInt16 value := BitVec.ofInt 16 (if 0 ≤ value then ⌊value⌋ else ⌈value⌉)

namespace FloatArith

attribute [local instance] realArith

@[simp] theorem lit_real (value : ℚ) : (lit value : ℝ) = value := rfl

@[simp] theorem isFinite_real (value : ℝ) : isFinite value = true := rfl

end FloatArith

/-! ## Sine targets -/

namespace RmdCanSdk

section

variable {F : Type} [FloatArith F]

structure SineTargetSpec (F : Type) where
  centerRad : F
  amplitudeRad : F
  phaseRad : F
  kp : F
  kd : F
  feedforwardTorqueNm : F

instance : Inhabited (SineTargetSpec F) where
  default := {
    centerRad := lit 0
    amplitudeRad := lit 0
    phaseRad := lit 0
    kp := lit 0
    kd := lit 0
    feedforwardTorqueNm := lit 0 }

structure SineTargetLimitCheck (F : Type) where
  valid : Bool
  minTargetRad : F
  maxTargetRad : F
  minAllowedRad : F
  maxAllowedRad : F
  reason : String

def fabs (value : F) : F := if value < lit 0 then -value else value

/-- The text of a check whose targets exceed the limits. `format` is how a stream writes a
number. -/
def SineTargetLimitCheck.exceeds (check : SineTargetLimitCheck F) (format : F → String) : String :=
  .join ["target range [", format check.minTargetRad, ", ", format check.maxTargetRad,
    "] exceeds allowed range [", format check.minAllowedRad, ", ", format check.maxAllowedRad, "]"]

/-- The bounds that a check reports, before its verdict. -/
def sineTargetBounds (spec : SineTargetSpec F) (parameters : MotorParameters F) (marginRad : F) :
    SineTargetLimitCheck F :=
  let marginRad := if lit 0 < marginRad then marginRad else lit 0
  let amplitude := fabs spec.amplitudeRad
  { valid := false
    minTargetRad := spec.centerRad - amplitude
    maxTargetRad := spec.centerRad + amplitude
    minAllowedRad := parameters.minimumPosition + marginRad
    maxAllowedRad := parameters.maximumPosition - marginRad
    reason := "" }

def checkSineTargetWithinLimits (format : F → String) (spec : SineTargetSpec F)
    (parameters : MotorParameters F) (marginRad : F) : SineTargetLimitCheck F :=
  let check := sineTargetBounds spec parameters marginRad
  if !isFinite spec.centerRad || !isFinite spec.amplitudeRad || !isFinite spec.phaseRad ||
      !isFinite spec.kp || !isFinite spec.kd || !isFinite spec.feedforwardTorqueNm then
    { check with reason := "sine target contains a non-finite value" }
  else if spec.amplitudeRad < lit 0 then
    { check with reason := "sine amplitude must be non-negative" }
  else if check.minAllowedRad > check.maxAllowedRad then
    { check with reason := "position limit margin leaves no valid range" }
  else if check.minTargetRad < check.minAllowedRad ∨
      check.maxTargetRad > check.maxAllowedRad then
    { check with reason := check.exceeds format }
  else { check with valid := true }

def checkAngleWithinLimits (format : F → String) (angleRad : F) (parameters : MotorParameters F)
    (marginRad : F) : SineTargetLimitCheck F :=
  checkSineTargetWithinLimits format
    { (default : SineTargetSpec F) with centerRad := angleRad, amplitudeRad := lit 0 }
    parameters marginRad

/-- The target at a time, for a sine function of the number type. -/
def sineTargetAt (sin : F → F) (spec : SineTargetSpec F) (elapsedSec frequencyHz : F) : F :=
  spec.centerRad +
    spec.amplitudeRad * sin (lit 2 * Pi * frequencyHz * elapsedSec + spec.phaseRad)

/-! ## Verdicts -/

omit [FloatArith F] in
/-- No other text of the check begins like the one that reports the range. -/
theorem ne_exceeds (text : String) (other : text.toList.head? ≠ some 't')
    (check : SineTargetLimitCheck F) (format : F → String) : text ≠ check.exceeds format := by
  have start : "target range [".toList.head? = some 't' := by decide
  intro same
  rw [same, SineTargetLimitCheck.exceeds, String.join_cons, String.toList_append,
    List.head?_append, start, Option.some_or] at other
  exact other rfl

end

/-! ## Over the real numbers -/

noncomputable section

attribute [local instance] realArith

variable (format : ℝ → String) (spec : SineTargetSpec ℝ) (parameters : MotorParameters ℝ)
  (marginRad : ℝ)

/-- The positions that the limits leave to the targets. -/
def allowedPositions : Set ℝ :=
  Set.Icc (parameters.minimumPosition + max 0 marginRad)
    (parameters.maximumPosition - max 0 marginRad)

/-- The targets at one frequency. -/
def SineTargetSpec.wave (frequencyHz : ℝ) : Sinusoid where
  center := spec.centerRad
  amplitude := spec.amplitudeRad
  speed := lit 2 * Pi * frequencyHz
  phase := spec.phaseRad

theorem sineTargetAt_eq_wave (elapsedSec frequencyHz : ℝ) :
    sineTargetAt Real.sin spec elapsedSec frequencyHz =
      (spec.wave frequencyHz).value elapsedSec := rfl

theorem wave_moves {frequencyHz : ℝ} (nonzero : frequencyHz ≠ 0) :
    (spec.wave frequencyHz).speed ≠ 0 := by
  have positive : (0 : ℝ) < lit 2 * Pi := by
    rw [Pi, FloatArith.lit_real, FloatArith.lit_real]
    positivity
  exact mul_ne_zero positive.ne' nonzero

theorem fabs_real (value : ℝ) : fabs value = |value| := by
  rw [fabs, FloatArith.lit_real, Rat.cast_zero]
  split
  next negative => exact (abs_of_neg negative).symm
  next nonneg => exact (abs_of_nonneg (not_lt.mp nonneg)).symm

/-- The bounds that the check compares. -/
theorem sineTargetBounds_real : sineTargetBounds spec parameters marginRad =
    { valid := false
      minTargetRad := spec.centerRad - |spec.amplitudeRad|
      maxTargetRad := spec.centerRad + |spec.amplitudeRad|
      minAllowedRad := parameters.minimumPosition + max 0 marginRad
      maxAllowedRad := parameters.maximumPosition - max 0 marginRad
      reason := "" } := by
  have margin : (if lit 0 < marginRad then marginRad else lit 0) = max 0 marginRad := by
    rw [FloatArith.lit_real, Rat.cast_zero, max_def_lt]
  rw [sineTargetBounds, fabs_real, margin]

/-- The branches of the check that numbers can take. -/
theorem check_real : checkSineTargetWithinLimits format spec parameters marginRad =
    let bounds := sineTargetBounds spec parameters marginRad
    if spec.amplitudeRad < 0 then
      { bounds with reason := "sine amplitude must be non-negative" }
    else if bounds.maxAllowedRad < bounds.minAllowedRad then
      { bounds with reason := "position limit margin leaves no valid range" }
    else if bounds.minTargetRad < bounds.minAllowedRad ∨
        bounds.maxAllowedRad < bounds.maxTargetRad then
      { bounds with reason := bounds.exceeds format }
    else { bounds with valid := true } := by
  have zero : (lit 0 : ℝ) = 0 := Rat.cast_zero
  simp only [checkSineTargetWithinLimits, FloatArith.isFinite_real, zero, Bool.not_true,
    Bool.or_self, Bool.false_eq_true, if_false, gt_iff_lt]

/-- The bounds of a plan that does not swing backward are its band and the positions that the
limits leave. -/
theorem bounds_within (nonneg : 0 ≤ spec.amplitudeRad) (frequencyHz : ℝ) :
    let bounds := sineTargetBounds spec parameters marginRad
    (¬ (bounds.minTargetRad < bounds.minAllowedRad ∨
        bounds.maxAllowedRad < bounds.maxTargetRad) ↔
      (spec.wave frequencyHz).band ⊆ allowedPositions parameters marginRad) ∧
    (¬ bounds.maxAllowedRad < bounds.minAllowedRad ↔
      (allowedPositions parameters marginRad).Nonempty) := by
  have ordered : spec.centerRad - spec.amplitudeRad ≤ spec.centerRad + spec.amplitudeRad := by
    linarith
  rw [sineTargetBounds_real, abs_of_nonneg nonneg]
  dsimp only
  rw [not_or, not_lt, not_lt, not_lt, allowedPositions, Set.nonempty_Icc, Sinusoid.band]
  exact ⟨(Set.Icc_subset_Icc_iff ordered).symm, Iff.rfl⟩

/-- The check accepts the plans whose band lies in a range that the limits leave. -/
theorem check_valid_iff (frequencyHz : ℝ) :
    (checkSineTargetWithinLimits format spec parameters marginRad).valid = true ↔
      0 ≤ spec.amplitudeRad ∧ (allowedPositions parameters marginRad).Nonempty ∧
        (spec.wave frequencyHz).band ⊆ allowedPositions parameters marginRad := by
  have invalid : (sineTargetBounds spec parameters marginRad).valid ≠ true := by
    rw [sineTargetBounds_real]
    exact Bool.false_ne_true
  rw [check_real]
  dsimp only
  split
  next negative => exact iff_of_false invalid fun accepted => negative.not_ge accepted.1
  next nonneg =>
    rcases bounds_within spec parameters marginRad (not_lt.mp nonneg) frequencyHz with
      ⟨inside, room⟩
    rw [← inside, ← room]
    split
    next none => exact iff_of_false invalid fun accepted => accepted.2.1 none
    next some =>
      split
      next outside => exact iff_of_false invalid fun accepted => accepted.2.2 outside
      next within => exact iff_of_true rfl ⟨not_lt.mp nonneg, some, within⟩

/-- The check of a single angle. -/
theorem checkAngle_valid_iff (angleRad : ℝ) :
    (checkAngleWithinLimits format angleRad parameters marginRad).valid = true ↔
      angleRad ∈ allowedPositions parameters marginRad := by
  have zero : (lit 0 : ℝ) = 0 := Rat.cast_zero
  rw [checkAngleWithinLimits, check_valid_iff _ _ _ _ 0, Sinusoid.band, SineTargetSpec.wave]
  dsimp only
  rw [zero, sub_zero, add_zero, Set.Icc_self, Set.singleton_subset_iff]
  exact ⟨fun accepted => accepted.2.2, fun inside => ⟨le_rfl, ⟨angleRad, inside⟩, inside⟩⟩

/-- A plan that is rejected for its range has been checked for its amplitude. -/
theorem check_exceeds :
    let check := checkSineTargetWithinLimits format spec parameters marginRad
    check.reason = check.exceeds format → check.valid = false ∧ 0 ≤ spec.amplitudeRad := by
  rw [check_real, sineTargetBounds_real]
  dsimp only
  split
  next =>
    exact fun same =>
      absurd same (ne_exceeds "sine amplitude must be non-negative" (by decide) _ format)
  next nonneg =>
    split
    next =>
      exact fun same =>
        absurd same (ne_exceeds "position limit margin leaves no valid range" (by decide) _ format)
    next =>
      split
      next => exact fun _ => ⟨rfl, not_lt.mp nonneg⟩
      next => exact fun same => absurd same (ne_exceeds "" (by decide) _ format)

/-- A plan that moves and stays in the allowed positions is accepted. -/
theorem check_valid_of_within (nonneg : 0 ≤ spec.amplitudeRad) {frequencyHz : ℝ}
    (nonzero : frequencyHz ≠ 0)
    (within : ∀ elapsedSec, 0 ≤ elapsedSec →
      sineTargetAt Real.sin spec elapsedSec frequencyHz ∈ allowedPositions parameters marginRad) :
    (checkSineTargetWithinLimits format spec parameters marginRad).valid = true := by
  have moves := wave_moves spec nonzero
  have inside := ((spec.wave frequencyHz).forall_mem_iff nonneg moves).mp within
  exact (check_valid_iff format spec parameters marginRad frequencyHz).mpr
    ⟨nonneg, ⟨_, within 0 le_rfl⟩, inside⟩

/-- The check is exact. It accepts the plans that stay in the range the limits leave, at every
frequency and time, and then also with every other phase; a plan that it rejects, for the
range or with a proper amplitude, leaves the range at every frequency but zero. -/
theorem sine_check_exact (format : ℝ → String) (spec : SineTargetSpec ℝ)
    (parameters : MotorParameters ℝ) (marginRad : ℝ) :
    let check := checkSineTargetWithinLimits format spec parameters marginRad
    let allowed := allowedPositions parameters marginRad
    (check.valid = true ↔ 0 ≤ spec.amplitudeRad ∧ allowed.Nonempty ∧
      ∀ frequencyHz elapsedSec, sineTargetAt Real.sin spec elapsedSec frequencyHz ∈ allowed) ∧
    (check.valid = true → ∀ phaseRad frequencyHz elapsedSec,
      sineTargetAt Real.sin { spec with phaseRad } elapsedSec frequencyHz ∈ allowed) ∧
    (check.reason = check.exceeds format ∨ check.valid = false ∧ 0 ≤ spec.amplitudeRad →
      ∀ frequencyHz, frequencyHz ≠ 0 → ∃ elapsedSec, 0 ≤ elapsedSec ∧
        sineTargetAt Real.sin spec elapsedSec frequencyHz ∉ allowed) := by
  intro check allowed
  have never : check.valid = true → 0 ≤ spec.amplitudeRad ∧ allowed.Nonempty ∧
      ∀ phaseRad frequencyHz elapsedSec,
        sineTargetAt Real.sin { spec with phaseRad } elapsedSec frequencyHz ∈ allowed := by
    intro accepted
    rcases (check_valid_iff format spec parameters marginRad 0).mp accepted with
      ⟨nonneg, room, inside⟩
    refine ⟨nonneg, room, fun phaseRad frequencyHz elapsedSec => ?_⟩
    rw [sineTargetAt_eq_wave]
    exact inside (({ spec with phaseRad }.wave frequencyHz).value_mem nonneg elapsedSec)
  refine ⟨⟨?_, ?_⟩, fun accepted => (never accepted).2.2, ?_⟩
  · intro accepted
    rcases never accepted with ⟨nonneg, room, within⟩
    exact ⟨nonneg, room, within spec.phaseRad⟩
  · rintro ⟨nonneg, -, within⟩
    exact check_valid_of_within format spec parameters marginRad nonneg one_ne_zero
      fun elapsedSec _ => within 1 elapsedSec
  · intro rejected frequencyHz nonzero
    rcases rejected.elim (check_exceeds format spec parameters marginRad) id with
      ⟨invalid, nonneg⟩
    by_contra within
    push Not at within
    have accepted := check_valid_of_within format spec parameters marginRad nonneg nonzero within
    exact absurd (invalid.symm.trans accepted) Bool.false_ne_true

end

end RmdCanSdk
