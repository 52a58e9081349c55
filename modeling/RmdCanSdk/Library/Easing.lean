import Mathlib.Algebra.Order.Field.Basic
import Mathlib.Tactic.FieldSimp
import Mathlib.Tactic.Linarith
import Mathlib.Tactic.Ring

/-!
# Easing between two values

A progress that runs from zero to one without turning back moves a value from one end of
an interval to the other without overshooting, at a speed that its peak slope bounds. The
minimum-jerk quintic is such a progress, with the peak slope 15/8.
-/

/-- A progress on the unit interval, and a bound of its slope. -/
structure Easing (K : Type*) [Field K] [LinearOrder K] where
  progress : K → K
  peak : K
  zero : progress 0 = 0
  one : progress 1 = 1
  monotone : ∀ {early late : K}, 0 ≤ early → early ≤ late → late ≤ 1 →
    progress early ≤ progress late
  slope : ∀ {early late : K}, 0 ≤ early → early ≤ late → late ≤ 1 →
    progress late - progress early ≤ peak * (late - early)

namespace Easing

variable {K : Type*} [Field K] [LinearOrder K] (easing : Easing K) {start finish early late : K}

/-- The value on the way from `start` to `finish`. -/
def blend (start finish t : K) : K := start + (finish - start) * easing.progress t

@[simp] theorem blend_zero : easing.blend start finish 0 = start := by
  rw [blend, easing.zero, mul_zero, add_zero]

@[simp] theorem blend_one : easing.blend start finish 1 = finish := by
  rw [blend, easing.one, mul_one, add_sub_cancel]

theorem blend_sub : easing.blend start finish late - easing.blend start finish early =
    (finish - start) * (easing.progress late - easing.progress early) := by
  rw [blend, blend]
  ring

variable [IsStrictOrderedRing K]

/-- A blend moves toward its end. -/
theorem blend_le_blend (rising : start ≤ finish) (nonneg : 0 ≤ early) (le : early ≤ late)
    (small : late ≤ 1) : easing.blend start finish early ≤ easing.blend start finish late := by
  rw [← sub_nonneg, blend_sub]
  exact mul_nonneg (sub_nonneg.mpr rising) (sub_nonneg.mpr (easing.monotone nonneg le small))

theorem blend_ge_blend (falling : finish ≤ start) (nonneg : 0 ≤ early) (le : early ≤ late)
    (small : late ≤ 1) : easing.blend start finish late ≤ easing.blend start finish early := by
  rw [← sub_nonpos, blend_sub]
  exact mul_nonpos_of_nonpos_of_nonneg (sub_nonpos.mpr falling)
    (sub_nonneg.mpr (easing.monotone nonneg le small))

/-- A blend does not overshoot. -/
theorem blend_mem (nonneg : 0 ≤ early) (small : early ≤ 1) :
    min start finish ≤ easing.blend start finish early ∧
      easing.blend start finish early ≤ max start finish := by
  rcases le_total start finish with rising | falling
  · have fromStart := easing.blend_le_blend rising le_rfl nonneg small
    have toFinish := easing.blend_le_blend rising nonneg small le_rfl
    rw [blend_zero] at fromStart
    rw [blend_one] at toFinish
    rw [min_eq_left rising, max_eq_right rising]
    exact ⟨fromStart, toFinish⟩
  · have fromStart := easing.blend_ge_blend falling le_rfl nonneg small
    have toFinish := easing.blend_ge_blend falling nonneg small le_rfl
    rw [blend_zero] at fromStart
    rw [blend_one] at toFinish
    rw [min_eq_right falling, max_eq_left falling]
    exact ⟨toFinish, fromStart⟩

/-- The peak slope bounds the speed of a blend. -/
theorem abs_blend_sub_le (start finish : K) (nonneg : 0 ≤ early) (le : early ≤ late) (small : late ≤ 1) :
    |easing.blend start finish late - easing.blend start finish early| ≤
      easing.peak * |finish - start| * (late - early) := by
  have forward := sub_nonneg.mpr (easing.monotone nonneg le small)
  rw [blend_sub, abs_mul, abs_of_nonneg forward]
  calc |finish - start| * (easing.progress late - easing.progress early)
    _ ≤ |finish - start| * (easing.peak * (late - early)) :=
        mul_le_mul_of_nonneg_left (easing.slope nonneg le small) (abs_nonneg _)
    _ = easing.peak * |finish - start| * (late - early) := by ring

/-! ## Minimum jerk -/

/-- The quintic whose first two derivatives vanish at both ends. -/
def quintic (t : K) : K := t * t * t * (10 + t * (-15 + 6 * t))

/-- The change of the quintic over an interval, by half its length and the distance of its
middle from one half. -/
theorem quintic_sub (early late : K) :
    let half := (late - early) / 2
    let middle := (early + late - 1) / 2
    quintic late - quintic early = 30 * (late - early) *
      ((1 / 4 - middle ^ 2 - half ^ 2) ^ 2 + half ^ 2 * (1 / 3 - 4 / 5 * half ^ 2)) := by
  intro half middle
  simp only [quintic, half, middle]
  field_simp
  ring

/-- An interval inside the unit interval, by half its length and its middle. -/
theorem interval_bounds (nonneg : 0 ≤ early) (le : early ≤ late) (small : late ≤ 1) :
    ((late - early) / 2) ^ 2 ≤ 1 / 4 ∧
      ((early + late - 1) / 2) ^ 2 + ((late - early) / 2) ^ 2 ≤ 1 / 4 := by
  constructor <;> nlinarith

theorem quintic_monotone (nonneg : 0 ≤ early) (le : early ≤ late) (small : late ≤ 1) :
    quintic early ≤ quintic late := by
  have bounds := (interval_bounds nonneg le small).1
  rw [← sub_nonneg, quintic_sub]
  apply mul_nonneg (by linarith)
  apply add_nonneg (sq_nonneg _)
  exact mul_nonneg (sq_nonneg _) (by linarith)

theorem quintic_slope (nonneg : 0 ≤ early) (le : early ≤ late) (small : late ≤ 1) :
    quintic late - quintic early ≤ 15 / 8 * (late - early) := by
  have bounds := interval_bounds nonneg le small
  rw [quintic_sub]
  have middleNonneg := sq_nonneg ((early + late - 1) / 2)
  have halfNonneg := sq_nonneg ((late - early) / 2)
  generalize ((early + late - 1) / 2) ^ 2 = middle at bounds middleNonneg
  generalize ((late - early) / 2) ^ 2 = half at bounds halfNonneg
  have average : (1 / 4 - middle - half) ^ 2 + half * (1 / 3 - 4 / 5 * half) =
      1 / 16 - (middle * (1 / 2 - middle - 2 * half) + half * (1 / 6 - 1 / 5 * half)) := by
    ring
  have fromMiddle : 0 ≤ middle * (1 / 2 - middle - 2 * half) :=
    mul_nonneg middleNonneg (by linarith)
  have fromHalf : 0 ≤ half * (1 / 6 - 1 / 5 * half) := mul_nonneg halfNonneg (by linarith)
  calc 30 * (late - early) * ((1 / 4 - middle - half) ^ 2 + half * (1 / 3 - 4 / 5 * half))
    _ ≤ 30 * (late - early) * (1 / 16) := by
        apply mul_le_mul_of_nonneg_left _ (by linarith)
        rw [average]
        linarith
    _ = 15 / 8 * (late - early) := by ring

/-- The minimum-jerk progress. -/
def minimumJerk : Easing K where
  progress := quintic
  peak := 15 / 8
  zero := by norm_num [quintic]
  one := by norm_num [quintic]
  monotone := quintic_monotone
  slope := quintic_slope

end Easing
