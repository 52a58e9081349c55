import Mathlib.Analysis.SpecialFunctions.Complex.Arg
import Mathlib.Analysis.SpecialFunctions.Trigonometric.Angle
import Mathlib.Analysis.SpecialFunctions.Trigonometric.Bounds
import Mathlib.Analysis.SpecialFunctions.Trigonometric.Inverse

/-!
# Circles in the plane

Polar coordinates of a point, and the points of a circle about the origin that have a given
distance from another point: by the law of cosines there are two of them up to full turns,
exactly if the point is neither too far away nor too near.
-/

namespace Plane

open Real

/-! ## Polar coordinates -/

noncomputable def hypot (x y : ℝ) : ℝ := √(x * x + y * y)

/-- The angle of the point `(x, y)`, from `-π` (excluded) to `π`, and zero for the origin. -/
noncomputable def atan2 (y x : ℝ) : ℝ := Complex.arg ⟨x, y⟩

theorem hypot_nonneg (x y : ℝ) : 0 ≤ hypot x y := sqrt_nonneg _

theorem hypot_mul_self (x y : ℝ) : hypot x y * hypot x y = x * x + y * y :=
  mul_self_sqrt (add_nonneg (mul_self_nonneg x) (mul_self_nonneg y))

theorem abs_fst_le_hypot (x y : ℝ) : |x| ≤ hypot x y :=
  abs_le_sqrt (by rw [sq]; exact le_add_of_nonneg_right (mul_self_nonneg y))

theorem abs_snd_le_hypot (x y : ℝ) : |y| ≤ hypot x y :=
  abs_le_sqrt (by rw [sq]; exact le_add_of_nonneg_left (mul_self_nonneg x))

theorem norm_eq_hypot (x y : ℝ) : ‖(⟨x, y⟩ : ℂ)‖ = hypot x y := by
  rw [Complex.norm_def, Complex.normSq_mk, hypot]

theorem hypot_mul_cos_atan2 (x y : ℝ) : hypot x y * cos (atan2 y x) = x := by
  rw [← norm_eq_hypot, atan2, Complex.norm_mul_cos_arg]

theorem hypot_mul_sin_atan2 (x y : ℝ) : hypot x y * sin (atan2 y x) = y := by
  rw [← norm_eq_hypot, atan2, Complex.norm_mul_sin_arg]

/-- Taking the angle of a point of the unit circle removes full turns. -/
theorem atan2_sin_cos (angle : ℝ) : atan2 (sin angle) (cos angle) = (angle : Angle).toReal := by
  have point : (⟨cos angle, sin angle⟩ : ℂ) =
      Angle.cos angle + Angle.sin angle * Complex.I := by
    apply Complex.ext
    · simp [-Complex.ofReal_cos, -Complex.ofReal_sin]
    · simp [-Complex.ofReal_cos, -Complex.ofReal_sin]
  have same : ((atan2 (sin angle) (cos angle) : ℝ) : Angle) = angle := by
    rw [atan2, point, Complex.arg_cos_add_sin_mul_I_coe_angle]
  rw [← same]
  exact (Angle.toReal_coe_eq_self_iff_mem_Ioc.mpr (Complex.arg_mem_Ioc _)).symm

/-! ## Points of a circle -/

/-- A chord of the unit circle is no longer than the arc. -/
theorem chord_sq_le (a b : ℝ) : (cos a - cos b) ^ 2 + (sin a - sin b) ^ 2 ≤ (a - b) ^ 2 := by
  have bound := one_sub_sq_div_two_le_cos (x := a - b)
  rw [cos_sub] at bound
  have unitA := sin_sq_add_cos_sq a
  have unitB := sin_sq_add_cos_sq b
  linarith

section

variable {radius length x y angle : ℝ}

/-- The law of cosines. -/
theorem hypot_circle_mul_self (radius x y angle : ℝ) :
    hypot (radius * cos angle - x) (radius * sin angle - y) *
        hypot (radius * cos angle - x) (radius * sin angle - y) =
      radius * radius + hypot x y * hypot x y -
        2 * radius * hypot x y * cos (angle - atan2 y x) := by
  have abscissa := hypot_mul_cos_atan2 x y
  have ordinate := hypot_mul_sin_atan2 x y
  have unit := sin_sq_add_cos_sq angle
  rw [hypot_mul_self, hypot_mul_self, cos_sub]
  generalize cos (atan2 y x) = c at *
  generalize sin (atan2 y x) = s at *
  generalize hypot x y = distance at *
  subst abscissa ordinate
  linear_combination radius * radius * unit

/-- The cosine of the angle between two sides of a triangle. -/
noncomputable def cosine (radius length distance : ℝ) : ℝ :=
  (radius * radius + distance * distance - length * length) / (2 * radius * distance)

/-- Which points of a circle have a distance from another point. -/
theorem hypot_circle_eq_iff (positive : 0 < radius) (nonneg : 0 ≤ length)
    (away : 0 < hypot x y) :
    hypot (radius * cos angle - x) (radius * sin angle - y) = length ↔
      cos (angle - atan2 y x) = cosine radius length (hypot x y) := by
  have law := hypot_circle_mul_self radius x y angle
  have scale : 2 * radius * hypot x y ≠ 0 := by positivity
  rw [cosine, eq_div_iff scale, ← mul_self_inj_of_nonneg (hypot_nonneg _ _) nonneg, law]
  constructor
  · intro same
    linarith
  · intro same
    linarith

theorem abs_cosine_le_one {distance : ℝ} (positive : 0 < radius) (away : 0 < distance)
    (near : distance ≤ radius + length) (far : |radius - length| ≤ distance) :
    -1 ≤ cosine radius length distance ∧ cosine radius length distance ≤ 1 := by
  have scale : 0 < 2 * radius * distance := by positivity
  rcases abs_le.mp far with ⟨lower, upper⟩
  rw [cosine, le_div_iff₀ scale, div_le_iff₀ scale]
  constructor
  · have product := mul_nonneg (by linarith : 0 ≤ radius + distance - length)
      (by linarith : 0 ≤ radius + distance + length)
    nlinarith
  · have product := mul_nonneg (by linarith : 0 ≤ length - (radius - distance))
      (by linarith : 0 ≤ length + (radius - distance))
    nlinarith

/-- A point of the circle at a distance from another point bounds how far that one is away. -/
theorem reachable_of_hypot_circle (positive : 0 < radius) (nonneg : 0 ≤ length)
    (linked : hypot (radius * cos angle - x) (radius * sin angle - y) = length) :
    hypot x y ≤ radius + length ∧ |radius - length| ≤ hypot x y := by
  have law := hypot_circle_mul_self radius x y angle
  have away := hypot_nonneg x y
  have scale : 0 ≤ 2 * radius * hypot x y := by positivity
  have upper := mul_le_mul_of_nonneg_left (cos_le_one (angle - atan2 y x)) scale
  have lower := mul_le_mul_of_nonneg_left (neg_one_le_cos (angle - atan2 y x)) scale
  rw [linked] at law
  have inner : |hypot x y - radius| ≤ length := by
    apply abs_le_of_sq_le_sq _ nonneg
    nlinarith
  have outer : length ≤ hypot x y + radius := by
    apply le_of_sq_le_sq _ (by positivity)
    nlinarith
  rcases abs_le.mp inner with ⟨below, above⟩
  refine ⟨by linarith, abs_le.mpr ⟨by linarith, by linarith⟩⟩

/-- The points of a circle at a distance from another point that can be reached: two angles,
up to full turns. -/
theorem hypot_circle_eq_iff_angle (positive : 0 < radius) (nonneg : 0 ≤ length)
    (away : 0 < hypot x y) (near : hypot x y ≤ radius + length)
    (far : |radius - length| ≤ hypot x y) :
    hypot (radius * cos angle - x) (radius * sin angle - y) = length ↔
      (angle : Angle) = ↑(atan2 y x + arccos (cosine radius length (hypot x y))) ∨
        (angle : Angle) = ↑(atan2 y x - arccos (cosine radius length (hypot x y))) := by
  rcases abs_cosine_le_one positive away near far with ⟨lower, upper⟩
  rw [hypot_circle_eq_iff positive nonneg away]
  conv_lhs => rw [← cos_arccos lower upper]
  rw [Angle.cos_eq_iff_coe_eq_or_eq_neg, Angle.coe_sub, Angle.coe_add, Angle.coe_sub,
    sub_eq_iff_eq_add, sub_eq_iff_eq_add, add_comm, neg_add_eq_sub]

end

end Plane
