import Mathlib.Analysis.SpecialFunctions.Trigonometric.Basic

/-!
# Sinusoids

A sinusoid stays in the band about its centre that its amplitude spans. One that moves
reaches both ends of the band, from any phase and at some time that is not in the past.
-/

/-- `center + amplitude * sin (speed * t + phase)` as a function of the time. -/
structure Sinusoid where
  center : ℝ
  amplitude : ℝ
  speed : ℝ
  phase : ℝ

namespace Sinusoid

open Real

variable (wave : Sinusoid) {lower upper : ℝ}

/-- The values between the extremes. -/
def band : Set ℝ := Set.Icc (wave.center - wave.amplitude) (wave.center + wave.amplitude)

noncomputable def value (t : ℝ) : ℝ :=
  wave.center + wave.amplitude * sin (wave.speed * t + wave.phase)

/-- The sinusoid stays in its band. -/
theorem value_mem (nonneg : 0 ≤ wave.amplitude) (t : ℝ) : wave.value t ∈ wave.band := by
  have low := mul_le_mul_of_nonneg_left (neg_one_le_sin (wave.speed * t + wave.phase)) nonneg
  have high := mul_le_mul_of_nonneg_left (sin_le_one (wave.speed * t + wave.phase)) nonneg
  rw [value, band, Set.mem_Icc]
  constructor <;> linarith

/-- A moving sinusoid passes every angle, up to full turns. -/
theorem exists_angle (moves : wave.speed ≠ 0) (angle : ℝ) :
    ∃ t, 0 ≤ t ∧ ∃ turns : ℤ, wave.speed * t + wave.phase = angle + turns * (2 * π) := by
  have turn : 0 < 2 * π := two_pi_pos
  -- enough turns in the direction of the motion to be past the phase
  have reached : ∃ turns : ℤ, 0 ≤ (angle + turns * (2 * π) - wave.phase) / wave.speed := by
    rcases lt_or_gt_of_ne moves with backward | forward
    · refine ⟨⌊(wave.phase - angle) / (2 * π)⌋, div_nonneg_of_nonpos ?_ backward.le⟩
      have floor := (le_div_iff₀ turn).mp (Int.floor_le ((wave.phase - angle) / (2 * π)))
      linarith
    · refine ⟨⌈(wave.phase - angle) / (2 * π)⌉, div_nonneg ?_ forward.le⟩
      have ceil := (div_le_iff₀ turn).mp (Int.le_ceil ((wave.phase - angle) / (2 * π)))
      linarith
  rcases reached with ⟨turns, nonneg⟩
  refine ⟨_, nonneg, turns, ?_⟩
  rw [mul_div_cancel₀ _ moves, sub_add_cancel]

/-- A moving sinusoid reaches the upper end of its band. -/
theorem exists_crest (moves : wave.speed ≠ 0) :
    ∃ t, 0 ≤ t ∧ wave.value t = wave.center + wave.amplitude := by
  rcases wave.exists_angle moves (π / 2) with ⟨t, nonneg, turns, angle⟩
  refine ⟨t, nonneg, ?_⟩
  rw [value, angle, sin_add_int_mul_two_pi, sin_pi_div_two, mul_one]

/-- A moving sinusoid reaches the lower end of its band. -/
theorem exists_trough (moves : wave.speed ≠ 0) :
    ∃ t, 0 ≤ t ∧ wave.value t = wave.center - wave.amplitude := by
  rcases wave.exists_angle moves (-(π / 2)) with ⟨t, nonneg, turns, angle⟩
  refine ⟨t, nonneg, ?_⟩
  rw [value, angle, sin_add_int_mul_two_pi, sin_neg, sin_pi_div_two]
  ring

/-- A moving sinusoid stays in an interval exactly if its band lies in the interval. -/
theorem forall_mem_iff (nonneg : 0 ≤ wave.amplitude) (moves : wave.speed ≠ 0) :
    (∀ t, 0 ≤ t → wave.value t ∈ Set.Icc lower upper) ↔ wave.band ⊆ Set.Icc lower upper := by
  constructor
  · intro within
    rcases wave.exists_trough moves with ⟨low, lowNonneg, trough⟩
    rcases wave.exists_crest moves with ⟨high, highNonneg, crest⟩
    exact Set.Icc_subset_Icc (trough ▸ (within low lowNonneg).1)
      (crest ▸ (within high highNonneg).2)
  · exact fun inside t _ => inside (wave.value_mem nonneg t)

end Sinusoid
