import Mathlib.Algebra.Order.Field.Rat
import Mathlib.Algebra.Order.Ring.Abs
import Mathlib.Algebra.Ring.Parity
import Mathlib.Data.Nat.Bitwise
import Mathlib.Tactic.Linarith
import Mathlib.Tactic.Ring

/-!
# Rounding to nearest, ties to even

Rounding to the nearest point of an increasing grid, where of two nearest points the one
with the even index is taken, and the shift to the right that rounds in this way.
-/

/-- No point of a grid is nearer than the one with the given index, which is even if
another point is as near. -/
def NearestEven (grid : ℕ → ℚ) (value : ℚ) (index : ℕ) : Prop :=
  ∀ other, |grid index - value| ≤ |grid other - value| ∧
    (|grid index - value| = |grid other - value| → other ≠ index → Even index)

/-- The upper one of two points is nearer above the middle. -/
theorem upper_nearer_iff {lower upper value : ℚ} (less : lower < upper) :
    |upper - value| ≤ |lower - value| ↔ lower + upper ≤ 2 * value := by
  have factored : (lower - value) ^ 2 - (upper - value) ^ 2 =
      (upper - lower) * (2 * value - (lower + upper)) := by ring
  rw [← sq_le_sq, ← sub_nonneg, factored, mul_nonneg_iff_of_pos_left (sub_pos.mpr less),
    sub_nonneg]

theorem lower_nearer_iff {lower upper value : ℚ} (less : lower < upper) :
    |lower - value| ≤ |upper - value| ↔ 2 * value ≤ lower + upper := by
  have factored : (upper - value) ^ 2 - (lower - value) ^ 2 =
      (upper - lower) * (lower + upper - 2 * value) := by ring
  rw [← sq_le_sq, ← sub_nonneg, factored, mul_nonneg_iff_of_pos_left (sub_pos.mpr less),
    sub_nonneg]

section

variable {grid : ℕ → ℚ} (increasing : StrictMono grid) {value : ℚ} {below : ℕ}
include increasing

theorem nearestEven_below (lower : grid below ≤ value)
    (nearer : value - grid below < grid (below + 1) - value ∨
      (value - grid below = grid (below + 1) - value ∧ Even below)) :
    NearestEven grid value below := by
  intro other
  rw [abs_of_nonpos (sub_nonpos.mpr lower), neg_sub]
  rcases lt_trichotomy other below with less | rfl | greater
  · have further := increasing less
    rw [abs_of_nonpos (by linarith), neg_sub]
    constructor
    · linarith
    · intro same
      linarith
  · rw [abs_of_nonpos (sub_nonpos.mpr lower), neg_sub]
    exact ⟨le_rfl, fun _ different => absurd rfl different⟩
  · have further := increasing.monotone (Nat.succ_le_of_lt greater)
    have beyond : value ≤ grid other := by
      rcases nearer with nearer | ⟨nearer, -⟩ <;> linarith
    rw [abs_of_nonneg (sub_nonneg.mpr beyond)]
    rcases nearer with nearer | ⟨tie, even⟩
    · constructor
      · linarith
      · intro same
        linarith
    · exact ⟨by linarith, fun _ _ => even⟩

theorem nearestEven_above (upper : value ≤ grid (below + 1))
    (nearer : grid (below + 1) - value < value - grid below ∨
      (value - grid below = grid (below + 1) - value ∧ Even (below + 1))) :
    NearestEven grid value (below + 1) := by
  intro other
  rw [abs_of_nonneg (sub_nonneg.mpr upper)]
  rcases lt_trichotomy other (below + 1) with less | rfl | greater
  · have further := increasing.monotone (Nat.le_of_lt_succ less)
    have beyond : grid other ≤ value := by
      rcases nearer with nearer | ⟨nearer, -⟩ <;> linarith
    rw [abs_of_nonpos (sub_nonpos.mpr beyond), neg_sub]
    rcases nearer with nearer | ⟨tie, even⟩
    · constructor
      · linarith
      · intro same
        linarith
    · exact ⟨by linarith, fun _ _ => even⟩
  · rw [abs_of_nonneg (sub_nonneg.mpr upper)]
    exact ⟨le_rfl, fun _ different => absurd rfl different⟩
  · have further := increasing greater
    rw [abs_of_nonneg (by linarith)]
    constructor
    · linarith
    · intro same
      linarith

/-- Rounding to nearest does not reverse the order. -/
theorem NearestEven.le {left right : ℚ} {leftIndex rightIndex : ℕ} (less : left < right)
    (nearLeft : NearestEven grid left leftIndex) (nearRight : NearestEven grid right rightIndex) :
    leftIndex ≤ rightIndex := by
  by_contra reversed
  have order := increasing (not_le.mp reversed)
  -- both numbers would be on the wrong side of the middle of the two points
  have belowLeft := (upper_nearer_iff order).mp (nearLeft rightIndex).1
  have aboveRight := (lower_nearer_iff order).mp (nearRight leftIndex).1
  linarith

/-- A point of the grid is rounded to itself. -/
theorem NearestEven.eq {index point : ℕ} (near : NearestEven grid (grid point) index) :
    index = point := by
  have closest := (near point).1
  rw [sub_self, abs_zero, abs_nonpos_iff, sub_eq_zero] at closest
  exact increasing.injective closest

/-- A number is rounded to the next point or beyond exactly above the middle, or in it
when that point is the even one. -/
theorem NearestEven.succ_le_iff {index : ℕ} (near : NearestEven grid value index)
    (below : ℕ) :
    below + 1 ≤ index ↔ grid below + grid (below + 1) < 2 * value ∨
      (grid below + grid (below + 1) = 2 * value ∧ Even (below + 1)) := by
  have step := increasing (Nat.lt_succ_self below)
  constructor
  · intro reaches
    have order := increasing (Nat.lt_of_succ_le reaches)
    have further := increasing.monotone reaches
    have middle := (upper_nearer_iff order).mp (near below).1
    rcases lt_or_eq_of_le (show grid below + grid (below + 1) ≤ 2 * value by linarith) with
      less | tie
    · exact .inl less
    · have same : index = below + 1 := increasing.injective (by linarith)
      subst same
      refine .inr ⟨tie, (near below).2 ?_ (Nat.ne_of_lt (Nat.lt_succ_self below))⟩
      apply le_antisymm (near below).1
      exact (lower_nearer_iff order).mpr tie.ge
  · intro middle
    by_contra short
    have notBeyond : index ≤ below := Nat.le_of_lt_succ (not_le.mp short)
    have order := increasing (Nat.lt_succ_of_le notBeyond)
    have further := increasing.monotone notBeyond
    have lower := (lower_nearer_iff order).mp (near (below + 1)).1
    rcases middle with less | ⟨tie, even⟩
    · linarith
    · have same : index = below := increasing.injective (by linarith)
      subst same
      have tied : |grid index - value| = |grid (index + 1) - value| := by
        apply le_antisymm (near (index + 1)).1
        exact (upper_nearer_iff order).mpr tie.le
      have evenIndex := (near (index + 1)).2 tied (Nat.succ_ne_self index)
      exact Nat.even_add_one.mp even evenIndex

end

/-! ## Shifts -/

/-- Whether the integer above a shifted number is nearer, or as near and even. -/
def RoundsUp (number shift : ℕ) : Prop :=
  2 ^ shift < 2 * (number % 2 ^ shift) ∨
    (2 ^ shift = 2 * (number % 2 ^ shift) ∧ ¬ Even (number / 2 ^ shift))

instance (number shift : ℕ) : Decidable (RoundsUp number shift) :=
  inferInstanceAs (Decidable (_ ∨ _))

/-- Shift to the right, to the nearest integer, ties to even. -/
def shiftEven (number shift : ℕ) : ℕ :=
  if RoundsUp number shift then number / 2 ^ shift + 1 else number / 2 ^ shift

/-- On a grid that is even between two points, a shift finds the nearest point. -/
theorem nearestEven_shiftEven {grid : ℕ → ℚ} (increasing : StrictMono grid)
    {value unit : ℚ} {number shift : ℕ} (positive : 0 < unit)
    (start : value = grid (number / 2 ^ shift) + (number % 2 ^ shift : ℕ) * unit)
    (step : grid (number / 2 ^ shift + 1) = grid (number / 2 ^ shift) + (2 ^ shift : ℕ) * unit) :
    NearestEven grid value (shiftEven number shift) := by
  have step' : grid (number / 2 ^ shift + 1) - value =
      ((2 ^ shift : ℕ) - (number % 2 ^ shift : ℕ) : ℚ) * unit := by
    rw [step, start]
    ring
  have start' : value - grid (number / 2 ^ shift) = (number % 2 ^ shift : ℕ) * unit := by
    rw [start]
    ring
  have inStep : number % 2 ^ shift < 2 ^ shift := Nat.mod_lt _ (Nat.two_pow_pos shift)
  rw [shiftEven]
  split
  next up =>
    apply nearestEven_above increasing
    · rw [← sub_nonneg, step']
      apply mul_nonneg _ positive.le
      rw [sub_nonneg]
      exact_mod_cast inStep.le
    · rw [step', start']
      rcases up with more | ⟨tie, odd⟩
      · left
        apply mul_lt_mul_of_pos_right _ positive
        rw [sub_lt_iff_lt_add]
        exact_mod_cast (by omega)
      · right
        refine ⟨?_, Nat.even_add_one.mpr odd⟩
        rw [eq_comm, mul_eq_mul_right_iff]
        left
        rw [sub_eq_iff_eq_add]
        exact_mod_cast (by omega)
  next down =>
    rw [RoundsUp, not_or, not_and_not_right] at down
    apply nearestEven_below increasing
    · rw [← sub_nonneg, start']
      positivity
    · rw [step', start']
      rcases lt_or_eq_of_le (not_lt.mp down.1) with less | tie
      · left
        apply mul_lt_mul_of_pos_right _ positive
        rw [lt_sub_iff_add_lt]
        exact_mod_cast (by omega)
      · right
        refine ⟨?_, down.2 tie.symm⟩
        rw [mul_eq_mul_right_iff]
        left
        rw [eq_sub_iff_add_eq]
        exact_mod_cast (by omega)

/-! ## Guard and sticky bits -/

/-- Whether a shift rounds up can be read from the bit shifted out last, the bits shifted
out before it and the last bit that is kept. -/
theorem guard_and_sticky_iff (number shift : ℕ) :
    (number &&& 2 ^ shift ≠ 0 ∧ number &&& (3 * 2 ^ shift - 1) ≠ 0) ↔
      RoundsUp number (shift + 1) := by
  have mask : 3 * 2 ^ shift - 1 = 2 ^ (shift + 1) ||| (2 ^ shift - 1) := by
    have positive : 0 < 2 ^ shift := Nat.two_pow_pos shift
    have double : 2 ^ (shift + 1) = 2 ^ shift * 2 := pow_succ 2 shift
    have small : 2 ^ shift - 1 < 2 ^ (shift + 1) := by omega
    rw [← Nat.mul_one (2 ^ (shift + 1)), ← Nat.two_pow_add_eq_or_of_lt small]
    omega
  have bit : ∀ index, number &&& 2 ^ index ≠ 0 ↔ number / 2 ^ index % 2 = 1 := by
    intro index
    rw [Nat.and_two_pow, Nat.testBit_eq_decide_div_mod_eq]
    by_cases set : number / 2 ^ index % 2 = 1
    · simp [set]
    · simp [set]
  have sticky : number &&& (3 * 2 ^ shift - 1) ≠ 0 ↔
      number / 2 ^ (shift + 1) % 2 = 1 ∨ number % 2 ^ shift ≠ 0 := by
    rw [mask, Nat.and_or_distrib_left, Nat.and_two_pow_sub_one_eq_mod, ← bit]
    simp only [ne_eq, Nat.or_eq_zero_iff, not_and_or]
  have rest : number % 2 ^ (shift + 1) =
      number % 2 ^ shift + 2 ^ shift * (number / 2 ^ shift % 2) := by
    rw [pow_succ, Nat.mod_mul]
  have small : number % 2 ^ shift < 2 ^ shift := Nat.mod_lt _ (Nat.two_pow_pos shift)
  rw [bit, sticky, RoundsUp, rest, Nat.not_even_iff, pow_succ]
  rcases Nat.mod_two_eq_zero_or_one (number / 2 ^ shift) with clear | set
  · rw [clear]
    omega
  · rw [set]
    omega
