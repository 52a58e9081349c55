import Mathlib.Data.Rat.Floor
import Mathlib.Algebra.Order.Floor.Ring
import Mathlib.Algebra.Ring.Int.Parity
import Mathlib.Tactic.Linarith

/-!
# Rounding to integers

The conversions from numbers to integers that numeric code performs: to the nearest
integer with halves away from zero, and toward zero. Floating-point results are rounded
with halves to the even integer.
-/

/-- Nearest integer, halves away from zero. -/
def roundHalfAway (value : ℚ) : Int :=
  if 0 ≤ value then ⌊value + 1 / 2⌋ else ⌈value - 1 / 2⌉

/-- Integer part, toward zero. -/
def truncate (value : ℚ) : Int :=
  if 0 ≤ value then ⌊value⌋ else ⌈value⌉

/-- Rounding moves a number by at most one half. -/
theorem abs_roundHalfAway_sub_le (value : ℚ) :
    |(roundHalfAway value : ℚ) - value| ≤ 1 / 2 := by
  rw [roundHalfAway]
  rw [abs_le]
  split
  next nonneg =>
    have lower := Int.sub_one_lt_floor (value + 1 / 2)
    have upper := Int.floor_le (value + 1 / 2)
    constructor <;> linarith
  next negative =>
    have lower := Int.le_ceil (value - 1 / 2)
    have upper := Int.ceil_lt_add_one (value - 1 / 2)
    constructor <;> linarith

/-- An integer that bounds a number from above bounds its rounding. -/
theorem roundHalfAway_le {value : ℚ} {bound : Int} (le : value ≤ bound) :
    roundHalfAway value ≤ bound := by
  rw [roundHalfAway]
  split
  next nonneg =>
    apply Int.lt_add_one_iff.mp
    rw [Int.floor_lt]
    push_cast
    linarith
  next negative =>
    rw [Int.ceil_le]
    linarith

/-- A number in front of the middle is rounded down. -/
theorem roundHalfAway_le_of_lt {value : ℚ} {bound : Int} (less : value < bound + 1 / 2) :
    roundHalfAway value ≤ bound := by
  have near := abs_le.mp (abs_roundHalfAway_sub_le value)
  apply Int.lt_add_one_iff.mp
  have below : (roundHalfAway value : ℚ) < (bound + 1 : Int) := by
    push_cast
    linarith
  exact_mod_cast below

/-- An integer that bounds a number from below bounds its rounding. -/
theorem le_roundHalfAway {value : ℚ} {bound : Int} (le : (bound : ℚ) ≤ value) :
    bound ≤ roundHalfAway value := by
  rw [roundHalfAway]
  split
  next nonneg =>
    rw [Int.le_floor]
    linarith
  next negative =>
    apply Int.le_of_sub_one_lt
    rw [Int.lt_ceil]
    push_cast
    linarith

/-- From the middle on a number is rounded up. -/
theorem lt_roundHalfAway {value : ℚ} {bound : Int} (nonneg : 0 ≤ bound)
    (le : (bound : ℚ) + 1 / 2 ≤ value) : bound < roundHalfAway value := by
  have positive : (0 : ℚ) ≤ bound := by exact_mod_cast nonneg
  rw [roundHalfAway, if_pos (by linarith)]
  apply Int.lt_of_add_one_le
  rw [Int.le_floor]
  push_cast
  linarith

@[simp] theorem roundHalfAway_intCast (value : Int) : roundHalfAway value = value :=
  le_antisymm (roundHalfAway_le le_rfl) (le_roundHalfAway le_rfl)

theorem roundHalfAway_mono {left right : ℚ} (le : left ≤ right) :
    roundHalfAway left ≤ roundHalfAway right := by
  rw [roundHalfAway, roundHalfAway]
  split
  next nonneg =>
    rw [if_pos (nonneg.trans le)]
    exact Int.floor_mono (by linarith)
  next negative =>
    split
    next nonneg =>
      have ceil : ⌈left - 1 / 2⌉ ≤ 0 := Int.ceil_le.mpr (by push_cast; linarith)
      exact ceil.trans (Int.floor_nonneg.mpr (by linarith))
    next => exact Int.ceil_mono (by linarith)

/-- Truncation does not increase the magnitude. -/
theorem abs_truncate_le (value : ℚ) : |(truncate value : ℚ)| ≤ |value| := by
  rw [truncate]
  split
  next nonneg =>
    rw [abs_of_nonneg nonneg, abs_of_nonneg (by exact_mod_cast Int.floor_nonneg.mpr nonneg)]
    exact Int.floor_le value
  next negative =>
    have ceil : ⌈value⌉ ≤ 0 := Int.ceil_le.mpr (by push_cast; linarith)
    rw [abs_of_neg (lt_of_not_ge negative), abs_of_nonpos (by exact_mod_cast ceil)]
    exact neg_le_neg (Int.le_ceil value)

/-- Truncation moves a number by less than one. -/
theorem abs_truncate_sub_lt (value : ℚ) : |(truncate value : ℚ) - value| < 1 := by
  rw [truncate, abs_lt]
  split
  next nonneg =>
    have lower := Int.sub_one_lt_floor value
    have upper := Int.floor_le value
    constructor <;> linarith
  next negative =>
    have lower := Int.le_ceil value
    have upper := Int.ceil_lt_add_one value
    constructor <;> linarith

/-- Truncation does not cross zero. -/
theorem truncate_nonpos {value : ℚ} (nonpos : value ≤ 0) : truncate value ≤ 0 := by
  rw [truncate]
  split
  next nonneg =>
    rw [le_antisymm nonpos nonneg, Int.floor_zero]
  next => exact Int.ceil_le.mpr (by exact_mod_cast nonpos)

theorem truncate_nonneg {value : ℚ} (nonneg : 0 ≤ value) : 0 ≤ truncate value := by
  rw [truncate, if_pos nonneg]
  exact Int.floor_nonneg.mpr nonneg

/-! ## Halves to even -/

/-- Nearest integer, halves to the even one. -/
def roundHalfEven (value : ℚ) : Int :=
  let below := ⌊value⌋
  if value < below + 1 / 2 ∨ (value = below + 1 / 2 ∧ Even below) then below else below + 1

/-- The integer is at most one half away, and even when it is one half away. -/
def IsHalfEven (value : ℚ) (rounded : Int) : Prop :=
  |(rounded : ℚ) - value| ≤ 1 / 2 ∧ (|(rounded : ℚ) - value| = 1 / 2 → Even rounded)

theorem isHalfEven_roundHalfEven (value : ℚ) : IsHalfEven value (roundHalfEven value) := by
  have lower := Int.floor_le value
  have upper := Int.lt_floor_add_one value
  simp only [roundHalfEven]
  split
  next down =>
    rw [IsHalfEven, abs_of_nonpos (by linarith)]
    rcases down with less | ⟨tie, even⟩
    · constructor
      · linarith
      · intro half
        linarith
    · exact ⟨by linarith, fun _ => even⟩
  next up =>
    rw [not_or, not_and] at up
    rw [IsHalfEven]
    push_cast
    rw [abs_of_nonneg (by linarith)]
    constructor
    · linarith
    · intro half
      exact Int.even_add_one.mpr (up.2 (by linarith))

/-- Two integers that a number may be rounded to are in the order of the numbers. -/
theorem IsHalfEven.le {left right : ℚ} {leftRounded rightRounded : Int} (le : left ≤ right)
    (leftNear : IsHalfEven left leftRounded) (rightNear : IsHalfEven right rightRounded) :
    leftRounded ≤ rightRounded := by
  by_contra reversed
  have leftSides := abs_le.mp leftNear.1
  have rightSides := abs_le.mp rightNear.1
  have gap : (rightRounded : ℚ) + 1 ≤ leftRounded := by exact_mod_cast not_le.mp reversed
  -- both are one half away, from the same number, and one apart
  have leftEven := leftNear.2 (by
    rw [abs_of_nonneg (by linarith)]
    linarith)
  have rightEven := rightNear.2 (by
    rw [abs_of_nonpos (by linarith)]
    linarith)
  have next : (leftRounded : ℚ) = rightRounded + 1 := by linarith
  have next : leftRounded = rightRounded + 1 := by exact_mod_cast next
  rw [next] at leftEven
  exact Int.even_add_one.mp leftEven rightEven

theorem IsHalfEven.eq {value : ℚ} {rounded : Int} (near : IsHalfEven value rounded) :
    roundHalfEven value = rounded :=
  le_antisymm ((isHalfEven_roundHalfEven value).le le_rfl near)
    (near.le le_rfl (isHalfEven_roundHalfEven value))

theorem abs_roundHalfEven_sub_le (value : ℚ) : |(roundHalfEven value : ℚ) - value| ≤ 1 / 2 :=
  (isHalfEven_roundHalfEven value).1

theorem roundHalfEven_mono {left right : ℚ} (le : left ≤ right) :
    roundHalfEven left ≤ roundHalfEven right :=
  (isHalfEven_roundHalfEven left).le le (isHalfEven_roundHalfEven right)

@[simp] theorem roundHalfEven_intCast (value : Int) : roundHalfEven value = value := by
  apply IsHalfEven.eq
  rw [IsHalfEven, sub_self, abs_zero]
  constructor <;> norm_num

theorem roundHalfEven_le {value : ℚ} {bound : Int} (le : value ≤ bound) :
    roundHalfEven value ≤ bound :=
  (roundHalfEven_mono le).trans_eq (roundHalfEven_intCast bound)

theorem le_roundHalfEven {value : ℚ} {bound : Int} (le : (bound : ℚ) ≤ value) :
    bound ≤ roundHalfEven value :=
  (roundHalfEven_intCast bound).symm.trans_le (roundHalfEven_mono le)

theorem roundHalfEven_neg (value : ℚ) : roundHalfEven (-value) = -roundHalfEven value := by
  have near := isHalfEven_roundHalfEven value
  apply IsHalfEven.eq
  rw [IsHalfEven]
  push_cast
  rw [neg_sub_neg, abs_sub_comm, even_neg]
  exact near
