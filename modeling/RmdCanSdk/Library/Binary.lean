import Mathlib.Algebra.Order.Field.Basic
import Mathlib.Order.WithBot
import RmdCanSdk.Library.NearestEven

/-!
# Binary interchange formats

The patterns of a binary floating-point format: a sign bit, then exponent and mantissa,
which together count the magnitudes in increasing order. Infinity is the first pattern with
all exponent bits set, and the patterns beyond it are not numbers.
-/

/-- A format of some width: how many bits the mantissa has, and the bias of the exponent. -/
structure BinaryFormat (width : ℕ) where
  mantissaBits : ℕ
  bias : ℕ

/-- A pattern without its sign bit. -/
def magnitude {width : ℕ} (bits : BitVec width) : ℕ := bits.toNat % 2 ^ (width - 1)

/-- Patterns with the same sign and magnitude are the same. -/
theorem eq_of_msb_of_magnitude {width : ℕ} {left right : BitVec width}
    (sign : left.msb = right.msb) (same : magnitude left = magnitude right) : left = right := by
  have parts : ∀ bits : BitVec width,
      bits.toNat = bits.msb.toNat * 2 ^ (width - 1) + magnitude bits := by
    intro bits
    cases width with
    | zero => simp [magnitude, BitVec.eq_nil bits]
    | succ width =>
        have inRange := bits.isLt
        have fields := Nat.div_add_mod' bits.toNat (2 ^ width)
        rw [pow_succ] at inRange
        rw [magnitude, BitVec.msb_eq_decide, Nat.add_sub_cancel]
        by_cases large : 2 ^ width ≤ bits.toNat
        · have quotient : bits.toNat / 2 ^ width = 1 := by
            apply Nat.div_eq_of_lt_le <;> omega
          rw [quotient] at fields
          rw [decide_eq_true large, Bool.toNat_true, fields]
        · rw [decide_eq_false large, Bool.toNat_false, Nat.zero_mul, Nat.zero_add,
            Nat.mod_eq_of_lt (not_le.mp large)]
  apply BitVec.eq_of_toNat_eq
  rw [parts left, parts right, sign, same]

/-- A shift that puts the leading bit of a number in some place. -/
theorem shift_to_leading {number bits : ℕ} (nonzero : number ≠ 0)
    (fits : Nat.log2 number ≤ bits) :
    2 ^ bits ≤ number * 2 ^ (bits - Nat.log2 number) ∧
      number * 2 ^ (bits - Nat.log2 number) < 2 ^ (bits + 1) := by
  have power : 2 ^ Nat.log2 number * 2 ^ (bits - Nat.log2 number) = 2 ^ bits := by
    rw [← pow_add, Nat.add_sub_cancel' fits]
  constructor
  · rw [← power]
    exact Nat.mul_le_mul_right _ (Nat.log2_self_le nonzero)
  · rw [pow_succ', ← power, ← mul_assoc, ← pow_succ']
    exact Nat.mul_lt_mul_of_pos_right Nat.lt_log2_self (Nat.two_pow_pos _)

namespace BinaryFormat

variable {width : ℕ} (format : BinaryFormat width)

/-- A magnitude in units of the smallest one. -/
def units (magnitude : ℕ) : ℕ :=
  if magnitude / 2 ^ format.mantissaBits = 0 then magnitude
  else (2 ^ format.mantissaBits + magnitude % 2 ^ format.mantissaBits) *
    2 ^ (magnitude / 2 ^ format.mantissaBits - 1)

/-- The exponent of the smallest magnitude, negated. -/
def scale : ℕ := format.bias + format.mantissaBits - 1

/-- The number with a magnitude. From infinity on the exponent just continues. -/
def grid (magnitude : ℕ) : ℚ := format.units magnitude / 2 ^ format.scale

def infinity : ℕ := 2 ^ (width - 1) - 2 ^ format.mantissaBits

def IsNaN (bits : BitVec width) : Prop := format.infinity < magnitude bits

def IsInfinite (bits : BitVec width) : Prop := magnitude bits = format.infinity

def IsFinite (bits : BitVec width) : Prop := magnitude bits < format.infinity

instance (bits : BitVec width) : Decidable (format.IsNaN bits) :=
  inferInstanceAs (Decidable (_ < _))

instance (bits : BitVec width) : Decidable (format.IsInfinite bits) :=
  inferInstanceAs (Decidable (_ = _))

instance (bits : BitVec width) : Decidable (format.IsFinite bits) :=
  inferInstanceAs (Decidable (_ < _))

/-- The number with a finite pattern. -/
def value (bits : BitVec width) : ℚ :=
  if bits.msb then -format.grid (magnitude bits) else format.grid (magnitude bits)

/-- The number or the infinity with a pattern. -/
def extended (bits : BitVec width) : WithBot (WithTop ℚ) :=
  if format.IsInfinite bits then if bits.msb then ⊥ else ((⊤ : WithTop ℚ) : WithBot (WithTop ℚ))
  else ((format.value bits : WithTop ℚ) : WithBot (WithTop ℚ))

variable {format}

/-- The units of a magnitude from its exponent and mantissa. -/
theorem units_fields {exponent mantissa : ℕ} (inRange : mantissa < 2 ^ format.mantissaBits) :
    format.units (exponent * 2 ^ format.mantissaBits + mantissa) =
      if exponent = 0 then mantissa
      else (2 ^ format.mantissaBits + mantissa) * 2 ^ (exponent - 1) := by
  have positive : 0 < 2 ^ format.mantissaBits := Nat.two_pow_pos _
  have quotient : (exponent * 2 ^ format.mantissaBits + mantissa) / 2 ^ format.mantissaBits =
      exponent := by
    rw [Nat.add_comm, Nat.add_mul_div_right _ _ positive, Nat.div_eq_of_lt inRange, Nat.zero_add]
  have remainder : (exponent * 2 ^ format.mantissaBits + mantissa) % 2 ^ format.mantissaBits =
      mantissa := by
    rw [Nat.add_comm, Nat.add_mul_mod_self_right, Nat.mod_eq_of_lt inRange]
  rw [units, quotient, remainder]
  split
  next zero => rw [zero, Nat.zero_mul, Nat.zero_add]
  next => rfl

theorem units_normal {exponent mantissa : ℕ} (inRange : mantissa < 2 ^ format.mantissaBits)
    (normal : exponent ≠ 0) :
    format.units (exponent * 2 ^ format.mantissaBits + mantissa) =
      (2 ^ format.mantissaBits + mantissa) * 2 ^ (exponent - 1) := by
  rw [units_fields inRange, if_neg normal]

/-- Below the normal magnitudes the units are counted. -/
theorem units_of_lt {magnitude : ℕ} (subnormal : magnitude < 2 ^ format.mantissaBits) :
    format.units magnitude = magnitude := by
  rw [units, if_pos (Nat.div_eq_of_lt subnormal)]

/-- The distance to the next magnitude. -/
theorem units_succ (magnitude : ℕ) :
    format.units (magnitude + 1) =
      format.units magnitude + 2 ^ (magnitude / 2 ^ format.mantissaBits - 1) := by
  have positive : 0 < 2 ^ format.mantissaBits := Nat.two_pow_pos _
  have inRange := Nat.mod_lt magnitude positive
  have fields := Nat.div_add_mod magnitude (2 ^ format.mantissaBits)
  rw [Nat.mul_comm] at fields
  generalize magnitude / 2 ^ format.mantissaBits = exponent at *
  generalize magnitude % 2 ^ format.mantissaBits = mantissa at *
  subst fields
  rw [units_fields inRange, Nat.add_assoc]
  rcases Nat.lt_or_ge (mantissa + 1) (2 ^ format.mantissaBits) with inside | carry
  · rw [units_fields inside]
    split
    next zero =>
      rw [zero]
      rfl
    next => ring
  · have full : mantissa + 1 = 2 ^ format.mantissaBits := by omega
    have next : exponent * 2 ^ format.mantissaBits + (mantissa + 1) =
        (exponent + 1) * 2 ^ format.mantissaBits + 0 := by
      rw [full]
      ring
    rw [next, units_fields positive, if_neg (Nat.succ_ne_zero exponent), Nat.add_sub_cancel]
    split
    next zero =>
      rw [zero, ← full]
      ring
    next nonzero =>
      have power : 2 ^ exponent = 2 * 2 ^ (exponent - 1) := by
        rw [← pow_succ', Nat.sub_add_cancel (Nat.one_le_iff_ne_zero.mpr nonzero)]
      rw [power, ← full]
      ring

theorem units_strictMono : StrictMono format.units := by
  apply strictMono_nat_of_lt_succ
  intro magnitude
  rw [units_succ]
  exact Nat.lt_add_of_pos_right (Nat.two_pow_pos _)

theorem grid_strictMono : StrictMono format.grid := by
  intro left right less
  have units := (units_strictMono : StrictMono format.units) less
  have positive : (0 : ℚ) < 2 ^ format.scale := by positivity
  rw [grid, grid, div_lt_div_iff_of_pos_right positive]
  exact_mod_cast units

@[simp] theorem grid_zero : format.grid 0 = 0 := by
  simp [grid, units]

variable (format) in
theorem grid_nonneg (magnitude : ℕ) : 0 ≤ format.grid magnitude := by
  rw [grid]
  positivity

theorem abs_value (bits : BitVec width) : |format.value bits| = format.grid (magnitude bits) := by
  rw [value]
  split
  next => rw [abs_neg, abs_of_nonneg (format.grid_nonneg _)]
  next => rw [abs_of_nonneg (format.grid_nonneg _)]

section

variable {width' : ℕ} {other : BinaryFormat width'}

/-- The distance of two numbers with the same sign. -/
theorem abs_value_sub_of_msb_eq {left : BitVec width} {right : BitVec width'}
    (same : left.msb = right.msb) : |format.value left - other.value right| =
      |format.grid (magnitude left) - other.grid (magnitude right)| := by
  rw [value, value, same]
  split
  next => rw [neg_sub_neg, abs_sub_comm]
  next => rfl

theorem abs_value_sub_of_msb_ne {left : BitVec width} {right : BitVec width'}
    (different : left.msb ≠ right.msb) : |format.value left - other.value right| =
      format.grid (magnitude left) + other.grid (magnitude right) := by
  have leftNonneg := format.grid_nonneg (magnitude left)
  have rightNonneg := other.grid_nonneg (magnitude right)
  rw [value, value]
  cases leftSign : left.msb with
  | true =>
      have positive : right.msb = false := by simpa [leftSign] using different.symm
      rw [if_pos rfl, if_neg (by simp [positive]), abs_of_nonpos (by linarith)]
      ring
  | false =>
      have negative : right.msb = true := by simpa [leftSign] using different.symm
      rw [if_neg (by simp), if_pos negative, abs_of_nonneg (by linarith)]
      ring

/-- Of the numbers of a format the one with the nearest magnitude and the same sign is the
nearest. -/
theorem nearest_value {number : BitVec width'} {rounded : BitVec width}
    (near : NearestEven format.grid (other.grid (magnitude number)) (magnitude rounded))
    (sign : rounded.msb = number.msb) (rival : BitVec width) :
    |format.value rounded - other.value number| ≤ |format.value rival - other.value number| ∧
      (|format.value rounded - other.value number| = |format.value rival - other.value number| →
        format.value rival ≠ format.value rounded → Even (magnitude rounded)) := by
  rw [abs_value_sub_of_msb_eq sign]
  by_cases sameSign : rival.msb = number.msb
  · rw [abs_value_sub_of_msb_eq sameSign]
    refine ⟨(near (magnitude rival)).1, ?_⟩
    intro tie different
    apply (near (magnitude rival)).2 tie
    intro same
    apply different
    rw [value, value, same, sameSign, sign]
  · -- zero is at least as near as a number with the other sign
    have nonneg := other.grid_nonneg (magnitude number)
    have farther := format.grid_nonneg (magnitude rival)
    have zero := near 0
    rw [grid_zero, zero_sub, abs_neg, abs_of_nonneg nonneg] at zero
    rw [abs_value_sub_of_msb_ne sameSign]
    refine ⟨zero.1.trans (by linarith), ?_⟩
    intro tie _
    by_cases isZero : magnitude rounded = 0
    · rw [isZero]
      exact Even.zero
    · apply zero.2 _ (Ne.symm isZero)
      exact le_antisymm zero.1 (by linarith)

end

/-! ### Order -/

variable {left right : BitVec width}

theorem grid_le_grid {left right : ℕ} : format.grid left ≤ format.grid right ↔ left ≤ right :=
  grid_strictMono.le_iff_le

theorem isFinite_of_number (number : ¬ format.IsNaN left) (finite : ¬ format.IsInfinite left) :
    format.IsFinite left :=
  Nat.lt_of_le_of_ne (not_lt.mp number) finite

/-- Positive patterns are ordered as their magnitudes. -/
theorem extended_le_of_positive (leftSign : left.msb = false) (rightSign : right.msb = false)
    (leftNumber : ¬ format.IsNaN left) (rightNumber : ¬ format.IsNaN right) :
    format.extended left ≤ format.extended right ↔ magnitude left ≤ magnitude right := by
  simp only [extended, value, leftSign, rightSign, Bool.false_eq_true, if_false]
  by_cases rightInfinite : format.IsInfinite right
  · rw [if_pos rightInfinite]
    have atMost : magnitude left ≤ magnitude right := by
      rw [rightInfinite]
      exact not_lt.mp leftNumber
    exact iff_of_true le_top atMost
  · have rightFinite := isFinite_of_number rightNumber rightInfinite
    rw [if_neg rightInfinite]
    by_cases leftInfinite : format.IsInfinite left
    · rw [if_pos leftInfinite, leftInfinite]
      apply iff_of_false
      · rw [WithBot.coe_le_coe, not_le]
        exact WithTop.coe_lt_top _
      · exact not_le.mpr rightFinite
    · rw [if_neg leftInfinite, WithBot.coe_le_coe, WithTop.coe_le_coe, grid_le_grid]

/-- Negative patterns are ordered against their magnitudes. -/
theorem extended_le_of_negative (leftSign : left.msb = true) (rightSign : right.msb = true)
    (leftNumber : ¬ format.IsNaN left) (rightNumber : ¬ format.IsNaN right) :
    format.extended left ≤ format.extended right ↔ magnitude right ≤ magnitude left := by
  simp only [extended, value, leftSign, rightSign, if_true]
  by_cases leftInfinite : format.IsInfinite left
  · rw [if_pos leftInfinite]
    have atMost : magnitude right ≤ magnitude left := by
      rw [leftInfinite]
      exact not_lt.mp rightNumber
    exact iff_of_true bot_le atMost
  · have leftFinite := isFinite_of_number leftNumber leftInfinite
    rw [if_neg leftInfinite]
    by_cases rightInfinite : format.IsInfinite right
    · rw [if_pos rightInfinite, rightInfinite]
      apply iff_of_false
      · rw [not_le]
        exact WithBot.bot_lt_coe _
      · exact not_le.mpr leftFinite
    · rw [if_neg rightInfinite, WithBot.coe_le_coe, WithTop.coe_le_coe, neg_le_neg_iff,
        grid_le_grid]

theorem extended_nonneg (sign : left.msb = false) : 0 ≤ format.extended left := by
  simp only [extended, value, sign, Bool.false_eq_true, if_false]
  split
  next => exact le_top
  next =>
    apply WithBot.coe_le_coe.mpr
    exact WithTop.coe_le_coe.mpr (format.grid_nonneg _)

theorem extended_nonpos (sign : left.msb = true) : format.extended left ≤ 0 := by
  simp only [extended, value, sign, if_true]
  split
  next => exact bot_le
  next =>
    apply WithBot.coe_le_coe.mpr
    exact WithTop.coe_le_coe.mpr (neg_nonpos.mpr (format.grid_nonneg _))

/-- Only the zeros have the value zero. -/
theorem extended_eq_zero_iff (number : format.infinity ≠ 0) :
    format.extended left = 0 ↔ magnitude left = 0 := by
  rw [extended]
  split
  next infinite =>
    rw [show magnitude left = format.infinity from infinite, iff_false_right number]
    split
    · exact WithBot.bot_ne_coe
    · exact fun impossible => WithTop.top_ne_coe (WithBot.coe_injective impossible)
  next =>
    have zero : format.value left = 0 ↔ magnitude left = 0 := by
      rw [← abs_eq_zero, abs_value, ← (grid_zero : format.grid 0 = 0)]
      exact grid_strictMono.injective.eq_iff
    rw [← zero]
    exact WithBot.coe_eq_coe.trans WithTop.coe_eq_coe

end BinaryFormat

/-- The bits that a mask of adjacent bits selects. -/
theorem and_field (number start length : ℕ) :
    number &&& (2 ^ length - 1) * 2 ^ start = number / 2 ^ start % 2 ^ length * 2 ^ start := by
  apply Nat.eq_of_testBit_eq
  intro index
  simp only [Nat.testBit_and, Nat.testBit_mul_two_pow, Nat.testBit_two_pow_sub_one,
    Nat.testBit_mod_two_pow, Nat.testBit_div_two_pow]
  by_cases selected : start ≤ index
  · rw [Nat.sub_add_cancel selected]
    simp only [selected, decide_true, Bool.true_and]
    exact Bool.and_comm _ _
  · simp [selected]

/-- Half precision. -/
def binary16 : BinaryFormat 16 where
  mantissaBits := 10
  bias := 15

/-- Single precision. -/
def binary32 : BinaryFormat 32 where
  mantissaBits := 23
  bias := 127
