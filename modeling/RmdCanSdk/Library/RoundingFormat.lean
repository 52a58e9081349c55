import Mathlib.Data.Int.Log
import RmdCanSdk.Library.Rounding

/-!
# Rounding to a binary format

The numbers a binary floating-point format holds, and the rounding of a number to the
nearest of them with ties to even. Rounding preserves the order and leaves the numbers of
the format alone, which is what bounds on rounded results rest on.
-/

/-- Numbers with `precision` significant bits, the last of them worth `2 ^ smallest` or
more. Finite numbers are below `2 ^ width` in magnitude. -/
structure RoundingFormat where
  precision : ℕ
  smallest : ℤ
  width : ℕ
  positive : 0 < precision

namespace RoundingFormat

variable (format : RoundingFormat)

/-- The exponent of the last bit of a number. -/
def lastBit (value : ℚ) : ℤ :=
  max format.smallest (Int.log 2 |value| + 1 - format.precision)

/-- The nearest number with `precision` bits, ties to even. Overflow is not a matter of
rounding, the result can be as large as its argument. -/
def round (value : ℚ) : ℚ :=
  roundHalfEven (value / 2 ^ format.lastBit value) * 2 ^ format.lastBit value

/-- The numbers that need no rounding. -/
def Exact (value : ℚ) : Prop :=
  ∃ (digits exponent : ℤ), value = digits * 2 ^ exponent ∧ |digits| < 2 ^ format.precision ∧
    format.smallest ≤ exponent

variable {format} {value left right bound : ℚ}

theorem two_zpow_pos (exponent : ℤ) : (0 : ℚ) < 2 ^ exponent := zpow_pos (by norm_num) exponent

theorem lastBit_neg (value : ℚ) : format.lastBit (-value) = format.lastBit value := by
  rw [lastBit, abs_neg, lastBit]

theorem round_neg (value : ℚ) : format.round (-value) = -format.round value := by
  rw [round, lastBit_neg, neg_div, roundHalfEven_neg, Int.cast_neg, neg_mul, round]

@[simp] theorem round_zero : format.round 0 = 0 := by
  rw [round, zero_div, ← Int.cast_zero, roundHalfEven_intCast, Int.cast_zero, zero_mul]

/-- Digits come in front of the last bit. -/
theorem abs_lt_two_zpow_lastBit (value : ℚ) :
    |value| < 2 ^ (format.lastBit value + format.precision) := by
  have log := Int.lt_zpow_succ_log_self (b := 2) (by decide) |value|
  apply log.trans_le
  push_cast
  apply zpow_le_zpow_right₀ (by norm_num)
  have reach : Int.log 2 |value| + 1 - format.precision ≤ format.lastBit value := le_max_right _ _
  linarith

/-- The last bit is worth more than the smallest only where every digit is needed. -/
theorem two_zpow_lastBit_le (nonzero : value ≠ 0)
    (larger : format.smallest < format.lastBit value) :
    2 ^ (format.lastBit value + format.precision - 1) ≤ |value| := by
  have reach : format.lastBit value = Int.log 2 |value| + 1 - format.precision := by
    rw [lastBit] at larger ⊢
    omega
  have log := Int.zpow_log_le_self (b := 2) (by decide) (abs_pos.mpr nonzero)
  push_cast at log
  have place : format.lastBit value + format.precision - 1 = Int.log 2 |value| := by omega
  rwa [place]

/-- Smaller numbers have their last bit in the same place or further right. -/
theorem lastBit_le {exponent : ℤ} (smallest : format.smallest ≤ exponent) (nonzero : value ≠ 0)
    (small : |value| < 2 ^ (exponent + format.precision)) : format.lastBit value ≤ exponent := by
  rcases eq_or_lt_of_le (le_max_left format.smallest
      (Int.log 2 |value| + 1 - format.precision)) with same | larger
  · exact same.symm.trans_le smallest
  · have digits := (two_zpow_lastBit_le nonzero larger).trans_lt small
    rw [zpow_lt_zpow_iff_right₀ (by norm_num)] at digits
    omega

theorem lastBit_mono (nonzero : left ≠ 0) (le : |left| ≤ |right|) :
    format.lastBit left ≤ format.lastBit right :=
  lastBit_le (le_max_left _ _) nonzero (le.trans_lt (abs_lt_two_zpow_lastBit right))

theorem lastBit_eq {exponent : ℤ} (smallest : format.smallest ≤ exponent)
    (large : 2 ^ (exponent + format.precision - 1) ≤ |value|)
    (small : |value| < 2 ^ (exponent + format.precision)) : format.lastBit value = exponent := by
  have magnitude := (two_zpow_pos _).trans_le large
  apply le_antisymm (lastBit_le smallest (abs_pos.mp magnitude) small)
  have log := (Int.zpow_le_iff_le_log (b := 2) (by decide) magnitude).mp (by exact_mod_cast large)
  apply le_max_of_le_right
  omega

/-- Rounding moves a number by at most one half of its last bit. -/
theorem abs_round_sub_le_lastBit (value : ℚ) :
    |format.round value - value| ≤ 2 ^ format.lastBit value / 2 := by
  have unit := two_zpow_pos (format.lastBit value)
  have error := abs_roundHalfEven_sub_le (value / 2 ^ format.lastBit value)
  have scaled : format.round value - value = (roundHalfEven (value / 2 ^ format.lastBit value) -
      value / 2 ^ format.lastBit value) * 2 ^ format.lastBit value := by
    rw [round, sub_mul, div_mul_cancel₀ _ unit.ne']
  rw [scaled, abs_mul, abs_of_pos unit]
  linarith [mul_le_mul_of_nonneg_right error unit.le]

variable (format value) in
theorem abs_round_sub_le (exponent : ℤ) (smallest : format.smallest ≤ exponent)
    (small : |value| < 2 ^ (exponent + format.precision)) :
    |format.round value - value| ≤ 2 ^ exponent / 2 := by
  by_cases zero : value = 0
  · rw [zero, round_zero, sub_self, abs_zero]
    exact div_nonneg (two_zpow_pos exponent).le (by norm_num)
  · apply (abs_round_sub_le_lastBit value).trans
    apply div_le_div_of_nonneg_right _ (by norm_num)
    exact zpow_le_zpow_right₀ (by norm_num) (lastBit_le smallest zero small)

/-! ## The numbers of a format -/

theorem Exact.neg (exact : format.Exact value) : format.Exact (-value) := by
  rcases exact with ⟨digits, exponent, rfl, few, smallest⟩
  exact ⟨-digits, exponent, by push_cast; ring, (abs_neg digits).trans_lt few, smallest⟩

/-- A number of the format is a multiple of its last bit. -/
theorem Exact.multiple (exact : format.Exact value) (nonzero : value ≠ 0) :
    ∃ digits : ℤ, value / 2 ^ format.lastBit value = digits := by
  rcases exact with ⟨digits, exponent, equal, few, smallest⟩
  have magnitude : |value| < 2 ^ (exponent + format.precision) := by
    rw [equal, abs_mul, abs_of_pos (two_zpow_pos exponent), add_comm, zpow_add₀ (by norm_num),
      zpow_natCast]
    exact mul_lt_mul_of_pos_right (by exact_mod_cast few) (two_zpow_pos exponent)
  rcases Int.le.dest (lastBit_le smallest nonzero magnitude) with ⟨shift, place⟩
  refine ⟨digits * 2 ^ shift, ?_⟩
  rw [div_eq_iff (two_zpow_pos _).ne']
  apply equal.trans
  rw [← place, zpow_add₀ (by norm_num), zpow_natCast]
  push_cast
  ring

/-- Between two neighbours of the format there is no number of it. -/
theorem Exact.le_pred {digits exponent : ℤ} (exact : format.Exact value)
    (smallest : format.smallest ≤ exponent) (leading : 2 ^ (format.precision - 1) < digits)
    (few : digits ≤ 2 ^ format.precision) (less : value < digits * 2 ^ exponent) :
    value ≤ (digits - 1 : ℤ) * 2 ^ exponent := by
  by_contra greater
  have unit := two_zpow_pos exponent
  have above := lt_of_not_ge greater
  have place : ((format.precision - 1 : ℕ) : ℤ) + exponent = exponent + format.precision - 1 := by
    have positive := format.positive
    omega
  have large : (2 : ℚ) ^ (exponent + format.precision - 1) ≤ value := by
    rw [← place, zpow_add₀ (by norm_num), zpow_natCast]
    refine le_trans (mul_le_mul_of_nonneg_right ?_ unit.le) above.le
    exact_mod_cast Int.le_sub_one_of_lt leading
  have small : value < 2 ^ (exponent + format.precision) := by
    rw [add_comm, zpow_add₀ (by norm_num), zpow_natCast]
    refine less.trans_le (mul_le_mul_of_nonneg_right ?_ unit.le)
    exact_mod_cast few
  have nonneg : 0 ≤ value := (two_zpow_pos _).le.trans large
  have nonzero : value ≠ 0 := ((two_zpow_pos _).trans_le large).ne'
  rcases exact.multiple nonzero with ⟨between, multiple⟩
  rw [lastBit_eq smallest (by rwa [abs_of_nonneg nonneg]) (by rwa [abs_of_nonneg nonneg]),
    div_eq_iff unit.ne'] at multiple
  rw [multiple] at above less
  have lower : digits - 1 < between := by exact_mod_cast lt_of_mul_lt_mul_right above unit.le
  have upper : between < digits := by exact_mod_cast lt_of_mul_lt_mul_right less unit.le
  omega

/-- The numbers of the format are not changed. -/
theorem Exact.round_eq (exact : format.Exact value) : format.round value = value := by
  by_cases zero : value = 0
  · rw [zero, round_zero]
  · rcases exact.multiple zero with ⟨digits, whole⟩
    rw [round, whole, roundHalfEven_intCast, ← whole, div_mul_cancel₀ _ (two_zpow_pos _).ne']

/-- Rounding keeps to the digits of the format, or carries into one more. -/
theorem abs_roundHalfEven_lastBit_le (value : ℚ) :
    |roundHalfEven (value / 2 ^ format.lastBit value)| ≤ 2 ^ format.precision := by
  have unit := two_zpow_pos (format.lastBit value)
  have digits : |value / 2 ^ format.lastBit value| ≤ 2 ^ format.precision := by
    have magnitude : |value| ≤ 2 ^ (format.lastBit value + format.precision) :=
      (abs_lt_two_zpow_lastBit value).le
    rw [abs_div, abs_of_pos unit, div_le_iff₀' unit, ← zpow_natCast, ← zpow_add₀ (by norm_num)]
    exact magnitude
  have sides := abs_le.mp digits
  rw [abs_le]
  constructor
  · exact le_roundHalfEven (by exact_mod_cast sides.1)
  · exact roundHalfEven_le (by exact_mod_cast sides.2)

theorem exact_round (value : ℚ) : format.Exact (format.round value) := by
  have digits : |roundHalfEven (value / 2 ^ format.lastBit value)| ≤ 2 ^ format.precision :=
    abs_roundHalfEven_lastBit_le value
  rcases lt_or_eq_of_le digits with few | carry
  · exact ⟨_, _, rfl, few, le_max_left _ _⟩
  · have split : (2 : ℚ) ^ format.precision = 2 ^ (format.precision - 1) * 2 := by
      rw [← pow_succ, Nat.sub_add_cancel format.positive]
    have fewer : (2 : ℤ) ^ (format.precision - 1) < 2 ^ format.precision :=
      pow_lt_pow_right₀ (by norm_num) (Nat.sub_lt format.positive (by decide))
    have smallest : format.smallest ≤ format.lastBit value := le_max_left _ _
    rcases (abs_eq (by positivity)).mp carry with positive | negative
    · refine ⟨2 ^ (format.precision - 1), format.lastBit value + 1, ?_, ?_, by omega⟩
      · rw [round, positive, zpow_add₀ (by norm_num)]
        push_cast
        rw [split]
        ring
      · rwa [abs_of_pos (by positivity)]
    · refine ⟨-2 ^ (format.precision - 1), format.lastBit value + 1, ?_, ?_, by omega⟩
      · rw [round, negative, zpow_add₀ (by norm_num)]
        push_cast
        rw [split]
        ring
      · rwa [abs_neg, abs_of_pos (by positivity)]

@[simp] theorem round_round (value : ℚ) : format.round (format.round value) = format.round value :=
  (exact_round value).round_eq

/-! ## Order -/

theorem round_nonneg (nonneg : 0 ≤ value) : 0 ≤ format.round value := by
  have digits : (0 : ℤ) ≤ roundHalfEven (value / 2 ^ format.lastBit value) :=
    le_roundHalfEven (by exact_mod_cast div_nonneg nonneg (two_zpow_pos _).le)
  exact mul_nonneg (by exact_mod_cast digits) (two_zpow_pos _).le

/-- Numbers with their last bit in different places are rounded to different sides of a
power of two. -/
theorem round_mono_nonneg (nonneg : 0 ≤ left) (le : left ≤ right) :
    format.round left ≤ format.round right := by
  by_cases zero : left = 0
  · rw [zero, round_zero]
    exact round_nonneg (nonneg.trans le)
  have rightNonneg := nonneg.trans le
  have places : format.lastBit left ≤ format.lastBit right := by
    apply lastBit_mono zero
    rwa [abs_of_nonneg nonneg, abs_of_nonneg rightNonneg]
  rcases eq_or_lt_of_le places with same | further
  · rw [round, round, ← same]
    have scaled := div_le_div_of_nonneg_right le (two_zpow_pos (format.lastBit left)).le
    exact mul_le_mul_of_nonneg_right (by exact_mod_cast roundHalfEven_mono scaled)
      (two_zpow_pos _).le
  · have unit := two_zpow_pos (format.lastBit right)
    have nonzero : right ≠ 0 := fun equal => zero (le_antisymm (equal ▸ le) nonneg)
    have magnitude := two_zpow_lastBit_le nonzero ((le_max_left _ _).trans_lt further)
    calc
      format.round left ≤ 2 ^ format.precision * 2 ^ format.lastBit left := by
        apply mul_le_mul_of_nonneg_right _ (two_zpow_pos _).le
        exact_mod_cast (abs_le.mp (abs_roundHalfEven_lastBit_le left)).2
      _ ≤ 2 ^ (format.precision - 1) * 2 ^ format.lastBit right := by
        rw [← zpow_natCast, ← zpow_natCast, ← zpow_add₀ (by norm_num), ← zpow_add₀ (by norm_num)]
        have exponents : (format.precision : ℤ) + format.lastBit left ≤
            ((format.precision - 1 : ℕ) : ℤ) + format.lastBit right := by
          have positive := format.positive
          omega
        exact zpow_le_zpow_right₀ (by norm_num) exponents
      _ ≤ format.round right := by
        apply mul_le_mul_of_nonneg_right _ unit.le
        have digits : (2 : ℤ) ^ (format.precision - 1) ≤
            roundHalfEven (right / 2 ^ format.lastBit right) := by
          apply le_roundHalfEven
          rw [abs_of_nonneg rightNonneg] at magnitude
          rw [le_div_iff₀ unit]
          push_cast
          rw [← zpow_natCast, ← zpow_add₀ (by norm_num)]
          have place : ((format.precision - 1 : ℕ) : ℤ) + format.lastBit right =
              format.lastBit right + format.precision - 1 := by
            have positive := format.positive
            omega
          rwa [place]
        exact_mod_cast digits

theorem round_mono (le : left ≤ right) : format.round left ≤ format.round right := by
  rcases le_total 0 left with nonneg | leftNonpos
  · exact round_mono_nonneg nonneg le
  · rcases le_total 0 right with rightNonneg | nonpos
    · have negated : 0 ≤ format.round (-left) := round_nonneg (neg_nonneg.mpr leftNonpos)
      rw [round_neg, neg_nonneg] at negated
      exact negated.trans (round_nonneg rightNonneg)
    · have negated : format.round (-right) ≤ format.round (-left) :=
        round_mono_nonneg (neg_nonneg.mpr nonpos) (neg_le_neg le)
      rw [round_neg, round_neg, neg_le_neg_iff] at negated
      exact negated

/-- A number of the format that bounds a number bounds what it is rounded to. -/
theorem Exact.round_le (exact : format.Exact bound) (le : value ≤ bound) :
    format.round value ≤ bound :=
  (round_mono le).trans_eq exact.round_eq

theorem Exact.le_round (exact : format.Exact bound) (le : bound ≤ value) :
    bound ≤ format.round value :=
  exact.round_eq.symm.trans_le (round_mono le)

end RoundingFormat
