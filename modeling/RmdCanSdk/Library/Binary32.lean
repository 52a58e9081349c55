import RmdCanSdk.Library.RoundingFormat
import RmdCanSdk.Library.Float

/-!
# Arithmetic that rounds

The carrier of numeric code whose results are rounded: the numbers of a binary format with
infinities and NaN, where an operation rounds its exact result once and overflows to an
infinity. Single precision is one such format. As in exact arithmetic with infinities,
there is one zero.
-/

/-- A finite number of a format. -/
structure RoundingFormat.Number (format : RoundingFormat) where
  value : ℚ
  exact : format.round value = value
  small : |value| < 2 ^ format.width
  deriving DecidableEq

namespace Ieee

variable {unspecified : Unspecified} (format : RoundingFormat)

/-- The nearest value of a format. A number too large for it becomes an infinity. -/
def rounded : Ieee unspecified → Ieee unspecified
  | finite a =>
      let nearest := format.round a
      if |nearest| < 2 ^ format.width then finite nearest else signedInf nearest
  | value => value

variable {format}

theorem rounded_finite {a : ℚ} (small : |format.round a| < 2 ^ format.width) :
    (finite a : Ieee unspecified).rounded format = finite (format.round a) :=
  if_pos small

theorem rounded_overflow {a : ℚ} (large : ¬ |format.round a| < 2 ^ format.width) :
    (finite a : Ieee unspecified).rounded format = signedInf (format.round a) :=
  if_neg large

theorem rounded_rounded (value : Ieee unspecified) :
    (value.rounded format).rounded format = value.rounded format := by
  cases value with
  | finite a =>
      by_cases small : |format.round a| < 2 ^ format.width
      · rw [rounded_finite small, rounded_finite (by rwa [RoundingFormat.round_round]),
          RoundingFormat.round_round]
      · have nonzero : format.round a ≠ 0 := by
          intro zero
          rw [zero, abs_zero] at small
          exact small (by positivity)
        rw [rounded_overflow small, signedInf]
        rcases lt_or_gt_of_ne nonzero with negative | positive
        · rw [if_neg (not_lt_of_gt negative), if_pos negative]
          rfl
        · rw [if_pos positive]
          rfl
  | posInf | negInf | nan => rfl

end Ieee

/-- A number of a format, an infinity or NaN. -/
structure BinaryFloat (format : RoundingFormat) (unspecified : Unspecified) where
  value : Ieee unspecified
  rounded : value.rounded format = value
  deriving DecidableEq

attribute [ext] BinaryFloat

namespace BinaryFloat

variable {format : RoundingFormat} {unspecified : Unspecified}

def nearest (value : Ieee unspecified) : BinaryFloat format unspecified where
  value := value.rounded format
  rounded := value.rounded_rounded

def number (number : format.Number) : BinaryFloat format unspecified where
  value := .finite number.value
  rounded := by rw [Ieee.rounded_finite (number.exact.symm ▸ number.small), number.exact]

def nan : BinaryFloat format unspecified := ⟨.nan, rfl⟩

instance : FloatArith (BinaryFloat format unspecified) where
  add a b := nearest (a.value + b.value)
  sub a b := nearest (a.value - b.value)
  mul a b := nearest (a.value * b.value)
  div a b := nearest (a.value / b.value)
  neg a := nearest (-a.value)
  lt a b := a.value < b.value
  beq a b := a.value == b.value
  decidableLT a b := inferInstanceAs (Decidable (a.value < b.value))
  lit value := nearest (.finite value)
  isFinite a := isFinite a.value
  lround a := lround a.value
  toInt16 a := toInt16 a.value

variable (a b : BinaryFloat format unspecified)

@[simp] theorem value_sub : (a - b).value = (a.value - b.value).rounded format := rfl

@[simp] theorem value_mul : (a * b).value = (a.value * b.value).rounded format := rfl

@[simp] theorem value_div : (a / b).value = (a.value / b.value).rounded format := rfl

theorem value_neg : (-a).value = (-a.value).rounded format := rfl

theorem value_lit (value : ℚ) :
    (lit value : BinaryFloat format unspecified).value = Ieee.rounded format (.finite value) :=
  Eq.refl _

@[simp] theorem value_number (given : format.Number) :
    (number given : BinaryFloat format unspecified).value = .finite given.value := rfl

theorem value_lit_eq {value : ℚ} (exact : format.round value = value)
    (small : |value| < 2 ^ format.width) :
    (lit value : BinaryFloat format unspecified).value = .finite value := by
  rw [value_lit, Ieee.rounded_finite (exact.symm ▸ small), exact]

@[simp] theorem value_lit_zero : (lit 0 : BinaryFloat format unspecified).value = .finite 0 :=
  value_lit_eq RoundingFormat.round_zero (by rw [abs_zero]; positivity)

variable {a} in
/-- What is finite is a number of the format. -/
theorem exact_of_finite {value : ℚ} (finite : a.value = .finite value) :
    format.Exact value ∧ |value| < 2 ^ format.width := by
  have rounded := a.rounded
  rw [finite, Ieee.rounded] at rounded
  split at rounded
  next small =>
    have same := Ieee.finite.inj rounded
    rw [same] at small
    exact ⟨same ▸ RoundingFormat.exact_round value, small⟩
  next large =>
    rw [Ieee.signedInf] at rounded
    split at rounded
    · cases rounded
    · split at rounded <;> cases rounded

variable {a} in
/-- Negating rounds nothing. -/
theorem value_neg_finite {value : ℚ} (finite : a.value = .finite value) :
    (-a).value = .finite (-value) := by
  have number := exact_of_finite finite
  rw [value_neg, finite, Ieee.finite_neg, Ieee.rounded_finite] <;> rw [number.1.neg.round_eq]
  rw [abs_neg]
  exact number.2

@[simp] theorem value_neg_number (given : format.Number) :
    (-(number given : BinaryFloat format unspecified)).value = .finite (-given.value) :=
  value_neg_finite rfl

theorem lt_iff : a < b ↔ a.value < b.value := Iff.rfl

@[simp] theorem isFinite_eq : isFinite a = isFinite a.value := rfl

@[simp] theorem lround_eq : lround a = lround a.value := rfl

end BinaryFloat

/-! ## Single precision -/

namespace RoundingFormat

def binary32 : RoundingFormat where
  precision := 24
  smallest := -149
  width := 128
  positive := by decide

@[simp] theorem binary32_precision : binary32.precision = 24 := rfl

@[simp] theorem binary32_smallest : binary32.smallest = -149 := rfl

@[simp] theorem binary32_width : binary32.width = 128 := rfl

end RoundingFormat

/-- A finite single-precision number. -/
abbrev Single := RoundingFormat.binary32.Number

/-- Integers of 24 bits are single-precision numbers. -/
def Single.ofInt (value : Int) (few : |value| < 2 ^ 24) : Single where
  value := value
  exact := by
    apply RoundingFormat.Exact.round_eq
    exact ⟨value, 0, by rw [zpow_zero, mul_one], few, by decide⟩
  small := by
    have bound : (|value| : ℚ) < 2 ^ 24 := by exact_mod_cast few
    exact bound.trans (by norm_num)

/-- Single-precision floating point. -/
abbrev Binary32 := BinaryFloat .binary32

example : (lit 0.1 : Binary32 ⟨fun _ => 0, fun _ => 0⟩).value = .finite (13421773 / 2 ^ 27) := by
  decide +kernel

namespace Ieee

open RoundingFormat (binary32)

variable {unspecified : Unspecified} {a : ℚ}

/-- A 64-bit integer that a rounded result is converted to. -/
theorem lround_rounded (lower : -2 ^ 63 ≤ roundHalfAway (binary32.round a))
    (upper : roundHalfAway (binary32.round a) < 2 ^ 63) :
    FloatArith.lround ((finite a : Ieee unspecified).rounded binary32) =
      roundHalfAway (binary32.round a) := by
  have near := abs_le.mp (abs_roundHalfAway_sub_le (binary32.round a))
  have lower' : (-2 ^ 63 : ℚ) ≤ roundHalfAway (binary32.round a) := by exact_mod_cast lower
  have upper' : (roundHalfAway (binary32.round a) : ℚ) < 2 ^ 63 := by exact_mod_cast upper
  have small : |binary32.round a| < 2 ^ binary32.width := by
    rw [abs_lt]
    norm_num
    constructor <;> linarith
  rw [rounded_finite small, lround_finite _ lower upper]

/-- A result that overflows has no specified conversions. -/
theorem exists_overflow (large : ¬ |binary32.round a| < 2 ^ binary32.width) :
    ∃ value, ∀ unspecified : Unspecified,
      FloatArith.lround ((finite a : Ieee unspecified).rounded binary32) =
          unspecified.lround value ∧
        FloatArith.toInt16 ((finite a : Ieee unspecified).rounded binary32) =
          unspecified.toInt16 value := by
  rcases lt_trichotomy (binary32.round a) 0 with negative | zero | positive
  · refine ⟨.negInf, fun unspecified => ?_⟩
    rw [rounded_overflow large, signedInf, if_neg (not_lt_of_gt negative), if_pos negative]
    exact ⟨rfl, rfl⟩
  · rw [zero, abs_zero] at large
    exact absurd (by positivity) large
  · refine ⟨.posInf, fun unspecified => ?_⟩
    rw [rounded_overflow large, signedInf, if_pos positive]
    exact ⟨rfl, rfl⟩

/-- Any other result is converted to something unspecified. -/
theorem exists_lround_rounded (outside : ¬ (-2 ^ 63 ≤ roundHalfAway (binary32.round a) ∧
      roundHalfAway (binary32.round a) < 2 ^ 63)) :
    ∃ value, ∀ unspecified : Unspecified,
      FloatArith.lround ((finite a : Ieee unspecified).rounded binary32) =
        unspecified.lround value := by
  by_cases small : |binary32.round a| < 2 ^ binary32.width
  · refine ⟨.large (binary32.round a), fun unspecified => ?_⟩
    rw [rounded_finite small]
    exact if_neg outside
  · rcases exists_overflow small with ⟨value, infinite⟩
    exact ⟨value, fun unspecified => (infinite unspecified).1⟩

/-- A 16-bit integer that a rounded result is converted to. -/
theorem toInt16_rounded (lower : -2 ^ 15 ≤ truncate (binary32.round a))
    (upper : truncate (binary32.round a) < 2 ^ 15) :
    FloatArith.toInt16 ((finite a : Ieee unspecified).rounded binary32) =
      BitVec.ofInt 16 (truncate (binary32.round a)) := by
  have near := abs_lt.mp (abs_truncate_sub_lt (binary32.round a))
  have lower' : (-2 ^ 15 : ℚ) ≤ truncate (binary32.round a) := by exact_mod_cast lower
  have upper' : (truncate (binary32.round a) : ℚ) < 2 ^ 15 := by exact_mod_cast upper
  have small : |binary32.round a| < 2 ^ binary32.width := by
    rw [abs_lt]
    norm_num
    constructor <;> linarith
  rw [rounded_finite small]
  exact if_pos ⟨lower, upper⟩

theorem exists_toInt16_rounded (outside : ¬ (-2 ^ 15 ≤ truncate (binary32.round a) ∧
      truncate (binary32.round a) < 2 ^ 15)) :
    ∃ value, ∀ unspecified : Unspecified,
      FloatArith.toInt16 ((finite a : Ieee unspecified).rounded binary32) =
        unspecified.toInt16 value := by
  by_cases small : |binary32.round a| < 2 ^ binary32.width
  · refine ⟨.large (binary32.round a), fun unspecified => ?_⟩
    rw [rounded_finite small]
    exact if_neg outside
  · rcases exists_overflow small with ⟨value, infinite⟩
    exact ⟨value, fun unspecified => (infinite unspecified).2⟩

end Ieee
