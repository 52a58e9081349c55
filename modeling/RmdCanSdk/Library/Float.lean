import RmdCanSdk.Library.Rounding

/-!
# Floating-point arithmetic as a parameter

Numeric code is written once, over any type with the operations it uses. Two
carriers are provided here: the rationals, where every operation is exact, and numbers
with infinities and NaN, where comparisons follow IEEE 754 and the conversions to
integers are unspecified on every value they cannot represent. Finite arithmetic is
exact in both. Carriers that round and overflow are built on the second one.
-/

/-- The operations of a floating-point type that numeric code relies on. -/
class FloatArith (F : Type) extends Add F, Sub F, Mul F, Div F, Neg F, LT F, BEq F where
  [decidableLT : DecidableLT F]
  /-- A numeric literal, or a conversion from an integer. -/
  lit : ℚ → F
  isFinite : F → Bool
  /-- Nearest integer, halves away from zero. -/
  lround : F → Int
  /-- Conversion to a signed 16-bit integer, truncating toward zero. -/
  toInt16 : F → BitVec 16

attribute [reducible, instance] FloatArith.decidableLT

export FloatArith (lit isFinite lround toInt16)

/-- Exact arithmetic. -/
instance : FloatArith ℚ where
  beq a b := decide (a = b)
  lit := id
  isFinite _ := true
  lround := roundHalfAway
  toInt16 value := BitVec.ofInt 16 (truncate value)

namespace FloatArith

@[simp] theorem lit_rat (value : ℚ) : (lit value : ℚ) = value := rfl

@[simp] theorem isFinite_rat (value : ℚ) : isFinite value = true := rfl

end FloatArith

/-! ## Infinities and NaN -/

/-- A value the target type of an integer conversion cannot represent. -/
inductive OutOfRange where
  | nan
  | posInf
  | negInf
  | large (value : ℚ)
  deriving DecidableEq

/-- What the conversions to integers return on values they cannot represent. The
language leaves this open, so nothing is assumed about it. -/
structure Unspecified where
  lround : OutOfRange → Int
  toInt16 : OutOfRange → BitVec 16

/-- A finite number, an infinity or NaN. -/
inductive Ieee (unspecified : Unspecified) where
  | finite (value : ℚ)
  | posInf
  | negInf
  | nan
  deriving DecidableEq

/-- The value that could not be represented. -/
def OutOfRange.toIeee {unspecified : Unspecified} : OutOfRange → Ieee unspecified
  | nan => .nan
  | posInf => .posInf
  | negInf => .negInf
  | large value => .finite value

namespace Ieee

variable {unspecified : Unspecified}

def neg : Ieee unspecified → Ieee unspecified
  | finite a => finite (-a)
  | posInf => negInf
  | negInf => posInf
  | nan => nan

def add : Ieee unspecified → Ieee unspecified → Ieee unspecified
  | finite a, finite b => finite (a + b)
  | nan, _ | _, nan | posInf, negInf | negInf, posInf => nan
  | posInf, _ | _, posInf => posInf
  | negInf, _ | _, negInf => negInf

/-- An infinity with the sign of a number; zero times infinity is NaN. -/
def signedInf (sign : ℚ) : Ieee unspecified :=
  if 0 < sign then posInf else if sign < 0 then negInf else nan

def mul : Ieee unspecified → Ieee unspecified → Ieee unspecified
  | finite a, finite b => finite (a * b)
  | nan, _ | _, nan => nan
  | finite a, posInf | posInf, finite a => signedInf a
  | finite a, negInf | negInf, finite a => signedInf (-a)
  | posInf, posInf | negInf, negInf => posInf
  | posInf, negInf | negInf, posInf => negInf

/-- Division; there is one zero, and it divides as the positive one. -/
def div : Ieee unspecified → Ieee unspecified → Ieee unspecified
  | finite a, finite b => if b = 0 then signedInf a else finite (a / b)
  | finite _, posInf | finite _, negInf => finite 0
  | posInf, finite b => if b < 0 then negInf else posInf
  | negInf, finite b => if b < 0 then posInf else negInf
  | _, _ => nan

/-- IEEE order: NaN is unordered. -/
def less : Ieee unspecified → Ieee unspecified → Bool
  | finite a, finite b => a < b
  | finite _, posInf | negInf, finite _ | negInf, posInf => true
  | _, _ => false

/-- IEEE equality: NaN differs from itself. -/
def equal : Ieee unspecified → Ieee unspecified → Bool
  | finite a, finite b => a = b
  | posInf, posInf | negInf, negInf => true
  | _, _ => false

/-- `lround` returns a 64-bit integer. -/
def lround : Ieee unspecified → Int
  | finite a =>
      let rounded := roundHalfAway a
      if -2 ^ 63 ≤ rounded ∧ rounded < 2 ^ 63 then rounded else unspecified.lround (.large a)
  | posInf => unspecified.lround .posInf
  | negInf => unspecified.lround .negInf
  | nan => unspecified.lround .nan

def toInt16 : Ieee unspecified → BitVec 16
  | finite a =>
      let truncated := truncate a
      if -2 ^ 15 ≤ truncated ∧ truncated < 2 ^ 15 then BitVec.ofInt 16 truncated
      else unspecified.toInt16 (.large a)
  | posInf => unspecified.toInt16 .posInf
  | negInf => unspecified.toInt16 .negInf
  | nan => unspecified.toInt16 .nan

instance : FloatArith (Ieee unspecified) where
  add := add
  sub a b := add a (neg b)
  mul := mul
  div := div
  neg := neg
  lt a b := less a b = true
  beq := equal
  decidableLT a b := inferInstanceAs (Decidable (less a b = true))
  lit := finite
  isFinite
    | finite _ => true
    | _ => false
  lround := lround
  toInt16 := toInt16

variable (a b : ℚ)

@[simp] theorem lit_eq : (lit a : Ieee unspecified) = finite a := rfl

@[simp] theorem isFinite_finite : isFinite (finite a : Ieee unspecified) = true := rfl

@[simp] theorem finite_neg : -(finite a : Ieee unspecified) = finite (-a) := rfl

@[simp] theorem finite_add :
    (finite a + finite b : Ieee unspecified) = finite (a + b) := rfl

@[simp] theorem finite_sub :
    (finite a - finite b : Ieee unspecified) = finite (a - b) := by
  rw [sub_eq_add_neg]
  rfl

@[simp] theorem finite_mul :
    (finite a * finite b : Ieee unspecified) = finite (a * b) := rfl

theorem finite_div (nonzero : b ≠ 0) :
    (finite a / finite b : Ieee unspecified) = finite (a / b) :=
  if_neg nonzero

theorem posInf_div (positive : 0 < b) : (posInf / finite b : Ieee unspecified) = posInf :=
  if_neg (not_lt_of_gt positive)

theorem negInf_div (positive : 0 < b) : (negInf / finite b : Ieee unspecified) = negInf :=
  if_neg (not_lt_of_gt positive)

@[simp] theorem finite_lt : (finite a : Ieee unspecified) < finite b ↔ a < b :=
  decide_eq_true_iff

@[simp] theorem finite_beq : ((finite a : Ieee unspecified) == finite b) = decide (a = b) :=
  rfl

@[simp] theorem not_nan_lt (value : Ieee unspecified) : ¬ nan < value :=
  Bool.false_ne_true

@[simp] theorem not_lt_nan (value : Ieee unspecified) : ¬ value < nan := by
  cases value <;> exact Bool.false_ne_true

@[simp] theorem posInf_lt (value : Ieee unspecified) : ¬ posInf < value := by
  cases value <;> exact Bool.false_ne_true

@[simp] theorem finite_lt_posInf : (finite a : Ieee unspecified) < posInf := rfl

@[simp] theorem negInf_lt_finite : (negInf : Ieee unspecified) < finite a := rfl

@[simp] theorem not_lt_negInf (value : Ieee unspecified) : ¬ value < negInf := by
  cases value <;> exact Bool.false_ne_true

/-- The same number under other conversions. -/
def retype {other : Unspecified} : Ieee unspecified → Ieee other
  | finite a => finite a
  | posInf => posInf
  | negInf => negInf
  | nan => nan

@[simp] theorem retype_eq_nan {other : Unspecified} {value : Ieee unspecified} :
    (value.retype : Ieee other) = nan ↔ value = nan := by
  cases value <;> simp [retype]

/-! ### NaN spreads -/

@[simp] theorem nan_add (value : Ieee unspecified) : nan + value = nan := by
  cases value <;> rfl

@[simp] theorem nan_sub (value : Ieee unspecified) : nan - value = nan :=
  nan_add (-value)

@[simp] theorem nan_mul (value : Ieee unspecified) : nan * value = nan := by
  cases value <;> rfl

@[simp] theorem mul_nan (value : Ieee unspecified) : value * nan = nan := by
  cases value <;> rfl

@[simp] theorem nan_div (value : Ieee unspecified) : nan / value = nan := by
  cases value <;> rfl

@[simp] theorem lround_nan :
    FloatArith.lround (nan : Ieee unspecified) = unspecified.lround .nan := rfl

theorem lround_finite (lower : -2 ^ 63 ≤ roundHalfAway a)
    (upper : roundHalfAway a < 2 ^ 63) :
    FloatArith.lround (finite a : Ieee unspecified) = roundHalfAway a :=
  if_pos ⟨lower, upper⟩

end Ieee
