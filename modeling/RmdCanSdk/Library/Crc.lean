import Mathlib.Algebra.Field.ZMod
import Mathlib.Algebra.Polynomial.FieldDivision
import Mathlib.Data.List.GetD
import Mathlib.Tactic.LinearCombination

/-!
# Cyclic redundancy checks

A register of any width that takes message bits, the first one first, as the remainder of
the message modulo a polynomial over the field of two elements. From that view follows
that a generator with a constant term tells apart any two messages of one length whose
differences lie in a window as wide as the register.
-/

namespace Crc

open Polynomial

variable {width : Nat}

/-! ## The register -/

/-- Shift one message bit in. The generator has the bits of `poly` below its leading one. -/
def step (poly crc : BitVec width) (bit : Bool) : BitVec width :=
  if crc.msb ≠ bit then crc <<< 1 ^^^ poly else crc <<< 1

def update (poly crc : BitVec width) (bits : List Bool) : BitVec width :=
  bits.foldl (step poly) crc

@[simp] theorem update_nil (poly crc : BitVec width) : update poly crc [] = crc := rfl

@[simp] theorem update_cons (poly crc : BitVec width) (bit : Bool) (bits : List Bool) :
    update poly crc (bit :: bits) = update poly (step poly crc bit) bits := rfl

theorem update_append (poly crc : BitVec width) (front back : List Bool) :
    update poly crc (front ++ back) = update poly (update poly crc front) back :=
  List.foldl_append

/-! ## Polynomials -/

/-- A bit as a coefficient. -/
def coefficient (bit : Bool) : ZMod 2 := if bit then 1 else 0

@[simp] theorem coefficient_false : coefficient false = 0 := rfl

@[simp] theorem coefficient_true : coefficient true = 1 := rfl

@[simp] theorem coefficient_xor (left right : Bool) :
    coefficient (left ^^ right) = coefficient left + coefficient right := by
  cases left <;> cases right <;> decide

theorem coefficient_injective : Function.Injective coefficient := by
  intro left right
  cases left <;> cases right <;> simp

/-- The bits of a register, the lowest as the constant term. -/
noncomputable def value (crc : BitVec width) : (ZMod 2)[X] :=
  ∑ index ∈ Finset.range width, monomial index (coefficient (crc.getLsbD index))

/-- The bits of a message, the last as the constant term. -/
noncomputable def message : List Bool → (ZMod 2)[X]
  | [] => 0
  | bit :: bits => monomial bits.length (coefficient bit) + message bits

/-- The generator of a register. -/
noncomputable def generator (poly : BitVec width) : (ZMod 2)[X] := X ^ width + value poly

@[simp] theorem coeff_value (crc : BitVec width) (index : Nat) :
    (value crc).coeff index = coefficient (crc.getLsbD index) := by
  simp only [value, finsetSum_coeff, coeff_monomial, Finset.sum_ite_eq', Finset.mem_range]
  split
  next => rfl
  next outside => rw [BitVec.getLsbD_of_ge crc index (by omega), coefficient_false]

theorem value_injective : Function.Injective (value : BitVec width → (ZMod 2)[X]) := by
  intro left right same
  apply BitVec.eq_of_getLsbD_eq
  intro index inside
  apply coefficient_injective
  rw [← coeff_value, ← coeff_value, same]

@[simp] theorem value_xor (left right : BitVec width) :
    value (left ^^^ right) = value left + value right := by
  ext index
  simp

theorem degree_value_lt (crc : BitVec width) : (value crc).degree < width := by
  rw [degree_lt_iff_coeff_zero]
  intro index outside
  rw [coeff_value, BitVec.getLsbD_of_ge crc index outside, coefficient_false]

theorem monic_generator (poly : BitVec width) : (generator poly).Monic :=
  monic_X_pow_add (degree_value_lt poly)

theorem degree_generator (poly : BitVec width) : (generator poly).degree = width := by
  rw [generator, degree_add_eq_left_of_degree_lt, degree_X_pow]
  rw [degree_X_pow]
  exact degree_value_lt poly

/-- Shifting left multiplies by `X` and drops the leading bit. -/
theorem value_shiftLeft (positive : 0 < width) (crc : BitVec width) :
    value (crc <<< 1) + monomial width (coefficient crc.msb) = X * value crc := by
  ext index
  rw [coeff_add, coeff_value, coeff_monomial, BitVec.getLsbD_shiftLeft,
    BitVec.msb_eq_getLsbD_last]
  cases index with
  | zero => simp [positive.ne']
  | succ index =>
      rw [coeff_X_mul, coeff_value, Nat.add_sub_cancel]
      rcases lt_trichotomy (index + 1) width with below | last | above
      · simp [below, below.ne']
      · simp [← last]
      · rw [if_neg (by omega), BitVec.getLsbD_of_ge crc index (by omega)]
        simp

/-- Shifting a bit in multiplies by `X` and adds a multiple of the generator. -/
theorem value_step (positive : 0 < width) (poly crc : BitVec width) (bit : Bool) :
    X * value crc + monomial width (coefficient bit) =
      value (step poly crc bit) + C (coefficient (crc.msb ^^ bit)) * generator poly := by
  rw [← value_shiftLeft positive, add_assoc, ← map_add, ← coefficient_xor, step]
  by_cases differs : crc.msb = bit
  · simp [differs]
  · have feedback : (crc.msb ^^ bit) = true := by simpa using differs
    have cancelled := CharTwo.add_self_eq_zero (value poly)
    rw [if_pos differs, feedback, value_xor, generator, coefficient_true, C_1, one_mul,
      ← X_pow_eq_monomial]
    linear_combination -cancelled

/-- The register is the remainder of the bits it has taken, after what it held before. -/
theorem value_update (positive : 0 < width) (poly crc : BitVec width) (bits : List Bool) :
    value (update poly crc bits) =
      (X ^ bits.length * value crc + X ^ width * message bits) %ₘ generator poly := by
  induction bits generalizing crc with
  | nil =>
      have small := (modByMonic_eq_self_iff (monic_generator poly)).mpr
        ((degree_value_lt crc).trans_eq (degree_generator poly).symm)
      simp [message, small]
  | cons bit bits ih =>
      have shifted : X ^ (bits.length + 1) * value crc + X ^ width * message (bit :: bits) =
          X ^ bits.length * value (step poly crc bit) + X ^ width * message bits +
            generator poly * (X ^ bits.length * C (coefficient (crc.msb ^^ bit))) := by
        have stepped := value_step positive poly crc bit
        rw [message, ← C_mul_X_pow_eq_monomial]
        rw [← C_mul_X_pow_eq_monomial] at stepped
        linear_combination X ^ bits.length * stepped
      rw [update_cons, ih, List.length_cons, shifted]
      apply modByMonic_eq_of_dvd_sub (monic_generator poly)
      rw [sub_add_cancel_left]
      exact (dvd_mul_right _ _).neg_right

/-! ## Words -/

/-- The bits of a word, the highest first. -/
def bitsOf {size : Nat} (word : BitVec size) : List Bool := (List.range size).map word.getMsbD

@[simp] theorem length_bitsOf {size : Nat} (word : BitVec size) : (bitsOf word).length = size := by
  simp [bitsOf]

theorem coeff_message (bits : List Bool) (index : Nat) :
    (message bits).coeff index = coefficient (bits.reverse.getD index false) := by
  induction bits with
  | nil => simp [message]
  | cons bit bits ih =>
      rw [message, coeff_add, coeff_monomial, ih, List.reverse_cons]
      rcases lt_trichotomy index bits.length with inside | rfl | outside
      · rw [List.getD_append _ _ _ _ (by simpa using inside), if_neg inside.ne', zero_add]
      · simp
      · rw [List.getD_eq_default _ _ (by simpa using outside.le), if_neg outside.ne,
          List.getD_eq_default _ _ (by simpa using outside), zero_add]

/-- The coefficients of a message are its bits, the last one first. -/
theorem coeff_message_reverse {bits : List Bool} {index : Nat} (inside : index < bits.length) :
    (message bits).coeff index = coefficient (bits[bits.length - 1 - index]?.getD false) := by
  rw [coeff_message, List.getD_eq_getElem?_getD, List.getElem?_reverse inside]

theorem message_bitsOf {size : Nat} (word : BitVec size) : message (bitsOf word) = value word := by
  ext index
  by_cases inside : index < size
  · have place : size - 1 - (size - 1 - index) = index := by omega
    have bound : size - 1 - index < size := by omega
    rw [coeff_message_reverse (by simpa using inside), coeff_value, length_bitsOf, bitsOf,
      List.getElem?_map, List.getElem?_range (by omega), Option.map_some, Option.getD_some,
      BitVec.getMsbD_eq_getLsbD, place, decide_eq_true bound, Bool.true_and]
  · rw [coeff_message, List.getD_eq_default _ _ (by simpa using inside), coeff_value,
      BitVec.getLsbD_of_ge _ _ (by omega)]

theorem message_replicate_false (count : Nat) : message (List.replicate count false) = 0 := by
  induction count with
  | zero => rfl
  | succ count ih => rw [List.replicate_succ, message, ih, coefficient_false, map_zero, add_zero]

/-- A word at the upper end of a register. -/
theorem value_aligned {size : Nat} (fits : size ≤ width) (word : BitVec size) :
    value (word.zeroExtend width <<< (width - size)) = X ^ (width - size) * value word := by
  ext index
  rw [coeff_value, coeff_X_pow_mul', BitVec.getLsbD_shiftLeft, BitVec.getLsbD_setWidth]
  split
  next above =>
    rw [coeff_value]
    by_cases inside : index < width
    · have bound : index - (width - size) < width := by omega
      simp [inside, bound, not_lt_of_ge above]
    · rw [BitVec.getLsbD_of_ge word (index - (width - size)) (by omega)]
      simp [inside]
  next below =>
    have shifted : index < width - size := by omega
    simp [shifted]

/-- A word can be added to the upper end of the register before it is shifted through,
instead of being taken bit by bit. -/
theorem update_aligned (positive : 0 < width) {size : Nat} (fits : size ≤ width)
    (poly crc : BitVec width) (word : BitVec size) :
    update poly (crc ^^^ word.zeroExtend width <<< (width - size)) (List.replicate size false) =
      update poly crc (bitsOf word) := by
  apply value_injective
  have powers : (X : (ZMod 2)[X]) ^ size * X ^ (width - size) = X ^ width := by
    rw [← pow_add, Nat.add_sub_cancel' fits]
  rw [value_update positive, value_update positive, message_replicate_false, message_bitsOf,
    value_xor, value_aligned fits, List.length_replicate, length_bitsOf, mul_add, ← mul_assoc,
    powers, mul_zero, add_zero]

/-! ## Bursts -/

/-- A polynomial with a constant term divides no shorter one, wherever it is shifted to. -/
theorem not_dvd_of_window {K : Type*} [Field K] {divisor difference : K[X]}
    (low : Nat) (constant : divisor.coeff 0 ≠ 0) (nonzero : difference ≠ 0)
    (window : ∀ index, difference.coeff index ≠ 0 →
      low ≤ index ∧ index < low + divisor.natDegree) (shift : Nat) :
    ¬ divisor ∣ X ^ shift * difference := by
  have shifted : X ^ low ∣ difference := by
    rw [X_pow_dvd_iff]
    intro index below
    by_contra present
    exact absurd (window index present).1 (not_le_of_gt below)
  rcases shifted with ⟨burst, rfl⟩
  intro divides
  rw [← mul_assoc, ← pow_add] at divides
  have coprime : IsCoprime divisor (X ^ (shift + low)) := by
    apply IsCoprime.pow_right
    apply IsCoprime.symm
    have irreducible : Irreducible (X : K[X]) := irreducible_X
    rw [irreducible.coprime_iff_not_dvd, X_dvd_iff]
    exact constant
  have burstNonzero : burst ≠ 0 := right_ne_zero_of_mul nonzero
  have short : burst.natDegree < divisor.natDegree := by
    have leading : (X ^ low * burst).coeff (burst.natDegree + low) ≠ 0 := by
      rw [coeff_X_pow_mul]
      exact leadingCoeff_ne_zero.mpr burstNonzero
    have inside := (window _ leading).2
    omega
  exact burstNonzero (eq_zero_of_dvd_of_natDegree_lt (coprime.dvd_of_dvd_mul_left divides) short)

theorem message_injective {left right : List Bool} (sized : left.length = right.length)
    (same : message left = message right) : left = right := by
  apply List.reverse_injective
  apply List.ext_getElem (by simpa using sized)
  intro index inLeft inRight
  have coefficients := congrArg (fun polynomial => polynomial.coeff index) same
  simp only [coeff_message] at coefficients
  have bits := coefficient_injective coefficients
  rwa [List.getD_eq_getElem _ _ inLeft, List.getD_eq_getElem _ _ inRight] at bits

/-- Messages of one length are told apart if their differences lie in a window as wide as
the register. -/
theorem update_ne_of_burst {poly : BitVec width} (constant : poly.getLsbD 0 = true)
    (crc : BitVec width) {left right : List Bool} (sized : left.length = right.length)
    (different : left ≠ right) (start : Nat)
    (window : ∀ index, left[index]? ≠ right[index]? → start ≤ index ∧ index < start + width) :
    update poly crc left ≠ update poly crc right := by
  have positive : 0 < width := by
    by_contra none
    rw [BitVec.getLsbD_of_ge poly 0 (by omega)] at constant
    contradiction
  intro same
  have remainders := congrArg value same
  rw [value_update positive, value_update positive, sized, ← sub_eq_zero, ← sub_modByMonic,
    modByMonic_eq_zero_iff_dvd (monic_generator poly), add_sub_add_left_eq_sub,
    ← mul_sub] at remainders
  refine not_dvd_of_window (left.length - (start + width)) ?_ ?_ ?_ width remainders
  · have leading : 0 ≠ width := positive.ne
    simp [generator, coeff_X_pow, leading, constant]
  · intro none
    exact different (message_injective sized (sub_eq_zero.mp none))
  · intro index present
    rw [natDegree_eq_of_degree_eq_some (degree_generator poly)]
    rw [coeff_sub, sub_ne_zero] at present
    by_cases inside : index < left.length
    · have differs : left[left.length - 1 - index]? ≠ right[left.length - 1 - index]? := by
        intro equal
        apply present
        rw [coeff_message_reverse inside, coeff_message_reverse (sized ▸ inside), equal, sized]
      have place := window _ differs
      omega
    · exfalso
      apply present
      rw [coeff_message, coeff_message, List.getD_eq_default _ _ (by simpa using inside),
        List.getD_eq_default _ _ (by simpa [← sized] using inside)]

end Crc
