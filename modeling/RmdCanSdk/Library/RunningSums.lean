import Mathlib.Algebra.Ring.Prod
import Mathlib.Tactic.LinearCombination
import Mathlib.Tactic.Ring

/-!
# Checksums with two running sums

A sum over some values, and the sum of its partial sums. The second tells values in different
places apart, and so detects most changes that leave the first one alone.
-/

namespace RunningSums

variable {R : Type} [CommRing R]

def step (sums : R × R) (value : R) : R × R :=
  (sums.1 + value, sums.2 + (sums.1 + value))

def run (sums : R × R) (values : List R) : R × R := values.foldl step sums

theorem run_append (sums : R × R) (front back : List R) :
    run sums (front ++ back) = run (run sums front) back := List.foldl_append

/-- The same values, from sums that differ: the difference of the first sums is added to the
second ones with each value. -/
theorem run_sub (values : List R) (sums other : R × R) :
    run other values - run sums values =
      (other.1 - sums.1, other.2 - sums.2 + values.length * (other.1 - sums.1)) := by
  induction values generalizing sums other with
  | nil =>
      rw [List.length_nil, Nat.cast_zero, zero_mul, add_zero]
      rfl
  | cons value rest ih =>
      have next := ih (step sums value) (step other value)
      simp only [run, List.foldl_cons] at next ⊢
      rw [next, List.length_cons, Nat.cast_succ]
      ext
      · exact add_sub_add_right_eq_sub _ _ _
      · simp only [step]
        ring

/-- When the sums do not tell that two values have been replaced: if the changes cancel, and
the places are far enough apart for the change to vanish on the way. -/
theorem run_eq_iff (sums : R × R) (front mid back : List R) (x y x' y' : R) :
    run sums (front ++ x' :: (mid ++ y' :: back)) = run sums (front ++ x :: (mid ++ y :: back)) ↔
      x' - x = y - y' ∧ ((mid.length + 1 : ℕ) : R) * (x' - x) = 0 := by
  have toTail : ∀ value tail, run sums (front ++ value :: tail) =
      run (step (run sums front) value) tail := fun value tail => run_append ..
  have split : ∀ start value, run start (mid ++ value :: back) =
      run (step (run start mid) value) back := fun start value => run_append ..
  have middle := run_sub mid (step (run sums front) x) (step (run sums front) x')
  rw [toTail, toTail, split, split, ← sub_eq_zero, run_sub]
  generalize run (step (run sums front) x') mid = after' at middle ⊢
  generalize run (step (run sums front) x) mid = after at middle ⊢
  have first := congrArg Prod.fst middle
  have second := congrArg Prod.snd middle
  simp only [step, Prod.fst_sub, Prod.snd_sub] at first second
  rw [Prod.mk_eq_zero]
  simp only [step, Nat.cast_succ]
  have sum : after'.1 + y' - (after.1 + y) = x' - x - (y - y') := by
    linear_combination first
  rw [sum, sub_eq_zero]
  apply and_congr_right
  intro cancel
  have total : after'.2 + (after'.1 + y') - (after.2 + (after.1 + y)) +
      (back.length : R) * (x' - x - (y - y')) = ((mid.length : R) + 1) * (x' - x) := by
    linear_combination second + first + ((back.length : R) + 1) * cancel
  rw [total]

end RunningSums
