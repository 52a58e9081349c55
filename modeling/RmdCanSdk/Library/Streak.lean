import Mathlib.Data.List.DropRight

/-!
# Streaks

How many of the last elements of a list pass a test, counted as a loop counts that starts again
after each failure.
-/

namespace Streak

variable {α : Type*} {test : α → Bool} {items : List α} {item : α}

/-- The length of the longest end of a list whose elements pass a test. -/
def streak (test : α → Bool) (items : List α) : Nat := (items.rtakeWhile test).length

@[simp] theorem streak_nil : streak test [] = 0 := rfl

theorem streak_pass (passes : test item = true) :
    streak test (items ++ [item]) = streak test items + 1 := by
  rw [streak, List.rtakeWhile_concat_pos _ _ _ passes, List.length_append]
  rfl

theorem streak_fail (fails : test item = false) : streak test (items ++ [item]) = 0 := by
  rw [streak, List.rtakeWhile_concat_neg _ _ _ (Bool.eq_false_iff.mp fails), List.length_nil]

/-- A counter that is one more after a success and zero after a failure. -/
theorem streak_append (test : α → Bool) (items : List α) (item : α) :
    streak test (items ++ [item]) = if test item then streak test items + 1 else 0 := by
  split
  next passes => exact streak_pass passes
  next fails => exact streak_fail (Bool.eq_false_iff.mpr fails)

/-- There are no failures at the end of a list that ends with a success. -/
theorem streak_not (positive : 0 < streak test items) :
    streak (fun item => !test item) items = 0 := by
  rcases List.eq_nil_or_concat items with rfl | ⟨earlier, item, rfl⟩
  · rfl
  · rw [List.concat_eq_append, streak_append] at positive ⊢
    cases passes : test item with
    | true => rfl
    | false =>
        rw [passes] at positive
        exact absurd positive (lt_irrefl 0)

end Streak
