import Mathlib.Logic.Basic

/-!
# Computations that keep their state when they throw

In `EStateM` an exception does not undo the changes made before it. The rules tell how
a sequence of steps can end, and which facts about the state hold in both cases.
-/

namespace Raising

variable {error state α β item : Type}

/-- The state in which a computation ends, whether or not it throws. -/
def finalState : EStateM.Result error state α → state
  | .ok _ final => final
  | .error _ final => final

/-- What a computation returns or throws. -/
def result : EStateM.Result error state α → Except error α
  | .ok value _ => .ok value
  | .error failure _ => .error failure

/-- A pure computation that may fail, as a step. -/
def lift : Except error α → EStateM error state α
  | .ok value => pure value
  | .error failure => throw failure

variable {first : EStateM error state α} {continuation : α → EStateM error state β}
variable {before after : state} {value : β} {failure : error}

/-! ## Running the steps -/

theorem bind_apply : (first >>= continuation) before =
    match first before with
    | .ok result middle => continuation result middle
    | .error failure middle => .error failure middle := rfl

theorem forM_cons (head : item) (rest : List item) (step : item → EStateM error state PUnit) :
    (head :: rest).forM step = step head >>= fun _ => rest.forM step := rfl

@[simp] theorem pure_apply (result : α) :
    (pure result : EStateM error state α) before = .ok result before := rfl

@[simp] theorem throw_apply (failure : error) :
    (throw failure : EStateM error state α) before = .error failure before := rfl

@[simp] theorem get_apply : (get : EStateM error state state) before = .ok before before := rfl

@[simp] theorem modify_apply (change : state → state) :
    (modify change : EStateM error state PUnit) before = .ok ⟨⟩ (change before) := rfl

@[simp] theorem lift_apply_ok (result : α) :
    (lift (.ok result) : EStateM error state α) before = .ok result before := rfl

@[simp] theorem lift_apply_error (failure : error) :
    (lift (.error failure) : EStateM error state α) before = .error failure before := rfl

theorem bind_of_ok {result : α} {middle : state} (ended : first before = .ok result middle) :
    (first >>= continuation) before = continuation result middle := by
  change EStateM.bind first continuation before = _
  rw [EStateM.bind, ended]

theorem bind_of_error (ended : first before = .error failure after) :
    (first >>= continuation) before = .error failure after := by
  change EStateM.bind first continuation before = _
  rw [EStateM.bind, ended]

/-! ## What a computation leaves alone -/

/-- However a computation ends, it leaves an observation of the state alone. -/
def Leaves {observed : Type} (observe : state → observed) (step : EStateM error state α) : Prop :=
  ∀ before, observe (finalState (step before)) = observe before

variable {observed : Type} {observe : state → observed}

theorem Leaves.bind (leavesFirst : Leaves observe first)
    (leavesRest : ∀ result, Leaves observe (continuation result)) :
    Leaves observe (first >>= continuation) := by
  intro before
  have own := leavesFirst before
  cases ended : first before with
  | ok result middle =>
      rw [ended] at own
      rw [bind_of_ok ended, leavesRest result middle]
      exact own
  | error failure middle =>
      rw [ended] at own
      rw [bind_of_error ended]
      exact own

theorem Leaves.pure (result : α) : Leaves observe (pure result : EStateM error state α) :=
  fun _ => rfl

theorem Leaves.get : Leaves observe (get : EStateM error state state) :=
  fun _ => rfl

theorem Leaves.throw (failure : error) :
    Leaves observe (throw failure : EStateM error state α) :=
  fun _ => rfl

theorem Leaves.modify {change : state → state} (kept : ∀ before, observe (change before) = observe before) :
    Leaves observe (modify change : EStateM error state PUnit) :=
  kept

theorem Leaves.forM {items : List item} {step : item → EStateM error state PUnit}
    (leaves : ∀ item ∈ items, Leaves observe (step item)) : Leaves observe (items.forM step) := by
  induction items with
  | nil => exact .pure _
  | cons head rest ih =>
      exact (leaves head List.mem_cons_self).bind fun _ =>
        ih fun item member => leaves item (List.mem_cons_of_mem _ member)

end Raising
