import RmdCanSdk.Library.Transition

/-!
# Loops with a bounded number of iterations

A loop over a counter whose body goes on with a new state, returns or throws, and a last
computation for the state in which the counter runs out. What holds of every result of the
body and of the last computation holds of every result of the loop. As a machine that makes
one step for each iteration, the loop stops when its counter has run out.
-/

namespace BoundedLoop

variable {state result error : Type*}

/-- How an iteration ends, unless it throws. -/
inductive Next (state result : Type*) where
  | done (value : result)
  | next (state : state)

/-- The loop with the iterations that are left. -/
def run (body : state → Except error (Next state result)) (finish : state → Except error result) :
    Nat → state → Except error result
  | 0, start => finish start
  | count + 1, start =>
      match body start with
      | .error failure => .error failure
      | .ok (.done value) => .ok value
      | .ok (.next after) => run body finish count after

section

variable {body : state → Except error (Next state result)} {finish : state → Except error result}

theorem run_done {start : state} {value : result} (returned : body start = .ok (.done value))
    (count : Nat) : run body finish (count + 1) start = .ok value := by
  rw [run, returned]

/-- What every way out of the loop guarantees holds of its result. -/
theorem run_ok (post : result → Prop)
    (returned : ∀ {before : state} {value : result}, body before = .ok (.done value) → post value)
    (finished : ∀ {before : state} {value : result}, finish before = .ok value → post value)
    {count : Nat} {start : state} {value : result} (ok : run body finish count start = .ok value) :
    post value := by
  induction count generalizing start with
  | zero => exact finished ok
  | succ count ih =>
      rw [run] at ok
      split at ok
      next => contradiction
      next same =>
        cases ok
        exact returned same
      next => exact ih ok

end

/-! ## The loop as a machine -/

/-- The loop in its iteration with some number, or what came out of it. -/
inductive Machine (state result error : Type*) where
  | running (iteration : Nat) (state : state)
  | stopped (outcome : Except error result)

/-- One iteration, or the last computation. A machine that has stopped makes no step. -/
def step (body : state → Except error (Next state result)) (finish : state → Except error result)
    (count : Nat) : Machine state result error → Unit → Option (Machine state result error)
  | .running iteration before, _ =>
      if iteration < count then
        match body before with
        | .error failure => some (.stopped (.error failure))
        | .ok (.done value) => some (.stopped (.ok value))
        | .ok (.next after) => some (.running (iteration + 1) after)
      else some (.stopped (finish before))
  | .stopped _, _ => none

/-- From its first iteration the machine stops with the outcome, after the iterations and the
last computation at the latest. -/
def StopsWith (body : state → Except error (Next state result))
    (finish : state → Except error result) (count : Nat) (start : state)
    (outcome : Except error result) : Prop :=
  ∃ steps ≤ count + 1, Transition.run (step body finish count) (.running 0 start)
    (List.replicate steps ()) = some (.stopped outcome)

theorem stopsWith_run (body : state → Except error (Next state result))
    (finish : state → Except error result) (count : Nat) (start : state) :
    StopsWith body finish count start (run body finish count start) := by
  have general : ∀ left iteration before, iteration + left = count →
      ∃ steps ≤ left + 1, Transition.run (step body finish count) (.running iteration before)
        (List.replicate steps ()) = some (.stopped (run body finish left before)) := by
    intro left
    induction left with
    | zero =>
        intro iteration before last
        refine ⟨1, Nat.le_refl _, ?_⟩
        rw [List.replicate_one, Transition.run_singleton, step, if_neg (by omega)]
        rfl
    | succ left ih =>
        intro iteration before counts
        have goesOn : iteration < count := by omega
        cases outcome : body before with
        | error failure =>
            refine ⟨1, Nat.succ_le_succ (Nat.zero_le _), ?_⟩
            rw [List.replicate_one, Transition.run_singleton, step, if_pos goesOn, run, outcome]
        | ok ending =>
            cases ending with
            | done value =>
                refine ⟨1, Nat.succ_le_succ (Nat.zero_le _), ?_⟩
                rw [List.replicate_one, Transition.run_singleton, step, if_pos goesOn, run,
                  outcome]
            | next after =>
                rcases ih (iteration + 1) after (by omega) with ⟨steps, bounded, ran⟩
                refine ⟨steps + 1, Nat.succ_le_succ bounded, ?_⟩
                rw [List.replicate_succ, Transition.run_cons]
                refine ⟨.running (iteration + 1) after, ?_, ?_⟩
                · rw [step, if_pos goesOn, outcome]
                · rw [ran, run, outcome]
  exact general count 0 start (Nat.zero_add count)

end BoundedLoop
