import RmdCanSdk.Bench.Commands
import RmdCanSdk.Library.Easing

/-!
# The ramp of a session

In exact arithmetic the positions that a session commands stay between the positions at which
the motors were enabled and their final positions, and they change slowly.
-/

namespace RmdCanSdk.Bench

open Easing (minimumJerk)

variable {count : Nat}

/-! ## Progress -/

theorem smoothRampProgress_eq (linearProgress : ℚ) :
    smoothRampProgress linearProgress = Easing.quintic (clamp linearProgress 0 1) := by
  rw [smoothRampProgress, Easing.quintic]
  rfl

namespace Session

variable (session : Session ℚ count) (captured : Vector (MotorActualStruct ℚ) count)

/-- How much of the time of the ramp has passed at a command. -/
def reached : Nat → ℚ
  | 0 => 0
  | m + 1 =>
      if session.rampMs = 0 then 1
      else clamp (m * session.periodMs / session.rampMs) 0 1

/-- The time that has passed does not turn back, and the clamp does not make it pass faster. -/
theorem clamp_step {early late : ℚ} (le : early ≤ late) :
    clamp early 0 1 ≤ clamp late 0 1 ∧ clamp late 0 1 - clamp early 0 1 ≤ late - early := by
  rw [clamp, clamp]
  split_ifs <;> constructor <;> linarith

theorem reached_mem (m : Nat) : 0 ≤ session.reached m ∧ session.reached m ≤ 1 := by
  cases m with
  | zero => exact ⟨le_rfl, zero_le_one⟩
  | succ m =>
      rw [reached]
      split
      · exact ⟨zero_le_one, le_rfl⟩
      · exact clamp_mem _ zero_le_one

theorem progress_eq (m : Nat) :
    session.progress m = minimumJerk.progress (session.reached (m + 1)) := by
  have nonneg : ¬ ((session.rampMs : Nat) : ℚ) < 0 := not_lt.mpr (Nat.cast_nonneg _)
  rw [progress, smoothRampProgressForElapsed, reached]
  split
  next none =>
    have zero : session.rampMs = 0 := by
      rcases none with negative | zero
      · exact absurd negative nonneg
      · exact Nat.cast_eq_zero.mp (of_decide_eq_true zero)
    rw [if_pos zero, minimumJerk.one]
    rfl
  next some =>
    have positive : session.rampMs ≠ 0 := by
      intro zero
      exact some (.inr (decide_eq_true (Nat.cast_eq_zero.mpr zero)))
    rw [if_neg positive, smoothRampProgress_eq]
    rfl

theorem reached_one (ramp : 0 < session.rampMs) : session.reached 1 = 0 := by
  rw [reached, if_neg ramp.ne', Nat.cast_zero, zero_mul, zero_div]
  exact clamp_eq_self le_rfl zero_le_one

/-- The ramp takes its time. -/
theorem reached_succ (ramp : 0 < session.rampMs) (m : Nat) :
    session.reached m ≤ session.reached (m + 1) ∧
      session.reached (m + 1) - session.reached m ≤ session.periodMs / session.rampMs := by
  have positive : session.rampMs ≠ 0 := ramp.ne'
  have length : (0 : ℚ) ≤ session.periodMs / session.rampMs :=
    div_nonneg (Nat.cast_nonneg _) (Nat.cast_nonneg _)
  cases m with
  | zero =>
      rw [session.reached_one ramp, reached, sub_self]
      exact ⟨le_rfl, length⟩
  | succ m =>
      have step : ((m + 1 : Nat) * session.periodMs / session.rampMs : ℚ) =
          m * session.periodMs / session.rampMs + session.periodMs / session.rampMs := by
        rw [Nat.cast_succ, add_mul, one_mul, add_div]
      have between := clamp_step (le_add_of_nonneg_right length :
        (m * session.periodMs / session.rampMs : ℚ) ≤ _)
      rw [add_sub_cancel_left] at between
      rw [reached, reached, if_neg positive, if_neg positive, step]
      exact between

/-! ## Positions -/

variable {session}

theorem capture_active {i : Fin count} (active : i ∈ session.activeMotors) :
    (session.capture captured).startPositions.get i = (captured.get i).pos ∧
      (session.capture captured).finalPositions.get i =
        session.finalPosition i (captured.get i).pos ∧
      ((session.capture captured).targets.get i).pos = (captured.get i).pos := by
  refine ⟨?_, ?_, ?_⟩
  · exact (start_active captured active).1
  · exact (Vector.get_foldl_set (fun i _ => session.finalPosition i (captured.get i).pos)
      (fun _ _ => rfl) session.activeMotors _ i).1 active
  · exact (start_active captured active).2

variable {captured}

/-- The position of a motor at a command. -/
theorem command_pos {i : Fin count} (active : i ∈ session.activeMotors) (m : Nat) :
    ((session.command captured m).get i).pos =
      minimumJerk.blend (captured.get i).pos (session.finalPosition i (captured.get i).pos)
        (session.reached m) := by
  rcases capture_active captured active with ⟨start, final, target⟩
  cases m with
  | zero => rw [command, target, reached, Easing.blend_zero]
  | succ m =>
      rw [command, (session.get_move _ _ _ i).1 active, moved, start, final, progress_eq]
      rfl

/-- How far a motor is moved by a command. -/
theorem abs_command_sub_le (ramp : 0 < session.rampMs) {i : Fin count}
    (active : i ∈ session.activeMotors) (m : Nat) :
    |((session.command captured (m + 1)).get i).pos - ((session.command captured m).get i).pos| ≤
      15 / 8 * |session.finalPosition i (captured.get i).pos - (captured.get i).pos| *
        (session.periodMs / session.rampMs) := by
  rcases session.reached_succ ramp m with ⟨later, slow⟩
  rw [command_pos active, command_pos active]
  apply (minimumJerk.abs_blend_sub_le _ _ (session.reached_mem m).1 later
    (session.reached_mem (m + 1)).2).trans
  exact mul_le_mul_of_nonneg_left slow (mul_nonneg (by norm_num [minimumJerk]) (abs_nonneg _))

/-! ## Runs -/

/-- A command for a motor that is near the one before. -/
def Near (i : Fin count) (bound : ℚ) (previous next : Command ℚ count) : Prop :=
  |(next.get i).pos - (previous.get i).pos| ≤ bound

theorem near_of_eq {i : Fin count} {bound : ℚ} (nonneg : 0 ≤ bound)
    {previous next : Command ℚ count} (same : (next.get i).pos = (previous.get i).pos) :
    Near i bound previous next := by
  rw [Near, same, sub_self, abs_zero]
  exact nonneg

theorem isChain_commands_of {i : Fin count} {bound : ℚ} (nonneg : 0 ≤ bound)
    (moves : ∀ m, Near i bound (session.command captured m) (session.command captured (m + 1)))
    (number m : Nat) :
    (session.script.commands captured number m).IsChain (Near i bound) ∧
      ∀ last ∈ (session.script.commands captured number m).getLast?,
        last = session.command captured m := by
  induction m with
  | zero =>
      rw [Script.commands, List.range_zero, List.map_nil, List.append_nil]
      refine ⟨List.isChain_replicate_of_rel number (near_of_eq nonneg rfl), ?_⟩
      intro last isLast
      exact List.eq_of_mem_replicate (List.mem_of_getLast? isLast)
  | succ m ih =>
      rw [← Script.commands_move]
      constructor
      · apply ih.1.append (List.isChain_singleton _)
        intro last isLast next isNext
        rw [ih.2 last isLast, ← Option.some.inj isNext]
        exact moves m
      · intro last isLast
        rw [List.getLast?_concat] at isLast
        exact (Option.some.inj isLast).symm

theorem mem_commands {number m : Nat} {targets : Command ℚ count}
    (member : targets ∈ session.script.commands captured number m) :
    ∃ m, targets = session.command captured m := by
  rcases List.mem_append.mp member with enabling | moving
  · exact ⟨0, List.eq_of_mem_replicate enabling⟩
  · rcases List.mem_map.mp moving with ⟨i, -, rfl⟩
    exact ⟨i + 1, rfl⟩

theorem disabled_pos (targets : Command ℚ count) (i : Fin count) :
    ((disabled targets).get i).pos = (targets.get i).pos := by
  have entry : (disabled targets).get i = _ := Vector.getElem_map _ i.isLt
  rw [entry]
  rfl

/-- The motors are enabled where they were captured. -/
theorem command_zero_pos {i : Fin count} (active : i ∈ session.activeMotors) :
    ((session.command captured 0).get i).pos = (captured.get i).pos := by
  rw [command_pos active, reached, Easing.blend_zero]

/-- With a ramp, the first command that moves the motors leaves them where they were captured. -/
theorem command_one_pos (ramp : 0 < session.rampMs) {i : Fin count}
    (active : i ∈ session.activeMotors) :
    ((session.command captured 1).get i).pos = (captured.get i).pos := by
  rw [command_pos active, session.reached_one ramp, Easing.blend_zero]

/-- With a ramp, the first command of a session is at the captured positions. -/
theorem head_pos (ramp : 0 < session.rampMs) {i : Fin count} (active : i ∈ session.activeMotors)
    (number m repeats : Nat) :
    ∀ first ∈ (session.script.commands captured number m ++
        List.replicate repeats (disabled (session.command captured m))).head?,
      (first.get i).pos = (captured.get i).pos := by
  intro first isFirst
  cases number with
  | succ number =>
      cases isFirst
      exact command_zero_pos active
  | zero =>
      cases m with
      | zero =>
          have member := List.mem_of_mem_head? isFirst
          rw [List.eq_of_mem_replicate member, disabled_pos, command_zero_pos active]
      | succ m =>
          rw [Script.commands, List.replicate_zero, List.nil_append,
            List.range_succ_eq_map] at isFirst
          cases isFirst
          exact command_one_pos ramp active

/-- No command is outside of the captured and the final position. -/
theorem between_of_mem {i : Fin count} (active : i ∈ session.activeMotors) {number m repeats : Nat}
    {targets : Command ℚ count}
    (member : targets ∈ session.script.commands captured number m ++
      List.replicate repeats (disabled (session.command captured m))) :
    let start := (captured.get i).pos
    let final := session.finalPosition i start
    min start final ≤ (targets.get i).pos ∧ (targets.get i).pos ≤ max start final := by
  intro start final
  have between : ∀ m, min start final ≤ ((session.command captured m).get i).pos ∧
      ((session.command captured m).get i).pos ≤ max start final := by
    intro m
    rw [command_pos active]
    exact minimumJerk.blend_mem (session.reached_mem m).1 (session.reached_mem m).2
  rcases List.mem_append.mp member with enabled | disables
  · rcases mem_commands enabled with ⟨m, rfl⟩
    exact between m
  · rw [List.eq_of_mem_replicate disables, disabled_pos]
    exact between m

/-- With a ramp, every command is near the one before. -/
theorem isChain_commands (ramp : 0 < session.rampMs) {i : Fin count}
    (active : i ∈ session.activeMotors) (number m repeats : Nat) :
    (session.script.commands captured number m ++
        List.replicate repeats (disabled (session.command captured m))).IsChain
      (Near i (15 / 8 * |session.finalPosition i (captured.get i).pos - (captured.get i).pos| *
        (session.periodMs / session.rampMs))) := by
  have nonneg : 0 ≤ 15 / 8 * |session.finalPosition i (captured.get i).pos - (captured.get i).pos| *
      ((session.periodMs : ℚ) / session.rampMs) := by
    positivity
  rcases isChain_commands_of nonneg (abs_command_sub_le ramp active) number m with ⟨chain, isLast⟩
  apply chain.append (List.isChain_replicate_of_rel repeats (near_of_eq nonneg rfl))
  intro last member next isNext
  apply near_of_eq nonneg
  rw [isLast last member, List.eq_of_mem_replicate (List.mem_of_mem_head? isNext), disabled_pos]

end Session

/-- In exact arithmetic, in every run of a session: the commands are some that enable the motors
where they were captured, those of the ramp up to some iteration, and some that disable the
motors where they are then. The position commanded to an active motor is never outside of the
position at which the motor was captured and its final position. With a ramp the first command,
and the first one of the ramp, are where the motor was captured, and from one command to the
next the position changes by no more than the way to the final position at 15/8 of its mean
speed. -/
theorem session_ramp (session : Session ℚ count)
    (answers : List ((call : Call ℚ count) → Response call)) :
    let observed := (session.program.run answers).1.foldl observe .nothing
    observed.commands = [] ∨ ∃ captured since number m repeats,
      session.script.Captured captured observed.reports since ∧
      observed.commands = List.replicate number (session.command captured 0) ++
        (List.range m).map (fun iteration => session.command captured (iteration + 1)) ++
        List.replicate repeats (disabled (session.command captured m)) ∧
      ∀ i ∈ session.activeMotors,
        let start := (captured.get i).pos
        let final := session.finalPosition i start
        (∀ targets ∈ observed.commands,
          min start final ≤ (targets.get i).pos ∧ (targets.get i).pos ≤ max start final) ∧
        ((session.command captured 0).get i).pos = start ∧
        (0 < session.rampMs → (∀ first ∈ observed.commands.head?, (first.get i).pos = start) ∧
          ((session.command captured 1).get i).pos = start ∧
          observed.commands.IsChain (Session.Near i
            (15 / 8 * |final - start| * (session.periodMs / session.rampMs)))) := by
  intro observed
  rcases session.commanded_run answers with nothing |
    ⟨captured, since, number, m, repeats, seen, commands⟩
  · exact .inl nothing
  refine .inr ⟨captured, since, number, m, repeats, seen, commands, ?_⟩
  intro i active start final
  rw [commands]
  refine ⟨fun targets => Session.between_of_mem active, Session.command_zero_pos active, ?_⟩
  intro ramp
  exact ⟨Session.head_pos ramp active number m repeats, Session.command_one_pos ramp active,
    Session.isChain_commands ramp active number m repeats⟩

end RmdCanSdk.Bench
