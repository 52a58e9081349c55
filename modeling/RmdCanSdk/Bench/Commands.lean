import RmdCanSdk.Bench.Script

/-!
# The commands of a session

Whatever the driver reports and whenever the session is asked to stop, a session that moves its
motors to final positions follows its script.
-/

namespace RmdCanSdk.Bench

open Program (Safe safe_perform)

variable {F : Type} [FloatArith F] {count : Nat}

namespace Session

variable (session : Session F count)

/-- The command for motors that are enabled where they are, and those of the iterations that
move them. -/
def command (captured : Vector (MotorActualStruct F) count) : Nat → Command F count
  | 0 => (session.capture captured).targets
  | m + 1 => session.move (session.capture captured) (session.progress m)
      (session.capture captured).targets

@[reducible] def script : Script F count where
  toSetup := session.toSetup
  command := session.command
  Planned _ := True
  missedLimit := session.missedLimit

/-! ## Moving -/

theorem get_move (motion : Motion F count) (progress : F) (targets : Command F count)
    (i : Fin count) :
    (i ∈ session.activeMotors → (session.move motion progress targets).get i =
        moved motion progress i (targets.get i)) ∧
      (i ∉ session.activeMotors →
        (session.move motion progress targets).get i = targets.get i) :=
  Vector.get_foldl_set (moved motion progress) (fun _ _ => rfl) session.activeMotors targets i

/-- Each iteration of the ramp replaces what the one before has set. -/
theorem move_move (motion : Motion F count) (early late : F) (targets : Command F count) :
    session.move motion late (session.move motion early targets) =
      session.move motion late targets :=
  Vector.foldl_set_foldl_set (moved motion early) (moved motion late) (fun _ _ => rfl)
    (fun _ _ => rfl) (fun _ _ => rfl) session.activeMotors targets

theorem move_command (captured : Vector (MotorActualStruct F) count) (m : Nat) :
    session.move (session.capture captured) (session.progress m) (session.command captured m) =
      session.command captured (m + 1) := by
  cases m with
  | zero => rfl
  | succ m => exact move_move session _ _ _ _

/-! ## Runs -/

variable {session}
variable {captured : Vector (MotorActualStruct F) count} {observed : Observed F count}

theorem safe_hold (left : Nat) {m consecutiveMissedFeedback : Nat} (nextWake : Time)
    (moving : session.script.Moving captured m consecutiveMissedFeedback observed)
    (few : consecutiveMissedFeedback < session.missedLimit) :
    Safe session.script.rules (session.hold (session.capture captured) left m consecutiveMissedFeedback
        nextWake (session.command captured m)) observed
      fun result after => ∃ m missed, result.2 = session.command captured m ∧
        session.script.Moving captured m missed after := by
  induction left generalizing m consecutiveMissedFeedback nextWake observed with
  | zero => exact ⟨m, _, rfl, moving⟩
  | succ left ih =>
      refine Safe.bind (safe_perform trivial fun stop => ?_)
      cases stop with
      | true => exact ⟨m, _, rfl, moving⟩
      | false =>
          have isPermitted : session.script.Permitted observed (session.command captured (m + 1)) := by
            rcases moving with ⟨since, number, seen, enabled, rfl, commands⟩
            exact .move seen enabled few trivial commands
          rw [← move_command] at isPermitted
          refine Safe.bind (safe_perform isPermitted fun status => ?_)
          have commanded := moving.command status
          rw [move_command]
          split
          next refused => exact ⟨m + 1, _, rfl, commanded⟩
          next accepted =>
            refine Safe.bind ((Script.safe_monitor _ commanded).mono fun missed after monitored => ?_)
            split
            next many => exact ⟨m + 1, missed, rfl, monitored⟩
            next few =>
              refine Safe.bind ((Script.safe_wait _ _ nextWake).mono fun nextWake _ same => ?_)
              cases same
              exact ih nextWake monitored (Nat.lt_of_not_le few)

theorem safe_moveAndDisable (moving : session.script.Moving captured 0 0 observed) :
    Safe session.script.rules (session.moveAndDisable (session.capture captured)) observed
      fun _ after => session.script.Ended after := by
  refine Safe.bind ((Script.safe_start _).mono fun nextWake _ same => ?_)
  cases same
  refine Safe.bind ((safe_hold session.iterations nextWake moving session.limited).mono
    fun result after held => ?_)
  rcases result with ⟨finished, targets⟩
  rcases held with ⟨m, missed, rfl, moving⟩
  cases finished with
  | true => exact Safe.bind (safe_perform trivial fun _ =>
      moving.standing.disables.mono fun _ _ done => done.2)
  | false => exact moving.standing.disables.mono fun _ _ done => done.2

theorem safe_program :
    Safe session.script.rules session.program .nothing
      fun _ after => session.script.Ended after := by
  apply Script.safe_whenReady fun _ _ => .inl
  intro captured observed seen noCommand
  apply Script.safe_whenEnabled (fun _ _ _ ended => ended) seen noCommand
  exact fun after moving => safe_moveAndDisable moving

theorem commanded_run (session : Session F count)
    (answers : List ((call : Call F count) → Response call)) :
    session.script.Commanded ((session.program.run answers).1.foldl observe .nothing) :=
  Script.commanded_run safe_program answers

end Session

/-- In every run of a session, whatever the driver reports and whenever a signal comes: each
command is one that enables the motors at the positions that the last of ten good reports in a
row has given, one of the ramp after ten reports in a row of enabled motors and with fewer
missed reports at the end than the limit, in the order of the ramp, or one of the fifty that
disable the motors where they were commanded last. A session that has ended has given these
fifty, or no command at all. -/
theorem session_commands (session : Session F count)
    (answers : List ((call : Call F count) → Response call)) :
    (∀ before targets status after, (session.program.run answers).1 =
        before ++ ⟨.setMotorTarget targets, status⟩ :: after →
      session.script.Permitted (before.foldl observe .nothing) targets) ∧
    ∀ code, (session.program.run answers).2 = .done code →
      session.script.Ended ((session.program.run answers).1.foldl observe .nothing) :=
  ⟨fun _ _ _ _ split => Session.safe_program.permitted_run answers split,
    fun _ ended => Session.safe_program.post_run answers ended⟩

end RmdCanSdk.Bench
