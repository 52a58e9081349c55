import RmdCanSdk.Bench.Session
import RmdCanSdk.Library.Streak

/-!
# Scripts

What the sessions on the bench have in common, whatever they do with the motors: the motors are
enabled where they are after a streak of good feedback, moved after a streak of feedback of
enabled motors, and disabled at the end.
-/

namespace RmdCanSdk.Bench

open Program (Safe observing safe_perform)
open Streak (streak)

variable {F : Type} [FloatArith F] {count : Nat}

/-- The reports and the commands of a trace. -/
structure Observed (F : Type) (count : Nat) where
  reports : List (Report F count)
  commands : List (Command F count)

omit [FloatArith F] in
def Observed.nothing : Observed F count where
  reports := []
  commands := []

def observe (observed : Observed F count) : (call : Call F count) × Response call →
    Observed F count
  | ⟨.getMotorActual, report⟩ => { observed with reports := observed.reports ++ [report] }
  | ⟨.setMotorTarget targets, _⟩ => { observed with commands := observed.commands ++ [targets] }
  | _ => observed

/-! ## Vectors of targets -/

/-- Where a motor is enabled. -/
theorem start_active {setup : Setup count} (captured : Vector (MotorActualStruct F) count)
    {i : Fin count} (active : i ∈ setup.activeMotors) :
    (setup.start captured).startPositions.get i = (captured.get i).pos ∧
      ((setup.start captured).targets.get i).pos = (captured.get i).pos := by
  constructor
  · exact Vector.get_foldl_field Start.startPositions (Setup.startMotor captured) _ (fun _ _ => rfl)
      active _
  · exact congrArg MotorTargetStruct.pos (Vector.get_foldl_field Start.targets
      (Setup.startMotor captured) _ (fun _ _ => rfl) active _)

/-! ## Programs -/

/-- The commands of a program. -/
structure Script (F : Type) (count : Nat) extends Setup count where
  /-- The command that enables the motors where they were captured, and after it those that move
  them, in their order. -/
  command : Vector (MotorActualStruct F) count → Nat → Command F count
  /-- Which of the commands that move the motors the program gets to. -/
  Planned : Nat → Prop
  missedLimit : Nat

namespace Script

variable (script : Script F count)

/-- A number of commands to enable the motors, and the first commands that move them. -/
def commands (captured : Vector (MotorActualStruct F) count) (number m : Nat) :
    List (Command F count) :=
  List.replicate number (script.command captured 0) ++
    (List.range m).map fun i => script.command captured (i + 1)

/-- Samples that were the last ones of ten reports in a row with good feedback, and the reports
since. -/
def Captured (captured : Vector (MotorActualStruct F) count)
    (reports since : List (Report F count)) : Prop :=
  ∃ earlier status, reports = earlier ++ (status, captured) :: since ∧
    10 ≤ streak script.ready (earlier ++ [(status, captured)])

/-- Ten reports in a row have said that the motors are enabled. -/
def Enabled (since : List (Report F count)) : Prop :=
  ∃ enabling later, since = enabling ++ later ∧ 10 ≤ streak script.operational enabling

def missed (report : Report F count) : Bool := !script.operational report

/-- When which command is given. -/
inductive Permitted (observed : Observed F count) : Command F count → Prop where
  | enable {captured : Vector (MotorActualStruct F) count} {since : List (Report F count)}
      {number : Nat} :
      script.Captured captured observed.reports since →
      observed.commands = script.commands captured number 0 →
      Permitted observed (script.command captured 0)
  | move {captured : Vector (MotorActualStruct F) count} {since : List (Report F count)}
      {number m : Nat} :
      script.Captured captured observed.reports since → script.Enabled since →
      streak script.missed since < script.missedLimit → script.Planned m →
      observed.commands = script.commands captured number m →
      Permitted observed (script.command captured (m + 1))
  | disable {captured : Vector (MotorActualStruct F) count} {since : List (Report F count)}
      {number m repeats : Nat} :
      script.Captured captured observed.reports since → repeats < 50 →
      observed.commands = script.commands captured number m ++
        List.replicate repeats (disabled (script.command captured m)) →
      Permitted observed (disabled (script.command captured m))

/-- What has been commanded at the end. -/
def Ended (observed : Observed F count) : Prop :=
  observed.commands = [] ∨ ∃ captured since number m,
    script.Captured captured observed.reports since ∧
    observed.commands = script.commands captured number m ++
      List.replicate 50 (disabled (script.command captured m))

def permitted (observed : Observed F count) : Call F count → Prop
  | .setMotorTarget targets => script.Permitted observed targets
  | _ => True

abbrev rules : Program.Rules (Call F count) Response (Observed F count) :=
  observing observe script.permitted

/-! ## Waiting for feedback -/

variable {script}
variable {captured actuals : Vector (MotorActualStruct F) count} {observed : Observed F count}
variable {reports since : List (Report F count)}

omit [FloatArith F] in
theorem Captured.report (seen : script.Captured captured reports since)
    (report : Report F count) :
    script.Captured captured (reports ++ [report]) (since ++ [report]) := by
  rcases seen with ⟨earlier, status, rfl, ten⟩
  exact ⟨earlier, status, by rw [List.append_assoc, List.cons_append], ten⟩

/-- What is known while the session waits for feedback. -/
structure Settling (script : Script F count) (actuals : Vector (MotorActualStruct F) count)
    (consecutiveReady : Nat) (observed : Observed F count) : Prop where
  noCommand : observed.commands = []
  counted : streak script.ready observed.reports = consecutiveReady
  last : 0 < consecutiveReady → ∃ status, observed.reports.getLast? = some (status, actuals)

omit [FloatArith F] in
theorem Settling.isCaptured {consecutiveReady : Nat}
    (settling : script.Settling actuals consecutiveReady observed)
    (ten : 10 ≤ consecutiveReady) : script.Captured actuals observed.reports [] := by
  rcases settling.last (Nat.lt_of_lt_of_le (by decide) ten) with ⟨status, isLast⟩
  rcases List.getLast?_eq_some_iff.mp isLast with ⟨earlier, split⟩
  refine ⟨earlier, status, split, ?_⟩
  rwa [← split, settling.counted]

omit [FloatArith F] in
theorem Settling.report {consecutiveReady : Nat}
    (settling : script.Settling actuals consecutiveReady observed) (report : Report F count) :
    script.Settling report.2
      (recordConsecutiveReady (script.ready report) consecutiveReady 10).2
      (observe observed ⟨.getMotorActual, report⟩) where
  noCommand := settling.noCommand
  counted := by
    rw [observe, Streak.streak_append, settling.counted, recordConsecutiveReady]
    split
    · rfl
    · rfl
  last _ := ⟨report.1, List.getLast?_concat⟩

theorem safe_settle (left : Nat) {consecutiveReady : Nat}
    (settling : script.Settling actuals consecutiveReady observed) :
    Safe script.rules (script.settle left actuals consecutiveReady) observed
      fun result after => script.Settling result.2 result.1 after := by
  induction left generalizing actuals consecutiveReady observed with
  | zero => exact settling
  | succ left ih =>
      refine Safe.bind (safe_perform trivial fun stop => ?_)
      cases stop with
      | true => exact settling
      | false =>
          refine Safe.bind (safe_perform trivial fun _ => ?_)
          refine Safe.bind (safe_perform trivial fun report => ?_)
          have next := settling.report report
          generalize recordConsecutiveReady (script.ready report) consecutiveReady 10 = recorded
            at next ⊢
          rcases recorded with ⟨readyWindowFull, consecutiveReady⟩
          cases readyWindowFull with
          | true => exact next
          | false => exact ih next

/-! ## Enabling -/

omit [FloatArith F] in
theorem commands_enable (captured : Vector (MotorActualStruct F) count) (number : Nat) :
    script.commands captured number 0 ++ [script.command captured 0] =
      script.commands captured (number + 1) 0 := by
  rw [commands, commands, List.range_zero, List.map_nil, List.append_nil, List.append_nil,
    List.replicate_succ']

omit [FloatArith F] in
theorem commands_move (captured : Vector (MotorActualStruct F) count) (number m : Nat) :
    script.commands captured number m ++ [script.command captured (m + 1)] =
      script.commands captured number (m + 1) := by
  rw [commands, commands, List.range_succ, List.map_append, List.append_assoc, List.map_singleton]

/-- What is known while the session waits for the motors to be enabled. -/
def Enabling (script : Script F count) (captured : Vector (MotorActualStruct F) count)
    (consecutiveOperationEnabled : Nat) (observed : Observed F count) : Prop :=
  ∃ since number, script.Captured captured observed.reports since ∧
    streak script.operational since = consecutiveOperationEnabled ∧
    observed.commands = script.commands captured number 0

omit [FloatArith F] in
theorem Enabling.command {consecutiveOperationEnabled : Nat}
    (enabling : script.Enabling captured consecutiveOperationEnabled observed) (status : Int) :
    script.Enabling captured consecutiveOperationEnabled
      (observe observed ⟨.setMotorTarget (script.command captured 0), status⟩) := by
  rcases enabling with ⟨since, number, seen, counted, commands⟩
  refine ⟨since, number + 1, seen, counted, ?_⟩
  rw [observe, commands, commands_enable]

omit [FloatArith F] in
theorem Enabling.report {consecutiveOperationEnabled : Nat}
    (enabling : script.Enabling captured consecutiveOperationEnabled observed)
    (report : Report F count) :
    script.Enabling captured
      (if script.operational report then consecutiveOperationEnabled + 1 else 0)
      (observe observed ⟨.getMotorActual, report⟩) := by
  rcases enabling with ⟨since, number, seen, counted, commands⟩
  refine ⟨since ++ [report], number, seen.report report, ?_, commands⟩
  rw [Streak.streak_append, counted]

theorem safe_enable (left : Nat) {consecutiveOperationEnabled : Nat}
    (enabling : script.Enabling captured consecutiveOperationEnabled observed) :
    Safe script.rules
      (script.enable (script.command captured 0) left consecutiveOperationEnabled) observed
      fun result after => match result with
        | none => ∃ number, script.Enabling captured number after
        | some number => script.Enabling captured number after := by
  induction left generalizing consecutiveOperationEnabled observed with
  | zero => exact enabling
  | succ left ih =>
      refine Safe.bind (safe_perform trivial fun stop => ?_)
      cases stop with
      | true => exact enabling
      | false =>
          have isPermitted : script.Permitted observed (script.command captured 0) := by
            rcases enabling with ⟨since, number, seen, -, commands⟩
            exact .enable seen commands
          refine Safe.bind (safe_perform isPermitted fun status => ?_)
          have commanded := enabling.command status
          split
          next refused => exact ⟨_, commanded⟩
          next accepted =>
            refine Safe.bind (safe_perform trivial fun _ => ?_)
            refine Safe.bind (safe_perform trivial fun report => ?_)
            have reported := commanded.report report
            generalize (if script.operational report then consecutiveOperationEnabled + 1 else 0) =
              next at reported ⊢
            dsimp only
            split
            · exact reported
            · exact ih reported

/-! ## Moving -/

/-- What is known while the session moves the motors. -/
def Moving (script : Script F count) (captured : Vector (MotorActualStruct F) count)
    (m consecutiveMissedFeedback : Nat) (observed : Observed F count) : Prop :=
  ∃ since number, script.Captured captured observed.reports since ∧ script.Enabled since ∧
    streak script.missed since = consecutiveMissedFeedback ∧
    observed.commands = script.commands captured number m

omit [FloatArith F] in
theorem Enabling.moving {consecutiveOperationEnabled : Nat}
    (enabling : script.Enabling captured consecutiveOperationEnabled observed)
    (ten : 10 ≤ consecutiveOperationEnabled) : script.Moving captured 0 0 observed := by
  rcases enabling with ⟨since, number, seen, rfl, commands⟩
  refine ⟨since, number, seen, ⟨since, [], (List.append_nil _).symm, ten⟩, ?_, commands⟩
  exact Streak.streak_not (Nat.lt_of_lt_of_le (by decide) ten)

omit [FloatArith F] in
theorem Moving.command {m consecutiveMissedFeedback : Nat}
    (moving : script.Moving captured m consecutiveMissedFeedback observed) (status : Int) :
    script.Moving captured (m + 1) consecutiveMissedFeedback
      (observe observed ⟨.setMotorTarget (script.command captured (m + 1)), status⟩) := by
  rcases moving with ⟨since, number, seen, enabled, counted, commands⟩
  refine ⟨since, number, seen, enabled, counted, ?_⟩
  rw [observe, commands, commands_move]

omit [FloatArith F] in
theorem Moving.report {m consecutiveMissedFeedback : Nat}
    (moving : script.Moving captured m consecutiveMissedFeedback observed)
    (report : Report F count) :
    script.Moving captured m
      (if script.operational report then 0 else consecutiveMissedFeedback + 1)
      (observe observed ⟨.getMotorActual, report⟩) := by
  rcases moving with ⟨since, number, seen, ⟨enabling, later, rfl, ten⟩, counted, commands⟩
  refine ⟨_, number, seen.report report, ⟨enabling, later ++ [report], ?_, ten⟩, ?_, commands⟩
  · rw [List.append_assoc]
  · rw [Streak.streak_append, counted, missed]
    cases script.operational report with
    | true => rfl
    | false => rfl

theorem safe_monitor (monitored : Bool) {m consecutiveMissedFeedback : Nat}
    (moving : script.Moving captured m consecutiveMissedFeedback observed) :
    Safe script.rules (script.monitor monitored consecutiveMissedFeedback) observed
      fun missed after => script.Moving captured m missed after := by
  cases monitored with
  | true =>
      refine Safe.bind (safe_perform trivial fun report => ?_)
      exact moving.report report
  | false => exact moving

theorem safe_start (pacing : Pacing) :
    Safe script.rules pacing.start observed fun _ after => after = observed := by
  cases pacing with
  | sleepFor => rfl
  | sleepUntil => exact safe_perform trivial fun _ => rfl

theorem safe_wait (pacing : Pacing) (periodMs : Nat) (nextWake : Time) :
    Safe script.rules (pacing.wait periodMs nextWake) observed
      fun _ after => after = observed := by
  cases pacing with
  | sleepFor => exact Safe.bind (safe_perform trivial fun _ => rfl)
  | sleepUntil =>
      refine Safe.bind (safe_perform trivial fun beforeSleep => ?_)
      apply Safe.bind
      rw [Program.when]
      split
      · exact safe_perform trivial fun _ => rfl
      · rfl

/-! ## Disabling -/

theorem safe_repeatTargets {number m : Nat} (seen : script.Captured captured reports since)
    (sleepMs left repeats : Nat) (total : repeats + left = 50)
    (observing : observed.reports = reports ∧
      observed.commands = script.commands captured number m ++
      List.replicate repeats (disabled (script.command captured m))) :
    Safe script.rules (repeatTargets (disabled (script.command captured m)) sleepMs left) observed
      fun _ after => script.Ended after := by
  induction left generalizing repeats observed with
  | zero =>
      cases total
      rcases observing with ⟨rfl, commands⟩
      exact .inr ⟨captured, since, number, m, seen, commands⟩
  | succ left ih =>
      rcases observing with ⟨rfl, commands⟩
      refine Safe.bind (safe_perform (.disable seen (by omega) commands) fun status => ?_)
      refine Safe.bind (safe_perform trivial fun _ => ?_)
      refine ih (repeats + 1) (by omega) ⟨rfl, ?_⟩
      have appended : observed.commands ++ [disabled (script.command captured m)] = _ :=
        congrArg (· ++ _) commands
      rwa [List.append_assoc, ← List.replicate_succ'] at appended

/-- The motors are disabled after any commands of a script. -/
theorem safe_disableMotors {number m : Nat}
    (seen : script.Captured captured observed.reports since)
    (commands : observed.commands = script.commands captured number m) :
    Safe script.rules (disableMotors (script.command captured m) 50 5) observed
      fun _ after => script.Ended after := by
  apply safe_repeatTargets seen 5 50 0 rfl
  exact ⟨rfl, commands.trans (List.append_nil _).symm⟩

/-- The commands so far are those up to one of them. -/
def Standing (script : Script F count) (captured : Vector (MotorActualStruct F) count) (m : Nat)
    (observed : Observed F count) : Prop :=
  ∃ since number, script.Captured captured observed.reports since ∧
    observed.commands = script.commands captured number m

omit [FloatArith F] in
theorem Enabling.standing {number : Nat} (enabling : script.Enabling captured number observed) :
    script.Standing captured 0 observed := by
  rcases enabling with ⟨since, number, seen, -, commands⟩
  exact ⟨since, number, seen, commands⟩

omit [FloatArith F] in
theorem Moving.standing {m missed : Nat} (moving : script.Moving captured m missed observed) :
    script.Standing captured m observed := by
  rcases moving with ⟨since, number, seen, -, -, commands⟩
  exact ⟨since, number, seen, commands⟩

theorem Standing.disables {m : Nat} {code : Int}
    (standing : script.Standing captured m observed) :
    Safe script.rules (do
        disableMotors (script.command captured m) 50 5
        return code) observed fun result after => result = code ∧ script.Ended after := by
  rcases standing with ⟨since, number, seen, commands⟩
  apply Safe.bind
  exact (safe_disableMotors seen commands).mono fun _ after ended => ⟨rfl, ended⟩

/-! ## Whole programs -/

/-- The postconditions that a program may have where it gives no command to move the motors. -/
theorem safe_whenReady
    {next : Vector (MotorActualStruct F) count → Program (Call F count) Response Int}
    {post : Int → Observed F count → Prop}
    (nothing : ∀ code after, after.commands = [] → post code after)
    (continues : ∀ actuals after, script.Captured actuals after.reports [] →
      after.commands = [] → Safe script.rules (next actuals) after post) :
    Safe script.rules (script.whenReady next) .nothing post := by
  have settling : script.Settling (.replicate count default) 0 (.nothing : Observed F count) :=
    ⟨rfl, rfl, fun positive => absurd positive (lt_irrefl 0)⟩
  refine Safe.bind ((safe_settle script.settleSamples settling).mono
    fun result after settling => ?_)
  refine Safe.bind (safe_perform trivial fun stop => ?_)
  cases stop with
  | true => exact nothing 130 after settling.noCommand
  | false =>
      rw [if_neg Bool.false_ne_true]
      split
      next few => exact nothing 1 after settling.noCommand
      next enough =>
        exact continues _ after (settling.isCaptured (Nat.le_of_not_lt enough))
          settling.noCommand

theorem safe_whenEnabled {next : Program (Call F count) Response Int}
    {post : Int → Observed F count → Prop}
    (ended : ∀ code after, code ≠ 2 → script.Ended after → post code after)
    (seen : script.Captured captured observed.reports []) (noCommand : observed.commands = [])
    (continues : ∀ after, script.Moving captured 0 0 after →
      Safe script.rules next after post) :
    Safe script.rules (script.whenEnabled (script.command captured 0) next) observed post := by
  have after_disabling : ∀ {program : Program (Call F count) Response Int} {state code},
      Safe script.rules program state (fun result after => result = code ∧ script.Ended after) →
      code ≠ 2 → Safe script.rules program state post := by
    intro program state code safe other
    exact safe.mono fun result after done => ended result after (done.1 ▸ other) done.2
  have enabling : script.Enabling captured 0 observed := ⟨[], 0, seen, rfl, noCommand⟩
  refine Safe.bind ((safe_enable script.settleSamples enabling).mono fun result after known => ?_)
  cases result with
  | none => exact after_disabling known.choose_spec.standing.disables (by decide)
  | some number =>
      have standing := Enabling.standing known
      refine Safe.bind (safe_perform trivial fun stop => ?_)
      cases stop with
      | true => exact after_disabling standing.disables (by decide)
      | false =>
          rw [if_neg Bool.false_ne_true]
          split
          next few => exact after_disabling standing.disables (by decide)
          next enough => exact continues after (Enabling.moving known (Nat.le_of_not_lt enough))

/-- What has been commanded at some time of a script. -/
def Commanded (script : Script F count) (observed : Observed F count) : Prop :=
  observed.commands = [] ∨ ∃ captured since number m repeats,
    script.Captured captured observed.reports since ∧
    observed.commands = script.commands captured number m ++
      List.replicate repeats (disabled (script.command captured m))

theorem Permitted.commanded {targets : Command F count}
    (isPermitted : script.Permitted observed targets) (status : Int) :
    script.Commanded (observe observed ⟨.setMotorTarget targets, status⟩) := by
  cases isPermitted with
  | @enable captured since number seen commands =>
      refine .inr ⟨captured, since, number + 1, 0, 0, seen, ?_⟩
      rw [observe, commands, commands_enable]
      exact (List.append_nil _).symm
  | @move captured since number m seen enabled heard planned commands =>
      refine .inr ⟨captured, since, number, m + 1, 0, seen, ?_⟩
      rw [observe, commands, commands_move]
      exact (List.append_nil _).symm
  | @disable captured since number m repeats seen few commands =>
      refine .inr ⟨captured, since, number, m, repeats + 1, seen, ?_⟩
      rw [observe, commands, List.append_assoc, ← List.replicate_succ']

theorem commanded_run {program : Program (Call F count) Response Int}
    {post : Int → Observed F count → Prop} (safe : Safe script.rules program .nothing post)
    (answers : List ((call : Call F count) → Response call)) :
    script.Commanded ((program.run answers).1.foldl observe .nothing) := by
  apply safe.invariant_run _ (.inl rfl)
  intro observed call response isPermitted commanded
  cases call with
  | setMotorTarget targets => exact Permitted.commanded isPermitted response
  | getMotorActual =>
      rcases commanded with nothing | ⟨captured, since, number, m, repeats, seen, commands⟩
      · exact .inl nothing
      · exact .inr ⟨captured, _, number, m, repeats, seen.report response, commands⟩
  | _ => exact commanded

end Script

end RmdCanSdk.Bench
