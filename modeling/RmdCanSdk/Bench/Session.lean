import RmdCanSdk.Bench.Workflow
import RmdCanSdk.Library.Program

/-!
# Sessions on the bench

A program that holds or moves motors waits for feedback, enables the motors where they are,
ramps them to their final positions, and disables them. It can be asked to stop at any time.
-/

namespace RmdCanSdk.Bench

variable {F : Type} [FloatArith F] {count : Nat}

/-- The calls of the driver, of the clock, and the reading of the flag that signals set. -/
inductive Call (F : Type) (count : Nat) where
  | stopRequested
  | sleepFor (ms : Nat)
  | now
  | sleepUntil (time : Time)
  | getMotorActual
  | setMotorTarget (targets : Vector (MotorTargetStruct F) count)

/-- What `getMotorActual` returns, with the samples that it leaves. -/
abbrev Report (F : Type) (count : Nat) := Int × Vector (MotorActualStruct F) count

abbrev Command (F : Type) (count : Nat) := Vector (MotorTargetStruct F) count

abbrev Response : Call F count → Type
  | .stopRequested => Bool
  | .now => Time
  | .getMotorActual => Report F count
  | .setMotorTarget _ => Int
  | _ => Unit

abbrev ask (call : Call F count) : Program (Call F count) Response (Response call) :=
  Program.perform call

/-! ## Disabling -/

def disabled (targets : Command F count) : Command F count :=
  targets.map fun target => { target with
    enabled := 0
    vel := lit 0
    tor := lit 0 }

/-- The loop of `disableMotors`. -/
def repeatTargets (targets : Command F count) (sleepMs : Nat) :
    Nat → Program (Call F count) Response Unit
  | 0 => return ()
  | repeats + 1 => do
      let _ ← ask (.setMotorTarget targets)
      ask (.sleepFor sleepMs)
      repeatTargets targets sleepMs repeats

def disableMotors (targets : Command F count) (repeatCount periodMs : Nat) :
    Program (Call F count) Response Unit :=
  repeatTargets (disabled targets) (max 1 periodMs) (max 1 repeatCount)

/-! ## Sessions -/

/-- How the iterations of the last loop are spaced. -/
inductive Pacing where
  | sleepFor
  | sleepUntil

def Pacing.start : Pacing → Program (Call F count) Response Time
  | .sleepFor => return 0
  | .sleepUntil => ask .now

/-- The end of an iteration, with the next wakeup. -/
def Pacing.wait (periodMs : Nat) (nextWake : Time) :
    Pacing → Program (Call F count) Response Time
  | .sleepFor => do
      ask (.sleepFor periodMs)
      return nextWake
  | .sleepUntil => do
      let nextWake := nextWake + 1000000 * periodMs
      let beforeSleep ← ask .now
      Program.when (beforeSleep < nextWake) (ask (.sleepUntil nextWake))
      return nextWake

/-- The numeric arguments of a program that it has accepted. -/
structure Arguments where
  holdMs : Nat
  settleSamples : Nat
  periodMs : Nat
  rampMs : Nat
  holds : 0 < holdMs
  settles : 0 < settleSamples
  repeats : 0 < periodMs

/-- A program with its numeric arguments. The driver is initialised, with the active motors. -/
structure Setup (count : Nat) extends Arguments where
  activeMotors : List (Fin count)

/-- Where the motors are, and the targets that enable them there. -/
structure Start (F : Type) (count : Nat) where
  startPositions : Vector F count
  targets : Command F count

namespace Setup

variable (setup : Setup count)

def ready (report : Report F count) : Bool :=
  feedbackReady (setup.activeMotors.map Fin.val) report.2.toList report.1

def operational (report : Report F count) : Bool :=
  operationFeedbackReady (setup.activeMotors.map Fin.val) report.2.toList report.1

/-- The loop that waits for feedback, with the samples that are left, the samples of the last
report and the number of consecutive reports that are ready. -/
def settle : Nat → Vector (MotorActualStruct F) count → Nat →
    Program (Call F count) Response (Nat × Vector (MotorActualStruct F) count)
  | 0, actuals, consecutiveReady => return (consecutiveReady, actuals)
  | left + 1, actuals, consecutiveReady => do
      if ← ask .stopRequested then return (consecutiveReady, actuals)
      else
        ask (.sleepFor 20)
        let report ← ask .getMotorActual
        let (readyWindowFull, consecutiveReady) :=
          recordConsecutiveReady (setup.ready report) consecutiveReady 10
        if readyWindowFull then return (consecutiveReady, report.2)
        else settle left report.2 consecutiveReady

/-- The loop over the active motors before they are enabled. -/
def startMotor (actuals : Vector (MotorActualStruct F) count) (start : Start F count)
    (active : Fin count) : Start F count where
  startPositions := start.startPositions.set active (actuals.get active).pos active.isLt
  targets :=
    let target := {
      pos := (actuals.get active).pos
      vel := lit 0
      tor := lit 0
      kp := lit 0
      kd := lit 0
      enabled := 1 }
    start.targets.set active target active.isLt

def start (actuals : Vector (MotorActualStruct F) count) : Start F count :=
  setup.activeMotors.foldl (startMotor actuals) {
    startPositions := .replicate count (lit 0)
    targets := .replicate count {
      pos := lit 0
      vel := lit 0
      tor := lit 0
      kp := lit 0
      kd := lit 0
      enabled := 0 } }

/-- The loop that waits for the motors to be enabled, with the number of consecutive reports
that they are. It has no result if a target is refused. -/
def enable (targets : Command F count) : Nat → Nat →
    Program (Call F count) Response (Option Nat)
  | 0, consecutiveOperationEnabled => return some consecutiveOperationEnabled
  | left + 1, consecutiveOperationEnabled => do
      if ← ask .stopRequested then return some consecutiveOperationEnabled
      else if (← ask (.setMotorTarget targets)) ≠ 0 then return none
      else
        ask (.sleepFor setup.periodMs)
        let report ← ask .getMotorActual
        let consecutiveOperationEnabled :=
          if setup.operational report then consecutiveOperationEnabled + 1 else 0
        if 10 ≤ consecutiveOperationEnabled then return some consecutiveOperationEnabled
        else enable targets left consecutiveOperationEnabled

/-- A program up to the last samples before it enables motors, with its exit code. -/
def whenReady (next : Vector (MotorActualStruct F) count → Program (Call F count) Response Int) :
    Program (Call F count) Response Int := do
  let (consecutiveReady, actuals) ←
    setup.settle setup.settleSamples (.replicate count default) 0
  if ← ask .stopRequested then return 130
  else if consecutiveReady < 10 then return 1
  else next actuals

/-- A program from the first command that enables motors up to the last one, with its exit
code. -/
def whenEnabled (targets : Command F count) (next : Program (Call F count) Response Int) :
    Program (Call F count) Response Int := do
  match ← setup.enable targets setup.settleSamples 0 with
  | none =>
      disableMotors targets 50 5
      return 1
  | some consecutiveOperationEnabled =>
      if ← ask .stopRequested then
        disableMotors targets 50 5
        return 130
      else if consecutiveOperationEnabled < 10 then
        disableMotors targets 50 5
        return 1
      else next

/-- The number of consecutive samples without the motors enabled, after an iteration. -/
def monitor (monitored : Bool) (consecutiveMissedFeedback : Nat) :
    Program (Call F count) Response Nat :=
  if monitored then do
    let report ← ask .getMotorActual
    return if setup.operational report then 0 else consecutiveMissedFeedback + 1
  else return consecutiveMissedFeedback

end Setup

/-- A session of a program that moves each motor to one final position. -/
structure Session (F : Type) (count : Nat) extends Setup count where
  /-- The final position of a motor, by its position before it was enabled. -/
  finalPosition : Fin count → F → F
  /-- As many consecutive samples without the motors enabled end the session. -/
  missedLimit : Nat
  pacing : Pacing
  limited : 0 < missedLimit

/-- The vectors of a session before it enables motors. -/
structure Motion (F : Type) (count : Nat) extends Start F count where
  finalPositions : Vector F count

namespace Session

variable (session : Session F count)

def capture (actuals : Vector (MotorActualStruct F) count) : Motion F count where
  toStart := session.start actuals
  finalPositions := session.activeMotors.foldl (fun finalPositions (active : Fin count) =>
    finalPositions.set active (session.finalPosition active (actuals.get active).pos)
      active.isLt) (.replicate count (lit 0))

/-- How far the ramp has come in an iteration. -/
def progress (i : Nat) : F :=
  smoothRampProgressForElapsed (lit i * lit session.periodMs) (lit session.rampMs)

/-- The target of a motor on the ramp. -/
def moved (motion : Motion F count) (progress : F) (active : Fin count)
    (target : MotorTargetStruct F) : MotorTargetStruct F := {
  target with
  pos := motion.startPositions.get active +
    (motion.finalPositions.get active - motion.startPositions.get active) * progress }

/-- The loop over the active motors that moves their targets. -/
def move (motion : Motion F count) (progress : F) (targets : Command F count) :
    Command F count :=
  session.activeMotors.foldl (fun targets (active : Fin count) =>
    targets.set active (moved motion progress active (targets.get active)) active.isLt) targets

def iterations : Nat := max 1 (session.holdMs / session.periodMs)

/-- Whether the feedback is looked at in an iteration. -/
def monitored (i : Nat) : Bool :=
  i % max 1 (100 / session.periodMs) = 0 || i + 1 = session.iterations

/-- The loop that moves and holds the motors, with the iterations that are left, and whether it
has come to its end. -/
def hold (motion : Motion F count) : Nat → Nat → Nat → Time → Command F count →
    Program (Call F count) Response (Bool × Command F count)
  | 0, _, _, _, targets => return (true, targets)
  | left + 1, i, consecutiveMissedFeedback, nextWake, targets => do
      if ← ask .stopRequested then return (true, targets)
      else
        let targets := session.move motion (session.progress i) targets
        if (← ask (.setMotorTarget targets)) ≠ 0 then return (false, targets)
        else
          let consecutiveMissedFeedback ← session.monitor (session.monitored i) consecutiveMissedFeedback
          if session.missedLimit ≤ consecutiveMissedFeedback then return (false, targets)
          else
            let nextWake ← session.pacing.wait session.periodMs nextWake
            hold motion left (i + 1) consecutiveMissedFeedback nextWake targets

/-- The session after the motors are enabled. -/
def moveAndDisable (motion : Motion F count) : Program (Call F count) Response Int := do
  let nextWake ← session.pacing.start
  let (finished, targets) ←
    session.hold motion session.iterations 0 0 nextWake motion.targets
  if finished then
    let _ ← ask .stopRequested
    disableMotors targets 50 5
    return 0
  else
    disableMotors targets 50 5
    return 1

/-- The whole session, with the exit code of the program. -/
def program : Program (Call F count) Response Int :=
  session.whenReady fun actuals =>
    session.whenEnabled (session.capture actuals).targets
      (session.moveAndDisable (session.capture actuals))

end Session

end RmdCanSdk.Bench
