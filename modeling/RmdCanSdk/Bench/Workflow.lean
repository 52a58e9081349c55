import RmdCanSdk.Driver.Conversions
import RmdCanSdk.Registry

/-!
# The bench workflow

What the programs that move motors on the bench share: which feedback they rely on, and how
they ramp positions. Single and double precision are one floating-point type here.
-/

namespace RmdCanSdk

variable {F : Type} [FloatArith F]

def findParamsForAlias (config : Config F) («alias» : Int) : Option (MotorParameters F) :=
  (config.motors.motors.find? fun motor => motor.alias = «alias»).map MotorConfig.parameters

def operationEnabled (statusWord : BitVec 16) : Bool := statusWord &&& 0x007f = 0x0037

/-- The loop of both checks of the feedback over the active motors. -/
def everyActive (accepts : MotorActualStruct F → Bool) (activeMotors : List Nat)
    (actuals : List (MotorActualStruct F)) (status : Int) : Bool :=
  status = 0 && activeMotors.all fun active =>
    match actuals[active]? with
    | none => false
    | some actual => accepts actual

def feedbackReady (activeMotors : List Nat) (actuals : List (MotorActualStruct F))
    (status : Int) : Bool :=
  everyActive (fun actual => !(actual.statusWord = 0xffff || actual.errorCode ≠ 0))
    activeMotors actuals status

def operationFeedbackReady (activeMotors : List Nat) (actuals : List (MotorActualStruct F))
    (status : Int) : Bool :=
  everyActive (fun actual => !(actual.statusWord = 0xffff || actual.errorCode ≠ 0 ||
    !operationEnabled actual.statusWord)) activeMotors actuals status

/-- Whether there are enough consecutive samples, and how many there are. -/
def recordConsecutiveReady (ready : Bool) (consecutiveReady requiredReadySamples : Nat) :
    Bool × Nat :=
  if ready then (decide (requiredReadySamples ≤ consecutiveReady + 1), consecutiveReady + 1)
  else (false, 0)

def smoothRampProgress (linearProgress : F) : F :=
  let t := clamp linearProgress (lit 0) (lit 1)
  t * t * t * (lit 10 + t * (lit (-15) + lit 6 * t))

def smoothRampProgressForElapsed (elapsedMs rampMs : F) : F :=
  if rampMs < lit 0 ∨ rampMs == lit 0 then lit 1
  else smoothRampProgress (elapsedMs / rampMs)

end RmdCanSdk
