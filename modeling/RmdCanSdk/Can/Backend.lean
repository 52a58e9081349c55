import RmdCanSdk.FeedbackTracker
import RmdCanSdk.Library.LatestValue
import RmdCanSdk.Registry
import RmdCanSdk.Protocol

/-!
# The CAN backend

The receive loop, as a step over what the socket returned, and one cycle of the
transmit loop. Several motors of a group may react to the same frame, so a received
frame is offered to each motor in turn.
-/

namespace RmdCanSdk

variable {F : Type} [FloatArith F]

/-- The motors of one CAN bus. A registry creates a group with its first motor and
gives each motor its own index; the backend's constructor sets a valid bit for each
of them and throws at the first index beyond the frame. -/
structure CanGroup (F : Type) where
  motors : List (RuntimeMotor F)
  nonempty : motors ≠ []
  distinct : (motors.map RuntimeMotor.globalIndex).Nodup
  inBounds : ∀ motor ∈ motors, motor.globalIndex < MaxRealtimeMotors

omit [FloatArith F] in
/-- Motors of a group with the same index are the same motor. -/
theorem CanGroup.eq_of_globalIndex (group : CanGroup F) {left right : RuntimeMotor F}
    (leftIn : left ∈ group.motors) (rightIn : right ∈ group.motors)
    (same : left.globalIndex = right.globalIndex) : left = right :=
  List.inj_on_of_nodup_map group.distinct leftIn rightIn same

structure CanFrame where
  id : Int
  length : Nat
  data : Vector Byte 8
  deriving DecidableEq

/-- What one call of `receive` delivered, nothing when the 50 ms passed without a
frame or the socket failed, and the clock read while it is processed. -/
structure RxEvent where
  frame : Option CanFrame
  now : Time

/-- The value `receive` returns. -/
def RxEvent.received (event : RxEvent) : Int :=
  match event.frame with
  | none => 0
  | some frame => frame.length

structure RmdCanBackend (F : Type) where
  status : BackendStatus
  mitFrame : FeedbackFrameTracker
  workingActuals : MotorActualFrame F
  actualBuffer : LatestValue (MotorActualFrame F)

namespace RmdCanBackend

/-- The backend as its constructor leaves it. -/
def construct (group : CanGroup F) (totalMotorCount : Nat)
    (actualBuffer : LatestValue (MotorActualFrame F)) : RmdCanBackend F where
  status := default
  mitFrame := FeedbackFrameTracker.setExpectedFromSlaveIds (group.motors.map RuntimeMotor.slaveId)
  workingActuals := { (default : MotorActualFrame F) with
    motorCount := totalMotorCount
    valid := fun index => decide (index ∈ group.motors.map RuntimeMotor.globalIndex) }
  actualBuffer := actualBuffer

/-- The backend as `init` starts it, with the initial frame in its actual buffer. -/
def started (group : CanGroup F) (totalMotorCount : Nat) : RmdCanBackend F :=
  construct group totalMotorCount (LatestValue.start (initialActuals group.motors totalMotorCount))

def publishActuals (backend : RmdCanBackend F) (now : Time) : RmdCanBackend F :=
  let workingActuals := { backend.workingActuals with
    sequence := backend.workingActuals.sequence + 1
    timestamp := now }
  { backend with
    workingActuals := workingActuals
    actualBuffer := backend.actualBuffer.publish workingActuals }

/-- Stale marks for one motor of the group, unless it has replied. -/
def markMissing (mitFrame : FeedbackFrameTracker) (actuals : MotorActualFrame F)
    (motor : RuntimeMotor F) : MotorActualFrame F :=
  if mitFrame.isReceived motor.slaveId then actuals
  else actuals.setEntry motor.globalIndex {
    actual := markActualStale (actuals.actuals motor.globalIndex)
    valid := actuals.valid motor.globalIndex
    stale := true }

def markMissingStale (group : CanGroup F) (backend : RmdCanBackend F) : RmdCanBackend F :=
  let marked := group.motors.any fun motor => !backend.mitFrame.isReceived motor.slaveId
  { backend with
    workingActuals := group.motors.foldl (markMissing backend.mitFrame) backend.workingActuals
    status := if marked then backend.status.recordStaleFrame else backend.status }

def receiveTimeout (group : CanGroup F) (backend : RmdCanBackend F) (now : Time) :
    RmdCanBackend F :=
  let backend := { backend with
    status := backend.status.recordRxTimeout.setFault ErrorCodeFeedbackTimeout }
  let backend := backend.markMissingStale group
  let backend := backend.publishActuals now
  { backend with mitFrame := backend.mitFrame.reset }

/-- Take over a valid MIT reply, and publish when it completes the frame. -/
def acceptReply (backend : RmdCanBackend F) (motor : RuntimeMotor F) (feedback : MitFeedback F)
    (now : Time) : RmdCanBackend F :=
  let (complete, mitFrame) := backend.mitFrame.markReceived motor.slaveId now
  let actual := backend.workingActuals.actuals motor.globalIndex
  let backend := { backend with
    workingActuals := backend.workingActuals.setEntry motor.globalIndex {
      actual := applyMitFeedback actual feedback
      valid := true
      stale := false }
    mitFrame := mitFrame }
  if complete then backend.publishActuals now else backend

/-- A motor's part of the loop over a received frame. -/
def receiveFor (frame : CanFrame) (now : Time) (backend : RmdCanBackend F)
    (motor : RuntimeMotor F) : RmdCanBackend F :=
  if frame.id = mitRxId motor.motorId then
    let feedback :=
      parseMitReply frame.data frame.length motor.motorId motor.parameters.maximumTorque
    if feedback.valid then backend.acceptReply motor feedback now else backend
  else if frame.id = standardRxId motor.motorId then
    let feedback :=
      parseStatus2Reply frame.data frame.length motor.parameters.torqueConstant
    if feedback.valid then { backend with
      workingActuals := backend.workingActuals.setEntry motor.globalIndex {
        actual := applyStatus2Feedback
          (backend.workingActuals.actuals motor.globalIndex) feedback
        valid := backend.workingActuals.valid motor.globalIndex
        stale := backend.workingActuals.stale motor.globalIndex } }
    else backend
  else backend

/-- One iteration of the receive loop. A frame without data makes `receive` return
zero, which the loop takes for a timeout. -/
def rxStep (group : CanGroup F) (backend : RmdCanBackend F) (event : RxEvent) :
    RmdCanBackend F :=
  if event.received ≤ 0 then backend.receiveTimeout group event.now
  else
    match event.frame with
    | none => backend
    | some frame => group.motors.foldl (receiveFor frame event.now) backend

/-- The receive loop on the results of successive calls of `receive`. -/
def rxLoop (group : CanGroup F) (backend : RmdCanBackend F) (events : List RxEvent) :
    RmdCanBackend F :=
  events.foldl (rxStep group) backend

theorem rxLoop_append (group : CanGroup F) (backend : RmdCanBackend F)
    (front back : List RxEvent) :
    backend.rxLoop group (front ++ back) = (backend.rxLoop group front).rxLoop group back :=
  List.foldl_append

@[simp] theorem rxLoop_singleton (group : CanGroup F) (backend : RmdCanBackend F)
    (event : RxEvent) : backend.rxLoop group [event] = backend.rxStep group event := rfl

end RmdCanBackend

/-! ## Transmit loop -/

/-- The target of one motor as the transmit loop hands it to `packMit`. -/
def transmittedTarget (motor : RuntimeMotor F) (target : MotorTarget F) : MotorTarget F :=
  let target := if target.enabled ≠ 1 then default else target
  (limitTarget target motor.parameters).target

def mitCommand (motor : RuntimeMotor F) (target : MotorTarget F) : Vector Byte 8 :=
  let target := transmittedTarget motor target
  packMit target.pos target.vel target.kp target.kd target.tor motor.parameters.maximumTorque

/-- The status request. -/
def status2 : Vector Byte 8 := #v[0x9C, 0, 0, 0, 0, 0, 0, 0]

/-- The frames handed to the socket in the cycle numbered `tick`: a command for each
motor, and every twentieth cycle a status request for each motor. -/
def txCycle (group : CanGroup F) (targets : MotorTargetFrame F) (tick : Nat) :
    List (Int × Vector Byte 8) :=
  (group.motors.map fun motor =>
    (mitTxId motor.motorId, mitCommand motor (targets.targets motor.globalIndex))) ++
  if tick % 20 = 0 then
    group.motors.map fun motor => (standardTxId motor.motorId, status2)
  else []

/-! ## A bus with two motors -/

/-- A CAN motor whose ids are its alias. -/
def canMotor (number : Nat) (parameters : MotorParameters F) : RuntimeMotor F where
  «alias» := number
  globalIndex := number - 1
  backendIndex := 0
  backendLocalIndex := number - 1
  bus := .can
  master := 0
  motorId := number
  slaveId := number
  ethercatSlave := 0
  domain := 0
  type := "RMD"
  parameters := parameters

def twoMotors (parameters : MotorParameters F) : CanGroup F where
  motors := [canMotor 1 parameters, canMotor 2 parameters]
  nonempty := List.cons_ne_nil _ _
  distinct := by simp [canMotor]
  inBounds := by simp [canMotor, MaxRealtimeMotors]

end RmdCanSdk
