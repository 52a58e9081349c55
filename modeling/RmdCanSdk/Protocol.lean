import RmdCanSdk.Library.Bytes
import RmdCanSdk.Types

/-!
# The MIT command and reply protocol

The fixed-point codes and byte layouts of the CAN frames, and how a reply changes
the sample of a motor. A frame's fields are read back as the motor reads them.
-/

namespace RmdCanSdk

variable {F : Type} [FloatArith F]

def RmdPMin : F := lit (-12.566)
def RmdPMax : F := lit 12.566
def RmdVMin : F := lit (-45)
def RmdVMax : F := lit 45
def RmdKpMin : F := lit 0
def RmdKpMax : F := lit 500
def RmdKdMin : F := lit 0
def RmdKdMax : F := lit 50
def RmdDefaultMaxTorqueNm : F := lit 24

def int16Le (low high : Byte) : Int := (high ++ low : BitVec 16).toInt

def positiveTorqueLimit (maxTorqueNm : F) : F :=
  if isFinite maxTorqueNm ∧ maxTorqueNm > lit 0 then maxTorqueNm
  else RmdDefaultMaxTorqueNm

def standardTxId (motorId : Int) : Int := 0x140 + motorId
def standardRxId (motorId : Int) : Int := 0x240 + motorId
def mitTxId (motorId : Int) : Int := 0x400 + motorId
def mitRxId (motorId : Int) : Int := 0x500 + motorId

def floatToUint (value min max : F) (bits : Nat) : BitVec 16 :=
  let value := clamp value min max
  let span := max - min
  let maxInt : Nat := 2 ^ bits - 1
  BitVec.ofInt 16 (lround ((value - min) * lit maxInt / span))

def uintToFloat (value : BitVec 16) (min max : F) (bits : Nat) : F :=
  let maxInt : Nat := 2 ^ bits - 1
  let value := if value.toNat > maxInt then maxInt else value.toNat
  lit value * (max - min) / lit maxInt + min

def packMit (pDes vDes kpDes kdDes torqueDes maxTorqueNm : F) : Vector Byte 8 :=
  let torqueLimit := positiveTorqueLimit maxTorqueNm
  let p := floatToUint pDes RmdPMin RmdPMax 16
  let v := floatToUint vDes RmdVMin RmdVMax 12
  let kp := floatToUint kpDes RmdKpMin RmdKpMax 12
  let kd := floatToUint kdDes RmdKdMin RmdKdMax 12
  let torque := floatToUint torqueDes (-torqueLimit) torqueLimit 12
  #v[((p >>> 8) &&& 0xff).setWidth 8,
    (p &&& 0xff).setWidth 8,
    ((v >>> 4) &&& 0xff).setWidth 8,
    (((v &&& 0x000f) <<< 4) ||| ((kp >>> 8) &&& 0x000f)).setWidth 8,
    (kp &&& 0xff).setWidth 8,
    ((kd >>> 4) &&& 0xff).setWidth 8,
    (((kd &&& 0x000f) <<< 4) ||| ((torque >>> 8) &&& 0x000f)).setWidth 8,
    (torque &&& 0xff).setWidth 8]

/-- The big-endian fields of a command frame. -/
structure MitFields where
  p : BitVec 16
  v : BitVec 12
  kp : BitVec 12
  kd : BitVec 12
  torque : BitVec 12
  deriving DecidableEq

def mitFields (data : Vector Byte 8) : MitFields where
  p := data[0] ++ data[1]
  v := data[2] ++ data[3].extractLsb' 4 4
  kp := data[3].extractLsb' 0 4 ++ data[4]
  kd := data[5] ++ data[6].extractLsb' 4 4
  torque := data[6].extractLsb' 0 4 ++ data[7]

/-- The big-endian fields of a reply, after the id of the motor. -/
structure MitReplyFields where
  p : BitVec 16
  v : BitVec 12
  torque : BitVec 12
  deriving DecidableEq

def mitReplyFields (data : Vector Byte 8) : MitReplyFields where
  p := data[1] ++ data[2]
  v := data[3] ++ data[4].extractLsb' 4 4
  torque := data[4].extractLsb' 0 4 ++ data[5]

/-- The first byte of a reply names the motor, or the command that is answered. -/
abbrev firstByte (data : Vector Byte 8) : Byte := data[0]

structure MitFeedback (F : Type) where
  valid : Bool
  motorId : Int
  positionRad : F
  velocityRadS : F
  feedbackTorqueNm : F

instance : Inhabited (MitFeedback F) where
  default := {
    valid := false
    motorId := 0
    positionRad := lit 0
    velocityRadS := lit 0
    feedbackTorqueNm := lit 0 }

def parseMitReply (data : Vector Byte 8) (length : Nat) (expectedMotorId : Int)
    (maxTorqueNm : F) : MitFeedback F :=
  if length ≠ 8 then default
  else
    let feedback : MitFeedback F := { (default : MitFeedback F) with motorId := data[0].toNat }
    if expectedMotorId > 0 ∧ feedback.motorId ≠ expectedMotorId then feedback
    else
      let p : BitVec 16 := data[1] ++ data[2]
      let v : BitVec 16 := (data[3].setWidth 16 <<< 4) ||| (data[4] >>> 4).setWidth 16
      let t : BitVec 16 := ((data[4] &&& 0x0f).setWidth 16 <<< 8) ||| data[5].setWidth 16
      let torqueLimit := positiveTorqueLimit maxTorqueNm
      { feedback with
        positionRad := uintToFloat p RmdPMin RmdPMax 16
        velocityRadS := uintToFloat v RmdVMin RmdVMax 12
        feedbackTorqueNm := uintToFloat t (-torqueLimit) torqueLimit 12
        valid := true }

structure Status2Feedback (F : Type) where
  valid : Bool
  temperatureC : Int
  iqA : F
  speedDps : Int
  angleDeg : Int
  angleRad : F
  estimatedTorqueNm : F

instance : Inhabited (Status2Feedback F) where
  default := {
    valid := false
    temperatureC := 0
    iqA := lit 0
    speedDps := 0
    angleDeg := 0
    angleRad := lit 0
    estimatedTorqueNm := lit 0 }

def parseStatus2Reply (data : Vector Byte 8) (length : Nat) (torqueConstantNmPerAmp : F) :
    Status2Feedback F :=
  if length ≠ 8 ∨ data[0] ≠ 0x9C then default
  else
    let iqA := lit (int16Le data[2] data[3]) * lit 0.01
    let angleDeg := int16Le data[6] data[7]
    { temperatureC := data[1].toInt
      iqA := iqA
      speedDps := int16Le data[4] data[5]
      angleDeg := angleDeg
      angleRad := lit angleDeg * Pi / lit 180
      estimatedTorqueNm := iqA * torqueConstantNmPerAmp
      valid := true }

def applyMitFeedback (actual : MotorActual F) (feedback : MitFeedback F) : MotorActual F :=
  if !feedback.valid then actual
  else { actual with
    pos := feedback.positionRad
    vel := feedback.velocityRadS
    statusWord := 0x0237
    errorCode := 0 }

def applyStatus2Feedback (actual : MotorActual F) (feedback : Status2Feedback F) :
    MotorActual F :=
  if !feedback.valid then actual
  else { actual with
    tor := feedback.estimatedTorqueNm
    temp := BitVec.ofInt 16 feedback.temperatureC }

/-! ## Limits and stale marks

The limits every CAN command passes through, and the marks put on samples that could not be
refreshed. -/

def ErrorCodeFeedbackTimeout : Nat := 1
def ErrorCodeBackendFault : Nat := 2

structure LimitedTarget (F : Type) where
  target : MotorTarget F
  clamped : Bool

/-- The clamped value, and whether it or an earlier value was changed. -/
def clampAndTrack (value min max : F) (clamped : Bool) : F × Bool :=
  let out := clamp value min max
  (out, if out != value then true else clamped)

def limitTarget (target : MotorTarget F) (params : MotorParameters F) : LimitedTarget F :=
  let (pos, clamped) :=
    clampAndTrack target.pos params.minimumPosition params.maximumPosition false
  let (tor, clamped) :=
    clampAndTrack target.tor (-params.maximumTorque) params.maximumTorque clamped
  let (kp, clamped) := clampAndTrack target.kp RmdKpMin RmdKpMax clamped
  let (kd, clamped) := clampAndTrack target.kd RmdKdMin RmdKdMax clamped
  { target := { target with pos := pos, tor := tor, kp := kp, kd := kd }
    clamped := clamped }

def markActualStale (actual : MotorActual F) : MotorActual F := { actual with
  statusWord := 0xffff
  errorCode := BitVec.ofNat 16 ErrorCodeFeedbackTimeout }

/-- Limiting clamps position, torque and gains, and nothing else. -/
@[simp] theorem limitTarget_target (target : MotorTarget F) (params : MotorParameters F) :
    (limitTarget target params).target = { target with
      pos := clamp target.pos params.minimumPosition params.maximumPosition
      tor := clamp target.tor (-params.maximumTorque) params.maximumTorque
      kp := clamp target.kp RmdKpMin RmdKpMax
      kd := clamp target.kd RmdKdMin RmdKdMax } := rfl

end RmdCanSdk
