import RmdCanSdk.Protocol

/-!
# Conversions between the public interface and the buses

Public targets and samples are in the joint frame. CAN motors are commanded and
report in the motor frame, which differs by a polarity and a bias; EtherCAT
conversions happen where the process data are packed and parsed.
-/

namespace RmdCanSdk

variable {F : Type} [FloatArith F]

structure MotorTargetStruct (F : Type) where
  pos : F
  vel : F
  tor : F
  kp : F
  kd : F
  enabled : Int

omit [FloatArith F] in
/-- The same target in another floating-point type. -/
def MotorTargetStruct.map {G : Type} (convert : F → G) (target : MotorTargetStruct F) :
    MotorTargetStruct G where
  pos := convert target.pos
  vel := convert target.vel
  tor := convert target.tor
  kp := convert target.kp
  kd := convert target.kd
  enabled := target.enabled

structure MotorActualStruct (F : Type) where
  pos : F
  vel : F
  tor : F
  temp : BitVec 16
  driveTemp : BitVec 16
  voltage : BitVec 16
  statusWord : BitVec 16
  errorCode : BitVec 16

instance : Inhabited (MotorActualStruct F) where
  default := {
    pos := lit 0
    vel := lit 0
    tor := lit 0
    temp := 0
    driveTemp := 0
    voltage := 0
    statusWord := 0xffff
    errorCode := 0 }

def toPublicActual (actual : MotorActual F) (params : MotorParameters F) :
    MotorActualStruct F where
  pos := params.polarity * (actual.pos - params.countBias)
  vel := params.polarity * actual.vel
  tor := params.polarity * actual.tor
  temp := actual.temp
  driveTemp := actual.driveTemp
  voltage := actual.voltage
  statusWord := actual.statusWord
  errorCode := actual.errorCode

omit [FloatArith F] in
def copyPublicActual (actual : MotorActual F) : MotorActualStruct F where
  pos := actual.pos
  vel := actual.vel
  tor := actual.tor
  temp := actual.temp
  driveTemp := actual.driveTemp
  voltage := actual.voltage
  statusWord := actual.statusWord
  errorCode := actual.errorCode

def toCanTarget (target : MotorTargetStruct F) (params : MotorParameters F) : MotorTarget F :=
  let pos := clamp target.pos params.minimumPosition params.maximumPosition
  let tor := clamp target.tor (-params.maximumTorque) params.maximumTorque
  { (default : MotorTarget F) with
    pos := params.polarity * pos + params.countBias
    vel := params.polarity * target.vel
    tor := params.polarity * tor
    kp := target.kp
    kd := target.kd
    enabled := target.enabled }

def toEthercatTarget (target : MotorTargetStruct F) (params : MotorParameters F) (mode : Int)
    (maxCurrent : Int) : MotorTarget F where
  pos := clamp target.pos params.minimumPosition params.maximumPosition
  vel := target.vel
  tor := clamp target.tor (-params.maximumTorque) params.maximumTorque
  kp := target.kp
  kd := target.kd
  mode := mode
  enabled := target.enabled
  maxCurrent := maxCurrent

end RmdCanSdk
