import RmdCanSdk.Library.Bytes
import RmdCanSdk.RealtimeCore
import RmdCanSdk.Protocol

/-!
# EtherCAT process data

The packed structures exchanged with an MT_Device drive, the conversions between
joint units and drive units, and the packed targets that `setMotorTarget` prepares
for the realtime loop together with the watchdog on their age.
-/

namespace RmdCanSdk

variable {F : Type} [FloatArith F]

inductive EthercatMtDeviceRxProfile where
  | standard
  | pvt
  deriving DecidableEq

inductive EthercatMtDeviceTxProfile where
  | standard
  | extended
  deriving DecidableEq

def ethercatMtDeviceRxProfileForMode (mode : Int) : EthercatMtDeviceRxProfile :=
  if mode = 5 then .pvt else .standard

/-! ## Packed structures -/

structure HeimaStandardRxData where
  controlWord : BitVec 16
  targetPosition : BitVec 32
  targetVelocity : BitVec 32
  targetTorque : BitVec 16
  maxTorque : BitVec 16
  mode : BitVec 8
  undefined : BitVec 8
  deriving DecidableEq

structure HeimaPvtRxData where
  controlWord : BitVec 16
  targetPosition : BitVec 32
  targetVelocity : BitVec 32
  targetTorque : BitVec 16
  pvtKp : BitVec 32
  pvtKd : BitVec 32
  mode : BitVec 8
  undefined : BitVec 8
  deriving DecidableEq

structure HeimaStandardTxData where
  statusWord : BitVec 16
  actualPosition : BitVec 32
  actualVelocity : BitVec 32
  actualTorque : BitVec 16
  errorCode : BitVec 16
  modeDisplay : BitVec 8
  undefined : BitVec 8
  deriving DecidableEq

structure HeimaDriverTxData where
  statusWord : BitVec 16
  actualPosition : BitVec 32
  actualVelocity : BitVec 32
  actualTorque : BitVec 16
  errorCode : BitVec 16
  motorTemperature : BitVec 16
  driveTemperature : BitVec 16
  voltage : BitVec 16
  modeDisplay : BitVec 8
  undefined : BitVec 8
  deriving DecidableEq

def ethercatMtDeviceRxPdoSize : EthercatMtDeviceRxProfile → Nat
  | .standard => 16
  | .pvt => 22

def ethercatMtDeviceTxPdoSize : EthercatMtDeviceTxProfile → Nat
  | .standard => 16
  | .extended => 22

namespace HeimaStandardRxData

def toBytes (rx : HeimaStandardRxData) : Bytes := Bytes.ofList <|
  Bytes.le16 rx.controlWord ++ Bytes.le32 rx.targetPosition ++ Bytes.le32 rx.targetVelocity ++
    Bytes.le16 rx.targetTorque ++ Bytes.le16 rx.maxTorque ++ Bytes.le8 rx.mode ++
    Bytes.le8 rx.undefined

def ofBytes (data : Bytes) (offset : Nat) : HeimaStandardRxData where
  controlWord := data.read16 offset
  targetPosition := data.read32 (offset + 2)
  targetVelocity := data.read32 (offset + 6)
  targetTorque := data.read16 (offset + 10)
  maxTorque := data.read16 (offset + 12)
  mode := data.read8 (offset + 14)
  undefined := data.read8 (offset + 15)

@[simp] theorem ofBytes_toBytes (rx : HeimaStandardRxData) : ofBytes rx.toBytes 0 = rx := by
  cases rx
  simp only [ofBytes, mk.injEq]
  exact ⟨Bytes.join16 _, Bytes.join32 _, Bytes.join32 _, Bytes.join16 _, Bytes.join16 _,
    rfl, rfl⟩

end HeimaStandardRxData

namespace HeimaPvtRxData

def toBytes (rx : HeimaPvtRxData) : Bytes := Bytes.ofList <|
  Bytes.le16 rx.controlWord ++ Bytes.le32 rx.targetPosition ++ Bytes.le32 rx.targetVelocity ++
    Bytes.le16 rx.targetTorque ++ Bytes.le32 rx.pvtKp ++ Bytes.le32 rx.pvtKd ++
    Bytes.le8 rx.mode ++ Bytes.le8 rx.undefined

def ofBytes (data : Bytes) (offset : Nat) : HeimaPvtRxData where
  controlWord := data.read16 offset
  targetPosition := data.read32 (offset + 2)
  targetVelocity := data.read32 (offset + 6)
  targetTorque := data.read16 (offset + 10)
  pvtKp := data.read32 (offset + 12)
  pvtKd := data.read32 (offset + 16)
  mode := data.read8 (offset + 20)
  undefined := data.read8 (offset + 21)

@[simp] theorem ofBytes_toBytes (rx : HeimaPvtRxData) : ofBytes rx.toBytes 0 = rx := by
  cases rx
  simp only [ofBytes, mk.injEq]
  exact ⟨Bytes.join16 _, Bytes.join32 _, Bytes.join32 _, Bytes.join16 _, Bytes.join32 _,
    Bytes.join32 _, rfl, rfl⟩

end HeimaPvtRxData

def HeimaStandardTxData.ofBytes (data : Bytes) (offset : Nat) : HeimaStandardTxData where
  statusWord := data.read16 offset
  actualPosition := data.read32 (offset + 2)
  actualVelocity := data.read32 (offset + 6)
  actualTorque := data.read16 (offset + 10)
  errorCode := data.read16 (offset + 12)
  modeDisplay := data.read8 (offset + 14)
  undefined := data.read8 (offset + 15)

def HeimaDriverTxData.ofBytes (data : Bytes) (offset : Nat) : HeimaDriverTxData where
  statusWord := data.read16 offset
  actualPosition := data.read32 (offset + 2)
  actualVelocity := data.read32 (offset + 6)
  actualTorque := data.read16 (offset + 10)
  errorCode := data.read16 (offset + 12)
  motorTemperature := data.read16 (offset + 14)
  driveTemperature := data.read16 (offset + 16)
  voltage := data.read16 (offset + 18)
  modeDisplay := data.read8 (offset + 20)
  undefined := data.read8 (offset + 21)

/-- A TxPDO is read from its own bytes only. -/
theorem HeimaStandardTxData.ofBytes_congr {left right : Bytes} {offset : Nat}
    (agree : left.AgreeOn right offset (ethercatMtDeviceTxPdoSize .standard)) :
    ofBytes left offset = ofBytes right offset := by
  simp only [ofBytes, mk.injEq]
  exact ⟨agree.read16 0 (by decide), agree.read32 2 (by decide), agree.read32 6 (by decide),
    agree.read16 10 (by decide), agree.read16 12 (by decide), agree.read8 14 (by decide),
    agree.read8 15 (by decide)⟩

theorem HeimaDriverTxData.ofBytes_congr {left right : Bytes} {offset : Nat}
    (agree : left.AgreeOn right offset (ethercatMtDeviceTxPdoSize .extended)) :
    ofBytes left offset = ofBytes right offset := by
  simp only [ofBytes, mk.injEq]
  exact ⟨agree.read16 0 (by decide), agree.read32 2 (by decide), agree.read32 6 (by decide),
    agree.read16 10 (by decide), agree.read16 12 (by decide), agree.read16 14 (by decide),
    agree.read16 16 (by decide), agree.read16 18 (by decide), agree.read8 20 (by decide),
    agree.read8 21 (by decide)⟩

/-! ## Units -/

def radToCounts (rad : F) (params : MotorParameters F) : BitVec 32 :=
  let revolutions := rad / (lit 2 * Pi)
  BitVec.ofInt 32 (lround
    (params.polarity * revolutions * params.encoderResolution + params.countBias))

def radDeltaToCounts (rad : F) (params : MotorParameters F) : BitVec 32 :=
  let revolutions := rad / (lit 2 * Pi)
  BitVec.ofInt 32 (lround (params.polarity * revolutions * params.encoderResolution))

def countsToRad (counts : BitVec 32) (params : MotorParameters F) : F :=
  if params.encoderResolution == lit 0 then lit 0
  else params.polarity * (lit counts.toInt - params.countBias) / params.encoderResolution *
    lit 2 * Pi

def countDeltaToRad (counts : BitVec 32) (params : MotorParameters F) : F :=
  if params.encoderResolution == lit 0 then lit 0
  else params.polarity * lit counts.toInt / params.encoderResolution * lit 2 * Pi

def torqueToRaw (torque : F) (params : MotorParameters F) : BitVec 16 :=
  let scale := params.torqueConstant * params.ratedCurrent
  if scale == lit 0 then 0
  else toInt16 (params.polarity * lit 1000 * torque / scale)

def torqueToRawLimited (torque : F) (params : MotorParameters F) (maxCurrent : Int) :
    BitVec 16 :=
  let scale := params.torqueConstant * params.ratedCurrent
  if scale == lit 0 then 0
  else
    let raw := (BitVec.ofInt 32 (lround (params.polarity * lit 1000 * torque / scale))).toInt
    let limit := if maxCurrent < 0 then 0 else maxCurrent
    BitVec.ofInt 16 (if raw > limit then limit else if raw < -limit then -limit else raw)

def rawToTorque (raw : BitVec 16) (params : MotorParameters F) : F :=
  params.polarity * lit raw.toInt / lit 1000 * params.ratedCurrent * params.torqueConstant

def clampPosition (value : F) (params : MotorParameters F) : F :=
  clamp value params.minimumPosition params.maximumPosition

def clampTorque (value : F) (params : MotorParameters F) : F :=
  clamp value (-params.maximumTorque) params.maximumTorque

/-! ## Targets -/

def ethercatMtDeviceControlWord (enabled : Int) (statusWord : BitVec 16) : BitVec 16 :=
  if enabled = -1 then 0x0086
  else if enabled ≠ 1 then 0x0006
  else if statusWord &&& 0x007f = 0x0031 then 0x0007
  else if statusWord &&& 0x007f = 0x0033 ∨ statusWord &&& 0x007f = 0x0037 then 0x000f
  else 0x0006

/-- The TargetTorque word of a target, the same in both layouts. -/
def targetTorque (target : MotorTarget F) (params : MotorParameters F) : BitVec 16 :=
  if target.mode = 8 then 0
  else if target.mode = 10 then
    torqueToRawLimited (clampTorque target.tor params) params target.maxCurrent
  else torqueToRaw (clampTorque target.tor params) params

def packEthercatStandardRxPdo (target : MotorTarget F) (params : MotorParameters F) :
    HeimaStandardRxData where
  controlWord := if target.enabled = 1 then 0x000f else 0x0006
  targetPosition := radToCounts (clampPosition target.pos params) params
  targetVelocity := radDeltaToCounts target.vel params
  mode := BitVec.ofInt 8 target.mode
  maxTorque := BitVec.ofInt 16 (if target.maxCurrent < 0 then 0 else target.maxCurrent)
  targetTorque := targetTorque target params
  undefined := 0

/-- A gain in thousandths, in the one mode that uses it. -/
def pvtGain (target : MotorTarget F) (gain : F) : BitVec 32 :=
  if target.mode = 5 then BitVec.ofInt 32 (lround (gain * lit 1000)) else 0

def packEthercatPvtRxPdo (target : MotorTarget F) (params : MotorParameters F) :
    HeimaPvtRxData where
  controlWord := if target.enabled = 1 then 0x000f else 0x0006
  targetPosition := radToCounts (clampPosition target.pos params) params
  targetVelocity := radDeltaToCounts target.vel params
  mode := BitVec.ofInt 8 target.mode
  targetTorque := targetTorque target params
  pvtKp := pvtGain target target.kp
  pvtKd := pvtGain target target.kd
  undefined := 0

structure EthercatPackedTarget where
  enabled : Int
  rxProfile : EthercatMtDeviceRxProfile
  rxBytes : Bytes

instance : Inhabited EthercatPackedTarget where
  default := { enabled := 0, rxProfile := .standard, rxBytes := fun _ => 0 }

structure EthercatPackedTargetFrame extends FrameMetadata where
  targets : Nat → EthercatPackedTarget
  valid : Nat → Bool

instance : Inhabited EthercatPackedTargetFrame where
  default := {
    toFrameMetadata := default
    targets := fun _ => default
    valid := fun _ => false }

def packEthercatTargetForRealtime (target : MotorTarget F) (params : MotorParameters F)
    (rxProfile : EthercatMtDeviceRxProfile) : EthercatPackedTarget where
  enabled := target.enabled
  rxProfile := rxProfile
  rxBytes :=
    match rxProfile with
    | .standard => Bytes.memcpy (fun _ => 0) 0 (packEthercatStandardRxPdo target params).toBytes
        (ethercatMtDeviceRxPdoSize .standard)
    | .pvt => Bytes.memcpy (fun _ => 0) 0 (packEthercatPvtRxPdo target params).toBytes
        (ethercatMtDeviceRxPdoSize .pvt)

/-- Disable the valid targets of a frame that has become too old, and count them.
The result replaces the loop's copy of the frame. -/
def applyEthercatCommandWatchdog (frame : EthercatPackedTargetFrame) (now timeout : Time) :
    EthercatPackedTargetFrame × Nat :=
  if timeout ≤ 0 ∨ frame.timestamp = 0 then (frame, 0)
  else if now - frame.timestamp < timeout then (frame, 0)
  else
    let clears := fun index => frame.valid index && (frame.targets index).enabled ≠ 0
    ({ frame with
      targets := fun index =>
        if index < MaxRealtimeMotors ∧ clears index then
          { frame.targets index with enabled := 0 }
        else frame.targets index },
      (List.range MaxRealtimeMotors).countP clears)

/-! ## Feedback -/

def parseEthercatStandardTxPdo (tx : HeimaStandardTxData) (params : MotorParameters F) :
    MotorActual F :=
  { (default : MotorActual F) with
    encoderCount := tx.actualPosition
    pos := countsToRad tx.actualPosition params
    vel := countDeltaToRad tx.actualVelocity params
    tor := rawToTorque tx.actualTorque params
    statusWord := tx.statusWord
    errorCode := tx.errorCode }

def parseEthercatTxPdo (tx : HeimaDriverTxData) (params : MotorParameters F) : MotorActual F :=
  { parseEthercatStandardTxPdo {
      statusWord := tx.statusWord
      actualPosition := tx.actualPosition
      actualVelocity := tx.actualVelocity
      actualTorque := tx.actualTorque
      errorCode := tx.errorCode
      modeDisplay := tx.modeDisplay
      undefined := tx.undefined } params with
    temp := tx.motorTemperature
    driveTemp := tx.driveTemperature
    voltage := tx.voltage }

/-! ## Control words and the watchdog -/

/-- The two enabling control words need an enabled target and a matching state of
the drive. -/
theorem controlWord_enabling {enabled : Int} {statusWord : BitVec 16}
    (enabling : ethercatMtDeviceControlWord enabled statusWord = 0x0007 ∨
      ethercatMtDeviceControlWord enabled statusWord = 0x000f) :
    enabled = 1 ∧
      (ethercatMtDeviceControlWord enabled statusWord = 0x0007 →
        statusWord &&& 0x007f = 0x0031) ∧
      (ethercatMtDeviceControlWord enabled statusWord = 0x000f →
        statusWord &&& 0x007f = 0x0033 ∨ statusWord &&& 0x007f = 0x0037) := by
  simp only [ethercatMtDeviceControlWord] at enabling ⊢
  split at enabling
  next => rcases enabling with impossible | impossible <;> contradiction
  next notFault =>
    split at enabling
    next => rcases enabling with impossible | impossible <;> contradiction
    next enabled =>
      rw [if_neg notFault, if_neg enabled]
      refine ⟨not_not.mp enabled, ?_⟩
      split
      next ready => exact ⟨fun _ => ready, fun impossible => by contradiction⟩
      next =>
        split
        next switched => exact ⟨fun impossible => by contradiction, fun _ => switched⟩
        next => exact ⟨fun impossible => by contradiction, fun impossible => by contradiction⟩

/-- The watchdog changes nothing but the enabled values, and leaves one enabled only
when the frame is young enough or the watchdog is off. -/
theorem watchdog_enabled {frame : EthercatPackedTargetFrame} {now timeout : Time} {index : Nat}
    (inBounds : index < MaxRealtimeMotors) (valid : frame.valid index = true)
    (stamped : frame.timestamp ≠ 0)
    (enabled : ((applyEthercatCommandWatchdog frame now timeout).1.targets index).enabled = 1) :
    (frame.targets index).enabled = 1 ∧ (timeout ≤ 0 ∨ now - frame.timestamp < timeout) := by
  simp only [applyEthercatCommandWatchdog] at enabled
  by_cases off : timeout ≤ 0
  · rw [if_pos (.inl off)] at enabled
    exact ⟨enabled, .inl off⟩
  by_cases young : now - frame.timestamp < timeout
  · rw [if_neg (by simp [off, stamped]), if_pos young] at enabled
    exact ⟨enabled, .inr young⟩
  · rw [if_neg (by simp [off, stamped]), if_neg young] at enabled
    by_cases zero : (frame.targets index).enabled = 0
    · simp [inBounds, valid, zero] at enabled
    · simp [inBounds, valid, zero] at enabled

@[simp] theorem watchdog_valid (frame : EthercatPackedTargetFrame) (now timeout : Time) :
    (applyEthercatCommandWatchdog frame now timeout).1.valid = frame.valid := by
  simp only [applyEthercatCommandWatchdog]
  split
  · rfl
  · split <;> rfl

/-- The watchdog leaves the packed bytes alone. -/
@[simp] theorem watchdog_rxBytes (frame : EthercatPackedTargetFrame) (now timeout : Time)
    (index : Nat) :
    ((applyEthercatCommandWatchdog frame now timeout).1.targets index).rxBytes =
      (frame.targets index).rxBytes := by
  simp only [applyEthercatCommandWatchdog]
  split
  · rfl
  · split
    · rfl
    · dsimp only
      split <;> rfl

/-- An enabled value the watchdog changes becomes zero. -/
theorem watchdog_enabled_cases (frame : EthercatPackedTargetFrame) (now timeout : Time)
    (index : Nat) :
    ((applyEthercatCommandWatchdog frame now timeout).1.targets index).enabled =
        (frame.targets index).enabled ∨
      ((applyEthercatCommandWatchdog frame now timeout).1.targets index).enabled = 0 := by
  simp only [applyEthercatCommandWatchdog]
  split
  · exact .inl rfl
  · split
    · exact .inl rfl
    · dsimp only
      split
      · exact .inr rfl
      · exact .inl rfl

end RmdCanSdk
