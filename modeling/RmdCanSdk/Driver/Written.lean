import RmdCanSdk.Driver.Targets
import RmdCanSdk.Ethercat.Codes

/-!
# What the writer copies for a target

The bytes of an RxPDO that the realtime loop writes for a motor after `setMotorTarget`.
Neither the watchdog nor the drive's feedback changes the words after the control word.
-/

namespace RmdCanSdk

variable {F : Type} [FloatArith F] {item : MotorTargetStruct F} {params : MotorParameters F}
variable {mode : Int} {maxCurrent : BitVec 16} {rxProfile : EthercatMtDeviceRxProfile}
variable {rx : Bytes}

/-- The writer may copy `rx` into a binding of the layout `rxProfile`, with the motor's
target in the packed frame made from `item`. -/
def WrittenFor (item : MotorTargetStruct F) (params : MotorParameters F) (mode : Int)
    (maxCurrent : BitVec 16) (rxProfile : EthercatMtDeviceRxProfile) (rx : Bytes) : Prop :=
  ∃ (frame : EthercatPackedTargetFrame) (now timeout : Time) (actuals : MotorActualFrame F)
    (binding : EthercatPdoBinding F),
    frame.valid binding.globalIndex = true ∧
      frame.targets binding.globalIndex = ethercatTarget item params mode maxCurrent ∧
      binding.rxProfile = rxProfile ∧
      rx = (writtenRx (applyEthercatCommandWatchdog frame now timeout).1 actuals binding).1

/-- The frames that `setMotorTarget` publishes hold such a target for each EtherCAT motor. -/
theorem Converted.writtenFor {motor : RuntimeMotor F} {operatingModes : List Int}
    {maxCurrents : List (BitVec 16)} {frames : TargetFrames F}
    (converted : Converted operatingModes maxCurrents motor item frames)
    (ethercat : motor.bus = .ethercat) (hasMode : operatingModes[motor.globalIndex]? = some mode)
    (hasCurrent : maxCurrents[motor.globalIndex]? = some maxCurrent) (now timeout : Time)
    (actuals : MotorActualFrame F) {binding : EthercatPdoBinding F}
    (same : binding.globalIndex = motor.globalIndex) :
    WrittenFor item motor.parameters mode maxCurrent binding.rxProfile
      (writtenRx (applyEthercatCommandWatchdog frames.ethercat now timeout).1 actuals
        binding).1 := by
  rcases converted.ethercat ethercat with ⟨valid, mode', maxCurrent', hasMode', hasCurrent', own⟩
  cases hasMode.symm.trans hasMode'
  cases hasCurrent.symm.trans hasCurrent'
  rw [← same] at valid own
  exact ⟨frames.ethercat, now, timeout, actuals, binding, valid, own, rfl, rfl⟩

/-- Some bytes are written for every target in every layout. -/
theorem exists_writtenFor (item : MotorTargetStruct F) (params : MotorParameters F) (mode : Int)
    (maxCurrent : BitVec 16) (rxProfile : EthercatMtDeviceRxProfile) :
    ∃ rx, WrittenFor item params mode maxCurrent rxProfile rx := by
  let frame : EthercatPackedTargetFrame := { (default : EthercatPackedTargetFrame) with
    targets := fun _ => ethercatTarget item params mode maxCurrent
    valid := fun _ => true }
  let binding : EthercatPdoBinding F := {
    globalIndex := 0
    backendLocalIndex := 0
    «alias» := 1
    master := 0
    slave := 0
    domain := 0
    rxOffset := 0
    txOffset := -1
    rxProfile := rxProfile
    txProfile := .extended
    rxSize := ethercatMtDeviceRxPdoSize rxProfile
    txSize := 0
    type := ""
    parameters := params }
  exact ⟨_, frame, 0, 0, default, binding, rfl, rfl, rfl, rfl⟩

namespace WrittenFor

/-- The packed bytes reach the writer. -/
theorem packed (written : WrittenFor item params mode maxCurrent rxProfile rx) :
    ∃ (targets : EthercatPackedTargetFrame) (actuals : MotorActualFrame F)
      (binding : EthercatPdoBinding F),
      binding.rxProfile = rxProfile ∧ rx = (writtenRx targets actuals binding).1 ∧
        (packedTarget targets binding).rxBytes =
          (ethercatTarget item params mode maxCurrent).rxBytes := by
  rcases written with ⟨frame, now, timeout, actuals, binding, valid, own, profile, rfl⟩
  refine ⟨_, actuals, binding, profile, rfl, ?_⟩
  rw [packedTarget, watchdog_valid, valid, if_pos rfl, watchdog_rxBytes, own]

theorem targetPosition (written : WrittenFor item params mode maxCurrent rxProfile rx) :
    rx.read32 2 = radToCounts
      (clampPosition (toEthercatTarget item params mode maxCurrent.toNat).pos params) params := by
  rcases written.packed with ⟨targets, actuals, binding, -, rfl, bytes⟩
  rw [targetPosition_writtenRx, bytes]
  exact targetPosition_packed _ _ _

theorem targetTorque (written : WrittenFor item params mode maxCurrent rxProfile rx) :
    rx.read16 10 =
      RmdCanSdk.targetTorque (toEthercatTarget item params mode maxCurrent.toNat) params := by
  rcases written.packed with ⟨targets, actuals, binding, -, rfl, bytes⟩
  rw [targetTorque_writtenRx, bytes]
  exact targetTorque_packed _ _ _

/-- In the mode that uses gains, both are written to the layout that has them. -/
theorem pvtGains (written : WrittenFor item params 5 maxCurrent .pvt rx) :
    rx.read32 12 = BitVec.ofInt 32 (lround (item.kp * lit 1000)) ∧
      rx.read32 16 = BitVec.ofInt 32 (lround (item.kd * lit 1000)) := by
  rcases written.packed with ⟨targets, actuals, binding, profile, rfl, bytes⟩
  have copied : (writtenRx targets actuals binding).1.read32 12 =
        (packedTarget targets binding).rxBytes.read32 12 ∧
      (writtenRx targets actuals binding).1.read32 16 =
        (packedTarget targets binding).rxBytes.read32 16 := by
    simp only [writtenRx, profile]
    exact ⟨Bytes.join32 _, Bytes.join32 _⟩
  rw [copied.1, copied.2, bytes]
  exact ⟨Bytes.join32 _, Bytes.join32 _⟩

end WrittenFor

end RmdCanSdk
