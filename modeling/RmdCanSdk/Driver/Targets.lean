import RmdCanSdk.Driver.JointFrame
import RmdCanSdk.Ethercat.Snapshot

/-!
# Targets of all motors

What `setMotorTarget` makes of its vector: one target for each motor, in the frame
of its bus, converted with the motor's own parameters, mode and current limit.
-/

namespace RmdCanSdk

variable {F : Type} [FloatArith F]

/-- A setting for each motor, which is filled with a default when it was not made. -/
def ensureCount {α : Type} (configured : List α) (fallback : α) (count : Nat)
    (message : String) : Except String (List α) :=
  if configured.isEmpty then return List.replicate count fallback
  else if configured.length ≠ count then throw message
  else return configured

def ensureOperatingModes (operatingModes : List Int) (count : Nat) : Except String (List Int) :=
  ensureCount operatingModes 8 count
    "configured motor mode count does not match total motor count"

def ensureMaxCurrents (maxCurrents : List (BitVec 16)) (count : Nat) :
    Except String (List (BitVec 16)) :=
  ensureCount maxCurrents 1000 count
    "configured max current count does not match total motor count"

/-- What `setMotorTarget` puts into the packed frame for an EtherCAT motor. -/
def ethercatTarget (target : MotorTargetStruct F) (params : MotorParameters F) (mode : Int)
    (maxCurrent : BitVec 16) : EthercatPackedTarget :=
  packEthercatTargetForRealtime (toEthercatTarget target params mode maxCurrent.toNat) params
    (ethercatMtDeviceRxProfileForMode mode)

/-- The target frames of both buses. -/
structure TargetFrames (F : Type) where
  can : MotorTargetFrame F
  ethercat : EthercatPackedTargetFrame

/-- One iteration of `setTargets`, without a result where a setting is missing. -/
def setTarget (operatingModes : List Int) (maxCurrents : List (BitVec 16))
    (data : List (MotorTargetStruct F)) (frames : TargetFrames F) (motor : RuntimeMotor F) :
    Option (TargetFrames F) := do
  let index := motor.globalIndex
  let item ← data[index]?
  match motor.bus with
  | .ethercat =>
      let mode ← operatingModes[index]?
      let maxCurrent ← maxCurrents[index]?
      return { frames with ethercat := { frames.ethercat with
        targets := Function.update frames.ethercat.targets index
          (ethercatTarget item motor.parameters mode maxCurrent)
        valid := Function.update frames.ethercat.valid index true } }
  | .can =>
      return { frames with can := { frames.can with
        targets := Function.update frames.can.targets index (canTarget item motor.parameters)
        valid := Function.update frames.can.valid index true } }

/-- The frames that `setTargets` publishes. -/
def targetFrames (motors : List (RuntimeMotor F)) (operatingModes : List Int)
    (maxCurrents : List (BitVec 16)) (metadata : FrameMetadata)
    (data : List (MotorTargetStruct F)) : Option (TargetFrames F) :=
  motors.foldlM (setTarget operatingModes maxCurrents data) {
    can := { (default : MotorTargetFrame F) with toFrameMetadata := metadata }
    ethercat := { (default : EthercatPackedTargetFrame) with toFrameMetadata := metadata } }

/-! ## The target of one motor -/

variable {motor other : RuntimeMotor F} {operatingModes : List Int}
variable {maxCurrents : List (BitVec 16)} {data : List (MotorTargetStruct F)}
variable {frames next : TargetFrames F} {motors : List (RuntimeMotor F)}

/-- The frames hold the converted target of a motor. -/
structure Converted (operatingModes : List Int) (maxCurrents : List (BitVec 16))
    (motor : RuntimeMotor F) (item : MotorTargetStruct F) (frames : TargetFrames F) : Prop where
  can : motor.bus = .can →
    frames.can.valid motor.globalIndex = true ∧
      frames.can.targets motor.globalIndex = canTarget item motor.parameters
  ethercat : motor.bus = .ethercat →
    frames.ethercat.valid motor.globalIndex = true ∧
      ∃ mode maxCurrent, operatingModes[motor.globalIndex]? = some mode ∧
        maxCurrents[motor.globalIndex]? = some maxCurrent ∧
        frames.ethercat.targets motor.globalIndex =
          ethercatTarget item motor.parameters mode maxCurrent

theorem setTarget_own (set : setTarget operatingModes maxCurrents data frames motor = some next) :
    ∃ item, data[motor.globalIndex]? = some item ∧
      Converted operatingModes maxCurrents motor item next := by
  simp only [setTarget] at set
  rcases Option.bind_eq_some_iff.mp set with ⟨item, present, set⟩
  refine ⟨item, present, ?_⟩
  cases bus : motor.bus with
  | can =>
      rw [bus] at set
      cases set
      exact {
        can := fun _ => ⟨Function.update_self .., Function.update_self ..⟩
        ethercat := fun impossible => by rw [bus] at impossible; contradiction }
  | ethercat =>
      rw [bus] at set
      rcases Option.bind_eq_some_iff.mp set with ⟨mode, hasMode, set⟩
      rcases Option.bind_eq_some_iff.mp set with ⟨maxCurrent, hasCurrent, set⟩
      cases set
      exact {
        can := fun impossible => by rw [bus] at impossible; contradiction
        ethercat := fun _ => ⟨Function.update_self .., mode, maxCurrent, hasMode, hasCurrent,
          Function.update_self ..⟩ }

/-- Converting one motor's target does not touch another motor's. -/
theorem Converted.setTarget {item : MotorTargetStruct F}
    (converted : Converted operatingModes maxCurrents motor item frames)
    (different : motor.globalIndex ≠ other.globalIndex)
    (set : setTarget operatingModes maxCurrents data frames other = some next) :
    Converted operatingModes maxCurrents motor item next := by
  simp only [RmdCanSdk.setTarget] at set
  rcases Option.bind_eq_some_iff.mp set with ⟨otherItem, -, set⟩
  cases bus : other.bus with
  | can =>
      rw [bus] at set
      cases set
      refine ⟨fun isCan => ?_, converted.ethercat⟩
      simp only [Function.update_of_ne different]
      exact converted.can isCan
  | ethercat =>
      rw [bus] at set
      rcases Option.bind_eq_some_iff.mp set with ⟨mode, -, set⟩
      rcases Option.bind_eq_some_iff.mp set with ⟨maxCurrent, -, set⟩
      cases set
      refine ⟨converted.can, fun isEthercat => ?_⟩
      simp only [Function.update_of_ne different]
      exact converted.ethercat isEthercat

/-- A converted target stays until the end of the loop. -/
theorem Converted.foldlM {item : MotorTargetStruct F}
    (converted : Converted operatingModes maxCurrents motor item frames)
    (absent : motor.globalIndex ∉ motors.map RuntimeMotor.globalIndex)
    (set : motors.foldlM (RmdCanSdk.setTarget operatingModes maxCurrents data) frames =
      some next) :
    Converted operatingModes maxCurrents motor item next := by
  induction motors generalizing frames with
  | nil =>
      cases set
      exact converted
  | cons head rest ih =>
      rw [List.foldlM_cons] at set
      rw [List.map_cons, List.mem_cons, not_or] at absent
      rcases Option.bind_eq_some_iff.mp set with ⟨middle, first, others⟩
      exact ih (converted.setTarget absent.1 first) absent.2 others

theorem foldlM_setTarget (distinct : (motors.map RuntimeMotor.globalIndex).Nodup)
    (member : motor ∈ motors)
    (set : motors.foldlM (setTarget operatingModes maxCurrents data) frames = some next) :
    ∃ item, data[motor.globalIndex]? = some item ∧
      Converted operatingModes maxCurrents motor item next := by
  induction motors generalizing frames with
  | nil => contradiction
  | cons head rest ih =>
      rw [List.foldlM_cons] at set
      rw [List.map_cons, List.nodup_cons] at distinct
      rcases Option.bind_eq_some_iff.mp set with ⟨middle, first, others⟩
      rcases List.mem_cons.mp member with rfl | inRest
      · rcases setTarget_own first with ⟨item, present, converted⟩
        exact ⟨item, present, converted.foldlM distinct.1 others⟩
      · exact ih distinct.2 inRest others

/-- With a setting for every index there are frames to publish. -/
theorem targetFrames_isSome {metadata : FrameMetadata}
    (inData : ∀ motor ∈ motors, motor.globalIndex < data.length)
    (inModes : ∀ motor ∈ motors, motor.globalIndex < operatingModes.length)
    (inCurrents : ∀ motor ∈ motors, motor.globalIndex < maxCurrents.length) :
    ∃ frames, targetFrames motors operatingModes maxCurrents metadata data = some frames := by
  have general : ∀ frames : TargetFrames F, ∃ next,
      motors.foldlM (setTarget operatingModes maxCurrents data) frames = some next := by
    induction motors with
    | nil => exact fun frames => ⟨frames, rfl⟩
    | cons head rest ih =>
        intro frames
        have own : ∃ next, setTarget operatingModes maxCurrents data frames head = some next := by
          simp only [setTarget, List.getElem?_eq_getElem (inData head List.mem_cons_self)]
          cases head.bus with
          | can => exact ⟨_, rfl⟩
          | ethercat =>
              simp only [List.getElem?_eq_getElem (inModes head List.mem_cons_self),
                List.getElem?_eq_getElem (inCurrents head List.mem_cons_self)]
              exact ⟨_, rfl⟩
        rcases own with ⟨middle, first⟩
        rw [List.foldlM_cons, first]
        exact ih (fun motor member => inData motor (List.mem_cons_of_mem _ member))
          (fun motor member => inModes motor (List.mem_cons_of_mem _ member))
          (fun motor member => inCurrents motor (List.mem_cons_of_mem _ member)) middle
  exact general _

/-- Every motor has its own converted target in the published frames. -/
theorem targetFrames_converted {metadata : FrameMetadata}
    (distinct : (motors.map RuntimeMotor.globalIndex).Nodup) (member : motor ∈ motors)
    (set : targetFrames motors operatingModes maxCurrents metadata data = some frames) :
    ∃ item, data[motor.globalIndex]? = some item ∧
      Converted operatingModes maxCurrents motor item frames :=
  foldlM_setTarget distinct member set

end RmdCanSdk
