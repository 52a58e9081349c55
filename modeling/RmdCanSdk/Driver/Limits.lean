import RmdCanSdk.Can.Command
import RmdCanSdk.Driver.Written
import RmdCanSdk.Ethercat.Bindings

/-!
# Limits for every float

The position and torque that leave the SDK, for targets with infinities and NaN. An
infinity compares with the limits and is clamped. NaN compares with nothing, passes
every clamp, and becomes whatever the conversion to an integer makes of it, so the
limits hold exactly where every such integer decodes within them.
-/

namespace RmdCanSdk

variable {unspecified given : Unspecified}

/-- A decoded position lies between the limits, up to one step. -/
def PositionWithin (params : MotorParameters ℚ) (step pos : ℚ) : Prop :=
  params.minimumPosition - step ≤ pos ∧ pos ≤ params.maximumPosition + step

/-- A decoded position and torque lie within the limits, up to one step each. -/
structure WithinLimits (params : MotorParameters ℚ) (positionStep torqueStep pos tor : ℚ) :
    Prop where
  pos : PositionWithin params positionStep pos
  tor : |tor| ≤ params.maximumTorque + torqueStep

def mitPositionStep : ℚ := (RmdPMax - RmdPMin) / 65535

def mitTorqueStep (params : MotorParameters ℚ) : ℚ :=
  2 * positiveTorqueLimit params.maximumTorque / 4095

/-- The limits hold for the fields of a CAN command as the motor decodes them. -/
def MitWithin (params : MotorParameters ℚ) (fields : MitFields) : Prop :=
  let limit := positiveTorqueLimit params.maximumTorque
  WithinLimits params mitPositionStep (mitTorqueStep params)
    (uintToFloat fields.p RmdPMin RmdPMax 16)
    (uintToFloat (fields.torque.setWidth 16) (-limit) limit 12)

/-- The limits hold for the TargetPosition and the TargetTorque of an RxPDO. -/
def RxWithin (params : MotorParameters ℚ) (position : BitVec 32) (torque : BitVec 16) : Prop :=
  WithinLimits params (positionStep params) (torqueStep params) (countsToRad position params)
    (rawToTorque torque params)

/-- The limits hold for every command that leaves the SDK for a motor while the
frames are current. -/
def CommandWithin (motor : RuntimeMotor ℚ) (frames : TargetFrames (Ieee unspecified)) : Prop :=
  match motor.bus with
  | .can => MitWithin motor.parameters
      (mitFields (mitCommand (motor.map .finite) (frames.can.targets motor.globalIndex)))
  | .ethercat =>
      ∀ (now timeout : Time) (actuals : MotorActualFrame (Ieee unspecified))
        (binding : EthercatPdoBinding (Ieee unspecified)),
        binding.globalIndex = motor.globalIndex →
        let targets := (applyEthercatCommandWatchdog frames.ethercat now timeout).1
        let rx := (writtenRx targets actuals binding).1
        RxWithin motor.parameters (rx.read32 2) (rx.read16 10)

/-- Whatever conversions return on values they cannot represent, the limits hold for
what `setMotorTarget` makes of a target vector. -/
def LimitsHold (registry : MotorRegistry ℚ) (operatingModes : List Int)
    (maxCurrents : List (BitVec 16)) (metadata : FrameMetadata)
    (data : List (MotorTargetStruct (Ieee given))) (motor : RuntimeMotor ℚ) : Prop :=
  ∀ (unspecified : Unspecified) (frames : TargetFrames (Ieee unspecified)),
    targetFrames (registry.motors.map (RuntimeMotor.map .finite)) operatingModes maxCurrents
      metadata (data.map (MotorTargetStruct.map Ieee.retype)) = some frames →
    CommandWithin motor frames

/-- The motors with ordered limits in the representable range. -/
structure Limited (motor : RuntimeMotor ℚ) : Prop where
  ordered : motor.parameters.minimumPosition ≤ motor.parameters.maximumPosition
  torque : 0 < motor.parameters.maximumTorque
  can : motor.bus = .can →
    motor.parameters.polarity = 1 ∧ motor.parameters.countBias = 0 ∧
      RmdPMin ≤ motor.parameters.minimumPosition ∧ motor.parameters.maximumPosition ≤ RmdPMax
  ethercat : motor.bus = .ethercat →
    (motor.parameters.polarity = 1 ∨ motor.parameters.polarity = -1) ∧
      Representable motor.parameters motor.parameters.minimumPosition ∧
      Representable motor.parameters motor.parameters.maximumPosition

/-- A target without NaN where it matters, or a motor whose limits leave room for
whatever NaN becomes. -/
def NanHarmless (motor : RuntimeMotor ℚ) (item : MotorTargetStruct (Ieee given)) (mode : Int)
    (maxCurrent : BitVec 16) : Prop :=
  let params := motor.parameters
  match motor.bus with
  | .can => ¬ (item.enabled = 1 ∧ item.pos = .nan) ∨
      (PositionWithin params mitPositionStep RmdPMin ∧
        PositionWithin params mitPositionStep RmdPMax)
  | .ethercat =>
      (item.pos ≠ .nan ∨
        (PositionWithin params (positionStep params) (countsToRad (BitVec.intMin 32) params) ∧
          PositionWithin params (positionStep params)
            (countsToRad (BitVec.intMax 32) params))) ∧
      (item.tor ≠ .nan ∨
        torqueBound mode maxCurrent.toNat * torqueStep params ≤
          params.maximumTorque + torqueStep params)

variable {motor : RuntimeMotor ℚ}

/-! ## CAN -/

theorem positiveTorqueLimit_eq {value : ℚ} (positive : 0 < value) :
    positiveTorqueLimit value = value :=
  if_pos ⟨rfl, positive⟩

/-- A CAN target is clamped once in the joint frame and twice in the motor frame. -/
theorem handedTarget_clamps {F : Type} [FloatArith F] (item : MotorTargetStruct F)
    (params : MotorParameters F) :
    (handedTarget item params).pos =
      clamp (clamp (params.polarity *
          clamp item.pos params.minimumPosition params.maximumPosition + params.countBias)
        params.minimumPosition params.maximumPosition)
        params.minimumPosition params.maximumPosition := rfl

/-- With polarity one and no bias, three clamps are one. -/
theorem handedTarget_pos_eq (limited : Limited motor) (can : motor.bus = .can)
    (item : MotorTargetStruct (Ieee unspecified)) :
    (handedTarget item (motor.parameters.map .finite)).pos =
      clamp item.pos (.finite motor.parameters.minimumPosition)
        (.finite motor.parameters.maximumPosition) := by
  rcases limited.can can with ⟨polarity, bias, -, -⟩
  rw [handedTarget_clamps]
  simp only [MotorParameters.map, polarity, bias]
  rcases clamp_cases item.pos limited.ordered with nan | ⟨kept, lower, upper, same⟩
  · simp [nan]
  · simp [same, clamp_eq_self lower upper]

/-- The position the transmit loop hands to `packMit` for a target. -/
def transmittedPosition (motor : RuntimeMotor ℚ) (item : MotorTargetStruct (Ieee unspecified)) :
    Ieee unspecified :=
  (transmittedTarget (motor.map .finite) (canTarget item (motor.map .finite).parameters)).pos

theorem transmittedPosition_enabled (limited : Limited motor) (can : motor.bus = .can)
    {item : MotorTargetStruct (Ieee unspecified)} (enabled : item.enabled = 1) :
    transmittedPosition motor item =
      clamp item.pos (.finite motor.parameters.minimumPosition)
        (.finite motor.parameters.maximumPosition) := by
  have handed : transmittedTarget (motor.map .finite)
      (canTarget item (motor.map .finite).parameters) =
        handedTarget item (motor.map .finite).parameters :=
    transmittedTarget_canTarget _ enabled
  rw [← handedTarget_pos_eq limited can item, transmittedPosition, handed]
  rfl

theorem transmittedPosition_disabled {item : MotorTargetStruct (Ieee unspecified)}
    (disabled : item.enabled ≠ 1) :
    transmittedPosition motor item =
      .finite (clamp 0 motor.parameters.minimumPosition motor.parameters.maximumPosition) := by
  have replaced : transmittedTarget (motor.map .finite)
      (canTarget item (motor.map .finite).parameters) =
        (limitTarget (default : MotorTarget (Ieee unspecified))
          (motor.map .finite).parameters).target :=
    transmittedTarget_disabled _ disabled
  rw [transmittedPosition, replaced]
  exact clamp_finite

/-- The transmitted position is NaN for an enabled NaN target, and otherwise a number
between the limits. -/
theorem transmittedPosition_cases (limited : Limited motor) (can : motor.bus = .can)
    (item : MotorTargetStruct (Ieee unspecified)) :
    (item.enabled = 1 ∧ item.pos = .nan ∧ transmittedPosition motor item = .nan) ∨
      ¬ (item.enabled = 1 ∧ item.pos = .nan) ∧ ∃ kept,
        motor.parameters.minimumPosition ≤ kept ∧ kept ≤ motor.parameters.maximumPosition ∧
          transmittedPosition motor item = .finite kept := by
  by_cases enabled : item.enabled = 1
  · rw [transmittedPosition_enabled limited can enabled]
    rcases clamp_cases item.pos limited.ordered with nan | ⟨kept, lower, upper, same⟩
    · exact .inl ⟨enabled, nan, by rw [nan, clamp_nan]⟩
    · refine .inr ⟨fun both => ?_, kept, lower, upper, same⟩
      rw [both.2, clamp_nan] at same
      contradiction
  · have bounds := clamp_mem 0 limited.ordered
    exact .inr ⟨fun both => enabled both.1, _, bounds.1, bounds.2,
      transmittedPosition_disabled enabled⟩

/-- The position field of a transmitted position, decoded. -/
def mitPosition (pos : Ieee unspecified) : ℚ :=
  uintToFloat (floatToUint pos RmdPMin RmdPMax 16) RmdPMin RmdPMax 16

/-- The torque field of a command cannot leave the limits. -/
theorem mitWithin_iff (limited : Limited motor) (target : MotorTarget (Ieee unspecified)) :
    MitWithin motor.parameters (mitFields (mitCommand (motor.map .finite) target)) ↔
      PositionWithin motor.parameters mitPositionStep
        (mitPosition (transmittedTarget (motor.map .finite) target).pos) := by
  have position : (mitFields (mitCommand (motor.map .finite) target)).p =
      floatToUint (transmittedTarget (motor.map .finite) target).pos RmdPMin RmdPMax 16 :=
    congrArg MitFields.p (mitFields_packMit _ _ _ _ _ _)
  have limit := positiveTorqueLimit_eq limited.torque
  have symmetric := neg_lt_self (positiveTorqueLimit_pos motor.parameters.maximumTorque)
  have torque := uintToFloat_mem ((mitFields (mitCommand (motor.map .finite)
    target)).torque.setWidth 16) symmetric (show 0 < 12 by decide)
  have step : 0 ≤ mitTorqueStep motor.parameters := by
    rw [mitTorqueStep, limit]
    exact div_nonneg (mul_nonneg two_pos.le limited.torque.le) (by norm_num)
  rw [mitPosition, ← position]
  constructor
  · exact WithinLimits.pos
  · intro within
    refine ⟨within, ?_⟩
    rw [abs_le]
    constructor <;> linarith [torque.1, torque.2]

theorem mitRange : (RmdPMin : ℚ) < RmdPMax := by
  simp only [RmdPMax, RmdPMin, FloatArith.lit_rat]
  norm_num

/-- A number between the limits is encoded within them. -/
theorem mitPosition_finite (limited : Limited motor) (can : motor.bus = .can) {kept : ℚ}
    (lower : motor.parameters.minimumPosition ≤ kept)
    (upper : kept ≤ motor.parameters.maximumPosition) :
    PositionWithin motor.parameters mitPositionStep
      (mitPosition (.finite kept : Ieee unspecified)) := by
  rcases limited.can can with ⟨-, -, bottom, top⟩
  have same : mitPosition (.finite kept : Ieee unspecified) =
      uintToFloat (floatToUint kept RmdPMin RmdPMax 16) RmdPMin RmdPMax 16 :=
    congrArg (uintToFloat · RmdPMin RmdPMax 16) (floatToUint_finite kept 16 mitRange (by decide))
  have error := abs_uintToFloat_floatToUint_sub_le kept 16 mitRange (by decide) (by decide)
  rw [← same, clamp_eq_self (bottom.trans lower) (upper.trans top), abs_le] at error
  have half : ((RmdPMax : ℚ) - RmdPMin) / (2 ^ 16 - 1 : Nat) / 2 = mitPositionStep / 2 := by
    norm_num [mitPositionStep]
  have positive : 0 < mitPositionStep := div_pos (sub_pos.mpr mitRange) (by norm_num)
  rw [half] at error
  constructor <;> linarith [error.1, error.2]

/-- The position code of NaN is arbitrary. -/
theorem mitPosition_nan :
    mitPosition (.nan : Ieee unspecified) =
      uintToFloat (BitVec.ofInt 16 (unspecified.lround .nan)) RmdPMin RmdPMax 16 :=
  congrArg (uintToFloat · RmdPMin RmdPMax 16) (floatToUint_nan _ _ 16)

variable {operatingModes : List Int} {maxCurrents : List (BitVec 16)} {mode : Int}
variable {maxCurrent : BitVec 16} {frames : TargetFrames (Ieee unspecified)}
variable {item : MotorTargetStruct (Ieee unspecified)}

theorem commandWithin_can (limited : Limited motor) (can : motor.bus = .can)
    (converted : Converted operatingModes maxCurrents (motor.map .finite) item frames) :
    CommandWithin motor frames ↔
      PositionWithin motor.parameters mitPositionStep
        (mitPosition (transmittedPosition motor item)) := by
  have target : frames.can.targets motor.globalIndex =
      canTarget item (motor.map .finite).parameters := (converted.can can).2
  simp only [CommandWithin, can, target]
  exact mitWithin_iff limited _

/-! ## EtherCAT -/

/-- What the writer copies for a motor does not depend on the watchdog or on the
drive's feedback. -/
theorem commandWithin_ethercat (ethercat : motor.bus = .ethercat)
    (converted : Converted operatingModes maxCurrents (motor.map .finite) item frames)
    (hasMode : operatingModes[motor.globalIndex]? = some mode)
    (hasCurrent : maxCurrents[motor.globalIndex]? = some maxCurrent) :
    let params : MotorParameters (Ieee unspecified) := motor.parameters.map .finite
    let target := toEthercatTarget item params mode maxCurrent.toNat
    CommandWithin motor frames ↔
      RxWithin motor.parameters (radToCounts (clampPosition target.pos params) params)
        (targetTorque target params) := by
  intro params target
  have words : ∀ (now timeout : Time) (actuals : MotorActualFrame (Ieee unspecified))
      (binding : EthercatPdoBinding (Ieee unspecified)),
      binding.globalIndex = motor.globalIndex →
      let rx := (writtenRx (applyEthercatCommandWatchdog frames.ethercat now timeout).1 actuals
        binding).1
      rx.read32 2 = radToCounts (clampPosition target.pos params) params ∧
        rx.read16 10 = targetTorque target params := by
    intro now timeout actuals binding same
    have written := converted.writtenFor ethercat hasMode hasCurrent now timeout actuals same
    exact ⟨written.targetPosition, written.targetTorque⟩
  simp only [CommandWithin, ethercat]
  constructor
  · intro within
    have own := words 0 0 default (pdoBinding (motor.map .finite)) rfl
    rw [← own.1, ← own.2]
    exact within 0 0 default (pdoBinding (motor.map .finite)) rfl
  · intro within now timeout actuals binding same
    rw [(words now timeout actuals binding same).1, (words now timeout actuals binding same).2]
    exact within

/-- The packed position is NaN for a NaN target, and otherwise a number between the
limits. -/
theorem packedPosition_cases (limited : Limited motor) (item : MotorTargetStruct (Ieee unspecified))
    (mode maxCurrent : Int) :
    let params : MotorParameters (Ieee unspecified) := motor.parameters.map .finite
    let packed := clampPosition (toEthercatTarget item params mode maxCurrent).pos params
    (item.pos = .nan ∧ packed = .nan) ∨
      item.pos ≠ .nan ∧ ∃ kept, motor.parameters.minimumPosition ≤ kept ∧
        kept ≤ motor.parameters.maximumPosition ∧ packed = .finite kept := by
  intro params packed
  have clamps : packed = clamp (clamp item.pos (.finite motor.parameters.minimumPosition)
      (.finite motor.parameters.maximumPosition)) (.finite motor.parameters.minimumPosition)
      (.finite motor.parameters.maximumPosition) := rfl
  rw [clamps]
  rcases clamp_cases item.pos limited.ordered with nan | ⟨kept, lower, upper, same⟩
  · left
    simp [nan]
  · refine .inr ⟨?_, kept, lower, upper, ?_⟩
    · intro nan
      rw [nan, clamp_nan] at same
      contradiction
    · rw [same, clamp_finite, clamp_eq_self lower upper]

theorem packedTorque_cases (limited : Limited motor) (item : MotorTargetStruct (Ieee unspecified))
    (mode maxCurrent : Int) :
    let target := toEthercatTarget item (motor.parameters.map .finite) mode maxCurrent
    (item.tor = .nan ∧ target.tor = .nan) ∨
      item.tor ≠ .nan ∧ ∃ kept, |kept| ≤ motor.parameters.maximumTorque ∧
        target.tor = .finite kept := by
  intro target
  have clamped : target.tor = clamp item.tor (.finite (-motor.parameters.maximumTorque))
      (.finite motor.parameters.maximumTorque) := rfl
  rw [clamped]
  rcases clamp_cases item.tor (neg_le_self limited.torque.le) with
    nan | ⟨kept, lower, upper, same⟩
  · left
    simp [nan]
  · refine .inr ⟨?_, kept, abs_le.mpr ⟨lower, upper⟩, same⟩
    intro nan
    rw [nan, clamp_nan] at same
    contradiction

/-- A number between the limits is packed within them. -/
theorem packedPosition_finite (limited : Limited motor) (ethercat : motor.bus = .ethercat)
    {kept : ℚ} (lower : motor.parameters.minimumPosition ≤ kept)
    (upper : kept ≤ motor.parameters.maximumPosition) :
    PositionWithin motor.parameters (positionStep motor.parameters)
      (countsToRad (radToCounts (.finite kept : Ieee unspecified)
        (motor.parameters.map .finite)) motor.parameters) := by
  rcases limited.ethercat ethercat with ⟨unit, bottom, top⟩
  have representable := bottom.between top lower upper
  have error := abs_countsToRad_sub_le unit representable
    (radToCounts_finite unspecified representable)
  have step : 0 ≤ positionStep motor.parameters := abs_nonneg _
  rw [abs_le] at error
  constructor <;> linarith [error.1, error.2]

/-- The torque word of a target stays within the limits where it is a number, and
where every word of the mode does. -/
theorem packedTorque_within (limited : Limited motor) (ethercat : motor.bus = .ethercat)
    (item : MotorTargetStruct (Ieee unspecified)) (mode : Int) (maxCurrent : BitVec 16)
    (harmless : item.tor ≠ .nan ∨
      torqueBound mode maxCurrent.toNat * torqueStep motor.parameters ≤
        motor.parameters.maximumTorque + torqueStep motor.parameters) :
    |rawToTorque (targetTorque (toEthercatTarget item (motor.parameters.map .finite) mode
      maxCurrent.toNat) (motor.parameters.map .finite)) motor.parameters| ≤
        motor.parameters.maximumTorque + torqueStep motor.parameters := by
  have unit := (limited.ethercat ethercat).1
  rcases packedTorque_cases limited item mode maxCurrent.toNat with
    ⟨nan, -⟩ | ⟨-, kept, small, same⟩
  · apply le_trans _ (harmless.resolve_left (not_not.mpr nan))
    rw [abs_rawToTorque unit, abs_cast]
    apply mul_le_mul_of_nonneg_right _ (div_nonneg (abs_nonneg _) (by norm_num))
    have bounded := natAbs_targetTorque_le (toEthercatTarget item
      (motor.parameters.map .finite) mode maxCurrent.toNat) (motor.parameters.map .finite)
      (Int.natCast_nonneg _)
    rw [← Int.cast_natCast]
    exact Int.cast_le.mpr bounded
  · exact abs_targetTorque_le unit same small (Int.natCast_nonneg _)

/-! ## All motors -/

/-- With a conversion that returns `counts`, NaN is packed as `counts`. -/
theorem packedPosition_nan (counts : Int) (params : MotorParameters ℚ) :
    radToCounts (.nan : Ieee ⟨fun _ => counts, fun _ => 0⟩) (params.map .finite) =
      BitVec.ofInt 32 counts :=
  radToCounts_nan _

variable {registry : MotorRegistry ℚ} {metadata : FrameMetadata}
variable {data : List (MotorTargetStruct (Ieee given))} {target : MotorTargetStruct (Ieee given)}

/-- A motor's target in the published frames is made of its own entry. -/
theorem published_converted (wellFormed : registry.WellFormed) (member : motor ∈ registry.motors)
    (present : data[motor.globalIndex]? = some target)
    (published : targetFrames (registry.motors.map (RuntimeMotor.map .finite)) operatingModes
      maxCurrents metadata (data.map (MotorTargetStruct.map Ieee.retype)) = some frames) :
    Converted operatingModes maxCurrents (motor.map .finite) (target.map Ieee.retype) frames := by
  have distinct : ((registry.motors.map (RuntimeMotor.map (Ieee.finite : ℚ → Ieee unspecified))).map
      RuntimeMotor.globalIndex).Nodup := by
    rw [List.map_map]
    exact wellFormed.nodup_globalIndex
  rcases targetFrames_converted distinct (List.mem_map_of_mem member) published with
    ⟨item, own, converted⟩
  rw [List.getElem?_map] at own
  have same : data[motor.globalIndex]?.map (MotorTargetStruct.map Ieee.retype) = some item := own
  rw [present] at same
  cases same
  exact converted

/-- With a setting for every motor `setMotorTarget` publishes frames. -/
theorem published_exists (wellFormed : registry.WellFormed) (unspecified : Unspecified)
    (modes : operatingModes.length = registry.totalMotorCount.toNat)
    (currents : maxCurrents.length = registry.totalMotorCount.toNat)
    (sized : (data.length : Int) = registry.totalMotorCount) :
    ∃ frames : TargetFrames (Ieee unspecified),
      targetFrames (registry.motors.map (RuntimeMotor.map .finite)) operatingModes maxCurrents
        metadata (data.map (MotorTargetStruct.map Ieee.retype)) = some frames := by
  have small : ∀ motor ∈ registry.motors.map
      (RuntimeMotor.map (Ieee.finite : ℚ → Ieee unspecified)),
      motor.globalIndex < registry.totalMotorCount.toNat := by
    intro motor member
    rcases List.mem_map.mp member with ⟨exact, exactIn, rfl⟩
    have numbered := wellFormed.numbered exact exactIn
    simp only [RuntimeMotor.Numbered] at numbered
    change exact.globalIndex < _
    omega
  apply targetFrames_isSome
  · intro motor member
    have bound := small motor member
    rw [List.length_map]
    omega
  · intro motor member
    exact (small motor member).trans_eq modes.symm
  · intro motor member
    exact (small motor member).trans_eq currents.symm

/-- A harmless target stays within the limits under all conversions. -/
theorem commandWithin_of_harmless (limited : Limited motor)
    (converted : Converted operatingModes maxCurrents (motor.map .finite)
      (target.map Ieee.retype) frames)
    (hasMode : operatingModes[motor.globalIndex]? = some mode)
    (hasCurrent : maxCurrents[motor.globalIndex]? = some maxCurrent)
    (harmless : NanHarmless motor target mode maxCurrent) : CommandWithin motor frames := by
  cases bus : motor.bus with
  | can =>
      simp only [NanHarmless, bus] at harmless
      rw [commandWithin_can limited bus converted]
      rcases transmittedPosition_cases limited bus (target.map Ieee.retype) with
        ⟨enabled, nan, passed⟩ | ⟨-, kept, lower, upper, same⟩
      · rw [passed]
        have ends := harmless.resolve_left (not_not.mpr ⟨enabled, Ieee.retype_eq_nan.mp nan⟩)
        have range := uintToFloat_mem (BitVec.ofInt 16 (unspecified.lround .nan)) mitRange
          (show 0 < 16 by decide)
        rw [mitPosition_nan]
        exact ⟨ends.1.1.trans range.1, range.2.trans ends.2.2⟩
      · rw [same]
        exact mitPosition_finite limited bus lower upper
  | ethercat =>
      simp only [NanHarmless, bus] at harmless
      apply (commandWithin_ethercat bus converted hasMode hasCurrent).mpr
      refine ⟨?_, packedTorque_within limited bus _ mode maxCurrent ?_⟩
      · rcases packedPosition_cases limited (target.map Ieee.retype) mode maxCurrent.toNat with
          ⟨nan, packed⟩ | ⟨-, kept, lower, upper, packed⟩
        · have ends := harmless.1.resolve_left (not_not.mpr (Ieee.retype_eq_nan.mp nan))
          rw [packed]
          exact countsToRad_mem ends.1 ends.2 _
        · rw [packed]
          exact packedPosition_finite limited bus lower upper
      · exact harmless.2.imp_left fun number nan => number (Ieee.retype_eq_nan.mp nan)

/-- Whatever the conversions return, some frames with the motor's converted target
keep its limits. -/
def WithinAlways (operatingModes : List Int) (maxCurrents : List (BitVec 16))
    (motor : RuntimeMotor ℚ) (target : MotorTargetStruct (Ieee given)) : Prop :=
  ∀ unspecified : Unspecified, ∃ frames : TargetFrames (Ieee unspecified),
    Converted operatingModes maxCurrents (motor.map .finite) (target.map Ieee.retype) frames ∧
      CommandWithin motor frames

theorem always_of_limitsHold (wellFormed : registry.WellFormed)
    (modes : operatingModes.length = registry.totalMotorCount.toNat)
    (currents : maxCurrents.length = registry.totalMotorCount.toNat)
    (sized : (data.length : Int) = registry.totalMotorCount) (member : motor ∈ registry.motors)
    (present : data[motor.globalIndex]? = some target)
    (hold : LimitsHold registry operatingModes maxCurrents metadata data motor) :
    WithinAlways operatingModes maxCurrents motor target := by
  intro unspecified
  rcases published_exists wellFormed unspecified modes currents sized with ⟨frames, published⟩
  exact ⟨frames, published_converted wellFormed member present published,
    hold unspecified frames published⟩

/-- A conversion may return the smallest and the largest position code. -/
theorem WithinAlways.can (always : WithinAlways operatingModes maxCurrents motor target)
    (limited : Limited motor) (can : motor.bus = .can) (enabled : target.enabled = 1)
    (nan : target.pos = .nan) :
    PositionWithin motor.parameters mitPositionStep RmdPMin ∧
      PositionWithin motor.parameters mitPositionStep RmdPMax := by
  have decoded : ∀ code : Int, PositionWithin motor.parameters mitPositionStep
      (uintToFloat (BitVec.ofInt 16 code) RmdPMin RmdPMax 16) := by
    intro code
    rcases always ⟨fun _ => code, fun _ => 0⟩ with ⟨frames, converted, within⟩
    rw [commandWithin_can limited can converted] at within
    rcases transmittedPosition_cases limited can (target.map Ieee.retype) with
      ⟨-, -, passed⟩ | ⟨number, -⟩
    · rw [passed, mitPosition_nan] at within
      exact within
    · exact absurd ⟨enabled, Ieee.retype_eq_nan.mpr nan⟩ number
  have ends := uintToFloat_ends RmdPMin RmdPMax
  exact ⟨ends.1 ▸ decoded 0, ends.2 ▸ decoded 65535⟩

/-- A conversion may return the smallest and the largest count. -/
theorem WithinAlways.ethercatPosition
    (always : WithinAlways operatingModes maxCurrents motor target) (limited : Limited motor)
    (ethercat : motor.bus = .ethercat) (hasMode : operatingModes[motor.globalIndex]? = some mode)
    (hasCurrent : maxCurrents[motor.globalIndex]? = some maxCurrent) (nan : target.pos = .nan) :
    PositionWithin motor.parameters (positionStep motor.parameters)
        (countsToRad (BitVec.intMin 32) motor.parameters) ∧
      PositionWithin motor.parameters (positionStep motor.parameters)
        (countsToRad (BitVec.intMax 32) motor.parameters) := by
  have decoded : ∀ counts : Int, PositionWithin motor.parameters
      (positionStep motor.parameters)
      (countsToRad (BitVec.ofInt 32 counts) motor.parameters) := by
    intro counts
    rcases always ⟨fun _ => counts, fun _ => 0⟩ with ⟨frames, converted, within⟩
    have inside := ((commandWithin_ethercat ethercat converted hasMode hasCurrent).mp within).pos
    rcases packedPosition_cases limited (target.map Ieee.retype) mode maxCurrent.toNat with
      ⟨-, packed⟩ | ⟨number, -⟩
    · rw [packed, packedPosition_nan] at inside
      exact inside
    · exact absurd (Ieee.retype_eq_nan.mpr nan) number
  have smallest : BitVec.ofInt 32 (-2147483648) = BitVec.intMin 32 := by decide
  have largest : BitVec.ofInt 32 2147483647 = BitVec.intMax 32 := by decide
  rw [← smallest, ← largest]
  exact ⟨decoded _, decoded _⟩

/-- A conversion may return the largest torque word of the mode. -/
theorem WithinAlways.ethercatTorque
    (always : WithinAlways operatingModes maxCurrents motor target) (limited : Limited motor)
    (ethercat : motor.bus = .ethercat) (hasMode : operatingModes[motor.globalIndex]? = some mode)
    (hasCurrent : maxCurrents[motor.globalIndex]? = some maxCurrent) (nan : target.tor = .nan) :
    torqueBound mode maxCurrent.toNat * torqueStep motor.parameters ≤
      motor.parameters.maximumTorque + torqueStep motor.parameters := by
  by_cases scale : torqueScale motor.parameters = 0
  · have idle : torqueStep motor.parameters = 0 := by simp [torqueStep, scale]
    rw [idle, mul_zero, add_zero]
    exact limited.torque.le
  rcases always (largestConversions maxCurrent.toNat) with ⟨frames, converted, within⟩
  have inside := ((commandWithin_ethercat ethercat converted hasMode hasCurrent).mp within).tor
  rcases packedTorque_cases limited (target.map Ieee.retype) mode maxCurrent.toNat with
    ⟨-, packed⟩ | ⟨number, -⟩
  · have largest := natAbs_targetTorque_nan scale packed rfl (Int.natCast_nonneg _)
    rw [abs_rawToTorque (limited.ethercat ethercat).1, abs_cast, ← Int.cast_natCast,
      largest] at inside
    exact inside
  · exact absurd (Ieee.retype_eq_nan.mpr nan) number

/-- Whatever the target vector holds, the position and torque that leave the SDK stay
within the limits exactly when no NaN reaches a conversion, or every integer it may
become decodes within the limits. -/
theorem limits_hold_iff (registry : MotorRegistry ℚ) (wellFormed : registry.WellFormed)
    (operatingModes : List Int) (modes : operatingModes.length = registry.totalMotorCount.toNat)
    (maxCurrents : List (BitVec 16))
    (currents : maxCurrents.length = registry.totalMotorCount.toNat) (metadata : FrameMetadata)
    (data : List (MotorTargetStruct (Ieee given)))
    (sized : (data.length : Int) = registry.totalMotorCount) (motor : RuntimeMotor ℚ)
    (member : motor ∈ registry.motors) (limited : Limited motor)
    (target : MotorTargetStruct (Ieee given)) (present : data[motor.globalIndex]? = some target)
    (mode : Int) (hasMode : operatingModes[motor.globalIndex]? = some mode)
    (maxCurrent : BitVec 16) (hasCurrent : maxCurrents[motor.globalIndex]? = some maxCurrent) :
    LimitsHold registry operatingModes maxCurrents metadata data motor ↔
      NanHarmless motor target mode maxCurrent := by
  constructor
  · intro hold
    have always := always_of_limitsHold wellFormed modes currents sized member present hold
    simp only [NanHarmless]
    cases bus : motor.bus with
    | can =>
        apply Classical.or_iff_not_imp_left.mpr
        intro passes
        rw [not_not] at passes
        exact always.can limited bus passes.1 passes.2
    | ethercat =>
        constructor
        · apply Classical.or_iff_not_imp_left.mpr
          intro nan
          exact always.ethercatPosition limited bus hasMode hasCurrent (not_not.mp nan)
        · apply Classical.or_iff_not_imp_left.mpr
          intro nan
          exact always.ethercatTorque limited bus hasMode hasCurrent (not_not.mp nan)
  · intro harmless unspecified frames published
    exact commandWithin_of_harmless limited
      (published_converted wellFormed member present published) hasMode hasCurrent harmless

/-- A registry of one CAN motor with limits at one radian and one newton metre. -/
def oneCanMotor : MotorRegistry ℚ where
  totalMotorCount := 1
  motors := [canMotor 1 default]
  backends := [{ bus := .can, master := 0, motorIndexes := [0] }]

theorem oneCanMotor_wellFormed : oneCanMotor.WellFormed where
  numbered := by simp [oneCanMotor, canMotor, RuntimeMotor.Numbered]
  partition := by simp [oneCanMotor]
  nonempty := by simp [oneCanMotor]
  placed := by simp [oneCanMotor, canMotor]
  aliases := by simp [oneCanMotor]

theorem oneCanMotor_limited : Limited (canMotor 1 default) where
  ordered := by decide +kernel
  torque := by decide +kernel
  can := fun _ => by decide +kernel
  ethercat := fun impossible => by contradiction

/-- A target that enables its motor at a position. -/
def targetAt (pos : Ieee zeroConversions) : MotorTargetStruct (Ieee zeroConversions) where
  pos := pos
  vel := .finite 0
  tor := .finite 0
  kp := .finite 0
  kd := .finite 0
  enabled := 1

theorem limits_hold_infinity :
    LimitsHold oneCanMotor [8] [1000] default [targetAt .posInf] (canMotor 1 default) := by
  apply (limits_hold_iff oneCanMotor oneCanMotor_wellFormed [8] rfl [1000] rfl default
    [targetAt .posInf] rfl (canMotor 1 default) (List.mem_singleton_self _) oneCanMotor_limited
    (targetAt .posInf) rfl 8 rfl 1000 rfl).mpr
  exact .inl fun passes => by cases passes.2

/-- The position NaN may leave as the code of 12.566 rad. -/
theorem limits_not_hold_nan :
    Limited (canMotor 1 default) ∧
      ¬ LimitsHold oneCanMotor [8] [1000] default [targetAt .nan] (canMotor 1 default) := by
  refine ⟨oneCanMotor_limited, fun hold => ?_⟩
  have always := always_of_limitsHold oneCanMotor_wellFormed rfl rfl rfl
    (List.mem_singleton_self _) rfl hold
  have ends := always.can oneCanMotor_limited rfl rfl rfl
  exact absurd ends.2.2 (by decide +kernel)

end RmdCanSdk
