import RmdCanSdk.Can.Command
import RmdCanSdk.Can.TxLoop

/-!
# What stopping leaves behind

A motor is left with the command of the last cycle that reached it. Which commands leave a
motor without effort is a matter of the rounding of single precision, which cycles reached
it a matter of the schedule.
-/

namespace RmdCanSdk

variable {F : Type} [FloatArith F]

/-! ## Commands that leave a motor without effort -/

/-- A command with zero gains and the torque code of zero. -/
structure ZeroEffort (maxTorqueNm : F) (fields : MitFields) : Prop where
  kp : fields.kp = 0
  kd : fields.kd = 0
  torque : fields.torque = (floatToUint (lit 0) (-positiveTorqueLimit maxTorqueNm)
    (positiveTorqueLimit maxTorqueNm) 12).setWidth 12

section

variable {unspecified : Unspecified}

/-- A gain with the code of zero: a number below the first one that is rounded up, or NaN if
its conversion ends in zeros. -/
def GainVanishes (gain : Binary32 unspecified) (least : ℚ) : Prop :=
  gain.value < .finite least ∨
    gain.value = .nan ∧ (BitVec.ofInt 16 (unspecified.lround .nan)).setWidth 12 = 0#12

/-- The gains of an enabled target are sent as zero, and its limited torque with the code of
zero. -/
structure RoundsToZero (params : MotorParameters (Binary32 unspecified))
    (target : MotorTarget (Binary32 unspecified)) : Prop where
  kp : GainVanishes target.kp (16388001 / 2 ^ 28)
  kd : GainVanishes target.kd (13110401 / 2 ^ 31)
  torque : (floatToUint (clamp target.tor (-params.maximumTorque) params.maximumTorque)
      (-positiveTorqueLimit params.maximumTorque) (positiveTorqueLimit params.maximumTorque)
        12).setWidth 12 =
    (floatToUint (lit 0) (-positiveTorqueLimit params.maximumTorque)
      (positiveTorqueLimit params.maximumTorque) 12).setWidth 12

/-- A target that leaves its motor without effort: a disabled one, unless the limits of
the torque are swapped by more than rounding removes, or one that rounds to zero. -/
def Harmless (params : MotorParameters (Binary32 unspecified))
    (target : MotorTarget (Binary32 unspecified)) : Prop :=
  if target.enabled = 1 then RoundsToZero params target
  else params.maximumTorque.value = .nan ∨
    .finite (-12291 / 2 ^ 20) < params.maximumTorque.value

/-! ### Gains -/

/-- A clamped gain is sent as zero below the first number that is rounded up. -/
theorem gainField_eq_zero_iff {limit : ℚ} (range : PlainRange 0 limit 12)
    {limit' clamped : Binary32 unspecified} (isLimit : limit'.value = .finite limit)
    {digits exponent : ℤ} (smallest : -149 ≤ exponent) (leading : 2 ^ 23 < digits)
    (few : digits ≤ 2 ^ 24)
    (below : roundedCode ((digits - 1 : ℤ) * 2 ^ exponent) 0 limit 12 < (0 : ℤ) + 1 / 2)
    (reached : ((0 : ℤ) : ℚ) + 1 / 2 ≤ roundedCode (digits * 2 ^ exponent) 0 limit 12)
    {gain : ℚ} (isGain : clamped.value = .finite gain) :
    (floatToUint clamped (lit 0) limit' 12).setWidth 12 = 0#12 ↔ gain < digits * 2 ^ exponent := by
  have code := range.roundHalfAway_mem gain
  rw [← range.code_le_iff gain le_rfl _ _ smallest leading few below reached
    (BinaryFloat.exact_of_finite isGain).1,
    range.floatToUint_eq _ isGain BinaryFloat.value_lit_zero isLimit, ← BitVec.toNat_inj,
    BitVec.toNat_setWidth, BitVec.toNat_ofInt]
  have zero : (0#12).toNat = 0 := rfl
  rw [zero]
  omega

theorem gain_vanishes_iff {limit : ℚ} (range : PlainRange 0 limit 12)
    {limit' : Binary32 unspecified} (isLimit : limit'.value = .finite limit)
    {digits exponent : ℤ} (smallest : -149 ≤ exponent) (leading : 2 ^ 23 < digits)
    (few : digits ≤ 2 ^ 24)
    (below : roundedCode ((digits - 1 : ℤ) * 2 ^ exponent) 0 limit 12 < (0 : ℤ) + 1 / 2)
    (reached : ((0 : ℤ) : ℚ) + 1 / 2 ≤ roundedCode (digits * 2 ^ exponent) 0 limit 12)
    (inside : digits * 2 ^ exponent ≤ limit) (gain : Binary32 unspecified) :
    (floatToUint (clamp gain (lit 0) limit') (lit 0) limit' 12).setWidth 12 = 0#12 ↔
      GainVanishes gain (digits * 2 ^ exponent) := by
  have positive : (0 : ℚ) < digits * 2 ^ exponent := by
    have digitsPos : (0 : ℚ) < digits := by exact_mod_cast (by omega : 0 < digits)
    exact mul_pos digitsPos (RoundingFormat.two_zpow_pos exponent)
  have clamped : (clamp gain (lit 0) limit').value =
      clamp gain.value (.finite 0) (.finite limit) := by
    rw [value_clamp, BinaryFloat.value_lit_zero, isLimit]
  have field : ∀ kept, clamp gain.value (.finite 0) (.finite limit) = .finite kept →
      ((floatToUint (clamp gain (lit 0) limit') (lit 0) limit' 12).setWidth 12 = 0#12 ↔
        kept < digits * 2 ^ exponent) := fun kept isKept =>
    gainField_eq_zero_iff range isLimit smallest leading few below reached (clamped.trans isKept)
  cases isGain : gain.value with
  | nan =>
      have none : (clamp gain (lit 0) limit').value = .nan := by rw [clamped, isGain, clamp_nan]
      rw [GainVanishes, isGain, floatToUint_value_nan none]
      simp
  | posInf =>
      have kept : clamp gain.value (.finite 0) (.finite limit) = .finite limit := by
        simp [isGain, clamp]
      rw [field limit kept, GainVanishes, isGain]
      simp [inside]
  | negInf =>
      have kept : clamp gain.value (.finite 0) (.finite limit) = .finite 0 := by
        simp [isGain, clamp]
      rw [field 0 kept, GainVanishes, isGain]
      simp [positive]
  | finite value =>
      have kept : clamp gain.value (.finite 0) (.finite limit) = .finite (clamp value 0 limit) := by
        rw [isGain, clamp_finite]
      rw [field _ kept, GainVanishes, isGain]
      simp only [Ieee.finite_lt, reduceCtorEq, false_and, or_false]
      rw [clamp]
      split
      · constructor <;> intro <;> linarith
      · split
        · constructor <;> intro <;> linarith
        · exact Iff.rfl

theorem kp_vanishes_iff (gain : Binary32 unspecified) :
    (floatToUint (clamp gain RmdKpMin RmdKpMax) RmdKpMin RmdKpMax 12).setWidth 12 = 0#12 ↔
      GainVanishes gain (16388001 / 2 ^ 28) := by
  have least : (16388001 : ℤ) * 2 ^ (-28 : ℤ) = (16388001 / 2 ^ 28 : ℚ) := by norm_num
  rw [← least]
  exact gain_vanishes_iff kpRange value_RmdKpMax (by decide) (by decide) (by decide)
    (by decide +kernel) (by decide +kernel) (by norm_num) gain

theorem kd_vanishes_iff (gain : Binary32 unspecified) :
    (floatToUint (clamp gain RmdKdMin RmdKdMax) RmdKdMin RmdKdMax 12).setWidth 12 = 0#12 ↔
      GainVanishes gain (13110401 / 2 ^ 31) := by
  have least : (13110401 : ℤ) * 2 ^ (-31 : ℤ) = (13110401 / 2 ^ 31 : ℚ) := by norm_num
  rw [← least]
  exact gain_vanishes_iff kdRange value_RmdKdMax (by decide) (by decide) (by decide)
    (by decide +kernel) (by decide +kernel) (by norm_num) gain

/-! ### Torque -/

theorem clamp_zero_of_not_lt {limit : Binary32 unspecified} (lower : ¬ lit 0 < -limit)
    (upper : ¬ limit < lit 0) : clamp (lit 0) (-limit) limit = lit 0 := by
  rw [clamp, if_neg lower, if_neg upper]

/-- A limit of minus infinity turns zero into the infinity that every range clamps to its end. -/
theorem torque_code_negInf {maximumTorque : Binary32 unspecified}
    (isMaximum : maximumTorque.value = .negInf) :
    (floatToUint (clamp (lit 0) (-maximumTorque) maximumTorque)
        (-positiveTorqueLimit maximumTorque) (positiveTorqueLimit maximumTorque) 12).setWidth 12 ≠
      (floatToUint (lit 0) (-positiveTorqueLimit maximumTorque)
        (positiveTorqueLimit maximumTorque) 12).setWidth 12 := by
  have negated : (-maximumTorque).value = .posInf := by
    rw [BinaryFloat.value_neg, isMaximum]
    rfl
  have swapped : clamp (lit 0) (-maximumTorque) maximumTorque = -maximumTorque := by
    rw [clamp, if_pos]
    rw [BinaryFloat.lt_iff, negated, BinaryFloat.value_lit_zero]
    exact Ieee.finite_lt_posInf 0
  have default : positiveTorqueLimit maximumTorque = lit 24 := by
    rw [positiveTorqueLimit, if_neg]
    · rfl
    · rw [BinaryFloat.isFinite_eq, isMaximum]
      exact fun finite => by cases finite.1
  have upper : (lit 24 : Binary32 unspecified).value = .finite 24 :=
    BinaryFloat.value_lit_eq (by decide +kernel) (by norm_num)
  have lower := BinaryFloat.value_neg_finite upper
  have same : clamp (-maximumTorque) (-lit 24) (lit 24) =
      clamp (lit 24 : Binary32 unspecified) (-lit 24) (lit 24) := by
    rw [BinaryFloat.ext_iff, value_clamp, value_clamp, negated, lower, upper, clamp_finite,
      clamp_eq_self (by norm_num) le_rfl]
    rfl
  have ended : floatToUint (-maximumTorque) (-lit 24) (lit 24) 12 =
      floatToUint (lit 24 : Binary32 unspecified) (-lit 24) (lit 24) 12 := by
    rw [floatToUint, floatToUint, same]
  rw [default, swapped, ended, defaultTorqueRange.floatToUint_eq _ upper lower upper,
    defaultTorqueRange.floatToUint_eq _ BinaryFloat.value_lit_zero lower upper, Ne,
    defaultTorqueRange.setWidth_inj, torqueCode_eq_zero_iff (by norm_num)
      (BinaryFloat.exact_of_finite upper).1]
  norm_num

/-- Zero keeps its torque code under every limit that is not below the first one that swaps
the bounds too far. -/
theorem torque_code_float_iff (maximumTorque : Binary32 unspecified) :
    (floatToUint (clamp (lit 0) (-maximumTorque) maximumTorque)
        (-positiveTorqueLimit maximumTorque) (positiveTorqueLimit maximumTorque) 12).setWidth 12 =
      (floatToUint (lit 0) (-positiveTorqueLimit maximumTorque)
        (positiveTorqueLimit maximumTorque) 12).setWidth 12 ↔
      maximumTorque.value = .nan ∨ .finite (-12291 / 2 ^ 20) < maximumTorque.value := by
  have negated : (-maximumTorque).value = (-maximumTorque.value).rounded .binary32 := rfl
  cases isMaximum : maximumTorque.value with
  | nan =>
      rw [isMaximum] at negated
      rw [clamp_zero_of_not_lt]
      · exact iff_of_true rfl (.inl rfl)
      · rw [BinaryFloat.lt_iff, negated]
        exact Ieee.not_lt_nan _
      · rw [BinaryFloat.lt_iff, isMaximum]
        exact Ieee.not_nan_lt _
  | posInf =>
      rw [isMaximum] at negated
      rw [clamp_zero_of_not_lt]
      · exact iff_of_true rfl (.inr (Ieee.finite_lt_posInf _))
      · rw [BinaryFloat.lt_iff, negated]
        exact Ieee.not_lt_negInf _
      · rw [BinaryFloat.lt_iff, isMaximum]
        exact Ieee.posInf_lt _
  | negInf => exact iff_of_false (torque_code_negInf isMaximum) (by simp)
  | finite value =>
      simp only [reduceCtorEq, false_or, Ieee.finite_lt]
      exact torque_code_iff isMaximum

/-- The command of a target leaves the motor without effort exactly when the target is
harmless. -/
theorem zeroEffort_iff (motor : RuntimeMotor (Binary32 unspecified))
    (target : MotorTarget (Binary32 unspecified)) :
    ZeroEffort motor.parameters.maximumTorque (mitFields (mitCommand motor target)) ↔
      Harmless motor.parameters target := by
  by_cases enabled : target.enabled = 1
  · have unchanged : transmittedTarget motor target =
        (limitTarget target motor.parameters).target := by
      rw [transmittedTarget]
      rw [if_neg (not_not.mpr enabled)]
    have kp := kp_vanishes_iff target.kp
    have kd := kd_vanishes_iff target.kd
    rw [Harmless, if_pos enabled, mitCommand, mitFields_packMit, unchanged]
    constructor
    · intro zero
      exact ⟨kp.mp zero.kp, kd.mp zero.kd, zero.torque⟩
    · intro zero
      exact ⟨kp.mpr zero.kp, kd.mpr zero.kd, zero.torque⟩
  · have gains := gainFields_disabled motor enabled
    rw [Harmless, if_neg enabled, ← torque_code_float_iff]
    constructor
    · intro zero
      have torque := zero.torque
      rw [mitCommand, mitFields_packMit, transmittedTarget_disabled motor enabled] at torque
      exact torque
    · intro torque
      refine ⟨gains.1, gains.2, ?_⟩
      rw [mitCommand, mitFields_packMit, transmittedTarget_disabled motor enabled]
      exact torque

end

/-! ## What a run leaves behind -/

namespace TxRuntime

variable {G : Type} [FloatArith G]

/-- The frame published last disables the motor. -/
def EndsDisabled (runtime : TxRuntime G) (motor : RuntimeMotor G) : Prop :=
  runtime.targetBuffer.published ≠ [] ∧
    (runtime.targetBuffer.latest.targets motor.globalIndex).enabled ≠ 1

/-- What stopping is meant to leave behind: no motor's last command has an effort, and
a frame published last that disables a motor was sent to it. -/
structure LeavesInert (group : CanGroup G) (runtime : TxRuntime G) : Prop where
  effortless : ∀ motor ∈ group.motors, ∀ entry, lastCommand runtime.sent motor = some entry →
    ZeroEffort motor.parameters.maximumTorque (mitFields entry.data)
  transmitted : ∀ motor ∈ group.motors, runtime.EndsDisabled motor → ∃ entry,
    .command entry ∈ runtime.sent ∧ entry.motor = motor ∧
      entry.source = runtime.targetBuffer.published.length

variable {group : CanGroup G} {runtime : TxRuntime G} {motor : RuntimeMotor G} {entry : Command G}

omit [FloatArith G] in
theorem mem_commandTo {sent : List (Transmission G)}
    (member : entry ∈ sent.filterMap (Transmission.commandTo motor)) :
    .command entry ∈ sent ∧ entry.motor.globalIndex = motor.globalIndex := by
  rcases List.mem_filterMap.mp member with ⟨transmission, inSent, commanded⟩
  cases transmission with
  | statusRequest other => contradiction
  | command other =>
      simp only [Transmission.commandTo] at commanded
      split at commanded
      next same =>
        cases commanded
        exact ⟨inSent, same⟩
      next => contradiction

/-- The last command to a motor of the group was computed from a frame of the buffer. -/
theorem Traced.lastCommand (traced : Traced group runtime) (inGroup : motor ∈ group.motors)
    (last : lastCommand runtime.sent motor = some entry) :
    ∃ frame, runtime.targetBuffer.values[entry.source]? = some frame ∧
      entry.data = mitCommand motor (frame.targets motor.globalIndex) := by
  rcases mem_commandTo (List.mem_of_getLast? last) with ⟨sent, same⟩
  rcases traced.computed entry (List.mem_append_left _ sent) with ⟨ownGroup, frame, read, data⟩
  cases group.eq_of_globalIndex ownGroup inGroup same
  exact ⟨frame, read, data⟩

/-- The values of the target buffer after a run. -/
theorem started_values {totalMotorCount : Nat} {events : List (TxEvent G)}
    (ran : Transition.run (step group) (started totalMotorCount) events = some runtime) :
    runtime.targetBuffer.values = initialTargets totalMotorCount :: publishedFrames events :=
  run_values ran

/-- Which frame disables the motor last can be told from the schedule. -/
theorem endsDisabled_iff {totalMotorCount : Nat} {events : List (TxEvent G)}
    (ran : Transition.run (step group) (started totalMotorCount) events = some runtime) :
    runtime.EndsDisabled motor ↔ ∃ frame, (publishedFrames events).getLast? = some frame ∧
      (frame.targets motor.globalIndex).enabled ≠ 1 := by
  have values := started_values ran
  have published : runtime.targetBuffer.published = publishedFrames events := by
    rw [LatestValue.published, values, List.tail_cons]
  rw [EndsDisabled, published]
  rcases List.eq_nil_or_concat (publishedFrames events) with none | ⟨front, last, some⟩
  · simp [none]
  · have concat : runtime.targetBuffer.values =
        (initialTargets totalMotorCount :: front) ++ [last] := by
      rw [values, some, List.concat_eq_append]
      rfl
    simp [some, LatestValue.latest_of_concat concat]

end TxRuntime

/-- A schedule that leaves the motors of a group inert: for every motor, the frame read in the
last cycle that reached it is harmless for it, and it is the one published last if that
disables the motor. -/
def SchedulesInert {unspecified : Unspecified} (group : CanGroup (Binary32 unspecified))
    (totalMotorCount : Nat) (events : List (TxEvent (Binary32 unspecified))) : Prop :=
  ∀ index motor, group.motors[index]? = some motor →
    (∀ position frame, lastAccepted index events = some position →
      (initialTargets totalMotorCount :: publishedFrames events)[position]? = some frame →
        Harmless motor.parameters (frame.targets motor.globalIndex)) ∧
    (∀ frame, (publishedFrames events).getLast? = some frame →
      (frame.targets motor.globalIndex).enabled ≠ 1 →
        lastAccepted index events = some (publishedFrames events).length)

section

open TxRuntime

variable {unspecified : Unspecified} {group : CanGroup (Binary32 unspecified)}
variable {totalMotorCount : Nat} {events : List (TxEvent (Binary32 unspecified))}
variable {finish : TxRuntime (Binary32 unspecified)}

/-- The frames that a schedule has read last tell what its run leaves behind. -/
theorem SchedulesInert.leaves (schedule : SchedulesInert group totalMotorCount events)
    (ran : Transition.run (step group) (started totalMotorCount) events = some finish) :
    LeavesInert group finish := by
  have traced := run_traced ran
  have values := started_values ran
  constructor
  · intro motor inGroup entry last
    rcases List.mem_iff_getElem?.mp inGroup with ⟨index, own⟩
    rcases traced.lastCommand inGroup last with ⟨frame, read, data⟩
    have accepted := run_lastCommand own ran
    rw [last, Option.map_some] at accepted
    rw [data]
    apply (zeroEffort_iff motor _).mpr
    exact (schedule index motor own).1 _ frame accepted.symm (values ▸ read)
  · intro motor inGroup ends
    rcases List.mem_iff_getElem?.mp inGroup with ⟨index, own⟩
    rcases (endsDisabled_iff ran).mp ends with ⟨frame, isLatest, disabled⟩
    have accepted := (schedule index motor own).2 frame isLatest disabled
    rw [← run_lastCommand own ran] at accepted
    rcases Option.map_eq_some_iff.mp accepted with ⟨entry, last, source⟩
    rcases mem_commandTo (List.mem_of_getLast? last) with ⟨sent, same⟩
    have ownGroup := (traced.computed entry (List.mem_append_left _ sent)).1
    refine ⟨entry, sent, group.eq_of_globalIndex ownGroup inGroup same, ?_⟩
    rw [source, LatestValue.published, values, List.tail_cons]

end

end RmdCanSdk
