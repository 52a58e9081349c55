import RmdCanSdk.Ethercat.Codes

/-!
# Unit conversions there and back

A drive that echoes the words of an RxPDO in its TxPDO returns the target up to the width
of the words, in every layout. A position that was parsed is packed as the count it came
from.
-/

namespace RmdCanSdk

/-! ## Words -/

/-- The words of a layout that carry motion, as targets or as feedback. -/
structure MotionWords where
  position : BitVec 32
  velocity : BitVec 32
  torque : BitVec 16

def HeimaStandardRxData.words (rx : HeimaStandardRxData) : MotionWords where
  position := rx.targetPosition
  velocity := rx.targetVelocity
  torque := rx.targetTorque

def HeimaPvtRxData.words (rx : HeimaPvtRxData) : MotionWords where
  position := rx.targetPosition
  velocity := rx.targetVelocity
  torque := rx.targetTorque

def HeimaStandardTxData.words (tx : HeimaStandardTxData) : MotionWords where
  position := tx.actualPosition
  velocity := tx.actualVelocity
  torque := tx.actualTorque

def HeimaDriverTxData.words (tx : HeimaDriverTxData) : MotionWords where
  position := tx.actualPosition
  velocity := tx.actualVelocity
  torque := tx.actualTorque

/-- The words both layouts of an RxPDO get for a target. -/
def packedWords {F : Type} [FloatArith F] (target : MotorTarget F) (params : MotorParameters F) :
    MotionWords where
  position := radToCounts (clampPosition target.pos params) params
  velocity := radDeltaToCounts target.vel params
  torque := targetTorque target params

/-- A sample has the motion that both layouts of a TxPDO make of some words. -/
structure ParsedFrom {F : Type} [FloatArith F] (words : MotionWords) (params : MotorParameters F)
    (actual : MotorActual F) : Prop where
  encoderCount : actual.encoderCount = words.position
  pos : actual.pos = countsToRad words.position params
  vel : actual.vel = countDeltaToRad words.velocity params
  tor : actual.tor = rawToTorque words.torque params

section

variable {F : Type} [FloatArith F] (params : MotorParameters F)

theorem words_packed (target : MotorTarget F) :
    (packEthercatStandardRxPdo target params).words = packedWords target params ∧
      (packEthercatPvtRxPdo target params).words = packedWords target params :=
  ⟨rfl, rfl⟩

theorem parsedFrom_standard (tx : HeimaStandardTxData) :
    ParsedFrom tx.words params (parseEthercatStandardTxPdo tx params) :=
  ⟨rfl, rfl, rfl, rfl⟩

theorem parsedFrom_extended (tx : HeimaDriverTxData) :
    ParsedFrom tx.words params (parseEthercatTxPdo tx params) :=
  ⟨rfl, rfl, rfl, rfl⟩

end

/-! ## Positions and velocities -/

variable {params : MotorParameters ℚ} {target : MotorTarget ℚ}

/-- Velocities are converted as positions are, without the bias. -/
def unbiased (params : MotorParameters ℚ) : MotorParameters ℚ := { params with countBias := 0 }

theorem radDeltaToCounts_eq (rad : ℚ) :
    radDeltaToCounts rad params = radToCounts rad (unbiased params) := by
  simp only [radDeltaToCounts, radToCounts, unbiased, add_zero]

theorem countDeltaToRad_eq (counts : BitVec 32) :
    countDeltaToRad counts params = countsToRad counts (unbiased params) := by
  simp only [countDeltaToRad, countsToRad, unbiased, sub_zero]

/-- A count that fits its word. -/
def FitsCount (count : Int) : Prop := -2 ^ 31 ≤ count ∧ count < 2 ^ 31

theorem toInt_radToCounts {rad : ℚ} (fits : FitsCount (roundHalfAway (exactCounts rad params))) :
    (radToCounts rad params).toInt = roundHalfAway (exactCounts rad params) :=
  BitVec.toInt_ofInt_eq_self (by decide) fits.1 fits.2

/-- A count is packed again as itself. -/
theorem radToCounts_countsToRad (unit : params.polarity = 1 ∨ params.polarity = -1)
    (nonzero : params.encoderResolution ≠ 0) (counts : BitVec 32) :
    radToCounts (countsToRad counts params) params = counts := by
  have circle := pi_pos.ne'
  have square := polarity_mul_self unit
  have exact : exactCounts (countsToRad counts params) params = counts.toInt := by
    rw [countsToRad_eq counts nonzero, exactCounts]
    field_simp
    linear_combination ((counts.toInt : ℚ) - params.countBias) * square
  have rounded : radToCounts (countsToRad counts params) params =
      BitVec.ofInt 32 (roundHalfAway (exactCounts (countsToRad counts params) params)) :=
    rfl
  rw [rounded, exact, roundHalfAway_intCast, BitVec.ofInt_toInt]

theorem abs_pos_sub_le (unit : params.polarity = 1 ∨ params.polarity = -1)
    (nonzero : params.encoderResolution ≠ 0) {rad : ℚ}
    (fits : FitsCount (roundHalfAway (exactCounts rad params))) :
    |countsToRad (radToCounts rad params) params - rad| ≤ positionStep params / 2 :=
  abs_countsToRad_roundHalfAway_sub_le unit nonzero (toInt_radToCounts fits)

theorem abs_vel_sub_le (unit : params.polarity = 1 ∨ params.polarity = -1)
    (nonzero : params.encoderResolution ≠ 0) {rad : ℚ}
    (fits : FitsCount (roundHalfAway (exactCounts rad (unbiased params)))) :
    |countDeltaToRad (radDeltaToCounts rad params) params - rad| ≤ positionStep params / 2 := by
  rw [countDeltaToRad_eq, radDeltaToCounts_eq]
  exact @abs_pos_sub_le (unbiased params) unit nonzero _ fits

/-! ## Torques -/

/-- A number of thousandths that fits its word. -/
def FitsTorque (raw : Int) : Prop := -2 ^ 15 ≤ raw ∧ raw < 2 ^ 15

/-- The thousandths a target asks for, before they become an integer. -/
def targetRaw (target : MotorTarget ℚ) (params : MotorParameters ℚ) : ℚ :=
  exactRaw (clampTorque target.tor params) params

/-- The limit of the current leaves the torque as it is. -/
def Unlimited (target : MotorTarget ℚ) (params : MotorParameters ℚ) : Prop :=
  |roundHalfAway (targetRaw target params)| ≤ max 0 target.maxCurrent

theorem toInt_targetTorque_truncated (scale : torqueScale params ≠ 0) (mode : target.mode = 5)
    (fits : FitsTorque (truncate (targetRaw target params))) :
    (targetTorque target params).toInt = truncate (targetRaw target params) := by
  have word : targetTorque target params =
      BitVec.ofInt 16 (truncate (targetRaw target params)) := by
    rw [targetTorque, if_neg (by omega), if_neg (by omega)]
    apply if_neg
    simpa [torqueScale] using scale
  rw [word]
  exact BitVec.toInt_ofInt_eq_self (by decide) fits.1 fits.2

/-- A current within its limit is not changed. -/
theorem limitedRaw_eq {raw : BitVec 32} {maxCurrent : Int}
    (unlimited : |raw.toInt| ≤ max 0 maxCurrent) :
    limitedRaw raw maxCurrent = BitVec.ofInt 16 raw.toInt := by
  have bounds := abs_le.mp unlimited
  simp only [limitedRaw]
  split
  next negative => rw [if_neg (by omega), if_neg (by omega)]
  next nonneg => rw [if_neg (by omega), if_neg (by omega)]

theorem toInt_targetTorque_rounded (scale : torqueScale params ≠ 0) (mode : target.mode = 10)
    (unlimited : Unlimited target params)
    (fits : FitsTorque (roundHalfAway (targetRaw target params))) :
    (targetTorque target params).toInt = roundHalfAway (targetRaw target params) := by
  have narrow : (BitVec.ofInt 32 (roundHalfAway (targetRaw target params))).toInt =
      roundHalfAway (targetRaw target params) := by
    apply BitVec.toInt_ofInt_eq_self (by decide)
    · have lower := fits.1
      omega
    · have upper := fits.2
      omega
  have word : targetTorque target params =
      limitedRaw (BitVec.ofInt 32 (roundHalfAway (targetRaw target params)))
        target.maxCurrent := by
    rw [targetTorque, if_neg (by omega), if_pos mode]
    apply if_neg
    simpa [torqueScale] using scale
  rw [word, limitedRaw_eq (by rw [narrow]; exact unlimited), narrow]
  exact BitVec.toInt_ofInt_eq_self (by decide) fits.1 fits.2

theorem torqueStep_pos (scale : torqueScale params ≠ 0) : 0 < torqueStep params :=
  div_pos (abs_pos.mpr scale) (by norm_num)

/-! ## Whole targets -/

/-- The converted values of a target fit their words. A current counts only where its
limit does not replace it. -/
structure Fits (params : MotorParameters ℚ) (target : MotorTarget ℚ) : Prop where
  position : FitsCount (roundHalfAway (exactCounts (clampPosition target.pos params) params))
  velocity : FitsCount (roundHalfAway (exactCounts target.vel (unbiased params)))
  torque : target.mode = 5 → FitsTorque (truncate (targetRaw target params))
  current : target.mode = 10 → Unlimited target params →
    FitsTorque (roundHalfAway (targetRaw target params))

/-- A sample gives a target back, up to the steps of its words. -/
structure Recovers (params : MotorParameters ℚ) (target : MotorTarget ℚ)
    (actual : MotorActual ℚ) : Prop where
  position : |actual.pos - max params.minimumPosition (min target.pos params.maximumPosition)| ≤
    positionStep params / 2
  velocity : |actual.vel - target.vel| ≤ positionStep params / 2
  torque : target.mode = 5 →
    |actual.tor - clampTorque target.tor params| < torqueStep params
  current : target.mode = 10 → Unlimited target params →
    |actual.tor - clampTorque target.tor params| ≤ torqueStep params / 2

theorem clampPosition_eq (ordered : params.minimumPosition ≤ params.maximumPosition) (rad : ℚ) :
    clampPosition rad params = max params.minimumPosition (min rad params.maximumPosition) := by
  simp only [clampPosition, clamp]
  grind

/-- What is parsed from the words of a target recovers it. -/
theorem recovers_packedWords (unit : params.polarity = 1 ∨ params.polarity = -1)
    (nonzero : params.encoderResolution ≠ 0) (scale : torqueScale params ≠ 0)
    (ordered : params.minimumPosition ≤ params.maximumPosition) (fits : Fits params target)
    {actual : MotorActual ℚ} (parsed : ParsedFrom (packedWords target params) params actual) :
    Recovers params target actual where
  position := by
    rw [parsed.pos, ← clampPosition_eq ordered]
    exact abs_pos_sub_le unit nonzero fits.position
  velocity := by
    rw [parsed.vel]
    exact abs_vel_sub_le unit nonzero fits.velocity
  torque := by
    intro mode
    have truncated := abs_truncate_sub_lt (targetRaw target params)
    rw [parsed.tor, abs_rawToTorque_sub unit scale]
    simp only [packedWords]
    rw [toInt_targetTorque_truncated scale mode (fits.torque mode)]
    exact mul_lt_of_lt_one_left (torqueStep_pos scale) truncated
  current := by
    intro mode unlimited
    have rounded := abs_roundHalfAway_sub_le (targetRaw target params)
    rw [parsed.tor, abs_rawToTorque_sub unit scale]
    simp only [packedWords]
    rw [toInt_targetTorque_rounded scale mode unlimited (fits.current mode unlimited)]
    have scaled := mul_le_mul_of_nonneg_right rounded (torqueStep_pos scale).le
    rw [targetRaw] at scaled ⊢
    linarith

/-- The conversions of both directions, in all layouts, undo each other. -/
structure UnitsInverse (params : MotorParameters ℚ) : Prop where
  /-- Both RxPDO layouts carry the same words. -/
  sameRx : ∀ target : MotorTarget ℚ, (packEthercatStandardRxPdo target params).words =
    (packEthercatPvtRxPdo target params).words
  /-- Both TxPDO layouts are parsed to the same motion. -/
  sameTx : ∀ (standard : HeimaStandardTxData) (extended : HeimaDriverTxData),
    standard.words = extended.words →
      let left := parseEthercatStandardTxPdo standard params
      let right := parseEthercatTxPdo extended params
      (left.encoderCount, left.pos, left.vel, left.tor) =
        (right.encoderCount, right.pos, right.vel, right.tor)
  /-- A TxPDO that echoes the words of a target is parsed to it. -/
  echoedStandard : ∀ target, Fits params target → ∀ tx : HeimaStandardTxData,
    tx.words = (packEthercatStandardRxPdo target params).words →
      Recovers params target (parseEthercatStandardTxPdo tx params)
  echoedExtended : ∀ target, Fits params target → ∀ tx : HeimaDriverTxData,
    tx.words = (packEthercatStandardRxPdo target params).words →
      Recovers params target (parseEthercatTxPdo tx params)
  /-- A parsed position inside the limits is packed as the count it was parsed from. -/
  repackedStandard : ∀ (tx : HeimaStandardTxData) (target : MotorTarget ℚ),
    target.pos = (parseEthercatStandardTxPdo tx params).pos →
      params.minimumPosition ≤ target.pos → target.pos ≤ params.maximumPosition →
        (packEthercatStandardRxPdo target params).targetPosition = tx.actualPosition
  repackedExtended : ∀ (tx : HeimaDriverTxData) (target : MotorTarget ℚ),
    target.pos = (parseEthercatTxPdo tx params).pos →
      params.minimumPosition ≤ target.pos → target.pos ≤ params.maximumPosition →
        (packEthercatStandardRxPdo target params).targetPosition = tx.actualPosition

/-- A parsed position inside the limits is packed as the count it was parsed from. -/
theorem position_packedWords (unit : params.polarity = 1 ∨ params.polarity = -1)
    (nonzero : params.encoderResolution ≠ 0) {words : MotionWords} {actual : MotorActual ℚ}
    (parsed : ParsedFrom words params actual) (same : target.pos = actual.pos)
    (aboveMinimum : params.minimumPosition ≤ target.pos)
    (belowMaximum : target.pos ≤ params.maximumPosition) :
    (packedWords target params).position = words.position := by
  have inside : clampPosition target.pos params = target.pos :=
    clamp_eq_self aboveMinimum belowMaximum
  simp only [packedWords]
  rw [inside, same, parsed.pos]
  exact radToCounts_countsToRad unit nonzero words.position

theorem ethercat_units_inverse (params : MotorParameters ℚ)
    (unit : params.polarity = 1 ∨ params.polarity = -1)
    (resolution : 0 < params.encoderResolution)
    (scale : 0 < params.ratedCurrent * params.torqueConstant)
    (ordered : params.minimumPosition ≤ params.maximumPosition) : UnitsInverse params := by
  have nonzero := resolution.ne'
  have scaled : torqueScale params ≠ 0 := by
    rw [torqueScale, mul_comm]
    exact scale.ne'
  constructor
  case sameRx =>
    intro target
    rw [(words_packed params target).1, (words_packed params target).2]
  case sameTx =>
    intro standard extended same
    have left := parsedFrom_standard params standard
    have right := parsedFrom_extended params extended
    simp only
    rw [left.encoderCount, left.pos, left.vel, left.tor, right.encoderCount, right.pos,
      right.vel, right.tor, same]
  case echoedStandard =>
    intro target fits tx echoed
    have parsed := parsedFrom_standard params tx
    rw [echoed, (words_packed params target).1] at parsed
    exact recovers_packedWords unit nonzero scaled ordered fits parsed
  case echoedExtended =>
    intro target fits tx echoed
    have parsed := parsedFrom_extended params tx
    rw [echoed, (words_packed params target).1] at parsed
    exact recovers_packedWords unit nonzero scaled ordered fits parsed
  case repackedStandard =>
    intro tx target same aboveMinimum belowMaximum
    exact position_packedWords unit nonzero (parsedFrom_standard params tx) same aboveMinimum
      belowMaximum
  case repackedExtended =>
    intro tx target same aboveMinimum belowMaximum
    exact position_packedWords unit nonzero (parsedFrom_extended params tx) same aboveMinimum
      belowMaximum

/-- The conversions of a drive that is mounted reversed and has a bias. -/
def reversedParameters : MotorParameters ℚ := { (default : MotorParameters ℚ) with
  polarity := -1
  countBias := 7
  encoderResolution := 131072
  ratedCurrent := 3
  torqueConstant := 2
  minimumPosition := -1
  maximumPosition := 1 }

theorem ethercat_units_inverse_reversed : UnitsInverse reversedParameters :=
  ethercat_units_inverse reversedParameters (.inr rfl) (by norm_num [reversedParameters])
    (by norm_num [reversedParameters]) (by norm_num [reversedParameters])

end RmdCanSdk
