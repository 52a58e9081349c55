import RmdCanSdk.Driver.Written
import RmdCanSdk.Ethercat.TorqueRequest
import RmdCanSdk.MitCodes

/-!
# The sign of the TargetTorque word

A finite torque is clamped, scaled in single precision and converted to 16 bits. The word
keeps the direction of the torque and its limit exactly where the conversions of its mode can
represent the number they are given, and rounding has not carried it beyond the limit: the
limit of a current reaches further than the word it is written to.
-/

namespace RmdCanSdk

open RoundingFormat

/-- The thousandths of the maximum torque, to the nearest unit. -/
def torqueLimit (params : MotorParameters Single) : Int :=
  roundHalfAway (1000 * params.maximumTorque.value /
    (params.ratedCurrent.value * params.torqueConstant.value))

/-- A word that drives in the direction of the torque and stays within the limits. -/
structure TorqueKept (params : MotorParameters Single) (torque : Single) (mode : Int)
    (maxCurrent : BitVec 16) (word : Int) : Prop where
  direction : word = 0 ∨ 0 < word * (params.polarity.value * torque.value)
  limit : |word| ≤ torqueLimit params
  current : mode = 10 → |word| ≤ maxCurrent.toNat

/-- Every TargetTorque that is written for a target with this torque is a kept one,
whatever conversions return on values they cannot represent. -/
def TorqueAlwaysKept (params : MotorParameters Single) (torque : Single) (mode : Int)
    (maxCurrent : BitVec 16) : Prop :=
  ∀ (unspecified : Unspecified) (item : MotorTargetStruct (Binary32 unspecified))
    (rxProfile : EthercatMtDeviceRxProfile) (rx : Bytes), item.tor = .number torque →
    WrittenFor item (params.map .number) mode maxCurrent rxProfile rx →
      TorqueKept params torque mode maxCurrent (rx.read16 10).toInt

/-- The conversions of the mode can represent the request, and it is within the limit. -/
def TorqueFits (params : MotorParameters Single) (torque : Single) (mode : Int)
    (maxCurrent : BitVec 16) : Prop :=
  if mode = 8 then True
  else if mode = 10 then maxCurrent = 0 ∨ ∃ requested ∈ roundedRequest torque params,
    RequestKept requested maxCurrent.toNat (torqueLimit params)
  else ∃ requested ∈ truncatedRequest torque params, |requested| ≤ torqueLimit params

variable {params : MotorParameters Single} {torque : Single} {mode : Int} {maxCurrent : BitVec 16}
variable {unspecified : Unspecified}

/-- A word drives in the direction of the torque where it has the sign of the request. -/
theorem direction_iff {word requested : Int}
    (sign : (0 < requested → 0 < params.polarity.value * torque.value) ∧
      (requested < 0 → params.polarity.value * torque.value < 0))
    (asked : requested = 0 → word = 0) :
    (word = 0 ∨ 0 < word * (params.polarity.value * torque.value)) ↔
      word = 0 ∨ (0 < requested ∧ 0 < word) ∨ (requested < 0 ∧ word < 0) := by
  rcases lt_trichotomy requested 0 with negative | zero | positive
  · have reversed := sign.2 negative
    rw [← neg_mul_neg, mul_pos_iff_of_pos_right (neg_pos.mpr reversed), neg_pos]
    have cast : (word : ℚ) < 0 ↔ word < 0 := by exact_mod_cast Iff.rfl
    rw [cast]
    omega
  · simp [asked zero]
  · have same := sign.1 positive
    rw [mul_pos_iff_of_pos_right same]
    have cast : 0 < (word : ℚ) ↔ 0 < word := by exact_mod_cast Iff.rfl
    rw [cast]
    omega

/-! ## When the word is kept -/

/-- The second clamp finds nothing left to clamp. -/
theorem isClamped_clampTorque {item : MotorTargetStruct (Binary32 unspecified)}
    (tor : item.tor = .number torque) (maximum : 0 ≤ params.maximumTorque.value) :
    IsClamped torque params (clampTorque (toEthercatTarget item (params.map .number) mode
      maxCurrent.toNat).tor (params.map .number)) := by
  have clamps : clampTorque (toEthercatTarget item (params.map .number) mode
      maxCurrent.toNat).tor (params.map .number) =
        clamp (clamp item.tor (-.number params.maximumTorque) (.number params.maximumTorque))
          (-.number params.maximumTorque) (.number params.maximumTorque) := rfl
  have bounds := clamp_mem torque.value (neg_le_self maximum)
  rw [IsClamped, clamps, tor, value_clamp, value_clamp, BinaryFloat.value_neg_number,
    BinaryFloat.value_number, BinaryFloat.value_number, clamp_finite, clamp_finite,
    clamp_eq_self bounds.1 bounds.2]

/-- A target that asks for a torque and nothing else. -/
def torqueItem (unspecified : Unspecified) (torque : Single) :
    MotorTargetStruct (Binary32 unspecified) where
  pos := lit 0
  vel := lit 0
  tor := .number torque
  kp := lit 0
  kd := lit 0
  enabled := 1

/-- The words that are written are those of the clamped torque. -/
theorem torqueAlwaysKept_iff_words (maximum : 0 ≤ params.maximumTorque.value)
    (word : (unspecified : Unspecified) → Binary32 unspecified → BitVec 16)
    (isWord : ∀ unspecified (target : MotorTarget (Binary32 unspecified)), target.mode = mode →
      target.maxCurrent = maxCurrent.toNat → targetTorque target (params.map .number) =
        word unspecified (clampTorque target.tor (params.map .number))) :
    TorqueAlwaysKept params torque mode maxCurrent ↔ ∀ unspecified clamped,
      IsClamped torque params clamped →
        TorqueKept params torque mode maxCurrent (word unspecified clamped).toInt := by
  constructor
  · intro always unspecified clamped isClamped
    rcases exists_writtenFor (torqueItem unspecified torque) (params.map .number) mode maxCurrent
      .pvt with ⟨rx, written⟩
    have kept := always unspecified _ _ rx rfl written
    have same : clampTorque (toEthercatTarget (torqueItem unspecified torque) (params.map .number)
        mode maxCurrent.toNat).tor (params.map .number) = clamped :=
      BinaryFloat.ext ((isClamped_clampTorque rfl maximum).trans isClamped.symm)
    rw [written.targetTorque, isWord unspecified _ rfl rfl, same] at kept
    exact kept
  · intro kept unspecified item rxProfile rx tor written
    rw [written.targetTorque, isWord unspecified _ rfl rfl]
    exact kept unspecified _ (isClamped_clampTorque tor maximum)

/-- A word that is computed from a request is kept where the request is one whose word is kept,
if a conversion may return a word that is not. -/
theorem kept_iff_of_computedFrom (maximum : 0 ≤ params.maximumTorque.value) {request : Option Int}
    {word : (unspecified : Unspecified) → Binary32 unspecified → BitVec 16}
    {specified : Int → BitVec 16} {converted : Unspecified → OutOfRange → BitVec 16}
    (computed : ComputedFrom request torque params word specified converted)
    {fits : Int → Prop} (inside : ∀ requested ∈ request,
      TorqueKept params torque mode maxCurrent (specified requested).toInt ↔ fits requested)
    (outside : ∀ value, ∃ unspecified,
      ¬ TorqueKept params torque mode maxCurrent (converted unspecified value).toInt) :
    (∀ unspecified clamped, IsClamped torque params clamped →
        TorqueKept params torque mode maxCurrent (word unspecified clamped).toInt) ↔
      ∃ requested ∈ request, fits requested := by
  have clamped : ∀ unspecified, IsClamped torque params (clampTorque (toEthercatTarget
      (torqueItem unspecified torque) (params.map .number) mode maxCurrent.toNat).tor
      (params.map .number)) := fun _ => isClamped_clampTorque rfl maximum
  rcases computed with ⟨requested, isRequest, same⟩ | ⟨none, value, same⟩
  · constructor
    · intro kept
      have own := kept zeroConversions _ (clamped zeroConversions)
      rw [same _ _ (clamped zeroConversions)] at own
      exact ⟨requested, isRequest, (inside requested isRequest).mp own⟩
    · rintro ⟨other, isOther, fit⟩ unspecified clamped isClamped
      cases isRequest.symm.trans isOther
      rw [same unspecified clamped isClamped]
      exact (inside requested isRequest).mpr fit
  · constructor
    · intro kept
      rcases outside value with ⟨unspecified, lost⟩
      have own := kept unspecified _ (clamped unspecified)
      rw [same _ _ (clamped unspecified)] at own
      exact absurd own lost
    · rintro ⟨other, isOther, -⟩
      rw [none] at isOther
      contradiction

theorem torqueLimit_nonneg (scale : 0 < params.ratedCurrent.value * params.torqueConstant.value)
    (maximum : 0 ≤ params.maximumTorque.value) : 0 ≤ torqueLimit params :=
  le_roundHalfAway (by
    push_cast
    positivity)

/-- A word against the torque of the motor. -/
def against (torque : Single) (params : MotorParameters Single) : Int :=
  if 0 < params.polarity.value * torque.value then -1 else 1

/-- Conversions that return it. -/
def oppositeConversions (torque : Single) (params : MotorParameters Single) : Unspecified :=
  ⟨fun _ => against torque params, fun _ => BitVec.ofInt 16 (against torque params)⟩

theorem against_not_kept :
    ¬ TorqueKept params torque mode maxCurrent (against torque params) := by
  intro kept
  have direction := kept.direction
  rw [against] at direction
  split at direction
  next positive =>
    norm_num at direction
    linarith
  next nonpos =>
    norm_num at direction
    exact nonpos direction

theorem toInt_limitedRaw_against (some : maxCurrent ≠ 0) :
    (limitedRaw (BitVec.ofInt 32 (against torque params)) maxCurrent.toNat).toInt =
      against torque params := by
  have positive : 0 < maxCurrent.toNat := by
    rw [Nat.pos_iff_ne_zero]
    intro zero
    exact some (BitVec.toNat_inj.mp zero)
  have narrowed : (BitVec.ofInt 32 (against torque params)).toInt = against torque params := by
    simp only [against]
    split <;> rfl
  rw [toInt_limitedRaw _ (Int.natCast_nonneg maxCurrent.toNat), narrowed, against, Int.bmod_def]
  omega

/-- In current mode a request beyond 64 bits may become anything, and any other request
passes two narrowings. -/
theorem torqueAlwaysKept_ten (unit : params.polarity.value = 1 ∨ params.polarity.value = -1)
    (scale : 0 < params.ratedCurrent.value * params.torqueConstant.value)
    (maximum : 0 ≤ params.maximumTorque.value) :
    TorqueAlwaysKept params torque 10 maxCurrent ↔ maxCurrent = 0 ∨
      ∃ requested ∈ roundedRequest torque params,
        RequestKept requested maxCurrent.toNat (torqueLimit params) := by
  have limit := torqueLimit_nonneg scale maximum
  have current := Int.natCast_nonneg maxCurrent.toNat
  rw [torqueAlwaysKept_iff_words maximum
    (fun _ clamped => torqueToRawLimited clamped (params.map .number) maxCurrent.toNat)
    (by
      intro unspecified target ten same
      rw [targetTorque, ten, same]
      rfl)]
  by_cases none : maxCurrent = 0
  · refine iff_of_true ?_ (.inl none)
    intro unspecified clamped isClamped
    have zero : ∀ raw, (limitedRaw raw maxCurrent.toNat).toInt = 0 := by
      intro raw
      have small := (natAbs_limitedRaw_le raw current).1
      rw [none] at small ⊢
      simpa using small
    have word : (torqueToRawLimited clamped (params.map .number) maxCurrent.toNat).toInt = 0 := by
      rw [torqueToRawLimited_eq]
      split
      · rfl
      · exact zero _
    simp only [word]
    exact ⟨.inl rfl, by simpa using limit, by simp⟩
  · rw [or_iff_right none]
    apply kept_iff_of_computedFrom maximum (torqueToRawLimited_cases unit scale current)
    · intro requested isRequest
      have sign := roundedRequest_sign unit scale maximum isRequest
      have asked : requested = 0 →
          (limitedRaw (BitVec.ofInt 32 requested) maxCurrent.toNat).toInt = 0 := by
        rintro rfl
        rw [limitedRaw_zero current]
        rfl
      have kept := limitedRaw_kept requested maxCurrent limit
      simp only [or_iff_right none] at kept
      rw [← kept, ← direction_iff sign asked]
      constructor
      · intro kept
        exact ⟨kept.direction, kept.limit⟩
      · rintro ⟨direction, limit⟩
        have small := (natAbs_limitedRaw_le (BitVec.ofInt 32 requested) current).1
        exact ⟨direction, limit, fun _ => by rw [Int.abs_eq_natAbs]; omega⟩
    · intro value
      refine ⟨oppositeConversions torque params, ?_⟩
      have opposite : (limitedRaw (BitVec.ofInt 32
          ((oppositeConversions torque params).lround value)) maxCurrent.toNat).toInt =
            against torque params := toInt_limitedRaw_against none
      simp only [opposite]
      exact against_not_kept

/-- In the other modes a request beyond 16 bits may become anything. -/
theorem torqueAlwaysKept_other (unit : params.polarity.value = 1 ∨ params.polarity.value = -1)
    (scale : 0 < params.ratedCurrent.value * params.torqueConstant.value)
    (maximum : 0 ≤ params.maximumTorque.value) (notEight : mode ≠ 8) (notTen : mode ≠ 10) :
    TorqueAlwaysKept params torque mode maxCurrent ↔
      ∃ requested ∈ truncatedRequest torque params, |requested| ≤ torqueLimit params := by
  rw [torqueAlwaysKept_iff_words maximum
    (fun _ clamped => torqueToRaw clamped (params.map .number))
    (by
      intro unspecified target same _
      rw [targetTorque, same, if_neg notEight, if_neg notTen])]
  apply kept_iff_of_computedFrom maximum (torqueToRaw_cases unit scale)
  · intro requested isRequest
    have sign := truncatedRequest_sign unit scale maximum isRequest
    have range := (Option.filter_eq_some_iff.mp isRequest).2
    have range : -2 ^ 15 ≤ requested ∧ requested < 2 ^ 15 := by simpa using range
    rw [BitVec.toInt_ofInt_eq_self (by decide) range.1 range.2]
    constructor
    · exact TorqueKept.limit
    · intro limit
      refine ⟨(direction_iff sign id).mpr ?_, limit, fun ten => absurd ten notTen⟩
      omega
  · intro value
    refine ⟨oppositeConversions torque params, ?_⟩
    have narrowed : (BitVec.ofInt 16 (against torque params)).toInt = against torque params := by
      simp only [against]
      split <;> rfl
    have opposite : ((oppositeConversions torque params).toInt16 value).toInt =
        against torque params := narrowed
    rw [opposite]
    exact against_not_kept

/-- The torque word keeps its direction and its limits exactly when the conversions of the
mode can represent the request and the request is within the limit. -/
theorem torque_word_kept_iff (params : MotorParameters Single)
    (unit : params.polarity.value = 1 ∨ params.polarity.value = -1)
    (scale : 0 < params.ratedCurrent.value * params.torqueConstant.value)
    (maximum : 0 ≤ params.maximumTorque.value) (torque : Single) (mode : Int)
    (maxCurrent : BitVec 16) :
    TorqueAlwaysKept params torque mode maxCurrent ↔ TorqueFits params torque mode maxCurrent := by
  simp only [TorqueFits]
  split
  next eight =>
    subst eight
    simp only [iff_true]
    rw [torqueAlwaysKept_iff_words maximum (fun _ _ => 0) (by
      intro unspecified target eight _
      rw [targetTorque, if_pos eight])]
    intro unspecified clamped isClamped
    exact ⟨.inl rfl, torqueLimit_nonneg scale maximum, fun ten => absurd ten (by decide)⟩
  next notEight =>
    split
    next ten =>
      subst ten
      exact torqueAlwaysKept_ten unit scale maximum
    next notTen => exact torqueAlwaysKept_other unit scale maximum notEight notTen

/-- A motor whose torque word is a newton metre for a thousand. -/
def unitMotorParameters : MotorParameters Single where
  polarity := .ofInt 1 (by decide)
  countBias := .ofInt 0 (by decide)
  encoderResolution := .ofInt 1 (by decide)
  gearRatioTor := .ofInt 1 (by decide)
  gearRatioPosVel := .ofInt 1 (by decide)
  ratedCurrent := .ofInt 1 (by decide)
  torqueConstant := .ofInt 1 (by decide)
  ratedTorque := .ofInt 1 (by decide)
  maximumTorque := .ofInt 50 (by decide)
  minimumPosition := .ofInt (-1) (by decide)
  maximumPosition := .ofInt 1 (by decide)

/-- The quotient is rounded up to the middle between two words, and the word to the far end. -/
example : roundedRequest ⟨12884705 / 2 ^ 18, by decide +kernel, by norm_num⟩
    { unitMotorParameters with ratedCurrent := ⟨3 / 2, by decide +kernel, by norm_num⟩ } =
      some 32768 := by
  decide +kernel

theorem torque_word_kept_small :
    TorqueAlwaysKept unitMotorParameters (.ofInt 20 (by decide)) 10 1000 := by
  have scale : 0 < unitMotorParameters.ratedCurrent.value *
      unitMotorParameters.torqueConstant.value := by decide +kernel
  apply (torque_word_kept_iff unitMotorParameters (.inl (by decide +kernel)) scale
    (by decide +kernel) (.ofInt 20 (by decide)) 10 1000).mpr
  exact .inr ⟨20000, by decide +kernel, by decide +kernel⟩

/-- A limit above the signed range lets 40 Nm through as -25.536 Nm. -/
theorem torque_word_reversed :
    let torque := Single.ofInt 40 (by decide)
    (unitMotorParameters.polarity.value = 1 ∧
        0 < unitMotorParameters.ratedCurrent.value * unitMotorParameters.torqueConstant.value ∧
        0 ≤ unitMotorParameters.maximumTorque.value) ∧
      (∃ rx, WrittenFor (torqueItem zeroConversions torque) (unitMotorParameters.map .number) 10
        65535 .standard rx ∧ (rx.read16 10).toInt = -25536) ∧
      ¬ TorqueAlwaysKept unitMotorParameters torque 10 65535 := by
  intro torque
  rcases exists_writtenFor (torqueItem zeroConversions torque) (unitMotorParameters.map .number) 10
    65535 .standard with ⟨rx, written⟩
  have reversed : (rx.read16 10).toInt = -25536 := by
    rw [written.targetTorque]
    decide +kernel
  refine ⟨by decide +kernel, ⟨rx, written, reversed⟩, fun always => ?_⟩
  have direction := (always _ _ _ rx rfl written).direction
  rw [reversed] at direction
  revert direction
  decide +kernel

end RmdCanSdk
