import RmdCanSdk.Ethercat.Codes

/-!
# The request of a torque

What a finite torque is scaled to before it becomes a word, in single precision: a number, or
nothing that a conversion could represent. A word is computed from the integer that the number
is converted to, or from whatever the conversion returns.
-/

namespace RmdCanSdk

open RoundingFormat

/-- The number of thousandths that a torque is converted to, before it becomes an integer, with
every product and quotient in single precision. There is none if a product is too large. -/
def requestedRaw (torque : Single) (params : MotorParameters Single) : Option ℚ :=
  let clamped := clamp torque.value (-params.maximumTorque.value) params.maximumTorque.value
  let scale := binary32.round (params.torqueConstant.value * params.ratedCurrent.value)
  let numerator := binary32.round (binary32.round (params.polarity.value * 1000) * clamped)
  if scale = 0 then some 0
  else if 2 ^ 128 ≤ |numerator| then none
  else if 2 ^ 128 ≤ scale then some 0
  else some (binary32.round (numerator / scale))

/-- The request as an integer, if it is in the range of a conversion. -/
def integerRequest (integer : ℚ → Int) (half : Int) (torque : Single)
    (params : MotorParameters Single) : Option Int :=
  ((requestedRaw torque params).map integer).filter fun value => -half ≤ value ∧ value < half

/-- The nearest integer to the request, if it has 64 bits. -/
def roundedRequest (torque : Single) (params : MotorParameters Single) : Option Int :=
  integerRequest roundHalfAway (2 ^ 63) torque params

/-- The integer part of the request, if it has 16 bits. -/
def truncatedRequest (torque : Single) (params : MotorParameters Single) : Option Int :=
  integerRequest truncate (2 ^ 15) torque params

/-- A request keeps its sign and stays below a bound through 32 bits, the limit of the current
and 16 bits. The second case of each direction is a request that wraps twice. -/
def RequestKept (requested limit bound : Int) : Prop :=
  let wrapped := requested.bmod (2 ^ 32)
  if 0 < requested then
    (0 ≤ wrapped ∧ min wrapped limit < 2 ^ 15 ∧ min wrapped limit ≤ bound) ∨
      (wrapped < -2 ^ 15 ∧ 2 ^ 15 < limit ∧ 2 ^ 16 - min (-wrapped) limit ≤ bound)
  else
    (wrapped ≤ 0 ∧ min (-wrapped) limit ≤ 2 ^ 15 ∧ min (-wrapped) limit ≤ bound) ∨
      (2 ^ 15 ≤ wrapped ∧ 2 ^ 15 ≤ limit ∧ 2 ^ 16 - min wrapped limit ≤ bound)

instance (requested limit bound : Int) : Decidable (RequestKept requested limit bound) := by
  unfold RequestKept
  infer_instance

variable {params : MotorParameters Single} {torque : Single} {unspecified : Unspecified}

/-! ## The request -/

/-- Clamping to a symmetric range moves a number toward zero. -/
theorem clamp_symmetric {limit : ℚ} (nonneg : 0 ≤ limit) (value : ℚ) :
    (0 < clamp value (-limit) limit → 0 < value) ∧
      (clamp value (-limit) limit < 0 → value < 0) := by
  simp only [clamp]
  split
  next below => constructor <;> intro <;> linarith
  next =>
    split
    next above => constructor <;> intro <;> linarith
    next => exact ⟨id, id⟩

theorem round_nonpos {value : ℚ} (nonpos : value ≤ 0) : binary32.round value ≤ 0 := by
  have negated : 0 ≤ binary32.round (-value) := round_nonneg (neg_nonneg.mpr nonpos)
  rwa [round_neg, neg_nonneg] at negated

/-- The thousandfold of a polarity needs no rounding. -/
theorem round_polarity (unit : params.polarity.value = 1 ∨ params.polarity.value = -1) :
    binary32.round (params.polarity.value * 1000) = params.polarity.value * 1000 := by
  rcases unit with same | reversed
  · rw [same]
    decide +kernel
  · rw [reversed]
    decide +kernel

/-- The clamped torque in the direction of the motor. -/
theorem polarity_clamp (unit : params.polarity.value = 1 ∨ params.polarity.value = -1)
    (maximum : 0 ≤ params.maximumTorque.value) :
    (0 < params.polarity.value * 1000 *
        clamp torque.value (-params.maximumTorque.value) params.maximumTorque.value →
          0 < params.polarity.value * torque.value) ∧
      (params.polarity.value * 1000 *
        clamp torque.value (-params.maximumTorque.value) params.maximumTorque.value < 0 →
          params.polarity.value * torque.value < 0) := by
  have towardZero := clamp_symmetric maximum torque.value
  rcases unit with same | reversed
  · rw [same]
    constructor
    · intro positive
      linarith [towardZero.1 (by linarith)]
    · intro negative
      linarith [towardZero.2 (by linarith)]
  · rw [reversed]
    constructor
    · intro positive
      linarith [towardZero.2 (by linarith)]
    · intro negative
      linarith [towardZero.1 (by linarith)]

/-- Rounding does not turn a request around. -/
theorem requestedRaw_sign (unit : params.polarity.value = 1 ∨ params.polarity.value = -1)
    (scale : 0 < params.ratedCurrent.value * params.torqueConstant.value)
    (maximum : 0 ≤ params.maximumTorque.value) {requested : ℚ}
    (isRequested : requestedRaw torque params = some requested) :
    (0 < requested → 0 < params.polarity.value * torque.value) ∧
      (requested < 0 → params.polarity.value * torque.value < 0) := by
  have towardZero := @polarity_clamp params torque unit maximum
  have roundedScale :
      0 ≤ binary32.round (params.torqueConstant.value * params.ratedCurrent.value) :=
    round_nonneg (by linarith)
  simp only [requestedRaw, round_polarity unit] at isRequested
  generalize params.polarity.value * 1000 * clamp torque.value (-params.maximumTorque.value)
    params.maximumTorque.value = product at towardZero isRequested
  split at isRequested
  · cases isRequested
    exact ⟨fun positive => absurd positive (lt_irrefl _),
      fun negative => absurd negative (lt_irrefl _)⟩
  · split at isRequested
    · contradiction
    · split at isRequested
      · cases isRequested
        exact ⟨fun positive => absurd positive (lt_irrefl _),
          fun negative => absurd negative (lt_irrefl _)⟩
      · cases isRequested
        constructor
        · intro positive
          apply towardZero.1
          by_contra nonpos
          have numerator := round_nonpos (not_lt.mp nonpos)
          exact absurd positive (not_lt_of_ge (round_nonpos
            (div_nonpos_of_nonpos_of_nonneg numerator roundedScale)))
        · intro negative
          apply towardZero.2
          by_contra nonneg
          have numerator : 0 ≤ binary32.round product := round_nonneg (not_lt.mp nonneg)
          exact absurd negative (not_lt_of_ge (round_nonneg (div_nonneg numerator roundedScale)))

/-- A rounded or truncated request of some sign means a torque of that sign. -/
theorem roundedRequest_sign (unit : params.polarity.value = 1 ∨ params.polarity.value = -1)
    (scale : 0 < params.ratedCurrent.value * params.torqueConstant.value)
    (maximum : 0 ≤ params.maximumTorque.value) {rounded : Int}
    (isRounded : roundedRequest torque params = some rounded) :
    (0 < rounded → 0 < params.polarity.value * torque.value) ∧
      (rounded < 0 → params.polarity.value * torque.value < 0) := by
  rcases Option.map_eq_some_iff.mp (Option.filter_eq_some_iff.mp isRounded).1 with
    ⟨requested, isRequested, rfl⟩
  have sign := requestedRaw_sign unit scale maximum isRequested
  constructor
  · intro positive
    apply sign.1
    by_contra nonpos
    have rounded : roundHalfAway requested ≤ 0 :=
      roundHalfAway_le (by exact_mod_cast le_of_not_gt nonpos)
    exact absurd positive (not_lt_of_ge rounded)
  · intro negative
    apply sign.2
    by_contra nonneg
    have rounded : 0 ≤ roundHalfAway requested :=
      le_roundHalfAway (by exact_mod_cast le_of_not_gt nonneg)
    exact absurd negative (not_lt_of_ge rounded)

theorem truncatedRequest_sign (unit : params.polarity.value = 1 ∨ params.polarity.value = -1)
    (scale : 0 < params.ratedCurrent.value * params.torqueConstant.value)
    (maximum : 0 ≤ params.maximumTorque.value) {truncated : Int}
    (isTruncated : truncatedRequest torque params = some truncated) :
    (0 < truncated → 0 < params.polarity.value * torque.value) ∧
      (truncated < 0 → params.polarity.value * torque.value < 0) := by
  rcases Option.map_eq_some_iff.mp (Option.filter_eq_some_iff.mp isTruncated).1 with
    ⟨requested, isRequested, rfl⟩
  have sign := requestedRaw_sign unit scale maximum isRequested
  constructor
  · intro positive
    apply sign.1
    by_contra nonpos
    exact absurd positive (not_lt_of_ge (truncate_nonpos (le_of_not_gt nonpos)))
  · intro negative
    apply sign.2
    by_contra nonneg
    exact absurd negative (not_lt_of_ge (truncate_nonneg (le_of_not_gt nonneg)))

/-! ## Conversions -/

/-- The converted request is limited on both sides and narrowed. -/
theorem toInt_limitedRaw (raw : BitVec 32) {limit : Int} (nonneg : 0 ≤ limit) :
    (limitedRaw raw limit).toInt = (max (-limit) (min raw.toInt limit)).bmod (2 ^ 16) := by
  have limited : limitedRaw raw limit = BitVec.ofInt 16 (max (-limit) (min raw.toInt limit)) := by
    simp only [limitedRaw]
    congr 1
    rw [if_neg (not_lt_of_ge nonneg)]
    omega
  rw [limited, BitVec.toInt_ofInt]

/-- What becomes of the sign and the magnitude of a request. -/
theorem limitedRaw_kept (requested : Int) (limit : BitVec 16) {bound : Int} (nonneg : 0 ≤ bound) :
    let word := (limitedRaw (BitVec.ofInt 32 requested) limit.toNat).toInt
    ((word = 0 ∨ (0 < requested ∧ 0 < word) ∨ (requested < 0 ∧ word < 0)) ∧ |word| ≤ bound) ↔
      limit = 0 ∨ RequestKept requested limit.toNat bound := by
  intro word
  have small := limit.isLt
  have none : limit = 0 ↔ limit.toNat = 0 := by
    rw [← BitVec.toNat_inj]
    rfl
  have converted : word = (max (-(limit.toNat : Int))
      (min (requested.bmod (2 ^ 32)) limit.toNat)).bmod (2 ^ 16) := by
    have limited := toInt_limitedRaw (BitVec.ofInt 32 requested) (Int.natCast_nonneg limit.toNat)
    rw [BitVec.toInt_ofInt] at limited
    exact limited
  have zero : requested = 0 → requested.bmod (2 ^ 32) = 0 := by
    rintro rfl
    rfl
  rw [none, converted, Int.abs_eq_natAbs]
  simp only [RequestKept]
  generalize requested.bmod (2 ^ 32) = wrapped at zero
  generalize limit.toNat = limit at small
  rw [Int.bmod_def]
  split <;> split <;> omega

/-! ## The scaled torque -/

/-- What is converted, in the code's order of operations. -/
def scaledTorque (torque : Binary32 unspecified) (params : MotorParameters (Binary32 unspecified)) :
    Binary32 unspecified :=
  params.polarity * lit 1000 * torque / (params.torqueConstant * params.ratedCurrent)

/-- The torque after its clamps. -/
def IsClamped (torque : Single) (params : MotorParameters Single)
    (clamped : Binary32 unspecified) : Prop :=
  clamped.value =
    .finite (clamp torque.value (-params.maximumTorque.value) params.maximumTorque.value)

/-- A scaled torque is a rounded quotient, the request, or a value without conversions. -/
inductive Scaled (torque : Single) (params : MotorParameters Single) : Prop where
  | quotient (value : ℚ) (requested : requestedRaw torque params = some (binary32.round value))
      (scaled : ∀ (unspecified : Unspecified) (clamped : Binary32 unspecified),
        IsClamped torque params clamped →
        (scaledTorque clamped (params.map .number)).value =
          (Ieee.finite value).rounded binary32)
  | overflow (value : OutOfRange) (special : ¬ ∃ number, value = .large number)
      (requested : requestedRaw torque params = none)
      (scaled : ∀ (unspecified : Unspecified) (clamped : Binary32 unspecified),
        IsClamped torque params clamped →
        (scaledTorque clamped (params.map .number)).value = value.toIeee)

/-- The scale of the torques of a motor, rounded. -/
theorem value_scale (unspecified : Unspecified) (params : MotorParameters Single) :
    ((params.map .number).torqueConstant * (params.map .number).ratedCurrent :
        Binary32 unspecified).value =
      (Ieee.finite (params.torqueConstant.value * params.ratedCurrent.value)).rounded binary32 := by
  rw [BinaryFloat.value_mul]
  rfl

/-- The product that is divided by the scale, rounded. -/
theorem value_numerator (unit : params.polarity.value = 1 ∨ params.polarity.value = -1)
    {clamped : Binary32 unspecified} {value : ℚ} (isClamped : clamped.value = .finite value) :
    ((params.map .number).polarity * lit 1000 * clamped : Binary32 unspecified).value =
      (Ieee.finite (binary32.round (params.polarity.value * 1000) * value)).rounded binary32 := by
  have thousand : (lit 1000 : Binary32 unspecified).value = .finite 1000 :=
    BinaryFloat.value_lit_eq (by decide +kernel) (by norm_num)
  have polarity : ((params.map .number).polarity * lit 1000 : Binary32 unspecified).value =
      .finite (binary32.round (params.polarity.value * 1000)) := by
    rw [BinaryFloat.value_mul, thousand]
    apply Ieee.rounded_finite
    rw [round_polarity unit, abs_mul]
    rcases unit with same | reversed
    · rw [same]
      norm_num
    · rw [reversed]
      norm_num
  rw [BinaryFloat.value_mul, polarity, isClamped, Ieee.finite_mul]

/-- The scaled torque is the rounded quotient of the two. -/
theorem value_scaledTorque (unit : params.polarity.value = 1 ∨ params.polarity.value = -1)
    {clamped : Binary32 unspecified} {value : ℚ} (isClamped : clamped.value = .finite value) :
    (scaledTorque clamped (params.map .number)).value =
      ((Ieee.finite (binary32.round (params.polarity.value * 1000) * value)).rounded binary32 /
        (Ieee.finite (params.torqueConstant.value * params.ratedCurrent.value)).rounded
          binary32).rounded binary32 := by
  rw [scaledTorque, BinaryFloat.value_div, value_numerator unit isClamped, value_scale]

/-- A product beyond the largest number makes the quotient an infinity or NaN. -/
theorem scaledTorque_overflow (unit : params.polarity.value = 1 ∨ params.polarity.value = -1)
    (positive : 0 < binary32.round (params.torqueConstant.value * params.ratedCurrent.value))
    (large : 2 ^ 128 ≤ |binary32.round (binary32.round (params.polarity.value * 1000) *
      clamp torque.value (-params.maximumTorque.value) params.maximumTorque.value)|) :
    Scaled torque params := by
  have requested : requestedRaw torque params = none := by
    simp only [requestedRaw, if_neg positive.ne', if_pos large]
  have numerator := fun unspecified => @Ieee.rounded_overflow unspecified binary32 _
    (not_lt_of_ge large)
  have nonzero : binary32.round (binary32.round (params.polarity.value * 1000) *
      clamp torque.value (-params.maximumTorque.value) params.maximumTorque.value) ≠ 0 := by
    intro zero
    rw [zero, abs_zero] at large
    exact absurd large (by norm_num)
  by_cases wide : binary32.round (params.torqueConstant.value * params.ratedCurrent.value) < 2 ^ 128
  · have denominator := fun unspecified => @Ieee.rounded_finite unspecified binary32 _
      ((abs_of_pos positive).trans_lt wide)
    rcases lt_or_gt_of_ne nonzero with negative | above
    · refine .overflow .negInf (by simp) requested ?_
      intro unspecified clamped isClamped
      rw [value_scaledTorque unit isClamped, numerator, denominator, Ieee.signedInf,
        if_neg (not_lt_of_gt negative), if_pos negative, Ieee.negInf_div _ positive]
      rfl
    · refine .overflow .posInf (by simp) requested ?_
      intro unspecified clamped isClamped
      rw [value_scaledTorque unit isClamped, numerator, denominator, Ieee.signedInf, if_pos above,
        Ieee.posInf_div _ positive]
      rfl
  · have denominator := fun unspecified => @Ieee.rounded_overflow unspecified binary32
      (params.torqueConstant.value * params.ratedCurrent.value) (by rwa [abs_of_pos positive])
    refine .overflow .nan (by simp) requested ?_
    intro unspecified clamped isClamped
    rw [value_scaledTorque unit isClamped, numerator, denominator, Ieee.signedInf, Ieee.signedInf,
      if_pos positive]
    rcases lt_or_gt_of_ne nonzero with negative | above
    · rw [if_neg (not_lt_of_gt negative), if_pos negative]
      rfl
    · rw [if_pos above]
      rfl

theorem scaledTorque_cases (unit : params.polarity.value = 1 ∨ params.polarity.value = -1)
    (positive : 0 < binary32.round (params.torqueConstant.value * params.ratedCurrent.value)) :
    Scaled torque params := by
  by_cases large : 2 ^ 128 ≤ |binary32.round (binary32.round (params.polarity.value * 1000) *
      clamp torque.value (-params.maximumTorque.value) params.maximumTorque.value)|
  · exact scaledTorque_overflow unit positive large
  have numerator := fun unspecified => @Ieee.rounded_finite unspecified binary32 _
    (not_le.mp large)
  by_cases wide : 2 ^ 128 ≤ binary32.round (params.torqueConstant.value * params.ratedCurrent.value)
  · have denominator := fun unspecified => @Ieee.rounded_overflow unspecified binary32
      (params.torqueConstant.value * params.ratedCurrent.value)
      (by rw [abs_of_pos positive]; exact not_lt_of_ge wide)
    refine .quotient 0 ?_ ?_
    · simp only [requestedRaw, if_neg positive.ne', if_neg large, if_pos wide, round_zero]
    · intro unspecified clamped isClamped
      rw [value_scaledTorque unit isClamped, numerator, denominator, Ieee.signedInf,
        if_pos positive]
      rfl
  · have denominator := fun unspecified => @Ieee.rounded_finite unspecified binary32 _
      ((abs_of_pos positive).trans_lt (not_le.mp wide))
    refine .quotient (binary32.round (binary32.round (params.polarity.value * 1000) *
      clamp torque.value (-params.maximumTorque.value) params.maximumTorque.value) /
        binary32.round (params.torqueConstant.value * params.ratedCurrent.value)) ?_ ?_
    · simp only [requestedRaw, if_neg positive.ne', if_neg large, if_neg wide]
    · intro unspecified clamped isClamped
      rw [value_scaledTorque unit isClamped, numerator, denominator,
        Ieee.finite_div _ _ positive.ne']

/-! ## The word of a finite torque -/

/-- A scale that is rounded to zero makes the word zero. -/
theorem scale_beq (unspecified : Unspecified) (params : MotorParameters Single) :
    (((params.map .number).torqueConstant * (params.map .number).ratedCurrent :
        Binary32 unspecified) == lit 0) =
      decide (binary32.round (params.torqueConstant.value * params.ratedCurrent.value) = 0) := by
  have compared : (((params.map .number).torqueConstant * (params.map .number).ratedCurrent :
      Binary32 unspecified) == lit 0) = ((Ieee.finite (params.torqueConstant.value *
        params.ratedCurrent.value) : Ieee unspecified).rounded binary32 == .finite 0) := by
    rw [← value_scale, ← @BinaryFloat.value_lit_zero binary32]
    rfl
  rw [compared]
  by_cases small : |binary32.round (params.torqueConstant.value * params.ratedCurrent.value)| <
      2 ^ binary32.width
  · rw [Ieee.rounded_finite small, Ieee.finite_beq]
  · rw [Ieee.rounded_overflow small, Ieee.signedInf]
    rcases lt_trichotomy (binary32.round (params.torqueConstant.value *
      params.ratedCurrent.value)) 0 with negative | zero | positive
    · rw [if_neg (not_lt_of_gt negative), if_pos negative, decide_eq_false negative.ne]
      rfl
    · rw [zero, abs_zero] at small
      exact absurd (by positivity) small
    · rw [if_pos positive, decide_eq_false positive.ne']
      rfl

theorem torqueToRawLimited_eq (clamped : Binary32 unspecified) (params : MotorParameters Single)
    (limit : Int) : torqueToRawLimited clamped (params.map .number) limit =
      if binary32.round (params.torqueConstant.value * params.ratedCurrent.value) = 0 then 0
      else limitedRaw (BitVec.ofInt 32 (lround (scaledTorque clamped (params.map .number))))
        limit := by
  have compared := scale_beq unspecified params
  by_cases zero : binary32.round (params.torqueConstant.value * params.ratedCurrent.value) = 0
  · rw [if_pos zero]
    exact if_pos (compared.trans (decide_eq_true zero))
  · rw [if_neg zero]
    exact if_neg (by rw [compared, decide_eq_false zero]; exact Bool.false_ne_true)

theorem torqueToRaw_eq (clamped : Binary32 unspecified) (params : MotorParameters Single) :
    torqueToRaw clamped (params.map .number) =
      if binary32.round (params.torqueConstant.value * params.ratedCurrent.value) = 0 then 0
      else toInt16 (scaledTorque clamped (params.map .number)) := by
  have compared := scale_beq unspecified params
  by_cases zero : binary32.round (params.torqueConstant.value * params.ratedCurrent.value) = 0
  · rw [if_pos zero]
    exact if_pos (compared.trans (decide_eq_true zero))
  · rw [if_neg zero]
    exact if_neg (by rw [compared, decide_eq_false zero]; exact Bool.false_ne_true)

/-- A word that is computed from an integer, or from whatever a conversion returns. -/
def ComputedFrom (request : Option Int) (torque : Single) (params : MotorParameters Single)
    (word : (unspecified : Unspecified) → Binary32 unspecified → BitVec 16)
    (specified : Int → BitVec 16) (converted : Unspecified → OutOfRange → BitVec 16) : Prop :=
  (∃ requested ∈ request, ∀ unspecified clamped, IsClamped torque params clamped →
      word unspecified clamped = specified requested) ∨
    (request = none ∧ ∃ value, ∀ unspecified clamped, IsClamped torque params clamped →
      word unspecified clamped = converted unspecified value)

/-- The word of a mode, for a conversion with the values that the two conversions have inside
and outside of their ranges. -/
theorem computedFrom_request (unit : params.polarity.value = 1 ∨ params.polarity.value = -1)
    (scale : 0 < params.ratedCurrent.value * params.torqueConstant.value)
    {integer : ℚ → Int} {half : Int} (zero : integer 0 = 0) (wide : 0 < half)
    (convert : (unspecified : Unspecified) → Ieee unspecified → BitVec 16)
    {specified : Int → BitVec 16} {converted : Unspecified → OutOfRange → BitVec 16}
    (inside : ∀ unspecified value, -half ≤ integer (binary32.round value) →
      integer (binary32.round value) < half →
        convert unspecified ((Ieee.finite value).rounded binary32) =
          specified (integer (binary32.round value)))
    (outside : ∀ value, ¬ (-half ≤ integer (binary32.round value) ∧
      integer (binary32.round value) < half) → ∃ unspecific, ∀ unspecified,
        convert unspecified ((Ieee.finite value).rounded binary32) =
          converted unspecified unspecific)
    (special : ∀ unspecified value, (¬ ∃ number, value = .large number) →
      convert unspecified value.toIeee = converted unspecified value)
    {word : (unspecified : Unspecified) → Binary32 unspecified → BitVec 16}
    (isWord : ∀ unspecified clamped, word unspecified clamped =
      if binary32.round (params.torqueConstant.value * params.ratedCurrent.value) = 0 then
        specified 0
      else convert unspecified (scaledTorque clamped (params.map .number)).value) :
    ComputedFrom (integerRequest integer half torque params) torque params word specified
      converted := by
  by_cases vanished : binary32.round (params.torqueConstant.value * params.ratedCurrent.value) = 0
  · have requested : integerRequest integer half torque params = some 0 := by
      simp only [integerRequest, requestedRaw, if_pos vanished, Option.map_some, zero]
      exact Option.filter_eq_some_iff.mpr ⟨rfl, decide_eq_true (by omega)⟩
    refine .inl ⟨0, requested, fun unspecified clamped isClamped => ?_⟩
    rw [isWord, if_pos vanished]
  · have positive := lt_of_le_of_ne
      (round_nonneg (by linarith) :
        0 ≤ binary32.round (params.torqueConstant.value * params.ratedCurrent.value))
      (Ne.symm vanished)
    simp only [ComputedFrom, isWord, if_neg vanished]
    rcases @scaledTorque_cases params torque unit positive with
      ⟨value, requested, scaled⟩ | ⟨value, infinite, requested, scaled⟩
    · by_cases inRange : -half ≤ integer (binary32.round value) ∧
          integer (binary32.round value) < half
      · refine .inl ⟨integer (binary32.round value), ?_, ?_⟩
        · rw [integerRequest, requested, Option.map_some]
          exact Option.filter_eq_some_iff.mpr ⟨rfl, decide_eq_true inRange⟩
        · intro unspecified clamped isClamped
          rw [scaled unspecified clamped isClamped, inside unspecified value inRange.1 inRange.2]
      · rcases outside value inRange with ⟨unspecific, same⟩
        refine .inr ⟨?_, unspecific, ?_⟩
        · rw [integerRequest, requested, Option.map_some]
          exact Option.filter_some_neg (by simpa using inRange)
        · intro unspecified clamped isClamped
          rw [scaled unspecified clamped isClamped, same]
    · refine .inr ⟨?_, value, ?_⟩
      · rw [integerRequest, requested, Option.map_none, Option.filter_none]
      · intro unspecified clamped isClamped
        rw [scaled unspecified clamped isClamped, special unspecified value infinite]

/-- Nothing is requested of a limited word of zero. -/
theorem limitedRaw_zero {limit : Int} (nonneg : 0 ≤ limit) :
    limitedRaw (BitVec.ofInt 32 0) limit = 0 := by
  have small := (natAbs_limitedRaw_le (BitVec.ofInt 32 0) nonneg).2
  apply BitVec.eq_of_toInt_eq
  simpa using small

theorem torqueToRawLimited_cases (unit : params.polarity.value = 1 ∨ params.polarity.value = -1)
    (scale : 0 < params.ratedCurrent.value * params.torqueConstant.value) {limit : Int}
    (nonneg : 0 ≤ limit) :
    ComputedFrom (roundedRequest torque params) torque params
      (fun _ clamped => torqueToRawLimited clamped (params.map .number) limit)
      (fun requested => limitedRaw (BitVec.ofInt 32 requested) limit)
      (fun unspecified value => limitedRaw (BitVec.ofInt 32 (unspecified.lround value)) limit) := by
  refine computedFrom_request unit scale (by decide +kernel) (by decide)
    (fun _ value => limitedRaw (BitVec.ofInt 32 (lround value)) limit) ?_ ?_ ?_ ?_
  · intro unspecified value lower upper
    rw [Ieee.lround_rounded lower upper]
  · intro value outside
    rcases Ieee.exists_lround_rounded outside with ⟨unspecific, same⟩
    exact ⟨unspecific, fun unspecified => by rw [same]⟩
  · intro unspecified value infinite
    cases value with
    | large number => exact absurd ⟨number, rfl⟩ infinite
    | nan | posInf | negInf => rfl
  · intro unspecified clamped
    rw [torqueToRawLimited_eq, limitedRaw_zero nonneg]
    rfl

theorem torqueToRaw_cases (unit : params.polarity.value = 1 ∨ params.polarity.value = -1)
    (scale : 0 < params.ratedCurrent.value * params.torqueConstant.value) :
    ComputedFrom (truncatedRequest torque params) torque params
      (fun _ clamped => torqueToRaw clamped (params.map .number)) (BitVec.ofInt 16)
      (fun unspecified value => unspecified.toInt16 value) := by
  refine computedFrom_request unit scale (by decide +kernel) (by decide)
    (fun _ value => toInt16 value) ?_ ?_ ?_ ?_
  · intro unspecified value lower upper
    exact Ieee.toInt16_rounded lower upper
  · intro value outside
    exact Ieee.exists_toInt16_rounded outside
  · intro unspecified value infinite
    cases value with
    | large number => exact absurd ⟨number, rfl⟩ infinite
    | nan | posInf | negInf => rfl
  · intro unspecified clamped
    exact torqueToRaw_eq clamped params

end RmdCanSdk
