import RmdCanSdk.MitCodes

/-!
# Round trips of the MIT protocol

What a motor decodes from a command, what a host decodes from a reply, and that both
decode the same codes to the same values. Encoding a decoded code gives the code back.
-/

namespace RmdCanSdk

variable {F : Type} [FloatArith F]

/-- The values a command carries. -/
structure MitSetpoint (F : Type) where
  p : F
  v : F
  kp : F
  kd : F
  torque : F

def MitSetpoint.map {G : Type} (convert : F → G) (setpoint : MitSetpoint F) : MitSetpoint G where
  p := convert setpoint.p
  v := convert setpoint.v
  kp := convert setpoint.kp
  kd := convert setpoint.kd
  torque := convert setpoint.torque

/-- The command frame of a setpoint. -/
def MitSetpoint.pack (setpoint : MitSetpoint F) (maxTorqueNm : F) : Vector Byte 8 :=
  packMit setpoint.p setpoint.v setpoint.kp setpoint.kd setpoint.torque maxTorqueNm

/-- The fields of a frame, each over its own range. -/
def MitFields.decode (fields : MitFields) (maxTorqueNm : F) : MitSetpoint F :=
  let torqueLimit := positiveTorqueLimit maxTorqueNm
  { p := uintToFloat fields.p RmdPMin RmdPMax 16
    v := uintToFloat (fields.v.setWidth 16) RmdVMin RmdVMax 12
    kp := uintToFloat (fields.kp.setWidth 16) RmdKpMin RmdKpMax 12
    kd := uintToFloat (fields.kd.setWidth 16) RmdKdMin RmdKdMax 12
    torque := uintToFloat (fields.torque.setWidth 16) (-torqueLimit) torqueLimit 12 }

/-- A frame depends on the codes of its values only. -/
theorem packMit_congr {left right : MitSetpoint F} {maxTorqueNm : F}
    (p : floatToUint left.p RmdPMin RmdPMax 16 = floatToUint right.p RmdPMin RmdPMax 16)
    (v : floatToUint left.v RmdVMin RmdVMax 12 = floatToUint right.v RmdVMin RmdVMax 12)
    (kp : floatToUint left.kp RmdKpMin RmdKpMax 12 = floatToUint right.kp RmdKpMin RmdKpMax 12)
    (kd : floatToUint left.kd RmdKdMin RmdKdMax 12 = floatToUint right.kd RmdKdMin RmdKdMax 12)
    (torque : floatToUint left.torque (-positiveTorqueLimit maxTorqueNm)
        (positiveTorqueLimit maxTorqueNm) 12 =
      floatToUint right.torque (-positiveTorqueLimit maxTorqueNm)
        (positiveTorqueLimit maxTorqueNm) 12) :
    left.pack maxTorqueNm = right.pack maxTorqueNm := by
  simp only [MitSetpoint.pack, packMit, p, v, kp, kd, torque]

/-! ## Codes of exact numbers -/

variable {min max : ℚ} {bits : Nat}

/-- A decoded code has itself as its exact code. -/
theorem exactCode_uintToFloat {code : BitVec 16} (less : min < max) (wide : 0 < bits)
    (fits : code.toNat < 2 ^ bits) :
    exactCode (uintToFloat code min max bits) min max bits = (code.toNat : Int) := by
  have steps : (0 : ℚ) < (2 ^ bits - 1 : Nat) := by
    have : 2 ^ 1 ≤ 2 ^ bits := Nat.pow_le_pow_right (by decide) wide
    exact_mod_cast Nat.sub_pos_of_lt (by omega)
  have span : max - min ≠ 0 := (sub_pos.mpr less).ne'
  rcases uintToFloat_mem code less wide with ⟨lower, upper⟩
  have small : ¬ code.toNat > 2 ^ bits - 1 := by omega
  rw [exactCode, clamp_eq_self lower upper, uintToFloat]
  simp only [small, if_false, FloatArith.lit_rat, add_sub_cancel_right, Int.cast_natCast]
  field_simp

/-- Encoding a decoded code gives the code back. -/
theorem floatToUint_uintToFloat {code : BitVec 16} (less : min < max) (wide : 0 < bits)
    (fits : code.toNat < 2 ^ bits) :
    floatToUint (uintToFloat code min max bits) min max bits = code := by
  rw [floatToUint_exact, exactCode_uintToFloat less wide fits, roundHalfAway_intCast,
    BitVec.ofInt_natCast, BitVec.ofNat_toNat, BitVec.setWidth_eq]

/-- The code of an exact number survives a field of its width. -/
theorem setWidth_floatToUint (value : ℚ) (less : min < max) :
    ((floatToUint value min max 12).setWidth 12).setWidth 16 = floatToUint value min max 12 := by
  have code := toNat_floatToUint value 12 less (by decide)
  have upper := roundHalfAway_exactCode_le value 12 less
  apply BitVec.eq_of_toNat_eq
  rw [BitVec.toNat_setWidth, BitVec.toNat_setWidth]
  omega

/-! ## Finite IEEE values -/

variable {unspecified : Unspecified}

theorem uintToFloat_finite (code : BitVec 16) (min max : ℚ) (wide : 0 < bits) :
    uintToFloat code (.finite min : Ieee unspecified) (.finite max) bits =
      .finite (uintToFloat code min max bits) := by
  have steps : ((2 ^ bits - 1 : Nat) : ℚ) ≠ 0 := by
    have : 2 ^ 1 ≤ 2 ^ bits := Nat.pow_le_pow_right (by decide) wide
    exact_mod_cast (Nat.sub_pos_of_lt (by omega)).ne'
  simp only [uintToFloat, Ieee.lit_eq, Ieee.finite_sub, Ieee.finite_mul,
    Ieee.finite_div _ _ steps, Ieee.finite_add, FloatArith.lit_rat]

/-- The torque range in use for a maximum torque, which may be infinite or NaN. -/
def torqueRange : Ieee unspecified → ℚ
  | .finite maxTorqueNm => if 0 < maxTorqueNm then maxTorqueNm else 24
  | _ => 24

theorem torqueRange_pos (maxTorqueNm : Ieee unspecified) : 0 < torqueRange maxTorqueNm := by
  cases maxTorqueNm with
  | finite maxTorqueNm =>
      simp only [torqueRange]
      split
      next positive => exact positive
      next => norm_num
  | posInf => norm_num [torqueRange]
  | negInf => norm_num [torqueRange]
  | nan => norm_num [torqueRange]

theorem positiveTorqueLimit_ieee (maxTorqueNm : Ieee unspecified) :
    positiveTorqueLimit maxTorqueNm = .finite (torqueRange maxTorqueNm) := by
  cases maxTorqueNm with
  | finite maxTorqueNm =>
      rw [positiveTorqueLimit_finite, torqueRange, positiveTorqueLimit]
      simp only [FloatArith.isFinite_rat, FloatArith.lit_rat, gt_iff_lt, true_and]
      rfl
  | posInf => rfl
  | negInf => rfl
  | nan => rfl

theorem floatToUint_uintToFloat_finite {code : BitVec 16} (min max : ℚ) (less : min < max)
    (narrow : bits ≤ 16) (wide : 0 < bits) (fits : code.toNat < 2 ^ bits) :
    floatToUint (uintToFloat code (.finite min : Ieee unspecified) (.finite max) bits)
      (.finite min) (.finite max) bits = code := by
  rw [uintToFloat_finite _ _ _ wide, floatToUint_finite _ _ less narrow,
    floatToUint_uintToFloat less wide fits]

/-- Encoding a decoded field gives the field back. -/
theorem setWidth_floatToUint_uintToFloat (field : BitVec 12) (less : min < max) :
    (floatToUint (uintToFloat (field.setWidth 16) (.finite min : Ieee unspecified) (.finite max) 12)
      (.finite min) (.finite max) 12).setWidth 12 = field := by
  have fits : (field.setWidth 16).toNat < 2 ^ 12 := by
    rw [BitVec.toNat_setWidth]
    exact (Nat.mod_le _ _).trans_lt field.isLt
  rw [floatToUint_uintToFloat_finite min max less (by decide) (by decide) fits]
  apply BitVec.eq_of_toNat_eq
  rw [BitVec.toNat_setWidth, BitVec.toNat_setWidth]
  omega

/-! ## Replies -/

theorem shifted_high (byte shared : Byte) :
    (byte.setWidth 16 <<< 4) ||| (shared >>> 4).setWidth 16 =
      (byte ++ shared.extractLsb' 4 4 : BitVec 12).setWidth 16 := by
  apply BitVec.eq_of_getLsbD_eq
  intro index inBounds
  rw [BitVec.getLsbD_setWidth, BitVec.getLsbD_append]
  interval_cases index <;> simp

theorem masked_low (shared byte : Byte) :
    ((shared &&& 0x0f).setWidth 16 <<< 8) ||| byte.setWidth 16 =
      (shared.extractLsb' 0 4 ++ byte : BitVec 12).setWidth 16 := by
  apply BitVec.eq_of_getLsbD_eq
  intro index inBounds
  rw [BitVec.getLsbD_setWidth, BitVec.getLsbD_append]
  interval_cases index <;> simp

/-- The host decodes the fields of a reply as a motor decodes those of a command. -/
theorem parseMitReply_fields {data : Vector Byte 8} {expectedMotorId : Int} (maxTorqueNm : F)
    (matching : expectedMotorId > 0 → ((firstByte data).toNat : Int) = expectedMotorId) :
    parseMitReply data 8 expectedMotorId maxTorqueNm = {
      valid := true
      motorId := (firstByte data).toNat
      positionRad := uintToFloat (mitReplyFields data).p RmdPMin RmdPMax 16
      velocityRadS := uintToFloat ((mitReplyFields data).v.setWidth 16) RmdVMin RmdVMax 12
      feedbackTorqueNm := uintToFloat ((mitReplyFields data).torque.setWidth 16)
        (-positiveTorqueLimit maxTorqueNm) (positiveTorqueLimit maxTorqueNm) 12 } := by
  have accepted : ¬ (expectedMotorId > 0 ∧ (data[0].toNat : Int) ≠ expectedMotorId) := by
    intro refused
    exact refused.2 (matching refused.1)
  rw [parseMitReply]
  simp only [ne_eq, not_true_eq_false, if_false, accepted]
  rw [shifted_high, masked_low]
  rfl

/-! ## Commands and replies together -/

/-- A value is within half a quantisation step of the clamped one. -/
def WithinHalfStep (received sent min max : ℚ) (bits : Nat) : Prop :=
  |received - clamp sent min max| ≤ (max - min) / (2 ^ bits - 1 : Nat) / 2

/-- What a motor receives of a command. -/
structure Received (sent received : MitSetpoint ℚ) (torqueLimit : ℚ) : Prop where
  p : WithinHalfStep received.p sent.p (-12.566) 12.566 16
  v : WithinHalfStep received.v sent.v (-45) 45 12
  kp : WithinHalfStep received.kp sent.kp 0 500 12
  kd : WithinHalfStep received.kd sent.kd 0 50 12
  torque : WithinHalfStep received.torque sent.torque (-torqueLimit) torqueLimit 12

/-- What the motor decodes from the command of a finite setpoint. -/
def receivedSetpoint (sent : MitSetpoint ℚ) (torqueLimit : ℚ) : MitSetpoint ℚ where
  p := uintToFloat (floatToUint sent.p (-12.566) 12.566 16) (-12.566) 12.566 16
  v := uintToFloat (floatToUint sent.v (-45) 45 12) (-45) 45 12
  kp := uintToFloat (floatToUint sent.kp 0 500 12) 0 500 12
  kd := uintToFloat (floatToUint sent.kd 0 50 12) 0 50 12
  torque := uintToFloat (floatToUint sent.torque (-torqueLimit) torqueLimit 12)
    (-torqueLimit) torqueLimit 12

theorem received_receivedSetpoint (sent : MitSetpoint ℚ) {torqueLimit : ℚ}
    (positive : 0 < torqueLimit) : Received sent (receivedSetpoint sent torqueLimit) torqueLimit where
  p := abs_uintToFloat_floatToUint_sub_le _ _ (by norm_num) (by decide) (by decide)
  v := abs_uintToFloat_floatToUint_sub_le _ _ (by norm_num) (by decide) (by decide)
  kp := abs_uintToFloat_floatToUint_sub_le _ _ (by norm_num) (by decide) (by decide)
  kd := abs_uintToFloat_floatToUint_sub_le _ _ (by norm_num) (by decide) (by decide)
  torque := abs_uintToFloat_floatToUint_sub_le _ _ (neg_lt_self positive) (by decide) (by decide)

theorem uintToFloat_floatToUint (value min max : ℚ) (less : min < max) (narrow : bits ≤ 16)
    (wide : 0 < bits) :
    uintToFloat (floatToUint (.finite value : Ieee unspecified) (.finite min) (.finite max) bits)
        (.finite min : Ieee unspecified) (.finite max) bits =
      .finite (uintToFloat (floatToUint value min max bits) min max bits) := by
  rw [floatToUint_finite value bits less narrow, uintToFloat_finite _ _ _ wide]

theorem uintToFloat_setWidth_floatToUint (value : ℚ) (less : min < max) :
    uintToFloat (((floatToUint (.finite value : Ieee unspecified) (.finite min) (.finite max)
        12).setWidth 12).setWidth 16) (.finite min : Ieee unspecified) (.finite max) 12 =
      .finite (uintToFloat (floatToUint value min max 12) min max 12) := by
  rw [floatToUint_finite value 12 less (by decide), setWidth_floatToUint value less,
    uintToFloat_finite _ _ _ (by decide)]

/-- A motor decodes the command of a finite setpoint exactly. -/
theorem decode_pack (sent : MitSetpoint ℚ) (maxTorqueNm : Ieee unspecified) :
    (mitFields ((sent.map .finite).pack maxTorqueNm)).decode maxTorqueNm =
      (receivedSetpoint sent (torqueRange maxTorqueNm)).map .finite := by
  have positive := torqueRange_pos maxTorqueNm
  rw [MitSetpoint.pack, mitFields_packMit, MitFields.decode]
  rw [positiveTorqueLimit_ieee, Ieee.finite_neg]
  rw [MitSetpoint.map, MitSetpoint.mk.injEq]
  refine ⟨?_, ?_, ?_, ?_, ?_⟩
  · exact uintToFloat_floatToUint sent.p (-12.566) 12.566 (by norm_num) (by decide) (by decide)
  · exact uintToFloat_setWidth_floatToUint sent.v (by norm_num)
  · exact uintToFloat_setWidth_floatToUint sent.kp (by norm_num)
  · exact uintToFloat_setWidth_floatToUint sent.kd (by norm_num)
  · exact uintToFloat_setWidth_floatToUint sent.torque (neg_lt_self positive)

/-- A motor reads back the fields that were decoded and encoded again. -/
theorem mitFields_pack_decode (fields : MitFields) (maxTorqueNm : Ieee unspecified) :
    mitFields ((fields.decode maxTorqueNm).pack maxTorqueNm) = fields := by
  have positive := torqueRange_pos maxTorqueNm
  rw [MitSetpoint.pack, mitFields_packMit, MitFields.decode]
  rw [positiveTorqueLimit_ieee, Ieee.finite_neg]
  rw [MitFields.mk.injEq]
  refine ⟨?_, ?_, ?_, ?_, ?_⟩
  · exact floatToUint_uintToFloat_finite (-12.566) 12.566 (by norm_num) (by decide) (by decide)
      fields.p.isLt
  · exact setWidth_floatToUint_uintToFloat fields.v (by norm_num)
  · exact setWidth_floatToUint_uintToFloat fields.kp (by norm_num)
  · exact setWidth_floatToUint_uintToFloat fields.kd (by norm_num)
  · exact setWidth_floatToUint_uintToFloat fields.torque (neg_lt_self positive)

/-- A received value has the code of the value that was sent. -/
theorem floatToUint_received (value min max : ℚ) (bits : Nat) (less : min < max)
    (narrow : bits ≤ 16) (wide : 0 < bits) :
    floatToUint (.finite (uintToFloat (floatToUint value min max bits) min max bits) :
        Ieee unspecified) (.finite min) (.finite max) bits =
      floatToUint (.finite value : Ieee unspecified) (.finite min) (.finite max) bits := by
  have code := toNat_floatToUint value bits less narrow
  have upper := roundHalfAway_exactCode_le value bits less
  have positive := Nat.two_pow_pos bits
  rw [floatToUint_finite _ bits less narrow, floatToUint_finite _ bits less narrow]
  exact floatToUint_uintToFloat less wide (by omega)

/-- The command of a received setpoint is the command it was received from. -/
theorem pack_receivedSetpoint (sent : MitSetpoint ℚ) (maxTorqueNm : Ieee unspecified) :
    ((receivedSetpoint sent (torqueRange maxTorqueNm)).map .finite).pack maxTorqueNm =
      (sent.map .finite).pack maxTorqueNm := by
  apply packMit_congr
  · exact floatToUint_received sent.p (-12.566) 12.566 16 (by norm_num) (by decide) (by decide)
  · exact floatToUint_received sent.v (-45) 45 12 (by norm_num) (by decide) (by decide)
  · exact floatToUint_received sent.kp 0 500 12 (by norm_num) (by decide) (by decide)
  · exact floatToUint_received sent.kd 0 50 12 (by norm_num) (by decide) (by decide)
  · rw [positiveTorqueLimit_ieee, Ieee.finite_neg]
    exact floatToUint_received sent.torque _ _ 12 (neg_lt_self (torqueRange_pos maxTorqueNm))
      (by decide) (by decide)

/-- Commands are faithful. A motor receives a finite setpoint clamped and up to half a
step, encoding what it received gives the same bytes, every frame of codes survives
decoding and encoding, and a reply that holds a command's codes is decoded to the values
the motor received. -/
theorem mit_codec_faithful (sent : MitSetpoint ℚ) (maxTorqueNm : Ieee unspecified) :
    let data := (sent.map .finite).pack maxTorqueNm
    ∃ received : MitSetpoint ℚ,
      (mitFields data).decode maxTorqueNm = received.map .finite ∧
      Received sent received (torqueRange maxTorqueNm) ∧
      ((mitFields data).decode maxTorqueNm).pack maxTorqueNm = data ∧
      (∀ fields : MitFields, mitFields ((fields.decode maxTorqueNm).pack maxTorqueNm) = fields) ∧
      ∀ (reply : Vector Byte 8) (expectedMotorId : Int),
        (expectedMotorId > 0 → ((firstByte reply).toNat : Int) = expectedMotorId) →
        mitReplyFields reply = {
          p := (mitFields data).p
          v := (mitFields data).v
          torque := (mitFields data).torque } →
        parseMitReply reply 8 expectedMotorId maxTorqueNm = {
          valid := true
          motorId := (firstByte reply).toNat
          positionRad := .finite received.p
          velocityRadS := .finite received.v
          feedbackTorqueNm := .finite received.torque } := by
  intro data
  have decoded := decode_pack sent maxTorqueNm
  refine ⟨receivedSetpoint sent (torqueRange maxTorqueNm), decoded,
    received_receivedSetpoint sent (torqueRange_pos maxTorqueNm), ?_,
    fun fields => mitFields_pack_decode fields maxTorqueNm, ?_⟩
  · rw [decoded]
    exact pack_receivedSetpoint sent maxTorqueNm
  · intro reply expectedMotorId matching same
    rw [parseMitReply_fields maxTorqueNm matching, same]
    have p := congrArg MitSetpoint.p decoded
    have v := congrArg MitSetpoint.v decoded
    have torque := congrArg MitSetpoint.torque decoded
    rw [MitFeedback.mk.injEq]
    exact ⟨rfl, rfl, p, v, torque⟩

/-- The command of the motor 1 and a reply with its codes. -/
theorem mit_codec_faithful_reply :
    let sent : MitSetpoint ℚ := ⟨1, 2, 100, 2, 5⟩
    let reply : Vector Byte 8 := #v[1, 0x8a, 0x2f, 0x85, 0xb9, 0xaa, 0, 0]
    ∃ received : MitSetpoint ℚ, Received sent received 24 ∧
      parseMitReply reply 8 1 (.posInf : Ieee zeroConversions) = {
        valid := true
        motorId := 1
        positionRad := .finite received.p
        velocityRadS := .finite received.v
        feedbackTorqueNm := .finite received.torque } := by
  intro sent reply
  rcases mit_codec_faithful sent (.posInf : Ieee zeroConversions) with
    ⟨received, -, half, -, -, replies⟩
  exact ⟨received, half, replies reply 1 (fun _ => by decide) (by decide +kernel)⟩

end RmdCanSdk
