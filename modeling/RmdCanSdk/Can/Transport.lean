import RmdCanSdk.Can.Feedback

/-!
# Frames as the socket delivers them

The transport keeps the low eleven bits of an identifier and drops the flags beside it,
and returns the number of data bytes where it returns zero for a timeout. The receive
loop therefore takes a frame for a reply by these bits, its length and its data, and a
frame without data for a timeout.
-/

namespace RmdCanSdk

variable {F : Type} [FloatArith F]

def CanSffMask : BitVec 32 := 0x7ff

/-- The frame read from the socket; the flags for extended, remote and error frames are
the upper three bits of the identifier. -/
structure RawCanFrame where
  canId : BitVec 32
  canDlc : Nat
  data : Vector Byte 8
  inBounds : canDlc ≤ 8

namespace RawCanFrame

/-- The frame `receive` fills in. -/
def receive (raw : RawCanFrame) : CanFrame where
  id := (raw.canId &&& CanSffMask).toNat
  length := raw.canDlc
  data := Vector.ofFn fun index => if index < raw.canDlc then raw.data[index] else 0

/-- A frame with a plain identifier of eleven bits. -/
def Standard (raw : RawCanFrame) : Prop := raw.canId &&& ~~~CanSffMask = 0

instance (raw : RawCanFrame) : Decidable raw.Standard := inferInstanceAs (Decidable (_ = _))

end RawCanFrame

/-- What one call of `receive` delivers, if it reads a frame. -/
def RxEvent.ofRaw (raw : Option RawCanFrame) (now : Time) : RxEvent where
  frame := raw.map RawCanFrame.receive
  now := now

/-- A well-formed reply of a motor: eight bytes that begin with its id, or those of a
status reply. -/
def CanFrame.IsReplyOf (frame : CanFrame) (motor : RuntimeMotor F) : Prop :=
  frame.length = 8 ∧
    (frame.id = mitRxId motor.motorId ∧
        (motor.motorId > 0 → ((firstByte frame.data).toNat : Int) = motor.motorId) ∨
      frame.id = standardRxId motor.motorId ∧ firstByte frame.data = 0x9C)

/-- A reply of a motor of the group in a plain frame. -/
def RawCanFrame.Genuine (group : CanGroup F) (raw : RawCanFrame) : Prop :=
  raw.Standard ∧ ∃ motor ∈ group.motors, raw.receive.IsReplyOf motor

namespace RmdCanBackend

/-- The states of the receive loop after any frames and timeouts. -/
def Reachable (group : CanGroup F) (totalMotorCount : Nat) (backend : RmdCanBackend F) : Prop :=
  ∃ history : List (Option RawCanFrame × Time), backend =
    (started group totalMotorCount).rxLoop group
      (history.map fun received => RxEvent.ofRaw received.1 received.2)

/-- One iteration of the receive loop on a frame. -/
def process (group : CanGroup F) (backend : RmdCanBackend F) (raw : RawCanFrame) (now : Time) :
    RmdCanBackend F :=
  backend.rxStep group (RxEvent.ofRaw (some raw) now)

/-- Processing leaves samples, tracker, published frames and faults as they were. -/
structure Unaffected (before after : RmdCanBackend F) : Prop where
  workingActuals : after.workingActuals = before.workingActuals
  mitFrame : after.mitFrame = before.mitFrame
  actualBuffer : after.actualBuffer = before.actualBuffer
  status : after.status = before.status

/-! ## Frames that are no reply -/

theorem parseMitReply_valid_iff {frame : CanFrame} {motor : RuntimeMotor F} :
    (parseMitReply frame.data frame.length motor.motorId motor.parameters.maximumTorque).valid =
        true ↔
      frame.length = 8 ∧
        (motor.motorId > 0 → ((firstByte frame.data).toNat : Int) = motor.motorId) := by
  rw [parseMitReply]
  by_cases eight : frame.length = 8
  · rw [if_neg (not_not.mpr eight)]
    dsimp only
    split
    next refused => exact iff_of_false Bool.false_ne_true fun own => refused.2 (own.2 refused.1)
    next accepted =>
      refine iff_of_true rfl ⟨eight, fun positive => ?_⟩
      by_contra other
      exact accepted ⟨positive, other⟩
  · rw [if_pos eight]
    exact iff_of_false Bool.false_ne_true fun own => eight own.1

theorem parseStatus2Reply_valid_iff {frame : CanFrame} (torqueConstant : F) :
    (parseStatus2Reply frame.data frame.length torqueConstant).valid = true ↔
      frame.length = 8 ∧ firstByte frame.data = 0x9C := by
  rw [parseStatus2Reply]
  split
  next refused =>
    refine iff_of_false Bool.false_ne_true fun own => ?_
    rcases refused with short | other
    · exact short own.1
    · exact other own.2
  next accepted =>
    rw [not_or, not_not, not_not] at accepted
    exact iff_of_true rfl accepted

variable {group : CanGroup F} {backend : RmdCanBackend F} {motor : RuntimeMotor F}
variable {frame : CanFrame} {now : Time}

/-- A frame that is no reply of a motor passes it by. -/
theorem receiveFor_foreign (backend : RmdCanBackend F) (foreign : ¬ frame.IsReplyOf motor) :
    backend.receiveFor frame now motor = backend := by
  rw [receiveFor]
  split
  next mit =>
    refine if_neg fun valid => foreign ?_
    rcases parseMitReply_valid_iff.mp valid with ⟨eight, own⟩
    exact ⟨eight, .inl ⟨mit, own⟩⟩
  next =>
    split
    next status =>
      refine if_neg fun valid => foreign ?_
      rcases (parseStatus2Reply_valid_iff _).mp valid with ⟨eight, command⟩
      exact ⟨eight, .inr ⟨status, command⟩⟩
    next => rfl

theorem process_foreign {raw : RawCanFrame} (backend : RmdCanBackend F) (now : Time)
    (carriesData : raw.canDlc ≠ 0)
    (foreign : ∀ motor ∈ group.motors, ¬ raw.receive.IsReplyOf motor) :
    backend.process group raw now = backend := by
  apply rxStep_preserves (· = backend) rfl
  · intro timeout
    have length : (RxEvent.ofRaw (some raw) now).received = raw.canDlc := rfl
    omega
  · intro frame received between same motor inGroup
    cases received
    rw [same]
    exact receiveFor_foreign backend (foreign motor inGroup)

/-! ## Frames that are a reply -/

theorem entry_process (raw : RawCanFrame) (backend : RmdCanBackend F) (now : Time)
    (carriesData : raw.canDlc ≠ 0) (member : motor ∈ group.motors) :
    (backend.process group raw now).workingActuals.entry motor.globalIndex =
      receivedEntry raw.receive motor (backend.workingActuals.entry motor.globalIndex) := by
  have arrived : ¬ (RxEvent.ofRaw (some raw) now).received ≤ 0 := by
    have length : (RxEvent.ofRaw (some raw) now).received = raw.canDlc := rfl
    omega
  exact entry_rxStep backend arrived rfl member

/-- A MIT reply marks its motor as enabled. -/
theorem statusWord_receivedEntry (entry : MotorEntry F)
    (eight : frame.length = 8) (mit : frame.id = mitRxId motor.motorId)
    (own : motor.motorId > 0 → (frame.data[0].toNat : Int) = motor.motorId) :
    (receivedEntry frame motor entry).actual.statusWord = 0x0237 := by
  have valid := parseMitReply_valid_iff.mpr ⟨eight, own⟩
  rw [receivedEntry, if_pos mit, if_pos valid]
  simp only [applyMitFeedback, valid]
  rfl

/-- A status reply brings its motor's temperature. -/
theorem temp_receivedEntry (entry : MotorEntry F) (eight : frame.length = 8)
    (status : frame.id = standardRxId motor.motorId) (command : frame.data[0] = 0x9C) :
    (receivedEntry frame motor entry).actual.temp = frame.data[1].signExtend 16 := by
  have valid := (parseStatus2Reply_valid_iff motor.parameters.torqueConstant).mpr ⟨eight, command⟩
  have notMit : ¬ frame.id = mitRxId motor.motorId := by
    rw [status, standardRxId, mitRxId]
    omega
  rw [receivedEntry, if_neg notMit, if_pos status, if_pos valid]
  simp only [applyStatus2Feedback, valid]
  simp only [parseStatus2Reply, eight, command, ne_eq, not_true_eq_false, or_self, if_false,
    Bool.not_true, Bool.false_eq_true, BitVec.signExtend]

/-! ## Frames that change the state although they are no reply -/

/-- A frame without data is a timeout, and a fault. -/
theorem degraded_process_empty (group : CanGroup F) {raw : RawCanFrame}
    (backend : RmdCanBackend F) (now : Time) (empty : raw.canDlc = 0) :
    (backend.process group raw now).status.degraded = true := by
  have timeout : (RxEvent.ofRaw (some raw) now).received ≤ 0 := by
    have length : (RxEvent.ofRaw (some raw) now).received = raw.canDlc := rfl
    omega
  rw [process, rxStep_timeout timeout, receiveTimeout]
  simp only [publishActuals, markMissingStale]
  split <;> rfl

/-- The same status reply with another temperature. -/
def warmer (raw : RawCanFrame) : RawCanFrame :=
  { raw with data := raw.data.mapIdx fun index byte => if index = 1 then byte + 1 else byte }

theorem warmer_isReplyOf {raw : RawCanFrame} (eight : raw.canDlc = 8)
    (command : raw.receive.data[0] = 0x9C) :
    (warmer raw).receive.data[0] = 0x9C ∧
      (warmer raw).receive.data[1] = raw.receive.data[1] + 1 := by
  simp only [RawCanFrame.receive, Vector.getElem_ofFn, eight] at command ⊢
  simp only [warmer, eight]
  constructor
  · simpa using command
  · simp

/-- Some reachable state is changed by a frame that is a reply of a motor. -/
theorem reply_changes {raw : RawCanFrame} (totalMotorCount : Nat) (member : motor ∈ group.motors)
    (reply : raw.receive.IsReplyOf motor) :
    ∃ backend, Reachable group totalMotorCount backend ∧
      (backend.process group raw 0).workingActuals ≠ backend.workingActuals := by
  rcases reply with ⟨eight, ⟨mit, own⟩ | ⟨status, command⟩⟩
  · have carriesData : raw.canDlc ≠ 0 := by
      rw [show raw.canDlc = 8 from eight]
      decide
    refine ⟨started group totalMotorCount, ⟨[], rfl⟩, fun same => ?_⟩
    have entry := entry_process raw (started group totalMotorCount) 0 carriesData member
    have enabled := congrArg (fun entry => entry.actual.statusWord) entry
    rw [same, statusWord_receivedEntry _ eight mit own] at enabled
    have initial : (0xffff : BitVec 16) = 0x0237 := enabled
    revert initial
    decide
  · have carriesData : raw.canDlc ≠ 0 := by
      rw [show raw.canDlc = 8 from eight]
      decide
    rcases warmer_isReplyOf eight command with ⟨otherCommand, otherTemp⟩
    let before := (started group totalMotorCount).process group (warmer raw) 0
    refine ⟨before, ⟨[(some (warmer raw), 0)], rfl⟩, fun same => ?_⟩
    have own := congrArg (fun entry => entry.actual.temp)
      (entry_process raw before 0 carriesData member)
    have other := congrArg (fun entry => entry.actual.temp)
      (entry_process (warmer raw) (started group totalMotorCount) 0 carriesData member)
    rw [same, temp_receivedEntry _ eight status command] at own
    have replyTo : (warmer raw).receive.length = 8 ∧
        (warmer raw).receive.id = standardRxId motor.motorId := ⟨eight, status⟩
    rw [temp_receivedEntry _ replyTo.1 replyTo.2 otherCommand, otherTemp] at other
    have temperatures : ∀ byte : Byte, byte.signExtend 16 ≠ (byte + 1).signExtend 16 := by decide
    exact temperatures _ (own.symm.trans other)

/-- A frame that is no genuine reply is without effect in every state exactly when it
carries data and its low identifier bits and data are not those of a reply. -/
theorem foreign_frame_unaffected_iff (group : CanGroup F) (totalMotorCount : Nat)
    (raw : RawCanFrame) :
    (¬ raw.Genuine group → ∀ backend, Reachable group totalMotorCount backend →
        ∀ now, Unaffected backend (backend.process group raw now)) ↔
      raw.Genuine group ∨
        raw.canDlc ≠ 0 ∧ ∀ motor ∈ group.motors, ¬ raw.receive.IsReplyOf motor := by
  constructor
  · intro unaffected
    by_cases genuine : raw.Genuine group
    · exact .inl genuine
    · refine .inr ⟨?_, ?_⟩
      · intro empty
        have fault := degraded_process_empty group (started group totalMotorCount) 0 empty
        have same := (unaffected genuine (started group totalMotorCount) ⟨[], rfl⟩ 0).status
        rw [same] at fault
        contradiction
      · intro motor member reply
        rcases reply_changes totalMotorCount member reply with ⟨backend, reachable, changed⟩
        exact changed (unaffected genuine backend reachable 0).workingActuals
  · intro condition notGenuine backend reachable now
    rcases condition with genuine | ⟨carriesData, foreign⟩
    · contradiction
    · rw [process_foreign backend now carriesData foreign]
      exact ⟨rfl, rfl, rfl, rfl⟩

end RmdCanBackend

/-- A frame without data under an identifier that belongs to no motor. -/
def emptyFrame : RawCanFrame where
  canId := 0x123
  canDlc := 0
  data := #v[0, 0, 0, 0, 0, 0, 0, 0]
  inBounds := by decide

/-- An extended identifier whose low eleven bits are those of the replies of motor 1. -/
def extendedFrame : RawCanFrame where
  canId := 0x80012501
  canDlc := 8
  data := #v[1, 0x80, 0x00, 0x80, 0x08, 0x00, 0x00, 0x00]
  inBounds := by decide

open RmdCanBackend in
/-- Both frames change the state of a backend that has just started. -/
theorem foreign_frames_affect :
    let bus : CanGroup ℚ := twoMotors default
    ∀ raw ∈ [emptyFrame, extendedFrame], ¬ raw.Genuine bus ∧
      ∃ backend, Reachable bus 2 backend ∧ ¬ Unaffected backend (backend.process bus raw 0) := by
  intro bus raw either
  rcases List.mem_pair.mp either with rfl | rfl
  · constructor
    · rintro ⟨-, motor, -, eight, -⟩
      contradiction
    · refine ⟨started bus 2, ⟨[], rfl⟩, fun unaffected => ?_⟩
      have same := congrArg BackendStatus.degraded unaffected.status
      rw [degraded_process_empty bus _ 0 rfl] at same
      contradiction
  · constructor
    · rintro ⟨standard, -⟩
      contradiction
    · refine ⟨started bus 2, ⟨[], rfl⟩, fun unaffected => ?_⟩
      have same := congrArg (fun frame => (frame.actuals 0).statusWord) unaffected.workingActuals
      revert same
      decide +kernel

end RmdCanSdk
