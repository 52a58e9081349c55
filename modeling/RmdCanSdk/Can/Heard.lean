import RmdCanSdk.Can.Feedback

/-!
# CAN motors that have been heard

The receive loop presets the valid bit of its motors, so a valid bit alone says
nothing. A frame it publishes shows a motor without a stale mark only when the
motor has replied, provided the motor has its own bit in the feedback mask.
-/

namespace RmdCanSdk

variable {F : Type} [FloatArith F]

/-- The motor has a bit in the feedback mask that no other motor shares. -/
structure OwnBit (motors : List (RuntimeMotor F)) (motor : RuntimeMotor F) : Prop where
  inMask : 0 ≤ motor.slaveId ∧ motor.slaveId < 64
  unshared : ∀ other ∈ motors, other.slaveId = motor.slaveId → other = motor

/-- The sample was decoded from a reply of the motor. -/
def HeardFrom (motor : RuntimeMotor F) (history : List RxEvent) (actual : MotorActual F) : Prop :=
  ∃ event ∈ history, ∃ feedback, event.mitReply motor = some feedback ∧
    actual.pos = feedback.positionRad ∧ actual.vel = feedback.velocityRadS ∧
    actual.statusWord = 0x0237 ∧ actual.errorCode = 0

/-- A set bit of the mask stands for a motor with a decoded sample, and so does a
missing stale mark in a frame that was published. -/
structure Hears (group : CanGroup F) (history : List RxEvent) (backend : RmdCanBackend F) :
    Prop where
  expects : ∀ motor ∈ group.motors, OwnBit group.motors motor →
    backend.mitFrame.mask.expects motor.slaveId = true
  received : ∀ motor ∈ group.motors, OwnBit group.motors motor →
    backend.mitFrame.isReceived motor.slaveId = true →
      HeardFrom motor history (backend.workingActuals.actuals motor.globalIndex)
  published : ∀ frame ∈ backend.actualBuffer.published, ∀ motor ∈ group.motors,
    OwnBit group.motors motor → frame.stale motor.globalIndex = false →
      HeardFrom motor history (frame.actuals motor.globalIndex)

variable {group : CanGroup F} {history : List RxEvent} {backend next : RmdCanBackend F}
variable {motor : RuntimeMotor F} {event : RxEvent} {actual after : MotorActual F}

theorem HeardFrom.concat (heard : HeardFrom motor history actual) (event : RxEvent) :
    HeardFrom motor (history ++ [event]) actual := by
  rcases heard with ⟨earlier, member, decoded⟩
  exact ⟨earlier, List.mem_append_left _ member, decoded⟩

/-- Torque and temperature come from another reply. -/
theorem HeardFrom.quiet {before after : MotorEntry F}
    (heard : HeardFrom motor history before.actual) (quiet : MotorEntry.Quiet before after) :
    HeardFrom motor history after.actual := by
  rcases heard with ⟨event, member, feedback, reply, pos, vel, statusWord, errorCode⟩
  refine ⟨event, member, feedback, reply, ?_⟩
  rw [quiet.actual]
  exact ⟨pos, vel, statusWord, errorCode⟩

theorem Hears.construct (group : CanGroup F) (totalMotorCount : Nat)
    (initial : MotorActualFrame F) :
    Hears group [] (RmdCanBackend.construct group totalMotorCount (LatestValue.start initial)) where
  expects motor member bit :=
    MaskTracker.expects_setExpected.mpr ⟨List.mem_map_of_mem member, bit.inMask⟩
  received motor _ _ received := by
    have none : (RmdCanBackend.construct group totalMotorCount
        (LatestValue.start initial)).mitFrame.isReceived motor.slaveId = false :=
      MaskTracker.isReceived_setExpected _ _
    rw [none] at received
    contradiction
  published _ member := absurd member List.not_mem_nil

theorem Hears.concat (hears : Hears group history backend) (event : RxEvent) :
    Hears group (history ++ [event]) backend where
  expects := hears.expects
  received motor member bit received := (hears.received motor member bit received).concat event
  published frame listed motor member bit fresh :=
    (hears.published frame listed motor member bit fresh).concat event

theorem Hears.quiet (hears : Hears group history backend)
    (quiet : RmdCanBackend.Quiet backend next) : Hears group history next where
  expects := by
    rw [quiet.mitFrame]
    exact hears.expects
  received motor member bit received := by
    rw [quiet.mitFrame] at received
    exact (hears.received motor member bit received).quiet (quiet.entries motor.globalIndex)
  published := by
    rw [quiet.actualBuffer]
    exact hears.published

/-- A timeout marks every motor whose bit is missing. -/
theorem Hears.timeout (hears : Hears group history backend) (now : Time) :
    Hears group history (backend.receiveTimeout group now) := by
  rcases RmdCanBackend.receiveTimeout_spec group backend now with ⟨published, mitFrame, entries⟩
  constructor
  · rw [mitFrame]
    exact hears.expects
  · intro motor member bit received
    have none : (backend.receiveTimeout group now).mitFrame.isReceived motor.slaveId = false := by
      rw [mitFrame]
      exact MaskTracker.isReceived_resetCurrent _ _
    rw [none] at received
    contradiction
  · rw [LatestValue.published_of_concat published]
    apply List.forall_mem_append.mpr ⟨hears.published, List.forall_mem_singleton.mpr _⟩
    intro motor member bit fresh
    have entry := entries motor member
    cases received : backend.mitFrame.isReceived motor.slaveId with
    | true =>
        rw [RmdCanBackend.missingEntry, received, if_pos rfl] at entry
        rw [show (backend.receiveTimeout group now).workingActuals.actuals motor.globalIndex = _
          from congrArg MotorEntry.actual entry]
        exact hears.received motor member bit received
    | false =>
        rw [RmdCanBackend.missingEntry, received] at entry
        have marked : (backend.receiveTimeout group now).workingActuals.stale
            motor.globalIndex = true := congrArg MotorEntry.stale entry
        rw [marked] at fresh
        contradiction

/-- A reply gives its motor a sample and leaves the samples of the others alone. -/
theorem Hears.sample_reply (hears : Hears group history backend) (member : motor ∈ group.motors)
    (occurred : event ∈ history) {feedback : MitFeedback F}
    (reply : event.mitReply motor = some feedback) {other : RuntimeMotor F}
    (otherIn : other ∈ group.motors) (bit : OwnBit group.motors other)
    (cause : other.slaveId = motor.slaveId ∨
      backend.mitFrame.isReceived other.slaveId = true) :
    HeardFrom other history
      ((backend.acceptReply motor feedback event.now).workingActuals.actuals
        other.globalIndex) := by
  have entry := (RmdCanBackend.acceptReply_spec backend motor feedback event.now).2.2.2
    other.globalIndex
  have actual : (backend.acceptReply motor feedback event.now).workingActuals.actuals
    other.globalIndex = _ := congrArg MotorEntry.actual entry
  by_cases same : other = motor
  · rw [if_pos (congrArg RuntimeMotor.globalIndex same)] at actual
    have valid : feedback.valid = true := (mitReply_eq_some reply).choose_spec.2.2.2
    refine ⟨event, occurred, feedback, same ▸ reply, ?_⟩
    rw [actual]
    simp [applyMitFeedback, valid]
  · rw [if_neg fun index => same (group.eq_of_globalIndex otherIn member index)] at actual
    rw [actual]
    apply hears.received other otherIn bit
    exact cause.resolve_left fun shared => same (bit.unshared motor member shared.symm).symm

/-- A reply sets its motor's bit; a complete mask stands for all motors. -/
theorem Hears.reply (hears : Hears group history backend) (member : motor ∈ group.motors)
    (occurred : event ∈ history) {feedback : MitFeedback F}
    (reply : event.mitReply motor = some feedback) :
    Hears group history (backend.acceptReply motor feedback event.now) := by
  rcases RmdCanBackend.acceptReply_spec backend motor feedback event.now with
    ⟨published, unpublished, mitFrame, -⟩
  cases expected : backend.mitFrame.mask.expects motor.slaveId with
  | false =>
      have marked : backend.mitFrame.markReceived motor.slaveId event.now = _ :=
        FeedbackFrameTracker.markReceived_unexpected expected
      rw [marked] at mitFrame unpublished
      constructor
      · rw [mitFrame]
        exact hears.expects
      · intro other otherIn bit received
        rw [mitFrame] at received
        exact hears.sample_reply member occurred reply otherIn bit (.inr received)
      · rw [unpublished rfl]
        exact hears.published
  | true =>
      have mask := FeedbackFrameTracker.markReceived_mask event.now expected
      constructor
      · intro other otherIn bit
        rw [mitFrame, mask.2, MaskTracker.expects_markReceived]
        exact hears.expects other otherIn bit
      · intro other otherIn bit received
        rw [mitFrame, FeedbackFrameTracker.isReceived, mask.2,
          MaskTracker.isReceived_markReceived expected] at received
        exact hears.sample_reply member occurred reply otherIn bit received.2
      · cases complete : (backend.mitFrame.markReceived motor.slaveId event.now).1 with
        | false =>
            rw [unpublished complete]
            exact hears.published
        | true =>
            rw [LatestValue.published_of_concat (published complete)]
            apply List.forall_mem_append.mpr
              ⟨hears.published, List.forall_mem_singleton.mpr _⟩
            intro other otherIn bit _
            rw [mask.1, MaskTracker.markReceived_completes expected] at complete
            exact hears.sample_reply member occurred reply otherIn bit
              (complete other.slaveId (hears.expects other otherIn bit))

theorem Hears.rxStep (hears : Hears group history backend) (event : RxEvent) :
    Hears group (history ++ [event]) (backend.rxStep group event) := by
  have extended := hears.concat event
  apply RmdCanBackend.rxStep_preserves (Hears group (history ++ [event])) extended
    fun _ => extended.timeout event.now
  intro frame received between hears motor member
  cases reply : event.mitReply motor with
  | none => exact hears.quiet (RmdCanBackend.receiveFor_quiet between received reply)
  | some feedback =>
      rw [RmdCanBackend.receiveFor_reply received reply]
      exact hears.reply member (List.mem_append_right _ (List.mem_singleton_self _)) reply

/-- An iteration publishes frames and withdraws none. -/
theorem RmdCanBackend.values_prefix_rxStep (group : CanGroup F) (backend : RmdCanBackend F)
    (event : RxEvent) :
    backend.actualBuffer.values <+: (backend.rxStep group event).actualBuffer.values := by
  apply rxStep_preserves (fun after => backend.actualBuffer.values <+: after.actualBuffer.values)
    (List.prefix_refl _)
  · intro _
    rw [(receiveTimeout_spec group backend event.now).1]
    exact List.prefix_append _ _
  · intro frame received between before motor _
    apply before.trans
    cases reply : event.mitReply motor with
    | none =>
        rewrite [(receiveFor_quiet between received reply).actualBuffer]
        exact List.prefix_refl _
    | some feedback =>
        rw [receiveFor_reply received reply]
        rcases acceptReply_spec between motor feedback event.now with
          ⟨published, unpublished, -⟩
        cases complete : (between.mitFrame.markReceived motor.slaveId event.now).1 with
        | true =>
            rw [published complete]
            exact List.prefix_append _ _
        | false =>
            rewrite [unpublished complete]
            exact List.prefix_refl _

end RmdCanSdk
