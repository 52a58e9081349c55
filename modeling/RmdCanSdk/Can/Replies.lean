import RmdCanSdk.Can.Backend

/-!
# What a received frame does to the CAN backend

The valid MIT replies in a history of receive events, and the effect of one event:
a frame that is no MIT reply touches torque and temperature only, and a MIT reply
reaches one motor of a group whose motor ids are distinct.
-/

namespace RmdCanSdk

variable {F : Type} [FloatArith F]

/-- The valid MIT reply of a motor that an event carries. -/
def RxEvent.mitReply (event : RxEvent) (motor : RuntimeMotor F) : Option (MitFeedback F) :=
  event.frame.bind fun frame =>
    let feedback :=
      parseMitReply frame.data frame.length motor.motorId motor.parameters.maximumTorque
    if frame.id = mitRxId motor.motorId ∧ feedback.valid then some feedback else none

/-- Whether a motor has replied in a list of events. -/
def replied (motor : RuntimeMotor F) (events : List RxEvent) : Bool :=
  events.any fun event => (event.mitReply motor).isSome

/-- The latest reply of a motor in a list of events. -/
def lastReply (motor : RuntimeMotor F) (events : List RxEvent) : Option (MitFeedback F) :=
  events.foldl (fun last event => (event.mitReply motor).or last) none

@[simp] theorem replied_nil (motor : RuntimeMotor F) : replied motor [] = false := rfl

@[simp] theorem replied_append (motor : RuntimeMotor F) (front back : List RxEvent) :
    replied motor (front ++ back) = (replied motor front || replied motor back) :=
  List.any_append

@[simp] theorem replied_singleton (motor : RuntimeMotor F) (event : RxEvent) :
    replied motor [event] = (event.mitReply motor).isSome :=
  Bool.or_false _

@[simp] theorem lastReply_concat (motor : RuntimeMotor F) (events : List RxEvent)
    (event : RxEvent) :
    lastReply motor (events ++ [event]) = (event.mitReply motor).or (lastReply motor events) := by
  simp [lastReply]

theorem mitReply_eq_some {event : RxEvent} {motor : RuntimeMotor F} {feedback : MitFeedback F}
    (reply : event.mitReply motor = some feedback) :
    ∃ frame, event.frame = some frame ∧ frame.id = mitRxId motor.motorId ∧
      parseMitReply frame.data frame.length motor.motorId motor.parameters.maximumTorque =
        feedback ∧
      feedback.valid = true := by
  rcases Option.bind_eq_some_iff.mp reply with ⟨frame, received, parsed⟩
  dsimp only at parsed
  split at parsed
  next conditions =>
    cases parsed
    exact ⟨frame, received, conditions.1, rfl, conditions.2⟩
  next => contradiction

/-- A frame is the reply of one motor id. -/
theorem motorId_of_mitReply {event : RxEvent} {left right : RuntimeMotor F}
    {leftReply rightReply : MitFeedback F} (fromLeft : event.mitReply left = some leftReply)
    (fromRight : event.mitReply right = some rightReply) : left.motorId = right.motorId := by
  rcases mitReply_eq_some fromLeft with ⟨frame, leftFrame, leftId, -⟩
  rcases mitReply_eq_some fromRight with ⟨frame', rightFrame, rightId, -⟩
  cases leftFrame.symm.trans rightFrame
  exact Int.add_left_cancel (leftId.symm.trans rightId)

/-- Only a frame of eight bytes is a valid reply. -/
theorem length_of_valid {data : Vector Byte 8} {length : Nat} {motorId : Int} {torque : F}
    (valid : (parseMitReply data length motorId torque).valid = true) : length = 8 := by
  rw [parseMitReply] at valid
  split at valid
  next => exact absurd valid Bool.false_ne_true
  next eight => exact not_not.mp eight

/-- A timeout carries no reply. -/
theorem mitReply_of_timeout {event : RxEvent} (timeout : event.received ≤ 0)
    (motor : RuntimeMotor F) : event.mitReply motor = none := by
  cases reply : event.mitReply motor with
  | none => rfl
  | some feedback =>
      rcases mitReply_eq_some reply with ⟨frame, received, -, parsed, valid⟩
      have eight := length_of_valid (parsed ▸ valid)
      simp only [RxEvent.received, received, eight] at timeout
      contradiction

/-- Entries that differ in torque and temperature only. -/
structure MotorEntry.Quiet (before after : MotorEntry F) : Prop where
  valid : after.valid = before.valid
  stale : after.stale = before.stale
  actual : after.actual = { before.actual with
    tor := after.actual.tor
    temp := after.actual.temp }

omit [FloatArith F] in
theorem MotorEntry.Quiet.refl (entry : MotorEntry F) : MotorEntry.Quiet entry entry :=
  ⟨rfl, rfl, rfl⟩

omit [FloatArith F] in
theorem MotorEntry.Quiet.trans {first second third : MotorEntry F}
    (front : MotorEntry.Quiet first second) (back : MotorEntry.Quiet second third) :
    MotorEntry.Quiet first third where
  valid := back.valid.trans front.valid
  stale := back.stale.trans front.stale
  actual := by rw [back.actual, front.actual]

namespace RmdCanBackend

/-- A step that touches nothing but the torque and temperature of some samples. -/
structure Quiet (before after : RmdCanBackend F) : Prop where
  status : after.status = before.status
  mitFrame : after.mitFrame = before.mitFrame
  actualBuffer : after.actualBuffer = before.actualBuffer
  metadata : after.workingActuals.toFrameMetadata = before.workingActuals.toFrameMetadata
  entries : ∀ index,
    MotorEntry.Quiet (before.workingActuals.entry index) (after.workingActuals.entry index)

omit [FloatArith F] in
theorem Quiet.refl (backend : RmdCanBackend F) : Quiet backend backend :=
  ⟨rfl, rfl, rfl, rfl, fun _ => MotorEntry.Quiet.refl _⟩

omit [FloatArith F] in
theorem Quiet.trans {first second third : RmdCanBackend F} (front : Quiet first second)
    (back : Quiet second third) : Quiet first third where
  status := back.status.trans front.status
  mitFrame := back.mitFrame.trans front.mitFrame
  actualBuffer := back.actualBuffer.trans front.actualBuffer
  metadata := back.metadata.trans front.metadata
  entries := fun index => (front.entries index).trans (back.entries index)

variable {group : CanGroup F} {backend : RmdCanBackend F} {motor : RuntimeMotor F}
variable {event : RxEvent} {frame : CanFrame}

/-- Offering a frame to a motor it is no MIT reply of. -/
theorem receiveFor_quiet (backend : RmdCanBackend F) (received : event.frame = some frame)
    (none : event.mitReply motor = none) :
    Quiet backend (backend.receiveFor frame event.now motor) := by
  rw [receiveFor]
  split
  next mit =>
    have invalid : ¬ (parseMitReply frame.data frame.length motor.motorId
        motor.parameters.maximumTorque).valid = true := by
      intro valid
      simp [RxEvent.mitReply, received, mit, valid] at none
    rw [if_neg invalid]
    exact Quiet.refl backend
  next =>
    split
    next =>
      dsimp only
      split
      next valid =>
        refine ⟨rfl, rfl, rfl, rfl, ?_⟩
        intro index
        rw [MotorActualFrame.entry_setEntry]
        split
        next same =>
          subst same
          simp only [applyStatus2Feedback, valid]
          exact ⟨rfl, rfl, rfl⟩
        next => exact MotorEntry.Quiet.refl _
      next => exact Quiet.refl backend
    next => exact Quiet.refl backend

theorem receiveFor_reply {feedback : MitFeedback F} (received : event.frame = some frame)
    (reply : event.mitReply motor = some feedback) :
    backend.receiveFor frame event.now motor = backend.acceptReply motor feedback event.now := by
  rcases mitReply_eq_some reply with ⟨same, received', mit, rfl, valid⟩
  cases received.symm.trans received'
  rw [receiveFor, if_pos mit, if_pos valid]

theorem foldl_receiveFor_quiet {motors : List (RuntimeMotor F)}
    (received : event.frame = some frame)
    (none : ∀ motor ∈ motors, event.mitReply motor = none) :
    Quiet backend (motors.foldl (receiveFor frame event.now) backend) := by
  induction motors generalizing backend with
  | nil => exact Quiet.refl backend
  | cons motor rest ih =>
      exact (receiveFor_quiet _ received (none motor List.mem_cons_self)).trans
        (ih fun other member => none other (List.mem_cons_of_mem _ member))

theorem rxStep_timeout (timeout : event.received ≤ 0) :
    backend.rxStep group event = backend.receiveTimeout group event.now :=
  if_pos timeout

theorem rxStep_frame (group : CanGroup F) (backend : RmdCanBackend F)
    (arrived : ¬ event.received ≤ 0) :
    ∃ frame, event.frame = some frame ∧
      backend.rxStep group event = group.motors.foldl (receiveFor frame event.now) backend := by
  cases received : event.frame with
  | none => simp [RxEvent.received, received] at arrived
  | some frame =>
      refine ⟨frame, rfl, ?_⟩
      rw [rxStep, if_neg arrived, received]

/-- What a timeout keeps, and what each motor keeps to which a frame is offered, an
iteration keeps. -/
theorem rxStep_preserves (kept : RmdCanBackend F → Prop) (initially : kept backend)
    (timeout : event.received ≤ 0 → kept (backend.receiveTimeout group event.now))
    (offered : ∀ frame, event.frame = some frame → ∀ backend, kept backend →
      ∀ motor ∈ group.motors, kept (backend.receiveFor frame event.now motor)) :
    kept (backend.rxStep group event) := by
  by_cases late : event.received ≤ 0
  · rw [rxStep_timeout late]
    exact timeout late
  · rcases rxStep_frame group backend late with ⟨frame, received, step⟩
    rw [step]
    exact List.foldlRecOn _ _ initially (offered frame received)

/-- A frame that is no MIT reply of the group, such as a status reply, leaves
everything but torque and temperature alone. -/
theorem rxStep_quiet (backend : RmdCanBackend F) (arrived : ¬ event.received ≤ 0)
    (none : ∀ motor ∈ group.motors, event.mitReply motor = none) :
    Quiet backend (backend.rxStep group event) := by
  rcases rxStep_frame group backend arrived with ⟨frame, received, step⟩
  rw [step]
  exact foldl_receiveFor_quiet received none

/-- With distinct motor ids a MIT reply is taken over by its motor alone. -/
theorem rxStep_reply (backend : RmdCanBackend F)
    (distinct : (group.motors.map RuntimeMotor.motorId).Nodup)
    (member : motor ∈ group.motors) {feedback : MitFeedback F}
    (reply : event.mitReply motor = some feedback) :
    ∃ before, Quiet backend before ∧
      Quiet (before.acceptReply motor feedback event.now) (backend.rxStep group event) := by
  have arrived : ¬ event.received ≤ 0 := by
    intro timeout
    rw [mitReply_of_timeout timeout] at reply
    contradiction
  rcases rxStep_frame group backend arrived with ⟨frame, received, step⟩
  rcases List.append_of_mem member with ⟨front, back, split⟩
  rw [split, List.map_append, List.map_cons, List.nodup_middle, List.nodup_cons] at distinct
  have others : ∀ other ∈ front ++ back, event.mitReply other = none := by
    intro other inRest
    cases reply' : event.mitReply other with
    | none => rfl
    | some feedback' =>
        refine absurd ?_ distinct.1
        rw [← List.map_append, motorId_of_mitReply reply reply']
        exact List.mem_map_of_mem inRest
  refine ⟨front.foldl (receiveFor frame event.now) backend, ?_, ?_⟩
  · exact foldl_receiveFor_quiet received fun other inFront =>
      others other (List.mem_append_left _ inFront)
  · rw [step, split, List.foldl_append, List.foldl_cons, receiveFor_reply received reply]
    exact foldl_receiveFor_quiet received fun other inBack =>
      others other (List.mem_append_right _ inBack)

/-- What a received frame makes of a motor's entry. -/
def receivedEntry (frame : CanFrame) (motor : RuntimeMotor F) (entry : MotorEntry F) :
    MotorEntry F :=
  if frame.id = mitRxId motor.motorId then
    let feedback :=
      parseMitReply frame.data frame.length motor.motorId motor.parameters.maximumTorque
    if feedback.valid then {
      actual := applyMitFeedback entry.actual feedback
      valid := true
      stale := false }
    else entry
  else if frame.id = standardRxId motor.motorId then
    let feedback :=
      parseStatus2Reply frame.data frame.length motor.parameters.torqueConstant
    if feedback.valid then { entry with actual := applyStatus2Feedback entry.actual feedback }
    else entry
  else entry

theorem entry_receiveFor (frame : CanFrame) (now : Time) (backend : RmdCanBackend F)
    (motor : RuntimeMotor F) (index : Nat) :
    (backend.receiveFor frame now motor).workingActuals.entry index =
      if index = motor.globalIndex then
        receivedEntry frame motor (backend.workingActuals.entry index)
      else backend.workingActuals.entry index := by
  have changed : ∀ entry : MotorEntry F → MotorEntry F,
      (backend.workingActuals.setEntry motor.globalIndex
        (entry (backend.workingActuals.entry motor.globalIndex))).entry index =
      if index = motor.globalIndex then entry (backend.workingActuals.entry index)
      else backend.workingActuals.entry index := by
    intro entry
    rw [MotorActualFrame.entry_setEntry]
    split
    next same => rw [same]
    next => rfl
  rw [receiveFor]
  simp only [receivedEntry]
  split
  next =>
    split
    next =>
      have accepted := changed fun entry => {
        actual := applyMitFeedback entry.actual (parseMitReply frame.data frame.length
          motor.motorId motor.parameters.maximumTorque)
        valid := true
        stale := false }
      rw [acceptReply]
      dsimp only
      split
      next => exact accepted
      next => exact accepted
    next => rw [ite_self]
  next =>
    split
    next =>
      split
      next =>
        exact changed fun entry => { entry with
          actual := applyStatus2Feedback entry.actual (parseStatus2Reply frame.data frame.length
            motor.parameters.torqueConstant) }
      next => rw [ite_self]
    next => rw [ite_self]

/-- Offering a frame to a motor does not touch the entries of the others. -/
theorem receiveFor_entry {index : Nat} (other : index ≠ motor.globalIndex) (now : Time) :
    (backend.receiveFor frame now motor).workingActuals.entry index =
      backend.workingActuals.entry index := by
  rw [entry_receiveFor, if_neg other]

/-- A frame is offered to every motor of the group once. -/
theorem entry_rxStep (backend : RmdCanBackend F) (arrived : ¬ event.received ≤ 0)
    (received : event.frame = some frame) (member : motor ∈ group.motors) :
    (backend.rxStep group event).workingActuals.entry motor.globalIndex =
      receivedEntry frame motor (backend.workingActuals.entry motor.globalIndex) := by
  rcases rxStep_frame group backend arrived with ⟨arrived, isFrame, step⟩
  cases received.symm.trans isFrame
  rw [step]
  exact MotorActualFrame.foldl_entry_of_mem workingActuals
    (fun backend motor index => entry_receiveFor frame event.now backend motor index) backend
    group.distinct member

/-- For a motor it is no MIT reply of, a frame changes torque and temperature only,
whatever it means for the other motors. -/
theorem rxStep_entry_quiet (backend : RmdCanBackend F) (arrived : ¬ event.received ≤ 0)
    (member : motor ∈ group.motors)
    (none : event.mitReply motor = none) :
    MotorEntry.Quiet (backend.workingActuals.entry motor.globalIndex)
      ((backend.rxStep group event).workingActuals.entry motor.globalIndex) := by
  apply rxStep_preserves (fun after =>
    MotorEntry.Quiet (backend.workingActuals.entry motor.globalIndex)
      (after.workingActuals.entry motor.globalIndex)) (MotorEntry.Quiet.refl _)
    fun timeout => absurd timeout arrived
  intro frame received between quiet other inGroup
  apply quiet.trans
  by_cases same : motor.globalIndex = other.globalIndex
  · cases group.eq_of_globalIndex member inGroup same
    exact (receiveFor_quiet between received none).entries _
  · rw [receiveFor_entry same]
    exact MotorEntry.Quiet.refl _

end RmdCanBackend

end RmdCanSdk
