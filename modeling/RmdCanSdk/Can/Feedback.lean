import RmdCanSdk.Can.Replies

/-!
# Consistency of the published CAN feedback

Every frame the receive loop publishes says of each motor either that it replied
since the previous publish, with the values of its latest reply, or that it did
not, with the stale marks and the last values it reported. The invariant ties the
bits of the feedback mask to the replies since the previous publish.
-/

namespace RmdCanSdk

variable {F : Type} [FloatArith F]

/-- Motor ids tell the motors of a group apart, and every motor has its own bit in
the feedback mask. -/
structure CanGroup.DistinctIds (group : CanGroup F) : Prop where
  motorIds : (group.motors.map RuntimeMotor.motorId).Nodup
  slaveIds : (group.motors.map RuntimeMotor.slaveId).Nodup
  inMask : ∀ motor ∈ group.motors, 0 ≤ motor.slaveId ∧ motor.slaveId < 64

/-- The values of a motor's latest reply, or the initial ones. -/
def lastPosition (motor : RuntimeMotor F) (history : List RxEvent) : F :=
  ((lastReply motor history).map MitFeedback.positionRad).getD (lit 0)

def lastVelocity (motor : RuntimeMotor F) (history : List RxEvent) : F :=
  ((lastReply motor history).map MitFeedback.velocityRadS).getD (lit 0)

/-- The motor replied in the events since the previous publish. -/
structure FreshIn (motor : RuntimeMotor F) (since history : List RxEvent)
    (frame : MotorActualFrame F) : Prop where
  replied : replied motor since = true
  stale : frame.stale motor.globalIndex = false
  statusWord : (frame.actuals motor.globalIndex).statusWord = 0x0237
  errorCode : (frame.actuals motor.globalIndex).errorCode = 0
  values : ∃ feedback, lastReply motor history = some feedback ∧
    (frame.actuals motor.globalIndex).pos = feedback.positionRad ∧
    (frame.actuals motor.globalIndex).vel = feedback.velocityRadS

/-- The motor did not reply in the events since the previous publish. -/
structure StaleIn (motor : RuntimeMotor F) (since history : List RxEvent)
    (frame : MotorActualFrame F) : Prop where
  silent : replied motor since = false
  stale : frame.stale motor.globalIndex = true
  statusWord : (frame.actuals motor.globalIndex).statusWord = 0xffff
  errorCode : (frame.actuals motor.globalIndex).errorCode = 1
  pos : (frame.actuals motor.globalIndex).pos = lastPosition motor history
  vel : (frame.actuals motor.globalIndex).vel = lastVelocity motor history

/-! ## Events since the previous publish -/

/-- One iteration together with the events since the last one that published. -/
def follow (group : CanGroup F) (state : RmdCanBackend F × List RxEvent) (event : RxEvent) :
    RmdCanBackend F × List RxEvent :=
  let next := state.1.rxStep group event
  if next.actualBuffer.values.length = state.1.actualBuffer.values.length then
    (next, state.2 ++ [event])
  else (next, [])

/-- The events processed after the last publish. -/
def sincePublish (group : CanGroup F) (backend : RmdCanBackend F) (events : List RxEvent) :
    List RxEvent :=
  (events.foldl (follow group) (backend, [])).2

theorem foldl_follow_fst (group : CanGroup F) (state : RmdCanBackend F × List RxEvent)
    (events : List RxEvent) :
    (events.foldl (follow group) state).1 = state.1.rxLoop group events := by
  induction events generalizing state with
  | nil => rfl
  | cons event rest ih =>
      rw [List.foldl_cons, ih]
      unfold follow
      dsimp only
      split <;> rfl

/-! ## The invariant -/

/-- The samples of a frame are those of the latest replies. -/
structure Samples (group : CanGroup F) (pending history : List RxEvent)
    (frame : MotorActualFrame F) : Prop where
  heard : ∀ motor ∈ group.motors, replied motor pending = true →
    (lastReply motor history).isSome = true
  pos : ∀ motor ∈ group.motors,
    (frame.actuals motor.globalIndex).pos = lastPosition motor history
  vel : ∀ motor ∈ group.motors,
    (frame.actuals motor.globalIndex).vel = lastVelocity motor history
  fresh : ∀ motor ∈ group.motors, replied motor pending = true →
    frame.stale motor.globalIndex = false ∧
      (frame.actuals motor.globalIndex).statusWord = 0x0237 ∧
      (frame.actuals motor.globalIndex).errorCode = 0

/-- Between events the mask holds the motors that replied since the last publish,
some motor is missing, and the working samples are those of the latest replies. -/
structure Tracks (group : CanGroup F) (pending history : List RxEvent)
    (backend : RmdCanBackend F) : Prop where
  expects : ∀ slaveId, backend.mitFrame.mask.expects slaveId = true ↔
    ∃ motor ∈ group.motors, motor.slaveId = slaveId
  received : ∀ motor ∈ group.motors,
    backend.mitFrame.isReceived motor.slaveId = replied motor pending
  missing : ∃ motor ∈ group.motors, replied motor pending = false
  samples : Samples group pending history backend.workingActuals

variable {group : CanGroup F} {pending history : List RxEvent}
variable {backend : RmdCanBackend F} {motor : RuntimeMotor F} {event : RxEvent}
variable {frame : MotorActualFrame F}

theorem Samples.clear (samples : Samples group pending history frame) :
    Samples group [] history frame where
  heard _ _ replied := absurd replied Bool.false_ne_true
  pos := samples.pos
  vel := samples.vel
  fresh _ _ replied := absurd replied Bool.false_ne_true

theorem Samples.freshIn (samples : Samples group pending history frame)
    (member : motor ∈ group.motors) (replied : replied motor pending = true) :
    FreshIn motor pending history frame := by
  rcases samples.fresh motor member replied with ⟨stale, statusWord, errorCode⟩
  rcases Option.isSome_iff_exists.mp (samples.heard motor member replied) with ⟨feedback, last⟩
  refine ⟨replied, stale, statusWord, errorCode, feedback, last, ?_, ?_⟩
  · rw [samples.pos motor member, lastPosition, last]
    rfl
  · rw [samples.vel motor member, lastVelocity, last]
    rfl

/-- What the samples of a frame say about one motor. -/
structure SampledAs (motor : RuntimeMotor F) (pending history : List RxEvent)
    (frame : MotorActualFrame F) : Prop where
  heard : replied motor pending = true → (lastReply motor history).isSome = true
  pos : (frame.actuals motor.globalIndex).pos = lastPosition motor history
  vel : (frame.actuals motor.globalIndex).vel = lastVelocity motor history
  fresh : replied motor pending = true →
    frame.stale motor.globalIndex = false ∧
      (frame.actuals motor.globalIndex).statusWord = 0x0237 ∧
      (frame.actuals motor.globalIndex).errorCode = 0

theorem samples_iff : Samples group pending history frame ↔
    ∀ motor ∈ group.motors, SampledAs motor pending history frame := by
  constructor
  · exact fun samples motor member => ⟨samples.heard motor member, samples.pos motor member,
      samples.vel motor member, samples.fresh motor member⟩
  · exact fun sampled => ⟨fun motor member => (sampled motor member).heard,
      fun motor member => (sampled motor member).pos,
      fun motor member => (sampled motor member).vel,
      fun motor member => (sampled motor member).fresh⟩

/-- An event that is no reply of the motor extends the history only. -/
theorem SampledAs.silent {after : MotorActualFrame F}
    (sampled : SampledAs motor pending history frame) (silent : event.mitReply motor = none)
    (same : after.entry motor.globalIndex = frame.entry motor.globalIndex) :
    SampledAs motor (pending ++ [event]) (history ++ [event]) after := by
  have actual : after.actuals motor.globalIndex = _ := congrArg MotorEntry.actual same
  have stale : after.stale motor.globalIndex = _ := congrArg MotorEntry.stale same
  have unheard : replied motor (pending ++ [event]) = replied motor pending := by simp [silent]
  have last : lastReply motor (history ++ [event]) = lastReply motor history := by simp [silent]
  constructor
  case heard =>
    rw [unheard, last]
    exact sampled.heard
  case pos =>
    rw [actual, lastPosition, last]
    exact sampled.pos
  case vel =>
    rw [actual, lastVelocity, last]
    exact sampled.vel
  case fresh =>
    rw [unheard, actual, stale]
    exact sampled.fresh

/-- A reply gives its motor the values it carries. -/
theorem SampledAs.reply {after : MotorActualFrame F} {feedback : MitFeedback F}
    {before : MotorActual F} (reply : event.mitReply motor = some feedback)
    (entry : after.entry motor.globalIndex = {
      actual := applyMitFeedback before feedback
      valid := true
      stale := false }) :
    SampledAs motor (pending ++ [event]) (history ++ [event]) after := by
  have valid : feedback.valid = true := by
    rcases mitReply_eq_some reply with ⟨_, -, -, -, valid⟩
    exact valid
  have actual : after.actuals motor.globalIndex = { before with
      pos := feedback.positionRad
      vel := feedback.velocityRadS
      statusWord := 0x0237
      errorCode := 0 } := by
    refine (congrArg MotorEntry.actual entry).trans ?_
    simp [applyMitFeedback, valid]
  have stale : after.stale motor.globalIndex = false := congrArg MotorEntry.stale entry
  have last : lastReply motor (history ++ [event]) = some feedback := by
    rw [lastReply_concat, reply, Option.some_or]
  constructor
  case heard => exact fun _ => by rw [last, Option.isSome_some]
  case pos =>
    rw [actual, lastPosition, last]
    rfl
  case vel =>
    rw [actual, lastVelocity, last]
    rfl
  case fresh =>
    rw [actual]
    exact fun _ => ⟨stale, rfl, rfl⟩

theorem Tracks.construct (ids : group.DistinctIds) (totalMotorCount : Nat)
    (actualBuffer : LatestValue (MotorActualFrame F)) :
    Tracks group [] [] (RmdCanBackend.construct group totalMotorCount actualBuffer) where
  expects slaveId := by
    refine MaskTracker.expects_setExpected.trans ?_
    constructor
    · rintro ⟨member, -⟩
      exact List.mem_map.mp member
    · rintro ⟨motor, member, rfl⟩
      exact ⟨List.mem_map_of_mem member, ids.inMask motor member⟩
  received motor _ := MaskTracker.isReceived_setExpected _ _
  missing := by
    rcases List.exists_mem_of_ne_nil _ group.nonempty with ⟨motor, member⟩
    exact ⟨motor, member, rfl⟩
  samples := {
    heard := fun _ _ replied => absurd replied Bool.false_ne_true
    pos := fun _ _ => rfl
    vel := fun _ _ => rfl
    fresh := fun _ _ replied => absurd replied Bool.false_ne_true }

/-- Torque and temperature are not part of the invariant. -/
theorem Tracks.quiet {after : RmdCanBackend F} (tracks : Tracks group pending history backend)
    (quiet : RmdCanBackend.Quiet backend after) : Tracks group pending history after where
  expects := by
    rw [quiet.mitFrame]
    exact tracks.expects
  received := by
    rw [quiet.mitFrame]
    exact tracks.received
  missing := tracks.missing
  samples := {
    heard := tracks.samples.heard
    pos := fun motor member =>
      (congrArg MotorActual.pos (quiet.entries _).actual).trans (tracks.samples.pos motor member)
    vel := fun motor member =>
      (congrArg MotorActual.vel (quiet.entries _).actual).trans (tracks.samples.vel motor member)
    fresh := fun motor member replied => by
      have entry := quiet.entries motor.globalIndex
      rcases tracks.samples.fresh motor member replied with ⟨stale, statusWord, errorCode⟩
      exact ⟨entry.stale.trans stale,
        (congrArg MotorActual.statusWord entry.actual).trans statusWord,
        (congrArg MotorActual.errorCode entry.actual).trans errorCode⟩ }

/-- An event without a reply extends the history only. -/
theorem Tracks.unheard (tracks : Tracks group pending history backend)
    (none : ∀ motor ∈ group.motors, event.mitReply motor = none) :
    Tracks group (pending ++ [event]) (history ++ [event]) backend := by
  have pendingSame : ∀ motor ∈ group.motors,
      replied motor (pending ++ [event]) = replied motor pending := by
    intro motor member
    simp [none motor member]
  refine ⟨tracks.expects, ?_, ?_, ?_⟩
  · intro motor member
    rw [pendingSame motor member, tracks.received motor member]
  · rcases tracks.missing with ⟨motor, member, silent⟩
    exact ⟨motor, member, (pendingSame motor member).trans silent⟩
  · exact samples_iff.mpr fun motor member =>
      (samples_iff.mp tracks.samples motor member).silent (none motor member) rfl

/-! ## Timeouts -/

namespace RmdCanBackend

/-- What a timeout makes of a motor's entry. -/
def missingEntry (mitFrame : FeedbackFrameTracker) (motor : RuntimeMotor F)
    (entry : MotorEntry F) : MotorEntry F :=
  if mitFrame.isReceived motor.slaveId then entry
  else { actual := markActualStale entry.actual, valid := entry.valid, stale := true }

omit [FloatArith F] in
theorem entry_markMissing (mitFrame : FeedbackFrameTracker) (frame : MotorActualFrame F)
    (motor : RuntimeMotor F) (index : Nat) :
    (markMissing mitFrame frame motor).entry index =
      if index = motor.globalIndex then missingEntry mitFrame motor (frame.entry index)
      else frame.entry index := by
  rw [markMissing, missingEntry]
  split
  next => simp
  next =>
    rw [MotorActualFrame.entry_setEntry]
    split
    next same => rw [same]; rfl
    next => rfl

omit [FloatArith F] in
/-- A timeout publishes the working frame, with the missing motors marked. -/
theorem receiveTimeout_spec (group : CanGroup F) (backend : RmdCanBackend F) (now : Time) :
    let next := backend.receiveTimeout group now
    next.actualBuffer.values = backend.actualBuffer.values ++ [next.workingActuals] ∧
      next.mitFrame = backend.mitFrame.reset ∧
      ∀ motor ∈ group.motors, next.workingActuals.entry motor.globalIndex =
        missingEntry backend.mitFrame motor (backend.workingActuals.entry motor.globalIndex) := by
  refine ⟨rfl, rfl, ?_⟩
  intro motor member
  exact MotorActualFrame.foldl_entry_of_mem id (entry_markMissing backend.mitFrame)
    backend.workingActuals group.distinct member

omit [FloatArith F] in
/-- A reply refreshes its motor's entry; when it completes the mask, the working
frame is published. -/
theorem acceptReply_spec (backend : RmdCanBackend F) (motor : RuntimeMotor F)
    (feedback : MitFeedback F) (now : Time) :
    let marked := backend.mitFrame.markReceived motor.slaveId now
    let next := backend.acceptReply motor feedback now
    (marked.1 = true →
        next.actualBuffer.values = backend.actualBuffer.values ++ [next.workingActuals]) ∧
      (marked.1 = false → next.actualBuffer = backend.actualBuffer) ∧
      next.mitFrame = marked.2 ∧
      ∀ index, next.workingActuals.entry index =
        if index = motor.globalIndex then {
          actual := applyMitFeedback (backend.workingActuals.actuals index) feedback
          valid := true
          stale := false }
        else backend.workingActuals.entry index := by
  dsimp only
  have entries : ∀ index, (backend.workingActuals.setEntry motor.globalIndex {
      actual := applyMitFeedback
        (backend.workingActuals.actuals motor.globalIndex) feedback
      valid := true
      stale := false }).entry index =
      if index = motor.globalIndex then {
        actual := applyMitFeedback (backend.workingActuals.actuals index) feedback
        valid := true
        stale := false }
      else backend.workingActuals.entry index := by
    intro index
    rw [MotorActualFrame.entry_setEntry]
    split
    next same => rw [same]
    next => rfl
  rw [acceptReply]
  rcases backend.mitFrame.markReceived motor.slaveId now with ⟨complete, mitFrame⟩
  cases complete with
  | true => exact ⟨fun _ => rfl, fun incomplete => by contradiction, rfl, entries⟩
  | false => exact ⟨fun complete => by contradiction, fun _ => rfl, rfl, entries⟩

end RmdCanBackend

/-- A timeout keeps the samples and marks those of the motors that have not replied. -/
theorem Samples.timeout {mitFrame : FeedbackFrameTracker} {after : MotorActualFrame F}
    (samples : Samples group pending history frame)
    (received : ∀ motor ∈ group.motors,
      mitFrame.isReceived motor.slaveId = replied motor pending)
    (entries : ∀ motor ∈ group.motors, after.entry motor.globalIndex =
      RmdCanBackend.missingEntry mitFrame motor (frame.entry motor.globalIndex)) :
    Samples group pending history after ∧
      ∀ motor ∈ group.motors, replied motor pending = false →
        StaleIn motor pending history after := by
  have described : ∀ motor ∈ group.motors,
      (after.actuals motor.globalIndex).pos = lastPosition motor history ∧
      (after.actuals motor.globalIndex).vel = lastVelocity motor history ∧
      (replied motor pending = true →
        after.stale motor.globalIndex = false ∧
          (after.actuals motor.globalIndex).statusWord = 0x0237 ∧
          (after.actuals motor.globalIndex).errorCode = 0) ∧
      (replied motor pending = false →
        after.stale motor.globalIndex = true ∧
          (after.actuals motor.globalIndex).statusWord = 0xffff ∧
          (after.actuals motor.globalIndex).errorCode = 1) := by
    intro motor member
    have entry := entries motor member
    rw [RmdCanBackend.missingEntry, received motor member] at entry
    have actual := congrArg MotorEntry.actual entry
    have stale := congrArg MotorEntry.stale entry
    replace actual : after.actuals motor.globalIndex = _ := actual
    replace stale : after.stale motor.globalIndex = _ := stale
    rw [actual, stale, ← samples.pos motor member, ← samples.vel motor member]
    cases replies : replied motor pending with
    | true => exact ⟨rfl, rfl, fun _ => samples.fresh motor member replies, fun _ => by contradiction⟩
    | false => exact ⟨rfl, rfl, fun _ => by contradiction, fun _ => ⟨rfl, rfl, rfl⟩⟩
  constructor
  · exact {
      heard := samples.heard
      pos := fun motor member => (described motor member).1
      vel := fun motor member => (described motor member).2.1
      fresh := fun motor member => (described motor member).2.2.1 }
  · intro motor member silent
    rcases described motor member with ⟨pos, vel, -, marked⟩
    rcases marked silent with ⟨stale, statusWord, errorCode⟩
    exact ⟨silent, stale, statusWord, errorCode, pos, vel⟩

/-- After a timeout the published frame marks exactly the motors that have not
replied, and nothing counts as received. -/
theorem Tracks.timeout (tracks : Tracks group pending history backend) (now : Time) :
    let next := backend.receiveTimeout group now
    (∀ motor ∈ group.motors, replied motor pending = true →
        FreshIn motor pending history next.workingActuals) ∧
      (∀ motor ∈ group.motors, replied motor pending = false →
        StaleIn motor pending history next.workingActuals) ∧
      Tracks group [] history next := by
  intro next
  rcases RmdCanBackend.receiveTimeout_spec group backend now with ⟨-, mitFrame, entries⟩
  rcases tracks.samples.timeout tracks.received entries with ⟨samples, stale⟩
  refine ⟨fun motor member => samples.freshIn member, stale, ?_, ?_, ?_, samples.clear⟩
  · rw [mitFrame]
    exact tracks.expects
  · intro motor _
    rw [mitFrame]
    exact MaskTracker.isReceived_resetCurrent _ _
  · rcases tracks.missing with ⟨motor, member, -⟩
    exact ⟨motor, member, rfl⟩

/-! ## Replies -/

/-- With distinct motor ids only one motor of the group replies in an event. -/
theorem CanGroup.DistinctIds.others_silent (ids : group.DistinctIds)
    (member : motor ∈ group.motors) {feedback : MitFeedback F}
    (reply : event.mitReply motor = some feedback) :
    ∀ other ∈ group.motors, other ≠ motor → event.mitReply other = none := by
  intro other otherIn different
  cases otherReply : event.mitReply other with
  | none => rfl
  | some _ =>
      exact absurd (List.inj_on_of_nodup_map ids.motorIds otherIn member
        (motorId_of_mitReply otherReply reply)) different

theorem CanGroup.DistinctIds.replied_iff (ids : group.DistinctIds)
    (member : motor ∈ group.motors) {feedback : MitFeedback F}
    (reply : event.mitReply motor = some feedback) :
    ∀ other ∈ group.motors, replied other (pending ++ [event]) = true ↔
      other = motor ∨ replied other pending = true := by
  intro other otherIn
  by_cases same : other = motor
  · subst same
    simp [reply]
  · simp [ids.others_silent member reply other otherIn same, same]

/-- A reply gives its motor the values it carries and leaves the other samples. -/
theorem Samples.reply {after : MotorActualFrame F} {feedback : MitFeedback F}
    (samples : Samples group pending history frame) (ids : group.DistinctIds)
    (member : motor ∈ group.motors) (reply : event.mitReply motor = some feedback)
    (entries : ∀ index, after.entry index =
      if index = motor.globalIndex then {
        actual := applyMitFeedback (frame.actuals index) feedback
        valid := true
        stale := false }
      else frame.entry index) :
    Samples group (pending ++ [event]) (history ++ [event]) after := by
  rw [samples_iff]
  intro other otherIn
  by_cases same : other = motor
  · subst same
    exact .reply reply (by rw [entries, if_pos rfl])
  · have elsewhere : other.globalIndex ≠ motor.globalIndex :=
      fun equal => same (group.eq_of_globalIndex otherIn member equal)
    exact (samples_iff.mp samples other otherIn).silent
      (ids.others_silent member reply other otherIn same) (by rw [entries, if_neg elsewhere])

/-- The mask is complete exactly when no motor is missing any more. -/
theorem Tracks.completes_iff (tracks : Tracks group pending history backend)
    (ids : group.DistinctIds) (member : motor ∈ group.motors) {feedback : MitFeedback F}
    (reply : event.mitReply motor = some feedback) :
    (backend.mitFrame.markReceived motor.slaveId event.now).1 = true ↔
      ∀ other ∈ group.motors, replied other (pending ++ [event]) = true := by
  have expected : backend.mitFrame.mask.expects motor.slaveId = true :=
    (tracks.expects motor.slaveId).mpr ⟨motor, member, rfl⟩
  rw [(FeedbackFrameTracker.markReceived_mask event.now expected).1,
    MaskTracker.markReceived_completes expected]
  constructor
  · intro complete other otherIn
    rw [ids.replied_iff member reply other otherIn, ← tracks.received other otherIn]
    refine (complete other.slaveId ((tracks.expects _).mpr ⟨other, otherIn, rfl⟩)).imp_left ?_
    exact List.inj_on_of_nodup_map ids.slaveIds otherIn member
  · intro complete slaveId waiting
    rcases (tracks.expects slaveId).mp waiting with ⟨other, otherIn, rfl⟩
    refine ((ids.replied_iff member reply other otherIn).mp (complete other otherIn)).imp ?_ ?_
    · exact congrArg RuntimeMotor.slaveId
    · exact (tracks.received other otherIn).trans

/-- A reply refreshes its motor; it publishes when no motor is missing any more. -/
theorem Tracks.reply (tracks : Tracks group pending history backend)
    (ids : group.DistinctIds) (member : motor ∈ group.motors) {feedback : MitFeedback F}
    (reply : event.mitReply motor = some feedback) :
    let next := backend.acceptReply motor feedback event.now
    let since := pending ++ [event]
    next.actualBuffer.values = backend.actualBuffer.values ++ [next.workingActuals] ∧
        (∀ motor ∈ group.motors, replied motor since = true) ∧
        Samples group since (history ++ [event]) next.workingActuals ∧
        Tracks group [] (history ++ [event]) next ∨
      next.actualBuffer = backend.actualBuffer ∧
        Tracks group since (history ++ [event]) next := by
  intro next since
  rcases RmdCanBackend.acceptReply_spec backend motor feedback event.now with
    ⟨published, unpublished, mitFrame, entries⟩
  have samples := tracks.samples.reply ids member reply entries
  have expected : backend.mitFrame.mask.expects motor.slaveId = true :=
    (tracks.expects motor.slaveId).mpr ⟨motor, member, rfl⟩
  have mask := FeedbackFrameTracker.markReceived_mask event.now expected
  have completes := tracks.completes_iff ids member reply
  have expects : ∀ slaveId, next.mitFrame.mask.expects slaveId = true ↔
      ∃ motor ∈ group.motors, motor.slaveId = slaveId := by
    intro slaveId
    rw [mitFrame, mask.2, MaskTracker.expects_markReceived]
    exact tracks.expects slaveId
  have received : ∀ other ∈ group.motors,
      next.mitFrame.isReceived other.slaveId = true ↔
        (backend.mitFrame.markReceived motor.slaveId event.now).1 = false ∧
          replied other since = true := by
    intro other otherIn
    rw [mitFrame, FeedbackFrameTracker.isReceived, mask.2,
      MaskTracker.isReceived_markReceived expected, mask.1,
      ids.replied_iff member reply other otherIn, ← tracks.received other otherIn]
    refine and_congr_right fun _ => or_congr_left ?_
    constructor
    · exact List.inj_on_of_nodup_map ids.slaveIds otherIn member
    · exact congrArg RuntimeMotor.slaveId
  cases complete : (backend.mitFrame.markReceived motor.slaveId event.now).1 with
  | true =>
      left
      refine ⟨published complete, completes.mp complete, samples, expects, ?_, ?_, samples.clear⟩
      · intro other otherIn
        rw [replied_nil, Bool.eq_false_iff, ne_eq, received other otherIn, complete]
        simp
      · exact ⟨motor, member, rfl⟩
  | false =>
      right
      refine ⟨unpublished complete, expects, ?_, ?_, samples⟩
      · intro other otherIn
        rw [Bool.eq_iff_iff, received other otherIn]
        exact and_iff_right complete
      · by_contra none
        push Not at none
        rw [← Bool.not_eq_true, completes] at complete
        apply complete
        intro other otherIn
        exact Bool.eq_true_of_not_eq_false (none other otherIn)

/-! ## One iteration and the whole loop -/

/-- One iteration publishes nothing, or one frame that says of each motor whether
it replied since the previous publish. -/
theorem Tracks.step (tracks : Tracks group pending history backend)
    (ids : group.DistinctIds) (event : RxEvent) :
    let next := backend.rxStep group event
    let since := pending ++ [event]
    (next.actualBuffer.values = backend.actualBuffer.values ∧ ¬ event.received ≤ 0 ∧
        (∃ motor ∈ group.motors, replied motor since = false) ∧
        Tracks group since (history ++ [event]) next) ∨
      ∃ frame, next.actualBuffer.values = backend.actualBuffer.values ++ [frame] ∧
        (event.received ≤ 0 ↔ ∃ motor ∈ group.motors, replied motor since = false) ∧
        (∀ motor ∈ group.motors, replied motor since = true →
          FreshIn motor since (history ++ [event]) frame) ∧
        (∀ motor ∈ group.motors, replied motor since = false →
          StaleIn motor since (history ++ [event]) frame) ∧
        Tracks group [] (history ++ [event]) next := by
  intro next since
  by_cases timeout : event.received ≤ 0
  · right
    have none : ∀ motor ∈ group.motors, event.mitReply motor = none :=
      fun motor _ => mitReply_of_timeout timeout motor
    have unheard := tracks.unheard none
    rcases unheard.timeout event.now with ⟨fresh, stale, cleared⟩
    rw [← RmdCanBackend.rxStep_timeout timeout] at fresh stale cleared
    refine ⟨next.workingActuals, ?_, ⟨fun _ => unheard.missing, fun _ => timeout⟩,
      fresh, stale, cleared⟩
    simp only [next]
    rw [RmdCanBackend.rxStep_timeout timeout]
    exact (RmdCanBackend.receiveTimeout_spec group backend event.now).1
  · by_cases silent : ∀ motor ∈ group.motors, event.mitReply motor = none
    · left
      have quiet := RmdCanBackend.rxStep_quiet backend timeout silent
      have unheard := (tracks.unheard silent).quiet quiet
      exact ⟨congrArg LatestValue.values quiet.actualBuffer, timeout, unheard.missing, unheard⟩
    · push Not at silent
      rcases silent with ⟨motor, member, some⟩
      rcases Option.ne_none_iff_exists'.mp some with ⟨feedback, reply⟩
      rcases RmdCanBackend.rxStep_reply backend ids.motorIds member reply with
        ⟨middle, before, after⟩
      have buffer := congrArg LatestValue.values after.actualBuffer
      have earlier := congrArg LatestValue.values before.actualBuffer
      rcases (tracks.quiet before).reply ids member reply with
        ⟨published, complete, samples, cleared⟩ | ⟨unpublished, still⟩
      · right
        refine ⟨_, buffer.trans (published.trans (by rw [earlier])), ⟨fun arrived =>
          absurd arrived timeout, ?_⟩, fun motor member => samples.freshIn member, ?_,
          cleared.quiet after⟩
        · rintro ⟨other, otherIn, missing⟩
          rw [complete other otherIn] at missing
          contradiction
        · intro other otherIn missing
          rw [complete other otherIn] at missing
          contradiction
      · left
        exact ⟨buffer.trans ((congrArg LatestValue.values unpublished).trans earlier), timeout,
          still.missing, still.quiet after⟩

theorem Tracks.follow (tracks : Tracks group pending history backend)
    (ids : group.DistinctIds) (event : RxEvent) :
    let reached := RmdCanSdk.follow group (backend, pending) event
    Tracks group reached.2 (history ++ [event]) reached.1 := by
  intro reached
  have unfolded : reached = RmdCanSdk.follow group (backend, pending) event := rfl
  rw [RmdCanSdk.follow] at unfolded
  rcases tracks.step ids event with ⟨same, -, -, next⟩ | ⟨frame, published, -, -, -, next⟩
  · rw [if_pos (congrArg List.length same)] at unfolded
    rw [unfolded]
    exact next
  · rw [if_neg (by simp [published])] at unfolded
    rw [unfolded]
    exact next

/-- The invariant along the whole loop. -/
theorem Tracks.run (tracks : Tracks group pending history backend)
    (ids : group.DistinctIds) (events : List RxEvent) :
    let reached := events.foldl (RmdCanSdk.follow group) (backend, pending)
    Tracks group reached.2 (history ++ events) reached.1 := by
  induction events generalizing backend pending history with
  | nil => simpa using tracks
  | cons event rest ih =>
      rw [List.foldl_cons, List.append_cons]
      exact ih (tracks.follow ids event)

theorem FreshIn.not_staleIn {since : List RxEvent} (fresh : FreshIn motor since history frame) :
    ¬ StaleIn motor since history frame := by
  intro stale
  have := fresh.replied.symm.trans stale.silent
  contradiction

/-- A frame published in an iteration says one thing of each motor, and a timeout
publishes it exactly when some motor is missing. -/
theorem Tracks.published_frame (tracks : Tracks group pending history backend)
    (ids : group.DistinctIds)
    (published : (backend.rxStep group event).actualBuffer.values =
      backend.actualBuffer.values ++ [frame]) :
    (∀ motor ∈ group.motors, FreshIn motor (pending ++ [event]) (history ++ [event]) frame ∨
      StaleIn motor (pending ++ [event]) (history ++ [event]) frame) ∧
    (event.received ≤ 0 ↔ ∃ motor ∈ group.motors, replied motor (pending ++ [event]) = false) := by
  rcases tracks.step ids event with ⟨same, -⟩ | ⟨frame', published', timeout, fresh, stale, -⟩
  · rw [same] at published
    simp at published
  · have sameFrame : frame = frame' := by
      simpa using published.symm.trans published'
    subst sameFrame
    refine ⟨?_, timeout⟩
    intro motor member
    cases replies : replied motor (pending ++ [event]) with
    | true => exact .inl (fresh motor member replies)
    | false => exact .inr (stale motor member replies)

/-- An iteration publishes at a timeout, or when no motor is missing any more. -/
theorem Tracks.publishes_iff (tracks : Tracks group pending history backend)
    (ids : group.DistinctIds) (event : RxEvent) :
    (backend.rxStep group event).actualBuffer.values ≠ backend.actualBuffer.values ↔
      event.received ≤ 0 ∨ ∀ motor ∈ group.motors, replied motor (pending ++ [event]) = true := by
  rcases tracks.step ids event with
    ⟨same, arrived, ⟨motor, member, silent⟩, -⟩ | ⟨frame, published, timeout, -⟩
  · constructor
    · exact fun different => absurd same different
    · rintro (late | all)
      · exact absurd late arrived
      · have := silent.symm.trans (all motor member)
        contradiction
  · constructor
    · intro _
      rw [timeout]
      by_cases missing : ∃ motor ∈ group.motors, replied motor (pending ++ [event]) = false
      · exact .inl missing
      · right
        intro motor member
        apply Bool.eq_true_of_not_eq_false
        exact fun silent => missing ⟨motor, member, silent⟩
    · intro _ same
      simp [published] at same

/-- Every frame the receive loop publishes says of each motor exactly one thing:
it replied since the previous publish and is fresh, or it did not and is stale. An
iteration publishes at most one frame, at a timeout or when every motor is fresh,
and what is no MIT reply of a motor changes of its sample torque and temperature
only. -/
theorem published_frames_consistent (group : CanGroup F) (ids : group.DistinctIds)
    (totalMotorCount : Nat) (actualBuffer : LatestValue (MotorActualFrame F))
    (before : List RxEvent) (event : RxEvent) :
    let start := RmdCanBackend.construct group totalMotorCount actualBuffer
    let backend := start.rxLoop group before
    let next := backend.rxStep group event
    let since := sincePublish group start before ++ [event]
    let history := before ++ [event]
    (∀ frame, next.actualBuffer.values = backend.actualBuffer.values ++ [frame] →
      (∀ motor ∈ group.motors,
        (FreshIn motor since history frame ∧ ¬ StaleIn motor since history frame) ∨
        (StaleIn motor since history frame ∧ ¬ FreshIn motor since history frame)) ∧
      (¬ event.received ≤ 0 ↔ ∀ motor ∈ group.motors, FreshIn motor since history frame)) ∧
    (next.actualBuffer.values = backend.actualBuffer.values ∨
      ∃ frame, next.actualBuffer.values = backend.actualBuffer.values ++ [frame]) ∧
    (next.actualBuffer.values ≠ backend.actualBuffer.values ↔
      event.received ≤ 0 ∨ ∀ motor ∈ group.motors, replied motor since = true) ∧
    (¬ event.received ≤ 0 → (∀ motor ∈ group.motors, event.mitReply motor = none) →
      RmdCanBackend.Quiet backend next) ∧
    (¬ event.received ≤ 0 → ∀ motor ∈ group.motors, event.mitReply motor = none →
      MotorEntry.Quiet (backend.workingActuals.entry motor.globalIndex)
        (next.workingActuals.entry motor.globalIndex)) := by
  intro start backend next since history
  have tracks : Tracks group (sincePublish group start before) before backend := by
    have reached := (Tracks.construct ids totalMotorCount actualBuffer).run ids before
    dsimp only at reached
    rw [foldl_follow_fst] at reached
    exact reached
  refine ⟨?_, ?_, tracks.publishes_iff ids event, RmdCanBackend.rxStep_quiet backend,
    fun arrived motor => RmdCanBackend.rxStep_entry_quiet backend arrived⟩
  · intro frame published
    rcases tracks.published_frame ids published with ⟨dichotomy, timeout⟩
    constructor
    · intro motor member
      cases dichotomy motor member with
      | inl fresh => exact .inl ⟨fresh, fresh.not_staleIn⟩
      | inr stale => exact .inr ⟨stale, fun fresh => fresh.not_staleIn stale⟩
    · rw [timeout]
      constructor
      · intro none motor member
        cases dichotomy motor member with
        | inl fresh => exact fresh
        | inr stale => exact absurd ⟨motor, member, stale.silent⟩ none
      · intro all ⟨motor, member, silent⟩
        have := silent.symm.trans (all motor member).replied
        contradiction
  · rcases tracks.step ids event with ⟨same, -⟩ | ⟨frame, published, -⟩
    · exact .inl same
    · exact .inr ⟨frame, published⟩

omit [FloatArith F] in
theorem twoMotors_distinctIds (parameters : MotorParameters F) :
    (twoMotors parameters).DistinctIds where
  motorIds := by simp [twoMotors, canMotor]
  slaveIds := by simp [twoMotors, canMotor]
  inMask := by simp [twoMotors, canMotor]

/-- A reply at half of each range. -/
def replyOf (motorId : Nat) (now : Time) : RxEvent where
  frame := some {
    id := mitRxId motorId
    length := 8
    data := #v[BitVec.ofNat 8 motorId, 0x80, 0x00, 0x80, 0x08, 0x00, 0x00, 0x00] }
  now := now

def nothingReceived (now : Time) : RxEvent := ⟨none, now⟩

/-- Motor 1 replies, and a timeout publishes a partial frame. -/
theorem published_frames_consistent_partial :
    let bus : CanGroup ℚ := twoMotors default
    let backend := (RmdCanBackend.started bus 2).rxLoop bus [replyOf 1 0]
    let next := backend.rxStep bus (nothingReceived 50000000)
    let since := sincePublish bus (RmdCanBackend.started bus 2) [replyOf 1 0] ++
      [nothingReceived 50000000]
    next.actualBuffer.values ≠ backend.actualBuffer.values ∧
      ∀ frame, next.actualBuffer.values = backend.actualBuffer.values ++ [frame] →
        ¬ ∀ motor ∈ bus.motors,
          FreshIn motor since ([replyOf 1 0] ++ [nothingReceived 50000000]) frame := by
  intro bus backend next since
  have consistent := published_frames_consistent bus (twoMotors_distinctIds _) 2
    (LatestValue.start (initialActuals bus.motors 2)) [replyOf 1 0]
    (nothingReceived 50000000)
  have timeout : (nothingReceived 50000000).received ≤ 0 := by decide
  refine ⟨consistent.2.2.1.mpr (.inl timeout), ?_⟩
  intro frame published all
  exact (consistent.1 frame published).2.mpr all timeout

end RmdCanSdk
