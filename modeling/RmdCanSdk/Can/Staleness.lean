import RmdCanSdk.Can.Feedback

/-!
# Motors that fall silent

When the stale bit of a motor is set in the frame published last. The receive loop
sets it at a receive timeout that finds the motor missing from the feedback mask,
and at no other point: as long as other frames keep arriving there is no timeout,
and a motor that has fallen silent is not reported.
-/

namespace RmdCanSdk

variable {F : Type} [FloatArith F]

/-- The last reply of a motor lies at least `duration` behind the last event. -/
def SilentFor (motor : RuntimeMotor F) (duration : Time) (events : List RxEvent) : Prop :=
  ∃ before heard after last, events = before ++ heard :: after ∧
    (heard.mitReply motor).isSome = true ∧ replied motor after = false ∧
    events.getLast? = some last ∧ heard.now + duration ≤ last.now

/-- The reply of a motor, if the event is one, in the mask; the flag says whether a
reply of the event has completed it. -/
def offerReply (event : RxEvent) (mask : Bool × FeedbackFrameTracker) (motor : RuntimeMotor F) :
    Bool × FeedbackFrameTracker :=
  if (event.mitReply motor).isSome then
    let (complete, mitFrame) := mask.2.markReceived motor.slaveId event.now
    (mask.1 || complete, mitFrame)
  else mask

/-- What an event does to the mask, and whether it is a timeout or completes it. -/
def maskStep (group : CanGroup F) (mitFrame : FeedbackFrameTracker) (event : RxEvent) :
    Bool × FeedbackFrameTracker :=
  if event.received ≤ 0 then (true, mitFrame.reset)
  else group.motors.foldl (offerReply event) (false, mitFrame)

/-- The mask after some events, from one that waits for every motor of the group. -/
def maskAfter (group : CanGroup F) (events : List RxEvent) : FeedbackFrameTracker :=
  events.foldl (fun mitFrame event => (maskStep group mitFrame event).2)
    (FeedbackFrameTracker.setExpectedFromSlaveIds (group.motors.map RuntimeMotor.slaveId))

/-- After these events the next one is a timeout, or its reply completes the mask. -/
def Completes (group : CanGroup F) (before : List RxEvent) (event : RxEvent) : Prop :=
  (maskStep group (maskAfter group before) event).1 = true

/-- A receive timeout found the motor missing from the mask, and the motor did not
reply between that timeout and the last event that was a timeout or completed the mask. -/
def MarkedMissing (group : CanGroup F) (motor : RuntimeMotor F) (events : List RxEvent) : Prop :=
  ∃ before timeout between after, events = before ++ timeout :: between ++ after ∧
    timeout.received ≤ 0 ∧ (maskAfter group before).isReceived motor.slaveId = false ∧
    replied motor between = false ∧
    ∀ front event back, after = front ++ event :: back →
      ¬ Completes group (before ++ timeout :: between ++ front) event

/-- The stale bit of a motor in the frame published last. -/
def ReportedStale (motor : RuntimeMotor F) (backend : RmdCanBackend F) : Prop :=
  backend.actualBuffer.latest.stale motor.globalIndex = true

variable {group : CanGroup F} {backend : RmdCanBackend F} {motor : RuntimeMotor F}
variable {event : RxEvent} {events : List RxEvent}

namespace RmdCanBackend

/-! ## The mask and the publishes -/

/-- A frame offered to a motor changes the mask as its reply does, and the frame is
published if it completes the mask. -/
theorem receiveFor_mask {frame : CanFrame} (received : event.frame = some frame)
    (backend : RmdCanBackend F) (motor : RuntimeMotor F) (flag : Bool) :
    (backend.receiveFor frame event.now motor).mitFrame =
        (offerReply event (flag, backend.mitFrame) motor).2 ∧
      ∃ more, (backend.receiveFor frame event.now motor).actualBuffer.values =
          backend.actualBuffer.values ++ more ∧
        ((offerReply event (flag, backend.mitFrame) motor).1 = true ↔
          flag = true ∨ more ≠ []) := by
  cases reply : event.mitReply motor with
  | none =>
      have quiet := receiveFor_quiet backend received reply
      simp only [offerReply, reply, Option.isSome_none, Bool.false_eq_true, if_false]
      exact ⟨quiet.mitFrame, [], by rw [quiet.actualBuffer, List.append_nil], by simp⟩
  | some feedback =>
      rw [receiveFor_reply received reply]
      rcases acceptReply_spec backend motor feedback event.now with
        ⟨published, unpublished, mitFrame, -⟩
      simp only [offerReply, reply, Option.isSome_some, if_true]
      refine ⟨mitFrame, ?_⟩
      cases complete : (backend.mitFrame.markReceived motor.slaveId event.now).1 with
      | true => exact ⟨_, published complete, by simp⟩
      | false => exact ⟨[], by rw [unpublished complete, List.append_nil], by simp⟩

theorem foldl_receiveFor_mask {frame : CanFrame} (received : event.frame = some frame)
    (motors : List (RuntimeMotor F)) (backend : RmdCanBackend F) (flag : Bool) :
    (motors.foldl (receiveFor frame event.now) backend).mitFrame =
        (motors.foldl (offerReply event) (flag, backend.mitFrame)).2 ∧
      ∃ more, (motors.foldl (receiveFor frame event.now) backend).actualBuffer.values =
          backend.actualBuffer.values ++ more ∧
        ((motors.foldl (offerReply event) (flag, backend.mitFrame)).1 = true ↔
          flag = true ∨ more ≠ []) := by
  induction motors generalizing backend flag with
  | nil => exact ⟨rfl, [], by simp, by simp⟩
  | cons motor rest ih =>
      rcases receiveFor_mask received backend motor flag with ⟨mask, more, values, publishes⟩
      rcases ih (backend.receiveFor frame event.now motor)
        (offerReply event (flag, backend.mitFrame) motor).1 with ⟨mask', more', values', publishes'⟩
      rw [mask, Prod.mk.eta] at mask' publishes'
      refine ⟨mask', more ++ more', ?_, ?_⟩
      · rw [List.foldl_cons, values', values, List.append_assoc]
      · rw [List.foldl_cons, publishes', publishes, or_assoc]
        refine or_congr_right ?_
        rw [Ne, Ne, Ne, List.append_eq_nil_iff, not_and_or]

/-- An iteration publishes at a timeout and where a reply completes the mask. -/
theorem rxStep_mask (group : CanGroup F) (backend : RmdCanBackend F) (event : RxEvent) :
    (backend.rxStep group event).mitFrame = (maskStep group backend.mitFrame event).2 ∧
      ∃ more, (backend.rxStep group event).actualBuffer.values =
          backend.actualBuffer.values ++ more ∧
        ((maskStep group backend.mitFrame event).1 = true ↔ more ≠ []) := by
  rw [maskStep]
  split
  next timeout =>
    rw [rxStep_timeout timeout]
    rcases receiveTimeout_spec group backend event.now with ⟨published, mitFrame, -⟩
    exact ⟨mitFrame, _, published, by simp⟩
  next arrived =>
    rcases rxStep_frame group backend arrived with ⟨frame, received, step⟩
    rcases foldl_receiveFor_mask received group.motors backend false with
      ⟨mask, more, values, publishes⟩
    rw [step]
    exact ⟨mask, more, values, publishes.trans (by simp)⟩

theorem started_mask (group : CanGroup F) (totalMotorCount : Nat) (events : List RxEvent) :
    ((started group totalMotorCount).rxLoop group events).mitFrame = maskAfter group events := by
  induction events using List.reverseRecOn with
  | nil => rfl
  | append_singleton events event ih =>
      rw [rxLoop_append, rxLoop_singleton, (rxStep_mask group _ event).1, ih, maskAfter, maskAfter,
        List.foldl_append]
      rfl

theorem started_publishes_iff (group : CanGroup F) (totalMotorCount : Nat) (events : List RxEvent)
    (event : RxEvent) :
    (((started group totalMotorCount).rxLoop group events).rxStep group event).actualBuffer.values =
        ((started group totalMotorCount).rxLoop group events).actualBuffer.values ↔
      ¬ Completes group events event := by
  rcases rxStep_mask group ((started group totalMotorCount).rxLoop group events) event with
    ⟨-, more, values, publishes⟩
  rw [Completes, ← started_mask group totalMotorCount, publishes, values, List.append_right_eq_self,
    Ne, not_not]

/-- Nothing is published while no event completes the mask. -/
theorem started_unpublished (group : CanGroup F) (totalMotorCount : Nat)
    {front back : List RxEvent}
    (quiet : ∀ middle event rest, back = middle ++ event :: rest →
      ¬ Completes group (front ++ middle) event) :
    ((started group totalMotorCount).rxLoop group (front ++ back)).actualBuffer.values =
      ((started group totalMotorCount).rxLoop group front).actualBuffer.values := by
  induction back using List.reverseRecOn with
  | nil => rw [List.append_nil]
  | append_singleton back event ih =>
      have earlier := ih fun middle event' rest split =>
        quiet middle event' (rest ++ [event]) (by simp [split])
      rw [← List.append_assoc, rxLoop_append, rxLoop_singleton, ← earlier,
        started_publishes_iff]
      exact quiet back event [] rfl

/-! ## A timeout reports a missing motor -/

/-- Both the working frame and the frame published last mark the motor stale. -/
structure Marked (motor : RuntimeMotor F) (backend : RmdCanBackend F) : Prop where
  working : backend.workingActuals.stale motor.globalIndex = true
  published : ReportedStale motor backend

theorem Marked.receiveFor {frame : CanFrame} {other : RuntimeMotor F}
    (marked : Marked motor backend) (received : event.frame = some frame)
    (none : event.mitReply motor = none) (separate : other.globalIndex = motor.globalIndex →
      other = motor) : Marked motor (backend.receiveFor frame event.now other) := by
  by_cases reply : event.mitReply other = Option.none
  · have quiet := receiveFor_quiet backend received reply
    exact {
      working := (quiet.entries motor.globalIndex).stale.trans marked.working
      published := by
        rw [ReportedStale, quiet.actualBuffer]
        exact marked.published }
  · rcases Option.ne_none_iff_exists'.mp reply with ⟨feedback, reply⟩
    have different : motor.globalIndex ≠ other.globalIndex := by
      intro same
      cases separate same.symm
      rw [none] at reply
      contradiction
    rw [receiveFor_reply received reply]
    rcases acceptReply_spec backend other feedback event.now with
      ⟨published, unpublished, -, entries⟩
    have working : (backend.acceptReply other feedback event.now).workingActuals.stale
        motor.globalIndex = true := by
      have entry := entries motor.globalIndex
      rw [if_neg different] at entry
      exact (congrArg MotorEntry.stale entry).trans marked.working
    refine ⟨working, ?_⟩
    cases complete : (backend.mitFrame.markReceived other.slaveId event.now).1 with
    | true =>
        rw [ReportedStale, LatestValue.latest_of_concat (published complete)]
        exact working
    | false =>
        rw [ReportedStale, unpublished complete]
        exact marked.published

/-- A motor that does not reply stays marked. -/
theorem Marked.rxStep (marked : Marked motor backend) (member : motor ∈ group.motors)
    (none : event.mitReply motor = none) : Marked motor (backend.rxStep group event) := by
  apply rxStep_preserves (Marked motor) marked
  · intro timeout
    have entry := (receiveTimeout_spec group backend event.now).2.2 motor member
    have working : (backend.receiveTimeout group event.now).workingActuals.stale
        motor.globalIndex = true := by
      refine (congrArg MotorEntry.stale entry).trans ?_
      rw [missingEntry]
      split
      next => exact marked.working
      next => rfl
    refine ⟨working, ?_⟩
    rw [ReportedStale, LatestValue.latest_of_concat
      (receiveTimeout_spec group backend event.now).1]
    exact working
  · intro frame received between marked other inGroup
    exact marked.receiveFor received none (group.eq_of_globalIndex inGroup member)

theorem Marked.rxLoop (marked : Marked motor backend) (member : motor ∈ group.motors)
    (silent : replied motor events = false) : Marked motor (backend.rxLoop group events) := by
  induction events generalizing backend with
  | nil => exact marked
  | cons event rest ih =>
      rw [replied, List.any_cons, Bool.or_eq_false_iff] at silent
      exact ih (marked.rxStep member (Option.not_isSome_iff_eq_none.mp
        (Bool.eq_false_iff.mp silent.1))) silent.2

/-- A timeout marks a motor that is missing from the mask. -/
theorem Marked.timeout (member : motor ∈ group.motors) (timeout : event.received ≤ 0)
    (missing : backend.mitFrame.isReceived motor.slaveId = false) :
    Marked motor (backend.rxStep group event) := by
  rw [rxStep_timeout timeout]
  rcases receiveTimeout_spec group backend event.now with ⟨published, -, entries⟩
  have entry := entries motor member
  rw [missingEntry, if_neg (by simp [missing])] at entry
  have working := congrArg MotorEntry.stale entry
  exact {
    working := working
    published := by
      rw [ReportedStale, LatestValue.latest_of_concat published]
      exact working }

end RmdCanBackend

/-- A timeout that finds the motor missing reports it, until the motor replies. -/
theorem MarkedMissing.reportedStale (marked : MarkedMissing group motor events)
    (member : motor ∈ group.motors) (totalMotorCount : Nat) :
    ReportedStale motor ((RmdCanBackend.started group totalMotorCount).rxLoop group events) := by
  rcases marked with ⟨before, timeout, between, after, rfl, late, missing, silent, quiet⟩
  rw [ReportedStale, LatestValue.latest_congr
    (RmdCanBackend.started_unpublished group totalMotorCount quiet), RmdCanBackend.rxLoop_append]
  rw [← RmdCanBackend.started_mask group totalMotorCount] at missing
  have atTimeout : RmdCanBackend.Marked motor
      (((RmdCanBackend.started group totalMotorCount).rxLoop group before).rxStep group timeout) :=
    RmdCanBackend.Marked.timeout member late missing
  exact (atTimeout.rxLoop member silent).published

/-! ## Nothing else reports a motor stale -/

/-- A timeout in the past found the motor missing, and it has not replied since. -/
def MissedSince (group : CanGroup F) (motor : RuntimeMotor F) (events : List RxEvent) : Prop :=
  ∃ before timeout between, events = before ++ timeout :: between ∧ timeout.received ≤ 0 ∧
    (maskAfter group before).isReceived motor.slaveId = false ∧ replied motor between = false

/-- What an iteration publishes has the stale bits of the working frame after it. -/
theorem stale_of_published (distinct : (group.motors.map RuntimeMotor.motorId).Nodup)
    (published : (backend.rxStep group event).actualBuffer.values ≠ backend.actualBuffer.values)
    (index : Nat) :
    (backend.rxStep group event).actualBuffer.latest.stale index =
      (backend.rxStep group event).workingActuals.stale index := by
  by_cases timeout : event.received ≤ 0
  · rw [RmdCanBackend.rxStep_timeout timeout]
    rw [LatestValue.latest_of_concat
      (RmdCanBackend.receiveTimeout_spec group backend event.now).1]
  · by_cases silent : ∀ motor ∈ group.motors, event.mitReply motor = none
    · have quiet := RmdCanBackend.rxStep_quiet backend timeout silent
      exact absurd (congrArg LatestValue.values quiet.actualBuffer) published
    · push Not at silent
      rcases silent with ⟨motor, member, some⟩
      rcases Option.ne_none_iff_exists'.mp some with ⟨feedback, reply⟩
      rcases RmdCanBackend.rxStep_reply backend distinct member reply with
        ⟨middle, before, after⟩
      rcases RmdCanBackend.acceptReply_spec middle motor feedback event.now with
        ⟨complete, incomplete, -, -⟩
      have stale := (after.entries index).stale
      cases marked : (middle.mitFrame.markReceived motor.slaveId event.now).1 with
      | true =>
          rw [after.actualBuffer, LatestValue.latest_of_concat (complete marked)]
          exact stale.symm
      | false =>
          refine absurd ?_ published
          rw [after.actualBuffer, incomplete marked, before.actualBuffer]

/-- A reply clears the stale bit of its motor. -/
theorem stale_of_reply (distinct : (group.motors.map RuntimeMotor.motorId).Nodup)
    (member : motor ∈ group.motors) {feedback : MitFeedback F}
    (reply : event.mitReply motor = some feedback) :
    (backend.rxStep group event).workingActuals.stale motor.globalIndex = false := by
  rcases RmdCanBackend.rxStep_reply backend distinct member reply with
    ⟨middle, -, after⟩
  have entry := (RmdCanBackend.acceptReply_spec middle motor feedback event.now).2.2.2
    motor.globalIndex
  rw [if_pos rfl] at entry
  exact (after.entries motor.globalIndex).stale.trans (congrArg MotorEntry.stale entry)

theorem MissedSince.concat (missed : MissedSince group motor events)
    (silent : event.mitReply motor = none) : MissedSince group motor (events ++ [event]) := by
  rcases missed with ⟨before, timeout, between, rfl, late, missing, quiet⟩
  refine ⟨before, timeout, between ++ [event], by simp, late, missing, ?_⟩
  simp [quiet, silent]

/-- The working frame marks a motor stale for this reason only. -/
theorem missedSince_of_stale (distinct : (group.motors.map RuntimeMotor.motorId).Nodup)
    (member : motor ∈ group.motors) {totalMotorCount : Nat}
    (stale : ((RmdCanBackend.started group totalMotorCount).rxLoop group
      events).workingActuals.stale motor.globalIndex = true) :
    MissedSince group motor events := by
  induction events using List.reverseRecOn with
  | nil => contradiction
  | append_singleton events event ih =>
      rw [RmdCanBackend.rxLoop_append, RmdCanBackend.rxLoop_singleton] at stale
      cases reply : event.mitReply motor with
      | some feedback =>
          have := (stale_of_reply distinct member reply).symm.trans stale
          contradiction
      | none =>
          by_cases timeout : event.received ≤ 0
          · cases missing : (maskAfter group events).isReceived motor.slaveId with
            | false => exact ⟨events, event, [], rfl, timeout, missing, rfl⟩
            | true =>
                rw [← RmdCanBackend.started_mask group totalMotorCount] at missing
                rw [RmdCanBackend.rxStep_timeout timeout] at stale
                have entry := (RmdCanBackend.receiveTimeout_spec group
                  ((RmdCanBackend.started group totalMotorCount).rxLoop group events)
                  event.now).2.2 motor member
                rw [RmdCanBackend.missingEntry, if_pos missing] at entry
                exact (ih ((congrArg MotorEntry.stale entry).symm.trans stale)).concat reply
          · have quiet := RmdCanBackend.rxStep_entry_quiet
              ((RmdCanBackend.started group totalMotorCount).rxLoop group events) timeout member
              reply
            exact (ih (quiet.stale.symm.trans stale)).concat reply

theorem MarkedMissing.concat (marked : MarkedMissing group motor events)
    (quiet : ¬ Completes group events event) : MarkedMissing group motor (events ++ [event]) := by
  rcases marked with ⟨before, timeout, between, after, rfl, late, missing, silent, quietSince⟩
  refine ⟨before, timeout, between, after ++ [event], by simp, late, missing, silent, ?_⟩
  intro front other back split
  rcases List.eq_nil_or_concat back with rfl | ⟨rest, last, rfl⟩
  · rcases List.append_inj' split rfl with ⟨rfl, same⟩
    cases same
    exact quiet
  · apply quietSince front other rest
    rw [List.concat_eq_append, ← List.cons_append, ← List.append_assoc] at split
    exact (List.append_inj' split rfl).1

/-- The frame published last reports a motor stale for this reason only. -/
theorem markedMissing_of_reportedStale
    (distinct : (group.motors.map RuntimeMotor.motorId).Nodup) (member : motor ∈ group.motors)
    {totalMotorCount : Nat} (stale : ReportedStale motor
      ((RmdCanBackend.started group totalMotorCount).rxLoop group events)) :
    MarkedMissing group motor events := by
  induction events using List.reverseRecOn with
  | nil => contradiction
  | append_singleton events event ih =>
      have step : (RmdCanBackend.started group totalMotorCount).rxLoop group (events ++ [event]) =
          ((RmdCanBackend.started group totalMotorCount).rxLoop group events).rxStep group
            event := by
        rw [RmdCanBackend.rxLoop_append, RmdCanBackend.rxLoop_singleton]
      have unpublished := RmdCanBackend.started_publishes_iff group totalMotorCount events event
      by_cases completes : Completes group events event
      · have working : ((RmdCanBackend.started group totalMotorCount).rxLoop group
            (events ++ [event])).workingActuals.stale motor.globalIndex = true := by
          rw [step, ← stale_of_published distinct (fun same => unpublished.mp same completes),
            ← step]
          exact stale
        rcases missedSince_of_stale distinct member working with
          ⟨before, timeout, between, split, late, missing, silent⟩
        exact ⟨before, timeout, between, [], by simp [split], late, missing, silent, by simp⟩
      · have earlier : ReportedStale motor
            ((RmdCanBackend.started group totalMotorCount).rxLoop group events) := by
          rw [ReportedStale] at stale ⊢
          rwa [step, LatestValue.latest_congr (unpublished.mpr completes)] at stale
        exact (ih earlier).concat completes

/-- The silence after which a motor is expected to be reported. -/
def silenceLimit : Time := 100000000

/-- A motor that has been silent for long is reported if a timeout that found it
missing stands behind the last publish, and, when motor ids are distinct, only then. -/
theorem silence_reported_iff_marked (group : CanGroup F) (totalMotorCount : Nat)
    (motor : RuntimeMotor F) (member : motor ∈ group.motors) (events : List RxEvent) :
    let start := RmdCanBackend.started group totalMotorCount
    ((SilentFor motor silenceLimit events → MarkedMissing group motor events) →
      SilentFor motor silenceLimit events →
        ReportedStale motor (start.rxLoop group events)) ∧
    ((group.motors.map RuntimeMotor.motorId).Nodup →
      (SilentFor motor silenceLimit events → ReportedStale motor (start.rxLoop group events)) →
        SilentFor motor silenceLimit events → MarkedMissing group motor events) := by
  intro start
  constructor
  · intro marked silent
    exact (marked silent).reportedStale member totalMotorCount
  · intro distinct reported silent
    exact markedMissing_of_reportedStale distinct member (reported silent)

/-- Both motors reply once and then nothing arrives. -/
def abandoned : List RxEvent :=
  [replyOf 1 0, replyOf 2 0, nothingReceived 60000000, nothingReceived 120000000]

theorem silence_reported_abandoned :
    SilentFor (canMotor 2 (default : MotorParameters ℚ)) silenceLimit abandoned ∧
      ReportedStale (canMotor 2 (default : MotorParameters ℚ))
        ((RmdCanBackend.started (twoMotors default) 2).rxLoop (twoMotors default) abandoned) := by
  have silent : SilentFor (canMotor 2 (default : MotorParameters ℚ)) silenceLimit abandoned :=
    ⟨[replyOf 1 0], replyOf 2 0, _, nothingReceived 120000000, rfl, by decide, by decide,
      rfl, by decide⟩
  refine ⟨silent, (silence_reported_iff_marked (twoMotors default) 2
    (canMotor 2 (default : MotorParameters ℚ)) (List.mem_cons_of_mem _ List.mem_cons_self)
    abandoned).1 ?_ silent⟩
  intro _
  exact ⟨[replyOf 1 0, replyOf 2 0], nothingReceived 60000000, [nothingReceived 120000000], [],
    rfl, by decide, by decide, by decide, by simp⟩

/-- Both motors reply once, then motor 1 alone every 20 ms. -/
def overheard : List RxEvent :=
  [replyOf 1 0, replyOf 2 0, replyOf 1 20000000, replyOf 1 40000000, replyOf 1 60000000,
    replyOf 1 80000000, replyOf 1 100000000, replyOf 1 120000000]

/-- Motor 2 has been silent for 120 ms and its old sample still counts as fresh. -/
theorem silence_not_reported :
    overheard.Pairwise (fun earlier later => earlier.now ≤ later.now) ∧
      SilentFor (canMotor 2 (default : MotorParameters ℚ)) silenceLimit overheard ∧
      ¬ ReportedStale (canMotor 2 (default : MotorParameters ℚ))
        ((RmdCanBackend.started (twoMotors default) 2).rxLoop (twoMotors default) overheard) := by
  refine ⟨by decide, ⟨[replyOf 1 0], replyOf 2 0, _, replyOf 1 120000000, rfl, by decide,
    by decide, rfl, by decide⟩, ?_⟩
  rw [ReportedStale]
  decide

end RmdCanSdk
