import RmdCanSdk.Can.Backend

/-!
# The transmit loop

The transmit thread, the application that publishes targets and stops the backend, and
the socket, over every interleaving. The stop flag is looked at between two cycles
only, and nothing is sent after the last one. What was sent to a motor follows from the
schedule: from the frames that the cycles read and the calls of `send` that succeeded.
-/

namespace RmdCanSdk

variable {F : Type} [FloatArith F]

/-! ## The transmit thread -/

/-- A command as the socket took it, with the position in the target buffer of the
frame it was computed from. -/
structure Command (F : Type) where
  motor : RuntimeMotor F
  source : Nat
  data : Vector Byte 8

inductive Transmission (F : Type) where
  | command (entry : Command F)
  | statusRequest (motor : RuntimeMotor F)

/-- The identifier and the data handed to `send`. -/
def Transmission.frame : Transmission F → Int × Vector Byte 8
  | .command entry => (mitTxId entry.motor.motorId, entry.data)
  | .statusRequest motor => (standardTxId motor.motorId, status2)

/-- The command in a transmission, if it is one to the given motor. -/
def Transmission.commandTo (motor : RuntimeMotor F) : Transmission F → Option (Command F)
  | .command entry => if entry.motor.globalIndex = motor.globalIndex then some entry else none
  | .statusRequest _ => none

/-- The last command sent to a motor. -/
def lastCommand (sent : List (Transmission F)) (motor : RuntimeMotor F) : Option (Command F) :=
  (sent.filterMap (Transmission.commandTo motor)).getLast?

/-- What a cycle hands to the socket, one transmission after the other. -/
def cycleTransmissions (group : CanGroup F) (targets : MotorTargetFrame F) (source tick : Nat) :
    List (Transmission F) :=
  (group.motors.map fun motor => .command {
    motor := motor
    source := source
    data := mitCommand motor (targets.targets motor.globalIndex) }) ++
  if tick % 20 = 0 then group.motors.map .statusRequest else []

/-- A cycle hands over the frames of `txCycle`. -/
theorem frame_cycleTransmissions (group : CanGroup F) (targets : MotorTargetFrame F)
    (source tick : Nat) :
    (cycleTransmissions group targets source tick).map Transmission.frame =
      txCycle group targets tick := by
  rw [cycleTransmissions, txCycle, List.map_append, List.map_map]
  split
  · rw [List.map_map]
    rfl
  · rfl

/-- Where the transmit thread stands in `txLoop`. -/
inductive TxPhase (F : Type) where
  | head
  | reading
  | sending (left : List (Transmission F))
  | sleeping
  | exited

/-- What is left to send in the current cycle. -/
def TxPhase.pending : TxPhase F → List (Transmission F)
  | .sending left => left
  | _ => []

/-- The backend between `start` and the end of `stop`, as far as commands go. -/
structure TxRuntime (F : Type) where
  stop : Bool
  targetBuffer : LatestValue (MotorTargetFrame F)
  phase : TxPhase F
  targets : MotorTargetFrame F
  tick : Nat
  status : BackendStatus
  sent : List (Transmission F)
  receiverExited : Bool
  closed : Bool

/-- The application publishes and then stops the backend; the transmit thread goes
through its loop; the receive thread leaves its own; `stop` closes the socket. -/
inductive TxEvent (F : Type) where
  | publish (frame : MotorTargetFrame F)
  | requestStop
  | check
  | read (position : Nat)
  | send (accepted : Bool)
  | finishCycle
  | wake
  | exitReceiver
  | close

/-- The frame in the target buffer before the first `setMotorTarget`. -/
def initialTargets (totalMotorCount : Nat) : MotorTargetFrame F :=
  { (default : MotorTargetFrame F) with motorCount := totalMotorCount }

namespace TxRuntime

/-- The backend as `start` leaves it. -/
def started (totalMotorCount : Nat) : TxRuntime F where
  stop := false
  targetBuffer := LatestValue.start (initialTargets totalMotorCount)
  phase := .head
  targets := default
  tick := 0
  status := default
  sent := []
  receiverExited := false
  closed := false

/-- One call of `send`. Only a command that is refused is a fault. -/
def transmit (runtime : TxRuntime F) (transmission : Transmission F) (accepted : Bool) :
    TxRuntime F :=
  match accepted, transmission with
  | true, _ => { runtime with sent := runtime.sent ++ [transmission] }
  | false, .command _ => { runtime with status := runtime.status.setFault ErrorCodeBackendFault }
  | false, .statusRequest _ => runtime

/-- One step of the application or of a thread. The caller of `stop` is the one that
publishes, and joins both threads before it closes the socket. -/
def step (group : CanGroup F) (runtime : TxRuntime F) : TxEvent F → Option (TxRuntime F)
  | .publish frame =>
      if runtime.stop then none
      else some { runtime with targetBuffer := runtime.targetBuffer.publish frame }
  | .requestStop => some { runtime with stop := true }
  | .check =>
      match runtime.phase with
      | .head => some { runtime with phase := if runtime.stop then .exited else .reading }
      | _ => none
  | .read position =>
      match runtime.phase with
      | .reading => (runtime.targetBuffer.step (.read position)).map fun targetBuffer =>
          { runtime with
            targetBuffer := targetBuffer
            targets := targetBuffer.current
            phase := .sending
              (cycleTransmissions group targetBuffer.current position runtime.tick) }
      | _ => none
  | .send accepted =>
      match runtime.phase with
      | .sending (transmission :: left) =>
          some { runtime.transmit transmission accepted with phase := .sending left }
      | _ => none
  | .finishCycle =>
      match runtime.phase with
      | .sending [] => some { runtime with tick := runtime.tick + 1, phase := .sleeping }
      | _ => none
  | .wake =>
      match runtime.phase with
      | .sleeping => some { runtime with phase := .head }
      | _ => none
  | .exitReceiver => if runtime.stop then some { runtime with receiverExited := true } else none
  | .close =>
      match runtime.phase with
      | .exited =>
          if runtime.stop && runtime.receiverExited then some { runtime with closed := true }
          else none
      | _ => none

variable {group : CanGroup F} {runtime next start finish : TxRuntime F} {event : TxEvent F}
variable {events : List (TxEvent F)} {frame : MotorTargetFrame F} {position : Nat} {accepted : Bool}

/-! ## What the steps do -/

theorem step_publish (stepped : step group runtime (.publish frame) = some next) :
    next = { runtime with targetBuffer := runtime.targetBuffer.publish frame } := by
  simp only [step] at stepped
  split at stepped
  · contradiction
  · exact (Option.some.inj stepped).symm

theorem step_check (stepped : step group runtime .check = some next) :
    runtime.phase = .head ∧
      next = { runtime with phase := if runtime.stop then .exited else .reading } := by
  simp only [step] at stepped
  split at stepped
  next head => exact ⟨head, (Option.some.inj stepped).symm⟩
  next => contradiction

theorem step_read (stepped : step group runtime (.read position) = some next) :
    runtime.phase = .reading ∧ ∃ targetBuffer,
      runtime.targetBuffer.step (.read position) = some targetBuffer ∧ next = { runtime with
        targetBuffer := targetBuffer
        targets := targetBuffer.current
        phase := .sending
          (cycleTransmissions group targetBuffer.current position runtime.tick) } := by
  simp only [step] at stepped
  split at stepped
  next reading =>
    rcases Option.map_eq_some_iff.mp stepped with ⟨targetBuffer, read, rfl⟩
    exact ⟨reading, targetBuffer, read, rfl⟩
  next => contradiction

theorem step_send (stepped : step group runtime (.send accepted) = some next) :
    ∃ transmission left, runtime.phase = .sending (transmission :: left) ∧
      next = { runtime.transmit transmission accepted with phase := .sending left } := by
  simp only [step] at stepped
  split at stepped
  next transmission left sending =>
    exact ⟨transmission, left, sending, (Option.some.inj stepped).symm⟩
  next => contradiction

theorem step_finishCycle (stepped : step group runtime .finishCycle = some next) :
    runtime.phase = .sending [] ∧
      next = { runtime with tick := runtime.tick + 1, phase := .sleeping } := by
  simp only [step] at stepped
  split at stepped
  next sent => exact ⟨sent, (Option.some.inj stepped).symm⟩
  next => contradiction

theorem step_wake (stepped : step group runtime .wake = some next) :
    runtime.phase = .sleeping ∧ next = { runtime with phase := .head } := by
  simp only [step] at stepped
  split at stepped
  next sleeping => exact ⟨sleeping, (Option.some.inj stepped).symm⟩
  next => contradiction

theorem step_exitReceiver (stepped : step group runtime .exitReceiver = some next) :
    next = { runtime with receiverExited := true } := by
  simp only [step] at stepped
  split at stepped
  · exact (Option.some.inj stepped).symm
  · contradiction

theorem step_close (stepped : step group runtime .close = some next) :
    runtime.phase = .exited ∧ next = { runtime with closed := true } := by
  simp only [step] at stepped
  split at stepped
  next exited =>
    split at stepped
    · exact ⟨exited, (Option.some.inj stepped).symm⟩
    · contradiction
  next => contradiction

omit [FloatArith F] in
/-- A call of `send` leaves the target buffer alone. -/
theorem targetBuffer_transmit (runtime : TxRuntime F) (transmission : Transmission F)
    (accepted : Bool) :
    (runtime.transmit transmission accepted).targetBuffer = runtime.targetBuffer := by
  cases accepted <;> cases transmission <;> rfl

/-! ## Where commands come from -/

/-- What was sent, followed by what the current cycle has left to send. -/
def offered (runtime : TxRuntime F) : List (Transmission F) := runtime.sent ++ runtime.phase.pending

/-- What a step can do. It publishes a frame, reads one and offers its commands, or
leaves the buffer alone and offers nothing new; it does not lead out of an exited
thread; and only an exited thread lets it close the socket. -/
structure Step (group : CanGroup F) (runtime next : TxRuntime F) : Prop where
  offers : (∃ frame, next.targetBuffer = runtime.targetBuffer.publish frame ∧
        next.offered = runtime.offered) ∨
      (∃ position, runtime.targetBuffer.step (.read position) = some next.targetBuffer ∧
        next.offered = runtime.offered ++
          cycleTransmissions group next.targetBuffer.current position runtime.tick) ∨
      (next.targetBuffer = runtime.targetBuffer ∧ next.offered.Sublist runtime.offered)
  exited : runtime.phase = .exited → next.phase = .exited ∧ next.sent = runtime.sent
  closed : next.closed = true → runtime.closed = true ∨ next.phase = .exited

/-- A step that keeps the buffer and what was sent, in a phase with nothing to send. -/
theorem Step.ofPhase (buffer : next.targetBuffer = runtime.targetBuffer)
    (sent : next.sent = runtime.sent) (none : next.phase.pending = [])
    (exited : runtime.phase = .exited → next.phase = .exited)
    (closed : next.closed = true → runtime.closed = true ∨ next.phase = .exited) :
    Step group runtime next where
  offers := by
    refine .inr (.inr ⟨buffer, ?_⟩)
    rw [offered, offered, sent, none, List.append_nil]
    exact List.sublist_append_left _ _
  exited isExited := ⟨exited isExited, sent⟩
  closed := closed

/-- Sending takes the first transmission off, whether or not the socket accepts it. -/
theorem Step.send (stepped : step group runtime (.send accepted) = some next) :
    Step group runtime next := by
  rcases step_send stepped with ⟨transmission, left, sending, rfl⟩
  have exited : runtime.phase = .exited → False := by
    rw [sending]
    exact fun exited => by contradiction
  have fewer : left.Sublist (transmission :: left) := List.sublist_cons_self _ _
  cases accepted with
  | true =>
      refine ⟨.inr (.inr ⟨rfl, ?_⟩), fun isExited => (exited isExited).elim, .inl⟩
      simp only [offered, sending, TxPhase.pending, transmit, List.append_assoc]
      exact List.Sublist.refl _
  | false =>
      cases transmission with
      | command entry =>
          refine ⟨.inr (.inr ⟨rfl, ?_⟩), fun isExited => (exited isExited).elim, .inl⟩
          simp only [offered, sending]
          exact fewer.append_left _
      | statusRequest motor =>
          refine ⟨.inr (.inr ⟨rfl, ?_⟩), fun isExited => (exited isExited).elim, .inl⟩
          simp only [offered, sending]
          exact fewer.append_left _

theorem step_spec (stepped : step group runtime event = some next) : Step group runtime next := by
  cases event with
  | publish frame =>
      cases step_publish stepped
      exact ⟨.inl ⟨frame, rfl, rfl⟩, fun exited => ⟨exited, rfl⟩, .inl⟩
  | requestStop =>
      cases stepped
      exact ⟨.inr (.inr ⟨rfl, List.Sublist.refl _⟩), fun exited => ⟨exited, rfl⟩, .inl⟩
  | check =>
      rcases step_check stepped with ⟨head, rfl⟩
      refine Step.ofPhase (by rfl) (by rfl) ?_ ?_ .inl
      · dsimp only
        split <;> rfl
      · rw [head]
        exact fun exited => by contradiction
  | read position =>
      rcases step_read stepped with ⟨reading, buffer, read, rfl⟩
      refine ⟨.inr (.inl ⟨position, read, ?_⟩), ?_, .inl⟩
      · simp only [offered, reading, TxPhase.pending, List.append_nil]
      · rw [reading]
        exact fun exited => by contradiction
  | send accepted => exact .send stepped
  | finishCycle =>
      rcases step_finishCycle stepped with ⟨sent, rfl⟩
      refine Step.ofPhase (by rfl) (by rfl) (by rfl) ?_ .inl
      rw [sent]
      exact fun exited => by contradiction
  | wake =>
      rcases step_wake stepped with ⟨sleeping, rfl⟩
      refine Step.ofPhase (by rfl) (by rfl) (by rfl) ?_ .inl
      rw [sleeping]
      exact fun exited => by contradiction
  | exitReceiver =>
      cases step_exitReceiver stepped
      exact ⟨.inr (.inr ⟨rfl, List.Sublist.refl _⟩), fun exited => ⟨exited, rfl⟩, .inl⟩
  | close =>
      rcases step_close stepped with ⟨exited, rfl⟩
      exact Step.ofPhase rfl rfl (congrArg TxPhase.pending exited) (fun _ => exited)
        fun _ => .inr exited

/-- A command to a motor of the group, computed from a frame of the buffer. -/
def Computed (group : CanGroup F) (values : List (MotorTargetFrame F)) (entry : Command F) : Prop :=
  entry.motor ∈ group.motors ∧ ∃ frame, values[entry.source]? = some frame ∧
    entry.data = mitCommand entry.motor (frame.targets entry.motor.globalIndex)

/-- Commands are offered in the order of the frames they come from. -/
structure Traced (group : CanGroup F) (runtime : TxRuntime F) : Prop where
  computed : ∀ entry, .command entry ∈ runtime.offered →
    Computed group runtime.targetBuffer.values entry
  reached : ∀ entry, .command entry ∈ runtime.offered →
    entry.source ≤ runtime.targetBuffer.position
  ordered : runtime.offered.Pairwise fun earlier later => ∀ before after,
    earlier = .command before → later = .command after → before.source ≤ after.source

theorem mem_cycleTransmissions {targets : MotorTargetFrame F} {source tick : Nat}
    {entry : Command F} (member : .command entry ∈ cycleTransmissions group targets source tick) :
    entry.motor ∈ group.motors ∧ entry.source = source ∧
      entry.data = mitCommand entry.motor (targets.targets entry.motor.globalIndex) := by
  rcases List.mem_append.mp member with command | request
  · rcases List.mem_map.mp command with ⟨motor, inGroup, same⟩
    cases same
    exact ⟨inGroup, rfl, rfl⟩
  · split at request
    · rcases List.mem_map.mp request with ⟨motor, -, different⟩
      contradiction
    · contradiction

/-- A frame that is published is behind those that commands come from. -/
theorem Traced.publish (before : Traced group runtime)
    (buffer : next.targetBuffer = runtime.targetBuffer.publish frame)
    (same : next.offered = runtime.offered) : Traced group next where
  computed entry member := by
    rcases before.computed entry (same ▸ member) with ⟨inGroup, origin, present, data⟩
    refine ⟨inGroup, origin, ?_, data⟩
    rw [buffer, LatestValue.publish, List.getElem?_append_left
      (List.getElem?_eq_some_iff.mp present).1]
    exact present
  reached entry member := by
    rw [buffer]
    exact before.reached entry (same ▸ member)
  ordered := by
    rw [same]
    exact before.ordered

/-- The commands of a cycle come from the frame it has read, and no earlier one does from a
later frame. -/
theorem Traced.read {tick : Nat} (before : Traced group runtime)
    (read : runtime.targetBuffer.step (.read position) = some next.targetBuffer)
    (offered : next.offered = runtime.offered ++
      cycleTransmissions group next.targetBuffer.current position tick) : Traced group next := by
  rcases LatestValue.step_read read with ⟨values, moved, forward⟩
  have current : next.targetBuffer.values[position]? = some next.targetBuffer.current := by
    rw [← moved]
    exact List.getElem?_eq_getElem next.targetBuffer.inBounds
  refine ⟨?_, ?_, ?_⟩
  · intro entry member
    rw [offered] at member
    rcases List.mem_append.mp member with earlier | new
    · rw [values]
      exact before.computed entry earlier
    · rcases mem_cycleTransmissions new with ⟨inGroup, source, data⟩
      exact ⟨inGroup, _, source ▸ current, data⟩
  · intro entry member
    rw [offered] at member
    rcases List.mem_append.mp member with earlier | new
    · exact (before.reached entry earlier).trans (moved ▸ forward)
    · rw [moved, (mem_cycleTransmissions new).2.1]
  · rw [offered]
    refine List.pairwise_append.mpr ⟨before.ordered, ?_, ?_⟩
    · apply List.pairwise_of_forall_mem_list
      intro earlier earlierIn later laterIn first second isFirst isSecond
      subst isFirst isSecond
      rw [(mem_cycleTransmissions earlierIn).2.1, (mem_cycleTransmissions laterIn).2.1]
    · intro earlier earlierIn later laterIn first second isFirst isSecond
      subst isFirst isSecond
      rw [(mem_cycleTransmissions laterIn).2.1]
      exact (before.reached first earlierIn).trans forward

/-- With nothing new to send, commands come from where they came from. -/
theorem Traced.sublist (before : Traced group runtime)
    (buffer : next.targetBuffer = runtime.targetBuffer)
    (fewer : next.offered.Sublist runtime.offered) : Traced group next where
  computed entry member := by
    rw [buffer]
    exact before.computed entry (fewer.subset member)
  reached entry member := by
    rw [buffer]
    exact before.reached entry (fewer.subset member)
  ordered := before.ordered.sublist fewer

theorem Traced.step (before : Traced group runtime)
    (stepped : TxRuntime.step group runtime event = some next) : Traced group next := by
  rcases (step_spec stepped).offers with ⟨frame, buffer, same⟩ | ⟨position, read, offered⟩ |
    ⟨buffer, fewer⟩
  · exact before.publish buffer same
  · exact before.read read offered
  · exact before.sublist buffer fewer

theorem run_traced {totalMotorCount : Nat}
    (ran : Transition.run (step group) (started totalMotorCount) events = some finish) :
    Traced group finish := by
  refine Transition.run_invariant (Traced group) ?_ ran ?_
  · intro runtime next event stepped before
    exact before.step stepped
  · exact ⟨by simp [offered, started, TxPhase.pending], by simp [offered, started, TxPhase.pending],
      List.Pairwise.nil⟩

end TxRuntime

/-! ## The schedule -/

/-- The frames that a schedule publishes. -/
def publishedFrames (events : List (TxEvent F)) : List (MotorTargetFrame F) :=
  events.filterMap fun
    | .publish frame => some frame
    | _ => none

/-- A schedule as the transmission with some index in a cycle sees it: the position of the
frame read last, the number of transmissions handed over since, and the position of the
frame read in the last cycle that got this transmission through. -/
structure TxSchedule where
  position : Nat
  handed : Nat
  accepted : Option Nat

def TxSchedule.next (index : Nat) (schedule : TxSchedule) : TxEvent F → TxSchedule
  | .read position => { schedule with position := position, handed := 0 }
  | .send accepted => { schedule with
      handed := schedule.handed + 1
      accepted :=
        if accepted ∧ schedule.handed = index then some schedule.position else schedule.accepted }
  | _ => schedule

/-- The position of the frame read in the last cycle of a schedule that got the transmission
with this index through. -/
def lastAccepted (index : Nat) (events : List (TxEvent F)) : Option Nat :=
  (events.foldl (TxSchedule.next index) ⟨0, 0, none⟩).accepted

/-- The command to the motor with some index in the group is the transmission with this
index, and no other one is a command to it. -/
theorem commandTo_cycleTransmissions {group : CanGroup F} {motor : RuntimeMotor F} {index : Nat}
    (own : group.motors[index]? = some motor) {targets : MotorTargetFrame F}
    {source tick other : Nat} {transmission : Transmission F}
    (handed : (cycleTransmissions group targets source tick)[other]? = some transmission) :
    (transmission.commandTo motor).map Command.source =
      if other = index then some source else none := by
  rcases List.getElem?_eq_some_iff.mp own with ⟨inGroup, isMotor⟩
  rw [cycleTransmissions] at handed
  by_cases command : other < group.motors.length
  · rw [List.getElem?_append_left (by simpa using command), List.getElem?_map,
      List.getElem?_eq_getElem command, Option.map_some, Option.some.injEq] at handed
    subst handed
    have same : group.motors[other].globalIndex = motor.globalIndex ↔ other = index := by
      rw [← isMotor]
      have distinct := @List.Nodup.getElem_inj_iff _ _ group.distinct other
        (by simpa using command) index (by simpa using inGroup)
      rwa [List.getElem_map, List.getElem_map] at distinct
    simp only [Transmission.commandTo, same]
    split <;> rfl
  · have different : other ≠ index := by omega
    rw [List.getElem?_append_right (by simpa using command)] at handed
    rw [if_neg different]
    split at handed
    · rcases List.mem_map.mp (List.mem_of_getElem? handed) with ⟨asked, -, rfl⟩
      rfl
    · contradiction

omit [FloatArith F] in
/-- A transmission that gets through becomes the last command if it is one to the motor. -/
theorem lastCommand_concat (sent : List (Transmission F)) (transmission : Transmission F)
    (motor : RuntimeMotor F) : lastCommand (sent ++ [transmission]) motor =
      (transmission.commandTo motor).or (lastCommand sent motor) := by
  rw [lastCommand, List.filterMap_append, List.getLast?_append, List.filterMap_cons,
    List.filterMap_nil]
  cases transmission.commandTo motor <;> rfl

namespace TxRuntime

variable {group : CanGroup F} {runtime next start finish : TxRuntime F} {event : TxEvent F}
variable {events : List (TxEvent F)}

/-- Only a publish changes the values of the target buffer. -/
theorem step_values (stepped : step group runtime event = some next) :
    next.targetBuffer.values = runtime.targetBuffer.values ++ publishedFrames [event] := by
  have same : ∀ {targetBuffer : LatestValue (MotorTargetFrame F)},
      targetBuffer.values = runtime.targetBuffer.values →
        targetBuffer.values = runtime.targetBuffer.values ++ [] := by
    intro targetBuffer same
    rw [same, List.append_nil]
  cases event with
  | publish frame =>
      cases step_publish stepped
      rfl
  | requestStop =>
      cases stepped
      exact same rfl
  | check =>
      rcases step_check stepped with ⟨-, rfl⟩
      exact same rfl
  | read position =>
      rcases step_read stepped with ⟨-, buffer, read, rfl⟩
      exact same (LatestValue.step_read read).1
  | send accepted =>
      rcases step_send stepped with ⟨transmission, left, -, rfl⟩
      exact same (congrArg LatestValue.values (targetBuffer_transmit runtime transmission accepted))
  | finishCycle =>
      rcases step_finishCycle stepped with ⟨-, rfl⟩
      exact same rfl
  | wake =>
      rcases step_wake stepped with ⟨-, rfl⟩
      exact same rfl
  | exitReceiver =>
      cases step_exitReceiver stepped
      exact same rfl
  | close =>
      rcases step_close stepped with ⟨-, rfl⟩
      exact same rfl

theorem run_values (ran : Transition.run (step group) start events = some finish) :
    finish.targetBuffer.values = start.targetBuffer.values ++ publishedFrames events := by
  induction events generalizing start with
  | nil =>
      cases ran
      exact (List.append_nil _).symm
  | cons event events ih =>
      rcases Transition.run_cons.mp ran with ⟨next, stepped, ran⟩
      rw [ih ran, step_values stepped, List.append_assoc, publishedFrames, publishedFrames,
        publishedFrames, ← List.filterMap_append]
      rfl

/-- What was sent to a motor, and what the cycle has left, agree with the schedule. -/
structure Follows (group : CanGroup F) (motor : RuntimeMotor F) (runtime : TxRuntime F)
    (schedule : TxSchedule) : Prop where
  left : ∀ left, runtime.phase = .sending left → ∃ targets tick,
    left = (cycleTransmissions group targets schedule.position tick).drop schedule.handed
  last : (lastCommand runtime.sent motor).map Command.source = schedule.accepted

theorem Follows.send {motor : RuntimeMotor F} {index : Nat} {schedule : TxSchedule}
    {accepted : Bool}
    (own : group.motors[index]? = some motor) (before : Follows group motor runtime schedule)
    (stepped : step group runtime (.send accepted) = some next) :
    Follows group motor next (schedule.next index (.send accepted : TxEvent F)) := by
  rcases step_send stepped with ⟨transmission, left, sending, rfl⟩
  rcases before.left _ sending with ⟨targets, tick, rest⟩
  have handed : (cycleTransmissions group targets schedule.position tick)[schedule.handed]? =
      some transmission := by
    rw [← List.head?_drop, ← rest]
    rfl
  have tail : left = (cycleTransmissions group targets schedule.position tick).drop
      (schedule.handed + 1) := by
    rw [← List.tail_drop, ← rest]
    rfl
  refine ⟨?_, ?_⟩
  · intro left' still
    cases still
    exact ⟨targets, tick, tail⟩
  · have commanded := commandTo_cycleTransmissions own handed
    cases accepted with
    | false =>
        have unsent : (runtime.transmit transmission false).sent = runtime.sent := by
          cases transmission <;> rfl
        simp only [TxSchedule.next, unsent, before.last]
        rfl
    | true =>
        simp only [transmit, TxSchedule.next, lastCommand_concat, true_and]
        split at commanded
        next same =>
          rcases Option.map_eq_some_iff.mp commanded with ⟨entry, isCommand, source⟩
          rw [isCommand, if_pos same, Option.some_or, Option.map_some, source]
        next different =>
          rw [Option.map_eq_none_iff.mp commanded, if_neg different, Option.none_or, before.last]

theorem Follows.step {motor : RuntimeMotor F} {index : Nat} {schedule : TxSchedule}
    (own : group.motors[index]? = some motor)
    (stepped : TxRuntime.step group runtime event = some next)
    (before : Follows group motor runtime schedule) :
    Follows group motor next (schedule.next index event) := by
  cases event with
  | publish frame =>
      cases step_publish stepped
      exact ⟨before.left, before.last⟩
  | requestStop =>
      cases stepped
      exact ⟨before.left, before.last⟩
  | check =>
      rcases step_check stepped with ⟨-, rfl⟩
      refine ⟨?_, before.last⟩
      intro left sending
      split at sending <;> contradiction
  | read position =>
      rcases step_read stepped with ⟨-, buffer, -, rfl⟩
      refine ⟨?_, before.last⟩
      intro left sending
      cases sending
      exact ⟨_, _, rfl⟩
  | send accepted => exact before.send own stepped
  | finishCycle =>
      rcases step_finishCycle stepped with ⟨-, rfl⟩
      exact ⟨fun left sending => by contradiction, before.last⟩
  | wake =>
      rcases step_wake stepped with ⟨-, rfl⟩
      exact ⟨fun left sending => by contradiction, before.last⟩
  | exitReceiver =>
      cases step_exitReceiver stepped
      exact ⟨before.left, before.last⟩
  | close =>
      rcases step_close stepped with ⟨-, rfl⟩
      exact ⟨before.left, before.last⟩

/-- The last command to a motor of the group comes from the frame of the last cycle in which
its transmission was accepted. -/
theorem run_lastCommand {totalMotorCount index : Nat} {motor : RuntimeMotor F}
    (own : group.motors[index]? = some motor)
    (ran : Transition.run (TxRuntime.step group) (started totalMotorCount) events = some finish) :
    (lastCommand finish.sent motor).map Command.source = lastAccepted index events := by
  have follows : Follows group motor finish (events.foldl (TxSchedule.next index) ⟨0, 0, none⟩) :=
    Transition.run_follows (Follows group motor) (Follows.step own) ran
      ⟨fun left sending => by contradiction, rfl⟩
  exact follows.last

end TxRuntime

end RmdCanSdk
