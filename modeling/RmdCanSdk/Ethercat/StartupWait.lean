import RmdCanSdk.Ethercat.Startup

/-!
# What the wait at startup has seen

The wait counts the frames that are new to its polls. The loop may publish several frames
between two polls, so the frames that are counted need not be consecutive: a frame that no
poll has evaluated may be one that is not ready.
-/

namespace RmdCanSdk

variable {F : Type}

/-! ## Ready frames -/

/-- Every motor of the bindings has a sample without a fault. -/
def ReadyFor (bindings : List (EthercatPdoBinding F)) (frame : MotorActualFrame F) : Prop :=
  ∀ binding ∈ bindings, frame.valid binding.globalIndex = true ∧
    frame.stale binding.globalIndex = false ∧
    (frame.actuals binding.globalIndex).statusWord ≠ 0xffff ∧
    (frame.actuals binding.globalIndex).errorCode = 0

theorem frameReadyForBindings_iff {bindings : List (EthercatPdoBinding F)}
    {frame : MotorActualFrame F}
    (inBounds : ∀ binding ∈ bindings, binding.globalIndex < MaxRealtimeMotors) :
    frameReadyForBindings frame bindings = true ↔ ReadyFor bindings frame := by
  rw [frameReadyForBindings, List.all_eq_true]
  apply forall₂_congr
  intro binding member
  have inFrame := not_le.mpr (inBounds binding member)
  simp [readyForBinding, inFrame, and_assoc]

/-! ## Runs -/

/-- The actual buffer, the state of the wait and the positions of the frames that were new
to a poll, the last one first. -/
structure Startup (F : Type) where
  channel : LatestValue (MotorActualFrame F)
  wait : StartupWait
  evaluated : List Nat

/-- The loop publishes any frame, or the wait reads the frame at a position. -/
inductive StartupEvent (F : Type) where
  | publish (frame : MotorActualFrame F)
  | poll (position : Nat)

namespace Startup

def start (initial : MotorActualFrame F) : Startup F where
  channel := LatestValue.start initial
  wait := .begin
  evaluated := []

variable (startupReadyFrames : Nat) (bindings : List (EthercatPdoBinding F))

/-- A poll goes on with the wait unless the frame ends it. -/
def step (startup : Startup F) : StartupEvent F → Option (Startup F)
  | .publish frame => some { startup with channel := startup.channel.publish frame }
  | .poll position =>
      (startup.channel.step (.read position)).bind fun channel =>
        match startup.wait.poll startupReadyFrames bindings channel.current with
        | (true, _) => none
        | (false, wait) => some {
            channel := channel
            wait := wait
            evaluated :=
              if channel.current.sequence = startup.wait.lastSequence then startup.evaluated
              else position :: startup.evaluated }

/-- A poll at this position makes `waitForStartupReady` return true. -/
def Returns (startup : Startup F) (position : Nat) : Prop :=
  ∃ channel, startup.channel.step (.read position) = some channel ∧
    (startup.wait.poll startupReadyFrames bindings channel.current).1 = true

/-- As many frames as required were published, and the last of them up to a position were
all ready. -/
def LastReady (startup : Startup F) (position : Nat) : Prop :=
  startupReadyFrames ≤ position ∧
    ∀ index ≤ position, position < index + startupReadyFrames →
      ∀ frame, startup.channel.values[index]? = some frame → ReadyFor bindings frame

/-- Among the last required frames those that no poll has evaluated were ready. -/
def SkippedReady (startup : Startup F) (position : Nat) : Prop :=
  ∀ index < position, position < index + startupReadyFrames → index ∉ startup.evaluated →
    ∀ frame, startup.channel.values[index]? = some frame → ReadyFor bindings frame

end Startup

variable {startupReadyFrames : Nat} {bindings : List (EthercatPdoBinding F)}

/-! ## The invariant -/

/-- The frames that were counted are the last ones that were new to a poll. -/
structure Counted (bindings : List (EthercatPdoBinding F)) (startup : Startup F) : Prop where
  decreasing : startup.evaluated.Pairwise (· > ·)
  behind : ∀ index ∈ startup.evaluated, 0 < index ∧ index ≤ startup.channel.position
  /-- The frame seen last is at the first of the positions, or the initial one. -/
  seen : ∀ frame, startup.channel.values[startup.evaluated.headD 0]? = some frame →
    frame.sequence = startup.wait.lastSequence
  counted : startup.wait.consecutiveReady ≤ startup.evaluated.length
  ready : ∀ index ∈ startup.evaluated.take startup.wait.consecutiveReady,
    ∀ frame, startup.channel.values[index]? = some frame →
      frameReadyForBindings frame bindings = true

namespace Counted

variable {startup next : Startup F} {position : Nat}

theorem headD_le (counted : Counted bindings startup) :
    startup.evaluated.headD 0 ≤ startup.channel.position := by
  have behind := counted.behind
  cases evaluated : startup.evaluated with
  | nil => exact Nat.zero_le _
  | cons head rest =>
      rw [evaluated] at behind
      exact (behind head List.mem_cons_self).2

theorem start {initial : MotorActualFrame F} (first : initial.sequence = 0) :
    Counted bindings (Startup.start initial) where
  decreasing := List.Pairwise.nil
  behind _ member := absurd member List.not_mem_nil
  seen frame selected := by
    cases selected
    exact first
  counted := le_rfl
  ready _ member := absurd member List.not_mem_nil

/-- A frame that is new to a poll is beyond the ones before. -/
theorem fresh (counted : Counted bindings startup) {channel : LatestValue (MotorActualFrame F)}
    (moved : startup.channel.step (.read position) = some channel)
    (new : channel.current.sequence ≠ startup.wait.lastSequence) :
    (position :: startup.evaluated).Pairwise (· > ·) ∧
      ∀ index ∈ position :: startup.evaluated, 0 < index ∧ index ≤ position := by
  rcases LatestValue.step_read moved with ⟨values, isPosition, forward⟩
  have current : startup.channel.values[position]? = some channel.current := by
    rw [← values, ← isPosition]
    exact List.getElem?_eq_getElem channel.inBounds
  have behindHead := counted.headD_le
  have beyond : startup.evaluated.headD 0 < position := by
    apply lt_of_le_of_ne (behindHead.trans forward)
    intro same
    exact new (counted.seen channel.current (same ▸ current))
  have below : ∀ index ∈ startup.evaluated, index < position := by
    intro index member
    have decreasing := counted.decreasing
    cases evaluated : startup.evaluated with
    | nil =>
        rw [evaluated] at member
        contradiction
    | cons head rest =>
        rw [evaluated] at member decreasing beyond
        rcases List.mem_cons.mp member with rfl | later
        · exact beyond
        · exact lt_trans ((List.pairwise_cons.mp decreasing).1 index later) beyond
  refine ⟨List.pairwise_cons.mpr ⟨below, counted.decreasing⟩, ?_⟩
  intro index member
  rcases List.mem_cons.mp member with rfl | earlier
  · exact ⟨Nat.zero_lt_of_lt beyond, le_rfl⟩
  · exact ⟨(counted.behind index earlier).1, (below index earlier).le⟩

/-- Publishing does not change the frames that have been read. -/
theorem publish (counted : Counted bindings startup) (frame : MotorActualFrame F) :
    Counted bindings { startup with channel := startup.channel.publish frame } := by
  have old : ∀ index ≤ startup.channel.position,
      (startup.channel.publish frame).values[index]? = startup.channel.values[index]? :=
    fun index behind => List.getElem?_append_left (behind.trans_lt startup.channel.inBounds)
  refine ⟨counted.decreasing, counted.behind, ?_, counted.counted, ?_⟩
  · intro published selected
    rw [old _ counted.headD_le] at selected
    exact counted.seen published selected
  · intro index member published selected
    rw [old index (counted.behind index (List.mem_of_mem_take member)).2] at selected
    exact counted.ready index member published selected

theorem poll (counted : Counted bindings startup) {channel : LatestValue (MotorActualFrame F)}
    {wait : StartupWait} (moved : startup.channel.step (.read position) = some channel)
    (polled : startup.wait.poll startupReadyFrames bindings channel.current = (false, wait)) :
    Counted bindings {
      channel := channel
      wait := wait
      evaluated :=
        if channel.current.sequence = startup.wait.lastSequence then startup.evaluated
        else position :: startup.evaluated } := by
  rcases LatestValue.step_read moved with ⟨values, isPosition, forward⟩
  rw [StartupWait.poll] at polled
  split at polled
  next same =>
    cases polled
    rw [if_pos same]
    refine ⟨counted.decreasing, ?_, ?_, counted.counted, ?_⟩
    · intro index member
      rcases counted.behind index member with ⟨positive, behind⟩
      exact ⟨positive, isPosition ▸ behind.trans forward⟩
    · exact fun frame selected => counted.seen frame (values ▸ selected)
    · exact fun index member frame selected =>
        counted.ready index member frame (values ▸ selected)
  next new =>
    rcases counted.fresh moved new with ⟨decreasing, behind⟩
    have current : ∀ frame, channel.values[position]? = some frame → frame = channel.current :=
      fun frame selected => (LatestValue.current_eq (isPosition ▸ selected)).symm
    rw [if_neg new]
    split at polled
    next ready =>
      rcases Prod.mk.inj polled with ⟨-, rfl⟩
      refine ⟨decreasing, ?_, ?_, ?_, ?_⟩
      · exact fun index member => isPosition ▸ behind index member
      · intro frame selected
        rw [current frame selected]
      · exact Nat.succ_le_succ counted.counted
      · intro index member frame selected
        rcases List.mem_cons.mp member with rfl | earlier
        · exact current frame selected ▸ ready
        · exact counted.ready index earlier frame (values ▸ selected)
    next =>
      cases polled
      refine ⟨decreasing, ?_, ?_, Nat.zero_le _, fun _ member => absurd member List.not_mem_nil⟩
      · exact fun index member => isPosition ▸ behind index member
      · intro frame selected
        rw [current frame selected]

theorem step {event : StartupEvent F} (counted : Counted bindings startup)
    (stepped : startup.step startupReadyFrames bindings event = some next) :
    Counted bindings next := by
  cases event with
  | publish frame =>
      cases stepped
      exact counted.publish frame
  | poll position =>
      rcases Option.bind_eq_some_iff.mp stepped with ⟨channel, moved, stepped⟩
      split at stepped
      next => contradiction
      next wait polled =>
        cases stepped
        exact counted.poll moved polled

end Counted

/-- A poll that ends the wait has read a ready frame that was new, after enough others. -/
theorem StartupWait.poll_returns {wait : StartupWait} {frame : MotorActualFrame F}
    (returns : (wait.poll startupReadyFrames bindings frame).1 = true) :
    frame.sequence ≠ wait.lastSequence ∧ frameReadyForBindings frame bindings = true ∧
      startupReadyFrames ≤ wait.consecutiveReady + 1 := by
  rw [StartupWait.poll] at returns
  split at returns
  next => contradiction
  next new =>
    split at returns
    next ready => exact ⟨new, ready, of_decide_eq_true returns⟩
    next => contradiction

/-- If the wait returns true, then the last required frames up to the one it read last were
all ready exactly if those of them were that no poll has evaluated. -/
theorem startup_ready_iff {initial : MotorActualFrame F} {schedule : List (StartupEvent F)}
    {startup : Startup F} {position : Nat}
    (inBounds : ∀ binding ∈ bindings, binding.globalIndex < MaxRealtimeMotors)
    (first : initial.sequence = 0)
    (ran : Transition.run (Startup.step startupReadyFrames bindings) (Startup.start initial)
      schedule = some startup)
    (returns : startup.Returns startupReadyFrames bindings position) :
    startup.LastReady startupReadyFrames bindings position ↔
      startup.SkippedReady startupReadyFrames bindings position := by
  have counted : Counted bindings startup :=
    Transition.run_invariant (Counted bindings) (fun stepped counted => counted.step stepped) ran
      (Counted.start first)
  rcases returns with ⟨channel, moved, returns⟩
  rcases StartupWait.poll_returns returns with ⟨new, ready, enough⟩
  rcases counted.fresh moved new with ⟨decreasing, behind⟩
  rcases LatestValue.step_read moved with ⟨values, isPosition, -⟩
  constructor
  · rintro ⟨-, all⟩ index before near - frame selected
    exact all index before.le near frame selected
  · intro skipped
    constructor
    · have longest := LatestValue.length_le_of_decreasing decreasing
        fun index member => (behind index member).1
      have longer := counted.counted
      rw [List.length_cons] at longest
      omega
    · intro index before near frame selected
      rw [← frameReadyForBindings_iff inBounds]
      by_cases own : index = position
      · rw [own, ← values, ← isPosition] at selected
        rw [← LatestValue.current_eq selected]
        exact ready
      · by_cases evaluated : index ∈ startup.evaluated
        · have counts := LatestValue.mem_take_of_decreasing decreasing
            (List.mem_cons_of_mem _ evaluated) (near.trans_le (Nat.add_le_add_left enough index))
          rw [List.take_succ_cons] at counts
          rcases List.mem_cons.mp counts with same | earlier
          · exact absurd same own
          · exact counted.ready index earlier frame selected
        · rw [frameReadyForBindings_iff inBounds]
          exact skipped index (lt_of_le_of_ne before own) near evaluated frame selected

/-! ## A frame between two polls -/

/-- A frame with samples of all motors, or with none. -/
def sampledFrame (sequence : BitVec 64) (sampled : Bool) : MotorActualFrame ℚ :=
  { (default : MotorActualFrame ℚ) with
    sequence := sequence
    valid := fun _ => sampled
    actuals := fun _ => { (default : MotorActual ℚ) with statusWord := 0x0237 } }

theorem startup_ready_two :
    ∃ startup : Startup ℚ,
      Transition.run (Startup.step 2 [driveBinding]) (Startup.start default)
        [.publish (sampledFrame 1 true), .poll 1, .publish (sampledFrame 2 true)] =
          some startup ∧
      startup.Returns 2 [driveBinding] 2 ∧ startup.LastReady 2 [driveBinding] 2 := by
  have inBounds : ∀ binding ∈ [driveBinding], binding.globalIndex < MaxRealtimeMotors := by
    intro binding member
    rw [List.mem_singleton.mp member]
    decide
  obtain ⟨startup, ran, returns, evaluated⟩ : ∃ startup : Startup ℚ,
      Transition.run (Startup.step 2 [driveBinding]) (Startup.start default)
        [.publish (sampledFrame 1 true), .poll 1, .publish (sampledFrame 2 true)] =
          some startup ∧
      startup.Returns 2 [driveBinding] 2 ∧ startup.evaluated = [1] :=
    ⟨_, rfl, ⟨_, rfl, rfl⟩, rfl⟩
  refine ⟨startup, ran, returns, ?_⟩
  apply (startup_ready_iff inBounds rfl ran returns).mpr
  intro index before near skipped
  rw [evaluated, List.mem_singleton] at skipped
  omega

/-- With two frames required, one that is not ready is published and replaced between the
two polls that count. -/
theorem wait_skips_frame :
    ∃ startup : Startup ℚ,
      Transition.run (Startup.step 2 [driveBinding]) (Startup.start default)
        [.publish (sampledFrame 1 true), .poll 1, .publish (sampledFrame 2 false),
          .publish (sampledFrame 3 true)] = some startup ∧
      startup.Returns 2 [driveBinding] 3 ∧ ¬ startup.LastReady 2 [driveBinding] 3 := by
  obtain ⟨startup, ran, returns, skipped⟩ : ∃ startup : Startup ℚ,
      Transition.run (Startup.step 2 [driveBinding]) (Startup.start default)
        [.publish (sampledFrame 1 true), .poll 1, .publish (sampledFrame 2 false),
          .publish (sampledFrame 3 true)] = some startup ∧
      startup.Returns 2 [driveBinding] 3 ∧
      startup.channel.values[2]? = some (sampledFrame 2 false) :=
    ⟨_, rfl, ⟨_, rfl, rfl⟩, rfl⟩
  refine ⟨startup, ran, returns, ?_⟩
  intro all
  have ready := all.2 2 (by decide) (by decide) _ skipped driveBinding List.mem_cons_self
  exact absurd ready.1 Bool.false_ne_true

end RmdCanSdk
