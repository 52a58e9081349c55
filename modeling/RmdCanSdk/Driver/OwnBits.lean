import RmdCanSdk.Driver.GroupEntries

/-!
# Which CAN motors have a bit of their own

The feedback mask has a bit for each slave id from 0 to 63. The configuration does not
check that the slave ids of a group are such ids, nor that they differ.
-/

namespace RmdCanSdk

variable {F : Type}

/-! ## Bits -/

/-- Every motor of the group is expected, and no two of them by the same bit. -/
structure OwnBits (motors : List (RuntimeMotor F)) : Prop where
  expected : ∀ motor ∈ motors, (FeedbackFrameTracker.setExpectedFromSlaveIds
    (motors.map RuntimeMotor.slaveId)).mask.expects motor.slaveId = true
  different : motors.Pairwise fun left right =>
    MaskTracker.bitForSlaveId left.slaveId ≠ MaskTracker.bitForSlaveId right.slaveId

/-- The ids have bits, and they differ. -/
structure DistinctSlaveIds (motors : List (RuntimeMotor F)) : Prop where
  inMask : ∀ motor ∈ motors, 0 ≤ motor.slaveId ∧ motor.slaveId < 64
  distinct : (motors.map RuntimeMotor.slaveId).Nodup

theorem bitForSlaveId_injective {left right : Int} (inMask : 0 ≤ left ∧ left < 64)
    (same : MaskTracker.bitForSlaveId left = MaskTracker.bitForSlaveId right) : left = right := by
  have own := MaskTracker.holds_bitForSlaveId.mpr ⟨(rfl : left = left), inMask⟩
  rw [same] at own
  exact (MaskTracker.holds_bitForSlaveId.mp own).1

variable {motors : List (RuntimeMotor F)}

theorem expects_slaveId_iff {motor : RuntimeMotor F} (member : motor ∈ motors) :
    (FeedbackFrameTracker.setExpectedFromSlaveIds
      (motors.map RuntimeMotor.slaveId)).mask.expects motor.slaveId = true ↔
        0 ≤ motor.slaveId ∧ motor.slaveId < 64 := by
  apply MaskTracker.expects_setExpected.trans
  rw [and_iff_right (List.mem_map_of_mem member)]

theorem ownBits_iff : OwnBits motors ↔ DistinctSlaveIds motors := by
  constructor
  · intro bits
    refine ⟨fun motor member => (expects_slaveId_iff member).mp (bits.expected motor member), ?_⟩
    apply List.pairwise_map.mpr
    apply bits.different.imp
    intro left right different same
    exact different (congrArg MaskTracker.bitForSlaveId same)
  · intro ids
    refine ⟨fun motor member => (expects_slaveId_iff member).mpr (ids.inMask motor member), ?_⟩
    apply (List.pairwise_map.mp ids.distinct).imp_of_mem
    intro left right leftIn _ different same
    exact different (bitForSlaveId_injective (ids.inMask left leftIn) same)

/-! ## Replies -/

/-- What a tracker is told: that a motor has replied, or that the frame timed out. -/
inductive TrackerEvent (F : Type) where
  | reply (motor : RuntimeMotor F) (now : Time)
  | timeout

/-- A tracker with the motors that have replied since its mask was last cleared. -/
structure TrackerLog (F : Type) where
  tracker : FeedbackFrameTracker
  replied : List (RuntimeMotor F)

namespace TrackerLog

/-- The tracker of a group at the start. -/
def start (motors : List (RuntimeMotor F)) : TrackerLog F where
  tracker := FeedbackFrameTracker.setExpectedFromSlaveIds (motors.map RuntimeMotor.slaveId)
  replied := []

def step (log : TrackerLog F) : TrackerEvent F → TrackerLog F
  | .reply motor now =>
      match log.tracker.markReceived motor.slaveId now with
      | (true, tracker) => ⟨tracker, []⟩
      | (false, tracker) => ⟨tracker, motor :: log.replied⟩
  | .timeout => ⟨log.tracker.reset, []⟩

def run (motors : List (RuntimeMotor F)) (events : List (TrackerEvent F)) : TrackerLog F :=
  events.foldl step (start motors)

theorem run_append (motors : List (RuntimeMotor F)) (events : List (TrackerEvent F))
    (event : TrackerEvent F) : run motors (events ++ [event]) = (run motors events).step event :=
  List.foldl_append

/-- Only motors of the group reply. -/
def Within (motors : List (RuntimeMotor F)) (events : List (TrackerEvent F)) : Prop :=
  ∀ motor now, TrackerEvent.reply motor now ∈ events → motor ∈ motors

/-- A completed mask means that every motor has replied since it was last cleared. -/
def CompleteMeansAll (motors : List (RuntimeMotor F)) : Prop :=
  ∀ events, Within motors events → ∀ motor ∈ motors, ∀ now,
    ((run motors events).tracker.markReceived motor.slaveId now).1 = true →
      ∀ other ∈ motors, other = motor ∨ other ∈ (run motors events).replied

/-- The mask waits for all motors, and has received from no motor that has not replied. -/
structure Sound (motors : List (RuntimeMotor F)) (log : TrackerLog F) : Prop where
  expects : ∀ motor ∈ motors, log.tracker.mask.expects motor.slaveId = true
  replied : ∀ motor ∈ motors, log.tracker.isReceived motor.slaveId = true → motor ∈ log.replied

theorem Sound.start (ids : DistinctSlaveIds motors) : Sound motors (start motors) where
  expects motor member := (expects_slaveId_iff member).mpr (ids.inMask motor member)
  replied motor _ received := by
    have none : (TrackerLog.start motors).tracker.isReceived motor.slaveId = false :=
      MaskTracker.isReceived_setExpected _ _
    rw [none] at received
    contradiction

theorem Sound.step {log : TrackerLog F} (ids : DistinctSlaveIds motors)
    (sound : Sound motors log) {event : TrackerEvent F}
    (within : ∀ motor now, event = .reply motor now → motor ∈ motors) :
    Sound motors (log.step event) := by
  cases event with
  | timeout =>
      refine ⟨sound.expects, ?_⟩
      intro motor _ received
      have none : log.tracker.reset.isReceived motor.slaveId = false :=
        MaskTracker.isReceived_resetCurrent _ _
      rw [TrackerLog.step, none] at received
      contradiction
  | reply motor now =>
      have member := within motor now rfl
      have expected := sound.expects motor member
      have mask := FeedbackFrameTracker.markReceived_mask now expected
      have received : ∀ other : RuntimeMotor F,
          (log.tracker.mask.markReceived motor.slaveId).2.isReceived other.slaveId = true ↔
            (log.tracker.mask.markReceived motor.slaveId).1 = false ∧
              (other.slaveId = motor.slaveId ∨ log.tracker.mask.isReceived other.slaveId = true) :=
        fun _ => MaskTracker.isReceived_markReceived expected
      rw [TrackerLog.step]
      split
      next tracker marked =>
        rw [marked] at mask
        constructor
        · intro other inGroup
          rw [mask.2, MaskTracker.expects_markReceived]
          exact sound.expects other inGroup
        · intro other _ isReceived
          rw [FeedbackFrameTracker.isReceived, mask.2, received, ← mask.1] at isReceived
          cases isReceived.1
      next tracker marked =>
        rw [marked] at mask
        constructor
        · intro other inGroup
          rw [mask.2, MaskTracker.expects_markReceived]
          exact sound.expects other inGroup
        · intro other inGroup isReceived
          rw [FeedbackFrameTracker.isReceived, mask.2, received] at isReceived
          rcases isReceived.2 with same | earlier
          · have isMotor : other = motor :=
              List.inj_on_of_nodup_map ids.distinct inGroup member same
            exact isMotor ▸ List.mem_cons_self
          · exact List.mem_cons_of_mem _ (sound.replied other inGroup earlier)

theorem Sound.run {events : List (TrackerEvent F)} (ids : DistinctSlaveIds motors)
    (within : Within motors events) : Sound motors (run motors events) := by
  induction events using List.reverseRecOn with
  | nil => exact Sound.start ids
  | append_singleton events event ih =>
      have earlier := ih fun motor now member => within motor now (List.mem_append_left _ member)
      rw [run_append]
      apply earlier.step ids
      rintro motor now rfl
      exact within motor now (List.mem_append_right _ List.mem_cons_self)

theorem completeMeansAll (ids : DistinctSlaveIds motors) : CompleteMeansAll motors := by
  intro events within motor member now complete other inGroup
  have sound := Sound.run ids within
  have expected := sound.expects motor member
  rw [(FeedbackFrameTracker.markReceived_mask now expected).1,
    MaskTracker.markReceived_completes expected] at complete
  rcases complete other.slaveId (sound.expects other inGroup) with same | received
  · exact .inl (List.inj_on_of_nodup_map ids.distinct inGroup member same)
  · exact .inr (sound.replied other inGroup received)

/-! ## The receive loop -/

/-- A tracker that some replies of the motors and timeouts lead to. -/
def Reached (motors : List (RuntimeMotor F)) (tracker : FeedbackFrameTracker) : Prop :=
  ∃ events, Within motors events ∧ tracker = (run motors events).tracker

theorem Reached.extend {tracker : FeedbackFrameTracker} (reached : Reached motors tracker)
    (event : TrackerEvent F) (within : ∀ motor now, event = .reply motor now → motor ∈ motors) :
    ∃ log : TrackerLog F, tracker = log.tracker ∧ Reached motors (log.step event).tracker := by
  rcases reached with ⟨events, earlier, same⟩
  refine ⟨run motors events, same, events ++ [event], ?_, ?_⟩
  · intro motor now member
    rcases List.mem_append.mp member with before | last
    · exact earlier motor now before
    · exact within motor now (List.mem_singleton.mp last).symm
  · rw [run_append]

theorem Reached.reply {tracker : FeedbackFrameTracker} (reached : Reached motors tracker)
    {motor : RuntimeMotor F} (member : motor ∈ motors) (now : Time) :
    Reached motors (tracker.markReceived motor.slaveId now).2 := by
  have within : ∀ other moment, TrackerEvent.reply motor now = .reply other moment → other ∈ motors := by
    rintro other moment same
    cases same
    exact member
  rcases reached.extend _ within with ⟨log, rfl, next⟩
  rw [TrackerLog.step] at next
  split at next
  next marked => rwa [marked]
  next marked => rwa [marked]

theorem Reached.timeout {tracker : FeedbackFrameTracker} (reached : Reached motors tracker) :
    Reached motors tracker.reset := by
  rcases reached.extend .timeout (fun _ _ impossible => by contradiction) with ⟨log, rfl, next⟩
  exact next

variable [FloatArith F] {group : CanGroup F} {backend : RmdCanBackend F}

theorem Reached.receiveFor {motor : RuntimeMotor F} (member : motor ∈ group.motors)
    (frame : CanFrame) (now : Time) (reached : Reached group.motors backend.mitFrame) :
    Reached group.motors (backend.receiveFor frame now motor).mitFrame := by
  rw [RmdCanBackend.receiveFor]
  split
  next =>
    dsimp only
    split
    next =>
      have replied := reached.reply member now
      rw [RmdCanBackend.acceptReply]
      dsimp only
      split
      next => exact replied
      next => exact replied
    next => exact reached
  next =>
    split
    next =>
      dsimp only
      split
      next => exact reached
      next => exact reached
    next => exact reached

/-- The receive loop tells the tracker of replies of its motors and of timeouts only. -/
theorem reached_rxLoop (group : CanGroup F) (totalMotorCount : Nat)
    (actualBuffer : LatestValue (MotorActualFrame F)) (events : List RxEvent) :
    Reached group.motors
      ((RmdCanBackend.construct group totalMotorCount actualBuffer).rxLoop group events).mitFrame := by
  induction events using List.reverseRecOn with
  | nil => exact ⟨[], fun _ _ member => by contradiction, rfl⟩
  | append_singleton events event ih =>
      rw [RmdCanBackend.rxLoop_append, RmdCanBackend.rxLoop_singleton, RmdCanBackend.rxStep]
      split
      next =>
        have unchanged : ∀ (backend : RmdCanBackend F) (now : Time),
            (backend.receiveTimeout group now).mitFrame = backend.mitFrame.reset := fun _ _ => rfl
        rw [unchanged]
        exact ih.timeout
      next =>
        split
        next => exact ih
        next frame _ =>
          generalize RmdCanBackend.rxLoop group _ events = backend at ih ⊢
          have offered : ∀ offered : List (RuntimeMotor F), (∀ motor ∈ offered, motor ∈ group.motors) →
              ∀ backend : RmdCanBackend F, Reached group.motors backend.mitFrame →
                Reached group.motors
                  (offered.foldl (RmdCanBackend.receiveFor frame event.now) backend).mitFrame := by
            intro offered
            induction offered with
            | nil => exact fun _ _ reached => reached
            | cons motor rest ihRest =>
                intro members backend reached
                apply ihRest fun other member => members other (List.mem_cons_of_mem _ member)
                exact reached.receiveFor (members motor List.mem_cons_self) frame event.now
          exact offered group.motors (fun _ member => member) backend ih

end TrackerLog

/-! ## Documents -/

/-- The slave ids of the entries that decide the motors of a group have bits and differ. -/
structure EntryIdsDistinct (scanf : Scanf F) (root : XMLElement) (group : BackendGroup) : Prop where
  inMask : ∀ entry, GroupEntry scanf root group entry →
    0 ≤ entry.slaveId scanf ∧ entry.slaveId scanf < 64
  distinct : ∀ left right, GroupEntry scanf root group left → GroupEntry scanf root group right →
    left.slaveId scanf = right.slaveId scanf → left = right

variable [FloatArith F] {scanf : Scanf F} {root : XMLElement}
variable {motorParameters : MotorParameterMap F} {registry : MotorRegistry F}
variable {group : BackendGroup}

omit [FloatArith F] in
theorem Registered.distinctSlaveIds_iff
    (registered : Registered scanf root motorParameters registry)
    (own : group ∈ registry.backends) (can : group.bus = .can) :
    DistinctSlaveIds (registry.groupMotors group) ↔ EntryIdsDistinct scanf root group := by
  have slaveId : ∀ (entry : Entry) (motor : RuntimeMotor F), GroupEntry scanf root group entry →
      entry.Places scanf motorParameters motor.configured →
        motor.slaveId = entry.slaveId scanf ∧ motor.alias = entry.alias scanf :=
    fun entry motor isEntry places =>
      ⟨places.settings.slaveId (isEntry.bus.trans can), places.settings.numbered⟩
  constructor
  · intro ids
    constructor
    · intro entry isEntry
      rcases registered.ofEntry group own entry isEntry with ⟨motor, member, places⟩
      rw [← (slaveId entry motor isEntry places).1]
      exact ids.inMask motor member
    · intro left right isLeft isRight same
      rcases registered.ofEntry group own left isLeft with ⟨motor, member, places⟩
      rcases registered.ofEntry group own right isRight with ⟨other, otherMember, otherPlaces⟩
      rcases slaveId left motor isLeft places with ⟨leftId, leftAlias⟩
      rcases slaveId right other isRight otherPlaces with ⟨rightId, rightAlias⟩
      rw [← leftId, ← rightId] at same
      cases List.inj_on_of_nodup_map ids.distinct member otherMember same
      have sameEntry := isLeft.decides
      rw [Decides, ← leftAlias, rightAlias, isRight.decides] at sameEntry
      exact (Option.some.inj sameEntry).symm
  · intro ids
    constructor
    · intro motor member
      rcases registered.ofMotor group own motor member with ⟨entry, isEntry, places⟩
      rw [(slaveId entry motor isEntry places).1]
      exact ids.inMask entry isEntry
    · apply (List.Nodup.of_map _ (registered.wellFormed.nodup_groupMotors own)).map_on
      intro left leftIn right rightIn same
      rcases registered.ofMotor group own left leftIn with ⟨entry, isEntry, places⟩
      rcases registered.ofMotor group own right rightIn with ⟨other, isOther, otherPlaces⟩
      rcases slaveId entry left isEntry places with ⟨leftId, leftAlias⟩
      rcases slaveId other right isOther otherPlaces with ⟨rightId, rightAlias⟩
      cases ids.distinct entry other isEntry isOther (leftId.symm.trans (same.trans rightId))
      exact List.inj_on_of_nodup_map registered.wellFormed.aliases
        (mem_of_mem_groupMotors leftIn) (mem_of_mem_groupMotors rightIn)
        (leftAlias.trans rightAlias.symm)

/-- The motors of a CAN group have bits of their own, and a completed mask means that all of
them have replied, exactly if the slave ids that the document gives them are ids from 0 to
63 that differ. -/
theorem own_bits_iff {path : String} {file : Except String (List XMLElement)}
    {config : LoadedConfig F} (loaded : loadConfig scanf path file = .ok config) :
    ∃ root registry, configRoot file = some root ∧
      MotorRegistry.fromConfig config.toConfig = .ok registry ∧
      ∀ group ∈ registry.backends, group.bus = .can →
        (OwnBits (registry.groupMotors group) ∧
            TrackerLog.CompleteMeansAll (registry.groupMotors group) ↔
          EntryIdsDistinct scanf root group) := by
  rcases loadConfig_ok loaded with ⟨root, motorParameters, isRoot, loads⟩
  have configured := loads.configuredBy
  rcases MotorRegistry.fromConfig_total configured.inRange with ⟨registry, created⟩
  refine ⟨root, registry, isRoot, created, ?_⟩
  intro group own can
  rw [← (configured.registered created).distinctSlaveIds_iff own can, ownBits_iff]
  exact and_iff_left_of_imp TrackerLog.completeMeansAll

/-! ## Ids without bits -/

/-- The only group of a document with CAN motors. -/
def canDocumentGroup (motorIndexes : List Nat) : BackendGroup where
  bus := .can
  master := 0
  motorIndexes := motorIndexes

theorem own_bits_two :
    ∃ (config : LoadedConfig ℚ) (registry : MotorRegistry ℚ),
      loadConfig plainScanf "" (.ok [canDocument ["1", "2"]]) = .ok config ∧
      MotorRegistry.fromConfig config.toConfig = .ok registry ∧
      registry.backends = [canDocumentGroup [0, 1]] ∧
      OwnBits (registry.groupMotors (canDocumentGroup [0, 1])) ∧
      TrackerLog.CompleteMeansAll (registry.groupMotors (canDocumentGroup [0, 1])) := by
  obtain ⟨config, registry, loaded, created, groups⟩ : ∃ config registry,
      loadConfig plainScanf "" (.ok [canDocument ["1", "2"]]) = .ok config ∧
      MotorRegistry.fromConfig config.toConfig = .ok registry ∧
      registry.backends = [canDocumentGroup [0, 1]] := ⟨_, _, rfl, rfl, rfl⟩
  rcases own_bits_iff loaded with ⟨root, registry', isRoot, created', bits⟩
  cases created.symm.trans created'
  have own : canDocumentGroup [0, 1] ∈ registry.backends := by
    rw [groups]
    exact List.mem_singleton_self _
  refine ⟨config, registry, loaded, created, groups, (bits _ own rfl).mpr ?_⟩
  cases isRoot
  let slave (number : String) : Entry :=
    ⟨.canSlave, enabledSlave [("alias", number), ("slave_id", number), ("type", "RMD")]⟩
  have placed : placements plainScanf (canDocument ["1", "2"]) = [slave "1", slave "2"] := rfl
  have either : ∀ entry, GroupEntry plainScanf (canDocument ["1", "2"]) (canDocumentGroup [0, 1])
      entry → entry = slave "1" ∨ entry = slave "2" := by
    intro entry isEntry
    have member := (of_lastFor isEntry.decides).1
    rw [placed] at member
    simpa using member
  have first : (slave "1").slaveId plainScanf = 1 := by decide
  have second : (slave "2").slaveId plainScanf = 2 := by decide
  constructor
  · intro entry isEntry
    rcases either entry isEntry with rfl | rfl
    · rw [first]
      decide
    · rw [second]
      decide
  · intro left right isLeft isRight same
    rcases either left isLeft with rfl | rfl <;> rcases either right isRight with rfl | rfl
    · rfl
    · rw [first, second] at same
      contradiction
    · rw [first, second] at same
      contradiction
    · rfl

/-- The second motor has the slave id 64, and a reply of the first one completes the mask. -/
theorem complete_without_second_motor :
    ∃ (config : LoadedConfig ℚ) (registry : MotorRegistry ℚ) (first second : RuntimeMotor ℚ),
      loadConfig plainScanf "" (.ok [canDocument ["1", "64"]]) = .ok config ∧
      MotorRegistry.fromConfig config.toConfig = .ok registry ∧
      registry.backends = [canDocumentGroup [0, 1]] ∧
      registry.groupMotors (canDocumentGroup [0, 1]) = [first, second] ∧
      MaskTracker.bitForSlaveId second.slaveId = 0#64 ∧
      ¬ OwnBits [first, second] ∧ ¬ TrackerLog.CompleteMeansAll [first, second] := by
  obtain ⟨config, registry, first, second, loaded, created, groups, motors, firstId, secondId⟩ :
      ∃ (config : LoadedConfig ℚ) (registry : MotorRegistry ℚ) (first second : RuntimeMotor ℚ),
        loadConfig plainScanf "" (.ok [canDocument ["1", "64"]]) = .ok config ∧
        MotorRegistry.fromConfig config.toConfig = .ok registry ∧
        registry.backends = [canDocumentGroup [0, 1]] ∧
        registry.groupMotors (canDocumentGroup [0, 1]) = [first, second] ∧
        first.slaveId = 1 ∧ second.slaveId = 64 := ⟨_, _, _, _, rfl, rfl, rfl, rfl, rfl, rfl⟩
  refine ⟨config, registry, first, second, loaded, created, groups, motors, ?_, ?_, ?_⟩
  · rw [secondId]
    decide
  · intro bits
    have inMask := (ownBits_iff.mp bits).inMask second (by simp)
    rw [secondId] at inMask
    omega
  · intro all
    have complete : ((TrackerLog.run [first, second] []).tracker.markReceived
        first.slaveId 0).1 = true := by
      rw [TrackerLog.run, List.foldl_nil, TrackerLog.start, List.map_cons, List.map_cons,
        List.map_nil, firstId, secondId]
      decide
    have none : (TrackerLog.run [first, second] []).replied = [] := rfl
    rcases all [] (fun _ _ member => by contradiction) first (by simp) 0 complete second
      (by simp) with same | heard
    · rw [same, firstId] at secondId
      contradiction
    · rw [none] at heard
      contradiction

end RmdCanSdk
