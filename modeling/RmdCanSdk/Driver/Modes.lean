import RmdCanSdk.Driver.Targets
import RmdCanSdk.Ethercat.RealtimeLoop

/-!
# Operating modes in the process data

The frozen mode of a motor selects the layout of its RxPDO when the backend starts, and
reaches the Mode field with every frame of `setMotorTarget`. The frame that is in the
buffer before the first one has no mode in its bytes.
-/

namespace RmdCanSdk

variable {F : Type} [FloatArith F]

/-! ## The Mode field -/

/-- The position of the Mode field in a layout. -/
def modeOffset : EthercatMtDeviceRxProfile → Nat
  | .standard => 14
  | .pvt => 20

omit [FloatArith F] in
theorem mode_writtenRx (targets : EthercatPackedTargetFrame) (actuals : MotorActualFrame F)
    (binding : EthercatPdoBinding F) :
    (writtenRx targets actuals binding).1.read8 (modeOffset binding.rxProfile) =
      (packedTarget targets binding).rxBytes.read8 (modeOffset binding.rxProfile) := by
  simp only [writtenRx]
  cases binding.rxProfile with
  | standard => rfl
  | pvt => rfl

theorem mode_packed (target : MotorTarget F) (params : MotorParameters F)
    (rxProfile : EthercatMtDeviceRxProfile) :
    (packEthercatTargetForRealtime target params rxProfile).rxBytes.read8 (modeOffset rxProfile) =
      BitVec.ofInt 8 target.mode := by
  cases rxProfile with
  | standard => rfl
  | pvt => rfl

omit [FloatArith F] in
/-- The field fits into the RxPDO. -/
theorem modeOffset_lt (targets : EthercatPackedTargetFrame) (actuals : MotorActualFrame F)
    (binding : EthercatPdoBinding F) :
    modeOffset binding.rxProfile < (writtenRx targets actuals binding).2 := by
  simp only [writtenRx]
  cases binding.rxProfile with
  | standard => exact Nat.lt_succ_of_lt (Nat.lt_succ_self 14)
  | pvt => exact Nat.lt_succ_of_lt (Nat.lt_succ_self 20)

/-- What the writer has just written for a binding: its RxPDO is laid out for the mode
and carries the mode. -/
structure CarriesMode (mode : Int) (input : CycleInput) (next : RmdEthercatRuntime F)
    (domain : EthercatDomainRuntime F) (front : List (EthercatPdoBinding F))
    (binding : EthercatPdoBinding F) : Prop where
  layout : binding.rxProfile = ethercatMtDeviceRxProfileForMode mode
  mode : (writeEthercatDomainSnapshot (input.domainData domain.domainId) domain.size
    (front ++ [binding]) next.targets next.workingActuals).read8
      (binding.rxOffset.toNat + modeOffset (ethercatMtDeviceRxProfileForMode mode)) =
        BitVec.ofInt 8 mode

omit [FloatArith F] in
/-- With the right layout the image carries the mode when the packed target does. -/
theorem carriesMode_iff {mode : Int} {input : CycleInput} {next : RmdEthercatRuntime F}
    {domain : EthercatDomainRuntime F} {front : List (EthercatPdoBinding F)}
    {binding : EthercatPdoBinding F} (written : isWritten domain.size binding = true)
    (layout : binding.rxProfile = ethercatMtDeviceRxProfileForMode mode) :
    CarriesMode mode input next domain front binding ↔
      (packedTarget next.targets binding).rxBytes.read8 (modeOffset binding.rxProfile) =
        BitVec.ofInt 8 mode := by
  have field : (writeEthercatDomainSnapshot (input.domainData domain.domainId) domain.size
      (front ++ [binding]) next.targets next.workingActuals).read8
        (binding.rxOffset.toNat + modeOffset binding.rxProfile) =
      (packedTarget next.targets binding).rxBytes.read8 (modeOffset binding.rxProfile) := by
    have small := modeOffset_lt next.targets next.workingActuals binding
    rw [← mode_writtenRx next.targets next.workingActuals, writeEthercatDomainSnapshot,
      List.foldl_append, List.foldl_cons, List.foldl_nil, writeBinding, if_pos written]
    apply (Bytes.memcpy_inside (Nat.le_add_right _ _) (Nat.add_lt_add_left small _)).trans
    rw [Nat.add_sub_cancel_left]
    rfl
  rw [← field, layout]
  constructor
  · intro carries
    exact carries.mode
  · intro mode
    exact ⟨layout, mode⟩

/-! ## The layout selected at the start -/

section

variable {registry : MotorRegistry F} {backendIndex : Nat} {operatingModes : List Int}
variable {register : EthercatPdoBinding F → Option (Nat × Nat)} {domainSize : Int → Nat}
variable {domains : List (EthercatDomainRuntime F)}

/-- The layout of a binding is the one for the frozen mode of its motor. -/
def LaidOut (operatingModes : List Int) (binding : EthercatPdoBinding F) : Prop :=
  ∃ mode, operatingModes[binding.globalIndex]? = some mode ∧
    binding.rxProfile = ethercatMtDeviceRxProfileForMode mode

omit [FloatArith F] in
theorem laidOut_assignProfile {binding assigned : EthercatPdoBinding F}
    (ok : assignProfile operatingModes binding = .ok assigned)
    (device : isEthercatMtDeviceType assigned.type = true) : LaidOut operatingModes assigned := by
  simp only [assignProfile] at ok
  split at ok
  next =>
    split at ok
    next => contradiction
    next mode configured =>
      cases ok
      exact ⟨mode, configured, rfl⟩
  next other =>
    cases ok
    exact absurd device other

omit [FloatArith F] in
/-- Only bindings of MT devices are configured, and keep their layout. -/
theorem configureMtDevicePdos_ok {binding configured : EthercatPdoBinding F}
    (ok : configureMtDevicePdos register binding = .ok configured) :
    isEthercatMtDeviceType binding.type = true ∧ configured.globalIndex = binding.globalIndex ∧
      configured.rxProfile = binding.rxProfile := by
  simp only [configureMtDevicePdos] at ok
  split at ok
  next device =>
    rcases bind_eq_ok ok with ⟨slave, -, ok⟩
    split at ok
    next => contradiction
    next =>
      cases ok
      exact ⟨device, rfl, rfl⟩
  next => contradiction

omit [FloatArith F] in
theorem laidOut_startDomains
    (ok : startDomains registry backendIndex operatingModes register domainSize = .ok domains)
    {domain : EthercatDomainRuntime F} (member : domain ∈ domains)
    {binding : EthercatPdoBinding F} (bound : binding ∈ domain.bindings) :
    LaidOut operatingModes binding := by
  rcases bind_eq_ok ok with ⟨built, -, profiled⟩
  rcases bind_eq_ok profiled with ⟨assigned, assigns, configured⟩
  rcases mem_mapM configured member with ⟨created, inCreated, configures⟩
  rcases bind_eq_ok configures with ⟨bindings, converts, result⟩
  cases result
  rcases mem_mapM converts bound with ⟨before, inBefore, ok⟩
  rcases configureMtDevicePdos_ok ok with ⟨device, index, profile⟩
  have listed : before ∈ assigned := (flatMap_createDomains assigned).mem_iff.mp
    (List.mem_flatMap.mpr ⟨created, inCreated, inBefore⟩)
  rcases mem_mapM assigns listed with ⟨original, -, assign⟩
  rcases laidOut_assignProfile assign device with ⟨mode, frozen, layout⟩
  exact ⟨mode, index ▸ frozen, profile.trans layout⟩

end

/-! ## Runs of the loop with `setMotorTarget` -/

inductive CommandEvent (F : Type) where
  | setMotorTarget (metadata : FrameMetadata) (data : List (MotorTargetStruct F))
  | cycle (input : CycleInput)

/-- The loop, with the frames that calls of `setMotorTarget` publish. A vector of the
wrong size is refused. -/
def commandStep (registry : MotorRegistry F) (operatingModes : List Int)
    (maxCurrents : List (BitVec 16)) (runtime : RmdEthercatRuntime F) :
    CommandEvent F → Option (RmdEthercatRuntime F)
  | .setMotorTarget metadata data =>
      if (data.length : Int) ≠ registry.totalMotorCount then some runtime
      else (targetFrames registry.motors operatingModes maxCurrents metadata data).bind
        fun frames => runtime.step (.setMotorTarget frames.ethercat)
  | .cycle input => runtime.step (.cycle input)

/-- The frames in the target buffer: the initial one, then those of `setMotorTarget`. -/
structure Commanded (registry : MotorRegistry F) (operatingModes : List Int)
    (maxCurrents : List (BitVec 16)) (domains : EthercatDomains F) (totalMotorCount : Nat)
    (runtime : RmdEthercatRuntime F) : Prop where
  domains : runtime.domains = domains
  initial : runtime.targetFrames.head? = some (initialEthercatTargets totalMotorCount)
  commanded : ∀ frame ∈ runtime.targetFrames.tail, ∃ metadata data frames,
    targetFrames registry.motors operatingModes maxCurrents metadata data = some frames ∧
      frame = frames.ethercat

variable {registry : MotorRegistry F} {operatingModes : List Int}
variable {maxCurrents : List (BitVec 16)} {domains : EthercatDomains F} {totalMotorCount : Nat}
variable {runtime next : RmdEthercatRuntime F} {input : CycleInput}
variable {events : List (CommandEvent F)} {commandTimeout epoch : Time}
variable {actualBuffer : LatestValue (MotorActualFrame F)}

theorem Commanded.step {event : CommandEvent F}
    (before : Commanded registry operatingModes maxCurrents domains totalMotorCount runtime)
    (stepped : commandStep registry operatingModes maxCurrents runtime event = some next) :
    Commanded registry operatingModes maxCurrents domains totalMotorCount next := by
  cases event with
  | cycle input =>
      rcases RmdEthercatRuntime.step_cycle stepped with ⟨-, frame, -, rfl⟩
      exact ⟨before.domains, before.initial, before.commanded⟩
  | setMotorTarget metadata data =>
      simp only [commandStep] at stepped
      split at stepped
      next =>
        cases stepped
        exact before
      next =>
        rcases Option.bind_eq_some_iff.mp stepped with ⟨frames, published, stepped⟩
        rcases RmdEthercatRuntime.step_setMotorTarget stepped with ⟨-, -, rfl⟩
        have nonempty : runtime.targetFrames ≠ [] := by
          intro empty
          have initial := before.initial
          rw [empty] at initial
          contradiction
        refine ⟨before.domains, ?_, ?_⟩
        · exact (List.head?_append_of_ne_nil _ nonempty).trans before.initial
        · intro frame member
          dsimp only at member
          rw [List.tail_append_of_ne_nil nonempty] at member
          rcases List.mem_append.mp member with earlier | new
          · exact before.commanded frame earlier
          · exact ⟨metadata, data, frames, published, List.mem_singleton.mp new⟩

theorem run_commanded
    (ran : Transition.run (commandStep registry operatingModes maxCurrents)
      (.started domains totalMotorCount commandTimeout actualBuffer epoch) events =
        some runtime) :
    Commanded registry operatingModes maxCurrents domains totalMotorCount runtime := by
  refine Transition.run_invariant
    (Commanded registry operatingModes maxCurrents domains totalMotorCount) ?_ ran ?_
  · intro runtime next event stepped before
    exact before.step stepped
  · refine ⟨rfl, rfl, ?_⟩
    intro frame member
    contradiction

/-! ## Every cycle -/

omit [FloatArith F] in
/-- The watchdog does not touch the bytes the writer uses. -/
theorem rxBytes_packedTarget_watchdog (frame : EthercatPackedTargetFrame) (now timeout : Time)
    (binding : EthercatPdoBinding F) :
    (packedTarget (applyEthercatCommandWatchdog frame now timeout).1 binding).rxBytes =
      (packedTarget frame binding).rxBytes := by
  simp only [packedTarget, watchdog_valid]
  split
  · exact watchdog_rxBytes _ _ _ _
  · rfl

/-- A frame of `setMotorTarget` carries the frozen mode of every EtherCAT motor. -/
theorem mode_targetFrames (wellFormed : registry.WellFormed) {motor : RuntimeMotor F}
    (member : motor ∈ registry.motors) (ethercat : motor.bus = .ethercat) {mode : Int}
    (frozen : operatingModes[motor.globalIndex]? = some mode) {metadata : FrameMetadata}
    {data : List (MotorTargetStruct F)} {frames : TargetFrames F}
    (published : targetFrames registry.motors operatingModes maxCurrents metadata data =
      some frames) {binding : EthercatPdoBinding F}
    (bound : binding.globalIndex = motor.globalIndex) :
    (packedTarget frames.ethercat binding).rxBytes.read8
      (modeOffset (ethercatMtDeviceRxProfileForMode mode)) = BitVec.ofInt 8 mode := by
  rcases targetFrames_converted wellFormed.nodup_globalIndex member published with
    ⟨item, -, converted⟩
  rcases converted.ethercat ethercat with ⟨valid, mode', maxCurrent, frozen', -, packed⟩
  cases frozen.symm.trans frozen'
  rw [packedTarget, bound, valid, if_pos rfl, packed]
  exact mode_packed _ _ _

variable {config : Config F} {group : BackendGroup} {backendIndex : Nat}
variable {register : EthercatPdoBinding F → Option (Nat × Nat)} {domainSize : Int → Nat}
variable {started : List (EthercatDomainRuntime F)}

omit [FloatArith F] in
/-- The motor of a binding. -/
theorem motor_of_binding (wellFormed : registry.WellFormed)
    (own : registry.backends[backendIndex]? = some group) (ethercat : group.bus = .ethercat)
    (ok : startDomains registry backendIndex operatingModes register domainSize = .ok started)
    {domain : EthercatDomainRuntime F} (member : domain ∈ started)
    {binding : EthercatPdoBinding F} (bound : binding ∈ domain.bindings) :
    ∃ motor ∈ registry.motors, motor.bus = .ethercat ∧
      binding.globalIndex = motor.globalIndex := by
  have listed := List.mem_map_of_mem (f := EthercatPdoBinding.globalIndex)
    (List.mem_flatMap.mpr ⟨domain, member, bound⟩)
  rw [(startDomains_indices own ethercat ok).1.mem_iff] at listed
  rcases List.mem_map.mp listed with ⟨motor, inGroup, same⟩
  rcases List.mem_filterMap.mp inGroup with ⟨index, inIndexes, selected⟩
  rcases wellFormed.placed group (List.mem_of_getElem? own) index inIndexes with
    ⟨placed, selected', bus, -⟩
  cases selected.symm.trans selected'
  exact ⟨motor, List.mem_of_getElem? selected, bus.trans ethercat, same.symm⟩

/-- In every cycle of every run the RxPDO of a bound motor has the layout of its frozen
mode, and it carries the mode exactly when the cycle reads a frame of `setMotorTarget`
or the mode is the one of zero bytes. -/
theorem mode_in_rxPdo_iff (loaded : MotorRegistry.fromConfig config = .ok registry)
    (own : registry.backends[backendIndex]? = some group) (ethercat : group.bus = .ethercat)
    (inBounds : ∀ motor ∈ registry.groupMotors group, motor.globalIndex < MaxRealtimeMotors)
    (ok : startDomains registry backendIndex operatingModes register domainSize = .ok started)
    (events : List (CommandEvent F))
    (ran : Transition.run (commandStep registry operatingModes maxCurrents)
      (.started (.ofStart (MotorRegistry.fromConfig_wellFormed loaded) inBounds own ethercat ok)
        totalMotorCount commandTimeout actualBuffer epoch) events = some runtime)
    (stepped : commandStep registry operatingModes maxCurrents runtime (.cycle input) = some next)
    {domain : EthercatDomainRuntime F} (member : domain ∈ started)
    {front back : List (EthercatPdoBinding F)} {binding : EthercatPdoBinding F}
    (bindings : domain.bindings = front ++ binding :: back)
    (written : isWritten domain.size binding = true) :
    ∃ mode, operatingModes[binding.globalIndex]? = some mode ∧
      binding.rxProfile = ethercatMtDeviceRxProfileForMode mode ∧
      (CarriesMode mode input next domain front binding ↔
        input.read ≠ 0 ∨ BitVec.ofInt 8 mode = 0) := by
  have wellFormed := MotorRegistry.fromConfig_wellFormed loaded
  have bound : binding ∈ domain.bindings := by
    rw [bindings]
    exact List.mem_append_cons_self
  rcases laidOut_startDomains ok member bound with ⟨mode, frozen, layout⟩
  rcases motor_of_binding wellFormed own ethercat ok member bound with
    ⟨motor, inRegistry, isEthercat, index⟩
  have commanded := run_commanded ran
  rcases RmdEthercatRuntime.step_cycle stepped with ⟨-, frame, yielded, rfl⟩
  refine ⟨mode, frozen, layout, ?_⟩
  rw [carriesMode_iff written layout]
  have bytes : (packedTarget (runtime.cycle input frame).targets binding).rxBytes =
      (packedTarget frame binding).rxBytes :=
    rxBytes_packedTarget_watchdog frame input.commandNow runtime.commandTimeout binding
  rw [bytes]
  cases position : input.read with
  | zero =>
      rw [position] at yielded
      rw [← List.head?_eq_getElem?, commanded.initial] at yielded
      cases yielded
      have blank : (packedTarget (initialEthercatTargets totalMotorCount) binding).rxBytes.read8
          (modeOffset binding.rxProfile) = 0 := rfl
      rw [blank]
      constructor
      · intro mode
        exact .inr mode.symm
      · intro condition
        exact (condition.resolve_left (fun nonzero => nonzero rfl)).symm
  | succ later =>
      rw [position] at yielded
      have inTail : frame ∈ runtime.targetFrames.tail := by
        apply List.mem_of_getElem?
        rw [List.getElem?_tail]
        exact yielded
      rcases commanded.commanded frame inTail with ⟨metadata, data, frames, published, rfl⟩
      rw [layout]
      exact iff_of_true (mode_targetFrames wellFormed inRegistry isEthercat (index ▸ frozen)
        published index) (.inl (Nat.succ_ne_zero later))

/-! ## One drive in mode 8 -/

def oneDriveConfig : Config ℚ where
  totalMotorCount := 1
  motors := MotorTable.empty.upsertMotor {
    «alias» := 1
    master := 0
    motorId := 1
    slaveId := 0
    ethercatSlave := 0
    domain := 0
    bus := .ethercat
    type := "MT_Device"
    parameters := default }

/-- The domain of the drive, which the master registers at the start of its image. -/
def startOneDrive (registry : MotorRegistry ℚ) : Except String (List (EthercatDomainRuntime ℚ)) :=
  startDomains registry 0 [8] (fun _ => some (0, 16)) fun _ => 38

/-- The loop that runs on it. -/
def loopOneDrive : RmdEthercatRuntime ℚ := .started oneDrive 1 100 (.start default) 50

/-- A cycle before the first call writes mode 0, not mode 8. -/
theorem mode_missing_before_command : ∃ registry next,
    MotorRegistry.fromConfig oneDriveConfig = .ok registry ∧
      startOneDrive registry = .ok oneDrive.domains ∧
      commandStep registry [8] [1000] loopOneDrive (.cycle (readyCycle 60 0)) = some next ∧
      ¬ CarriesMode 8 (readyCycle 60 0) next driveDomain [] driveBinding := by
  refine ⟨_, _, rfl, rfl, rfl, ?_⟩
  intro carries
  have mode := carries.mode
  revert mode
  decide +kernel

def restTarget : MotorTargetStruct ℚ where
  pos := 0
  vel := 0
  tor := 0
  kp := 0
  kd := 0
  enabled := 0

/-- The first cycle that reads a command writes mode 8. -/
theorem mode_in_rxPdo_command : ∃ registry runtime next,
    MotorRegistry.fromConfig oneDriveConfig = .ok registry ∧
      Transition.run (commandStep registry [8] [1000]) loopOneDrive
        [.setMotorTarget ⟨1, 55, 1⟩ [restTarget]] = some runtime ∧
      commandStep registry [8] [1000] runtime (.cycle (readyCycle 60 1)) = some next ∧
      CarriesMode 8 (readyCycle 60 1) next driveDomain [] driveBinding := by
  obtain ⟨registry, group, runtime, next, loaded, own, ethercat, inBounds, ok, ran, stepped⟩ :
      ∃ registry group runtime next, MotorRegistry.fromConfig oneDriveConfig = .ok registry ∧
        registry.backends[0]? = some group ∧ group.bus = .ethercat ∧
        (∀ motor ∈ registry.groupMotors group, motor.globalIndex < MaxRealtimeMotors) ∧
        startOneDrive registry = .ok oneDrive.domains ∧
        Transition.run (commandStep registry [8] [1000]) loopOneDrive
          [.setMotorTarget ⟨1, 55, 1⟩ [restTarget]] = some runtime ∧
        commandStep registry [8] [1000] runtime (.cycle (readyCycle 60 1)) = some next := by
    refine ⟨_, _, _, _, rfl, rfl, rfl, ?_, rfl, rfl, rfl⟩
    intro motor member
    cases List.mem_singleton.mp member
    decide
  refine ⟨registry, runtime, next, loaded, ran, stepped, ?_⟩
  have bindings : driveDomain.bindings = [] ++ driveBinding :: [] := rfl
  rcases mode_in_rxPdo_iff loaded own ethercat inBounds ok _ ran stepped
    (List.mem_singleton_self _) bindings (by decide) with ⟨mode, frozen, -, carries⟩
  cases frozen
  exact carries.mpr (.inl Nat.one_ne_zero)

end RmdCanSdk
