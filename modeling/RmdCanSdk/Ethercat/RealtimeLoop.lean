import RmdCanSdk.Ethercat.Bindings
import RmdCanSdk.Library.LatestValue

/-!
# The EtherCAT realtime loop

The loop of one EtherCAT master as a transition system. The outside chooses, cycle
by cycle, what every domain's image holds after it was processed and whether its
working counter is complete, which frame the target buffer yields, and when the
cycle runs. Between cycles `setMotorTarget` may publish frames.
-/

namespace RmdCanSdk

variable {F : Type} [FloatArith F]

/-- What one cycle finds: the two readings of the clock, the image and the working
counter of each domain, and the position of the frame read from the target buffer. -/
structure CycleInput where
  now : Time
  commandNow : Time
  domainData : Int → Bytes
  complete : Int → Bool
  read : Nat

inductive RealtimeEvent where
  | setMotorTarget (frame : EthercatPackedTargetFrame)
  | cycle (input : CycleInput)

/-- The state of the loop, with every frame its target buffer has held, the initial
one first, and the last readings of the clock on both sides. -/
structure RmdEthercatRuntime (F : Type) where
  domains : EthercatDomains F
  totalMotorCount : Nat
  commandTimeout : Time
  targetFrames : List EthercatPackedTargetFrame
  targets : EthercatPackedTargetFrame
  workingActuals : MotorActualFrame F
  actualBuffer : LatestValue (MotorActualFrame F)
  images : Int → Bytes
  status : BackendStatus
  clock : Time
  stamped : Time

/-! ## One cycle -/

namespace CycleInput

omit [FloatArith F] in
/-- The image and size the reader is called with. -/
def snapshot (input : CycleInput) (domain : EthercatDomainRuntime F) : Option Bytes × Nat :=
  if input.complete domain.domainId then (some (input.domainData domain.domainId), domain.size)
  else (none, 0)

/-- What the cycle decodes for a binding, if its domain is complete and readable. -/
def feedback (input : CycleInput) (domain : EthercatDomainRuntime F)
    (binding : EthercatPdoBinding F) : Option (MotorActual F) :=
  binding.sample (input.snapshot domain).1 (input.snapshot domain).2

theorem feedback_eq_some {input : CycleInput} {domain : EthercatDomainRuntime F}
    {binding : EthercatPdoBinding F} {actual : MotorActual F} :
    input.feedback domain binding = some actual ↔
      input.complete domain.domainId = true ∧
        hasByteRange binding.txOffset binding.txExtent domain.size = true ∧
        actual = binding.parse (input.domainData domain.domainId) := by
  cases complete : input.complete domain.domainId with
  | false => simp [feedback, snapshot, EthercatPdoBinding.sample, complete]
  | true =>
      cases readable : hasByteRange binding.txOffset binding.txExtent domain.size with
      | false => simp [feedback, snapshot, EthercatPdoBinding.sample, complete, readable]
      | true => simp [feedback, snapshot, EthercatPdoBinding.sample, complete, readable, eq_comm]

end CycleInput

/-- One iteration of the first loop over the domains. -/
def readDomain (input : CycleInput) (working : MotorActualFrame F × BackendStatus)
    (domain : EthercatDomainRuntime F) : MotorActualFrame F × BackendStatus :=
  let (domainData, domainSize) := input.snapshot domain
  (readEthercatDomainSnapshot domainData domainSize domain.bindings working.1,
    if input.complete domain.domainId then working.2
    else working.2.recordWcIncomplete.recordStaleFrame.setFault ErrorCodeFeedbackTimeout)

omit [FloatArith F] in
/-- One iteration of the second loop over the domains. -/
def writeDomain (targets : EthercatPackedTargetFrame) (actuals : MotorActualFrame F)
    (images : Int → Bytes) (domain : EthercatDomainRuntime F) : Int → Bytes :=
  Function.update images domain.domainId
    (writeEthercatDomainSnapshot (images domain.domainId) domain.size domain.bindings targets
      actuals)

/-- The frame in the target buffer before the first `setMotorTarget`. -/
def initialEthercatTargets (totalMotorCount : Nat) : EthercatPackedTargetFrame :=
  { (default : EthercatPackedTargetFrame) with motorCount := totalMotorCount }

namespace RmdEthercatRuntime

/-- The loop before its first cycle. -/
def started (domains : EthercatDomains F) (totalMotorCount : Nat) (commandTimeout : Time)
    (actualBuffer : LatestValue (MotorActualFrame F)) (now : Time) : RmdEthercatRuntime F where
  domains := domains
  totalMotorCount := totalMotorCount
  commandTimeout := commandTimeout
  targetFrames := [initialEthercatTargets totalMotorCount]
  targets := default
  workingActuals := default
  actualBuffer := actualBuffer
  images := fun _ _ => 0
  status := default
  clock := now
  stamped := now

/-- One iteration of the loop, on the frame the target buffer yields. The watchdog
edits the loop's copy of the frame, which the next cycle reads again. -/
def cycle (runtime : RmdEthercatRuntime F) (input : CycleInput)
    (frame : EthercatPackedTargetFrame) : RmdEthercatRuntime F :=
  let workingActuals := { runtime.workingActuals with
    sequence := runtime.workingActuals.sequence + 1
    timestamp := input.now
    motorCount := runtime.totalMotorCount }
  let (workingActuals, status) :=
    runtime.domains.domains.foldl (readDomain input) (workingActuals, runtime.status)
  let (targets, watchdogCleared) :=
    applyEthercatCommandWatchdog frame input.commandNow runtime.commandTimeout
  { runtime with
    targets := targets
    workingActuals := workingActuals
    actualBuffer := runtime.actualBuffer.publish workingActuals
    images := runtime.domains.domains.foldl (writeDomain targets workingActuals) input.domainData
    status := if watchdogCleared > 0 then status.recordStaleFrame else status
    clock := input.commandNow }

/-- The caller of `setMotorTarget` stamps its frames in order, and no reading of the
clock is zero. The loop may find any frame the buffer has held. -/
def step (runtime : RmdEthercatRuntime F) : RealtimeEvent → Option (RmdEthercatRuntime F)
  | .setMotorTarget frame =>
      if frame.timestamp ≠ 0 ∧ runtime.stamped ≤ frame.timestamp then some { runtime with
        targetFrames := runtime.targetFrames ++ [frame]
        stamped := frame.timestamp }
      else none
  | .cycle input =>
      if runtime.clock ≤ input.now ∧ input.now ≤ input.commandNow then
        runtime.targetFrames[input.read]?.map (runtime.cycle input)
      else none

variable {runtime next start finish : RmdEthercatRuntime F} {input : CycleInput}
variable {frame : EthercatPackedTargetFrame} {event : RealtimeEvent}
variable {events : List RealtimeEvent}

theorem step_setMotorTarget (stepped : step runtime (.setMotorTarget frame) = some next) :
    frame.timestamp ≠ 0 ∧ runtime.stamped ≤ frame.timestamp ∧ next = { runtime with
      targetFrames := runtime.targetFrames ++ [frame]
      stamped := frame.timestamp } := by
  simp only [step] at stepped
  split at stepped
  next guard => exact ⟨guard.1, guard.2, (Option.some.inj stepped).symm⟩
  next => contradiction

theorem step_cycle (stepped : step runtime (.cycle input) = some next) :
    runtime.clock ≤ input.commandNow ∧
      ∃ frame, runtime.targetFrames[input.read]? = some frame ∧
        next = runtime.cycle input frame := by
  simp only [step] at stepped
  split at stepped
  next guard =>
    rcases Option.map_eq_some_iff.mp stepped with ⟨frame, yielded, result⟩
    exact ⟨guard.1.trans guard.2, frame, yielded, result.symm⟩
  next => contradiction

/-! ## What a run never changes -/

@[simp] theorem targetFrames_cycle :
    (runtime.cycle input frame).targetFrames = runtime.targetFrames := rfl

theorem run_config (ran : Transition.run step start events = some finish) :
    finish.domains = start.domains ∧ finish.commandTimeout = start.commandTimeout := by
  apply Transition.run_invariant (fun runtime => runtime.domains = start.domains ∧
    runtime.commandTimeout = start.commandTimeout) _ ran ⟨rfl, rfl⟩
  intro runtime next event stepped before
  cases event with
  | setMotorTarget frame =>
      rw [(step_setMotorTarget stepped).2.2]
      exact before
  | cycle input =>
      rcases step_cycle stepped with ⟨-, frame, -, rfl⟩
      exact before

/-- The loop's clock does not go back. -/
theorem clock_le (ran : Transition.run step start events = some finish) :
    start.clock ≤ finish.clock := by
  apply Transition.run_monotone clock _ ran
  intro runtime next event stepped
  cases event with
  | setMotorTarget frame =>
      rw [(step_setMotorTarget stepped).2.2]
  | cycle input =>
      rcases step_cycle stepped with ⟨le, frame, -, rfl⟩
      exact le

/-- The target buffer keeps the frames it has held. -/
theorem targetFrames_prefix (ran : Transition.run step start events = some finish) :
    start.targetFrames <+: finish.targetFrames := by
  apply Transition.run_invariant (fun runtime => start.targetFrames <+: runtime.targetFrames)
    _ ran (List.prefix_refl _)
  intro runtime next event stepped before
  cases event with
  | setMotorTarget frame =>
      rw [(step_setMotorTarget stepped).2.2]
      exact before.trans (List.prefix_append _ _)
  | cycle input =>
      rcases step_cycle stepped with ⟨-, frame, -, rfl⟩
      exact before

/-! ## The frames in the target buffer -/

/-- After the initial frame come frames with nonzero stamps in order. -/
structure Sent (totalMotorCount : Nat) (runtime : RmdEthercatRuntime F)
    (sent : List EthercatPackedTargetFrame) : Prop where
  frames : runtime.targetFrames = initialEthercatTargets totalMotorCount :: sent
  stamps : ∀ frame ∈ sent, frame.timestamp ≠ 0 ∧ frame.timestamp ≤ runtime.stamped
  ordered : sent.Pairwise fun earlier later => earlier.timestamp ≤ later.timestamp

theorem Sent.step {totalMotorCount : Nat} {sent : List EthercatPackedTargetFrame}
    (before : Sent totalMotorCount runtime sent) (stepped : step runtime event = some next) :
    ∃ sent, Sent totalMotorCount next sent := by
  cases event with
  | cycle input =>
      rcases step_cycle stepped with ⟨-, frame, -, rfl⟩
      exact ⟨sent, before.frames, before.stamps, before.ordered⟩
  | setMotorTarget frame =>
      rcases step_setMotorTarget stepped with ⟨nonzero, le, rfl⟩
      refine ⟨sent ++ [frame], ?_, ?_, ?_⟩
      · exact congrArg (· ++ [frame]) before.frames
      · intro other member
        rcases List.mem_append.mp member with earlier | own
        · exact ⟨(before.stamps other earlier).1, (before.stamps other earlier).2.trans le⟩
        · rw [List.mem_singleton.mp own]
          exact ⟨nonzero, le_rfl⟩
      · apply List.pairwise_append.mpr
        refine ⟨before.ordered, List.pairwise_singleton _ _, ?_⟩
        intro earlier member later own
        rw [List.mem_singleton.mp own]
        exact (before.stamps earlier member).2.trans le

variable {domains : EthercatDomains F} {totalMotorCount : Nat} {commandTimeout : Time}
variable {actualBuffer : LatestValue (MotorActualFrame F)} {epoch : Time}

/-- Every frame in the buffer of a run is the initial one, which marks no motor
valid, or has a stamp. -/
theorem run_sent (ran : Transition.run step
      (started domains totalMotorCount commandTimeout actualBuffer epoch) events = some finish) :
    ∃ sent, Sent totalMotorCount finish sent := by
  apply Transition.run_invariant (fun runtime => ∃ sent, Sent totalMotorCount runtime sent) _ ran
  · exact ⟨[], rfl, by simp, List.Pairwise.nil⟩
  · intro runtime next event stepped before
    rcases before with ⟨sent, before⟩
    exact before.step stepped

/-! ## What a cycle reads -/

theorem foldl_readDomain_fst (input : CycleInput) (domains : List (EthercatDomainRuntime F))
    (working : MotorActualFrame F × BackendStatus) :
    (domains.foldl (readDomain input) working).1 =
      (domains.flatMap fun domain => domain.bindings.map (Prod.mk domain)).foldl
        (fun actuals bound => readBinding (input.snapshot bound.1).1 (input.snapshot bound.1).2
          actuals bound.2) working.1 := by
  rw [List.foldl_flatMap]
  induction domains generalizing working with
  | nil => rfl
  | cons domain rest ih =>
      rw [List.foldl_cons, ih, List.foldl_cons, List.foldl_map]
      rfl

end RmdEthercatRuntime

namespace EthercatDomains

omit [FloatArith F]

/-- The bindings, each with its domain. -/
def bound (domains : EthercatDomains F) :
    List (EthercatDomainRuntime F × EthercatPdoBinding F) :=
  domains.domains.flatMap fun domain => domain.bindings.map (Prod.mk domain)

variable {domains : EthercatDomains F} {domain : EthercatDomainRuntime F}
variable {binding : EthercatPdoBinding F}

theorem mem_bound :
    (domain, binding) ∈ domains.bound ↔ domain ∈ domains.domains ∧ binding ∈ domain.bindings := by
  simp [bound]

theorem indices_bound :
    domains.bound.map (fun bound => bound.2.globalIndex) =
      (domains.domains.flatMap EthercatDomainRuntime.bindings).map
        EthercatPdoBinding.globalIndex := by
  rw [bound, List.map_flatMap, List.map_flatMap]
  apply congrArg (List.flatMap · domains.domains)
  funext domain
  rw [List.map_map]
  rfl

end EthercatDomains

namespace RmdEthercatRuntime

variable {runtime : RmdEthercatRuntime F} {input : CycleInput}
variable {frame : EthercatPackedTargetFrame} {domain : EthercatDomainRuntime F}
variable {binding : EthercatPdoBinding F} {index : Nat}

theorem entry_readBound (input : CycleInput) (actuals : MotorActualFrame F)
    (bound : EthercatDomainRuntime F × EthercatPdoBinding F) (index : Nat) :
    (readBinding (input.snapshot bound.1).1 (input.snapshot bound.1).2 actuals bound.2).entry
        index =
      if index = bound.2.globalIndex then
        readEntry (input.snapshot bound.1).1 (input.snapshot bound.1).2 bound.2
          (actuals.entry index)
      else actuals.entry index :=
  entry_readBinding _ _ actuals bound.2 index

/-- A cycle reads every binding once. -/
theorem readEntry_cycle (input : CycleInput) (frame : EthercatPackedTargetFrame)
    (bound : (domain, binding) ∈ runtime.domains.bound) :
    (runtime.cycle input frame).workingActuals.entry binding.globalIndex =
      readEntry (input.snapshot domain).1 (input.snapshot domain).2 binding
        (runtime.workingActuals.entry binding.globalIndex) := by
  have distinct : (runtime.domains.bound.map fun bound => bound.2.globalIndex).Nodup := by
    rw [EthercatDomains.indices_bound]
    exact runtime.domains.distinct
  simp only [cycle]
  rw [foldl_readDomain_fst]
  exact MotorActualFrame.foldl_entry_of_mem id (entry_readBound input) _ distinct bound

/-- A cycle leaves a bound motor's entry either decoded or marked. -/
theorem entry_cycle (input : CycleInput) (frame : EthercatPackedTargetFrame)
    (bound : (domain, binding) ∈ runtime.domains.bound) :
    (runtime.cycle input frame).workingActuals.entry binding.globalIndex =
      match input.feedback domain binding with
      | some actual => { actual := actual, valid := true, stale := false }
      | none => {
          actual := markActualStale (runtime.workingActuals.actuals binding.globalIndex)
          valid := false
          stale := true } := by
  have inBounds : ¬ binding.globalIndex ≥ MaxRealtimeMotors := by
    rcases EthercatDomains.mem_bound.mp bound with ⟨inDomains, inBindings⟩
    exact Nat.not_le_of_lt (runtime.domains.inBounds domain inDomains binding inBindings)
  rw [readEntry_cycle input frame bound]
  simp only [readEntry, inBounds, if_false]
  rfl

/-- A cycle does not touch an index without a binding. -/
theorem entry_cycle_of_notMem
    (unbound : index ∉ runtime.domains.bound.map fun bound => bound.2.globalIndex) :
    (runtime.cycle input frame).workingActuals.entry index =
      runtime.workingActuals.entry index := by
  simp only [cycle]
  rw [foldl_readDomain_fst]
  exact MotorActualFrame.foldl_entry_of_notMem id (entry_readBound input) _ unbound

/-- A cycle publishes its working frame. -/
@[simp] theorem latest_cycle :
    (runtime.cycle input frame).actualBuffer.latest =
      (runtime.cycle input frame).workingActuals :=
  LatestValue.latest_publish _ _

/-! ## What a cycle writes -/

omit [FloatArith F] in
theorem foldl_writeDomain_of_notMem {targets : EthercatPackedTargetFrame}
    {actuals : MotorActualFrame F} {domains : List (EthercatDomainRuntime F)} {number : Int}
    (images : Int → Bytes) (absent : number ∉ domains.map EthercatDomainRuntime.domainId) :
    domains.foldl (writeDomain targets actuals) images number = images number := by
  induction domains generalizing images with
  | nil => rfl
  | cons other rest ih =>
      rw [List.map_cons, List.mem_cons, not_or] at absent
      rw [List.foldl_cons, ih _ absent.2]
      exact Function.update_of_ne absent.1 _ _

omit [FloatArith F] in
theorem foldl_writeDomain_of_mem {targets : EthercatPackedTargetFrame}
    {actuals : MotorActualFrame F} {domains : List (EthercatDomainRuntime F)}
    (images : Int → Bytes) (distinct : (domains.map EthercatDomainRuntime.domainId).Nodup)
    (member : domain ∈ domains) :
    domains.foldl (writeDomain targets actuals) images domain.domainId =
      writeEthercatDomainSnapshot (images domain.domainId) domain.size domain.bindings targets
        actuals := by
  induction domains generalizing images with
  | nil => contradiction
  | cons other rest ih =>
      rw [List.map_cons, List.nodup_cons] at distinct
      rw [List.foldl_cons]
      rcases List.mem_cons.mp member with rfl | inRest
      · rw [foldl_writeDomain_of_notMem _ distinct.1]
        exact Function.update_self ..
      · have different : domain.domainId ≠ other.domainId := by
          intro same
          exact distinct.1 (same ▸ List.mem_map_of_mem inRest)
        rw [ih _ distinct.2 inRest]
        exact congrArg (writeEthercatDomainSnapshot · _ _ _ _)
          (Function.update_of_ne different _ _)

/-- The image a cycle sends for a domain. -/
theorem image_cycle (member : domain ∈ runtime.domains.domains) :
    (runtime.cycle input frame).images domain.domainId =
      writeEthercatDomainSnapshot (input.domainData domain.domainId) domain.size domain.bindings
        (runtime.cycle input frame).targets (runtime.cycle input frame).workingActuals :=
  foldl_writeDomain_of_mem _ runtime.domains.images member

end RmdEthercatRuntime

/-! ## A drive that is ready to switch on -/

/-- A drive with its RxPDO at the start of the image and its TxPDO behind it. -/
def driveBinding : EthercatPdoBinding ℚ where
  globalIndex := 0
  backendLocalIndex := 0
  «alias» := 1
  master := 0
  slave := 0
  domain := 0
  rxOffset := 0
  txOffset := 16
  rxProfile := .standard
  txProfile := .extended
  rxSize := ethercatMtDeviceRxPdoSize .standard
  txSize := ethercatMtDeviceTxPdoSize .extended
  type := "MT_Device"
  parameters := default

def driveDomain : EthercatDomainRuntime ℚ where
  domainId := 0
  size := 38
  bindings := [driveBinding]

def oneDrive : EthercatDomains ℚ where
  domains := [driveDomain]
  distinct := List.nodup_singleton _
  inBounds := by simp [driveDomain, driveBinding, MaxRealtimeMotors]
  images := List.nodup_singleton _

/-- A complete cycle in which the drive reports the status word 0x0031. -/
def readyCycle (now : Time) (read : Nat) : CycleInput where
  now := now
  commandNow := now
  domainData := fun _ address => if address = 16 then 0x31 else 0
  complete := fun _ => true
  read := read

end RmdCanSdk
