import RmdCanSdk.Ethercat.Snapshot

/-!
# The writer of unpacked targets

Domain images can be written from targets in joint units as well, converted binding by
binding while they are written. Both writers leave the same image when the packed
targets were packed for the bindings that use them, and the watchdog acts on a packed
frame as clearing the enabled values of the unpacked one.
-/

namespace RmdCanSdk

variable {F : Type} [FloatArith F]

namespace MotorTargetFrame

/-- The target the writer uses for a binding. -/
def bindingTarget (targets : MotorTargetFrame F) (binding : EthercatPdoBinding F) :
    MotorTarget F :=
  if targets.valid binding.globalIndex then targets.targets binding.globalIndex else default

/-- The RxPDO of a binding and its size. -/
def writtenRx (targets : MotorTargetFrame F) (actuals : MotorActualFrame F)
    (binding : EthercatPdoBinding F) : Bytes × Nat :=
  let target := targets.bindingTarget binding
  let statusWord :=
    if actuals.valid binding.globalIndex then
      (actuals.actuals binding.globalIndex).statusWord
    else 0xffff
  let controlWord := ethercatMtDeviceControlWord target.enabled statusWord
  match binding.rxProfile with
  | .standard =>
      ({ packEthercatStandardRxPdo target binding.parameters with
        controlWord := controlWord }.toBytes, 16)
  | .pvt =>
      ({ packEthercatPvtRxPdo target binding.parameters with
        controlWord := controlWord }.toBytes, 22)

/-- One iteration of the writer. -/
def writeBinding (domainSize : Nat) (targets : MotorTargetFrame F) (actuals : MotorActualFrame F)
    (domainData : Bytes) (binding : EthercatPdoBinding F) : Bytes :=
  if isWritten domainSize binding then
    let (rx, size) := targets.writtenRx actuals binding
    Bytes.memcpy domainData binding.rxOffset.toNat rx size
  else domainData

def writeEthercatDomainSnapshot (domainData : Bytes) (domainSize : Nat)
    (bindings : List (EthercatPdoBinding F)) (targets : MotorTargetFrame F)
    (actuals : MotorActualFrame F) : Bytes :=
  bindings.foldl (targets.writeBinding domainSize actuals) domainData

end MotorTargetFrame

/-! ## Packed targets -/

/-- What was packed is unpacked again, but for the control word, which does not depend on
the packed one. -/
theorem ofBytes_packed_standard (target : MotorTarget F) (params : MotorParameters F)
    (enabled : Int) (controlWord : BitVec 16) :
    { HeimaStandardRxData.ofBytes
        (packEthercatTargetForRealtime target params .standard).rxBytes 0 with
      controlWord := controlWord } =
    { packEthercatStandardRxPdo { target with enabled := enabled } params with
      controlWord := controlWord } := by
  have unpacked : HeimaStandardRxData.ofBytes
      (packEthercatTargetForRealtime target params .standard).rxBytes 0 =
        packEthercatStandardRxPdo target params := HeimaStandardRxData.ofBytes_toBytes _
  rw [unpacked]
  rfl

theorem ofBytes_packed_pvt (target : MotorTarget F) (params : MotorParameters F)
    (enabled : Int) (controlWord : BitVec 16) :
    { HeimaPvtRxData.ofBytes (packEthercatTargetForRealtime target params .pvt).rxBytes 0 with
      controlWord := controlWord } =
    { packEthercatPvtRxPdo { target with enabled := enabled } params with
      controlWord := controlWord } := by
  have unpacked : HeimaPvtRxData.ofBytes
      (packEthercatTargetForRealtime target params .pvt).rxBytes 0 =
        packEthercatPvtRxPdo target params := HeimaPvtRxData.ofBytes_toBytes _
  rw [unpacked]
  rfl

/-- A packed frame for a list of bindings: the same motors are valid, and each bound one
was packed for its binding, up to its enabled value. -/
structure PackedFor (bindings : List (EthercatPdoBinding F)) (targets : MotorTargetFrame F)
    (packed : EthercatPackedTargetFrame) : Prop where
  valid : ∀ binding ∈ bindings, packed.valid binding.globalIndex = true ∧
    targets.valid binding.globalIndex = true
  enabled : ∀ binding ∈ bindings, (packed.targets binding.globalIndex).enabled =
    (targets.targets binding.globalIndex).enabled
  rxBytes : ∀ binding ∈ bindings, ∃ enabled, (packed.targets binding.globalIndex).rxBytes =
    (packEthercatTargetForRealtime
      { targets.targets binding.globalIndex with enabled := enabled }
      binding.parameters binding.rxProfile).rxBytes

variable {bindings : List (EthercatPdoBinding F)} {binding : EthercatPdoBinding F}
variable {targets : MotorTargetFrame F} {packed : EthercatPackedTargetFrame}

theorem PackedFor.writtenRx (packedFor : PackedFor bindings targets packed)
    (bound : binding ∈ bindings) (actuals : MotorActualFrame F) :
    RmdCanSdk.writtenRx packed actuals binding = targets.writtenRx actuals binding := by
  rcases packedFor.valid binding bound with ⟨packedValid, targetsValid⟩
  rcases packedFor.rxBytes binding bound with ⟨enabled, rxBytes⟩
  have own : packedTarget packed binding = packed.targets binding.globalIndex :=
    if_pos packedValid
  have target : targets.bindingTarget binding = targets.targets binding.globalIndex :=
    if_pos targetsValid
  simp only [RmdCanSdk.writtenRx, MotorTargetFrame.writtenRx, writtenControlWord, own, target,
    packedFor.enabled binding bound, rxBytes]
  cases binding.rxProfile with
  | standard =>
      rw [ofBytes_packed_standard _ _ (targets.targets binding.globalIndex).enabled]
  | pvt =>
      rw [ofBytes_packed_pvt _ _ (targets.targets binding.globalIndex).enabled]

theorem PackedFor.writeEthercatDomainSnapshot (packedFor : PackedFor bindings targets packed)
    (domainData : Bytes) (domainSize : Nat) (actuals : MotorActualFrame F) :
    RmdCanSdk.writeEthercatDomainSnapshot domainData domainSize bindings packed actuals =
      targets.writeEthercatDomainSnapshot domainData domainSize bindings actuals := by
  apply List.foldl_ext
  intro domainData binding bound
  rw [writeBinding, MotorTargetFrame.writeBinding, packedFor.writtenRx bound]

/-! ## The watchdog -/

/-- The targets with the enabled values set to zero that the watchdog changed. -/
def MotorTargetFrame.clearedBy (targets : MotorTargetFrame F)
    (packed watched : EthercatPackedTargetFrame) : MotorTargetFrame F :=
  { targets with
    targets := fun index =>
      if (watched.targets index).enabled = (packed.targets index).enabled then
        targets.targets index
      else { targets.targets index with enabled := 0 } }

/-- The watchdog leaves a frame packed, for the targets it has cleared. -/
theorem PackedFor.watchdog (packedFor : PackedFor bindings targets packed)
    (now timeout : Time) :
    let watched := (applyEthercatCommandWatchdog packed now timeout).1
    PackedFor bindings (targets.clearedBy packed watched) watched := by
  intro watched
  refine ⟨?_, ?_, ?_⟩
  · intro binding bound
    rw [watchdog_valid]
    exact packedFor.valid binding bound
  · intro binding bound
    simp only [MotorTargetFrame.clearedBy]
    split
    next kept => rw [kept, packedFor.enabled binding bound]
    next changed =>
      rcases watchdog_enabled_cases packed now timeout binding.globalIndex with kept | zero
      · exact absurd kept changed
      · exact zero
  · intro binding bound
    rcases packedFor.rxBytes binding bound with ⟨enabled, rxBytes⟩
    refine ⟨enabled, ?_⟩
    rw [watchdog_rxBytes, rxBytes]
    simp only [MotorTargetFrame.clearedBy]
    split <;> rfl

omit [FloatArith F] in
/-- Behind the control word an RxPDO depends on the packed bytes only. -/
theorem writtenRx_tail {left right : EthercatPackedTargetFrame} (actuals : MotorActualFrame F)
    (same : (packedTarget left binding).rxBytes = (packedTarget right binding).rxBytes) :
    (writtenRx left actuals binding).2 = (writtenRx right actuals binding).2 ∧
      ∀ index, (writtenRx left actuals binding).1 (index + 2) =
        (writtenRx right actuals binding).1 (index + 2) := by
  simp only [writtenRx, same]
  cases binding.rxProfile with
  | standard => exact ⟨rfl, fun _ => rfl⟩
  | pvt => exact ⟨rfl, fun _ => rfl⟩

omit [FloatArith F] in
/-- Images written from the same packed bytes differ in control words only. -/
theorem writeEthercatDomainSnapshot_outside {left right : EthercatPackedTargetFrame}
    (actuals : MotorActualFrame F)
    (same : ∀ binding ∈ bindings,
      (packedTarget left binding).rxBytes = (packedTarget right binding).rxBytes)
    (domainData : Bytes) (domainSize : Nat) {position : Nat}
    (outside : ∀ binding ∈ bindings, isWritten domainSize binding = true →
      ¬ (binding.rxOffset.toNat ≤ position ∧ position < binding.rxOffset.toNat + 2)) :
    writeEthercatDomainSnapshot domainData domainSize bindings left actuals position =
      writeEthercatDomainSnapshot domainData domainSize bindings right actuals position := by
  have general : ∀ leftData rightData : Bytes, leftData position = rightData position →
      bindings.foldl (writeBinding domainSize left actuals) leftData position =
        bindings.foldl (writeBinding domainSize right actuals) rightData position := by
    induction bindings with
    | nil => exact fun _ _ equal => equal
    | cons binding rest ih =>
        intro leftData rightData equal
        apply ih (fun other inRest => same other (List.mem_cons_of_mem _ inRest))
          (fun other inRest => outside other (List.mem_cons_of_mem _ inRest))
        rcases writtenRx_tail actuals (same binding List.mem_cons_self) with ⟨size, tail⟩
        simp only [writeBinding]
        split
        next written =>
          have beyond := outside binding List.mem_cons_self written
          rw [Bytes.memcpy, Bytes.memcpy, size]
          split
          next inside =>
            have offset : position - binding.rxOffset.toNat =
                position - binding.rxOffset.toNat - 2 + 2 := by omega
            rw [offset]
            exact tail _
          next => exact equal
        next => exact equal
  exact general domainData domainData rfl

/-! ## Both writers -/

/-- Targets packed for the bindings are written as the targets themselves are. When the
watchdog clears enabled values, the image is that of the cleared targets, and differs
from the one without the watchdog in control words only. -/
theorem writers_agree (domainData : Bytes) (domainSize : Nat)
    (bindings : List (EthercatPdoBinding F)) (actuals : MotorActualFrame F)
    (targets : MotorTargetFrame F) (packed : EthercatPackedTargetFrame)
    (sameValid : packed.valid = targets.valid)
    (packs : ∀ binding ∈ bindings, targets.valid binding.globalIndex = true →
      packed.targets binding.globalIndex = packEthercatTargetForRealtime
        (targets.targets binding.globalIndex) binding.parameters binding.rxProfile)
    (allValid : ∀ binding ∈ bindings, targets.valid binding.globalIndex = true) :
    writeEthercatDomainSnapshot domainData domainSize bindings packed actuals =
        targets.writeEthercatDomainSnapshot domainData domainSize bindings actuals ∧
      ∀ now timeout,
        let watched := (applyEthercatCommandWatchdog packed now timeout).1
        writeEthercatDomainSnapshot domainData domainSize bindings watched actuals =
            (targets.clearedBy packed watched).writeEthercatDomainSnapshot domainData domainSize
              bindings actuals ∧
          ∀ position, (∀ binding ∈ bindings, isWritten domainSize binding = true →
            ¬ (binding.rxOffset.toNat ≤ position ∧ position < binding.rxOffset.toNat + 2)) →
            writeEthercatDomainSnapshot domainData domainSize bindings watched actuals position =
              writeEthercatDomainSnapshot domainData domainSize bindings packed actuals
                position := by
  have packedFor : PackedFor bindings targets packed := by
    refine ⟨?_, ?_, ?_⟩
    · intro binding bound
      rw [sameValid]
      exact ⟨allValid binding bound, allValid binding bound⟩
    · intro binding bound
      rw [packs binding bound (allValid binding bound)]
      rfl
    · intro binding bound
      exact ⟨(targets.targets binding.globalIndex).enabled,
        congrArg EthercatPackedTarget.rxBytes (packs binding bound (allValid binding bound))⟩
  refine ⟨packedFor.writeEthercatDomainSnapshot domainData domainSize actuals, ?_⟩
  intro now timeout watched
  refine ⟨(packedFor.watchdog now timeout).writeEthercatDomainSnapshot domainData domainSize
    actuals, ?_⟩
  intro position outside
  apply writeEthercatDomainSnapshot_outside actuals _ domainData domainSize outside
  intro binding bound
  rw [packedTarget, packedTarget, watchdog_valid, if_pos (packedFor.valid binding bound).1,
    if_pos (packedFor.valid binding bound).1, watchdog_rxBytes]

/-- A binding of an image that holds RxPDOs only. -/
def rxBinding (globalIndex : Nat) (rxOffset : Int) (rxProfile : EthercatMtDeviceRxProfile) :
    EthercatPdoBinding ℚ where
  globalIndex := globalIndex
  backendLocalIndex := globalIndex
  «alias» := globalIndex + 1
  master := 0
  slave := globalIndex
  domain := 0
  rxOffset := rxOffset
  txOffset := -1
  rxProfile := rxProfile
  txProfile := .extended
  rxSize := 0
  txSize := 0
  type := "MT_Device"
  parameters := default

def bothProfiles : List (EthercatPdoBinding ℚ) :=
  [rxBinding 0 0 .standard, rxBinding 1 16 .pvt]

/-- Enabled targets in the two modes that use the profiles. -/
def bothTargets : MotorTargetFrame ℚ where
  toFrameMetadata := { sequence := 1, timestamp := 1, motorCount := 2 }
  targets index := { (default : MotorTarget ℚ) with
    mode := if index = 0 then 8 else 5
    enabled := 1 }
  valid _ := true

def bothPacked : EthercatPackedTargetFrame where
  toFrameMetadata := bothTargets.toFrameMetadata
  targets index := packEthercatTargetForRealtime (bothTargets.targets index) default
    (if index = 0 then .standard else .pvt)
  valid _ := true

theorem writers_agree_both :
    writeEthercatDomainSnapshot (fun _ => 0) 38 bothProfiles bothPacked default =
      bothTargets.writeEthercatDomainSnapshot (fun _ => 0) 38 bothProfiles default := by
  apply (writers_agree (fun _ => 0) 38 bothProfiles default bothTargets bothPacked rfl ?_ ?_).1
  · intro binding bound valid
    rcases List.mem_pair.mp bound with rfl | rfl <;> rfl
  · exact fun _ _ => rfl

end RmdCanSdk
