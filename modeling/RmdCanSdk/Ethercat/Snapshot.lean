import RmdCanSdk.Ethercat.Pdo

/-!
# Domain snapshots

Reading the feedback of a domain into the working frame, and writing the packed
targets of a domain into its image. Both loop over the domain's bindings and skip
what does not fit; a reader without data marks its motors stale.
-/

namespace RmdCanSdk

variable {F : Type} [FloatArith F]

structure EthercatPdoBinding (F : Type) where
  globalIndex : Nat
  backendLocalIndex : Nat
  «alias» : Int
  master : Int
  slave : Int
  domain : Int
  rxOffset : Int
  txOffset : Int
  rxProfile : EthercatMtDeviceRxProfile
  txProfile : EthercatMtDeviceTxProfile
  rxSize : Nat
  txSize : Nat
  type : String
  parameters : MotorParameters F

def hasByteRange (offset : Int) (extent domainSize : Nat) : Bool :=
  if offset < 0 then false
  else decide (offset.toNat ≤ domainSize) && decide (extent ≤ domainSize - offset.toNat)

namespace EthercatPdoBinding

omit [FloatArith F] in
def rxExtent (binding : EthercatPdoBinding F) : Nat :=
  if binding.rxSize = 0 then ethercatMtDeviceRxPdoSize binding.rxProfile else binding.rxSize

omit [FloatArith F] in
def txExtent (binding : EthercatPdoBinding F) : Nat :=
  if binding.txSize = 0 then ethercatMtDeviceTxPdoSize binding.txProfile else binding.txSize

/-- The sample in the TxPDO of a binding. -/
def parse (binding : EthercatPdoBinding F) (data : Bytes) : MotorActual F :=
  match binding.txProfile with
  | .standard =>
      parseEthercatStandardTxPdo (HeimaStandardTxData.ofBytes data binding.txOffset.toNat)
        binding.parameters
  | .extended =>
      parseEthercatTxPdo (HeimaDriverTxData.ofBytes data binding.txOffset.toNat)
        binding.parameters

/-- The sample a domain without or with data gives for a binding, if it is readable. -/
def sample (binding : EthercatPdoBinding F) (domainData : Option Bytes) (domainSize : Nat) :
    Option (MotorActual F) :=
  domainData.bind fun data =>
    if hasByteRange binding.txOffset binding.txExtent domainSize then some (binding.parse data)
    else none

/-- The status word of a sample is the first word of the TxPDO in both layouts. -/
theorem statusWord_parse (binding : EthercatPdoBinding F) (data : Bytes) :
    (binding.parse data).statusWord = data.read16 binding.txOffset.toNat := by
  simp only [parse]
  cases binding.txProfile with
  | standard => rfl
  | extended => rfl

end EthercatPdoBinding

/-! ## Feedback -/

/-- One iteration of the reader. -/
def readBinding (domainData : Option Bytes) (domainSize : Nat) (actuals : MotorActualFrame F)
    (binding : EthercatPdoBinding F) : MotorActualFrame F :=
  if binding.globalIndex ≥ MaxRealtimeMotors then actuals
  else
    match binding.sample domainData domainSize with
    | some actual => actuals.setEntry binding.globalIndex {
        actual := actual
        valid := true
        stale := false }
    | none => actuals.setEntry binding.globalIndex {
        actual := markActualStale (actuals.actuals binding.globalIndex)
        valid := false
        stale := true }

def readEthercatDomainSnapshot (domainData : Option Bytes) (domainSize : Nat)
    (bindings : List (EthercatPdoBinding F)) (actuals : MotorActualFrame F) :
    MotorActualFrame F :=
  bindings.foldl (readBinding domainData domainSize) actuals

/-- What the reader makes of a motor's entry. -/
def readEntry (domainData : Option Bytes) (domainSize : Nat) (binding : EthercatPdoBinding F)
    (entry : MotorEntry F) : MotorEntry F :=
  if binding.globalIndex ≥ MaxRealtimeMotors then entry
  else
    match binding.sample domainData domainSize with
    | some actual => { actual := actual, valid := true, stale := false }
    | none => { actual := markActualStale entry.actual, valid := false, stale := true }

theorem entry_readBinding (domainData : Option Bytes) (domainSize : Nat)
    (actuals : MotorActualFrame F) (binding : EthercatPdoBinding F) (index : Nat) :
    (readBinding domainData domainSize actuals binding).entry index =
      if index = binding.globalIndex then
        readEntry domainData domainSize binding (actuals.entry index)
      else actuals.entry index := by
  simp only [readBinding, readEntry]
  by_cases beyond : binding.globalIndex ≥ MaxRealtimeMotors
  · simp only [beyond, if_true, ite_self]
  · simp only [beyond, if_false]
    cases binding.sample domainData domainSize with
    | some actual => exact MotorActualFrame.entry_setEntry
    | none =>
        apply MotorActualFrame.entry_setEntry.trans
        by_cases same : index = binding.globalIndex
        · rw [if_pos same, if_pos same, same]
          rfl
        · rw [if_neg same, if_neg same]

@[simp] theorem toFrameMetadata_readBinding (domainData : Option Bytes) (domainSize : Nat)
    (actuals : MotorActualFrame F) (binding : EthercatPdoBinding F) :
    (readBinding domainData domainSize actuals binding).toFrameMetadata =
      actuals.toFrameMetadata := by
  simp only [readBinding]
  split
  · rfl
  · split <;> rfl

/-! ## Targets -/

section

omit [FloatArith F]

/-- The packed target the writer uses for a binding. -/
def packedTarget (targets : EthercatPackedTargetFrame) (binding : EthercatPdoBinding F) :
    EthercatPackedTarget :=
  if targets.valid binding.globalIndex then targets.targets binding.globalIndex else default

/-- The control word the writer puts into the RxPDO of a binding. -/
def writtenControlWord (targets : EthercatPackedTargetFrame) (actuals : MotorActualFrame F)
    (binding : EthercatPdoBinding F) : BitVec 16 :=
  let statusWord :=
    if actuals.valid binding.globalIndex then
      (actuals.actuals binding.globalIndex).statusWord
    else 0xffff
  ethercatMtDeviceControlWord (packedTarget targets binding).enabled statusWord

/-- Whether the writer writes a binding at all. -/
def isWritten (domainSize : Nat) (binding : EthercatPdoBinding F) : Bool :=
  decide (binding.globalIndex < MaxRealtimeMotors) &&
    hasByteRange binding.rxOffset binding.rxExtent domainSize

/-- The RxPDO of a binding and its size. -/
def writtenRx (targets : EthercatPackedTargetFrame) (actuals : MotorActualFrame F)
    (binding : EthercatPdoBinding F) : Bytes × Nat :=
  let rxBytes := (packedTarget targets binding).rxBytes
  let controlWord := writtenControlWord targets actuals binding
  match binding.rxProfile with
  | .standard =>
      ({ HeimaStandardRxData.ofBytes rxBytes 0 with controlWord := controlWord }.toBytes, 16)
  | .pvt =>
      ({ HeimaPvtRxData.ofBytes rxBytes 0 with controlWord := controlWord }.toBytes, 22)

/-- One iteration of the writer. -/
def writeBinding (domainSize : Nat) (targets : EthercatPackedTargetFrame)
    (actuals : MotorActualFrame F) (domainData : Bytes) (binding : EthercatPdoBinding F) :
    Bytes :=
  if isWritten domainSize binding then
    let (rx, size) := writtenRx targets actuals binding
    Bytes.memcpy domainData binding.rxOffset.toNat rx size
  else domainData

def writeEthercatDomainSnapshot (domainData : Bytes) (domainSize : Nat)
    (bindings : List (EthercatPdoBinding F)) (targets : EthercatPackedTargetFrame)
    (actuals : MotorActualFrame F) : Bytes :=
  bindings.foldl (writeBinding domainSize targets actuals) domainData

/-- The control word is the first word of the RxPDO in both layouts. -/
theorem controlWord_writtenRx (targets : EthercatPackedTargetFrame)
    (actuals : MotorActualFrame F) (binding : EthercatPdoBinding F) :
    (writtenRx targets actuals binding).1.read16 0 =
        writtenControlWord targets actuals binding ∧
      2 ≤ (writtenRx targets actuals binding).2 := by
  simp only [writtenRx]
  cases binding.rxProfile with
  | standard => exact ⟨Bytes.join16 _, by simp⟩
  | pvt => exact ⟨Bytes.join16 _, by simp⟩

/-- What the image holds at a written binding's offset after its iteration. -/
theorem controlWord_writeBinding {domainSize : Nat} {binding : EthercatPdoBinding F}
    (written : isWritten domainSize binding = true) (targets : EthercatPackedTargetFrame)
    (actuals : MotorActualFrame F) (domainData : Bytes) :
    (writeBinding domainSize targets actuals domainData binding).read16
        binding.rxOffset.toNat = writtenControlWord targets actuals binding := by
  rcases controlWord_writtenRx targets actuals binding with ⟨word, size⟩
  simp only [writeBinding, written, if_true]
  exact (Bytes.read16_memcpy_start size).trans word

end

end RmdCanSdk
