import RmdCanSdk.Ethercat.DirectWriter

/-!
# Access to a domain's image

A writer makes one copy for each binding that it does not skip, so what is known about
lists of copies holds of the image it leaves. The reader takes a sample out of the
binding's TxPDO. Neither leaves the ranges of the bindings.
-/

namespace RmdCanSdk

variable {F : Type}

namespace EthercatPdoBinding

/-- The registered sizes of a binding are those of its profiles, as far as they are set. -/
structure Sized (binding : EthercatPdoBinding F) : Prop where
  rx : binding.rxSize = 0 ∨ binding.rxSize = ethercatMtDeviceRxPdoSize binding.rxProfile
  tx : binding.txSize = 0 ∨ binding.txSize = ethercatMtDeviceTxPdoSize binding.txProfile

def InRx (binding : EthercatPdoBinding F) (position : Nat) : Prop :=
  binding.rxOffset ≤ position ∧
    position < binding.rxOffset + ethercatMtDeviceRxPdoSize binding.rxProfile

def InTx (binding : EthercatPdoBinding F) (position : Nat) : Prop :=
  binding.txOffset ≤ position ∧
    position < binding.txOffset + ethercatMtDeviceTxPdoSize binding.txProfile

def RxFits (domainSize : Nat) (binding : EthercatPdoBinding F) : Prop :=
  0 ≤ binding.rxOffset ∧
    binding.rxOffset + ethercatMtDeviceRxPdoSize binding.rxProfile ≤ domainSize

def TxFits (domainSize : Nat) (binding : EthercatPdoBinding F) : Prop :=
  0 ≤ binding.txOffset ∧
    binding.txOffset + ethercatMtDeviceTxPdoSize binding.txProfile ≤ domainSize

end EthercatPdoBinding

/-- No position lies in the RxPDOs of two bindings that fit. -/
def RxApart (domainSize : Nat) (left right : EthercatPdoBinding F) : Prop :=
  left.RxFits domainSize → right.RxFits domainSize →
    ∀ position, ¬ (left.InRx position ∧ right.InRx position)

/-- The mixed arithmetic of the range test decides the range in the integers. -/
theorem hasByteRange_iff {offset : Int} {extent domainSize : Nat} :
    hasByteRange offset extent domainSize = true ↔ 0 ≤ offset ∧ offset + extent ≤ domainSize := by
  simp only [hasByteRange]
  split
  next negative =>
    constructor
    · intro impossible
      contradiction
    · intro fits
      omega
  next =>
    rw [Bool.and_eq_true, decide_eq_true_iff, decide_eq_true_iff]
    omega

variable {domainSize : Nat} {binding : EthercatPdoBinding F}
variable {bindings : List (EthercatPdoBinding F)}

namespace EthercatPdoBinding.Sized

theorem rxExtent (sized : binding.Sized) :
    binding.rxExtent = ethercatMtDeviceRxPdoSize binding.rxProfile := by
  simp only [EthercatPdoBinding.rxExtent]
  split
  next => rfl
  next set => exact sized.rx.resolve_left set

theorem txExtent (sized : binding.Sized) :
    binding.txExtent = ethercatMtDeviceTxPdoSize binding.txProfile := by
  simp only [EthercatPdoBinding.txExtent]
  split
  next => rfl
  next set => exact sized.tx.resolve_left set

theorem isWritten_iff (sized : binding.Sized) :
    isWritten domainSize binding = true ↔
      binding.globalIndex < MaxRealtimeMotors ∧ binding.RxFits domainSize := by
  rw [isWritten, Bool.and_eq_true, decide_eq_true_iff, hasByteRange_iff, sized.rxExtent]
  rfl

end EthercatPdoBinding.Sized

/-! ## The writers as lists of copies -/

/-- The copy a writer makes for a binding it does not skip. -/
def rxCopy (rx : EthercatPdoBinding F → Bytes × Nat) (binding : EthercatPdoBinding F) :
    Bytes.Copy where
  offset := binding.rxOffset.toNat
  source := (rx binding).1
  size := (rx binding).2

/-- The copies a writer makes for a list of bindings. -/
def rxCopies (domainSize : Nat) (rx : EthercatPdoBinding F → Bytes × Nat)
    (bindings : List (EthercatPdoBinding F)) : List Bytes.Copy :=
  (bindings.filter (isWritten domainSize)).map (rxCopy rx)

theorem writeEthercatDomainSnapshot_eq_applyAll (domainData : Bytes) (domainSize : Nat)
    (bindings : List (EthercatPdoBinding F)) (targets : EthercatPackedTargetFrame)
    (actuals : MotorActualFrame F) :
    writeEthercatDomainSnapshot domainData domainSize bindings targets actuals =
      Bytes.applyAll (rxCopies domainSize (writtenRx targets actuals) bindings) domainData := by
  rw [Bytes.applyAll, rxCopies, List.foldl_map, List.foldl_filter]
  rfl

theorem MotorTargetFrame.writeEthercatDomainSnapshot_eq_applyAll [FloatArith F]
    (targets : MotorTargetFrame F) (domainData : Bytes) (domainSize : Nat)
    (bindings : List (EthercatPdoBinding F)) (actuals : MotorActualFrame F) :
    targets.writeEthercatDomainSnapshot domainData domainSize bindings actuals =
      Bytes.applyAll (rxCopies domainSize (targets.writtenRx actuals) bindings) domainData := by
  rw [Bytes.applyAll, rxCopies, List.foldl_map, List.foldl_filter]
  rfl

/-- Both writers pack as many bytes as the profile has. -/
theorem writtenRx_size (targets : EthercatPackedTargetFrame) (actuals : MotorActualFrame F)
    (binding : EthercatPdoBinding F) :
    (writtenRx targets actuals binding).2 = ethercatMtDeviceRxPdoSize binding.rxProfile := by
  simp only [writtenRx]
  cases binding.rxProfile <;> rfl

theorem MotorTargetFrame.writtenRx_size [FloatArith F] (targets : MotorTargetFrame F)
    (actuals : MotorActualFrame F) (binding : EthercatPdoBinding F) :
    (targets.writtenRx actuals binding).2 = ethercatMtDeviceRxPdoSize binding.rxProfile := by
  simp only [MotorTargetFrame.writtenRx]
  cases binding.rxProfile <;> rfl

/-- What a writer that packs `rx` for a binding keeps and leaves in the images of a domain. -/
structure WritesOwnRanges (domainSize : Nat) (bindings : List (EthercatPdoBinding F))
    (rx : EthercatPdoBinding F → Bytes)
    (write : Bytes → List (EthercatPdoBinding F) → Bytes) : Prop where
  /-- Only the ranges that fit are written. -/
  outside : ∀ domainData position,
    (∀ binding ∈ bindings, binding.RxFits domainSize → ¬ binding.InRx position) →
      write domainData bindings position = domainData position
  beyond : ∀ domainData position, domainSize ≤ position →
    write domainData bindings position = domainData position
  /-- A binding whose range does not fit could as well be missing. -/
  unfitting : ∀ domainData front binding back, bindings = front ++ binding :: back →
    ¬ binding.RxFits domainSize → write domainData bindings = write domainData (front ++ back)
  ordered : bindings.Pairwise (RxApart domainSize) → ∀ others, bindings.Perm others →
    ∀ domainData, write domainData others = write domainData bindings
  own : bindings.Pairwise (RxApart domainSize) → ∀ binding ∈ bindings,
    binding.globalIndex < MaxRealtimeMotors → binding.RxFits domainSize → ∀ domainData,
      ∀ index < ethercatMtDeviceRxPdoSize binding.rxProfile,
        write domainData bindings (binding.rxOffset.toNat + index) = rx binding index
  /-- The range of a binding without an entry in the frames keeps its bytes. -/
  skipped : bindings.Pairwise (RxApart domainSize) → ∀ binding ∈ bindings,
    binding.globalIndex ≥ MaxRealtimeMotors → binding.RxFits domainSize →
      ∀ domainData position, binding.InRx position →
        write domainData bindings position = domainData position

section

variable {rx : EthercatPdoBinding F → Bytes × Nat}
variable (sizes : ∀ binding, (rx binding).2 = ethercatMtDeviceRxPdoSize binding.rxProfile)
include sizes

theorem covers_rxCopy (fits : binding.RxFits domainSize) {position : Nat} :
    (rxCopy rx binding).Covers position ↔ binding.InRx position := by
  have nonneg := fits.1
  simp only [rxCopy, Bytes.Copy.Covers, EthercatPdoBinding.InRx, sizes]
  omega

variable (sized : ∀ binding ∈ bindings, binding.Sized)
include sized

/-- Every copy of a writer comes from a binding with an entry whose range fits. -/
theorem mem_rxCopies {copy : Bytes.Copy} (member : copy ∈ rxCopies domainSize rx bindings) :
    ∃ binding ∈ bindings, binding.globalIndex < MaxRealtimeMotors ∧
      binding.RxFits domainSize ∧ ∀ position, copy.Covers position ↔ binding.InRx position := by
  rcases List.mem_map.mp member with ⟨binding, isFiltered, rfl⟩
  rcases List.mem_filter.mp isFiltered with ⟨bound, written⟩
  rcases (sized binding bound).isWritten_iff.mp written with ⟨inBounds, fits⟩
  exact ⟨binding, bound, inBounds, fits, fun position => covers_rxCopy sizes fits⟩

theorem rxCopies_apart (apart : bindings.Pairwise (RxApart domainSize)) :
    (rxCopies domainSize rx bindings).Pairwise Bytes.Copy.Apart := by
  have fits : ∀ binding ∈ bindings.filter (isWritten domainSize), binding.RxFits domainSize := by
    intro binding kept
    rcases List.mem_filter.mp kept with ⟨bound, written⟩
    exact ((sized binding bound).isWritten_iff.mp written).2
  rw [rxCopies, List.pairwise_map]
  apply (apart.filter _).imp_of_mem
  rintro left right leftKept rightKept apart position ⟨byLeft, byRight⟩
  have leftFits := fits left leftKept
  have rightFits := fits right rightKept
  apply apart leftFits rightFits position
  exact ⟨(covers_rxCopy sizes leftFits).mp byLeft, (covers_rxCopy sizes rightFits).mp byRight⟩

theorem applyAll_writesOwnRanges :
    WritesOwnRanges domainSize bindings (fun binding => (rx binding).1)
      (fun domainData bindings =>
        Bytes.applyAll (rxCopies domainSize rx bindings) domainData) where
  outside := by
    intro domainData position outside
    apply Bytes.applyAll_outside
    intro copy member covers
    rcases mem_rxCopies sizes sized member with ⟨binding, bound, -, fits, range⟩
    exact outside binding bound fits ((range position).mp covers)
  beyond := by
    intro domainData position beyond
    apply Bytes.applyAll_outside
    intro copy member covers
    rcases mem_rxCopies sizes sized member with ⟨binding, -, -, fits, range⟩
    have inside := ((range position).mp covers).2
    have fits := fits.2
    omega
  unfitting := by
    intro domainData front binding back split unfitting
    have bound : binding ∈ bindings := split ▸ List.mem_append_right _ List.mem_cons_self
    have skipped : ¬ isWritten domainSize binding = true := fun written =>
      unfitting ((sized binding bound).isWritten_iff.mp written).2
    subst split
    simp only [rxCopies, List.filter_append, List.filter_cons_of_neg skipped]
  ordered := by
    intro apart others reordered domainData
    symm
    exact Bytes.applyAll_perm ((reordered.filter _).map _) (rxCopies_apart sizes sized apart) _
  own := by
    intro apart binding bound inBounds fits domainData index small
    have written := (sized binding bound).isWritten_iff.mpr ⟨inBounds, fits⟩
    have member : rxCopy rx binding ∈ rxCopies domainSize rx bindings :=
      List.mem_map_of_mem (List.mem_filter.mpr ⟨bound, written⟩)
    have covers : (rxCopy rx binding).Covers (binding.rxOffset.toNat + index) := by
      rw [covers_rxCopy sizes fits, EthercatPdoBinding.InRx]
      have nonneg := fits.1
      omega
    apply (Bytes.applyAll_inside (rxCopies_apart sizes sized apart) member covers _).trans
    rw [rxCopy, Nat.add_sub_cancel_left]
  skipped := by
    intro apart binding bound beyond fits domainData position inside
    apply Bytes.applyAll_outside
    intro copy member covers
    rcases mem_rxCopies sizes sized member with ⟨other, otherBound, inBounds, otherFits, range⟩
    have different : other ≠ binding := by
      intro same
      rw [same] at inBounds
      omega
    have : Std.Symm (RxApart (F := F) domainSize) :=
      ⟨fun left right apart leftFits rightFits position both =>
        apart rightFits leftFits position both.symm⟩
    exact apart.forall otherBound bound different otherFits fits position
      ⟨(range position).mp covers, inside⟩

end

/-! ## The reader -/

/-- What the reader of a domain reads and leaves. -/
structure ReadsInDomain [FloatArith F] (domainSize : Nat)
    (bindings : List (EthercatPdoBinding F)) : Prop where
  /-- A sample is taken from a TxPDO inside the domain, and from nothing else. -/
  sampled : ∀ binding ∈ bindings, ∀ data actual,
    binding.sample (some data) domainSize = some actual → binding.TxFits domainSize ∧
      ∀ other : Bytes, (∀ position, binding.InTx position → other position = data position) →
        binding.sample (some other) domainSize = some actual
  inside : ∀ left right : Bytes, (∀ position < domainSize, left position = right position) →
    ∀ actuals, readEthercatDomainSnapshot (some left) domainSize bindings actuals =
      readEthercatDomainSnapshot (some right) domainSize bindings actuals
  ordered : (bindings.map EthercatPdoBinding.globalIndex).Nodup →
    ∀ others, bindings.Perm others → ∀ domainData actuals,
      readEthercatDomainSnapshot domainData domainSize others actuals =
        readEthercatDomainSnapshot domainData domainSize bindings actuals

variable [FloatArith F]

theorem EthercatPdoBinding.parse_congr {left right : Bytes}
    (agree : left.AgreeOn right binding.txOffset.toNat
      (ethercatMtDeviceTxPdoSize binding.txProfile)) :
    binding.parse left = binding.parse right := by
  simp only [parse]
  cases profile : binding.txProfile with
  | standard =>
      rw [profile] at agree
      simp only [HeimaStandardTxData.ofBytes_congr agree]
  | extended =>
      rw [profile] at agree
      simp only [HeimaDriverTxData.ofBytes_congr agree]

/-- A fitting binding is parsed from the bytes of its TxPDO. -/
theorem EthercatPdoBinding.parse_of_inTx (fits : binding.TxFits domainSize) {left right : Bytes}
    (same : ∀ position, binding.InTx position → left position = right position) :
    binding.parse left = binding.parse right := by
  apply parse_congr
  intro index small
  apply same
  have nonneg := fits.1
  rw [InTx]
  omega

theorem EthercatPdoBinding.sample_eq_ite (sized : binding.Sized) (data : Bytes) :
    binding.sample (some data) domainSize =
      if 0 ≤ binding.txOffset ∧
          binding.txOffset + ethercatMtDeviceTxPdoSize binding.txProfile ≤ domainSize then
        some (binding.parse data)
      else none := by
  simp only [sample, Option.bind_some, hasByteRange_iff, sized.txExtent]

/-- Two bindings of different motors can be read in either order. -/
theorem readBinding_comm {first second : EthercatPdoBinding F}
    (different : first.globalIndex ≠ second.globalIndex) (domainData : Option Bytes)
    (domainSize : Nat) (actuals : MotorActualFrame F) :
    readBinding domainData domainSize (readBinding domainData domainSize actuals first) second =
      readBinding domainData domainSize (readBinding domainData domainSize actuals second)
        first := by
  apply MotorActualFrame.eq_of_entry_eq
  · simp only [toFrameMetadata_readBinding]
  intro index
  simp only [entry_readBinding]
  by_cases isFirst : index = first.globalIndex
  · have notSecond : index ≠ second.globalIndex := isFirst ▸ different
    simp only [if_pos isFirst, if_neg notSecond]
  · simp only [if_neg isFirst]

theorem readsInDomain (sized : ∀ binding ∈ bindings, binding.Sized) :
    ReadsInDomain domainSize bindings where
  sampled := by
    intro binding bound data actual
    rw [EthercatPdoBinding.sample_eq_ite (sized binding bound)]
    split
    next fits =>
      intro parsed
      refine ⟨fits, ?_⟩
      intro other same
      rw [EthercatPdoBinding.sample_eq_ite (sized binding bound), if_pos fits,
        EthercatPdoBinding.parse_of_inTx fits same]
      exact parsed
    next =>
      intro impossible
      contradiction
  inside := by
    intro left right same actuals
    apply List.foldl_ext
    intro actuals binding bound
    have sample : binding.sample (some left) domainSize =
        binding.sample (some right) domainSize := by
      rw [EthercatPdoBinding.sample_eq_ite (sized binding bound),
        EthercatPdoBinding.sample_eq_ite (sized binding bound)]
      split
      next fits =>
        congr 1
        apply EthercatPdoBinding.parse_of_inTx fits
        intro position inTx
        apply same
        have upper := inTx.2
        omega
      next => rfl
    simp only [readBinding, sample]
  ordered := by
    intro distinct others reordered domainData actuals
    symm
    apply foldl_perm reordered
    apply (List.pairwise_map.mp distinct).imp
    exact fun different => readBinding_comm different domainData domainSize

/-! ## Writers and reader -/

/-- Both writers write, and the reader reads, inside the ranges of the bindings, in any
order of the bindings when these are apart. -/
theorem domain_access (domainSize : Nat) (bindings : List (EthercatPdoBinding F))
    (sized : ∀ binding ∈ bindings, binding.Sized) :
    (∀ (packed : EthercatPackedTargetFrame) (actuals : MotorActualFrame F),
      WritesOwnRanges domainSize bindings (fun binding => (writtenRx packed actuals binding).1)
        (fun domainData bindings =>
          writeEthercatDomainSnapshot domainData domainSize bindings packed actuals)) ∧
    (∀ (targets : MotorTargetFrame F) (actuals : MotorActualFrame F),
      WritesOwnRanges domainSize bindings
        (fun binding => (targets.writtenRx actuals binding).1)
        (fun domainData bindings =>
          targets.writeEthercatDomainSnapshot domainData domainSize bindings actuals)) ∧
    ReadsInDomain domainSize bindings := by
  refine ⟨?_, ?_, readsInDomain sized⟩
  · intro packed actuals
    simp only [writeEthercatDomainSnapshot_eq_applyAll]
    exact applyAll_writesOwnRanges (writtenRx_size packed actuals) sized
  · intro targets actuals
    simp only [MotorTargetFrame.writeEthercatDomainSnapshot_eq_applyAll]
    exact applyAll_writesOwnRanges (targets.writtenRx_size actuals) sized

theorem rxBinding_sized (globalIndex : Nat) (rxOffset : Int)
    (rxProfile : EthercatMtDeviceRxProfile) : (rxBinding globalIndex rxOffset rxProfile).Sized where
  rx := .inl rfl
  tx := .inl rfl

theorem domain_access_both :
    writeEthercatDomainSnapshot (fun _ => 0) 38 bothProfiles.reverse bothPacked default =
      writeEthercatDomainSnapshot (fun _ => 0) 38 bothProfiles bothPacked default := by
  have sized : ∀ binding ∈ bothProfiles, binding.Sized := by
    intro binding bound
    rcases List.mem_pair.mp bound with rfl | rfl
    · exact rxBinding_sized _ _ _
    · exact rxBinding_sized _ _ _
  apply ((domain_access 38 bothProfiles sized).1 bothPacked default).ordered
  · rw [bothProfiles, List.pairwise_pair]
    intro _ _ position both
    have first : (position : Int) < 0 + 16 := both.1.2
    have second : (16 : Int) ≤ position := both.2.1
    omega
  · exact (List.reverse_perm _).symm

/-- The writers skip a binding without an entry in the frames, although its range fits. -/
theorem binding_beyond_frames_not_written :
    ∃ (domainSize : Nat) (binding : EthercatPdoBinding ℚ), binding.Sized ∧
      binding.RxFits domainSize ∧
      (∃ index < ethercatMtDeviceRxPdoSize binding.rxProfile,
        writeEthercatDomainSnapshot (fun _ => 0) domainSize [binding] bothPacked default
            (binding.rxOffset.toNat + index) ≠
          (writtenRx bothPacked default binding).1 index) ∧
      ∃ index < ethercatMtDeviceRxPdoSize binding.rxProfile,
        bothTargets.writeEthercatDomainSnapshot (fun _ => 0) domainSize [binding] default
            (binding.rxOffset.toNat + index) ≠
          (bothTargets.writtenRx default binding).1 index := by
  refine ⟨16, rxBinding 64 0 .standard, rxBinding_sized _ _ _, ⟨by decide, by decide⟩, ?_, ?_⟩
  · exact ⟨0, by decide, by decide +kernel⟩
  · exact ⟨0, by decide, by decide +kernel⟩

end RmdCanSdk
