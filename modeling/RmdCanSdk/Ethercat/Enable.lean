import RmdCanSdk.Ethercat.RealtimeLoop

/-!
# Enabling an EtherCAT motor

The two control words that let a drive move need a young command that enables the
motor and feedback of the same cycle. The watchdog only edits the loop's copy of a
frame, but it expires again in every later cycle, because the clock does not go back.
-/

namespace RmdCanSdk

variable {F : Type} [FloatArith F]

/-- The ControlWord in the image of a domain when the writer has just written the
bindings `front` and `binding`. -/
def controlWordAfter (input : CycleInput) (next : RmdEthercatRuntime F)
    (domain : EthercatDomainRuntime F) (front : List (EthercatPdoBinding F))
    (binding : EthercatPdoBinding F) : BitVec 16 :=
  (writeEthercatDomainSnapshot (input.domainData domain.domainId) domain.size
    (front ++ [binding]) next.targets next.workingActuals).read16 binding.rxOffset.toNat

def Enabling (controlWord : BitVec 16) : Prop :=
  controlWord = 0x0007 ∨ controlWord = 0x000f

/-- The frame commands a motor and is young enough. -/
structure Commands (timeout now : Time) (frame : EthercatPackedTargetFrame) (index : Nat) :
    Prop where
  valid : frame.valid index = true
  enabled : (frame.targets index).enabled = 1
  young : timeout ≤ 0 ∨ now - frame.timestamp < timeout

/-- The drive reported in this cycle the state that the control word goes with. -/
structure Ready (input : CycleInput) (domain : EthercatDomainRuntime F)
    (binding : EthercatPdoBinding F) (controlWord : BitVec 16) : Prop where
  complete : input.complete domain.domainId = true
  readable : hasByteRange binding.txOffset binding.txExtent domain.size = true
  switchOn : controlWord = 0x0007 →
    (input.domainData domain.domainId).read16 binding.txOffset.toNat &&& 0x007f = 0x0031
  operate : controlWord = 0x000f →
    (input.domainData domain.domainId).read16 binding.txOffset.toNat &&& 0x007f = 0x0033 ∨
      (input.domainData domain.domainId).read16 binding.txOffset.toNat &&& 0x007f = 0x0037

/-- The watchdog finds the frame too old. -/
def Expired (timeout now : Time) (frame : EthercatPackedTargetFrame) : Prop :=
  0 < timeout ∧ frame.timestamp ≠ 0 ∧ timeout ≤ now - frame.timestamp

variable {runtime next : RmdEthercatRuntime F} {input : CycleInput}
variable {frame : EthercatPackedTargetFrame} {domain : EthercatDomainRuntime F}
variable {binding : EthercatPdoBinding F} {front : List (EthercatPdoBinding F)}

omit [FloatArith F] in
theorem controlWordAfter_eq (written : isWritten domain.size binding = true) :
    controlWordAfter input next domain front binding =
      writtenControlWord next.targets next.workingActuals binding := by
  rw [controlWordAfter, writeEthercatDomainSnapshot, List.foldl_append]
  exact controlWord_writeBinding written _ _ _

omit [FloatArith F] in
/-- A target that enables its motor comes from a frame that marks the motor valid. -/
theorem packedTarget_enabled {targets : EthercatPackedTargetFrame}
    (enabled : (packedTarget targets binding).enabled = 1) :
    targets.valid binding.globalIndex = true ∧
      (targets.targets binding.globalIndex).enabled = 1 := by
  simp only [packedTarget] at enabled
  split at enabled
  next valid => exact ⟨valid, enabled⟩
  next => contradiction

omit [FloatArith F] in
/-- Without a valid entry the writer sees a status word that enables nothing. -/
theorem writtenControlWord_enabling {targets : EthercatPackedTargetFrame}
    {actuals : MotorActualFrame F}
    (enabling : Enabling (writtenControlWord targets actuals binding)) :
    (packedTarget targets binding).enabled = 1 ∧ actuals.valid binding.globalIndex = true ∧
      (writtenControlWord targets actuals binding = 0x0007 →
        (actuals.actuals binding.globalIndex).statusWord &&& 0x007f = 0x0031) ∧
      (writtenControlWord targets actuals binding = 0x000f →
        (actuals.actuals binding.globalIndex).statusWord &&& 0x007f = 0x0033 ∨
          (actuals.actuals binding.globalIndex).statusWord &&& 0x007f = 0x0037) := by
  rcases controlWord_enabling enabling with ⟨enabled, switchOn, operate⟩
  cases valid : actuals.valid binding.globalIndex with
  | true =>
      simp only [valid, if_true] at switchOn operate
      simp only [writtenControlWord, valid, if_true]
      exact ⟨enabled, trivial, switchOn, operate⟩
  | false =>
      -- 0xffff &&& 0x007f is none of the states the table asks for
      simp only [valid, Bool.false_eq_true, if_false] at switchOn operate
      simp only [Enabling, writtenControlWord, valid, Bool.false_eq_true, if_false] at enabling
      rcases enabling with seven | fifteen
      · exact absurd (switchOn seven) (by decide)
      · exact absurd (operate fifteen) (by decide)

namespace RmdEthercatRuntime

/-- What an enabling control word of a cycle needs. -/
theorem enabling_cycle (stamped : frame.valid binding.globalIndex = true → frame.timestamp ≠ 0)
    (bound : (domain, binding) ∈ runtime.domains.bound)
    (enabling : Enabling (writtenControlWord (runtime.cycle input frame).targets
      (runtime.cycle input frame).workingActuals binding)) :
    Commands runtime.commandTimeout input.commandNow frame binding.globalIndex ∧
      Ready input domain binding (writtenControlWord (runtime.cycle input frame).targets
        (runtime.cycle input frame).workingActuals binding) := by
  rcases writtenControlWord_enabling enabling with ⟨target, fresh, switchOn, operate⟩
  rcases packedTarget_enabled target with ⟨valid, enabled⟩
  have inBounds : binding.globalIndex < MaxRealtimeMotors := by
    rcases EthercatDomains.mem_bound.mp bound with ⟨inDomains, inBindings⟩
    exact runtime.domains.inBounds domain inDomains binding inBindings
  replace valid : frame.valid binding.globalIndex = true :=
    (congrFun (watchdog_valid _ _ _) _).symm.trans valid
  rcases watchdog_enabled inBounds valid (stamped valid) enabled with ⟨enabled, young⟩
  constructor
  · exact ⟨valid, enabled, young⟩
  · have entry := entry_cycle input frame bound
    cases decoded : input.feedback domain binding with
    | none =>
        rw [decoded] at entry
        have marked : (runtime.cycle input frame).workingActuals.valid binding.globalIndex =
            false := congrArg MotorEntry.valid entry
        exact absurd (fresh.symm.trans marked) (by decide)
    | some actual =>
        rw [decoded] at entry
        rcases CycleInput.feedback_eq_some.mp decoded with ⟨complete, readable, parsed⟩
        have status : ((runtime.cycle input frame).workingActuals.actuals
            binding.globalIndex).statusWord =
              (input.domainData domain.domainId).read16 binding.txOffset.toNat := by
          calc ((runtime.cycle input frame).workingActuals.actuals
                binding.globalIndex).statusWord
            _ = actual.statusWord := congrArg (fun entry => entry.actual.statusWord) entry
            _ = (binding.parse (input.domainData domain.domainId)).statusWord := by rw [parsed]
            _ = _ := binding.statusWord_parse _
        rw [status] at switchOn operate
        exact ⟨complete, readable, switchOn, operate⟩

variable {totalMotorCount : Nat} {sent : List EthercatPackedTargetFrame}

omit [FloatArith F] in
theorem Sent.stamped (published : Sent totalMotorCount runtime sent)
    (yielded : runtime.targetFrames[input.read]? = some frame) {index : Nat}
    (valid : frame.valid index = true) : frame.timestamp ≠ 0 := by
  rw [published.frames] at yielded
  rcases List.mem_cons.mp (List.mem_of_getElem? yielded) with initial | member
  · rw [initial] at valid
    contradiction
  · exact (published.stamps frame member).1

omit [FloatArith F] in
/-- A frame that is not behind one with a stamp has a stamp that is not older. -/
theorem Sent.timestamp_le (published : Sent totalMotorCount runtime sent) {early late : Nat}
    {earlier later : EthercatPackedTargetFrame} (le : early ≤ late)
    (earlyYielded : runtime.targetFrames[early]? = some earlier)
    (lateYielded : runtime.targetFrames[late]? = some later) (nonzero : earlier.timestamp ≠ 0) :
    earlier.timestamp ≤ later.timestamp := by
  rw [published.frames] at earlyYielded lateYielded
  cases early with
  | zero =>
      cases earlyYielded
      exact absurd rfl nonzero
  | succ early =>
      cases late with
      | zero => contradiction
      | succ late =>
          rcases Nat.eq_or_lt_of_le (Nat.le_of_succ_le_succ le) with same | lt
          · subst same
            rw [Option.some.inj (earlyYielded.symm.trans lateYielded)]
          · rw [List.getElem?_cons_succ] at earlyYielded lateYielded
            rcases List.getElem?_eq_some_iff.mp earlyYielded with ⟨earlyIn, rfl⟩
            rcases List.getElem?_eq_some_iff.mp lateYielded with ⟨lateIn, rfl⟩
            exact List.pairwise_iff_getElem.mp published.ordered early late earlyIn lateIn lt

/-- Once a cycle has found its frame expired, a later cycle finds only a frame young
that was published after it. -/
theorem newer_than_expired {reached following : RmdEthercatRuntime F} {earlier : CycleInput}
    {after : List RealtimeEvent} {old : EthercatPackedTargetFrame} {timeout : Time} {index : Nat}
    (published : Sent totalMotorCount runtime sent)
    (steppedEarlier : step reached (.cycle earlier) = some following)
    (ranAfter : Transition.run step following after = some runtime)
    (oldYielded : reached.targetFrames[earlier.read]? = some old)
    (expired : Expired timeout earlier.commandNow old)
    (clock : runtime.clock ≤ input.commandNow)
    (yielded : runtime.targetFrames[input.read]? = some frame)
    (commands : Commands timeout input.commandNow frame index) : earlier.read < input.read := by
  rcases step_cycle steppedEarlier with ⟨-, _, -, rfl⟩
  rcases expired with ⟨positive, -, age⟩
  have held : runtime.targetFrames[earlier.read]? = some old := by
    rcases targetFrames_prefix ranAfter with ⟨later, extended⟩
    rw [← extended, targetFrames_cycle,
      List.getElem?_append_left (List.getElem?_eq_some_iff.mp oldYielded).1]
    exact oldYielded
  have passed : earlier.commandNow ≤ input.commandNow := (clock_le ranAfter).trans clock
  apply Nat.lt_of_not_le
  intro le
  have ordered := published.timestamp_le le yielded held
    (published.stamped yielded commands.valid)
  cases commands.young with
  | inl off => exact absurd off (not_le_of_gt positive)
  | inr young =>
      have still : timeout ≤ input.commandNow - frame.timestamp :=
        age.trans (Int.sub_le_sub passed ordered)
      exact absurd young (not_lt_of_ge still)

end RmdEthercatRuntime

variable {domains : EthercatDomains F} {totalMotorCount : Nat} {commandTimeout : Time}
variable {actualBuffer : LatestValue (MotorActualFrame F)} {epoch : Time}
variable {events : List RealtimeEvent}

open RmdEthercatRuntime in
/-- Whenever a cycle of a run writes an enabling control word, the frame it used
commands the motor and is young enough, and the drive was heard in the same cycle.
If the frame of an earlier cycle had expired, this frame was published after it. -/
theorem enabled_only_when_fresh (events : List RealtimeEvent)
    (ran : Transition.run step
      (started domains totalMotorCount commandTimeout actualBuffer epoch) events = some runtime)
    (stepped : step runtime (.cycle input) = some next) {back : List (EthercatPdoBinding F)}
    (member : domain ∈ domains.domains) (own : domain.bindings = front ++ binding :: back)
    (written : isWritten domain.size binding = true)
    (enabling : Enabling (controlWordAfter input next domain front binding)) :
    ∃ frame, runtime.targetFrames[input.read]? = some frame ∧
      Commands commandTimeout input.commandNow frame binding.globalIndex ∧
      Ready input domain binding (controlWordAfter input next domain front binding) ∧
      ∀ before earlier after reached old, events = before ++ .cycle earlier :: after →
        Transition.run step
          (started domains totalMotorCount commandTimeout actualBuffer epoch) before =
            some reached →
        reached.targetFrames[earlier.read]? = some old →
        Expired commandTimeout earlier.commandNow old → earlier.read < input.read := by
  rcases step_cycle stepped with ⟨clock, frame, yielded, rfl⟩
  rcases run_sent ran with ⟨sent, published⟩
  rcases run_config ran with ⟨sameDomains, sameTimeout⟩
  replace sameDomains : runtime.domains = domains := sameDomains
  replace sameTimeout : runtime.commandTimeout = commandTimeout := sameTimeout
  rw [controlWordAfter_eq written] at enabling ⊢
  have bound : (domain, binding) ∈ runtime.domains.bound := by
    rw [EthercatDomains.mem_bound, sameDomains, own]
    exact ⟨member, List.mem_append_cons_self⟩
  rcases enabling_cycle (published.stamped yielded) bound enabling with ⟨commands, ready⟩
  rw [sameTimeout] at commands
  refine ⟨frame, yielded, commands, ready, ?_⟩
  intro before earlier after reached old split ranBefore oldYielded expired
  rw [split] at ran
  rcases Transition.run_append.mp ran with ⟨middle, ranFront, ranBack⟩
  cases ranBefore.symm.trans ranFront
  rcases Transition.run_cons.mp ranBack with ⟨following, steppedEarlier, ranAfter⟩
  exact newer_than_expired published steppedEarlier ranAfter oldYielded expired clock yielded
    commands

/-- A frame that enables the first motor. -/
def enableCommand (timestamp : Time) : EthercatPackedTargetFrame where
  sequence := 1
  timestamp := timestamp
  motorCount := 1
  targets := fun _ => { (default : EthercatPackedTarget) with enabled := 1 }
  valid := fun index => index = 0

/-- The first command expires, and a second one switches the drive on. -/
theorem enabled_only_when_fresh_second_command :
    let events := [.setMotorTarget (enableCommand 100), .cycle (readyCycle 500 1),
      .setMotorTarget (enableCommand 600)]
    ∃ state next, Transition.run RmdEthercatRuntime.step
        (.started oneDrive 1 100 (.start default) 50) events = some state ∧
      state.step (.cycle (readyCycle 650 2)) = some next ∧
      controlWordAfter (readyCycle 650 2) next driveDomain [] driveBinding = 0x0007 ∧
      ∃ frame, state.targetFrames[2]? = some frame ∧ Commands 100 650 frame 0 := by
  intro events
  have word : (Transition.run RmdEthercatRuntime.step
      (.started oneDrive 1 100 (.start default) 50) (events ++ [.cycle (readyCycle 650 2)])).map
        (controlWordAfter (readyCycle 650 2) · driveDomain [] driveBinding) = some 0x0007 := by
    decide +kernel
  rcases Option.map_eq_some_iff.mp word with ⟨next, all, enabling⟩
  rcases Transition.run_append.mp all with ⟨state, ran, stepped⟩
  rw [Transition.run_singleton] at stepped
  have own : driveDomain.bindings = [] ++ driveBinding :: [] := rfl
  rcases enabled_only_when_fresh events ran stepped (List.mem_singleton_self _) own (by decide)
    (.inl enabling) with ⟨frame, yielded, commands, -, -⟩
  exact ⟨state, next, ran, stepped, enabling, frame, yielded, commands⟩

end RmdCanSdk
