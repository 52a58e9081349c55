import RmdCanSdk.Ethercat.RealtimeLoop

/-!
# EtherCAT startup

The wait at the end of `start`, which polls the actual buffer while the loop is
already running, and what the frames the loop has published by then show: a motor
is valid in them only with a sample that some cycle decoded.
-/

namespace RmdCanSdk

variable {F : Type} [FloatArith F]

/-! ## The wait -/

def readyForBinding (frame : MotorActualFrame F) (binding : EthercatPdoBinding F) : Bool :=
  decide (binding.globalIndex ≥ MaxRealtimeMotors) ||
    (frame.valid binding.globalIndex && !frame.stale binding.globalIndex &&
      decide ((frame.actuals binding.globalIndex).statusWord ≠ 0xffff) &&
      decide ((frame.actuals binding.globalIndex).errorCode = 0))

def frameReadyForBindings (frame : MotorActualFrame F)
    (bindings : List (EthercatPdoBinding F)) : Bool :=
  bindings.all (readyForBinding frame)

/-- What the wait remembers between two polls. -/
structure StartupWait where
  consecutiveReady : Nat
  lastSequence : BitVec 64

namespace StartupWait

def begin : StartupWait where
  consecutiveReady := 0
  lastSequence := 0

/-- One poll, and whether it ends the wait. A frame seen before counts neither way. -/
def poll (startupReadyFrames : Nat) (bindings : List (EthercatPdoBinding F)) (wait : StartupWait)
    (frame : MotorActualFrame F) : Bool × StartupWait :=
  if frame.sequence = wait.lastSequence then (false, wait)
  else if frameReadyForBindings frame bindings then
    (decide (wait.consecutiveReady + 1 ≥ startupReadyFrames), {
      consecutiveReady := wait.consecutiveReady + 1
      lastSequence := frame.sequence })
  else (false, {
    consecutiveReady := 0
    lastSequence := frame.sequence })

variable {startupReadyFrames : Nat} {bindings : List (EthercatPdoBinding F)}
variable {wait : StartupWait} {frame : MotorActualFrame F}

omit [FloatArith F] in
theorem poll_seen (seen : frame.sequence = wait.lastSequence) :
    wait.poll startupReadyFrames bindings frame = (false, wait) :=
  if_pos seen

end StartupWait

/-! ## What the published frames show -/

/-- The sample was decoded for the motor with this index in one of the cycles. -/
def DecodedIn (domains : EthercatDomains F) (index : Nat) (history : List RealtimeEvent)
    (actual : MotorActual F) : Prop :=
  ∃ input, .cycle input ∈ history ∧
    ∃ bound ∈ domains.bound, bound.2.globalIndex = index ∧
      input.feedback bound.1 bound.2 = some actual

/-- A published frame marks a motor of a binding valid only with a decoded sample. -/
def Reports (history : List RealtimeEvent) (runtime : RmdEthercatRuntime F) : Prop :=
  ∀ frame ∈ runtime.actualBuffer.published, ∀ bound ∈ runtime.domains.bound,
    frame.valid bound.2.globalIndex = true →
      DecodedIn runtime.domains bound.2.globalIndex history (frame.actuals bound.2.globalIndex)

variable {domains : EthercatDomains F} {index : Nat} {history : List RealtimeEvent}
variable {runtime next : RmdEthercatRuntime F} {event : RealtimeEvent} {actual : MotorActual F}

theorem DecodedIn.concat (decoded : DecodedIn domains index history actual)
    (event : RealtimeEvent) : DecodedIn domains index (history ++ [event]) actual := by
  rcases decoded with ⟨input, occurred, decoded⟩
  exact ⟨input, List.mem_append_left _ occurred, decoded⟩

/-- Before the first cycle nothing is published. -/
theorem Reports.started (domains : EthercatDomains F) (totalMotorCount : Nat)
    (commandTimeout : Time) (initial : MotorActualFrame F) (now : Time) :
    Reports [] (RmdEthercatRuntime.started domains totalMotorCount commandTimeout
      (LatestValue.start initial) now) := by
  intro frame published
  exact absurd published List.not_mem_nil

/-- After a cycle the working frame marks a motor valid only when this cycle decoded
its sample. -/
theorem feedback_of_valid {input : CycleInput} {target : EthercatPackedTargetFrame}
    {bound : EthercatDomainRuntime F × EthercatPdoBinding F}
    (member : bound ∈ runtime.domains.bound)
    (valid : (runtime.cycle input target).workingActuals.valid bound.2.globalIndex = true) :
    input.feedback bound.1 bound.2 =
      some ((runtime.cycle input target).workingActuals.actuals bound.2.globalIndex) := by
  have entry := RmdEthercatRuntime.entry_cycle input target member
  cases decoded : input.feedback bound.1 bound.2 with
  | none =>
      rw [decoded] at entry
      have marked : _ = false := congrArg MotorEntry.valid entry
      exact absurd (marked.symm.trans valid) Bool.false_ne_true
  | some actual =>
      rw [decoded] at entry
      have same : _ = actual := congrArg MotorEntry.actual entry
      exact congrArg some same.symm

theorem Reports.step (reports : Reports history runtime)
    (stepped : runtime.step event = some next) : Reports (history ++ [event]) next := by
  cases event with
  | setMotorTarget target =>
      rw [(RmdEthercatRuntime.step_setMotorTarget stepped).2.2]
      intro frame published bound member valid
      exact (reports frame published bound member valid).concat _
  | cycle input =>
      rcases RmdEthercatRuntime.step_cycle stepped with ⟨-, target, -, rfl⟩
      have appended : (runtime.cycle input target).actualBuffer.values =
        runtime.actualBuffer.values ++ [(runtime.cycle input target).workingActuals] := rfl
      intro frame published bound member valid
      rw [LatestValue.published_of_concat appended] at published
      rcases List.mem_append.mp published with earlier | own
      · exact (reports frame earlier bound member valid).concat _
      · rw [List.mem_singleton.mp own] at valid ⊢
        exact ⟨input, List.mem_append_right _ (List.mem_singleton_self _), bound, member, rfl,
          feedback_of_valid member valid⟩

end RmdCanSdk
