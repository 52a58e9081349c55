import RmdCanSdk.Bench.Programs
import RmdCanSdk.Can.Command
import RmdCanSdk.Driver.Targets

/-!
# What a session leaves on the buses

The last command of a session becomes the targets that the backends go on writing. They do not
let any motor run.
-/

namespace RmdCanSdk.Bench

variable {F : Type} [FloatArith F]

section

variable {count : Nat}

theorem get_disabled (targets : Command F count) (i : Fin count) :
    ((disabled targets).get i).enabled = 0 := by
  have entry : (disabled targets).get i = _ := Vector.getElem_map _ i.isLt
  rw [entry]

/-- The last command of a program that has ended disables all motors. -/
theorem Script.Ended.last {script : Script F count} {observed : Observed F count}
    (ended : script.Ended observed) {last : Command F count}
    (isLast : observed.commands.getLast? = some last) (i : Fin count) :
    (last.get i).enabled = 0 := by
  rcases ended with nothing | ⟨captured, since, number, m, -, commands⟩
  · rw [nothing] at isLast
    contradiction
  · rw [commands, List.replicate_succ', ← List.append_assoc, List.getLast?_concat] at isLast
    cases isLast
    exact get_disabled _ i

end

/-- When a session has ended after any command, the targets that its last command has left keep
every EtherCAT drive at Shutdown, whatever it reports, and every CAN motor at the command for no
target at all. -/
theorem session_leaves_disabled (registry : MotorRegistry F) (wellFormed : registry.WellFormed)
    (session : Session F registry.totalMotorCount.toNat)
    (answers : List ((call : Call F registry.totalMotorCount.toNat) → Response call)) (code : Int)
    (ended : (session.program.run answers).2 = .done code)
    (last : Command F registry.totalMotorCount.toNat)
    (isLast : ((session.program.run answers).1.foldl observe .nothing).commands.getLast? =
      some last)
    (operatingModes : List Int) (maxCurrents : List (BitVec 16)) (metadata : FrameMetadata)
    (frames : TargetFrames F)
    (published : targetFrames registry.motors operatingModes maxCurrents metadata last.toList =
      some frames) :
    ∀ motor ∈ registry.motors,
      (motor.bus = .ethercat → ∀ (actuals : MotorActualFrame F) (binding : EthercatPdoBinding F),
        binding.globalIndex = motor.globalIndex →
          writtenControlWord frames.ethercat actuals binding = 0x0006) ∧
      (motor.bus = .can →
        mitCommand motor (frames.can.targets motor.globalIndex) = mitCommand motor default) := by
  intro motor member
  rcases targetFrames_converted wellFormed.nodup_globalIndex member published with
    ⟨item, present, converted⟩
  have inside : motor.globalIndex < registry.totalMotorCount.toNat := by
    have numbered := wellFormed.numbered motor member
    have positive := numbered.1
    have counted := numbered.2.1
    rw [numbered.2.2]
    omega
  have own : last.toList[motor.globalIndex]? = some (last.get ⟨motor.globalIndex, inside⟩) := by
    rw [List.getElem?_eq_getElem (by rwa [Vector.length_toList]), Vector.getElem_toList]
    rfl
  have disables : item.enabled = 0 := by
    rw [← Option.some.inj (own.symm.trans present)]
    exact Script.Ended.last (Session.safe_program.post_run answers ended) isLast _
  constructor
  · intro isEthercat actuals binding same
    rcases converted.ethercat isEthercat with ⟨valid, mode, maxCurrent, -, -, target⟩
    rw [writtenControlWord, packedTarget, same, if_pos valid, target]
    dsimp only [ethercatTarget, packEthercatTargetForRealtime, toEthercatTarget]
    rw [disables]
    rfl
  · intro isCan
    rw [(converted.can isCan).2]
    have left : (canTarget item motor.parameters).enabled ≠ 1 := by
      change item.enabled ≠ 1
      rw [disables]
      decide
    have right : (default : MotorTarget F).enabled ≠ 1 := Int.zero_ne_one
    rw [mitCommand, mitCommand, transmittedTarget_disabled motor left,
      transmittedTarget_disabled motor right]

/-- The driver refuses the first target. -/
def refusing : (call : Call ℚ 1) → Response call
  | .setMotorTarget _ => (-1 : Int)
  | call => enabledAtHalf call

def refusedSession : Session ℚ benchRegistry.totalMotorCount.toNat :=
  holdPosition benchRegistry (MotorRegistry.fromConfig_wellFormed benchRegistry_loaded).toGrouped
    benchArguments .current

def refusedCommand : Command ℚ benchRegistry.totalMotorCount.toNat :=
  disabled (refusedSession.command (enabledAtHalf .getMotorActual).2 0)

theorem refused_ended :
    (refusedSession.program.run (List.replicate 150 refusing)).2 = .done 1 := rfl

theorem refused_last : ((refusedSession.program.run (List.replicate 150 refusing)).1.foldl observe
    .nothing).commands.getLast? = some refusedCommand := rfl

theorem session_leaves_disabled_refused :
    ∃ frames, targetFrames benchRegistry.motors [8] [1000] default refusedCommand.toList =
        some frames ∧
      ∀ motor ∈ benchRegistry.motors,
        (motor.bus = .ethercat → ∀ (actuals : MotorActualFrame ℚ) (binding : EthercatPdoBinding ℚ),
          binding.globalIndex = motor.globalIndex →
            writtenControlWord frames.ethercat actuals binding = 0x0006) ∧
        (motor.bus = .can →
          mitCommand motor (frames.can.targets motor.globalIndex) = mitCommand motor default) := by
  have inData : 0 < refusedCommand.toList.length := by
    rw [Vector.length_toList]
    decide
  have exists_frames : ∃ frames, targetFrames benchRegistry.motors [8] [1000] default
      refusedCommand.toList = some frames :=
    targetFrames_isSome (List.forall_mem_singleton.mpr inData)
      (List.forall_mem_singleton.mpr Nat.one_pos) (List.forall_mem_singleton.mpr Nat.one_pos)
  rcases exists_frames with ⟨frames, published⟩
  exact ⟨frames, published, session_leaves_disabled benchRegistry
    (MotorRegistry.fromConfig_wellFormed benchRegistry_loaded) refusedSession
    (List.replicate 150 refusing) 1 refused_ended refusedCommand refused_last [8] [1000] default
    frames published⟩

end RmdCanSdk.Bench
