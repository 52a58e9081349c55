import RmdCanSdk.Driver.InitCases

/-!
# What a failed initialisation leaves behind

`init` cleans up after a start that returns an error, but not after an exception from
the loop over the groups or from a start: whatever was started or retained before stays.
-/

namespace RmdCanSdk

variable {F : Type} [FloatArith F]

namespace DriverSDK

/-- Nothing runs or is retained, and the calls report that the driver is not initialised. -/
structure CleanedUp (sdk : DriverSDK F) : Prop where
  backends : ∀ runtime ∈ sdk.backendRuntimes, runtime.running = false
  imu : sdk.imuBackend ≠ some true
  retained : sdk.backendRuntimes = []
  setMotorTarget : ∀ size, sdk.setTargetsResult size = NotReady
  getMotorActual : ∀ size staleCount, sdk.getActualsResult size staleCount = NotReady
  getBackendStatus : sdk.getBackendStatusesResult = NotReady

omit [FloatArith F] in
theorem cleanedUp_iff {sdk : DriverSDK F} : CleanedUp sdk ↔ Quiet sdk := by
  constructor
  · intro clean
    refine ⟨clean.imu, clean.retained, ?_⟩
    cases initialized : sdk.initialized with
    | false => rfl
    | true =>
        have reported := clean.getBackendStatus
        rw [getBackendStatusesResult, initialized] at reported
        contradiction
  · intro quiet
    exact {
      backends := fun runtime member => by
        rw [quiet.retained] at member
        contradiction
      imu := quiet.imu
      retained := quiet.retained
      setMotorTarget := fun size => by simp [setTargetsResult, quiet.uninitialized]
      getMotorActual := fun size staleCount => by simp [getActualsResult, quiet.uninitialized]
      getBackendStatus := by simp [getBackendStatusesResult, quiet.uninitialized] }

variable {settings : Prepared F}

omit [FloatArith F] in
/-- A motor with an alias beyond the capacity of the frames puts its group beyond them. -/
theorem beyondFrame_of_alias
    (created : MotorRegistry.fromConfig settings.config.toConfig = .ok settings.registry)
    {motor : MotorConfig F} (member : motor ∈ settings.config.motors.motors)
    (beyond : (MaxRealtimeMotors : Int) < motor.alias) :
    ∃ position, beyondFrame settings.registry settings.registry.backends = some position := by
  have wellFormed := MotorRegistry.fromConfig_wellFormed created
  rw [← MotorRegistry.fromConfig_configured created] at member
  rcases List.mem_map.mp member with ⟨runtime, inRegistry, rfl⟩
  have numbered := wellFormed.numbered runtime inRegistry
  rw [← wellFormed.perm_groupMotors.mem_iff] at inRegistry
  rcases List.mem_flatMap.mp inRegistry with ⟨group, inBackends, inGroup⟩
  rcases located : beyondFrame settings.registry settings.registry.backends with - | position
  · have inside := List.findIdx?_eq_none_iff.mp located group inBackends
    rw [Bool.not_eq_false', inFrame, List.all_eq_true] at inside
    have fits := of_decide_eq_true (inside runtime inGroup)
    rw [RuntimeMotor.Numbered] at numbered
    have same : runtime.configured.alias = runtime.alias := rfl
    omega
  · exact ⟨position, rfl⟩

/-- An `init` that throws leaves nothing behind exactly when no exception escapes after
something was started or retained. A motor with an alias beyond the capacity of the
frames always makes it throw. -/
theorem init_all_or_nothing_iff (scanf : Scanf F) (path : String)
    (file : Except String (List XMLElement)) (imu : StartOutcome) (outcomes : Nat → StartOutcome)
    (sdk : DriverSDK F) :
    ((∀ message after, init scanf path file imu outcomes sdk = .error message after →
        CleanedUp after) ↔
      ∀ settings, prepared scanf path file sdk.operatingModes sdk.maxCurrents = .ok settings →
        ¬ Escapes settings imu outcomes) ∧
    ∀ config, loadConfig scanf path file = .ok config →
      (∃ motor ∈ config.motors.motors, (MaxRealtimeMotors : Int) < motor.alias) →
        ∃ message after, init scanf path file imu outcomes sdk = .error message after := by
  rcases checked : prepared scanf path file sdk.operatingModes sdk.maxCurrents with
    message | settings
  · rcases init_of_rejected imu outcomes checked with ⟨after, ended, rejected⟩
    refine ⟨⟨fun _ settings impossible => by contradiction, ?_⟩, fun _ _ _ => ⟨_, _, ended⟩⟩
    intro _ other final thrown
    cases ended.symm.trans thrown
    exact cleanedUp_iff.mpr rejected.toQuiet
  · rw [init_of_prepared imu outcomes checked]
    constructor
    · simp only [cleanedUp_iff, Except.ok.injEq, forall_eq']
      exact startAll_quiet_iff settings imu outcomes
    · rintro config loaded ⟨motor, member, beyond⟩
      rcases prepared_ok checked with ⟨same, created, -, -⟩
      cases loaded.symm.trans same
      by_cases imuStarts : ImuStarts settings.config imu
      · rcases beyondFrame_of_alias created member beyond with ⟨position, located⟩
        exact ⟨_, _, startAll_beyondFrame outcomes imuStarts located⟩
      · rcases startImu_error settings.quiet imuStarts with ⟨message, after, failed, -, -⟩
        exact ⟨message, after, Raising.bind_of_error failed⟩

/-! ## A motor beyond the frames -/

/-- An inertial unit and one CAN motor with the alias 65. -/
def beyondDocument : XMLElement :=
  branch "Config" [
    branch "Motors" [motorElement [("alias", "65")]],
    branch "CAN" [
      branch "Masters" [leaf "Master" [("order", "0")]],
      branch "Slaves" [enabledSlave [("alias", "65"), ("slave_id", "1"), ("type", "RMD")]]],
    leaf "IMU" [("type", "YeSense")]]

/-- The configuration is rejected while the reader of the inertial unit runs. -/
theorem init_leaves_imu_running :
    ∃ message after, init plainScanf "" (.ok [beyondDocument]) (.returned 0)
        (fun _ => .returned 0) (fresh : DriverSDK ℚ) = .error message after ∧
      after.imuBackend = some true ∧ ¬ CleanedUp after := by
  obtain ⟨message, after, failed, runs⟩ : ∃ message after,
      init plainScanf "" (.ok [beyondDocument]) (.returned 0) (fun _ => .returned 0)
        (fresh : DriverSDK ℚ) = .error message after ∧ after.imuBackend = some true :=
    ⟨_, _, rfl, rfl⟩
  exact ⟨message, after, failed, runs, fun clean => clean.imu runs⟩

end DriverSDK

end RmdCanSdk
