import RmdCanSdk.Driver.InitCases

/-!
# Histories of calls

The calls that change the members of the driver, in any order and with any outcome.
An exception ends the call and leaves the members as they are.
-/

namespace RmdCanSdk

variable {F : Type} [FloatArith F]

namespace DriverSDK

/-! ## The end of `init` -/

section

variable (scanf : Scanf F) (path : String) (file : Except String (List XMLElement))
variable (imu : StartOutcome) (outcomes : Nat → StartOutcome) (sdk : DriverSDK F)

/-- However `init` ends, it has taken over all of its settings or rejected the file. -/
theorem init_settled :
    (∃ settings, prepared scanf path file sdk.operatingModes sdk.maxCurrents = .ok settings ∧
      settingsOf (Raising.finalState (init scanf path file imu outcomes sdk)) = settings) ∨
    ∃ message, prepared scanf path file sdk.operatingModes sdk.maxCurrents = .error message ∧
      Rejected scanf path file sdk
        (Raising.finalState (init scanf path file imu outcomes sdk)) := by
  cases checked : prepared scanf path file sdk.operatingModes sdk.maxCurrents with
  | ok settings =>
      refine .inl ⟨settings, rfl, ?_⟩
      rw [init_of_prepared imu outcomes checked]
      exact leaves_startAll imu outcomes settings.idle
  | error message =>
      rcases init_of_rejected imu outcomes checked with ⟨after, ended, rejected⟩
      refine .inr ⟨message, rfl, ?_⟩
      rw [ended]
      exact rejected

variable {scanf path file imu outcomes sdk}

/-- A successful `init` works with the settings of its file. -/
theorem init_ok {after : DriverSDK F} (ok : init scanf path file imu outcomes sdk = .ok () after) :
    prepared scanf path file sdk.operatingModes sdk.maxCurrents = .ok (settingsOf after) := by
  cases checked : prepared scanf path file sdk.operatingModes sdk.maxCurrents with
  | ok settings =>
      have kept := leaves_startAll imu outcomes settings.idle
      rw [← init_of_prepared imu outcomes checked, ok] at kept
      exact congrArg Except.ok kept.symm
  | error message =>
      rcases init_of_rejected imu outcomes checked with ⟨between, ended, -⟩
      cases ok.symm.trans ended

/-- The file of the last `init` that could be loaded gives the configuration. -/
theorem config_init : (Raising.finalState (init scanf path file imu outcomes sdk)).config =
    (loadConfig scanf path file).toOption.getD sdk.config := by
  rcases init_settled scanf path file imu outcomes sdk with
    ⟨settings, checked, same⟩ | ⟨-, -, rejected⟩
  · rcases prepared_ok checked with ⟨loaded, -⟩
    rw [loaded]
    exact congrArg Prepared.config same
  · exact rejected.config

end

/-! ## Calls -/

/-- A call of a public function that can change the members. -/
inductive Call where
  | init (path : String) (file : Except String (List XMLElement)) (imu : StartOutcome)
      (outcomes : Nat → StartOutcome)
  | setMode (modes : List Int)
  | setMaxCurr (maxCurr : List (BitVec 16))
  | setCntBias (cntBias : List Int)

/-- The driver after a call. -/
def Call.run (scanf : Scanf F) (sdk : DriverSDK F) : Call → DriverSDK F
  | .init path file imu outcomes =>
      Raising.finalState (DriverSDK.init scanf path file imu outcomes sdk)
  | .setMode modes => Raising.finalState (DriverSDK.setMode modes sdk)
  | .setMaxCurr maxCurr => Raising.finalState (setMaxCurrents maxCurr sdk)
  | .setCntBias cntBias => Raising.finalState (setCountBias cntBias sdk)

/-- The driver after a history of calls. -/
def run (scanf : Scanf F) (calls : List Call) (sdk : DriverSDK F) : DriverSDK F :=
  calls.foldl (Call.run scanf) sdk

/-- The configuration that a call loads. -/
def Call.loaded (scanf : Scanf F) : Call → Option (LoadedConfig F)
  | .init path file _ _ => (loadConfig scanf path file).toOption
  | _ => none

/-- The number of motors of the last configuration that was loaded, 0 at first. -/
def loadedCount (scanf : Scanf F) (calls : List Call) : Int :=
  (calls.filterMap fun call =>
    (call.loaded scanf).map fun config => config.totalMotorCount).getLast?.getD 0

variable {scanf : Scanf F} {sdk : DriverSDK F}

omit [FloatArith F] in
theorem setMode_apply (modes : List Int) (sdk : DriverSDK F) :
    DriverSDK.setMode modes sdk =
      if sdk.initialized then .ok (-1) sdk else .ok 0 { sdk with operatingModes := modes } := by
  rw [DriverSDK.setMode, Raising.bind_of_ok Raising.get_apply]
  split
  · rfl
  · rfl

omit [FloatArith F] in
theorem setMaxCurrents_apply (maxCurrents : List (BitVec 16)) (sdk : DriverSDK F) :
    setMaxCurrents maxCurrents sdk =
      if sdk.initialized then .ok (-1) sdk else .ok 0 { sdk with maxCurrents := maxCurrents } := by
  rw [setMaxCurrents, Raising.bind_of_ok Raising.get_apply]
  split
  · rfl
  · rfl

/-- The configuration that `setCountBias` makes. -/
def withBias (countBias : List Int) (config : LoadedConfig F) : LoadedConfig F := { config with
  motors := withCountBias countBias config.motors }

/-- `setCountBias` refuses, or it changes the configuration and then the registry, if
the configuration has one. -/
theorem setCountBias_apply (countBias : List Int) (sdk : DriverSDK F) :
    setCountBias countBias sdk =
      if sdk.initialized = true ∨ (countBias.length : Int) ≠ sdk.config.totalMotorCount then
        .ok (-1) sdk
      else match MotorRegistry.fromConfig (withBias countBias sdk.config).toConfig with
        | .error message => .error message { sdk with config := withBias countBias sdk.config }
        | .ok registry => .ok 0 { sdk with
            config := withBias countBias sdk.config
            registry := registry } := by
  rw [setCountBias, Raising.bind_of_ok Raising.get_apply]
  by_cases initialized : sdk.initialized = true
  · rw [if_pos initialized, if_pos (.inl initialized)]
    rfl
  · rw [if_neg initialized]
    by_cases sized : (countBias.length : Int) = sdk.config.totalMotorCount
    · rw [if_neg (not_not.mpr sized), if_neg (not_or.mpr ⟨initialized, not_not.mpr sized⟩),
        Raising.bind_of_ok (Raising.modify_apply _)]
      change (Raising.lift (MotorRegistry.fromConfig (withBias countBias sdk.config).toConfig) >>=
        _) _ = _
      cases created : MotorRegistry.fromConfig (withBias countBias sdk.config).toConfig with
      | error message => rfl
      | ok registry => rfl
    · rw [if_pos sized, if_pos (.inr sized)]
      rfl

/-- A call loads a configuration, sets biases, or leaves the configuration alone. -/
theorem config_run (scanf : Scanf F) (call : Call) (sdk : DriverSDK F) :
    (call.run scanf sdk).config = (call.loaded scanf).getD sdk.config ∨
      (call.loaded scanf = none ∧
        ∃ countBias, (call.run scanf sdk).config = withBias countBias sdk.config) := by
  cases call with
  | init path file imu outcomes => exact .inl config_init
  | setMode modes =>
      left
      rw [Call.run, setMode_apply]
      split
      · rfl
      · rfl
  | setMaxCurr maxCurr =>
      left
      rw [Call.run, setMaxCurrents_apply]
      split
      · rfl
      · rfl
  | setCntBias cntBias =>
      rw [Call.run, setCountBias_apply]
      split
      · exact .inl rfl
      · right
        refine ⟨rfl, cntBias, ?_⟩
        split
        · rfl
        · rfl

theorem totalMotorCount_call (scanf : Scanf F) (sdk : DriverSDK F) (call : Call) :
    ((call.loaded scanf).map fun config => config.totalMotorCount).getD
        sdk.config.totalMotorCount = (call.run scanf sdk).config.totalMotorCount := by
  rcases config_run scanf call sdk with same | ⟨none, countBias, same⟩
  · rw [same]
    cases call.loaded scanf with
    | none => rfl
    | some config => rfl
  · rw [same, none]
    rfl

theorem totalMotorCount_run (scanf : Scanf F) (calls : List Call) :
    (run scanf calls fresh).config.totalMotorCount = loadedCount scanf calls := by
  rw [run, loadedCount, ← foldl_getD]
  exact (List.foldl_hom (fun sdk : DriverSDK F => sdk.config.totalMotorCount) fun sdk call =>
    totalMotorCount_call scanf sdk call).symm

end DriverSDK

end RmdCanSdk
