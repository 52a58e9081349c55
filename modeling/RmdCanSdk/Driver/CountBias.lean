import RmdCanSdk.Driver.Calls

/-!
# Setting the count biases

`setCntBias` changes the configuration that the driver holds, and `init` replaces this
configuration by the one in its file. A vector is accepted when it has one entry for
each motor of a configuration loaded before, and no later `init` works with it.
-/

namespace RmdCanSdk

variable {F : Type} [FloatArith F]

namespace DriverSDK

/-! ## Configurations that a bias can be set for -/

omit [FloatArith F] in
/-- The aliases are positions in a vector with one entry for each motor. -/
def AliasesInRange (config : Config F) : Prop :=
  ∀ motor ∈ config.motors.motors, 0 < motor.alias ∧ motor.alias ≤ config.totalMotorCount

variable {scanf : Scanf F} {config : LoadedConfig F}

theorem aliasesInRange_loaded {path : String} {file : Except String (List XMLElement)}
    (loaded : loadConfig scanf path file = .ok config) : AliasesInRange config.toConfig := by
  rcases loadConfig_ok loaded with ⟨root, motorParameters, -, loads⟩
  exact loads.configuredBy.inRange

theorem AliasesInRange.withBias (inRange : AliasesInRange config.toConfig)
    (countBias : List Int) : AliasesInRange (DriverSDK.withBias countBias config).toConfig := by
  intro motor member
  rcases List.mem_map.mp member with ⟨original, inConfig, rfl⟩
  rw [alias_biased]
  exact inRange original inConfig

theorem AliasesInRange.call {sdk : DriverSDK F} (inRange : AliasesInRange sdk.config.toConfig)
    (call : Call) : AliasesInRange (call.run scanf sdk).config.toConfig := by
  rcases config_run scanf call sdk with same | ⟨-, countBias, same⟩
  · rw [same]
    cases call with
    | init path file imu outcomes =>
        rw [Call.loaded]
        cases loaded : loadConfig scanf path file with
        | error message => exact inRange
        | ok config => exact aliasesInRange_loaded loaded
    | setMode modes => exact inRange
    | setMaxCurr maxCurr => exact inRange
    | setCntBias cntBias => exact inRange
  · rw [same]
    exact inRange.withBias countBias

theorem aliasesInRange_run (scanf : Scanf F) (calls : List Call) :
    AliasesInRange (run scanf calls fresh).config.toConfig := by
  have initially : AliasesInRange (fresh : DriverSDK F).config.toConfig := by
    intro motor member
    contradiction
  exact List.foldlRecOn (motive := fun sdk : DriverSDK F => AliasesInRange sdk.config.toConfig)
    calls _ initially fun _ inRange call _ => inRange.call call

/-- Only the size of the vector is looked at. -/
theorem setCountBias_accepted_iff (countBias : List Int) {sdk : DriverSDK F}
    (inRange : AliasesInRange sdk.config.toConfig) :
    Raising.result (setCountBias countBias sdk) = .ok 0 ↔
      sdk.initialized = false ∧ (countBias.length : Int) = sdk.config.totalMotorCount := by
  rw [setCountBias_apply]
  split
  next refused =>
    constructor
    · intro accepted
      cases accepted
    · rintro ⟨idle, sized⟩
      rcases refused with initialized | unsized
      · rw [idle] at initialized
        contradiction
      · exact absurd sized unsized
  next accepted =>
    rw [not_or, Bool.not_eq_true, not_not] at accepted
    rcases MotorRegistry.fromConfig_total (inRange.withBias countBias) with ⟨registry, created⟩
    rw [created]
    exact ⟨fun _ => accepted, fun _ => rfl⟩

/-! ## The biases that are used -/

/-- A motor has the bias of its alias in a vector. -/
def BiasFrom (countBias : List Int) (number : Int) (parameters : MotorParameters F) : Prop :=
  ∃ bias, countBias[(number - 1).toNat]? = some bias ∧ parameters.countBias = lit bias

/-- Every motor of the registry is converted with its bias from a vector. -/
def UsesBias (countBias : List Int) (registry : MotorRegistry F) : Prop :=
  ∀ motor ∈ registry.motors, BiasFrom countBias motor.alias motor.parameters

/-- The biases of a vector are those that a configuration has itself. -/
def HasBias (countBias : List Int) (config : Config F) : Prop :=
  ∀ motor ∈ config.motors.motors, BiasFrom countBias motor.alias motor.parameters

theorem usesBias_iff {registry : MotorRegistry F} {countBias : List Int}
    (created : MotorRegistry.fromConfig config.toConfig = .ok registry) :
    UsesBias countBias registry ↔ HasBias countBias config.toConfig := by
  rw [HasBias, ← MotorRegistry.fromConfig_configured created, List.forall_mem_map]
  rfl

/-- A vector is accepted exactly when the driver is not initialised and the vector has
an entry for each motor of the configuration that was loaded last. Whatever is called
then, a successful `init` uses it exactly when its file gives the same biases. -/
theorem setCntBias_takes_effect_iff (scanf : Scanf F) (earlier : List Call)
    (countBias : List Int) :
    (Raising.result (setCountBias countBias (run scanf earlier fresh)) = .ok 0 ↔
      (run scanf earlier fresh).initialized = false ∧
        (countBias.length : Int) = loadedCount scanf earlier) ∧
    ∀ later path file imu outcomes after,
      init scanf path file imu outcomes
          (run scanf (earlier ++ .setCntBias countBias :: later) fresh) = .ok () after →
        ∃ config, loadConfig scanf path file = .ok config ∧
          (UsesBias countBias after.registry ↔ HasBias countBias config.toConfig) := by
  constructor
  · rw [← totalMotorCount_run]
    exact setCountBias_accepted_iff countBias (aliasesInRange_run scanf earlier)
  · intro later path file imu outcomes after ok
    rcases prepared_ok (init_ok ok) with ⟨loaded, created, -⟩
    exact ⟨after.config, loaded, usesBias_iff created⟩

/-- An `init` for one motor whose backend does not start. -/
def failedInit : Call :=
  .init "" (.ok [canDocument ["1"]]) (.returned 0) fun _ => .returned (-1)

/-- Before the first `init` the vector is refused. After an `init` whose backend did not
start it is accepted, and the next `init` works with the bias of its file. -/
theorem setCntBias_without_effect :
    (∃ config : LoadedConfig ℚ, loadConfig plainScanf "" (.ok [canDocument ["1"]]) = .ok config ∧
      config.totalMotorCount = ([5] : List Int).length) ∧
    Raising.result (setCountBias [5] (fresh : DriverSDK ℚ)) = .ok (-1) ∧
    Raising.result (setCountBias [5] (run plainScanf [failedInit] (fresh : DriverSDK ℚ))) = .ok 0 ∧
    ∃ after : DriverSDK ℚ, init plainScanf "" (.ok [canDocument ["1"]]) (.returned 0)
        (fun _ => .returned 0) (run plainScanf [failedInit, .setCntBias [5]] fresh) =
          .ok () after ∧
      ¬ UsesBias [5] after.registry := by
  refine ⟨⟨_, rfl, by decide +kernel⟩, rfl, rfl, ?_⟩
  obtain ⟨after, ok, bias⟩ : ∃ after : DriverSDK ℚ,
      init plainScanf "" (.ok [canDocument ["1"]]) (.returned 0) (fun _ => .returned 0)
        (run plainScanf [failedInit, .setCntBias [5]] fresh) = .ok () after ∧
      after.registry.motors.map (fun motor => motor.parameters.countBias) = [0] :=
    ⟨_, rfl, by decide +kernel⟩
  refine ⟨after, ok, ?_⟩
  intro used
  rcases List.map_eq_singleton_iff.mp bias with ⟨motor, motors, zero⟩
  have member : motor ∈ after.registry.motors := by
    rw [motors]
    exact List.mem_singleton_self motor
  rcases used motor member with ⟨given, inVector, own⟩
  have five : given = 5 := List.mem_singleton.mp (List.mem_of_getElem? inVector)
  rw [zero, five] at own
  exact absurd own (by decide +kernel)

end DriverSDK

end RmdCanSdk
