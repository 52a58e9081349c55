import RmdCanSdk.Driver.EveryMotor
import RmdCanSdk.Driver.Init

/-!
# What `init` can do

Each part of `init` once: the settings are made or rejected before anything starts, the
inertial unit starts or not, the loop over the groups ends at the first group with a
motor beyond the frame, and the loop over the backends at the first start that does not
return zero.
-/

namespace RmdCanSdk

variable {F : Type} [FloatArith F]

namespace DriverSDK

/-! ## The settings -/

/-- The settings an `init` works with. -/
structure Prepared (F : Type) where
  config : LoadedConfig F
  registry : MotorRegistry F
  operatingModes : List Int
  maxCurrents : List (BitVec 16)

/-- The settings that a file gives together with the modes and currents made before. -/
def prepared (scanf : Scanf F) (path : String) (file : Except String (List XMLElement))
    (operatingModes : List Int) (maxCurrents : List (BitVec 16)) : Except String (Prepared F) := do
  let config ← loadConfig scanf path file
  let registry ← MotorRegistry.fromConfig config.toConfig
  let operatingModes ← ensureOperatingModes operatingModes config.totalMotorCount.toNat
  let maxCurrents ← ensureMaxCurrents maxCurrents config.totalMotorCount.toNat
  return { config, registry, operatingModes, maxCurrents }

/-- The driver with its settings made and nothing started. -/
def Prepared.idle (settings : Prepared F) : DriverSDK F where
  config := settings.config
  registry := settings.registry
  imuBackend := none
  backendRuntimes := []
  operatingModes := settings.operatingModes
  maxCurrents := settings.maxCurrents
  initialized := false

/-- Nothing runs, nothing is retained, and the driver is not initialised. -/
structure Quiet (sdk : DriverSDK F) : Prop where
  imu : sdk.imuBackend ≠ some true
  retained : sdk.backendRuntimes = []
  uninitialized : sdk.initialized = false

/-- What the driver may have taken over from a file that it rejects. -/
structure Rejected (scanf : Scanf F) (path : String) (file : Except String (List XMLElement))
    (sdk after : DriverSDK F) : Prop extends Quiet after where
  config : after.config = (loadConfig scanf path file).toOption.getD sdk.config
  operatingModes : after.operatingModes = sdk.operatingModes ∨
    ∃ config, loadConfig scanf path file = .ok config ∧
      ensureOperatingModes sdk.operatingModes config.totalMotorCount.toNat =
        .ok after.operatingModes
  maxCurrents : after.maxCurrents = sdk.maxCurrents

variable {scanf : Scanf F} {path : String} {file : Except String (List XMLElement)}

omit [FloatArith F] in
theorem quiet_stop (sdk : DriverSDK F) : Quiet sdk.stop :=
  ⟨by simp [stop], rfl, rfl⟩

omit [FloatArith F] in
theorem Prepared.quiet (settings : Prepared F) : Quiet settings.idle :=
  ⟨by simp [idle], rfl, rfl⟩

variable {sdk : DriverSDK F} {settings : Prepared F} {message : String}

/-- The settings of an `init` come with their registry. -/
theorem prepared_ok {operatingModes : List Int} {maxCurrents : List (BitVec 16)}
    (ok : prepared scanf path file operatingModes maxCurrents = .ok settings) :
    loadConfig scanf path file = .ok settings.config ∧
      MotorRegistry.fromConfig settings.config.toConfig = .ok settings.registry ∧
      ensureOperatingModes operatingModes settings.config.totalMotorCount.toNat =
        .ok settings.operatingModes ∧
      ensureMaxCurrents maxCurrents settings.config.totalMotorCount.toNat =
        .ok settings.maxCurrents := by
  rcases bind_eq_ok ok with ⟨config, loaded, ok⟩
  rcases bind_eq_ok ok with ⟨registry, created, ok⟩
  rcases bind_eq_ok ok with ⟨modes, ensuredModes, ok⟩
  rcases bind_eq_ok ok with ⟨currents, ensuredCurrents, ok⟩
  cases ok
  exact ⟨loaded, created, ensuredModes, ensuredCurrents⟩

theorem loadSettings_ok
    (ok : prepared scanf path file sdk.operatingModes sdk.maxCurrents = .ok settings) :
    loadSettings scanf path file sdk = .ok () settings.idle := by
  rcases bind_eq_ok ok with ⟨config, loaded, ok⟩
  rcases bind_eq_ok ok with ⟨registry, created, ok⟩
  rcases bind_eq_ok ok with ⟨operatingModes, modes, ok⟩
  rcases bind_eq_ok ok with ⟨maxCurrents, currents, ok⟩
  cases ok
  have sameModes : sdk.stop.operatingModes = sdk.operatingModes := rfl
  have sameCurrents : sdk.stop.maxCurrents = sdk.maxCurrents := rfl
  simp [loadSettings, Raising.bind_apply, loaded, created, sameModes, modes, sameCurrents, currents]
  rfl

/-- The first check that fails ends `init` with nothing started. -/
theorem loadSettings_error
    (failed : prepared scanf path file sdk.operatingModes sdk.maxCurrents = .error message) :
    ∃ after, loadSettings scanf path file sdk = .error message after ∧
      Rejected scanf path file sdk after := by
  have quiet := quiet_stop sdk
  have sameModes : sdk.stop.operatingModes = sdk.operatingModes := rfl
  have sameCurrents : sdk.stop.maxCurrents = sdk.maxCurrents := rfl
  rcases bind_eq_error failed with loaded | ⟨config, loaded, failed⟩
  · refine ⟨sdk.stop, ?_, quiet, ?_, .inl rfl, rfl⟩
    · simp [loadSettings, Raising.bind_apply, loaded]
    · rw [loaded]
      rfl
  have taken : config = (loadConfig scanf path file).toOption.getD sdk.config := by
    rw [loaded]
    rfl
  rcases bind_eq_error failed with created | ⟨registry, created, failed⟩
  · refine ⟨{ sdk.stop with config := config }, ?_,
      ⟨quiet.imu, quiet.retained, quiet.uninitialized⟩, taken, .inl rfl, rfl⟩
    simp [loadSettings, Raising.bind_apply, loaded, created]
  rcases bind_eq_error failed with modes | ⟨operatingModes, modes, failed⟩
  · refine ⟨{ sdk.stop with config := config, registry := registry }, ?_,
      ⟨quiet.imu, quiet.retained, quiet.uninitialized⟩, taken, .inl rfl, rfl⟩
    simp [loadSettings, Raising.bind_apply, loaded, created, sameModes, modes]
  rcases bind_eq_error failed with currents | ⟨maxCurrents, currents, failed⟩
  · refine ⟨{ sdk.stop with
        config := config, registry := registry, operatingModes := operatingModes }, ?_,
      ⟨quiet.imu, quiet.retained, quiet.uninitialized⟩, taken,
      .inr ⟨config, loaded, modes⟩, rfl⟩
    simp [loadSettings, Raising.bind_apply, loaded, created, sameModes, modes, sameCurrents,
      currents]
  · contradiction

/-- With its settings made `init` goes on to the starts. -/
theorem init_of_prepared (imu : StartOutcome) (outcomes : Nat → StartOutcome)
    (checked : prepared scanf path file sdk.operatingModes sdk.maxCurrents = .ok settings) :
    init scanf path file imu outcomes sdk = startAll imu outcomes settings.idle :=
  Raising.bind_of_ok (loadSettings_ok checked)

theorem init_of_rejected (imu : StartOutcome) (outcomes : Nat → StartOutcome)
    (failed : prepared scanf path file sdk.operatingModes sdk.maxCurrents = .error message) :
    ∃ after, init scanf path file imu outcomes sdk = .error message after ∧
      Rejected scanf path file sdk after := by
  rcases loadSettings_error failed with ⟨after, ended, rejected⟩
  exact ⟨after, Raising.bind_of_error ended, rejected⟩

/-! ## The inertial unit -/

/-- The inertial unit is not configured, or its start succeeds. -/
def ImuStarts (config : LoadedConfig F) (imu : StartOutcome) : Prop :=
  config.imu.enabled = true → config.imu.start imu = .returned 0

omit [FloatArith F]

theorem startImu_ok {imu : StartOutcome} (starts : ImuStarts sdk.config imu) :
    startImu imu sdk = .ok () { sdk with
      imuBackend := if sdk.config.imu.enabled then some true else sdk.imuBackend } := by
  cases enabled : sdk.config.imu.enabled with
  | false => simp [startImu, Raising.bind_apply, enabled]
  | true => simp [startImu, Raising.bind_apply, enabled, starts enabled]

theorem startImu_error {imu : StartOutcome} (quiet : Quiet sdk)
    (fails : ¬ ImuStarts sdk.config imu) :
    ∃ message after, startImu imu sdk = .error message after ∧ Quiet after ∧
      (message = "starting IMU backend failed" ∨ ∃ running, imu = .threw message running) := by
  rw [ImuStarts, Classical.not_imp] at fails
  rcases fails with ⟨enabled, fails⟩
  cases outcome : sdk.config.imu.start imu with
  | threw message running =>
      have own : imu = .threw message running := by
        simp only [ImuConfig.start] at outcome
        generalize (if sdk.config.imu.normalizedType = "" then sdk.config.imu.type
          else sdk.config.imu.normalizedType) = type at outcome
        split at outcome
        next => exact outcome
        next => contradiction
      refine ⟨message, { sdk with imuBackend := some false }, ?_,
        ⟨by simp, quiet.retained, quiet.uninitialized⟩, .inr ⟨running, own⟩⟩
      simp [startImu, Raising.bind_apply, enabled, outcome]
  | returned result =>
      have nonzero : result ≠ 0 := fun zero => fails (zero ▸ outcome)
      refine ⟨"starting IMU backend failed", stop { sdk with imuBackend := some false }, ?_,
        quiet_stop _, .inl rfl⟩
      simp [startImu, Raising.bind_apply, enabled, outcome, nonzero]

/-! ## The groups -/

/-- The first group with a motor beyond the frame. -/
def beyondFrame (registry : MotorRegistry F) : List BackendGroup → Option Nat :=
  List.findIdx? fun group => !inFrame registry group

def idleBackend (group : BackendGroup) : RetainedBackend where
  group := group
  running := false

/-- The backends before the first group beyond the frame are retained. -/
theorem forM_retainBackend (groups : List BackendGroup) (sdk : DriverSDK F) :
    groups.forM retainBackend sdk =
      match beyondFrame sdk.registry groups with
      | none => .ok () { sdk with
          backendRuntimes := sdk.backendRuntimes ++ groups.map idleBackend }
      | some position => .error "bitset::set" { sdk with
          backendRuntimes := sdk.backendRuntimes ++ (groups.take position).map idleBackend } := by
  induction groups generalizing sdk with
  | nil => simp [beyondFrame]
  | cons group rest ih =>
      rw [Raising.forM_cons, Raising.bind_apply]
      cases inside : inFrame sdk.registry group with
      | false => simp [retainBackend, Raising.bind_apply, beyondFrame, List.findIdx?_cons, inside]
      | true =>
          simp only [retainBackend, Raising.bind_apply, Raising.get_apply, inside, if_true,
            Raising.modify_apply]
          rw [ih]
          simp only [beyondFrame, List.findIdx?_cons, inside, Bool.not_true]
          cases List.findIdx? (fun group => !inFrame sdk.registry group) rest with
          | none => simp [idleBackend]
          | some position => simp [idleBackend]

/-! ## The backends -/

/-- How the start of the backend at a position ends; beyond the last there is none. -/
def startOf (config : LoadedConfig F) (groups : List BackendGroup) (outcomes : Nat → StartOutcome)
    (index : Nat) : StartOutcome :=
  match groups[index]? with
  | none => .returned 0
  | some group => backendStart config group (outcomes index)

def groups (sdk : DriverSDK F) : List BackendGroup :=
  sdk.backendRuntimes.map RetainedBackend.group

/-- The first start that does not return zero. -/
def firstFailure : List StartOutcome → Option StartOutcome :=
  List.find? fun outcome => decide (outcome ≠ .returned 0)

theorem groups_setRunning {index : Nat} {runtime : RetainedBackend}
    (present : sdk.backendRuntimes[index]? = some runtime) (running : Bool) :
    (setRunning index runtime running sdk).groups = sdk.groups := by
  rcases List.getElem?_eq_some_iff.mp present with ⟨inBounds, rfl⟩
  rw [groups, groups, setRunning, List.map_set]
  apply List.ext_getElem?
  intro position
  by_cases own : index = position
  · subst own
    rw [List.getElem?_set_self (by simpa using inBounds), List.getElem?_map,
      List.getElem?_eq_getElem inBounds]
    rfl
  · rw [List.getElem?_set_ne own]

/-- One iteration: the backend runs, or `init` ends, after `stop` if the start returned. -/
theorem startBackend_cases (outcomes : Nat → StartOutcome) (index : Nat) (sdk : DriverSDK F) :
    match startOf sdk.config sdk.groups outcomes index with
    | .returned result =>
        if result = 0 then ∃ after, startBackend outcomes index sdk = .ok () after ∧
          after.groups = sdk.groups ∧ after.config = sdk.config
        else startBackend outcomes index sdk = .error "starting motor backend failed" sdk.stop
    | .threw message _ => ∃ after, startBackend outcomes index sdk = .error message after ∧
        after.groups = sdk.groups := by
  rw [startOf, groups, List.getElem?_map]
  cases present : sdk.backendRuntimes[index]? with
  | none =>
      refine ⟨sdk, ?_, rfl, rfl⟩
      simp [startBackend, Raising.bind_apply, present]
  | some runtime =>
      simp only [Option.map_some]
      cases outcome : backendStart sdk.config runtime.group (outcomes index) with
      | threw message running =>
          refine ⟨setRunning index runtime running sdk, ?_, groups_setRunning present running⟩
          simp [startBackend, Raising.bind_apply, present, outcome]
      | returned result =>
          dsimp only
          split
          next zero =>
            refine ⟨setRunning index runtime true sdk, ?_, groups_setRunning present true, rfl⟩
            simp [startBackend, Raising.bind_apply, present, outcome, zero]
          next nonzero =>
            simp [startBackend, Raising.bind_apply, present, outcome, nonzero]

/-- The loop ends with the first start that does not return zero. -/
theorem forM_startBackend (outcomes : Nat → StartOutcome) (indices : List Nat)
    (sdk : DriverSDK F) :
    match firstFailure (indices.map (startOf sdk.config sdk.groups outcomes)) with
    | none => ∃ after, indices.forM (startBackend outcomes) sdk = .ok () after
    | some (.returned _) => ∃ before, indices.forM (startBackend outcomes) sdk =
        .error "starting motor backend failed" (stop before)
    | some (.threw message _) => ∃ after, indices.forM (startBackend outcomes) sdk =
        .error message after ∧ after.groups = sdk.groups := by
  induction indices generalizing sdk with
  | nil => exact ⟨sdk, rfl⟩
  | cons index rest ih =>
      have first := startBackend_cases outcomes index sdk
      rw [List.map_cons, firstFailure, List.find?_cons, Raising.forM_cons]
      cases outcome : startOf sdk.config sdk.groups outcomes index with
      | threw message running =>
          rw [outcome] at first
          rcases first with ⟨after, ended, kept⟩
          simp only [ne_eq, reduceCtorEq, not_false_eq_true, decide_true]
          exact ⟨after, Raising.bind_of_error ended, kept⟩
      | returned result =>
          rw [outcome] at first
          dsimp only at first
          by_cases zero : result = 0
          · subst zero
            rcases first with ⟨after, ended, kept, config⟩
            have others := ih after
            rw [kept, config] at others
            simp only [ne_eq, not_true_eq_false, decide_false]
            rw [Raising.bind_of_ok ended]
            exact others
          · rw [if_neg zero] at first
            simp only [ne_eq, StartOutcome.returned.injEq, zero, not_false_eq_true, decide_true]
            exact ⟨sdk, Raising.bind_of_error first⟩

/-! ## All starts -/

/-- The starts of the backends, in their order. -/
def starts (settings : Prepared F) (outcomes : Nat → StartOutcome) : List StartOutcome :=
  (List.range settings.registry.backends.length).map
    (startOf settings.config settings.registry.backends outcomes)

/-- An exception ends `init` when something is running or retained: a group beyond the
frame after the inertial unit was started or after another group, or a start that
throws before one returns an error. -/
def Escapes (settings : Prepared F) (imu : StartOutcome) (outcomes : Nat → StartOutcome) : Prop :=
  ImuStarts settings.config imu ∧
    match beyondFrame settings.registry settings.registry.backends with
    | some position => settings.config.imu.enabled = true ∨ position ≠ 0
    | none => ∃ message running,
        firstFailure (starts settings outcomes) = some (.threw message running)

variable {imu : StartOutcome}

/-- The driver after the start of the inertial unit. -/
def Prepared.withImu (settings : Prepared F) : DriverSDK F := { settings.idle with
  imuBackend := if settings.config.imu.enabled then some true else none }

theorem startAll_beyondFrame {position : Nat} (outcomes : Nat → StartOutcome)
    (imuStarts : ImuStarts settings.config imu)
    (beyond : beyondFrame settings.registry settings.registry.backends = some position) :
    startAll imu outcomes settings.idle = .error "bitset::set" { settings.withImu with
      backendRuntimes := (settings.registry.backends.take position).map idleBackend } := by
  have started : startImu imu settings.idle = .ok () settings.withImu := startImu_ok imuStarts
  have retained := forM_retainBackend settings.registry.backends settings.withImu
  have same : settings.withImu.registry = settings.registry := rfl
  rw [same, beyond] at retained
  rw [startAll, Raising.bind_of_ok started, Raising.bind_of_ok Raising.get_apply, same,
    Raising.bind_of_error retained]
  rfl

/-- With all groups in the frame only the starts of the backends are left. -/
theorem startAll_inFrame (outcomes : Nat → StartOutcome)
    (imuStarts : ImuStarts settings.config imu)
    (inside : beyondFrame settings.registry settings.registry.backends = none) :
    ∃ constructed : DriverSDK F, constructed.config = settings.config ∧
      constructed.groups = settings.registry.backends ∧
      startAll imu outcomes settings.idle =
        ((List.range settings.registry.backends.length).forM (startBackend outcomes) >>= fun _ =>
          modify fun sdk => { sdk with initialized := true }) constructed := by
  have started : startImu imu settings.idle = .ok () settings.withImu := startImu_ok imuStarts
  have retained := forM_retainBackend settings.registry.backends settings.withImu
  have same : settings.withImu.registry = settings.registry := rfl
  rw [same, inside] at retained
  refine ⟨{ settings.withImu with backendRuntimes := settings.registry.backends.map idleBackend },
    rfl, ?_, ?_⟩
  · rw [groups, List.map_map]
    exact List.map_id _
  · rw [startAll, Raising.bind_of_ok started, Raising.bind_of_ok Raising.get_apply, same,
      Raising.bind_of_ok retained, Raising.bind_of_ok Raising.get_apply]
    have count : (settings.withImu.backendRuntimes ++
        settings.registry.backends.map idleBackend).length = settings.registry.backends.length := by
      simp [Prepared.withImu, Prepared.idle]
    rw [count]
    rfl

/-- An exception from the loop over the groups leaves the inertial unit and the backends
before the group. -/
theorem quiet_beyondFrame_iff {position : Nat}
    (beyond : beyondFrame settings.registry settings.registry.backends = some position) :
    Quiet { settings.withImu with
        backendRuntimes := (settings.registry.backends.take position).map idleBackend } ↔
      ¬ (settings.config.imu.enabled = true ∨ position ≠ 0) := by
  have inBounds := (List.findIdx?_eq_some_iff_getElem.mp beyond).1
  constructor
  · intro quiet escapes
    rcases escapes with enabled | later
    · exact quiet.imu (if_pos enabled)
    · have none := List.map_eq_nil_iff.mp quiet.retained
      rcases List.take_eq_nil_iff.mp none with zero | empty
      · exact later zero
      · rw [empty] at inBounds
        contradiction
  · intro stays
    rw [not_or, Bool.not_eq_true, ne_eq, not_not] at stays
    refine ⟨?_, ?_, rfl⟩
    · simp [Prepared.withImu, stays.1]
    · rw [stays.2]
      rfl

/-- With all groups in the frame something stays exactly when the first start that fails
throws. -/
theorem startAll_inFrame_quiet_iff (outcomes : Nat → StartOutcome)
    (imuStarts : ImuStarts settings.config imu)
    (inside : beyondFrame settings.registry settings.registry.backends = none) :
    (∀ message after, startAll imu outcomes settings.idle = .error message after → Quiet after) ↔
      ¬ ∃ message running,
        firstFailure (starts settings outcomes) = some (.threw message running) := by
  rcases startAll_inFrame outcomes imuStarts inside with ⟨constructed, config, same, ended⟩
  have loop := forM_startBackend outcomes (List.range settings.registry.backends.length) constructed
  rw [config, same] at loop
  rw [ended]
  cases first : firstFailure (starts settings outcomes) with
  | none =>
      rw [starts] at first
      rw [first] at loop
      rcases loop with ⟨after, loop⟩
      constructor
      · rintro - ⟨message, running, impossible⟩
        contradiction
      · intro _ message final failed
        rw [Raising.bind_of_ok loop] at failed
        contradiction
  | some failure =>
      have listed := List.mem_of_find?_eq_some first
      rw [starts] at first
      rw [first] at loop
      cases failure with
      | returned result =>
          rcases loop with ⟨before, loop⟩
          constructor
          · rintro - ⟨message, running, impossible⟩
            cases impossible
          · intro _ message final failed
            rw [Raising.bind_of_error loop] at failed
            cases failed
            exact quiet_stop before
      | threw message running =>
          rcases loop with ⟨after, loop, kept⟩
          constructor
          · intro allQuiet
            have quiet := allQuiet message after (Raising.bind_of_error loop)
            rw [groups, quiet.retained] at kept
            rw [starts, ← kept] at listed
            contradiction
          · intro none
            exact absurd ⟨message, running, rfl⟩ none

/-- A start that fails leaves nothing behind exactly when no exception escapes. -/
theorem startAll_quiet_iff (settings : Prepared F) (imu : StartOutcome)
    (outcomes : Nat → StartOutcome) :
    (∀ message after, startAll imu outcomes settings.idle = .error message after → Quiet after) ↔
      ¬ Escapes settings imu outcomes := by
  by_cases imuStarts : ImuStarts settings.config imu
  · cases beyond : beyondFrame settings.registry settings.registry.backends with
    | some position =>
        have ended := startAll_beyondFrame outcomes imuStarts beyond
        simp only [Escapes, beyond, imuStarts, true_and]
        rw [← quiet_beyondFrame_iff beyond]
        constructor
        · exact fun allQuiet => allQuiet _ _ ended
        · intro quiet message after failed
          cases ended.symm.trans failed
          exact quiet
    | none =>
        simp only [Escapes, beyond, imuStarts, true_and]
        exact startAll_inFrame_quiet_iff outcomes imuStarts beyond
  · rcases startImu_error settings.quiet imuStarts with ⟨message, after, failed, quiet, -⟩
    have ended : startAll imu outcomes settings.idle = .error message after :=
      Raising.bind_of_error failed
    constructor
    · exact fun _ escapes => imuStarts escapes.1
    · intro _ other final thrown
      cases ended.symm.trans thrown
      exact quiet

/-! ## What the starts leave alone -/

section

/-- The settings that the driver works with. -/
def settingsOf (sdk : DriverSDK F) : Prepared F where
  config := sdk.config
  registry := sdk.registry
  operatingModes := sdk.operatingModes
  maxCurrents := sdk.maxCurrents

open Raising

theorem leaves_startImu (imu : StartOutcome) : Leaves settingsOf (startImu imu : Step F Unit) := by
  refine .bind .get fun sdk => ?_
  split
  · refine .bind (.modify ?_) fun _ => .bind .get fun sdk => ?_
    · exact fun _ => rfl
    · split
      · exact .throw _
      · dsimp only
        split
        · refine .bind (.modify ?_) fun _ => .bind (.throw _) fun _ => .modify ?_
          · exact fun _ => rfl
          · exact fun _ => rfl
        · exact .modify fun _ => rfl
  · exact .pure _

theorem leaves_retainBackend (group : BackendGroup) :
    Leaves settingsOf (retainBackend group : Step F Unit) := by
  refine .bind .get fun sdk => ?_
  split
  · exact .modify fun _ => rfl
  · exact .throw _

theorem leaves_startBackend (outcomes : Nat → StartOutcome) (index : Nat) :
    Leaves settingsOf (startBackend outcomes index : Step F Unit) := by
  refine .bind .get fun sdk => ?_
  split
  · exact .pure _
  · refine .bind .get fun sdk => ?_
    split
    · refine .bind (.modify ?_) fun _ => .throw _
      exact fun _ => rfl
    · dsimp only
      split
      · refine .bind (.modify ?_) fun _ => .bind (.throw _) fun _ => .modify ?_
        · exact fun _ => rfl
        · exact fun _ => rfl
      · exact .modify fun _ => rfl

/-- No start touches the settings. -/
theorem leaves_startAll (imu : StartOutcome) (outcomes : Nat → StartOutcome) :
    Leaves settingsOf (startAll imu outcomes : Step F Unit) := by
  refine .bind (leaves_startImu imu) fun _ => .bind .get fun _ => ?_
  refine .bind (.forM fun group _ => leaves_retainBackend group) fun _ => .bind .get fun _ => ?_
  refine .bind (.forM fun index _ => leaves_startBackend outcomes index) fun _ => .modify ?_
  exact fun _ => rfl

end

end DriverSDK

end RmdCanSdk
