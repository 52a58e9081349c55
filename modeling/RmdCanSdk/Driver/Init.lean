import RmdCanSdk.Can.Period
import RmdCanSdk.Driver.Sdk
import RmdCanSdk.Library.Raising

/-!
# Initialisation and settings

The members of the driver across calls of its public functions: what `init` changes one
after the other until it returns or an exception ends it, and the settings that can be
made while the driver is not initialised. How the starts of the inertial unit and of
the backends end is left to the caller of the model.
-/

namespace RmdCanSdk

variable {F : Type} [FloatArith F]

/-! ## Starting -/

/-- A `start` returns, or throws and may leave a thread running. -/
inductive StartOutcome where
  | returned (result : Int)
  | threw (message : String) (running : Bool)
  deriving DecidableEq

def isSupportedImuType (type : String) : Bool :=
  normalizeUpper type ∈ ["XSENS", "HIPNUC", "YESENSE"]

/-- The start of the inertial unit, which fails at once for a type it does not know. -/
def ImuConfig.start (imu : ImuConfig) (outcome : StartOutcome) : StartOutcome :=
  let type := if imu.normalizedType = "" then imu.type else imu.normalizedType
  if isSupportedImuType type then outcome else .returned (-1)

/-- The start of a backend. A CAN backend fails at once without a master. -/
def backendStart (config : LoadedConfig F) (group : BackendGroup) (outcome : StartOutcome) :
    StartOutcome :=
  match group.bus with
  | .can => if (config.canMaster group.master).isSome then outcome else .returned (-1)
  | .ethercat => outcome

/-- A backend that the driver holds, and whether one of its threads runs. -/
structure RetainedBackend where
  group : BackendGroup
  running : Bool

/-- The members of the driver that outlast a call, without the buffers. The thread of an
inertial unit it holds may run or not. -/
structure DriverSDK (F : Type) where
  config : LoadedConfig F
  registry : MotorRegistry F
  imuBackend : Option Bool
  backendRuntimes : List RetainedBackend
  operatingModes : List Int
  maxCurrents : List (BitVec 16)
  initialized : Bool

namespace DriverSDK

/-- The driver when the process starts. -/
def fresh : DriverSDK F where
  config := default
  registry := { totalMotorCount := 0, motors := [], backends := [] }
  imuBackend := none
  backendRuntimes := []
  operatingModes := []
  maxCurrents := []
  initialized := false

/-- `stop` joins the threads of all that it releases. The settings stay. -/
def stop (sdk : DriverSDK F) : DriverSDK F := { sdk with
  backendRuntimes := []
  imuBackend := none
  initialized := false }

/-- A step of a public function, which an exception may end. -/
abbrev Step (F : Type) := EStateM String (DriverSDK F)

/-! ## The parts of `init` -/

def loadSettings (scanf : Scanf F) (path : String) (file : Except String (List XMLElement)) :
    Step F Unit := do
  modify stop
  let config ← Raising.lift (loadConfig scanf path file)
  modify fun sdk => { sdk with config := config }
  let registry ← Raising.lift (MotorRegistry.fromConfig config.toConfig)
  modify fun sdk => { sdk with registry := registry }
  let operatingModes ← Raising.lift
    (ensureOperatingModes (← get).operatingModes config.totalMotorCount.toNat)
  modify fun sdk => { sdk with operatingModes := operatingModes }
  let maxCurrents ← Raising.lift
    (ensureMaxCurrents (← get).maxCurrents config.totalMotorCount.toNat)
  modify fun sdk => { sdk with maxCurrents := maxCurrents }

def startImu (outcome : StartOutcome) : Step F Unit := do
  if (← get).config.imu.enabled then
    modify fun sdk => { sdk with imuBackend := some false }
    match (← get).config.imu.start outcome with
    | .threw message _ => throw message
    | .returned result =>
        if result ≠ 0 then
          modify stop
          throw "starting IMU backend failed"
        modify fun sdk => { sdk with imuBackend := some true }

/-- Whether the frames have an entry for every motor of the group. -/
def inFrame (registry : MotorRegistry F) (group : BackendGroup) : Bool :=
  (registry.groupMotors group).all fun motor => decide (motor.globalIndex < MaxRealtimeMotors)

/-- One iteration over the groups. Setting a bit beyond the frame throws. -/
def retainBackend (group : BackendGroup) : Step F Unit := do
  if inFrame (← get).registry group then
    modify fun sdk => { sdk with
      backendRuntimes := sdk.backendRuntimes ++ [{ group := group, running := false }] }
  else throw "bitset::set"

def setRunning (index : Nat) (runtime : RetainedBackend) (running : Bool)
    (sdk : DriverSDK F) : DriverSDK F :=
  { sdk with backendRuntimes :=
      sdk.backendRuntimes.set index { runtime with running := running } }

/-- One iteration over the backends. -/
def startBackend (outcomes : Nat → StartOutcome) (index : Nat) : Step F Unit := do
  match (← get).backendRuntimes[index]? with
  | none => return
  | some runtime =>
      match backendStart (← get).config runtime.group (outcomes index) with
      | .threw message running =>
          modify (setRunning index runtime running)
          throw message
      | .returned result =>
          if result ≠ 0 then
            modify stop
            throw "starting motor backend failed"
          modify (setRunning index runtime true)

def startAll (imu : StartOutcome) (outcomes : Nat → StartOutcome) : Step F Unit := do
  startImu imu
  (← get).registry.backends.forM retainBackend
  (List.range (← get).backendRuntimes.length).forM (startBackend outcomes)
  modify fun sdk => { sdk with initialized := true }

/-! ## The public functions -/

/-- `init`, on what `LoadFile` makes of the file and with the outcomes of the starts. -/
def init (scanf : Scanf F) (path : String) (file : Except String (List XMLElement))
    (imu : StartOutcome) (outcomes : Nat → StartOutcome) : Step F Unit := do
  loadSettings scanf path file
  startAll imu outcomes

omit [FloatArith F] in
def setMode (modes : List Int) : Step F Int := do
  if (← get).initialized then return -1
  modify fun sdk => { sdk with operatingModes := modes }
  return 0

omit [FloatArith F] in
def setMaxCurrents (maxCurrents : List (BitVec 16)) : Step F Int := do
  if (← get).initialized then return -1
  modify fun sdk => { sdk with maxCurrents := maxCurrents }
  return 0

/-- The bias of a motor's alias, where the vector has one. -/
def biased (countBias : List Int) (motor : MotorConfig F) : MotorConfig F :=
  match countBias[(motor.alias - 1).toNat]? with
  | none => motor
  | some bias => { motor with parameters := { motor.parameters with countBias := lit bias } }

theorem alias_biased (countBias : List Int) (motor : MotorConfig F) :
    (biased countBias motor).alias = motor.alias := by
  rw [biased]
  split
  · rfl
  · rfl

def withCountBias (countBias : List Int) (motors : MotorTable F) : MotorTable F where
  motors := motors.motors.map (biased countBias)
  distinct := by
    have same : (motors.motors.map (biased countBias)).map MotorConfig.alias =
        motors.motors.map MotorConfig.alias := by
      rw [List.map_map]
      exact List.map_congr_left fun motor _ => alias_biased countBias motor
    rw [same]
    exact motors.distinct

def setCountBias (countBias : List Int) : Step F Int := do
  let sdk ← get
  if sdk.initialized then return -1
  if (countBias.length : Int) ≠ sdk.config.totalMotorCount then return -1
  let config := { sdk.config with motors := withCountBias countBias sdk.config.motors }
  modify fun sdk => { sdk with config := config }
  let registry ← Raising.lift (MotorRegistry.fromConfig config.toConfig)
  modify fun sdk => { sdk with registry := registry }
  return 0

/-! ## The calls that need an initialised driver

Only what decides whether they are refused; what the frames say is left open. -/

omit [FloatArith F]

def setTargetsResult (sdk : DriverSDK F) (size : Nat) : Int :=
  if !sdk.initialized || decide ((size : Int) ≠ sdk.config.totalMotorCount) then NotReady else 0

def getActualsResult (sdk : DriverSDK F) (size staleCount : Nat) : Int :=
  if !sdk.initialized || decide ((size : Int) ≠ sdk.config.totalMotorCount) then NotReady
  else -staleCount

def getBackendStatusesResult (sdk : DriverSDK F) : Int :=
  if !sdk.initialized then NotReady else 0

end DriverSDK

end RmdCanSdk
