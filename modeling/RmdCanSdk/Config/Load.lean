import RmdCanSdk.Config.Xml
import RmdCanSdk.Ethercat.Bindings

/-!
# Loading the configuration

`loadConfig` section by section. Each loop over the elements of a section reads one
element after the other, skips those that are switched off or of another kind, and
stops with the first invalid one.
-/

namespace RmdCanSdk

variable {F : Type} [FloatArith F]

structure MasterConfig where
  order : Int
  device : String
  baudrate : Int
  canfd : Bool
  dbaudrate : Int
  division : Int
  deriving DecidableEq

instance : Inhabited MasterConfig where
  default := {
    order := 0
    device := ""
    baudrate := 1000000
    canfd := false
    dbaudrate := 5000000
    division := 1 }

structure ImuConfig where
  enabled : Bool
  device : String
  baudrate : Int
  type : String
  normalizedType : String
  deriving DecidableEq

instance : Inhabited ImuConfig where
  default := {
    enabled := false
    device := ""
    baudrate := 0
    type := ""
    normalizedType := "" }

/-- All that a configuration file sets; the registry depends on its `Config` only. -/
structure LoadedConfig (F : Type) extends Config F where
  periodNs : Int
  ethercatDc : Bool
  masters : List MasterConfig
  ethercatDomainDivisions : List Int
  imu : ImuConfig

instance : Inhabited (LoadedConfig F) where
  default := {
    periodNs := 1000000
    ethercatDc := false
    totalMotorCount := 0
    masters := []
    ethercatDomainDivisions := []
    motors := .empty
    imu := default }

/-! ## Elements and texts -/

def requiredChild (parent : XMLElement) (name : String) : Except String XMLElement :=
  match parent.firstChildElement name with
  | none => throw ("missing XML element " ++ name)
  | some child => return child

def requiredFloat (scanf : Scanf F) (parent : XMLElement) (name : String) : Except String F := do
  let child ← requiredChild parent name
  return child.floatText scanf (lit 0)

def startsWith (value start : String) : Bool := start.toList.isPrefixOf value.toList

def normalizeUpper (value : String) : String := String.ofList (value.toList.map Char.toUpper)

/-- The bus that an attribute names. `loadConfig` asks only where there is one. -/
def parseMotorBus (bus : String) : Except String MotorBus :=
  let value := normalizeUpper bus
  if value = "CAN" then return .can
  else if value = "ECAT" ∨ value = "ETHERCAT" then return .ethercat
  else throw ("unsupported motor bus attribute: " ++ value)

/-- The first of the attributes that is there decides, even if it is no number. -/
def firstIntAttribute (scanf : Scanf F) (element : XMLElement) (names : List String)
    (fallback : Int) : Int :=
  match names with
  | [] => fallback
  | name :: rest =>
      if (element.attribute name).isSome then element.intAttribute scanf name 0
      else firstIntAttribute scanf element rest fallback

/-! ## The parameters of the motors -/

/-- The map from aliases to parameters. -/
abbrev MotorParameterMap (F : Type) := Int → Option (MotorParameters F)

def readMotorParameters (scanf : Scanf F) (motor : XMLElement) :
    Except String (MotorParameters F) := do
  let polarity ← requiredFloat scanf motor "Polarity"
  let countBias ← requiredFloat scanf motor "CountBias"
  let encoderResolution ← requiredFloat scanf motor "EncoderResolution"
  let gearRatioTor ← requiredFloat scanf motor "GearRatioTor"
  let gearRatioPosVel ← requiredFloat scanf motor "GearRatioPosVel"
  let ratedCurrent ← requiredFloat scanf motor "RatedCurrent"
  let torqueConstant ← requiredFloat scanf motor "TorqueConstant"
  let ratedTorque ← requiredFloat scanf motor "RatedTorque"
  let maximumTorque ← requiredFloat scanf motor "MaximumTorque"
  let minimumPosition ← requiredFloat scanf motor "MinimumPosition"
  let maximumPosition ← requiredFloat scanf motor "MaximumPosition"
  return {
    polarity, countBias, encoderResolution, gearRatioTor, gearRatioPosVel, ratedCurrent,
    torqueConstant, ratedTorque, maximumTorque, minimumPosition, maximumPosition }

/-- One iteration over the `Motor` elements, on the map and the total motor count. -/
def readMotorParameter (scanf : Scanf F) (read : MotorParameterMap F × Int)
    (motor : XMLElement) : Except String (MotorParameterMap F × Int) :=
  let number := motor.intAttribute scanf "alias" 0
  if number > 0 then do
    let parameters ← readMotorParameters scanf motor
    return (Function.update read.1 number (some parameters), max read.2 number)
  else return read

def readMotorParameterMap (scanf : Scanf F) (root : XMLElement) :
    Except String (MotorParameterMap F × Int) := do
  let motors ← requiredChild root "Motors"
  (motors.childElements "Motor").foldlM (readMotorParameter scanf) (fun _ => none, 0)

/-! ## The motors on the buses -/

variable (scanf : Scanf F) (motorParameters : MotorParameterMap F)

/-- The motor of an enabled RMD slave. -/
def readCanSlave (slave : XMLElement) : Except String (Option (MotorConfig F)) :=
  if slave.intText scanf 0 ≠ 1 then return none
  else
    let type := (slave.attribute "type").getD ""
    if !startsWith type "RMD" then return none
    else
      let number := slave.intAttribute scanf "alias" 0
      let slaveId := slave.intAttribute scanf "slave_id" 0
      match motorParameters number with
      | none => throw "invalid RMD CAN slave entry in config XML"
      | some parameters =>
          if number ≤ 0 ∨ slaveId ≤ 0 then throw "invalid RMD CAN slave entry in config XML"
          else return some {
            «alias» := number
            master := slave.intAttribute scanf "master" 0
            motorId := slaveId
            slaveId := slaveId
            ethercatSlave := 0
            domain := 0
            bus := .can
            type := type
            parameters := parameters }

/-- The motor of an enabled MT_Device slave. -/
def readEcatSlave (slave : XMLElement) : Except String (Option (MotorConfig F)) :=
  if slave.intText scanf 0 ≠ 1 then return none
  else
    let type := (slave.attribute "type").getD ""
    if !isEthercatMtDeviceType type then return none
    else
      let number := slave.intAttribute scanf "alias" 0
      let ethercatSlave :=
        firstIntAttribute scanf slave ["slave", "ethercat_slave", "slave_id"] (-1)
      match motorParameters number with
      | none => throw "invalid MT_Device ECAT slave entry in config XML"
      | some parameters =>
          if number ≤ 0 then throw "invalid MT_Device ECAT slave entry in config XML"
          else return some {
            «alias» := number
            master := slave.intAttribute scanf "master" 0
            motorId := firstIntAttribute scanf slave ["id", "motor_id"] number
            slaveId := ethercatSlave
            ethercatSlave := ethercatSlave
            domain := slave.intAttribute scanf "domain" 0
            bus := .ethercat
            type := type
            parameters := parameters }

/-- A CAN motor that a `Motor` element places itself. -/
def explicitCanMotor (motorElement : XMLElement) (number : Int) (type : String)
    (parameters : MotorParameters F) : Except String (MotorConfig F) :=
  let motorId := firstIntAttribute scanf motorElement ["id", "motor_id", "slave_id"] 0
  if motorId ≤ 0 then throw "explicit CAN motor entry is missing id"
  else return {
    «alias» := number
    master := motorElement.intAttribute scanf "master" 0
    motorId := motorId
    slaveId := firstIntAttribute scanf motorElement ["slave_id", "id", "motor_id"] motorId
    ethercatSlave := -1
    domain := motorElement.intAttribute scanf "domain" 0
    bus := .can
    type := type
    parameters := parameters }

def explicitEthercatMotor (motorElement : XMLElement) (number : Int) (type : String)
    (parameters : MotorParameters F) : Except String (MotorConfig F) :=
  let ethercatSlave :=
    firstIntAttribute scanf motorElement ["slave", "ethercat_slave", "slave_id"] (-1)
  if ethercatSlave < 0 then throw "explicit EtherCAT motor entry is missing slave"
  else return {
    «alias» := number
    master := motorElement.intAttribute scanf "master" 0
    motorId := firstIntAttribute scanf motorElement ["id", "motor_id"] number
    slaveId := ethercatSlave
    ethercatSlave := ethercatSlave
    domain := motorElement.intAttribute scanf "domain" 0
    bus := .ethercat
    type := type
    parameters := parameters }

/-- The motor that a `Motor` element with a bus places. The element is checked before
its type is looked at. -/
def readExplicitMotor (motorElement : XMLElement) : Except String (Option (MotorConfig F)) :=
  match motorElement.attribute "bus" with
  | none => return none
  | some busAttr => do
      let number := motorElement.intAttribute scanf "alias" 0
      let bus ← parseMotorBus busAttr
      let type := (motorElement.attribute "type").getD ""
      match motorParameters number with
      | none => throw "invalid explicit motor entry in config XML"
      | some parameters =>
          if number ≤ 0 then throw "invalid explicit motor entry in config XML"
          else match bus with
            | .can =>
                if type ≠ "" ∧ !startsWith type "RMD" then return none
                else some <$> explicitCanMotor scanf motorElement number type parameters
            | .ethercat =>
                some <$> explicitEthercatMotor scanf motorElement number type parameters

omit [FloatArith F] in
/-- One iteration over the elements of a section. -/
def placeMotor (read : XMLElement → Except String (Option (MotorConfig F)))
    (motors : MotorTable F) (element : XMLElement) : Except String (MotorTable F) := do
  match ← read element with
  | none => return motors
  | some motor => return motors.upsertMotor motor

/-! ## The sections -/

omit [FloatArith F] in
def readMaster (master : XMLElement) : MasterConfig :=
  let division := master.intAttribute scanf "division" (default : MasterConfig).division
  { order := master.intAttribute scanf "order" 0
    device := (master.attribute "device").getD ""
    baudrate := master.intAttribute scanf "baudrate" (default : MasterConfig).baudrate
    canfd := master.boolAttribute scanf "canfd" (default : MasterConfig).canfd
    dbaudrate := master.intAttribute scanf "dbaudrate" (default : MasterConfig).dbaudrate
    division := if division ≤ 0 then 1 else division }

/-- The part of `loadConfig` that reads the CAN section. -/
def readCanConfig (root : XMLElement) (config : LoadedConfig F) :
    Except String (LoadedConfig F) := do
  let motors ← (root.elementsIn "Slave" ["CAN", "Slaves"]).foldlM
    (placeMotor (readCanSlave scanf motorParameters)) config.motors
  return { config with
    periodNs :=
      match (root.firstChildElement "CAN").bind (·.firstChildElement "Masters") with
      | none => config.periodNs
      | some masters => masters.int64Attribute scanf "period" config.periodNs
    masters := config.masters ++
      (root.elementsIn "Master" ["CAN", "Masters"]).map (readMaster scanf)
    motors := motors }

omit [FloatArith F] in
/-- One iteration over the masters of the ECAT section. -/
def readEcatMaster (config : LoadedConfig F) (master : XMLElement) : LoadedConfig F :=
  { config with
    periodNs := master.int64Attribute scanf "period" config.periodNs
    ethercatDc := master.boolAttribute scanf "dc" config.ethercatDc }

omit [FloatArith F] in
/-- One iteration over the domains of the ECAT section. -/
def readEcatDomain (divisions : List Int) (domain : XMLElement) : List Int :=
  let order := domain.intAttribute scanf "order" (-1)
  if order ≥ 0 then
    let index := order.toNat
    (divisions ++ List.replicate (index + 1 - divisions.length) 1).set index
      (max 1 (domain.intAttribute scanf "division" 1))
  else divisions

def readEcatConfig (root : XMLElement) (config : LoadedConfig F) :
    Except String (LoadedConfig F) := do
  let config := (root.elementsIn "Master" ["ECAT", "Masters"]).foldl (readEcatMaster scanf) config
  let motors ← (root.elementsIn "Slave" ["ECAT", "Slaves"]).foldlM
    (placeMotor (readEcatSlave scanf motorParameters)) config.motors
  return { config with
    ethercatDomainDivisions := (root.elementsIn "Domain" ["ECAT", "Domains"]).foldl
      (readEcatDomain scanf) config.ethercatDomainDivisions
    motors := motors }

def readExplicitMotorPlacements (root : XMLElement) (config : LoadedConfig F) :
    Except String (LoadedConfig F) := do
  let motors ← (root.elementsIn "Motor" ["Motors"]).foldlM
    (placeMotor (readExplicitMotor scanf motorParameters)) config.motors
  return { config with motors := motors }

omit [FloatArith F] in
def readImuConfig (root : XMLElement) (config : LoadedConfig F) : LoadedConfig F :=
  match root.firstChildElement "IMU" with
  | none => config
  | some imu =>
      let type := (imu.attribute "type").getD ""
      { config with imu := {
        enabled := true
        device := (imu.attribute "device").getD ""
        baudrate := imu.intAttribute scanf "baudrate" 0
        type := type
        normalizedType := normalizeUpper type } }

/-- `loadConfig` on what `LoadFile` makes of the file, an error text or the top-level
elements. -/
def loadConfig (path : String) (file : Except String (List XMLElement)) :
    Except String (LoadedConfig F) :=
  match file with
  | .error text => throw ("loading config XML failed: " ++ path ++ ": " ++ text)
  | .ok document =>
      match document.find? fun element => element.name = "Config" with
      | none => throw "invalid config XML: missing <Config>"
      | some root => do
          let (motorParameters, totalMotorCount) ← readMotorParameterMap scanf root
          let config : LoadedConfig F := { (default : LoadedConfig F) with
            totalMotorCount := totalMotorCount }
          let config ← readCanConfig scanf motorParameters root config
          let config ← readEcatConfig scanf motorParameters root config
          let config ← readExplicitMotorPlacements scanf motorParameters root config
          return readImuConfig scanf root config

end RmdCanSdk
