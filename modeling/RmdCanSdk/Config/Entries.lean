import RmdCanSdk.Config.Load
import RmdCanSdk.Library.Overriding

/-!
# What a loaded configuration holds

The entries of a document that place motors, section by section, and what `loadConfig`
makes of them: for each alias the motor of the last entry that it does not skip. The
periods of both sections end up in one field.
-/

namespace RmdCanSdk

variable {F : Type}

/-! ## Entries -/

/-- The three places where a motor can be put on a bus. -/
inductive EntryKind where
  | canSlave
  | ecatSlave
  | explicit
  deriving DecidableEq

namespace EntryKind

def elements (root : XMLElement) : EntryKind → List XMLElement
  | .canSlave => root.elementsIn "Slave" ["CAN", "Slaves"]
  | .ecatSlave => root.elementsIn "Slave" ["ECAT", "Slaves"]
  | .explicit => root.elementsIn "Motor" ["Motors"]

/-- Whether an element places a motor: it is neither switched off nor of an unsupported
type. A `Motor` element is an entry only if it names a bus. -/
def supported (scanf : Scanf F) (element : XMLElement) : EntryKind → Bool
  | .canSlave =>
      decide (element.intText scanf 0 = 1) && startsWith ((element.attribute "type").getD "") "RMD"
  | .ecatSlave =>
      decide (element.intText scanf 0 = 1) &&
        isEthercatMtDeviceType ((element.attribute "type").getD "")
  | .explicit =>
      match element.attribute "bus" with
      | none => false
      | some bus =>
          let type := (element.attribute "type").getD ""
          decide (normalizeUpper bus ≠ "CAN") || decide (type = "") || startsWith type "RMD"

/-- The body of the loop over the elements. -/
def read (scanf : Scanf F) (motorParameters : MotorParameterMap F) :
    EntryKind → XMLElement → Except String (Option (MotorConfig F))
  | .canSlave => readCanSlave scanf motorParameters
  | .ecatSlave => readEcatSlave scanf motorParameters
  | .explicit => readExplicitMotor scanf motorParameters

end EntryKind

structure Entry where
  kind : EntryKind
  element : XMLElement

namespace Entry

variable (scanf : Scanf F) (motorParameters : MotorParameterMap F) (entry : Entry)

def «alias» : Int := entry.element.intAttribute scanf "alias" 0

def supported : Bool := entry.kind.supported scanf entry.element

/-- The motor an entry places, with the parameters of its alias. -/
def Places (motor : MotorConfig F) : Prop :=
  entry.kind.read scanf motorParameters entry.element = .ok (some motor)

/-- One iteration of the loop that reads the entry. -/
def place (motors : MotorTable F) : Except String (MotorTable F) :=
  placeMotor (entry.kind.read scanf motorParameters) motors entry.element

end Entry

/-- All entries, in the order in which `loadConfig` reads them. -/
def entries (root : XMLElement) : List Entry :=
  [EntryKind.canSlave, .ecatSlave, .explicit].flatMap fun kind =>
    (kind.elements root).map (Entry.mk kind)

/-! ## Reading one entry -/

section

variable {scanf : Scanf F} {motorParameters : MotorParameterMap F} {element : XMLElement}
variable {motor : Option (MotorConfig F)}

/-- The motor was read from an entry that is not skipped, with the entry's alias and the
parameters of this alias. -/
structure ReadAs (scanf : Scanf F) (motorParameters : MotorParameterMap F) (kind : EntryKind)
    (element : XMLElement) (motor : MotorConfig F) : Prop where
  supported : kind.supported scanf element = true
  numbered : motor.alias = element.intAttribute scanf "alias" 0
  parameters : motorParameters motor.alias = some motor.parameters

/-- The entry is skipped, or its motor is read. -/
def SkippedOrRead (scanf : Scanf F) (motorParameters : MotorParameterMap F) (kind : EntryKind)
    (element : XMLElement) (motor : Option (MotorConfig F)) : Prop :=
  (motor = none ∧ kind.supported scanf element = false) ∨
    ∃ placed, motor = some placed ∧ ReadAs scanf motorParameters kind element placed

theorem readCanSlave_ok (ok : readCanSlave scanf motorParameters element = .ok motor) :
    SkippedOrRead scanf motorParameters .canSlave element motor := by
  simp only [readCanSlave] at ok
  split at ok
  next off =>
    cases ok
    exact .inl ⟨rfl, by simp [EntryKind.supported, off]⟩
  next on =>
    rw [not_not] at on
    split at ok
    next other =>
      cases ok
      rw [Bool.not_eq_true'] at other
      exact .inl ⟨rfl, by simp [EntryKind.supported, other]⟩
    next rmd =>
      rw [Bool.not_eq_true', Bool.not_eq_false] at rmd
      split at ok
      next => contradiction
      next parameters found =>
        split at ok
        next => contradiction
        next =>
          cases ok
          exact .inr ⟨_, rfl, by simp [EntryKind.supported, on, rmd], rfl, found⟩

theorem readEcatSlave_ok (ok : readEcatSlave scanf motorParameters element = .ok motor) :
    SkippedOrRead scanf motorParameters .ecatSlave element motor := by
  simp only [readEcatSlave] at ok
  split at ok
  next off =>
    cases ok
    exact .inl ⟨rfl, by simp [EntryKind.supported, off]⟩
  next on =>
    rw [not_not] at on
    split at ok
    next other =>
      cases ok
      rw [Bool.not_eq_true'] at other
      exact .inl ⟨rfl, by simp [EntryKind.supported, other]⟩
    next device =>
      rw [Bool.not_eq_true', Bool.not_eq_false] at device
      split at ok
      next => contradiction
      next parameters found =>
        split at ok
        next => contradiction
        next =>
          cases ok
          exact .inr ⟨_, rfl, by simp [EntryKind.supported, on, device], rfl, found⟩

/-- A bus attribute that is accepted names CAN exactly if it reads so in capitals. -/
theorem parseMotorBus_ok {text : String} {bus : MotorBus} (ok : parseMotorBus text = .ok bus) :
    bus = .can ↔ normalizeUpper text = "CAN" := by
  simp only [parseMotorBus] at ok
  split at ok
  next isCan =>
    cases ok
    exact ⟨fun _ => isCan, fun _ => rfl⟩
  next notCan =>
    split at ok
    next =>
      cases ok
      exact ⟨fun impossible => by contradiction, fun isCan => absurd isCan notCan⟩
    next => contradiction

theorem explicitCanMotor_ok {number : Int} {type : String} {parameters : MotorParameters F}
    {placed : MotorConfig F}
    (ok : explicitCanMotor scanf element number type parameters = .ok placed) :
    placed.alias = number ∧ placed.parameters = parameters := by
  simp only [explicitCanMotor] at ok
  split at ok
  next => contradiction
  next =>
    cases ok
    exact ⟨rfl, rfl⟩

theorem explicitEthercatMotor_ok {number : Int} {type : String} {parameters : MotorParameters F}
    {placed : MotorConfig F}
    (ok : explicitEthercatMotor scanf element number type parameters = .ok placed) :
    placed.alias = number ∧ placed.parameters = parameters := by
  simp only [explicitEthercatMotor] at ok
  split at ok
  next => contradiction
  next =>
    cases ok
    exact ⟨rfl, rfl⟩

theorem readExplicitMotor_ok (ok : readExplicitMotor scanf motorParameters element = .ok motor) :
    SkippedOrRead scanf motorParameters .explicit element motor := by
  simp only [readExplicitMotor] at ok
  split at ok
  next noBus =>
    cases ok
    exact .inl ⟨rfl, by simp [EntryKind.supported, noBus]⟩
  next text hasBus =>
    rcases bind_eq_ok ok with ⟨bus, parsed, ok⟩
    have isCan := parseMotorBus_ok parsed
    split at ok
    next => contradiction
    next parameters found =>
      split at ok
      next => contradiction
      next =>
        cases bus with
        | can =>
            have capitals := isCan.mp rfl
            dsimp only at ok
            split at ok
            next other =>
              rw [Bool.not_eq_true'] at other
              cases ok
              exact .inl ⟨rfl, by simp [EntryKind.supported, hasBus, capitals, other.1, other.2]⟩
            next supported =>
              rcases map_eq_ok ok with ⟨placed, read, rfl⟩
              rcases explicitCanMotor_ok read with ⟨numbered, rfl⟩
              refine .inr ⟨placed, rfl, ?_, numbered, numbered ▸ found⟩
              simp only [EntryKind.supported, hasBus]
              grind
        | ethercat =>
            have capitals : normalizeUpper text ≠ "CAN" := fun named => by
              have impossible := isCan.mpr named
              contradiction
            rcases map_eq_ok ok with ⟨placed, read, rfl⟩
            rcases explicitEthercatMotor_ok read with ⟨numbered, rfl⟩
            exact .inr ⟨placed, rfl, by simp [EntryKind.supported, hasBus, capitals], numbered,
              numbered ▸ found⟩

theorem EntryKind.read_ok {kind : EntryKind}
    (ok : kind.read scanf motorParameters element = .ok motor) :
    SkippedOrRead scanf motorParameters kind element motor := by
  cases kind with
  | canSlave => exact readCanSlave_ok ok
  | ecatSlave => exact readEcatSlave_ok ok
  | explicit => exact readExplicitMotor_ok ok

end

/-! ## The motors that are placed -/

namespace MotorTable

/-- The motor with an alias. -/
def find (table : MotorTable F) (number : Int) : Option (MotorConfig F) :=
  table.motors.find? fun motor => motor.alias = number

theorem find_upsert (motors : List (MotorConfig F)) (motor : MotorConfig F) (number : Int) :
    ((upsert motors motor).find? fun other => other.alias = number) =
      if motor.alias = number then some motor else motors.find? fun other => other.alias = number := by
  induction motors with
  | nil =>
      rw [upsert, List.find?_singleton]
      simp
  | cons item rest ih =>
      rw [upsert]
      split
      next same =>
        simp only [List.find?_cons, same]
        by_cases wanted : motor.alias = number
        · simp [wanted]
        · simp [wanted]
      next different =>
        simp only [List.find?_cons]
        by_cases wanted : item.alias = number
        · have other : motor.alias ≠ number := fun same => different (wanted.trans same.symm)
          simp [wanted, other]
        · simp [wanted, ih]

@[simp] theorem find_upsertMotor (table : MotorTable F) (motor : MotorConfig F) (number : Int) :
    (table.upsertMotor motor).find number =
      if motor.alias = number then some motor else table.find number :=
  find_upsert table.motors motor number

theorem mem_of_find {table : MotorTable F} {number : Int} {motor : MotorConfig F}
    (found : table.find number = some motor) : motor ∈ table.motors ∧ motor.alias = number :=
  ⟨List.mem_of_find?_eq_some found, by simpa using List.find?_some found⟩

/-- Every motor is the one with its alias. -/
theorem find_of_mem {table : MotorTable F} {motor : MotorConfig F}
    (member : motor ∈ table.motors) : table.find motor.alias = some motor := by
  rcases present : table.find motor.alias with - | found
  · have absent := List.find?_eq_none.mp present motor member
    simp at absent
  · rcases mem_of_find present with ⟨inTable, same⟩
    rw [List.inj_on_of_nodup_map table.distinct inTable member same]

end MotorTable

section

variable {scanf : Scanf F} {motorParameters : MotorParameterMap F}
variable {motors next : MotorTable F} {entry : Entry}

/-- What one iteration does to the configured motors. -/
theorem Entry.place_ok (ok : entry.place scanf motorParameters motors = .ok next) :
    (next = motors ∧ entry.supported scanf = false) ∨
      ∃ placed, next = motors.upsertMotor placed ∧ entry.Places scanf motorParameters placed ∧
        ReadAs scanf motorParameters entry.kind entry.element placed := by
  rcases bind_eq_ok ok with ⟨motor, read, ok⟩
  rcases EntryKind.read_ok read with ⟨rfl, skipped⟩ | ⟨placed, rfl, readAs⟩
  · cases ok
    exact .inl ⟨rfl, skipped⟩
  · cases ok
    exact .inr ⟨placed, rfl, read, readAs⟩

theorem overrides_place (scanf : Scanf F) (motorParameters : MotorParameterMap F) :
    Overrides (fun motors (entry : Entry) => entry.place scanf motorParameters motors)
      MotorTable.find (Entry.supported scanf) (Entry.alias scanf)
      (Entry.Places scanf motorParameters) where
  passes ok skipped wanted := by
    rcases Entry.place_ok ok with ⟨rfl, -⟩ | ⟨placed, -, -, readAs⟩
    · rfl
    · exact absurd (skipped.symm.trans readAs.supported) Bool.false_ne_true
  own ok kept := by
    rcases Entry.place_ok ok with ⟨-, skipped⟩ | ⟨placed, rfl, places, readAs⟩
    · exact absurd (skipped.symm.trans kept) Bool.false_ne_true
    · exact ⟨placed, places, (MotorTable.find_upsertMotor ..).trans (if_pos readAs.numbered)⟩
  others ok wanted different := by
    rcases Entry.place_ok ok with ⟨rfl, -⟩ | ⟨placed, rfl, -, readAs⟩
    · rfl
    · rw [MotorTable.find_upsertMotor, if_neg fun same => different (same.symm.trans readAs.numbered)]

end

/-! ## The parameters of an alias -/

variable [FloatArith F]

theorem readMotorParameter_ok {scanf : Scanf F} {before after : MotorParameterMap F × Int}
    {motor : XMLElement} (ok : readMotorParameter scanf before motor = .ok after) :
    (after = before ∧ ¬ 0 < motor.intAttribute scanf "alias" 0) ∨
      ∃ parameters, readMotorParameters scanf motor = .ok parameters ∧
        0 < motor.intAttribute scanf "alias" 0 ∧
        after = (Function.update before.1 (motor.intAttribute scanf "alias" 0) (some parameters),
          max before.2 (motor.intAttribute scanf "alias" 0)) := by
  simp only [readMotorParameter] at ok
  split at ok
  next positive =>
    rcases bind_eq_ok ok with ⟨parameters, read, ok⟩
    cases ok
    exact .inr ⟨parameters, read, positive, rfl⟩
  next unnumbered =>
    cases ok
    exact .inl ⟨rfl, unnumbered⟩

/-- The last `Motor` element of an alias gives its parameters. -/
theorem overrides_readMotorParameter (scanf : Scanf F) :
    Overrides (readMotorParameter scanf) Prod.fst
      (fun motor => decide (0 < motor.intAttribute scanf "alias" 0))
      (fun motor => motor.intAttribute scanf "alias" 0)
      (fun motor parameters => readMotorParameters scanf motor = .ok parameters) where
  passes ok skipped wanted := by
    rcases readMotorParameter_ok ok with ⟨rfl, -⟩ | ⟨parameters, -, positive, -⟩
    · rfl
    · exact absurd positive (of_decide_eq_false skipped)
  own ok kept := by
    rcases readMotorParameter_ok ok with ⟨-, unnumbered⟩ | ⟨parameters, read, -, rfl⟩
    · exact absurd (of_decide_eq_true kept) unnumbered
    · exact ⟨parameters, read, Function.update_self ..⟩
  others ok wanted different := by
    rcases readMotorParameter_ok ok with ⟨rfl, -⟩ | ⟨parameters, -, -, rfl⟩
    · rfl
    · exact Function.update_of_ne different ..

/-- Every alias with parameters lies between 1 and the total motor count. -/
def InRange (read : MotorParameterMap F × Int) : Prop :=
  ∀ number, (read.1 number).isSome → 0 < number ∧ number ≤ read.2

theorem InRange.readMotorParameter {scanf : Scanf F} {before after : MotorParameterMap F × Int}
    {motor : XMLElement} (inRange : InRange before)
    (ok : readMotorParameter scanf before motor = .ok after) : InRange after := by
  rcases readMotorParameter_ok ok with ⟨rfl, -⟩ | ⟨parameters, -, positive, rfl⟩
  · exact inRange
  · intro number present
    by_cases own : number = motor.intAttribute scanf "alias" 0
    · rw [own]
      exact ⟨positive, le_max_right ..⟩
    · dsimp only at present
      rw [Function.update_of_ne own] at present
      rcases inRange number present with ⟨numbered, counted⟩
      exact ⟨numbered, counted.trans (le_max_left ..)⟩

/-- The total motor count is never negative. -/
theorem count_readMotorParameter {scanf : Scanf F} {before after : MotorParameterMap F × Int}
    {motor : XMLElement} (ok : readMotorParameter scanf before motor = .ok after) :
    before.2 ≤ after.2 := by
  rcases readMotorParameter_ok ok with ⟨rfl, -⟩ | ⟨parameters, -, -, rfl⟩
  · exact le_rfl
  · exact le_max_left ..

/-! ## The whole document -/

/-- The masters of the CAN section. -/
def canMasters (scanf : Scanf F) (root : XMLElement) : List MasterConfig :=
  (root.elementsIn "Master" ["CAN", "Masters"]).map (readMaster scanf)

/-- The period of the CAN section, or the default. -/
def canPeriod (scanf : Scanf F) (root : XMLElement) : Int :=
  match (root.firstChildElement "CAN").bind (·.firstChildElement "Masters") with
  | none => 1000000
  | some masters => masters.int64Attribute scanf "period" 1000000

/-- The element that `loadConfig` reads. -/
def configRoot (file : Except String (List XMLElement)) : Option XMLElement :=
  match file with
  | .error _ => none
  | .ok document => document.find? fun element => element.name = "Config"

/-- What `loadConfig` takes from a document. -/
structure Loads (scanf : Scanf F) (root : XMLElement) (motorParameters : MotorParameterMap F)
    (config : LoadedConfig F) : Prop where
  parameters : readMotorParameterMap scanf root = .ok (motorParameters, config.totalMotorCount)
  motors : (entries root).foldlM (fun motors entry => entry.place scanf motorParameters motors)
    .empty = .ok config.motors
  masters : config.masters = canMasters scanf root
  periodNs : config.periodNs = (root.elementsIn "Master" ["ECAT", "Masters"]).foldl
    (fun period master => master.int64Attribute scanf "period" period) (canPeriod scanf root)

section

variable {scanf : Scanf F} {root : XMLElement} {motorParameters : MotorParameterMap F}
variable {config next : LoadedConfig F}

omit [FloatArith F] in
/-- The masters of the ECAT section leave the motors and the other masters alone. -/
theorem foldl_readEcatMaster (scanf : Scanf F) (masters : List XMLElement) (config : LoadedConfig F) :
    (masters.foldl (readEcatMaster scanf) config).toConfig = config.toConfig ∧
      (masters.foldl (readEcatMaster scanf) config).masters = config.masters ∧
      (masters.foldl (readEcatMaster scanf) config).periodNs =
        masters.foldl (fun period master => master.int64Attribute scanf "period" period)
          config.periodNs := by
  induction masters generalizing config with
  | nil => exact ⟨rfl, rfl, rfl⟩
  | cons master rest ih => exact ih (readEcatMaster scanf config master)

omit [FloatArith F] in
theorem readCanConfig_ok (ok : readCanConfig scanf motorParameters root config = .ok next) :
    ((EntryKind.canSlave.elements root).map (Entry.mk .canSlave)).foldlM
        (fun motors entry => entry.place scanf motorParameters motors) config.motors =
          .ok next.motors ∧
      next.totalMotorCount = config.totalMotorCount ∧
      next.masters = config.masters ++ canMasters scanf root ∧
      (config.periodNs = 1000000 → next.periodNs = canPeriod scanf root) := by
  rcases bind_eq_ok ok with ⟨motors, placed, ok⟩
  cases ok
  rw [List.foldlM_map]
  refine ⟨placed, rfl, rfl, ?_⟩
  intro initial
  rw [initial]
  rfl

omit [FloatArith F] in
theorem readEcatConfig_ok (ok : readEcatConfig scanf motorParameters root config = .ok next) :
    ((EntryKind.ecatSlave.elements root).map (Entry.mk .ecatSlave)).foldlM
        (fun motors entry => entry.place scanf motorParameters motors) config.motors =
          .ok next.motors ∧
      next.totalMotorCount = config.totalMotorCount ∧ next.masters = config.masters ∧
      next.periodNs = (root.elementsIn "Master" ["ECAT", "Masters"]).foldl
        (fun period master => master.int64Attribute scanf "period" period) config.periodNs := by
  rcases bind_eq_ok ok with ⟨motors, placed, ok⟩
  cases ok
  rcases foldl_readEcatMaster scanf
    (root.elementsIn "Master" ["ECAT", "Masters"]) config with ⟨same, masters, period⟩
  rw [same] at placed
  have count := congrArg Config.totalMotorCount same
  rw [List.foldlM_map]
  exact ⟨placed, count, masters, period⟩

omit [FloatArith F] in
theorem readExplicitMotorPlacements_ok
    (ok : readExplicitMotorPlacements scanf motorParameters root config = .ok next) :
    ((EntryKind.explicit.elements root).map (Entry.mk .explicit)).foldlM
        (fun motors entry => entry.place scanf motorParameters motors) config.motors =
          .ok next.motors ∧
      next.totalMotorCount = config.totalMotorCount ∧ next.masters = config.masters ∧
      next.periodNs = config.periodNs := by
  rcases bind_eq_ok ok with ⟨motors, placed, ok⟩
  cases ok
  rw [List.foldlM_map]
  exact ⟨placed, rfl, rfl, rfl⟩

omit [FloatArith F] in
theorem readImuConfig_same (scanf : Scanf F) (root : XMLElement) (config : LoadedConfig F) :
    (readImuConfig scanf root config).toConfig = config.toConfig ∧
      (readImuConfig scanf root config).masters = config.masters ∧
      (readImuConfig scanf root config).periodNs = config.periodNs := by
  rw [readImuConfig]
  split
  · exact ⟨rfl, rfl, rfl⟩
  · exact ⟨rfl, rfl, rfl⟩

/-- A document that is accepted has a root, and the configuration is read from it. -/
theorem loadConfig_ok {path : String} {file : Except String (List XMLElement)}
    (loaded : loadConfig scanf path file = .ok config) :
    ∃ root motorParameters, configRoot file = some root ∧
      Loads scanf root motorParameters config := by
  cases file with
  | error text => contradiction
  | ok document =>
      simp only [loadConfig] at loaded
      split at loaded
      next => contradiction
      next root isRoot =>
        rcases bind_eq_ok loaded with ⟨⟨motorParameters, totalMotorCount⟩, parameters, loaded⟩
        rcases bind_eq_ok loaded with ⟨withCan, can, loaded⟩
        rcases bind_eq_ok loaded with ⟨withEcat, ecat, loaded⟩
        rcases bind_eq_ok loaded with ⟨withExplicit, explicit, loaded⟩
        cases loaded
        rcases readCanConfig_ok can with ⟨canMotors, canCount, masters, period⟩
        rcases readEcatConfig_ok ecat with ⟨ecatMotors, ecatCount, ecatMasters, ecatPeriod⟩
        rcases readExplicitMotorPlacements_ok explicit with
          ⟨explicitMotors, explicitCount, explicitMasters, explicitPeriod⟩
        rcases readImuConfig_same scanf root withExplicit with
          ⟨same, imuMasters, imuPeriod⟩
        have count : withExplicit.totalMotorCount = totalMotorCount :=
          explicitCount.trans (ecatCount.trans canCount)
        refine ⟨root, motorParameters, isRoot, ?_, ?_, ?_, ?_⟩
        · rw [same, count]
          exact parameters
        · rw [same, entries]
          simp only [List.flatMap_cons, List.flatMap_nil, List.append_nil]
          exact foldlM_append_ok canMotors (foldlM_append_ok ecatMotors explicitMotors)
        · rw [imuMasters, explicitMasters, ecatMasters, masters]
          rfl
        · rw [imuPeriod, explicitPeriod, ecatPeriod, period rfl]

end

end RmdCanSdk
