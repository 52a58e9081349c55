import RmdCanSdk.Driver.EveryMotor

/-!
# The entries behind a group

The motors of a group are those of the last entries for their aliases, as far as these
name the bus and the master of the group. So a fact about the motors of a group is a fact
about entries of the document.
-/

namespace RmdCanSdk

variable {F : Type} {scanf : Scanf F} {root : XMLElement}
variable {motorParameters : MotorParameterMap F} {motor : MotorConfig F}

/-! ## What an entry says -/

namespace Entry

variable (scanf : Scanf F) (entry : Entry)

/-- The bus of an entry, by its section or its attribute. -/
def bus : MotorBus :=
  match entry.kind with
  | .canSlave => .can
  | .ecatSlave => .ethercat
  | .explicit =>
      if normalizeUpper ((entry.element.attribute "bus").getD "") = "CAN" then .can else .ethercat

def master : Int := entry.element.intAttribute scanf "master" 0

def type : String := (entry.element.attribute "type").getD ""

/-- The slave id of a CAN entry. -/
def slaveId : Int :=
  match entry.kind with
  | .explicit => firstIntAttribute scanf entry.element ["slave_id", "id", "motor_id"]
      (firstIntAttribute scanf entry.element ["id", "motor_id", "slave_id"] 0)
  | _ => entry.element.intAttribute scanf "slave_id" 0

end Entry

/-- The motor has the settings that the entry names. -/
structure SettingsOf (scanf : Scanf F) (entry : Entry) (motor : MotorConfig F) : Prop where
  numbered : motor.alias = entry.alias scanf
  bus : motor.bus = entry.bus
  master : motor.master = entry.master scanf
  type : motor.type = entry.type
  slaveId : entry.bus = .can → motor.slaveId = entry.slaveId scanf

theorem explicitCanMotor_settings {element : XMLElement} {number : Int}
    {parameters : MotorParameters F}
    (named : normalizeUpper ((element.attribute "bus").getD "") = "CAN")
    (numbered : number = element.intAttribute scanf "alias" 0)
    (ok : explicitCanMotor scanf element number ((element.attribute "type").getD "") parameters =
      .ok motor) : SettingsOf scanf ⟨.explicit, element⟩ motor := by
  have isCan : (⟨.explicit, element⟩ : Entry).bus = .can := if_pos named
  simp only [explicitCanMotor] at ok
  split at ok
  next => contradiction
  next =>
    cases ok
    exact ⟨numbered, isCan.symm, rfl, rfl, fun _ => rfl⟩

theorem explicitEthercatMotor_settings {element : XMLElement} {number : Int}
    {parameters : MotorParameters F}
    (named : normalizeUpper ((element.attribute "bus").getD "") ≠ "CAN")
    (numbered : number = element.intAttribute scanf "alias" 0)
    (ok : explicitEthercatMotor scanf element number ((element.attribute "type").getD "")
      parameters = .ok motor) : SettingsOf scanf ⟨.explicit, element⟩ motor := by
  have isEthercat : (⟨.explicit, element⟩ : Entry).bus = .ethercat := if_neg named
  simp only [explicitEthercatMotor] at ok
  split at ok
  next => contradiction
  next =>
    cases ok
    refine ⟨numbered, isEthercat.symm, rfl, rfl, ?_⟩
    intro isCan
    rw [isEthercat] at isCan
    contradiction

theorem readCanSlave_settings {element : XMLElement}
    (read : readCanSlave scanf motorParameters element = .ok (some motor)) :
    SettingsOf scanf ⟨.canSlave, element⟩ motor := by
  simp only [readCanSlave] at read
  split at read
  next => cases read
  next =>
    split at read
    next => cases read
    next =>
      split at read
      next => contradiction
      next =>
        split at read
        next => contradiction
        next =>
          cases read
          exact ⟨rfl, rfl, rfl, rfl, fun _ => rfl⟩

theorem readEcatSlave_settings {element : XMLElement}
    (read : readEcatSlave scanf motorParameters element = .ok (some motor)) :
    SettingsOf scanf ⟨.ecatSlave, element⟩ motor := by
  simp only [readEcatSlave] at read
  split at read
  next => cases read
  next =>
    split at read
    next => cases read
    next =>
      split at read
      next => contradiction
      next =>
        split at read
        next => contradiction
        next =>
          cases read
          exact ⟨rfl, rfl, rfl, rfl, fun isCan => by contradiction⟩

theorem readExplicitMotor_settings {element : XMLElement}
    (read : readExplicitMotor scanf motorParameters element = .ok (some motor)) :
    SettingsOf scanf ⟨.explicit, element⟩ motor := by
  simp only [readExplicitMotor] at read
  split at read
  next => cases read
  next text hasBus =>
    rcases bind_eq_ok read with ⟨bus, parsed, read⟩
    have isCan := parseMotorBus_ok parsed
    have named : (element.attribute "bus").getD "" = text := by rw [hasBus, Option.getD_some]
    split at read
    next => contradiction
    next =>
      split at read
      next => contradiction
      next =>
        cases bus with
        | can =>
            dsimp only at read
            split at read
            next => cases read
            next =>
              rcases map_eq_ok read with ⟨placed, ok, same⟩
              cases same
              exact explicitCanMotor_settings (named ▸ isCan.mp rfl) rfl ok
        | ethercat =>
            rcases map_eq_ok read with ⟨placed, ok, same⟩
            cases same
            apply explicitEthercatMotor_settings _ rfl ok
            intro capitals
            have impossible := isCan.mpr (named ▸ capitals)
            contradiction

/-- A motor has the settings of the entry that places it. -/
theorem Entry.Places.settings {entry : Entry} (places : entry.Places scanf motorParameters motor) :
    SettingsOf scanf entry motor := by
  rcases entry with ⟨kind, element⟩
  cases kind with
  | canSlave => exact readCanSlave_settings places
  | ecatSlave => exact readEcatSlave_settings places
  | explicit => exact readExplicitMotor_settings places

/-! ## The entries that decide -/

/-- The last entry for its alias that is not skipped. -/
def Decides (scanf : Scanf F) (root : XMLElement) (entry : Entry) : Prop :=
  lastFor (Entry.alias scanf) (placements scanf root) (entry.alias scanf) = some entry

/-- The entry decides a motor with the bus and the master of the group. -/
structure GroupEntry (scanf : Scanf F) (root : XMLElement) (group : BackendGroup) (entry : Entry) :
    Prop where
  decides : Decides scanf root entry
  bus : entry.bus = group.bus
  master : entry.master scanf = group.master

variable [FloatArith F] {config : Config F} {registry : MotorRegistry F} {group : BackendGroup}

omit [FloatArith F] in
/-- A group has all motors with its bus and master. -/
theorem GroupedBy.mem_groupMotors_iff (grouped : GroupedBy config registry)
    (perm : (registry.backends.flatMap registry.groupMotors).Perm registry.motors)
    (own : group ∈ registry.backends) {motor : RuntimeMotor F} :
    motor ∈ registry.groupMotors group ↔
      motor ∈ registry.motors ∧ motor.bus = group.bus ∧ motor.master = group.master := by
  have key : ∀ group ∈ registry.backends, motor ∈ registry.groupMotors group →
      motor.bus = group.bus ∧ motor.master = group.master := by
    intro group own inGroup
    rcases List.mem_filterMap.mp inGroup with ⟨index, listed, selected⟩
    rcases grouped.members group own index listed with ⟨other, same, named⟩
    cases selected.symm.trans same
    exact named
  constructor
  · intro inGroup
    exact ⟨mem_of_mem_groupMotors inGroup, key group own inGroup⟩
  · rintro ⟨member, bus, master⟩
    rcases List.mem_flatMap.mp (perm.mem_iff.mpr member) with ⟨other, ownOther, inOther⟩
    rcases key other ownOther inOther with ⟨otherBus, otherMaster⟩
    have same : MotorRegistry.key other = MotorRegistry.key group := by
      rw [MotorRegistry.key, MotorRegistry.key, ← otherBus, ← otherMaster, bus, master]
    exact List.inj_on_of_nodup_map grouped.keys ownOther own same ▸ inOther

/-- What connects a document with the registry of its configuration. -/
structure Registered (scanf : Scanf F) (root : XMLElement) (motorParameters : MotorParameterMap F)
    (registry : MotorRegistry F) : Prop where
  wellFormed : registry.WellFormed
  ofMotor : ∀ group ∈ registry.backends, ∀ motor ∈ registry.groupMotors group, ∃ entry,
    GroupEntry scanf root group entry ∧ entry.Places scanf motorParameters motor.configured
  ofEntry : ∀ group ∈ registry.backends, ∀ entry, GroupEntry scanf root group entry →
    ∃ motor ∈ registry.groupMotors group, entry.Places scanf motorParameters motor.configured

/-- The motors of a group and the entries that decide them correspond to each other. -/
theorem ConfiguredBy.registered (configured : ConfiguredBy scanf root motorParameters config)
    (created : MotorRegistry.fromConfig config = .ok registry) :
    Registered scanf root motorParameters registry := by
  have grouped := groupedBy_fromConfig created
  have wellFormed := MotorRegistry.fromConfig_wellFormed created
  refine ⟨wellFormed, ?_, ?_⟩
  · intro group own motor inGroup
    rcases (grouped.mem_groupMotors_iff wellFormed.perm_groupMotors own).mp inGroup with
      ⟨member, bus, master⟩
    have listed : motor.configured ∈ config.motors.motors :=
      grouped.motors ▸ List.mem_map_of_mem member
    rcases configured.placed _ listed with ⟨entry, last, places⟩
    have settings := Entry.Places.settings places
    refine ⟨entry, ⟨?_, ?_, ?_⟩, places⟩
    · rw [Decides, ← settings.numbered]
      exact last
    · rw [← settings.bus, ← bus]
      rfl
    · rw [← settings.master, ← master]
      rfl
  · intro group own entry ⟨decides, bus, master⟩
    rcases configured.complete entry (of_lastFor decides).1 with ⟨motor, listed, numbered⟩
    rcases configured.placed motor listed with ⟨same, last, places⟩
    rw [numbered, decides] at last
    cases last
    have settings := Entry.Places.settings places
    rw [← grouped.motors] at listed
    rcases List.mem_map.mp listed with ⟨runtime, member, rfl⟩
    refine ⟨runtime, ?_, places⟩
    apply (grouped.mem_groupMotors_iff wellFormed.perm_groupMotors own).mpr
    exact ⟨member, settings.bus.trans bus, settings.master.trans master⟩

end RmdCanSdk
