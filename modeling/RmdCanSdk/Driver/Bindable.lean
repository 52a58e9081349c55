import RmdCanSdk.Driver.GroupEntries

/-!
# Which EtherCAT motors can be bound

A binding can be configured exactly if its type names an MT_Device. The slaves of the ECAT
section are checked for that, but a `Motor` element that names the bus itself is not.
-/

namespace RmdCanSdk

variable {F : Type}

/-! ## Bindings -/

/-- The binding fits its profiles and the mode of its motor, and `configureMtDevicePdos`
accepts it if the master does. -/
structure Bindable (operatingModes : List Int) (binding : EthercatPdoBinding F) : Prop where
  device : isEthercatMtDeviceType binding.type = true
  rxSize : binding.rxSize = ethercatMtDeviceRxPdoSize binding.rxProfile
  txSize : binding.txSize = ethercatMtDeviceTxPdoSize binding.txProfile
  profile : ∃ mode, operatingModes[binding.globalIndex]? = some mode ∧
    binding.rxProfile = ethercatMtDeviceRxProfileForMode mode
  configures : ∀ register, register binding ≠ none →
    ∃ configured, configureMtDevicePdos register binding = .ok configured

/-- The slave position can always be resolved for a motor with an alias. -/
theorem resolveEthercatSlavePosition_total {binding : EthercatPdoBinding F}
    (positive : 0 < binding.alias) :
    ∃ slave, resolveEthercatSlavePosition binding = .ok slave := by
  rw [resolveEthercatSlavePosition]
  split
  · exact ⟨_, rfl⟩
  · rw [if_neg (not_le.mpr positive)]
    exact ⟨_, rfl⟩

theorem configureMtDevicePdos_total {register : EthercatPdoBinding F → Option (Nat × Nat)}
    {binding : EthercatPdoBinding F} (device : isEthercatMtDeviceType binding.type = true)
    (positive : 0 < binding.alias) (registers : register binding ≠ none) :
    ∃ configured, configureMtDevicePdos register binding = .ok configured := by
  rcases resolveEthercatSlavePosition_total positive with ⟨slave, resolved⟩
  rcases Option.ne_none_iff_exists'.mp registers with ⟨offsets, registered⟩
  rw [configureMtDevicePdos, if_pos device, resolved, registered]
  exact ⟨_, rfl⟩

/-- The profiles are assigned by the type, which stays as it is. -/
theorem assignProfile_bindable_iff {operatingModes : List Int}
    {binding assigned : EthercatPdoBinding F} (positive : 0 < binding.alias)
    (ok : assignProfile operatingModes binding = .ok assigned) :
    Bindable operatingModes assigned ↔ isEthercatMtDeviceType binding.type = true := by
  rw [assignProfile] at ok
  split at ok
  next device =>
    split at ok
    next => contradiction
    next mode isMode =>
      cases ok
      apply iff_of_true _ device
      exact ⟨device, rfl, rfl, ⟨mode, isMode, rfl⟩,
        fun _ registers => configureMtDevicePdos_total device positive registers⟩
  next other =>
    cases ok
    exact ⟨Bindable.device, fun device => absurd device other⟩

/-- All bindings of a group can be bound exactly if all its motors are MT_Devices. -/
theorem forall_bindable_iff {operatingModes : List Int}
    {bindings assigned : List (EthercatPdoBinding F)}
    (positive : ∀ binding ∈ bindings, 0 < binding.alias)
    (ok : assignEthercatPdoProfiles bindings operatingModes = .ok assigned) :
    (∀ binding ∈ assigned, Bindable operatingModes binding) ↔
      ∀ binding ∈ bindings, isEthercatMtDeviceType binding.type = true := by
  rw [assignEthercatPdoProfiles] at ok
  induction bindings generalizing assigned with
  | nil =>
      cases ok
      exact iff_of_true (fun _ member => by contradiction) (fun _ member => by contradiction)
  | cons binding rest ih =>
      rw [List.mapM_cons] at ok
      rcases bind_eq_ok ok with ⟨first, own, ok⟩
      rcases bind_eq_ok ok with ⟨others, later, ok⟩
      cases ok
      rw [List.forall_mem_cons, List.forall_mem_cons,
        assignProfile_bindable_iff (positive binding List.mem_cons_self) own,
        ih (fun other member => positive other (List.mem_cons_of_mem _ member)) later]

/-! ## Types that the sections accept -/

/-- An EtherCAT motor with this type can be placed by an entry of this kind. -/
def AcceptsType (F : Type) [FloatArith F] (kind : EntryKind) (type : String) : Prop :=
  ∃ (scanf : Scanf F) (motorParameters : MotorParameterMap F) (entry : Entry)
    (motor : MotorConfig F), entry.kind = kind ∧ entry.type = type ∧
      entry.Places scanf motorParameters motor ∧ motor.bus = .ethercat

variable [FloatArith F]

/-- `sscanf` on plain numbers, for any floating-point type. -/
def integerScanf (F : Type) : Scanf F where
  decimal := plainNumber
  hexadecimal := fun _ => none
  decimal64 := plainNumber
  hexadecimal64 := fun _ => none
  float := fun _ => none

omit [FloatArith F] in
/-- The slaves of the ECAT section are checked. -/
theorem Entry.Places.device {scanf : Scanf F} {motorParameters : MotorParameterMap F}
    {entry : Entry} {motor : MotorConfig F} (places : entry.Places scanf motorParameters motor)
    (ethercat : entry.bus = .ethercat) (listed : entry.kind ≠ .explicit) :
    isEthercatMtDeviceType entry.type = true := by
  rcases entry with ⟨kind, element⟩
  cases kind with
  | canSlave => contradiction
  | ecatSlave =>
      rcases readEcatSlave_ok places with ⟨none, -⟩ | ⟨placed, -, readAs⟩
      · contradiction
      · exact (Bool.and_eq_true_iff.mp readAs.supported).2
  | explicit => exact absurd rfl listed

theorem acceptsType_ecatSlave_iff (type : String) :
    AcceptsType F .ecatSlave type ↔ isEthercatMtDeviceType type = true := by
  constructor
  · rintro ⟨scanf, motorParameters, ⟨kind, element⟩, motor, isKind, rfl, places, -⟩
    cases isKind
    exact places.device rfl (fun explicit => by contradiction)
  · intro device
    let element := enabledSlave [("alias", "1"), ("slave", "0"), ("type", type)]
    have on : element.intText (integerScanf F) 0 = 1 := rfl
    have named : (element.attribute "type").getD "" = type := rfl
    refine ⟨integerScanf F, fun _ => some default, ⟨.ecatSlave, element⟩, ?motor, rfl, named,
      ?places, ?bus⟩
    case places =>
      rw [Entry.Places, EntryKind.read, readEcatSlave, if_neg (not_not.mpr on)]
      dsimp only
      rw [named, device]
      rfl
    case bus => rfl

theorem acceptsType_explicit (type : String) : AcceptsType F .explicit type :=
  ⟨integerScanf F, fun _ => some default,
    ⟨.explicit, motorElement [("alias", "1"), ("bus", "ECAT"), ("slave", "0"), ("type", type)]⟩,
    _, rfl, rfl, rfl, rfl⟩

/-- All motors of a group can be bound exactly if each entry that decides one of them by a
bus attribute names an MT_Device. The ways to place a motor differ in all other types. -/
theorem bindable_iff_devices :
    (∀ (scanf : Scanf F) (path : String) (file : Except String (List XMLElement))
      (config : LoadedConfig F), loadConfig scanf path file = .ok config →
        ∃ root registry, configRoot file = some root ∧
          MotorRegistry.fromConfig config.toConfig = .ok registry ∧
          ∀ (backendIndex : Nat) (group : BackendGroup),
            registry.backends[backendIndex]? = some group → group.bus = .ethercat →
            ∀ operatingModes : List Int, operatingModes.length = registry.totalMotorCount →
              ∃ bindings assigned,
                buildEthercatPdoBindings registry backendIndex = .ok bindings ∧
                assignEthercatPdoProfiles bindings operatingModes = .ok assigned ∧
                ((∀ binding ∈ assigned, Bindable operatingModes binding) ↔
                  ∀ entry, GroupEntry scanf root group entry → entry.kind = .explicit →
                    isEthercatMtDeviceType entry.type = true)) ∧
    ∀ type : String, (AcceptsType F .ecatSlave type ↔ AcceptsType F .explicit type) ↔
      isEthercatMtDeviceType type = true := by
  constructor
  · intro scanf path file config loaded
    rcases loadConfig_ok loaded with ⟨root, motorParameters, isRoot, loads⟩
    have configured := loads.configuredBy
    rcases MotorRegistry.fromConfig_total configured.inRange with ⟨registry, created⟩
    have registered := configured.registered created
    refine ⟨root, registry, isRoot, created, ?_⟩
    intro backendIndex group own ethercat operatingModes sized
    have bound := boundBy registered.wellFormed own ethercat
    rcases bound.domains operatingModes sized with ⟨assigned, assigns, -⟩
    refine ⟨_, assigned, bound.bindings, assigns, ?_⟩
    have positive : ∀ binding ∈ (registry.groupMotors group).map pdoBinding,
        0 < binding.alias := by
      intro binding member
      rcases List.mem_map.mp member with ⟨motor, inGroup, rfl⟩
      exact (registered.wellFormed.numbered motor (mem_of_mem_groupMotors inGroup)).1
    rw [forall_bindable_iff positive assigns, List.forall_mem_map]
    have inBackends := List.mem_of_getElem? own
    constructor
    · intro devices entry isEntry _
      rcases registered.ofEntry group inBackends entry isEntry with ⟨motor, inGroup, places⟩
      rw [← places.settings.type]
      exact devices motor inGroup
    · intro devices motor inGroup
      rcases registered.ofMotor group inBackends motor inGroup with ⟨entry, isEntry, places⟩
      have isType : (pdoBinding motor).type = entry.type := places.settings.type
      rw [isType]
      by_cases explicit : entry.kind = .explicit
      · exact devices entry isEntry explicit
      · exact places.device (isEntry.bus.trans ethercat) explicit
  · intro type
    rw [acceptsType_ecatSlave_iff, iff_true_right (acceptsType_explicit type)]

/-! ## A motor of another type -/

/-- A document whose only motor names its bus itself. -/
def explicitEthercatDocument (type : String) : XMLElement :=
  branch "Config" [branch "Motors" [
    motorElement [("alias", "1"), ("bus", "ECAT"), ("slave", "3"), ("type", type)]]]

/-- The group of the motor. -/
def explicitEthercatGroup : BackendGroup where
  bus := .ethercat
  master := 0
  motorIndexes := [0]

theorem bindable_mtDevice :
    ∃ (config : LoadedConfig ℚ) (registry : MotorRegistry ℚ)
      (bindings assigned : List (EthercatPdoBinding ℚ)),
      loadConfig plainScanf "" (.ok [explicitEthercatDocument "MT-Device"]) = .ok config ∧
      MotorRegistry.fromConfig config.toConfig = .ok registry ∧
      buildEthercatPdoBindings registry 0 = .ok bindings ∧
      assignEthercatPdoProfiles bindings [5] = .ok assigned ∧
      ∀ binding ∈ assigned, Bindable [5] binding := by
  obtain ⟨config, registry, loaded, created, own, count⟩ :
      ∃ config registry,
        loadConfig plainScanf "" (.ok [explicitEthercatDocument "MT-Device"]) = .ok config ∧
        MotorRegistry.fromConfig config.toConfig = .ok registry ∧
        registry.backends[0]? = some explicitEthercatGroup ∧ registry.totalMotorCount = 1 :=
    ⟨_, _, rfl, rfl, rfl, rfl⟩
  rcases (bindable_iff_devices (F := ℚ)).1 plainScanf "" _ config loaded with
    ⟨root, registry', isRoot, created', bound⟩
  cases created.symm.trans created'
  rcases bound 0 explicitEthercatGroup own rfl [5] (by rw [count]; rfl) with
    ⟨bindings, assigned, built, assigns, bindable⟩
  refine ⟨config, registry, bindings, assigned, loaded, created, built, assigns, ?_⟩
  apply bindable.mpr
  intro entry isEntry _
  have inDocument : entry ∈ entries root :=
    (List.mem_filter.mp (of_lastFor isEntry.decides).1).1
  cases isRoot
  have only : entries (explicitEthercatDocument "MT-Device") = [⟨.explicit, motorElement
      [("alias", "1"), ("bus", "ECAT"), ("slave", "3"), ("type", "MT-Device")]⟩] := rfl
  rw [only, List.mem_singleton] at inDocument
  rw [inDocument]
  decide

/-- A motor with an RMD type is accepted, but no master can start it. -/
theorem explicit_type_not_bindable :
    ∃ (config : LoadedConfig ℚ) (registry : MotorRegistry ℚ) (binding : EthercatPdoBinding ℚ),
      loadConfig plainScanf "" (.ok [explicitEthercatDocument "RMD-X12-P20-320"]) = .ok config ∧
      MotorRegistry.fromConfig config.toConfig = .ok registry ∧
      registry.backends[0]? = some explicitEthercatGroup ∧ registry.totalMotorCount = 1 ∧
      buildEthercatPdoBindings registry 0 = .ok [binding] ∧
      ∀ mode, assignEthercatPdoProfiles [binding] [mode] = .ok [binding] ∧
        ¬ Bindable [mode] binding ∧
        ∀ register, configureMtDevicePdos register binding =
          .error "starting motor backend failed" := by
  refine ⟨_, _, _, rfl, rfl, rfl, rfl, rfl, ?_⟩
  intro mode
  refine ⟨?_, ?_, ?_⟩
  · rfl
  · intro bindable
    exact absurd bindable.device (by decide)
  · intro register
    rfl

end RmdCanSdk
