import Mathlib.Data.List.Perm.Basic
import RmdCanSdk.Ethercat.Snapshot
import RmdCanSdk.Library.Traverse
import RmdCanSdk.Registry

/-!
# PDO bindings and domains

From the motors of a group to the domains of the realtime loop: a binding for each
motor, its profiles and offsets, and one domain for each domain id. No step loses
or doubles a motor, so the bindings of all domains have distinct global indices.
-/

namespace RmdCanSdk

variable {F : Type}

def isEthercatMtDeviceType (type : String) : Bool :=
  (type.toList.filter fun ch => ch ≠ '_' ∧ ch ≠ '-').map Char.toUpper = "MTDEVICE".toList

/-! ## Bindings of a group -/

def pdoBinding (motor : RuntimeMotor F) : EthercatPdoBinding F where
  globalIndex := motor.globalIndex
  backendLocalIndex := motor.backendLocalIndex
  «alias» := motor.alias
  master := motor.master
  slave := motor.ethercatSlave
  domain := motor.domain
  rxOffset := -1
  txOffset := -1
  rxProfile := .standard
  txProfile := .extended
  rxSize := if isEthercatMtDeviceType motor.type then ethercatMtDeviceRxPdoSize .standard else 0
  txSize := if isEthercatMtDeviceType motor.type then ethercatMtDeviceTxPdoSize .extended else 0
  type := motor.type
  parameters := motor.parameters

def buildEthercatPdoBindings (registry : MotorRegistry F) (backendIndex : Nat) :
    Except String (List (EthercatPdoBinding F)) :=
  match registry.backends[backendIndex]? with
  | none => throw "EtherCAT backend index outside registry"
  | some backend =>
      if backend.bus ≠ .ethercat then return []
      else return (registry.groupMotors backend).map pdoBinding

def assignProfile (operatingModes : List Int) (binding : EthercatPdoBinding F) :
    Except String (EthercatPdoBinding F) :=
  if isEthercatMtDeviceType binding.type then
    match operatingModes[binding.globalIndex]? with
    | none => throw "EtherCAT operating mode missing for binding global index"
    | some mode => return { binding with
        rxProfile := ethercatMtDeviceRxProfileForMode mode
        txProfile := .extended
        rxSize := ethercatMtDeviceRxPdoSize (ethercatMtDeviceRxProfileForMode mode)
        txSize := ethercatMtDeviceTxPdoSize .extended }
  else return binding

def assignEthercatPdoProfiles (bindings : List (EthercatPdoBinding F))
    (operatingModes : List Int) : Except String (List (EthercatPdoBinding F)) :=
  bindings.mapM (assignProfile operatingModes)

def resolveEthercatSlavePosition (binding : EthercatPdoBinding F) : Except String Int :=
  if binding.slave ≥ 0 then return binding.slave
  else if binding.alias ≤ 0 then
    throw "EtherCAT binding has no alias for slave-position fallback"
  else return binding.alias - 1

/-! ## Domains -/

/-- A domain of the realtime loop. Its image is kept apart, under the domain's id. -/
structure EthercatDomainRuntime (F : Type) where
  domainId : Int
  size : Nat
  bindings : List (EthercatPdoBinding F)

/-- Append a binding to the domain with its id, which it creates when there is none. -/
def addBinding (domains : List (EthercatDomainRuntime F)) (binding : EthercatPdoBinding F) :
    List (EthercatDomainRuntime F) :=
  match domains with
  | [] => [{ domainId := binding.domain, size := 0, bindings := [binding] }]
  | domain :: rest =>
      if domain.domainId = binding.domain then
        { domain with bindings := domain.bindings ++ [binding] } :: rest
      else domain :: addBinding rest binding

def createDomains (bindings : List (EthercatPdoBinding F)) : List (EthercatDomainRuntime F) :=
  bindings.foldl addBinding []

/-- The registration of a binding's entries with the master, which chooses the
offsets or refuses. -/
def configureMtDevicePdos (register : EthercatPdoBinding F → Option (Nat × Nat))
    (binding : EthercatPdoBinding F) : Except String (EthercatPdoBinding F) :=
  if isEthercatMtDeviceType binding.type then do
    let slave ← resolveEthercatSlavePosition binding
    match register binding with
    | none => throw "starting motor backend failed"
    | some (rxOffset, txOffset) => return { binding with
        slave := slave
        rxOffset := rxOffset
        txOffset := txOffset
        rxSize := ethercatMtDeviceRxPdoSize binding.rxProfile
        txSize := ethercatMtDeviceTxPdoSize binding.txProfile }
  else throw "starting motor backend failed"

def configureDomain (register : EthercatPdoBinding F → Option (Nat × Nat))
    (domainSize : Int → Nat) (domain : EthercatDomainRuntime F) :
    Except String (EthercatDomainRuntime F) := do
  let bindings ← domain.bindings.mapM (configureMtDevicePdos register)
  return { domain with size := domainSize domain.domainId, bindings := bindings }

/-- The domains `start` builds before it starts the loop. -/
def startDomains (registry : MotorRegistry F) (backendIndex : Nat) (operatingModes : List Int)
    (register : EthercatPdoBinding F → Option (Nat × Nat)) (domainSize : Int → Nat) :
    Except String (List (EthercatDomainRuntime F)) := do
  let bindings ← buildEthercatPdoBindings registry backendIndex
  let bindings ← assignEthercatPdoProfiles bindings operatingModes
  (createDomains bindings).mapM (configureDomain register domainSize)

/-- Domains as the loop needs them: every motor stands in at most one binding, and
every domain has its own image. -/
structure EthercatDomains (F : Type) where
  domains : List (EthercatDomainRuntime F)
  distinct : ((domains.flatMap EthercatDomainRuntime.bindings).map
    EthercatPdoBinding.globalIndex).Nodup
  inBounds : ∀ domain ∈ domains, ∀ binding ∈ domain.bindings,
    binding.globalIndex < MaxRealtimeMotors
  images : (domains.map EthercatDomainRuntime.domainId).Nodup

/-! ## No motor is lost or doubled -/

/-- What `start` never changes in a binding: its motor and its domain. -/
def EthercatPdoBinding.place (binding : EthercatPdoBinding F) : Nat × Int :=
  (binding.globalIndex, binding.domain)

theorem place_assignProfile {operatingModes : List Int}
    {binding assigned : EthercatPdoBinding F}
    (ok : assignProfile operatingModes binding = .ok assigned) :
    assigned.place = binding.place := by
  simp only [assignProfile] at ok
  split at ok
  next =>
    split at ok
    next => contradiction
    next =>
      cases ok
      rfl
  next =>
    cases ok
    rfl

theorem place_configure {register : EthercatPdoBinding F → Option (Nat × Nat)}
    {binding configured : EthercatPdoBinding F}
    (ok : configureMtDevicePdos register binding = .ok configured) :
    configured.place = binding.place := by
  simp only [configureMtDevicePdos] at ok
  split at ok
  next =>
    rcases bind_eq_ok ok with ⟨slave, -, ok⟩
    split at ok
    next => contradiction
    next =>
      cases ok
      rfl
  next => contradiction

theorem configureDomain_ok {register : EthercatPdoBinding F → Option (Nat × Nat)}
    {domainSize : Int → Nat} {domain configured : EthercatDomainRuntime F}
    (ok : configureDomain register domainSize domain = .ok configured) :
    configured.domainId = domain.domainId ∧
      configured.bindings.map EthercatPdoBinding.place =
        domain.bindings.map EthercatPdoBinding.place := by
  rcases bind_eq_ok ok with ⟨bindings, converted, ok⟩
  cases ok
  exact ⟨rfl, map_mapM place_configure converted⟩

theorem flatMap_addBinding (domains : List (EthercatDomainRuntime F))
    (binding : EthercatPdoBinding F) :
    ((addBinding domains binding).flatMap EthercatDomainRuntime.bindings).Perm
      (domains.flatMap EthercatDomainRuntime.bindings ++ [binding]) := by
  induction domains with
  | nil => exact .refl _
  | cons domain rest ih =>
      simp only [addBinding]
      split
      next =>
        simp only [List.flatMap_cons, List.append_assoc]
        exact List.perm_append_comm.append_left _
      next =>
        simp only [List.flatMap_cons, List.append_assoc]
        exact ih.append_left _

/-- The domains hold exactly the bindings they were created from. -/
theorem flatMap_createDomains (bindings : List (EthercatPdoBinding F)) :
    ((createDomains bindings).flatMap EthercatDomainRuntime.bindings).Perm bindings := by
  have general : ∀ domains : List (EthercatDomainRuntime F),
      ((bindings.foldl addBinding domains).flatMap EthercatDomainRuntime.bindings).Perm
        (domains.flatMap EthercatDomainRuntime.bindings ++ bindings) := by
    induction bindings with
    | nil => exact fun domains => by simp
    | cons binding rest ih =>
        intro domains
        apply (ih (addBinding domains binding)).trans
        rw [List.append_cons]
        exact (flatMap_addBinding domains binding).append_right rest
  exact general []

theorem mem_addBinding {domains : List (EthercatDomainRuntime F)}
    {binding : EthercatPdoBinding F} {number : Int}
    (member : number ∈ (addBinding domains binding).map EthercatDomainRuntime.domainId) :
    number ∈ domains.map EthercatDomainRuntime.domainId ∨ number = binding.domain := by
  induction domains with
  | nil => exact .inr (List.mem_singleton.mp member)
  | cons domain rest ih =>
      simp only [addBinding] at member
      split at member
      next => exact .inl member
      next =>
        rcases List.mem_cons.mp member with head | tail
        · exact .inl (head ▸ List.mem_cons_self)
        · exact (ih tail).imp_left (List.mem_cons_of_mem _)

theorem nodup_addBinding {domains : List (EthercatDomainRuntime F)}
    (distinct : (domains.map EthercatDomainRuntime.domainId).Nodup)
    (binding : EthercatPdoBinding F) :
    ((addBinding domains binding).map EthercatDomainRuntime.domainId).Nodup := by
  induction domains with
  | nil => exact List.nodup_singleton _
  | cons domain rest ih =>
      simp only [addBinding]
      split
      next => exact distinct
      next different =>
        rw [List.map_cons, List.nodup_cons] at distinct ⊢
        constructor
        · intro member
          rcases mem_addBinding member with earlier | own
          · exact distinct.1 earlier
          · exact different own
        · exact ih distinct.2

theorem nodup_createDomains (bindings : List (EthercatPdoBinding F)) :
    ((createDomains bindings).map EthercatDomainRuntime.domainId).Nodup := by
  have general : ∀ domains : List (EthercatDomainRuntime F),
      (domains.map EthercatDomainRuntime.domainId).Nodup →
        ((bindings.foldl addBinding domains).map EthercatDomainRuntime.domainId).Nodup := by
    induction bindings with
    | nil => exact fun _ distinct => distinct
    | cons binding rest ih =>
        intro domains distinct
        exact ih _ (nodup_addBinding distinct binding)
  exact general [] List.nodup_nil

/-- Every binding is in the domain with its domain id. -/
def OwnDomains (domains : List (EthercatDomainRuntime F)) : Prop :=
  ∀ domain ∈ domains, ∀ binding ∈ domain.bindings, binding.domain = domain.domainId

theorem OwnDomains.addBinding {domains : List (EthercatDomainRuntime F)}
    (own : OwnDomains domains) (binding : EthercatPdoBinding F) :
    OwnDomains (RmdCanSdk.addBinding domains binding) := by
  induction domains with
  | nil =>
      intro domain member bound inDomain
      cases List.mem_singleton.mp member
      rw [List.mem_singleton.mp inDomain]
  | cons first rest ih =>
      have others : OwnDomains rest := fun domain member => own domain (List.mem_cons_of_mem _ member)
      simp only [RmdCanSdk.addBinding]
      split
      next same =>
        intro domain member bound inDomain
        rcases List.mem_cons.mp member with rfl | inRest
        · rcases List.mem_append.mp inDomain with earlier | new
          · exact own first List.mem_cons_self bound earlier
          · rw [List.mem_singleton.mp new]
            exact same.symm
        · exact others domain inRest bound inDomain
      next =>
        intro domain member
        rcases List.mem_cons.mp member with rfl | inRest
        · exact own domain List.mem_cons_self
        · exact ih others domain inRest

theorem ownDomains_createDomains (bindings : List (EthercatPdoBinding F)) :
    OwnDomains (createDomains bindings) := by
  have general : ∀ domains : List (EthercatDomainRuntime F), OwnDomains domains →
      OwnDomains (bindings.foldl RmdCanSdk.addBinding domains) := by
    induction bindings with
    | nil => exact fun _ own => own
    | cons binding rest ih => exact fun domains own => ih _ (own.addBinding binding)
  exact general [] fun _ member => absurd member List.not_mem_nil

variable {registry : MotorRegistry F} {backendIndex : Nat} {operatingModes : List Int}
variable {register : EthercatPdoBinding F → Option (Nat × Nat)} {domainSize : Int → Nat}
variable {domains : List (EthercatDomainRuntime F)} {group : BackendGroup}

theorem buildEthercatPdoBindings_ethercat (own : registry.backends[backendIndex]? = some group)
    (ethercat : group.bus = .ethercat) :
    buildEthercatPdoBindings registry backendIndex =
      .ok ((registry.groupMotors group).map pdoBinding) := by
  simp only [buildEthercatPdoBindings, own, ethercat]
  rfl

/-- The started domains place the motors of the group in their own domains. -/
theorem startDomains_places (own : registry.backends[backendIndex]? = some group)
    (ethercat : group.bus = .ethercat)
    (ok : startDomains registry backendIndex operatingModes register domainSize = .ok domains) :
    ((domains.flatMap EthercatDomainRuntime.bindings).map EthercatPdoBinding.place).Perm
      ((registry.groupMotors group).map fun motor => (motor.globalIndex, motor.domain)) ∧
    OwnDomains domains ∧ (domains.map EthercatDomainRuntime.domainId).Nodup := by
  rcases bind_eq_ok ok with ⟨motors, ofMotors, profiled⟩
  cases (buildEthercatPdoBindings_ethercat own ethercat).symm.trans ofMotors
  rcases bind_eq_ok profiled with ⟨bindings, assigned, configured⟩
  have places : bindings.map EthercatPdoBinding.place =
      (registry.groupMotors group).map fun motor => (motor.globalIndex, motor.domain) := by
    rw [map_mapM place_assignProfile assigned, List.map_map]
    rfl
  refine ⟨?_, ?_, ?_⟩
  · have grouped := map_mapM (fun ok => (configureDomain_ok ok).2) configured
    rw [← places, List.map_flatMap, List.flatMap_def, grouped, ← List.flatMap_def,
      ← List.map_flatMap]
    exact (flatMap_createDomains bindings).map _
  · intro domain member binding bound
    rcases mem_mapM configured member with ⟨created, inCreated, configures⟩
    rcases configureDomain_ok configures with ⟨same, kept⟩
    have listed := List.mem_map_of_mem (f := EthercatPdoBinding.place) bound
    rw [kept] at listed
    rcases List.mem_map.mp listed with ⟨before, inBefore, place⟩
    have ownDomain := ownDomains_createDomains bindings created inCreated before inBefore
    rw [same, ← ownDomain]
    exact congrArg Prod.snd place.symm
  · rw [map_mapM (fun ok => (configureDomain_ok ok).1) configured]
    exact nodup_createDomains bindings

/-- The bindings of the started domains are those of the motors of the group. -/
theorem startDomains_indices (own : registry.backends[backendIndex]? = some group)
    (ethercat : group.bus = .ethercat)
    (ok : startDomains registry backendIndex operatingModes register domainSize = .ok domains) :
    ((domains.flatMap EthercatDomainRuntime.bindings).map
        EthercatPdoBinding.globalIndex).Perm
      ((registry.groupMotors group).map RuntimeMotor.globalIndex) ∧
    (domains.map EthercatDomainRuntime.domainId).Nodup := by
  rcases startDomains_places own ethercat ok with ⟨places, -, distinct⟩
  have indices := places.map Prod.fst
  rw [List.map_map, List.map_map] at indices
  exact ⟨indices, distinct⟩

/-- What `start` hands to the loop. The initial frame of `init` has a valid bit for
every motor of the group and cannot be built for an index beyond the frame. -/
def EthercatDomains.ofStart (wellFormed : registry.WellFormed)
    (inBounds : ∀ motor ∈ registry.groupMotors group, motor.globalIndex < MaxRealtimeMotors)
    (own : registry.backends[backendIndex]? = some group) (ethercat : group.bus = .ethercat)
    (ok : startDomains registry backendIndex operatingModes register domainSize = .ok domains) :
    EthercatDomains F where
  domains := domains
  distinct := (startDomains_indices own ethercat ok).1.nodup_iff.mpr
    (wellFormed.nodup_groupMotors (List.mem_of_getElem? own))
  inBounds := by
    intro domain inDomains binding inBindings
    have listed := List.mem_map_of_mem (f := EthercatPdoBinding.globalIndex)
      (List.mem_flatMap.mpr ⟨domain, inDomains, inBindings⟩)
    rw [(startDomains_indices own ethercat ok).1.mem_iff] at listed
    rcases List.mem_map.mp listed with ⟨motor, inGroup, same⟩
    exact same ▸ inBounds motor inGroup
  images := (startDomains_indices own ethercat ok).2

end RmdCanSdk
