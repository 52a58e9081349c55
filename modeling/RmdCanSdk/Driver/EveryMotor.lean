import RmdCanSdk.Config.Groups
import RmdCanSdk.Driver.Cycles
import RmdCanSdk.Driver.Heard

/-!
# Every motor exactly once

From the document to the loops and the reports: the entries of a document become the
configured motors, these the groups of the registry, these the bindings and domains of
a backend, and every pass of a loop and every report goes through each motor once.
-/

namespace RmdCanSdk

variable {F : Type} [FloatArith F]

/-! ## The configured motors -/

/-- The entries that `loadConfig` does not skip. -/
def placements (scanf : Scanf F) (root : XMLElement) : List Entry :=
  (entries root).filter (Entry.supported scanf)

/-- The `Motor` elements with an alias that parameters can be read for. -/
def numberedMotors (scanf : Scanf F) (root : XMLElement) : List XMLElement :=
  (root.elementsIn "Motor" ["Motors"]).filter fun motor =>
    decide (0 < motor.intAttribute scanf "alias" 0)

/-- The configured motors are those of the last entry for each alias. -/
structure ConfiguredBy (scanf : Scanf F) (root : XMLElement) (motorParameters : MotorParameterMap F)
    (config : Config F) : Prop where
  distinct : (config.motors.motors.map MotorConfig.alias).Nodup
  inRange : ∀ motor ∈ config.motors.motors,
    0 < motor.alias ∧ motor.alias ≤ config.totalMotorCount
  placed : ∀ motor ∈ config.motors.motors, ∃ entry,
    lastFor (Entry.alias scanf) (placements scanf root) motor.alias = some entry ∧
      entry.Places scanf motorParameters motor
  complete : ∀ entry ∈ placements scanf root, ∃ motor ∈ config.motors.motors,
    motor.alias = entry.alias scanf
  parameters : ∀ motor ∈ config.motors.motors, ∃ element,
    lastFor (fun element : XMLElement => element.intAttribute scanf "alias" 0)
      (numberedMotors scanf root) motor.alias = some element ∧
        readMotorParameters scanf element = .ok motor.parameters

variable {scanf : Scanf F} {root : XMLElement} {motorParameters : MotorParameterMap F}
variable {config : LoadedConfig F}

/-- The parameters of an alias, and its bounds. -/
theorem Loads.known (loads : Loads scanf root motorParameters config) {number : Int}
    {parameters : MotorParameters F} (present : motorParameters number = some parameters) :
    (0 < number ∧ number ≤ config.totalMotorCount) ∧ ∃ element,
      lastFor (fun element : XMLElement => element.intAttribute scanf "alias" 0)
        (numberedMotors scanf root) number = some element ∧
          readMotorParameters scanf element = .ok parameters := by
  rcases bind_eq_ok loads.parameters with ⟨motors, required, read⟩
  rw [requiredChild] at required
  split at required
  next => contradiction
  next child isChild =>
    cases required
    have elements : root.elementsIn "Motor" ["Motors"] = motors.childElements "Motor" := by
      simp [XMLElement.elementsIn, isChild]
    have initially : InRange ((fun _ => none, 0) : MotorParameterMap F × Int) := by
      intro number present
      contradiction
    constructor
    · have inRange := foldlM_invariant InRange (fun ok kept => kept.readMotorParameter ok) read
        initially
      exact inRange number (Option.isSome_of_eq_some present)
    · have last := (overrides_readMotorParameter scanf).foldlM read number
      rw [numberedMotors, elements]
      split at last
      next element isLast =>
        rcases last with ⟨value, reads, found⟩
        cases present.symm.trans found
        exact ⟨element, isLast, reads⟩
      next =>
        cases present.symm.trans last

theorem Loads.count_nonneg (loads : Loads scanf root motorParameters config) :
    0 ≤ config.totalMotorCount := by
  rcases bind_eq_ok loads.parameters with ⟨motors, -, read⟩
  exact foldlM_invariant (fun read : MotorParameterMap F × Int => 0 ≤ read.2)
    (fun ok kept => kept.trans (count_readMotorParameter ok)) read le_rfl

theorem Loads.configuredBy (loads : Loads scanf root motorParameters config) :
    ConfiguredBy scanf root motorParameters config.toConfig := by
  have last := fun number => (overrides_place scanf motorParameters).foldlM loads.motors number
  have placed : ∀ motor ∈ config.motors.motors, ∃ entry,
      lastFor (Entry.alias scanf) (placements scanf root) motor.alias = some entry ∧
        entry.Places scanf motorParameters motor := by
    intro motor member
    have found := MotorTable.find_of_mem member
    have own := last motor.alias
    split at own
    next entry isLast =>
      rcases own with ⟨value, places, same⟩
      cases found.symm.trans same
      exact ⟨entry, isLast, places⟩
    next => cases found.symm.trans own
  have parameters : ∀ motor ∈ config.motors.motors,
      motorParameters motor.alias = some motor.parameters := by
    intro motor member
    rcases placed motor member with ⟨entry, -, places⟩
    rcases EntryKind.read_ok places with ⟨none, -⟩ | ⟨other, same, readAs⟩
    · contradiction
    · cases same
      exact readAs.parameters
  refine ⟨config.motors.distinct, ?_, placed, ?_, ?_⟩
  · exact fun motor member => (loads.known (parameters motor member)).1
  · intro entry member
    have own := last (entry.alias scanf)
    split at own
    next =>
      rcases own with ⟨motor, -, found⟩
      rcases MotorTable.mem_of_find found with ⟨inTable, same⟩
      exact ⟨motor, inTable, same⟩
    next none => exact absurd rfl (lastFor_eq_none.mp none entry member)
  · exact fun motor member => (loads.known (parameters motor member)).2

/-! ## The groups -/

/-- The groups partition the motors by bus and master, and every motor knows its place. -/
structure GroupedBy (config : Config F) (registry : MotorRegistry F) : Prop where
  motors : registry.motors.map RuntimeMotor.configured = config.motors.motors
  numbered : ∀ motor ∈ registry.motors, motor.Numbered registry.totalMotorCount
  partition : (registry.backends.flatMap BackendGroup.motorIndexes).Perm
    (List.range registry.motors.length)
  position : ∀ (index : Nat) (motor : RuntimeMotor F), registry.motors[index]? = some motor →
    MotorRegistry.indexAt registry.backends motor.backendIndex motor.backendLocalIndex = some index
  members : ∀ group ∈ registry.backends, ∀ index ∈ group.motorIndexes,
    ∃ motor, registry.motors[index]? = some motor ∧ motor.bus = group.bus ∧
      motor.master = group.master
  keys : (registry.backends.map MotorRegistry.key).Nodup

omit [FloatArith F] in
theorem groupedBy_fromConfig {config : Config F} {registry : MotorRegistry F}
    (ok : MotorRegistry.fromConfig config = .ok registry) : GroupedBy config registry :=
  have wellFormed := MotorRegistry.fromConfig_wellFormed ok
  have indexed := MotorRegistry.fromConfig_indexed ok
  { motors := MotorRegistry.fromConfig_configured ok
    numbered := wellFormed.numbered
    partition := wellFormed.partition
    position := indexed.position
    members := wellFormed.placed
    keys := indexed.keys }

/-! ## Bindings and domains -/

variable {registry : MotorRegistry F} {group : BackendGroup}

/-- The bindings of an EtherCAT group are in its order, and `start` puts each of them in
one domain, the one with its domain id. -/
structure BoundBy (registry : MotorRegistry F) (backendIndex : Nat) (group : BackendGroup) :
    Prop where
  bindings : buildEthercatPdoBindings registry backendIndex =
    .ok ((registry.groupMotors group).map pdoBinding)
  domains : ∀ operatingModes : List Int, operatingModes.length = registry.totalMotorCount →
    ∃ assigned, assignEthercatPdoProfiles ((registry.groupMotors group).map pdoBinding)
        operatingModes = .ok assigned ∧
      assigned.map EthercatPdoBinding.place =
        (registry.groupMotors group).map (fun motor => (motor.globalIndex, motor.domain)) ∧
      ((createDomains assigned).flatMap EthercatDomainRuntime.bindings).Perm assigned ∧
      OwnDomains (createDomains assigned) ∧
      ((createDomains assigned).map EthercatDomainRuntime.domainId).Nodup

section

omit [FloatArith F]

/-- With a mode for every motor the profiles can be assigned. -/
theorem assignEthercatPdoProfiles_total {operatingModes : List Int}
    {bindings : List (EthercatPdoBinding F)}
    (covered : ∀ binding ∈ bindings, binding.globalIndex < operatingModes.length) :
    ∃ assigned, assignEthercatPdoProfiles bindings operatingModes = .ok assigned := by
  induction bindings with
  | nil => exact ⟨[], rfl⟩
  | cons binding rest ih =>
      rcases ih fun other member => covered other (List.mem_cons_of_mem _ member) with
        ⟨tail, others⟩
      have own : ∃ assigned, assignProfile operatingModes binding = .ok assigned := by
        rw [assignProfile, List.getElem?_eq_getElem (covered binding List.mem_cons_self)]
        split
        · exact ⟨_, rfl⟩
        · exact ⟨_, rfl⟩
      rcases own with ⟨head, first⟩
      refine ⟨head :: tail, ?_⟩
      rw [assignEthercatPdoProfiles, List.mapM_cons, first]
      exact congrArg (· >>= fun tail => .ok (head :: tail)) others

theorem mem_of_mem_groupMotors {motor : RuntimeMotor F}
    (member : motor ∈ registry.groupMotors group) : motor ∈ registry.motors := by
  rcases List.mem_filterMap.mp member with ⟨index, -, selected⟩
  exact List.mem_of_getElem? selected

theorem boundBy (wellFormed : registry.WellFormed) {backendIndex : Nat}
    (own : registry.backends[backendIndex]? = some group) (ethercat : group.bus = .ethercat) :
    BoundBy registry backendIndex group where
  bindings := buildEthercatPdoBindings_ethercat own ethercat
  domains operatingModes sized := by
    have covered : ∀ binding ∈ (registry.groupMotors group).map pdoBinding,
        binding.globalIndex < operatingModes.length := by
      intro binding member
      rcases List.mem_map.mp member with ⟨motor, inGroup, rfl⟩
      have numbered := wellFormed.numbered motor (mem_of_mem_groupMotors inGroup)
      rw [RuntimeMotor.Numbered] at numbered
      have same : (pdoBinding motor).globalIndex = motor.globalIndex := rfl
      omega
    rcases assignEthercatPdoProfiles_total covered with ⟨assigned, assigns⟩
    have places : assigned.map EthercatPdoBinding.place =
        (registry.groupMotors group).map fun motor => (motor.globalIndex, motor.domain) := by
      rw [map_mapM place_assignProfile assigns, List.map_map]
      rfl
    exact ⟨assigned, assigns, places, flatMap_createDomains assigned,
      ownDomains_createDomains assigned, nodup_createDomains assigned⟩

/-! ## Cycles -/

/-- What no step of the driver changes in a backend. -/
def BackendRuntime.shape (runtime : BackendRuntime F) :
    BackendGroup × (List (RuntimeMotor F) ⊕ EthercatDomains F) :=
  (runtime.group, runtime.backend.scope)

/-- The loops of a backend were set up for the motors of its group. -/
def BackendRuntime.Covered (registry : MotorRegistry F) (runtime : BackendRuntime F) : Prop :=
  Covers (registry.groupMotors runtime.group) runtime.backend.scope

namespace BackendRuntime

variable {runtime next : BackendRuntime F} {backend : MotorBackend F} {position : Nat}

theorem shape_readInto (read : runtime.backend.readInto position = some backend) :
    backend.scope = runtime.backend.scope := by
  rcases Option.map_eq_some_iff.mp read with ⟨buffer, -, rfl⟩
  cases runtime.backend with
  | can group state history => rfl
  | ethercat state history => rfl

theorem shape_start (started : runtime.start = some next) : next.shape = runtime.shape := by
  rcases runtime with ⟨group, backend, phase⟩
  cases phase with
  | constructed =>
      cases backend with
      | can =>
          cases started
          rfl
      | ethercat =>
          cases started
          rfl
  | starting wait => contradiction
  | running => contradiction

theorem shape_waitForStartupReady {startupReadyFrames : Nat}
    (polled : runtime.waitForStartupReady startupReadyFrames position = some next) :
    next.shape = runtime.shape := by
  simp only [BackendRuntime.waitForStartupReady] at polled
  split at polled
  next =>
    rcases Option.map_eq_some_iff.mp polled with ⟨backend, read, rfl⟩
    exact congrArg (Prod.mk runtime.group) (shape_readInto read)
  next => contradiction

end BackendRuntime

end

namespace BackendRuntime

variable {runtime next : BackendRuntime F} {backend : MotorBackend F} {event : LoopEvent}

theorem domains_step {runtime next : RmdEthercatRuntime F} {event : RealtimeEvent}
    (stepped : runtime.step event = some next) : next.domains = runtime.domains := by
  cases event with
  | setMotorTarget frame => rw [(RmdEthercatRuntime.step_setMotorTarget stepped).2.2]
  | cycle input =>
      rcases RmdEthercatRuntime.step_cycle stepped with ⟨-, target, -, rfl⟩
      rfl

theorem shape_loop (looped : runtime.loop event = some next) : next.shape = runtime.shape := by
  have scope : ∀ {backend after : MotorBackend F}, backend.loop event = some after →
      after.scope = backend.scope := by
    intro backend after stepped
    cases backend with
    | can group state history =>
        cases event with
        | receive event =>
            cases stepped
            rfl
        | realtime event => contradiction
    | ethercat state history =>
        cases event with
        | receive event => contradiction
        | realtime event =>
            rcases Option.map_eq_some_iff.mp stepped with ⟨advanced, ran, rfl⟩
            rw [MotorBackend.scope, MotorBackend.scope, domains_step ran]
  simp only [BackendRuntime.loop] at looped
  split at looped
  next => contradiction
  next =>
    rcases Option.map_eq_some_iff.mp looped with ⟨after, stepped, rfl⟩
    exact congrArg (Prod.mk runtime.group) (scope stepped)

end BackendRuntime

namespace Impl

variable {impl next : Impl F} {event : SdkEvent} {positions : List Nat}

/-- Every pass of a loop of a backend treats each motor of its group once. -/
def HandlesOnce (impl : Impl F) : Prop :=
  ∀ runtime ∈ impl.backendRuntimes,
    runtime.backend.HandlesOnce (impl.registry.groupMotors runtime.group)

/-- Every backend was set up for the motors of its group. -/
def Covered (impl : Impl F) : Prop :=
  ∀ runtime ∈ impl.backendRuntimes, runtime.Covered impl.registry

omit [FloatArith F] in
theorem Covered.of_shape {runtime after : BackendRuntime F} {registry : MotorRegistry F}
    (covered : runtime.Covered registry) (same : after.shape = runtime.shape) :
    after.Covered registry := by
  have group : after.group = runtime.group := congrArg Prod.fst same
  have scope : after.backend.scope = runtime.backend.scope := congrArg Prod.snd same
  rw [BackendRuntime.Covered, group, scope]
  exact covered

omit [FloatArith F] in
theorem Covered.update (covered : impl.Covered) {backendIndex : Nat}
    {change : BackendRuntime F → Option (BackendRuntime F)}
    (updated : impl.update backendIndex change = some next)
    (kept : ∀ {before after}, change before = some after → after.shape = before.shape) :
    next.Covered := by
  rcases Option.map_eq_some_iff.mp updated with ⟨after, changed, rfl⟩
  rcases Option.bind_eq_some_iff.mp changed with ⟨before, present, changed⟩
  intro runtime member
  rcases List.mem_or_eq_of_mem_set member with old | rfl
  · exact covered runtime old
  · exact of_shape (covered before (List.mem_of_getElem? present)) (kept changed)

theorem Covered.step (covered : impl.Covered) (stepped : impl.step event = some next) :
    next.Covered := by
  cases event with
  | start backendIndex =>
      simp only [Impl.step] at stepped
      split at stepped
      next => exact covered.update stepped BackendRuntime.shape_start
      next => contradiction
  | loop backendIndex event => exact covered.update stepped BackendRuntime.shape_loop
  | waitForStartupReady backendIndex position =>
      simp only [Impl.step] at stepped
      split at stepped
      next => exact covered.update stepped BackendRuntime.shape_waitForStartupReady
      next => contradiction
  | finishInit =>
      simp only [Impl.step] at stepped
      split at stepped
      next =>
        cases stepped
        exact covered
      next => contradiction
  | readActuals positions =>
      simp only [Impl.step] at stepped
      split at stepped
      next =>
        rcases Option.map_eq_some_iff.mp stepped with ⟨runtimes, read, rfl⟩
        intro runtime member
        rcases (BackendRuntime.readActuals_spec read).2 runtime member with
          ⟨before, listed, position, backend, moved, rfl⟩
        exact of_shape (covered before listed)
          (congrArg (Prod.mk before.group) (BackendRuntime.shape_readInto moved))
      next => contradiction

theorem Covered.run {reached : Impl F} {events : List SdkEvent} (covered : impl.Covered)
    (ran : Transition.run Impl.step impl events = some reached) : reached.Covered :=
  Transition.run_invariant Covered (fun stepped before => before.step stepped) ran covered

variable {environment : Environment F} {operatingModes : List Int}
variable {maxCurrents : List (BitVec 16)} {start reached : Impl F}

theorem Covered.handlesOnce (covered : impl.Covered) (sound : impl.Sound) : impl.HandlesOnce := by
  intro runtime member
  have ofRegistry : runtime.group ∈ impl.registry.backends := by
    rw [← sound.groups]
    exact List.mem_map_of_mem member
  exact MotorBackend.handlesOnce (sound.wellFormed.nodup_groupMotors ofRegistry)
    (covered runtime member)

end Impl

/-! ## Reports -/

/-- A `Motor` element with all parameters. -/
def motorElement (attributes : List (String × String)) : XMLElement :=
  { (leaf "Motor" attributes) with
    children := ["Polarity", "CountBias", "EncoderResolution", "GearRatioTor", "GearRatioPosVel",
      "RatedCurrent", "TorqueConstant", "RatedTorque", "MaximumTorque", "MinimumPosition",
      "MaximumPosition"].map (leaf · []) }

def enabledSlave (attributes : List (String × String)) : XMLElement :=
  { (leaf "Slave" attributes) with text := some "1" }

/-- A document with a CAN motor for each alias. -/
def canDocument (aliases : List String) : XMLElement :=
  branch "Config" [
    branch "Motors" (aliases.map fun number => motorElement [("alias", number)]),
    branch "CAN" [
      branch "Masters" [leaf "Master" [("order", "0")]],
      branch "Slaves" (aliases.map fun number =>
        enabledSlave [("alias", number), ("slave_id", number), ("type", "RMD")])]]

end RmdCanSdk
