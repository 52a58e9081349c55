import RmdCanSdk.Config.Entries

/-!
# The registry of a loaded configuration

The configured motors are accepted by `fromConfig`, which numbers them within their
groups: every motor knows the position of its group and its own position there.
-/

namespace RmdCanSdk

variable {F : Type}

/-- The settings that a runtime motor takes over from the configuration. -/
def RuntimeMotor.configured (motor : RuntimeMotor F) : MotorConfig F where
  «alias» := motor.alias
  master := motor.master
  motorId := motor.motorId
  slaveId := motor.slaveId
  ethercatSlave := motor.ethercatSlave
  domain := motor.domain
  bus := motor.bus
  type := motor.type
  parameters := motor.parameters

namespace MotorRegistry

def key (group : BackendGroup) : MotorBus × Int := (group.bus, group.master)

/-- The registry index at a position of a group. -/
def indexAt (backends : List BackendGroup) (backendIndex backendLocalIndex : Nat) : Option Nat :=
  backends[backendIndex]?.bind fun group => group.motorIndexes[backendLocalIndex]?

/-- A motor's own indices lead back to it, and no two groups share bus and master. -/
structure Indexed (registry : MotorRegistry F) : Prop where
  position : ∀ (index : Nat) (motor : RuntimeMotor F), registry.motors[index]? = some motor →
    indexAt registry.backends motor.backendIndex motor.backendLocalIndex = some index
  keys : (registry.backends.map key).Nodup

variable {registry next : MotorRegistry F} {config : Config F} {motors : List (MotorConfig F)}

/-- A group is found, or a new one is appended. -/
theorem backendByKey_cases {backends found : List BackendGroup} {bus : MotorBus} {master : Int}
    {position : Nat} (searched : backendByKey backends bus master = (found, position)) :
    (found = backends ∧ ∃ own, backends[position]? = some own) ∨
      (found = backends ++ [{ bus := bus, master := master, motorIndexes := [] }] ∧
        position = backends.length ∧ (bus, master) ∉ backends.map key) := by
  rw [backendByKey] at searched
  split at searched
  next backendIndex located =>
    cases searched
    rcases List.findIdx?_eq_some_iff_getElem.mp located with ⟨inBounds, -, -⟩
    exact .inl ⟨rfl, _, List.getElem?_eq_getElem inBounds⟩
  next none =>
    cases searched
    refine .inr ⟨rfl, rfl, ?_⟩
    intro member
    rcases List.mem_map.mp member with ⟨group, inBackends, same⟩
    have different := List.findIdx?_eq_none_iff.mp none group inBackends
    cases same
    simp at different

/-- Adding a motor to a group moves none of those before it. -/
theorem indexAt_modify {backends found : List BackendGroup} {backendIndex localIndex index : Nat}
    (before : backends <+: found) (position new : Nat)
    (placed : indexAt backends backendIndex localIndex = some index) :
    indexAt (found.modify position fun group =>
      { group with motorIndexes := group.motorIndexes ++ [new] }) backendIndex localIndex =
        some index := by
  rcases before with ⟨rest, rfl⟩
  rcases Option.bind_eq_some_iff.mp placed with ⟨group, present, atLocal⟩
  have still : (backends ++ rest)[backendIndex]? = some group := by
    rw [List.getElem?_append_left (List.getElem?_eq_some_iff.mp present).1, present]
  rw [indexAt]
  by_cases own : position = backendIndex
  · rw [own, List.getElem?_modify_eq, still]
    exact (List.getElem?_append_left (List.getElem?_eq_some_iff.mp atLocal).1).trans atLocal
  · rw [List.getElem?_modify_ne _ _ own, still]
    exact atLocal

/-- The groups grow by one at most, and the motor's group is among them. -/
theorem backendByKey_grows {backends found : List BackendGroup} {bus : MotorBus} {master : Int}
    {position : Nat} (searched : backendByKey backends bus master = (found, position))
    (distinct : (backends.map key).Nodup) :
    backends <+: found ∧ (∃ own, found[position]? = some own) ∧ (found.map key).Nodup := by
  rcases backendByKey_cases searched with ⟨rfl, present⟩ | ⟨rfl, rfl, new⟩
  · exact ⟨List.prefix_rfl, present, distinct⟩
  · refine ⟨List.prefix_append .., ⟨_, List.getElem?_concat_length⟩, ?_⟩
    rw [List.map_append, List.nodup_append]
    refine ⟨distinct, List.nodup_singleton _, ?_⟩
    intro old inOld other isNew same
    have added : other = (bus, master) := List.mem_singleton.mp isNew
    exact new (added ▸ same ▸ inOld)

theorem map_key_modify (backends : List BackendGroup) (position new : Nat) :
    (backends.modify position fun group =>
      { group with motorIndexes := group.motorIndexes ++ [new] }).map key = backends.map key := by
  induction backends generalizing position with
  | nil => rw [List.modify_nil]
  | cons group rest ih =>
      cases position with
      | zero => rfl
      | succ position => rw [List.modify_succ_cons, List.map_cons, List.map_cons, ih]

theorem Indexed.addMotor (indexed : registry.Indexed) (motor : MotorConfig F) :
    (registry.addMotor motor).Indexed := by
  rw [MotorRegistry.addMotor]
  rcases searched : backendByKey registry.backends motor.bus motor.master with ⟨found, position⟩
  rcases backendByKey_grows searched indexed.keys with ⟨before, ⟨own, present⟩, distinct⟩
  dsimp only
  constructor
  · intro index runtime selected
    by_cases old : index < registry.motors.length
    · rw [List.getElem?_append_left old] at selected
      exact indexAt_modify before position _ (indexed.position index runtime selected)
    · rw [List.getElem?_append_right (not_lt.mp old), List.getElem?_singleton] at selected
      split at selected
      next atEnd =>
        cases selected
        have last : index = registry.motors.length := by omega
        rw [indexAt, List.getElem?_modify_eq, present, last]
        exact List.getElem?_concat_length
      next => contradiction
  · rw [map_key_modify]
    exact distinct

/-! ## All motors of a configuration -/

theorem Indexed.addChecked {motor : MotorConfig F} (indexed : registry.Indexed)
    (ok : addChecked config registry motor = .ok next) : next.Indexed := by
  rcases addChecked_ok ok with ⟨rfl, -⟩
  exact indexed.addMotor motor

theorem fromConfig_indexed (ok : fromConfig config = .ok registry) : registry.Indexed := by
  apply foldlM_invariant Indexed (fun added indexed => indexed.addChecked added) ok
  exact ⟨fun index motor selected => by simp at selected, List.nodup_nil⟩

/-- The registry has the configured motors in their order, with all their settings. -/
theorem configured_foldlM (added : motors.foldlM (addChecked config) registry = .ok next) :
    next.motors.map RuntimeMotor.configured =
      registry.motors.map RuntimeMotor.configured ++ motors := by
  induction motors generalizing registry with
  | nil =>
      cases added
      rw [List.append_nil]
  | cons motor rest ih =>
      rw [List.foldlM_cons] at added
      rcases bind_eq_ok added with ⟨middle, first, others⟩
      rcases addChecked_ok first with ⟨rfl, -⟩
      have single : (registry.addMotor motor).motors.map RuntimeMotor.configured =
          registry.motors.map RuntimeMotor.configured ++ [motor] := by
        simp [MotorRegistry.addMotor, RuntimeMotor.configured]
      rw [ih others, single, List.append_assoc]
      rfl

theorem fromConfig_configured (ok : fromConfig config = .ok registry) :
    registry.motors.map RuntimeMotor.configured = config.motors.motors :=
  configured_foldlM ok

/-- Motors with aliases in range are accepted. -/
theorem foldlM_addChecked_total
    (inRange : ∀ motor ∈ motors, 0 < motor.alias ∧ motor.alias ≤ config.totalMotorCount)
    (registry : MotorRegistry F) :
    ∃ next, motors.foldlM (addChecked config) registry = .ok next := by
  induction motors generalizing registry with
  | nil => exact ⟨registry, rfl⟩
  | cons motor rest ih =>
      rcases inRange motor List.mem_cons_self with ⟨positive, counted⟩
      have accepted : addChecked config registry motor = .ok (registry.addMotor motor) :=
        if_neg (by omega)
      rw [List.foldlM_cons, accepted]
      exact ih (fun other member => inRange other (List.mem_cons_of_mem _ member)) _

theorem fromConfig_total
    (inRange : ∀ motor ∈ config.motors.motors,
      0 < motor.alias ∧ motor.alias ≤ config.totalMotorCount) :
    ∃ registry, fromConfig config = .ok registry :=
  foldlM_addChecked_total inRange _

end MotorRegistry

end RmdCanSdk
