import Mathlib.Data.List.Nodup
import Mathlib.Data.List.Range
import RmdCanSdk.Library.Traverse
import RmdCanSdk.RealtimeCore

/-!
# The motor registry

How the motors of a configuration become runtime motors with a global index, and
how they are grouped by bus and master. Configured motors have distinct aliases by
construction, so every runtime motor has its own index and belongs to one group.
-/

namespace RmdCanSdk

variable {F : Type}

structure MotorConfig (F : Type) where
  «alias» : Int
  master : Int
  motorId : Int
  slaveId : Int
  ethercatSlave : Int
  domain : Int
  bus : MotorBus
  type : String
  parameters : MotorParameters F

/-- The configured motors. Every entry of the configuration file goes through
`upsertMotor`, which keeps one motor for each alias. -/
structure MotorTable (F : Type) where
  motors : List (MotorConfig F)
  distinct : (motors.map MotorConfig.alias).Nodup

namespace MotorTable

def empty : MotorTable F := ⟨[], List.nodup_nil⟩

/-- Replace the motor with the same alias, or append a new one. -/
def upsert (motors : List (MotorConfig F)) (motor : MotorConfig F) : List (MotorConfig F) :=
  match motors with
  | [] => [motor]
  | item :: rest => if item.alias = motor.alias then motor :: rest else item :: upsert rest motor

theorem mem_upsert {motors : List (MotorConfig F)} {motor : MotorConfig F} {number : Int}
    (member : number ∈ (upsert motors motor).map MotorConfig.alias) :
    number ∈ motors.map MotorConfig.alias ∨ number = motor.alias := by
  induction motors with
  | nil => exact .inr (List.mem_singleton.mp member)
  | cons item rest ih =>
      rw [upsert] at member
      split at member
      next same =>
        rcases List.mem_cons.mp member with head | tail
        · exact .inr head
        · exact .inl (List.mem_cons_of_mem _ tail)
      next =>
        rcases List.mem_cons.mp member with head | tail
        · exact .inl (head ▸ List.mem_cons_self)
        · rcases ih tail with earlier | new
          · exact .inl (List.mem_cons_of_mem _ earlier)
          · exact .inr new

theorem nodup_upsert {motors : List (MotorConfig F)} (motor : MotorConfig F)
    (distinct : (motors.map MotorConfig.alias).Nodup) :
    ((upsert motors motor).map MotorConfig.alias).Nodup := by
  induction motors with
  | nil => exact List.nodup_singleton _
  | cons item rest ih =>
      rw [List.map_cons, List.nodup_cons] at distinct
      rw [upsert]
      split
      next same =>
        rw [List.map_cons, List.nodup_cons, ← same]
        exact distinct
      next different =>
        rw [List.map_cons, List.nodup_cons]
        refine ⟨?_, ih distinct.2⟩
        intro member
        rcases mem_upsert member with earlier | new
        · exact distinct.1 earlier
        · exact different new

def upsertMotor (table : MotorTable F) (motor : MotorConfig F) : MotorTable F where
  motors := upsert table.motors motor
  distinct := nodup_upsert motor table.distinct

end MotorTable

structure Config (F : Type) where
  totalMotorCount : Int
  motors : MotorTable F

structure RuntimeMotor (F : Type) where
  «alias» : Int
  globalIndex : Nat
  backendIndex : Nat
  backendLocalIndex : Nat
  bus : MotorBus
  master : Int
  motorId : Int
  slaveId : Int
  ethercatSlave : Int
  domain : Int
  type : String
  parameters : MotorParameters F

/-- The same motor with its parameters in another floating-point type. -/
def RuntimeMotor.map {G : Type} (convert : F → G) (motor : RuntimeMotor F) :
    RuntimeMotor G where
  «alias» := motor.alias
  globalIndex := motor.globalIndex
  backendIndex := motor.backendIndex
  backendLocalIndex := motor.backendLocalIndex
  bus := motor.bus
  master := motor.master
  motorId := motor.motorId
  slaveId := motor.slaveId
  ethercatSlave := motor.ethercatSlave
  domain := motor.domain
  type := motor.type
  parameters := motor.parameters.map convert

/-- Two motors whose aliases differ have different global indices. -/
def RuntimeMotor.Numbered (motor : RuntimeMotor F) (totalMotorCount : Int) : Prop :=
  0 < motor.alias ∧ motor.alias ≤ totalMotorCount ∧
    motor.globalIndex = (motor.alias - 1).toNat

/-- The frame `init` puts into the actual buffer of a backend, which marks the
backend's motors valid before anything was received. -/
def initialActuals [FloatArith F] (motors : List (RuntimeMotor F)) (totalMotorCount : Nat) :
    MotorActualFrame F :=
  { (default : MotorActualFrame F) with
    motorCount := totalMotorCount
    valid := fun index => decide (index ∈ motors.map RuntimeMotor.globalIndex)
    actuals := fun index =>
      if index ∈ motors.map RuntimeMotor.globalIndex then { (default : MotorActual F) with
        statusWord := 0x0000 }
      else default }

structure BackendGroup where
  bus : MotorBus
  master : Int
  motorIndexes : List Nat

structure MotorRegistry (F : Type) where
  totalMotorCount : Int
  motors : List (RuntimeMotor F)
  backends : List BackendGroup

namespace MotorRegistry

/-- The groups with one for this bus and master, and its position. -/
def backendByKey (backends : List BackendGroup) (bus : MotorBus) (master : Int) :
    List BackendGroup × Nat :=
  match backends.findIdx? fun group => group.bus = bus ∧ group.master = master with
  | some backendIndex => (backends, backendIndex)
  | none => (backends ++ [{ bus := bus, master := master, motorIndexes := [] }], backends.length)

def addMotor (registry : MotorRegistry F) (motor : MotorConfig F) : MotorRegistry F :=
  let (backends, backendIndex) := backendByKey registry.backends motor.bus motor.master
  let runtime : RuntimeMotor F := {
    «alias» := motor.alias
    globalIndex := (motor.alias - 1).toNat
    backendIndex := backendIndex
    backendLocalIndex := (backends[backendIndex]?.map (·.motorIndexes.length)).getD 0
    bus := motor.bus
    master := motor.master
    motorId := motor.motorId
    slaveId := motor.slaveId
    ethercatSlave := motor.ethercatSlave
    domain := motor.domain
    type := motor.type
    parameters := motor.parameters }
  { registry with
    backends := backends.modify backendIndex fun group =>
      { group with motorIndexes := group.motorIndexes ++ [registry.motors.length] }
    motors := registry.motors ++ [runtime] }

def addChecked (config : Config F) (registry : MotorRegistry F) (motor : MotorConfig F) :
    Except String (MotorRegistry F) :=
  if motor.alias ≤ 0 ∨ motor.alias > config.totalMotorCount then
    throw "motor alias outside total motor count"
  else return registry.addMotor motor

def fromConfig (config : Config F) : Except String (MotorRegistry F) :=
  config.motors.motors.foldlM (addChecked config)
    { totalMotorCount := config.totalMotorCount, motors := [], backends := [] }

/-- The motors of a group, in its order. -/
def groupMotors (registry : MotorRegistry F) (group : BackendGroup) : List (RuntimeMotor F) :=
  group.motorIndexes.filterMap fun registryIndex => registry.motors[registryIndex]?

/-- Every motor stands in exactly one group, the one of its bus and master, and no
group is empty. -/
structure Grouped (registry : MotorRegistry F) : Prop where
  numbered : ∀ motor ∈ registry.motors, motor.Numbered registry.totalMotorCount
  partition : (registry.backends.flatMap BackendGroup.motorIndexes).Perm
    (List.range registry.motors.length)
  nonempty : ∀ group ∈ registry.backends, group.motorIndexes ≠ []
  placed : ∀ group ∈ registry.backends, ∀ index ∈ group.motorIndexes,
    ∃ motor, registry.motors[index]? = some motor ∧ motor.bus = group.bus ∧
      motor.master = group.master

/-- Besides, no two motors share an alias. -/
structure WellFormed (registry : MotorRegistry F) : Prop extends registry.Grouped where
  aliases : (registry.motors.map RuntimeMotor.alias).Nodup

/-! ## The registry of a configuration is well formed -/

theorem modify_flatMap {groups : List BackendGroup} {position : Nat} (new : Nat)
    (inBounds : position < groups.length) :
    ((groups.modify position fun group =>
        { group with motorIndexes := group.motorIndexes ++ [new] }).flatMap
          BackendGroup.motorIndexes).Perm
      (groups.flatMap BackendGroup.motorIndexes ++ [new]) := by
  induction groups generalizing position with
  | nil => simp at inBounds
  | cons group rest ih =>
      cases position with
      | zero =>
          simp only [List.modify_zero_cons, List.flatMap_cons, List.append_assoc]
          exact (List.perm_append_comm).append_left _
      | succ position =>
          simp only [List.modify_succ_cons, List.flatMap_cons, List.append_assoc]
          exact (ih (Nat.lt_of_succ_lt_succ inBounds)).append_left _

/-- What looking up a group gives: one with the key, empty if it is new, among the
old groups. -/
structure Found (backends found : List BackendGroup) (bus : MotorBus) (master : Int)
    (position : Nat) (own : BackendGroup) : Prop where
  present : found[position]? = some own
  bus : own.bus = bus
  master : own.master = master
  origin : own ∈ backends ∨ own.motorIndexes = []
  others : ∀ other group, found[other]? = some group → other ≠ position → group ∈ backends
  unmoved : found.flatMap BackendGroup.motorIndexes = backends.flatMap BackendGroup.motorIndexes

theorem backendByKey_found {backends found : List BackendGroup} {bus : MotorBus}
    {master : Int} {position : Nat}
    (searched : backendByKey backends bus master = (found, position)) :
    ∃ own, Found backends found bus master position own := by
  rw [backendByKey] at searched
  split at searched
  next backendIndex located =>
    cases searched
    rcases List.findIdx?_eq_some_iff_getElem.mp located with ⟨inBounds, key, -⟩
    rw [decide_eq_true_iff] at key
    exact ⟨_, {
      present := List.getElem?_eq_getElem inBounds
      bus := key.1
      master := key.2
      origin := .inl (List.getElem_mem inBounds)
      others := fun _ _ selected _ => List.mem_of_getElem? selected
      unmoved := rfl }⟩
  next =>
    cases searched
    refine ⟨_, {
      present := List.getElem?_concat_length
      bus := rfl
      master := rfl
      origin := .inr rfl
      others := ?_
      unmoved := by simp }⟩
    intro other group selected different
    rcases List.mem_append.mp (List.mem_of_getElem? selected) with old | new
    · exact old
    · have inBounds := (List.getElem?_eq_some_iff.mp selected).1
      rw [List.length_append, List.length_singleton] at inBounds
      rw [List.getElem?_append_left (by omega)] at selected
      exact List.mem_of_getElem? selected

variable {registry next : MotorRegistry F}

/-- An entry of a modified list is an unmodified one, or the modified one. -/
theorem mem_modify {groups : List BackendGroup} {position : Nat}
    {change : BackendGroup → BackendGroup} {group : BackendGroup}
    (member : group ∈ groups.modify position change) :
    (∃ other, groups[other]? = some group ∧ other ≠ position) ∨
      ∃ old, groups[position]? = some old ∧ group = change old := by
  rcases List.mem_iff_getElem?.mp member with ⟨index, selected⟩
  rw [List.getElem?_modify] at selected
  split at selected
  next same =>
    rcases Option.map_eq_some_iff.mp selected with ⟨old, present, rfl⟩
    exact .inr ⟨old, same ▸ present, rfl⟩
  next different =>
    exact .inl ⟨index, by simpa using selected, Ne.symm different⟩

theorem Grouped.addMotor (grouped : registry.Grouped) {motor : MotorConfig F}
    (positive : 0 < motor.alias) (counted : motor.alias ≤ registry.totalMotorCount) :
    (registry.addMotor motor).Grouped := by
  rw [MotorRegistry.addMotor]
  rcases searched : backendByKey registry.backends motor.bus motor.master with
    ⟨found, position⟩
  rcases backendByKey_found searched with ⟨own, located⟩
  dsimp only
  refine ⟨?_, ?_, ?_, ?_⟩
  · intro runtime member
    rcases List.mem_append.mp member with earlier | new
    · exact grouped.numbered runtime earlier
    · rw [List.mem_singleton.mp new]
      exact ⟨positive, counted, rfl⟩
  · rw [List.length_append, List.length_singleton, List.range_succ]
    refine (modify_flatMap _ (List.getElem?_eq_some_iff.mp located.present).1).trans ?_
    rw [located.unmoved]
    exact grouped.partition.append_right _
  · intro group member
    rcases mem_modify member with ⟨other, kept, different⟩ | ⟨_, -, rfl⟩
    · exact grouped.nonempty group (located.others other group kept different)
    · simp
  · have kept : ∀ group ∈ registry.backends, ∀ index ∈ group.motorIndexes,
        ∀ new, ∃ placed, (registry.motors ++ [new])[index]? = some placed ∧
          placed.bus = group.bus ∧ placed.master = group.master := by
      intro group member index inGroup new
      rcases grouped.placed group member index inGroup with ⟨placed, selected, key⟩
      refine ⟨placed, ?_, key⟩
      rw [List.getElem?_append_left (List.getElem?_eq_some_iff.mp selected).1, selected]
    intro group member index inGroup
    rcases mem_modify member with ⟨other, selected, different⟩ | ⟨old, present, rfl⟩
    · exact kept group (located.others other group selected different) index inGroup _
    · cases located.present.symm.trans present
      rcases List.mem_append.mp inGroup with before | new
      · rcases located.origin with member | none
        · exact kept own member index before _
        · rw [none] at before
          contradiction
      · rw [List.mem_singleton.mp new]
        exact ⟨_, List.getElem?_concat_length, located.bus.symm, located.master.symm⟩

theorem motors_addMotor (motor : MotorConfig F) :
    (registry.addMotor motor).motors.map RuntimeMotor.alias =
      registry.motors.map RuntimeMotor.alias ++ [motor.alias] := by
  simp [addMotor]

/-- A motor that is added has an alias in range. -/
theorem addChecked_ok {config : Config F} {motor : MotorConfig F}
    (ok : addChecked config registry motor = .ok next) :
    next = registry.addMotor motor ∧ 0 < motor.alias ∧ motor.alias ≤ config.totalMotorCount := by
  rw [addChecked] at ok
  split at ok
  next => contradiction
  next inside =>
    cases ok
    rw [not_or, not_le, not_lt] at inside
    exact ⟨rfl, inside⟩

/-- Adding the motors of a list keeps the groups in order and appends the aliases. -/
theorem foldlM_addMotor {config : Config F} {motors : List (MotorConfig F)}
    (grouped : registry.Grouped) (count : registry.totalMotorCount = config.totalMotorCount)
    (added : motors.foldlM (addChecked config) registry = .ok next) :
    next.Grouped ∧ next.totalMotorCount = config.totalMotorCount ∧
      next.motors.map RuntimeMotor.alias =
        registry.motors.map RuntimeMotor.alias ++ motors.map MotorConfig.alias := by
  induction motors generalizing registry with
  | nil =>
      cases added
      exact ⟨grouped, count, by simp⟩
  | cons motor rest ih =>
      rw [List.foldlM_cons] at added
      rcases bind_eq_ok added with ⟨middle, first, others⟩
      rcases addChecked_ok first with ⟨rfl, positive, counted⟩
      have extended : (registry.addMotor motor).Grouped :=
        grouped.addMotor positive (count ▸ counted)
      rcases ih extended count others with ⟨still, same, aliases⟩
      refine ⟨still, same, ?_⟩
      rw [aliases, motors_addMotor, List.append_assoc]
      rfl

theorem fromConfig_wellFormed {config : Config F}
    (ok : fromConfig config = .ok registry) : registry.WellFormed := by
  have empty : Grouped (MotorRegistry.mk config.totalMotorCount ([] : List (RuntimeMotor F)) []) :=
    ⟨by simp, by simp, by simp, by simp⟩
  rcases foldlM_addMotor empty rfl ok with ⟨grouped, -, aliases⟩
  refine ⟨grouped, ?_⟩
  rw [aliases]
  exact config.motors.distinct

/-! ## Groups of a well-formed registry -/

namespace WellFormed

variable {group : BackendGroup}

/-- Motors with the same index are the same motor. -/
theorem eq_of_globalIndex (wellFormed : registry.WellFormed) {left right : RuntimeMotor F}
    (leftIn : left ∈ registry.motors) (rightIn : right ∈ registry.motors)
    (same : left.globalIndex = right.globalIndex) : left = right := by
  apply List.inj_on_of_nodup_map wellFormed.aliases leftIn rightIn
  have leftNumbered := wellFormed.numbered left leftIn
  have rightNumbered := wellFormed.numbered right rightIn
  simp only [RuntimeMotor.Numbered] at leftNumbered rightNumbered
  omega

/-- Each position of the registry selects its own motor. -/
theorem filterMap_range (motors : List (RuntimeMotor F)) :
    (List.range motors.length).filterMap (fun index => motors[index]?) = motors := by
  induction motors using List.reverseRecOn with
  | nil => rfl
  | append_singleton motors motor ih =>
      rw [List.length_append, List.length_singleton, List.range_succ, List.filterMap_append]
      have earlier : (List.range motors.length).filterMap (fun index => (motors ++ [motor])[index]?) =
          motors := by
        apply (List.filterMap_congr _).trans ih
        intro index inRange
        exact List.getElem?_append_left (List.mem_range.mp inRange)
      rw [earlier]
      simp

/-- The groups together hold every motor once. -/
theorem perm_groupMotors (wellFormed : registry.WellFormed) :
    (registry.backends.flatMap registry.groupMotors).Perm registry.motors := by
  have listed : registry.backends.flatMap registry.groupMotors =
      (registry.backends.flatMap BackendGroup.motorIndexes).filterMap
        fun index => registry.motors[index]? := by
    rw [List.filterMap_flatMap]
    rfl
  rw [listed]
  apply (wellFormed.partition.filterMap _).trans
  rw [filterMap_range]

theorem nodup_globalIndex (wellFormed : registry.WellFormed) :
    (registry.motors.map RuntimeMotor.globalIndex).Nodup := by
  apply (List.Nodup.of_map _ wellFormed.aliases).map_on
  intro left leftIn right rightIn
  exact wellFormed.eq_of_globalIndex leftIn rightIn

/-- The motors of a group have distinct indices. -/
theorem nodup_groupMotors (wellFormed : registry.WellFormed)
    (member : group ∈ registry.backends) :
    ((registry.groupMotors group).map RuntimeMotor.globalIndex).Nodup := by
  have all := (wellFormed.perm_groupMotors.map RuntimeMotor.globalIndex).nodup_iff.mpr
    wellFormed.nodup_globalIndex
  rw [List.map_flatMap] at all
  exact (List.nodup_flatMap.mp all).1 group member

theorem groupMotors_ne_nil (wellFormed : registry.WellFormed)
    (member : group ∈ registry.backends) : registry.groupMotors group ≠ [] := by
  intro none
  rcases List.exists_mem_of_ne_nil _ (wellFormed.nonempty group member) with ⟨index, inGroup⟩
  rcases wellFormed.placed group member index inGroup with ⟨motor, selected, -⟩
  have listed : motor ∈ registry.groupMotors group :=
    List.mem_filterMap.mpr ⟨index, inGroup, selected⟩
  rw [none] at listed
  contradiction

end WellFormed

end MotorRegistry

end RmdCanSdk
