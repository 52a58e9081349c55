import RmdCanSdk.Can.Feedback
import RmdCanSdk.Can.TxLoop
import RmdCanSdk.Driver.Sdk

/-!
# The motors of a cycle

What one pass of each loop does with the motors of its backend. A transmit cycle has one
command for each of them, a received frame is offered to each of them once, and a realtime
cycle reads and writes each of their bindings once; nothing else is touched.
-/

namespace RmdCanSdk

variable {F : Type} [FloatArith F]

/-! ## CAN -/

/-- The motor a status request goes to. -/
def Transmission.requestedFrom : Transmission F → Option (RuntimeMotor F)
  | .command _ => none
  | .statusRequest motor => some motor

/-- The loops of a CAN backend treat each of the motors once. A transmit cycle hands over
one command for each of them, computed from its own target, and every twentieth one a
status request in addition. A received frame is offered to each of them, and a timeout
marks each of them that is missing. -/
structure CanGroup.HandlesOnce (group : CanGroup F) (motors : List (RuntimeMotor F)) : Prop where
  frames : ∀ targets source tick,
    (cycleTransmissions group targets source tick).map Transmission.frame =
      txCycle group targets tick
  commands : ∀ targets source tick, ∀ motor ∈ motors,
    (cycleTransmissions group targets source tick).filterMap (Transmission.commandTo motor) =
      [⟨motor, source, mitCommand motor (targets.targets motor.globalIndex)⟩]
  requests : ∀ targets source tick,
    (cycleTransmissions group targets source tick).filterMap Transmission.requestedFrom =
      if tick % 20 = 0 then motors else []
  length : ∀ targets tick, (txCycle group targets tick).length =
    motors.length + if tick % 20 = 0 then motors.length else 0
  received : ∀ (backend : RmdCanBackend F) event frame, ¬ event.received ≤ 0 →
    event.frame = some frame → ∀ motor ∈ motors,
      (backend.rxStep group event).workingActuals.entry motor.globalIndex =
        RmdCanBackend.receivedEntry frame motor (backend.workingActuals.entry motor.globalIndex)
  missed : ∀ (backend : RmdCanBackend F) event, event.received ≤ 0 → ∀ motor ∈ motors,
    (backend.rxStep group event).workingActuals.entry motor.globalIndex =
      RmdCanBackend.missingEntry backend.mitFrame motor
        (backend.workingActuals.entry motor.globalIndex)
  others : ∀ (backend : RmdCanBackend F) event index,
    index ∉ motors.map RuntimeMotor.globalIndex →
      (backend.rxStep group event).workingActuals.entry index =
        backend.workingActuals.entry index

omit [FloatArith F] in
/-- Only the motor's own command is one to it. -/
theorem commandTo_motors {motors : List (RuntimeMotor F)}
    (distinct : (motors.map RuntimeMotor.globalIndex).Nodup) {motor : RuntimeMotor F}
    (member : motor ∈ motors) (command : RuntimeMotor F → Command F)
    (own : ∀ other, (command other).motor = other) :
    (motors.map fun other => Transmission.command (command other)).filterMap
      (Transmission.commandTo motor) = [command motor] := by
  rcases List.append_of_mem member with ⟨front, back, rfl⟩
  rw [List.map_append, List.map_cons, List.nodup_middle, List.nodup_cons] at distinct
  have others : ∀ side : List (RuntimeMotor F), (∀ other ∈ side, other ∈ front ++ back) →
      (side.map fun other => Transmission.command (command other)).filterMap
        (Transmission.commandTo motor) = [] := by
    intro side within
    rw [List.filterMap_map, List.filterMap_eq_nil_iff]
    intro other inSide
    apply if_neg
    intro same
    rw [own] at same
    rw [← List.map_append, ← same] at distinct
    exact distinct.1 (List.mem_map_of_mem (within other inSide))
  have isOwn : (Transmission.command (command motor)).commandTo motor = some (command motor) :=
    if_pos (by rw [own])
  rw [List.map_append, List.map_cons, List.filterMap_append, List.filterMap_cons_some isOwn,
    others front fun _ => List.mem_append_left _, others back fun _ => List.mem_append_right _]
  rfl

namespace RmdCanBackend

/-- An iteration of the receive loop does not touch an index of no motor. -/
theorem rxStep_entry_other {group : CanGroup F} (backend : RmdCanBackend F) (event : RxEvent)
    {index : Nat} (absent : index ∉ group.motors.map RuntimeMotor.globalIndex) :
    (backend.rxStep group event).workingActuals.entry index =
      backend.workingActuals.entry index := by
  apply rxStep_preserves (fun after =>
    after.workingActuals.entry index = backend.workingActuals.entry index) rfl
  · intro timeout
    exact MotorActualFrame.foldl_entry_of_notMem id (entry_markMissing backend.mitFrame)
      backend.workingActuals absent
  · intro frame received between same motor member
    have different : index ≠ motor.globalIndex := by
      rintro rfl
      exact absent (List.mem_map_of_mem member)
    rw [receiveFor_entry different, same]

end RmdCanBackend

theorem CanGroup.handlesOnce (group : CanGroup F) : group.HandlesOnce group.motors where
  frames targets source tick := frame_cycleTransmissions group targets source tick
  commands targets source tick motor member := by
    rw [cycleTransmissions, List.filterMap_append,
      commandTo_motors group.distinct member (fun motor => ⟨motor, source, mitCommand motor
        (targets.targets motor.globalIndex)⟩) fun _ => rfl]
    have none : (if tick % 20 = 0 then group.motors.map Transmission.statusRequest else
        []).filterMap (Transmission.commandTo motor) = [] := by
      split
      · rw [List.filterMap_map, List.filterMap_eq_nil_iff]
        intro other _
        rfl
      · rfl
    rw [none]
    rfl
  requests targets source tick := by
    have none : (group.motors.map fun motor => Transmission.command ⟨motor, source, mitCommand
        motor (targets.targets motor.globalIndex)⟩).filterMap Transmission.requestedFrom = [] := by
      rw [List.filterMap_map, List.filterMap_eq_nil_iff]
      intro other _
      rfl
    rw [cycleTransmissions, List.filterMap_append, none, List.nil_append]
    split
    · rw [List.filterMap_map]
      exact List.filterMap_some
    · rfl
  length targets tick := by
    rw [txCycle, List.length_append, List.length_map]
    split
    · rw [List.length_map]
    · rfl
  received backend event frame arrived received motor member :=
    backend.entry_rxStep arrived received member
  missed backend event timeout motor member := by
    rw [RmdCanBackend.rxStep_timeout timeout]
    exact (RmdCanBackend.receiveTimeout_spec group backend event.now).2.2 motor member
  others backend event _ absent := backend.rxStep_entry_other event absent

/-! ## EtherCAT -/

/-- A realtime cycle treats each of the motors once: each has one binding, each binding is
read once, and each image is written once, by the bindings of its domain. -/
structure RmdEthercatRuntime.HandlesOnce (runtime : RmdEthercatRuntime F)
    (motors : List (RuntimeMotor F)) : Prop where
  distinct : (motors.map RuntimeMotor.globalIndex).Nodup
  bound : (runtime.domains.bound.map fun bound => bound.2.globalIndex).Perm
    (motors.map RuntimeMotor.globalIndex)
  read : ∀ input frame, ∀ bound ∈ runtime.domains.bound,
    (runtime.cycle input frame).workingActuals.entry bound.2.globalIndex =
      readEntry (input.snapshot bound.1).1 (input.snapshot bound.1).2 bound.2
        (runtime.workingActuals.entry bound.2.globalIndex)
  otherEntries : ∀ input frame index, index ∉ motors.map RuntimeMotor.globalIndex →
    (runtime.cycle input frame).workingActuals.entry index = runtime.workingActuals.entry index
  written : ∀ input frame, ∀ domain ∈ runtime.domains.domains,
    (runtime.cycle input frame).images domain.domainId = domain.bindings.foldl
      (writeBinding domain.size (runtime.cycle input frame).targets
        (runtime.cycle input frame).workingActuals) (input.domainData domain.domainId)
  otherImages : ∀ input frame number,
    number ∉ runtime.domains.domains.map EthercatDomainRuntime.domainId →
      (runtime.cycle input frame).images number = input.domainData number

theorem RmdEthercatRuntime.handlesOnce {runtime : RmdEthercatRuntime F}
    {motors : List (RuntimeMotor F)} (distinct : (motors.map RuntimeMotor.globalIndex).Nodup)
    (bound : (runtime.domains.bound.map fun bound => bound.2.globalIndex).Perm
      (motors.map RuntimeMotor.globalIndex)) : runtime.HandlesOnce motors where
  distinct := distinct
  bound := bound
  read input frame _ isBound := readEntry_cycle input frame isBound
  otherEntries _ _ _ absent := entry_cycle_of_notMem fun inBound => absent (bound.subset inBound)
  written _ _ _ member := image_cycle member
  otherImages input _ _ absent := foldl_writeDomain_of_notMem input.domainData absent

/-! ## Backends -/

/-- What the loops of a backend go through: the motors of its group, or its domains. -/
def MotorBackend.scope : MotorBackend F → List (RuntimeMotor F) ⊕ EthercatDomains F
  | .can group _ _ => .inl group.motors
  | .ethercat runtime _ => .inr runtime.domains

/-- The loops were set up for these motors. -/
def Covers (motors : List (RuntimeMotor F)) :
    List (RuntimeMotor F) ⊕ EthercatDomains F → Prop
  | .inl own => own = motors
  | .inr domains => (domains.bound.map fun bound => bound.2.globalIndex).Perm
      (motors.map RuntimeMotor.globalIndex)

/-- Every pass of a loop of the backend treats each of the motors once. -/
def MotorBackend.HandlesOnce (motors : List (RuntimeMotor F)) : MotorBackend F → Prop
  | .can group _ _ => group.HandlesOnce motors
  | .ethercat runtime _ => runtime.HandlesOnce motors

theorem MotorBackend.handlesOnce {backend : MotorBackend F} {motors : List (RuntimeMotor F)}
    (distinct : (motors.map RuntimeMotor.globalIndex).Nodup)
    (covers : Covers motors backend.scope) : backend.HandlesOnce motors := by
  cases backend with
  | can group state history =>
      cases covers
      exact group.handlesOnce
  | ethercat runtime history => exact RmdEthercatRuntime.handlesOnce distinct covers

end RmdCanSdk
