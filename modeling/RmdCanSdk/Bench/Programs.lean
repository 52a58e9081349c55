import RmdCanSdk.Bench.Ramp

/-!
# Two programs of the bench

One holds the motors where they are, or brings them to zero; the other one brings them to
requested positions, which it has checked against the limits of the configuration.
-/

namespace RmdCanSdk.Bench

variable {F : Type} [FloatArith F]

omit [FloatArith F] in
/-- `getActiveMotors` after `init`. -/
def activeMotors (registry : MotorRegistry F) (grouped : registry.Grouped) :
    List (Fin registry.totalMotorCount.toNat) :=
  registry.motors.attach.map fun motor => ⟨(motor.val.alias - 1).toNat, by
    have numbered := grouped.numbered motor.val motor.property
    have positive := numbered.1
    have counted := numbered.2.1
    omega⟩

/-! ## Holding a position -/

inductive TargetMode where
  | current
  | zero
  deriving DecidableEq

/-- The session of `rmd_ecat_hold_position`. -/
def holdPosition (registry : MotorRegistry F) (grouped : registry.Grouped)
    (arguments : Arguments) (targetMode : TargetMode) :
    Session F registry.totalMotorCount.toNat where
  toArguments := arguments
  activeMotors := activeMotors registry grouped
  finalPosition _ pos := if targetMode = .zero then lit 0 else pos
  missedLimit := 1
  pacing := .sleepFor
  limited := Nat.one_pos

/-! ## Requested positions -/

def MaxConsecutiveMissedFeedback : Nat := 10

variable {count : Nat}

/-- The target of a motor by its alias, unless it is rejected. -/
def assignMotorTarget (config : Config F) (requestedTargets : Vector (Option F) count)
    (assignment : Nat × F) : Option (Vector (Option F) count) :=
  let (motorAlias, position) := assignment
  if inside : 0 < motorAlias ∧ motorAlias - 1 < count then do
    let params ← findParamsForAlias config motorAlias
    if position < params.minimumPosition ∨ position > params.maximumPosition then none
    else some (requestedTargets.set (motorAlias - 1) (some position) inside.2)
  else none

/-- The requested target of a motor by its index, unless its assignment is rejected. -/
def requestTarget (config : Config F) (requestedTargets : Vector (Option F) count)
    (assignment : Nat × F) : Option (Vector (Option F) count) :=
  let (motorIndex, position) := assignment
  if inside : motorIndex < count then
    match requestedTargets[motorIndex] with
    | some _ => none
    | none => assignMotorTarget config requestedTargets (motorIndex + 1, position)
  else none

/-- The loop over the assignments, and the check that the motors are active. -/
def requestTargets (config : Config F) (active : List (Fin count)) (assignments : List (Nat × F)) :
    Option (Vector (Option F) count) := do
  let requestedTargets ← Transition.run (requestTarget config) (.replicate count none) assignments
  if (List.finRange count).all fun i => (requestedTargets.get i).isNone || active.contains i then
    some requestedTargets
  else none

/-- The session of `rmd_ecat_position_targets`. -/
def positionTargets (registry : MotorRegistry F) (grouped : registry.Grouped)
    (arguments : Arguments)
    (requestedTargets : Vector (Option F) registry.totalMotorCount.toNat) :
    Session F registry.totalMotorCount.toNat where
  toArguments := arguments
  activeMotors := activeMotors registry grouped
  finalPosition i pos := (requestedTargets.get i).getD pos
  missedLimit := MaxConsecutiveMissedFeedback
  pacing := .sleepUntil
  limited := by decide

/-! ## Limits -/

/-- No requested target is outside of the limits of its motor. -/
def WithinLimits (config : Config F) (requestedTargets : Vector (Option F) count) : Prop :=
  ∀ (i : Fin count) (position : F), requestedTargets.get i = some position →
    ∃ params, findParamsForAlias config (i + 1) = some params ∧
      ¬ position < params.minimumPosition ∧ ¬ position > params.maximumPosition

theorem assignMotorTarget_within {config : Config F}
    {requestedTargets next : Vector (Option F) count} {assignment : Nat × F}
    (accepted : assignMotorTarget config requestedTargets assignment = some next)
    (within : WithinLimits config requestedTargets) : WithinLimits config next := by
  rcases assignment with ⟨motorAlias, requested⟩
  simp only [assignMotorTarget] at accepted
  split at accepted
  next inside =>
    rcases Option.bind_eq_some_iff.mp accepted with ⟨params, found, checked⟩
    split at checked
    next => contradiction
    next inLimits =>
      cases checked
      intro i position isRequested
      have entry := isRequested.symm.trans
        (Vector.get_set_fin requestedTargets ⟨motorAlias - 1, inside.2⟩ i (some requested))
      split at entry
      next same =>
        cases same
        cases entry
        refine ⟨params, ?_, not_or.mp inLimits⟩
        rw [← found]
        congr 1
        simp only
        omega
      next => exact within i position entry.symm
  next => contradiction

theorem requestTarget_within {config : Config F} {requestedTargets next : Vector (Option F) count}
    {assignment : Nat × F} (accepted : requestTarget config requestedTargets assignment = some next)
    (within : WithinLimits config requestedTargets) : WithinLimits config next := by
  rcases assignment with ⟨motorIndex, requested⟩
  simp only [requestTarget] at accepted
  split at accepted
  next =>
    split at accepted
    next => contradiction
    next => exact assignMotorTarget_within accepted within
  next => contradiction

theorem withinLimits_none (config : Config F) :
    WithinLimits config (.replicate count none : Vector (Option F) count) := by
  intro i position isRequested
  cases isRequested.symm.trans (Vector.getElem_replicate i.isLt)

theorem requestTargets_within {config : Config F} {active : List (Fin count)}
    {assignments : List (Nat × F)} {requestedTargets : Vector (Option F) count}
    (accepted : requestTargets config active assignments = some requestedTargets) :
    WithinLimits config requestedTargets := by
  rcases Option.bind_eq_some_iff.mp accepted with ⟨requested, ran, checked⟩
  split at checked
  next =>
    cases checked
    exact Transition.run_invariant (WithinLimits config) requestTarget_within ran
      (withinLimits_none config)
  next => contradiction

/-- In exact arithmetic: if a motor was captured between its limits, no position outside of them
is ever commanded to it, whatever targets the program has accepted. -/
theorem positionTargets_within (config : Config ℚ) (registry : MotorRegistry ℚ)
    (loaded : MotorRegistry.fromConfig config = .ok registry) (arguments : Arguments)
    (assignments : List (Nat × ℚ))
    (requestedTargets : Vector (Option ℚ) registry.totalMotorCount.toNat)
    (accepted : requestTargets config
      (activeMotors registry (MotorRegistry.fromConfig_wellFormed loaded).toGrouped) assignments =
        some requestedTargets)
    (answers : List ((call : Call ℚ registry.totalMotorCount.toNat) → Response call)) :
    let session := positionTargets registry
      (MotorRegistry.fromConfig_wellFormed loaded).toGrouped arguments requestedTargets
    let observed := (session.program.run answers).1.foldl observe .nothing
    observed.commands = [] ∨ ∃ captured since, session.script.Captured captured observed.reports since ∧
      ∀ (i : Fin registry.totalMotorCount.toNat) (params : MotorParameters ℚ),
        i ∈ session.activeMotors → findParamsForAlias config (i + 1) = some params →
        params.minimumPosition ≤ (captured.get i).pos →
        (captured.get i).pos ≤ params.maximumPosition →
        ∀ targets ∈ observed.commands,
          params.minimumPosition ≤ (targets.get i).pos ∧
            (targets.get i).pos ≤ params.maximumPosition := by
  intro session observed
  rcases session.commanded_run answers with nothing |
    ⟨captured, since, number, m, repeats, seen, commands⟩
  · exact .inl nothing
  refine .inr ⟨captured, since, seen, ?_⟩
  intro i params active found lower upper targets member
  rw [commands] at member
  rcases Session.between_of_mem active member with ⟨above, below⟩
  have final : params.minimumPosition ≤ (requestedTargets.get i).getD (captured.get i).pos ∧
      (requestedTargets.get i).getD (captured.get i).pos ≤ params.maximumPosition := by
    cases requested : requestedTargets.get i with
    | none => exact ⟨lower, upper⟩
    | some position =>
        rcases requestTargets_within accepted i position requested with ⟨own, isOwn, limits⟩
        cases found.symm.trans isOwn
        exact ⟨not_lt.mp limits.1, not_lt.mp limits.2⟩
  exact ⟨(le_min lower final.1).trans above, below.trans (max_le upper final.2)⟩

/-! ## One motor -/

/-- The configuration of one drive with the default limits. -/
def benchConfig : Config ℚ where
  totalMotorCount := 1
  motors := MotorTable.empty.upsertMotor {
    «alias» := 1
    master := 0
    motorId := 1
    slaveId := 0
    ethercatSlave := 0
    domain := 0
    bus := .ethercat
    type := "MT_Device"
    parameters := default }

/-- One iteration of a hold of ten milliseconds, with a ramp as long. -/
def benchArguments : Arguments where
  holdMs := 10
  settleSamples := 20
  periodMs := 10
  rampMs := 10
  holds := by decide
  settles := by decide
  repeats := by decide

/-- The answers of a driver whose only motor is enabled at one half. -/
def enabledAtHalf : (call : Call ℚ 1) → Response call
  | .stopRequested => false
  | .now => (0 : Int)
  | .getMotorActual => (0, #v[{ (default : MotorActualStruct ℚ) with
      pos := 1 / 2
      statusWord := 0x0037 }])
  | .setMotorTarget _ => (0 : Int)
  | .sleepFor _ | .sleepUntil _ => ()

def benchRegistry : MotorRegistry ℚ where
  totalMotorCount := 1
  motors := [{
    «alias» := 1
    globalIndex := 0
    backendIndex := 0
    backendLocalIndex := 0
    bus := .ethercat
    master := 0
    motorId := 1
    slaveId := 0
    ethercatSlave := 0
    domain := 0
    type := "MT_Device"
    parameters := default }]
  backends := [{ bus := .ethercat, master := 0, motorIndexes := [0] }]

theorem benchRegistry_loaded : MotorRegistry.fromConfig benchConfig = .ok benchRegistry := rfl

theorem positionTargets_within_half :
    let session := positionTargets benchRegistry
      (MotorRegistry.fromConfig_wellFormed benchRegistry_loaded).toGrouped benchArguments
        #v[some (1 / 4)]
    let observed := (session.program.run (List.replicate 33 enabledAtHalf)).1.foldl observe .nothing
    observed.commands ≠ [] ∧ (observed.commands = [] ∨ ∃ captured since,
      session.script.Captured captured observed.reports since ∧
      ∀ (i : Fin 1) (params : MotorParameters ℚ),
        i ∈ session.activeMotors → findParamsForAlias benchConfig (i + 1) = some params →
        params.minimumPosition ≤ (captured.get i).pos →
        (captured.get i).pos ≤ params.maximumPosition →
        ∀ targets ∈ observed.commands,
          params.minimumPosition ≤ (targets.get i).pos ∧
            (targets.get i).pos ≤ params.maximumPosition) :=
  ⟨List.cons_ne_nil _ _, positionTargets_within benchConfig benchRegistry benchRegistry_loaded
    benchArguments [(0, 1 / 4)] _ (by decide +kernel) (List.replicate 33 enabledAtHalf)⟩

end RmdCanSdk.Bench
