import RmdCanSdk.Ethercat.RealtimeLoop

/-!
# EtherCAT feedback

What the published frame says about a motor after any history of cycles: the sample
of this cycle, or the values of the last one that could be decoded under a stale
mark. The loop reuses its working frame, so the last values survive in it.
-/

namespace RmdCanSdk

variable {F : Type} [FloatArith F]

/-- The sample decoded by the last cycle in which the binding's domain was complete
and its TxPDO readable. -/
def lastDecoded (domain : EthercatDomainRuntime F) (binding : EthercatPdoBinding F)
    (events : List RealtimeEvent) : Option (MotorActual F) :=
  events.foldl
    (fun last event =>
      match event with
      | .setMotorTarget _ => last
      | .cycle input => (input.feedback domain binding).or last)
    none

/-- An entry that is valid and decoded in this cycle. -/
structure Fresh (input : CycleInput) (domain : EthercatDomainRuntime F)
    (binding : EthercatPdoBinding F) (entry : MotorEntry F) : Prop where
  complete : input.complete domain.domainId = true
  readable : hasByteRange binding.txOffset binding.txExtent domain.size = true
  valid : entry.valid = true
  notStale : entry.stale = false
  decoded : entry.actual = binding.parse (input.domainData domain.domainId)

/-- An entry that is marked stale and holds the values of an earlier sample. -/
structure Held (last : MotorActual F) (entry : MotorEntry F) : Prop where
  invalid : entry.valid = false
  stale : entry.stale = true
  statusWord : entry.actual.statusWord = 0xffff
  errorCode : entry.actual.errorCode = 1
  pos : entry.actual.pos = last.pos
  vel : entry.actual.vel = last.vel
  tor : entry.actual.tor = last.tor
  encoderCount : entry.actual.encoderCount = last.encoderCount
  temp : entry.actual.temp = last.temp
  driveTemp : entry.actual.driveTemp = last.driveTemp
  voltage : entry.actual.voltage = last.voltage

omit [FloatArith F] in
/-- Marking loses nothing but the status word and the error code. -/
theorem held_of_marked {entry : MotorEntry F} {last : MotorActual F}
    (marked : entry = { actual := markActualStale last, valid := false, stale := true }) :
    Held last entry := by
  rw [marked]
  exact ⟨rfl, rfl, rfl, rfl, rfl, rfl, rfl, rfl, rfl, rfl, rfl⟩

variable {domain : EthercatDomainRuntime F} {binding : EthercatPdoBinding F}

theorem lastDecoded_cycle (events : List RealtimeEvent) (input : CycleInput) :
    lastDecoded domain binding (events ++ [.cycle input]) =
      (input.feedback domain binding).or (lastDecoded domain binding events) := by
  simp only [lastDecoded, List.foldl_append]
  rfl

theorem lastDecoded_setMotorTarget (events : List RealtimeEvent)
    (frame : EthercatPackedTargetFrame) :
    lastDecoded domain binding (events ++ [.setMotorTarget frame]) =
      lastDecoded domain binding events := by
  simp only [lastDecoded, List.foldl_append]
  rfl

namespace RmdEthercatRuntime

variable {runtime next : RmdEthercatRuntime F} {events : List RealtimeEvent}
variable {event : RealtimeEvent} {input : CycleInput} {frame : EthercatPackedTargetFrame}

/-- The working frame remembers the last sample, apart from what marking changes. -/
def Remembers (domain : EthercatDomainRuntime F) (binding : EthercatPdoBinding F)
    (events : List RealtimeEvent) (runtime : RmdEthercatRuntime F) : Prop :=
  markActualStale (runtime.workingActuals.actuals binding.globalIndex) =
    markActualStale ((lastDecoded domain binding events).getD default)

theorem Remembers.step (remembers : Remembers domain binding events runtime)
    (bound : (domain, binding) ∈ runtime.domains.bound)
    (stepped : step runtime event = some next) :
    Remembers domain binding (events ++ [event]) next := by
  simp only [Remembers] at remembers ⊢
  cases event with
  | setMotorTarget frame =>
      rw [(step_setMotorTarget stepped).2.2, lastDecoded_setMotorTarget]
      exact remembers
  | cycle input =>
      rcases step_cycle stepped with ⟨-, frame, -, rfl⟩
      have actual := congrArg MotorEntry.actual (entry_cycle input frame bound)
      replace actual : (runtime.cycle input frame).workingActuals.actuals binding.globalIndex = _ :=
        actual
      rw [lastDecoded_cycle, actual]
      cases input.feedback domain binding with
      | some sample => rfl
      | none => exact remembers

/-- A run from the start remembers the last sample of its whole history. -/
theorem run_remembers {domains : EthercatDomains F} {totalMotorCount : Nat}
    {commandTimeout : Time} {actualBuffer : LatestValue (MotorActualFrame F)} {epoch : Time}
    (bound : (domain, binding) ∈ domains.bound)
    (ran : Transition.run step
      (started domains totalMotorCount commandTimeout actualBuffer epoch) events = some runtime) :
    Remembers domain binding events runtime := by
  induction events using List.reverseRecOn generalizing runtime with
  | nil =>
      cases ran
      rfl
  | append_singleton events event ih =>
      rcases Transition.run_append.mp ran with ⟨middle, before, stepped⟩
      rw [Transition.run_singleton] at stepped
      apply (ih before).step _ stepped
      rw [(run_config before).1]
      exact bound

/-- What a cycle makes of a bound motor's entry. -/
theorem Remembers.fresh_or_held (remembers : Remembers domain binding events runtime)
    (bound : (domain, binding) ∈ runtime.domains.bound) :
    Fresh input domain binding
        ((runtime.cycle input frame).workingActuals.entry binding.globalIndex) ∨
      input.feedback domain binding = none ∧
        Held ((lastDecoded domain binding events).getD default)
          ((runtime.cycle input frame).workingActuals.entry binding.globalIndex) := by
  rw [entry_cycle input frame bound]
  cases decoded : input.feedback domain binding with
  | some actual =>
      rcases CycleInput.feedback_eq_some.mp decoded with ⟨complete, readable, parsed⟩
      exact .inl ⟨complete, readable, rfl, rfl, parsed⟩
  | none =>
      refine .inr ⟨rfl, held_of_marked ?_⟩
      rw [← remembers]

/-- The entry of an index without a binding stays as the loop started with it. -/
theorem run_unbound {domains : EthercatDomains F} {totalMotorCount : Nat}
    {commandTimeout : Time} {actualBuffer : LatestValue (MotorActualFrame F)} {epoch : Time}
    {index : Nat} (unbound : index ∉ domains.bound.map fun bound => bound.2.globalIndex)
    (ran : Transition.run step
      (started domains totalMotorCount commandTimeout actualBuffer epoch) events = some runtime) :
    runtime.workingActuals.entry index = (default : MotorActualFrame F).entry index := by
  have invariant : runtime.domains = domains ∧
      runtime.workingActuals.entry index = (default : MotorActualFrame F).entry index := by
    apply Transition.run_invariant (fun runtime => runtime.domains = domains ∧
      runtime.workingActuals.entry index = (default : MotorActualFrame F).entry index) _ ran
      ⟨rfl, rfl⟩
    intro runtime next event stepped before
    cases event with
    | setMotorTarget frame =>
        rw [(step_setMotorTarget stepped).2.2]
        exact before
    | cycle input =>
        rcases step_cycle stepped with ⟨-, frame, -, rfl⟩
        refine ⟨before.1, ?_⟩
        rw [entry_cycle_of_notMem (before.1 ▸ unbound)]
        exact before.2
  exact invariant.2

end RmdEthercatRuntime

open RmdEthercatRuntime in
/-- After every cycle of a run the published frame shows each bound motor as decoded
in this cycle or as held from the last cycle that decoded it, and every other motor
as it was before the first cycle. -/
theorem feedback_fresh_or_held {domains : EthercatDomains F} {totalMotorCount : Nat}
    {commandTimeout : Time} {actualBuffer : LatestValue (MotorActualFrame F)} {epoch : Time}
    {runtime next : RmdEthercatRuntime F} {input : CycleInput} (events : List RealtimeEvent)
    (ran : Transition.run step
      (started domains totalMotorCount commandTimeout actualBuffer epoch) events = some runtime)
    (stepped : step runtime (.cycle input) = some next) :
    (∀ domain ∈ domains.domains, ∀ binding ∈ domain.bindings,
      Fresh input domain binding (next.actualBuffer.latest.entry binding.globalIndex) ∨
        input.feedback domain binding = none ∧
          Held ((lastDecoded domain binding events).getD default)
            (next.actualBuffer.latest.entry binding.globalIndex)) ∧
    ∀ index, (∀ domain ∈ domains.domains, ∀ binding ∈ domain.bindings,
        binding.globalIndex ≠ index) →
      next.actualBuffer.latest.entry index = (default : MotorActualFrame F).entry index := by
  have sameDomains : runtime.domains = domains := (run_config ran).1
  rcases step_cycle stepped with ⟨-, frame, -, rfl⟩
  rw [latest_cycle]
  constructor
  · intro domain inDomains binding inBindings
    have bound : (domain, binding) ∈ domains.bound :=
      EthercatDomains.mem_bound.mpr ⟨inDomains, inBindings⟩
    exact (run_remembers bound ran).fresh_or_held (sameDomains ▸ bound)
  · intro index absent
    have unbound : index ∉ domains.bound.map fun bound => bound.2.globalIndex := by
      intro listed
      rcases List.mem_map.mp listed with ⟨⟨domain, binding⟩, bound, same⟩
      rcases EthercatDomains.mem_bound.mp bound with ⟨inDomains, inBindings⟩
      exact absent domain inDomains binding inBindings same
    rw [entry_cycle_of_notMem (sameDomains ▸ unbound)]
    exact run_unbound unbound ran

/-- After a ready cycle the domain falls out, and the drive's values are held. -/
theorem feedback_fresh_or_held_incomplete :
    let lost := { readyCycle 200 0 with complete := fun _ => false }
    ∃ state next, Transition.run RmdEthercatRuntime.step (.started oneDrive 1 100 (.start default) 50)
        [.cycle (readyCycle 100 0)] = some state ∧
      state.step (.cycle lost) = some next ∧
      Held (driveBinding.parse ((readyCycle 100 0).domainData 0))
        (next.actualBuffer.latest.entry 0) := by
  intro lost
  let events : List RealtimeEvent := [.cycle (readyCycle 100 0)]
  have completed : (Transition.run RmdEthercatRuntime.step
      (.started oneDrive 1 100 (.start default) 50) (events ++ [.cycle lost])).isSome = true := by
    decide +kernel
  rcases Option.isSome_iff_exists.mp completed with ⟨next, all⟩
  rcases Transition.run_append.mp all with ⟨state, ran, stepped⟩
  rw [Transition.run_singleton] at stepped
  refine ⟨state, next, ran, stepped, ?_⟩
  rcases (feedback_fresh_or_held events ran stepped).1 driveDomain (List.mem_singleton_self _)
    driveBinding (List.mem_singleton_self _) with fresh | held
  · exact absurd fresh.complete (by decide)
  · exact held.2

end RmdCanSdk
