import Mathlib.Data.List.FinRange
import RmdCanSdk.Can.Heard
import RmdCanSdk.Driver.Sdk

/-!
# What a successful report means

An account of each backend that every step of the driver keeps: what its published
frames show was decoded from what its loop received. An EtherCAT backend counts as
started only when a published frame has been read; a CAN backend counts as started
at once, so its initial frame can be reported.
-/

namespace RmdCanSdk

variable {F : Type} [FloatArith F]

/-! ## The account of a backend -/

/-- The initial frame has a status word that no reply gives. -/
structure CanAccount (registry : MotorRegistry F) (group : BackendGroup) (canGroup : CanGroup F)
    (backend : RmdCanBackend F) (history : List RxEvent) : Prop where
  bus : group.bus = .can
  motors : canGroup.motors = registry.groupMotors group
  hears : Hears canGroup history backend
  initial : ∃ frame : MotorActualFrame F, [frame] <+: backend.actualBuffer.values ∧
    ∀ motor ∈ registry.groupMotors group, (frame.actuals motor.globalIndex).statusWord = 0x0000

/-- The initial frame has the number that the startup wait takes for seen. -/
structure EthercatAccount (registry : MotorRegistry F) (group : BackendGroup) (phase : Phase)
    (runtime : RmdEthercatRuntime F) (history : List RealtimeEvent) : Prop where
  covers : ∀ motor ∈ registry.groupMotors group,
    ∃ bound ∈ runtime.domains.bound, bound.2.globalIndex = motor.globalIndex
  reports : Reports history runtime
  initial : ∃ frame : MotorActualFrame F,
    [frame] <+: runtime.actualBuffer.values ∧ frame.sequence = 0
  awaited : ∀ wait, phase = .starting wait → runtime.actualBuffer.position = 0 →
    wait.lastSequence = 0
  moved : phase = .running → 0 < runtime.actualBuffer.position

def BackendRuntime.Accounted (registry : MotorRegistry F) (runtime : BackendRuntime F) : Prop :=
  match runtime.backend with
  | .can group backend history => CanAccount registry runtime.group group backend history
  | .ethercat state history =>
      EthercatAccount registry runtime.group runtime.phase state history

/-- The sample in the frame read last was decoded from what the loop received. -/
def BackendRuntime.Heard (runtime : BackendRuntime F) (motor : RuntimeMotor F) : Prop :=
  match runtime.backend with
  | .can _ _ history => HeardFrom motor history (runtime.frame.actuals motor.globalIndex)
  | .ethercat state history => DecodedIn state.domains motor.globalIndex history
      (runtime.frame.actuals motor.globalIndex)

/-- The motors whose sample a CAN backend may report before it has heard them: all of
them in the frame that `init` made, which gives them the status word 0x0000, and those
without a bit of their own. -/
def BackendRuntime.Presumes (registry : MotorRegistry F) (runtime : BackendRuntime F)
    (motor : RuntimeMotor F) : Prop :=
  runtime.group.bus = .can ∧
    (runtime.backend.actualBuffer.position = 0 ∧
        (runtime.frame.actuals motor.globalIndex).statusWord = 0x0000 ∨
      ¬ OwnBit (registry.groupMotors runtime.group) motor)

variable {registry : MotorRegistry F} {runtime next : BackendRuntime F}
variable {backend : MotorBackend F} {motor : RuntimeMotor F} {position : Nat}

/-- A started backend whose frame counts for a motor has heard it or presumes it. -/
theorem BackendRuntime.Accounted.heard (accounted : runtime.Accounted registry)
    (running : runtime.phase = .running) (member : motor ∈ registry.groupMotors runtime.group)
    (fresh : countsStale runtime.frame motor = false) :
    runtime.Heard motor ∨ runtime.Presumes registry motor := by
  rw [countsStale, Bool.or_eq_false_iff, Bool.not_eq_false'] at fresh
  rcases runtime with ⟨group, backend, phase⟩
  cases backend with
  | can canGroup backend history =>
      have account : CanAccount registry group canGroup backend history := accounted
      by_cases unread : backend.actualBuffer.position = 0
      · rcases account.initial with ⟨frame, first, statusWord⟩
        rw [← LatestValue.current_of_unread first unread] at statusWord
        exact .inr ⟨account.bus, .inl ⟨unread, statusWord motor member⟩⟩
      · by_cases bit : OwnBit (registry.groupMotors group) motor
        · left
          apply account.hears.published _ (LatestValue.current_mem_published _) motor
          · exact account.motors ▸ member
          · exact account.motors ▸ bit
          · exact fresh.2
          · exact Nat.pos_of_ne_zero unread
        · exact .inr ⟨account.bus, .inr bit⟩
  | ethercat state history =>
      have account : EthercatAccount registry group phase state history := accounted
      rcases account.covers motor member with ⟨bound, inDomains, same⟩
      left
      have decoded := account.reports _
        (LatestValue.current_mem_published (account.moved running)) bound inDomains
      rw [same] at decoded
      exact decoded fresh.1

/-! ## Steps of a backend -/

namespace CanAccount

variable {group : BackendGroup} {canGroup : CanGroup F} {bus : RmdCanBackend F}
variable {history : List RxEvent}

theorem read (account : CanAccount registry group canGroup bus history)
    {buffer : LatestValue (MotorActualFrame F)} (same : buffer.values = bus.actualBuffer.values) :
    CanAccount registry group canGroup { bus with actualBuffer := buffer } history where
  bus := account.bus
  motors := account.motors
  hears := {
    expects := account.hears.expects
    received := account.hears.received
    published := by
      rw [LatestValue.published, same]
      exact account.hears.published }
  initial := by
    rw [same]
    exact account.initial

theorem rxStep (account : CanAccount registry group canGroup bus history) (event : RxEvent) :
    CanAccount registry group canGroup (bus.rxStep canGroup event) (history ++ [event]) where
  bus := account.bus
  motors := account.motors
  hears := account.hears.rxStep event
  initial := by
    rcases account.initial with ⟨frame, first, statusWord⟩
    exact ⟨frame, first.trans (RmdCanBackend.values_prefix_rxStep canGroup bus event), statusWord⟩

end CanAccount

namespace EthercatAccount

variable {group : BackendGroup} {phase : Phase} {state after : RmdEthercatRuntime F}
variable {history : List RealtimeEvent} {event : RealtimeEvent}

theorem read (account : EthercatAccount registry group phase state history)
    {buffer : LatestValue (MotorActualFrame F)} (same : buffer.values = state.actualBuffer.values)
    (forward : state.actualBuffer.position ≤ buffer.position) :
    EthercatAccount registry group phase { state with actualBuffer := buffer } history where
  covers := account.covers
  reports := by
    rw [Reports, LatestValue.published, same]
    exact account.reports
  initial := by
    rw [same]
    exact account.initial
  awaited wait starting unread :=
    account.awaited wait starting (Nat.le_zero.mp (unread ▸ forward))
  moved running := Nat.lt_of_lt_of_le (account.moved running) forward

/-- The reader at the start of the buffer sees the frame that counts as seen. -/
theorem unseen (account : EthercatAccount registry group phase state history)
    (unread : state.actualBuffer.position = 0) : state.actualBuffer.current.sequence = 0 := by
  rcases account.initial with ⟨frame, first, unnumbered⟩
  rw [LatestValue.current_of_unread first unread]
  exact unnumbered

theorem step (account : EthercatAccount registry group phase state history)
    (stepped : state.step event = some after) :
    EthercatAccount registry group phase after (history ++ [event]) := by
  have reports := account.reports.step stepped
  cases event with
  | setMotorTarget frame =>
      rw [(RmdEthercatRuntime.step_setMotorTarget stepped).2.2] at reports ⊢
      exact { account with reports := reports }
  | cycle input =>
      rcases RmdEthercatRuntime.step_cycle stepped with ⟨-, frame, -, rfl⟩
      rcases account.initial with ⟨initial, first, unnumbered⟩
      exact {
        covers := account.covers
        reports := reports
        initial := ⟨initial, first.trans (List.prefix_append _ _), unnumbered⟩
        awaited := account.awaited
        moved := account.moved }

end EthercatAccount

namespace BackendRuntime

/-- What a step of the backend may change. -/
structure Keeps (registry : MotorRegistry F) (runtime next : BackendRuntime F) : Prop where
  group : next.group = runtime.group
  accounted : next.Accounted registry

theorem Accounted.readInto (accounted : runtime.Accounted registry)
    (read : runtime.backend.readInto position = some backend) :
    Accounted registry { runtime with backend := backend } := by
  rcases runtime with ⟨group, before, phase⟩
  rcases Option.map_eq_some_iff.mp read with ⟨buffer, stepped, rfl⟩
  rcases LatestValue.step_read stepped with ⟨values, moved, forward⟩
  cases before with
  | can canGroup backend history => exact CanAccount.read accounted values
  | ethercat state history => exact EthercatAccount.read accounted values (moved ▸ forward)

theorem Accounted.start (accounted : runtime.Accounted registry)
    (started : runtime.start = some next) : Keeps registry runtime next := by
  rcases runtime with ⟨group, backend, phase⟩
  cases phase with
  | constructed =>
      cases backend with
      | can canGroup backend history =>
          cases started
          exact ⟨rfl, accounted⟩
      | ethercat state history =>
          cases started
          have account : EthercatAccount registry group .constructed state history := accounted
          refine ⟨rfl, account.covers, account.reports, account.initial, ?_, ?_⟩
          · intro wait starting _
            cases starting
            rfl
          · intro running
            contradiction
  | starting wait => contradiction
  | running => contradiction

theorem Accounted.backendLoop {event : LoopEvent} (accounted : runtime.Accounted registry)
    (stepped : runtime.backend.loop event = some backend) :
    Accounted registry { runtime with backend := backend } := by
  rcases runtime with ⟨group, before, phase⟩
  cases before with
  | can canGroup bus history =>
      cases event with
      | receive event =>
          cases stepped
          exact CanAccount.rxStep accounted event
      | realtime event => contradiction
  | ethercat state history =>
      cases event with
      | receive event => contradiction
      | realtime event =>
          rcases Option.map_eq_some_iff.mp stepped with ⟨after, advanced, rfl⟩
          exact EthercatAccount.step accounted advanced

theorem Accounted.loop {event : LoopEvent} (accounted : runtime.Accounted registry)
    (stepped : runtime.loop event = some next) :
    Keeps registry runtime next ∧ next.phase = runtime.phase := by
  simp only [BackendRuntime.loop] at stepped
  split at stepped
  next => contradiction
  next =>
    rcases Option.map_eq_some_iff.mp stepped with ⟨backend, looped, rfl⟩
    exact ⟨⟨rfl, accounted.backendLoop looped⟩, rfl⟩

/-- The wait ends only after it has read a published frame. -/
theorem Accounted.waitForStartupReady {startupReadyFrames : Nat}
    (accounted : runtime.Accounted registry)
    (polled : runtime.waitForStartupReady startupReadyFrames position = some next) :
    Keeps registry runtime next := by
  simp only [BackendRuntime.waitForStartupReady] at polled
  split at polled
  next wait starting =>
    rcases Option.map_eq_some_iff.mp polled with ⟨backend, read, rfl⟩
    have after := accounted.readInto read
    refine ⟨rfl, ?_⟩
    cases backend with
    | can canGroup bus history => exact after
    | ethercat state history =>
        rw [starting] at after
        have account : EthercatAccount registry runtime.group (.starting wait) state history := after
        by_cases unread : state.actualBuffer.position = 0
        · have seen : state.actualBuffer.current.sequence = wait.lastSequence :=
            (account.unseen unread).trans (account.awaited wait rfl unread).symm
          simp only [MotorBackend.actualBuffer, StartupWait.poll_seen seen]
          exact account
        · exact ⟨account.covers, account.reports, account.initial,
            fun _ _ still => absurd still unread, fun _ => Nat.pos_of_ne_zero unread⟩
  next => contradiction

omit [FloatArith F] in
/-- Reading all buffers moves each backend's reader and nothing else. -/
theorem readActuals_spec {runtimes results : List (BackendRuntime F)} {positions : List Nat}
    (read : readActuals runtimes positions = some results) :
    results.map BackendRuntime.group = runtimes.map BackendRuntime.group ∧
      ∀ result ∈ results, ∃ runtime ∈ runtimes, ∃ position backend,
        runtime.backend.readInto position = some backend ∧
          result = { runtime with backend := backend } := by
  induction runtimes generalizing positions results with
  | nil =>
      cases positions with
      | nil =>
          cases read
          exact ⟨rfl, by simp⟩
      | cons => contradiction
  | cons runtime rest ih =>
      cases positions with
      | nil => contradiction
      | cons position positions =>
          rcases Option.bind_eq_some_iff.mp read with ⟨backend, first, read⟩
          rcases Option.bind_eq_some_iff.mp read with ⟨tail, others, read⟩
          cases read
          rcases ih others with ⟨groups, each⟩
          refine ⟨congrArg (runtime.group :: ·) groups, ?_⟩
          intro result member
          rcases List.mem_cons.mp member with rfl | inTail
          · exact ⟨runtime, List.mem_cons_self, position, backend, first, rfl⟩
          · rcases each result inTail with ⟨other, inRest, readOther⟩
            exact ⟨other, List.mem_cons_of_mem _ inRest, readOther⟩

end BackendRuntime

/-! ## Runs of the driver -/

namespace Impl

structure Sound (impl : Impl F) : Prop where
  wellFormed : impl.registry.WellFormed
  groups : impl.backendRuntimes.map BackendRuntime.group = impl.registry.backends
  accounted : ∀ runtime ∈ impl.backendRuntimes, runtime.Accounted impl.registry
  started : impl.initialized = true → ∀ runtime ∈ impl.backendRuntimes, runtime.phase = .running

variable {impl next : Impl F} {backendIndex : Nat} {event : SdkEvent} {positions : List Nat}
variable {change : BackendRuntime F → Option (BackendRuntime F)}

theorem Sound.update (sound : impl.Sound) (updated : impl.update backendIndex change = some next)
    (kept : ∀ before after, before ∈ impl.backendRuntimes → change before = some after →
      BackendRuntime.Keeps impl.registry before after ∧
        (impl.initialized = true → after.phase = .running)) :
    next.Sound ∧ next.registry = impl.registry := by
  rcases Option.map_eq_some_iff.mp updated with ⟨after, changed, rfl⟩
  rcases Option.bind_eq_some_iff.mp changed with ⟨before, present, changed⟩
  rcases kept before after (List.mem_of_getElem? present) changed with ⟨keeps, running⟩
  refine ⟨⟨sound.wellFormed, ?_, ?_, ?_⟩, rfl⟩
  · rcases List.getElem?_eq_some_iff.mp present with ⟨inBounds, same⟩
    have unchanged : (impl.backendRuntimes.map BackendRuntime.group).set backendIndex
        before.group = impl.backendRuntimes.map BackendRuntime.group := by
      rw [← same, ← List.getElem_map BackendRuntime.group (h := by simpa using inBounds)]
      exact List.set_getElem_self _
    rw [List.map_set, keeps.group, unchanged]
    exact sound.groups
  · intro runtime member
    rcases List.mem_or_eq_of_mem_set member with old | rfl
    · exact sound.accounted runtime old
    · exact keeps.accounted
  · intro initialized runtime member
    rcases List.mem_or_eq_of_mem_set member with old | rfl
    · exact sound.started initialized runtime old
    · exact running initialized

theorem Sound.readActuals (sound : impl.Sound) {runtimes : List (BackendRuntime F)}
    (read : BackendRuntime.readActuals impl.backendRuntimes positions = some runtimes) :
    Sound { impl with backendRuntimes := runtimes } := by
  rcases BackendRuntime.readActuals_spec read with ⟨groups, each⟩
  refine ⟨sound.wellFormed, groups.trans sound.groups, ?_, ?_⟩
  · intro runtime member
    rcases each runtime member with ⟨before, listed, position, backend, moved, rfl⟩
    exact (sound.accounted before listed).readInto moved
  · intro initialized runtime member
    rcases each runtime member with ⟨before, listed, position, backend, -, rfl⟩
    exact sound.started initialized before listed

theorem Sound.step (sound : impl.Sound) (stepped : impl.step event = some next) :
    next.Sound ∧ next.registry = impl.registry := by
  cases event with
  | start backendIndex =>
      simp only [Impl.step] at stepped
      split at stepped
      next guard =>
        rw [Bool.and_eq_true, Bool.not_eq_true'] at guard
        apply sound.update stepped
        intro before after listed started
        exact ⟨(sound.accounted before listed).start started,
          fun initialized => absurd (guard.1.symm.trans initialized) Bool.false_ne_true⟩
      next => contradiction
  | loop backendIndex event =>
      apply sound.update stepped
      intro before after listed looped
      rcases (sound.accounted before listed).loop looped with ⟨keeps, phase⟩
      exact ⟨keeps, fun initialized => phase.trans (sound.started initialized before listed)⟩
  | waitForStartupReady backendIndex position =>
      simp only [Impl.step] at stepped
      split at stepped
      next guard =>
        rw [Bool.not_eq_true'] at guard
        apply sound.update stepped
        intro before after listed polled
        exact ⟨(sound.accounted before listed).waitForStartupReady polled,
          fun initialized => absurd (guard.symm.trans initialized) Bool.false_ne_true⟩
      next => contradiction
  | finishInit =>
      simp only [Impl.step] at stepped
      split at stepped
      next ready =>
        cases stepped
        refine ⟨⟨sound.wellFormed, sound.groups, sound.accounted, ?_⟩, rfl⟩
        intro _ runtime member
        exact Phase.isRunning_iff.mp (List.all_eq_true.mp ready runtime member)
      next => contradiction
  | readActuals positions =>
      simp only [Impl.step] at stepped
      split at stepped
      next =>
        rcases Option.map_eq_some_iff.mp stepped with ⟨runtimes, read, rfl⟩
        exact ⟨sound.readActuals read, rfl⟩
      next => contradiction

theorem Sound.run {start reached : Impl F} {events : List SdkEvent} (sound : start.Sound)
    (ran : Transition.run Impl.step start events = some reached) :
    reached.Sound ∧ reached.registry = start.registry := by
  apply Transition.run_invariant
    (fun impl => impl.Sound ∧ impl.registry = start.registry) _ ran ⟨sound, rfl⟩
  intro impl next event stepped before
  rcases before.1.step stepped with ⟨after, same⟩
  exact ⟨after, same.trans before.2⟩

variable {environment : Environment F} {config : Config F} {operatingModes : List Int}
variable {maxCurrents : List (BitVec 16)}

theorem constructBackend_accounted (wellFormed : registry.WellFormed)
    {backendIndex : Fin registry.backends.length} {runtime : BackendRuntime F}
    (ok : constructBackend environment operatingModes wellFormed backendIndex = .ok runtime) :
    runtime.group = registry.backends.get backendIndex ∧ runtime.Accounted registry := by
  simp only [constructBackend] at ok
  split at ok
  next inBounds =>
    split at ok
    next bus =>
      cases ok
      refine ⟨rfl, bus, rfl, Hears.construct _ _ _, _, List.prefix_refl _, ?_⟩
      intro motor member
      exact congrArg MotorActual.statusWord (if_pos (List.mem_map_of_mem member))
    next bus =>
      split at ok
      next => contradiction
      next domains created =>
        cases ok
        refine ⟨rfl, ?_, Reports.started _ _ _ _ _, ⟨_, List.prefix_refl _, rfl⟩, ?_, ?_⟩
        · intro motor member
          have listed := (startDomains_indices (List.getElem?_eq_getElem backendIndex.isLt) bus
            created).1.mem_iff.mpr (List.mem_map_of_mem member)
          rcases List.mem_map.mp listed with ⟨binding, bound, same⟩
          rcases List.mem_flatMap.mp bound with ⟨domain, inDomains, inBindings⟩
          exact ⟨(domain, binding), EthercatDomains.mem_bound.mpr ⟨inDomains, inBindings⟩, same⟩
        · intro wait starting
          contradiction
        · intro running
          contradiction
  next => contradiction

theorem construct_sound
    (constructed : construct environment config operatingModes maxCurrents = .ok impl) :
    impl.Sound := by
  simp only [construct] at constructed
  split at constructed
  next => contradiction
  next registry loaded =>
    rcases bind_eq_ok constructed with ⟨modes, -, constructed⟩
    rcases bind_eq_ok constructed with ⟨currents, -, constructed⟩
    rcases bind_eq_ok constructed with ⟨runtimes, built, constructed⟩
    cases constructed
    have wellFormed := MotorRegistry.fromConfig_wellFormed loaded
    refine ⟨wellFormed, ?_, ?_, ?_⟩
    · exact (map_mapM (fun ok => (constructBackend_accounted wellFormed ok).1) built).trans
        (List.map_get_finRange _)
    · intro runtime member
      rcases mem_mapM built member with ⟨backendIndex, -, ok⟩
      exact (constructBackend_accounted wellFormed ok).2
    · intro initialized
      contradiction

/-! ## What a call reports -/

omit [FloatArith F] in
theorem map_reportedMotors (runtimes : List (BackendRuntime F)) :
    (reportedMotors registry runtimes).map Prod.snd =
      (runtimes.map BackendRuntime.group).flatMap registry.groupMotors := by
  rw [reportedMotors, List.map_flatMap, List.flatMap_map]
  apply congrArg (List.flatMap · runtimes)
  funext runtime
  rw [List.map_map]
  exact List.map_id _

/-- The backends together report every motor once. -/
theorem Sound.perm_reportedMotors (sound : impl.Sound) :
    ((reportedMotors impl.registry impl.backendRuntimes).map Prod.snd).Perm
      impl.registry.motors := by
  rw [map_reportedMotors, sound.groups]
  exact sound.wellFormed.perm_groupMotors

theorem Sound.exists_reported (sound : impl.Sound) (member : motor ∈ impl.registry.motors) :
    ∃ runtime, (runtime, motor) ∈ reportedMotors impl.registry impl.backendRuntimes := by
  rw [← sound.perm_reportedMotors.mem_iff] at member
  rcases List.mem_map.mp member with ⟨⟨runtime, motor⟩, listed, rfl⟩
  exact ⟨runtime, listed⟩

theorem Sound.nodup_reported (sound : impl.Sound) :
    ((reportedMotors impl.registry impl.backendRuntimes).map
      fun item => item.2.globalIndex).Nodup := by
  have distinct := (sound.perm_reportedMotors.map RuntimeMotor.globalIndex).nodup_iff.mpr
    sound.wellFormed.nodup_globalIndex
  rw [List.map_map] at distinct
  exact distinct

end Impl

/-- A call that answers reports every motor from the frame it read from the motor's
backend. The sample was decoded from feedback of the motor that the backend received
since `init` started it, or the backend only presumes it, or the motor counts in the
negative result. -/
theorem report_heard_or_counted {environment : Environment F} {config : Config F}
    {operatingModes : List Int} {maxCurrents : List (BitVec 16)} {start reached next : Impl F}
    {events : List SdkEvent} {data reported : List (MotorActualStruct F)}
    {positions : List Nat} {result : Int}
    (constructed : Impl.construct environment config operatingModes maxCurrents = .ok start)
    (ran : Transition.run Impl.step start events = some reached)
    (called : reached.getActuals data positions = some (next, reported, result))
    (accepted : result ≠ NotReady) :
    ∀ motor ∈ start.registry.motors, ∃ runtime ∈ next.backendRuntimes,
      motor ∈ start.registry.groupMotors runtime.group ∧
      reported[motor.globalIndex]? = some (publicActual runtime.frame motor) ∧
      (runtime.Heard motor ∨ runtime.Presumes start.registry motor ∨
        countsStale runtime.frame motor = true ∧ result < 0) := by
  intro motor member
  rcases (Impl.construct_sound constructed).run ran with ⟨sound, same⟩
  rcases Impl.getActuals_answered called accepted with ⟨runtimes, rfl, answered⟩
  have after := sound.readActuals answered.reads
  rw [← same] at member ⊢
  rcases after.exists_reported member with ⟨runtime, listed⟩
  rcases mem_reportedMotors.mp listed with ⟨inRuntimes, inGroup⟩
  refine ⟨runtime, inRuntimes, inGroup, ?_, ?_⟩
  · rw [answered.reported]
    apply foldl_set_of_mem _ after.nodup_reported listed
    have numbered := sound.wellFormed.numbered motor member
    have size := answered.size
    rw [RuntimeMotor.Numbered] at numbered
    have inBounds : motor.globalIndex < data.length := by omega
    rw [List.length_map]
    exact inBounds
  · cases counts : countsStale runtime.frame motor with
    | false =>
        have running := after.started answered.initialized runtime inRuntimes
        rcases (after.accounted runtime inRuntimes).heard running inGroup counts with
          heard | presumed
        · exact .inl heard
        · exact .inr (.inl presumed)
    | true =>
        refine .inr (.inr ⟨rfl, ?_⟩)
        have positive : 0 < (reportedMotors reached.registry runtimes).countP fun item =>
            countsStale item.1.frame item.2 :=
          List.countP_pos_iff.mpr ⟨(runtime, motor), listed, counts⟩
        rw [answered.result]
        omega

/-! ## One CAN bus -/

/-- A CAN motor whose motor id is its alias. -/
def canMotorConfig (number slaveId : Int) : MotorConfig ℚ where
  «alias» := number
  master := 0
  motorId := number
  slaveId := slaveId
  ethercatSlave := 0
  domain := 0
  bus := .can
  type := "RMD"
  parameters := default

def oneCanMotorConfig : Config ℚ where
  totalMotorCount := 1
  motors := MotorTable.empty.upsertMotor (canMotorConfig 1 1)

/-- The second slave id has no bit in the feedback mask. -/
def outsideMaskConfig : Config ℚ where
  totalMotorCount := 2
  motors := (MotorTable.empty.upsertMotor (canMotorConfig 1 1)).upsertMotor (canMotorConfig 2 64)

def noEthercat : Environment ℚ where
  commandTimeout := 100000000
  startupReadyFrames := 20
  register := fun _ => none
  domainSize := fun _ _ => 0
  epoch := 0

/-- The motor replies once, and the call that reads the frame reports the reply. -/
theorem report_heard_or_counted_reply :
    ∃ start reached next reported,
      Impl.construct noEthercat oneCanMotorConfig [] [] = .ok start ∧
      Transition.run Impl.step start
        [.start 0, .finishInit, .loop 0 (.receive (replyOf 1 0))] = some reached ∧
      reached.getActuals [default] [1] = some (next, reported, 0) ∧
      ∀ motor ∈ start.registry.motors, ∃ runtime ∈ next.backendRuntimes,
        runtime.Heard motor ∨ runtime.Presumes start.registry motor := by
  have completed : ∃ start reached next reported,
      Impl.construct noEthercat oneCanMotorConfig [] [] = .ok start ∧
      Transition.run Impl.step start
        [.start 0, .finishInit, .loop 0 (.receive (replyOf 1 0))] = some reached ∧
      reached.getActuals [default] [1] = some (next, reported, 0) :=
    ⟨_, _, _, _, rfl, rfl, rfl⟩
  rcases completed with ⟨start, reached, next, reported, constructed, ran, called⟩
  refine ⟨start, reached, next, reported, constructed, ran, called, ?_⟩
  intro motor member
  rcases report_heard_or_counted constructed ran called (by decide) motor member with
    ⟨runtime, listed, -, -, heard | presumed | ⟨-, negative⟩⟩
  · exact ⟨runtime, listed, .inl heard⟩
  · exact ⟨runtime, listed, .inr presumed⟩
  · contradiction

/-- A call returns 0 although no backend has heard some motor. -/
def SucceedsUnheard (config : Config ℚ) (events : List SdkEvent)
    (data : List (MotorActualStruct ℚ)) (positions : List Nat) : Prop :=
  ∃ start reached next reported,
    Impl.construct noEthercat config [] [] = .ok start ∧
    Transition.run Impl.step start events = some reached ∧
    reached.getActuals data positions = some (next, reported, 0) ∧
    ∃ motor ∈ start.registry.motors, ∀ runtime ∈ next.backendRuntimes, ¬ runtime.Heard motor

/-- Right after `init` nothing was received; later, a motor without a bit of its own
is reported with the first reply of another one. -/
theorem success_before_feedback :
    SucceedsUnheard oneCanMotorConfig [.start 0, .finishInit] [default] [0] ∧
      SucceedsUnheard outsideMaskConfig [.start 0, .finishInit, .loop 0 (.receive (replyOf 1 0))]
        [default, default] [1] := by
  constructor
  · refine ⟨_, _, _, _, rfl, rfl, rfl, _, List.mem_cons_self, ?_⟩
    intro runtime member heard
    cases List.mem_singleton.mp member
    rcases heard with ⟨event, occurred, -⟩
    contradiction
  · refine ⟨_, _, _, _, rfl, rfl, rfl, _, List.mem_cons_of_mem _ List.mem_cons_self, ?_⟩
    intro runtime member heard
    cases List.mem_singleton.mp member
    rcases heard with ⟨event, occurred, feedback, reply, -⟩
    cases List.mem_singleton.mp occurred
    contradiction

end RmdCanSdk
