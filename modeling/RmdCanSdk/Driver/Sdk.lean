import RmdCanSdk.Can.Backend
import RmdCanSdk.Driver.Targets
import RmdCanSdk.Ethercat.Startup

/-!
# The driver as a whole

`init` builds a backend for each group of the registry and starts them one after
the other, while the loops of those already started run. The caller may read the
actual buffers only when all of them have started.
-/

namespace RmdCanSdk

variable {F : Type} [FloatArith F]

/-! ## Backends -/

/-- A backend of either bus, with everything its loop has been through so far. -/
inductive MotorBackend (F : Type) where
  | can (group : CanGroup F) (backend : RmdCanBackend F) (history : List RxEvent)
  | ethercat (runtime : RmdEthercatRuntime F) (history : List RealtimeEvent)

/-- What one iteration of a backend's loop finds. -/
inductive LoopEvent where
  | receive (event : RxEvent)
  | realtime (event : RealtimeEvent)

namespace MotorBackend

omit [FloatArith F]

def actualBuffer : MotorBackend F → LatestValue (MotorActualFrame F)
  | .can _ backend _ => backend.actualBuffer
  | .ethercat runtime _ => runtime.actualBuffer

def setActualBuffer (actualBuffer : LatestValue (MotorActualFrame F)) :
    MotorBackend F → MotorBackend F
  | .can group backend history => .can group { backend with actualBuffer := actualBuffer } history
  | .ethercat runtime history => .ethercat { runtime with actualBuffer := actualBuffer } history

/-- The bindings whose motors the startup wait looks at. -/
def bindings : MotorBackend F → List (EthercatPdoBinding F)
  | .can .. => []
  | .ethercat runtime _ => runtime.domains.domains.flatMap EthercatDomainRuntime.bindings

/-- `readInto` on the actual buffer. The frame it returns is the current one then. -/
def readInto (backend : MotorBackend F) (position : Nat) : Option (MotorBackend F) :=
  (backend.actualBuffer.step (.read position)).map backend.setActualBuffer

end MotorBackend

/-- One iteration of the loop of a backend. -/
def MotorBackend.loop : MotorBackend F → LoopEvent → Option (MotorBackend F)
  | .can group backend history, .receive event =>
      some (.can group (backend.rxStep group event) (history ++ [event]))
  | .ethercat runtime history, .realtime event =>
      (runtime.step event).map fun runtime => .ethercat runtime (history ++ [event])
  | _, _ => none

/-- How far `start` has brought a backend. -/
inductive Phase where
  | constructed
  | starting (wait : StartupWait)
  | running

def Phase.isRunning : Phase → Bool
  | .running => true
  | _ => false

theorem Phase.isRunning_iff {phase : Phase} : phase.isRunning = true ↔ phase = .running := by
  cases phase with
  | running => exact ⟨fun _ => rfl, fun _ => rfl⟩
  | constructed => exact ⟨fun running => by contradiction, fun running => by contradiction⟩
  | starting wait => exact ⟨fun running => by contradiction, fun running => by contradiction⟩

structure BackendRuntime (F : Type) where
  group : BackendGroup
  backend : MotorBackend F
  phase : Phase

namespace BackendRuntime

/-- The part of `start` before the loop runs. On CAN nothing comes after it. -/
def start (runtime : BackendRuntime F) : Option (BackendRuntime F) :=
  match runtime.phase with
  | .constructed =>
      match runtime.backend with
      | .can .. => some { runtime with phase := .running }
      | .ethercat .. => some { runtime with phase := .starting .begin }
  | _ => none

/-- An iteration of the loop, which runs from `start` on. -/
def loop (runtime : BackendRuntime F) (event : LoopEvent) : Option (BackendRuntime F) :=
  match runtime.phase with
  | .constructed => none
  | _ => (runtime.backend.loop event).map fun backend => { runtime with backend := backend }

/-- One poll of the wait at the end of an EtherCAT `start`. -/
def waitForStartupReady (startupReadyFrames : Nat) (runtime : BackendRuntime F)
    (position : Nat) : Option (BackendRuntime F) :=
  match runtime.phase with
  | .starting wait =>
      (runtime.backend.readInto position).map fun backend =>
        let (ready, wait) :=
          wait.poll startupReadyFrames backend.bindings backend.actualBuffer.current
        { runtime with
          backend := backend
          phase := if ready then .running else .starting wait }
  | _ => none

/-- The frame the last `readInto` returned. -/
def frame (runtime : BackendRuntime F) : MotorActualFrame F := runtime.backend.actualBuffer.current

/-- `readInto` on the actual buffer of every backend in turn. -/
def readActuals : List (BackendRuntime F) → List Nat → Option (List (BackendRuntime F))
  | [], [] => some []
  | runtime :: rest, position :: positions => do
      let backend ← runtime.backend.readInto position
      let rest ← readActuals rest positions
      return { runtime with backend := backend } :: rest
  | _, _ => none

end BackendRuntime

/-! ## Construction -/

/-- What `init` depends on besides the configuration: the settings of the EtherCAT
loops, the answers of their masters, and the clock. -/
structure Environment (F : Type) where
  commandTimeout : Time
  startupReadyFrames : Nat
  register : EthercatPdoBinding F → Option (Nat × Nat)
  domainSize : Int → Int → Nat
  epoch : Time

/-- The state of the driver behind its public functions. -/
structure Impl (F : Type) where
  registry : MotorRegistry F
  startupReadyFrames : Nat
  backendRuntimes : List (BackendRuntime F)
  initialized : Bool

/-- One iteration of the loop over the groups. The bit sets of the initial frame
have no bit beyond the frame. The domains are those `start` will create. -/
def constructBackend (environment : Environment F) (operatingModes : List Int)
    {registry : MotorRegistry F} (wellFormed : registry.WellFormed)
    (backendIndex : Fin registry.backends.length) : Except String (BackendRuntime F) :=
  let group := registry.backends.get backendIndex
  let motors := registry.groupMotors group
  let totalMotorCount := registry.totalMotorCount.toNat
  let actualBuffer := LatestValue.start (initialActuals motors totalMotorCount)
  if inBounds : ∀ motor ∈ motors, motor.globalIndex < MaxRealtimeMotors then
    match bus : group.bus with
    | .can =>
        let canGroup : CanGroup F := {
          motors := motors
          nonempty := wellFormed.groupMotors_ne_nil (List.get_mem _ _)
          distinct := wellFormed.nodup_groupMotors (List.get_mem _ _)
          inBounds := inBounds }
        return {
          group := group
          backend := .can canGroup (.construct canGroup totalMotorCount actualBuffer) []
          phase := .constructed }
    | .ethercat =>
        match ok : startDomains registry backendIndex operatingModes environment.register
            (environment.domainSize group.master) with
        | .error message => throw message
        | .ok _ =>
            let domains := EthercatDomains.ofStart wellFormed inBounds
              (List.getElem?_eq_getElem backendIndex.isLt) bus ok
            return {
              group := group
              backend := .ethercat (.started domains totalMotorCount environment.commandTimeout
                actualBuffer environment.epoch) []
              phase := .constructed }
  else throw "bitset::set"

namespace Impl

/-- `init` up to the point where it starts the backends. -/
def construct (environment : Environment F) (config : Config F) (operatingModes : List Int)
    (maxCurrents : List (BitVec 16)) : Except String (Impl F) :=
  match loaded : MotorRegistry.fromConfig config with
  | .error message => throw message
  | .ok registry => do
      let operatingModes ← ensureOperatingModes operatingModes config.totalMotorCount.toNat
      let _ ← ensureMaxCurrents maxCurrents config.totalMotorCount.toNat
      let wellFormed := MotorRegistry.fromConfig_wellFormed loaded
      let backendRuntimes ← (List.finRange registry.backends.length).mapM
        (constructBackend environment operatingModes wellFormed)
      return {
        registry := registry
        startupReadyFrames := environment.startupReadyFrames
        backendRuntimes := backendRuntimes
        initialized := false }

end Impl

/-! ## Runs -/

/-- The driver's own steps and those of the loops. The caller's reads of the actual
buffers are those of `getActuals` and `getEncoderCounts`. -/
inductive SdkEvent where
  | start (backendIndex : Nat)
  | loop (backendIndex : Nat) (event : LoopEvent)
  | waitForStartupReady (backendIndex position : Nat)
  | finishInit
  | readActuals (positions : List Nat)

namespace Impl

/-- A step of one backend. -/
def update (impl : Impl F) (backendIndex : Nat)
    (change : BackendRuntime F → Option (BackendRuntime F)) : Option (Impl F) :=
  (impl.backendRuntimes[backendIndex]?.bind change).map fun runtime => { impl with
    backendRuntimes := impl.backendRuntimes.set backendIndex runtime }

/-- `init` starts a backend when those before it have started, and is done when all
have. Any failure ends it with an exception, so no step leads on from there. -/
def step (impl : Impl F) : SdkEvent → Option (Impl F)
  | .start backendIndex =>
      if !impl.initialized &&
          (impl.backendRuntimes.take backendIndex).all (·.phase.isRunning) then
        impl.update backendIndex BackendRuntime.start
      else none
  | .loop backendIndex event => impl.update backendIndex (·.loop event)
  | .waitForStartupReady backendIndex position =>
      if !impl.initialized then
        impl.update backendIndex
          (BackendRuntime.waitForStartupReady impl.startupReadyFrames · position)
      else none
  | .finishInit =>
      if impl.backendRuntimes.all (·.phase.isRunning) then some { impl with initialized := true }
      else none
  | .readActuals positions =>
      if impl.initialized then
        (BackendRuntime.readActuals impl.backendRuntimes positions).map fun runtimes =>
          { impl with backendRuntimes := runtimes }
      else none

end Impl

/-! ## Reports -/

/-- The result of a call that is refused, the smallest `int`. -/
def NotReady : Int := -2147483648

def publicActual (frame : MotorActualFrame F) (motor : RuntimeMotor F) : MotorActualStruct F :=
  match motor.bus with
  | .ethercat => copyPublicActual (frame.actuals motor.globalIndex)
  | .can => toPublicActual (frame.actuals motor.globalIndex) motor.parameters

omit [FloatArith F] in
def countsStale (frame : MotorActualFrame F) (motor : RuntimeMotor F) : Bool :=
  !frame.valid motor.globalIndex || frame.stale motor.globalIndex

def reportMotor (frame : MotorActualFrame F) (report : List (MotorActualStruct F) × Int)
    (motor : RuntimeMotor F) : List (MotorActualStruct F) × Int :=
  (report.1.set motor.globalIndex (publicActual frame motor),
    if countsStale frame motor then report.2 + 1 else report.2)

def reportBackend (registry : MotorRegistry F) (report : List (MotorActualStruct F) × Int)
    (runtime : BackendRuntime F) : List (MotorActualStruct F) × Int :=
  (registry.groupMotors runtime.group).foldl (reportMotor runtime.frame) report

namespace Impl

/-- A call on the caller's vector, with the positions to which its reads move. -/
def getActuals (impl : Impl F) (data : List (MotorActualStruct F)) (positions : List Nat) :
    Option (Impl F × List (MotorActualStruct F) × Int) :=
  if !impl.initialized || decide ((data.length : Int) ≠ impl.registry.totalMotorCount) then
    some (impl, data, NotReady)
  else
    (BackendRuntime.readActuals impl.backendRuntimes positions).map fun runtimes =>
      let report := runtimes.foldl (reportBackend impl.registry) (data.map fun _ => default, 0)
      ({ impl with backendRuntimes := runtimes }, report.1,
        if report.2 = 0 then 0 else -report.2)

end Impl

/-- The motors of all backends, each with the backend that reports it. -/
def reportedMotors (registry : MotorRegistry F) (runtimes : List (BackendRuntime F)) :
    List (BackendRuntime F × RuntimeMotor F) :=
  runtimes.flatMap fun runtime => (registry.groupMotors runtime.group).map (Prod.mk runtime)

omit [FloatArith F] in
theorem mem_reportedMotors {registry : MotorRegistry F} {runtimes : List (BackendRuntime F)}
    {runtime : BackendRuntime F} {motor : RuntimeMotor F} :
    (runtime, motor) ∈ reportedMotors registry runtimes ↔
      runtime ∈ runtimes ∧ motor ∈ registry.groupMotors runtime.group := by
  simp [reportedMotors]

section

omit [FloatArith F]

variable {α : Type} (value : MotorActualFrame F → RuntimeMotor F → α)

/-- A loop over the motors of a backend that writes a value for each of them. -/
def reportMotorWith (frame : MotorActualFrame F) (report : List α × Int)
    (motor : RuntimeMotor F) : List α × Int :=
  (report.1.set motor.globalIndex (value frame motor),
    if countsStale frame motor then report.2 + 1 else report.2)

def reportBackendWith (registry : MotorRegistry F) (report : List α × Int)
    (runtime : BackendRuntime F) : List α × Int :=
  (registry.groupMotors runtime.group).foldl (reportMotorWith value runtime.frame) report

/-- The report of all backends: a value for each motor, and the number of motors
whose sample is missing or stale. -/
theorem foldl_reportBackendWith (registry : MotorRegistry F) (runtimes : List (BackendRuntime F))
    (report : List α × Int) :
    runtimes.foldl (reportBackendWith value registry) report =
      ((reportedMotors registry runtimes).foldl
          (fun data item => data.set item.2.globalIndex (value item.1.frame item.2)) report.1,
        report.2 + (reportedMotors registry runtimes).countP fun item =>
          countsStale item.1.frame item.2) := by
  have flat : runtimes.foldl (reportBackendWith value registry) report =
      (reportedMotors registry runtimes).foldl
        (fun report item => reportMotorWith value item.1.frame report item.2) report := by
    rw [reportedMotors, List.foldl_flatMap]
    apply congrArg (List.foldl · report runtimes)
    funext report runtime
    rw [List.foldl_map]
    rfl
  have apart : ∀ (items : List (BackendRuntime F × RuntimeMotor F)) (report : List α × Int),
      items.foldl (fun report item => reportMotorWith value item.1.frame report item.2) report =
        (items.foldl (fun data item =>
            data.set item.2.globalIndex (value item.1.frame item.2)) report.1,
          items.foldl (fun count item =>
            if countsStale item.1.frame item.2 then count + 1 else count) report.2) := by
    intro items
    induction items with
    | nil => exact fun report => rfl
    | cons item rest ih =>
        intro report
        rw [List.foldl_cons, ih]
        rfl
  rw [flat, apart, foldl_count]

end

theorem foldl_reportBackend (registry : MotorRegistry F) (runtimes : List (BackendRuntime F))
    (report : List (MotorActualStruct F) × Int) :
    runtimes.foldl (reportBackend registry) report =
      ((reportedMotors registry runtimes).foldl
          (fun data item => data.set item.2.globalIndex (publicActual item.1.frame item.2)) report.1,
        report.2 + (reportedMotors registry runtimes).countP fun item =>
          countsStale item.1.frame item.2) :=
  foldl_reportBackendWith publicActual registry runtimes report

/-- What a call that is not refused reads, writes and returns. -/
structure Answered (impl : Impl F) (data : List (MotorActualStruct F)) (positions : List Nat)
    (runtimes : List (BackendRuntime F)) (reported : List (MotorActualStruct F))
    (result : Int) : Prop where
  initialized : impl.initialized = true
  size : (data.length : Int) = impl.registry.totalMotorCount
  reads : BackendRuntime.readActuals impl.backendRuntimes positions = some runtimes
  reported : reported = (reportedMotors impl.registry runtimes).foldl
    (fun data item => data.set item.2.globalIndex (publicActual item.1.frame item.2))
    (data.map fun _ => default)
  result : result = -(reportedMotors impl.registry runtimes).countP fun item =>
    countsStale item.1.frame item.2

theorem Impl.getActuals_answered {impl next : Impl F}
    {data reported : List (MotorActualStruct F)} {result : Int} {positions : List Nat}
    (called : impl.getActuals data positions = some (next, reported, result))
    (accepted : result ≠ NotReady) :
    ∃ runtimes, next = { impl with backendRuntimes := runtimes } ∧
      Answered impl data positions runtimes reported result := by
  simp only [getActuals] at called
  split at called
  next =>
    cases called
    contradiction
  next ready =>
    rw [Bool.or_eq_true, not_or, Bool.not_eq_true', Bool.not_eq_false, decide_eq_true_eq,
      not_not] at ready
    rcases Option.map_eq_some_iff.mp called with ⟨runtimes, reads, answer⟩
    cases answer
    refine ⟨runtimes, rfl, ready.1, ready.2, reads, ?_, ?_⟩
    · rw [foldl_reportBackend]
    · rw [foldl_reportBackend, zero_add]
      exact ite_eq_right_iff.mpr fun none => (neg_eq_zero.mpr none).symm

/-! ## Encoder counts -/

def encoderCount (frame : MotorActualFrame F) (motor : RuntimeMotor F) : Int :=
  (frame.actuals motor.globalIndex).encoderCount.toInt

end RmdCanSdk
