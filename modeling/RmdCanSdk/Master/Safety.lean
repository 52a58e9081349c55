import RmdCanSdk.Master.Lifecycle

/-!
# Start and stop keep to the rules

What a backend holds while it starts, runs and stops, and that every call it makes is allowed.
-/

namespace RmdCanSdk.Master

open Program (Safe Method)

variable {F : Type}

/-! ## What a backend holds -/

namespace MasterRuntime

/-- The open lock file, under one of its paths. -/
def lockFiles (rt : MasterRuntime F) (path : String) : List OpenFile :=
  (rt.masterLock.fd.map fun fd => ⟨fd, path, true⟩).toList

def deviceFiles (rt : MasterRuntime F) : List OpenFile :=
  (rt.masterFd.map fun fd => ⟨fd, devicePath rt.masterOrder, false⟩).toList

def held (rt : MasterRuntime F) : List (Nat × Int) :=
  (rt.master.map fun master => (master, rt.masterOrder)).toList

/-- Nothing is held. -/
structure Released (rt : MasterRuntime F) : Prop where
  master : rt.master = none
  masterFd : rt.masterFd = none
  lock : rt.masterLock.fd = none
  thread : rt.thread = false
  domains : rt.domains = []

end MasterRuntime

/-- The files of a backend, and nothing but files. -/
structure Shut (rt : MasterRuntime F) (resources : Resources) : Prop where
  files : ∃ path ∈ lockPaths rt.masterOrder,
    resources.files = rt.lockFiles path ++ rt.deviceFiles
  distinct : ∀ fd, rt.masterLock.fd = some fd → rt.masterFd ≠ some fd
  masters : resources.masters = []
  domains : resources.domains = []
  configs : resources.configs = []
  thread : resources.thread = false

/-- What belongs to a backend is what its fields tell. -/
structure Holding (rt : MasterRuntime F) (resources : Resources) : Prop where
  files : ∃ path ∈ lockPaths rt.masterOrder,
    resources.files = rt.lockFiles path ++ rt.deviceFiles
  distinct : ∀ fd, rt.masterLock.fd = some fd → rt.masterFd ≠ some fd
  masters : resources.masters = rt.held
  locked : rt.master.isSome = true → rt.masterLock.fd.isSome = true
  known : ∀ domain ∈ rt.domains, ∃ master, rt.master = some master ∧
    (domain.domain, master) ∈ resources.domains
  domains : ∀ entry ∈ resources.domains, rt.master = some entry.2
  configs : ∀ entry ∈ resources.configs, rt.master = some entry.2
  thread : resources.thread = rt.thread
  mastered : rt.thread = true → rt.master.isSome = true

/-- Nothing belongs to a backend. -/
def Resources.IsNone (resources : Resources) : Prop :=
  resources = { Resources.none with stop := resources.stop }

/-! ## The lock -/

section

variable {resources : Resources}

theorem safe_acquire {lock : ProcessLock} (released : lock.fd = none) (path : String)
    (files : resources.files = []) (masters : resources.masters = []) :
    Safe rules (lock.acquire path) resources fun result after =>
      (result.1 = true → ∃ fd, result.2.fd = some fd ∧
        after = { resources with files := [⟨fd, path, true⟩] }) ∧
      (result.1 = false → result.2.fd = none ∧ after = resources) := by
  rcases resources with ⟨_, _, domains, configs, stop, thread⟩
  cases files
  cases masters
  rw [ProcessLock.acquire, ProcessLock.release, released]
  refine ⟨trivial, fun opened after performed => ?_⟩
  cases opened with
  | error errno =>
      cases performed
      exact ⟨fun acquired => by contradiction, fun _ => ⟨released, rfl⟩⟩
  | ok fd =>
      cases performed
      refine ⟨by simp [rules, allowed, Resources.isOpen], fun granted after performed => ?_⟩
      cases granted with
      | none =>
          simp only [rules, respond] at performed
          split at performed
          · contradiction
          · cases performed
            exact ⟨fun _ => ⟨fd, rfl, by simp [Resources.setLocked]⟩, fun _ => by contradiction⟩
      | some errno =>
          cases performed
          refine ⟨by simp [rules, allowed, Resources.isOpen], fun closed after performed => ?_⟩
          cases performed
          refine ⟨fun acquired => by contradiction, fun _ => ⟨released, ?_⟩⟩
          simp

/-- The lock of a master, at one of its paths. -/
theorem safe_acquireEthercatProcessLock {lock : ProcessLock} (released : lock.fd = none)
    (masterOrder : Int) (files : resources.files = []) (masters : resources.masters = []) :
    Safe rules (acquireEthercatProcessLock masterOrder lock) resources fun result after =>
      (result.1 = true → ∃ fd, result.2.fd = some fd ∧ ∃ path ∈ lockPaths masterOrder,
        after = { resources with files := [⟨fd, path, true⟩] }) ∧
      (result.1 = false → result.2.fd = none ∧ after = resources) := by
  apply Safe.bind
  apply (safe_acquire released (primaryLockPath masterOrder) files masters).mono
  rintro ⟨acquired, first⟩ after ⟨success, failure⟩
  cases acquired with
  | true =>
      rcases success rfl with ⟨fd, isFd, rfl⟩
      exact ⟨fun _ => ⟨fd, isFd, _, List.mem_cons_self, rfl⟩, fun _ => by contradiction⟩
  | false =>
      rcases failure rfl with ⟨isNone, rfl⟩
      dsimp only
      rw [if_neg Bool.false_ne_true]
      split
      · exact ⟨fun _ => by contradiction, fun _ => ⟨isNone, rfl⟩⟩
      · apply (safe_acquire isNone (fallbackLockPath masterOrder) files masters).mono
        rintro ⟨acquired, second⟩ after ⟨success, failure⟩
        refine ⟨fun acquired => ?_, failure⟩
        rcases success acquired with ⟨fd, isFd, rfl⟩
        exact ⟨fd, isFd, _, List.mem_cons_of_mem _ (List.mem_singleton_self _), rfl⟩

end

/-! ## The way out -/

section

variable {rt : MasterRuntime F} {resources : Resources}

theorem safe_releaseMaster (holding : Holding rt resources) (ended : rt.thread = false) :
    Safe rules (releaseMaster rt) resources fun result after =>
      result = { rt with master := none } ∧ Shut result after := by
  have thread := holding.thread.trans ended
  rw [releaseMaster]
  split
  next noMaster =>
    have same : rt = { rt with master := none } := by rw [← noMaster]
    have noDomains : resources.domains = [] := by
      refine List.eq_nil_iff_forall_not_mem.mpr fun entry member => ?_
      exact Option.some_ne_none _ ((holding.domains entry member).symm.trans noMaster)
    have noConfigs : resources.configs = [] := by
      refine List.eq_nil_iff_forall_not_mem.mpr fun entry member => ?_
      exact Option.some_ne_none _ ((holding.configs entry member).symm.trans noMaster)
    have masters : resources.masters = [] := by
      rw [holding.masters, MasterRuntime.held, noMaster]
      rfl
    exact ⟨same, holding.files, holding.distinct, masters, noDomains, noConfigs, thread⟩
  next master isMaster =>
    have held : resources.masters = [(master, rt.masterOrder)] := by
      rw [holding.masters, MasterRuntime.held, isMaster]
      rfl
    have owned : ∀ entry : Nat × Nat, rt.master = some entry.2 → entry.2 = master :=
      fun entry same => Option.some.inj (same.symm.trans isMaster)
    refine ⟨⟨by simp [Resources.holds, held], thread⟩, fun _ after released => ?_⟩
    cases released
    refine ⟨rfl, holding.files, holding.distinct, ?_, ?_, ?_, thread⟩
    · simp [Resources.release, held]
    · refine List.filter_eq_nil_iff.mpr fun entry member => ?_
      simp [owned entry (holding.domains entry member)]
    · refine List.filter_eq_nil_iff.mpr fun entry member => ?_
      simp [owned entry (holding.configs entry member)]

theorem safe_closeMasterFd (shut : Shut rt resources) :
    Safe rules (closeMasterFd rt) resources fun result after =>
      result = { rt with masterFd := none } ∧ Shut result after := by
  rw [closeMasterFd]
  split
  next noFd =>
    have same : rt = { rt with masterFd := none } := by rw [← noFd]
    exact ⟨same, shut⟩
  next fd isFd =>
    rcases shut.files with ⟨path, isPath, files⟩
    have device : rt.deviceFiles = [⟨fd, devicePath rt.masterOrder, false⟩] := by
      rw [MasterRuntime.deviceFiles, isFd]
      rfl
    refine ⟨⟨by simp [Resources.isOpen, files, device], shut.masters⟩, fun _ after closed => ?_⟩
    cases closed
    refine ⟨rfl, ⟨path, isPath, ?_⟩, fun _ _ => Option.some_ne_none _ ∘ Eq.symm, shut.masters, shut.domains,
      shut.configs, shut.thread⟩
    have others : ∀ file ∈ rt.lockFiles path, file.fd ≠ fd := by
      intro file member
      simp only [MasterRuntime.lockFiles, Option.mem_toList, Option.map_eq_some_iff] at member
      rcases member with ⟨lockFd, isLock, rfl⟩
      rintro rfl
      exact shut.distinct _ isLock isFd
    dsimp only
    rw [files, device, List.filter_append, List.filter_eq_self.mpr]
    · simp [MasterRuntime.lockFiles, MasterRuntime.deviceFiles]
    · intro file member
      exact decide_eq_true (others file member)

theorem safe_releaseLock (shut : Shut rt resources) (closed : rt.masterFd = none) :
    Safe rules (releaseLock rt) resources fun result after =>
      result = { rt with masterLock := { rt.masterLock with fd := none } } ∧
        after.IsNone := by
  rcases resources with ⟨files, masters, domains, configs, stop, thread⟩
  rcases shut with ⟨⟨path, -, isFiles⟩, -, noMasters, noDomains, noConfigs, noThread⟩
  cases noMasters
  cases noDomains
  cases noConfigs
  cases noThread
  have device : rt.deviceFiles = [] := by
    rw [MasterRuntime.deviceFiles, closed]
    rfl
  rw [device, List.append_nil] at isFiles
  rw [releaseLock, ProcessLock.release]
  cases isFd : rt.masterLock.fd with
  | none =>
      have noFiles : files = [] := by
        rw [MasterRuntime.lockFiles, isFd] at isFiles
        exact isFiles
      cases noFiles
      have same : rt.masterLock = { rt.masterLock with fd := none } := by rw [← isFd]
      exact ⟨congrArg (fun lock => { rt with masterLock := lock }) same, rfl⟩
  | some fd =>
      have lockFile : files = [⟨fd, path, true⟩] := by
        rw [MasterRuntime.lockFiles, isFd] at isFiles
        exact isFiles
      cases lockFile
      refine ⟨⟨by simp [Resources.isOpen], rfl⟩, fun _ after unlocked => ?_⟩
      cases unlocked
      refine ⟨⟨by simp [Resources.isOpen, Resources.setLocked], rfl⟩, fun _ after closed => ?_⟩
      cases closed
      exact ⟨rfl, by simp [Resources.setLocked, Resources.IsNone, Resources.none]⟩

/-- Without anything in its fields, nothing belongs to a backend. -/
theorem holding_released (released : rt.Released) (none : resources.IsNone) :
    Holding rt resources where
  files := ⟨_, List.mem_cons_self, by
    rw [none, MasterRuntime.lockFiles, released.lock, MasterRuntime.deviceFiles,
      released.masterFd]
    rfl⟩
  distinct fd isFd := absurd (released.lock.symm.trans isFd).symm (Option.some_ne_none fd)
  masters := by
    rw [none, MasterRuntime.held, released.master]
    rfl
  locked isSome := by
    rw [released.master] at isSome
    contradiction
  known domain member := by
    rw [released.domains] at member
    contradiction
  domains entry member := by
    rw [none] at member
    contradiction
  configs entry member := by
    rw [none] at member
    contradiction
  thread := by
    rw [none, released.thread]
    rfl
  mastered isRunning := by
    rw [released.thread] at isRunning
    contradiction

/-- `failStart` leaves nothing behind. -/
theorem safe_failStart (holding : Holding rt resources) (ended : rt.thread = false) :
    Safe rules (failStart rt) resources fun result after =>
      result.Released ∧ result.running = false ∧ after.IsNone := by
  have faulted : Holding
      { rt with running := false, status := rt.status.setFault ErrorCodeBackendFault }
      resources := { holding with }
  apply Safe.bind
  apply (safe_releaseMaster faulted ended).mono
  rintro _ after ⟨rfl, shut⟩
  apply Safe.bind
  apply (safe_closeMasterFd shut).mono
  rintro _ after ⟨rfl, shut⟩
  apply Safe.bind
  apply (safe_releaseLock shut rfl).mono
  rintro _ after ⟨rfl, none⟩
  exact ⟨⟨rfl, rfl, rfl, ended, rfl⟩, rfl, none⟩

theorem Holding.isOpen (holding : Holding rt resources) {fd : Nat} (isFd : rt.masterFd = some fd) :
    resources.isOpen fd = true := by
  rcases holding.files with ⟨path, -, files⟩
  rw [Resources.isOpen, files, MasterRuntime.deviceFiles, isFd, List.any_append,
    Bool.or_eq_true]
  exact .inr (by simp)

theorem Holding.holds (holding : Holding rt resources) {master : Nat}
    (isMaster : rt.master = some master) : resources.holds master = true := by
  rw [Resources.holds, holding.masters, MasterRuntime.held, isMaster]
  simp

end

/-! ## Calls that change nothing -/

/-- All calls are allowed, and leave what belongs to the backend as it is. -/
def Quiet {α : Type} (program : Program Call Response α) (resources : Resources) : Prop :=
  Safe rules program resources fun _ after => after = resources

section

variable {α β : Type} {resources : Resources} {program : Program Call Response α}

theorem quiet_ask {call : Call} (isAllowed : allowed resources call)
    (same : ∀ response, respond resources call response = some resources) :
    Quiet (ask call) resources := by
  refine ⟨isAllowed, fun response after performed => ?_⟩
  exact (Option.some.inj ((same response).symm.trans performed)).symm

theorem Quiet.bind {next : α → Program Call Response β} (quiet : Quiet program resources)
    (continues : ∀ value, Quiet (next value) resources) : Quiet (program >>= next) resources := by
  apply Safe.bind
  apply quiet.mono
  rintro value after rfl
  exact continues value

theorem quiet_pure (value : α) : Quiet (pure value) resources := rfl

theorem Quiet.when {program : Program Call Response Unit} (quiet : Quiet program resources)
    (condition : Bool) : Quiet (Program.when condition program) resources := by
  cases condition with
  | true => exact quiet
  | false => exact rfl

theorem quiet_sleepFor (nanoseconds : Int) : Quiet (ask (.sleepFor nanoseconds)) resources :=
  quiet_ask trivial fun _ => rfl

section

variable {masterFd : Nat} (isOpen : resources.isOpen masterFd = true)

include isOpen

theorem quiet_requestSlaveState (slave : Int) (state : Nat) :
    Quiet (ask (.requestSlaveState masterFd slave state)) resources :=
  quiet_ask isOpen fun _ => rfl

theorem quiet_requestUntilDone (slave : Int) (state attempts : Nat) :
    Quiet (requestUntilDone masterFd slave state attempts) resources := by
  induction attempts with
  | zero => exact trivial
  | succ attempts ih =>
      refine (quiet_requestSlaveState isOpen slave state).bind fun done => ?_
      cases done with
      | true => exact quiet_pure ()
      | false => exact (quiet_sleepFor _).bind fun _ => ih

omit isOpen in
theorem quiet_requestEach {request : Int → Program Call Response Unit}
    (quiet : ∀ slave, Quiet (request slave) resources) (slaves : List Int) :
    Quiet (requestEach request slaves) resources := by
  induction slaves with
  | nil => exact quiet_pure ()
  | cons slave rest ih => exact (quiet slave).bind fun _ => ih

theorem quiet_requestSlaveStateBestEffort (slave : Int) (state attempts : Nat) :
    Quiet (requestSlaveStateBestEffort masterFd slave state attempts) resources := by
  induction attempts with
  | zero => exact quiet_pure ()
  | succ attempts ih =>
      refine (quiet_requestSlaveState isOpen slave state).bind fun done => ?_
      cases done with
      | true => exact quiet_pure ()
      | false => exact ((quiet_sleepFor _).when _).bind fun _ => ih

theorem quiet_requestSlaveRangeStateBestEffort (slaveCount state : Nat) :
    Quiet (requestSlaveRangeStateBestEffort masterFd slaveCount state) resources :=
  quiet_requestEach (fun slave => quiet_requestSlaveStateBestEffort isOpen slave state 3) _

theorem quiet_requestSlaveRangeState (attempts slaveCount state : Nat) :
    Quiet (requestSlaveRangeState attempts masterFd slaveCount state) resources :=
  quiet_requestEach (fun slave => quiet_requestUntilDone isOpen slave state attempts) _

omit isOpen in
theorem quiet_waitForAlStatesClear {master : Option Nat}
    (held : ∀ handle, master = some handle → resources.holds handle = true)
    (mask attempts : Nat) : Quiet (waitForAlStatesClear master mask attempts) resources := by
  have clear : Quiet (alStatesClear master mask) resources := by
    cases master with
    | none => exact quiet_pure false
    | some handle =>
        refine Quiet.bind (quiet_ask (held handle rfl) fun _ => rfl) fun alStates => ?_
        cases alStates with
        | none => exact quiet_pure false
        | some alStates => exact quiet_pure _
  induction attempts with
  | zero => exact trivial
  | succ attempts ih =>
      refine Quiet.bind (quiet_ask trivial fun _ => rfl) fun inTime => ?_
      cases inTime with
      | false => exact quiet_pure ()
      | true =>
          refine clear.bind fun isClear => ?_
          cases isClear with
          | true => exact quiet_pure ()
          | false => exact (quiet_sleepFor _).bind fun _ => ih

theorem quiet_stepDown {master : Option Nat}
    (held : ∀ handle, master = some handle → resources.holds handle = true)
    (attempts slaveCount : Nat) :
    Quiet (stepDown attempts masterFd slaveCount master) resources :=
  (quiet_requestSlaveRangeStateBestEffort isOpen slaveCount 0x04).bind fun _ =>
    (quiet_waitForAlStatesClear held 0x08 attempts).bind fun _ =>
      (quiet_requestSlaveRangeStateBestEffort isOpen slaveCount 0x02).bind fun _ =>
        quiet_waitForAlStatesClear held 0x0c attempts

end

end

/-! ## Stop -/

section

variable {rt : MasterRuntime F} {resources : Resources}

theorem quiet_stepDownSlaves (holding : Holding rt resources) (settings : Settings) :
    Quiet (stepDownSlaves settings rt) resources := by
  rw [stepDownSlaves]
  split
  · exact quiet_pure ()
  next masterFd isFd =>
    split
    · exact quiet_stepDown (holding.isOpen isFd) (fun _ => holding.holds) _ _
    · exact quiet_pure ()

theorem quiet_resetSlaves (holding : Holding rt resources) : Quiet (resetSlaves rt) resources := by
  rw [resetSlaves]
  split
  · exact quiet_pure ()
  next masterFd isFd =>
    have isOpen := holding.isOpen isFd
    split
    · refine (quiet_requestSlaveRangeStateBestEffort isOpen _ _).bind fun _ => ?_
      refine (quiet_sleepFor _).bind fun _ => ?_
      exact (quiet_requestSlaveRangeStateBestEffort isOpen _ _).bind fun _ => quiet_sleepFor _
    · exact quiet_pure ()

theorem safe_joinThread (holding : Holding rt resources) :
    Safe rules (joinThread rt) resources fun result after =>
      result = { rt with thread := false } ∧ Holding result after := by
  refine ⟨trivial, fun _ after stored => ?_⟩
  cases stored
  dsimp only
  cases isRunning : rt.thread with
  | true =>
      refine ⟨⟨holding.thread.trans isRunning, rfl⟩, fun _ after joined => ?_⟩
      cases joined
      refine ⟨rfl, { holding with thread := rfl, mastered := fun isRunning => ?_ }⟩
      contradiction
  | false =>
      have same : rt = { rt with thread := false } := by rw [← isRunning]
      exact ⟨same, { holding with }⟩

/-- `stop` leaves nothing behind, whatever there is. -/
theorem safe_stop (holding : Holding rt resources) (settings : Settings) :
    Safe rules (stop settings rt) resources fun result after =>
      result.Released ∧ result.running = false ∧ after.IsNone := by
  apply Safe.bind
  apply ((quiet_stepDownSlaves holding settings).when _).mono
  rintro _ after rfl
  apply Safe.bind
  apply (safe_joinThread holding).mono
  rintro _ after ⟨rfl, holding⟩
  apply Safe.bind
  apply ((quiet_resetSlaves holding).when _).mono
  rintro _ after rfl
  apply Safe.bind
  apply (safe_releaseMaster holding rfl).mono
  rintro _ after ⟨rfl, shut⟩
  apply Safe.bind
  apply (safe_closeMasterFd shut).mono
  rintro _ after ⟨rfl, shut⟩
  apply Safe.bind
  apply (safe_releaseLock shut rfl).mono
  rintro _ after ⟨rfl, none⟩
  exact ⟨⟨rfl, rfl, rfl, rfl, rfl⟩, rfl, none⟩

end

end RmdCanSdk.Master
