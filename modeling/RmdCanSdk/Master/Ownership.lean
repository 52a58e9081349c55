import RmdCanSdk.Master.Start

/-!
# The owners of EtherCAT masters

Any number of backends, of one process or of several, start and stop in any interleaving of
their calls, and are destroyed at any time. None of them ever breaks the rules of what it
calls, none leaves anything behind, and a master has one owner for each path of its lock.
-/

namespace RmdCanSdk.Master

open Program (Safe System Process)

variable {F : Type}

/-- Where a backend stands between two calls: not started, or stopped, or its start failed; or
started; or its start has thrown. -/
inductive Stage where
  | idle
  | started
  | thrown
  deriving DecidableEq

structure Backend (F : Type) where
  stage : Stage
  runtime : MasterRuntime F

/-- A backend is started with the arguments of its constructor, and stopped. -/
inductive Operation (F : Type) where
  | start (settings : Settings) (registry : MotorRegistry F) (backendIndex : Nat)
      (operatingModes : List Int)
  | stop (settings : Settings)

def stageOf : Except Exit Unit → Stage
  | .ok _ => .started
  | .error .failed => .idle
  | .error (.thrown _) => .thrown

/-- Only a backend that is not started is started. -/
def operate (operation : Operation F) (backend : Backend F) :
    Option (Program Call Response (Backend F)) :=
  match operation with
  | .start settings registry backendIndex operatingModes =>
      if backend.stage = .idle then
        some do
          let (result, runtime) ← start settings registry backendIndex operatingModes
            backend.runtime
          return ⟨stageOf result, runtime⟩
      else none
  | .stop settings => some do return ⟨.idle, ← stop settings backend.runtime⟩

def backends (F : Type) : System Call Response (Backend F) Resources (Operation F) where
  rules := rules
  fresh := ⟨.idle, .fresh F⟩
  start := .none
  operate := operate

/-! ## Between operations -/

/-- What belongs to a backend between two calls. -/
def Settled (backend : Backend F) (resources : Resources) : Prop :=
  match backend.stage with
  | .idle => backend.runtime.Released ∧ backend.runtime.running = false ∧ resources.IsNone
  | .started => Running backend.runtime resources
  | .thrown => Holding backend.runtime resources ∧
      backend.runtime.running = backend.runtime.thread

theorem Settled.holding {backend : Backend F} {resources : Resources}
    (settled : Settled backend resources) : Holding backend.runtime resources := by
  rcases backend with ⟨stage, runtime⟩
  cases stage with
  | idle => exact holding_released settled.1 settled.2.2
  | started => exact Running.holding settled
  | thrown => exact And.left settled

/-! ## At any time -/

/-- A master is held under its lock, and the thread runs on a master. -/
structure Consistent (resources : Resources) : Prop where
  locked : ∀ held ∈ resources.masters, ∃ path ∈ lockPaths held.2, resources.locks path = true
  mastered : resources.thread = true → resources.masters ≠ []

/-- Changed files in which every lock is still there. -/
theorem Consistent.files {resources : Resources} (consistent : Consistent resources)
    {files : List OpenFile} (kept : ∀ file ∈ resources.files, file.locked = true →
      files.any (fun other => other.locked && other.path = file.path) = true) :
    Consistent { resources with files := files } where
  locked held member := by
    rcases consistent.locked held member with ⟨path, isPath, locks⟩
    rcases List.any_eq_true.mp locks with ⟨file, isFile, isLocked⟩
    rw [Bool.and_eq_true, decide_eq_true_iff] at isLocked
    exact ⟨path, isPath, isLocked.2 ▸ kept file isFile isLocked.1⟩
  mastered := consistent.mastered

/-- Without masters there is nothing to lock. -/
theorem consistent_noMasters {resources : Resources} (consistent : Consistent resources)
    (noMasters : resources.masters = []) (files : List OpenFile) :
    Consistent { resources with files := files } where
  locked held member := by
    rw [noMasters] at member
    contradiction
  mastered := consistent.mastered

theorem consistent_respond {resources after : Resources} {call : Call} {response : Response call}
    (isAllowed : allowed resources call) (performed : respond resources call response = some after)
    (consistent : Consistent resources) : Consistent after := by
  cases call with
  | openFile path =>
      rcases respond_openFile performed with ⟨files, rfl, -⟩
      apply consistent.files
      intro file member isLocked
      rw [List.any_append, Bool.or_eq_true]
      exact .inl (List.any_eq_true.mpr ⟨file, member, by simp [isLocked]⟩)
  | lockFile fd =>
      rcases respond_lockFile performed with rfl | ⟨-, rfl⟩
      · exact consistent
      · apply consistent.files
        intro file member isLocked
        rw [List.any_map, List.any_eq_true]
        refine ⟨file, member, ?_⟩
        by_cases same : file.fd = fd <;> simp [same, isLocked]
  | unlockFile fd =>
      cases performed
      exact consistent_noMasters consistent isAllowed.2 _
  | closeFile fd =>
      cases performed
      exact consistent_noMasters consistent isAllowed.2 _
  | requestMaster order =>
      rcases respond_requestMaster performed with ⟨masters, rfl, isOrder⟩
      refine ⟨?_, fun thread => List.append_ne_nil_of_left_ne_nil (consistent.mastered thread) _⟩
      dsimp only
      rw [List.forall_mem_append]
      refine ⟨consistent.locked, fun held member => ?_⟩
      rw [isOrder held member]
      exact isAllowed
  | releaseMaster master =>
      cases performed
      refine ⟨fun held member => consistent.locked held (List.mem_of_mem_filter member), ?_⟩
      intro thread
      exact absurd (isAllowed.2.symm.trans thread) Bool.false_ne_true
  | createDomain master =>
      rcases respond_createDomain performed with ⟨domains, rfl⟩
      exact ⟨consistent.locked, consistent.mastered⟩
  | slaveConfig master slave vendorId productCode =>
      rcases respond_slaveConfig performed with ⟨configs, rfl, -⟩
      exact ⟨consistent.locked, consistent.mastered⟩
  | storeStop stop =>
      cases performed
      exact ⟨consistent.locked, consistent.mastered⟩
  | createThread =>
      cases performed
      exact ⟨consistent.locked, fun _ => isAllowed.2.2⟩
  | joinThread =>
      cases performed
      exact ⟨consistent.locked, fun thread => by contradiction⟩
  | _ =>
      cases performed
      exact consistent

/-- What the operations of a backend keep. -/
theorem backends_keep : (backends F).Keeps Settled Consistent where
  fresh := ⟨⟨rfl, rfl, rfl, rfl, rfl⟩, rfl, rfl⟩
  start := ⟨List.forall_mem_nil _, fun thread => by contradiction⟩
  safe := by
    rintro operation ⟨stage, runtime⟩ program resources operated settled -
    cases operation with
    | start settings registry backendIndex operatingModes =>
        cases stage with
        | idle =>
            cases operated
            apply Safe.bind
            apply (safe_start settled.1 settled.2.1 settled.2.2 settings registry backendIndex
              operatingModes).mono
            rintro ⟨result, runtime⟩ after ends
            match result with
            | .ok _ => exact ends
            | .error .failed => exact ends
            | .error (.thrown message) => exact ends
        | started => contradiction
        | thrown => contradiction
    | stop settings =>
        cases operated
        apply Safe.bind
        apply (safe_stop settled.holding settings).mono
        exact fun _ _ released => released
  always := consistent_respond

/-! ## Exclusion -/

/-- Two backends have locked no file both. -/
def Exclusive (resources other : Resources) : Prop :=
  ∀ path, resources.locks path = true → other.locks path = false

/-- A call takes at most a lock that is granted. -/
theorem locks_respond {resources after : Resources} {call : Call} {response : Response call}
    (performed : respond resources call response = some after) {other : Resources}
    (admitted : admits resources other call response = true) {path : String}
    (locks : after.locks path = true) :
    resources.locks path = true ∨ other.locks path = false := by
  rcases List.any_eq_true.mp locks with ⟨file, isFile, isLocked⟩
  rw [Bool.and_eq_true, decide_eq_true_iff] at isLocked
  have before : ∀ old ∈ resources.files, old.locked = true → old.path = path →
      resources.locks path = true := by
    intro old member oldLocked samePath
    exact List.any_eq_true.mpr ⟨old, member, by simp [oldLocked, samePath]⟩
  have same : file ∈ resources.files → resources.locks path = true :=
    fun member => before file member isLocked.1 isLocked.2
  cases call with
  | openFile path =>
      rcases respond_openFile performed with ⟨files, rfl, unlocked⟩
      rcases List.mem_append.mp isFile with old | new
      · exact .inl (same old)
      · exact absurd ((unlocked file new).symm.trans isLocked.1) Bool.false_ne_true
  | lockFile fd =>
      rcases respond_lockFile performed with rfl | ⟨rfl, rfl⟩
      · exact .inl (same isFile)
      · rcases List.mem_map.mp isFile with ⟨old, member, rfl⟩
        by_cases isFd : old.fd = fd
        · rw [if_pos isFd] at isLocked
          have free : resources.conflicts other fd = false := by
            rwa [admits, Bool.not_eq_true'] at admitted
          have noConflict := List.any_eq_false.mp free old member
          rw [decide_eq_true isFd, Bool.true_and, Bool.not_eq_true] at noConflict
          exact .inr (isLocked.2 ▸ noConflict)
        · rw [if_neg isFd] at isLocked
          exact .inl (before old member isLocked.1 isLocked.2)
  | unlockFile fd =>
      cases performed
      rcases List.mem_map.mp isFile with ⟨old, member, rfl⟩
      by_cases isFd : old.fd = fd
      · rw [if_pos isFd] at isLocked
        exact absurd isLocked.1 Bool.false_ne_true
      · rw [if_neg isFd] at isLocked
        exact .inl (before old member isLocked.1 isLocked.2)
  | closeFile fd =>
      cases performed
      exact .inl (same (List.mem_of_mem_filter isFile))
  | requestMaster order =>
      rcases respond_requestMaster performed with ⟨masters, rfl, -⟩
      exact .inl (same isFile)
  | createDomain master =>
      rcases respond_createDomain performed with ⟨domains, rfl⟩
      exact .inl (same isFile)
  | slaveConfig master slave vendorId productCode =>
      rcases respond_slaveConfig performed with ⟨configs, rfl, -⟩
      exact .inl (same isFile)
  | _ =>
      cases performed
      exact .inl (same isFile)

theorem exclusive_related : (backends F).Relates Consistent Exclusive where
  symmetric := by
    intro resources other exclusive path locks
    rw [Bool.eq_false_iff]
    intro locked
    rw [exclusive path locked] at locks
    contradiction
  start := by
    intro other path locks
    contradiction
  keeps := by
    intro resources other call response after _ _ admitted performed exclusive path locks
    rcases locks_respond performed admitted locks with before | free
    · exact exclusive path before
    · exact free

theorem Exclusive.not_both {resources other : Resources} (exclusive : Exclusive resources other)
    {path : String} (locks : resources.locks path = true) :
    ¬ other.locks path = true := by
  rw [exclusive path locks]
  exact Bool.false_ne_true

/-- One of the files of a master is locked. -/
def LocksMaster (masterOrder : Int) (resources : Resources) : Prop :=
  resources.locks (primaryLockPath masterOrder) = true ∨
    resources.locks (fallbackLockPath masterOrder) = true

theorem Consistent.locksMaster {resources : Resources} (consistent : Consistent resources)
    {master : Nat} {masterOrder : Int} (held : (master, masterOrder) ∈ resources.masters) :
    LocksMaster masterOrder resources := by
  rcases consistent.locked _ held with ⟨path, isPath, locks⟩
  rcases List.mem_pair.mp isPath with rfl | rfl
  · exact .inl locks
  · exact .inr locks

/-- Two backends with locks of one master have locked different files. -/
theorem Exclusive.apart {resources other : Resources} (exclusive : Exclusive resources other)
    {masterOrder : Int} (locks : LocksMaster masterOrder resources)
    (otherLocks : LocksMaster masterOrder other) :
    (resources.locks (primaryLockPath masterOrder) = true ∧
        other.locks (fallbackLockPath masterOrder) = true) ∨
      (resources.locks (fallbackLockPath masterOrder) = true ∧
        other.locks (primaryLockPath masterOrder) = true) := by
  rcases locks with first | first
  · rcases otherLocks with second | second
    · exact absurd second (exclusive.not_both first)
    · exact .inl ⟨first, second⟩
  · rcases otherLocks with second | second
    · exact .inr ⟨first, second⟩
    · exact absurd second (exclusive.not_both first)

/-! ## Results -/

/-- Responses of an environment in which everything succeeds but, perhaps, opening files. -/
def granting (opened : Except Errno Nat) : (call : Call) → Response call
  | .openFile _ => opened
  | .lockFile _ => none
  | .requestMaster _ | .createDomain _ | .slaveConfig .. => some (1 : Nat)
  | .masterInfo _ | .masterState _ => some (1 : Nat)
  | .regPdoEntry .. => (0 : Int)
  | .domainSize _ => (0 : Nat)
  | .sdoDownload .. | .selectReferenceClock .. | .slaveConfigPdos .. | .activate _
  | .domainData _ | .requestSlaveState .. | .beforeDeadline | .waitForStartupReady => true
  | .unlockFile _ | .closeFile _ | .releaseMaster _ | .slaveConfigDc .. | .applicationTime _
  | .lockMemory | .storeStop _ | .createThread | .joinThread | .sleepFor _ => ()

/-- In every interleaving of any number of backends, with any responses, each call that a
backend is about to make is allowed, a backend that holds a master has the lock of the master,
and the realtime thread runs only while there is a master. -/
theorem calls_allowed (count : Nat)
    (schedule : List (Program.Event Call Response (Operation F)))
    (processes : List (Process Call Response (Backend F) Resources))
    (ran : Transition.run (backends F).step ((backends F).boot count) schedule = some processes) :
    ∀ process ∈ processes, Consistent process.state ∧
      ∀ call next, process.pending = some (.ask call next) → allowed process.state call := by
  intro process member
  have sound := backends_keep.sound_run ran process member
  exact ⟨sound.always, fun call next pending => sound.allowed pending⟩

/-- The settings of a backend without environment variables and distributed clocks. -/
def plainSettings : Settings where
  periodNs := 1000000
  ethercatDc := false
  ethercatDomainDivisions := []
  disableDc := 0
  forceManualPdoRemap := 0
  realtimeLockMemory := 1
  attempts := 1

/-- A registry with a backend that has no motors. -/
def oneBackend : MotorRegistry ℚ where
  motors := []
  backends := [⟨.ethercat, 0, []⟩]
  totalMotorCount := 0

/-- Start the backend of a process up to its request of a master. -/
def requestingMaster (process : Nat) (opened : List (Except Errno Nat)) :
    List (Program.Event Call Response (Operation ℚ)) :=
  .begin process (.start plainSettings oneBackend 0 []) ::
    opened.map (fun result => .proceed process (granting result)) ++
      [.proceed process (granting (.error EACCES)), .proceed process (granting (.error EACCES))]

theorem calls_allowed_granted :
    ∃ processes, Transition.run (backends ℚ).step ((backends ℚ).boot 2)
        (requestingMaster 0 [.ok 3]) = some processes ∧
      ∀ process ∈ processes, Consistent process.state ∧
        ∀ call next, process.pending = some (.ask call next) → allowed process.state call :=
  ⟨_, rfl, calls_allowed 2 (requestingMaster 0 [.ok 3]) _ rfl⟩

/-- A backend that is not started, was stopped or failed to start holds nothing at all, and one
that is started has its realtime thread, its master and the lock. Nothing is said of a start
that has thrown. -/
theorem between_calls (count : Nat)
    (schedule : List (Program.Event Call Response (Operation F)))
    (processes : List (Process Call Response (Backend F) Resources))
    (ran : Transition.run (backends F).step ((backends F).boot count) schedule = some processes) :
    ∀ process ∈ processes, process.pending = none →
      (process.object.stage = .idle → process.object.runtime.running = false ∧
        process.state = { Resources.none with stop := process.state.stop }) ∧
      (process.object.stage = .started → process.object.runtime.running = true ∧
        process.state.thread = true ∧ ∃ master, process.state.masters =
          [(master, process.object.runtime.masterOrder)] ∧
        ∃ path ∈ lockPaths process.object.runtime.masterOrder,
          process.state.locks path = true) := by
  intro process member noCall
  have sound := backends_keep.sound_run ran process member
  have settled := sound.idle noCall
  rcases process with ⟨⟨stage, runtime⟩, resources, pending⟩
  constructor
  · rintro rfl
    exact settled.2
  · rintro rfl
    have running : Running runtime resources := settled
    have thread := running.holding.thread.trans running.hasThread
    rcases Option.isSome_iff_exists.mp (running.holding.mastered running.hasThread) with
      ⟨master, isMaster⟩
    have masters : resources.masters = [(master, runtime.masterOrder)] := by
      rw [running.holding.masters, MasterRuntime.held, isMaster]
      rfl
    refine ⟨running.isRunning, thread, master, masters, ?_⟩
    apply sound.always.locked (master, runtime.masterOrder)
    dsimp only
    rw [masters]
    exact List.mem_singleton_self _

/-- Start the first backend, in an environment in which everything succeeds. -/
def startingFirst : List (Program.Event Call Response (Operation ℚ)) :=
  [.begin 0 (.start plainSettings oneBackend 0 [])] ++
    List.replicate 3 (.proceed 0 (granting (.ok 3))) ++
    List.replicate 9 (.proceed 0 (granting (.ok 4))) ++ [.finish 0]

theorem between_calls_started :
    ∃ processes process, Transition.run (backends ℚ).step ((backends ℚ).boot 1) startingFirst =
        some processes ∧
      processes[0]? = some process ∧ process.object.stage = .started ∧
      (process.object.runtime.running = true ∧ process.state.thread = true ∧
        ∃ master, process.state.masters = [(master, process.object.runtime.masterOrder)] ∧
          ∃ path ∈ lockPaths process.object.runtime.masterOrder,
            process.state.locks path = true) :=
  ⟨_, _, rfl, rfl, rfl, (between_calls 1 startingFirst _ rfl _ List.mem_cons_self rfl).2 rfl⟩

/-- Two backends hold a master of the same number at one time only if one has its lock at the
one path and the other at the other path. So there are never three of them. -/
theorem master_owners (count : Nat)
    (schedule : List (Program.Event Call Response (Operation F)))
    (processes : List (Process Call Response (Backend F) Resources))
    (ran : Transition.run (backends F).step ((backends F).boot count) schedule = some processes)
    (masterOrder : Int) (i j : Nat) (process other : Process Call Response (Backend F) Resources)
    (apart : i ≠ j) (isProcess : processes[i]? = some process) (isOther : processes[j]? = some other)
    (holds : ∃ master, (master, masterOrder) ∈ process.state.masters)
    (otherHolds : ∃ master, (master, masterOrder) ∈ other.state.masters) :
    ((process.state.locks (primaryLockPath masterOrder) = true ∧
        other.state.locks (fallbackLockPath masterOrder) = true) ∨
      (process.state.locks (fallbackLockPath masterOrder) = true ∧
        other.state.locks (primaryLockPath masterOrder) = true)) ∧
      ∀ (k : Nat) (third : Process Call Response (Backend F) Resources),
        k ≠ i → k ≠ j → processes[k]? = some third →
          ∀ master, (master, masterOrder) ∉ third.state.masters := by
  have sound := backends_keep.sound_run ran
  have exclusive := exclusive_related.run backends_keep ran
  have consistent : ∀ {index : Nat} {owner : Process Call Response (Backend F) Resources},
      processes[index]? = some owner → Consistent owner.state :=
    fun isOwner => (sound _ (List.mem_of_getElem? isOwner)).always
  rcases holds with ⟨master, held⟩
  rcases otherHolds with ⟨otherMaster, otherHeld⟩
  have first := (consistent isProcess).locksMaster held
  have second := (consistent isOther).locksMaster otherHeld
  have between := (exclusive i j process other apart isProcess isOther).apart first second
  refine ⟨between, ?_⟩
  intro k third notFirst notSecond isThird thirdMaster thirdHeld
  have last := (consistent isThird).locksMaster thirdHeld
  have lastFirst := exclusive k i third process notFirst isThird isProcess
  have lastSecond := exclusive k j third other notSecond isThird isOther
  rcases last with last | last
  · rcases between with ⟨locks, -⟩ | ⟨-, locks⟩
    · exact lastFirst.not_both last locks
    · exact lastSecond.not_both last locks
  · rcases between with ⟨-, locks⟩ | ⟨locks, -⟩
    · exact lastSecond.not_both last locks
    · exact lastFirst.not_both last locks

theorem master_owners_fallback :
    ∃ processes process other, Transition.run (backends ℚ).step ((backends ℚ).boot 2)
        (requestingMaster 0 [.ok 3] ++ requestingMaster 1 [.error EACCES, .ok 3]) =
          some processes ∧
      processes[0]? = some process ∧ processes[1]? = some other ∧
      ((process.state.locks (primaryLockPath 0) = true ∧
          other.state.locks (fallbackLockPath 0) = true) ∨
        (process.state.locks (fallbackLockPath 0) = true ∧
          other.state.locks (primaryLockPath 0) = true)) :=
  ⟨_, _, _, rfl, rfl, rfl, (master_owners 2
    (requestingMaster 0 [.ok 3] ++ requestingMaster 1 [.error EACCES, .ok 3]) _ rfl 0 0 1 _ _
    (by decide) rfl rfl ⟨1, List.mem_singleton_self _⟩ ⟨1, List.mem_singleton_self _⟩).1⟩

end RmdCanSdk.Master
