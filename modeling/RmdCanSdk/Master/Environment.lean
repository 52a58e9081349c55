import RmdCanSdk.Ethercat.MtDevice
import RmdCanSdk.Library.Program

/-!
# What an EtherCAT backend calls

The system calls of a backend and its calls of the EtherCAT master, with what belongs to the
backend in their eyes: open files, some of them locked, masters, and the objects of a master.
A descriptor stands for the open file behind it, and an advisory lock belongs to that file.
-/

namespace RmdCanSdk.Master

abbrev Errno := Int

inductive Call where
  | openFile (path : String)
  /-- Ask for the lock of a file without waiting for it. -/
  | lockFile (fd : Nat)
  | unlockFile (fd : Nat)
  | closeFile (fd : Nat)
  | requestMaster (order : Int)
  | releaseMaster (master : Nat)
  | masterInfo (master : Nat)
  | masterState (master : Nat)
  | createDomain (master : Nat)
  | sdoDownload (master : Nat) (slave : Int) (index : BitVec 16) (subindex : BitVec 8)
      (data : Nat)
  | slaveConfig (master : Nat) (slave : Int) (vendorId productCode : BitVec 32)
  | selectReferenceClock (master config : Nat)
  | slaveConfigPdos (config : Nat) (rx tx : EthercatMtDevicePdoProfileSpec)
  | slaveConfigDc (config : Nat) (sync0Cycle : Int)
  | regPdoEntry (config : Nat) (entry : EthercatPdoEntrySpec) (domain : Nat)
  | applicationTime (master : Nat)
  | activate (master : Nat)
  | lockMemory
  | domainData (domain : Nat)
  | domainSize (domain : Nat)
  | requestSlaveState (masterFd : Nat) (slave : Int) (state : Nat)
  | storeStop (stop : Bool)
  /-- Create the realtime thread, which does not fail here. -/
  | createThread
  | joinThread
  | sleepFor (nanoseconds : Int)
  | beforeDeadline
  | waitForStartupReady

/-- What is returned. A code that only tells success from failure is a Boolean. -/
abbrev Response : Call → Type
  | .openFile _ => Except Errno Nat
  | .lockFile _ => Option Errno
  | .requestMaster _ | .createDomain _ | .slaveConfig .. => Option Nat
  | .masterInfo _ | .masterState _ => Option Nat
  | .regPdoEntry .. => Int
  | .domainSize _ => Nat
  | .sdoDownload .. | .selectReferenceClock .. | .slaveConfigPdos .. | .activate _
  | .domainData _ | .requestSlaveState .. | .beforeDeadline | .waitForStartupReady => Bool
  | _ => Unit

abbrev ask (call : Call) : Program Call Response (Response call) := Program.perform call

/-! ## Resources -/

structure OpenFile where
  fd : Nat
  path : String
  locked : Bool
  deriving DecidableEq

/-- What belongs to a backend. Domains and slave configurations belong to a master. -/
structure Resources where
  files : List OpenFile
  masters : List (Nat × Int)
  domains : List (Nat × Nat)
  configs : List (Nat × Nat)
  stop : Bool
  thread : Bool

namespace Resources

def none : Resources where
  files := []
  masters := []
  domains := []
  configs := []
  stop := true
  thread := false

def isOpen (resources : Resources) (fd : Nat) : Bool :=
  resources.files.any fun file => file.fd = fd

def locks (resources : Resources) (path : String) : Bool :=
  resources.files.any fun file => file.locked && file.path = path

/-- Another open file has the lock of a file. -/
def conflicts (resources other : Resources) (fd : Nat) : Bool :=
  resources.files.any fun file => file.fd = fd && other.locks file.path

def holds (resources : Resources) (master : Nat) : Bool :=
  resources.masters.any fun held => held.1 = master

def setLocked (resources : Resources) (fd : Nat) (locked : Bool) : Resources := {
  resources with
  files := resources.files.map fun file =>
    if file.fd = fd then { file with locked := locked } else file }

/-- The objects of a master go with it. -/
def release (resources : Resources) (master : Nat) : Resources := {
  resources with
  masters := resources.masters.filter fun held => held.1 ≠ master
  domains := resources.domains.filter fun domain => domain.2 ≠ master
  configs := resources.configs.filter fun config => config.2 ≠ master }

end Resources

def primaryLockPath (masterOrder : Int) : String :=
  "/var/lock/rmd_can_sdk_ethercat" ++ toString masterOrder ++ ".lock"

def fallbackLockPath (masterOrder : Int) : String :=
  "/tmp/rmd_can_sdk_ethercat" ++ toString masterOrder ++ ".lock"

/-- The files of which one has to be locked by the owner of a master. -/
def lockPaths (masterOrder : Int) : List String :=
  [primaryLockPath masterOrder, fallbackLockPath masterOrder]

/-! ## Rules -/

/-- The use of a backend's own objects: nothing is used that has not been got, or that has been
given back; a master is requested under its lock, and kept no longer than the lock; the thread
is started once, on a master, and has ended before the master is released. -/
def allowed (resources : Resources) : Call → Prop
  | .openFile _ => True
  | .lockFile fd => resources.isOpen fd = true
  | .unlockFile fd | .closeFile fd => resources.isOpen fd = true ∧ resources.masters = []
  | .requestMaster order => ∃ path ∈ lockPaths order, resources.locks path = true
  | .releaseMaster master => resources.holds master = true ∧ resources.thread = false
  | .masterInfo master | .masterState master | .createDomain master | .sdoDownload master ..
  | .slaveConfig master .. | .applicationTime master | .activate master =>
      resources.holds master = true
  | .selectReferenceClock master config => (config, master) ∈ resources.configs
  | .slaveConfigPdos config .. | .slaveConfigDc config _ =>
      ∃ master, (config, master) ∈ resources.configs
  | .regPdoEntry config _ domain =>
      ∃ master, (config, master) ∈ resources.configs ∧ (domain, master) ∈ resources.domains
  | .domainData domain | .domainSize domain => ∃ master, (domain, master) ∈ resources.domains
  | .requestSlaveState masterFd .. => resources.isOpen masterFd = true
  | .createThread =>
      resources.thread = false ∧ resources.stop = false ∧ resources.masters ≠ []
  | .joinThread => resources.thread = true ∧ resources.stop = true
  | .lockMemory | .storeStop _ | .sleepFor _ | .beforeDeadline | .waitForStartupReady => True

/-- What the calls do. A new object differs from those there are. -/
def respond (resources : Resources) : (call : Call) → Response call → Option Resources
  | .openFile path, .ok fd =>
      if resources.isOpen fd then .none
      else some { resources with files := resources.files ++ [⟨fd, path, false⟩] }
  | .lockFile fd, .none =>
      if resources.conflicts resources fd then .none
      else some (resources.setLocked fd true)
  | .unlockFile fd, _ => some (resources.setLocked fd false)
  | .closeFile fd, _ => some { resources with
      files := resources.files.filter fun file => file.fd ≠ fd }
  | .requestMaster order, some master =>
      if resources.holds master then .none
      else some { resources with masters := resources.masters ++ [(master, order)] }
  | .releaseMaster master, _ => some (resources.release master)
  | .createDomain master, some domain =>
      if resources.domains.any fun known => known.1 = domain then .none
      else some { resources with domains := resources.domains ++ [(domain, master)] }
  | .slaveConfig master .., some config =>
      if (config, master) ∈ resources.configs then some resources
      else if resources.configs.any fun known => known.1 = config then .none
      else some { resources with configs := resources.configs ++ [(config, master)] }
  | .storeStop stop, _ => some { resources with stop := stop }
  | .createThread, _ => some { resources with thread := true }
  | .joinThread, _ => some { resources with thread := false }
  | _, _ => some resources

/-- A lock is granted only if no other open file has it. -/
def admits (resources other : Resources) : (call : Call) → Response call → Bool
  | .lockFile fd, .none => !resources.conflicts other fd
  | _, _ => true

def rules : Program.Rules Call Response Resources where
  allowed := allowed
  perform := respond
  admits := admits

/-! ## What calls change -/

section

variable {resources after : Resources}

/-- Nothing is locked by opening it. -/
theorem respond_openFile {path : String} {response : Except Errno Nat}
    (performed : respond resources (.openFile path) response = some after) :
    ∃ files, after = { resources with files := resources.files ++ files } ∧
      ∀ file ∈ files, file.locked = false := by
  cases response with
  | error errno =>
      cases performed
      exact ⟨[], by rw [List.append_nil], List.forall_mem_nil _⟩
  | ok fd =>
      simp only [respond] at performed
      split at performed
      · contradiction
      · cases performed
        exact ⟨_, rfl, List.forall_mem_singleton.mpr rfl⟩

theorem respond_lockFile {fd : Nat} {response : Option Errno}
    (performed : respond resources (.lockFile fd) response = some after) :
    after = resources ∨ (response = none ∧ after = resources.setLocked fd true) := by
  cases response with
  | some errno =>
      cases performed
      exact .inl rfl
  | none =>
      simp only [respond] at performed
      split at performed
      · contradiction
      · cases performed
        exact .inr ⟨rfl, rfl⟩

theorem respond_requestMaster {order : Int} {response : Option Nat}
    (performed : respond resources (.requestMaster order) response = some after) :
    ∃ masters, after = { resources with masters := resources.masters ++ masters } ∧
      ∀ held ∈ masters, held.2 = order := by
  cases response with
  | none =>
      cases performed
      exact ⟨[], by rw [List.append_nil], List.forall_mem_nil _⟩
  | some master =>
      simp only [respond] at performed
      split at performed
      · contradiction
      · cases performed
        exact ⟨_, rfl, List.forall_mem_singleton.mpr rfl⟩

theorem respond_createDomain {master : Nat} {response : Option Nat}
    (performed : respond resources (.createDomain master) response = some after) :
    ∃ domains, after = { resources with domains := domains } := by
  cases response with
  | none =>
      cases performed
      exact ⟨_, rfl⟩
  | some domain =>
      simp only [respond] at performed
      split at performed
      · contradiction
      · cases performed
        exact ⟨_, rfl⟩

theorem respond_slaveConfig {master : Nat} {slave : Int} {vendorId productCode : BitVec 32}
    {response : Option Nat}
    (performed : respond resources (.slaveConfig master slave vendorId productCode) response =
      some after) :
    ∃ configs, after = { resources with configs := resources.configs ++ configs } ∧
      (∀ known ∈ configs, known.2 = master) ∧
      ∀ config, response = some config → (config, master) ∈ resources.configs ++ configs := by
  cases response with
  | none =>
      cases performed
      refine ⟨[], by rw [List.append_nil], List.forall_mem_nil _, ?_⟩
      intro config isSome
      contradiction
  | some config =>
      simp only [respond] at performed
      split at performed
      next isKnown =>
        cases performed
        refine ⟨[], by rw [List.append_nil], List.forall_mem_nil _, ?_⟩
        rintro config ⟨⟩
        exact List.mem_append_left _ isKnown
      next isNew =>
        split at performed
        · contradiction
        · cases performed
          refine ⟨_, rfl, List.forall_mem_singleton.mpr rfl, ?_⟩
          rintro config ⟨⟩
          exact List.mem_append_right _ (List.mem_singleton_self _)

end

end RmdCanSdk.Master
