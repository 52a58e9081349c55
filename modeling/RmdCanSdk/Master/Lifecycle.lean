import RmdCanSdk.Ethercat.Bindings
import RmdCanSdk.Master.Environment

/-!
# Start and stop of an EtherCAT backend

Both as programs: what they call, in which order, and what they do when a call fails. The
realtime loop is the thread they create, and the wait for the first feedback is one call. A loop
that tries again until a request succeeds may never end, so the number of its attempts is
bounded by a parameter, beyond which the program hangs.
-/

namespace RmdCanSdk.Master

open Program (Method)

/-! ## The process lock

A lock on a file keeps two backends from using one master. The file is in a directory that is
not writable everywhere, so there is a second one for the case that the first cannot be opened. -/

/-- The lock is held while there is a descriptor. -/
structure ProcessLock where
  fd : Option Nat
  lastError : Errno
  deriving DecidableEq

namespace ProcessLock

def fresh : ProcessLock := ⟨none, 0⟩

def release (lock : ProcessLock) : Program Call Response ProcessLock :=
  match lock.fd with
  | none => return lock
  | some fd => do
      ask (.unlockFile fd)
      ask (.closeFile fd)
      return { lock with fd := none }

def acquire (lock : ProcessLock) (path : String) : Program Call Response (Bool × ProcessLock) := do
  let lock ← lock.release
  let lock := { lock with lastError := 0 }
  match ← ask (.openFile path) with
  | .error errno => return (false, { lock with lastError := errno })
  | .ok fd =>
      match ← ask (.lockFile fd) with
      | some errno => do
          ask (.closeFile fd)
          return (false, { lock with lastError := errno })
      | none => return (true, { lock with fd := some fd })

end ProcessLock

def ENOENT : Errno := 2
def EACCES : Errno := 13
def EROFS : Errno := 30

def shouldTryTmpLockFallback (err : Errno) : Bool := err = EACCES || err = ENOENT || err = EROFS

def acquireEthercatProcessLock (masterOrder : Int) (lock : ProcessLock) :
    Program Call Response (Bool × ProcessLock) := do
  let (acquired, lock) ← lock.acquire (primaryLockPath masterOrder)
  if acquired then return (true, lock)
  else if !shouldTryTmpLockFallback lock.lastError then return (false, lock)
  else lock.acquire (fallbackLockPath masterOrder)

/-! ## The backend -/

/-- The settings, of the configuration and of the environment variables. -/
structure Settings where
  periodNs : Int
  ethercatDc : Bool
  ethercatDomainDivisions : List Int
  disableDc : Int
  forceManualPdoRemap : Int
  realtimeLockMemory : Int
  attempts : Nat

structure MasterDomain (F : Type) where
  domainId : Int
  division : Int
  domain : Nat
  hasData : Bool
  size : Nat
  bindings : List (EthercatPdoBinding F)

/-- The fields that `start` and `stop` use. -/
structure MasterRuntime (F : Type) where
  running : Bool
  status : BackendStatus
  thread : Bool
  master : Option Nat
  masterOrder : Int
  masterFd : Option Nat
  masterLock : ProcessLock
  dcEnabled : Bool
  dcReferenceSelected : Bool
  slaveCount : Nat
  domains : List (MasterDomain F)

def MasterRuntime.fresh (F : Type) : MasterRuntime F where
  running := false
  status := default
  thread := false
  master := none
  masterOrder := 0
  masterFd := none
  masterLock := .fresh
  dcEnabled := false
  dcReferenceSelected := false
  slaveCount := 0
  domains := []

/-- How `start` ends without success: with its error code, or with an exception. -/
inductive Exit where
  | failed
  | thrown (message : String)

variable {F : Type}

abbrev Action (F α : Type) := Method Call Response (MasterRuntime F) Exit α

/-! ## Failure -/

/-- Give back the master, if there is one. -/
def releaseMaster (rt : MasterRuntime F) : Program Call Response (MasterRuntime F) :=
  match rt.master with
  | none => return rt
  | some master => do
      ask (.releaseMaster master)
      return { rt with master := none }

def closeMasterFd (rt : MasterRuntime F) : Program Call Response (MasterRuntime F) :=
  match rt.masterFd with
  | none => return rt
  | some fd => do
      ask (.closeFile fd)
      return { rt with masterFd := none }

def releaseLock (rt : MasterRuntime F) : Program Call Response (MasterRuntime F) := do
  return { rt with masterLock := ← rt.masterLock.release }

def failStart (rt : MasterRuntime F) : Program Call Response (MasterRuntime F) := do
  let rt := { rt with running := false, status := rt.status.setFault ErrorCodeBackendFault }
  let rt ← releaseMaster rt
  let rt ← closeMasterFd rt
  let rt ← releaseLock rt
  return { rt with domains := [] }

/-- The way out of `start` after a failure. -/
def fail {α : Type} : Action F α :=
  fun rt => return (.error .failed, ← failStart rt)

/-- Go on if a condition holds. -/
def require (condition : Bool) : Action F Unit := if condition then pure () else fail

/-! ## Requests to the slaves -/

def requestUntilDone (masterFd : Nat) (slave : Int) (state : Nat) : Nat → Program Call Response Unit
  | 0 => .hang
  | attempts + 1 => do
      if ← ask (.requestSlaveState masterFd slave state) then return ()
      else
        ask (.sleepFor 1000000000)
        requestUntilDone masterFd slave state attempts

/-- Requests to some slaves, one after the other. -/
def requestEach (request : Int → Program Call Response Unit) : List Int → Program Call Response Unit
  | [] => return ()
  | slave :: rest => do
      request slave
      requestEach request rest

def slaveRange (slaveCount : Nat) : List Int := (List.range slaveCount).map Int.ofNat

def requestSlaveRangeState (attempts masterFd slaveCount state : Nat) :
    Program Call Response Unit :=
  requestEach (fun slave => requestUntilDone masterFd slave state attempts) (slaveRange slaveCount)

/-- At most three attempts, with a pause between them. -/
def requestSlaveStateBestEffort (masterFd : Nat) (slave : Int) (state : Nat) :
    Nat → Program Call Response Unit
  | 0 => return ()
  | attempts + 1 => do
      if ← ask (.requestSlaveState masterFd slave state) then return ()
      else
        Program.when (attempts ≠ 0) (ask (.sleepFor 100000000))
        requestSlaveStateBestEffort masterFd slave state attempts

def requestSlaveRangeStateBestEffort (masterFd slaveCount state : Nat) :
    Program Call Response Unit :=
  requestEach (fun slave => requestSlaveStateBestEffort masterFd slave state 3)
    (slaveRange slaveCount)

/-- Whether no slave is in one of the states of a mask. -/
def alStatesClear (master : Option Nat) (mask : Nat) : Program Call Response Bool :=
  match master with
  | none => return false
  | some master => do
      match ← ask (.masterState master) with
      | none => return false
      | some alStates => return alStates ≠ 0 && alStates &&& mask = 0

def waitForAlStatesClear (master : Option Nat) (mask : Nat) : Nat → Program Call Response Unit
  | 0 => .hang
  | attempts + 1 => do
      if ← ask .beforeDeadline then
        if ← alStatesClear master mask then return ()
        else
          ask (.sleepFor 20000000)
          waitForAlStatesClear master mask attempts
      else return ()

/-- Bring the slaves down through two states. -/
def stepDown (attempts masterFd slaveCount : Nat) (master : Option Nat) :
    Program Call Response Unit := do
  requestSlaveRangeStateBestEffort masterFd slaveCount 0x04
  waitForAlStatesClear master 0x08 attempts
  requestSlaveRangeStateBestEffort masterFd slaveCount 0x02
  waitForAlStatesClear master 0x0c attempts

/-! ## Configuration of a slave -/

/-- Downloads, up to the first one that fails. -/
def downloadAll (master : Nat) (slave : Int) :
    List (BitVec 16 × BitVec 8 × Nat) → Program Call Response Bool
  | [] => return true
  | (index, subindex, data) :: rest => do
      if ← ask (.sdoDownload master slave index subindex data) then
        downloadAll master slave rest
      else return false

def remapMtDevicePdos (master : Nat) (slave : Int) (spec : EthercatMtDevicePdoSpec)
    (rxSpec txSpec : EthercatMtDevicePdoProfileSpec) : Program Call Response Bool :=
  downloadAll master slave [
    (spec.rxAssignmentIndex, 0x00, 0),
    (spec.rxAssignmentIndex, 0x01, rxSpec.pdoIndex.toNat),
    (spec.rxAssignmentIndex, 0x00, 1),
    (spec.txAssignmentIndex, 0x00, 0),
    (spec.txAssignmentIndex, 0x01, txSpec.pdoIndex.toNat),
    (spec.txAssignmentIndex, 0x00, 1)]

/-- Register the rest of some entries. -/
def registerRest (config domain : Nat) : List EthercatPdoEntrySpec → Program Call Response Bool
  | [] => return true
  | entry :: rest => do
      if (← ask (.regPdoEntry config entry domain)) < 0 then return false
      else registerRest config domain rest

/-- Register the entries of a process data object, with the offset of the first one. -/
def registerEntries (config domain : Nat) :
    List EthercatPdoEntrySpec → Program Call Response (Option Int)
  | [] => return none
  | first :: rest => do
      let offset ← ask (.regPdoEntry config first domain)
      if offset < 0 then return none
      else if ← registerRest config domain rest then return some offset
      else return none

def periodNs (settings : Settings) : Int :=
  if settings.periodNs > 0 then settings.periodNs else 1000000

/-- Select the first slave as the reference clock, where there is to be one. -/
def selectReference (master config : Nat) (rt : MasterRuntime F) :
    Program Call Response (Bool × MasterRuntime F) :=
  if rt.dcEnabled && !rt.dcReferenceSelected then do
    if ← ask (.selectReferenceClock master config) then
      return (true, { rt with dcReferenceSelected := true })
    else return (false, rt)
  else return (true, rt)

/-- The position of the slave of a binding, or an exception. -/
def slavePosition (binding : EthercatPdoBinding F) : Action F Int :=
  match resolveEthercatSlavePosition binding with
  | .ok slave => pure slave
  | .error message => Method.throw (.thrown message)

/-- Configure the slave of a binding, with its process data and its clock. -/
def configureSlave (settings : Settings) (master : Nat) (slave division : Int)
    (rxSpec txSpec : EthercatMtDevicePdoProfileSpec) : Action F Nat := do
  match ← Method.lift (ask (.slaveConfig master slave ethercatMtDevicePdoSpec.vendorId
      ethercatMtDevicePdoSpec.productCode)) with
  | none => fail
  | some config =>
      require (← Method.update (selectReference master config))
      require (← Method.lift (ask (.slaveConfigPdos config rxSpec txSpec)))
      Method.when (← Method.get).dcEnabled
        (Method.lift (ask (.slaveConfigDc config (periodNs settings * division))))
      return config

/-- Bring the slave of a binding into the state in which it can be configured. -/
def preparePosition (settings : Settings) (slave : Int) : Action F Unit := do
  match (← Method.get).masterFd with
  | none => pure ()
  | some masterFd => Method.lift (requestUntilDone masterFd slave 0x02 settings.attempts)

/-- Configure a binding, with the master that there is. -/
def configureWith (settings : Settings) (master domain : Nat) (division : Int)
    (binding : EthercatPdoBinding F) : Action F (EthercatPdoBinding F) := do
  require (isEthercatMtDeviceType binding.type)
  let rxSpec := ethercatMtDeviceRxPdoSpec binding.rxProfile
  let txSpec := ethercatMtDeviceTxPdoSpec binding.txProfile
  let slave ← slavePosition binding
  preparePosition settings slave
  Method.when (settings.forceManualPdoRemap ≠ 0) do
    require (← Method.lift (remapMtDevicePdos master slave ethercatMtDevicePdoSpec rxSpec txSpec))
  let config ← configureSlave settings master slave division rxSpec txSpec
  match ← Method.lift (registerEntries config domain rxSpec.entries) with
  | none => fail
  | some rxOffset =>
      match ← Method.lift (registerEntries config domain txSpec.entries) with
      | none => fail
      | some txOffset => return { binding with
          slave := slave
          rxOffset := rxOffset
          txOffset := txOffset
          rxSize := ethercatMtDeviceRxPdoSize binding.rxProfile
          txSize := ethercatMtDeviceTxPdoSize binding.txProfile }

/-! ## Domains -/

def domainDivision (settings : Settings) (domainId : Int) : Int :=
  if domainId ≥ 0 then
    match settings.ethercatDomainDivisions[domainId.toNat]? with
    | some division => max 1 division
    | none => 1
  else 1

/-- Append a binding to the domain with its id, if there is one. -/
def addToDomain (binding : EthercatPdoBinding F) :
    List (MasterDomain F) → Option (List (MasterDomain F))
  | [] => none
  | domain :: rest =>
      if domain.domainId = binding.domain then
        some ({ domain with bindings := domain.bindings ++ [binding] } :: rest)
      else (addToDomain binding rest).map (domain :: ·)

def addBinding (settings : Settings) (master : Nat) (binding : EthercatPdoBinding F) :
    Action F Unit := do
  match addToDomain binding (← Method.get).domains with
  | some domains => Method.modify fun rt => { rt with domains := domains }
  | none =>
      match ← Method.lift (ask (.createDomain master)) with
      | none => fail
      | some domain => Method.modify fun rt => { rt with
          domains := rt.domains ++ [{
            domainId := binding.domain
            division := domainDivision settings binding.domain
            domain := domain
            hasData := false
            size := 0
            bindings := [binding] }] }

/-- An action for each element of a list. -/
def forEach {α : Type} (action : α → Action F Unit) : List α → Action F Unit
  | [] => pure ()
  | value :: rest => do
      action value
      forEach action rest

/-- Change the domains of the backend one after the other. -/
def mapDomains (change : MasterDomain F → Action F (MasterDomain F)) :
    List (MasterDomain F) → Action F (List (MasterDomain F))
  | [] => pure []
  | domain :: rest => do
      let domain ← change domain
      return domain :: (← mapDomains change rest)

def configureAll (settings : Settings) (master domain : Nat) (division : Int) :
    List (EthercatPdoBinding F) → Action F (List (EthercatPdoBinding F))
  | [] => pure []
  | binding :: rest => do
      let binding ← configureWith settings master domain division binding
      return binding :: (← configureAll settings master domain division rest)

def configureDomain (settings : Settings) (master : Nat) (domain : MasterDomain F) :
    Action F (MasterDomain F) := do
  return { domain with
    bindings := ← configureAll settings master domain.domain domain.division domain.bindings }

def findData (domain : MasterDomain F) : Action F (MasterDomain F) := do
  require (← Method.lift (ask (.domainData domain.domain)))
  return { domain with
    hasData := true
    size := ← Method.lift (ask (.domainSize domain.domain)) }

/-- Replace the domains by changed ones. -/
def changeDomains (change : MasterDomain F → Action F (MasterDomain F)) : Action F Unit := do
  let domains ← mapDomains change (← Method.get).domains
  Method.modify fun rt => { rt with domains := domains }

/-! ## Start -/

/-- The positions of the slaves of all bindings, up to one that has none. -/
def requestBoundState (settings : Settings) (masterFd : Nat) (state : Nat) (rt : MasterRuntime F) :
    Action F Unit :=
  forEach (fun binding => do
    let slave ← slavePosition binding
    Method.lift (requestUntilDone masterFd slave state settings.attempts))
    (rt.domains.flatMap MasterDomain.bindings)

def requestAllSlavesState (settings : Settings) (state : Nat) : Action F Unit := do
  let rt ← Method.get
  match rt.masterFd, rt.master with
  | none, _ => pure ()
  | some masterFd, none =>
      Method.lift (requestSlaveRangeState settings.attempts masterFd rt.slaveCount state)
  | some masterFd, some master =>
      match ← Method.lift (ask (.masterInfo master)) with
      | some slaveCount => do
          Method.modify fun rt => { rt with slaveCount := slaveCount }
          Method.lift (requestSlaveRangeState settings.attempts masterFd slaveCount state)
      | none => requestBoundState settings masterFd state rt

/-- The lock of the master, which is held by the time the master is requested. -/
def lockMaster : Action F Unit := do
  require (← Method.update fun rt => do
    let (acquired, lock) ← acquireEthercatProcessLock rt.masterOrder rt.masterLock
    return (acquired, { rt with masterLock := lock }))

def devicePath (masterOrder : Int) : String := "/dev/EtherCAT" ++ toString masterOrder

/-- The master, its device and the number of its slaves. -/
def openMaster (masterOrder : Int) : Action F Nat := do
  match ← Method.lift (ask (.requestMaster masterOrder)) with
  | none => fail
  | some master =>
      Method.modify fun rt => { rt with master := some master }
      match ← Method.lift (ask (.openFile (devicePath masterOrder))) with
      | .error _ => fail
      | .ok fd =>
          Method.modify fun rt => { rt with masterFd := some fd }
          match ← Method.lift (ask (.masterInfo master)) with
          | none => return master
          | some slaveCount =>
              Method.modify fun rt => { rt with slaveCount := slaveCount }
              return master

/-- Activate the master, with the data of its domains. -/
def activate (settings : Settings) (master : Nat) : Action F Unit := do
  Method.when (← Method.get).dcEnabled (Method.lift (ask (.applicationTime master)))
  require (← Method.lift (ask (.activate master)))
  Method.when (settings.realtimeLockMemory ≠ 0) (Method.lift (ask .lockMemory))
  changeDomains findData

/-- Create the realtime thread and bring the slaves up. -/
def run (settings : Settings) : Action F Unit := do
  Method.lift (ask (.storeStop false))
  Method.modify fun rt => { rt with running := true }
  Method.lift (ask .createThread)
  Method.modify fun rt => { rt with thread := true }
  Method.when (← Method.get).dcEnabled
    (Method.lift (ask (.sleepFor (periodNs settings * 5))))
  requestAllSlavesState settings 0x08

/-- Stop the realtime thread, and wait for its end. -/
def joinThread (rt : MasterRuntime F) : Program Call Response (MasterRuntime F) := do
  ask (.storeStop true)
  if rt.thread then
    ask .joinThread
    return { rt with thread := false }
  else return rt

/-- Bring the slaves down again, if there are any. -/
def stepDownSlaves (settings : Settings) (rt : MasterRuntime F) : Program Call Response Unit :=
  match rt.masterFd with
  | none => return ()
  | some masterFd =>
      if rt.slaveCount > 0 then stepDown settings.attempts masterFd rt.slaveCount rt.master
      else return ()

/-- The wait for the first feedback, and the way out if there is none. -/
def awaitFeedback (settings : Settings) : Action F Unit := do
  if ← Method.lift (ask .waitForStartupReady) then pure ()
  else
    Method.update fun rt => do
      stepDownSlaves settings rt
      return ((), ← joinThread rt)
    fail

/-- `start` on a group of motors of a master, with the bindings of the group. -/
def startWith (settings : Settings) (masterOrder : Int) (bindings : List (EthercatPdoBinding F)) :
    Action F Unit := do
  Method.modify fun rt => { rt with
    masterOrder := masterOrder
    dcEnabled := settings.ethercatDc && settings.disableDc = 0
    dcReferenceSelected := false }
  lockMaster
  let master ← openMaster masterOrder
  forEach (addBinding settings master) bindings
  changeDomains (configureDomain settings master)
  activate settings master
  run settings
  awaitFeedback settings

/-- An exception of a function that makes no calls. -/
def ofExcept {α : Type} : Except String α → Action F α
  | .ok value => pure value
  | .error message => Method.throw (.thrown message)

def start (settings : Settings) (registry : MotorRegistry F) (backendIndex : Nat)
    (operatingModes : List Int) : Action F Unit := do
  match registry.backends[backendIndex]? with
  | none => Method.throw (.thrown "vector::_M_range_check")
  | some backend =>
      let bindings ← ofExcept (buildEthercatPdoBindings registry backendIndex)
      let bindings ← ofExcept (assignEthercatPdoProfiles bindings operatingModes)
      startWith settings backend.master bindings

/-! ## Stop -/

/-- What is asked of the slaves when there is no thread to stop. -/
def resetSlaves (rt : MasterRuntime F) : Program Call Response Unit :=
  match rt.masterFd with
  | none => return ()
  | some masterFd =>
      if rt.slaveCount > 0 then do
        requestSlaveRangeStateBestEffort masterFd rt.slaveCount 0x01
        ask (.sleepFor 500000000)
        requestSlaveRangeStateBestEffort masterFd rt.slaveCount 0x02
        ask (.sleepFor 500000000)
      else return ()

def stop (settings : Settings) (rt : MasterRuntime F) :
    Program Call Response (MasterRuntime F) := do
  let threadWasRunning := rt.thread
  Program.when threadWasRunning (stepDownSlaves settings rt)
  let rt ← joinThread rt
  Program.when (!threadWasRunning) (resetSlaves rt)
  let rt ← releaseMaster rt
  let rt ← closeMasterFd rt
  let rt ← releaseLock rt
  return { rt with domains := [], running := false }

end RmdCanSdk.Master
