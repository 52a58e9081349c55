import RmdCanSdk.Master.Safety

/-!
# A backend while it starts

Every step of `start` either succeeds, with what it has got in the fields of the backend, or
gives back everything, or throws with the fields as they are.
-/

namespace RmdCanSdk.Master

open Program (Safe Method)

variable {F α β : Type}

/-- How a step of `start` may end. -/
def Ends (good : α → MasterRuntime F → Resources → Prop) :
    Except Exit α × MasterRuntime F → Resources → Prop
  | (.ok value, rt), resources => good value rt resources
  | (.error .failed, rt), resources => rt.Released ∧ rt.running = false ∧ resources.IsNone
  | (.error (.thrown _), rt), resources => Holding rt resources ∧ rt.running = rt.thread

section

variable {rt : MasterRuntime F} {resources : Resources}
variable {good : β → MasterRuntime F → Resources → Prop}

theorem ends_bind {action : Action F α} {next : α → Action F β}
    (safe : Safe rules (action rt) resources
      (Ends fun value rt after => Safe rules (next value rt) after (Ends good))) :
    Safe rules ((action >>= next) rt) resources (Ends good) := by
  apply Method.safe_bind
  apply safe.mono
  rintro ⟨result, rt⟩ after holds
  match result with
  | .ok value => exact holds
  | .error .failed => exact holds
  | .error (.thrown message) => exact holds

theorem ends_mono {action : Action F β} {weaker : β → MasterRuntime F → Resources → Prop}
    (safe : Safe rules (action rt) resources (Ends good))
    (implies : ∀ value rt after, good value rt after → weaker value rt after) :
    Safe rules (action rt) resources (Ends weaker) := by
  apply safe.mono
  rintro ⟨result, rt⟩ after holds
  match result with
  | .ok value => exact implies value rt after holds
  | .error .failed => exact holds
  | .error (.thrown message) => exact holds

theorem ends_fail (holding : Holding rt resources) (ended : rt.thread = false) :
    Safe rules ((fail : Action F β) rt) resources (Ends good) := by
  apply Safe.bind
  apply (safe_failStart holding ended).mono
  exact fun _ _ released => released

theorem ends_get {good : MasterRuntime F → MasterRuntime F → Resources → Prop}
    (holds : good rt rt resources) :
    Safe rules ((Method.get : Action F _) rt) resources (Ends good) := holds

theorem ends_modify {good : Unit → MasterRuntime F → Resources → Prop}
    {change : MasterRuntime F → MasterRuntime F} (holds : good () (change rt) resources) :
    Safe rules ((Method.modify change : Action F Unit) rt) resources (Ends good) := holds

theorem ends_lift {program : Program Call Response β}
    (safe : Safe rules program resources fun value after => good value rt after) :
    Safe rules (Method.lift program rt) resources (Ends good) :=
  Method.safe_lift safe

theorem ends_quiet {program : Program Call Response β} (quiet : Quiet program resources)
    (holds : ∀ value, good value rt resources) :
    Safe rules (Method.lift program rt) resources (Ends good) := by
  apply ends_lift
  apply quiet.mono
  rintro value after rfl
  exact holds value

theorem ends_ask {call : Call} {good : Response call → MasterRuntime F → Resources → Prop}
    (isAllowed : allowed resources call)
    (same : ∀ response, respond resources call response = some resources)
    (holds : ∀ response, good response rt resources) :
    Safe rules (Method.lift (ask call) rt) resources (Ends good) :=
  ends_quiet (quiet_ask isAllowed same) holds

end

section

variable {rt : MasterRuntime F} {resources : Resources}
variable {good : Unit → MasterRuntime F → Resources → Prop}

theorem ends_require {condition : Bool} (holding : Holding rt resources)
    (ended : rt.thread = false) (holds : condition = true → good () rt resources) :
    Safe rules (require condition rt) resources (Ends good) := by
  cases condition with
  | true => exact holds rfl
  | false => exact ends_fail holding ended

theorem ends_when {action : Action F Unit} {condition : Bool} (holds : good () rt resources)
    (safe : Safe rules (action rt) resources (Ends good)) :
    Safe rules (Method.when condition action rt) resources (Ends good) := by
  cases condition with
  | true => exact safe
  | false => exact holds

theorem ends_when_quiet {program : Program Call Response Unit} {condition : Bool}
    (quiet : Quiet program resources) (holds : good () rt resources) :
    Safe rules (Method.when condition (Method.lift program) rt) resources (Ends good) :=
  ends_when holds (ends_quiet quiet fun _ => holds)

end

/-! ## With a master -/

/-- A backend with a master before its thread is created, and domains that are known to the
master. -/
structure Setup (master : Nat) (handles : List Nat) (rt : MasterRuntime F)
    (resources : Resources) : Prop where
  holding : Holding rt resources
  isMaster : rt.master = some master
  ended : rt.thread = false
  stopped : rt.running = false
  known : ∀ handle ∈ handles, (handle, master) ∈ resources.domains

section

variable {master : Nat} {handles : List Nat} {rt : MasterRuntime F} {resources : Resources}

theorem Setup.holds (setup : Setup master handles rt resources) :
    resources.holds master = true := setup.holding.holds setup.isMaster

theorem Setup.ends_fail (setup : Setup master handles rt resources)
    {good : β → MasterRuntime F → Resources → Prop} :
    Safe rules ((fail : Action F β) rt) resources (Ends good) :=
  Master.ends_fail setup.holding setup.ended

theorem Setup.ends_require (setup : Setup master handles rt resources) {condition : Bool}
    {good : Unit → MasterRuntime F → Resources → Prop}
    (holds : condition = true → good () rt resources) :
    Safe rules (require condition rt) resources (Ends good) :=
  Master.ends_require setup.holding setup.ended holds

/-- The configuration of a slave belongs to the master. -/
theorem Setup.slaveConfig (setup : Setup master handles rt resources) (slave : Int)
    (vendorId productCode : BitVec 32) :
    Safe rules (ask (.slaveConfig master slave vendorId productCode)) resources
      fun config after => Setup master handles rt after ∧
        ∀ handle, config = some handle → (handle, master) ∈ after.configs := by
  refine ⟨setup.holds, fun response after performed => ?_⟩
  rcases respond_slaveConfig performed with ⟨configs, rfl, isMaster, isConfig⟩
  refine ⟨{ setup with holding := { setup.holding with configs := ?_ } }, isConfig⟩
  intro entry member
  rcases List.mem_append.mp member with old | new
  · exact setup.holding.configs entry old
  · rw [isMaster entry new]
    exact setup.isMaster

/-! ## Configuration -/

theorem quiet_downloadAll (holds : resources.holds master = true) (slave : Int)
    (downloads : List (BitVec 16 × BitVec 8 × Nat)) :
    Quiet (downloadAll master slave downloads) resources := by
  induction downloads with
  | nil => exact quiet_pure true
  | cons download rest ih =>
      refine Quiet.bind (quiet_ask holds fun _ => rfl) fun done => ?_
      cases done with
      | true => exact ih
      | false => exact quiet_pure false

section

variable {config domain : Nat} (isConfig : (config, master) ∈ resources.configs)
variable (isDomain : (domain, master) ∈ resources.domains)

include isConfig isDomain

theorem quiet_regPdoEntry (entry : EthercatPdoEntrySpec) :
    Quiet (ask (.regPdoEntry config entry domain)) resources :=
  quiet_ask ⟨master, isConfig, isDomain⟩ fun _ => rfl

theorem quiet_registerRest (entries : List EthercatPdoEntrySpec) :
    Quiet (registerRest config domain entries) resources := by
  induction entries with
  | nil => exact quiet_pure true
  | cons entry rest ih =>
      refine (quiet_regPdoEntry isConfig isDomain entry).bind fun offset => ?_
      split
      · exact quiet_pure false
      · exact ih

theorem quiet_registerEntries (entries : List EthercatPdoEntrySpec) :
    Quiet (registerEntries config domain entries) resources := by
  cases entries with
  | nil => exact quiet_pure none
  | cons first rest =>
      refine (quiet_regPdoEntry isConfig isDomain first).bind fun offset => ?_
      split
      · exact quiet_pure none
      · refine (quiet_registerRest isConfig isDomain rest).bind fun done => ?_
        cases done with
        | true => exact quiet_pure _
        | false => exact quiet_pure none

end

theorem Setup.selectReference (setup : Setup master handles rt resources) {config : Nat}
    (isConfig : (config, master) ∈ resources.configs) :
    Safe rules (selectReference master config rt) resources fun result after =>
      Setup master handles result.2 after ∧ after = resources := by
  rw [Master.selectReference]
  split
  · refine Safe.bind (Safe.mono (quiet_ask isConfig fun _ => rfl) ?_)
    rintro selected after rfl
    cases selected with
    | true => exact ⟨{ setup with holding := { setup.holding with } }, rfl⟩
    | false => exact ⟨setup, rfl⟩
  · exact ⟨setup, rfl⟩

theorem Setup.configureSlave (setup : Setup master handles rt resources) (settings : Settings)
    (slave division : Int) (rxSpec txSpec : EthercatMtDevicePdoProfileSpec) :
    Safe rules (configureSlave settings master slave division rxSpec txSpec rt) resources
      (Ends fun config rt after => Setup master handles rt after ∧
        (config, master) ∈ after.configs) := by
  apply ends_bind
  apply ends_lift
  apply (setup.slaveConfig slave _ _).mono
  rintro found after ⟨setup, known⟩
  cases found with
  | none => exact setup.ends_fail
  | some config =>
      have isConfig := known config rfl
      apply ends_bind
      apply Method.safe_update
      apply (setup.selectReference isConfig).mono
      rintro ⟨selected, chosen⟩ _ ⟨after, rfl⟩
      have setup : Setup master handles chosen _ := after
      apply ends_bind
      apply setup.ends_require
      rintro -
      apply ends_bind
      refine ends_ask ⟨master, isConfig⟩ (fun _ => rfl) fun mapped => ?_
      apply ends_bind
      apply setup.ends_require
      rintro -
      apply ends_bind
      apply ends_get
      apply ends_bind
      exact ends_when_quiet (quiet_ask ⟨master, isConfig⟩ fun _ => rfl) ⟨setup, isConfig⟩

theorem Setup.running_eq_thread (setup : Setup master handles rt resources) :
    rt.running = rt.thread := setup.stopped.trans setup.ended.symm

theorem ends_slavePosition {binding : EthercatPdoBinding F}
    {good : Int → MasterRuntime F → Resources → Prop} (holding : Holding rt resources)
    (running : rt.running = rt.thread) (holds : ∀ slave, good slave rt resources) :
    Safe rules (slavePosition binding rt) resources (Ends good) := by
  rw [slavePosition]
  cases resolveEthercatSlavePosition binding with
  | ok slave => exact holds slave
  | error message => exact ⟨holding, running⟩

theorem Setup.preparePosition (setup : Setup master handles rt resources) (settings : Settings)
    (slave : Int) :
    Safe rules (preparePosition settings slave rt) resources
      (Ends fun _ rt after => Setup master handles rt after) := by
  apply ends_bind
  apply ends_get
  cases isFd : rt.masterFd with
  | none => exact setup
  | some masterFd =>
      exact ends_quiet (quiet_requestUntilDone (setup.holding.isOpen isFd) _ _ _) fun _ => setup

theorem Setup.configureWith (setup : Setup master handles rt resources) (settings : Settings)
    {domain : Nat} (member : domain ∈ handles) (division : Int) (binding : EthercatPdoBinding F) :
    Safe rules (configureWith settings master domain division binding rt) resources
      (Ends fun _ rt after => Setup master handles rt after) := by
  apply ends_bind
  apply setup.ends_require
  rintro -
  apply ends_bind
  apply ends_slavePosition setup.holding setup.running_eq_thread
  intro slave
  apply ends_bind
  apply ends_mono (setup.preparePosition settings slave)
  intro _ rt resources setup
  apply ends_bind
  refine ends_mono (show Safe rules _ resources (Ends fun _ rt after =>
    Setup master handles rt after) from ?_) ?_
  · apply ends_when setup
    apply ends_bind
    apply ends_quiet (quiet_downloadAll setup.holds _ _)
    intro remapped
    exact setup.ends_require fun _ => setup
  intro _ rt resources setup
  apply ends_bind
  apply ends_mono (setup.configureSlave settings slave division _ _)
  rintro config rt resources ⟨setup, isConfig⟩
  have isDomain := setup.known domain member
  apply ends_bind
  apply ends_quiet (quiet_registerEntries isConfig isDomain _)
  intro rxOffset
  cases rxOffset with
  | none => exact setup.ends_fail
  | some rxOffset =>
      apply ends_bind
      apply ends_quiet (quiet_registerEntries isConfig isDomain _)
      intro txOffset
      cases txOffset with
      | none => exact setup.ends_fail
      | some txOffset => exact setup

theorem Setup.configureAll (setup : Setup master handles rt resources) (settings : Settings)
    {domain : Nat} (member : domain ∈ handles) (division : Int)
    (bindings : List (EthercatPdoBinding F)) :
    Safe rules (configureAll settings master domain division bindings rt) resources
      (Ends fun _ rt after => Setup master handles rt after) := by
  induction bindings generalizing rt resources with
  | nil => exact setup
  | cons binding rest ih =>
      apply ends_bind
      apply ends_mono (setup.configureWith settings member division binding)
      intro configured rt resources setup
      apply ends_bind
      apply ends_mono (ih setup)
      exact fun _ _ _ setup => setup

/-! ## Domains -/

/-- What is done with each domain keeps its handle. -/
theorem Setup.mapDomains (setup : Setup master handles rt resources)
    {change : MasterDomain F → Action F (MasterDomain F)}
    (each : ∀ (domain : MasterDomain F) (rt : MasterRuntime F) (resources : Resources),
      domain.domain ∈ handles → Setup master handles rt resources →
      Safe rules (change domain rt) resources (Ends fun changed rt after =>
        Setup master handles rt after ∧ changed.domain = domain.domain))
    (domains : List (MasterDomain F)) (known : ∀ domain ∈ domains, domain.domain ∈ handles) :
    Safe rules (mapDomains change domains rt) resources (Ends fun changed rt after =>
      Setup master handles rt after ∧
        changed.map MasterDomain.domain = domains.map MasterDomain.domain) := by
  induction domains generalizing rt resources with
  | nil => exact ⟨setup, rfl⟩
  | cons domain rest ih =>
      rw [List.forall_mem_cons] at known
      apply ends_bind
      apply ends_mono (each domain rt resources known.1 setup)
      rintro changed rt resources ⟨setup, same⟩
      apply ends_bind
      apply ends_mono (ih setup known.2)
      rintro others rt resources ⟨setup, sameOthers⟩
      refine ⟨setup, ?_⟩
      rw [List.map_cons, List.map_cons, same, sameOthers]

/-- The domains of a backend with a master are known to the master. -/
abbrev DomainsKnown (master : Nat) (rt : MasterRuntime F) (resources : Resources) : Prop :=
  Setup master (rt.domains.map MasterDomain.domain) rt resources

theorem DomainsKnown.change (setup : DomainsKnown master rt resources)
    {change : MasterDomain F → Action F (MasterDomain F)}
    (each : ∀ (handles : List Nat) (domain : MasterDomain F) (rt : MasterRuntime F)
      (resources : Resources), domain.domain ∈ handles → Setup master handles rt resources →
      Safe rules (change domain rt) resources (Ends fun changed rt after =>
        Setup master handles rt after ∧ changed.domain = domain.domain)) :
    Safe rules (changeDomains change rt) resources
      (Ends fun _ rt after => DomainsKnown master rt after) := by
  apply ends_bind
  apply ends_get
  apply ends_bind
  apply ends_mono (setup.mapDomains (each _) rt.domains
    fun domain member => List.mem_map_of_mem member)
  rintro changed rt resources ⟨setup, same⟩
  have known : ∀ handle ∈ changed.map MasterDomain.domain, (handle, master) ∈ resources.domains := by
    rw [same]
    exact setup.known
  refine { setup with
    holding := { setup.holding with known := fun domain member => ?_ }
    known := known }
  exact ⟨master, setup.isMaster, known _ (List.mem_map_of_mem member)⟩

theorem DomainsKnown.configureDomains (setup : DomainsKnown master rt resources)
    (settings : Settings) :
    Safe rules (changeDomains (configureDomain settings master) rt) resources
      (Ends fun _ rt after => DomainsKnown master rt after) := by
  apply setup.change
  intro handles domain rt resources member setup
  apply ends_bind
  apply ends_mono (setup.configureAll settings member domain.division domain.bindings)
  exact fun _ _ _ setup => ⟨setup, rfl⟩

theorem DomainsKnown.findData (setup : DomainsKnown master rt resources) :
    Safe rules (changeDomains findData rt) resources
      (Ends fun _ rt after => DomainsKnown master rt after) := by
  apply setup.change
  intro handles domain rt resources member setup
  have isDomain := setup.known _ member
  apply ends_bind
  refine ends_ask ⟨master, isDomain⟩ (fun _ => rfl) fun hasData => ?_
  apply ends_bind
  apply setup.ends_require
  rintro -
  apply ends_bind
  exact ends_ask ⟨master, isDomain⟩ (fun _ => rfl) fun size => ⟨setup, rfl⟩

theorem map_domain_addToDomain {binding : EthercatPdoBinding F}
    {domains added : List (MasterDomain F)} (found : addToDomain binding domains = some added) :
    added.map MasterDomain.domain = domains.map MasterDomain.domain := by
  induction domains generalizing added with
  | nil => contradiction
  | cons domain rest ih =>
      rw [addToDomain] at found
      split at found
      · cases found
        rfl
      · rcases Option.map_eq_some_iff.mp found with ⟨others, foundLater, rfl⟩
        rw [List.map_cons, List.map_cons, ih foundLater]

/-- A domain that the master has created joins the domains of the backend. -/
theorem DomainsKnown.append (setup : DomainsKnown master rt resources) (domain : MasterDomain F) :
    DomainsKnown master { rt with domains := rt.domains ++ [domain] }
      { resources with domains := resources.domains ++ [(domain.domain, master)] } := by
  have isNew : (domain.domain, master) ∈ resources.domains ++ [(domain.domain, master)] :=
    List.mem_append_right _ (List.mem_singleton_self _)
  refine { setup with
    holding := { setup.holding with known := fun other member => ?_, domains := ?_ }
    known := ?_ }
  · rcases List.mem_append.mp member with old | new
    · rcases setup.holding.known other old with ⟨owner, isOwner, known⟩
      exact ⟨owner, isOwner, List.mem_append_left _ known⟩
    · rw [List.mem_singleton.mp new]
      exact ⟨master, setup.isMaster, isNew⟩
  · intro entry member
    rcases List.mem_append.mp member with old | new
    · exact setup.holding.domains entry old
    · rw [List.mem_singleton.mp new]
      exact setup.isMaster
  · dsimp only
    rw [List.map_append, List.forall_mem_append]
    refine ⟨fun handle member => List.mem_append_left _ (setup.known handle member), ?_⟩
    exact List.forall_mem_singleton.mpr isNew

theorem DomainsKnown.addBinding (setup : DomainsKnown master rt resources) (settings : Settings)
    (binding : EthercatPdoBinding F) :
    Safe rules (addBinding settings master binding rt) resources
      (Ends fun _ rt after => DomainsKnown master rt after) := by
  apply ends_bind
  apply ends_get
  cases found : addToDomain binding rt.domains with
  | some domains =>
      have same := map_domain_addToDomain found
      refine { setup with
        holding := { setup.holding with known := fun domain member => ?_ }
        known := same ▸ setup.known }
      have known : domain.domain ∈ rt.domains.map MasterDomain.domain :=
        same ▸ List.mem_map_of_mem member
      exact ⟨master, setup.isMaster, setup.known _ known⟩
  | none =>
      apply ends_bind
      apply ends_lift
      refine ⟨setup.holds, fun created after performed => ?_⟩
      cases created with
      | none =>
          cases performed
          exact setup.ends_fail
      | some handle =>
          simp only [rules, respond] at performed
          split at performed
          · contradiction
          · cases performed
            exact setup.append _

theorem DomainsKnown.addBindings (setup : DomainsKnown master rt resources) (settings : Settings)
    (bindings : List (EthercatPdoBinding F)) :
    Safe rules (forEach (Master.addBinding settings master) bindings rt) resources
      (Ends fun _ rt after => DomainsKnown master rt after) := by
  induction bindings generalizing rt resources with
  | nil => exact setup
  | cons binding rest ih =>
      apply ends_bind
      apply ends_mono (setup.addBinding settings binding)
      exact fun _ _ _ setup => ih setup

/-- The master is active, with data for every domain. -/
theorem DomainsKnown.activate (setup : DomainsKnown master rt resources) (settings : Settings) :
    Safe rules (Master.activate settings master rt) resources
      (Ends fun _ rt after => DomainsKnown master rt after) := by
  apply ends_bind
  apply ends_get
  apply ends_bind
  refine ends_when_quiet (quiet_ask setup.holds fun _ => rfl) ?_
  apply ends_bind
  refine ends_ask setup.holds (fun _ => rfl) fun isActive => ?_
  apply ends_bind
  apply setup.ends_require
  rintro -
  apply ends_bind
  exact ends_when_quiet (quiet_ask trivial fun _ => rfl) setup.findData

/-! ## The thread -/

/-- A backend whose thread has been created. -/
structure Running (rt : MasterRuntime F) (resources : Resources) : Prop where
  holding : Holding rt resources
  isRunning : rt.running = true
  hasThread : rt.thread = true

theorem ends_forEach {action : α → Action F Unit} {good : MasterRuntime F → Resources → Prop}
    (each : ∀ value (rt : MasterRuntime F) resources, good rt resources →
      Safe rules (action value rt) resources (Ends fun _ => good))
    (values : List α) (holds : good rt resources) :
    Safe rules (forEach action values rt) resources (Ends fun _ => good) := by
  induction values generalizing rt resources with
  | nil => exact holds
  | cons value rest ih =>
      apply ends_bind
      apply ends_mono (each value rt resources holds)
      exact fun _ _ _ holds => ih holds

theorem Running.requestBoundState (running : Running rt resources) (settings : Settings)
    {masterFd : Nat} (isOpen : resources.isOpen masterFd = true) (state : Nat)
    (listed : MasterRuntime F) :
    Safe rules (requestBoundState settings masterFd state listed rt) resources
      (Ends fun _ => Running) := by
  have each : ∀ (binding : EthercatPdoBinding F) (rt : MasterRuntime F) (resources : Resources),
      Running rt resources ∧ resources.isOpen masterFd = true →
      Safe rules ((do
        let slave ← slavePosition binding
        Method.lift (requestUntilDone masterFd slave state settings.attempts) : Action F Unit) rt)
        resources (Ends fun _ rt after => Running rt after ∧ after.isOpen masterFd = true) := by
    rintro binding rt resources ⟨running, isOpen⟩
    apply ends_bind
    apply ends_slavePosition running.holding (running.isRunning.trans running.hasThread.symm)
    intro slave
    exact ends_quiet (quiet_requestUntilDone isOpen _ _ _) fun _ => ⟨running, isOpen⟩
  exact ends_mono (ends_forEach each _ ⟨running, isOpen⟩) fun _ _ _ both => both.1

theorem Running.requestAllSlavesState (running : Running rt resources) (settings : Settings)
    (state : Nat) :
    Safe rules (requestAllSlavesState settings state rt) resources (Ends fun _ => Running) := by
  apply ends_bind
  apply ends_get
  cases isFd : rt.masterFd with
  | none => exact running
  | some masterFd =>
      have isOpen := running.holding.isOpen isFd
      cases isMaster : rt.master with
      | none => exact ends_quiet (quiet_requestSlaveRangeState isOpen _ _ _) fun _ => running
      | some master =>
          apply ends_bind
          refine ends_ask (running.holding.holds isMaster) (fun _ => rfl) fun info => ?_
          cases info with
          | some slaveCount =>
              apply ends_bind
              apply ends_modify
              apply ends_quiet (quiet_requestSlaveRangeState isOpen _ _ _)
              exact fun _ => { running with holding := { running.holding with } }
          | none => exact running.requestBoundState settings isOpen state rt

/-- The thread is created on a master, and the slaves are brought up. -/
theorem DomainsKnown.run (setup : DomainsKnown master rt resources) (settings : Settings) :
    Safe rules (Master.run settings rt) resources (Ends fun _ => Running) := by
  apply ends_bind
  apply ends_lift
  refine ⟨trivial, fun _ after stored => ?_⟩
  cases stored
  apply ends_bind
  apply ends_modify
  apply ends_bind
  apply ends_lift
  refine ⟨⟨setup.holding.thread.trans setup.ended, rfl, ?_⟩, fun _ after created => ?_⟩
  · dsimp only
    rw [setup.holding.masters, MasterRuntime.held, setup.isMaster]
    exact List.cons_ne_nil _ _
  cases created
  apply ends_bind
  apply ends_modify
  have isSome : rt.master.isSome = true := by
    rw [setup.isMaster]
    rfl
  have running : Running { rt with running := true, thread := true }
      { resources with stop := false, thread := true } :=
    ⟨{ setup.holding with thread := rfl, mastered := fun _ => isSome }, rfl, rfl⟩
  apply ends_bind
  apply ends_get
  apply ends_bind
  refine ends_when_quiet (quiet_sleepFor _) ?_
  exact running.requestAllSlavesState settings 0x08

/-- Without feedback, the thread is ended before everything is given back. -/
theorem Running.awaitFeedback (running : Running rt resources) (settings : Settings) :
    Safe rules (awaitFeedback settings rt) resources (Ends fun _ => Running) := by
  apply ends_bind
  refine ends_ask trivial (fun _ => rfl) fun ready => ?_
  cases ready with
  | true => exact running
  | false =>
      apply ends_bind
      apply Method.safe_update
      apply Safe.bind
      apply (quiet_stepDownSlaves running.holding settings).mono
      rintro _ after rfl
      apply Safe.bind
      apply (safe_joinThread running.holding).mono
      rintro _ after ⟨rfl, holding⟩
      exact ends_fail holding rfl

/-! ## The whole of start -/

/-- A backend with nothing but the lock of its master. -/
structure Locked (masterOrder : Int) (rt : MasterRuntime F) (resources : Resources) : Prop where
  holding : Holding rt resources
  order : rt.masterOrder = masterOrder
  locked : rt.masterLock.fd.isSome = true
  noMaster : rt.master = none
  noMasterFd : rt.masterFd = none
  ended : rt.thread = false
  stopped : rt.running = false
  noDomains : rt.domains = []

theorem safe_lockMaster (released : rt.Released) (stopped : rt.running = false)
    (none : resources.IsNone) :
    Safe rules (lockMaster rt) resources (Ends fun _ => Locked rt.masterOrder) := by
  have noFiles : resources.files = [] := by rw [none]; rfl
  have noMasters : resources.masters = [] := by rw [none]; rfl
  apply ends_bind
  apply Method.safe_update
  apply Safe.bind
  apply (safe_acquireEthercatProcessLock released.lock rt.masterOrder noFiles noMasters).mono
  rintro ⟨acquired, lock⟩ after ⟨success, failure⟩
  have holding := holding_released released none
  cases acquired with
  | false =>
      rcases failure rfl with ⟨isNone, rfl⟩
      have unlocked : MasterRuntime.Released { rt with masterLock := lock } :=
        { released with lock := isNone }
      exact ends_fail (holding_released unlocked none) released.thread
  | true =>
      rcases success rfl with ⟨fd, isFd, path, isPath, rfl⟩
      refine {
        holding := { holding with
          files := ⟨path, isPath, ?_⟩
          distinct := fun _ _ isDevice => ?_
          locked := fun isSome => ?_ }
        order := rfl
        locked := by rw [isFd]; rfl
        noMaster := released.master
        noMasterFd := released.masterFd
        ended := released.thread
        stopped := stopped
        noDomains := released.domains }
      · rw [MasterRuntime.lockFiles, isFd, MasterRuntime.deviceFiles, released.masterFd]
        rfl
      · rw [released.masterFd] at isDevice
        contradiction
      · rw [released.master] at isSome
        contradiction

section

variable {masterOrder : Int}

theorem Locked.allowed (locked : Locked masterOrder rt resources) :
    allowed resources (.requestMaster masterOrder) := by
  rcases locked.holding.files with ⟨path, isPath, files⟩
  rcases Option.isSome_iff_exists.mp locked.locked with ⟨fd, isFd⟩
  refine ⟨path, locked.order ▸ isPath, ?_⟩
  rw [Resources.locks, files, MasterRuntime.lockFiles, isFd]
  simp

/-- The master becomes that of the backend. -/
theorem Locked.withMaster (locked : Locked masterOrder rt resources) (master : Nat) :
    Setup master [] { rt with master := some master }
      { resources with masters := resources.masters ++ [(master, masterOrder)] } where
  holding := {
    locked.holding with
    masters := by
      dsimp only
      rw [locked.holding.masters, MasterRuntime.held, locked.noMaster, ← locked.order]
      rfl
    locked := fun _ => locked.locked
    known := fun domain member => by
      rw [locked.noDomains] at member
      contradiction
    domains := fun entry member => by
      have owned := locked.holding.domains entry member
      rw [locked.noMaster] at owned
      contradiction
    configs := fun entry member => by
      have owned := locked.holding.configs entry member
      rw [locked.noMaster] at owned
      contradiction
    mastered := fun _ => rfl }
  isMaster := rfl
  ended := locked.ended
  stopped := locked.stopped
  known := List.forall_mem_nil _

/-- The device file of the master is open. -/
theorem Setup.withDevice {master fd : Nat} (setup : Setup master [] rt resources)
    (order : rt.masterOrder = masterOrder) (noDevice : rt.masterFd = none)
    (isNew : resources.isOpen fd = false) :
    Setup master [] { rt with masterFd := some fd }
      { resources with files := resources.files ++ [⟨fd, devicePath masterOrder, false⟩] } := by
  cases order
  rcases setup.holding.files with ⟨path, isPath, files⟩
  refine { setup with holding := { setup.holding with
    files := ⟨path, isPath, ?_⟩
    distinct := fun lockFd isLock same => ?_ } }
  · dsimp only
    rw [files, MasterRuntime.deviceFiles, noDevice]
    simp [MasterRuntime.deviceFiles, MasterRuntime.lockFiles]
  · cases same
    have isLock : rt.masterLock.fd = some fd := isLock
    rw [Resources.isOpen, files, MasterRuntime.lockFiles, isLock] at isNew
    simp at isNew

/-- The master is requested under the lock. -/
theorem Locked.openMaster (locked : Locked masterOrder rt resources) :
    Safe rules (openMaster masterOrder rt) resources
      (Ends fun master rt after => DomainsKnown master rt after) := by
  apply ends_bind
  apply ends_lift
  refine ⟨locked.allowed, fun requested after performed => ?_⟩
  cases requested with
  | none =>
      cases performed
      exact ends_fail locked.holding locked.ended
  | some master =>
      simp only [rules, respond] at performed
      split at performed
      · contradiction
      cases performed
      have setup := locked.withMaster master
      apply ends_bind
      apply ends_modify
      apply ends_bind
      apply ends_lift
      refine ⟨trivial, fun opened after performed => ?_⟩
      cases opened with
      | error errno =>
          cases performed
          exact setup.ends_fail
      | ok fd =>
          simp only [rules, respond] at performed
          split at performed
          · contradiction
          next isNew =>
            cases performed
            have setup := setup.withDevice locked.order locked.noMasterFd
              (Bool.eq_false_iff.mpr isNew)
            have noHandles : rt.domains.map MasterDomain.domain = [] := by
              rw [locked.noDomains]
              rfl
            apply ends_bind
            apply ends_modify
            apply ends_bind
            refine ends_ask setup.holds (fun _ => rfl) fun info => ?_
            cases info with
            | none => exact { setup with known := noHandles ▸ setup.known }
            | some slaveCount => exact {
                setup with
                holding := { setup.holding with }
                known := noHandles ▸ setup.known }

end

theorem safe_startWith (released : rt.Released) (stopped : rt.running = false)
    (none : resources.IsNone) (settings : Settings) (masterOrder : Int)
    (bindings : List (EthercatPdoBinding F)) :
    Safe rules (startWith settings masterOrder bindings rt) resources
      (Ends fun _ => Running) := by
  apply ends_bind
  apply ends_modify
  apply ends_bind
  have prepared : MasterRuntime.Released { rt with
    masterOrder := masterOrder
    dcEnabled := settings.ethercatDc && settings.disableDc = 0
    dcReferenceSelected := false } := { released with }
  apply ends_mono (safe_lockMaster prepared stopped none)
  intro _ rt resources locked
  apply ends_bind
  apply ends_mono locked.openMaster
  intro master rt resources setup
  apply ends_bind
  apply ends_mono (setup.addBindings settings bindings)
  intro _ rt resources setup
  apply ends_bind
  apply ends_mono (setup.configureDomains settings)
  intro _ rt resources setup
  apply ends_bind
  apply ends_mono (setup.activate settings)
  intro _ rt resources setup
  apply ends_bind
  apply ends_mono (setup.run settings)
  exact fun _ _ _ running => running.awaitFeedback settings

/-- `start` gets everything, or gives it back, or throws with what it has got in its fields. -/
theorem safe_start (released : rt.Released) (stopped : rt.running = false)
    (none : resources.IsNone) (settings : Settings) (registry : MotorRegistry F)
    (backendIndex : Nat) (operatingModes : List Int) :
    Safe rules (start settings registry backendIndex operatingModes rt) resources
      (Ends fun _ => Running) := by
  have holding := holding_released released none
  have running := stopped.trans released.thread.symm
  have pure : ∀ {α : Type} (result : Except String α)
      (good : α → MasterRuntime F → Resources → Prop), (∀ value, good value rt resources) →
      Safe rules (ofExcept result rt) resources (Ends good) := by
    intro α result good holds
    cases result with
    | ok value => exact holds value
    | error message => exact ⟨holding, running⟩
  rw [start]
  cases registry.backends[backendIndex]? with
  | none => exact ⟨holding, running⟩
  | some backend =>
      apply ends_bind
      apply pure
      intro bindings
      apply ends_bind
      apply pure
      intro bindings
      exact safe_startWith released stopped none settings backend.master bindings

end

end RmdCanSdk.Master
