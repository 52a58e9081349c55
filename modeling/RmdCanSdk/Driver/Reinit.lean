import RmdCanSdk.Driver.Calls

/-!
# Initialising again

`init` fills the vectors of modes and currents that the application has not set, and
keeps what it filled in. A later `init` takes the filled vectors for set ones, so that a
file with another number of motors is rejected.
-/

namespace RmdCanSdk

variable {F : Type} [FloatArith F]

namespace DriverSDK

/-! ## What an `init` comes to -/

/-- The modes, the maximum currents and the registry that a successful `init` works with. -/
def workingSettings (sdk : DriverSDK F) : List Int × List (BitVec 16) × MotorRegistry F :=
  (sdk.operatingModes, sdk.maxCurrents, sdk.registry)

/-- What a step that may throw comes to. -/
def comesTo (step : Step F Unit) (sdk : DriverSDK F) :
    Except String (List Int × List (BitVec 16) × MotorRegistry F) :=
  match step sdk with
  | .ok _ after => .ok after.workingSettings
  | .error message _ => .error message

section

variable {scanf : Scanf F} {path : String} {file : Except String (List XMLElement)}
variable {imu : StartOutcome} {outcomes : Nat → StartOutcome} {sdk : DriverSDK F}

/-- The outcome depends on the vectors that the driver holds, through its settings. -/
theorem comesTo_init : comesTo (init scanf path file imu outcomes) sdk =
    prepared scanf path file sdk.operatingModes sdk.maxCurrents >>= fun settings =>
      comesTo (startAll imu outcomes) settings.idle := by
  cases checked : prepared scanf path file sdk.operatingModes sdk.maxCurrents with
  | ok settings =>
      rw [comesTo, init_of_prepared imu outcomes checked]
      rfl
  | error message =>
      rcases init_of_rejected imu outcomes checked with ⟨after, ended, -⟩
      rw [comesTo, ended]
      rfl

/-- The errors of starts that all return zero. -/
def startErrors : List String :=
  ["starting IMU backend failed", "bitset::set", "starting motor backend failed"]

omit [FloatArith F] in
theorem startOf_returned (config : LoadedConfig F) (groups : List BackendGroup) (index : Nat) :
    ∃ result, startOf config groups (fun _ => .returned 0) index = .returned result := by
  rw [startOf]
  split
  · exact ⟨0, rfl⟩
  · rw [backendStart]
    split
    · split
      · exact ⟨0, rfl⟩
      · exact ⟨-1, rfl⟩
    · exact ⟨0, rfl⟩

omit [FloatArith F] in
/-- Starts that all return zero fail with their own errors only. -/
theorem startAll_error {settings : Prepared F} {message : String}
    (failed : comesTo (startAll (.returned 0) fun _ => .returned 0) settings.idle =
      .error message) : message ∈ startErrors := by
  by_cases imuStarts : ImuStarts settings.config (.returned 0)
  · cases beyond : beyondFrame settings.registry settings.registry.backends with
    | some position =>
        rw [comesTo, startAll_beyondFrame _ imuStarts beyond] at failed
        cases failed
        decide
    | none =>
        rcases startAll_inFrame (fun _ => .returned 0) imuStarts beyond with
          ⟨constructed, -, -, ended⟩
        have loop := forM_startBackend (fun _ => .returned 0)
          (List.range settings.registry.backends.length) constructed
        rw [comesTo, ended] at failed
        split at loop
        next =>
          rcases loop with ⟨after, loop⟩
          rw [Raising.bind_of_ok loop] at failed
          contradiction
        next =>
          rcases loop with ⟨before, loop⟩
          rw [Raising.bind_of_error loop] at failed
          cases failed
          decide
        next first =>
          rcases List.mem_map.mp (List.mem_of_find?_eq_some first) with ⟨index, -, threw⟩
          rcases startOf_returned constructed.config constructed.groups index with
            ⟨result, returned⟩
          cases threw.symm.trans returned
  · rcases startImu_error settings.quiet imuStarts with ⟨other, after, ended, -, cause⟩
    rw [comesTo, startAll, Raising.bind_of_error ended] at failed
    cases failed
    rcases cause with rfl | ⟨running, impossible⟩
    · decide
    · contradiction

end

/-! ## Vectors that are given or filled in -/

section

variable {α : Type} {held given next : List α} {fallback : α} {count : Nat} {message : String}

/-- The held vector is the given one, or it was filled in where none was given. -/
def GivenOrFilled (held given : List α) (fallback : α) : Prop :=
  held = given ∨ given = [] ∧ ∃ count, held = List.replicate count fallback

/-- The held vector does as well as the given one for a number of motors. -/
def Fits (held given : List α) (count : Nat) : Prop :=
  held = given ∨ held.length = count

theorem ensureCount_eq : ensureCount held fallback count message =
    if held = [] then .ok (List.replicate count fallback)
    else if held.length = count then .ok held else .error message := by
  rw [ensureCount]
  split
  next empty =>
    rw [if_pos (List.isEmpty_iff.mp empty)]
    rfl
  next present =>
    rw [if_neg fun empty => present (List.isEmpty_iff.mpr empty), ite_not]
    rfl

theorem ensureCount_replicate (filled : Nat) :
    ensureCount (List.replicate filled fallback) fallback count message =
      if filled = 0 ∨ filled = count then .ok (List.replicate count fallback)
      else .error message := by
  simp only [ensureCount_eq, List.length_replicate, List.replicate_eq_nil_iff]
  by_cases none : filled = 0
  · rw [if_pos none, if_pos (.inl none)]
  · rw [if_neg none]
    by_cases same : filled = count
    · rw [if_pos same, if_pos (.inr same), same]
    · rw [if_neg same, if_neg (not_or.mpr ⟨none, same⟩)]

theorem GivenOrFilled.ensureCount (holds : GivenOrFilled held given fallback)
    (ok : RmdCanSdk.ensureCount held fallback count message = .ok next) :
    GivenOrFilled next given fallback := by
  rcases holds with rfl | ⟨rfl, filled, rfl⟩
  · rw [ensureCount_eq] at ok
    split at ok
    next empty =>
      cases ok
      exact .inr ⟨empty, count, rfl⟩
    next =>
      split at ok
      next =>
        cases ok
        exact .inl rfl
      next => contradiction
  · rw [ensureCount_replicate] at ok
    split at ok
    next =>
      cases ok
      exact .inr ⟨rfl, count, rfl⟩
    next => contradiction

/-- A held vector that fits is as good as the given one. -/
theorem ensureCount_of_fits (holds : GivenOrFilled held given fallback)
    (fits : Fits held given count) :
    ensureCount held fallback count message = ensureCount given fallback count message := by
  rcases holds with rfl | ⟨rfl, filled, rfl⟩
  · rfl
  · rw [ensureCount_replicate]
    apply if_pos
    rcases fits with empty | sized
    · exact .inl ((List.replicate_eq_nil_iff _).mp empty)
    · exact .inr ((List.length_replicate ..).symm.trans sized)

/-- One that does not fit is rejected, although none was given. -/
theorem ensureCount_of_not_fits (message : String) (holds : GivenOrFilled held given fallback)
    (unfit : ¬ Fits held given count) :
    ensureCount held fallback count message = .error message ∧
      ensureCount given fallback count message = .ok (List.replicate count fallback) := by
  rw [Fits, not_or] at unfit
  rcases holds with rfl | ⟨rfl, filled, rfl⟩
  · exact absurd rfl unfit.1
  · refine ⟨?_, rfl⟩
    rw [ensureCount_replicate]
    apply if_neg
    rintro (rfl | rfl)
    · exact unfit.1 rfl
    · exact unfit.2 (List.length_replicate ..)

/-- A vector is rejected when it was given for another number of motors. -/
theorem ensureCount_error_iff {failure : String} :
    ensureCount given fallback count message = .error failure ↔
      failure = message ∧ given ≠ [] ∧ given.length ≠ count := by
  rw [ensureCount_eq]
  split
  next empty =>
    constructor
    · intro impossible
      contradiction
    · exact fun rejected => absurd empty rejected.2.1
  next present =>
    split
    next sized =>
      constructor
      · intro impossible
        contradiction
      · exact fun rejected => absurd sized rejected.2.2
    next unsized =>
      constructor
      · intro failed
        cases failed
        exact ⟨rfl, present, unsized⟩
      · rintro ⟨rfl, -⟩
        rfl

end

/-! ## Two drivers with the same given vectors -/

section

variable {scanf : Scanf F} {path : String} {file : Except String (List XMLElement)}
variable {config : LoadedConfig F} {held given : DriverSDK F}

/-- The vectors of a driver are those of another, or filled in where this has none. -/
structure Fills (held given : DriverSDK F) : Prop where
  operatingModes : GivenOrFilled held.operatingModes given.operatingModes 8
  maxCurrents : GivenOrFilled held.maxCurrents given.maxCurrents 1000

/-- The modes are given for another number of motors, or both held vectors fit. -/
def Unaffected (held given : DriverSDK F) (count : Nat) : Prop :=
  Fits held.operatingModes given.operatingModes count ∧
    ((given.operatingModes ≠ [] ∧ given.operatingModes.length ≠ count) ∨
      Fits held.maxCurrents given.maxCurrents count)

/-- A file that can be loaded leaves the vectors to decide. -/
theorem prepared_loaded (loaded : loadConfig scanf path file = .ok config) :
    ∃ registry, ∀ operatingModes maxCurrents,
      prepared scanf path file operatingModes maxCurrents =
        (ensureOperatingModes operatingModes config.totalMotorCount.toNat >>= fun modes =>
          ensureMaxCurrents maxCurrents config.totalMotorCount.toNat >>= fun currents =>
            .ok { config, registry, operatingModes := modes, maxCurrents := currents }) := by
  rcases loadConfig_ok loaded with ⟨root, motorParameters, -, loads⟩
  rcases MotorRegistry.fromConfig_total loads.configuredBy.inRange with ⟨registry, created⟩
  refine ⟨registry, ?_⟩
  intro operatingModes maxCurrents
  rw [prepared, loaded]
  change (MotorRegistry.fromConfig config.toConfig >>= _) = _
  rw [created]
  rfl

theorem prepared_of_unaffected (loaded : loadConfig scanf path file = .ok config)
    (fills : Fills held given) (unaffected : Unaffected held given config.totalMotorCount.toNat) :
    prepared scanf path file held.operatingModes held.maxCurrents =
      prepared scanf path file given.operatingModes given.maxCurrents := by
  rcases prepared_loaded loaded with ⟨registry, prepares⟩
  rcases unaffected with ⟨modes, currents⟩
  have sameModes : ensureOperatingModes held.operatingModes config.totalMotorCount.toNat =
      ensureOperatingModes given.operatingModes config.totalMotorCount.toNat :=
    ensureCount_of_fits fills.operatingModes modes
  rw [prepares, prepares, sameModes]
  rcases currents with rejected | fits
  · have failed : ensureOperatingModes given.operatingModes config.totalMotorCount.toNat =
        .error "configured motor mode count does not match total motor count" :=
      ensureCount_error_iff.mpr ⟨rfl, rejected⟩
    rw [failed]
    rfl
  · have sameCurrents : ensureMaxCurrents held.maxCurrents config.totalMotorCount.toNat =
        ensureMaxCurrents given.maxCurrents config.totalMotorCount.toNat :=
      ensureCount_of_fits fills.maxCurrents fits
    rw [sameCurrents]

/-- With starts that all return zero the outcomes differ when a vector that was filled
in is rejected. -/
theorem unaffected_of_same (loaded : loadConfig scanf path file = .ok config)
    (fills : Fills held given)
    (same : comesTo (init scanf path file (.returned 0) fun _ => .returned 0) held =
      comesTo (init scanf path file (.returned 0) fun _ => .returned 0) given) :
    Unaffected held given config.totalMotorCount.toNat := by
  rcases prepared_loaded loaded with ⟨registry, prepares⟩
  rw [comesTo_init, comesTo_init, prepares, prepares] at same
  by_cases modes : Fits held.operatingModes given.operatingModes config.totalMotorCount.toNat
  · refine ⟨modes, ?_⟩
    have sameModes : ensureOperatingModes held.operatingModes config.totalMotorCount.toNat =
        ensureOperatingModes given.operatingModes config.totalMotorCount.toNat :=
      ensureCount_of_fits fills.operatingModes modes
    rw [sameModes] at same
    cases ensured : ensureOperatingModes given.operatingModes config.totalMotorCount.toNat with
    | error failure => exact .inl (ensureCount_error_iff.mp ensured).2
    | ok operatingModes =>
        right
        by_contra unfit
        rcases ensureCount_of_not_fits
          "configured max current count does not match total motor count"
          fills.maxCurrents unfit with ⟨rejected, filled⟩
        rw [ensured, ensureMaxCurrents, ensureMaxCurrents, rejected, filled] at same
        exact absurd (startAll_error same.symm) (by decide)
  · rcases ensureCount_of_not_fits "configured motor mode count does not match total motor count"
      fills.operatingModes modes with ⟨rejected, filled⟩
    rw [ensureOperatingModes, ensureOperatingModes, rejected, filled] at same
    cases ensured : ensureMaxCurrents given.maxCurrents config.totalMotorCount.toNat with
    | error failure =>
        rcases ensureCount_error_iff.mp ensured with ⟨rfl, -⟩
        simp only [ensured] at same
        exact absurd (Except.error.inj same) (by decide)
    | ok maxCurrents =>
        simp only [ensured] at same
        exact absurd (startAll_error same.symm) (by decide)

/-- Whatever the starts do, the outcome is the same exactly when the file cannot be
loaded or the filled vectors fit. -/
theorem comesTo_eq_iff (fills : Fills held given) :
    (∀ imu outcomes, comesTo (init scanf path file imu outcomes) held =
        comesTo (init scanf path file imu outcomes) given) ↔
      ∀ config, loadConfig scanf path file = .ok config →
        Unaffected held given config.totalMotorCount.toNat := by
  constructor
  · exact fun same config loaded => unaffected_of_same loaded fills (same _ _)
  · intro unaffected imu outcomes
    rw [comesTo_init, comesTo_init]
    cases loaded : loadConfig scanf path file with
    | error message =>
        rw [prepared, prepared, loaded]
        rfl
    | ok config => rw [prepared_of_unaffected loaded fills (unaffected config loaded)]

end

/-! ## What the application has set -/

/-- A driver, and beside it the vectors that the application has set last. -/
structure Session (F : Type) where
  sdk : DriverSDK F
  modes : List Int
  maxCurr : List (BitVec 16)

namespace Session

def fresh : Session F where
  sdk := DriverSDK.fresh
  modes := []
  maxCurr := []

/-- Only a call that is accepted sets a vector. -/
def call (scanf : Scanf F) (session : Session F) (call : Call) : Session F where
  sdk := call.run scanf session.sdk
  modes :=
    match call with
    | .setMode modes => if session.sdk.initialized then session.modes else modes
    | _ => session.modes
  maxCurr :=
    match call with
    | .setMaxCurr maxCurr => if session.sdk.initialized then session.maxCurr else maxCurr
    | _ => session.maxCurr

def after (scanf : Scanf F) (calls : List Call) : Session F :=
  calls.foldl (call scanf) fresh

/-- A driver that has only the vectors that the application has set. -/
def given (session : Session F) : DriverSDK F := { DriverSDK.fresh with
  operatingModes := session.modes
  maxCurrents := session.maxCurr }

variable {scanf : Scanf F} {session : Session F}

theorem sdk_after (calls : List Call) : (after scanf calls).sdk = run scanf calls DriverSDK.fresh := by
  rw [after, run]
  exact (List.foldl_hom Session.sdk fun _ _ => rfl).symm

/-- A call sets a vector, or it leaves a vector that was given or filled in. -/
theorem fills_call (fills : Fills session.sdk session.given) (next : Call) :
    Fills (session.call scanf next).sdk (session.call scanf next).given := by
  cases next with
  | init path file imu outcomes =>
      rcases init_settled scanf path file imu outcomes session.sdk with
        ⟨settings, checked, same⟩ | ⟨-, -, rejected⟩
      · rcases prepared_ok checked with ⟨-, -, modes, currents⟩
        subst same
        exact ⟨fills.operatingModes.ensureCount modes, fills.maxCurrents.ensureCount currents⟩
      · constructor
        · rcases rejected.operatingModes with same | ⟨config, -, filled⟩
          · exact same.symm ▸ fills.operatingModes
          · exact fills.operatingModes.ensureCount filled
        · exact rejected.maxCurrents.symm ▸ fills.maxCurrents
  | setMode modes =>
      simp only [call, Call.run, setMode_apply]
      split
      · exact fills
      · exact ⟨.inl rfl, fills.maxCurrents⟩
  | setMaxCurr maxCurr =>
      simp only [call, Call.run, setMaxCurrents_apply]
      split
      · exact fills
      · exact ⟨fills.operatingModes, .inl rfl⟩
  | setCntBias cntBias =>
      simp only [call, Call.run, setCountBias_apply]
      split
      · exact fills
      · split
        · exact ⟨fills.operatingModes, fills.maxCurrents⟩
        · exact ⟨fills.operatingModes, fills.maxCurrents⟩

theorem fills_after (scanf : Scanf F) (calls : List Call) :
    Fills (run scanf calls DriverSDK.fresh) (after scanf calls).given := by
  rw [← sdk_after]
  exact List.foldlRecOn (motive := fun session : Session F => Fills session.sdk session.given)
    calls _ ⟨.inl rfl, .inl rfl⟩ fun _ fills call _ => fills_call fills call

end Session

section

variable {scanf : Scanf F} {path : String} {file : Except String (List XMLElement)}
variable {config : LoadedConfig F}

/-- After the first `init` the vectors are filled for its file, if that can be loaded. -/
theorem vectors_init (imu : StartOutcome) (outcomes : Nat → StartOutcome)
    (loaded : loadConfig scanf path file = .ok config) :
    (run scanf [.init path file imu outcomes] fresh).operatingModes =
        List.replicate config.totalMotorCount.toNat 8 ∧
      (run scanf [.init path file imu outcomes] fresh).maxCurrents =
        List.replicate config.totalMotorCount.toNat 1000 := by
  rcases prepared_loaded loaded with ⟨registry, prepares⟩
  rcases init_settled scanf path file imu outcomes fresh with
    ⟨settings, checked, same⟩ | ⟨message, failed, -⟩
  · cases (prepares [] []).symm.trans checked
    exact ⟨congrArg Prepared.operatingModes same, congrArg Prepared.maxCurrents same⟩
  · cases (prepares [] []).symm.trans failed

theorem vectors_init_error {message : String} (imu : StartOutcome) (outcomes : Nat → StartOutcome)
    (failed : loadConfig scanf path file = .error message) :
    (run scanf [.init path file imu outcomes] fresh).operatingModes = [] ∧
      (run scanf [.init path file imu outcomes] fresh).maxCurrents = [] := by
  rcases init_settled scanf path file imu outcomes fresh with
    ⟨settings, checked, -⟩ | ⟨-, -, rejected⟩
  · cases failed.symm.trans (prepared_ok checked).1
  · rcases rejected.operatingModes with same | ⟨config, loaded, -⟩
    · exact ⟨same, rejected.maxCurrents⟩
    · cases failed.symm.trans loaded

/-- Vectors filled for one number of motors fit another only if it is the same, or none
were filled. -/
theorem fits_replicate {α : Type} {fallback : α} {first second : Int} (firstNonneg : 0 ≤ first)
    (secondNonneg : 0 ≤ second) :
    Fits (List.replicate first.toNat fallback) [] second.toNat ↔ first = 0 ∨ first = second := by
  rw [Fits, List.replicate_eq_nil_iff, List.length_replicate]
  omega

/-- What an `init` has filled in fits another file if it has no motors or as many. -/
theorem unaffected_after_init_iff {firstPath : String}
    {firstFile : Except String (List XMLElement)} (imu : StartOutcome)
    (outcomes : Nat → StartOutcome) (loaded : loadConfig scanf path file = .ok config) :
    Unaffected (run scanf [.init firstPath firstFile imu outcomes] fresh) fresh
        config.totalMotorCount.toNat ↔
      ∀ first, loadConfig scanf firstPath firstFile = .ok first →
        first.totalMotorCount = 0 ∨ first.totalMotorCount = config.totalMotorCount := by
  rcases loadConfig_ok loaded with ⟨_, _, -, loads⟩
  cases firstLoaded : loadConfig scanf firstPath firstFile with
  | error message =>
      rcases vectors_init_error imu outcomes firstLoaded with ⟨modes, currents⟩
      constructor
      · intro _ first impossible
        contradiction
      · exact fun _ => ⟨.inl modes, .inr (.inl currents)⟩
  | ok first =>
      rcases vectors_init imu outcomes firstLoaded with ⟨modes, currents⟩
      rcases loadConfig_ok firstLoaded with ⟨_, _, -, firstLoads⟩
      have fits : ∀ {α : Type} (fallback : α),
          Fits (List.replicate first.totalMotorCount.toNat fallback) []
              config.totalMotorCount.toNat ↔
            first.totalMotorCount = 0 ∨ first.totalMotorCount = config.totalMotorCount :=
        fun _ => fits_replicate firstLoads.count_nonneg loads.count_nonneg
      simp only [Except.ok.injEq, forall_eq']
      rw [Unaffected, modes, currents]
      constructor
      · exact fun unaffected => (fits 8).mp unaffected.1
      · exact fun same => ⟨(fits 8).mpr same, .inr ((fits 1000).mpr same)⟩

end

/-- After an `init` with one file the outcome for another is that of a fresh driver
exactly when one of them cannot be loaded, the first has no motors, or both have the same
number. After any calls the outcome is the one for the vectors that the application has
set exactly when the vectors that are held fit the file. -/
theorem init_independent_iff (scanf : Scanf F) :
    (∀ firstPath firstFile firstImu firstOutcomes path file,
      (∀ imu outcomes,
        comesTo (init scanf path file imu outcomes)
            (run scanf [.init firstPath firstFile firstImu firstOutcomes] fresh) =
          comesTo (init scanf path file imu outcomes) fresh) ↔
        ∀ first second, loadConfig scanf firstPath firstFile = .ok first →
          loadConfig scanf path file = .ok second →
            first.totalMotorCount = 0 ∨ first.totalMotorCount = second.totalMotorCount) ∧
    ∀ calls path file,
      (∀ imu outcomes,
        comesTo (init scanf path file imu outcomes) (run scanf calls fresh) =
          comesTo (init scanf path file imu outcomes) (Session.after scanf calls).given) ↔
        ∀ config, loadConfig scanf path file = .ok config →
          Unaffected (run scanf calls fresh) (Session.after scanf calls).given
            config.totalMotorCount.toNat := by
  constructor
  · intro firstPath firstFile firstImu firstOutcomes path file
    have fills : Fills (run scanf [.init firstPath firstFile firstImu firstOutcomes] fresh) fresh :=
      Session.fills_after scanf [.init firstPath firstFile firstImu firstOutcomes]
    rw [comesTo_eq_iff fills]
    constructor
    · intro unaffected first second firstLoaded loaded
      exact (unaffected_after_init_iff firstImu firstOutcomes loaded).mp (unaffected second loaded)
        first firstLoaded
    · intro same second loaded
      apply (unaffected_after_init_iff firstImu firstOutcomes loaded).mpr
      exact fun first firstLoaded => same first second firstLoaded loaded
  · intro calls path file
    exact comesTo_eq_iff (Session.fills_after scanf calls)

/-- After an `init` for one motor, with neither modes nor currents set, a file with two
motors is rejected for its modes. A fresh driver accepts it. -/
theorem init_after_fewer_motors :
    comesTo (init plainScanf "" (.ok [canDocument ["1", "2"]]) (.returned 0) fun _ => .returned 0)
        (run plainScanf [.init "" (.ok [canDocument ["1"]]) (.returned 0) fun _ => .returned 0]
          (fresh : DriverSDK ℚ)) =
      .error "configured motor mode count does not match total motor count" ∧
    ∃ registry : MotorRegistry ℚ,
      comesTo (init plainScanf "" (.ok [canDocument ["1", "2"]]) (.returned 0)
        fun _ => .returned 0) fresh = .ok ([8, 8], [1000, 1000], registry) :=
  ⟨rfl, _, rfl⟩

end DriverSDK

end RmdCanSdk
