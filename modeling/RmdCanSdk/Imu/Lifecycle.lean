import RmdCanSdk.Imu.Backend

/-!
# The life of the read thread

Whatever the caller and the read thread do: the thread has the one descriptor to itself, it is
joined before the next one is started, and what it publishes are the samples of what it reads.
-/

namespace RmdCanSdk

variable {F : Type} [FloatArith F] {floatOfBits : BitVec 32 → F}

/-! ## Samples -/

section

omit [FloatArith F]

theorem prefix_readByte [FloatArith F] (type : String) (protocol : ImuProtocol)
    (loop : ReadLoop F) (byte : Byte) :
    loop.published <+: (loop.readByte floatOfBits type protocol byte).published := by
  simp only [ReadLoop.readByte]
  split
  · split <;> exact List.prefix_rfl
  · split
    · split <;> exact List.prefix_rfl
    · split
      · exact List.prefix_append _ _
      · exact List.prefix_rfl

theorem prefix_readInput [FloatArith F] (type : String) (protocol : ImuProtocol)
    (loop : ReadLoop F) (input : List Byte) :
    loop.published <+: (loop.readInput floatOfBits type protocol input).published := by
  induction input generalizing loop with
  | nil => exact List.prefix_rfl
  | cons byte rest ih => exact (prefix_readByte type protocol loop byte).trans (ih _)

end

theorem Yesense.prefix_readInput {loop next : Yesense.ReadLoop F F} {input : List Byte}
    (read : loop.readInput input = some next) : loop.published <+: next.published := by
  simp only [Yesense.ReadLoop.readInput] at read
  split at read
  · cases read
    exact List.prefix_rfl
  · rcases Option.map_eq_some_iff.mp read with ⟨⟨decoded, imu⟩, -, rfl⟩
    exact List.prefix_append _ _

/-- A read adds samples to those of the reads before. -/
theorem prefix_samplesOf {type : String} {reads : List (List Byte)} {input : List Byte}
    {before after : List (ImuStruct F)} (hasBefore : samplesOf floatOfBits type reads = some before)
    (hasAfter : samplesOf floatOfBits type (reads ++ [input]) = some after) : before <+: after := by
  simp only [samplesOf] at hasBefore hasAfter
  split at hasBefore
  next yesense =>
    rw [if_pos yesense] at hasAfter
    rcases Option.map_eq_some_iff.mp hasBefore with ⟨loop, ran, rfl⟩
    rcases Option.map_eq_some_iff.mp hasAfter with ⟨next, ranOn, rfl⟩
    rw [Yesense.ReadLoop.readAll, List.foldlM_append] at ranOn
    rcases Option.bind_eq_some_iff.mp ranOn with ⟨middle, same, ranOn⟩
    cases ran.symm.trans same
    rw [List.foldlM_cons] at ranOn
    rcases Option.bind_eq_some_iff.mp ranOn with ⟨last, read, ends⟩
    cases ends
    exact Yesense.prefix_readInput read
  next framed =>
    rw [if_neg framed] at hasAfter
    simp only [readLoop, if_neg framed] at hasBefore hasAfter
    cases known : protocolForType type with
    | none =>
        rw [known] at hasBefore
        contradiction
    | some protocol =>
        rw [known] at hasBefore hasAfter
        cases hasBefore
        cases hasAfter
        rw [ReadLoop.readAll, ReadLoop.readAll, List.foldl_append]
        exact prefix_readInput type protocol _ input

theorem samplesOf_nil {type : String} (known : (protocolForType type).isSome = true) :
    samplesOf floatOfBits type [] = some [] := by
  rcases Option.isSome_iff_exists.mp known with ⟨protocol, known⟩
  simp only [samplesOf]
  split
  · rfl
  next framed =>
    rw [readLoop, known]
    simp only [Option.bind_some, if_neg framed]
    rfl

/-- A type stays known when it is normalised. -/
theorem isSome_protocolForType_normalizeType {type : String}
    (known : (protocolForType type).isSome = true) :
    (protocolForType (normalizeType type)).isSome = true := by
  have names : normalizeType type = "XSENS" ∨ normalizeType type = "HIPNUC" ∨
      normalizeType type = "YESENSE" := by
    by_contra other
    rw [not_or, not_or] at other
    simp only [protocolForType, if_neg other.1, if_neg other.2.1, if_neg other.2.2] at known
    contradiction
  rcases names with name | name | name <;> rw [name] <;> decide

/-! ## Phases -/

namespace Rs232ImuBackend

variable {backend next : Rs232ImuBackend F}

/-- The buffer was given zeros and then, but for those that are left, the samples of what the
thread has read. -/
def Publishes (floatOfBits : BitVec 32 → F) (backend : Rs232ImuBackend F)
    (reads : List (List Byte)) (left : List (ImuStruct F)) : Prop :=
  ∃ earlier samples, samplesOf floatOfBits backend.type reads = some samples ∧
    backend.published ++ left = earlier ++ .zero :: samples

def Known (type : String) : Prop := (protocolForType type).isSome = true

/-- One descriptor is open. -/
def Holds (backend : Rs232ImuBackend F) (fd : Int) : Prop :=
  0 ≤ fd ∧ backend.descriptors = [fd]

/-- No descriptor is open, and none is remembered. -/
def Free (backend : Rs232ImuBackend F) : Prop :=
  backend.serialFd = -1 ∧ backend.descriptors = []

/-- A descriptor is open and remembered while the backend runs. -/
def Runs (backend : Rs232ImuBackend F) (fd : Int) : Prop :=
  backend.Holds fd ∧ backend.serialFd = fd ∧ backend.running = true

/-- What holds while the read thread stands in a phase. -/
def ThreadIn (floatOfBits : BitVec 32 → F) (backend : Rs232ImuBackend F) : ReadPhase F → Prop
  | .entered => backend.Runs backend.serialFd ∧ Known backend.type ∧
      backend.Publishes floatOfBits [] []
  | .checking fd reads | .reading fd reads =>
      backend.Runs fd ∧ backend.Publishes floatOfBits reads []
  | .publishing fd reads left => backend.Runs fd ∧ backend.Publishes floatOfBits reads left
  | .closing fd => backend.Runs fd ∧ backend.stop = true
  | .clearing => backend.descriptors = [] ∧ backend.running = true ∧ backend.stop = true
  | .finishing => backend.Free ∧ backend.running = true ∧ backend.stop = true
  | .exited => backend.Free ∧ backend.running = false ∧ backend.stop = true

/-- Nothing runs, and nothing is left of what has run. -/
def Rests (backend : Rs232ImuBackend F) : Prop := backend.Free ∧ backend.running = false

/-- What holds while the caller stands in a phase. -/
def CallerIn (backend : Rs232ImuBackend F) : CallPhase → Prop
  | .idle result =>
      match backend.thread with
      | none => backend.Rests ∧ result ≠ some 0
      | some _ => backend.stop = false ∧ result ≠ none
  | .opening type => backend.thread = none ∧ backend.Rests ∧ Known type
  | .gettingAttributes type fd | .settingAttributes type fd | .keeping type fd =>
      backend.thread = none ∧ backend.Holds fd ∧ backend.serialFd = -1 ∧
        backend.running = false ∧ Known type
  | .abandoning fd => backend.thread = none ∧ backend.Holds fd ∧ backend.serialFd = -1 ∧
      backend.running = false
  | .publishing => backend.thread = none ∧ backend.Holds backend.serialFd ∧ Known backend.type
  | .resuming => backend.thread = none ∧ backend.Holds backend.serialFd ∧ Known backend.type ∧
      ∃ earlier, backend.published = earlier ++ [.zero]
  | .announcing => backend.thread = none ∧ backend.Holds backend.serialFd ∧ Known backend.type ∧
      (∃ earlier, backend.published = earlier ++ [.zero]) ∧ backend.stop = false
  | .spawning => backend.thread = none ∧ backend.Holds backend.serialFd ∧ Known backend.type ∧
      (∃ earlier, backend.published = earlier ++ [.zero]) ∧ backend.stop = false ∧
      backend.running = true
  | .joining => backend.stop = true ∧ (backend.thread = none → backend.Rests)
  | .leaving => backend.thread = none ∧ backend.Free
  | .terminated => False

/-- What holds in every state. -/
structure Coherent (floatOfBits : BitVec 32 → F) (backend : Rs232ImuBackend F) : Prop where
  caller : backend.CallerIn backend.caller
  thread : ∀ phase, backend.thread = some phase → backend.ThreadIn floatOfBits phase

theorem coherent_constructed : (constructed : Rs232ImuBackend F).Coherent floatOfBits where
  caller := ⟨⟨⟨rfl, rfl⟩, rfl⟩, fun started => by contradiction⟩
  thread _ started := by contradiction

/-! ## Steps -/

/-- Without a thread there is only the caller. -/
theorem Coherent.of_noThread (none : next.thread = none) (caller : next.CallerIn next.caller) :
    next.Coherent floatOfBits where
  caller := caller
  thread phase started := by
    rw [none] at started
    contradiction

/-- The caller is idle or waits for the thread while there is one, and does not see its steps. -/
theorem CallerIn.of_thread {before after : ReadPhase F} (caller : backend.CallerIn backend.caller)
    (started : backend.thread = some before) (proceeded : next.thread = some after)
    (stop : next.stop = backend.stop) (same : next.caller = backend.caller) :
    next.CallerIn next.caller := by
  rw [same]
  cases phase : backend.caller with
  | idle result =>
      rw [phase, CallerIn, started] at caller
      rw [CallerIn, proceeded, stop]
      exact caller
  | joining =>
      rw [phase] at caller
      refine ⟨stop.trans caller.1, fun none => ?_⟩
      rw [proceeded] at none
      contradiction
  | terminated => exact absurd (phase ▸ caller : backend.CallerIn .terminated) id
  | _ =>
      rw [phase] at caller
      have none := caller.1
      rw [started] at none
      contradiction

theorem Coherent.callerIn {phase : CallPhase} (coherent : backend.Coherent floatOfBits)
    (current : backend.caller = phase) : backend.CallerIn phase := by
  rw [← current]
  exact coherent.caller

variable {result fd : Int} {type : String}

/-- The device is opened as the only descriptor, or `start` fails. -/
theorem Coherent.call_opening (coherent : backend.Coherent floatOfBits)
    (phase : backend.caller = .opening type) (called : backend.call result = some next) :
    next.Coherent floatOfBits := by
  rcases coherent.callerIn phase with ⟨none, rests, known⟩
  simp only [Rs232ImuBackend.call, phase] at called
  split at called
  next failed =>
    cases called
    refine Coherent.of_noThread (by exact none) ?_
    rw [CallerIn, none]
    exact ⟨rests, by decide⟩
  next opened =>
    split at called
    · contradiction
    · cases called
      refine Coherent.of_noThread (by exact none) ?_
      have one : result :: backend.descriptors = [result] := by rw [rests.1.2]
      exact ⟨none, ⟨not_lt.mp opened, one⟩, rests.1.1, rests.2, known⟩

/-- The attributes of the device are read, or the device is given up. -/
theorem Coherent.call_gettingAttributes (coherent : backend.Coherent floatOfBits)
    (phase : backend.caller = .gettingAttributes type fd)
    (called : backend.call result = some next) : next.Coherent floatOfBits := by
  rcases coherent.callerIn phase with ⟨none, holds, serialFd, notRunning, known⟩
  simp only [Rs232ImuBackend.call, phase] at called
  cases called
  refine Coherent.of_noThread (by exact none) ?_
  dsimp only
  split
  · exact ⟨none, holds, serialFd, notRunning, known⟩
  · exact ⟨none, holds, serialFd, notRunning⟩

theorem Coherent.call_settingAttributes (coherent : backend.Coherent floatOfBits)
    (phase : backend.caller = .settingAttributes type fd)
    (called : backend.call result = some next) : next.Coherent floatOfBits := by
  rcases coherent.callerIn phase with ⟨none, holds, serialFd, notRunning, known⟩
  simp only [Rs232ImuBackend.call, phase] at called
  cases called
  refine Coherent.of_noThread (by exact none) ?_
  dsimp only
  split
  · exact ⟨none, holds, serialFd, notRunning, known⟩
  · exact ⟨none, holds, serialFd, notRunning⟩

/-- A device that is given up is closed. -/
theorem Coherent.call_abandoning (coherent : backend.Coherent floatOfBits)
    (phase : backend.caller = .abandoning fd) (called : backend.call result = some next) :
    next.Coherent floatOfBits := by
  rcases coherent.callerIn phase with ⟨none, holds, serialFd, notRunning⟩
  simp only [Rs232ImuBackend.call, phase] at called
  cases called
  refine Coherent.of_noThread (by exact none) ?_
  have closed : backend.descriptors.erase fd = [] := by
    rw [holds.2, List.erase_cons_head]
  rw [CallerIn]
  simp only [none]
  exact ⟨⟨⟨serialFd, closed⟩, notRunning⟩, by decide⟩

theorem Coherent.call_keeping (coherent : backend.Coherent floatOfBits)
    (phase : backend.caller = .keeping type fd) (called : backend.call result = some next) :
    next.Coherent floatOfBits := by
  rcases coherent.callerIn phase with ⟨none, holds, -, -, known⟩
  simp only [Rs232ImuBackend.call, phase] at called
  cases called
  refine Coherent.of_noThread (by exact none) ?_
  exact ⟨none, holds, isSome_protocolForType_normalizeType known⟩

theorem Coherent.call_publishing (coherent : backend.Coherent floatOfBits)
    (phase : backend.caller = .publishing) (called : backend.call result = some next) :
    next.Coherent floatOfBits := by
  rcases coherent.callerIn phase with ⟨none, holds, known⟩
  simp only [Rs232ImuBackend.call, phase] at called
  cases called
  refine Coherent.of_noThread (by exact none) ?_
  exact ⟨none, holds, known, _, rfl⟩

theorem Coherent.call_resuming (coherent : backend.Coherent floatOfBits)
    (phase : backend.caller = .resuming) (called : backend.call result = some next) :
    next.Coherent floatOfBits := by
  rcases coherent.callerIn phase with ⟨none, holds, known, zero⟩
  simp only [Rs232ImuBackend.call, phase] at called
  cases called
  refine Coherent.of_noThread (by exact none) ?_
  exact ⟨none, holds, known, zero, rfl⟩

theorem Coherent.call_announcing (coherent : backend.Coherent floatOfBits)
    (phase : backend.caller = .announcing) (called : backend.call result = some next) :
    next.Coherent floatOfBits := by
  rcases coherent.callerIn phase with ⟨none, holds, known, zero, resumed⟩
  simp only [Rs232ImuBackend.call, phase] at called
  cases called
  refine Coherent.of_noThread (by exact none) ?_
  exact ⟨none, holds, known, zero, resumed, rfl⟩

/-- The thread is started where there is none, with everything it needs. -/
theorem Coherent.call_spawning (coherent : backend.Coherent floatOfBits)
    (phase : backend.caller = .spawning) (called : backend.call result = some next) :
    next.Coherent floatOfBits := by
  rcases coherent.callerIn phase with ⟨none, holds, known, ⟨earlier, zero⟩, resumed, running⟩
  simp only [Rs232ImuBackend.call, phase, none] at called
  cases called
  refine ⟨⟨resumed, by decide⟩, ?_⟩
  rintro _ ⟨⟩
  refine ⟨⟨holds, rfl, running⟩, known, earlier, [], samplesOf_nil known, ?_⟩
  exact (List.append_nil _).trans zero

/-- The join waits for the thread, which leaves nothing open behind it. -/
theorem Coherent.call_joining (coherent : backend.Coherent floatOfBits)
    (phase : backend.caller = .joining) (called : backend.call result = some next) :
    next.Coherent floatOfBits := by
  rcases coherent.callerIn phase with ⟨stop, rests⟩
  simp only [Rs232ImuBackend.call, phase] at called
  split at called
  next none =>
    cases called
    exact Coherent.of_noThread (by exact none) ⟨none, (rests none).1⟩
  next exited =>
    cases called
    exact Coherent.of_noThread (by rfl) ⟨rfl, (coherent.thread _ exited).1⟩
  next => contradiction

theorem Coherent.call_leaving (coherent : backend.Coherent floatOfBits)
    (phase : backend.caller = .leaving) (called : backend.call result = some next) :
    next.Coherent floatOfBits := by
  rcases coherent.callerIn phase with ⟨none, free⟩
  simp only [Rs232ImuBackend.call, phase] at called
  cases called
  refine Coherent.of_noThread (by exact none) ?_
  rw [CallerIn]
  simp only [none]
  exact ⟨⟨free, rfl⟩, fun started => by contradiction⟩

theorem Coherent.call (coherent : backend.Coherent floatOfBits)
    (called : backend.call result = some next) : next.Coherent floatOfBits := by
  cases phase : backend.caller with
  | idle returned | terminated =>
      rw [Rs232ImuBackend.call, phase] at called
      contradiction
  | opening type => exact coherent.call_opening phase called
  | gettingAttributes type fd => exact coherent.call_gettingAttributes phase called
  | settingAttributes type fd => exact coherent.call_settingAttributes phase called
  | abandoning fd => exact coherent.call_abandoning phase called
  | keeping type fd => exact coherent.call_keeping phase called
  | publishing => exact coherent.call_publishing phase called
  | resuming => exact coherent.call_resuming phase called
  | announcing => exact coherent.call_announcing phase called
  | spawning => exact coherent.call_spawning phase called
  | joining => exact coherent.call_joining phase called
  | leaving => exact coherent.call_leaving phase called

theorem Coherent.of_thread {before after : ReadPhase F} (coherent : backend.Coherent floatOfBits)
    (started : backend.thread = some before) (proceeded : next.thread = some after)
    (stop : next.stop = backend.stop) (same : next.caller = backend.caller)
    (holds : next.ThreadIn floatOfBits after) : next.Coherent floatOfBits where
  caller := coherent.caller.of_thread started proceeded stop same
  thread phase current := by
    rw [proceeded] at current
    cases current
    exact holds

/-- The samples of a read are what is left to publish. -/
theorem Publishes.read {reads : List (List Byte)} {input : List Byte}
    {before after : List (ImuStruct F)} (publishes : backend.Publishes floatOfBits reads [])
    (hasBefore : samplesOf floatOfBits backend.type reads = some before)
    (hasAfter : samplesOf floatOfBits backend.type (reads ++ [input]) = some after) :
    backend.Publishes floatOfBits (reads ++ [input]) (after.drop before.length) := by
  rcases publishes with ⟨earlier, samples, same, published⟩
  cases hasBefore.symm.trans same
  rcases prefix_samplesOf hasBefore hasAfter with ⟨added, rfl⟩
  refine ⟨earlier, _, hasAfter, ?_⟩
  rw [List.append_nil] at published
  rw [List.drop_left, published, List.append_assoc, List.cons_append]

variable {input : List Byte} {reads : List (List Byte)} {left : List (ImuStruct F)}

/-- A thread that is started knows its type and has its descriptor. -/
theorem Coherent.read_entered (coherent : backend.Coherent floatOfBits)
    (started : backend.thread = some .entered) (read : backend.read floatOfBits input = some next) :
    next.Coherent floatOfBits := by
  rcases coherent.thread _ started with ⟨runs, known, publishes⟩
  simp only [Rs232ImuBackend.read, started] at read
  split at read
  next rejected =>
    rcases rejected with unknown | negative
    · rw [Option.isNone_iff_eq_none] at unknown
      rw [Known, unknown] at known
      contradiction
    · exact absurd negative (not_lt.mpr runs.1.1)
  next =>
    cases read
    exact coherent.of_thread started rfl rfl rfl ⟨runs, publishes⟩

theorem Coherent.read_checking (coherent : backend.Coherent floatOfBits)
    (started : backend.thread = some (.checking fd reads))
    (read : backend.read floatOfBits input = some next) : next.Coherent floatOfBits := by
  rcases coherent.thread _ started with ⟨runs, publishes⟩
  simp only [Rs232ImuBackend.read, started] at read
  cases read
  refine coherent.of_thread started rfl rfl rfl ?_
  split
  next stopped => exact ⟨runs, stopped⟩
  next => exact ⟨runs, publishes⟩

/-- A read leaves its samples to publish, or nothing. -/
theorem Coherent.read_reading (coherent : backend.Coherent floatOfBits)
    (started : backend.thread = some (.reading fd reads))
    (read : backend.read floatOfBits input = some next) : next.Coherent floatOfBits := by
  rcases coherent.thread _ started with ⟨runs, publishes⟩
  simp only [Rs232ImuBackend.read, started] at read
  split at read
  · contradiction
  · split at read
    · cases read
      exact coherent.of_thread started rfl rfl rfl ⟨runs, publishes⟩
    · rcases Option.bind_eq_some_iff.mp read with ⟨before, hasBefore, read⟩
      rcases Option.bind_eq_some_iff.mp read with ⟨after, hasAfter, read⟩
      cases read
      refine coherent.of_thread started rfl rfl rfl ⟨runs, ?_⟩
      exact publishes.read hasBefore hasAfter

theorem Coherent.read_publishing (coherent : backend.Coherent floatOfBits)
    (started : backend.thread = some (.publishing fd reads left))
    (read : backend.read floatOfBits input = some next) : next.Coherent floatOfBits := by
  rcases coherent.thread _ started with ⟨runs, publishes⟩
  cases left with
  | nil =>
      simp only [Rs232ImuBackend.read, started] at read
      cases read
      exact coherent.of_thread started rfl rfl rfl ⟨runs, publishes⟩
  | cons sample left =>
      simp only [Rs232ImuBackend.read, started] at read
      cases read
      rcases publishes with ⟨earlier, samples, same, published⟩
      refine coherent.of_thread started rfl rfl rfl ⟨runs, earlier, samples, same, ?_⟩
      exact (List.append_assoc _ _ _).trans published

/-- The thread closes the descriptor that it has used, which was the only one. -/
theorem Coherent.read_closing (coherent : backend.Coherent floatOfBits)
    (started : backend.thread = some (.closing fd))
    (read : backend.read floatOfBits input = some next) : next.Coherent floatOfBits := by
  rcases coherent.thread _ started with ⟨runs, stopped⟩
  simp only [Rs232ImuBackend.read, started] at read
  cases read
  have closed : backend.descriptors.erase fd = [] := by
    rw [runs.1.2, List.erase_cons_head]
  exact coherent.of_thread started rfl rfl rfl ⟨closed, runs.2.2, stopped⟩

theorem Coherent.read_clearing (coherent : backend.Coherent floatOfBits)
    (started : backend.thread = some .clearing)
    (read : backend.read floatOfBits input = some next) : next.Coherent floatOfBits := by
  rcases coherent.thread _ started with ⟨closed, running, stopped⟩
  simp only [Rs232ImuBackend.read, started] at read
  cases read
  exact coherent.of_thread started rfl rfl rfl ⟨⟨rfl, closed⟩, running, stopped⟩

theorem Coherent.read_finishing (coherent : backend.Coherent floatOfBits)
    (started : backend.thread = some .finishing)
    (read : backend.read floatOfBits input = some next) : next.Coherent floatOfBits := by
  rcases coherent.thread _ started with ⟨free, -, stopped⟩
  simp only [Rs232ImuBackend.read, started] at read
  cases read
  exact coherent.of_thread started rfl rfl rfl ⟨free, rfl, stopped⟩

theorem Coherent.read (coherent : backend.Coherent floatOfBits)
    (read : backend.read floatOfBits input = some next) : next.Coherent floatOfBits := by
  cases started : backend.thread with
  | none =>
      rw [Rs232ImuBackend.read, started] at read
      contradiction
  | some phase =>
      cases phase with
      | entered => exact coherent.read_entered started read
      | checking fd reads => exact coherent.read_checking started read
      | reading fd reads => exact coherent.read_reading started read
      | publishing fd reads left => exact coherent.read_publishing started read
      | closing fd => exact coherent.read_closing started read
      | clearing => exact coherent.read_clearing started read
      | finishing => exact coherent.read_finishing started read
      | exited =>
          simp only [Rs232ImuBackend.read, started] at read
          contradiction

/-- The flag is set without regard to the thread, which sees it at its next iteration. -/
theorem ThreadIn.requestStop {phase : ReadPhase F} (holds : backend.ThreadIn floatOfBits phase)
    (caller : CallPhase) :
    ({ backend with stop := true, caller := caller } : Rs232ImuBackend F).ThreadIn floatOfBits
      phase := by
  cases phase with
  | closing fd => exact ⟨holds.1, rfl⟩
  | clearing | finishing | exited => exact ⟨holds.1, holds.2.1, rfl⟩
  | _ => exact holds

theorem Coherent.requestStop {result : Option Int} (coherent : backend.Coherent floatOfBits)
    (idle : backend.caller = .idle result) :
    ({ backend with stop := true, caller := .joining } : Rs232ImuBackend F).Coherent
      floatOfBits where
  caller := by
    have caller := coherent.caller
    refine ⟨rfl, fun none => ?_⟩
    have none : backend.thread = Option.none := none
    rw [idle, CallerIn, none] at caller
    exact caller.1
  thread phase started := (coherent.thread phase started).requestStop _

theorem ThreadIn.of_caller {phase : ReadPhase F} (holds : backend.ThreadIn floatOfBits phase)
    (caller : CallPhase) :
    ({ backend with caller := caller } : Rs232ImuBackend F).ThreadIn floatOfBits phase := by
  cases phase <;> exact holds

omit [FloatArith F] in
theorem begin_cases (backend : Rs232ImuBackend F) (device type : Option String) (baudrate : Int) :
    backend.begin device type baudrate = .idle (some (-1)) ∨
      (backend.running = true ∧ backend.begin device type baudrate = .idle (some 0)) ∨
      ∃ type', backend.running = false ∧ Known type' ∧
        backend.begin device type baudrate = .opening type' := by
  cases device with
  | none => exact .inl rfl
  | some device =>
      cases type with
      | none => exact .inl rfl
      | some type =>
          simp only [begin]
          cases protocol : protocolForType type with
          | none => exact .inl rfl
          | some protocol' =>
              cases running : backend.running with
              | true => exact .inr (.inl ⟨rfl, rfl⟩)
              | false =>
                  cases baudToSpeed baudrate with
                  | none => exact .inl rfl
                  | some speed =>
                      exact .inr (.inr ⟨type, rfl, by rw [Known, protocol]; rfl, rfl⟩)

/-- A thread that was not asked to stop runs. -/
theorem ThreadIn.runs {phase : ReadPhase F} (holds : backend.ThreadIn floatOfBits phase)
    (notStopped : backend.stop = false) : ∃ fd, backend.Runs fd := by
  cases phase with
  | entered => exact ⟨_, holds.1⟩
  | checking fd reads | reading fd reads | publishing fd reads left => exact ⟨fd, holds.1⟩
  | closing fd => exact ⟨fd, holds.1⟩
  | clearing | finishing | exited =>
      have stopped := holds.2.2
      rw [notStopped] at stopped
      contradiction

theorem Coherent.begin {result : Option Int} (coherent : backend.Coherent floatOfBits)
    (idle : backend.caller = .idle result) (device type : Option String) (baudrate : Int) :
    ({ backend with caller := backend.begin device type baudrate } : Rs232ImuBackend F).Coherent
      floatOfBits where
  caller := by
    have caller := coherent.caller
    rw [idle, CallerIn] at caller
    cases thread : backend.thread with
    | none =>
        rw [thread] at caller
        rcases backend.begin_cases device type baudrate with failed | ⟨running, -⟩ |
          ⟨type', -, known, opens⟩
        · rw [failed]
          exact ⟨caller.1, by decide⟩
        · rw [caller.1.2] at running
          contradiction
        · rw [opens]
          exact ⟨rfl, caller.1, known⟩
    | some phase =>
        rw [thread] at caller
        rcases (coherent.thread phase thread).runs caller.1 with ⟨fd, runs⟩
        rcases backend.begin_cases device type baudrate with failed | ⟨-, again⟩ |
          ⟨type', notRunning, -, -⟩
        · rw [failed]
          exact ⟨caller.1, by decide⟩
        · rw [again]
          exact ⟨caller.1, by decide⟩
        · rw [runs.2.2] at notRunning
          contradiction
  thread phase started := (coherent.thread phase started).of_caller _

theorem Coherent.step {event : ImuEvent} (stepped : step floatOfBits backend event = some next)
    (coherent : backend.Coherent floatOfBits) : next.Coherent floatOfBits := by
  cases event with
  | start device type baudrate =>
      simp only [Rs232ImuBackend.step] at stepped
      split at stepped
      next idle =>
        cases stepped
        exact coherent.begin idle device type baudrate
      next => contradiction
  | stop =>
      simp only [Rs232ImuBackend.step] at stepped
      split at stepped
      next idle =>
        cases stepped
        exact coherent.requestStop idle
      next => contradiction
  | call result => exact coherent.call stepped
  | read input => exact coherent.read stepped

end Rs232ImuBackend

/-! ## What can be relied on -/

/-- The descriptor that the next step uses, if it is a system call with one. -/
def CallPhase.descriptor : CallPhase → Option Int
  | .gettingAttributes _ fd | .settingAttributes _ fd | .abandoning fd => some fd
  | _ => none

def ReadPhase.descriptor : ReadPhase F → Option Int
  | .reading fd _ | .closing fd => some fd
  | _ => none

/-- `start` has passed its checks, and has not started the thread. -/
def CallPhase.Prepares : CallPhase → Prop
  | .idle _ | .joining | .leaving | .terminated => False
  | _ => True

/-- What the thread has read, and the samples of it that it has not published yet. -/
def ReadPhase.progress : ReadPhase F → Option (List (List Byte) × List (ImuStruct F))
  | .entered => some ([], [])
  | .checking _ reads | .reading _ reads => some (reads, [])
  | .publishing _ reads left => some (reads, left)
  | _ => none

namespace Rs232ImuBackend

/-- What the backend makes sure of. -/
structure Orderly (floatOfBits : BitVec 32 → F) (backend : Rs232ImuBackend F) : Prop where
  notTerminated : backend.caller ≠ .terminated
  oneDescriptor : backend.descriptors.length ≤ 1
  callerUses : ∀ fd, backend.caller.descriptor = some fd → fd ∈ backend.descriptors
  threadUses : ∀ phase fd, backend.thread = some phase → phase.descriptor = some fd →
    fd ∈ backend.descriptors
  alone : backend.caller.Prepares → backend.thread = none
  idle : ∀ result, backend.caller = .idle result →
    (backend.thread = none ∧ backend.Rests ∧ result ≠ some 0) ∨
      (backend.thread ≠ none ∧ (∃ fd, backend.Runs fd) ∧ backend.stop = false ∧ result ≠ none)
  samples : ∀ phase reads left, backend.thread = some phase →
    phase.progress = some (reads, left) → backend.Publishes floatOfBits reads left

variable {backend : Rs232ImuBackend F}

theorem ThreadIn.length_descriptors {phase : ReadPhase F}
    (holds : backend.ThreadIn floatOfBits phase) : backend.descriptors.length ≤ 1 := by
  cases phase with
  | entered | checking fd reads | reading fd reads | publishing fd reads left | closing fd =>
      rw [holds.1.1.2]
      exact le_rfl
  | clearing =>
      rw [holds.1]
      exact Nat.zero_le 1
  | finishing | exited =>
      rw [holds.1.2]
      exact Nat.zero_le 1

theorem CallerIn.length_descriptors {phase : CallPhase} (caller : backend.CallerIn phase)
    (none : backend.thread = none) : backend.descriptors.length ≤ 1 := by
  cases phase with
  | idle result =>
      rw [CallerIn, none] at caller
      rw [caller.1.1.2]
      exact Nat.zero_le 1
  | opening type =>
      rw [caller.2.1.1.2]
      exact Nat.zero_le 1
  | joining =>
      rw [(caller.2 none).1.2]
      exact Nat.zero_le 1
  | leaving =>
      rw [caller.2.2]
      exact Nat.zero_le 1
  | terminated => exact caller.elim
  | gettingAttributes type fd | settingAttributes type fd | keeping type fd =>
      rw [caller.2.1.2]
      exact le_rfl
  | abandoning fd =>
      rw [caller.2.1.2]
      exact le_rfl
  | publishing | resuming | announcing | spawning =>
      rw [caller.2.1.2]
      exact le_rfl

theorem Coherent.orderly (coherent : backend.Coherent floatOfBits) :
    backend.Orderly floatOfBits where
  notTerminated terminated := by
    have caller := coherent.caller
    rwa [terminated] at caller
  oneDescriptor := by
    cases thread : backend.thread with
    | none => exact coherent.caller.length_descriptors thread
    | some phase => exact (coherent.thread phase thread).length_descriptors
  callerUses fd uses := by
    have caller := coherent.caller
    cases phase : backend.caller with
    | gettingAttributes type fd' | settingAttributes type fd' | abandoning fd' =>
        rw [phase] at caller uses
        cases uses
        rw [caller.2.1.2]
        exact List.mem_singleton_self fd
    | _ =>
        rw [phase] at uses
        contradiction
  threadUses phase fd started uses := by
    have holds := coherent.thread phase started
    cases phase with
    | reading fd' reads | closing fd' =>
        cases uses
        rw [holds.1.1.2]
        exact List.mem_singleton_self fd
    | _ => contradiction
  alone prepares := by
    have caller := coherent.caller
    cases phase : backend.caller with
    | idle result | joining | leaving | terminated =>
        rw [phase] at prepares
        exact prepares.elim
    | _ =>
        rw [phase] at caller
        exact caller.1
  idle result isIdle := by
    have caller := coherent.caller
    rw [isIdle, CallerIn] at caller
    cases thread : backend.thread with
    | none =>
        rw [thread] at caller
        exact .inl ⟨rfl, caller⟩
    | some phase =>
        rw [thread] at caller
        have runs := (coherent.thread phase thread).runs caller.1
        exact .inr ⟨by simp, runs, caller⟩
  samples phase reads left started progress := by
    have holds := coherent.thread phase started
    cases phase with
    | entered =>
        cases progress
        exact holds.2.2
    | checking fd reads' | reading fd reads' | publishing fd reads' left' =>
        cases progress
        exact holds.2
    | _ => contradiction

end Rs232ImuBackend

/-- In every interleaving of the caller with the read thread: no joinable thread is assigned to,
no more than one descriptor is open, and every system call is on the one that is; the caller
opens it and writes what the thread uses while there is no thread. Between operations either
nothing runs and nothing is open, or the thread runs with its descriptor. The buffer was given
zeros first, and then the samples of what the thread has read, and nothing else. -/
theorem imu_lifecycle (floatOfBits : BitVec 32 → F) (events : List ImuEvent)
    (backend : Rs232ImuBackend F)
    (ran : Transition.run (Rs232ImuBackend.step floatOfBits) .constructed events = some backend) :
    backend.Orderly floatOfBits :=
  (Transition.run_invariant (Rs232ImuBackend.Coherent floatOfBits)
    Rs232ImuBackend.Coherent.step ran Rs232ImuBackend.coherent_constructed).orderly

/-- The backend is started, its thread reads a frame and publishes its sample, and the backend is
stopped while the thread reads again. -/
def oneSample : List ImuEvent :=
  [.start (some "/dev/ttyUSB0") (some "Xsens") 115200, .call 3, .call 0, .call 0, .call 0, .call 0,
    .call 0, .call 0, .call 0, .read [], .read [], .read zeroXsens, .read [], .read [], .read [],
    .stop]

theorem oneSample_published :
    (Transition.run (Rs232ImuBackend.step fun _ => (0 : ℚ)) .constructed oneSample).map
      Rs232ImuBackend.published = some [.zero, .zero] := by
  decide +kernel

theorem imu_lifecycle_oneSample :
    ∃ backend, Transition.run (Rs232ImuBackend.step fun _ => (0 : ℚ)) .constructed oneSample =
        some backend ∧
      backend.published = [.zero, .zero] ∧ backend.Orderly fun _ => (0 : ℚ) := by
  rcases Option.map_eq_some_iff.mp oneSample_published with ⟨backend, ran, published⟩
  exact ⟨backend, ran, published, imu_lifecycle _ oneSample backend ran⟩

end RmdCanSdk
