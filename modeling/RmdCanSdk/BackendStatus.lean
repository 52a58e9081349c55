import Mathlib.Algebra.Group.Nat.Defs
import Mathlib.Data.List.MinMax
import Mathlib.Order.Bounds.Basic
import Mathlib.Order.Nat
import RmdCanSdk.Library.Interleaving

/-!
# Backend status counters

Several threads record into one `AtomicBackendStatus`, and each call is a sequence of atomic
operations. A maximum is raised by a loop around a weak compare-and-exchange, which may fail
although it finds the value it expects. No interleaving loses an update: the operations that
are still pending owe exactly what is missing.
-/

namespace RmdCanSdk

/-- The members of the status. -/
structure AtomicBackendStatus where
  running : Bool := false
  degraded : Bool := false
  errorCode : Int := 0
  cycleCount : BitVec 64 := 0
  deadlineMissCount : BitVec 64 := 0
  lastCycleNs : BitVec 64 := 0
  maxCycleNs : BitVec 64 := 0
  lateWakeupCount : BitVec 64 := 0
  lastWakeupLatencyNs : BitVec 64 := 0
  maxWakeupLatencyNs : BitVec 64 := 0
  staleFrameCount : BitVec 64 := 0
  rxTimeoutCount : BitVec 64 := 0
  wcIncompleteCount : BitVec 64 := 0
  deriving DecidableEq

namespace AtomicBackendStatus

/-- The members that are counted up. -/
inductive Counter where
  | cycleCount
  | deadlineMissCount
  | lateWakeupCount
  | staleFrameCount
  | rxTimeoutCount
  | wcIncompleteCount
  deriving DecidableEq

/-- The durations whose last and largest values are kept. -/
inductive Duration where
  | cycle
  | wakeupLatency
  deriving DecidableEq

variable (status : AtomicBackendStatus)

def count : Counter → BitVec 64
  | .cycleCount => status.cycleCount
  | .deadlineMissCount => status.deadlineMissCount
  | .lateWakeupCount => status.lateWakeupCount
  | .staleFrameCount => status.staleFrameCount
  | .rxTimeoutCount => status.rxTimeoutCount
  | .wcIncompleteCount => status.wcIncompleteCount

def fetchAdd : Counter → AtomicBackendStatus
  | .cycleCount => { status with cycleCount := status.cycleCount + 1 }
  | .deadlineMissCount => { status with deadlineMissCount := status.deadlineMissCount + 1 }
  | .lateWakeupCount => { status with lateWakeupCount := status.lateWakeupCount + 1 }
  | .staleFrameCount => { status with staleFrameCount := status.staleFrameCount + 1 }
  | .rxTimeoutCount => { status with rxTimeoutCount := status.rxTimeoutCount + 1 }
  | .wcIncompleteCount => { status with wcIncompleteCount := status.wcIncompleteCount + 1 }

def storeLast (value : BitVec 64) : Duration → AtomicBackendStatus
  | .cycle => { status with lastCycleNs := value }
  | .wakeupLatency => { status with lastWakeupLatencyNs := value }

def maximum : Duration → BitVec 64
  | .cycle => status.maxCycleNs
  | .wakeupLatency => status.maxWakeupLatencyNs

def storeMaximum (value : BitVec 64) : Duration → AtomicBackendStatus
  | .cycle => { status with maxCycleNs := value }
  | .wakeupLatency => { status with maxWakeupLatencyNs := value }

section

variable (counter other : Counter) (duration changed : Duration) (value : BitVec 64)

@[simp] theorem count_fresh : ({} : AtomicBackendStatus).count counter = 0 := by
  cases counter <;> rfl

@[simp] theorem maximum_fresh : ({} : AtomicBackendStatus).maximum duration = 0 := by
  cases duration <;> rfl

@[simp] theorem count_fetchAdd : (status.fetchAdd other).count counter =
    if other = counter then status.count counter + 1 else status.count counter := by
  cases other <;> cases counter <;> rfl

@[simp] theorem count_storeLast :
    (status.storeLast value changed).count counter = status.count counter := by
  cases changed <;> cases counter <;> rfl

@[simp] theorem count_storeMaximum :
    (status.storeMaximum value changed).count counter = status.count counter := by
  cases changed <;> cases counter <;> rfl

@[simp] theorem maximum_fetchAdd :
    (status.fetchAdd other).maximum duration = status.maximum duration := by
  cases other <;> cases duration <;> rfl

@[simp] theorem maximum_storeLast :
    (status.storeLast value changed).maximum duration = status.maximum duration := by
  cases changed <;> cases duration <;> rfl

@[simp] theorem maximum_storeMaximum : (status.storeMaximum value changed).maximum duration =
    if changed = duration then value else status.maximum duration := by
  cases changed <;> cases duration <;> rfl

end

/-! ## Operations -/

/-- The atomic operations, with the locals of the call that they use. -/
inductive Operation where
  | storeRunning (running : Bool)
  | storeDegraded (degraded : Bool)
  | storeErrorCode (errorCode : Int)
  | fetchAdd (counter : Counter)
  | storeLast (duration : Duration) (value : BitVec 64)
  | loadMaximum (duration : Duration) (value : BitVec 64)
  | exchangeMaximum (duration : Duration) (observed value : BitVec 64) (less : observed < value)
  deriving DecidableEq

/-- The head of the loop that raises a maximum, after a load or a failed exchange. -/
def raise (duration : Duration) (observed value : BitVec 64) : List Operation :=
  if less : observed < value then [.exchangeMaximum duration observed value less] else []

/-- One atomic operation. A weak exchange may fail spuriously. -/
def execute (spurious : Bool) (operation : Operation) (status : AtomicBackendStatus) :
    AtomicBackendStatus × List Operation :=
  match operation with
  | .storeRunning running => ({ status with running }, [])
  | .storeDegraded degraded => ({ status with degraded }, [])
  | .storeErrorCode errorCode => ({ status with errorCode }, [])
  | .fetchAdd counter => (status.fetchAdd counter, [])
  | .storeLast duration value => (status.storeLast value duration, [])
  | .loadMaximum duration value => (status, raise duration (status.maximum duration) value)
  | .exchangeMaximum duration observed value _ =>
      if status.maximum duration = observed ∧ spurious = false then
        (status.storeMaximum value duration, [])
      else (status, raise duration (status.maximum duration) value)

def setRunning (running : Bool) : List Operation := [.storeRunning running]

def setFault (errorCode : Int) : List Operation :=
  [.storeDegraded true, .storeErrorCode errorCode]

def recordMaxCycle (cycleNs : BitVec 64) : Operation := .loadMaximum .cycle cycleNs

def recordMaxWakeupLatency (wakeupLatencyNs : BitVec 64) : Operation :=
  .loadMaximum .wakeupLatency wakeupLatencyNs

def recordCycle (cycleNs periodNs wakeupLatencyNs : BitVec 64) : List Operation :=
  [.fetchAdd .cycleCount, .storeLast .cycle cycleNs, recordMaxCycle cycleNs,
    .storeLast .wakeupLatency wakeupLatencyNs, recordMaxWakeupLatency wakeupLatencyNs] ++
  (if 0 < wakeupLatencyNs then [.fetchAdd .lateWakeupCount] else []) ++
  (if 0 < periodNs ∧ periodNs < cycleNs then [.fetchAdd .deadlineMissCount] else [])

def recordStaleFrame : List Operation := [.fetchAdd .staleFrameCount]

def recordRxTimeout : List Operation := [.fetchAdd .rxTimeoutCount]

def recordWcIncomplete : List Operation := [.fetchAdd .wcIncompleteCount]

/-- A call of a member function. -/
inductive Call where
  | setRunning (running : Bool)
  | setFault (errorCode : Int)
  | recordCycle (cycleNs periodNs wakeupLatencyNs : BitVec 64)
  | recordStaleFrame
  | recordRxTimeout
  | recordWcIncomplete

def Call.operations : Call → List Operation
  | .setRunning running => AtomicBackendStatus.setRunning running
  | .setFault errorCode => AtomicBackendStatus.setFault errorCode
  | .recordCycle cycleNs periodNs wakeupLatencyNs =>
      AtomicBackendStatus.recordCycle cycleNs periodNs wakeupLatencyNs
  | .recordStaleFrame => AtomicBackendStatus.recordStaleFrame
  | .recordRxTimeout => AtomicBackendStatus.recordRxTimeout
  | .recordWcIncomplete => AtomicBackendStatus.recordWcIncomplete

/-- A fresh status, and threads that make calls one after another. -/
def start (calls : List (List Call)) : Interleaving.State AtomicBackendStatus Operation where
  shared := {}
  threads := calls.map fun thread => thread.flatMap Call.operations

/-! ## What pending operations owe -/

def owedCount (counter : Counter) : Operation → BitVec 64
  | .fetchAdd other => if other = counter then 1 else 0
  | _ => 0

/-- A raise of a maximum owes its value as long as the loop runs. -/
def owedMaximum (duration : Duration) : Operation → Nat
  | .loadMaximum other value => if other = duration then value.toNat else 0
  | .exchangeMaximum other _ value _ => if other = duration then value.toNat else 0
  | _ => 0

section

variable (counter : Counter) (duration other : Duration) (value : BitVec 64)

theorem raise_owedCount (observed base : BitVec 64) :
    ((raise other observed value).map (owedCount counter)).foldr (fun left right => left + right)
      base = base := by
  rw [raise]
  split
  next => exact BitVec.zero_add _
  next => rfl

/-- The loop ends only when the maximum has reached the value. -/
theorem raise_owedMaximum :
    ((raise other (status.maximum other) value).map (owedMaximum duration)).foldr
        (fun left right => max left right) (status.maximum duration).toNat =
      max (if other = duration then value.toNat else 0) (status.maximum duration).toNat := by
  rw [raise]
  split
  next => rfl
  next reached =>
    split
    next same => exact (max_eq_right (same ▸ BitVec.not_lt.mp reached)).symm
    next => exact (Nat.zero_max _).symm

end

/-- What the counters and the pending operations add up to. -/
def counts (counter : Counter) :
    Interleaving.Account execute (fun left right : BitVec 64 => left + right) where
  held status := status.count counter
  owed := owedCount counter
  kept := by
    intro spurious operation status
    cases operation with
    | fetchAdd other =>
        rw [execute, count_fetchAdd, owedCount]
        split
        next => exact BitVec.add_comm _ _
        next => exact (BitVec.zero_add _).symm
    | storeLast changed value =>
        rw [execute, count_storeLast]
        exact (BitVec.zero_add _).symm
    | loadMaximum other value =>
        exact (raise_owedCount counter other value _ _).trans (BitVec.zero_add _).symm
    | exchangeMaximum other observed value less =>
        rw [execute]
        split
        next =>
          rw [count_storeMaximum]
          exact (BitVec.zero_add _).symm
        next => exact (raise_owedCount counter other value _ _).trans (BitVec.zero_add _).symm
    | _ => cases counter <;> exact (BitVec.zero_add _).symm

@[simp] theorem counts_held (counter : Counter) :
    (counts counter).held status = status.count counter := rfl

/-- The largest value that a maximum holds or a pending operation brings. -/
def maxima (duration : Duration) :
    Interleaving.Account execute (fun left right : Nat => max left right) where
  held status := (status.maximum duration).toNat
  owed := owedMaximum duration
  kept := by
    intro spurious operation status
    cases operation with
    | fetchAdd other =>
        rw [execute, maximum_fetchAdd]
        exact (Nat.zero_max _).symm
    | storeLast changed value =>
        rw [execute, maximum_storeLast]
        exact (Nat.zero_max _).symm
    | loadMaximum other value => exact raise_owedMaximum status duration other value
    | exchangeMaximum other observed value less =>
        rw [execute, owedMaximum]
        split
        next exchanged =>
          rw [maximum_storeMaximum]
          split
          next same =>
            have lower : (status.maximum duration).toNat ≤ value.toNat :=
              same ▸ exchanged.1 ▸ Nat.le_of_lt less
            exact (max_eq_left lower).symm
          next => exact (Nat.zero_max _).symm
        next => exact raise_owedMaximum status duration other value
    | _ => cases duration <;> exact (Nat.zero_max _).symm

@[simp] theorem maxima_held (duration : Duration) :
    (maxima duration).held status = (status.maximum duration).toNat := rfl

/-! ## What calls record -/

/-- The calls that a counter counts. -/
def Counter.Counts : Counter → Call → Bool
  | .cycleCount, .recordCycle _ _ _ => true
  | .deadlineMissCount, .recordCycle cycleNs periodNs _ => 0 < periodNs ∧ periodNs < cycleNs
  | .lateWakeupCount, .recordCycle _ _ wakeupLatencyNs => 0 < wakeupLatencyNs
  | .staleFrameCount, .recordStaleFrame => true
  | .rxTimeoutCount, .recordRxTimeout => true
  | .wcIncompleteCount, .recordWcIncomplete => true
  | _, _ => false

/-- The duration that a call records. -/
def Duration.recorded : Duration → Call → Option (BitVec 64)
  | .cycle, .recordCycle cycleNs _ _ => some cycleNs
  | .wakeupLatency, .recordCycle _ _ wakeupLatencyNs => some wakeupLatencyNs
  | _, _ => none

theorem optional_owedCount (counter : Counter) (condition : Prop) [Decidable condition]
    (operation : Operation) (base : BitVec 64) :
    ((if condition then [operation] else []).map (owedCount counter)).foldr
        (fun left right => left + right) base =
      (if condition then owedCount counter operation else 0) + base := by
  split
  next => rfl
  next => exact (BitVec.zero_add _).symm

/-- A call owes one to each counter that counts it. -/
theorem operations_owedCount (counter : Counter) (call : Call) (base : BitVec 64) :
    (call.operations.map (owedCount counter)).foldr (fun left right => left + right) base =
      (if counter.Counts call then 1 else 0) + base := by
  cases call with
  | recordCycle cycleNs periodNs wakeupLatencyNs =>
      rw [Call.operations, recordCycle, List.map_append, List.map_append, List.foldr_append,
        List.foldr_append, optional_owedCount, optional_owedCount]
      cases counter <;>
        simp [recordMaxCycle, recordMaxWakeupLatency, owedCount, Counter.Counts]
  | setFault errorCode =>
      cases counter <;> simp [Call.operations, setFault, owedCount, Counter.Counts]
  | _ => cases counter <;> rfl

theorem optional_owedMaximum (duration : Duration) (condition : Prop) [Decidable condition]
    (counter : Counter) (base : Nat) :
    ((if condition then [Operation.fetchAdd counter] else []).map (owedMaximum duration)).foldr
        (fun left right => max left right) base = base := by
  split
  next => exact Nat.zero_max _
  next => rfl

/-- What a call brings to a maximum. -/
def Duration.brings (duration : Duration) (call : Call) : Nat :=
  ((duration.recorded call).map BitVec.toNat).getD 0

/-- A call owes the duration that it records to the maximum. -/
theorem operations_owedMaximum (duration : Duration) (call : Call) (base : Nat) :
    (call.operations.map (owedMaximum duration)).foldr (fun left right => max left right) base =
      max (duration.brings call) base := by
  cases call with
  | recordCycle cycleNs periodNs wakeupLatencyNs =>
      rw [Call.operations, recordCycle, List.map_append, List.map_append, List.foldr_append,
        List.foldr_append, optional_owedMaximum, optional_owedMaximum]
      cases duration <;>
        simp [recordMaxCycle, recordMaxWakeupLatency, owedMaximum, Duration.brings,
          Duration.recorded]
  | setFault errorCode =>
      cases duration <;>
        simp [Call.operations, setFault, owedMaximum, Duration.brings, Duration.recorded]
  | _ => cases duration <;> rfl

/-! ## Whole runs -/

/-- A raise writes only values above the one it replaces. -/
theorem execute_maximum_le (duration : Duration) (spurious : Bool) (operation : Operation)
    (status : AtomicBackendStatus) : (status.maximum duration).toNat ≤
      ((execute spurious operation status).1.maximum duration).toNat := by
  cases operation with
  | fetchAdd other => rw [execute, maximum_fetchAdd]
  | storeLast changed value => rw [execute, maximum_storeLast]
  | exchangeMaximum other observed value less =>
      rw [execute]
      split
      next exchanged =>
        rw [maximum_storeMaximum]
        split
        next same => exact same ▸ exchanged.1 ▸ Nat.le_of_lt less
        next => exact le_rfl
      next => exact le_rfl
  | _ => cases duration <;> exact le_rfl

theorem sum_counts (counter : Counter) (calls : List Call) :
    (calls.map fun call => if counter.Counts call then 1 else 0).foldr
        (fun left right => left + right) 0 =
      BitVec.ofNat 64 (calls.countP counter.Counts) := by
  induction calls with
  | nil => rfl
  | cons call calls ih =>
      rw [List.map_cons, List.foldr_cons, ih, List.countP_cons, BitVec.ofNat_add, BitVec.add_comm]
      split <;> rfl

/-- The durations that calls record, and the zero of a fresh status. -/
def Duration.values (duration : Duration) (calls : List Call) : Set (BitVec 64) :=
  insert 0 {value | ∃ call ∈ calls, duration.recorded call = some value}

theorem isGreatest_of_brings (duration : Duration) (calls : List Call) {largest : BitVec 64}
    (same : largest.toNat =
      (calls.map duration.brings).foldr (fun left right => max left right) 0) :
    IsGreatest (duration.values calls) largest := by
  constructor
  · by_cases none : calls.map duration.brings = []
    · rw [none] at same
      exact Or.inl (BitVec.eq_of_toNat_eq same)
    · have member := List.maximum_mem (List.foldr_max_of_ne_nil none).symm
      rcases List.mem_map.mp member with ⟨call, member, brings⟩
      rw [Duration.brings] at brings
      cases recorded : duration.recorded call with
      | none =>
          rw [recorded] at brings
          exact Or.inl (BitVec.eq_of_toNat_eq (same.trans brings.symm))
      | some value =>
          rw [recorded] at brings
          have equal : value = largest := BitVec.eq_of_toNat_eq (brings.trans same.symm)
          exact Or.inr ⟨call, member, equal ▸ recorded⟩
  · rintro value (rfl | ⟨call, member, recorded⟩)
    · exact BitVec.le_def.mpr (Nat.zero_le _)
    · have brings : value.toNat ≤ duration.brings call := by
        rw [Duration.brings, recorded]
        exact le_rfl
      have bounded := List.le_max_of_le' 0 (List.mem_map_of_mem member) brings
      exact BitVec.le_def.mpr (same ▸ bounded)

section

variable {calls : List (List Call)} {schedule : List (Interleaving.Event Bool)}
  {finish : Interleaving.State AtomicBackendStatus Operation}

theorem count_of_finished
    (ran : Transition.run (Interleaving.step execute) (start calls) schedule = some finish)
    (finished : finish.Finished) (counter : Counter) : finish.shared.count counter =
      BitVec.ofNat 64 (calls.flatten.countP counter.Counts) := by
  have owed := (counts counter).total_calls (operations_owedCount counter) {} calls
  have held := ((counts counter).held_of_finished ran finished).trans owed
  rw [counts_held, counts_held, count_fresh, sum_counts] at held
  exact held

theorem maximum_of_finished
    (ran : Transition.run (Interleaving.step execute) (start calls) schedule = some finish)
    (finished : finish.Finished) (duration : Duration) :
    IsGreatest (duration.values calls.flatten) (finish.shared.maximum duration) := by
  have owed := (maxima duration).total_calls (operations_owedMaximum duration) {} calls
  have held := ((maxima duration).held_of_finished ran finished).trans owed
  rw [maxima_held, maxima_held, maximum_fresh] at held
  exact isGreatest_of_brings duration calls.flatten held

end

/-- No update is lost. When all threads have finished, each counter has counted the calls it
counts, modulo its width, and each maximum is the largest duration recorded; on the way the
maxima do not decrease. -/
theorem status_loses_no_update (calls : List (List Call))
    (schedule : List (Interleaving.Event Bool))
    (finish : Interleaving.State AtomicBackendStatus Operation)
    (ran : Transition.run (Interleaving.step execute) (start calls) schedule = some finish) :
    (finish.Finished →
      (∀ counter : Counter, finish.shared.count counter =
        BitVec.ofNat 64 (calls.flatten.countP counter.Counts)) ∧
      (∀ counter : Counter, calls.flatten.countP counter.Counts < 2 ^ 64 →
        (finish.shared.count counter).toNat = calls.flatten.countP counter.Counts) ∧
      ∀ duration : Duration,
        IsGreatest (duration.values calls.flatten) (finish.shared.maximum duration)) ∧
    ∀ (front back : List (Interleaving.Event Bool)), schedule = front ++ back →
      ∀ middle, Transition.run (Interleaving.step execute) (start calls) front = some middle →
        ∀ duration, middle.shared.maximum duration ≤ finish.shared.maximum duration := by
  constructor
  · intro finished
    refine ⟨count_of_finished ran finished, ?_, maximum_of_finished ran finished⟩
    intro counter few
    rw [count_of_finished ran finished, BitVec.toNat_ofNat, Nat.mod_eq_of_lt few]
  · rintro front back rfl middle before duration
    rcases Transition.run_append.mp ran with ⟨reached, same, after⟩
    cases Option.some.inj (before.symm.trans same)
    exact BitVec.le_def.mpr (Interleaving.run_monotone
      (fun status : AtomicBackendStatus => (status.maximum duration).toNat)
      (execute_maximum_le duration) after)

/-- Two threads load the same maximum, one of them loses the exchange, and the other fails
once without a cause. -/
def contended : List (Interleaving.Event Bool) :=
  [⟨0, false⟩, ⟨1, false⟩, ⟨0, false⟩, ⟨1, false⟩, ⟨0, false⟩, ⟨1, false⟩, ⟨0, false⟩, ⟨1, false⟩,
    ⟨0, false⟩, ⟨0, false⟩, ⟨0, true⟩, ⟨0, false⟩, ⟨1, false⟩, ⟨1, false⟩, ⟨1, false⟩, ⟨0, false⟩,
    ⟨0, false⟩]

theorem status_loses_no_update_contended :
    let calls : List (List Call) :=
      [[.recordCycle 1200 1000 75], [.recordCycle 900 1000 0, .recordRxTimeout]]
    ∃ finish, Transition.run (Interleaving.step execute) (start calls) contended = some finish ∧
      finish.Finished ∧ (finish.shared.count .cycleCount).toNat = 2 ∧
      (finish.shared.count .deadlineMissCount).toNat = 1 ∧
      IsGreatest (Duration.cycle.values calls.flatten) (finish.shared.maximum .cycle) := by
  intro calls
  have ran : Transition.run (Interleaving.step execute) (start calls) contended =
      some ⟨{ cycleCount := 2, deadlineMissCount := 1, lastCycleNs := 900, maxCycleNs := 1200,
              lateWakeupCount := 1, lastWakeupLatencyNs := 0, maxWakeupLatencyNs := 75,
              rxTimeoutCount := 1 }, [[], []]⟩ := by decide +kernel
  have finished : ∀ thread ∈ [([] : List Operation), []], thread = [] := by simp
  have counted := (status_loses_no_update calls contended _ ran).1 finished
  exact ⟨_, ran, finished, counted.2.1 .cycleCount (by decide),
    counted.2.1 .deadlineMissCount (by decide), counted.2.2 .cycle⟩

end AtomicBackendStatus

end RmdCanSdk
