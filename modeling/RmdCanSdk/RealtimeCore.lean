import Mathlib.Logic.Function.Basic
import RmdCanSdk.Types

/-!
# Frames of the realtime core

The frames exchanged through the snapshot buffers. Arrays and bit sets of
`MaxRealtimeMotors` entries are functions of the index; the code that writes them
stays below that bound. An update changes one entry of a frame and leaves the
others alone.
-/

namespace RmdCanSdk

variable {F : Type} [FloatArith F]

def MaxRealtimeMotors : Nat := 64

structure FrameMetadata where
  sequence : BitVec 64
  timestamp : Time
  motorCount : Nat

instance : Inhabited FrameMetadata where
  default := { sequence := 0, timestamp := 0, motorCount := 0 }

structure MotorTargetFrame (F : Type) extends FrameMetadata where
  targets : Nat → MotorTarget F
  valid : Nat → Bool

instance : Inhabited (MotorTargetFrame F) where
  default := {
    toFrameMetadata := default
    targets := fun _ => default
    valid := fun _ => false }

structure MotorActualFrame (F : Type) extends FrameMetadata where
  actuals : Nat → MotorActual F
  valid : Nat → Bool
  stale : Nat → Bool

instance : Inhabited (MotorActualFrame F) where
  default := {
    toFrameMetadata := default
    actuals := fun _ => default
    valid := fun _ => false
    stale := fun _ => false }

/-- What a frame says about one motor. -/
structure MotorEntry (F : Type) where
  actual : MotorActual F
  valid : Bool
  stale : Bool

namespace MotorActualFrame

omit [FloatArith F]

variable (frame : MotorActualFrame F)

def entry (index : Nat) : MotorEntry F :=
  ⟨frame.actuals index, frame.valid index, frame.stale index⟩

/-- Replace what the frame says about one motor. -/
def setEntry (index : Nat) (entry : MotorEntry F) : MotorActualFrame F := { frame with
  actuals := Function.update frame.actuals index entry.actual
  valid := Function.update frame.valid index entry.valid
  stale := Function.update frame.stale index entry.stale }

variable {frame : MotorActualFrame F} {index other : Nat} {entry : MotorEntry F}

@[simp] theorem entry_setEntry_self : (frame.setEntry index entry).entry index = entry := by
  simp [MotorActualFrame.entry, setEntry]

/-- Writing one entry does not touch another. -/
theorem entry_setEntry_of_ne (distinct : other ≠ index) :
    (frame.setEntry index entry).entry other = frame.entry other := by
  simp [MotorActualFrame.entry, setEntry, Function.update_of_ne distinct]

theorem entry_setEntry :
    (frame.setEntry index entry).entry other =
      if other = index then entry else frame.entry other := by
  split
  next same => rw [same, entry_setEntry_self]
  next distinct => exact entry_setEntry_of_ne distinct

/-- A frame is its metadata and its entries. -/
theorem eq_of_entry_eq {left right : MotorActualFrame F}
    (metadata : left.toFrameMetadata = right.toFrameMetadata)
    (entries : ∀ index, left.entry index = right.entry index) : left = right := by
  have actuals : left.actuals = right.actuals := by
    funext index
    exact congrArg MotorEntry.actual (entries index)
  have valid : left.valid = right.valid := by
    funext index
    exact congrArg MotorEntry.valid (entries index)
  have stale : left.stale = right.stale := by
    funext index
    exact congrArg MotorEntry.stale (entries index)
  cases left
  cases right
  simp only at metadata actuals valid stale
  rw [metadata, actuals, valid, stale]

/-! ### Loops that update the entry of each item -/

variable {S α : Type} (view : S → MotorActualFrame F) {step : S → α → S} {key : α → Nat}
variable {change : α → MotorEntry F → MotorEntry F} {items : List α}

/-- A loop over items does not touch an index that is not among their keys. -/
theorem foldl_entry_of_notMem
    (touches : ∀ state item index, (view (step state item)).entry index =
      if index = key item then change item ((view state).entry index)
      else (view state).entry index)
    (state : S) (absent : index ∉ items.map key) :
    (view (items.foldl step state)).entry index = (view state).entry index := by
  induction items generalizing state with
  | nil => rfl
  | cons item rest ih =>
      rw [List.map_cons, List.mem_cons, not_or] at absent
      rw [List.foldl_cons, ih _ absent.2, touches, if_neg absent.1]

/-- With distinct keys a loop changes the entry of each item once. -/
theorem foldl_entry_of_mem
    (touches : ∀ state item index, (view (step state item)).entry index =
      if index = key item then change item ((view state).entry index)
      else (view state).entry index)
    (state : S) (distinct : (items.map key).Nodup) {item : α} (member : item ∈ items) :
    (view (items.foldl step state)).entry (key item) =
      change item ((view state).entry (key item)) := by
  induction items generalizing state with
  | nil => contradiction
  | cons head rest ih =>
      rw [List.map_cons, List.nodup_cons] at distinct
      rw [List.foldl_cons]
      rcases List.mem_cons.mp member with rfl | inRest
      · rw [foldl_entry_of_notMem view touches _ distinct.1, touches, if_pos rfl]
      · have different : key item ≠ key head := by
          intro same
          exact distinct.1 (same ▸ List.mem_map_of_mem inRest)
        rw [ih _ distinct.2 inRest, touches, if_neg different]

end MotorActualFrame

/-! ## Backend status -/

/-- The faults and event counters of a backend. -/
structure BackendStatus where
  degraded : Bool
  errorCode : Nat
  staleFrameCount : BitVec 64
  rxTimeoutCount : BitVec 64
  wcIncompleteCount : BitVec 64
  deriving DecidableEq

instance : Inhabited BackendStatus where
  default := {
    degraded := false
    errorCode := 0
    staleFrameCount := 0
    rxTimeoutCount := 0
    wcIncompleteCount := 0 }

namespace BackendStatus

variable (status : BackendStatus)

def setFault (errorCode : Nat) : BackendStatus :=
  { status with degraded := true, errorCode := errorCode }

def recordStaleFrame : BackendStatus :=
  { status with staleFrameCount := status.staleFrameCount + 1 }

def recordRxTimeout : BackendStatus :=
  { status with rxTimeoutCount := status.rxTimeoutCount + 1 }

def recordWcIncomplete : BackendStatus :=
  { status with wcIncompleteCount := status.wcIncompleteCount + 1 }

end BackendStatus

end RmdCanSdk
