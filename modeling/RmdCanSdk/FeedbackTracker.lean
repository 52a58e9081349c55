import RmdCanSdk.Types

/-!
# Feedback trackers

Which motors of a CAN group have replied since the last complete frame, as a bit
mask indexed by slave id, and the tracker that also remembers when the first reply
of the current frame arrived. The lemmas describe the masks as sets of slave ids.
-/

namespace RmdCanSdk

namespace MaskTracker

def bitForSlaveId (slaveId : Int) : BitVec 64 :=
  if slaveId < 0 ∨ slaveId ≥ 64 then 0#64 else 1#64 <<< slaveId.toNat

/-- A mask holds a slave id when it has the bit of that id. -/
def Holds (mask : BitVec 64) (slaveId : Int) : Prop := mask &&& bitForSlaveId slaveId ≠ 0#64

instance (mask : BitVec 64) (slaveId : Int) : Decidable (Holds mask slaveId) :=
  inferInstanceAs (Decidable (_ ≠ _))

theorem getLsbD_bitForSlaveId (slaveId : Int) (index : Nat) :
    (bitForSlaveId slaveId).getLsbD index = true ↔ slaveId = index ∧ index < 64 := by
  rw [bitForSlaveId]
  split
  next outside =>
    constructor
    · intro bit
      exact absurd bit (by simp)
    · intro ⟨same, small⟩
      omega
  next inside =>
    rw [BitVec.getLsbD_shiftLeft, BitVec.getLsbD_one]
    simp only [Bool.and_eq_true, decide_eq_true_eq, Bool.not_eq_true', decide_eq_false_iff_not]
    omega

/-- Only ids in 0..63 have a bit. -/
theorem holds_iff {mask : BitVec 64} {slaveId : Int} :
    Holds mask slaveId ↔ ∃ index : Nat, slaveId = index ∧ mask.getLsbD index = true := by
  constructor
  · intro holds
    by_contra absent
    apply holds
    apply BitVec.eq_of_getLsbD_eq
    intro index inBounds
    rw [BitVec.getLsbD_and, BitVec.getLsbD_zero, Bool.and_eq_false_iff]
    by_cases bit : (bitForSlaveId slaveId).getLsbD index = true
    · left
      rw [← Bool.not_eq_true]
      intro member
      exact absent ⟨index, ((getLsbD_bitForSlaveId slaveId index).mp bit).1, member⟩
    · right
      exact Bool.eq_false_iff.mpr bit
  · intro ⟨index, same, member⟩ empty
    have both := congrArg (fun bits => bits.getLsbD index) empty
    have bit := (getLsbD_bitForSlaveId slaveId index).mpr
      ⟨same, BitVec.lt_of_getLsbD member⟩
    simp [member, bit] at both

@[simp] theorem not_holds_zero (slaveId : Int) : ¬ Holds 0#64 slaveId := by
  simp [Holds]

@[simp] theorem holds_or {left right : BitVec 64} {slaveId : Int} :
    Holds (left ||| right) slaveId ↔ Holds left slaveId ∨ Holds right slaveId := by
  simp only [holds_iff, BitVec.getLsbD_or, Bool.or_eq_true]
  constructor
  · rintro ⟨index, same, member | member⟩
    · exact .inl ⟨index, same, member⟩
    · exact .inr ⟨index, same, member⟩
  · rintro (⟨index, same, member⟩ | ⟨index, same, member⟩)
    · exact ⟨index, same, .inl member⟩
    · exact ⟨index, same, .inr member⟩

@[simp] theorem holds_bitForSlaveId {slaveId other : Int} :
    Holds (bitForSlaveId slaveId) other ↔ other = slaveId ∧ 0 ≤ slaveId ∧ slaveId < 64 := by
  simp only [holds_iff, getLsbD_bitForSlaveId]
  constructor
  · rintro ⟨index, rfl, same, small⟩
    omega
  · rintro ⟨rfl, nonneg, small⟩
    exact ⟨other.toNat, by omega, by omega, by omega⟩

theorem Holds.inRange {mask : BitVec 64} {slaveId : Int} (holds : Holds mask slaveId) :
    0 ≤ slaveId ∧ slaveId < 64 := by
  rcases holds_iff.mp holds with ⟨index, rfl, member⟩
  have := BitVec.lt_of_getLsbD member
  omega

/-- A mask is determined by the ids it holds. -/
theorem mask_ext {left right : BitVec 64}
    (same : ∀ slaveId, Holds left slaveId ↔ Holds right slaveId) : left = right := by
  apply BitVec.eq_of_getLsbD_eq
  intro index inBounds
  have holds := same index
  simp only [holds_iff, Nat.cast_inj, exists_eq_left'] at holds
  exact Bool.eq_iff_iff.mpr holds

end MaskTracker

/-- The ids waited for and the ids received; nothing is received that is not
waited for. -/
structure MaskTracker where
  expectedMask : BitVec 64
  currentMask : BitVec 64
  within : ∀ slaveId, MaskTracker.Holds currentMask slaveId →
    MaskTracker.Holds expectedMask slaveId

namespace MaskTracker

def setExpectedFromSlaveIds (slaveIds : List Int) : MaskTracker where
  expectedMask := slaveIds.foldl (fun mask slaveId => mask ||| bitForSlaveId slaveId) 0#64
  currentMask := 0#64
  within _ holds := absurd holds (not_holds_zero _)

/-- The result tells whether this id completes the mask, which clears it. -/
def markReceived (tracker : MaskTracker) (slaveId : Int) : Bool × MaskTracker :=
  if expected : tracker.expectedMask &&& bitForSlaveId slaveId = 0#64 then (false, tracker)
  else
    let currentMask := tracker.currentMask ||| bitForSlaveId slaveId
    if tracker.expectedMask ≠ 0#64 ∧ currentMask = tracker.expectedMask then
      (true, { tracker with
        currentMask := 0#64
        within := fun _ holds => absurd holds (not_holds_zero _) })
    else
      (false, { tracker with
        currentMask := currentMask
        within := by
          intro other holds
          rcases holds_or.mp holds with received | same
          · exact tracker.within other received
          · rw [(holds_bitForSlaveId.mp same).1]
            exact expected })

def expects (tracker : MaskTracker) (slaveId : Int) : Bool :=
  bitForSlaveId slaveId ≠ 0#64 && tracker.expectedMask &&& bitForSlaveId slaveId ≠ 0#64

def isReceived (tracker : MaskTracker) (slaveId : Int) : Bool :=
  bitForSlaveId slaveId ≠ 0#64 && tracker.currentMask &&& bitForSlaveId slaveId ≠ 0#64

def resetCurrent (tracker : MaskTracker) : MaskTracker := { tracker with
  currentMask := 0#64
  within := fun _ holds => absurd holds (not_holds_zero _) }

theorem bit_test {mask : BitVec 64} {slaveId : Int} :
    (decide (bitForSlaveId slaveId ≠ 0#64) && decide (mask &&& bitForSlaveId slaveId ≠ 0#64)) = true ↔
      Holds mask slaveId := by
  rw [Bool.and_eq_true, decide_eq_true_iff, decide_eq_true_iff]
  constructor
  · exact And.right
  · intro holds
    refine ⟨?_, holds⟩
    intro none
    exact holds (by rw [none, BitVec.and_zero])

theorem expects_iff {tracker : MaskTracker} {slaveId : Int} :
    tracker.expects slaveId = true ↔ Holds tracker.expectedMask slaveId :=
  bit_test

theorem isReceived_iff {tracker : MaskTracker} {slaveId : Int} :
    tracker.isReceived slaveId = true ↔ Holds tracker.currentMask slaveId :=
  bit_test

/-- The expected ids are those of the list that have a bit. -/
@[simp] theorem expects_setExpected {slaveIds : List Int} {slaveId : Int} :
    (setExpectedFromSlaveIds slaveIds).expects slaveId = true ↔
      slaveId ∈ slaveIds ∧ 0 ≤ slaveId ∧ slaveId < 64 := by
  have general : ∀ mask, Holds
      (slaveIds.foldl (fun mask slaveId => mask ||| bitForSlaveId slaveId) mask) slaveId ↔
      Holds mask slaveId ∨ slaveId ∈ slaveIds ∧ 0 ≤ slaveId ∧ slaveId < 64 := by
    induction slaveIds with
    | nil => simp
    | cons head rest ih =>
        intro mask
        rw [List.foldl_cons, ih, holds_or, holds_bitForSlaveId, List.mem_cons]
        constructor
        · rintro ((holds | ⟨rfl, inside⟩) | ⟨member, inside⟩)
          · exact .inl holds
          · exact .inr ⟨.inl rfl, inside⟩
          · exact .inr ⟨.inr member, inside⟩
        · rintro (holds | ⟨rfl | member, inside⟩)
          · exact .inl (.inl holds)
          · exact .inl (.inr ⟨rfl, inside⟩)
          · exact .inr ⟨member, inside⟩
  rw [expects_iff]
  simpa [setExpectedFromSlaveIds] using general 0#64

@[simp] theorem isReceived_setExpected (slaveIds : List Int) (slaveId : Int) :
    (setExpectedFromSlaveIds slaveIds).isReceived slaveId = false := by
  rw [Bool.eq_false_iff, ne_eq, isReceived_iff]
  exact not_holds_zero slaveId

@[simp] theorem isReceived_resetCurrent (tracker : MaskTracker) (slaveId : Int) :
    tracker.resetCurrent.isReceived slaveId = false := by
  rw [Bool.eq_false_iff, ne_eq, isReceived_iff]
  exact not_holds_zero slaveId

variable {tracker : MaskTracker} {slaveId other : Int}

/-- The mask is complete when this id is the last one missing. -/
theorem markReceived_completes (expected : tracker.expects slaveId = true) :
    (tracker.markReceived slaveId).1 = true ↔
      ∀ other, tracker.expects other = true →
        other = slaveId ∨ tracker.isReceived other = true := by
  rw [expects_iff] at expected
  simp only [expects_iff, isReceived_iff]
  have inRange := expected.inRange
  have nonzero : tracker.expectedMask ≠ 0#64 := by
    intro zero
    rw [zero] at expected
    exact not_holds_zero slaveId expected
  rw [markReceived]
  rw [dif_neg expected]
  dsimp only
  constructor
  · intro completed other waiting
    split at completed
    next full =>
      rw [← full.2, holds_or, holds_bitForSlaveId] at waiting
      rcases waiting with received | ⟨same, -⟩
      · exact .inr received
      · exact .inl same
    next => contradiction
  · intro rest
    rw [if_pos]
    refine ⟨nonzero, mask_ext fun other => ?_⟩
    rw [holds_or, holds_bitForSlaveId]
    constructor
    · rintro (received | ⟨rfl, -⟩)
      · exact tracker.within other received
      · exact expected
    · intro waiting
      rcases rest other waiting with rfl | received
      · exact .inr ⟨rfl, inRange⟩
      · exact .inl received

/-- Completion clears the mask; otherwise the id is added to it. -/
theorem isReceived_markReceived (expected : tracker.expects slaveId = true) :
    (tracker.markReceived slaveId).2.isReceived other = true ↔
      (tracker.markReceived slaveId).1 = false ∧
        (other = slaveId ∨ tracker.isReceived other = true) := by
  rw [expects_iff] at expected
  simp only [isReceived_iff]
  rw [markReceived]
  rw [dif_neg expected]
  dsimp only
  split
  next full => simp
  next incomplete =>
    rw [holds_or, holds_bitForSlaveId]
    have inRange := expected.inRange
    constructor
    · rintro (received | ⟨same, -⟩)
      · exact ⟨rfl, .inr received⟩
      · exact ⟨rfl, .inl same⟩
    · rintro ⟨-, same | received⟩
      · exact .inr ⟨same, inRange⟩
      · exact .inl received

@[simp] theorem expects_markReceived :
    (tracker.markReceived slaveId).2.expects other = tracker.expects other := by
  rw [markReceived]
  split
  next => rfl
  next => dsimp only; split <;> rfl

end MaskTracker

/-- The mask, and the time of the first reply since it was last cleared. -/
structure FeedbackFrameTracker where
  mask : MaskTracker
  active : Bool
  started : Time

namespace FeedbackFrameTracker

/-- The fresh tracker's start time is the clock's epoch. -/
def setExpectedFromSlaveIds (slaveIds : List Int) : FeedbackFrameTracker where
  mask := MaskTracker.setExpectedFromSlaveIds slaveIds
  active := false
  started := 0

def markReceived (tracker : FeedbackFrameTracker) (slaveId : Int) (now : Time) :
    Bool × FeedbackFrameTracker :=
  if tracker.mask.expects slaveId then
    let started := if tracker.active then tracker.started else now
    match tracker.mask.markReceived slaveId with
    | (true, mask) => (true, ⟨mask, false, started⟩)
    | (false, mask) => (false, ⟨mask, true, started⟩)
  else (false, tracker)

def shouldPublishTimeout (tracker : FeedbackFrameTracker) (now timeout : Time) : Bool :=
  tracker.active && tracker.mask.currentMask ≠ 0#64 && decide (now - tracker.started ≥ timeout)

def isReceived (tracker : FeedbackFrameTracker) (slaveId : Int) : Bool :=
  tracker.mask.isReceived slaveId

def reset (tracker : FeedbackFrameTracker) : FeedbackFrameTracker :=
  { tracker with mask := tracker.mask.resetCurrent, active := false }

variable {tracker : FeedbackFrameTracker} {slaveId other : Int} {now : Time}

theorem markReceived_mask (now : Time) (expected : tracker.mask.expects slaveId = true) :
    (tracker.markReceived slaveId now).1 = (tracker.mask.markReceived slaveId).1 ∧
      (tracker.markReceived slaveId now).2.mask = (tracker.mask.markReceived slaveId).2 := by
  rw [markReceived]
  rw [if_pos expected]
  dsimp only
  split
  next same => simp [same]
  next same => simp [same]

theorem markReceived_unexpected (unexpected : tracker.mask.expects slaveId = false) :
    tracker.markReceived slaveId now = (false, tracker) := by
  rw [markReceived]
  rw [if_neg (by simp [unexpected])]

end FeedbackFrameTracker

end RmdCanSdk
