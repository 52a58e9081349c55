import Mathlib.Data.Finset.Basic
import RmdCanSdk.FeedbackTracker

/-!
# A tracker as a set of received ids

What a feedback tracker is for: a set of ids to wait for, and the marks of its members
since it was last cleared. The tracker keeps two masks, a flag and a time instead, and
answers every call as the marks do.
-/

namespace RmdCanSdk

/-- The calls that change a tracker. -/
inductive TrackerCall where
  | setExpectedFromSlaveIds (slaveIds : List Int)
  | markReceived (slaveId : Int) (now : Time)
  | reset

namespace FeedbackFrameTracker

/-- A tracker that was never told what to expect. -/
def initial : FeedbackFrameTracker := setExpectedFromSlaveIds []

/-- The state after a call. A new set of ids does not touch the start time. -/
def call (tracker : FeedbackFrameTracker) : TrackerCall → FeedbackFrameTracker
  | .setExpectedFromSlaveIds slaveIds =>
      { tracker with
        mask := MaskTracker.setExpectedFromSlaveIds slaveIds
        active := false }
  | .markReceived slaveId now => (tracker.markReceived slaveId now).2
  | .reset => tracker.reset

/-- A tracker whose first call sets its ids is the one that is constructed with them. -/
theorem initial_call (slaveIds : List Int) :
    initial.call (.setExpectedFromSlaveIds slaveIds) = setExpectedFromSlaveIds slaveIds := rfl

end FeedbackFrameTracker

/-! ## Marks -/

/-- The ids waited for, and their marks since the last completion, reset or new set, the
oldest first. -/
structure ReceivedIds where
  expected : Finset Int
  marks : List (Int × Time)

namespace ReceivedIds

def initial : ReceivedIds := ⟨∅, []⟩

/-- An id has been marked. -/
def Marked (ids : ReceivedIds) (slaveId : Int) : Prop := slaveId ∈ ids.marks.map Prod.fst

instance (ids : ReceivedIds) (slaveId : Int) : Decidable (ids.Marked slaveId) :=
  inferInstanceAs (Decidable (_ ∈ _))

/-- A mark of this id is the last one missing. -/
def Completes (ids : ReceivedIds) (slaveId : Int) : Prop :=
  slaveId ∈ ids.expected ∧ ∀ other ∈ ids.expected, other ≠ slaveId → ids.Marked other

instance (ids : ReceivedIds) (slaveId : Int) : Decidable (ids.Completes slaveId) :=
  inferInstanceAs (Decidable (_ ∧ _))

/-- Some of the ids have been marked, and some have not. -/
def Partial (ids : ReceivedIds) : Prop :=
  (∃ slaveId ∈ ids.expected, ids.Marked slaveId) ∧ ∃ slaveId ∈ ids.expected, ¬ ids.Marked slaveId

def call (ids : ReceivedIds) : TrackerCall → ReceivedIds
  | .setExpectedFromSlaveIds slaveIds =>
      ⟨slaveIds.toFinset.filter fun slaveId => 0 ≤ slaveId ∧ slaveId < 64, []⟩
  | .markReceived slaveId now =>
      if ids.Completes slaveId then { ids with marks := [] }
      else if slaveId ∈ ids.expected then { ids with marks := ids.marks ++ [(slaveId, now)] }
      else ids
  | .reset => { ids with marks := [] }

end ReceivedIds

/-- A tracker and its marks. The frame is active while there are marks, and there is always
a mark missing. -/
structure Records (tracker : FeedbackFrameTracker) (ids : ReceivedIds) : Prop where
  expects : ∀ slaveId, tracker.mask.expects slaveId = true ↔ slaveId ∈ ids.expected
  received : ∀ slaveId, tracker.isReceived slaveId = true ↔ ids.Marked slaveId
  member : ∀ slaveId, ids.Marked slaveId → slaveId ∈ ids.expected
  active : tracker.active = true ↔ ids.marks ≠ []
  started : ∀ first ∈ ids.marks.head?, tracker.started = first.2
  missing : ids.marks ≠ [] → ∃ slaveId ∈ ids.expected, ¬ ids.Marked slaveId

variable {tracker : FeedbackFrameTracker} {ids : ReceivedIds} {slaveId : Int} {now : Time}

/-! ## One call -/

/-- Nothing is marked in a cleared tracker. -/
theorem Records.cleared {expected : Finset Int}
    (expects : ∀ slaveId, tracker.mask.expects slaveId = true ↔ slaveId ∈ expected)
    (nothing : ∀ slaveId, tracker.isReceived slaveId = false) (inactive : tracker.active = false) :
    Records tracker ⟨expected, []⟩ where
  expects := expects
  received := by simp [nothing, ReceivedIds.Marked]
  member := by simp [ReceivedIds.Marked]
  active := by simp [inactive]
  started := by simp
  missing := by simp

theorem Records.initial : Records .initial .initial := by
  apply Records.cleared _ _ rfl
  · intro slaveId
    exact MaskTracker.expects_setExpected.trans (by simp)
  · exact MaskTracker.isReceived_setExpected []

theorem Records.setExpected (tracker : FeedbackFrameTracker) (ids : ReceivedIds)
    (slaveIds : List Int) :
    Records (tracker.call (.setExpectedFromSlaveIds slaveIds))
      (ids.call (.setExpectedFromSlaveIds slaveIds)) := by
  apply Records.cleared _ _ rfl
  · intro slaveId
    exact MaskTracker.expects_setExpected.trans (by simp)
  · exact MaskTracker.isReceived_setExpected slaveIds

theorem Records.reset (records : Records tracker ids) :
    Records (tracker.call .reset) (ids.call .reset) := by
  apply Records.cleared _ _ rfl
  · exact records.expects
  · exact MaskTracker.isReceived_resetCurrent tracker.mask

/-- The mask is completed as the marks are. -/
theorem Records.completes (records : Records tracker ids) (slaveId : Int) (now : Time) :
    (tracker.markReceived slaveId now).1 = true ↔ ids.Completes slaveId := by
  by_cases expected : tracker.mask.expects slaveId = true
  · rw [(FeedbackFrameTracker.markReceived_mask now expected).1,
      MaskTracker.markReceived_completes expected, ReceivedIds.Completes,
      and_iff_right ((records.expects slaveId).mp expected)]
    apply forall_congr'
    intro other
    rw [records.expects, ← records.received, or_iff_not_imp_left]
    rfl
  · rw [FeedbackFrameTracker.markReceived_unexpected (Bool.eq_false_iff.mpr expected)]
    rw [records.expects] at expected
    exact iff_of_false Bool.false_ne_true fun completes => expected completes.1

/-- What a mark of an expected id does to the flag and the time. -/
theorem markReceived_times (now : Time) (expected : tracker.mask.expects slaveId = true) :
    (tracker.markReceived slaveId now).2.active = !(tracker.markReceived slaveId now).1 ∧
      (tracker.markReceived slaveId now).2.started =
        if tracker.active then tracker.started else now := by
  rw [FeedbackFrameTracker.markReceived]
  rw [if_pos expected]
  dsimp only
  split
  next => exact ⟨rfl, rfl⟩
  next => exact ⟨rfl, rfl⟩

theorem isReceived_mark (now : Time) (expected : tracker.mask.expects slaveId = true)
    (other : Int) :
    (tracker.markReceived slaveId now).2.isReceived other = true ↔
      (tracker.markReceived slaveId now).1 = false ∧
        (other = slaveId ∨ tracker.isReceived other = true) := by
  have mask := FeedbackFrameTracker.markReceived_mask now expected
  rw [FeedbackFrameTracker.isReceived, mask.1, mask.2]
  exact MaskTracker.isReceived_markReceived expected

theorem expects_mark (other : Int) :
    (tracker.markReceived slaveId now).2.mask.expects other = tracker.mask.expects other := by
  by_cases expected : tracker.mask.expects slaveId = true
  · rw [(FeedbackFrameTracker.markReceived_mask now expected).2]
    exact MaskTracker.expects_markReceived
  · rw [FeedbackFrameTracker.markReceived_unexpected (Bool.eq_false_iff.mpr expected)]

/-- After a completion nothing counts as received. -/
theorem Records.completion (records : Records tracker ids) (completes : ids.Completes slaveId)
    (now : Time) : Records (tracker.markReceived slaveId now).2 { ids with marks := [] } := by
  have expected := (records.expects slaveId).mpr completes.1
  have complete := (records.completes slaveId now).mpr completes
  apply Records.cleared
  · intro other
    rw [expects_mark]
    exact records.expects other
  · intro other
    rw [Bool.eq_false_iff, ne_eq, isReceived_mark now expected, complete]
    exact fun received => by cases received.1
  · rw [(markReceived_times now expected).1, complete]
    rfl

theorem ReceivedIds.marked_append (ids : ReceivedIds) (slaveId : Int) (now : Time) (other : Int) :
    ({ ids with marks := ids.marks ++ [(slaveId, now)] } : ReceivedIds).Marked other ↔
      other = slaveId ∨ ids.Marked other := by
  simp [Marked, or_comm]

/-- The first mark starts the frame, the others find it started. -/
theorem Records.started_mark (records : Records tracker ids)
    (waiting : tracker.mask.expects slaveId = true) {first : Int × Time}
    (isFirst : first ∈ (ids.marks ++ [(slaveId, now)]).head?) :
    (tracker.markReceived slaveId now).2.started = first.2 := by
  rw [(markReceived_times now waiting).2]
  cases marks : ids.marks with
  | nil =>
      have inactive : tracker.active = false := by
        rw [Bool.eq_false_iff, ne_eq, records.active]
        exact not_not.mpr marks
      simp only [marks, List.nil_append, List.head?_cons, Option.mem_some_iff] at isFirst
      rw [inactive, ← isFirst]
      rfl
  | cons head rest =>
      simp only [marks, List.cons_append, List.head?_cons, Option.mem_some_iff] at isFirst
      have active := records.active.mpr (by simp [marks])
      rw [active, ← isFirst]
      exact records.started head (by simp [marks])

/-- A mark that does not complete the frame is added to the others. -/
theorem Records.mark (records : Records tracker ids) (expected : slaveId ∈ ids.expected)
    (incomplete : ¬ ids.Completes slaveId) (now : Time) :
    Records (tracker.markReceived slaveId now).2
      { ids with marks := ids.marks ++ [(slaveId, now)] } := by
  have waiting := (records.expects slaveId).mpr expected
  have unfinished : (tracker.markReceived slaveId now).1 = false := by
    rw [Bool.eq_false_iff, ne_eq, records.completes slaveId now]
    exact incomplete
  constructor
  case expects =>
    intro other
    rw [expects_mark]
    exact records.expects other
  case received =>
    intro other
    rw [isReceived_mark now waiting, ReceivedIds.marked_append, records.received,
      and_iff_right unfinished]
  case member =>
    intro other mark
    rcases (ids.marked_append slaveId now other).mp mark with rfl | earlier
    · exact expected
    · exact records.member other earlier
  case active => simp [(markReceived_times now waiting).1, unfinished]
  case started => exact fun first isFirst => records.started_mark waiting isFirst
  case missing =>
    intro _
    by_contra! everyMarked
    apply incomplete
    refine ⟨expected, fun other member different => ?_⟩
    have marked := (ids.marked_append slaveId now other).mp (everyMarked other member)
    exact marked.resolve_left different

theorem Records.call (records : Records tracker ids) (call : TrackerCall) :
    Records (tracker.call call) (ids.call call) := by
  cases call with
  | setExpectedFromSlaveIds slaveIds => exact Records.setExpected tracker ids slaveIds
  | reset => exact records.reset
  | markReceived slaveId now =>
      rw [FeedbackFrameTracker.call, ReceivedIds.call]
      split
      next completes => exact records.completion completes now
      next incomplete =>
        split
        next expected => exact records.mark expected incomplete now
        next unexpected =>
          rw [← records.expects, Bool.not_eq_true] at unexpected
          rw [FeedbackFrameTracker.markReceived_unexpected unexpected]
          exact records

/-! ## Answers -/

/-- A tracker answers every call as the marks do. -/
structure AnswersAs (tracker : FeedbackFrameTracker) (ids : ReceivedIds) : Prop where
  /-- Only the last id missing completes a frame, and then nothing counts as received. -/
  completion : ∀ slaveId now,
    ((tracker.markReceived slaveId now).1 = true ↔ ids.Completes slaveId) ∧
      ((tracker.markReceived slaveId now).1 = true →
        ∀ other, (tracker.markReceived slaveId now).2.isReceived other = false)
  received : ∀ slaveId,
    tracker.isReceived slaveId = true ↔ slaveId ∈ ids.expected ∧ ids.Marked slaveId
  /-- Other ids change nothing. -/
  ignored : ∀ slaveId now, slaveId ∉ ids.expected →
    tracker.markReceived slaveId now = (false, tracker)
  /-- A partial frame times out by the age of its first mark. -/
  timeout : ∀ now timeout, tracker.shouldPublishTimeout now timeout = true ↔
    ids.Partial ∧ ∃ first ∈ ids.marks.head?, timeout ≤ now - first.2

theorem Records.partial_iff (records : Records tracker ids) : ids.Partial ↔ ids.marks ≠ [] := by
  constructor
  · rintro ⟨⟨slaveId, -, marked⟩, -⟩ none
    rw [ReceivedIds.Marked, none] at marked
    contradiction
  · intro some
    rcases List.exists_mem_of_ne_nil _ some with ⟨mark, member⟩
    have marked : ids.Marked mark.1 := List.mem_map_of_mem member
    exact ⟨⟨mark.1, records.member mark.1 marked, marked⟩, records.missing some⟩

/-- The mask of an active frame is not empty. -/
theorem Records.currentMask (records : Records tracker ids) (some : ids.marks ≠ []) :
    tracker.mask.currentMask ≠ 0#64 := by
  rcases records.partial_iff.mpr some with ⟨⟨slaveId, -, marked⟩, -⟩
  have received := MaskTracker.isReceived_iff.mp ((records.received slaveId).mpr marked)
  intro zero
  rw [zero] at received
  exact MaskTracker.not_holds_zero slaveId received

theorem Records.answersAs (records : Records tracker ids) : AnswersAs tracker ids where
  completion slaveId now := by
    refine ⟨records.completes slaveId now, fun complete other => ?_⟩
    have cleared := records.completion ((records.completes slaveId now).mp complete) now
    rw [Bool.eq_false_iff, ne_eq, cleared.received]
    simp [ReceivedIds.Marked]
  received slaveId := by
    rw [records.received, and_iff_right_of_imp (records.member slaveId)]
  ignored slaveId now unexpected := by
    rw [← records.expects, Bool.not_eq_true] at unexpected
    exact FeedbackFrameTracker.markReceived_unexpected unexpected
  timeout now timeout := by
    rw [records.partial_iff, FeedbackFrameTracker.shouldPublishTimeout, Bool.and_eq_true,
      Bool.and_eq_true, decide_eq_true_iff, decide_eq_true_iff, records.active]
    cases marks : ids.marks with
    | nil => simp
    | cons head rest =>
        have started := records.started head (by simp [marks])
        have current := records.currentMask (by simp [marks])
        simp [started, current]

/-- After any calls on a new tracker, it answers every further call as the marks do. -/
theorem feedback_tracker_refines (calls : List TrackerCall) :
    AnswersAs (calls.foldl FeedbackFrameTracker.call .initial)
      (calls.foldl ReceivedIds.call .initial) := by
  have records : Records (calls.foldl FeedbackFrameTracker.call .initial)
      (calls.foldl ReceivedIds.call .initial) :=
    List.foldl_rel Records.initial fun call _ _ _ earlier => earlier.call call
  exact records.answersAs

end RmdCanSdk
