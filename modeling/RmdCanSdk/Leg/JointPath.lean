import RmdCanSdk.Leg.Ankle
import RmdCanSdk.Library.Easing

/-!
# Joint paths

Waypoints of the leg's joints and the sampler between them, over the real numbers. Times
are 32-bit integers, and a subtraction that overflows has no result.
-/

namespace RmdCanSdk

noncomputable section

structure LegJointWaypoint where
  timeMs : Int32
  joints : LegJointTargets

/-- What keeps the sampler from returning: the exception it throws, or an overflow, which
the language leaves undefined. -/
inductive SampleError where
  | invalidArgument (what : String)
  | overflow
  deriving DecidableEq

inductive LegJoint where
  | hipPitch
  | kneePitch
  | anklePitch
  | ankleRoll
  deriving DecidableEq

/-- The angle of one joint. -/
def LegJointTargets.angle (joints : LegJointTargets) : LegJoint → ℝ
  | .hipPitch => joints.hipPitchRad
  | .kneePitch => joints.kneePitchRad
  | .anklePitch => joints.anklePitchRad
  | .ankleRoll => joints.ankleRollRad

def lerp (start finish t : ℝ) : ℝ := start + (finish - start) * t

def minimumJerkProgress (t : ℝ) : ℝ := t * t * t * (10.0 + t * (-15.0 + 6.0 * t))

def interpolate (start finish : LegJointTargets) (t : ℝ) : LegJointTargets where
  hipPitchRad := lerp start.hipPitchRad finish.hipPitchRad t
  kneePitchRad := lerp start.kneePitchRad finish.kneePitchRad t
  anklePitchRad := lerp start.anklePitchRad finish.anklePitchRad t
  ankleRollRad := lerp start.ankleRollRad finish.ankleRollRad t

/-- The loop over neighbouring waypoints. -/
def validateTimes (previous : LegJointWaypoint) : List LegJointWaypoint → Except String Unit
  | [] => return ()
  | next :: rest =>
      if next.timeMs ≤ previous.timeMs then
        throw "joint path waypoint times must be strictly increasing"
      else validateTimes next rest

def validateLegJointPath : List LegJointWaypoint → Except String Unit
  | [] => throw "joint path must contain at least one waypoint"
  | first :: rest =>
      if first.timeMs < 0 then throw "joint path first waypoint time must be non-negative"
      else validateTimes first rest

/-- The difference of two 32-bit integers. -/
def subtract (left right : Int32) : Except SampleError Int :=
  let difference := left.toInt - right.toInt
  if -2 ^ 31 ≤ difference ∧ difference < 2 ^ 31 then return difference
  else throw .overflow

/-- The loop over the segments of a path. -/
def sampleSegments (elapsedMs : Int32) (previous : LegJointWaypoint) :
    List LegJointWaypoint → Except SampleError LegJointTargets
  | [] => return previous.joints
  | next :: rest =>
      if elapsedMs ≤ next.timeMs then do
        let elapsed ← subtract elapsedMs previous.timeMs
        let length ← subtract next.timeMs previous.timeMs
        let t : ℝ := elapsed / length
        return interpolate previous.joints next.joints (minimumJerkProgress t)
      else sampleSegments elapsedMs next rest

def sampleLegJointPath (path : List LegJointWaypoint) (elapsedMs : Int32) :
    Except SampleError LegJointTargets := do
  (validateLegJointPath path).mapError .invalidArgument
  match path with
  -- an empty path has been rejected
  | [] => throw (.invalidArgument "")
  | first :: rest =>
      let last := (first :: rest).getLast (List.cons_ne_nil first rest)
      if elapsedMs ≤ first.timeMs then return first.joints
      else if elapsedMs ≥ last.timeMs then return last.joints
      else sampleSegments elapsedMs first rest

/-! ## Accepted paths -/

/-- Times increase from one waypoint to the next. -/
def Increasing (path : List LegJointWaypoint) : Prop :=
  path.IsChain fun previous next => previous.timeMs.toInt < next.timeMs.toInt

theorem validateTimes_ok {previous : LegJointWaypoint} {rest : List LegJointWaypoint} :
    validateTimes previous rest = .ok () ↔ Increasing (previous :: rest) := by
  induction rest generalizing previous with
  | nil => exact iff_of_true rfl (List.isChain_singleton _)
  | cons next rest ih =>
      rw [validateTimes, Increasing, List.isChain_cons_cons]
      split
      next notLater =>
        rw [Int32.le_iff_toInt_le] at notLater
        exact iff_of_false (fun impossible => by cases impossible)
          (fun chain => absurd chain.1 (not_lt_of_ge notLater))
      next later =>
        rw [Int32.le_iff_toInt_le, not_le] at later
        rw [ih, and_iff_right later]
        rfl

theorem validateLegJointPath_ok {path : List LegJointWaypoint} :
    validateLegJointPath path = .ok () ↔
      ∃ first rest, path = first :: rest ∧ 0 ≤ first.timeMs.toInt ∧ Increasing path := by
  cases path with
  | nil =>
      refine iff_of_false (fun impossible => by cases impossible) ?_
      rintro ⟨first, rest, impossible, -⟩
      contradiction
  | cons first rest =>
      have sign : first.timeMs < 0 ↔ ¬ 0 ≤ first.timeMs.toInt := by
        rw [Int32.lt_iff_toInt_lt, not_le]
        rfl
      rw [validateLegJointPath]
      split
      next negative =>
        refine iff_of_false (fun impossible => by cases impossible) ?_
        rintro ⟨_, _, same, nonneg, -⟩
        cases same
        exact sign.mp negative nonneg
      next nonneg =>
        rw [validateTimes_ok]
        constructor
        · exact fun increasing => ⟨first, rest, rfl, not_not.mp (mt sign.mpr nonneg), increasing⟩
        · rintro ⟨_, _, -, -, increasing⟩
          exact increasing

/-! ## Segments -/

/-- A time between the times of two waypoints. -/
structure Within (start finish : LegJointWaypoint) (elapsedMs : Int32) : Prop where
  lower : start.timeMs ≤ elapsedMs
  upper : elapsedMs ≤ finish.timeMs

/-- The part of a segment that has passed. -/
def fraction (start finish : LegJointWaypoint) (elapsedMs : Int32) : ℝ :=
  ((elapsedMs.toInt - start.timeMs.toInt : Int) : ℝ) /
    ((finish.timeMs.toInt - start.timeMs.toInt : Int) : ℝ)

/-- The joints on the way from one waypoint to another. -/
def between (start finish : LegJointWaypoint) (elapsedMs : Int32) : LegJointTargets :=
  interpolate start.joints finish.joints (minimumJerkProgress (fraction start finish elapsedMs))

theorem subtract_ok {left right : Int32} (nonneg : 0 ≤ right.toInt) (le : right ≤ left) :
    subtract left right = .ok (left.toInt - right.toInt) := by
  rw [Int32.le_iff_toInt_le] at le
  have bound := left.toInt_lt
  exact if_pos (by omega)

/-- The loop stops in the segment it looks for. -/
theorem sampleSegments_here {elapsedMs : Int32} {previous next : LegJointWaypoint}
    (nonneg : 0 ≤ previous.timeMs.toInt) (later : previous.timeMs.toInt < next.timeMs.toInt)
    (within : Within previous next elapsedMs) (rest : List LegJointWaypoint) :
    sampleSegments elapsedMs previous (next :: rest) = .ok (between previous next elapsedMs) := by
  have ordered : previous.timeMs ≤ next.timeMs := Int32.le_iff_toInt_le.mpr later.le
  rw [sampleSegments, if_pos within.upper, subtract_ok nonneg within.lower,
    subtract_ok nonneg ordered]
  rfl

theorem between_start (start finish : LegJointWaypoint) :
    between start finish start.timeMs = start.joints := by
  have zero : fraction start finish start.timeMs = 0 := by
    rw [fraction, sub_self, Int.cast_zero, zero_div]
  rw [between, zero]
  simp [interpolate, lerp, minimumJerkProgress]

theorem between_finish {start finish : LegJointWaypoint}
    (later : start.timeMs.toInt < finish.timeMs.toInt) :
    between start finish finish.timeMs = finish.joints := by
  have one : fraction start finish finish.timeMs = 1 :=
    div_self (by exact_mod_cast (sub_pos.mpr later).ne')
  have progress : minimumJerkProgress 1 = 1 := by norm_num [minimumJerkProgress]
  rw [between, one, progress]
  simp [interpolate, lerp]

/-- Two waypoints that follow each other in a path. -/
def Neighbours (path : List LegJointWaypoint) (start finish : LegJointWaypoint) : Prop :=
  ∃ front back, path = front ++ start :: finish :: back

theorem Increasing.tail {first : LegJointWaypoint} {rest : List LegJointWaypoint}
    (increasing : Increasing (first :: rest)) : Increasing rest :=
  List.IsChain.tail increasing

theorem Increasing.head_lt {first later : LegJointWaypoint} {rest : List LegJointWaypoint}
    (increasing : Increasing (first :: rest)) (member : later ∈ rest) :
    first.timeMs.toInt < later.timeMs.toInt := by
  have transitive : IsTrans LegJointWaypoint
      fun previous next => previous.timeMs.toInt < next.timeMs.toInt :=
    ⟨fun _ _ _ => Int.lt_trans⟩
  exact (List.pairwise_cons.mp (List.isChain_iff_pairwise.mp increasing)).1 later member

/-- The loop finds every segment. Where two segments meet it stops in the first one, which
ends where the second one starts. -/
theorem sampleSegments_eq {elapsedMs : Int32} {previous start finish : LegJointWaypoint}
    {rest : List LegJointWaypoint} (nonneg : 0 ≤ previous.timeMs.toInt)
    (increasing : Increasing (previous :: rest))
    (neighbours : Neighbours (previous :: rest) start finish)
    (within : Within start finish elapsedMs) :
    sampleSegments elapsedMs previous rest = .ok (between start finish elapsedMs) := by
  induction rest generalizing previous with
  | nil =>
      rcases neighbours with ⟨front, back, same⟩
      have lengths := congrArg List.length same
      simp only [List.length_append, List.length_cons, List.length_nil] at lengths
      omega
  | cons next rest ih =>
      have later := increasing.head_lt (List.mem_cons_self : next ∈ next :: rest)
      rcases neighbours with ⟨front, back, same⟩
      cases front with
      | nil =>
          simp only [List.nil_append, List.cons.injEq] at same
          rcases same with ⟨rfl, rfl, -⟩
          exact sampleSegments_here nonneg later within rest
      | cons head front =>
          rw [List.cons_append, List.cons.injEq] at same
          have further : Neighbours (next :: rest) start finish := ⟨front, back, same.2⟩
          by_cases stops : elapsedMs ≤ next.timeMs
          · have reached := within.lower
            cases front with
            | nil =>
                -- the segment starts where this one ends
                simp only [List.nil_append, List.cons.injEq] at same
                rcases same with ⟨-, rfl, rfl⟩
                have meets : elapsedMs = next.timeMs := Int32.le_antisymm stops reached
                subst meets
                have ends : Within previous next next.timeMs :=
                  ⟨Int32.le_iff_toInt_le.mpr later.le, stops⟩
                have follows :=
                  increasing.tail.head_lt (List.mem_cons_self : finish ∈ finish :: back)
                rw [sampleSegments_here nonneg later ends, between_finish later, between_start]
            | cons head front =>
                have member : start ∈ rest := by
                  rw [List.cons_append, List.cons.injEq] at same
                  rw [same.2.2]
                  simp
                have after := increasing.tail.head_lt member
                rw [Int32.le_iff_toInt_le] at stops reached
                omega
          · rw [sampleSegments, if_neg stops]
            exact ih (nonneg.trans later.le) increasing.tail further

/-! ## Samples -/

variable {path : List LegJointWaypoint} {elapsedMs : Int32}

/-- The sampler takes one of three ways through an accepted path. -/
theorem sampleLegJointPath_eq {first : LegJointWaypoint} {rest : List LegJointWaypoint}
    (accepted : validateLegJointPath (first :: rest) = .ok ()) (elapsedMs : Int32) :
    sampleLegJointPath (first :: rest) elapsedMs =
      if elapsedMs ≤ first.timeMs then .ok first.joints
      else if elapsedMs ≥ ((first :: rest).getLast (List.cons_ne_nil first rest)).timeMs then
        .ok ((first :: rest).getLast (List.cons_ne_nil first rest)).joints
      else sampleSegments elapsedMs first rest := by
  rw [sampleLegJointPath, accepted]
  rfl

theorem Increasing.drop {front back : List LegJointWaypoint}
    (increasing : Increasing (front ++ back)) : Increasing back :=
  (List.isChain_append.mp increasing).2.1

/-- A segment that does not start after the path starts with its first waypoint. -/
theorem Neighbours.start_eq_first {first start finish : LegJointWaypoint}
    {rest : List LegJointWaypoint} (neighbours : Neighbours (first :: rest) start finish)
    (increasing : Increasing (first :: rest)) (early : start.timeMs ≤ first.timeMs) :
    start = first := by
  rcases neighbours with ⟨front, back, same⟩
  have member : start ∈ first :: rest := by simp [same]
  rcases List.mem_cons.mp member with isFirst | later
  · exact isFirst
  · have after := increasing.head_lt later
    rw [Int32.le_iff_toInt_le] at early
    omega

/-- A segment that does not end before the path ends with its last waypoint. -/
theorem Neighbours.getLast_eq_finish {start finish : LegJointWaypoint}
    (neighbours : Neighbours path start finish) (increasing : Increasing path)
    (nonempty : path ≠ []) (late : (path.getLast nonempty).timeMs ≤ finish.timeMs) :
    path.getLast nonempty = finish := by
  rcases neighbours with ⟨front, back, rfl⟩
  cases back with
  | nil => simp
  | cons next back =>
      have member : (front ++ start :: finish :: next :: back).getLast nonempty ∈
          next :: back := by
        have split : front ++ start :: finish :: next :: back =
            (front ++ [start, finish]) ++ next :: back := by simp
        simp only [split]
        rw [List.getLast_append_of_ne_nil _ (List.cons_ne_nil next back)]
        exact List.getLast_mem _
      have beyond := increasing.drop.tail.head_lt member
      rw [Int32.le_iff_toInt_le] at late
      omega

theorem Neighbours.later (increasing : Increasing path)
    {start finish : LegJointWaypoint} (neighbours : Neighbours path start finish) :
    start.timeMs.toInt < finish.timeMs.toInt := by
  rcases neighbours with ⟨front, back, rfl⟩
  exact increasing.drop.head_lt List.mem_cons_self

/-- In every segment the sampler returns the joints on the way between its ends. -/
theorem sampleLegJointPath_between (accepted : validateLegJointPath path = .ok ())
    {start finish : LegJointWaypoint} (neighbours : Neighbours path start finish)
    (within : Within start finish elapsedMs) :
    sampleLegJointPath path elapsedMs = .ok (between start finish elapsedMs) := by
  rcases validateLegJointPath_ok.mp accepted with ⟨first, rest, rfl, nonneg, increasing⟩
  rw [sampleLegJointPath_eq accepted]
  split
  next before =>
    cases neighbours.start_eq_first increasing (Int32.le_trans within.lower before)
    rw [Int32.le_antisymm before within.lower, between_start]
  next =>
    split
    next after =>
      have isLast := neighbours.getLast_eq_finish increasing (List.cons_ne_nil first rest)
        (Int32.le_trans after within.upper)
      rw [isLast] at after ⊢
      rw [Int32.le_antisymm within.upper after, between_finish (neighbours.later increasing)]
    next => exact sampleSegments_eq nonneg increasing neighbours within

theorem sampleLegJointPath_before (accepted : validateLegJointPath path = .ok ())
    {first : LegJointWaypoint} (isFirst : first ∈ path.head?) (before : elapsedMs ≤ first.timeMs) :
    sampleLegJointPath path elapsedMs = .ok first.joints := by
  rcases validateLegJointPath_ok.mp accepted with ⟨head, rest, rfl, -, -⟩
  simp only [List.head?_cons, Option.mem_some_iff] at isFirst
  rw [sampleLegJointPath_eq accepted, isFirst, if_pos before]

theorem sampleLegJointPath_after (accepted : validateLegJointPath path = .ok ())
    {last : LegJointWaypoint} (isLast : last ∈ path.getLast?) (after : last.timeMs ≤ elapsedMs) :
    sampleLegJointPath path elapsedMs = .ok last.joints := by
  rcases validateLegJointPath_ok.mp accepted with ⟨first, rest, rfl, -, increasing⟩
  rw [List.getLast?_eq_getLast_of_ne_nil (List.cons_ne_nil first rest),
    Option.mem_some_iff] at isLast
  rw [sampleLegJointPath_eq accepted, isLast, if_pos after]
  split
  next before =>
    -- only in a path of one waypoint
    cases rest with
    | nil => rw [← isLast, List.getLast_singleton]
    | cons next rest =>
        have member : last ∈ next :: rest := by
          rw [← isLast, List.getLast_cons (List.cons_ne_nil next rest)]
          exact List.getLast_mem _
        have later := increasing.head_lt member
        rw [Int32.le_iff_toInt_le] at before after
        omega
  next => rfl

theorem sampleLegJointPath_waypoint (accepted : validateLegJointPath path = .ok ())
    {waypoint : LegJointWaypoint} (member : waypoint ∈ path) :
    sampleLegJointPath path waypoint.timeMs = .ok waypoint.joints := by
  rcases List.append_of_mem member with ⟨front, back, same⟩
  cases back with
  | nil =>
      apply sampleLegJointPath_after accepted _ (Int32.le_refl _)
      simp [same]
  | cons next back =>
      rcases validateLegJointPath_ok.mp accepted with ⟨-, -, -, -, increasing⟩
      rw [same] at increasing
      have later := increasing.drop.head_lt (List.mem_cons_self : next ∈ next :: back)
      have within : Within waypoint next waypoint.timeMs :=
        ⟨Int32.le_refl _, Int32.le_iff_toInt_le.mpr later.le⟩
      rw [sampleLegJointPath_between accepted ⟨front, back, same⟩ within, between_start]

/-- No subtraction of the loop overflows. -/
theorem sampleSegments_isOk {previous : LegJointWaypoint} {rest : List LegJointWaypoint}
    (nonneg : 0 ≤ previous.timeMs.toInt) (increasing : Increasing (previous :: rest))
    (after : previous.timeMs ≤ elapsedMs) :
    ∃ joints, sampleSegments elapsedMs previous rest = .ok joints := by
  induction rest generalizing previous with
  | nil => exact ⟨previous.joints, rfl⟩
  | cons next rest ih =>
      have later := increasing.head_lt (List.mem_cons_self : next ∈ next :: rest)
      by_cases stops : elapsedMs ≤ next.timeMs
      · exact ⟨_, sampleSegments_here nonneg later ⟨after, stops⟩ rest⟩
      · rw [sampleSegments, if_neg stops]
        have beyond := Int32.le_total next.timeMs elapsedMs
        exact ih (nonneg.trans later.le) increasing.tail (beyond.resolve_right stops)

theorem sampleLegJointPath_isOk (accepted : validateLegJointPath path = .ok ())
    (elapsedMs : Int32) : ∃ joints, sampleLegJointPath path elapsedMs = .ok joints := by
  rcases validateLegJointPath_ok.mp accepted with ⟨first, rest, rfl, nonneg, increasing⟩
  rw [sampleLegJointPath_eq accepted]
  split
  next => exact ⟨_, rfl⟩
  next inside =>
    split
    next => exact ⟨_, rfl⟩
    next =>
      have after := (Int32.le_total first.timeMs elapsedMs).resolve_right inside
      exact sampleSegments_isOk nonneg increasing after

/-! ## Motion -/

variable {start finish : LegJointWaypoint}

/-- Each joint is eased from one waypoint to the next. -/
theorem angle_between (start finish : LegJointWaypoint) (elapsedMs : Int32) (joint : LegJoint) :
    (between start finish elapsedMs).angle joint =
      Easing.minimumJerk.blend (start.joints.angle joint) (finish.joints.angle joint)
        (fraction start finish elapsedMs) := by
  have progress : ∀ t, minimumJerkProgress t = Easing.minimumJerk.progress t := by
    intro t
    norm_num [minimumJerkProgress, Easing.minimumJerk, Easing.quintic]
  simp only [between, Easing.blend, ← progress]
  cases joint <;> rfl

theorem fraction_mono (later : start.timeMs.toInt < finish.timeMs.toInt) {early late : Int32}
    (le : early ≤ late) : fraction start finish early ≤ fraction start finish late := by
  rw [Int32.le_iff_toInt_le] at le
  apply div_le_div_of_nonneg_right
  · exact_mod_cast Int.sub_le_sub_right le _
  · exact_mod_cast (sub_pos.mpr later).le

theorem fraction_mem (later : start.timeMs.toInt < finish.timeMs.toInt)
    (within : Within start finish elapsedMs) :
    0 ≤ fraction start finish elapsedMs ∧ fraction start finish elapsedMs ≤ 1 := by
  have lower := fraction_mono later within.lower
  have upper := fraction_mono later within.upper
  have length : ((finish.timeMs.toInt - start.timeMs.toInt : Int) : ℝ) ≠ 0 := by
    exact_mod_cast (sub_pos.mpr later).ne'
  rw [fraction, sub_self, Int.cast_zero, zero_div] at lower
  rw [fraction, fraction, div_self length] at upper
  exact ⟨lower, upper⟩

/-- The samples inside one segment. -/
structure SegmentEased (path : List LegJointWaypoint) (start finish : LegJointWaypoint) :
    Prop where
  between : ∀ elapsedMs joints, Within start finish elapsedMs →
    sampleLegJointPath path elapsedMs = .ok joints → ∀ joint,
      min (start.joints.angle joint) (finish.joints.angle joint) ≤ joints.angle joint ∧
        joints.angle joint ≤ max (start.joints.angle joint) (finish.joints.angle joint)
  monotone : ∀ early late before after, Within start finish early → Within start finish late →
    early ≤ late → sampleLegJointPath path early = .ok before →
    sampleLegJointPath path late = .ok after → ∀ joint,
      (start.joints.angle joint ≤ finish.joints.angle joint →
        before.angle joint ≤ after.angle joint) ∧
      (finish.joints.angle joint ≤ start.joints.angle joint →
        after.angle joint ≤ before.angle joint)
  /-- The change in a millisecond. -/
  speed : ∀ early late before after, Within start finish early → Within start finish late →
    late.toInt = early.toInt + 1 → sampleLegJointPath path early = .ok before →
    sampleLegJointPath path late = .ok after → ∀ joint,
      |after.angle joint - before.angle joint| ≤
        15 / 8 * |finish.joints.angle joint - start.joints.angle joint| /
          (finish.timeMs.toInt - start.timeMs.toInt : Int)

/-- The samples of a whole path. -/
structure PathSampled (path : List LegJointWaypoint) : Prop where
  /-- Every time has a sample, so no subtraction overflows. -/
  defined : ∀ elapsedMs, ∃ joints, sampleLegJointPath path elapsedMs = .ok joints
  before : ∀ first ∈ path.head?, ∀ elapsedMs, elapsedMs ≤ first.timeMs →
    sampleLegJointPath path elapsedMs = .ok first.joints
  after : ∀ last ∈ path.getLast?, ∀ elapsedMs, last.timeMs ≤ elapsedMs →
    sampleLegJointPath path elapsedMs = .ok last.joints
  waypoint : ∀ waypoint ∈ path, sampleLegJointPath path waypoint.timeMs = .ok waypoint.joints
  segment : ∀ start finish, Neighbours path start finish → SegmentEased path start finish

theorem segmentEased (accepted : validateLegJointPath path = .ok ())
    (neighbours : Neighbours path start finish) : SegmentEased path start finish := by
  rcases validateLegJointPath_ok.mp accepted with ⟨-, -, -, -, increasing⟩
  have later := neighbours.later increasing
  have sampled : ∀ {elapsedMs joints}, Within start finish elapsedMs →
      sampleLegJointPath path elapsedMs = .ok joints → ∀ joint, joints.angle joint =
        Easing.minimumJerk.blend (start.joints.angle joint) (finish.joints.angle joint)
          (fraction start finish elapsedMs) := by
    intro elapsedMs joints within sample joint
    rw [sampleLegJointPath_between accepted neighbours within] at sample
    cases sample
    exact angle_between start finish elapsedMs joint
  constructor
  case between =>
    intro elapsedMs joints within sample joint
    have bounds := fraction_mem later within
    rw [sampled within sample]
    exact Easing.minimumJerk.blend_mem bounds.1 bounds.2
  case monotone =>
    intro early late before after earlyIn lateIn le earlySample lateSample joint
    have earlyBounds := fraction_mem later earlyIn
    have lateBounds := fraction_mem later lateIn
    have advance := fraction_mono later le
    rw [sampled earlyIn earlySample, sampled lateIn lateSample]
    constructor
    · intro rising
      exact Easing.minimumJerk.blend_le_blend rising earlyBounds.1 advance lateBounds.2
    · intro falling
      exact Easing.minimumJerk.blend_ge_blend falling earlyBounds.1 advance lateBounds.2
  case speed =>
    intro early late before after earlyIn lateIn next earlySample lateSample joint
    have le : early ≤ late := Int32.le_iff_toInt_le.mpr (by omega)
    have millisecond : fraction start finish late - fraction start finish early =
        1 / ((finish.timeMs.toInt - start.timeMs.toInt : Int) : ℝ) := by
      rw [fraction, fraction, ← sub_div, next]
      push_cast
      ring
    have bound := Easing.minimumJerk.abs_blend_sub_le (start.joints.angle joint)
      (finish.joints.angle joint) (fraction_mem later earlyIn).1
      (fraction_mono later le) (fraction_mem later lateIn).2
    rw [millisecond, mul_one_div] at bound
    rw [sampled earlyIn earlySample, sampled lateIn lateSample]
    exact bound

/-- Samples of an accepted path stay between neighbouring waypoints and move between them
at a bounded speed. -/
theorem joint_path_sampled (path : List LegJointWaypoint)
    (accepted : validateLegJointPath path = .ok ()) : PathSampled path where
  defined := sampleLegJointPath_isOk accepted
  before _ isFirst _ := sampleLegJointPath_before accepted isFirst
  after _ isLast _ := sampleLegJointPath_after accepted isLast
  waypoint _ := sampleLegJointPath_waypoint accepted
  segment _ _ := segmentEased accepted

/-- Two waypoints as far apart as the type allows. -/
def longestPath : List LegJointWaypoint :=
  [⟨0, {}⟩, ⟨2147483647, { kneePitchRad := -0.7 }⟩]

theorem joint_path_sampled_longest : PathSampled longestPath :=
  joint_path_sampled longestPath (by
    rw [validateLegJointPath_ok]
    exact ⟨_, _, rfl, by decide, by simp [Increasing, longestPath]⟩)

end

end RmdCanSdk
