import RmdCanSdk.Library.Plane
import RmdCanSdk.Library.Traverse

/-!
# The knee linkage

A crank on the motor and an arm on the knee axis, joined by a rod. Each of the two solvers
finds the angle of one of them from the angle of the other, over the real numbers.
-/

namespace RmdCanSdk

open Plane Real

noncomputable section

/-! ## Angles -/

def wrapDistance (a b : ℝ) : ℝ := |atan2 (sin (a - b)) (cos (a - b))|

def chooseClosest (first second reference : ℝ) : ℝ :=
  if wrapDistance first reference ≤ wrapDistance second reference then first else second

def checkedAcos (value : ℝ) : ℝ := arccos (max (-1) (min value 1))

def requireReachable (d firstRadius secondRadius : ℝ) (message : String) : Except String Unit :=
  if d < 1.0e-9 ∨ d > firstRadius + secondRadius ∨ d < |firstRadius - secondRadius| then
    throw message
  else return ()

/-! ## The solvers -/

structure Vec2 where
  x : ℝ
  z : ℝ

structure KneeLinkageConfig where
  thetaZeroRad : ℝ := 8.4 * 3.14159265358979323846 / 180.0
  betaZeroRad : ℝ := 61.2 * 3.14159265358979323846 / 180.0
  crankRadiusMm : ℝ := 50.0
  kneeArmMm : ℝ := 50.0
  rodLengthMm : ℝ := 215.0
  motorXmm : ℝ := 0.0
  motorZmm : ℝ := 250.0

/-- The common text of the solvers: the angle of a lever of some radius, counted from its
zero, of which the end is joined by a rod to the point `(dx, dz)` as seen from its axis. -/
def solveLever (dx dz radius rodLength zeroRad previousRad : ℝ) (message : String) :
    Except String ℝ := do
  let d := hypot dx dz
  requireReachable d radius rodLength message
  let phi := atan2 dz dx
  let alpha :=
    checkedAcos ((radius * radius + d * d - rodLength * rodLength) / (2.0 * radius * d))
  let first := phi + alpha - zeroRad
  let second := phi - alpha - zeroRad
  return chooseClosest first second previousRad

def solveKneeMotorFromJoint (kneePitchRad previousMotorRad : ℝ) (config : KneeLinkageConfig) :
    Except String ℝ :=
  let betaAbs := config.betaZeroRad + kneePitchRad
  let k : Vec2 := ⟨config.kneeArmMm * cos betaAbs, config.kneeArmMm * sin betaAbs⟩
  let m : Vec2 := ⟨config.motorXmm, config.motorZmm⟩
  let dx := k.x - m.x
  let dz := k.z - m.z
  solveLever dx dz config.crankRadiusMm config.rodLengthMm config.thetaZeroRad previousMotorRad
    "knee target is outside linkage reach"

def solveKneeJointFromMotor (motorRad previousKneePitchRad : ℝ) (config : KneeLinkageConfig) :
    Except String ℝ :=
  let thetaAbs := config.thetaZeroRad + motorRad
  let e : Vec2 := ⟨config.motorXmm + config.crankRadiusMm * cos thetaAbs,
    config.motorZmm + config.crankRadiusMm * sin thetaAbs⟩
  solveLever e.x e.z config.kneeArmMm config.rodLengthMm config.betaZeroRad previousKneePitchRad
    "knee motor is outside linkage reach"

/-! ## Distances of angles -/

theorem wrapDistance_eq (a b : ℝ) : wrapDistance a b = |((a : Angle) - b).toReal| := by
  rw [wrapDistance, atan2_sin_cos, Angle.coe_sub]

/-- Full turns do not matter for the distance. -/
theorem wrapDistance_congr {a b : ℝ} (same : (a : Angle) = b) (reference : ℝ) :
    wrapDistance a reference = wrapDistance b reference := by
  rw [wrapDistance_eq, wrapDistance_eq, same]

theorem wrapDistance_nonneg (a b : ℝ) : 0 ≤ wrapDistance a b := abs_nonneg _

theorem wrapDistance_eq_zero_iff {a b : ℝ} : wrapDistance a b = 0 ↔ (a : Angle) = b := by
  rw [wrapDistance_eq, abs_eq_zero, Angle.toReal_eq_zero_iff, sub_eq_zero]

theorem checkedAcos_eq {value : ℝ} (lower : -1 ≤ value) (upper : value ≤ 1) :
    checkedAcos value = arccos value := by
  rw [checkedAcos, min_eq_left upper, max_eq_right lower]

/-- The chosen angle is one of the two that has the smaller distance. -/
theorem chooseClosest_cases (first second reference : ℝ) :
    (chooseClosest first second reference = first ∨
        chooseClosest first second reference = second) ∧
      wrapDistance (chooseClosest first second reference) reference ≤
        wrapDistance first reference ∧
      wrapDistance (chooseClosest first second reference) reference ≤
        wrapDistance second reference := by
  rw [chooseClosest]
  split
  next closer => exact ⟨.inl rfl, le_rfl, closer⟩
  next farther => exact ⟨.inr rfl, (not_le.mp farther).le, le_rfl⟩

theorem requireReachable_eq_ok_iff {d firstRadius secondRadius : ℝ} {message : String} :
    requireReachable d firstRadius secondRadius message = .ok () ↔
      1.0e-9 ≤ d ∧ d ≤ firstRadius + secondRadius ∧ |firstRadius - secondRadius| ≤ d := by
  rw [requireReachable]
  split
  next outside =>
    apply iff_of_false
    · exact fun impossible => by contradiction
    · rintro ⟨away, near, far⟩
      rcases outside with close | beyond | inside
      · linarith
      · linarith
      · linarith
  next inside =>
    rw [not_or, not_or, not_lt, not_lt, not_lt] at inside
    exact iff_of_true rfl inside

/-! ## One lever -/

/-- A solution of a linkage, which has two up to full turns, that is closest to a reference. -/
structure Closest (Solves : ℝ → Prop) (reference chosen : ℝ) : Prop where
  solves : Solves chosen
  two : ∃ other : ℝ, ∀ angle : ℝ, Solves angle ↔
    (angle : Angle) = (chosen : Angle) ∨ (angle : Angle) = (other : Angle)
  nearest : ∀ angle, Solves angle →
    wrapDistance chosen reference ≤ wrapDistance angle reference

/-- The end of the lever is joined to the point. -/
def LeverLinked (dx dz radius rodLength zeroRad angle : ℝ) : Prop :=
  hypot (radius * cos (zeroRad + angle) - dx) (radius * sin (zeroRad + angle) - dz) = rodLength

section

variable {dx dz radius rodLength zeroRad previousRad result : ℝ} {message : String}

/-- The two solutions of a lever. -/
theorem leverLinked_iff (positive : 0 < radius) (rod : 0 < rodLength)
    (reachable : requireReachable (hypot dx dz) radius rodLength message = .ok ())
    (zeroRad angle : ℝ) : LeverLinked dx dz radius rodLength zeroRad angle ↔
      (angle : Angle) = ↑(atan2 dz dx + checkedAcos ((radius * radius + hypot dx dz * hypot dx dz -
        rodLength * rodLength) / (2.0 * radius * hypot dx dz)) - zeroRad) ∨
      (angle : Angle) = ↑(atan2 dz dx - checkedAcos ((radius * radius + hypot dx dz * hypot dx dz -
        rodLength * rodLength) / (2.0 * radius * hypot dx dz)) - zeroRad) := by
  rcases requireReachable_eq_ok_iff.mp reachable with ⟨least, near, far⟩
  have away : 0 < hypot dx dz := lt_of_lt_of_le (by norm_num) least
  rcases abs_cosine_le_one positive away near far with ⟨lower, upper⟩
  have same : (radius * radius + hypot dx dz * hypot dx dz - rodLength * rodLength) /
      (2.0 * radius * hypot dx dz) = cosine radius rodLength (hypot dx dz) := by
    rw [cosine]
    norm_num
  rw [LeverLinked, hypot_circle_eq_iff_angle positive rod.le away near far, same,
    checkedAcos_eq lower upper, Angle.coe_sub _ zeroRad, Angle.coe_sub _ zeroRad,
    Angle.coe_add zeroRad, eq_sub_iff_add_eq', eq_sub_iff_add_eq']

/-- A lever that is found ends at the rod, and no other solution is closer. -/
theorem solveLever_ok (positive : 0 < radius) (rod : 0 < rodLength)
    (ok : solveLever dx dz radius rodLength zeroRad previousRad message = .ok result) :
    Closest (LeverLinked dx dz radius rodLength zeroRad) previousRad result := by
  rcases bind_eq_ok ok with ⟨_, reachable, chosen⟩
  have solutions := leverLinked_iff positive rod reachable zeroRad
  cases chosen
  generalize atan2 dz dx + _ - zeroRad = first at *
  generalize atan2 dz dx - _ - zeroRad = second at *
  rcases chooseClosest_cases first second previousRad with ⟨either, toFirst, toSecond⟩
  refine ⟨?_, ?_, ?_⟩
  · rw [solutions]
    rcases either with isFirst | isSecond
    · exact .inl (congrArg _ isFirst)
    · exact .inr (congrArg _ isSecond)
  · rcases either with isFirst | isSecond
    · refine ⟨second, fun angle => ?_⟩
      rw [isFirst]
      exact solutions angle
    · refine ⟨first, fun angle => ?_⟩
      rw [isSecond, or_comm]
      exact solutions angle
  · intro angle solves
    rcases (solutions angle).mp solves with isFirst | isSecond
    · rw [wrapDistance_congr isFirst]
      exact toFirst
    · rw [wrapDistance_congr isSecond]
      exact toSecond

/-- A lever that ends at the rod is found again, up to full turns, from its own angle. -/
theorem solveLever_total (positive : 0 < radius) (rod : 0 < rodLength)
    (away : 1.0e-9 ≤ hypot dx dz) {angle : ℝ}
    (linked : LeverLinked dx dz radius rodLength zeroRad angle) :
    ∃ result, solveLever dx dz radius rodLength zeroRad angle message = .ok result ∧
      (result : Angle) = (angle : Angle) := by
  rcases reachable_of_hypot_circle positive rod.le linked with ⟨near, far⟩
  have reachable : requireReachable (hypot dx dz) radius rodLength message = .ok () :=
    requireReachable_eq_ok_iff.mpr ⟨away, near, far⟩
  obtain ⟨result, ok⟩ : ∃ result,
      solveLever dx dz radius rodLength zeroRad angle message = .ok result := by
    rw [solveLever, reachable]
    exact ⟨_, rfl⟩
  refine ⟨result, ok, ?_⟩
  -- the angle itself is a solution, at no distance from the reference
  have nearest := (solveLever_ok positive rod ok).nearest angle linked
  rw [wrapDistance_eq_zero_iff.mpr (rfl : (angle : Angle) = angle)] at nearest
  exact wrapDistance_eq_zero_iff.mp (le_antisymm nearest (wrapDistance_nonneg _ _))

end

/-! ## The knee -/

namespace KneeLinkageConfig

variable (config : KneeLinkageConfig)

def crankEnd (motorRad : ℝ) : Vec2 where
  x := config.motorXmm + config.crankRadiusMm * cos (config.thetaZeroRad + motorRad)
  z := config.motorZmm + config.crankRadiusMm * sin (config.thetaZeroRad + motorRad)

def kneeArmEnd (kneePitchRad : ℝ) : Vec2 where
  x := config.kneeArmMm * cos (config.betaZeroRad + kneePitchRad)
  z := config.kneeArmMm * sin (config.betaZeroRad + kneePitchRad)

/-- The rod joins the two ends. -/
def Linked (motorRad kneePitchRad : ℝ) : Prop :=
  hypot ((config.crankEnd motorRad).x - (config.kneeArmEnd kneePitchRad).x)
    ((config.crankEnd motorRad).z - (config.kneeArmEnd kneePitchRad).z) = config.rodLengthMm

theorem linked_iff_crank (motorRad kneePitchRad : ℝ) :
    config.Linked motorRad kneePitchRad ↔
      LeverLinked ((config.kneeArmEnd kneePitchRad).x - config.motorXmm)
        ((config.kneeArmEnd kneePitchRad).z - config.motorZmm) config.crankRadiusMm
        config.rodLengthMm config.thetaZeroRad motorRad := by
  rw [Linked, LeverLinked, crankEnd, sub_sub_eq_add_sub, sub_sub_eq_add_sub, add_comm,
    add_comm config.motorZmm]

theorem linked_iff_arm (motorRad kneePitchRad : ℝ) :
    config.Linked motorRad kneePitchRad ↔
      LeverLinked (config.crankEnd motorRad).x (config.crankEnd motorRad).z config.kneeArmMm
        config.rodLengthMm config.betaZeroRad kneePitchRad := by
  have symmetric : ∀ x y, hypot (-x) (-y) = hypot x y := by
    intro x y
    rw [hypot, hypot, neg_mul_neg, neg_mul_neg]
  rw [Linked, LeverLinked, ← symmetric, neg_sub, neg_sub]
  rfl

end KneeLinkageConfig

/-- Each solver finds a solution of the linkage, of the two the one closest to the previous
angle, and the other solver leads back from there unless its lever's axis is at the point. -/
theorem knee_solvers (config : KneeLinkageConfig) (crank : 0 < config.crankRadiusMm)
    (arm : 0 < config.kneeArmMm) (rod : 0 < config.rodLengthMm) :
    (∀ kneePitchRad previousMotorRad motorRad,
      solveKneeMotorFromJoint kneePitchRad previousMotorRad config = .ok motorRad →
        Closest (config.Linked · kneePitchRad) previousMotorRad motorRad ∧
        (1.0e-9 ≤ hypot (config.crankEnd motorRad).x (config.crankEnd motorRad).z →
          ∃ result, solveKneeJointFromMotor motorRad kneePitchRad config = .ok result ∧
            (result : Angle) = (kneePitchRad : Angle))) ∧
    ∀ motorRad previousKneePitchRad kneePitchRad,
      solveKneeJointFromMotor motorRad previousKneePitchRad config = .ok kneePitchRad →
        Closest (config.Linked motorRad ·) previousKneePitchRad kneePitchRad ∧
        (1.0e-9 ≤ hypot ((config.kneeArmEnd kneePitchRad).x - config.motorXmm)
            ((config.kneeArmEnd kneePitchRad).z - config.motorZmm) →
          ∃ result, solveKneeMotorFromJoint kneePitchRad motorRad config = .ok result ∧
            (result : Angle) = (motorRad : Angle)) := by
  constructor
  · intro kneePitchRad previousMotorRad motorRad ok
    have closest := solveLever_ok crank rod ok
    have linked := (config.linked_iff_crank motorRad kneePitchRad).mpr closest.solves
    refine ⟨?_, fun away => ?_⟩
    · have same : (config.Linked · kneePitchRad) = LeverLinked
          ((config.kneeArmEnd kneePitchRad).x - config.motorXmm)
          ((config.kneeArmEnd kneePitchRad).z - config.motorZmm) config.crankRadiusMm
          config.rodLengthMm config.thetaZeroRad := by
        funext motorRad
        exact propext (config.linked_iff_crank motorRad kneePitchRad)
      rw [same]
      exact closest
    · exact solveLever_total arm rod away ((config.linked_iff_arm motorRad kneePitchRad).mp linked)
  · intro motorRad previousKneePitchRad kneePitchRad ok
    have closest := solveLever_ok arm rod ok
    have linked := (config.linked_iff_arm motorRad kneePitchRad).mpr closest.solves
    refine ⟨?_, fun away => ?_⟩
    · have same : (config.Linked motorRad ·) = LeverLinked (config.crankEnd motorRad).x
          (config.crankEnd motorRad).z config.kneeArmMm config.rodLengthMm config.betaZeroRad := by
        funext kneePitchRad
        exact propext (config.linked_iff_arm motorRad kneePitchRad)
      rw [same]
      exact closest
    · exact solveLever_total crank rod away
        ((config.linked_iff_crank motorRad kneePitchRad).mp linked)

/-- All parts have the length one, and the motor is two away from the knee axis. -/
def unitLinkage : KneeLinkageConfig where
  thetaZeroRad := 0
  betaZeroRad := 0
  crankRadiusMm := 1
  kneeArmMm := 1
  rodLengthMm := 1
  motorXmm := 2.0
  motorZmm := 0

theorem knee_solvers_unit :
    ∃ motorRad, solveKneeMotorFromJoint 0 0 unitLinkage = .ok motorRad ∧
      Closest (unitLinkage.Linked · 0) 0 motorRad := by
  have apart : hypot (1 * cos (0 + 0) - 2.0) (1 * sin (0 + 0) - 0) = 1 := by
    rw [hypot, add_zero, cos_zero, sin_zero]
    norm_num
  have reachable : requireReachable 1 1 1 "knee target is outside linkage reach" = .ok () := by
    rw [requireReachable_eq_ok_iff]
    norm_num
  obtain ⟨motorRad, ok⟩ : ∃ motorRad,
      solveKneeMotorFromJoint 0 0 unitLinkage = .ok motorRad := by
    rw [solveKneeMotorFromJoint]
    simp only [unitLinkage, solveLever, apart, reachable]
    exact ⟨_, rfl⟩
  have positive : (0 : ℝ) < 1 := one_pos
  exact ⟨motorRad, ok, ((knee_solvers unitLinkage positive positive positive).1
    0 0 motorRad ok).1⟩

end

end RmdCanSdk
