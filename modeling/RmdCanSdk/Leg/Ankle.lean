import Mathlib.Analysis.InnerProductSpace.PiL2
import RmdCanSdk.Leg.Knee
import RmdCanSdk.Library.BoundedLoop

/-!
# The ankle linkage

Two cranks and two rods move the foot about two axes. The motor angles are found by a Newton
iteration for each crank, the joint angles by a Newton iteration around these. What the
solvers return satisfies the linkage up to their tolerances.
-/

namespace RmdCanSdk

open BoundedLoop Plane Real

noncomputable section

/-! ## Points of the linkage -/

structure Vec3 where
  x : ℝ
  y : ℝ
  z : ℝ

namespace Vec3

def distance (a b : Vec3) : ℝ :=
  let dx := a.x - b.x
  let dy := a.y - b.y
  let dz := a.z - b.z
  √(dx * dx + dy * dy + dz * dz)

def add (a b : Vec3) : Vec3 := ⟨a.x + b.x, a.y + b.y, a.z + b.z⟩

def rotX (c : Vec3) (angle : ℝ) : Vec3 :=
  let co := cos angle
  let s := sin angle
  ⟨c.x, co * c.y - s * c.z, s * c.y + co * c.z⟩

def rotY (c : Vec3) (angle : ℝ) : Vec3 :=
  let co := cos angle
  let s := sin angle
  ⟨co * c.x + s * c.z, c.y, -s * c.x + co * c.z⟩

def pitchRoll (c : Vec3) (pitch roll : ℝ) : Vec3 := (c.rotX roll).rotY pitch

end Vec3

def getC (pitch roll : ℝ) : Vec3 := Vec3.pitchRoll ⟨-87.0, 35.0, 0.0⟩ pitch roll

def getD (pitch roll : ℝ) : Vec3 := Vec3.pitchRoll ⟨-74.632, -35.0, 0.0⟩ pitch roll

def getE (theta : ℝ) : Vec3 := (Vec3.rotY ⟨-65.0, 0.0, 0.0⟩ theta).add ⟨-22.0, 35.0, 317.837⟩

def getF (theta : ℝ) : Vec3 := (Vec3.rotY ⟨-65.0, 0.0, 0.0⟩ theta).add ⟨-12.0, -34.5, 236.273⟩

/-! ## The solvers -/

structure AnkleLinkageConfig where
  linkCEMm : ℝ := 317.837
  linkDFMm : ℝ := 236.273

structure AnkleMotors where
  e : ℝ
  f : ℝ

structure AnkleJointAngles where
  pitchRad : ℝ
  rollRad : ℝ

structure LegJointTargets where
  hipPitchRad : ℝ := 0.0
  kneePitchRad : ℝ := 0.0
  anklePitchRad : ℝ := 0.0
  ankleRollRad : ℝ := 0.0

structure LegMotorTargets where
  hipPitchMotorRad : ℝ := 0.0
  kneeMotorRad : ℝ := 0.0
  ankleMotorERad : ℝ := 0.0
  ankleMotorFRad : ℝ := 0.0

namespace ScalarNewton

variable (constraint : ℝ → ℝ) (message : String)

def h : ℝ := 1.0e-6

def tolerance : ℝ := 1.0e-10

/-- The body of the loop in `solveScalarNewton`. -/
def body (x : ℝ) : Except String (Next ℝ ℝ) :=
  let fx := constraint x
  if |fx| < tolerance then return .done x
  else
    let dfx := (constraint (x + h) - fx) / h
    if |dfx| < 1.0e-12 then throw message
    else return .next (x - fx / dfx)

def finish (x : ℝ) : Except String ℝ :=
  if |constraint x| < 1.0e-8 then return x else throw message

end ScalarNewton

def solveScalarNewton (constraint : ℝ → ℝ) (initialGuess : ℝ) (message : String) :
    Except String ℝ :=
  run (ScalarNewton.body constraint message) (ScalarNewton.finish constraint message) 30
    initialGuess

def solveAnkleMotorsFromJoints (pitch roll initialMotorE initialMotorF : ℝ)
    (config : AnkleLinkageConfig) : Except String AnkleMotors := do
  let c := getC pitch roll
  let d := getD pitch roll
  let thetaE ← solveScalarNewton (fun theta => c.distance (getE theta) - config.linkCEMm)
    initialMotorE "ankle E linkage solver failed"
  let thetaF ← solveScalarNewton (fun theta => d.distance (getF theta) - config.linkDFMm)
    initialMotorF "ankle F linkage solver failed"
  return ⟨thetaE, thetaF⟩

def solveRightLegMotorsFromJoints (joints : LegJointTargets) (previousMotors : LegMotorTargets)
    (knee : KneeLinkageConfig) (ankle : AnkleLinkageConfig) : Except String LegMotorTargets := do
  let kneeMotorRad ←
    solveKneeMotorFromJoint joints.kneePitchRad previousMotors.kneeMotorRad knee
  let ankleMotors ← solveAnkleMotorsFromJoints joints.anklePitchRad joints.ankleRollRad
    previousMotors.ankleMotorERad previousMotors.ankleMotorFRad ankle
  return {
    hipPitchMotorRad := joints.hipPitchRad
    kneeMotorRad := kneeMotorRad
    ankleMotorERad := ankleMotors.e
    ankleMotorFRad := ankleMotors.f }

namespace AnkleInverse

variable (motorERad motorFRad : ℝ) (config : AnkleLinkageConfig)

def h : ℝ := 1.0e-5

def tolerance : ℝ := 1.0e-10

def residual (p r : ℝ) : Except String AnkleMotors := do
  let motors ← solveAnkleMotorsFromJoints p r motorERad motorFRad config
  return ⟨motors.e - motorERad, motors.f - motorFRad⟩

/-- The body of the loop in `solveAnkleJointsFromMotors`. -/
def body (angles : AnkleJointAngles) : Except String (Next AnkleJointAngles AnkleJointAngles) := do
  let f ← residual motorERad motorFRad config angles.pitchRad angles.rollRad
  if hypot f.e f.f < tolerance then return .done angles
  else do
    let fPitch ← residual motorERad motorFRad config (angles.pitchRad + h) angles.rollRad
    let fRoll ← residual motorERad motorFRad config angles.pitchRad (angles.rollRad + h)
    let j11 := (fPitch.e - f.e) / h
    let j21 := (fPitch.f - f.f) / h
    let j12 := (fRoll.e - f.e) / h
    let j22 := (fRoll.f - f.f) / h
    let det := j11 * j22 - j12 * j21
    if |det| < 1.0e-12 then throw "ankle inverse linkage solver is singular"
    else
      let dp := (-f.e * j22 + j12 * f.f) / det
      let dr := (j21 * f.e - j11 * f.f) / det
      return .next ⟨angles.pitchRad + dp, angles.rollRad + dr⟩

def finish (angles : AnkleJointAngles) : Except String AnkleJointAngles := do
  let f ← residual motorERad motorFRad config angles.pitchRad angles.rollRad
  if hypot f.e f.f < 1.0e-8 then return angles
  else throw "ankle inverse linkage solver failed"

/-- The residual is below the tolerance of the last computation. -/
def Accepted (angles : AnkleJointAngles) : Prop :=
  ∃ f, residual motorERad motorFRad config angles.pitchRad angles.rollRad = .ok f ∧
    hypot f.e f.f < 1.0e-8

end AnkleInverse

def solveAnkleJointsFromMotors (motorERad motorFRad initialPitchRad initialRollRad : ℝ)
    (config : AnkleLinkageConfig) : Except String AnkleJointAngles :=
  run (AnkleInverse.body motorERad motorFRad config)
    (AnkleInverse.finish motorERad motorFRad config) 20 ⟨initialPitchRad, initialRollRad⟩

/-! ## Lengths of rods and paths of cranks -/

/-- At these angles the rods have their lengths up to some tolerance. -/
def AnkleLinkageConfig.RodsWithin (config : AnkleLinkageConfig)
    (tolerance pitch roll motorERad motorFRad : ℝ) : Prop :=
  |(getC pitch roll).distance (getE motorERad) - config.linkCEMm| < tolerance ∧
    |(getD pitch roll).distance (getF motorFRad) - config.linkDFMm| < tolerance

namespace Vec3

def toSpace (a : Vec3) : EuclideanSpace ℝ (Fin 3) :=
  (EuclideanSpace.equiv (Fin 3) ℝ).symm ![a.x, a.y, a.z]

theorem distance_eq (a b : Vec3) : a.distance b = dist a.toSpace b.toSpace := by
  rw [distance, EuclideanSpace.dist_eq, Fin.sum_univ_three]
  simp only [toSpace, Real.dist_eq, sq_abs, ← sq]
  rfl

theorem abs_distance_sub_distance_le (a b c : Vec3) :
    |c.distance a - c.distance b| ≤ a.distance b := by
  rw [distance_eq, distance_eq, distance_eq, dist_comm c.toSpace, dist_comm c.toSpace]
  exact abs_dist_sub_le _ _ _

theorem distance_add_right (a b c : Vec3) : (a.add c).distance (b.add c) = a.distance b := by
  simp only [distance, add, add_sub_add_right_eq_sub]

/-- A point turns on a circle, of which a chord is no longer than the arc. -/
theorem distance_rotY_le {c : Vec3} {radius : ℝ} (positive : 0 ≤ radius)
    (around : c.x ^ 2 + c.z ^ 2 = radius ^ 2) (a b : ℝ) :
    (c.rotY a).distance (c.rotY b) ≤ radius * |a - b| := by
  refine sqrt_le_iff.mpr ⟨mul_nonneg positive (abs_nonneg _), ?_⟩
  rw [mul_pow, sq_abs]
  calc
    _ = (c.x ^ 2 + c.z ^ 2) * ((cos a - cos b) ^ 2 + (sin a - sin b) ^ 2) := by
      simp only [rotY]
      ring
    _ = radius ^ 2 * ((cos a - cos b) ^ 2 + (sin a - sin b) ^ 2) := by rw [around]
    _ ≤ radius ^ 2 * (a - b) ^ 2 :=
      mul_le_mul_of_nonneg_left (chord_sq_le a b) (sq_nonneg radius)

end Vec3

theorem distance_getE_le (a b : ℝ) : (getE a).distance (getE b) ≤ 65 * |a - b| := by
  rw [getE, getE, Vec3.distance_add_right]
  exact Vec3.distance_rotY_le (by norm_num) (by norm_num) a b

theorem distance_getF_le (a b : ℝ) : (getF a).distance (getF b) ≤ 65 * |a - b| := by
  rw [getF, getF, Vec3.distance_add_right]
  exact Vec3.distance_rotY_le (by norm_num) (by norm_num) a b

/-! ## What the solvers return -/

namespace ScalarNewton

variable {constraint : ℝ → ℝ} {message : String} {before x : ℝ}

theorem body_done (returned : body constraint message before = .ok (.done x)) :
    |constraint x| < 1.0e-8 := by
  simp only [body] at returned
  split at returned
  next near =>
    cases returned
    rw [tolerance] at near
    exact lt_trans near (by norm_num)
  next =>
    split at returned
    next => contradiction
    next => cases returned

theorem finish_ok (returned : finish constraint message before = .ok x) :
    |constraint x| < 1.0e-8 := by
  rw [finish] at returned
  split at returned
  next near =>
    cases returned
    exact near
  next => contradiction

end ScalarNewton

theorem solveScalarNewton_ok {constraint : ℝ → ℝ} {initialGuess x : ℝ} {message : String}
    (ok : solveScalarNewton constraint initialGuess message = .ok x) :
    |constraint x| < 1.0e-8 :=
  run_ok (fun x => |constraint x| < 1.0e-8) ScalarNewton.body_done ScalarNewton.finish_ok ok

theorem solveScalarNewton_of_root {constraint : ℝ → ℝ} {initialGuess : ℝ}
    (root : constraint initialGuess = 0) (message : String) :
    solveScalarNewton constraint initialGuess message = .ok initialGuess := by
  have near : |constraint initialGuess| < ScalarNewton.tolerance := by
    rw [root, abs_zero, ScalarNewton.tolerance]
    norm_num
  apply run_done
  simp only [ScalarNewton.body, if_pos near]
  rfl

theorem solveAnkleMotorsFromJoints_ok {pitch roll initialMotorE initialMotorF : ℝ}
    {config : AnkleLinkageConfig} {motors : AnkleMotors}
    (ok : solveAnkleMotorsFromJoints pitch roll initialMotorE initialMotorF config = .ok motors) :
    config.RodsWithin 1.0e-8 pitch roll motors.e motors.f := by
  rcases bind_eq_ok ok with ⟨thetaE, crankE, rest⟩
  rcases bind_eq_ok rest with ⟨thetaF, crankF, returned⟩
  cases returned
  have linkCE := solveScalarNewton_ok crankE
  have linkDF := solveScalarNewton_ok crankF
  exact ⟨linkCE, linkDF⟩

/-- A rod that fits at some motor angle fits at an angle nearby, up to the path of the crank. -/
theorem abs_distance_sub_lt {crank : ℝ → Vec3}
    (travel : ∀ a b, (crank a).distance (crank b) ≤ 65 * |a - b|) {c : Vec3}
    {theta motorRad link : ℝ} (rod : |c.distance (crank theta) - link| < 1.0e-8)
    (near : |theta - motorRad| < 1.0e-8) :
    |c.distance (crank motorRad) - link| < 6.6e-7 := by
  have moved : |c.distance (crank motorRad) - c.distance (crank theta)| ≤
      65 * |theta - motorRad| := by
    rw [abs_sub_comm]
    exact (Vec3.abs_distance_sub_distance_le _ _ c).trans (travel theta motorRad)
  calc
    _ ≤ |c.distance (crank motorRad) - c.distance (crank theta)| +
        |c.distance (crank theta) - link| := abs_sub_le _ _ _
    _ < 65 * 1.0e-8 + 1.0e-8 := by linarith
    _ = 6.6e-7 := by norm_num

namespace AnkleInverse

variable {motorERad motorFRad p r : ℝ} {config : AnkleLinkageConfig}

/-- A residual is small only if the motor angles that were found are near the given ones. -/
theorem residual_ok {f : AnkleMotors} (ok : residual motorERad motorFRad config p r = .ok f)
    (near : hypot f.e f.f < 1.0e-8) :
    config.RodsWithin 6.6e-7 p r motorERad motorFRad := by
  rcases bind_eq_ok ok with ⟨motors, solved, returned⟩
  cases returned
  rcases solveAnkleMotorsFromJoints_ok solved with ⟨linkCE, linkDF⟩
  constructor
  · exact abs_distance_sub_lt distance_getE_le linkCE ((abs_fst_le_hypot _ _).trans_lt near)
  · exact abs_distance_sub_lt distance_getF_le linkDF ((abs_snd_le_hypot _ _).trans_lt near)

theorem body_done {before angles : AnkleJointAngles}
    (returned : body motorERad motorFRad config before = .ok (.done angles)) :
    Accepted motorERad motorFRad config angles := by
  rcases bind_eq_ok returned with ⟨f, computed, rest⟩
  split at rest
  next near =>
    cases rest
    refine ⟨f, computed, ?_⟩
    rw [tolerance] at near
    exact lt_trans near (by norm_num)
  next =>
    rcases bind_eq_ok rest with ⟨fPitch, _, rest⟩
    rcases bind_eq_ok rest with ⟨fRoll, _, rest⟩
    dsimp only at rest
    split at rest
    next => contradiction
    next => cases rest

theorem finish_ok {before angles : AnkleJointAngles}
    (returned : finish motorERad motorFRad config before = .ok angles) :
    Accepted motorERad motorFRad config angles := by
  rcases bind_eq_ok returned with ⟨f, computed, rest⟩
  split at rest
  next near =>
    cases rest
    exact ⟨f, computed, near⟩
  next => contradiction

end AnkleInverse

theorem solveAnkleJointsFromMotors_ok {motorERad motorFRad initialPitchRad initialRollRad : ℝ}
    {config : AnkleLinkageConfig} {angles : AnkleJointAngles}
    (ok : solveAnkleJointsFromMotors motorERad motorFRad initialPitchRad initialRollRad config =
      .ok angles) :
    config.RodsWithin 6.6e-7 angles.pitchRad angles.rollRad motorERad motorFRad := by
  rw [solveAnkleJointsFromMotors] at ok
  rcases run_ok (AnkleInverse.Accepted motorERad motorFRad config) AnkleInverse.body_done
    AnkleInverse.finish_ok ok with ⟨f, computed, near⟩
  exact AnkleInverse.residual_ok computed near

theorem solveRightLegMotorsFromJoints_ok {joints : LegJointTargets}
    {previousMotors motors : LegMotorTargets} {knee : KneeLinkageConfig}
    {ankle : AnkleLinkageConfig}
    (ok : solveRightLegMotorsFromJoints joints previousMotors knee ankle = .ok motors) :
    ankle.RodsWithin 1.0e-8 joints.anklePitchRad joints.ankleRollRad motors.ankleMotorERad
      motors.ankleMotorFRad := by
  rcases bind_eq_ok ok with ⟨kneeMotorRad, _, rest⟩
  rcases bind_eq_ok rest with ⟨ankleMotors, solved, returned⟩
  cases returned
  exact solveAnkleMotorsFromJoints_ok solved

/-- What the ankle solvers return satisfies the linkage, and each of their loops stops. -/
theorem ankle_solvers (config : AnkleLinkageConfig) :
    (∀ pitch roll initialMotorE initialMotorF motors,
      solveAnkleMotorsFromJoints pitch roll initialMotorE initialMotorF config = .ok motors →
        config.RodsWithin 1.0e-8 pitch roll motors.e motors.f) ∧
    (∀ joints previousMotors knee motors,
      solveRightLegMotorsFromJoints joints previousMotors knee config = .ok motors →
        config.RodsWithin 1.0e-8 joints.anklePitchRad joints.ankleRollRad motors.ankleMotorERad
          motors.ankleMotorFRad) ∧
    (∀ motorERad motorFRad initialPitchRad initialRollRad angles,
      solveAnkleJointsFromMotors motorERad motorFRad initialPitchRad initialRollRad config =
          .ok angles →
        config.RodsWithin 6.6e-7 angles.pitchRad angles.rollRad motorERad motorFRad) ∧
    (∀ constraint initialGuess message,
      StopsWith (ScalarNewton.body constraint message) (ScalarNewton.finish constraint message) 30
        initialGuess (solveScalarNewton constraint initialGuess message)) ∧
    ∀ motorERad motorFRad initialPitchRad initialRollRad,
      StopsWith (AnkleInverse.body motorERad motorFRad config)
        (AnkleInverse.finish motorERad motorFRad config) 20 ⟨initialPitchRad, initialRollRad⟩
        (solveAnkleJointsFromMotors motorERad motorFRad initialPitchRad initialRollRad config) := by
  refine ⟨?_, ?_, ?_, ?_, ?_⟩
  · intro pitch roll initialMotorE initialMotorF motors ok
    exact solveAnkleMotorsFromJoints_ok ok
  · intro joints previousMotors knee motors ok
    exact solveRightLegMotorsFromJoints_ok ok
  · intro motorERad motorFRad initialPitchRad initialRollRad angles ok
    exact solveAnkleJointsFromMotors_ok ok
  · intro constraint initialGuess message
    exact stopsWith_run _ _ 30 initialGuess
  · intro motorERad motorFRad initialPitchRad initialRollRad
    exact stopsWith_run _ _ 20 _

/-- The rods that fit where all angles are zero. -/
def restLinkage : AnkleLinkageConfig where
  linkCEMm := (getC 0 0).distance (getE 0)
  linkDFMm := (getD 0 0).distance (getF 0)

theorem ankle_solvers_rest :
    solveAnkleJointsFromMotors 0 0 0 0 restLinkage = .ok ⟨0, 0⟩ ∧
      restLinkage.RodsWithin 6.6e-7 0 0 0 0 := by
  have crankE : solveScalarNewton
      (fun theta => (getC 0 0).distance (getE theta) - restLinkage.linkCEMm) 0
      "ankle E linkage solver failed" = .ok 0 := by
    apply solveScalarNewton_of_root
    exact sub_self _
  have crankF : solveScalarNewton
      (fun theta => (getD 0 0).distance (getF theta) - restLinkage.linkDFMm) 0
      "ankle F linkage solver failed" = .ok 0 := by
    apply solveScalarNewton_of_root
    exact sub_self _
  have motors : solveAnkleMotorsFromJoints 0 0 0 0 restLinkage = .ok ⟨0, 0⟩ := by
    simp only [solveAnkleMotorsFromJoints, crankE, crankF]
    rfl
  have residual : AnkleInverse.residual 0 0 restLinkage 0 0 = .ok ⟨0, 0⟩ := by
    rw [AnkleInverse.residual, motors]
    exact congrArg Except.ok (congrArg₂ AnkleMotors.mk (sub_self 0) (sub_self 0))
  have solved : solveAnkleJointsFromMotors 0 0 0 0 restLinkage = .ok ⟨0, 0⟩ := by
    have near : hypot 0 0 < AnkleInverse.tolerance := by
      rw [hypot, mul_zero, add_zero, sqrt_zero, AnkleInverse.tolerance]
      norm_num
    apply run_done
    rw [AnkleInverse.body, residual]
    exact if_pos near
  exact ⟨solved, (ankle_solvers restLinkage).2.2.1 0 0 0 0 ⟨0, 0⟩ solved⟩

end

end RmdCanSdk
