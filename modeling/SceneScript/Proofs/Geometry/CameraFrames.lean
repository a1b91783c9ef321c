import SceneScript.Proofs.Geometry.BuiltTransforms

/-!
# The frame of a camera

The view of a camera is made from the place where the camera stands and from three directions: to
its right, upwards, and ahead. In exact arithmetic the direction ahead has length one unless the
camera looks at its own place, and then there is no direction to the right either. The direction to
the right is perpendicular to it, and the one upwards to both. So the matrix that places the camera
has determinant one (`Transform.determinant_cameraFrame`), and the view is its inverse.
-/

set_option autoImplicit false

namespace SceneScript

namespace Vec3

/-- The scalar product. -/
def dot (a b : Vec3 ℝ) : ℝ :=
  a.x * b.x + a.y * b.y + a.z * b.z

theorem cross_dot_right (a b : Vec3 ℝ) : (a.cross b).dot b = 0 := by
  simp only [cross, dot]
  ring

theorem scaled_dot (a b : Vec3 ℝ) (s : ℝ) : (a.scaled s).dot b = a.dot b * s := by
  simp only [scaled, dot]
  ring

theorem cross_scaled (a b : Vec3 ℝ) (s r : ℝ) :
    (a.scaled s).cross (b.scaled r) = (a.cross b).scaled (s * r) := by
  simp only [scaled, cross, Vec3.mk.injEq]
  refine ⟨?_, ?_, ?_⟩ <;> ring

theorem cross_zero (a : Vec3 ℝ) : a.cross ⟨0, 0, 0⟩ = ⟨0, 0, 0⟩ := by
  simp [cross]

theorem length_zero : (⟨0, 0, 0⟩ : Vec3 ℝ).length = 0 := by
  simp [length, normSquared, Scalar.sqrt]

theorem scaled_zero (s : ℝ) : (⟨0, 0, 0⟩ : Vec3 ℝ).scaled s = ⟨0, 0, 0⟩ := by
  simp [scaled]

/-- Only the zero vector has no length. -/
theorem eq_zero_of_normSquared {a : Vec3 ℝ} (none : a.normSquared = 0) : a = ⟨0, 0, 0⟩ := by
  have sum : a.x * a.x + a.y * a.y + a.z * a.z = 0 := none
  have x := mul_self_nonneg a.x
  have y := mul_self_nonneg a.y
  have z := mul_self_nonneg a.z
  obtain ⟨ax, ay, az⟩ := a
  rw [Vec3.mk.injEq]
  exact ⟨mul_self_eq_zero.1 (by linarith), mul_self_eq_zero.1 (by linarith),
    mul_self_eq_zero.1 (by linarith)⟩

theorem length_pos {a : Vec3 ℝ} (nonzero : a ≠ ⟨0, 0, 0⟩) : 0 < a.length := by
  refine (Real.sqrt_nonneg _).lt_of_ne ?_
  intro none
  have short : a.length = 0 := none.symm
  apply nonzero
  apply eq_zero_of_normSquared
  rw [← length_mul_length, short, mul_zero]

/-- A vector with a length is divided by it. -/
theorem normalize_of_pos {a : Vec3 ℝ} (long : 0 < a.length) :
    a.normalize = a.scaled (1 / a.length) := by
  have positive : 0 < a.normSquared := Real.sqrt_pos.1 long
  have chosen : Scalar.less 0 a.normSquared = true := decide_eq_true positive
  simp only [normalize, chosen, if_true]
  rfl

/-- A vector without a length is the zero vector, and stays so. -/
theorem normalize_of_not_pos {a : Vec3 ℝ} (short : ¬ 0 < a.length) : a.normalize = ⟨0, 0, 0⟩ := by
  obtain rfl : a = ⟨0, 0, 0⟩ := not_ne_iff.1 (mt length_pos short)
  simp [normalize, normSquared, scaled, Scalar.less]

theorem normSquared_normalize {a : Vec3 ℝ} (long : 0 < a.length) :
    a.normalize.normSquared = 1 := by
  rw [normalize_of_pos long]
  exact normSquared_scaled_one_div_length long.ne'

/-- Every vector is its length times its direction. -/
theorem normalize_scaled_length (a : Vec3 ℝ) : a.normalize.scaled a.length = a := by
  by_cases long : 0 < a.length
  · rw [normalize_of_pos long]
    simp only [scaled, one_div, inv_mul_cancel_right₀ long.ne']
  · rw [normalize_of_not_pos long, scaled_zero]
    exact (not_ne_iff.1 (mt length_pos long)).symm

end Vec3

/-- The determinant of a frame with its third axis ahead. It is one if the two directions that it
is made from have length one and are perpendicular. -/
theorem Mat4.determinant_frame (right ahead place : Vec3 ℝ) :
    (⟨right.withW 0, (ahead.cross right).withW 0, ahead.withW 0, place.withW 1⟩ :
        Mat4 ℝ).determinant =
      right.normSquared * ahead.normSquared - right.dot ahead * right.dot ahead := by
  simp only [determinant, leftMinors, rightMinors, Minors.ofColumns, Vec3.withW, Vec3.cross,
    Vec3.normSquared, Vec3.dot]
  ring

namespace Transform

variable {eye look up : Vec3 ℝ} {t : Transform ℝ}

/-- A camera that does not look along its up vector has a view. -/
theorem exists_lookAt (across : up.cross (look.sub eye) ≠ ⟨0, 0, 0⟩) :
    ∃ t, lookAt? eye look up = some t := by
  have turned : up.normalize.cross (look.sub eye).normalize ≠ ⟨0, 0, 0⟩ := by
    intro along
    apply across
    rw [← Vec3.normalize_scaled_length up, ← Vec3.normalize_scaled_length (look.sub eye),
      Vec3.cross_scaled, along, Vec3.scaled_zero]
  exact ⟨_, lookAt?_eq_some_iff.2 ⟨decide_eq_true (Vec3.length_pos turned), rfl⟩⟩

/-- Where there is a direction to the right, the matrix that places the camera moves and turns, and
nothing else. -/
theorem determinant_cameraFrame
    (long : 0 < (up.normalize.cross (look.sub eye).normalize).length) :
    (cameraFrame eye look up).determinant = 1 := by
  -- there is a direction to the right, so there is one ahead
  have away : 0 < (look.sub eye).length := by
    by_contra here
    rw [Vec3.normalize_of_not_pos here, Vec3.cross_zero, Vec3.length_zero] at long
    exact lt_irrefl 0 long
  have apart : (up.normalize.cross (look.sub eye).normalize).normalize.dot
      (look.sub eye).normalize = 0 := by
    rw [Vec3.normalize_of_pos long, Vec3.scaled_dot, Vec3.cross_dot_right, zero_mul]
  rw [cameraFrame, Mat4.determinant_frame, Vec3.normSquared_normalize long,
    Vec3.normSquared_normalize away, apart, mul_zero, sub_zero, one_mul]

/-- So a view always has an inverse. -/
theorem determinant_ne_zero_of_lookAt (view : lookAt? eye look up = some t) :
    t.forward.determinant ≠ 0 := by
  obtain ⟨seen, rfl⟩ := lookAt?_eq_some_iff.1 view
  have frame := (determinant_cameraFrame (of_decide_eq_true seen)).trans_ne one_ne_zero
  exact (Exact.ofMatrix (cameraFrame eye look up)).determinant_backward frame

end Transform

end SceneScript
