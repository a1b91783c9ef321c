import SceneScript.Proofs.Geometry.ExactMatrices
import SceneScript.Geometry.TransformPair

/-!
# Transforms that are built

A transform keeps its inverse beside its matrix, and nothing in the two matrices says that they
belong together. It is the way in which transforms are made that brings it about: `Transform.Built`
has one case for each of the operations on transforms.

In exact arithmetic the inverse of a built transform is the inverse of its matrix, unless the matrix
has none (`Built.exact`).
-/

set_option autoImplicit false

namespace SceneScript

variable {α : Type} [Scalar α]

namespace Transform

/-- The transforms that come about by the operations on transforms. -/
inductive Built : Transform α → Prop
  | identity : Built .identity
  | ofMatrix (m : Mat4 α) : Built (.ofMatrix m)
  | translate (d : Vec3 α) : Built (.translate d)
  | scale (s : Vec3 α) : Built (.scale s)
  | rotate (degrees : α) (axis : Vec3 α) : Built (.rotate degrees axis)
  | compose {a b : Transform α} : Built a → Built b → Built (a.compose b)
  | inverse {t : Transform α} : Built t → Built t.inverse

/-- The matrix that places a camera: to its right, upwards, ahead, and where it stands. -/
def cameraFrame (eye look up : Vec3 α) : Mat4 α :=
  let ahead := (look.sub eye).normalize
  let right := (up.normalize.cross ahead).normalize
  ⟨right.withW 0, (ahead.cross right).withW 0, ahead.withW 0, eye.withW 1⟩

/-- There is a view if there is a direction to the right of the camera, and it is the inverse of
the matrix that places the camera. -/
theorem lookAt?_eq_some_iff {eye look up : Vec3 α} {t : Transform α} :
    lookAt? eye look up = some t ↔
      Scalar.less 0 (up.normalize.cross (look.sub eye).normalize).length = true ∧
        t = (ofMatrix (cameraFrame eye look up)).inverse := by
  rw [lookAt?, Option.ite_none_right_eq_some, Option.some_inj]
  exact and_congr_right fun _ => eq_comm

namespace Built

theorem of_ofColumns {values : List α} {t : Transform α}
    (read : (ofColumns values).toOption = some t) : Built t := by
  unfold ofColumns at read
  split at read
  · obtain rfl := Option.some.inj read
    exact .ofMatrix _
  · exact absurd read (by simp [Except.toOption])

theorem of_lookAt {eye look up : Vec3 α} {t : Transform α} (view : lookAt? eye look up = some t) :
    Built t := by
  obtain ⟨-, rfl⟩ := lookAt?_eq_some_iff.1 view
  exact .inverse (.ofMatrix _)

end Built

end Transform

namespace TransformPair

/-- Both transforms of a pair are built. -/
def Built (s : TransformPair α) : Prop :=
  ∀ slot, (s.get slot).Built

namespace Built

variable {s : TransformPair α}

theorem identity : (TransformPair.identity : TransformPair α).Built := by
  rintro (_ | _) <;> exact .identity

theorem map {f : TimeSlot → Transform α → Transform α}
    (built : ∀ slot, (f slot (s.get slot)).Built) : (s.map f).Built := by
  intro slot
  rw [get_map]
  exact built slot

theorem inverse (built : s.Built) : s.inverse.Built :=
  map fun slot => (built slot).inverse

theorem update {f : Transform α → Transform α} (built : s.Built) (active : ActiveSlots)
    (keeps : ∀ t : Transform α, t.Built → (f t).Built) : (s.update active fun _ => f).Built := by
  intro slot
  rw [get_update]
  split
  · exact keeps _ (built slot)
  · exact built slot

end Built

end TransformPair

/-! ## Exact arithmetic -/

namespace Transform

/-- The matrices of a transform are inverse to each other, or neither has an inverse. -/
def Exact (t : Transform ℝ) : Prop :=
  t.forward.toMatrix * t.backward.toMatrix = 1 ∨
    (t.forward.determinant = 0 ∧ t.backward.determinant = 0)

theorem toMatrix_translate_mul_backward (d : Vec3 ℝ) :
    (translate d).forward.toMatrix * (translate d).backward.toMatrix = 1 := by
  have origin : d.sub d = ⟨0, 0, 0⟩ := by simp [Vec3.sub]
  rw [translate, Mat4.toMatrix_translation_mul_translation, origin]
  exact Mat4.toMatrix_identity

namespace Exact

variable {a b t : Transform ℝ}

theorem mul_backward (exact : t.Exact) (regular : t.forward.determinant ≠ 0) :
    t.forward.toMatrix * t.backward.toMatrix = 1 :=
  exact.resolve_right fun singular => regular singular.1

theorem backward_mul (exact : t.Exact) (regular : t.forward.determinant ≠ 0) :
    t.backward.toMatrix * t.forward.toMatrix = 1 :=
  mul_eq_one_comm.1 (exact.mul_backward regular)

theorem determinant_backward (exact : t.Exact) (regular : t.forward.determinant ≠ 0) :
    t.backward.determinant ≠ 0 :=
  Mat4.determinant_ne_zero_of_left_inverse (exact.mul_backward regular)

/-- What a matrix is cancelled by is its stored inverse. -/
theorem backward_eq (exact : t.Exact) {m : Matrix (Fin 4) (Fin 4) ℝ}
    (cancels : t.forward.toMatrix * m = 1) : t.backward.toMatrix = m := by
  have regular : t.forward.determinant ≠ 0 := Mat4.determinant_ne_zero_of_right_inverse cancels
  exact left_inv_eq_right_inv (exact.backward_mul regular) cancels

theorem inverse (exact : t.Exact) : t.inverse.Exact :=
  exact.imp mul_eq_one_comm.1 And.symm

theorem identity : (Transform.identity : Transform ℝ).Exact := by
  refine Or.inl ?_
  rw [Transform.identity, Mat4.toMatrix_identity, one_mul]

theorem ofMatrix (m : Mat4 ℝ) : (Transform.ofMatrix m).Exact := by
  by_cases singular : m.determinant = 0
  · refine Or.inr ⟨singular, ?_⟩
    rw [Transform.ofMatrix, Mat4.inverseOrNaN_of_eq_zero singular]
    simp [Mat4.constant, Mat4.determinant, Mat4.leftMinors, Mat4.rightMinors,
      Mat4.Minors.ofColumns]
  · exact Or.inl (Mat4.toMatrix_mul_inverseOrNaN singular)

theorem translate (d : Vec3 ℝ) : (Transform.translate d).Exact :=
  Or.inl (toMatrix_translate_mul_backward d)

/-- A stretching by zero has no inverse, and neither has the one by the reciprocals. -/
theorem scale (s : Vec3 ℝ) : (Transform.scale s).Exact := by
  have reciprocal :
      (Mat4.scaling ⟨1 / s.x, 1 / s.y, 1 / s.z⟩).determinant = (s.x * s.y * s.z)⁻¹ := by
    rw [Mat4.determinant_scaling, one_div, one_div, one_div, mul_inv, mul_inv]
  by_cases singular : s.x * s.y * s.z = 0
  · refine Or.inr ⟨(Mat4.determinant_scaling s).trans singular, reciprocal.trans ?_⟩
    rw [singular, inv_zero]
  · obtain ⟨⟨x, y⟩, z⟩ : (s.x ≠ 0 ∧ s.y ≠ 0) ∧ s.z ≠ 0 := by simpa [not_or] using singular
    refine Or.inl ?_
    rw [Transform.scale, Mat4.toMatrix_scaling_mul_scaling, mul_one_div_cancel x,
      mul_one_div_cancel y, mul_one_div_cancel z]
    exact Mat4.toMatrix_identity

theorem rotate (degrees : ℝ) (axis : Vec3 ℝ) : (Transform.rotate degrees axis).Exact := by
  unfold Transform.rotate
  split
  · rename_i rotation
    exact Or.inl (Mat4.toMatrix_mul_transpose_of_rotation rotation)
  · exact identity

theorem compose (exactA : a.Exact) (exactB : b.Exact) : (a.compose b).Exact := by
  simp only [Exact, Transform.compose, Mat4.toMatrix_mul, Mat4.determinant_mul]
  rcases exactA with inverseA | ⟨forward, backward⟩
  · rcases exactB with inverseB | ⟨forward, backward⟩
    · refine Or.inl ?_
      rw [mul_assoc, ← mul_assoc b.forward.toMatrix, inverseB, one_mul, inverseA]
    · exact Or.inr ⟨by rw [forward, mul_zero], by rw [backward, zero_mul]⟩
  · exact Or.inr ⟨by rw [forward, zero_mul], by rw [backward, mul_zero]⟩

end Exact

/-- In exact arithmetic, what is built is inverse to what it keeps as its inverse. -/
theorem Built.exact {t : Transform ℝ} (built : t.Built) : t.Exact := by
  induction built with
  | identity => exact .identity
  | ofMatrix m => exact .ofMatrix m
  | translate d => exact .translate d
  | scale s => exact .scale s
  | rotate degrees axis => exact .rotate degrees axis
  | compose _ _ exactA exactB => exact exactA.compose exactB
  | inverse _ exact => exact exact.inverse

end Transform

end SceneScript
