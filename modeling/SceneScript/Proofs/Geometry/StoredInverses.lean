import SceneScript.Proofs.Geometry.CameraFrames

/-!
# Stored inverses

A transform is asked for its inverse often, and has it at hand: every operation on transforms knows
the inverse of what it makes from those of what it is made from. `Transform.Regular` collects the
transforms for which there is an inverse to know, and in exact arithmetic the stored matrix is this
inverse, from either side.

Points are mapped in homogeneous coordinates, and the image of a point is divided by its weight, the
last of them. Weights multiply along a composition, so that composing transforms and mapping points
with one after the other come to the same (`Transform.mapPoint_compose`). Both facts are put
together in `Transform.stored_inverse_inverts`.
-/

set_option autoImplicit false

namespace SceneScript

/-! ## Homogeneous coordinates -/

namespace Vec4

/-- The column with every component multiplied by a number. -/
def scaled (v : Vec4 ℝ) (s : ℝ) : Vec4 ℝ :=
  ⟨v.x * s, v.y * s, v.z * s, v.w * s⟩

/-- The point with these homogeneous coordinates. -/
def toPoint {α : Type} [Scalar α] (v : Vec4 α) : Vec3 α :=
  ⟨v.x / v.w, v.y / v.w, v.z / v.w⟩

/-- Homogeneous coordinates mean the same point when they are all multiplied by one number. -/
theorem toPoint_scaled (v : Vec4 ℝ) {s : ℝ} (nonzero : s ≠ 0) : (v.scaled s).toPoint = v.toPoint := by
  simp only [toPoint, scaled, mul_div_mul_right _ _ nonzero]

/-- Unless its weight is zero, a column has the homogeneous coordinates of its point, multiplied by
the weight. -/
theorem scaled_withW_toPoint {v : Vec4 ℝ} (weighty : v.w ≠ 0) :
    (v.toPoint.withW 1).scaled v.w = v := by
  simp only [Vec3.withW, toPoint, scaled, div_mul_cancel₀ _ weighty, one_mul]

end Vec4

namespace Mat4

/-- A product of matrices applies the right one first. -/
theorem apply_mul (a b : Mat4 ℝ) (v : Vec4 ℝ) : (a.mul b).apply v = a.apply (b.apply v) := by
  simp only [mul, apply, Vec4.mk.injEq]
  refine ⟨?_, ?_, ?_, ?_⟩ <;> ring

theorem apply_scaled (m : Mat4 ℝ) (v : Vec4 ℝ) (s : ℝ) :
    m.apply (v.scaled s) = (m.apply v).scaled s := by
  simp only [apply, Vec4.scaled, Vec4.mk.injEq]
  refine ⟨?_, ?_, ?_, ?_⟩ <;> ring

end Mat4

namespace Transform

/-- The weight of a point's image: its last homogeneous coordinate, by which the others are
divided. -/
def weight {α : Type} [Scalar α] (t : Transform α) (p : Vec3 α) : α :=
  (t.forward.apply (p.withW 1)).w

/-! ## Points -/

section Points

variable {a b : Transform ℝ} {p : Vec3 ℝ}

/-- To leave out the division by one makes no difference where it is exact. -/
theorem mapPoint_eq (t : Transform ℝ) (p : Vec3 ℝ) :
    t.mapPoint p = (t.forward.apply (p.withW 1)).toPoint := by
  simp only [mapPoint]
  split
  · rename_i one
    rw [Scalar.beq_real_iff] at one
    simp only [Vec4.toPoint, one, div_one]
  · rfl

/-- The homogeneous coordinates of a point that is mapped by two transforms in turn, up to the
weight after the first one. -/
theorem apply_compose (weighty : b.weight p ≠ 0) :
    (a.compose b).forward.apply (p.withW 1) =
      (a.forward.apply ((b.mapPoint p).withW 1)).scaled (b.weight p) := by
  rw [← Mat4.apply_scaled, mapPoint_eq, weight, Vec4.scaled_withW_toPoint weighty]
  exact Mat4.apply_mul _ _ _

/-- Weights multiply. -/
theorem weight_compose (weighty : b.weight p ≠ 0) :
    (a.compose b).weight p = a.weight (b.mapPoint p) * b.weight p :=
  congrArg Vec4.w (apply_compose weighty)

/-- A composition maps points as its parts do, one after the other. -/
theorem mapPoint_compose (weighty : b.weight p ≠ 0) :
    (a.compose b).mapPoint p = a.mapPoint (b.mapPoint p) := by
  rw [mapPoint_eq, apply_compose weighty, Vec4.toPoint_scaled _ weighty, ← mapPoint_eq]

end Points

/-! ## Regular transforms -/

/-- The transforms that come about by the operations on transforms, from such as have an inverse:
entries must be those of an invertible matrix, stretchings are not by zero, and a camera does not
look along its up vector. -/
inductive Regular : Transform ℝ → Prop
  | identity : Regular .identity
  | ofColumns {values : List ℝ} {t : Transform ℝ} : ofColumns values = .ok t →
      IsUnit t.forward.toMatrix → Regular t
  | translate (d : Vec3 ℝ) : Regular (.translate d)
  | scale {s : Vec3 ℝ} : s.x ≠ 0 → s.y ≠ 0 → s.z ≠ 0 → Regular (.scale s)
  | rotate (degrees : ℝ) (axis : Vec3 ℝ) : Regular (.rotate degrees axis)
  | lookAt {eye look up : Vec3 ℝ} {t : Transform ℝ} : lookAt? eye look up = some t → Regular t
  | compose {a b : Transform ℝ} : Regular a → Regular b → Regular (a.compose b)
  | inverse {t : Transform ℝ} : Regular t → Regular t.inverse

namespace Regular

variable {t : Transform ℝ}

theorem built (regular : t.Regular) : t.Built := by
  induction regular with
  | identity => exact .identity
  | ofColumns read _ => exact .of_ofColumns (by rw [read]; rfl)
  | translate d => exact .translate d
  | scale _ _ _ => exact .scale _
  | rotate degrees axis => exact .rotate degrees axis
  | lookAt view => exact .of_lookAt view
  | compose _ _ builtA builtB => exact builtA.compose builtB
  | inverse _ built => exact built.inverse

/-- The determinant of a regular transform is not zero. With the exactness of what is built, this is
all that its inverse needs. -/
theorem determinant_ne_zero (regular : t.Regular) : t.forward.determinant ≠ 0 := by
  induction regular with
  | identity => exact Mat4.determinant_identity.trans_ne one_ne_zero
  | ofColumns _ unit => exact Mat4.isUnit_toMatrix_iff.1 unit
  | translate d => exact (Mat4.determinant_translation d).trans_ne one_ne_zero
  | @scale s x y z => exact (Mat4.determinant_scaling s).trans_ne (mul_ne_zero (mul_ne_zero x y) z)
  | rotate degrees axis =>
    simp only [Transform.rotate]
    split
    · rename_i turned
      exact Mat4.determinant_ne_zero_of_right_inverse
        (Mat4.toMatrix_mul_transpose_of_rotation turned)
    · exact Mat4.determinant_identity.trans_ne one_ne_zero
  | lookAt view => exact determinant_ne_zero_of_lookAt view
  | compose _ _ nonzeroA nonzeroB =>
    exact (Mat4.determinant_mul _ _).trans_ne (mul_ne_zero nonzeroA nonzeroB)
  | inverse regular nonzero => exact regular.built.exact.determinant_backward nonzero

/-- The two matrices of a regular transform are inverse to each other. -/
theorem mul_eq_identity (regular : t.Regular) :
    t.forward.mul t.backward = .identity ∧ t.backward.mul t.forward = .identity := by
  have exact := regular.built.exact
  have nonzero := regular.determinant_ne_zero
  constructor
  · apply Mat4.toMatrix_injective
    rw [Mat4.toMatrix_mul, Mat4.toMatrix_identity, exact.mul_backward nonzero]
  · apply Mat4.toMatrix_injective
    rw [Mat4.toMatrix_mul, Mat4.toMatrix_identity, exact.backward_mul nonzero]

end Regular

/-- In exact arithmetic, the matrix that a regular transform keeps as its inverse cancels its own
matrix from either side. And any two transforms, regular or not, map a point in turn as their
composition does, and the weights multiply, unless the first weight is zero and there is no point in
between. -/
theorem stored_inverse_inverts :
    (∀ t : Transform ℝ, t.Regular →
      t.forward.mul t.backward = .identity ∧ t.backward.mul t.forward = .identity) ∧
    (∀ (a b : Transform ℝ) (p : Vec3 ℝ), b.weight p ≠ 0 →
      (a.compose b).mapPoint p = a.mapPoint (b.mapPoint p) ∧
        (a.compose b).weight p = a.weight (b.mapPoint p) * b.weight p) := by
  constructor
  · intro t regular
    exact regular.mul_eq_identity
  · intro a b p weighty
    exact ⟨mapPoint_compose weighty, weight_compose weighty⟩

/-- Control: a lens that divides by the distance, behind a rotation, a stretching that mirrors, and
the way back from a camera; and a point whose image weighs four, seen by the camera. -/
theorem stored_inverse_inverts_lens :
    ∃ view lens t : Transform ℝ,
      lookAt? ⟨1, 2, 3⟩ ⟨4, 5, 7⟩ ⟨0, 0, 1⟩ = some view ∧
      ofColumns [1, 0, 0, 0, 0, 1, 0, 0, 0, 0, 1, 1, 0, 0, 0, 1] = .ok lens ∧
      t = lens.compose
        (((rotate 30 ⟨1, 1, 0⟩).compose (scale ⟨2, -3, 1 / 2⟩)).compose view.inverse) ∧
      (t.forward.mul t.backward = .identity ∧ t.backward.mul t.forward = .identity) ∧
      lens.weight ⟨1, 2, 3⟩ = 4 ∧
      (view.compose lens).mapPoint ⟨1, 2, 3⟩ = view.mapPoint (lens.mapPoint ⟨1, 2, 3⟩) ∧
      (view.compose lens).weight ⟨1, 2, 3⟩ =
        view.weight (lens.mapPoint ⟨1, 2, 3⟩) * lens.weight ⟨1, 2, 3⟩ := by
  obtain ⟨view, seen⟩ : ∃ view : Transform ℝ, lookAt? ⟨1, 2, 3⟩ ⟨4, 5, 7⟩ ⟨0, 0, 1⟩ = some view :=
    exists_lookAt (by norm_num [Vec3.cross, Vec3.sub])
  let matrix : Mat4 ℝ := ⟨⟨1, 0, 0, 0⟩, ⟨0, 1, 0, 0⟩, ⟨0, 0, 1, 1⟩, ⟨0, 0, 0, 1⟩⟩
  have regular : (ofMatrix matrix).Regular := by
    have read : ofColumns [1, 0, 0, 0, 0, 1, 0, 0, 0, 0, 1, 1, 0, 0, 0, 1] =
        .ok (ofMatrix matrix) := rfl
    refine .ofColumns read ?_
    apply Mat4.isUnit_toMatrix_iff.2
    norm_num [matrix, ofMatrix, Mat4.determinant, Mat4.leftMinors, Mat4.rightMinors,
      Mat4.Minors.ofColumns]
  have weight : (ofMatrix matrix).weight ⟨1, 2, 3⟩ = 4 := by
    norm_num [matrix, ofMatrix, Transform.weight, Mat4.apply, Vec3.withW]
  refine ⟨view, ofMatrix matrix, _, seen, rfl, rfl, ?_, weight, ?_⟩
  · refine stored_inverse_inverts.1 _ (regular.compose ((Regular.compose (.rotate _ _)
      (.scale ?_ ?_ ?_)).compose (Regular.lookAt seen).inverse)) <;> norm_num
  · exact stored_inverse_inverts.2 view (ofMatrix matrix) ⟨1, 2, 3⟩ (by rw [weight]; norm_num)

end Transform

end SceneScript
