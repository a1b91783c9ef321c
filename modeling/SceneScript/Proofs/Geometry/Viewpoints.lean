import SceneScript.Proofs.Geometry.StoredInverses

/-!
# Where cameras stand

A transform from the world to a camera takes the place of the camera to the origin. Not every
transform has such a place: one that cannot be taken back has none or more than one, and one with a
perspective of its own may have it at infinity, where the image of the origin under the way back has
no weight and there is nothing to divide by. `Transform.StandsAt` says that a point is the place of
the camera. It is then the image of the origin under the stored inverse
(`StandsAt.mapPoint_inverse`). Affine transforms that can be taken back have a place
(`exists_standsAt_of_affine`).
-/

set_option autoImplicit false

namespace SceneScript.Transform

/-- A camera to which `t` leads from the world stands at the point `p`: there is a way back from the
camera, and `p` is the point that is taken to the origin. -/
structure StandsAt (t : Transform ℝ) (p : Vec3 ℝ) : Prop where
  regular : t.forward.determinant ≠ 0
  weighty : t.weight p ≠ 0
  origin : t.mapPoint p = ⟨0, 0, 0⟩

variable {t : Transform ℝ} {p : Vec3 ℝ}

theorem mapPoint_of_forward_identity (same : t.forward = .identity) (p : Vec3 ℝ) :
    t.mapPoint p = p := by
  simp [mapPoint_eq, same, Mat4.apply, Mat4.identity, Mat4.diagonal, Vec3.withW, Vec4.toPoint]

/-- The way back from the camera takes the origin to the place of the camera. -/
theorem StandsAt.mapPoint_inverse (stands : t.StandsAt p) (exact : t.Exact) :
    t.inverse.mapPoint ⟨0, 0, 0⟩ = p := by
  have backAndForth : (t.inverse.compose t).forward = .identity := by
    apply Mat4.toMatrix_injective
    rw [compose, Mat4.toMatrix_mul, Mat4.toMatrix_identity]
    exact exact.backward_mul stands.regular
  calc t.inverse.mapPoint ⟨0, 0, 0⟩
      = t.inverse.mapPoint (t.mapPoint p) := by rw [stands.origin]
    _ = (t.inverse.compose t).mapPoint p := (mapPoint_compose stands.weighty).symm
    _ = p := mapPoint_of_forward_identity backAndForth p

/-- A camera has one place. -/
theorem StandsAt.unique {q : Vec3 ℝ} (here : t.StandsAt p) (there : t.StandsAt q)
    (exact : t.Exact) : p = q :=
  (here.mapPoint_inverse exact).symm.trans (there.mapPoint_inverse exact)

/-- If the weights of points are kept, a camera with a way back has a place. -/
theorem exists_standsAt_of_affine (regular : t.forward.determinant ≠ 0)
    (affine : ∀ v, (t.forward.apply v).w = v.w) : ∃ p, t.StandsAt p := by
  let q : Vec4 ℝ := t.forward.inverseOrNaN.apply ⟨0, 0, 0, 1⟩
  have image : t.forward.apply q = ⟨0, 0, 0, 1⟩ := by
    have cancels : t.forward.mul t.forward.inverseOrNaN = .identity := by
      apply Mat4.toMatrix_injective
      rw [Mat4.toMatrix_mul, Mat4.toMatrix_mul_inverseOrNaN regular, Mat4.toMatrix_identity]
    rw [← Mat4.apply_mul, cancels]
    simp [Mat4.apply, Mat4.identity, Mat4.diagonal]
  -- the point before the image weighs what its image does
  have one : q.w = 1 := by rw [← affine q, image]
  have point : (Vec3.mk q.x q.y q.z).withW 1 = q := by rw [← one]; rfl
  refine ⟨⟨q.x, q.y, q.z⟩, regular, ?_, ?_⟩
  · rw [weight, point, image]
    exact one_ne_zero
  · rw [mapPoint_eq, point, image]
    simp [Vec4.toPoint]

/-- A move stands where it takes the origin back to. -/
theorem standsAt_of_translation {d : Vec3 ℝ} (moves : t.forward = .translation d) :
    t.StandsAt d.neg where
  regular := moves ▸ (Mat4.determinant_translation d).trans_ne one_ne_zero
  weighty := by
    simp [weight, moves, Mat4.apply, Mat4.translation, Mat4.identity, Mat4.diagonal, Vec3.withW]
  origin := by
    simp [mapPoint_eq, moves, Mat4.apply, Mat4.translation, Mat4.identity, Mat4.diagonal,
      Vec3.withW, Vec3.neg, Vec4.toPoint]

end SceneScript.Transform
