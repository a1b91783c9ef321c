import Mathlib.LinearAlgebra.Matrix.Determinant.Basic
import Mathlib.LinearAlgebra.Matrix.NonsingularInverse
import Mathlib.Tactic.FinCases
import Mathlib.Tactic.LinearCombination
import SceneScript.Geometry.Matrix
import SceneScript.Proofs.Scalar.Real

/-!
# Matrices in exact arithmetic

Over the real numbers a matrix is one in the sense of linear algebra: `Mat4.toMatrix` reads its
columns, and takes products, the identity and the determinant to their like there. The scaled
adjugate is an inverse of a matrix whose determinant is not zero (`toMatrix_mul_inverseOrNaN`), and
the transpose of a rotation is its inverse (`toMatrix_mul_transpose_of_rotation`).
-/

set_option autoImplicit false

namespace SceneScript

/-! ## Lengths -/

namespace Vec3

theorem length_mul_length (a : Vec3 ℝ) : a.length * a.length = a.normSquared := by
  refine Real.mul_self_sqrt ?_
  exact add_nonneg (add_nonneg (mul_self_nonneg a.x) (mul_self_nonneg a.y)) (mul_self_nonneg a.z)

theorem normSquared_scaled (a : Vec3 ℝ) (s : ℝ) :
    (a.scaled s).normSquared = a.normSquared * (s * s) := by
  simp only [scaled, normSquared]
  ring

/-- A vector divided by its length has length one. -/
theorem normSquared_scaled_one_div_length {a : Vec3 ℝ} (direction : a.length ≠ 0) :
    (a.scaled (1 / a.length)).normSquared = 1 := by
  rw [normSquared_scaled, ← length_mul_length]
  field_simp

end Vec3

namespace Mat4

/-- The matrix in the sense of linear algebra with the columns of `m`. -/
def toMatrix (m : Mat4 ℝ) : Matrix (Fin 4) (Fin 4) ℝ :=
  !![m.c0.x, m.c1.x, m.c2.x, m.c3.x;
     m.c0.y, m.c1.y, m.c2.y, m.c3.y;
     m.c0.z, m.c1.z, m.c2.z, m.c3.z;
     m.c0.w, m.c1.w, m.c2.w, m.c3.w]

theorem toMatrix_injective : Function.Injective toMatrix := by
  intro a b same
  have entry (i j : Fin 4) : a.toMatrix i j = b.toMatrix i j := congrFun (congrFun same i) j
  have column {v w : Vec4 ℝ} (x : v.x = w.x) (y : v.y = w.y) (z : v.z = w.z) (u : v.w = w.w) :
      v = w := by
    cases v
    cases w
    simp_all
  have c0 : a.c0 = b.c0 := column (entry 0 0) (entry 1 0) (entry 2 0) (entry 3 0)
  have c1 : a.c1 = b.c1 := column (entry 0 1) (entry 1 1) (entry 2 1) (entry 3 1)
  have c2 : a.c2 = b.c2 := column (entry 0 2) (entry 1 2) (entry 2 2) (entry 3 2)
  have c3 : a.c3 = b.c3 := column (entry 0 3) (entry 1 3) (entry 2 3) (entry 3 3)
  cases a
  cases b
  simp_all

/-- Over the reals, matrices that are the same are equal. -/
theorem same_iff {a b : Mat4 ℝ} : a.same b = true ↔ a = b := by
  obtain ⟨⟨_, _, _, _⟩, ⟨_, _, _, _⟩, ⟨_, _, _, _⟩, ⟨_, _, _, _⟩⟩ := a
  obtain ⟨⟨_, _, _, _⟩, ⟨_, _, _, _⟩, ⟨_, _, _, _⟩, ⟨_, _, _, _⟩⟩ := b
  simp [same, toList, Scalar.same_real_iff, and_assoc]

/-! ## Products and determinants -/

theorem toMatrix_mul (a b : Mat4 ℝ) : (a.mul b).toMatrix = a.toMatrix * b.toMatrix := by
  ext i j
  fin_cases i <;> fin_cases j <;>
    simp [toMatrix, mul, apply, Matrix.mul_apply, Fin.sum_univ_four] <;> ring

theorem toMatrix_identity : (identity : Mat4 ℝ).toMatrix = 1 := by
  ext i j
  fin_cases i <;> fin_cases j <;> simp [toMatrix, identity, diagonal]

theorem det_toMatrix (m : Mat4 ℝ) : m.toMatrix.det = m.determinant := by
  -- the places that are left in the first row's minors
  have above : Fin.succAbove (1 : Fin 4) (2 : Fin 3) = 3 ∧
      Fin.succAbove (2 : Fin 4) (1 : Fin 3) = 1 ∧ Fin.succAbove (2 : Fin 4) (2 : Fin 3) = 3 ∧
      Fin.succAbove (3 : Fin 4) (1 : Fin 3) = 1 ∧ Fin.succAbove (3 : Fin 4) (2 : Fin 3) = 2 := by
    decide
  rw [Matrix.det_succ_row_zero, Fin.sum_univ_four]
  simp [Matrix.det_fin_three, toMatrix, determinant, leftMinors, rightMinors, Minors.ofColumns,
    above]
  ring

theorem determinant_mul (a b : Mat4 ℝ) :
    (a.mul b).determinant = a.determinant * b.determinant := by
  rw [← det_toMatrix, toMatrix_mul, Matrix.det_mul, det_toMatrix, det_toMatrix]

theorem identity_mul (m : Mat4 ℝ) : identity.mul m = m := by
  apply toMatrix_injective
  rw [toMatrix_mul, toMatrix_identity, one_mul]

theorem mul_identity (m : Mat4 ℝ) : m.mul identity = m := by
  apply toMatrix_injective
  rw [toMatrix_mul, toMatrix_identity, mul_one]

theorem mul_assoc (a b c : Mat4 ℝ) : (a.mul b).mul c = a.mul (b.mul c) := by
  apply toMatrix_injective
  simp only [toMatrix_mul, Matrix.mul_assoc]

theorem determinant_identity : (identity : Mat4 ℝ).determinant = 1 := by
  rw [← det_toMatrix, toMatrix_identity, Matrix.det_one]

theorem isUnit_toMatrix_iff {m : Mat4 ℝ} : IsUnit m.toMatrix ↔ m.determinant ≠ 0 := by
  rw [Matrix.isUnit_iff_isUnit_det, det_toMatrix, isUnit_iff_ne_zero]

theorem determinant_ne_zero_of_right_inverse {m : Mat4 ℝ} {n : Matrix (Fin 4) (Fin 4) ℝ}
    (cancels : m.toMatrix * n = 1) : m.determinant ≠ 0 := by
  rw [← det_toMatrix]
  exact Matrix.det_ne_zero_of_right_inverse cancels

theorem determinant_ne_zero_of_left_inverse {m : Mat4 ℝ} {n : Matrix (Fin 4) (Fin 4) ℝ}
    (cancels : n * m.toMatrix = 1) : m.determinant ≠ 0 := by
  rw [← det_toMatrix]
  exact Matrix.det_ne_zero_of_left_inverse cancels

/-! ## The inverse -/

theorem toMatrix_mul_scaledAdjugate (m : Mat4 ℝ) (s : ℝ) :
    m.toMatrix * (m.scaledAdjugate s).toMatrix = (m.determinant * s) • 1 := by
  rw [← toMatrix_mul]
  ext i j
  fin_cases i <;> fin_cases j <;>
    simp [toMatrix, mul, apply, scaledAdjugate, determinant, leftMinors, rightMinors,
      Minors.ofColumns] <;> ring

theorem inverseOrNaN_of_ne_zero {m : Mat4 ℝ} (regular : m.determinant ≠ 0) :
    m.inverseOrNaN = m.scaledAdjugate (1 / m.determinant) := by
  have number : (m.determinant == 0 || Scalar.isNaN m.determinant) = false := by
    rw [Bool.or_eq_false_iff]
    exact ⟨Bool.eq_false_iff.2 fun zero => regular (Scalar.beq_real_iff.1 zero), rfl⟩
  simp [inverseOrNaN, inverse?, number]

theorem inverseOrNaN_of_eq_zero {m : Mat4 ℝ} (singular : m.determinant = 0) :
    m.inverseOrNaN = constant 0 := by
  have zero : (m.determinant == 0) = true := Scalar.beq_real_iff.2 singular
  simp only [inverseOrNaN, inverse?, zero, Bool.true_or, if_true, Option.getD_none]
  rfl

theorem toMatrix_mul_inverseOrNaN {m : Mat4 ℝ} (regular : m.determinant ≠ 0) :
    m.toMatrix * m.inverseOrNaN.toMatrix = 1 := by
  rw [inverseOrNaN_of_ne_zero regular, toMatrix_mul_scaledAdjugate, mul_one_div_cancel regular,
    one_smul]

/-! ## Translations, stretchings and rotations -/

theorem toMatrix_translation_mul_translation (a b : Vec3 ℝ) :
    (translation a).toMatrix * (translation b.neg).toMatrix = (translation (a.sub b)).toMatrix := by
  rw [← toMatrix_mul]
  ext i j
  fin_cases i <;> fin_cases j <;>
    simp [toMatrix, mul, apply, translation, identity, diagonal, Vec3.withW, Vec3.neg, Vec3.sub] <;>
    ring

theorem translation_sub_eq_identity_iff {a b : Vec3 ℝ} :
    translation (a.sub b) = identity ↔ a = b := by
  cases a
  cases b
  simp [translation, identity, diagonal, Vec3.withW, Vec3.sub, sub_eq_zero]

theorem toMatrix_scaling_mul_scaling (a b : Vec3 ℝ) :
    (scaling a).toMatrix * (scaling b).toMatrix =
      (scaling ⟨a.x * b.x, a.y * b.y, a.z * b.z⟩).toMatrix := by
  rw [← toMatrix_mul]
  ext i j
  fin_cases i <;> fin_cases j <;>
    simp [toMatrix, mul, apply, scaling, diagonal, mul_comm]

theorem determinant_translation (d : Vec3 ℝ) : (translation d).determinant = 1 := by
  simp [translation, identity, diagonal, Vec3.withW, determinant, leftMinors, rightMinors,
    Minors.ofColumns]

theorem determinant_scaling (s : Vec3 ℝ) : (scaling s).determinant = s.x * s.y * s.z := by
  simp [scaling, diagonal, determinant, leftMinors, rightMinors, Minors.ofColumns]

/-- A rotation turns back what its transpose turns. -/
theorem toMatrix_mul_transpose_of_rotation {angle : ℝ} {axis : Vec3 ℝ} {m : Mat4 ℝ}
    (rotation : rotation? angle axis = some m) : m.toMatrix * m.transpose.toMatrix = 1 := by
  unfold rotation? at rotation
  split at rotation
  · exact absurd rotation (by simp)
  · rename_i long
    have direction : axis.length ≠ 0 := by
      intro zero
      rw [zero] at long
      exact long (decide_eq_true (by simp [Scalar.ratio, Scalar.ofNat]))
    have unit := Vec3.normSquared_scaled_one_div_length direction
    have circle :
        Scalar.sin angle * Scalar.sin angle + Scalar.cos angle * Scalar.cos angle = 1 := by
      have := Real.sin_sq_add_cos_sq angle
      simp only [Scalar.sin, Scalar.cos]
      linear_combination this
    obtain rfl := Option.some.inj rotation
    generalize axis.scaled (1 / axis.length) = u at unit
    generalize Scalar.sin angle = s at circle
    generalize Scalar.cos angle = c at circle
    obtain ⟨x, y, z⟩ := u
    simp only [Vec3.normSquared] at unit
    rw [← toMatrix_mul]
    ext i j
    -- the entry for two axes, from `unit` and `circle`; the last row and column are clear
    fin_cases i <;> fin_cases j <;> simp [toMatrix, mul, apply, transpose]
    · linear_combination (s ^ 2 + x * x * (1 - c) ^ 2) * unit + (1 - x * x) * circle
    · linear_combination x * y * (1 - c) ^ 2 * unit - x * y * circle
    · linear_combination x * z * (1 - c) ^ 2 * unit - x * z * circle
    · linear_combination y * x * (1 - c) ^ 2 * unit - y * x * circle
    · linear_combination (s ^ 2 + y * y * (1 - c) ^ 2) * unit + (1 - y * y) * circle
    · linear_combination y * z * (1 - c) ^ 2 * unit - y * z * circle
    · linear_combination z * x * (1 - c) ^ 2 * unit - z * x * circle
    · linear_combination z * y * (1 - c) ^ 2 * unit - z * y * circle
    · linear_combination (s ^ 2 + z * z * (1 - c) ^ 2) * unit + (1 - z * z) * circle

end Mat4

end SceneScript
