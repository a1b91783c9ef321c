import Mathlib.Analysis.SpecialFunctions.Trigonometric.Basic
import SceneScript.Proofs.Scalar.Equality

/-!
# Exact arithmetic

The scalars read as real numbers, with the operations of the reals. No value stands for "not a
number": a quotient by zero is zero, and so is what a matrix without an inverse has for one.
-/

set_option autoImplicit false

namespace SceneScript

open Classical in
/-- Real numbers as scalars. All bit patterns are the same, which makes every lookup compare
matrices. -/
noncomputable instance : Scalar ℝ where
  toZero := inferInstance
  toOne := inferInstance
  toAdd := inferInstance
  toSub := inferInstance
  toMul := inferInstance
  toDiv := inferInstance
  toNeg := inferInstance
  beq x y := decide (x = y)
  less x y := decide (x < y)
  sqrt := Real.sqrt
  sin := Real.sin
  cos := Real.cos
  abs x := |x|
  pi := Real.pi
  nan := 0
  isNaN _ := false
  isWhole x := decide (∃ n : ℤ, x = n)
  wholePart? x := some (if 0 ≤ x then ⌊x⌋ else ⌈x⌉)
  ofNat n := n
  bits _ := 0
  text _ := ""

namespace Scalar

theorem beq_real_iff {x y : ℝ} : (x == y) = true ↔ x = y :=
  decide_eq_true_iff

theorem same_real_iff {x y : ℝ} : same x y = true ↔ x = y := by
  rw [same_iff, beq_real_iff]
  exact ⟨fun h => h.resolve_right fun ⟨nan, _⟩ => Bool.false_ne_true nan, Or.inl⟩

end Scalar

instance : LawfulEquality ℝ where
  beq_self _ := Scalar.beq_real_iff.2 rfl
  beq_symm h := Scalar.beq_real_iff.2 (Scalar.beq_real_iff.1 h).symm
  beq_trans h k := Scalar.beq_real_iff.2 ((Scalar.beq_real_iff.1 h).trans (Scalar.beq_real_iff.1 k))
  bits_of_beq _ := rfl
  bits_of_isNaN _ _ := rfl

end SceneScript
