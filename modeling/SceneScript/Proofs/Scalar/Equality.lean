import SceneScript.Scalar

/-!
# Laws of equality

The class of scalars fixes no law of its operations. `LawfulEquality` adds the laws that equality
and bit patterns obey for IEEE doubles: a number equals itself, a value that is not a number equals
nothing, equality is symmetric and transitive, and values that cannot be told apart share a pattern.

Under these laws `Scalar.same` is an equivalence relation, and scalars that are the same have the
same pattern (`Scalar.bits_eq_of_same`).
-/

set_option autoImplicit false

namespace SceneScript

/-- Scalars whose equality is that of IEEE doubles. The two zeros may be different values that are
equal. -/
class LawfulEquality (α : Type) [Scalar α] : Prop where
  beq_self (x : α) : (x == x) = !Scalar.isNaN x
  beq_symm {x y : α} : (x == y) = true → (y == x) = true
  beq_trans {x y z : α} : (x == y) = true → (y == z) = true → (x == z) = true
  bits_of_beq {x y : α} : (x == y) = true → Scalar.bits x = Scalar.bits y
  bits_of_isNaN {x y : α} : Scalar.isNaN x = true → Scalar.isNaN y = true →
    Scalar.bits x = Scalar.bits y

namespace Scalar

variable {α : Type} [Scalar α]

theorem same_iff {x y : α} :
    same x y = true ↔ (x == y) = true ∨ (isNaN x = true ∧ isNaN y = true) := by
  rw [same, Bool.or_eq_true, Bool.and_eq_true]

variable [LawfulEquality α] {x y z : α}

/-- What is not a number equals nothing. -/
theorem isNaN_of_beq (equal : (x == y) = true) : isNaN x = false ∧ isNaN y = false := by
  have left := LawfulEquality.beq_trans equal (LawfulEquality.beq_symm equal)
  have right := LawfulEquality.beq_trans (LawfulEquality.beq_symm equal) equal
  rw [LawfulEquality.beq_self, Bool.not_eq_true'] at left right
  exact ⟨left, right⟩

variable (x) in
theorem same_refl : same x x = true := by
  rw [same_iff, LawfulEquality.beq_self]
  cases isNaN x <;> simp

theorem same_symm (h : same x y = true) : same y x = true := by
  rw [same_iff] at h ⊢
  exact h.imp LawfulEquality.beq_symm And.symm

theorem same_trans (h : same x y = true) (k : same y z = true) : same x z = true := by
  rw [same_iff] at h k ⊢
  rcases h with equal | ⟨nanX, nanY⟩
  · rcases k with equal' | ⟨nanY, -⟩
    · exact Or.inl (LawfulEquality.beq_trans equal equal')
    · exact absurd nanY (by simp [(isNaN_of_beq equal).2])
  · rcases k with equal | ⟨-, nanZ⟩
    · exact absurd nanY (by simp [(isNaN_of_beq equal).1])
    · exact Or.inr ⟨nanX, nanZ⟩

/-- Scalars that are the same have the same pattern. -/
theorem bits_eq_of_same (h : same x y = true) : bits x = bits y := by
  rcases same_iff.1 h with equal | ⟨nanX, nanY⟩
  · exact LawfulEquality.bits_of_beq equal
  · exact LawfulEquality.bits_of_isNaN nanX nanY

end Scalar

end SceneScript
