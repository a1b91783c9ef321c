import Mathlib.Data.List.Forall2
import SceneScript.Geometry.TransformPool
import SceneScript.Proofs.Scalar.Equality

/-!
# Equality of transforms

Two transforms are the same when their forward matrices agree entry by entry. Under the laws of
equality this is an equivalence relation (`Transform.sameSetoid`), whatever the entries are, and
transforms that are the same have the same hash (`respects_standardHash`).

Both are facts about sequences of numbers that agree position by position (`Agree`): a matrix is
compared and hashed as the sequence of its entries.
-/

set_option autoImplicit false

namespace SceneScript

variable {α : Type} [Scalar α]

/-- Two sequences of the same length whose numbers are the same, position by position. -/
def Agree (xs ys : List α) : Prop :=
  List.Forall₂ (fun x y => Scalar.same x y = true) xs ys

theorem agree_iff_all_zip {xs ys : List α} (length : xs.length = ys.length) :
    Agree xs ys ↔ (xs.zip ys).all (fun p => Scalar.same p.1 p.2) = true := by
  rw [Agree, List.forall₂_iff_zip, List.all_eq_true]
  exact ⟨fun h p hp => h.2 hp, fun h => ⟨length, fun {a b} hp => h (a, b) hp⟩⟩

namespace Agree

variable [LawfulEquality α] {xs ys zs : List α}

variable (xs) in
theorem refl : Agree xs xs :=
  List.forall₂_same.2 fun x _ => Scalar.same_refl x

theorem symm (h : Agree xs ys) : Agree ys xs :=
  (h.imp fun _ _ => Scalar.same_symm).flip

theorem trans (h : Agree xs ys) (k : Agree ys zs) : Agree xs zs := by
  unfold Agree at h k ⊢
  induction h generalizing zs with
  | nil => exact k
  | cons same _ ih =>
    obtain ⟨z, rest, same', agree, rfl⟩ := List.forall₂_cons_left_iff.1 k
    exact .cons (Scalar.same_trans same same') (ih agree)

/-- Sequences that agree have the same hash. -/
theorem hash_eq (h : Agree xs ys) : NumberHash.hash xs = NumberHash.hash ys := by
  refine List.rel_foldl (P := Eq) ?_ rfl h
  rintro hash _ rfl x y same
  rw [NumberHash.mixNumber, NumberHash.mixNumber, Scalar.bits_eq_of_same same]

end Agree

namespace Transform

variable {s t u : Transform α}

theorem same_iff_agree : s.same t = true ↔ Agree s.toList t.toList := by
  have length : s.toList.length = t.toList.length := rfl
  exact (agree_iff_all_zip length).symm

variable [LawfulEquality α]

theorem same_refl (t : Transform α) : t.same t = true :=
  same_iff_agree.2 (.refl _)

theorem same_symm (h : s.same t = true) : t.same s = true :=
  same_iff_agree.2 (same_iff_agree.1 h).symm

theorem same_trans (h : s.same t = true) (k : t.same u = true) : s.same u = true :=
  same_iff_agree.2 ((same_iff_agree.1 h).trans (same_iff_agree.1 k))

/-- What is the same as one of two transforms that are the same is the same as the other. -/
theorem same_congr_right (h : s.same t = true) : u.same s = u.same t := by
  rw [Bool.eq_iff_iff]
  exact ⟨fun k => same_trans k h, fun k => same_trans k (same_symm h)⟩

variable (α) in
/-- Transforms up to being the same. -/
def sameSetoid : Setoid (Transform α) where
  r s t := s.same t = true
  iseqv := ⟨same_refl, same_symm, same_trans⟩

end Transform

/-- Whether a hash function gives transforms that are the same the same hash. -/
def Respects (hashOf : TransformHash α) : Prop :=
  ∀ s t : Transform α, s.same t = true → hashOf s = hashOf t

theorem respects_standardHash [LawfulEquality α] : Respects (standardHash (α := α)) := by
  intro s t same
  have hash : s.hash = t.hash := (Transform.same_iff_agree.1 same).hash_eq
  rw [standardHash, standardHash, hash]

end SceneScript
