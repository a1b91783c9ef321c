import SceneScript.Proofs.Geometry.TransformEquality
import SceneScript.Proofs.Scalar.Rounding

/-!
# Equal transforms have equal hashes

Two patterns of doubles stand for the same number if they are equal, or both are patterns of `NaN`
with whatever payloads, or both are zeros with whatever signs (`SameNumber`). This is how doubles
are compared (`same_iff_sameNumber`), and the hash of a sequence does not depend on more than that,
also where the sequence is read from patterns with other payloads (`agree_ofBits`).

The words of a hash are mixed without a sign. Mixed as signed words, with products that wrap around,
and read without the sign at the end, they give the same hash (`toUInt32_signedHash`).
-/

set_option autoImplicit false

namespace SceneScript

open Decimal DoubleEquality DoubleText Float.Model

/-! ## Patterns of the same number -/

/-- The two patterns are the same but for the payload of a `NaN` or the sign of a zero. -/
def SameNumber (p q : UInt64) : Prop :=
  (IsNaN p ∧ IsNaN q) ∨ (IsZero p ∧ IsZero q) ∨ p = q

section Patterns

variable {x y : Float} {p q : UInt64}

theorem isNaN_toBits_iff : IsNaN x.toBits ↔ x.isNaN = true := by
  constructor
  · intro nan
    have value := valueOf_of_isNaN nan
    change (valueOf x).isNaN = true
    rw [value]
    rfl
  · intro nan
    have fields := Rounding.fields_eq x
    rw [valueOf_eq_of_isNaN nan, fieldsOf, Prod.mk.injEq, Prod.mk.injEq] at fields
    obtain ⟨-, exponent, fraction⟩ := fields
    exact ⟨exponent.symm, by rw [← fraction]; decide⟩

theorem isZero_toBits_iff : IsZero x.toBits ↔ (x == 0) = true := by
  refine ⟨beq_zero_of_isZero, fun zero => ?_⟩
  obtain ⟨-, -, value⟩ := float_beq_iff.1 zero
  have fields := Rounding.fields_eq x
  cases exact : valueOf x with
  | zero sign =>
    rw [exact, fieldsOf, Prod.mk.injEq, Prod.mk.injEq] at fields
    exact ⟨fields.2.1.symm, fields.2.2.symm⟩
  | notANumber | infinity _ | finite _ _ _ _ =>
    rw [exact] at value
    cases value

/-- Doubles are compared by their patterns. -/
theorem same_iff_sameNumber : Scalar.same x y = true ↔ SameNumber x.toBits y.toBits := by
  rw [Scalar.same_iff]
  constructor
  · rintro (equal | ⟨nan, nan'⟩)
    · -- zeros are equal whatever their signs, and other equal doubles have one pattern
      by_cases zero : (x == 0) = true
      · have zero' := LawfulEquality.beq_trans (LawfulEquality.beq_symm equal) zero
        exact Or.inr (Or.inl ⟨isZero_toBits_iff.2 zero, isZero_toBits_iff.2 zero'⟩)
      · have nonzero : ¬ (y == 0) = true := fun zero' =>
          zero (LawfulEquality.beq_trans equal zero')
        have patterns := doubleBits_eq_of_beq equal
        rw [doubleBits, doubleBits, if_neg zero, if_neg nonzero] at patterns
        exact Or.inr (Or.inr patterns)
    · exact Or.inl ⟨isNaN_toBits_iff.2 nan, isNaN_toBits_iff.2 nan'⟩
  · rintro (⟨nan, nan'⟩ | ⟨zero, zero'⟩ | pattern)
    · exact Or.inr ⟨isNaN_toBits_iff.1 nan, isNaN_toBits_iff.1 nan'⟩
    · exact Or.inl (LawfulEquality.beq_trans (beq_zero_of_isZero zero)
        (LawfulEquality.beq_symm (beq_zero_of_isZero zero')))
    · rw [← Scalar.same_iff, eq_of_toBits_eq pattern]
      exact Scalar.same_refl y

/-- All patterns of `NaN` are read as one double. -/
theorem isNaN_ofBits (nan : IsNaN p) : (Float.ofBits p).isNaN = true := by
  have value : UnpackedFloat.unpack Format.binary64 p.toBitVec = .notANumber :=
    unpack_of_payload ((unpackExponent_toNat p rfl).trans nan.1)
      fun zero => nan.2 ((unpackMantissa_toNat p rfl).symm.trans zero)
  have read : Float.ofBits p = .ofModel (.pack .notANumber) :=
    congrArg (fun v => Float.ofModel (.pack v)) value
  rw [read]
  rfl

theorem beq_zero_ofBits (zero : IsZero p) : (Float.ofBits p == 0) = true := by
  have value : UnpackedFloat.unpack Format.binary64 p.toBitVec = .zero _ :=
    unpack_of_zero ((unpackExponent_toNat p rfl).trans zero.1)
      ((unpackMantissa_toNat p rfl).trans zero.2)
  have read : Float.ofBits p = .ofModel (.pack (.zero _)) :=
    congrArg (fun v => Float.ofModel (.pack v)) value
  have either (sign : UnpackedFloat.Sign) : (Float.ofModel (.pack (.zero sign)) == 0) = true := by
    cases sign <;> rfl
  rw [read]
  exact either _

/-- Patterns of the same number are read as doubles that are the same. -/
theorem same_ofBits (same : SameNumber p q) :
    Scalar.same (Float.ofBits p) (Float.ofBits q) = true := by
  rcases same with ⟨nan, nan'⟩ | ⟨zero, zero'⟩ | rfl
  · exact Scalar.same_iff.2 (Or.inr ⟨isNaN_ofBits nan, isNaN_ofBits nan'⟩)
  · exact Scalar.same_iff.2 (Or.inl (LawfulEquality.beq_trans (beq_zero_ofBits zero)
      (LawfulEquality.beq_symm (beq_zero_ofBits zero'))))
  · exact Scalar.same_refl _

/-- Sequences agree if their patterns do. -/
theorem agree_iff_toBits {xs ys : List Float} :
    Agree xs ys ↔ List.Forall₂ (fun x y => SameNumber x.toBits y.toBits) xs ys := by
  simp only [Agree, same_iff_sameNumber]

/-- Sequences that are read from patterns of the same numbers agree. -/
theorem agree_ofBits {ps qs : List UInt64} (same : List.Forall₂ SameNumber ps qs) :
    Agree (ps.map Float.ofBits) (qs.map Float.ofBits) := by
  rw [Agree, List.forall₂_map_left_iff, List.forall₂_map_right_iff]
  exact same.imp fun _ _ => same_ofBits

end Patterns

/-! ## Signed words -/

namespace NumberHash

variable {α : Type} [Scalar α]

/-- Mixes one word into a hash that is kept as a signed word. The product wraps around. -/
def signedMix (h : Int32) (word : UInt32) : Int32 :=
  (h ^^^ word.toInt32) * prime.toInt32

/-- The hash of a sequence, kept as a signed word. -/
def signedHash (xs : List α) : Int32 :=
  xs.foldl (fun h x =>
    signedMix (signedMix h (lowWord (Scalar.bits x))) (highWord (Scalar.bits x))) basis.toInt32

theorem toUInt32_signedMix (h : Int32) (word : UInt32) :
    (signedMix h word).toUInt32 = mix h.toUInt32 word := by
  rw [signedMix, mix, Int32.toUInt32_mul, Int32.toUInt32_xor, UInt32.toUInt32_toInt32,
    UInt32.toUInt32_toInt32]

/-- Read without its sign, the signed hash is the hash. -/
theorem toUInt32_signedHash (xs : List α) : (signedHash xs).toUInt32 = hash xs := by
  -- the fold starts from any word, as it does for the rest of a sequence
  have steps (h : Int32) : (xs.foldl (fun h x => signedMix (signedMix h (lowWord (Scalar.bits x)))
      (highWord (Scalar.bits x))) h).toUInt32 = xs.foldl mixNumber h.toUInt32 := by
    induction xs generalizing h with
    | nil => rfl
    | cons x rest ih =>
      rw [List.foldl_cons, List.foldl_cons, ih, toUInt32_signedMix, toUInt32_signedMix, mixNumber]
  exact steps basis.toInt32

end NumberHash

/-- Being the same is an equivalence relation on all transforms of doubles, with infinite entries,
zeros of either sign and entries that are not numbers among them. It is decided by the patterns of
the entries, and two transforms that are the same have the same hash.

More generally, two sequences of doubles of the same length have the same hash if their patterns
differ at most in payloads of `NaN` and signs of zeros, and so have two sequences that are read from
such patterns. The hash is the signed hash read without its sign, a number below `2 ^ 32`. -/
theorem equality_agrees_with_hash :
    Equivalence (fun s t : Transform Float => s.same t = true) ∧
      (∀ s t : Transform Float,
        (s.same t = true ↔
          List.Forall₂ (fun x y => SameNumber x.toBits y.toBits) s.toList t.toList) ∧
        (s.same t = true → standardHash s = standardHash t)) ∧
      (∀ xs ys : List Float, List.Forall₂ (fun x y => SameNumber x.toBits y.toBits) xs ys →
        NumberHash.hash xs = NumberHash.hash ys) ∧
      (∀ ps qs : List UInt64, List.Forall₂ SameNumber ps qs →
        NumberHash.hash (ps.map Float.ofBits) = NumberHash.hash (qs.map Float.ofBits)) ∧
      ∀ xs : List Float, (NumberHash.signedHash xs).toUInt32 = NumberHash.hash xs ∧
        (NumberHash.hash xs).toNat < 2 ^ 32 := by
  refine ⟨(Transform.sameSetoid Float).iseqv, fun s t => ⟨?_, respects_standardHash s t⟩,
    fun xs ys same => (agree_iff_toBits.2 same).hash_eq,
    fun ps qs same => (agree_ofBits same).hash_eq,
    fun xs => ⟨NumberHash.toUInt32_signedHash xs, (NumberHash.hash xs).toNat_lt⟩⟩
  rw [Transform.same_iff_agree, agree_iff_toBits]

/-- Control: a `NaN` with another sign and payload, and a zero with another sign. -/
theorem equality_agrees_with_hash_special_patterns :
    let ps : List UInt64 := [0x7ff8000000000000, 0, 0x3ff0000000000000]
    let qs : List UInt64 := [0xfff0000000000001, 0x8000000000000000, 0x3ff0000000000000]
    ps ≠ qs ∧ List.Forall₂ SameNumber ps qs ∧
      NumberHash.hash (ps.map Float.ofBits) = NumberHash.hash (qs.map Float.ofBits) := by
  intro ps qs
  have same : List.Forall₂ SameNumber ps qs :=
    .cons (Or.inl ⟨⟨by decide, by decide⟩, ⟨by decide, by decide⟩⟩)
      (.cons (Or.inr (Or.inl ⟨⟨by decide, by decide⟩, ⟨by decide, by decide⟩⟩))
        (.cons (Or.inr (Or.inr rfl)) .nil))
  obtain ⟨-, -, -, read, -⟩ := equality_agrees_with_hash
  exact ⟨by decide, same, read ps qs same⟩

end SceneScript
