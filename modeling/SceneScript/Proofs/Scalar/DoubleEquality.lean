import Mathlib
import SceneScript.Proofs.Scalar.Equality
import SceneScript.Scalar.Double

/-!
# Equality of doubles

Doubles obey the laws of equality (`LawfulEquality Float`). A double is a pattern of 64 bits with a
sign, an exponent and a mantissa field. The fields of a number can be read off its value
(`fieldsOf_unpack`), so patterns with the same value are the same pattern (`unpack_injective`); all
values that are not numbers share one pattern anyway. Two doubles are equal when they are numbers
with the same value, the sign of a zero left aside (`beq_iff`).
-/

set_option autoImplicit false

namespace SceneScript.DoubleEquality

open Float.Model Float.Model.UnpackedFloat

/-! ## Patterns and their fields -/

section Fields

variable {b c : BitVec Format.binary64.numBits}

theorem ofBitVec_injective {v w : BitVec 1} (h : Sign.ofBitVec v = Sign.ofBitVec w) : v = w := by
  unfold Sign.ofBitVec at h
  split at h <;> split at h <;> grind

/-- A pattern is determined by its three fields. -/
theorem eq_of_fields (sign : unpackSign b = unpackSign c)
    (exponent : unpackExponent b = unpackExponent c)
    (mantissa : unpackMantissa b = unpackMantissa c) : b = c := by
  have s := congrArg BitVec.toNat sign
  have e := congrArg BitVec.toNat exponent
  have m := congrArg BitVec.toNat mantissa
  simp [unpackSign, unpackExponent, unpackMantissa, Nat.shiftRight_eq_div_pow] at s e m
  have hb : b.toNat < 2 ^ 64 := b.isLt
  have hc : c.toNat < 2 ^ 64 := c.isLt
  exact BitVec.eq_of_toNat_eq (by omega)

/-- The leading one of a normal number stands above its mantissa field. -/
theorem toNat_one_append (v : BitVec 52) : (1#1 ++ v).toNat = 2 ^ 52 + v.toNat := by
  rw [BitVec.toNat_append, ← Nat.shiftLeft_add_eq_or_of_lt v.isLt]
  simp [Nat.shiftLeft_eq]

/-- The sign, exponent and mantissa field of the pattern with a given value. -/
def fieldsOf : UnpackedFloat → Sign × Nat × Nat
  | .notANumber => (.positive, 2047, 2 ^ 51)
  | .infinity sign => (sign, 2047, 0)
  | .zero sign => (sign, 0, 0)
  | .finite sign m e _ =>
    if m < 2 ^ 52 then (sign, 0, m) else (sign, (e + 1075).toNat, m - 2 ^ 52)

/-- The value of a pattern tells its fields. -/
theorem fieldsOf_unpack (valid : Format.binary64.Valid b) :
    fieldsOf (UnpackedFloat.unpack Format.binary64 b) =
      (Sign.ofBitVec (unpackSign b), (unpackExponent b).toNat, (unpackMantissa b).toNat) := by
  have small : (unpackMantissa b).toNat < 2 ^ 52 := (unpackMantissa b).isLt
  have bias : (Format.binary64.exponentBias : Int) = 1023 := rfl
  rw [UnpackedFloat.unpack]
  -- the exponent field is all ones, zero, or the exponent of a normal number
  split
  · rename_i top
    split
    · rename_i infinite
      rw [top, infinite]
      rfl
    · rename_i payload
      rw [valid.eq_packedNaN top payload]
      rfl
  · split
    · rename_i bottom
      split
      · rename_i zero
        rw [bottom, zero]
        rfl
      · rw [fieldsOf, if_pos small, bottom]
        rfl
    · have large : (1#1 ++ unpackMantissa b).toNat = 2 ^ 52 + (unpackMantissa b).toNat :=
        toNat_one_append _
      have exponent (n : Nat) : ((n : Int) - (1023 + (52 : Nat)) + 1075).toNat = n := by omega
      rw [fieldsOf, if_neg (by omega), large, bias, exponent, Nat.add_sub_cancel_left]

end Fields

/-- Doubles with the same value have the same pattern. -/
theorem unpack_injective {x y : Float.Model} (same : x.unpack = y.unpack) : x = y := by
  have fields := congrArg fieldsOf same
  rw [Float.Model.unpack, Float.Model.unpack, fieldsOf_unpack x.valid, fieldsOf_unpack y.valid,
    Prod.mk.injEq, Prod.mk.injEq] at fields
  obtain ⟨sign, exponent, mantissa⟩ := fields
  have pattern : x.toBits.toBitVec = y.toBits.toBitVec :=
    eq_of_fields (ofBitVec_injective sign) (BitVec.eq_of_toNat_eq exponent)
      (BitVec.eq_of_toNat_eq mantissa)
  obtain ⟨⟨b⟩, _⟩ := x
  obtain ⟨⟨c⟩, _⟩ := y
  cases pattern
  rfl

/-! ## Values that are equal -/

section Values

variable {u v : UnpackedFloat}

/-- A value without the sign of a zero. -/
def dropZeroSign : UnpackedFloat → UnpackedFloat
  | .zero _ => .zero .positive
  | u => u

theorem compare_sign_eq_iff {s t : Sign} : compare s t = .eq ↔ s = t := by
  cases s <;> cases t <;> simp [compare]

/-- Two values are equal when both are numbers, and the same but for the sign of a zero. -/
theorem beq_iff : u.beq v = true ↔
    u.isNaN = false ∧ v.isNaN = false ∧ dropZeroSign u = dropZeroSign v := by
  cases u with
  | notANumber => cases v <;> simp [UnpackedFloat.beq, UnpackedFloat.compare, UnpackedFloat.isNaN]
  | infinity s =>
    cases v <;> cases s <;>
      simp [UnpackedFloat.beq, UnpackedFloat.compare, UnpackedFloat.isNaN, dropZeroSign,
        compare_sign_eq_iff]
  | zero s =>
    cases v with
    | infinity t | finite t _ _ _ =>
      cases t <;>
        simp [UnpackedFloat.beq, UnpackedFloat.compare, UnpackedFloat.isNaN, dropZeroSign]
    | notANumber | zero _ =>
      simp [UnpackedFloat.beq, UnpackedFloat.compare, UnpackedFloat.isNaN, dropZeroSign]
  | finite s m e pos =>
    cases v with
    | infinity t =>
      cases s <;> cases t <;>
        simp [UnpackedFloat.beq, UnpackedFloat.compare, UnpackedFloat.isNaN, dropZeroSign]
    | finite t _ _ _ =>
      -- of two numbers with the same sign the exponents are compared, then the mantissas
      cases s <;> cases t <;>
        simp [UnpackedFloat.beq, UnpackedFloat.compare, UnpackedFloat.isNaN, dropZeroSign,
          and_comm, Ordering.then_eq_eq]
    | notANumber | zero _ =>
      cases s <;>
        simp [UnpackedFloat.beq, UnpackedFloat.compare, UnpackedFloat.isNaN, dropZeroSign]

theorem eq_of_dropZeroSign_eq (h : dropZeroSign u = dropZeroSign v)
    (nonzero : dropZeroSign u ≠ .zero .positive) : u = v := by
  cases u <;> cases v <;> simp_all [dropZeroSign]

end Values

/-! ## The laws -/

/-- The value of a double. -/
def valueOf (x : Float) : UnpackedFloat := x.toModel.unpack

theorem eq_of_valueOf_eq {x y : Float} (h : valueOf x = valueOf y) : x = y := by
  obtain ⟨a⟩ := x
  obtain ⟨b⟩ := y
  have same : a = b := unpack_injective h
  rw [same]

theorem float_beq_iff {x y : Float} : (x == y) = true ↔
    (valueOf x).isNaN = false ∧ (valueOf y).isNaN = false ∧
      dropZeroSign (valueOf x) = dropZeroSign (valueOf y) :=
  beq_iff

theorem valueOf_eq_of_isNaN {x : Float} (h : x.isNaN = true) : valueOf x = .notANumber := by
  have nan : (valueOf x).isNaN = true := h
  cases value : valueOf x <;> simp [value, UnpackedFloat.isNaN] at nan ⊢

/-- Equal doubles have equal patterns once the negative zero is read as the positive one. -/
theorem doubleBits_eq_of_beq {x y : Float} (h : (x == y) = true) : doubleBits x = doubleBits y := by
  have zero : dropZeroSign (valueOf 0) = .zero .positive := rfl
  have numberZero : (valueOf 0).isNaN = false := rfl
  obtain ⟨numberX, numberY, values⟩ := float_beq_iff.1 h
  unfold doubleBits
  by_cases hx : (x == 0) = true
  · have hy : (y == 0) = true :=
      float_beq_iff.2 ⟨numberY, numberZero, values.symm.trans (float_beq_iff.1 hx).2.2⟩
    rw [if_pos hx, if_pos hy]
  · have nonzero : dropZeroSign (valueOf x) ≠ .zero .positive := fun vanishes =>
      hx (float_beq_iff.2 ⟨numberX, numberZero, vanishes.trans zero.symm⟩)
    rw [eq_of_valueOf_eq (eq_of_dropZeroSign_eq values nonzero)]

instance : LawfulEquality Float where
  beq_self x := by
    rw [Bool.eq_iff_iff, float_beq_iff, Bool.not_eq_true']
    exact ⟨And.left, fun number => ⟨number, number, rfl⟩⟩
  beq_symm h := by
    obtain ⟨numberX, numberY, values⟩ := float_beq_iff.1 h
    exact float_beq_iff.2 ⟨numberY, numberX, values.symm⟩
  beq_trans h k := by
    obtain ⟨numberX, -, values⟩ := float_beq_iff.1 h
    obtain ⟨-, numberZ, values'⟩ := float_beq_iff.1 k
    exact float_beq_iff.2 ⟨numberX, numberZ, values.trans values'⟩
  bits_of_beq := doubleBits_eq_of_beq
  bits_of_isNaN h k := by
    rw [eq_of_valueOf_eq ((valueOf_eq_of_isNaN h).trans (valueOf_eq_of_isNaN k).symm)]

end SceneScript.DoubleEquality
