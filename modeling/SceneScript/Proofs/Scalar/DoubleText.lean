import SceneScript.Proofs.Decimal.Patterns
import SceneScript.Proofs.Scalar.DoubleEquality
import SceneScript.Proofs.Scalar.Text

/-!
# Texts of doubles

The texts of doubles can be read (`LawfulText Float`). Two doubles with the same text have the same
pattern, or are both not numbers and so one value anyway, or are both zeros.
-/

set_option autoImplicit false

namespace SceneScript.DoubleText

open Float.Model Float.Model.UnpackedFloat Decimal DoubleEquality

/-! ## Values of patterns -/

section Values

variable {b : BitVec Format.binary64.numBits}

theorem unpack_of_payload (top : (unpackExponent b).toNat = 2047)
    (payload : (unpackMantissa b).toNat ≠ 0) :
    UnpackedFloat.unpack Format.binary64 b = .notANumber := by
  have exponent : unpackExponent b = -1#11 := BitVec.eq_of_toNat_eq top
  have mantissa : unpackMantissa b ≠ 0#52 := fun zero => payload (congrArg BitVec.toNat zero)
  rw [UnpackedFloat.unpack]
  exact (if_pos exponent).trans (if_neg mantissa)

theorem unpack_of_zero (exponent : (unpackExponent b).toNat = 0)
    (mantissa : (unpackMantissa b).toNat = 0) :
    UnpackedFloat.unpack Format.binary64 b = .zero (Sign.ofBitVec (unpackSign b)) := by
  have bottom : unpackExponent b = 0#11 := BitVec.eq_of_toNat_eq exponent
  have none : unpackMantissa b = 0#52 := BitVec.eq_of_toNat_eq mantissa
  have finite : unpackExponent b ≠ -1#11 := by
    rw [bottom]
    decide
  rw [UnpackedFloat.unpack]
  exact (if_neg finite).trans ((if_pos bottom).trans (dif_pos none))

theorem unpackExponent_toNat (p : UInt64) (pattern : p.toBitVec = b) :
    (unpackExponent b).toNat = exponentField p := by
  subst pattern
  simp [unpackExponent, exponentField, fractionBits, Nat.shiftRight_eq_div_pow]

theorem unpackMantissa_toNat (p : UInt64) (pattern : p.toBitVec = b) :
    (unpackMantissa b).toNat = fractionField p := by
  subst pattern
  simp [unpackMantissa, fractionField, fractionBits]

end Values

section Doubles

variable {x y : Float}

theorem valueOf_of_isNaN (nan : IsNaN x.toBits) : valueOf x = .notANumber :=
  unpack_of_payload ((unpackExponent_toNat _ rfl).trans nan.1)
    (fun zero => nan.2 ((unpackMantissa_toNat _ rfl).symm.trans zero))

theorem beq_zero_of_isZero (zero : IsZero x.toBits) : (x == 0) = true := by
  have value : valueOf x = .zero _ := unpack_of_zero ((unpackExponent_toNat _ rfl).trans zero.1)
    ((unpackMantissa_toNat _ rfl).trans zero.2)
  rw [float_beq_iff, value]
  exact ⟨rfl, rfl, rfl⟩

theorem eq_of_toBits_eq (h : x.toBits = y.toBits) : x = y := by
  obtain ⟨p, hp⟩ := x
  obtain ⟨q, hq⟩ := y
  change p = q at h
  subst h
  rfl

theorem withoutZeroSign_of_isZero (zero : IsZero x.toBits) : Scalar.withoutZeroSign x = 0 :=
  if_pos (beq_zero_of_isZero zero)

theorem eq_of_text_eq (same : Scalar.text x = Scalar.text y) :
    Scalar.withoutZeroSign x = Scalar.withoutZeroSign y := by
  rcases sameText_cases same with ⟨nan, nan'⟩ | ⟨zero, zero'⟩ | pattern
  · rw [eq_of_valueOf_eq ((valueOf_of_isNaN nan).trans (valueOf_of_isNaN nan').symm)]
  · rw [withoutZeroSign_of_isZero zero, withoutZeroSign_of_isZero zero']
  · rw [eq_of_toBits_eq pattern]

theorem not_delimiter_of_mem_text {c : Char} (h : c ∈ (Scalar.text x).toList) :
    c ∉ delimiters := by
  have digits : ∀ c ∈ delimiters, c.isDigit ≠ true := by simp [delimiters]
  have others : ∀ c ∈ marks ++ letters, c ∉ delimiters := by
    simp [marks, letters, delimiters]
  intro delimiter
  rcases mem_textOfBits h with digit | mark | letter
  · exact digits c delimiter digit
  · exact others c (List.mem_append_left _ mark) delimiter
  · exact others c (List.mem_append_right _ letter) delimiter

instance : LawfulText Float where
  text_ne_empty x := textOfBits_ne_empty x.toBits
  not_delimiter := not_delimiter_of_mem_text
  eq_of_text := eq_of_text_eq

end Doubles

end SceneScript.DoubleText
