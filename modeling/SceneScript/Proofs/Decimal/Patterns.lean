import SceneScript.Proofs.Decimal.Shortest

/-!
# Texts of patterns

A pattern of 64 bits is known from its text, up to what no text shows: the payload of what is not a
number, and the sign of a zero (`sameText_cases`). Without its sign the text is one of two words or
that of a decimal, which begins with a digit, and the value of the decimal tells the magnitude.
-/

set_option autoImplicit false

namespace SceneScript.Decimal

/-! ## Patterns and their fields -/

section Fields

variable {p q : UInt64} {b : Binary}

/-- A pattern is determined by its three fields. -/
theorem eq_of_fields (sign : signBit p = signBit q) (exponent : exponentField p = exponentField q)
    (fraction : fractionField p = fractionField q) : p = q := by
  have hp := p.toNat_lt
  have hq := q.toNat_lt
  have top : p.toNat / 2 ^ 63 = q.toNat / 2 ^ 63 := by
    simp only [signBit, twoPow_eq, beq_eq_beq] at sign
    omega
  simp only [exponentField, fractionField, fractionBits, twoPow_eq] at exponent fraction
  exact UInt64.toNat_inj.1 (by omega)

theorem magnitude?_eq_none_iff : magnitude? p = none ↔ exponentField p = specialExponent := by
  simp only [magnitude?]
  split
  · simp_all
  split <;> simp_all

theorem magnitude?_of_zero (exponent : exponentField p = 0) :
    magnitude? p = some ⟨fractionField p, -1074, false⟩ := by
  simp [magnitude?, exponent, specialExponent]

theorem magnitude?_of_pos (finite : exponentField p ≠ specialExponent)
    (positive : exponentField p ≠ 0) :
    magnitude? p = some ⟨twoPow fractionBits + fractionField p, (exponentField p : ℤ) - 1075,
      fractionField p == 0 && exponentField p != 1⟩ := by
  simp [magnitude?, finite, positive]

theorem fractionField_lt (p : UInt64) : fractionField p < 2 ^ 52 := Nat.mod_lt _ (by decide)

theorem normalized_of_magnitude? (h : magnitude? p = some b) : b.Normalized := by
  have fraction := fractionField_lt p
  have finite : exponentField p ≠ specialExponent := fun special => by
    rw [magnitude?_eq_none_iff.2 special] at h
    cases h
  -- the exponent field zero is that of the magnitudes without a leading one
  by_cases zero : exponentField p = 0
  · obtain rfl := Option.some.inj ((magnitude?_of_zero zero).symm.trans h)
    exact ⟨fraction.trans (by decide), le_rfl, fun above => absurd above (lt_irrefl _), by simp⟩
  · obtain rfl := Option.some.inj ((magnitude?_of_pos finite zero).symm.trans h)
    constructor <;> simp only [twoPow_eq, fractionBits, Bool.and_eq_true, beq_iff_eq,
      bne_iff_ne, ne_eq] <;> omega

/-- The fields of a pattern but for its sign are known from its magnitude. -/
theorem fields_of_magnitude? (hp : magnitude? p = some b) (hq : magnitude? q = some b) :
    exponentField p = exponentField q ∧ fractionField p = fractionField q := by
  have fields {r : UInt64} (h : magnitude? r = some b) :
      exponentField r = (if b.mantissa < 2 ^ 52 then 0 else (b.exponent + 1075).toNat) ∧
        fractionField r = (if b.mantissa < 2 ^ 52 then b.mantissa else b.mantissa - 2 ^ 52) := by
    have fraction := fractionField_lt r
    have finite : exponentField r ≠ specialExponent := fun special => by
      rw [magnitude?_eq_none_iff.2 special] at h
      cases h
    by_cases zero : exponentField r = 0
    · obtain rfl := Option.some.inj ((magnitude?_of_zero zero).symm.trans h)
      rw [zero, if_pos fraction, if_pos fraction]
      exact ⟨rfl, rfl⟩
    · obtain rfl := Option.some.inj ((magnitude?_of_pos finite zero).symm.trans h)
      simp [fractionBits]
  obtain ⟨exponent, fraction⟩ := fields hp
  obtain ⟨exponent', fraction'⟩ := fields hq
  exact ⟨exponent.trans exponent'.symm, fraction.trans fraction'.symm⟩

end Fields

/-! ## Characters of decimals -/

section Characters

variable {cs ds : List Char} {c : Char} {d : Decimal}

/-- What stands in the text of a decimal besides digits. -/
def marks : List Char := ['.', 'e', '+', '-']

/-- The text begins with a digit. -/
def StartsWithDigit (cs : List Char) : Prop := ∃ c ds, cs = c :: ds ∧ c.isDigit = true

theorem StartsWithDigit.append (h : StartsWithDigit cs) (ds : List Char) :
    StartsWithDigit (cs ++ ds) := by
  obtain ⟨c, cs, rfl, digit⟩ := h
  exact ⟨c, cs ++ ds, rfl, digit⟩

theorem AllDigits.startsWithDigit (digits : AllDigits cs) (some : cs ≠ []) :
    StartsWithDigit cs := by
  obtain ⟨c, ds, rfl⟩ := List.exists_cons_of_ne_nil some
  exact ⟨c, ds, rfl, digits c List.mem_cons_self⟩

theorem StartsWithDigit.pointed (h : StartsWithDigit cs) (rest : List Char) :
    StartsWithDigit (pointed cs rest).toList := by
  rw [toList_pointed]
  split
  · exact h
  · exact h.append _

theorem startsWithDigit_text (d : Decimal) : StartsWithDigit (sceneNumbers.text d).toList := by
  have digits := allDigits_toDigits d.digits
  have some : 0 < (Nat.toDigits 10 d.digits).length := Nat.length_toDigits_pos
  unfold Layout.text
  generalize Nat.toDigits 10 d.digits = ds at digits some ⊢
  have start (n : Nat) (pos : 0 < n) : StartsWithDigit (ds.take n) := by
    refine AllDigits.startsWithDigit (fun c hc => digits c (List.mem_of_mem_take hc)) ?_
    simp only [ne_eq, List.take_eq_nil_iff]
    rintro (rfl | rfl)
    · exact absurd pos (lt_irrefl _)
    · exact absurd some (lt_irrefl _)
  dsimp only
  split
  · exact ⟨'0', [], rfl, rfl⟩
  split
  · rw [String.toList_append, String.toList_ofList]
    exact (digits.startsWithDigit (List.ne_nil_of_length_pos some)).append _
  split
  · rename_i point
    exact (start _ (by omega)).pointed _
  split
  · rw [String.toList_append, String.toList_append]
    exact ⟨'0', _, rfl, rfl⟩
  · rw [String.toList_append, String.toList_append, String.toList_append]
    exact ((((start 1 (by decide)).pointed _).append _).append _).append _

theorem mem_pointed (hcs : AllDigits cs) (hds : AllDigits ds) (h : c ∈ (pointed cs ds).toList) :
    c.isDigit = true ∨ c ∈ marks := by
  rw [toList_pointed] at h
  split at h
  · exact Or.inl (hcs c h)
  · rcases List.mem_append.1 h with h | h
    · exact Or.inl (hcs c h)
    rcases List.mem_cons.1 h with rfl | h
    · exact Or.inr (by decide)
    · exact Or.inl (hds c h)

theorem mem_text (h : c ∈ (sceneNumbers.text d).toList) : c.isDigit = true ∨ c ∈ marks := by
  have digits := allDigits_toDigits d.digits
  unfold Layout.text at h
  generalize Nat.toDigits 10 d.digits = ds at digits h
  have left (n : Nat) : AllDigits (ds.take n) := fun c hc => digits c (List.mem_of_mem_take hc)
  have right (n : Nat) : AllDigits (ds.drop n) := fun c hc => digits c (List.mem_of_mem_drop hc)
  dsimp only at h
  split at h
  · obtain rfl : c = '0' := by simpa using h
    exact Or.inl rfl
  split at h
  · rw [String.toList_append, List.mem_append, zeros, String.toList_ofList,
      String.toList_ofList] at h
    exact Or.inl (h.elim (digits c) (allDigits_zeros _ c))
  split at h
  · exact mem_pointed (left _) (right _) h
  split at h
  · simp only [zeros, String.toList_append, List.mem_append, String.toList_ofList] at h
    rcases h with (h | h) | h
    · have chars : c = '0' ∨ c = '.' := by simpa using h
      rcases chars with rfl | rfl
      · exact Or.inl rfl
      · exact Or.inr (by decide)
    · exact Or.inl (allDigits_zeros _ c h)
    · exact Or.inl (digits c h)
  · rw [String.toList_append, String.toList_append, String.toList_append, List.mem_append,
      List.mem_append, List.mem_append, String.toList_ofList] at h
    rcases h with ((h | h) | h) | h
    · exact mem_pointed (left _) (right _) h
    · obtain rfl : c = 'e' := by simpa [sceneNumbers] using h
      exact Or.inr (by decide)
    · refine Or.inr ?_
      split at h
      · obtain rfl : c = '-' := by simpa using h
        decide
      · obtain rfl : c = '+' := by simpa [sceneNumbers] using h
        decide
    · exact Or.inl (allDigits_toDigits _ c h)

end Characters

/-! ## Texts of patterns -/

section Texts

variable {p q : UInt64}

/-- The pattern is not a number. -/
def IsNaN (p : UInt64) : Prop := exponentField p = specialExponent ∧ fractionField p ≠ 0

/-- The pattern is that of a zero. -/
def IsZero (p : UInt64) : Prop := exponentField p = 0 ∧ fractionField p = 0

/-- Whether the text of the pattern has a sign. -/
def signed (p : UInt64) : Bool :=
  signBit p && match magnitude? p with
    | none => fractionField p == 0
    | some b => b.mantissa != 0

/-- The text of the pattern, but for its sign. -/
def unsignedText (p : UInt64) : String :=
  match magnitude? p with
  | none => if fractionField p = 0 then sceneNumbers.infinity else sceneNumbers.nan
  | some b => sceneNumbers.text (shortest b)

theorem textOfBits_eq (p : UInt64) :
    sceneNumbers.textOfBits p = (if signed p then "-" else "") ++ unsignedText p := by
  unfold Layout.textOfBits signed unsignedText
  dsimp only
  split <;> split <;> simp_all

/-- What follows the sign is a word, or begins with a digit. -/
theorem unsignedText_cases (p : UInt64) :
    (IsNaN p ∧ unsignedText p = "NaN") ∨
      (magnitude? p = none ∧ fractionField p = 0 ∧ unsignedText p = "Infinity") ∨
      ∃ b, magnitude? p = some b ∧ unsignedText p = sceneNumbers.text (shortest b) := by
  unfold unsignedText
  cases magnitude : magnitude? p with
  | none =>
    dsimp only
    split
    · rename_i infinite
      exact Or.inr (Or.inl ⟨rfl, infinite, rfl⟩)
    · rename_i nan
      exact Or.inl ⟨⟨magnitude?_eq_none_iff.1 magnitude, nan⟩, rfl⟩
  | some b => exact Or.inr (Or.inr ⟨b, rfl, rfl⟩)

theorem unsignedText_head (p : UInt64) : ∃ c cs, (unsignedText p).toList = c :: cs ∧ c ≠ '-' := by
  rcases unsignedText_cases p with ⟨-, text⟩ | ⟨-, -, text⟩ | ⟨b, -, text⟩
  · exact ⟨'N', ['a', 'N'], by rw [text]; rfl, by decide⟩
  · exact ⟨'I', "nfinity".toList, by rw [text]; rfl, by decide⟩
  · obtain ⟨c, cs, head, digit⟩ := startsWithDigit_text (shortest b)
    refine ⟨c, cs, by rw [text, head], ?_⟩
    rintro rfl
    cases digit

/-- Texts that agree agree on the sign and on what follows it. -/
theorem sign_and_unsigned_of_eq (same : sceneNumbers.textOfBits p = sceneNumbers.textOfBits q) :
    signed p = signed q ∧ unsignedText p = unsignedText q := by
  obtain ⟨c, cs, head, plain⟩ := unsignedText_head p
  obtain ⟨c', cs', head', plain'⟩ := unsignedText_head q
  have texts := congrArg String.toList same
  rw [textOfBits_eq, textOfBits_eq, String.toList_append, String.toList_append, head,
    head'] at texts
  rw [← String.toList_inj, head, head']
  -- a sign cannot be taken for the first character behind one
  generalize signed p = sign at *
  generalize signed q = sign' at *
  cases sign <;> cases sign'
  · exact ⟨rfl, by simpa using texts⟩
  · exact absurd (List.cons.inj texts).1 plain
  · exact absurd (List.cons.inj texts).1.symm plain'
  · exact ⟨rfl, by simpa using texts⟩

/-- What follows the sign tells the magnitude, unless it is not a number. -/
theorem fields_of_unsignedText (same : unsignedText p = unsignedText q) :
    (IsNaN p ∧ IsNaN q) ∨
      exponentField p = exponentField q ∧ fractionField p = fractionField q := by
  -- a word begins with a letter, and a decimal with a digit
  have word {b : Binary} {c : Char} {cs : List Char} (letter : c.isDigit = false) :
      sceneNumbers.text (shortest b) ≠ String.ofList (c :: cs) := fun same => by
    obtain ⟨c', cs', head, digit⟩ := startsWithDigit_text (shortest b)
    rw [same, String.toList_ofList] at head
    rw [(List.cons.inj head).1, digit] at letter
    cases letter
  rcases unsignedText_cases p with ⟨nan, text⟩ | ⟨infinite, fraction, text⟩ | ⟨b, finite, text⟩ <;>
    rcases unsignedText_cases q with
      ⟨nan', text'⟩ | ⟨infinite', fraction', text'⟩ | ⟨b', finite', text'⟩ <;>
    rw [text, text'] at same
  · exact Or.inl ⟨nan, nan'⟩
  · exact absurd same (by decide)
  · exact absurd same.symm (word (by decide))
  · exact absurd same (by decide)
  · rw [magnitude?_eq_none_iff] at infinite infinite'
    exact Or.inr ⟨infinite.trans infinite'.symm, fraction.trans fraction'.symm⟩
  · exact absurd same.symm (word (by decide))
  · exact absurd same (word (by decide))
  · exact absurd same (word (by decide))
  · -- the text of a decimal is read as its value, and the value tells the magnitude
    have values : (shortest b).value = (shortest b').value := by
      rw [← readDecimal_text, ← readDecimal_text, same]
    obtain rfl := eq_of_value_shortest (normalized_of_magnitude? finite)
      (normalized_of_magnitude? finite') values
    exact Or.inr (fields_of_magnitude? finite finite')

/-- Only what is not a number, and zeros, have a text without their sign. -/
theorem signed_eq (number : ¬ IsNaN p) (nonzero : ¬ IsZero p) : signed p = signBit p := by
  have shown : (match magnitude? p with
      | none => fractionField p == 0
      | some b => b.mantissa != 0) = true := by
    by_cases special : exponentField p = specialExponent
    · rw [magnitude?_eq_none_iff.2 special]
      exact beq_iff_eq.2 (not_not.1 fun fraction => number ⟨special, fraction⟩)
    by_cases zero : exponentField p = 0
    · rw [magnitude?_of_zero zero]
      exact bne_iff_ne.2 fun fraction => nonzero ⟨zero, fraction⟩
    · rw [magnitude?_of_pos special zero]
      simp [fractionBits]
  rw [signed, shown, Bool.and_true]

/-- Patterns with the same text: both are not numbers, both are zeros, or they are one pattern. -/
theorem sameText_cases (same : sceneNumbers.textOfBits p = sceneNumbers.textOfBits q) :
    (IsNaN p ∧ IsNaN q) ∨ (IsZero p ∧ IsZero q) ∨ p = q := by
  obtain ⟨sign, unsigned⟩ := sign_and_unsigned_of_eq same
  rcases fields_of_unsignedText unsigned with nan | ⟨exponent, fraction⟩
  · exact Or.inl nan
  have nan : IsNaN p ↔ IsNaN q := by rw [IsNaN, IsNaN, exponent, fraction]
  have zero : IsZero p ↔ IsZero q := by rw [IsZero, IsZero, exponent, fraction]
  by_cases hnan : IsNaN p
  · exact Or.inl ⟨hnan, nan.1 hnan⟩
  by_cases hzero : IsZero p
  · exact Or.inr (Or.inl ⟨hzero, zero.1 hzero⟩)
  rw [signed_eq hnan hzero, signed_eq (mt nan.2 hnan) (mt zero.2 hzero)] at sign
  exact Or.inr (Or.inr (eq_of_fields sign exponent fraction))

/-- The characters of the words. -/
def letters : List Char := ['N', 'a', 'I', 'n', 'f', 'i', 't', 'y']

theorem textOfBits_ne_empty (p : UInt64) : sceneNumbers.textOfBits p ≠ "" := by
  obtain ⟨c, cs, head, -⟩ := unsignedText_head p
  intro empty
  have chars := congrArg String.toList empty
  rw [textOfBits_eq, String.toList_append, head] at chars
  exact List.append_ne_nil_of_right_ne_nil _ (List.cons_ne_nil c cs) chars

theorem mem_textOfBits {c : Char} (h : c ∈ (sceneNumbers.textOfBits p).toList) :
    c.isDigit = true ∨ c ∈ marks ∨ c ∈ letters := by
  rw [textOfBits_eq, String.toList_append, List.mem_append] at h
  rcases h with h | h
  · refine Or.inr (Or.inl ?_)
    split at h
    · obtain rfl : c = '-' := by simpa using h
      decide
    · exact absurd h (by simp)
  rcases unsignedText_cases p with ⟨-, text⟩ | ⟨-, -, text⟩ | ⟨b, -, text⟩ <;> rw [text] at h
  · refine Or.inr (Or.inr ?_)
    simp only [String.reduceToList, List.mem_cons, List.not_mem_nil, or_false] at h
    rcases h with rfl | rfl | rfl <;> decide
  · refine Or.inr (Or.inr ?_)
    simp only [String.reduceToList, List.mem_cons, List.not_mem_nil, or_false] at h
    rcases h with rfl | rfl | rfl | rfl | rfl | rfl | rfl | rfl <;> decide
  · exact (mem_text h).imp_right Or.inl

end Texts

end SceneScript.Decimal
