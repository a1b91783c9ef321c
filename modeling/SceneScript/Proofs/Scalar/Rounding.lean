import SceneScript.Proofs.Scalar.DoubleText

/-!
# Natural numbers as doubles

The double made of a natural number is the nearest one, and of two equally near the even one: its
mantissa of 53 bits is the number shifted and rounded (`nearest`). A natural number that is a double is
not changed by this, and one from `2 ^ 1024 - 2 ^ 970` on becomes infinite.
-/

set_option autoImplicit false

namespace SceneScript.Rounding

open Float.Model Float.Model.UnpackedFloat Decimal DoubleEquality

/-! ## Rounding to a multiple of a power of two -/

/-- The multiple of `2 ^ s` nearest to `m`, in units of `2 ^ s`; of two equally near, the even one. -/
def nearest (m s : Nat) : Nat :=
  if 2 ^ s < 2 * (m % 2 ^ s) ∨ 2 * (m % 2 ^ s) = 2 ^ s ∧ m / 2 ^ s % 2 = 1 then m / 2 ^ s + 1
  else m / 2 ^ s

section Nearest

variable {m s k : Nat}

theorem le_nearest : m / 2 ^ s ≤ nearest m s := by
  rw [nearest]
  split <;> omega

theorem nearest_le : nearest m s ≤ m / 2 ^ s + 1 := by
  rw [nearest]
  split <;> omega

/-- A number that is a multiple is not changed. -/
theorem nearest_of_dvd (multiple : 2 ^ s ∣ m) : nearest m s = m / 2 ^ s := by
  have some : 0 < 2 ^ s := Nat.two_pow_pos s
  rw [nearest, Nat.mod_eq_zero_of_dvd multiple, if_neg (by omega)]

/-- Rounding does not depend on the unit in which numbers are given. -/
theorem nearest_mul_two_pow : nearest (m * 2 ^ k) (s + k) = nearest m s := by
  have some : 0 < 2 ^ k := Nat.two_pow_pos k
  have below (a b : Nat) : a * 2 ^ k < b * 2 ^ k ↔ a < b := Nat.mul_lt_mul_right some
  have equal (a b : Nat) : a * 2 ^ k = b * 2 ^ k ↔ a = b := Nat.mul_left_inj some.ne'
  rw [nearest, nearest, Nat.pow_add, Nat.mul_div_mul_right _ _ some, Nat.mul_mod_mul_right,
    ← Nat.mul_assoc]
  simp only [below, equal]

/-- The point from which numbers are rounded up to the next multiple, behind an odd one. -/
theorem nearest_eq_succ_iff {q : Nat} (odd : q % 2 = 1) (bounded : m / 2 ^ s ≤ q) :
    nearest m s = q + 1 ↔ (2 * q + 1) * 2 ^ s ≤ 2 * m := by
  have some : 0 < 2 ^ s := Nat.two_pow_pos s
  have parts : 2 ^ s * (m / 2 ^ s) + m % 2 ^ s = m := Nat.div_add_mod m (2 ^ s)
  have rest : m % 2 ^ s < 2 ^ s := Nat.mod_lt m some
  rw [nearest]
  generalize m % 2 ^ s = r at *
  generalize m / 2 ^ s = n at *
  generalize 2 ^ s = unit at *
  subst parts
  rcases bounded.lt_or_eq with less | rfl
  · have far : unit * (n + 1) ≤ unit * q := Nat.mul_le_mul_left unit less
    rw [Nat.mul_succ] at far
    have not : ¬ (2 * q + 1) * unit ≤ 2 * (unit * n + r) := by
      have product : (2 * q + 1) * unit = 2 * (unit * q) + unit := by ring
      omega
    refine iff_of_false ?_ not
    split <;> omega
  · have product : (2 * n + 1) * unit = 2 * (unit * n) + unit := by ring
    rw [product]
    split <;> omega

end Nearest

/-! ## Shifting and rounding a mantissa -/

/-- The bits that are shifted out are the one below the mantissa and all those below. -/
theorem shifted (m s : Nat) : (⟨m, false, false⟩ : ExtendedMantissa) >>> (s + 1) =
    ⟨m / 2 ^ (s + 1), m / 2 ^ s % 2 != 0, m % 2 ^ s != 0⟩ := by
  induction s with
  | zero =>
    change ExtendedMantissa.shiftRightOne ⟨m, false, false⟩ = _
    simp [ExtendedMantissa.shiftRightOne, Nat.mod_one]
  | succ s ih =>
    change ExtendedMantissa.shiftRightOne ((⟨m, false, false⟩ : ExtendedMantissa) >>> (s + 1)) = _
    rw [ih, ExtendedMantissa.shiftRightOne]
    have some : 0 < 2 ^ s := Nat.two_pow_pos s
    have bits : (m / 2 ^ s % 2 != 0 || m % 2 ^ s != 0) = (m % 2 ^ (s + 1) != 0) := by
      rw [Nat.mod_pow_succ, Bool.eq_iff_iff, Bool.or_eq_true, bne_iff_ne, bne_iff_ne, bne_iff_ne,
        Ne, Ne, Ne, Nat.add_eq_zero_iff, Nat.mul_eq_zero]
      omega
    rw [bits, Nat.div_div_eq_div_mul, ← Nat.pow_succ]

theorem roundedMantissa_shifted (m s : Nat) :
    ((⟨m, false, false⟩ : ExtendedMantissa) >>> s).roundedMantissa = nearest m s := by
  cases s with
  | zero =>
    rw [nearest_of_dvd (Nat.one_dvd m), Nat.pow_zero, Nat.div_one]
    rfl
  | succ s =>
    have some : 0 < 2 ^ s := Nat.two_pow_pos s
    have low : m % 2 ^ s < 2 ^ s := Nat.mod_lt m some
    have bit : m / 2 ^ s % 2 < 2 := Nat.mod_lt _ Nat.two_pos
    rw [shifted, nearest, Nat.mod_pow_succ, Nat.pow_succ 2 s]
    generalize m / (2 ^ s * 2) = q
    generalize m / 2 ^ s % 2 = b at *
    generalize m % 2 ^ s = r at *
    generalize 2 ^ s = unit at *
    obtain rfl | rfl : b = 0 ∨ b = 1 := by omega
    · -- the bit below the mantissa is not set
      have below : ¬ (unit * 2 < 2 * (r + unit * 0) ∨ 2 * (r + unit * 0) = unit * 2 ∧ q % 2 = 1) := by
        omega
      rw [if_neg below]
      cases r != 0 <;> rfl
    · by_cases none : r = 0
      · subst none
        -- half a unit is shifted out
        rw [Nat.zero_add, Nat.mul_one, Nat.mul_comm 2 unit]
        change q + q % 2 = _
        split <;> omega
      · have above : unit * 2 < 2 * (r + unit * 1) := by omega
        rw [if_pos (Or.inl above), bne_iff_ne.2 none]
        rfl

/-! ## The mantissa and the exponent of a natural number -/

/-- The least natural number that is infinite as a double. -/
def overflow : Nat := 2 ^ 1024 - 2 ^ 970

/-- The 53 leading bits of a natural number, rounded. -/
def leading (n : Nat) : Nat := nearest (n * 2 ^ 52) n.log2

/-- The mantissa of the double made of a natural number; one that became too long is halved. -/
def mantissaOf (n : Nat) : Nat := if leading n = 2 ^ 53 then 2 ^ 52 else leading n

/-- The exponent of the double made of a natural number. -/
def exponentOf (n : Nat) : Int := if leading n = 2 ^ 53 then n.log2 - 51 else n.log2 - 52

section Parts

variable {n : Nat}

theorem leading_bounds (some : n ≠ 0) : 2 ^ 52 ≤ leading n ∧ leading n ≤ 2 ^ 53 := by
  have power : 0 < 2 ^ n.log2 := Nat.two_pow_pos _
  have lower : 2 ^ 52 ≤ n * 2 ^ 52 / 2 ^ n.log2 := by
    rw [Nat.le_div_iff_mul_le power, Nat.mul_comm]
    exact Nat.mul_le_mul_right _ (Nat.log2_self_le some)
  have upper : n * 2 ^ 52 / 2 ^ n.log2 < 2 ^ 53 := by
    rw [Nat.div_lt_iff_lt_mul power]
    have less : n < 2 ^ (n.log2 + 1) := Nat.lt_log2_self
    rw [Nat.pow_succ] at less
    omega
  exact ⟨lower.trans le_nearest, nearest_le.trans upper⟩

theorem mantissaOf_bounds (some : n ≠ 0) : 2 ^ 52 ≤ mantissaOf n ∧ mantissaOf n < 2 ^ 53 := by
  have bounds := leading_bounds some
  rw [mantissaOf]
  split <;> omega

theorem exponentOf_ge (n : Nat) : -52 ≤ exponentOf n := by
  rw [exponentOf]
  split <;> omega

/-- A number whose leading 53 bits are all its bits is not rounded. -/
theorem parts_of_dvd (exact : 2 ^ n.log2 ∣ n * 2 ^ 52) :
    mantissaOf n * 2 ^ n.log2 = n * 2 ^ 52 ∧ exponentOf n = n.log2 - 52 := by
  have power : 0 < 2 ^ n.log2 := Nat.two_pow_pos _
  have short : leading n < 2 ^ 53 := by
    rw [leading, nearest_of_dvd exact, Nat.div_lt_iff_lt_mul power]
    have less : n < 2 ^ (n.log2 + 1) := Nat.lt_log2_self
    rw [Nat.pow_succ] at less
    omega
  rw [mantissaOf, exponentOf, if_neg short.ne, if_neg short.ne, leading, nearest_of_dvd exact]
  exact ⟨Nat.div_mul_cancel exact, rfl⟩

/-- So are all numbers of at most 53 bits. -/
theorem parts_of_small (some : n ≠ 0) (small : n < 2 ^ 53) :
    n.log2 ≤ 52 ∧ mantissaOf n = n * 2 ^ (52 - n.log2) ∧ exponentOf n = n.log2 - 52 := by
  have log : n.log2 ≤ 52 := Nat.le_of_lt_succ ((Nat.log2_lt some).2 small)
  have split : 2 ^ 52 = 2 ^ (52 - n.log2) * 2 ^ n.log2 := by
    rw [← Nat.pow_add, Nat.sub_add_cancel log]
  have exact : 2 ^ n.log2 ∣ n * 2 ^ 52 := (Nat.pow_dvd_pow 2 log).mul_left n
  obtain ⟨mantissa, exponent⟩ := parts_of_dvd exact
  refine ⟨log, Nat.eq_of_mul_eq_mul_right (Nat.two_pow_pos n.log2) ?_, exponent⟩
  rw [mantissa, Nat.mul_assoc, ← split]

theorem overflow_eq : overflow = (2 ^ 54 - 1) * 2 ^ 970 := by
  have top : (2 : Nat) ^ 1024 = 2 ^ 54 * 2 ^ 970 := by rw [← pow_add]
  rw [overflow, top, Nat.sub_mul, one_mul]

/-- Numbers below a power of two that is not too large. -/
theorem lt_overflow (k : Nat) (small : n < 2 ^ k) (bounded : k ≤ 53 + 970) : n < overflow := by
  have power : 2 ^ k ≤ 2 ^ (53 + 970) := pow_le_pow_right₀ one_le_two bounded
  rw [pow_add] at power
  rw [overflow_eq]
  generalize 2 ^ 970 = half at *
  omega

/-- The numbers that have an exponent as doubles. -/
theorem exponentOf_le_iff (some : n ≠ 0) : exponentOf n ≤ 971 ↔ n < overflow := by
  have bound (k : Nat) (less : n.log2 < k) : n < 2 ^ k := (Nat.log2_lt some).1 less
  have top : (2 : Nat) ^ 1024 = 2 ^ 54 * 2 ^ 970 := by rw [← pow_add]
  have unit : (2 : Nat) ^ 971 = 2 * 2 ^ 970 := by rw [← pow_succ']
  rw [exponentOf]
  rcases Nat.lt_trichotomy n.log2 1023 with less | last | more
  · refine iff_of_true ?_ (lt_overflow 1023 (bound 1023 less) le_rfl)
    split <;> omega
  · -- the last numbers are rounded up to the power of two that is too large
    have whole : leading n = nearest n 971 := by
      rw [leading, last]
      exact nearest_mul_two_pow
    have below : n / 2 ^ 971 ≤ 2 ^ 53 - 1 := by
      have less : n < 2 ^ 1024 := bound 1024 (by omega)
      rw [← Nat.lt_succ_iff, Nat.div_lt_iff_lt_mul (by positivity), unit]
      rw [top] at less
      generalize 2 ^ 970 = half at *
      omega
    have rounds := nearest_eq_succ_iff (by decide) below
    rw [show 2 ^ 53 - 1 + 1 = 2 ^ 53 from rfl, ← whole, unit] at rounds
    rw [last, overflow_eq]
    generalize 2 ^ 970 = half at *
    split <;> omega
  · have large : 2 ^ 1024 ≤ n := by
      have power (k : Nat) (more : k ≤ n.log2) : 2 ^ k ≤ n := (Nat.le_log2 some).1 more
      exact power 1024 more
    refine iff_of_false ?_ ?_
    · split <;> omega
    · rw [overflow_eq]
      rw [top] at large
      generalize 2 ^ 970 = half at *
      omega

/-- A mantissa is shifted to the exponent that its length asks for. -/
theorem shiftToTargetExponent_eq {m s : Nat} {e : Int}
    (target : Format.binary64.targetExponent (totalExponent m e) = e + s) :
    shiftToTargetExponent Format.binary64 m e .exact =
      ((⟨m, false, false⟩ : ExtendedMantissa) >>> s, e + s) := by
  have amount : (e + s - e).toNat = s := by omega
  simp only [shiftToTargetExponent, shiftToExponent, target, amount]
  rfl

/-- The first shift leaves 53 bits and those behind them. -/
theorem shiftToTargetExponent_mul_two_pow {k s : Nat} (some : n ≠ 0) (enough : n.log2 + k = 52 + s) :
    shiftToTargetExponent Format.binary64 (n * 2 ^ k) (-k) .exact =
      ((⟨n * 2 ^ k, false, false⟩ : ExtendedMantissa) >>> s, (n.log2 : Int) - 52) := by
  have log : (n * 2 ^ k).log2 = n.log2 + k := by
    rw [Nat.log2_eq_iff (Nat.mul_ne_zero some (Nat.two_pow_pos k).ne'), Nat.add_right_comm,
      Nat.pow_add, Nat.pow_add]
    exact ⟨Nat.mul_le_mul_right _ (Nat.log2_self_le some),
      Nat.mul_lt_mul_of_pos_right Nat.lt_log2_self (Nat.two_pow_pos k)⟩
  rw [shiftToTargetExponent_eq (s := s), show (n.log2 : Int) - 52 = -k + s by omega]
  simp only [Format.targetExponent, totalExponent, Format.mantissaBits, Format.minExponent, log]
  omega

theorem roundedMantissa_leading {k s : Nat} (enough : n.log2 + k = 52 + s) :
    ((⟨n * 2 ^ k, false, false⟩ : ExtendedMantissa) >>> s).roundedMantissa = leading n := by
  rw [roundedMantissa_shifted, leading]
  rcases Nat.le_total s n.log2 with less | more
  · obtain ⟨j, log⟩ := Nat.exists_eq_add_of_le less
    rw [show 52 = k + j by omega, Nat.pow_add, ← Nat.mul_assoc, log, nearest_mul_two_pow]
  · obtain ⟨j, rfl⟩ := Nat.exists_eq_add_of_le more
    rw [show k = 52 + j by omega, Nat.pow_add, ← Nat.mul_assoc, nearest_mul_two_pow]

/-- A mantissa of 53 bits stays, and one that became too long is halved. -/
theorem shiftToTargetExponent_leading (some : n ≠ 0) :
    shiftToTargetExponent Format.binary64 (leading n) ((n.log2 : Int) - 52) .exact =
      (⟨mantissaOf n, false, false⟩, exponentOf n) := by
  have bounds := leading_bounds some
  by_cases long : leading n = 2 ^ 53
  · rw [mantissaOf, exponentOf, if_pos long, if_pos long, long, shiftToTargetExponent_eq (s := 1),
      show (n.log2 : Int) - 51 = n.log2 - 52 + (1 : Nat) by omega]
    · rfl
    · simp only [Format.targetExponent, totalExponent, Format.mantissaBits, Format.minExponent,
        Nat.log2_two_pow]
      omega
  · have log : (leading n).log2 = 52 := by
      rw [Nat.log2_eq_iff (by omega)]
      omega
    rw [mantissaOf, exponentOf, if_neg long, if_neg long, shiftToTargetExponent_eq (s := 0)]
    · simp
      rfl
    · simp only [Format.targetExponent, totalExponent, Format.mantissaBits, Format.minExponent, log]
      omega

theorem roundWithAccuracy_mul_two_pow {k : Nat} (some : n ≠ 0) (enough : 52 ≤ n.log2 + k) :
    roundWithAccuracy Format.binary64 .positive (n * 2 ^ k) (-k) .exact =
      .finite .positive (mantissaOf n) (exponentOf n)
        (Nat.lt_of_lt_of_le (by decide) (mantissaOf_bounds some).1) := by
  obtain ⟨s, enough⟩ := Nat.exists_eq_add_of_le enough
  have pos : mantissaOf n ≠ 0 := by
    have := mantissaOf_bounds some
    omega
  simp only [roundWithAccuracy, shiftToTargetExponent_mul_two_pow some enough,
    roundedMantissa_leading enough, shiftToTargetExponent_leading some, dif_neg pos]

end Parts

/-! ## Patterns of values -/

section Packing

variable {sign : Sign} {m : Nat} {e : Int} {pos : 0 < m}

theorem unpackSign_packComponents {spec : Format} {exponent : BitVec spec.exponentBits}
    {mantissa : BitVec spec.mantissaBitsWithoutImplicit} :
    unpackSign (packComponents spec sign exponent mantissa) = sign.toBitVec := by
  ext i hi
  obtain rfl : i = 0 := by omega
  simp [unpackSign, packComponents, BitVec.getLsbD_append, BitVec.getElem_append]

theorem ofBitVec_toBitVec : Sign.ofBitVec sign.toBitVec = sign := by
  cases sign <;> rfl

theorem valueOf_pack_infinity : valueOf (.ofModel (.pack (.infinity sign))) = .infinity sign := by
  cases sign <;> rfl

/-- A value with an exponent that is too large becomes infinite. -/
theorem valueOf_pack_large (large : 972 ≤ e) :
    valueOf (.ofModel (.pack (.finite sign m e pos))) = .infinity sign := by
  have overflow : 2 ^ 11 ≤ (e + Format.binary64.exponentBias + (52 : Nat)).toNat + 1 := by
    have bias : (Format.binary64.exponentBias : Int) = 1023 := rfl
    omega
  have same : Float.Model.pack (.finite sign m e pos) = Float.Model.pack (.infinity sign) := by
    simp only [Float.Model.pack, UnpackedFloat.pack, overflow, if_true]
  rw [same, valueOf_pack_infinity]

/-- The value of a pattern with a mantissa of 53 bits. -/
theorem valueOf_pack_normal (long : 2 ^ 52 ≤ m) (bounded : m < 2 ^ 53) (low : -1074 ≤ e)
    (high : e ≤ 971) :
    valueOf (.ofModel (.pack (.finite sign m e pos))) = .finite sign m e pos := by
  have bias : (Format.binary64.exponentBias : Int) = 1023 := rfl
  have log : m.log2 = 52 := by
    rw [Nat.log2_eq_iff (by omega)]
    omega
  obtain ⟨stored, exponent⟩ : ∃ stored : Nat, e = stored - 1075 := ⟨(e + 1075).toNat, by omega⟩
  have biased : (e + Format.binary64.exponentBias + (52 : Nat)).toNat = stored := by omega
  have packed : UnpackedFloat.pack Format.binary64 (.finite sign m e pos) =
      packComponents Format.binary64 sign (BitVec.ofNat 11 stored) (BitVec.ofNat 52 m) := by
    simp only [UnpackedFloat.pack, biased, log]
    rw [if_neg (by omega)]
    rfl
  change UnpackedFloat.unpack Format.binary64 (UnpackedFloat.pack Format.binary64 _) = _
  rw [packed, UnpackedFloat.unpack]
  simp only [unpackMantissa_packComponents, unpackExponent_packComponents,
    unpackSign_packComponents, ofBitVec_toBitVec]
  have field : (BitVec.ofNat 11 stored).toNat = stored := by
    rw [BitVec.toNat_ofNat]
    omega
  have finite : BitVec.ofNat 11 stored ≠ -1#11 := by
    intro top
    rw [top] at field
    change 2047 = stored at field
    omega
  have normal : BitVec.ofNat 11 stored ≠ 0#11 := by
    intro bottom
    rw [bottom] at field
    change 0 = stored at field
    omega
  have mantissa : (1#1 ++ BitVec.ofNat 52 m).toNat = m := by
    rw [toNat_one_append, BitVec.toNat_ofNat]
    omega
  rw [if_neg finite, if_neg normal]
  simp only [field, mantissa, bias, exponent]
  congr 1

end Packing

/-! ## The value of a natural number -/

section Values

variable {n : Nat} {x : Float}

theorem valueOf_mul {y : Float} :
    valueOf (x * y) = valueOf (.ofModel (.pack (.mul .binary64 (valueOf x) (valueOf y)))) := rfl

theorem valueOf_neg : valueOf (Float.neg x) = valueOf (.ofModel (.pack (valueOf x).neg)) := rfl

/-- The value of a natural number before it is packed. -/
def rounded (n : Nat) : UnpackedFloat :=
  if some : n = 0 then .zero .positive
  else .finite .positive (mantissaOf n) (exponentOf n)
    (Nat.lt_of_lt_of_le (by decide) (mantissaOf_bounds some).1)

/-- A natural number of at most 53 bits that is brought to 53 bits. -/
theorem ofUInt64_eq_rounded (small : n < 2 ^ 53) :
    UnpackedFloat.ofUInt64 Format.binary64 n.toUInt64 = rounded n := by
  have word : n.toUInt64.toNat = n := by
    rw [Nat.toUInt64, UInt64.toNat_ofNat']
    omega
  rw [UnpackedFloat.ofUInt64, UnpackedFloat.ofNat, UnpackedFloat.ofInt, UnpackedFloat.normalize,
    word, rounded]
  by_cases none : n = 0
  · subst none
    rfl
  · have positive : compare (n : Int) 0 = .gt := by
      rw [Int.compare_eq_gt]
      omega
    have log : n.log2 ≤ 52 := (parts_of_small none small).1
    rw [positive, dif_neg none]
    have target : Format.binary64.targetExponent (totalExponent n 0) = (n.log2 : Int) - 52 := by
      simp only [Format.targetExponent, totalExponent, Format.mantissaBits, Format.minExponent]
      omega
    simp only [UnpackedFloat.round, Int.toNat_natCast, target, decreaseExponent,
      Nat.shiftLeft_eq, Int.zero_sub]
    exact roundWithAccuracy_mul_two_pow none (by omega)

theorem valueOf_rounded (some : n ≠ 0) (bounded : exponentOf n ≤ 971) :
    valueOf (.ofModel (.pack (rounded n))) = rounded n := by
  have bounds := mantissaOf_bounds some
  rw [rounded, dif_neg some]
  have low := exponentOf_ge n
  exact valueOf_pack_normal bounds.1 bounds.2 (by omega) bounded

/-- A number with 53 bits that is multiplied by one. -/
theorem mul_one_rounded (small : n < 2 ^ 53) (pos : 0 < 2 ^ 52) :
    UnpackedFloat.mul Format.binary64 (rounded n) (.finite .positive (2 ^ 52) (-52) pos) =
      rounded n := by
  rw [rounded]
  split
  · rfl
  · rename_i some
    obtain ⟨log, mantissa, exponent⟩ := parts_of_small some small
    have bits : mantissaOf n * 2 ^ 52 = n * 2 ^ (104 - n.log2) := by
      rw [mantissa, Nat.mul_assoc, ← Nat.pow_add, show 52 - n.log2 + 52 = 104 - n.log2 by omega]
    have power : exponentOf n + -52 = -((104 - n.log2 : Nat) : Int) := by omega
    rw [UnpackedFloat.mul, bits, power]
    exact roundWithAccuracy_mul_two_pow some (by omega)

/-- A number with more bits, which is read like a decimal. -/
theorem ofScientific_eq_rounded (some : n ≠ 0) :
    UnpackedFloat.ofScientific Format.binary64 n 0 = rounded n := by
  have power : ((n <<< Format.binary64.mantissaBits) * 10 ^ (0 : Int).toNat) = n * 2 ^ 53 := by
    rw [Nat.shiftLeft_eq]
    exact Nat.mul_one _
  have large : ¬ (0 : Int) < -((2 : Int) ^ 11 + n.log2) := by omega
  rw [UnpackedFloat.ofScientific, dif_neg some, if_neg (by decide), if_neg large,
    if_pos (by decide), UnpackedFloat.mul, power, rounded, dif_neg some]
  exact roundWithAccuracy_mul_two_pow some (by omega)

theorem valueOf_ofNat (n : Nat) : valueOf (Float.ofNat n) = valueOf (.ofModel (.pack (rounded n))) := by
  change valueOf (Float.ofScientific n false 0) = _
  rw [Float.ofScientific]
  by_cases small : n < 2 ^ 53
  · rw [dif_pos ⟨small, by decide⟩]
    change valueOf (n.toUInt64.toFloat * Float.ofBits 0x3FF0000000000000) = _
    have value : valueOf n.toUInt64.toFloat = rounded n := by
      change valueOf (.ofModel (.pack (UnpackedFloat.ofUInt64 Format.binary64 n.toUInt64))) = _
      rw [ofUInt64_eq_rounded small]
      by_cases none : n = 0
      · subst none
        rfl
      · obtain ⟨log, -, exponent⟩ := parts_of_small none small
        exact valueOf_rounded none (by omega)
    have one : valueOf (Float.ofBits 0x3FF0000000000000) =
        .finite .positive (2 ^ 52) (-52) (by decide) := rfl
    rw [valueOf_mul, value, one, mul_one_rounded small]
  · rw [dif_neg fun fast => small fast.1]
    change valueOf (.ofModel (.pack (UnpackedFloat.ofScientific Format.binary64 n 0))) = _
    rw [ofScientific_eq_rounded (by omega)]

end Values

/-! ## With a sign -/

/-- A natural number with a sign, as a double. -/
def signed : Sign → Nat → Float
  | .positive, n => Float.ofNat n
  | .negative, n => Float.neg (Float.ofNat n)

section Signed

variable {sign : Sign} {n : Nat}

theorem valueOf_signed_zero : valueOf (signed sign 0) = .zero sign := by
  cases sign <;> rfl

theorem valueOf_signed (some : n ≠ 0) (bounded : exponentOf n ≤ 971) :
    valueOf (signed sign n) = .finite sign (mantissaOf n) (exponentOf n)
      (Nat.lt_of_lt_of_le (by decide) (mantissaOf_bounds some).1) := by
  have value : valueOf (Float.ofNat n) = rounded n :=
    (valueOf_ofNat n).trans (valueOf_rounded some bounded)
  rw [rounded, dif_neg some] at value
  cases sign with
  | positive => exact value
  | negative =>
    have bounds := mantissaOf_bounds some
    rw [signed, valueOf_neg, value]
    have low := exponentOf_ge n
    exact valueOf_pack_normal bounds.1 bounds.2 (by omega) bounded

theorem valueOf_signed_large (large : 972 ≤ exponentOf n) :
    valueOf (signed sign n) = .infinity sign := by
  have some : n ≠ 0 := by
    rintro rfl
    exact absurd large (by decide +kernel)
  have value : valueOf (Float.ofNat n) = .infinity .positive := by
    rw [valueOf_ofNat, rounded, dif_neg some, valueOf_pack_large large]
  cases sign with
  | positive => exact value
  | negative =>
    rw [signed, valueOf_neg, value]
    exact valueOf_pack_infinity

end Signed

/-! ## Reading doubles -/

section Reading

variable {x : Float} {sign : Sign} {m : Nat} {e : Int} {pos : 0 < m}

theorem unpackSign_toNat {b : BitVec Format.binary64.numBits} (p : UInt64) (pattern : p.toBitVec = b) :
    (unpackSign b).toNat = p.toNat / 2 ^ 63 := by
  subst pattern
  have bounded := p.toNat_lt
  change p.toNat >>> 63 % 2 = p.toNat / 2 ^ 63
  rw [Nat.shiftRight_eq_div_pow]
  omega

theorem ofBitVec_unpackSign {b : BitVec Format.binary64.numBits} (p : UInt64)
    (pattern : p.toBitVec = b) :
    Sign.ofBitVec (unpackSign b) = if signBit p then .negative else .positive := by
  have field := unpackSign_toNat p pattern
  have bit : (unpackSign b).toNat < 2 := (unpackSign b).isLt
  rw [signBit, twoPow_eq, ← field]
  rcases zero : (unpackSign b).toNat with _ | _ | more
  · rw [BitVec.eq_of_toNat_eq (y := 0#1) zero]
    rfl
  · rw [BitVec.eq_of_toNat_eq (y := 1#1) zero]
    rfl
  · omega

/-- The fields of a pattern, from its value. -/
theorem fields_eq (x : Float) : fieldsOf (valueOf x) =
    (if signBit x.toBits then .negative else .positive, exponentField x.toBits,
      fractionField x.toBits) := by
  have exponent := DoubleText.unpackExponent_toNat x.toBits rfl
  have mantissa := DoubleText.unpackMantissa_toNat x.toBits rfl
  rw [← ofBitVec_unpackSign x.toBits rfl, ← exponent, ← mantissa]
  exact fieldsOf_unpack x.toModel.valid

/-- Infinities, and what is not a number, have no magnitude. -/
theorem magnitude?_of_special {v : UnpackedFloat} (value : valueOf x = v)
    (special : (fieldsOf v).2.1 = specialExponent) : magnitude? x.toBits = none := by
  rw [← value, fields_eq] at special
  exact magnitude?_eq_none_iff.2 special

theorem magnitude?_of_zero (value : valueOf x = .zero sign) :
    magnitude? x.toBits = some ⟨0, -1074, false⟩ := by
  have fields := fields_eq x
  rw [value, fieldsOf, Prod.mk.injEq, Prod.mk.injEq] at fields
  rw [Decimal.magnitude?_of_zero fields.2.1.symm, ← fields.2.2]

theorem magnitude?_of_finite (value : valueOf x = .finite sign m e pos) (long : 2 ^ 52 ≤ m)
    (low : -1074 ≤ e) (high : e ≤ 971) : ∃ gap, magnitude? x.toBits = some ⟨m, e, gap⟩ ∧
      signBit x.toBits = (sign == .negative) := by
  have fields := fields_eq x
  rw [value, fieldsOf, if_neg (Nat.not_lt.2 long), Prod.mk.injEq, Prod.mk.injEq] at fields
  obtain ⟨signs, exponent, fraction⟩ := fields
  have finite : exponentField x.toBits ≠ specialExponent := by
    rw [specialExponent]
    omega
  have normal : exponentField x.toBits ≠ 0 := by omega
  have mantissa : twoPow fractionBits + fractionField x.toBits = m := by
    rw [twoPow_eq, fractionBits]
    omega
  have power : (exponentField x.toBits : Int) - 1075 = e := by omega
  refine ⟨_, by rw [magnitude?_of_pos finite normal, mantissa, power], ?_⟩
  rw [signs]
  cases signBit x.toBits <;> rfl

end Reading

/-! ## Whole doubles -/

section Whole

variable {sign : Sign} {n : Nat} {b : Binary}

theorem exponent_le_of_magnitude? {p : UInt64} (read : magnitude? p = some b) : b.exponent ≤ 971 := by
  have field : exponentField p < 2048 := Nat.mod_lt _ (by decide)
  have finite : exponentField p ≠ specialExponent := fun special => by
    rw [magnitude?_eq_none_iff.2 special] at read
    cases read
  rw [specialExponent] at finite
  by_cases zero : exponentField p = 0
  · obtain rfl := Option.some.inj ((Decimal.magnitude?_of_zero zero).symm.trans read)
    exact (by decide : (-1074 : Int) ≤ 971)
  · obtain rfl := Option.some.inj ((magnitude?_of_pos finite zero).symm.trans read)
    dsimp only
    omega

theorem whole_of_exponent {e : Nat} (exponent : b.exponent = e) : b.whole = b.mantissa * 2 ^ e := by
  have below : (-(e : Int)).toNat = 0 := by omega
  rw [Binary.whole, twoPow_eq, twoPow_eq, exponent, Int.toNat_natCast, below, pow_zero, Nat.div_one]

theorem whole_of_neg_exponent {e : Nat} (exponent : b.exponent = -e) :
    b.whole = b.mantissa / 2 ^ e := by
  have above : (-(e : Int)).toNat = 0 := by omega
  rw [Binary.whole, twoPow_eq, twoPow_eq, exponent, above, neg_neg, Int.toNat_natCast, pow_zero,
    Nat.mul_one]

/-- All bits of a multiple of a power of two are among the 53 leading ones, if the factor is short. -/
theorem dvd_of_short {m e : Nat} (some : m * 2 ^ e ≠ 0) (short : m < 2 ^ 53) :
    2 ^ (m * 2 ^ e).log2 ∣ m * 2 ^ e * 2 ^ 52 := by
  have bound : m * 2 ^ e < 2 ^ (53 + e) := by
    rw [pow_add]
    exact Nat.mul_lt_mul_of_pos_right short (by positivity)
  have log : (m * 2 ^ e).log2 ≤ e + 52 := by
    have less := (Nat.log2_lt some).2 bound
    omega
  rw [Nat.mul_assoc, ← pow_add]
  exact (pow_dvd_pow 2 log).mul_left m

theorem mul_lt_overflow {m e : Nat} (short : m < 2 ^ 53) (reach : e ≤ 971) :
    m * 2 ^ e < overflow := by
  have scale : 2 ^ e ≤ 2 ^ (1 + 970) := pow_le_pow_right₀ one_le_two reach
  have bound : m * 2 ^ e ≤ (2 ^ 53 - 1) * 2 ^ (1 + 970) := Nat.mul_le_mul (by omega) scale
  have half : 0 < 2 ^ 970 := by positivity
  rw [pow_add] at bound
  rw [overflow_eq]
  -- the powers are too large for arithmetic on literals
  generalize m * 2 ^ e = n at *
  generalize 2 ^ 970 = half at *
  omega

/-- If a natural number is a double, all its bits are among the 53 leading ones. -/
theorem dvd_of_whole {p : UInt64} (read : magnitude? p = some b) (some : b.whole ≠ 0) :
    2 ^ b.whole.log2 ∣ b.whole * 2 ^ 52 ∧ b.whole < overflow := by
  have short := (normalized_of_magnitude? read).mantissa_lt
  have high := exponent_le_of_magnitude? read
  rcases le_total 0 b.exponent with positive | negative
  · obtain ⟨e, exponent⟩ := Int.eq_ofNat_of_zero_le positive
    rw [whole_of_exponent exponent] at some ⊢
    exact ⟨dvd_of_short some short, mul_lt_overflow short (by omega)⟩
  · obtain ⟨e, exponent⟩ := Int.exists_eq_neg_ofNat negative
    have bound : b.whole < 2 ^ 53 := by
      rw [whole_of_neg_exponent exponent]
      exact (Nat.div_le_self _ _).trans_lt short
    exact ⟨(pow_dvd_pow 2 (parts_of_small some bound).1).mul_left _,
      lt_overflow 53 bound (by decide)⟩

/-- A natural number whose bits are among the 53 leading ones is read as it is. -/
theorem whole_of_dvd {gap : Bool} (some : n ≠ 0) (exact : 2 ^ n.log2 ∣ n * 2 ^ 52) :
    (⟨mantissaOf n, exponentOf n, gap⟩ : Binary).whole = n := by
  obtain ⟨mantissa, exponent⟩ := parts_of_dvd exact
  rcases Nat.le_total 52 n.log2 with long | short
  · obtain ⟨e, log⟩ := Nat.exists_eq_add_of_le long
    rw [log, Nat.pow_add, Nat.mul_comm (2 ^ 52), ← Nat.mul_assoc] at mantissa
    rw [whole_of_exponent (e := e) (exponent.trans (by omega))]
    exact Nat.eq_of_mul_eq_mul_right (Nat.two_pow_pos 52) mantissa
  · obtain ⟨e, log⟩ := Nat.exists_eq_add_of_le short
    have small : n < 2 ^ 53 := (Nat.log2_lt some).1 (by omega)
    rw [whole_of_neg_exponent (e := e) (exponent.trans (by omega))]
    dsimp only
    rw [(parts_of_small some small).2.1, show 52 - n.log2 = e by omega]
    exact Nat.mul_div_cancel _ (Nat.two_pow_pos e)

/-- The double made of a natural number has no fraction. -/
theorem isWhole_parts {gap : Bool} (some : n ≠ 0) :
    (⟨mantissaOf n, exponentOf n, gap⟩ : Binary).isWhole = true := by
  rw [Binary.isWhole, Bool.or_eq_true, decide_eq_true_eq, twoPow_eq]
  dsimp only
  by_cases positive : 0 ≤ exponentOf n
  · exact Or.inl positive
  · have log : n.log2 < 52 := by
      rw [exponentOf] at positive
      split at positive <;> omega
    obtain ⟨-, mantissa, exponent⟩ := parts_of_small some ((Nat.log2_lt some).1 (by omega))
    rw [mantissa, exponent, show (-((n.log2 : Int) - 52)).toNat = 52 - n.log2 by omega,
      Nat.mul_mod_left]
    exact Or.inr rfl

theorem isNaN_of_isWhole {x : Float} (whole : Scalar.isWhole x = true) : Scalar.isNaN x = false := by
  rw [Bool.eq_false_iff]
  intro nan
  change Float.isNaN x = true at nan
  change doubleIsWhole x = true at whole
  rw [doubleIsWhole, magnitude?_of_special (valueOf_eq_of_isNaN nan) rfl] at whole
  exact nomatch whole

/-- The double made of an integer is finite up to a limit, and has no fraction. -/
theorem isWhole_signed : Scalar.isWhole (signed sign n) = true ↔ n < overflow := by
  change doubleIsWhole (signed sign n) = true ↔ _
  rw [doubleIsWhole]
  by_cases none : n = 0
  · subst none
    rw [magnitude?_of_zero valueOf_signed_zero]
    have whole : (⟨0, -1074, false⟩ : Binary).isWhole = true := by
      rw [Binary.isWhole, Nat.zero_mod, beq_self_eq_true, Bool.or_true]
    exact iff_of_true whole (lt_overflow 0 Nat.one_pos (by decide))
  · rw [← exponentOf_le_iff none]
    have low := exponentOf_ge n
    by_cases bounded : exponentOf n ≤ 971
    · obtain ⟨gap, read, -⟩ := magnitude?_of_finite (valueOf_signed none bounded)
        (mantissaOf_bounds none).1 (by omega) bounded
      rw [read]
      exact iff_of_true (isWhole_parts none) bounded
    · rw [magnitude?_of_special (valueOf_signed_large (by omega)) rfl]
      exact iff_of_false nofun bounded

/-- An integer that is a double is finite, and it is read as it is. -/
theorem wholePart?_signed {y : Float} (same : Scalar.wholePart? y = some (sign.apply n)) :
    n < overflow ∧ Scalar.wholePart? (signed sign n) = some (sign.apply n) := by
  change doubleWholePart? y = some (sign.apply n) at same
  change n < overflow ∧ doubleWholePart? (signed sign n) = some (sign.apply n)
  rw [doubleWholePart?, Option.map_eq_some_iff] at same
  obtain ⟨b, read, value⟩ := same
  rw [doubleWholePart?]
  by_cases none : n = 0
  · subst none
    have zero : (⟨0, -1074, false⟩ : Binary).whole = 0 := by
      rw [Binary.whole, Nat.zero_mul, Nat.zero_div]
    refine ⟨lt_overflow 0 Nat.one_pos (by decide), ?_⟩
    rw [magnitude?_of_zero valueOf_signed_zero, Option.map_some, zero]
    cases sign <;> simp [Sign.apply]
  · have whole : b.whole = n := by
      cases sign <;> rw [Sign.apply] at value <;> split at value <;> omega
    obtain ⟨exact, bounded⟩ := dvd_of_whole read (whole ▸ none)
    rw [whole] at exact bounded
    have low := exponentOf_ge n
    have high := (exponentOf_le_iff none).2 bounded
    have finite : valueOf (signed sign n) = .finite sign _ _ _ := valueOf_signed none high
    obtain ⟨gap, found, negative⟩ := magnitude?_of_finite finite (mantissaOf_bounds none).1
      (by omega) high
    refine ⟨bounded, ?_⟩
    rw [found, Option.map_some, whole_of_dvd none exact, negative]
    cases sign <;> rfl

end Whole

end SceneScript.Rounding
