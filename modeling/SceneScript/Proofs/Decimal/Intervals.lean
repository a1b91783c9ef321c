import Mathlib.Algebra.Order.Field.Power
import Mathlib.Data.Rat.Cast.Order
import Mathlib.Tactic.Linarith
import Mathlib.Tactic.NormNum
import Mathlib.Tactic.Ring
import SceneScript.Decimal.Shortest

/-!
# Rounding intervals

Each binary64 magnitude has an interval of the numbers that round to it. The intervals of two
magnitudes meet in an end at most, and that end belongs to the one with the even mantissa only, so
no number lies in both (`eq_of_covers`).

The bounds are `Binary.lower` and `Binary.upper`, exact rational numbers. That they separate
magnitudes needs what is true of the magnitudes of patterns (`Binary.Normalized`): only those with
the least exponent have a mantissa below `2 ^ 52`.
-/

set_option autoImplicit false

namespace SceneScript.Decimal

@[simp] theorem twoPow_eq (n : Nat) : twoPow n = 2 ^ n := rfl

@[simp] theorem tenPow_eq (n : Nat) : tenPow n = 10 ^ n := rfl

namespace Binary

/-! ## Magnitudes of patterns -/

/-- What is true of the magnitude of a pattern: its mantissa fits, and is as large as can be unless
the exponent is the least one. -/
structure Normalized (b : Binary) : Prop where
  mantissa_lt : b.mantissa < 2 ^ 53
  exponent_ge : -1074 ≤ b.exponent
  le_mantissa : -1074 < b.exponent → 2 ^ 52 ≤ b.mantissa
  gap : b.lowerGapHalf = true ↔ b.mantissa = 2 ^ 52 ∧ -1074 < b.exponent

/-- A magnitude is known from its mantissa and its exponent. -/
theorem Normalized.ext {b b' : Binary} (normal : b.Normalized) (normal' : b'.Normalized)
    (mantissa : b.mantissa = b'.mantissa) (exponent : b.exponent = b'.exponent) : b = b' := by
  have gaps : b.lowerGapHalf = b'.lowerGapHalf := by
    rw [Bool.eq_iff_iff, normal.gap, normal'.gap, mantissa, exponent]
  cases b
  cases b'
  simp_all

/-! ## Ends of the interval -/

/-- The lower end of the interval of a magnitude. -/
def lower (b : Binary) : ℚ :=
  (b.mantissa - if b.lowerGapHalf then 1 / 4 else 1 / 2) * 2 ^ b.exponent

/-- The upper end of the interval of a magnitude. -/
def upper (b : Binary) : ℚ := (b.mantissa + 1 / 2) * 2 ^ b.exponent

/-- The order of magnitudes: by exponent, then by mantissa. -/
def Before (b b' : Binary) : Prop :=
  b.exponent < b'.exponent ∨ b.exponent = b'.exponent ∧ b.mantissa < b'.mantissa

variable {b b' : Binary}

theorem before_or_before (normal : b.Normalized) (normal' : b'.Normalized) (other : b ≠ b') :
    b.Before b' ∨ b'.Before b := by
  have distinct : ¬ (b.mantissa = b'.mantissa ∧ b.exponent = b'.exponent) :=
    fun same => other (normal.ext normal' same.1 same.2)
  unfold Before
  omega

/-- Above a magnitude with the same exponent, the gap below is a whole one. -/
theorem lower_of_same_exponent (normal : b.Normalized) (normal' : b'.Normalized)
    (exponent : b.exponent = b'.exponent) (mantissa : b.mantissa < b'.mantissa) :
    b'.lower = (b'.mantissa - 1 / 2) * 2 ^ b.exponent := by
  have whole : b'.lowerGapHalf ≠ true := fun half => by
    obtain ⟨least, above⟩ := normal'.gap.1 half
    have := normal.le_mantissa (exponent ▸ above)
    omega
  rw [lower, if_neg whole, exponent]

/-- The lower end of a magnitude with a larger exponent: at least that of a power of two, in units
of half its exponent. -/
theorem le_lower_of_exponent_lt (normal : b.Normalized) (normal' : b'.Normalized)
    (exponent : b.exponent < b'.exponent) :
    (2 ^ 53 - 1 / 2 : ℚ) * 2 ^ b.exponent ≤ b'.lower := by
  have above : -1074 < b'.exponent := lt_of_le_of_lt normal.exponent_ge exponent
  have large := normal'.le_mantissa above
  -- only a power of two has the narrow gap; any other mantissa is larger by one at least
  have quarter : (2 ^ 52 - 1 / 4 : ℚ) ≤ b'.mantissa - if b'.lowerGapHalf then 1 / 4 else 1 / 2 := by
    split
    · have : ((2 ^ 52 : ℕ) : ℚ) ≤ b'.mantissa := by exact_mod_cast large
      push_cast at this
      linarith
    · rename_i whole
      have beyond : 2 ^ 52 + 1 ≤ b'.mantissa := by
        have : b'.mantissa ≠ 2 ^ 52 := fun least => whole (normal'.gap.2 ⟨least, above⟩)
        omega
      have : ((2 ^ 52 + 1 : ℕ) : ℚ) ≤ b'.mantissa := by exact_mod_cast beyond
      push_cast at this
      linarith
  calc (2 ^ 53 - 1 / 2 : ℚ) * 2 ^ b.exponent
      = (2 ^ 52 - 1 / 4) * 2 ^ (b.exponent + 1) := by
        rw [zpow_add_one₀ (by norm_num)]
        ring
    _ ≤ (2 ^ 52 - 1 / 4) * 2 ^ b'.exponent := by
        have := zpow_le_zpow_right₀ (by norm_num : (1 : ℚ) ≤ 2) (Int.add_one_le_of_lt exponent)
        exact mul_le_mul_of_nonneg_left this (by norm_num)
    _ ≤ b'.lower :=
        mul_le_mul_of_nonneg_right quarter (zpow_nonneg (by norm_num) _)

/-- A magnitude ends before a later one begins. -/
theorem upper_le_lower (normal : b.Normalized) (normal' : b'.Normalized) (before : b.Before b') :
    b.upper ≤ b'.lower := by
  have unit : (0 : ℚ) ≤ 2 ^ b.exponent := zpow_nonneg (by norm_num) _
  rcases before with exponent | ⟨exponent, mantissa⟩
  · refine le_trans ?_ (le_lower_of_exponent_lt normal normal' exponent)
    have small : ((b.mantissa + 1 : ℕ) : ℚ) ≤ (2 ^ 53 : ℕ) := by exact_mod_cast normal.mantissa_lt
    push_cast at small
    exact mul_le_mul_of_nonneg_right (by linarith) unit
  · rw [lower_of_same_exponent normal normal' exponent mantissa]
    have next : ((b.mantissa + 1 : ℕ) : ℚ) ≤ b'.mantissa := by exact_mod_cast mantissa
    push_cast at next
    exact mul_le_mul_of_nonneg_right (by linarith) unit

/-- Of two magnitudes whose intervals have an end in common, one has an odd mantissa. -/
theorem upper_lt_lower (normal : b.Normalized) (normal' : b'.Normalized) (before : b.Before b')
    (even : b.mantissa % 2 = 0) (even' : b'.mantissa % 2 = 0) : b.upper < b'.lower := by
  have unit : (0 : ℚ) < 2 ^ b.exponent := zpow_pos (by norm_num) _
  rcases before with exponent | ⟨exponent, mantissa⟩
  · refine lt_of_lt_of_le ?_ (le_lower_of_exponent_lt normal normal' exponent)
    have step : b.mantissa + 2 ≤ 2 ^ 53 := by have := normal.mantissa_lt; omega
    have small : ((b.mantissa + 2 : ℕ) : ℚ) ≤ (2 ^ 53 : ℕ) := by exact_mod_cast step
    push_cast at small
    exact mul_lt_mul_of_pos_right (by linarith) unit
  · rw [lower_of_same_exponent normal normal' exponent mantissa]
    have step : b.mantissa + 2 ≤ b'.mantissa := by omega
    have next : ((b.mantissa + 2 : ℕ) : ℚ) ≤ b'.mantissa := by exact_mod_cast step
    push_cast at next
    exact mul_lt_mul_of_pos_right (by linarith) unit

/-! ## Numbers in the interval -/

/-- The number rounds to the magnitude: it lies between the ends, and at an end only when the
mantissa is even. -/
structure Covers (b : Binary) (q : ℚ) : Prop where
  lower_le : b.lower ≤ q
  le_upper : q ≤ b.upper
  even_of_lower_eq : b.lower = q → b.mantissa % 2 = 0
  even_of_eq_upper : q = b.upper → b.mantissa % 2 = 0

theorem not_covers_of_before {q : ℚ} (normal : b.Normalized) (normal' : b'.Normalized)
    (before : b.Before b') (covers : b.Covers q) : ¬ b'.Covers q := by
  intro covers'
  -- the number could only be an end of both intervals, which have no common one with even mantissas
  have apart := upper_le_lower normal normal' before
  have atEnd : q = b.upper := le_antisymm covers.le_upper (apart.trans covers'.lower_le)
  have atEnd' : b'.lower = q := le_antisymm covers'.lower_le (covers.le_upper.trans apart)
  have strict := upper_lt_lower normal normal' before (covers.even_of_eq_upper atEnd)
    (covers'.even_of_lower_eq atEnd')
  exact absurd (atEnd'.trans atEnd) strict.ne'

/-- A number rounds to one magnitude only. -/
theorem eq_of_covers {q : ℚ} (normal : b.Normalized) (normal' : b'.Normalized)
    (covers : b.Covers q) (covers' : b'.Covers q) : b = b' := by
  by_contra other
  rcases before_or_before normal normal' other with before | before
  · exact not_covers_of_before normal normal' before covers covers'
  · exact not_covers_of_before normal' normal before covers' covers

end Binary

end SceneScript.Decimal
