import Mathlib.Tactic.LinearCombination
import Mathlib.Tactic.Positivity
import SceneScript.Proofs.Decimal.Intervals
import SceneScript.Proofs.Decimal.Reading

/-!
# The shortest decimal lies in the interval

The search for a shortest decimal finds one: the grid of seventeen digits is finer than the interval
of a magnitude is wide, so one of the two neighbours of the magnitude on it lies in the interval
(`exists_onGrid`, `grid_lt_interval`). What the search finds on any grid lies in the interval, and
removing its trailing zeros does not change it. The shortest decimal of a magnitude therefore rounds
to the magnitude (`covers_shortest`), and magnitudes with the same shortest decimal are the same
(`eq_of_value_shortest`).
-/

set_option autoImplicit false

namespace SceneScript.Decimal

/-- A power with an integer exponent, by natural ones. -/
theorem pow_toNat {base : ℚ} (nonzero : base ≠ 0) (k : ℤ) :
    base ^ k.toNat = base ^ k * base ^ (-k).toNat := by
  rw [← zpow_natCast, ← zpow_natCast, ← zpow_add₀ nonzero]
  congr 1
  omega

/-! ## From quotients of natural numbers to the interval -/

namespace Binary

variable {b : Binary} {n d : Nat}

theorem unit_pos (b : Binary) : 0 < b.interval.unit := Nat.pow_pos (by decide)

theorem closed_iff : b.interval.closed = true ↔ b.mantissa % 2 = 0 := by
  simp [interval]

/-- The scale of an interval is a quarter of the gap between magnitudes, in units. -/
theorem scale_eq (b : Binary) :
    (twoPow (b.exponent - 2).toNat : ℚ) * 4 = 2 ^ b.exponent * b.interval.unit := by
  have quarter : (2 : ℚ) ^ b.exponent = 2 ^ (b.exponent - 2) * 4 := by
    rw [zpow_sub₀ (by norm_num)]
    norm_num
  have powers := pow_toNat (by norm_num : (2 : ℚ) ≠ 0) (b.exponent - 2)
  simp only [interval, twoPow_eq]
  push_cast
  rw [powers, quarter]
  ring

theorem upper_mul_unit (b : Binary) : b.upper * b.interval.unit = b.interval.high := by
  have scale := b.scale_eq
  simp only [upper, interval] at scale ⊢
  push_cast at scale ⊢
  linear_combination (-(b.mantissa : ℚ) - 1 / 2) * scale

theorem lower_mul_unit_le (b : Binary) : b.lower * b.interval.unit ≤ b.interval.low := by
  have scale := b.scale_eq
  have quarters : b.lower * b.interval.unit =
      (4 * b.mantissa - ((if b.lowerGapHalf then 1 else 2 : ℕ) : ℚ)) *
        twoPow (b.exponent - 2).toNat := by
    unfold lower
    split
    · push_cast
      linear_combination (-(b.mantissa : ℚ) + 1 / 4) * scale
    · push_cast
      linear_combination (-(b.mantissa : ℚ) + 1 / 2) * scale
  rw [quarters]
  simp only [interval]
  push_cast
  refine mul_le_mul_of_nonneg_right ?_ (by positivity)
  rw [sub_le_iff_le_add]
  exact_mod_cast le_tsub_add

theorem unit_pos_rat (b : Binary) : (0 : ℚ) < b.interval.unit := by exact_mod_cast b.unit_pos

/-- The lower end in units, by a denominator. -/
theorem lower_mul_le (b : Binary) (d : Nat) :
    b.lower * d * b.interval.unit ≤ (b.interval.low * d : ℕ) := by
  push_cast
  calc b.lower * d * b.interval.unit = b.lower * b.interval.unit * d := by ring
    _ ≤ b.interval.low * d := mul_le_mul_of_nonneg_right b.lower_mul_unit_le (Nat.cast_nonneg d)

/-- The upper end in units, by a denominator. -/
theorem upper_mul_eq (b : Binary) (d : Nat) :
    b.upper * d * b.interval.unit = (b.interval.high * d : ℕ) := by
  push_cast
  rw [← upper_mul_unit]
  ring

theorem lower_le_div (pos : 0 < d) (h : b.interval.low * d ≤ n * b.interval.unit) :
    b.lower ≤ n / d := by
  rw [le_div_iff₀ (by exact_mod_cast pos)]
  refine le_of_mul_le_mul_right ((b.lower_mul_le d).trans ?_) b.unit_pos_rat
  exact_mod_cast h

theorem lower_lt_div (pos : 0 < d) (h : b.interval.low * d < n * b.interval.unit) :
    b.lower < n / d := by
  rw [lt_div_iff₀ (by exact_mod_cast pos)]
  refine lt_of_mul_lt_mul_right ((b.lower_mul_le d).trans_lt ?_) b.unit_pos_rat.le
  exact_mod_cast h

theorem div_le_upper (pos : 0 < d) (h : n * b.interval.unit ≤ b.interval.high * d) :
    n / d ≤ b.upper := by
  rw [div_le_iff₀ (by exact_mod_cast pos)]
  refine le_of_mul_le_mul_right (le_trans ?_ (b.upper_mul_eq d).ge) b.unit_pos_rat
  exact_mod_cast h

theorem div_lt_upper (pos : 0 < d) (h : n * b.interval.unit < b.interval.high * d) :
    n / d < b.upper := by
  rw [div_lt_iff₀ (by exact_mod_cast pos)]
  refine lt_of_mul_lt_mul_right (lt_of_lt_of_le ?_ (b.upper_mul_eq d).ge) b.unit_pos_rat.le
  exact_mod_cast h

/-- What passes the test of the search rounds to the magnitude. -/
theorem covers_of_contains (pos : 0 < d) (h : b.interval.contains n d = true) :
    b.Covers (n / d) := by
  unfold RoundingInterval.contains at h
  split at h
  · rename_i closed
    have even := closed_iff.1 closed
    simp only [Bool.and_eq_true, decide_eq_true_eq] at h
    exact ⟨lower_le_div pos h.1, div_le_upper pos h.2, fun _ => even, fun _ => even⟩
  · simp only [Bool.and_eq_true, decide_eq_true_eq] at h
    have left := lower_lt_div pos h.1
    have right := div_lt_upper pos h.2
    exact ⟨left.le, right.le, fun atEnd => absurd atEnd left.ne,
      fun atEnd => absurd atEnd right.ne⟩

end Binary

/-! ## What the search finds lies in the interval -/

section Found

variable {b : Binary} {d : Decimal}

theorem value_grid (k : Nat) (e : ℤ) :
    value ⟨k, e⟩ = ((k * tenPow e.toNat : ℕ) : ℚ) / (tenPow (-e).toNat : ℕ) := by
  have down : (10 : ℚ) ^ (-e).toNat ≠ 0 := pow_ne_zero _ (by norm_num)
  simp only [value, tenPow_eq]
  push_cast
  rw [pow_toNat (by norm_num), ← mul_assoc, mul_div_assoc, div_self down, mul_one]

theorem covers_of_onGrid? {e : ℤ} (h : b.interval.onGrid? e = some d) : b.Covers d.value := by
  have pos : 0 < tenPow (-e).toNat := Nat.pow_pos (by decide)
  simp only [RoundingInterval.onGrid?] at h
  split at h
  · rename_i fits
    obtain rfl := (Option.some.inj h).symm
    rw [value_grid]
    exact Binary.covers_of_contains pos (Bool.and_eq_true_iff.1 fits).1
  split at h
  · rename_i fits
    obtain rfl := (Option.some.inj h).symm
    rw [value_grid]
    exact Binary.covers_of_contains pos fits
  · cases h

theorem covers_of_search {order : ℤ} {digits count : Nat}
    (h : b.interval.search order digits count = some d) : b.Covers d.value := by
  induction count generalizing digits with
  | zero => cases h
  | succ count ih =>
    unfold RoundingInterval.search at h
    split at h
    · rename_i found
      obtain rfl := Option.some.inj h
      exact covers_of_onGrid? found
    · exact ih h

/-- Trailing zeros go, the value stays. -/
theorem value_trim (d : Decimal) (count : Nat) : (d.trim count).value = d.value := by
  induction count generalizing d with
  | zero => rfl
  | succ count ih =>
    unfold trim
    split
    · rename_i zero
      have tens : d.digits / 10 * 10 = d.digits := by omega
      have digits : ((d.digits / 10 : ℕ) : ℚ) * 10 = d.digits := by exact_mod_cast tens
      rw [ih, value, value, zpow_add_one₀ (by norm_num), ← digits]
      ring
    · rfl

end Found

/-! ## The search finds something -/

section Search

variable {i : RoundingInterval}

theorem contains_of_lt {n d : Nat} (low : i.low * d < n * i.unit) (high : n * i.unit < i.high * d) :
    i.contains n d = true := by
  unfold RoundingInterval.contains
  split <;> simp only [Bool.and_eq_true, decide_eq_true_eq] <;> omega

/-- On a grid that is finer than the interval is wide, a neighbour of the value is in the
interval: when the one below is too low, the one above is not too high. -/
theorem exists_onGrid {e : ℤ} (low : i.low ≤ i.value) (high : i.value < i.high) (unit : 0 < i.unit)
    (fine : i.low * tenPow (-e).toNat + i.unit * tenPow e.toNat < i.high * tenPow (-e).toNat) :
    (i.onGrid? e).isSome = true := by
  have pos : 0 < tenPow (-e).toNat := Nat.pow_pos (by decide)
  have step : 0 < i.unit * tenPow e.toNat := Nat.mul_pos unit (Nat.pow_pos (by decide))
  simp only [RoundingInterval.onGrid?]
  generalize tenPow (-e).toNat = down at *
  generalize tenPow e.toNat = up at *
  have low' : i.low * down ≤ i.value * down := Nat.mul_le_mul_right _ low
  have high' : i.value * down < i.high * down := Nat.mul_lt_mul_of_pos_right high pos
  have under : i.value * down / (i.unit * up) * (i.unit * up) ≤ i.value * down :=
    Nat.div_mul_le_self _ _
  have beyond := Nat.lt_mul_div_succ (i.value * down) step
  rw [mul_comm (i.unit * up)] at beyond
  generalize i.value * down / (i.unit * up) = below at *
  have point : below * up * i.unit = below * (i.unit * up) := by ring
  have next : (below + 1) * up * i.unit = below * (i.unit * up) + i.unit * up := by ring
  rw [add_mul, one_mul] at beyond
  by_cases left : i.low * down < below * up * i.unit
  · -- the neighbour below is high enough, and not above the value
    have fits := contains_of_lt left (by omega)
    rw [fits]
    split
    · rfl
    split
    · rfl
    · rename_i notBelow notAbove
      simp [notAbove] at notBelow
  · -- the neighbour above is one step higher than one that is too low
    have fits : i.contains ((below + 1) * up) down = true := contains_of_lt (by omega) (by omega)
    rw [fits]
    split
    · rfl
    · simp

theorem search_isSome {order : ℤ} {digits count k : Nat} (within : k < count)
    (found : (i.onGrid? (order - (digits + k : ℕ) + 1)).isSome = true) :
    (i.search order digits count).isSome = true := by
  induction count generalizing digits k with
  | zero => omega
  | succ count ih =>
    unfold RoundingInterval.search
    split
    · rfl
    · rename_i nothing
      cases k with
      | zero =>
        rw [Nat.add_zero, nothing] at found
        cases found
      | succ k =>
        refine ih (k := k) (by omega) ?_
        rwa [show digits + 1 + k = digits + (k + 1) by omega]

/-! ### The order of magnitude -/

theorem tenPow_digitCount_le {n : Nat} (pos : 0 < n) : tenPow (digitCount n - 1) ≤ n := by
  rw [tenPow_eq]
  by_contra small
  rcases Nat.eq_zero_or_pos (digitCount n - 1) with single | several
  · rw [single] at small
    omega
  · have length := (Nat.length_toDigits_le_iff (by decide) several).2 (not_le.1 small)
    unfold digitCount at length several
    omega

theorem lt_tenPow_digitCount (n : Nat) : n < tenPow (digitCount n) :=
  (Nat.length_toDigits_le_iff (by decide) Nat.length_toDigits_pos).1 le_rfl

/-- The order of magnitude of a value is not too large. -/
theorem unit_mul_order_le (unit : 0 < i.unit) (value : 0 < i.value) :
    (i.unit : ℚ) * 10 ^ i.order ≤ i.value := by
  unfold RoundingInterval.order
  -- the number of digits is taken of the value or, for a value below one, of its inverse
  split
  · rename_i whole
    have digits : 0 < digitCount (i.value / i.unit) := Nat.length_toDigits_pos
    have below := tenPow_digitCount_le (Nat.div_pos whole unit)
    rw [Nat.le_div_iff_mul_le unit, mul_comm, tenPow_eq] at below
    have exponent : (digitCount (i.value / i.unit) : ℤ) - 1 =
        ((digitCount (i.value / i.unit) - 1 : ℕ) : ℤ) := by omega
    rw [exponent, zpow_natCast]
    exact_mod_cast below
  · have digits : 0 < digitCount (i.unit / i.value) := Nat.length_toDigits_pos
    dsimp only
    split
    · rename_i below
      rw [tenPow_eq] at below
      have exponent : -((digitCount (i.unit / i.value) : ℤ) - 1) =
          -((digitCount (i.unit / i.value) - 1 : ℕ) : ℤ) := by omega
      rw [exponent, zpow_neg, zpow_natCast, ← div_eq_mul_inv, div_le_iff₀ (by positivity)]
      exact_mod_cast below
    · have below := lt_tenPow_digitCount (i.unit / i.value)
      rw [Nat.div_lt_iff_lt_mul value, mul_comm, tenPow_eq] at below
      rw [zpow_neg, zpow_natCast, ← div_eq_mul_inv, div_le_iff₀ (by positivity)]
      exact_mod_cast below.le

end Search

/-! ## Shortest decimals -/

section Shortest

variable {b b' : Binary}

/-- Seventeen digits are finer than the interval: a mantissa has less than sixteen digits and a
half. -/
theorem grid_lt_interval (normal : b.Normalized) (positive : 0 < b.mantissa) {e : ℤ}
    (exponent : e = b.interval.order - 16) :
    b.interval.low * tenPow (-e).toNat + b.interval.unit * tenPow e.toNat <
      b.interval.high * tenPow (-e).toNat := by
  have scale : 0 < twoPow (b.exponent - 2).toNat := Nat.pow_pos (by decide)
  have value : b.interval.value = 4 * b.mantissa * twoPow (b.exponent - 2).toNat := rfl
  have order := unit_mul_order_le b.unit_pos
    (value ▸ Nat.mul_pos (Nat.mul_pos (by decide) positive) scale)
  -- the value is less than `10 ^ 16` times as large as the interval is wide
  have wide : b.interval.value + 10 ^ 16 * b.interval.low < 10 ^ 16 * b.interval.high := by
    have units : 4 * b.mantissa + 10 ^ 16 * (4 * b.mantissa - if b.lowerGapHalf then 1 else 2) <
        10 ^ 16 * (4 * b.mantissa + 2) := by
      split
      · rename_i half
        have := (normal.gap.1 half).1
        omega
      · have := normal.mantissa_lt
        omega
    have scaled := Nat.mul_lt_mul_of_pos_right units scale
    simp only [Binary.interval]
    linarith
  have step : (b.interval.unit : ℚ) * 10 ^ e * 10 ^ 16 ≤ b.interval.value := by
    refine le_trans (le_of_eq ?_) order
    rw [exponent, mul_assoc, ← zpow_natCast, ← zpow_add₀ (by norm_num)]
    congr 2
    push_cast
    ring
  have down : (0 : ℚ) < 10 ^ (-e).toNat := by positivity
  have wide' : (b.interval.value : ℚ) + 10 ^ 16 * b.interval.low < 10 ^ 16 * b.interval.high := by
    exact_mod_cast wide
  have fits : (b.interval.low : ℚ) + b.interval.unit * 10 ^ e < b.interval.high := by linarith
  have powers := pow_toNat (by norm_num : (10 : ℚ) ≠ 0) e
  have scaled := mul_lt_mul_of_pos_right fits down
  rw [add_mul, mul_assoc (b.interval.unit : ℚ), ← powers] at scaled
  simp only [tenPow_eq]
  exact_mod_cast scaled

/-- The shortest decimal of a magnitude rounds to it. -/
theorem covers_shortest (normal : b.Normalized) : b.Covers (shortest b).value := by
  unfold shortest
  split
  · -- zero lies strictly within its own interval
    rename_i zero
    have unit : (0 : ℚ) < 2 ^ b.exponent := by positivity
    have below : b.lower < 0 := by
      refine mul_neg_of_neg_of_pos ?_ unit
      rw [zero]
      split <;> norm_num
    have above : 0 < b.upper := by
      refine mul_pos ?_ unit
      rw [zero]
      norm_num
    have value : value ⟨0, 0⟩ = 0 := by simp [Decimal.value]
    rw [value]
    exact ⟨below.le, above.le, fun atEnd => absurd atEnd below.ne,
      fun atEnd => absurd atEnd above.ne⟩
  · rename_i nonzero
    have positive : 0 < b.mantissa := Nat.pos_of_ne_zero nonzero
    have found := exists_onGrid (e := b.interval.order - (1 + 16 : ℕ) + 1)
      (Nat.mul_le_mul_right _ (Nat.sub_le _ _))
      (Nat.mul_lt_mul_of_pos_right (by omega) (Nat.pow_pos (by decide))) b.unit_pos
      (grid_lt_interval normal positive (by push_cast; ring))
    have search : (b.interval.search b.interval.order 1 17).isSome = true :=
      search_isSome (by decide) found
    obtain ⟨d, result⟩ := Option.isSome_iff_exists.1 search
    simp only [result]
    rw [value_trim]
    exact covers_of_search result

/-- A magnitude is known from the value of its shortest decimal. -/
theorem eq_of_value_shortest (normal : b.Normalized) (normal' : b'.Normalized)
    (same : (shortest b).value = (shortest b').value) : b = b' :=
  Binary.eq_of_covers normal normal' (covers_shortest normal) (same ▸ covers_shortest normal')

end Shortest

end SceneScript.Decimal
