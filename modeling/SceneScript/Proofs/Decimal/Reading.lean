import Mathlib.Algebra.Order.Field.Power
import Mathlib.Data.List.TakeWhile
import Mathlib.Data.Rat.Defs
import Mathlib.Tactic.NormNum
import SceneScript.Decimal.Layout

/-!
# Reading decimals back

The layout of a decimal may be positional, with or without a point, or have an exponent.
`readDecimal` reads all of these forms; from the text of a decimal it gets the value of the decimal
(`readDecimal_text`), so decimals with the same text have the same value.
-/

set_option autoImplicit false

namespace SceneScript.Decimal

/-- The number that a decimal stands for. -/
def value (d : Decimal) : ℚ := d.digits * 10 ^ d.exponent

/-! ## Readers -/

/-- The number that digits stand for. -/
def readDigits (cs : List Char) : Nat := Nat.ofDigitChars 10 cs 0

/-- The number before an exponent: digits, of which those behind a point are a fraction. -/
def readPointed (cs : List Char) : ℚ :=
  let whole := cs.takeWhile (· != '.')
  let fraction := (cs.dropWhile (· != '.')).tail
  readDigits (whole ++ fraction) * 10 ^ (-(fraction.length : ℤ))

/-- The exponent behind its mark, with its sign. -/
def readPower : List Char → ℤ
  | '-' :: ds => -(readDigits ds : ℤ)
  | '+' :: ds => readDigits ds
  | _ => 0

/-- The number that a text without a sign stands for. -/
def readDecimal (cs : List Char) : ℚ :=
  readPointed (cs.takeWhile (· != 'e')) * 10 ^ readPower (cs.dropWhile (· != 'e')).tail

/-! ## Reading digits -/

/-- Digits only. -/
def AllDigits (cs : List Char) : Prop := ∀ c ∈ cs, c.isDigit = true

instance (cs : List Char) : Decidable (AllDigits cs) :=
  decidable_of_iff (cs.all Char.isDigit = true) List.all_eq_true

theorem AllDigits.append {cs ds : List Char} (hcs : AllDigits cs) (hds : AllDigits ds) :
    AllDigits (cs ++ ds) :=
  fun c hc => (List.mem_append.1 hc).elim (hcs c) (hds c)

theorem allDigits_toDigits (n : Nat) : AllDigits (Nat.toDigits 10 n) :=
  fun _ hc => Nat.isDigit_of_mem_toDigits (by decide) (by decide) hc

theorem allDigits_zeros (n : Nat) : AllDigits (List.replicate n '0') := by
  intro c hc
  rw [List.eq_of_mem_replicate hc]
  decide

theorem AllDigits.ne {cs : List Char} (digits : AllDigits cs) {mark : Char}
    (other : mark.isDigit = false) : ∀ c ∈ cs, (c != mark) = true := by
  intro c hc
  simp only [bne_iff_ne, ne_eq]
  rintro rfl
  rw [digits c hc] at other
  cases other

@[simp] theorem readDigits_toDigits (n : Nat) : readDigits (Nat.toDigits 10 n) = n :=
  Nat.ofDigitChars_toDigits (by decide) (by decide)

theorem readDigits_append_zeros (cs : List Char) (n : Nat) :
    readDigits (cs ++ List.replicate n '0') = readDigits cs * 10 ^ n := by
  rw [readDigits, Nat.ofDigitChars_append, Nat.ofDigitChars_replicate_zero, mul_comm]
  rfl

theorem readDigits_zeros_append (n : Nat) (cs : List Char) :
    readDigits (List.replicate n '0' ++ cs) = readDigits cs := by
  rw [readDigits, Nat.ofDigitChars_append, Nat.ofDigitChars_replicate_zero, mul_zero]
  rfl

/-! ## Reading what may have a point -/

theorem readPointed_digits {cs : List Char} (digits : AllDigits cs) :
    readPointed cs = readDigits cs := by
  have whole : ∀ c ∈ cs, (c != '.') = true := digits.ne (by decide)
  simp only [readPointed]
  rw [List.takeWhile_eq_self_iff.2 whole, List.dropWhile_eq_nil_iff.2 whole]
  simp

theorem readPointed_point {whole fraction : List Char} (digits : AllDigits whole) :
    readPointed (whole ++ '.' :: fraction) =
      readDigits (whole ++ fraction) * 10 ^ (-(fraction.length : ℤ)) := by
  have before : ∀ c ∈ whole, (c != '.') = true := digits.ne (by decide)
  simp only [readPointed]
  rw [List.takeWhile_append_of_pos before, List.dropWhile_append_of_pos before]
  simp

theorem toList_pointed (first rest : List Char) :
    (pointed first rest).toList = if rest.isEmpty then first else first ++ '.' :: rest := by
  unfold pointed
  split <;> simp [String.toList_append]

/-- Digits of a decimal, with the point somewhere between them or nowhere. -/
theorem readPointed_pointed {first rest : List Char} (digits : AllDigits first) :
    readPointed (pointed first rest).toList =
      readDigits (first ++ rest) * 10 ^ (-(rest.length : ℤ)) := by
  rw [toList_pointed]
  split
  · rename_i none
    rw [List.isEmpty_iff.1 none, readPointed_digits digits]
    simp
  · exact readPointed_point digits

/-! ## Reading the text of a decimal -/

theorem readDecimal_noExponent {cs : List Char} (digits : ∀ c ∈ cs, (c != 'e') = true) :
    readDecimal cs = readPointed cs := by
  rw [readDecimal, List.takeWhile_eq_self_iff.2 digits, List.dropWhile_eq_nil_iff.2 digits]
  simp [readPower]

theorem readDecimal_exponent {cs ds : List Char} (digits : ∀ c ∈ cs, (c != 'e') = true) :
    readDecimal (cs ++ 'e' :: ds) = readPointed cs * 10 ^ readPower ds := by
  rw [readDecimal, List.takeWhile_append_of_pos digits, List.dropWhile_append_of_pos digits]
  simp

theorem ne_exponent_pointed {first rest : List Char} (hfirst : AllDigits first)
    (hrest : AllDigits rest) : ∀ c ∈ (pointed first rest).toList, (c != 'e') = true := by
  rw [toList_pointed]
  split
  · exact hfirst.ne (by decide)
  · intro c hc
    rcases List.mem_append.1 hc with hc | hc
    · exact hfirst.ne (by decide) c hc
    · rcases List.mem_cons.1 hc with rfl | hc
      · decide
      · exact hrest.ne (by decide) c hc

/-- The text of a power, with its sign. -/
theorem readPower_sign (power : ℤ) :
    readPower ((if power < 0 then "-" else sceneNumbers.exponentPlus) ++
      String.ofList (Nat.toDigits 10 power.natAbs)).toList = power := by
  split
  · have negative : (("-" ++ String.ofList (Nat.toDigits 10 power.natAbs)).toList) =
        '-' :: Nat.toDigits 10 power.natAbs := by simp [String.toList_append]
    rw [negative, readPower, readDigits_toDigits]
    omega
  · have positive : ((sceneNumbers.exponentPlus ++
        String.ofList (Nat.toDigits 10 power.natAbs)).toList) =
          '+' :: Nat.toDigits 10 power.natAbs := by simp [sceneNumbers, String.toList_append]
    rw [positive, readPower, readDigits_toDigits]
    omega

/-- The text of a decimal is read as its value. -/
theorem readDecimal_text (d : Decimal) : readDecimal (sceneNumbers.text d).toList = d.value := by
  have digits := allDigits_toDigits d.digits
  have hnum : readDigits (Nat.toDigits 10 d.digits) = d.digits := readDigits_toDigits d.digits
  have some : 0 < (Nat.toDigits 10 d.digits).length := Nat.length_toDigits_pos
  unfold Layout.text value
  generalize Nat.toDigits 10 d.digits = ds at digits hnum some ⊢
  dsimp only
  have ten : (10 : ℚ) ≠ 0 := by norm_num
  split
  · rename_i zero
    have text : ("0" : String).toList = List.replicate 1 '0' ++ [] := rfl
    rw [zero, text, readDecimal_noExponent (by simp), readPointed_digits (by simp [AllDigits]),
      readDigits_zeros_append]
    simp [readDigits]
  split
  · -- all digits stand before the point
    rename_i point
    have plain := digits.append (allDigits_zeros d.exponent.toNat)
    have whole : (String.ofList ds ++ zeros d.exponent.toNat).toList =
        ds ++ List.replicate d.exponent.toNat '0' := by simp [zeros, String.toList_append]
    rw [whole, readDecimal_noExponent (plain.ne (by decide)), readPointed_digits plain,
      readDigits_append_zeros, hnum]
    have exponent : ((d.exponent.toNat : ℕ) : ℤ) = d.exponent := by omega
    rw [← exponent, zpow_natCast]
    push_cast
    rfl
  split
  · -- the point stands between two digits
    rename_i point
    have left : AllDigits (ds.take (ds.length + d.exponent).toNat) :=
      fun c hc => digits c (List.mem_of_mem_take hc)
    have right : AllDigits (ds.drop (ds.length + d.exponent).toNat) :=
      fun c hc => digits c (List.mem_of_mem_drop hc)
    rw [readDecimal_noExponent (ne_exponent_pointed left right), readPointed_pointed left,
      List.take_append_drop, hnum, List.length_drop]
    congr 2
    omega
  split
  · -- the point stands before all digits
    rename_i point
    have text : ("0." ++ zeros (-((ds.length : ℤ) + d.exponent)).toNat ++ String.ofList ds).toList =
        ['0'] ++ '.' :: (List.replicate (-((ds.length : ℤ) + d.exponent)).toNat '0' ++ ds) := by
      simp [zeros, String.toList_append]
    have fraction := (allDigits_zeros (-((ds.length : ℤ) + d.exponent)).toNat).append digits
    have noExponent : ∀ c ∈ ['0'] ++ '.' ::
        (List.replicate (-((ds.length : ℤ) + d.exponent)).toNat '0' ++ ds), (c != 'e') = true := by
      intro c hc
      rcases List.mem_cons.1 hc with rfl | hc
      · decide
      rcases List.mem_cons.1 hc with rfl | hc
      · decide
      · exact fraction.ne (by decide) c hc
    rw [text, readDecimal_noExponent noExponent, readPointed_point (by simp [AllDigits]),
      ← List.replicate_one, readDigits_zeros_append, readDigits_zeros_append, hnum,
      List.length_append, List.length_replicate]
    congr 2
    omega
  · -- one digit stands before the point, and the exponent says where it belongs
    have left : AllDigits (ds.take 1) := fun c hc => digits c (List.mem_of_mem_take hc)
    have right : AllDigits (ds.drop 1) := fun c hc => digits c (List.mem_of_mem_drop hc)
    have power := readPower_sign (ds.length + d.exponent - 1)
    rw [String.append_assoc, String.append_assoc, String.toList_append,
      String.toList_append]
    have mark : sceneNumbers.exponentMark.toList = ['e'] := rfl
    rw [mark, List.singleton_append, readDecimal_exponent (ne_exponent_pointed left right), power,
      readPointed_pointed left, List.take_append_drop, hnum, List.length_drop, mul_assoc,
      ← zpow_add₀ ten]
    congr 2
    omega

end SceneScript.Decimal
