/-!
# Shortest decimals

A finite binary64 number is `mantissa · 2 ^ exponent`, and every real number in an interval
around it rounds to it. `Decimal.shortest` is the decimal with the fewest digits inside that
interval, and among those the one nearest to the number; of two equally near, the even one.

The search works on grids: the numbers with `n` digits at the number's order of magnitude are
the multiples of a power of ten. If a grid meets the interval, one of the number's two
neighbours on the grid lies in it, so it is enough to test those two, for `n = 1, 2, …, 17`.
All arithmetic is exact, over natural numbers.
-/

set_option autoImplicit false

namespace SceneScript

/-- A positive or zero decimal: `digits · 10 ^ exponent`. -/
structure Decimal where
  digits : Nat
  exponent : Int
deriving DecidableEq, Repr

namespace Decimal

/-! ## Powers -/

/-- A power of two. -/
def twoPow (n : Nat) : Nat := Nat.pow 2 n

/-- A power of ten. -/
def tenPow (n : Nat) : Nat := Nat.pow 10 n

/-! ## Binary64 numbers taken apart -/

/-- A finite binary64 magnitude `mantissa · 2 ^ exponent`. The gap to the next smaller magnitude
is half as wide as the gap to the next larger one when `lowerGapHalf` is set. -/
structure Binary where
  mantissa : Nat
  exponent : Int
  lowerGapHalf : Bool
deriving DecidableEq, Repr

/-- Width of the stored fraction. -/
def fractionBits : Nat := 52

/-- The exponent field of the infinities and of `NaN`. -/
def specialExponent : Nat := 2047

/-- The fraction field of a 64-bit pattern. -/
def fractionField (pattern : UInt64) : Nat :=
  pattern.toNat % twoPow fractionBits

/-- The exponent field of a 64-bit pattern. -/
def exponentField (pattern : UInt64) : Nat :=
  pattern.toNat / twoPow fractionBits % 2048

/-- Whether the sign bit of a 64-bit pattern is set. -/
def signBit (pattern : UInt64) : Bool :=
  pattern.toNat / twoPow 63 == 1

/-- The magnitude that a pattern stands for, `none` for the infinities and `NaN`. -/
def magnitude? (pattern : UInt64) : Option Binary :=
  let fraction := fractionField pattern
  let stored := exponentField pattern
  if stored == specialExponent then none
  else if stored == 0 then some ⟨fraction, -1074, false⟩
  else some ⟨twoPow fractionBits + fraction, (stored : Int) - 1075, fraction == 0 && stored != 1⟩

/-- Whether the magnitude is a whole number. -/
def Binary.isWhole (b : Binary) : Bool :=
  0 ≤ b.exponent || b.mantissa % twoPow (-b.exponent).toNat == 0

/-- The magnitude without its fraction. -/
def Binary.whole (b : Binary) : Nat :=
  b.mantissa * twoPow b.exponent.toNat / twoPow (-b.exponent).toNat

/-! ## The interval of a number -/

/-- The reals that round to `value / unit`: from `low / unit` to `high / unit`, with the ends
when `closed` is set. -/
structure RoundingInterval where
  low : Nat
  value : Nat
  high : Nat
  unit : Nat
  closed : Bool
deriving DecidableEq, Repr

/-- The interval of the reals that round to a magnitude. Its ends lie half a gap away; they
belong to it exactly when the mantissa is even. -/
def Binary.interval (b : Binary) : RoundingInterval :=
  let quarter := b.exponent - 2
  let scale := twoPow quarter.toNat
  { low := (4 * b.mantissa - (if b.lowerGapHalf then 1 else 2)) * scale
    value := 4 * b.mantissa * scale
    high := (4 * b.mantissa + 2) * scale
    unit := twoPow (-quarter).toNat
    closed := b.mantissa % 2 == 0 }

/-- Whether the quotient `numerator / denominator` lies in the interval. -/
def RoundingInterval.contains (i : RoundingInterval) (numerator denominator : Nat) : Bool :=
  let point := numerator * i.unit
  let low := i.low * denominator
  let high := i.high * denominator
  if i.closed then low ≤ point && point ≤ high else low < point && point < high

/-! ## Orders of magnitude and grids -/

/-- The number of decimal digits of a natural number. -/
def digitCount (n : Nat) : Nat :=
  (Nat.toDigits 10 n).length

/-- The exponent `k` with `10 ^ k ≤ value / unit < 10 ^ (k + 1)`, for a positive value. -/
def RoundingInterval.order (i : RoundingInterval) : Int :=
  if i.unit ≤ i.value then (digitCount (i.value / i.unit) : Int) - 1
  else
    let d := digitCount (i.unit / i.value)
    if i.unit ≤ i.value * tenPow (d - 1) then -((d : Int) - 1) else -(d : Int)

/-- The decimal of the interval on the grid of the multiples of `10 ^ exponent`, if it has
one. -/
def RoundingInterval.onGrid? (i : RoundingInterval) (exponent : Int) : Option Decimal :=
  let up := tenPow exponent.toNat
  let down := tenPow (-exponent).toNat
  let numerator := i.value * down
  let denominator := i.unit * up
  let below := numerator / denominator
  let above := below + 1
  let belowFits := i.contains (below * up) down
  let aboveFits := i.contains (above * up) down
  let twice := 2 * (numerator - below * denominator)
  let belowNearer := twice < denominator || (twice == denominator && below % 2 == 0)
  if belowFits && (belowNearer || !aboveFits) then some ⟨below, exponent⟩
  else if aboveFits then some ⟨above, exponent⟩
  else none

/-- The first grid with a decimal in the interval, trying `count` more digits from `digits`
on. -/
def RoundingInterval.search (i : RoundingInterval) (order : Int) : Nat → Nat → Option Decimal
  | _, 0 => none
  | digits, count + 1 =>
    match i.onGrid? (order - digits + 1) with
    | some d => some d
    | none => i.search order (digits + 1) count

/-- The decimal without its trailing zeros, of which at most `count` are removed. -/
def trim (d : Decimal) : Nat → Decimal
  | 0 => d
  | count + 1 =>
    if d.digits ≠ 0 ∧ d.digits % 10 = 0 then trim ⟨d.digits / 10, d.exponent + 1⟩ count else d

/-- The shortest decimal that rounds to the magnitude; seventeen digits always suffice. -/
def shortest (b : Binary) : Decimal :=
  if b.mantissa = 0 then ⟨0, 0⟩
  else
    let i := b.interval
    match i.search i.order 1 17 with
    | some d => d.trim 17
    | none => ⟨0, 0⟩

/-! One tenth, the smallest positive number and the largest finite one. -/

example : (magnitude? 0x3FB999999999999A).map shortest = some ⟨1, -1⟩ := by decide +kernel

example : (magnitude? 1).map shortest = some ⟨5, -324⟩ := by decide +kernel

example : (magnitude? 0x7FEFFFFFFFFFFFFF).map shortest = some ⟨17976931348623157, 292⟩ := by
  decide +kernel

end Decimal

end SceneScript
