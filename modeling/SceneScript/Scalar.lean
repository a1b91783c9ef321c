/-!
# Scalars of a scene

Every number of a scene description (a coordinate, a parameter value, a line number of a
location) is a scalar. The library is written once over the class `Scalar`, so that the same
definitions run on IEEE doubles and can be read over a field, where arithmetic is exact.

The class fixes the operations and no law. `==` is equality of values: with doubles, `NaN`
differs from itself and the two zeros are equal. `Scalar.same` is the equality that also
identifies `NaN` with itself.
-/

set_option autoImplicit false

namespace SceneScript

/-- The operations that scene descriptions need of their numbers. -/
class Scalar (α : Type) extends Zero α, One α, Add α, Sub α, Mul α, Div α, Neg α, BEq α where
  /-- Strict order; false when either side is not a number. -/
  less : α → α → Bool
  /-- Square root of a number that is not negative. -/
  sqrt : α → α
  /-- Sine of an angle in radians. -/
  sin : α → α
  /-- Cosine of an angle in radians. -/
  cos : α → α
  /-- Magnitude. -/
  abs : α → α
  /-- Ratio of a circle's circumference to its diameter. -/
  pi : α
  /-- The value that stands for "not a number". -/
  nan : α
  /-- Whether the value is "not a number". -/
  isNaN : α → Bool
  /-- Whether the value is a finite whole number. -/
  isWhole : α → Bool
  /-- A finite value without its fraction, `none` if the value is not finite. -/
  wholePart? : α → Option Int
  /-- The scalar nearest to a natural number. -/
  ofNat : Nat → α
  /-- A 64-bit pattern in which the two zeros share one pattern, and so do all `NaN`s. -/
  bits : α → UInt64
  /-- The text of the number in a scene description. -/
  text : α → String

namespace Scalar

variable {α : Type} [Scalar α]

/-- Equality of values, with `NaN` equal to itself. -/
def same (a b : α) : Bool :=
  a == b || (isNaN a && isNaN b)

/-- The quotient of two natural numbers, for constants such as one millionth. -/
def ratio (numerator denominator : Nat) : α :=
  ofNat numerator / ofNat denominator

end Scalar

end SceneScript
