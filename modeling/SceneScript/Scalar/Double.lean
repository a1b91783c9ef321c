import SceneScript.Scalar
import SceneScript.Decimal.Layout

/-!
# Doubles as scalars

IEEE binary64 numbers with the arithmetic of the machine: every operation rounds once, to
nearest, and none is fused with another. The text of a number is its shortest decimal.
-/

set_option autoImplicit false

namespace SceneScript

/-- Ratio of a circle's circumference to its diameter, to double precision. -/
def doublePi : Float := 3.141592653589793

/-- The bit pattern of a double, with the negative zero read as the positive one. -/
def doubleBits (x : Float) : UInt64 :=
  if x == 0 then 0 else x.toBits

/-- Whether a double is a finite whole number. -/
def doubleIsWhole (x : Float) : Bool :=
  match Decimal.magnitude? x.toBits with
  | some b => b.isWhole
  | none => false

/-- A finite double without its fraction. -/
def doubleWholePart? (x : Float) : Option Int :=
  (Decimal.magnitude? x.toBits).map fun b =>
    if Decimal.signBit x.toBits then -(b.whole : Int) else b.whole

instance : Scalar Float where
  zero := 0
  one := 1
  add := Float.add
  sub := Float.sub
  mul := Float.mul
  div := Float.div
  neg := Float.neg
  beq := Float.beq
  less a b := decide (a < b)
  sqrt := Float.sqrt
  sin := Float.sin
  cos := Float.cos
  abs := Float.abs
  pi := doublePi
  nan := 0 / 0
  isNaN := Float.isNaN
  isWhole := doubleIsWhole
  wholePart? := doubleWholePart?
  ofNat := Float.ofNat
  bits := doubleBits
  text x := Decimal.sceneNumbers.textOfBits x.toBits

end SceneScript
