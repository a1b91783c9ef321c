import SceneScript.Decimal.Shortest

/-!
# Layout of decimals

How the digits of a decimal are written: positionally for numbers of a moderate size, with an
exponent for the others. The thresholds are one record, `Layout`, and `sceneNumbers` is the
record that scene descriptions use.
-/

set_option autoImplicit false

namespace SceneScript.Decimal

/-- The choices that fix the text of a number. -/
structure Layout where
  /-- Numbers below ten to this power are written positionally. -/
  wholeDigits : Nat
  /-- At most this many zeros may stand between the point and the first digit. -/
  leadingZeros : Nat
  /-- The mark before an exponent. -/
  exponentMark : String
  /-- The sign of an exponent that is not negative. -/
  exponentPlus : String
  /-- The text of what is not a number. -/
  nan : String
  /-- The text of the positive infinity. -/
  infinity : String

/-- Scene descriptions write up to twenty-one digits before the point and up to five zeros
after it; beyond these, one digit stands before the point and a signed exponent follows. -/
def sceneNumbers : Layout where
  wholeDigits := 21
  leadingZeros := 5
  exponentMark := "e"
  exponentPlus := "+"
  nan := "NaN"
  infinity := "Infinity"

/-- A run of zeros. -/
def zeros (count : Nat) : String :=
  String.ofList (List.replicate count '0')

/-- Digits of one decimal mark: `first` before the point and `rest`, if any, after it. -/
def pointed (first rest : List Char) : String :=
  if rest.isEmpty then String.ofList first
  else String.ofList first ++ "." ++ String.ofList rest

/-- The text of a decimal that is positive or zero. The value is `0.d₁d₂… · 10 ^ point` for the
digits `d₁d₂…`. -/
def Layout.text (layout : Layout) (d : Decimal) : String :=
  let ds := (Nat.toDigits 10 d.digits)
  let point : Int := ds.length + d.exponent
  if d.digits = 0 then "0"
  else if ds.length ≤ point ∧ point ≤ layout.wholeDigits then
    String.ofList ds ++ zeros d.exponent.toNat
  else if 0 < point ∧ point ≤ layout.wholeDigits then
    pointed (ds.take point.toNat) (ds.drop point.toNat)
  else if point ≤ 0 ∧ -point ≤ layout.leadingZeros then
    "0." ++ zeros (-point).toNat ++ String.ofList ds
  else
    let power := point - 1
    let sign := if power < 0 then "-" else layout.exponentPlus
    pointed (ds.take 1) (ds.drop 1) ++ layout.exponentMark ++ sign
      ++ String.ofList (Nat.toDigits 10 power.natAbs)

/-- The text of the number with the given binary64 pattern. Zero has no sign. -/
def Layout.textOfBits (layout : Layout) (pattern : UInt64) : String :=
  let sign := if signBit pattern then "-" else ""
  match magnitude? pattern with
  | none => if fractionField pattern = 0 then sign ++ layout.infinity else layout.nan
  | some b => if b.mantissa = 0 then layout.text (shortest b) else sign ++ layout.text (shortest b)

/-! Where the positional notation begins and ends, and the sign of zero. -/

example : sceneNumbers.text ⟨1, 20⟩ = "100000000000000000000" := by decide +kernel

example : sceneNumbers.text ⟨1, 21⟩ = "1e+21" := by decide +kernel

example : sceneNumbers.text ⟨15, -7⟩ = "0.0000015" := by decide +kernel

example : sceneNumbers.text ⟨1, -7⟩ = "1e-7" := by decide +kernel

example : sceneNumbers.textOfBits 0x3FF8000000000000 = "1.5" := by decide +kernel

example : sceneNumbers.textOfBits 0x8000000000000000 = "0" := by decide +kernel

end SceneScript.Decimal
