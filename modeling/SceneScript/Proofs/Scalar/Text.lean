import SceneScript.Scalar

/-!
# Laws of number text

`LawfulText` collects what a reader of scene descriptions needs of the texts of numbers: a text is
never empty, it has none of the characters by which a reader tells where it ends, and it says which
number it stands for, up to the sign of a zero.
-/

set_option autoImplicit false

namespace SceneScript

/-- The scalar itself, but for a zero, which loses its sign. -/
def Scalar.withoutZeroSign {α : Type} [Scalar α] (x : α) : α :=
  if x == 0 then 0 else x

/-- The characters that end a number in a scene description, or begin something else. -/
def delimiters : List Char := [' ', '"', '[', ']', '\n']

/-- Scalars whose texts can be read. -/
class LawfulText (α : Type) [Scalar α] : Prop where
  text_ne_empty (x : α) : Scalar.text x ≠ ""
  not_delimiter {x : α} {c : Char} : c ∈ (Scalar.text x).toList → c ∉ delimiters
  eq_of_text {x y : α} : Scalar.text x = Scalar.text y →
    Scalar.withoutZeroSign x = Scalar.withoutZeroSign y

end SceneScript
