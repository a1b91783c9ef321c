import SceneScript.Scalar

/-!
# Source locations

Where a directive or a parameter stands in its scene file. Locations serve messages only; no
directive takes its meaning from one. Line and column are scalars, because a caller may hand over
any number.
-/

set_option autoImplicit false

namespace SceneScript

/-- A place in a scene file. -/
structure Location (α : Type) where
  filename : String
  line : α
  column : α

namespace Location

variable {α : Type} [Scalar α]

/-- The location of what has no place in any file. -/
def unknown : Location α :=
  ⟨"<unknown>", 0, 0⟩

/-- File name, line and column, separated by colons. -/
def text (loc : Location α) : String :=
  loc.filename ++ ":" ++ Scalar.text loc.line ++ ":" ++ Scalar.text loc.column

end Location

end SceneScript
