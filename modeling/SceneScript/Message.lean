import SceneScript.Location

/-!
# Messages

A message says that something in the scene is odd or wrong while reading goes on. A fatal condition
ends the reading; its wording depends on its cause.
-/

set_option autoImplicit false

namespace SceneScript

/-- How serious a message is. -/
inductive Severity where
  | warning
  | error
deriving DecidableEq, Repr

/-- The word for a severity. -/
def Severity.name : Severity → String
  | warning => "warning"
  | error => "error"

/-- Something to say about the scene. -/
structure Message (α : Type) where
  severity : Severity
  text : String
  loc : Option (Location α)

/-- A text that begins with the location it is about. -/
def located {α : Type} [Scalar α] (loc : Location α) (text : String) : String :=
  loc.text ++ ": " ++ text

/-- The line that shows a message on a console: who says it, where in the scene, and what. -/
def Message.consoleLine {α : Type} [Scalar α] (speaker : String) (m : Message α) : String :=
  "[" ++ speaker ++ "] " ++
    match m.loc with
    | some loc => located loc m.text
    | none => m.text

/-- A condition that ends the reading of a scene: its cause and the place of the directive or
parameter at fault. -/
structure Fatal (α κ : Type) where
  loc : Location α
  cause : κ

/-- The text of a fatal condition, given the wording of its cause. -/
def Fatal.text {α κ : Type} [Scalar α] (wording : κ → String) (e : Fatal α κ) : String :=
  located e.loc (wording e.cause)

end SceneScript
