import SceneScript.Scopes
import SceneScript.Settings

/-!
# Faults of a scene description

The conditions under which the builder cannot carry out a directive and the reading of the scene
ends, with their wording.
-/

set_option autoImplicit false

namespace SceneScript

/-- Why a directive ends the reading of a scene. -/
inductive BuildFault (α : Type) where
  | option (reason : OptionError)
  | entryCount (directive : String) (count : Nat)
  | unknownTarget (target : String)
  | unknownTextureKind (kind : String)
  | textureRedefined (name : String)
  | materialRedefined (name : String)
  | mediumRedefined (name : String)
  | objectInsideObject (outer : String)
  | objectRedefined (name : String)
  | noOpenObject
  | instanceInsideObject (outer : String)
  | objectUndefined (name : String)
  | scope (reason : ScopeError α)
  | noSavedGraphics
  | noSavedTransforms

/-- The wording of a fault. -/
def BuildFault.wording {α : Type} [Scalar α] : BuildFault α → String
  | option reason => reason.wording
  | entryCount directive count => directive ++ " requires 16 values, got " ++ toString count
  | unknownTarget target =>
    "Unknown attribute target \"" ++ target
      ++ "\". Must be \"shape\", \"light\", \"material\", \"medium\", or \"texture\"."
  | unknownTextureKind kind =>
    kind ++ ": texture type unknown. Must be \"float\" or \"spectrum\"."
  | textureRedefined name => "Redefining texture \"" ++ name ++ "\"."
  | materialRedefined name => "MakeNamedMaterial: " ++ name ++ ": named material redefined."
  | mediumRedefined name => "MakeNamedMedium: named medium \"" ++ name ++ "\" redefined."
  | objectInsideObject outer =>
    "ObjectBegin called inside of instance definition \"" ++ outer ++ "\""
  | objectRedefined name => "ObjectBegin: " ++ name ++ ": trying to redefine an object instance"
  | noOpenObject => "ObjectEnd called outside of instance definition"
  | instanceInsideObject outer =>
    "ObjectInstance can't be called inside instance definition \"" ++ outer ++ "\""
  | objectUndefined name => "ObjectInstance: " ++ name ++ ": object instance not defined"
  | scope reason => reason.wording
  | noSavedGraphics => "Graphics state stack is empty"
  | noSavedTransforms => "Transform stack is empty"

/-- A fault and the place of its directive. -/
abbrev BuildError (α : Type) : Type := Fatal α (BuildFault α)

/-- The text of a fault. -/
def BuildError.text {α : Type} [Scalar α] (e : BuildError α) : String :=
  Fatal.text BuildFault.wording e

end SceneScript
