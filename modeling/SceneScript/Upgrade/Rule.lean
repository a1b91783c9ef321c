import SceneScript.Action
import SceneScript.Message
import SceneScript.Param.Dictionary

/-!
# Upgrade rules

Scene descriptions written for an older format are brought up to date directive by directive. A
rule looks parameters up in the directive's dictionary, removes or renames those whose form is out
of date, and finishes with the definitions that take their place. A change that would lose
information is refused; one that loses something harmless draws a message.
-/

set_option autoImplicit false

namespace SceneScript

/-- Why a directive cannot be brought up to date. -/
inductive UpgradeFault where
  | indexAndEta (material : String)
  | severalIndices
  | texturedOpacity
  | coloredOpacity
  | coloredScale
  | coloredInfiniteMap
  | coloredProjectionMap
  | twoColorOperands (texture : String)
  | colorOperandCount (param : String)
  | unevenColorOperand (param : String)
  | twoTextureOperands (texture : String)
deriving DecidableEq, Repr

/-- The wording of a refusal. -/
def UpgradeFault.wording : UpgradeFault → String
  | indexAndEta material =>
    "Material \"" ++ material ++ "\" has both \"index\" and \"eta\" parameters."
  | severalIndices => "Multiple values provided for \"index\" parameter."
  | texturedOpacity =>
    "Non-opaque \"opacity\" in \"uber\" material is not supported. Please edit the file manually."
  | coloredOpacity =>
    "A non-opaque \"opacity\" in the \"uber\" material is not supported. Please edit the file manually."
  | coloredScale =>
    "\"scale\" is now a \"float\" parameter to light sources. Please modify your scene file manually."
  | coloredInfiniteMap =>
    "Non-constant \"L\" is no longer supported with \"mapname\" for the \"infinite\" light source. Please upgrade your scene file manually."
  | coloredProjectionMap =>
    "\"I\" is no longer supported with \"mapname\" for the \"projection\" light source. Please upgrade your scene file manually."
  | twoColorOperands texture =>
    "Two \"rgb\" textures found for \"scale\" texture \"" ++ texture
      ++ "\". Please manually edit the file to upgrade."
  | colorOperandCount param => "Didn't find 3 values for \"rgb\" \"" ++ param ++ "\"."
  | unevenColorOperand param =>
    "Non-constant \"rgb\" value found for \"scale\" texture parameter \"" ++ param
      ++ "\". Please manually edit the file to upgrade."
  | twoTextureOperands texture =>
    "Two textures found for \"scale\" texture \"" ++ texture
      ++ "\". Please manually edit the file to upgrade."

/-- A refusal and the place of the directive or parameter at fault. -/
abbrev UpgradeError (α : Type) : Type := Fatal α UpgradeFault

/-- The text of a refusal. -/
def UpgradeError.text {α : Type} [Scalar α] (e : UpgradeError α) : String :=
  Fatal.text UpgradeFault.wording e

/-- A rule: an action on the dictionary of a directive. -/
abbrev Rule (α β : Type) : Type := Action (UpgradeError α) (Dictionary α) (Message α) β

/-- A directive's new name, and the definitions that come before its remaining parameters. -/
structure Upgraded (α : Type) where
  name : String
  definitions : List (Param α)

namespace Rule

variable {α : Type} [Scalar α]

/-- Asks the dictionary. -/
def look {β : Type} (question : Dictionary α → β × Dictionary α) : Rule α β :=
  Action.modifyGet question

/-- Changes the dictionary. -/
def edit (change : Dictionary α → Dictionary α) : Rule α Unit :=
  Action.modify change

/-- Removes the parameters of a type and name. -/
def remove (type name : String) : Rule α Unit :=
  edit (.remove type name)

/-- Removes the color parameters of a name. -/
def removeColor (name : String) : Rule α Unit :=
  edit (.removeColor name)

/-- Renames the parameters of a name. -/
def rename (before after : String) : Rule α Unit :=
  edit (.rename before after)

/-- Refuses the directive. -/
def refuse {β : Type} (loc : Location α) (fault : UpgradeFault) : Rule α β :=
  Action.fail ⟨loc, fault⟩

/-- Gives a message about the directive. -/
def report (severity : Severity) (loc : Location α) (text : String) : Rule α Unit :=
  Action.notify ⟨severity, text, some loc⟩

/-- A definition with one float. -/
def floatDefinition (name : String) (x : α) : Param α :=
  .define "float" name [.number x]

/-- A definition with one integer. -/
def intDefinition (name : String) (x : α) : Param α :=
  .define "integer" name [.number x]

/-- A definition with one string. -/
def stringDefinition (name text : String) : Param α :=
  .define "string" name [.string text]

/-- The texture parameter "bumpmap" is called "displacement". -/
def bumpMap : Rule α (List (Param α)) := do
  let bump ← look (Dictionary.texture "bumpmap")
  if bump = "" then return []
  else
    remove "texture" "bumpmap"
    return [.define "texture" "displacement" [.string bump]]

end Rule

end SceneScript
