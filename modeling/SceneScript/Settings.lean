import SceneScript.Scalar
import SceneScript.Text.LowerCase

/-!
# Render settings

Settings of the renderer as a whole, which Option directives may change. The name of an option is
read without regard to case, underscores and hyphens; its value is a word, a quoted text or an
integer, as the option requires.
-/

set_option autoImplicit false

namespace SceneScript

/-- The renderer's settings, and one property beside them that is no setting: the truth value that
an option "constructor" has left, if there was one (`Switch.stray`). -/
structure RenderSettings (α : Type) where
  noPixelJitter : Bool
  noWavelengthJitter : Bool
  allDiffuse : Bool
  pixelStatistics : Bool
  seed : α
  referenceImage : Option String
  referenceOutput : Option String
  quiet : Bool
  stray : Option Bool

/-- The settings with these fields, and with nothing beside them. -/
def RenderSettings.ofFields {α : Type}
    (noPixelJitter noWavelengthJitter allDiffuse pixelStatistics : Bool) (seed : α)
    (referenceImage referenceOutput : Option String) (quiet : Bool) : RenderSettings α :=
  { noPixelJitter, noWavelengthJitter, allDiffuse, pixelStatistics, seed, referenceImage,
    referenceOutput, quiet, stray := none }

/-- Why an Option directive is refused; each holds the text at fault. -/
inductive OptionError where
  | unknownName (name : String)
  | notBoolean (value : String)
  | notQuoted (value : String)
  | notInteger (value : String)
deriving DecidableEq, Repr

/-- The wording of a refusal. -/
def OptionError.wording : OptionError → String
  | unknownName name => name ++ ": unknown option"
  | notBoolean value => value ++ ": expected \"true\" or \"false\" for option value"
  | notQuoted value => value ++ ": expected quoted string for option value"
  | notInteger value => value ++ ": expected integer for option value"

/-- What an option with a truth value switches: one of the settings that are on or off, or the
property that is no setting. -/
inductive Switch where
  | noPixelJitter
  | noWavelengthJitter
  | allDiffuse
  | pixelStatistics
  | stray
deriving DecidableEq, Repr

/-- The name of the property that is no setting. -/
def strayName : String := "function Object() \x7b [native code] \x7d"

/-- The settings that name a file. -/
inductive ReferenceFile where
  | image
  | output
deriving DecidableEq, Repr

/-- What an option sets. -/
inductive OptionTarget where
  | switch (which : Switch)
  | file (which : ReferenceFile)
  | seed
deriving DecidableEq, Repr

/-! ## Names -/

/-- An option name in lower case, without underscores and hyphens. -/
def optionKey (name : String) : String :=
  String.ofList ((Text.lower name).toList.filter (fun c => c ≠ '_' && c ≠ '-'))

example : optionKey "Disable_Pixel-Jitter" = "disablepixeljitter" := by decide +kernel

/-- The keys of all options. The one for "constructor" is not documented: the table of switches
inherits an entry under this key, a function, whose text is then taken for the name of a
property. -/
def optionTargets : List (String × OptionTarget) :=
  [("disablepixeljitter", .switch .noPixelJitter),
   ("disablewavelengthjitter", .switch .noWavelengthJitter),
   ("forcediffuse", .switch .allDiffuse),
   ("pixelstats", .switch .pixelStatistics),
   ("constructor", .switch .stray),
   ("msereferenceimage", .file .image),
   ("msereferenceout", .file .output),
   ("seed", .seed)]

/-- What the option of a name sets. -/
def OptionTarget.ofName? (name : String) : Option OptionTarget :=
  optionTargets.lookup (optionKey name)

/-! ## Values -/

/-- The truth value that a word stands for. -/
def readBoolean? (value : String) : Option Bool :=
  if value = "true" then some true
  else if value = "false" then some false
  else none

/-- The text between two quotation marks; there must be something between them. -/
def readQuoted? (value : String) : Option String :=
  match value.toList with
  | '"' :: rest =>
    if rest.getLast? = some '"' ∧ 2 ≤ rest.length then some (String.ofList rest.dropLast)
    else none
  | _ => none

/-- The natural number that decimal digits stand for; there must be at least one digit. -/
def readDigits? (digits : List Char) : Option Nat :=
  if digits ≠ [] ∧ digits.all Char.isDigit = true then
    some (digits.foldl (fun n c => 10 * n + (c.toNat - '0'.toNat)) 0)
  else none

namespace RenderSettings

variable {α : Type} [Scalar α]

/-- The settings of a scene without Option directives. -/
def defaults : RenderSettings α where
  noPixelJitter := false
  noWavelengthJitter := false
  allDiffuse := false
  pixelStatistics := false
  seed := 0
  referenceImage := none
  referenceOutput := none
  quiet := false
  stray := none

/-- The scalar that a text of digits, with or without a sign, stands for. -/
def readInteger? (value : String) : Option α :=
  match value.toList with
  | '+' :: digits => (readDigits? digits).map Scalar.ofNat
  | '-' :: digits => (readDigits? digits).map (fun n => -Scalar.ofNat n)
  | digits => (readDigits? digits).map Scalar.ofNat

/-- The settings with one of the switches set. The property that is no setting is added to them, or
gets a new value. -/
def setSwitch (s : RenderSettings α) (on : Bool) : Switch → RenderSettings α
  | .noPixelJitter => { s with noPixelJitter := on }
  | .noWavelengthJitter => { s with noWavelengthJitter := on }
  | .allDiffuse => { s with allDiffuse := on }
  | .pixelStatistics => { s with pixelStatistics := on }
  | .stray => { s with stray := some on }

/-- The settings with one of the files named. -/
def setFile (s : RenderSettings α) (file : String) : ReferenceFile → RenderSettings α
  | .image => { s with referenceImage := some file }
  | .output => { s with referenceOutput := some file }

/-- The settings after one Option directive. -/
def apply (s : RenderSettings α) (name value : String) : Except OptionError (RenderSettings α) :=
  match OptionTarget.ofName? name with
  | some (.switch which) =>
    match readBoolean? value with
    | some on => .ok (s.setSwitch on which)
    | none => .error (.notBoolean value)
  | some (.file which) =>
    match readQuoted? value with
    | some file => .ok (s.setFile file which)
    | none => .error (.notQuoted value)
  | some .seed =>
    match readInteger? value with
    | some seed => .ok { s with seed }
    | none => .error (.notInteger value)
  | none => .error (.unknownName name)

end RenderSettings

end SceneScript
