import SceneScript.Location
import SceneScript.Text.Blanks
import SceneScript.Vocabulary

/-!
# Parameters

A parameter is one entry "type name" [ values ] of a directive. Its values are kept by their kind:
numbers, strings and truth values each in a list of their own. Some types have an older spelling,
which `modernType` replaces.
-/

set_option autoImplicit false

namespace SceneScript

/-- One value of a parameter. -/
inductive ParamValue (α : Type) where
  | number (value : α)
  | string (value : String)
  | bool (value : Bool)

/-- A parameter of a directive. -/
structure Param (α : Type) where
  type : String
  name : String
  loc : Location α
  numbers : List α := []
  strings : List String := []
  bools : List Bool := []
  /-- Set on inherited parameters, which need not concern every entity. -/
  unusedAllowed : Bool := false
  colorSpace : Option ColorSpace := none

/-- The present spelling of a parameter type. -/
def modernType (type : String) : String :=
  if type = "point" then "point3"
  else if type = "vector" then "vector3"
  else if type = "normal3" then "normal"
  else if type = "color" then "rgb"
  else type

/-- The types whose values are colors. -/
def colorTypes : List String := ["rgb", "blackbody", "spectrum"]

/-- Whether a type, in either spelling, is one of the color types. -/
def isColorType (type : String) : Bool :=
  colorTypes.contains (modernType type)

namespace Param

variable {α : Type}

/-- The parameter with one more value, put behind the others of its kind. -/
def push (p : Param α) : ParamValue α → Param α
  | .number x => { p with numbers := p.numbers ++ [x] }
  | .string s => { p with strings := p.strings ++ [s] }
  | .bool b => { p with bools := p.bools ++ [b] }

/-- The parameter with the given values, sorted by their kind. -/
def ofValues (type name : String) (values : List (ParamValue α)) (loc : Location α) : Param α :=
  values.foldl push { type, name, loc }

/-- All values: the numbers, then the strings, then the truth values. -/
def values (p : Param α) : List (ParamValue α) :=
  p.numbers.map .number ++ p.strings.map .string ++ p.bools.map .bool

variable [Scalar α]

/-- A parameter that was written down by no file. -/
def define (type name : String) (values : List (ParamValue α)) : Param α :=
  ofValues type name values .unknown

/-- The text of a value; truth values are quoted words. -/
def valueText : ParamValue α → String
  | .number x => Scalar.text x
  | .string s => "\"" ++ s ++ "\""
  | .bool b => if b then "\"true\"" else "\"false\""

/-- The text of a parameter: its type and name in quotes, then its values in brackets. -/
def text (p : Param α) : String :=
  "\"" ++ p.type ++ " " ++ p.name ++ "\" [ " ++ " ".intercalate (p.values.map valueText) ++ " ]"

end Param

end SceneScript
