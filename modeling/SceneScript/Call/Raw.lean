import SceneScript.Scalar

/-!
# Raw values

What a tokenizer hands over before anything is known about it: values of any kind, nested in any
way. Directive calls and options arrive in this form and are checked before they are used.
-/

set_option autoImplicit false

namespace SceneScript

/-- A value of any kind. -/
inductive Raw (α : Type) where
  /-- Nothing stands there. -/
  | missing
  | null
  | bool (value : Bool)
  | number (value : α)
  | string (value : String)
  | array (items : List (Raw α))
  | object (fields : List (String × Raw α))

/-- The kinds of values that messages tell apart. -/
inductive RawKind where
  | missing
  | null
  | boolean
  | number
  | nan
  | string
  | array
  | object
deriving DecidableEq, Repr

/-- The name of a kind. -/
def RawKind.name : RawKind → String
  | missing => "undefined"
  | null => "null"
  | boolean => "boolean"
  | number => "number"
  | nan => "nan"
  | string => "string"
  | array => "array"
  | object => "object"

namespace Raw

variable {α : Type}

/-- The kind of a value; what is not a number is a kind of its own. -/
def kind [Scalar α] : Raw α → RawKind
  | missing => .missing
  | null => .null
  | bool _ => .boolean
  | number x => if Scalar.isNaN x then .nan else .number
  | string _ => .string
  | array _ => .array
  | object _ => .object

/-- The field of a name, missing if there is none. -/
def field (fields : List (String × Raw α)) (name : String) : Raw α :=
  (fields.lookup name).getD .missing

end Raw

end SceneScript
