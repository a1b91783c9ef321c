import SceneScript.Call.Schema
import SceneScript.Message
import SceneScript.Directive

/-!
# Grammar of directives

Which arguments each keyword takes. `grammar` lists the keywords with a reading of their arguments,
and `Directive.ofRaw` reads a whole raw call: it must have the form of a call, its keyword must be
known, and its arguments must be those of the keyword. Nothing else is a directive.
-/

set_option autoImplicit false

namespace SceneScript

/-- A reading of a fixed number of arguments. -/
structure ArgumentReader (α β : Type) where
  arity : Nat
  read : List (Raw α) → Checked β

namespace ArgumentReader

variable {α β γ : Type}

/-- Reads no argument. -/
def none (b : β) : ArgumentReader α β := ⟨0, fun _ => .valid b⟩

/-- Reads one argument more, by a schema. -/
def arg (a : ArgumentReader α (β → γ)) (s : Schema α β) : ArgumentReader α γ where
  arity := a.arity + 1
  read rs := (a.read rs).ap ((s (rs[a.arity]?.getD .missing)).under (.item a.arity))

/-- Reads an argument list, which must have the right length. Arguments in excess do not keep the
others from being checked. -/
def run (a : ArgumentReader α β) (rs : List (Raw α)) : Checked β :=
  if rs.length < a.arity then .problem (.tooFew .bound a.arity)
  else if a.arity < rs.length then
    (a.read rs).after [⟨[], .tooMany .bound a.arity⟩]
  else a.read rs

end ArgumentReader

namespace Grammar

open ArgumentReader (none)

variable {α : Type} [Scalar α]

/-- A reading of the arguments of a keyword. -/
abbrev Rule (α : Type) : Type := List (Raw α) → Checked (Directive α)

/-- A keyword without arguments. -/
def bare (d : Directive α) : Rule α := (none d).run

/-- A keyword with a name. -/
def named (make : String → Directive α) : Rule α :=
  ((none make).arg Schema.text).run

/-- A keyword with a name and parameters. -/
def entity (make : String → List (Param α) → Directive α) : Rule α :=
  (((none make).arg Schema.text).arg Schema.params).run

/-- A keyword with two texts. -/
def twoTexts (make : String → String → Directive α) : Rule α :=
  (((none make).arg Schema.text).arg Schema.text).run

/-- A keyword with two numbers. -/
def twoNumbers (make : α → α → Directive α) : Rule α :=
  (((none make).arg Schema.number).arg Schema.number).run

/-- A keyword with a vector. -/
def vector (make : Vec3 α → Directive α) : Rule α :=
  ((((none (fun x y z => make ⟨x, y, z⟩)).arg Schema.number).arg Schema.number).arg
    Schema.number).run

/-- A keyword with an angle and an axis. -/
def angleAndAxis (make : α → Vec3 α → Directive α) : Rule α :=
  (((((none (fun a x y z => make a ⟨x, y, z⟩)).arg Schema.number).arg Schema.number).arg
    Schema.number).arg Schema.number).run

/-- A keyword with three vectors. -/
def threeVectors (make : Vec3 α → Vec3 α → Vec3 α → Directive α) : Rule α :=
  ((((((((((none (fun a b c d e f g h i => make ⟨a, b, c⟩ ⟨d, e, f⟩ ⟨g, h, i⟩)).arg
    Schema.number).arg Schema.number).arg Schema.number).arg Schema.number).arg
    Schema.number).arg Schema.number).arg Schema.number).arg Schema.number).arg
    Schema.number).run

/-- A keyword with a list of sixteen numbers. -/
def matrix (make : List α → Directive α) : Rule α :=
  ((none make).arg (Schema.listOf 16 Schema.number)).run

/-- The words that say which slots later transforms change. -/
def slotWords : List SlotWord := [.all, .startTime, .endTime]

/-- A keyword with one of the words for slots. -/
def slots : Rule α :=
  ((none Directive.activeTransform).arg
    (Schema.word (Schema.spelled slotWords SlotWord.name))).run

/-- A keyword with the name of a texture, its type, its implementation and parameters. -/
def texture (make : String → String → String → List (Param α) → Directive α) : Rule α :=
  (((((none make).arg Schema.text).arg Schema.text).arg Schema.text).arg Schema.params).run

/-- The lengths that a list of one or two names may not have. -/
def oneOrTwo (n : Nat) : List Issue :=
  if n < 1 then [⟨[], .tooFew .bound 1⟩]
  else if 2 < n then [⟨[], .tooMany .bound 2⟩]
  else []

/-- A directive with the names of the inside and the outside medium; a single name is that of
both. -/
def mediaOf : List String → Directive α
  | [] => .mediumInterface "" ""
  | [both] => .mediumInterface both both
  | inside :: outside :: _ => .mediumInterface inside outside

/-- A keyword with one or two names of media. -/
def media : Rule α :=
  fun rs => (Schema.listWith oneOrTwo Schema.text (.array rs)).map mediaOf

/-- All keywords with the readings of their arguments. -/
def rules : List (String × Rule α) :=
  [("Option", twoTexts .option),
   ("Identity", bare .identity),
   ("Translate", vector .translate),
   ("Scale", vector .scale),
   ("Rotate", angleAndAxis .rotate),
   ("LookAt", threeVectors .lookAt),
   ("ConcatTransform", matrix .concatTransform),
   ("Transform", matrix .transform),
   ("CoordinateSystem", named .coordinateSystem),
   ("CoordSysTransform", named .coordSysTransform),
   ("ActiveTransform", slots),
   ("TransformTimes", twoNumbers .transformTimes),
   ("ColorSpace", named .colorSpace),
   ("Camera", entity .camera),
   ("Film", entity .film),
   ("Sampler", entity .sampler),
   ("PixelFilter", entity .pixelFilter),
   ("Integrator", entity .integrator),
   ("Accelerator", entity .accelerator),
   ("WorldBegin", bare .worldBegin),
   ("WorldEnd", bare .worldEnd),
   ("AttributeBegin", bare .attributeBegin),
   ("AttributeEnd", bare .attributeEnd),
   ("TransformBegin", bare .transformBegin),
   ("TransformEnd", bare .transformEnd),
   ("Attribute", entity .attributes),
   ("Texture", texture .texture),
   ("Material", entity .material),
   ("MakeNamedMaterial", entity .makeNamedMaterial),
   ("NamedMaterial", named .namedMaterial),
   ("MakeNamedMedium", entity .makeNamedMedium),
   ("MediumInterface", media),
   ("LightSource", entity .lightSource),
   ("AreaLightSource", entity .areaLightSource),
   ("Shape", entity .shape),
   ("ReverseOrientation", bare .reverseOrientation),
   ("ObjectBegin", named .objectBegin),
   ("ObjectEnd", bare .objectEnd),
   ("ObjectInstance", named .objectInstance)]

/-- All keywords. -/
def keywords (α : Type) [Scalar α] : List String :=
  (rules (α := α)).map (·.1)

end Grammar

/-- Why a raw value is no directive. -/
inductive CallError (α : Type) where
  | malformed (issues : List Issue)
  | unknownKeyword (loc : Location α) (keyword : String)
  | badArguments (loc : Location α) (keyword : String) (issues : List Issue)

/-- The text of a refusal. -/
def CallError.text {α : Type} [Scalar α] : CallError α → String
  | malformed issues => "Malformed directive call: " ++ Issue.listing issues
  | unknownKeyword loc keyword => located loc ("unknown directive \"" ++ keyword ++ "\"")
  | badArguments loc keyword issues =>
    located loc (keyword ++ ": invalid arguments: " ++ Issue.listing issues)

/-- A directive and its place. -/
structure LocatedDirective (α : Type) where
  directive : Directive α
  loc : Location α

/-- The directive that a raw call stands for. -/
def Directive.ofRaw {α : Type} [Scalar α] (r : Raw α) :
    Except (CallError α) (LocatedDirective α) :=
  match Schema.call r with
  | .invalid issues => .error (.malformed issues)
  | .valid call =>
    match Grammar.rules.lookup call.name with
    | none => .error (.unknownKeyword call.loc call.name)
    | some rule =>
      match rule call.args with
      | .invalid issues => .error (.badArguments call.loc call.name issues)
      | .valid d => .ok ⟨d, call.loc⟩

end SceneScript
