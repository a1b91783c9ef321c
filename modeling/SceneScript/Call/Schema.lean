import SceneScript.Call.Checked
import SceneScript.Param.Basic
import SceneScript.Settings

/-!
# Schemas

A schema says which raw values are accepted and what they stand for. Schemas of numbers, texts and
lists are combined into those of locations, parameters, directive calls and render settings.
Fields that a schema does not name are ignored.
-/

set_option autoImplicit false

namespace SceneScript

/-- A reading of raw values as values of a type. -/
abbrev Schema (α β : Type) : Type := Raw α → Checked β

/-- A directive as a tokenizer hands it over: its keyword and its arguments, not yet checked. -/
structure RawCall (α : Type) where
  name : String
  args : List (Raw α)
  loc : Location α

namespace Schema

variable {α β γ : Type}

/-! ## Elementary schemas -/

/-- The problem of a value of an unwanted kind. -/
def unwanted [Scalar α] (wanted : String) : Raw α → Checked β
  | .missing => .problem .missing
  | r => .problem (.kind wanted r.kind)

/-- Any number; infinities are numbers. -/
def number [Scalar α] : Schema α α
  | .number x => if Scalar.isNaN x then .problem (.kind "number" .nan) else .valid x
  | r => unwanted "number" r

/-- A finite whole number. -/
def integer [Scalar α] : Schema α α
  | .number x =>
    if Scalar.isNaN x then .problem (.kind "number" .nan)
    else if Scalar.isWhole x then .valid x
    else .problem .fraction
  | r => unwanted "number" r

/-- Any text. -/
def text [Scalar α] : Schema α String
  | .string s => .valid s
  | r => unwanted "string" r

/-- A text that is not empty. -/
def someText [Scalar α] : Schema α String
  | .string s => if s = "" then .problem .emptyText else .valid s
  | r => unwanted "string" r

/-- A truth value. -/
def boolean [Scalar α] : Schema α Bool
  | .bool b => .valid b
  | r => unwanted "boolean" r

/-- Anything at all. -/
def anything : Schema α (Raw α) := .valid

/-- One of some words, which stand for values. -/
def word [Scalar α] (words : List (String × β)) : Schema α β
  | .string s =>
    match words.lookup s with
    | some b => .valid b
    | none => .problem (.unknownWord (words.map (·.1)) s)
  | r => unwanted (Problem.alternatives (words.map (·.1))) r

/-! ## Combinations -/

/-- Every item of a list, counted from `place`. -/
def items (s : Schema α β) (place : Nat) : List (Raw α) → Checked (List β)
  | [] => .valid []
  | r :: rest =>
    (((s r).under (.item place)).map List.cons).ap (items s (place + 1) rest)

/-- A list whose items follow a schema, and whose length is first checked by `faults`. -/
def listWith [Scalar α] (faults : Nat → List Issue) (s : Schema α β) : Schema α (List β)
  | .array rs => (items s 0 rs).after (faults rs.length)
  | r => unwanted "array" r

/-- A list of any length. -/
def list [Scalar α] (s : Schema α β) : Schema α (List β) :=
  listWith (fun _ => []) s

/-- A list of exactly `count` items. -/
def listOf [Scalar α] (count : Nat) (s : Schema α β) : Schema α (List β) :=
  listWith (fun n =>
    if n < count then [⟨[], .tooFew .exact count⟩]
    else if count < n then [⟨[], .tooMany .exact count⟩]
    else []) s

/-- What stands for a missing value. -/
def orElse (default : β) (s : Schema α β) : Schema α β
  | .missing => .valid default
  | r => s r

/-- A value that may be missing. -/
def optional (s : Schema α β) : Schema α (Option β)
  | .missing => .valid none
  | r => (s r).map some

/-- An object whose fields are read by `read`. -/
def object [Scalar α] (read : List (String × Raw α) → Checked β) : Schema α β
  | .object fields => read fields
  | r => unwanted "object" r

/-- A field of an object. -/
def field (name : String) (s : Schema α β) (fields : List (String × Raw α)) : Checked β :=
  (s (Raw.field fields name)).under (.field name)

/-! ## Schemas of the domain -/

variable [Scalar α]

/-- Words and the values they stand for. -/
def spelled (all : List β) (name : β → String) : List (String × β) :=
  all.map (fun b => (name b, b))

/-- A location. -/
def location : Schema α (Location α) :=
  object fun fs =>
    (((Checked.valid Location.mk).ap (field "filename" text fs)).ap
      (field "line" integer fs)).ap
      (field "column" integer fs)

/-- A location that may be missing. -/
def someLocation : Schema α (Location α) := orElse .unknown location

/-- A parameter; its lists of values, its flag and its color space may be missing. -/
def param : Schema α (Param α) :=
  object fun fs =>
    ((((((((Checked.valid Param.mk).ap
      (field "type" someText fs)).ap
      (field "name" someText fs)).ap
      (field "loc" someLocation fs)).ap
      (field "numbers" (orElse [] (list number)) fs)).ap
      (field "strings" (orElse [] (list text)) fs)).ap
      (field "bools" (orElse [] (list boolean)) fs)).ap
      (field "mayBeUnused" (orElse false boolean) fs)).ap
      (field "colorSpace" (optional (word (spelled ColorSpace.all ColorSpace.name))) fs)

/-- A list of parameters. -/
def params : Schema α (List (Param α)) := list param

/-- A directive call. -/
def call : Schema α (RawCall α) :=
  object fun fs =>
    (((Checked.valid RawCall.mk).ap (field "name" someText fs)).ap
      (field "args" (orElse [] (list anything)) fs)).ap
      (field "loc" someLocation fs)

/-- Render settings; each may be missing. -/
def renderSettings : Schema α (RenderSettings α) :=
  object fun fs =>
    ((((((((Checked.valid RenderSettings.ofFields).ap
      (field "disablePixelJitter" (orElse false boolean) fs)).ap
      (field "disableWavelengthJitter" (orElse false boolean) fs)).ap
      (field "forceDiffuse" (orElse false boolean) fs)).ap
      (field "recordPixelStatistics" (orElse false boolean) fs)).ap
      (field "seed" (orElse 0 integer) fs)).ap
      (field "mseReferenceImage" (optional text) fs)).ap
      (field "mseReferenceOutput" (optional text) fs)).ap
      (field "quiet" (orElse false boolean) fs)

end Schema

/-- The render settings that a raw value gives; a missing value gives the defaults. -/
def RenderSettings.ofRaw {α : Type} [Scalar α] (r : Raw α) : Checked (RenderSettings α) :=
  Schema.orElse .defaults Schema.renderSettings r

end SceneScript
