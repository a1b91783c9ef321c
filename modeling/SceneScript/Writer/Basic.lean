import SceneScript.Action
import SceneScript.Directive
import SceneScript.Scopes
import SceneScript.Upgrade.Rule

/-!
# Steps of the writer

The writer puts directives back into text, one to a line, indented by the number of open scopes,
with the parameters below their directive one level deeper. The open scopes are all that it keeps
from one directive to the next.

Text is given notice of in chunks, so that it can be put out as it comes.
-/

set_option autoImplicit false

namespace SceneScript

/-- What the writer gives notice of. -/
inductive WriteNotice (α : Type) where
  | chunk (text : String)
  | message (m : Message α)

/-- Why a directive cannot be written. -/
inductive WriteFault (α : Type) where
  | scope (reason : ScopeError α)
  | upgrade (reason : UpgradeFault)

/-- The wording of a fault. -/
def WriteFault.wording {α : Type} [Scalar α] : WriteFault α → String
  | scope reason => reason.wording
  | upgrade reason => reason.wording

/-- A fault and its place. -/
abbrev WriteError (α : Type) : Type := Fatal α (WriteFault α)

/-- The text of a fault. -/
def WriteError.text {α : Type} [Scalar α] (e : WriteError α) : String :=
  Fatal.text WriteFault.wording e

/-- What the writer does for a directive. -/
abbrev Write (α β : Type) : Type := Action (WriteError α) (OpenScopes α) (WriteNotice α) β

namespace Writer

variable {α : Type} [Scalar α]

/-! ## Lines -/

/-- Writes a chunk of text. -/
def write (text : String) : Write α Unit :=
  Action.notify (.chunk text)

/-- Writes a line at the depth of the open scopes. -/
def line (text : String) : Write α Unit := do
  let scopes ← Action.get
  write (scopes.indent 0 ++ text ++ "\n")

/-- Numbers with blanks between them. -/
def numbers (xs : List α) : String :=
  " ".intercalate (xs.map Scalar.text)

/-- The components of a vector. -/
def vector (v : Vec3 α) : String :=
  numbers [v.x, v.y, v.z]

/-- A text in quotation marks. -/
def quoted (s : String) : String := "\"" ++ s ++ "\""

/-! ## Scopes -/

/-- Opens a scope. -/
def openScope (kind : ScopeKind) (loc : Location α) : Write α Unit :=
  Action.modify (·.push kind loc)

/-- Closes the innermost scope, which must be of a given kind. -/
def closeScope (kind : ScopeKind) (loc : Location α) : Write α Unit := do
  let scopes ← Action.get
  match scopes.pop kind with
  | .error reason => Action.fail ⟨loc, .scope reason⟩
  | .ok (_, rest) => Action.modify (fun _ => rest)

/-! ## Directives with parameters -/

/-- Writes a directive: its line, then the definitions that an upgrade put in front, then its
parameters. -/
def entity (header : String) (definitions : List (Param α)) (d : Dictionary α) :
    Write α Unit := do
  let scopes ← Action.get
  line header
  if !definitions.isEmpty then
    write (String.join (definitions.map (fun p => scopes.indent 1 ++ p.text ++ "\n")))
  if d.size ≠ 0 then
    write (d.listing (scopes.depth * indentWidth))

/-- The dictionary of a directive's parameters. -/
def dictionary (params : List (Param α)) : Dictionary α :=
  .ofParams params defaultColorSpace []

/-- Writes a directive to whose parameters no rule applies. -/
def plainEntity (header : String) (params : List (Param α)) : Write α Unit :=
  entity header [] (dictionary params)

/-- The refusal of an upgrade as a fault of writing. -/
def refusal (e : UpgradeError α) : WriteError α :=
  ⟨e.loc, .upgrade e.cause⟩

/-- Runs an upgrade rule on a directive's parameters. -/
def applyRule {β : Type} (rule : Rule α β) (params : List (Param α)) :
    Write α (β × Dictionary α) :=
  rule.runOn (dictionary params) refusal .message

/-- Writes a directive whose rule changes its parameters only. -/
def revisedEntity (upgrading : Bool) (header : String) (params : List (Param α))
    (rule : Rule α (List (Param α))) : Write α Unit :=
  if upgrading then do
    let (definitions, d) ← applyRule rule params
    entity header definitions d
  else plainEntity header params

/-- Writes a directive whose rule may change its name as well as its parameters. -/
def renamedEntity (upgrading : Bool) (keyword name : String) (params : List (Param α))
    (rule : Rule α (Upgraded α)) : Write α Unit :=
  if upgrading then do
    let (upgraded, d) ← applyRule rule params
    entity (keyword ++ " " ++ quoted upgraded.name) upgraded.definitions d
  else plainEntity (keyword ++ " " ++ quoted name) params

end Writer

end SceneScript
