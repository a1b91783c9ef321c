import SceneScript.Action
import SceneScript.Call.Grammar

/-!
# Interpreters of raw calls

An interpreter gives directives a meaning. It is extended to raw calls: a call that is no directive
fails before the interpreter is asked, and a list of calls ends at its first failure.
-/

set_option autoImplicit false

namespace SceneScript

/-- A meaning of directives: what to do for a directive at a place. -/
abbrev Interpreter (α ε σ ν : Type) : Type := Directive α → Location α → Action ε σ ν Unit

/-- Why a raw call failed: it is no directive, or the interpreter failed. -/
inductive RunError (α ε : Type) where
  | call (reason : CallError α)
  | directive (reason : ε)

/-- The text of a failure, given the wording of the interpreter's failures. -/
def RunError.text {α ε : Type} [Scalar α] (wording : ε → String) : RunError α ε → String
  | call reason => reason.text
  | directive reason => wording reason

namespace Interpreter

variable {α ε σ ν : Type}

/-- What the interpreter does for a directive, its failures being told apart from those of raw
calls. -/
def runDirective (i : Interpreter α ε σ ν) (d : LocatedDirective α) :
    Action (RunError α ε) σ ν Unit :=
  (i d.directive d.loc).mapError .directive

variable [Scalar α]

/-- What the interpreter does for a raw call. -/
def runCall (i : Interpreter α ε σ ν) (r : Raw α) : Action (RunError α ε) σ ν Unit :=
  match Directive.ofRaw r with
  | .error reason => Action.fail (.call reason)
  | .ok d => i.runDirective d

/-- What the interpreter does for raw calls, one after the other. -/
def runCalls (i : Interpreter α ε σ ν) (rs : List (Raw α)) : Action (RunError α ε) σ ν Unit :=
  Action.forEach i.runCall rs

end Interpreter

end SceneScript
