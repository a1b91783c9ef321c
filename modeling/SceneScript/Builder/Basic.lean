import SceneScript.Builder.Fault
import SceneScript.Builder.State
import SceneScript.Directive

/-!
# Steps that directives share

The builder is an action on its state. This module has the steps of which directives are made:
reporting, failing, changing a part of the state, interning a transform, and closing scopes.
-/

set_option autoImplicit false

namespace SceneScript

/-- What the builder does for a directive. -/
abbrev Build (α β : Type) : Type := Action (BuildError α) (Builder α) (BuildNotice α) β

namespace Builder

variable {α : Type} [Scalar α]

/-- Fails at a location. -/
def failAt {β : Type} (loc : Location α) (fault : BuildFault α) : Build α β :=
  Action.fail ⟨loc, fault⟩

/-- Reports something odd about the scene. -/
def warn (loc : Location α) (text : String) : Build α Unit :=
  Action.notify (.message ⟨.warning, text, some loc⟩)

/-- Reports a directive that is ignored. -/
def complain (loc : Location α) (text : String) : Build α Unit :=
  Action.notify (.message ⟨.error, text, some loc⟩)

/-- Changes the graphics state. -/
def modifyGraphics (f : GraphicsState α → GraphicsState α) : Build α Unit :=
  Action.modify (fun b => { b with graphics := f b.graphics })

/-- Changes the scene. -/
def modifyScene (f : Scene α → Scene α) : Build α Unit :=
  Action.modify (fun b => { b with scene := f b.scene })

/-! ## Transforms -/

/-- Changes the current transforms of the active slots. -/
def transformActive (f : Transform α → Transform α) : Build α Unit :=
  modifyGraphics (·.transformActive f)

/-- Composes the current transforms of the active slots with one more transform. -/
def composeActive (t : Transform α) : Build α Unit :=
  transformActive (·.compose t)

/-- The handle of a transform. -/
def intern (setup : BuildSetup α) (t : Transform α) : Build α (Handle α) :=
  Action.modifyGet (fun b =>
    ((b.pool.intern setup.hashOf t).1, { b with pool := (b.pool.intern setup.hashOf t).2 }))

/-- The handles of a transform pair, with the times of the scene. -/
def internPair (setup : BuildSetup α) (pair : TransformPair α) : Build α (TimedTransform α) := do
  let opening ← intern setup pair.opening
  let closing ← intern setup pair.closing
  let b ← Action.get
  return ⟨opening, b.openingTime, closing, b.closingTime⟩

/-! ## Scopes -/

/-- Closes the innermost scope, which must be of a given kind. -/
def closeScope (kind : ScopeKind) (loc : Location α) : Build α Unit := do
  let b ← Action.get
  match b.openScopes.pop kind with
  | .error reason => failAt loc (.scope reason)
  | .ok (_, rest) => Action.modify (fun b => { b with openScopes := rest })

/-- Goes back to the graphics state saved last. -/
def restoreGraphics (loc : Location α) : Build α Unit := do
  let b ← Action.get
  match b.savedGraphics with
  | [] => failAt loc .noSavedGraphics
  | g :: rest => Action.modify (fun b => { b with graphics := g, savedGraphics := rest })

/-- Goes back to saved transforms and active slots, with `rest` still saved. -/
def putTransforms (saved : SavedTransforms α) (rest : List (SavedTransforms α)) : Build α Unit :=
  Action.modify (fun b =>
    { b with
      graphics := { b.graphics with ctm := saved.ctm, active := saved.active }
      savedTransforms := rest })

/-- Moves the open object definition into the scene. -/
def closeObject (definition : ObjectDefinition α) : Build α Unit :=
  Action.modify (fun b =>
    { b with
      scene := { b.scene with objects := b.scene.objects.insert definition.name definition }
      openObject := none
      objectsDefined := b.objectsDefined + 1 })

end Builder

end SceneScript
