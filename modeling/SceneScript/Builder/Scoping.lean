import SceneScript.Builder.Basic

/-!
# Directives that open and close scopes

Attribute scopes save the whole graphics state, transform scopes the current transforms and active
slots, and object scopes the graphics state around the shapes of a definition. WorldEnd closes what
was left open, innermost first, and hands the scene over.
-/

set_option autoImplicit false

namespace SceneScript.Builder

variable {α : Type} [Scalar α]

/-! ## Attribute and transform scopes -/

/-- AttributeBegin: saves the graphics state. -/
def performAttributeBegin (loc : Location α) : Build α Unit :=
  Action.modify (fun b =>
    { b with
      savedGraphics := b.graphics :: b.savedGraphics
      openScopes := b.openScopes.push .attributes loc })

/-- AttributeEnd: restores the graphics state. -/
def performAttributeEnd (loc : Location α) : Build α Unit := do
  closeScope .attributes loc
  restoreGraphics loc

/-- TransformBegin: saves the current transforms and the active slots. -/
def performTransformBegin (loc : Location α) : Build α Unit :=
  Action.modify (fun b =>
    { b with
      savedTransforms := ⟨b.graphics.ctm, b.graphics.active⟩ :: b.savedTransforms
      openScopes := b.openScopes.push .transforms loc })

/-- TransformEnd: restores the current transforms and the active slots. -/
def performTransformEnd (loc : Location α) : Build α Unit := do
  closeScope .transforms loc
  let b ← Action.get
  match b.savedTransforms with
  | [] => failAt loc .noSavedTransforms
  | saved :: rest => putTransforms saved rest

/-- A parameter as it is handed down: it may stay unused, and its color space is settled. -/
def inheritable (colorSpace : ColorSpace) (p : Param α) : Param α :=
  { p with unusedAllowed := true, colorSpace := some colorSpace }

/-- Attribute: hands parameters down to later entities of a kind. -/
def performAttributes (loc : Location α) (target : String) (params : List (Param α)) :
    Build α Unit :=
  match EntityKind.ofName? target with
  | none => failAt loc (.unknownTarget target)
  | some kind =>
    modifyGraphics (fun g => g.handDown kind (params.map (inheritable g.colorSpace)))

/-! ## Objects -/

/-- The parameter by which the shapes of an object know its name. -/
def objectName (g : GraphicsState α) (name : String) (loc : Location α) : Param α :=
  inheritable g.colorSpace (.ofValues "string" "name" [.string name] loc)

/-- ObjectBegin: opens the definition of an object, whose name must be new. -/
def performObjectBegin (loc : Location α) (name : String) : Build α Unit := do
  let b ← Action.get
  match b.openObject with
  | some outer => failAt loc (.objectInsideObject outer.name)
  | none =>
    if b.scene.objects.contains name then failAt loc (.objectRedefined name)
    else
      Action.modify (fun b =>
        { b with
          savedGraphics := b.graphics :: b.savedGraphics
          openScopes := b.openScopes.push .object loc
          graphics := b.graphics.handDown .shape [objectName b.graphics name loc]
          openObject := some ⟨name, loc, [], []⟩ })

/-- ObjectEnd: closes the definition of an object. -/
def performObjectEnd (loc : Location α) : Build α Unit := do
  let b ← Action.get
  match b.openObject with
  | none => failAt loc .noOpenObject
  | some definition => do
    closeScope .object loc
    restoreGraphics loc
    closeObject definition

/-- The transforms that place an object defined in render space, given the current ones. -/
def renderFromInstance (b : Builder α) : TransformPair α :=
  b.renderFromObject.map (fun slot t => t.compose (b.renderFromWorld.inverse.get slot))

/-- Interns the transforms of a placement: at one time if the object stands still, else at both. -/
def internPlacement (setup : BuildSetup α) (moving : Bool) (pair : TransformPair α) :
    Build α (Placement α) := do
  if moving then
    let timed ← internPair setup pair
    return .moving timed
  else
    let handle ← intern setup pair.opening
    return .still handle

/-- ObjectInstance: places an object in the scene. -/
def performObjectInstance (setup : BuildSetup α) (loc : Location α) (name : String) :
    Build α Unit := do
  let b ← Action.get
  match b.openObject with
  | some outer => failAt loc (.instanceInsideObject outer.name)
  | none =>
    if !b.scene.objects.contains name then failAt loc (.objectUndefined name)
    else
      Action.modify (fun b => { b with instancesPlaced := b.instancesPlaced + 1 })
      let placement ← internPlacement setup b.graphics.ctm.moves b.renderFromInstance
      modifyScene (fun s => { s with instances := s.instances ++ [⟨name, loc, placement⟩] })

/-! ## The end of the world -/

/-- Closes one scope that was left open. -/
def closeForgotten (loc : Location α) (scope : Scope α) : Build α Unit := do
  warn loc ("Missing end to " ++ scope.kind.beginWord ++ " from " ++ scope.loc.text)
  match scope.kind with
  | .transforms => do
    let b ← Action.get
    match b.savedTransforms with
    | [] => pure ()
    | saved :: rest => putTransforms saved rest
  | .attributes | .object => restoreGraphics loc

/-- Closes all scopes that were left open, and the definition of an object among them. -/
def closeEverything (loc : Location α) : Build α Unit := do
  let b ← Action.get
  Action.modify (fun b => { b with openScopes := b.openScopes.closeAll.2 })
  Action.forEach (closeForgotten loc) b.openScopes.closeAll.1
  let b ← Action.get
  match b.openObject with
  | some definition => closeObject definition
  | none => pure ()

/-- Hands the finished scene to the renderer, then its statistics unless they are not wanted. -/
def handOver (setup : BuildSetup α) : Build α Unit := do
  let b ← Action.get
  match setup.renderer with
  | .absent => pure ()
  | .sceneOnly => Action.notify (.render b.scene)
  | .sceneAndStatistics => do
    Action.notify (.render b.scene)
    if b.scene.settings.quiet then pure () else Action.notify (.report b.statistics)

/-- WorldEnd: closes what is still open and hands the scene over. -/
def performWorldEnd (setup : BuildSetup α) (loc : Location α) : Build α Unit := do
  closeEverything loc
  handOver setup
  Action.modify (fun b => { b with phase := .finished })

end SceneScript.Builder
