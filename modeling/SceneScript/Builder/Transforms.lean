import SceneScript.Builder.Basic

/-!
# Directives about transforms, color and the image

Transform directives change the current transforms of the active slots; coordinate systems keep
them under a name. The camera turns them around, fixes render space, and names the world as it
sees it.
-/

set_option autoImplicit false

namespace SceneScript.Builder

variable {α : Type} [Scalar α]

/-- Option: changes the render settings. -/
def performOption (loc : Location α) (name value : String) : Build α Unit := do
  let b ← Action.get
  match b.scene.settings.apply name value with
  | .error reason => failAt loc (.option reason)
  | .ok settings => modifyScene ({ · with settings })

/-- The transform of sixteen entries, or a failure that names the directive. -/
def transformOfEntries (loc : Location α) (directive : String) (entries : List α) :
    Build α (Transform α) :=
  match Transform.ofColumns entries with
  | .error e => failAt loc (.entryCount directive e.count)
  | .ok t => pure t

/-- ConcatTransform: composes with the transform of sixteen entries. -/
def performConcatTransform (loc : Location α) (entries : List α) : Build α Unit := do
  let t ← transformOfEntries loc "ConcatTransform" entries
  composeActive t

/-- Transform: takes the transform of sixteen entries. -/
def performTransform (loc : Location α) (entries : List α) : Build α Unit := do
  let t ← transformOfEntries loc "Transform" entries
  transformActive (fun _ => t)

/-- LookAt: composes with the view of a camera, which must not look along its up vector. -/
def performLookAt (loc : Location α) (eye look up : Vec3 α) : Build α Unit :=
  match Transform.lookAt? eye look up with
  | some t => composeActive t
  | none =>
    complain loc
      "\"up\" vector and viewing direction passed to LookAt are pointing in the same direction. Ignoring."

/-- CoordinateSystem: gives the current transforms a name. -/
def performCoordinateSystem (name : String) : Build α Unit :=
  Action.modify (fun b =>
    { b with coordinateSystems := b.coordinateSystems.insert name b.graphics.ctm })

/-- CoordSysTransform: takes the transforms that have a name. -/
def performCoordSysTransform (loc : Location α) (name : String) : Build α Unit := do
  let b ← Action.get
  match b.coordinateSystems.find? name with
  | some ctm => modifyGraphics ({ · with ctm })
  | none => warn loc ("Couldn't find named coordinate system \"" ++ name ++ "\"")

/-- ColorSpace: sets the color space of later entities. -/
def performColorSpace (loc : Location α) (name : String) : Build α Unit :=
  match ColorSpace.ofName? name with
  | some colorSpace => modifyGraphics ({ · with colorSpace })
  | none => complain loc (name ++ ": color space unknown")

/-- The move that puts a camera's position at the origin. -/
def originAtCamera (worldFromCamera : Transform α) : Transform α :=
  .translate (worldFromCamera.mapPoint ⟨0, 0, 0⟩).neg

/-- The transforms from a camera to render space, given those from the world to the camera and
from the world to render space. -/
def renderFromCamera (cameraFromWorld renderFromWorld : TransformPair α) : TransformPair α :=
  cameraFromWorld.map (fun slot t => (t.compose (renderFromWorld.get slot).inverse).inverse)

/-- Camera: the current transforms lead from the world to the camera. They fix render space, and
turned around they get the name "camera". -/
def performCamera (setup : BuildSetup α) (loc : Location α) (name : String)
    (params : List (Param α)) : Build α Unit := do
  let b ← Action.get
  let cameraFromWorld := b.graphics.ctm
  let worldFromCamera := cameraFromWorld.inverse
  let renderFromWorld := worldFromCamera.map (fun _ => originAtCamera)
  Action.modify (fun b =>
    { b with
      renderFromWorld
      coordinateSystems := b.coordinateSystems.insert "camera" worldFromCamera })
  let toRender ← internPair setup (renderFromCamera cameraFromWorld renderFromWorld)
  let toWorld ← internPair setup worldFromCamera
  modifyScene ({ · with
    camera := some
      { entity := b.entityWith name params loc []
        renderFromCamera := toRender
        worldFromCamera := toWorld
        medium := b.graphics.outsideMedium } })

/-- Film, sampler, filter, integrator and accelerator: puts one of the entities that belong to the
whole image. -/
def putEntity (loc : Location α) (name : String) (params : List (Param α))
    (put : Entity α → Scene α → Scene α) : Build α Unit :=
  Action.modify (fun b => { b with scene := put (b.entityWith name params loc []) b.scene })

/-- WorldBegin: the world starts with fresh transforms, which get the name "world". -/
def performWorldBegin : Build α Unit :=
  Action.modify (fun b =>
    { b with
      phase := .world
      graphics := { b.graphics with ctm := .identity, active := .all }
      coordinateSystems := b.coordinateSystems.insert "world" .identity })

end SceneScript.Builder
