import SceneScript.Builder.Basic

/-!
# Directives that add entities of the world

Textures, materials, media, lights and shapes. Every entity takes the color space in force and the
parameters handed down to its kind. A shape goes to the object whose definition is open, or else to
the scene; it moves exactly if the current transform does.
-/

set_option autoImplicit false

namespace SceneScript.Builder

variable {α : Type} [Scalar α]

/-! ## Textures, materials and media -/

/-- Texture: adds a texture, whose name must be new among those of its kind. -/
def performTexture (setup : BuildSetup α) (loc : Location α)
    (name kind implementation : String) (params : List (Param α)) : Build α Unit :=
  match TextureKind.ofName? kind with
  | none => failAt loc (.unknownTextureKind kind)
  | some kind => do
    let b ← Action.get
    if (b.scene.textures kind).any (·.sceneName == name) then
      failAt loc (.textureRedefined name)
    else
      let placed ← internPair setup b.renderFromObject
      modifyScene (·.addTexture
        { entity := b.worldEntity .texture implementation params loc
          sceneName := name
          renderFromObject := placed } kind)

/-- Material: adds a material and makes it the current one. -/
def performMaterial (loc : Location α) (name : String) (params : List (Param α)) :
    Build α Unit :=
  Action.modify (fun b =>
    { b with
      scene := { b.scene with
        materials := b.scene.materials ++ [b.worldEntity .material name params loc] }
      graphics := { b.graphics with material := .index b.scene.materials.length } })

/-- MakeNamedMaterial: adds a material under a name, which must be new. -/
def performMakeNamedMaterial (loc : Location α) (name : String) (params : List (Param α)) :
    Build α Unit := do
  let b ← Action.get
  if b.scene.namedMaterials.contains name then failAt loc (.materialRedefined name)
  else
    modifyScene (fun s => { s with
      namedMaterials :=
        s.namedMaterials.insert name (b.worldEntity .material name params loc) })

/-- MakeNamedMedium: adds a medium under a name, which must be new. Media are not meant to move, so
a moving current transform draws a warning; the transform is recorded for both times all the
same. -/
def performMakeNamedMedium (setup : BuildSetup α) (loc : Location α) (name : String)
    (params : List (Param α)) : Build α Unit := do
  let b ← Action.get
  if b.scene.media.contains name then failAt loc (.mediumRedefined name)
  else
    if b.graphics.ctm.moves then
      warn loc
        "Animated transformations set; ignoring for \"MakeNamedMedium\" and using the start transform only"
    let placed ← internPair setup b.renderFromObject
    modifyScene (fun s => { s with
      media := s.media.insert name ⟨b.worldEntity .medium name params loc, placed⟩ })

/-- MediumInterface: sets the media inside and outside of later shapes. -/
def performMediumInterface (inside outside : String) : Build α Unit := do
  modifyGraphics ({ · with insideMedium := inside, outsideMedium := outside })
  modifyScene ({ · with usesMedia := true })

/-! ## Lights -/

/-- LightSource: adds a light. -/
def performLightSource (setup : BuildSetup α) (loc : Location α) (name : String)
    (params : List (Param α)) : Build α Unit := do
  let b ← Action.get
  let placed ← internPair setup b.renderFromObject
  modifyScene (fun s => { s with
    lights := s.lights ++
      [⟨b.worldEntity .light name params loc, placed, b.graphics.outsideMedium⟩] })

/-- AreaLightSource: later shapes emit light, with what is in force now. -/
def performAreaLightSource (loc : Location α) (name : String) (params : List (Param α)) :
    Build α Unit :=
  modifyGraphics (fun g => { g with
    areaLight := some ⟨name, params, g.inherited.light, g.colorSpace, loc⟩ })

/-- The entity of an area light. -/
def areaLightEntity (light : AreaLight α) : Entity α :=
  ⟨light.name, .ofParams light.params light.colorSpace light.inherited, light.loc⟩

/-- Adds the area light in force to the scene for one more shape, and finishes with its place.
Shapes of objects emit no light. -/
def commitAreaLight (loc : Location α) : Build α (Option Nat) := do
  let b ← Action.get
  match b.graphics.areaLight with
  | none => return none
  | some light =>
    if b.openObject.isSome then
      warn loc "Area lights not supported with object instancing"
      return none
    else
      modifyScene (fun s => { s with areaLights := s.areaLights ++ [areaLightEntity light] })
      return some b.scene.areaLights.length

/-! ## Shapes -/

/-- Adds a still shape to the open object, or else to the scene. -/
def addStillShape (b : Builder α) (s : StillShape α) : Builder α :=
  match b.openObject with
  | some o => { b with openObject := some { o with stillShapes := o.stillShapes ++ [s] } }
  | none => { b with scene := { b.scene with stillShapes := b.scene.stillShapes ++ [s] } }

/-- Adds a moving shape to the open object, or else to the scene. -/
def addMovingShape (b : Builder α) (s : MovingShape α) : Builder α :=
  match b.openObject with
  | some o => { b with openObject := some { o with movingShapes := o.movingShapes ++ [s] } }
  | none => { b with scene := { b.scene with movingShapes := b.scene.movingShapes ++ [s] } }

/-- What a shape takes from the state, whether it moves or not. -/
def shapeBase (b : Builder α) (name : String) (params : List (Param α)) (loc : Location α)
    (areaLight : Option Nat) : ShapeBase α where
  entity := b.worldEntity .shape name params loc
  reversed := b.graphics.reversed
  material := b.graphics.material
  areaLight
  insideMedium := b.graphics.insideMedium
  outsideMedium := b.graphics.outsideMedium

/-- Shape: adds a shape. The transform back to its object is the inverse of the pooled transform,
so that shapes that share the one share the other. -/
def performShape (setup : BuildSetup α) (loc : Location α) (name : String)
    (params : List (Param α)) : Build α Unit := do
  let areaLight ← commitAreaLight loc
  let b ← Action.get
  let base := b.shapeBase name params loc areaLight
  if b.graphics.ctm.moves then
    let placed ← internPair setup b.renderFromObject
    let identity ← intern setup .identity
    Action.modify (·.addMovingShape ⟨base, placed, identity⟩)
  else
    let forward ← intern setup b.renderFromObject.opening
    let backward ← intern setup forward.transform.inverse
    Action.modify (·.addStillShape ⟨base, forward, backward⟩)

end SceneScript.Builder
