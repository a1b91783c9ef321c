import SceneScript.Geometry.TransformPool
import SceneScript.GraphicsState
import SceneScript.Param.Dictionary
import SceneScript.Scene.Registry
import SceneScript.Settings

/-!
# Scenes

What a scene description amounts to: the entities that a renderer needs, each with its parameters.
Entities refer to one another by place in a list (materials, area lights) or by name (named
materials, media, textures, objects). Transforms are handles, and they lead to render space, which
is world space moved so that the camera stands at the origin.
-/

set_option autoImplicit false

namespace SceneScript

/-- A thing of the scene: its implementation's name, its parameters, and where it was declared. -/
structure Entity (α : Type) where
  name : String
  parameters : Dictionary α
  loc : Location α

/-- A medium. -/
structure Medium (α : Type) where
  entity : Entity α
  renderFromObject : TimedTransform α

/-- A texture, with the name by which the scene refers to it. -/
structure Texture (α : Type) where
  entity : Entity α
  sceneName : String
  renderFromObject : TimedTransform α

/-- A light, and the name of the medium around it. -/
structure Light (α : Type) where
  entity : Entity α
  renderFromObject : TimedTransform α
  medium : String

/-- The camera, and the name of the medium around it. -/
structure Camera (α : Type) where
  entity : Entity α
  renderFromCamera : TimedTransform α
  worldFromCamera : TimedTransform α
  medium : String

/-- What still and moving shapes have in common. -/
structure ShapeBase (α : Type) where
  entity : Entity α
  reversed : Bool
  material : MaterialReference
  /-- The place of the shape's light in the list of area lights. -/
  areaLight : Option Nat
  insideMedium : String
  outsideMedium : String

/-- A shape that stands still. -/
structure StillShape (α : Type) where
  base : ShapeBase α
  renderFromObject : Handle α
  objectFromRender : Handle α

/-- A shape that moves. -/
structure MovingShape (α : Type) where
  base : ShapeBase α
  renderFromObject : TimedTransform α
  identity : Handle α

/-- Shapes under a name, to be placed in the scene any number of times. -/
structure ObjectDefinition (α : Type) where
  name : String
  loc : Location α
  stillShapes : List (StillShape α)
  movingShapes : List (MovingShape α)

/-- Where an instance of an object stands: still, or moving. -/
inductive Placement (α : Type) where
  | still (renderFromInstance : Handle α)
  | moving (renderFromInstance : TimedTransform α)

/-- An object placed in the scene. -/
structure ObjectInstance (α : Type) where
  name : String
  loc : Location α
  placement : Placement α

/-- A whole scene. -/
structure Scene (α : Type) where
  settings : RenderSettings α
  camera : Option (Camera α)
  film : Entity α
  sampler : Option (Entity α)
  filter : Entity α
  integrator : Option (Entity α)
  accelerator : Option (Entity α)
  materials : List (Entity α)
  namedMaterials : Registry (Entity α)
  media : Registry (Medium α)
  floatTextures : List (Texture α)
  spectrumTextures : List (Texture α)
  lights : List (Light α)
  areaLights : List (Entity α)
  stillShapes : List (StillShape α)
  movingShapes : List (MovingShape α)
  objects : Registry (ObjectDefinition α)
  instances : List (ObjectInstance α)
  /-- Set once shapes may have a medium inside or outside. -/
  usesMedia : Bool

/-- Numbers about a scene and the work on it. -/
structure SceneStatistics where
  pool : PoolStatistics
  objectsDefined : Nat
  instancesPlaced : Nat
deriving DecidableEq, Repr

namespace Scene

variable {α : Type}

/-- An entity that no file declares. -/
def builtIn [Scalar α] (name : String) : Entity α :=
  ⟨name, .ofParams [] defaultColorSpace [], .unknown⟩

/-- The scene of an empty description. -/
def initial [Scalar α] (settings : RenderSettings α) : Scene α where
  settings
  camera := none
  film := builtIn defaultFilm
  sampler := none
  filter := builtIn defaultFilter
  integrator := none
  accelerator := none
  materials := [builtIn defaultMaterial]
  namedMaterials := .empty
  media := .empty
  floatTextures := []
  spectrumTextures := []
  lights := []
  areaLights := []
  stillShapes := []
  movingShapes := []
  objects := .empty
  instances := []
  usesMedia := false

/-- The textures of a kind. -/
def textures (s : Scene α) : TextureKind → List (Texture α)
  | .float => s.floatTextures
  | .spectrum => s.spectrumTextures

/-- The scene with one more texture of a kind. -/
def addTexture (s : Scene α) (t : Texture α) : TextureKind → Scene α
  | .float => { s with floatTextures := s.floatTextures ++ [t] }
  | .spectrum => { s with spectrumTextures := s.spectrumTextures ++ [t] }

/-- Adding a texture concerns the textures of its own kind only. -/
theorem textures_addTexture (s : Scene α) (t : Texture α) (kind other : TextureKind) :
    (s.addTexture t kind).textures other =
      if other = kind then s.textures kind ++ [t] else s.textures other := by
  cases kind <;> cases other <;> simp [addTexture, textures]

end Scene

end SceneScript
