import SceneScript.Action
import SceneScript.Scene.Basic
import SceneScript.Scopes

/-!
# State of the scene builder

The builder turns directives into a scene. Its state holds the scene as far as it is built and all
that later directives depend on: the block of the description, the graphics state, three stacks for
the open scopes, the named coordinate systems, the pooled transforms, and the object definition
that is open.

While it works the builder gives notices: messages about the scene, and at the end the finished
scene and its statistics for the renderer.
-/

set_option autoImplicit false

namespace SceneScript

/-- How far the description has come. -/
inductive Phase where
  /-- Before WorldBegin. -/
  | options
  /-- Between WorldBegin and WorldEnd. -/
  | world
  /-- After WorldEnd. -/
  | finished
deriving DecidableEq, Repr

/-- What TransformBegin saves. -/
structure SavedTransforms (α : Type) where
  ctm : TransformPair α
  active : ActiveSlots

/-- The state of the builder. -/
structure Builder (α : Type) where
  phase : Phase
  graphics : GraphicsState α
  /-- What AttributeBegin and ObjectBegin saved, innermost first. -/
  savedGraphics : List (GraphicsState α)
  /-- What TransformBegin saved, innermost first. -/
  savedTransforms : List (SavedTransforms α)
  openScopes : OpenScopes α
  coordinateSystems : Registry (TransformPair α)
  pool : TransformPool α
  /-- The move from world space to render space. -/
  renderFromWorld : TransformPair α
  openingTime : α
  closingTime : α
  openObject : Option (ObjectDefinition α)
  objectsDefined : Nat
  instancesPlaced : Nat
  scene : Scene α

/-- What a renderer wants to hear at the end of a scene. -/
inductive Renderer where
  /-- No renderer waits for the scene. -/
  | absent
  /-- The renderer takes the scene only. -/
  | sceneOnly
  /-- The renderer takes the scene and its statistics. -/
  | sceneAndStatistics
deriving DecidableEq, Repr

/-- What is fixed for all the directives of a description. -/
structure BuildSetup (α : Type) where
  hashOf : TransformHash α
  renderer : Renderer

/-- What the builder gives notice of. -/
inductive BuildNotice (α : Type) where
  | message (m : Message α)
  /-- The scene is finished and goes to the renderer. -/
  | render (scene : Scene α)
  /-- The statistics of the finished scene. -/
  | report (statistics : SceneStatistics)

namespace Builder

variable {α : Type}

/-- The builder before the first directive. -/
def initial [Scalar α] (settings : RenderSettings α) : Builder α where
  phase := .options
  graphics := .initial
  savedGraphics := []
  savedTransforms := []
  openScopes := .none
  coordinateSystems := .empty
  pool := .empty
  renderFromWorld := .identity
  openingTime := 0
  closingTime := 1
  openObject := none
  objectsDefined := 0
  instancesPlaced := 0
  scene := .initial settings

/-- The statistics of the scene as far as it is built. -/
def statistics (b : Builder α) : SceneStatistics where
  pool := b.pool.statistics
  objectsDefined := b.objectsDefined
  instancesPlaced := b.instancesPlaced

/-- The current transforms from object space to render space. -/
def renderFromObject [Scalar α] (b : Builder α) : TransformPair α :=
  b.graphics.ctm.map (fun slot t => (b.renderFromWorld.get slot).compose t)

/-- An entity with its own parameters and those that it inherits. -/
def entityWith (b : Builder α) (name : String) (params : List (Param α)) (loc : Location α)
    (inherited : List (Param α)) : Entity α :=
  ⟨name, .ofParams params b.graphics.colorSpace inherited, loc⟩

/-- An entity of the world, which inherits the parameters handed down to its kind. -/
def worldEntity (b : Builder α) (kind : EntityKind) (name : String) (params : List (Param α))
    (loc : Location α) : Entity α :=
  b.entityWith name params loc (b.graphics.inherited.get kind)

end Builder

end SceneScript
