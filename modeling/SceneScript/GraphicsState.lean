import SceneScript.Geometry.TransformPair
import SceneScript.Param.Basic

/-!
# Graphics state

What a world directive inherits from the directives before it: the current transforms, material
and media, the area light in force, the color space, the orientation, and the parameters that
Attribute directives hand down to each kind of entity. The state is a value; saving it keeps the
value, and restoring it is going back to that value.
-/

set_option autoImplicit false

namespace SceneScript

/-- How a shape refers to its material: by place in the list of materials, or by name. A reference
may be made before it is known whether there is such a material, so any integer can be a place. -/
inductive MaterialReference where
  | index (place : Int)
  | named (name : String)
deriving DecidableEq, Repr

/-- An area light that later shapes emit, with all that was in force where it was declared. -/
structure AreaLight (α : Type) where
  name : String
  params : List (Param α)
  inherited : List (Param α)
  colorSpace : ColorSpace
  loc : Location α

/-- The parameters handed down to each kind of entity. -/
structure InheritedParams (α : Type) where
  shape : List (Param α)
  light : List (Param α)
  material : List (Param α)
  medium : List (Param α)
  texture : List (Param α)

namespace InheritedParams

variable {α : Type}

/-- Nothing is handed down. -/
def none : InheritedParams α := ⟨[], [], [], [], []⟩

/-- The parameters of one kind of entity. -/
def get (i : InheritedParams α) : EntityKind → List (Param α)
  | .shape => i.shape
  | .light => i.light
  | .material => i.material
  | .medium => i.medium
  | .texture => i.texture

/-- Adds parameters behind those of a kind of entity. -/
def append (i : InheritedParams α) (params : List (Param α)) : EntityKind → InheritedParams α
  | .shape => { i with shape := i.shape ++ params }
  | .light => { i with light := i.light ++ params }
  | .material => { i with material := i.material ++ params }
  | .medium => { i with medium := i.medium ++ params }
  | .texture => { i with texture := i.texture ++ params }

/-- Adding parameters concerns their own kind of entity only. -/
theorem get_append (i : InheritedParams α) (params : List (Param α)) (kind other : EntityKind) :
    (i.append params kind).get other =
      if other = kind then i.get kind ++ params else i.get other := by
  cases kind <;> cases other <;> simp [append, get]

end InheritedParams

/-- The state that world directives inherit. -/
structure GraphicsState (α : Type) where
  ctm : TransformPair α
  active : ActiveSlots
  insideMedium : String
  outsideMedium : String
  material : MaterialReference
  areaLight : Option (AreaLight α)
  colorSpace : ColorSpace
  reversed : Bool
  inherited : InheritedParams α

namespace GraphicsState

variable {α : Type}

/-- The state at the start of a scene. -/
def initial [Scalar α] : GraphicsState α where
  ctm := .identity
  active := .all
  insideMedium := ""
  outsideMedium := ""
  material := .index 0
  areaLight := none
  colorSpace := defaultColorSpace
  reversed := false
  inherited := .none

/-- Changes the current transforms of the active slots. -/
def transformActive (g : GraphicsState α) (f : Transform α → Transform α) : GraphicsState α :=
  { g with ctm := g.ctm.update g.active (fun _ => f) }

/-- Turns the orientation of later shapes around. -/
def reverse (g : GraphicsState α) : GraphicsState α :=
  { g with reversed := !g.reversed }

/-- Hands parameters down to later entities of a kind. -/
def handDown (g : GraphicsState α) (kind : EntityKind) (params : List (Param α)) :
    GraphicsState α :=
  { g with inherited := g.inherited.append params kind }

end GraphicsState

end SceneScript
