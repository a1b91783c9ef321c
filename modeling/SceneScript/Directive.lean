import SceneScript.Geometry.TransformPair
import SceneScript.Param.Basic

/-!
# Directives

One directive of a scene description with its arguments. The builder and the writer give directives
two different meanings; both read the same type.
-/

set_option autoImplicit false

namespace SceneScript

/-- The words of an ActiveTransform directive. -/
inductive SlotWord where
  | all
  | endTime
  | startTime
deriving DecidableEq, Repr

namespace SlotWord

/-- The spelling of a word. -/
def name : SlotWord → String
  | all => "All"
  | endTime => "EndTime"
  | startTime => "StartTime"

/-- The slots that a word makes active. -/
def active : SlotWord → ActiveSlots
  | all => .all
  | endTime => .closingOnly
  | startTime => .openingOnly

end SlotWord

/-- A directive of a scene description. -/
inductive Directive (α : Type) where
  | option (name value : String)
  | identity
  | translate (d : Vec3 α)
  | scale (s : Vec3 α)
  | rotate (degrees : α) (axis : Vec3 α)
  | lookAt (eye look up : Vec3 α)
  /-- Sixteen numbers are wanted; a caller may hand over another number of them. -/
  | concatTransform (entries : List α)
  /-- Sixteen numbers are wanted; a caller may hand over another number of them. -/
  | transform (entries : List α)
  | coordinateSystem (name : String)
  | coordSysTransform (name : String)
  | activeTransform (slots : SlotWord)
  | transformTimes (opening closing : α)
  | colorSpace (name : String)
  | camera (name : String) (params : List (Param α))
  | film (name : String) (params : List (Param α))
  | sampler (name : String) (params : List (Param α))
  | pixelFilter (name : String) (params : List (Param α))
  | integrator (name : String) (params : List (Param α))
  | accelerator (name : String) (params : List (Param α))
  | worldBegin
  | worldEnd
  | attributeBegin
  | attributeEnd
  | transformBegin
  | transformEnd
  | attributes (target : String) (params : List (Param α))
  | texture (name kind implementation : String) (params : List (Param α))
  | material (name : String) (params : List (Param α))
  | makeNamedMaterial (name : String) (params : List (Param α))
  | namedMaterial (name : String)
  | makeNamedMedium (name : String) (params : List (Param α))
  | mediumInterface (inside outside : String)
  | lightSource (name : String) (params : List (Param α))
  | areaLightSource (name : String) (params : List (Param α))
  | shape (name : String) (params : List (Param α))
  | reverseOrientation
  | objectBegin (name : String)
  | objectEnd
  | objectInstance (name : String)

/-- The parts of a description in which a directive may stand. -/
inductive AllowedBlock where
  /-- Before or after WorldBegin. -/
  | anywhere
  /-- Before WorldBegin only. -/
  | options
  /-- After WorldBegin only. -/
  | world
deriving DecidableEq, Repr

namespace Directive

variable {α : Type}

/-- The word for a directive in messages; ActiveTransform is joined with its argument. -/
def label : Directive α → String
  | option _ _ => "Option"
  | identity => "Identity"
  | translate _ => "Translate"
  | scale _ => "Scale"
  | rotate _ _ => "Rotate"
  | lookAt _ _ _ => "LookAt"
  | concatTransform _ => "ConcatTransform"
  | transform _ => "Transform"
  | coordinateSystem _ => "CoordinateSystem"
  | coordSysTransform _ => "CoordSysTransform"
  | activeTransform slots => "ActiveTransform" ++ slots.name
  | transformTimes _ _ => "TransformTimes"
  | colorSpace _ => "ColorSpace"
  | camera _ _ => "Camera"
  | film _ _ => "Film"
  | sampler _ _ => "Sampler"
  | pixelFilter _ _ => "PixelFilter"
  | integrator _ _ => "Integrator"
  | accelerator _ _ => "Accelerator"
  | worldBegin => "WorldBegin"
  | worldEnd => "WorldEnd"
  | attributeBegin => "AttributeBegin"
  | attributeEnd => "AttributeEnd"
  | transformBegin => "TransformBegin"
  | transformEnd => "TransformEnd"
  | attributes _ _ => "Attribute"
  | texture _ _ _ _ => "Texture"
  | material _ _ => "Material"
  | makeNamedMaterial _ _ => "MakeNamedMaterial"
  | namedMaterial _ => "NamedMaterial"
  | makeNamedMedium _ _ => "MakeNamedMedium"
  | mediumInterface _ _ => "MediumInterface"
  | lightSource _ _ => "LightSource"
  | areaLightSource _ _ => "AreaLightSource"
  | shape _ _ => "Shape"
  | reverseOrientation => "ReverseOrientation"
  | objectBegin _ => "ObjectBegin"
  | objectEnd => "ObjectEnd"
  | objectInstance _ => "ObjectInstance"

/-- Where a directive may stand. Transforms, attributes and media may come in both blocks; what
concerns the whole image belongs before WorldBegin, and what makes up the world after it. -/
def allowedBlock : Directive α → AllowedBlock
  | option _ _ | identity | translate _ | scale _ | rotate _ _ | lookAt _ _ _ | concatTransform _
  | transform _ | coordinateSystem _ | coordSysTransform _ | activeTransform _ | colorSpace _
  | attributes _ _ | makeNamedMedium _ _ | mediumInterface _ _ => .anywhere
  | transformTimes _ _ | camera _ _ | film _ _ | sampler _ _ | pixelFilter _ _ | integrator _ _
  | accelerator _ _ | worldBegin => .options
  | worldEnd | attributeBegin | attributeEnd | transformBegin | transformEnd | texture _ _ _ _
  | material _ _ | makeNamedMaterial _ _ | namedMaterial _ | lightSource _ _
  | areaLightSource _ _ | shape _ _ | reverseOrientation | objectBegin _ | objectEnd
  | objectInstance _ => .world

end Directive

end SceneScript
