/-!
# Fixed words of scene descriptions

The closed sets of names that directives accept, each as an enumeration with its spelling, and the
names of the entities that a scene has before any directive is read.
-/

set_option autoImplicit false

namespace SceneScript

/-- The color spaces in which color values may be given. -/
inductive ColorSpace where
  | srgb
  | dciP3
  | rec2020
  | aces
deriving DecidableEq, Repr

namespace ColorSpace

/-- The spelling of a color space. -/
def name : ColorSpace → String
  | srgb => "srgb"
  | dciP3 => "dci-p3"
  | rec2020 => "rec2020"
  | aces => "aces2065-1"

/-- All color spaces. -/
def all : List ColorSpace := [srgb, dciP3, rec2020, aces]

/-- The color space with a given spelling. -/
def ofName? (word : String) : Option ColorSpace :=
  all.find? (fun c => c.name == word)

end ColorSpace

/-- The kinds of entities for which an Attribute directive sets parameters. -/
inductive EntityKind where
  | shape
  | light
  | material
  | medium
  | texture
deriving DecidableEq, Repr

namespace EntityKind

/-- The spelling of a kind of entity. -/
def name : EntityKind → String
  | shape => "shape"
  | light => "light"
  | material => "material"
  | medium => "medium"
  | texture => "texture"

/-- All kinds of entities. -/
def all : List EntityKind := [shape, light, material, medium, texture]

/-- The kind of entity with a given spelling. -/
def ofName? (word : String) : Option EntityKind :=
  all.find? (fun k => k.name == word)

end EntityKind

/-- What a texture yields: a number, or a color. -/
inductive TextureKind where
  | float
  | spectrum
deriving DecidableEq, Repr

namespace TextureKind

/-- The spelling of a kind of texture. -/
def name : TextureKind → String
  | float => "float"
  | spectrum => "spectrum"

/-- All kinds of textures. -/
def all : List TextureKind := [float, spectrum]

/-- The kind of texture with a given spelling. -/
def ofName? (word : String) : Option TextureKind :=
  all.find? (fun k => k.name == word)

end TextureKind

/-- The color space of a scene that names none. -/
def defaultColorSpace : ColorSpace := .srgb

/-- The material of shapes for which none was set. -/
def defaultMaterial : String := "diffuse"

/-- The film of a scene that names none. -/
def defaultFilm : String := "rgb"

/-- The pixel filter of a scene that names none. -/
def defaultFilter : String := "gaussian"

/-- Blanks by which each open scope indents the text inside it. -/
def indentWidth : Nat := 4

end SceneScript
