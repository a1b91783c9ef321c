import SceneScript.Upgrade.Image
import SceneScript.Upgrade.Light
import SceneScript.Upgrade.Material
import SceneScript.Upgrade.Shape
import SceneScript.Upgrade.Texture
import SceneScript.Writer.Basic

/-!
# The writer as a meaning of directives

`Writer.interpret` writes a directive, brought up to date first when the writer is upgrading. It
checks everything that can fail before it writes a directive's first chunk.
-/

set_option autoImplicit false

namespace SceneScript.Writer

variable {α : Type} [Scalar α]

/-- LookAt: one line for each vector. -/
def writeLookAt (eye look up : Vec3 α) : Write α Unit := do
  line ("LookAt " ++ vector eye)
  line ("    " ++ vector look)
  line ("    " ++ vector up)

/-- AttributeBegin: an empty line stands before it. -/
def writeAttributeBegin (loc : Location α) : Write α Unit := do
  let scopes ← Action.get
  write ("\n" ++ scopes.indent 0 ++ "AttributeBegin\n")
  openScope .attributes loc

/-- The Begin of a scope, at the depth around the scope. -/
def writeBegin (kind : ScopeKind) (text : String) (loc : Location α) : Write α Unit := do
  line text
  openScope kind loc

/-- The End of a scope, at the depth of its Begin. -/
def writeEnd (kind : ScopeKind) (loc : Location α) : Write α Unit := do
  closeScope kind loc
  line kind.endWord

/-- Reports a scope that was left open, at its Begin. -/
def reportForgotten (scope : Scope α) : Write α Unit :=
  Action.notify
    (.message ⟨.warning, "Missing end to " ++ scope.kind.beginWord, some scope.loc⟩)

/-- WorldEnd: closes what is still open. -/
def writeWorldEnd : Write α Unit := do
  line "WorldEnd"
  let scopes ← Action.get
  Action.modify (fun o => o.closeAll.2)
  Action.forEach reportForgotten scopes.closeAll.1

/-- Attribute: a single parameter stands on the same line. -/
def writeAttributes (target : String) (params : List (Param α)) : Write α Unit :=
  match params with
  | [p] => line ("Attribute " ++ quoted target ++ " " ++ p.text)
  | _ => plainEntity ("Attribute " ++ quoted target) params

/-- The line of a texture. -/
def textureHeader (name kind implementation : String) : String :=
  "Texture " ++ quoted name ++ " " ++ quoted kind ++ " " ++ quoted implementation

/-- Texture: when upgrading, a texture that scales another one has its operands put into the
present form first. -/
def writeTexture (upgrading : Bool) (name kind implementation : String)
    (params : List (Param α)) : Write α Unit :=
  if upgrading then do
    let params ←
      if implementation = "scale" then
        Action.ofExcept ((Upgrade.scaledTexture name kind params).mapError refusal)
      else pure params
    revisedEntity true (textureHeader name (Upgrade.textureKindName kind) implementation) params
      (Upgrade.texture implementation)
  else plainEntity (textureHeader name kind implementation) params

/-- The rule for a named material: its type is a parameter, which is put in front. -/
def namedMaterialRule (loc : Location α) : Rule α (List (Param α)) := do
  let type ← Rule.look (Dictionary.oneString "type" "")
  let upgraded ← Upgrade.material type loc
  Rule.remove "string" "type"
  return Rule.stringDefinition "type" upgraded.name :: upgraded.definitions

/-- Writes a directive, brought up to date first if `upgrading` is set. -/
def interpret (upgrading : Bool) (d : Directive α) (loc : Location α) : Write α Unit :=
  match d with
  | .option name value => line ("Option " ++ quoted name ++ " " ++ value)
  | .identity => line "Identity"
  | .translate v => line ("Translate " ++ vector v)
  | .scale v => line ("Scale " ++ vector v)
  | .rotate degrees axis =>
    line ("Rotate " ++ numbers [degrees, axis.x, axis.y, axis.z])
  | .lookAt eye look up => writeLookAt eye look up
  | .concatTransform entries => line ("ConcatTransform [ " ++ numbers entries ++ " ]")
  | .transform entries => line ("Transform [ " ++ numbers entries ++ " ]")
  | .coordinateSystem name => line ("CoordinateSystem " ++ quoted name)
  | .coordSysTransform name => line ("CoordSysTransform " ++ quoted name)
  | .activeTransform slots => line ("ActiveTransform " ++ slots.name)
  | .transformTimes opening closing => line ("TransformTimes " ++ numbers [opening, closing])
  | .colorSpace name => line ("ColorSpace " ++ quoted name)
  | .camera name params => renamedEntity upgrading "Camera" name params (Upgrade.camera name)
  | .film name params =>
    plainEntity ("Film " ++ quoted (if upgrading then Upgrade.filmName name else name)) params
  | .sampler name params =>
    plainEntity ("Sampler " ++ quoted (if upgrading then Upgrade.samplerName name else name))
      params
  | .pixelFilter name params =>
    revisedEntity upgrading ("PixelFilter " ++ quoted name) params (Upgrade.pixelFilter name)
  | .integrator name params =>
    renamedEntity upgrading "Integrator" name params (Upgrade.integrator name)
  | .accelerator name params => plainEntity ("Accelerator " ++ quoted name) params
  | .worldBegin => write "\n\nWorldBegin\n\n"
  | .worldEnd => writeWorldEnd
  | .attributeBegin => writeAttributeBegin loc
  | .attributeEnd => writeEnd .attributes loc
  | .transformBegin => writeBegin .transforms "TransformBegin" loc
  | .transformEnd => writeEnd .transforms loc
  | .attributes target params => writeAttributes target params
  | .texture name kind implementation params =>
    writeTexture upgrading name kind implementation params
  | .material name params =>
    renamedEntity upgrading "Material" name params (Upgrade.material name loc)
  | .makeNamedMaterial name params =>
    revisedEntity upgrading ("MakeNamedMaterial " ++ quoted name) params (namedMaterialRule loc)
  | .namedMaterial name => line ("NamedMaterial " ++ quoted name)
  | .makeNamedMedium name params => plainEntity ("MakeNamedMedium " ++ quoted name) params
  | .mediumInterface inside outside =>
    line ("MediumInterface " ++ quoted inside ++ " " ++ quoted outside)
  | .lightSource name params =>
    revisedEntity upgrading ("LightSource " ++ quoted name) params (Upgrade.light name loc)
  | .areaLightSource name params =>
    renamedEntity upgrading "AreaLightSource" name params (Upgrade.areaLight name loc)
  | .shape name params =>
    revisedEntity upgrading ("Shape " ++ quoted name) params (Upgrade.shape name)
  | .reverseOrientation => line "ReverseOrientation"
  | .objectBegin name => writeBegin .object ("ObjectBegin " ++ quoted name) loc
  | .objectEnd => writeEnd .object loc
  | .objectInstance name => line ("ObjectInstance " ++ quoted name)

end SceneScript.Writer
